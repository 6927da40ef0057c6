import RouteAudit.Text.Split
import RouteAudit.Text.Numeral

/-!
# Hardware addresses

A hardware address is six bytes, written in hexadecimal with colons between them.  The
all-zero address marks a neighbor that is reachable only over the standby tunnel.
-/

namespace RouteAudit

structure Mac where
  bytes : Vector UInt8 6
  deriving DecidableEq, Repr

namespace Mac

def byte? (text : List Char) : Option UInt8 :=
  (Numeral.read? 16 255 text).map UInt8.ofNat

def ofChars? (text : List Char) : Option Mac := do
  let bytes ← (Text.pieces ':' text).mapM byte?
  if h : bytes.toArray.size = 6 then some ⟨bytes.toArray, h⟩ else none

def parse? (text : String) : Option Mac :=
  ofChars? text.toList

def isZero (m : Mac) : Bool := m.bytes.toList.all (· == 0)

def chars (m : Mac) : List Char :=
  Text.join ':' (m.bytes.toList.map fun b => Numeral.padded 16 2 b.toNat)

def text (m : Mac) : String :=
  String.ofList m.chars

end Mac
end RouteAudit
