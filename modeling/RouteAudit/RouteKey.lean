import RouteAudit.Address
import RouteAudit.Ascending
import RouteAudit.Failure

/-!
# Route keys

A route key is a destination: an address and a prefix length.  All tables are compared
by their keys, so a key has one written form, `address/length`, and keys are ordered by
it.
-/

namespace RouteAudit

structure RouteKey where
  address : Address
  length : Nat
  fits : length ≤ address.width
  deriving DecidableEq, Repr

namespace RouteKey

def host (a : Address) : RouteKey := ⟨a, a.width, Nat.le_refl _⟩

def chars (k : RouteKey) : List Char :=
  k.address.chars ++ '/' :: Numeral.digits 10 k.length

def text (k : RouteKey) : String :=
  String.ofList k.chars

def isHost (k : RouteKey) : Bool := k.length == k.address.width

def isDefaultRoute (k : RouteKey) : Bool := k.length == 0 && k.address.isUnspecified

def isLinkLocal (k : RouteKey) : Bool := k.address.isLinkLocal

/-!
# Reading

Blanks around a key are dropped.  The length is a number of at most the address's
width; without one the key is a host.
-/

def ofParts? (a : Address) (length : Nat) : Option RouteKey :=
  if h : length ≤ a.width then some ⟨a, length, h⟩ else none

def ofChars? (text : List Char) : Option RouteKey :=
  let text := Text.trim text
  match Text.cut '/' text with
  | none => (Address.ofChars? text).map host
  | some (address, length) => do
      let a ← Address.ofChars? address
      let n ← Numeral.read? 10 255 length
      ofParts? a n

def parse? (text : String) : Option RouteKey :=
  ofChars? text.toList

def parse (text : String) : Attempt RouteKey :=
  match parse? text with
  | some k => .ok k
  | none => .error (.invalidKey text)

/-!
# Order
-/

instance : LT RouteKey := ⟨fun a b => a.text < b.text⟩

instance : DecidableLT RouteKey := fun a b => inferInstanceAs (Decidable (a.text < b.text))

instance : Ord RouteKey := ⟨fun a b => compare a.text b.text⟩

/-- Sorts keys by their text and keeps repeats. -/
def sort (keys : List RouteKey) : List RouteKey :=
  ((keys.map fun k => (k.text, k)).mergeSort fun a b => a.1 ≤ b.1).map Prod.snd

end RouteKey

/-- A set of keys, in ascending order of their texts. -/
abbrev KeySet := Ascending RouteKey RouteKey.text

namespace KeySet

def contains (s : KeySet) (k : RouteKey) : Bool :=
  s.items.contains k

end KeySet
end RouteAudit
