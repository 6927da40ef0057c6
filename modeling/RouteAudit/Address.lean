import RouteAudit.Text.Split
import RouteAudit.Text.Numeral

/-!
# Network addresses

An address is a version 4 address of four octets or a version 6 address of eight
groups.  This module says how the two are read and written.  The written form is the
canonical one: lower-case digits without leading zeros, the longest run of at least two
zero groups shortened to `::`, and a dotted quad exactly where a version 6 address maps
a version 4 address.
-/

namespace RouteAudit

inductive Address where
  | v4 (octets : Vector UInt8 4)
  | v6 (groups : Vector UInt16 8)
  deriving DecidableEq, Repr

namespace Address

/-- The number of bits, which is the prefix length of a single host. -/
def width : Address → Nat
  | .v4 _ => 32
  | .v6 _ => 128

def isUnspecified : Address → Bool
  | .v4 octets => octets.toList.all (· == 0)
  | .v6 groups => groups.toList.all (· == 0)

/-- Link-local addresses, `169.254.0.0/16` and `fe80::/10`, never reach the hardware. -/
def isLinkLocal : Address → Bool
  | .v4 octets => octets[0] == 169 && octets[1] == 254
  | .v6 groups => groups[0] &&& 0xffc0 == 0xfe80

/-!
# Reading

An octet has one to three decimal digits and no leading zero.  A group has one to four
hexadecimal digits.  A version 6 address may end in a dotted quad, which stands for two
groups, and one `::` stands for at least one zero group.
-/

def octet? (text : List Char) : Option UInt8 :=
  if text.length ≤ 3 ∧ (text.head? ≠ some '0' ∨ text.length = 1) ∧ text.head? ≠ some '+' then
    (Numeral.read? 10 255 text).map UInt8.ofNat
  else
    none

def quad? (text : List Char) : Option (Vector UInt8 4) := do
  let octets ← (Text.pieces '.' text).mapM octet?
  if h : octets.toArray.size = 4 then some ⟨octets.toArray, h⟩ else none

def group? (text : List Char) : Option UInt16 :=
  if text.length ≤ 4 ∧ text.head? ≠ some '+' then
    (Numeral.read? 16 65535 text).map UInt16.ofNat
  else
    none

/-- The two groups that a dotted quad stands for. -/
def quadGroups (octets : Vector UInt8 4) : List UInt16 :=
  [octets[0].toUInt16 <<< 8 ||| octets[1].toUInt16,
    octets[2].toUInt16 <<< 8 ||| octets[3].toUInt16]

/-- Reads colon-separated groups, of which the last may be a dotted quad. -/
def groups? : List (List Char) → Option (List UInt16)
  | [] => some []
  | [last] =>
      match quad? last with
      | some octets => some (quadGroups octets)
      | none => (group? last).map ([·])
  | piece :: more => do
      let g ← group? piece
      let gs ← groups? more
      return g :: gs

/-- Cuts a text at its first `::`. -/
def gap? : List Char → Option (List Char × List Char)
  | [] => none
  | ':' :: ':' :: rest => some ([], rest)
  | c :: rest => (gap? rest).map fun (before, after) => (c :: before, after)

/-- The groups of one side of a `::`; an empty side has none. -/
def side? (text : List Char) : Option (List UInt16) :=
  if text = [] then some [] else groups? (Text.pieces ':' text)

def ofGroups? (gs : List UInt16) : Option Address :=
  if h : gs.toArray.size = 8 then some (.v6 ⟨gs.toArray, h⟩) else none

def hextets? (text : List Char) : Option Address :=
  match gap? text with
  | none => do
      let gs ← groups? (Text.pieces ':' text)
      ofGroups? gs
  | some (before, after) => do
      let front ← if '.' ∈ before then none else side? before
      let back ← side? after
      if front.length + back.length ≤ 7 then
        ofGroups? (front ++ List.replicate (8 - front.length - back.length) 0 ++ back)
      else
        none

def ofChars? (text : List Char) : Option Address :=
  match quad? text with
  | some octets => some (.v4 octets)
  | none => hextets? text

def parse? (text : String) : Option Address :=
  ofChars? text.toList

/-!
# Writing
-/

def quadChars (octets : Vector UInt8 4) : List Char :=
  Text.join '.' (octets.toList.map fun o => Numeral.digits 10 o.toNat)

def groupChars (gs : List UInt16) : List Char :=
  Text.join ':' (gs.map fun g => Numeral.digits 16 g.toNat)

/-- The number of zero groups at the start of a list. -/
def leadingZeros (gs : List UInt16) : Nat :=
  (gs.takeWhile (· == 0)).length

/-- Start and length of the longest run of zero groups, the first of several. -/
def longestRun : List UInt16 → Nat × Nat
  | [] => (0, 0)
  | g :: gs =>
      let (start, length) := longestRun gs
      let here := leadingZeros (g :: gs)
      if length ≤ here then (0, here) else (start + 1, length)

/-- The version 4 address that a version 6 address maps, if it maps one. -/
def mapped? (groups : Vector UInt16 8) : Option (Vector UInt8 4) :=
  if groups.toList.take 5 = [0, 0, 0, 0, 0] ∧ groups[5] = 0xffff then
    some #v[(groups[6] >>> 8).toUInt8, groups[6].toUInt8,
      (groups[7] >>> 8).toUInt8, groups[7].toUInt8]
  else
    none

def hextetChars (groups : Vector UInt16 8) : List Char :=
  match mapped? groups with
  | some octets => "::ffff:".toList ++ quadChars octets
  | none =>
      let gs := groups.toList
      let (start, length) := longestRun gs
      if 1 < length then
        groupChars (gs.take start) ++ ':' :: ':' :: groupChars (gs.drop (start + length))
      else
        groupChars gs

def chars : Address → List Char
  | .v4 octets => quadChars octets
  | .v6 groups => hextetChars groups

def text (a : Address) : String :=
  String.ofList a.chars

end Address
end RouteAudit
