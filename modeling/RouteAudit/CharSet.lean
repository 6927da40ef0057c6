import RouteAudit.Text.Numeral
import RouteAudit.Text.Split

/-!
# Sets of characters

A set of characters is a list of ranges of code points, ascending, disjoint and with gaps
between them.  Sets are united, intersected and complemented, and standard tables of
ranges are read from text.
-/

namespace RouteAudit

/-- The first and the last code point of a range. -/
abbrev CodeRange := Nat × Nat

structure CharSet where
  ranges : List CodeRange
  deriving DecidableEq, Repr

namespace CharSet

def has (s : CharSet) (n : Nat) : Bool :=
  s.ranges.any fun (first, last) => first ≤ n && n ≤ last

def contains (s : CharSet) (c : Char) : Bool := s.has c.toNat

/-!
# Building

Ranges given in any order are sorted, and those that touch are joined.
-/

def joinInto : CodeRange → List CodeRange → List CodeRange
  | r, [] => [r]
  | (first, last), (a, b) :: rest =>
      if a ≤ last + 1 then joinInto (first, max last b) rest
      else (first, last) :: joinInto (a, b) rest

def ofRanges (ranges : List CodeRange) : CharSet :=
  match ranges.mergeSort fun r s => r.1 ≤ s.1 with
  | [] => ⟨[]⟩
  | r :: rest => ⟨joinInto r rest⟩

def empty : CharSet := ⟨[]⟩

def single (c : Char) : CharSet := ⟨[(c.toNat, c.toNat)]⟩

def ofChars (cs : List Char) : CharSet :=
  ofRanges (cs.map fun c => (c.toNat, c.toNat))

/-!
# Operations
-/

def lastCode : Nat := 0x10FFFF

/-- What lies between the ranges, from `start` on. -/
def gaps : Nat → List CodeRange → List CodeRange
  | start, [] => if start ≤ lastCode then [(start, lastCode)] else []
  | start, (a, b) :: rest =>
      if start < a then (start, a - 1) :: gaps (b + 1) rest else gaps (b + 1) rest

def complement (s : CharSet) : CharSet := ⟨gaps 0 s.ranges⟩

def union (s t : CharSet) : CharSet := ofRanges (s.ranges ++ t.ranges)

def unions (sets : List CharSet) : CharSet := ofRanges (sets.flatMap ranges)

def inter (s t : CharSet) : CharSet := (s.complement.union t.complement).complement

def difference (s t : CharSet) : CharSet := s.inter t.complement

def symmetricDifference (s t : CharSet) : CharSet :=
  (s.union t).difference (s.inter t)

/-!
# Tables

A table of ranges is a text of hexadecimal code points and ranges `first-last` with blanks
between them.
-/

def words (text : String) : List (List Char) :=
  ((Text.pieces ' ' (text.toList.map fun c => if c = '\n' then ' ' else c))).filter (· ≠ [])

def codeRange? (word : List Char) : Option CodeRange :=
  match Text.cut '-' word with
  | none => (Numeral.read? 16 lastCode word).map fun n => (n, n)
  | some (first, last) => do
      let a ← Numeral.read? 16 lastCode first
      let b ← Numeral.read? 16 lastCode last
      return (a, b)

def ofTable (text : String) : CharSet :=
  ofRanges ((words text).filterMap codeRange?)

end CharSet
end RouteAudit
