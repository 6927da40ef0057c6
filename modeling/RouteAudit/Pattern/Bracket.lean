import RouteAudit.Pattern.Escape

/-!
# Sets in brackets

A set in brackets lists characters, ranges, named sets and further sets in brackets, may
be negated, and may combine such lists by intersection and differences, from left to right.
The number of levels it nests is counted.
-/

namespace RouteAudit
namespace Pattern

inductive SetOperation where
  | intersection
  | difference
  | symmetricDifference
  deriving DecidableEq, Repr

def SetOperation.apply : SetOperation → CharSet → CharSet → CharSet
  | .intersection => CharSet.inter
  | .difference => CharSet.difference
  | .symmetricDifference => CharSet.symmetricDifference

/-- A set with the number of levels its text nests. -/
structure NestedSet where
  set : CharSet
  nesting : Nat

/-- The items listed so far: their union, their number and the deepest nesting. -/
structure Listed where
  set : CharSet := .empty
  count : Nat := 0
  deepest : Nat := 0

namespace Listed

def push (l : Listed) (s : NestedSet) : Listed :=
  ⟨l.set.union s.set, l.count + 1, max l.deepest s.nesting⟩

def nested (l : Listed) : NestedSet :=
  ⟨l.set, if l.count ≤ 1 then l.deepest else l.deepest + 1⟩

end Listed

/-- The left side of an operation whose right side is being read. -/
abbrev Pending := Option (SetOperation × NestedSet)

def Pending.close (p : Pending) (f : Flags) (right : NestedSet) : NestedSet :=
  match p with
  | none => right
  | some (operation, left) =>
      ⟨operation.apply (f.fold left.set) (f.fold right.set), 1 + max left.nesting right.nesting⟩

namespace Reader

/-!
# Classes by name
-/

def asciiClass? (name : List Char) : Option CharSet :=
  match String.ofList name with
  | "alnum" => some ⟨[(0x30, 0x39), (0x41, 0x5A), (0x61, 0x7A)]⟩
  | "alpha" => some ⟨[(0x41, 0x5A), (0x61, 0x7A)]⟩
  | "ascii" => some ⟨[(0, 0x7F)]⟩
  | "blank" => some ⟨[(9, 9), (0x20, 0x20)]⟩
  | "cntrl" => some ⟨[(0, 0x1F), (0x7F, 0x7F)]⟩
  | "digit" => some asciiDigits
  | "graph" => some ⟨[(0x21, 0x7E)]⟩
  | "lower" => some ⟨[(0x61, 0x7A)]⟩
  | "print" => some ⟨[(0x20, 0x7E)]⟩
  | "punct" => some ⟨[(0x21, 0x2F), (0x3A, 0x40), (0x5B, 0x60), (0x7B, 0x7E)]⟩
  | "space" => some asciiSpaces
  | "upper" => some ⟨[(0x41, 0x5A)]⟩
  | "word" => some asciiWords
  | "xdigit" => some ⟨[(0x30, 0x39), (0x41, 0x46), (0x61, 0x66)]⟩
  | _ => none

/-- A class such as `[:alpha:]` at the start of a text: its set, whether it is negated, and
the rest. -/
def leadingClass? (text : List Char) : Option (CharSet × Bool × List Char) := do
  let text ← Text.after? ['[', ':'] text
  let (negated, text) := match text with
    | '^' :: text => (true, text)
    | text => (false, text)
  let s ← asciiClass? (text.takeWhile (· ≠ ':'))
  let after ← Text.after? [':', ']'] (text.dropWhile (· ≠ ':'))
  return (s, negated, after)

/-!
# Items and ranges
-/

def setItem : Reader Atom := do
  let c ← char
  if c = '\\' then
    escape
  else
    bump
    return .literal c false

/-- Without Unicode only ASCII characters may be listed. -/
def listedChar : Atom → Reader Char
  | .literal c _ => do
      if (← flags).unicode || c.toNat < 128 then return c else fail
  | _ => fail

def listedSet : Atom → Reader CharSet
  | .set s => return s
  | atom => do return .single (← listedChar atom)

def itemOrRange : Reader CharSet := do
  let first ← setItem
  skip
  let c ← char
  let next ← peek
  if c ≠ '-' ∨ next = some ']' ∨ next = some '-' then
    listedSet first
  else
    bumpSkip
    let a ← listedChar first
    let b ← listedChar (← setItem)
    if a ≤ b then return ⟨[(a.toNat, b.toNat)]⟩ else fail

/-- The operation whose sign starts a text. -/
def operationAt? : List Char → Option SetOperation
  | '&' :: '&' :: _ => some .intersection
  | '-' :: '-' :: _ => some .difference
  | '~' :: '~' :: _ => some .symmetricDifference
  | _ => none

/-- Hyphens at the start of a set stand for themselves. -/
def leadingHyphens : Nat → Listed → Reader Listed
  | 0, l => return l
  | fuel + 1, l => do
      if ← isAt '-' then
        bumpSkip
        let _ ← char
        leadingHyphens fuel (l.push ⟨.single '-', 0⟩)
      else
        return l

/-- Reads the bracket at the cursor and what may only follow it: the sign of negation,
hyphens, and a closing bracket that stands for itself. -/
def openSet : Reader (Bool × Listed) := do
  bumpSkip
  let negated := (← char) == '^'
  if negated then bumpSkip
  let _ ← char
  let listed ← leadingHyphens (← rest).length {}
  if listed.count = 0 && (← isAt ']') then
    bumpSkip
    let _ ← char
    return (negated, listed.push ⟨.single ']', 0⟩)
  else
    return (negated, listed)

/-!
# The whole set
-/

mutual

def bracket : Nat → Reader NestedSet
  | 0 => fail
  | fuel + 1 => do
      let (negated, listed) ← openSet
      let s ← bracketItems fuel none listed
      let set ← ofOption ((← flags).foldAndNegate? negated s.set)
      return ⟨set, s.nesting + 1⟩

def bracketItems : Nat → Pending → Listed → Reader NestedSet
  | 0, _, _ => fail
  | fuel + 1, pending, listed => do
      skip
      let c ← char
      let f ← flags
      if c = '[' then
        match leadingClass? (← rest) with
        | some (s, negated, after) =>
            setText after
            let s ← ofOption (f.foldAndNegate? negated s)
            bracketItems fuel pending (listed.push ⟨s, 0⟩)
        | none =>
            let s ← bracket fuel
            bracketItems fuel pending (listed.push s)
      else if c = ']' then
        bump
        return pending.close f listed.nested
      else
        match operationAt? (← rest) with
        | some operation =>
            bump
            bump
            bracketItems fuel (some (operation, pending.close f listed.nested)) {}
        | none =>
            let s ← itemOrRange
            bracketItems fuel pending (listed.push ⟨s, 0⟩)

end

end Reader
end Pattern
end RouteAudit
