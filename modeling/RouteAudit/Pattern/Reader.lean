import RouteAudit.Pattern.Bracket

/-!
# Reading patterns

A pattern is a choice of sequences of repeated items.  It is read in one pass: a group is
read by the same function as the whole, up to the parenthesis that closes it.
-/

namespace RouteAudit
namespace Pattern

/-- A part of a pattern with the number of levels its text nests.  A setting of flags is a
part that cannot be repeated. -/
structure Piece where
  expr : Expr
  nesting : Nat
  repeatable : Bool

namespace Piece

def item (expr : Expr) (nesting : Nat) : Piece := ⟨expr, nesting, true⟩

def setting : Piece := ⟨.empty, 0, false⟩

def deepest (pieces : List Piece) : Nat :=
  (pieces.map nesting).foldl max 0

/-- The sequence of pieces that were gathered last first. -/
def sequence : List Piece → Piece
  | [] => item .empty 0
  | [p] => p
  | last :: pieces =>
      item (pieces.foldl (fun e p => .seq p.expr e) last.expr)
        (deepest (last :: pieces) + 1)

/-- The choice between sequences that were gathered last first. -/
def choice : List Piece → Piece
  | [] => item .empty 0
  | [p] => p
  | last :: pieces =>
      item (pieces.foldl (fun e p => .choice p.expr e) last.expr)
        (deepest (last :: pieces) + 1)

end Piece

namespace Reader

/-!
# Flags
-/

/-- Reads flag letters up to a colon or a closing parenthesis.  No letter and no hyphen
stands twice, and a hyphen is followed by a letter. -/
def flagLetters : Nat → List Char → Bool → Flags → Reader (List Char × Flags)
  | 0, _, _, _ => fail
  | fuel + 1, seen, value, f => do
      let c ← char
      if c = ':' ∨ c = ')' then
        if seen.head? = some '-' then fail else return (seen, f)
      else if c ∈ seen then
        fail
      else if c = '-' then
        bump
        flagLetters fuel (c :: seen) false f
      else
        let f ← ofOption (f.set? c value)
        bump
        flagLetters fuel (c :: seen) value f

/-!
# Groups
-/

/-- What an opening parenthesis starts: a setting for the rest of the group it stands in,
or a group of its own. -/
inductive Opening where
  | setting (f : Flags)
  | group (f : Flags)

def isNameChar (first : Bool) (c : Char) : Bool :=
  if first then c == '_' || Unicode.letterSet.contains c
  else c == '_' || c == '.' || c == '[' || c == ']' || Unicode.letterOrNumberSet.contains c

/-- Reads the name of a group, which no other group has. -/
def groupName : Reader Unit := do
  let text ← rest
  let name := text.takeWhile (· ≠ '>')
  let after := text.dropWhile (· ≠ '>')
  if after = [] ∨ name = [] then
    fail
  else if !(name.take 1).all (isNameChar true) || !(name.drop 1).all (isNameChar false) then
    fail
  else if (← get).names.contains name then
    fail
  else
    modify fun c => { c with text := after.tail, names := name :: c.names }

def looksAround (text : List Char) : Bool :=
  [['?', '='], ['?', '!'], ['?', '<', '='], ['?', '<', '!']].any fun sign => sign.isPrefixOf text

def opening : Reader Opening := do
  bump
  skip
  let text ← rest
  let f ← flags
  if looksAround text then
    fail
  else
    match (Text.after? "?P<".toList text).or (Text.after? "?<".toList text) with
    | some text =>
        setText text
        groupName
        return .group f
    | none =>
        if ← isAt '?' then
          bump
          let (seen, f) ← flagLetters ((← rest).length + 1) [] true f
          let c ← char
          bump
          if c = ':' then return .group f
          else if seen = [] then fail
          else return .setting f
        else
          return .group f

/-!
# Repetitions
-/

def countLimit : Nat := Numeral.twoTo 32 - 1

def digitsHere : Nat → Reader (List Char)
  | 0 => fail
  | fuel + 1 => do
      match (← rest).head? with
      | some c =>
          if c.isDigit then
            bumpSkip
            return c :: (← digitsHere fuel)
          else
            return []
      | none => return []

/-- Reads a count; without digits there is none. -/
def count : Reader (Option Nat) := do
  setText ((← rest).dropWhile Text.isBlank)
  let ds ← digitsHere ((← rest).length + 1)
  setText ((← rest).dropWhile Text.isBlank)
  skip
  if ds = [] then return none
  else return some (← ofOption (Numeral.read? 10 countLimit ds))

/-- The bounds of a repetition in braces. -/
def bounds : Reader (Nat × Option Nat) := do
  bumpSkip
  let least ← count
  if ← isAt ',' then
    bumpSkip
    let c ← char
    let least ← ofOption least
    if c = '}' then
      return (least, none)
    else
      return (least, some (← ofOption (← count)))
  else
    let n ← ofOption least
    return (n, some n)

def counted (p : Piece) : Reader Piece := do
  let (least, most) ← bounds
  if ← isAt '}' then
    bumpSkip
    if ← isAt '?' then bump
    if most.any (· < least) then fail
    else return .item (.loop p.expr least most) (p.nesting + 1)
  else
    fail

def uncounted (p : Piece) (least : Nat) (most : Option Nat) : Reader Piece := do
  bump
  if ← isAt '?' then bump
  return .item (.loop p.expr least most) (p.nesting + 1)

def repetition (p : Piece) (sign : Char) : Reader Piece :=
  match sign with
  | '?' => uncounted p 0 (some 1)
  | '*' => uncounted p 0 none
  | '+' => uncounted p 1 none
  | _ => counted p

/-!
# Single characters
-/

/-- Any character but those that end lines. -/
def dot (f : Flags) : CharSet :=
  if f.dotAll then CharSet.empty.complement
  else if f.eitherEnd then (CharSet.ofChars ['\n', '\r']).complement
  else (CharSet.single '\n').complement

def lineStart (f : Flags) : Condition :=
  if !f.multiLine then .start else if f.eitherEnd then .lineStartEither else .lineStart

def lineFinish (f : Flags) : Condition :=
  if !f.multiLine then .finish else if f.eitherEnd then .lineFinishEither else .lineFinish

def condition (c : Condition) : Reader Expr := do
  match c with
  | .start | .finish | .lineStart | .lineFinish | .lineStartEither | .lineFinishEither =>
      return .place c .empty
  | _ => return .place c (wordsOf (← flags))

def atomExpr : Atom → Reader Expr
  | .literal c octet => do
      let f ← flags
      if octet && !f.unicode && 128 ≤ c.toNat then fail
      else return .one (f.fold (.single c))
  | .set s => return .one s
  | .place c => condition c

def primitive (c : Char) : Reader Expr := do
  let f ← flags
  match c with
  | '\\' => atomExpr (← escape)
  | '.' => do
      bump
      if f.unicode then return .one (dot f) else fail
  | '^' => do
      bump
      condition (lineStart f)
  | '$' => do
      bump
      condition (lineFinish f)
  | _ => do
      bump
      atomExpr (.literal c false)

/-!
# The whole pattern

`body` reads up to the end of the text or to a closing parenthesis, which it leaves.  The
sequences that are complete and the pieces of the one being read are kept last first.
-/

def body : Nat → List Piece → List Piece → Reader Piece
  | 0, _, _ => fail
  | fuel + 1, sequences, pieces => do
      skip
      match (← rest).head? with
      | none | some ')' => return .choice (.sequence pieces :: sequences)
      | some '|' => do
          bump
          body fuel (.sequence pieces :: sequences) []
      | some '(' => do
          let outer ← flags
          match ← opening with
          | .setting f =>
              setFlags f
              body fuel sequences (.setting :: pieces)
          | .group f =>
              setFlags f
              let inner ← body fuel [] []
              if ← isAt ')' then
                bump
                setFlags outer
                body fuel sequences (.item inner.expr (inner.nesting + 1) :: pieces)
              else
                fail
      | some '[' => do
          let s ← bracket (2 * (← rest).length + 1)
          body fuel sequences (.item (.one s.set) s.nesting :: pieces)
      | some c =>
          if c ∈ ['?', '*', '+', '{'] then
            match pieces with
            | p :: pieces => do
                if p.repeatable then
                  body fuel sequences ((← repetition p c) :: pieces)
                else
                  fail
            | [] => fail
          else do
            let e ← primitive c
            body fuel sequences (.item e 0 :: pieces)

end Reader

def nestingLimit : Nat := 250

def parse? (text : List Char) : Option Expr := do
  let (p, c) ← (Reader.body (text.length + 1) [] []).run ⟨text, {}, []⟩
  if c.text = [] ∧ p.nesting ≤ nestingLimit then some p.expr else none

/-!
# Engines

An engine builds an automaton for the text of a pattern, within the memory that it has.  How much
an automaton needs is known to the engine alone.
-/

structure Engine where
  /-- Whether the automaton for a text fits into the memory. -/
  hasRoom : List Char → Bool

namespace Engine

/-- An engine with memory for every text. -/
def roomy : Engine := ⟨fun _ => true⟩

/-- The pattern of a text, if the engine takes it. -/
def build? (engine : Engine) (text : List Char) : Option Expr :=
  if engine.hasRoom text then parse? text else none

end Engine

/-- A pattern pasted between the start and the end of the text. -/
def between (pattern : String) : List Char :=
  "^(?:".toList ++ pattern.toList ++ ")$".toList

def anchored? (engine : Engine) (pattern : String) : Option Expr :=
  engine.build? (between pattern)

end Pattern
end RouteAudit
