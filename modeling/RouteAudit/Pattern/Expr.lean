import RouteAudit.CharSet

/-!
# Patterns

A pattern describes a language of texts: characters of a set, conditions on a place,
sequences, choices and repetitions.  It is matched by walking sets of places: from the
places where a pattern may start, `reach` finds the places where it may end.
-/

namespace RouteAudit
namespace Pattern

/-- Conditions on the characters before and behind a place.  Those on words are given the
set of word characters. -/
inductive Condition where
  | start
  | finish
  | lineStart
  | lineFinish
  | lineStartEither
  | lineFinishEither
  | wordEdge
  | notWordEdge
  | wordStart
  | wordFinish
  | wordStartHalf
  | wordFinishHalf
  deriving DecidableEq, Repr

inductive Expr where
  | empty
  | one (set : CharSet)
  | place (condition : Condition) (word : CharSet)
  | seq (first second : Expr)
  | choice (first second : Expr)
  | loop (body : Expr) (least : Nat) (most : Option Nat)
  deriving Repr

/-!
# Conditions

Lines end at a line feed; in the `Either` forms also at a carriage return, and the two
together end one line.
-/

namespace Condition

def holds (word : CharSet) (before behind : Option Char) : Condition → Bool
  | .start => before.isNone
  | .finish => behind.isNone
  | .lineStart => before.isNone || before == some '\n'
  | .lineFinish => behind.isNone || behind == some '\n'
  | .lineStartEither =>
      before.isNone || before == some '\n' || (before == some '\r' && behind != some '\n')
  | .lineFinishEither =>
      behind.isNone || behind == some '\r' || (behind == some '\n' && before != some '\r')
  | .wordEdge => before.any word.contains != behind.any word.contains
  | .notWordEdge => before.any word.contains == behind.any word.contains
  | .wordStart => !before.any word.contains && behind.any word.contains
  | .wordFinish => before.any word.contains && !behind.any word.contains
  | .wordStartHalf => !before.any word.contains
  | .wordFinishHalf => !behind.any word.contains

end Condition

/-!
# Places

The places of a text of `n` characters are the numbers from `0` to `n`; a set of places is
kept in ascending order.
-/

def charBefore (text : List Char) (i : Nat) : Option Char :=
  if i = 0 then none else text[i - 1]?

def joinPlaces (text : List Char) (xs ys : List Nat) : List Nat :=
  (List.range (text.length + 1)).filter fun i => xs.contains i || ys.contains i

/-- Applies a step `n` times, or until it changes nothing. -/
def iterate (step : List Nat → List Nat) : Nat → List Nat → List Nat
  | 0, places => places
  | n + 1, places =>
      let next := step places
      if next = places then places else iterate step n next

namespace Expr

def reach (text : List Char) : Expr → List Nat → List Nat
  | .empty, places => places
  | .one set, places =>
      (places.filter fun i => text[i]?.any set.contains).map (· + 1)
  | .place condition word, places =>
      places.filter fun i => condition.holds word (charBefore text i) text[i]?
  | .seq first second, places => second.reach text (first.reach text places)
  | .choice first second, places =>
      joinPlaces text (first.reach text places) (second.reach text places)
  | .loop body least most, places =>
      let entered := iterate (body.reach text) least places
      let more := match most with
        | some most => most - least
        | none => text.length + 1
      iterate (fun xs => joinPlaces text xs (body.reach text xs)) more entered

/-- Whether the pattern matches some stretch of the text. -/
def found (e : Expr) (text : List Char) : Bool :=
  e.reach text (List.range (text.length + 1)) ≠ []

end Expr
end Pattern
end RouteAudit
