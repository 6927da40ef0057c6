/-!
# Merge difference

Two sequences in ascending order are compared in one pass: the smaller head belongs to
its side only, equal heads cancel each other out.  On sequences that do not ascend the
pass is still defined, and every item lands on one side or is matched once.
-/

namespace RouteAudit
namespace Difference

/-- What only the first and what only the second of two sequences holds. -/
structure Sides (α : Type) where
  first : List α
  second : List α
  deriving DecidableEq, Repr

def merge {α : Type} (cmp : α → α → Ordering) : List α → List α → Sides α
  | [], ys => ⟨[], ys⟩
  | xs, [] => ⟨xs, []⟩
  | x :: xs, y :: ys =>
      match cmp x y with
      | .lt =>
          let sides := merge cmp xs (y :: ys)
          ⟨x :: sides.first, sides.second⟩
      | .gt =>
          let sides := merge cmp (x :: xs) ys
          ⟨sides.first, y :: sides.second⟩
      | .eq => merge cmp xs ys
  termination_by xs ys => xs.length + ys.length

end Difference
end RouteAudit
