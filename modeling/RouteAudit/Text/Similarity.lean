/-!
# Similar words

How alike two words are is measured by the characters that they share at nearby places and
by how many of those stand in a different order.  Of several words the most similar one is
suggested, if it is similar enough.
-/

namespace RouteAudit
namespace Similarity

/-- Marks the first unmarked occurrence of a character between two places. -/
def mark (low high : Nat) (c : Char) : Nat → List (Char × Bool) → Option (List (Char × Bool))
  | _, [] => none
  | j, (d, marked) :: rest =>
      if low ≤ j ∧ j < high ∧ c = d ∧ marked = false then
        some ((d, true) :: rest)
      else
        (mark low high c (j + 1) rest).map ((d, marked) :: ·)

/-- The characters of a word that find a partner, and the other word with its partners
marked. -/
def pairUp (range : Nat) : Nat → List Char → List (Char × Bool) → List Char × List (Char × Bool)
  | _, [], other => ([], other)
  | i, c :: word, other =>
      match mark (i - range) (i + range + 1) c 0 other with
      | some other =>
          let (shared, other) := pairUp range (i + 1) word other
          (c :: shared, other)
      | none => pairUp range (i + 1) word other

def similarity (word other : List Char) : Float :=
  if word = [] ∧ other = [] then 1
  else
    let range := max word.length other.length / 2 - 1
    let (shared, marked) := pairUp range 0 word (other.map fun c => (c, false))
    let partners := (marked.filter Prod.snd).map Prod.fst
    let swaps := ((shared.zip partners).filter fun (a, b) => a ≠ b).length / 2
    let n := Float.ofNat shared.length
    if shared = [] then 0
    else
      (n / Float.ofNat word.length + n / Float.ofNat other.length
        + Float.ofNat (shared.length - swaps) / n) / 3

/-- The most similar word above the threshold; of equally similar ones the last. -/
def suggest? (word : String) (candidates : List String) : Option String :=
  let scored := candidates.map fun c => (similarity word.toList c.toList, c)
  let best := (scored.filter fun s => 0.7 < s.1).foldl
    (fun best s => match best with
      | none => some s
      | some b => if s.1 < b.1 then some b else some s) none
  best.map Prod.snd

end Similarity
end RouteAudit
