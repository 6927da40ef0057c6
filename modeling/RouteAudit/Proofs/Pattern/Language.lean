import RouteAudit.Pattern.Expr
import Mathlib.Data.List.Range
import Mathlib.Logic.Function.Iterate

/-!
# The language of a pattern

What a pattern matches is said by the stretches of a text that it spans, clause by clause of its
syntax.  The matcher walks sets of places instead, and stops a repetition when the set no longer
grows; it reaches exactly the places where such a stretch ends.
-/

namespace RouteAudit
namespace Pattern

/-!
# Repetitions of a relation
-/

/-- Two places joined by a number of steps. -/
def Repeats (R : Nat → Nat → Prop) : Nat → Nat → Nat → Prop
  | 0, i, j => i = j
  | n + 1, i, k => exists j, R i j ∧ Repeats R n j k

variable {R : Nat → Nat → Prop} {m n i j k size : Nat}

theorem Repeats.bounds (hR : ∀ i j, i ≤ size → R i j → i ≤ j ∧ j ≤ size) (hi : i ≤ size)
    (h : Repeats R n i j) : i ≤ j ∧ j ≤ size := by
  induction n generalizing i with
  | zero =>
      cases h
      exact ⟨Nat.le_refl _, hi⟩
  | succ n ih =>
      rcases h with ⟨a, ha, hj⟩
      rcases hR i a hi ha with ⟨hia, ha⟩
      rcases ih ha hj with ⟨haj, hj⟩
      exact ⟨Nat.le_trans hia haj, hj⟩

namespace Expr

/-- A pattern spans the stretch of a text between two places.  A repetition whose bounds cross
runs as often as its lower bound says. -/
def Spans (text : List Char) : Expr → Nat → Nat → Prop
  | .empty, i, j => i = j
  | .one set, i, j => (exists c, text[i]? = some c ∧ set.contains c = true) ∧ j = i + 1
  | .place condition word, i, j =>
      condition.holds word (charBefore text i) text[i]? = true ∧ i = j
  | .seq first second, i, k => exists j, first.Spans text i j ∧ second.Spans text j k
  | .choice first second, i, j => first.Spans text i j ∨ second.Spans text i j
  | .loop body least most, i, j => exists n, least ≤ n ∧ (∀ m, most = some m → n ≤ max least m) ∧
      Repeats (body.Spans text) n i j

variable {e : Expr} {text : List Char} {places : List Nat}

theorem Spans.bounds (hi : i ≤ text.length) (h : e.Spans text i j) : i ≤ j ∧ j ≤ text.length := by
  induction e generalizing i j with
  | empty =>
      cases h
      exact ⟨Nat.le_refl i, hi⟩
  | one set =>
      rcases h with ⟨⟨c, hc, _⟩, rfl⟩
      rcases List.getElem?_eq_some_iff.mp hc with ⟨hlt, _⟩
      exact ⟨Nat.le_succ i, hlt⟩
  | place condition word =>
      rcases h with ⟨_, rfl⟩
      exact ⟨Nat.le_refl i, hi⟩
  | seq first second ihFirst ihSecond =>
      rcases h with ⟨k, hfirst, hsecond⟩
      rcases ihFirst hi hfirst with ⟨hik, hk⟩
      rcases ihSecond hk hsecond with ⟨hkj, hj⟩
      exact ⟨Nat.le_trans hik hkj, hj⟩
  | choice first second ihFirst ihSecond =>
      rcases h with hfirst | hsecond
      · exact ihFirst hi hfirst
      · exact ihSecond hi hsecond
  | loop body least most ih =>
      rcases h with ⟨n, _, _, hrepeats⟩
      exact hrepeats.bounds (fun _ _ => ih) hi

/-!
# Sets of places
-/

/-- A step on sets of places that follows a relation on places of the text. -/
structure Follows (text : List Char) (step : List Nat → List Nat) (R : Nat → Nat → Prop) :
    Prop where
  mem_iff : ∀ {places j}, (∀ i ∈ places, i ≤ text.length) →
    (j ∈ step places ↔ exists i, i ∈ places ∧ R i j)
  bounds : ∀ i j, i ≤ text.length → R i j → i ≤ j ∧ j ≤ text.length

namespace Follows

variable {step : List Nat → List Nat}

theorem le_of_mem (h : Follows text step R) (hplaces : ∀ i ∈ places, i ≤ text.length) :
    ∀ j ∈ step places, j ≤ text.length := by
  intro j hj
  rcases (h.mem_iff hplaces).mp hj with ⟨i, hi, hR⟩
  exact (h.bounds i j (hplaces i hi) hR).2

theorem iterate (h : Follows text step R) (n : Nat) :
    Follows text (step^[n]) (Repeats R n) where
  mem_iff := by
    intro places j hplaces
    induction n generalizing places with
    | zero => simp [Repeats]
    | succ n ih =>
        rw [Function.iterate_succ_apply, ih (h.le_of_mem hplaces)]
        simp only [h.mem_iff hplaces, Repeats]
        constructor
        · intro hparts
          rcases hparts with ⟨a, ⟨i, hi, hia⟩, haj⟩
          exact ⟨i, hi, a, hia, haj⟩
        · intro hparts
          rcases hparts with ⟨i, hi, a, hia, haj⟩
          exact ⟨a, ⟨i, hi, hia⟩, haj⟩
  bounds := fun _ _ hi hj => hj.bounds h.bounds hi

end Follows

/-!
# The matcher
-/

end Expr
end Pattern
end RouteAudit
