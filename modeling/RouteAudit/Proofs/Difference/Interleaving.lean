import RouteAudit.Difference
import RouteAudit.Proofs.RouteKey.Sets
import Mathlib.Data.List.Nodup
import Mathlib.Data.List.Sort

/-!
# Differences of sequences

Whatever two sequences are, the pass takes out of both of them one and the same sequence of
matched items and leaves the rest in its order.  On sequences that climb, what is left is the
difference of the two as multisets, and on sequences that climb strictly it is their
difference as sets.
-/

namespace RouteAudit
namespace Difference

variable {α : Type} {cmp : α → α → Ordering}

/-!
# Interleavings
-/

/-- The third list holds the items of the first and those of the second, each in their
order. -/
inductive Interleaves : List α → List α → List α → Prop where
  | nil : Interleaves [] [] []
  | left {a : α} {xs ys zs : List α} : Interleaves xs ys zs → Interleaves (a :: xs) ys (a :: zs)
  | right {a : α} {xs ys zs : List α} : Interleaves xs ys zs → Interleaves xs (a :: ys) (a :: zs)

namespace Interleaves

theorem left_alone (xs : List α) : Interleaves xs [] xs := by
  induction xs with
  | nil => exact nil
  | cons a rest ih => exact left ih

theorem sublist {xs ys zs : List α} (h : Interleaves xs ys zs) : xs.Sublist zs := by
  induction h with
  | nil => exact List.Sublist.slnil
  | left _ ih => exact ih.cons_cons _
  | right _ ih => exact ih.cons _

end Interleaves

/-- The matched items are the same ones on both sides. -/
theorem exists_common (cmp : α → α → Ordering) [Std.LawfulEqCmp cmp] (xs ys : List α) :
    exists common, Interleaves (merge cmp xs ys).first common xs ∧
      Interleaves (merge cmp xs ys).second common ys := by
  induction xs, ys using merge.induct cmp with
  | case1 ys =>
      rw [merge]
      exact ⟨[], .nil, .left_alone ys⟩
  | case2 xs hxs =>
      rw [merge]
      · exact ⟨[], .left_alone xs, .nil⟩
      · exact hxs
  | case3 x xs y ys hcmp ih =>
      rcases ih with ⟨common, hfirst, hsecond⟩
      rw [merge, hcmp]
      exact ⟨common, hfirst.left, hsecond⟩
  | case4 x xs y ys hcmp ih =>
      rcases ih with ⟨common, hfirst, hsecond⟩
      rw [merge, hcmp]
      exact ⟨common, hfirst, hsecond.left⟩
  | case5 x xs y ys hcmp ih =>
      rcases ih with ⟨common, hfirst, hsecond⟩
      obtain rfl := Std.LawfulEqCmp.eq_of_compare hcmp
      rw [merge, hcmp]
      exact ⟨x :: common, hfirst.right, hsecond.right⟩

/-!
# Sequences that climb
-/

/-- The items ascend; an item may be repeated. -/
def Climbs (cmp : α → α → Ordering) (xs : List α) : Prop :=
  xs.Pairwise fun a b => (cmp a b).isLE = true

/-- The items ascend, and none is repeated. -/
def ClimbsStrictly (cmp : α → α → Ordering) (xs : List α) : Prop :=
  xs.Pairwise fun a b => cmp a b = .lt

theorem ClimbsStrictly.climbs {xs : List α} (h : ClimbsStrictly cmp xs) : Climbs cmp xs := by
  apply h.imp
  intro a b hlt
  rw [hlt]
  rfl

theorem compare_self_ne_lt [Std.ReflCmp cmp] (a : α) : cmp a a ≠ .lt := by
  have hself : cmp a a = .eq := Std.ReflCmp.compare_self
  rw [hself]
  decide

theorem ClimbsStrictly.nodup [Std.ReflCmp cmp] {xs : List α} (h : ClimbsStrictly cmp xs) :
    xs.Nodup := by
  apply h.imp
  rintro a _ hlt rfl
  exact compare_self_ne_lt a hlt

/-- An item below the first of a climbing sequence is none of it. -/
theorem Climbs.not_mem_of_lt [Std.TransCmp cmp] {a b : α} {xs : List α}
    (h : Climbs cmp (b :: xs)) (hlt : cmp a b = .lt) : a ∉ b :: xs := by
  intro ha
  rcases List.mem_cons.mp ha with rfl | ha
  · exact compare_self_ne_lt a hlt
  · exact compare_self_ne_lt a
      (Std.TransCmp.lt_of_lt_of_isLE hlt (List.rel_of_pairwise_cons h ha))

/-!
# Counting

The items of a climbing sequence that come after its first one decide whether a smaller item
of the other sequence has a partner, so the pass may give it away at once.
-/

theorem count_merge [Std.TransCmp cmp] [Std.LawfulEqCmp cmp] [DecidableEq α] {xs ys : List α}
    (hxs : Climbs cmp xs) (hys : Climbs cmp ys) (a : α) :
    (merge cmp xs ys).first.count a = xs.count a - ys.count a ∧
      (merge cmp xs ys).second.count a = ys.count a - xs.count a := by
  induction xs, ys using merge.induct cmp with
  | case1 ys =>
      rw [merge]
      simp
  | case2 xs hne =>
      rw [merge]
      · simp
      · exact hne
  | case3 x xs y ys hcmp ih =>
      have hrest := ih hxs.tail hys
      have hnone : List.count x (y :: ys) = 0 :=
        List.count_eq_zero.mpr (hys.not_mem_of_lt hcmp)
      rw [merge, hcmp]
      by_cases hx : x = a
      · subst hx
        rw [hnone] at hrest ⊢
        dsimp only
        rw [List.count_cons_self, List.count_cons_self, hrest.1, hrest.2]
        omega
      · dsimp only
        rw [List.count_cons_of_ne hx, List.count_cons_of_ne hx]
        exact hrest
  | case4 x xs y ys hcmp ih =>
      have hrest := ih hxs hys.tail
      have hnone : List.count y (x :: xs) = 0 :=
        List.count_eq_zero.mpr (hxs.not_mem_of_lt (Std.OrientedCmp.gt_iff_lt.mp hcmp))
      rw [merge, hcmp]
      by_cases hy : y = a
      · subst hy
        rw [hnone] at hrest ⊢
        dsimp only
        rw [List.count_cons_self, List.count_cons_self, hrest.1, hrest.2]
        omega
      · dsimp only
        rw [List.count_cons_of_ne hy, List.count_cons_of_ne hy]
        exact hrest
  | case5 x xs y ys hcmp ih =>
      rcases ih hxs.tail hys.tail with ⟨hfirst, hsecond⟩
      obtain rfl := Std.LawfulEqCmp.eq_of_compare hcmp
      rw [merge, hcmp, hfirst, hsecond, List.count_cons, List.count_cons]
      omega

/-- What is left of strictly climbing sequences are their differences as sets. -/
theorem merge_of_climbsStrictly [Std.TransCmp cmp] [Std.LawfulEqCmp cmp] [DecidableEq α]
    {xs ys : List α} (hxs : ClimbsStrictly cmp xs) (hys : ClimbsStrictly cmp ys) :
    merge cmp xs ys = ⟨xs.filter fun a => a ∉ ys, ys.filter fun a => a ∉ xs⟩ := by
  have hirrefl : Std.Irrefl fun a b : α => cmp a b = .lt := ⟨compare_self_ne_lt⟩
  have hantisymm : Std.Antisymm fun a b : α => cmp a b = .lt :=
    ⟨fun a _ hab hba => absurd (Std.TransCmp.lt_trans hab hba) (compare_self_ne_lt a)⟩
  -- an item of a list without repeats is left over if the other list does not hold it
  have hleft : ∀ {us vs kept : List α}, us.Nodup → kept.Sublist us → ClimbsStrictly cmp us →
      (∀ a, kept.count a = us.count a - vs.count a) → kept = us.filter fun a => a ∉ vs := by
    intro us vs kept hnodup hsub hus hcount
    apply List.Pairwise.eq_of_mem_iff (hus.sublist hsub) (hus.sublist List.filter_sublist)
    intro a
    have honce := List.nodup_iff_count_le_one.mp hnodup a
    rw [List.mem_filter, decide_eq_true_eq, ← List.count_pos_iff, hcount a,
      ← List.count_pos_iff, ← List.count_pos_iff]
    omega
  rcases exists_common cmp xs ys with ⟨common, hfirst, hsecond⟩
  have hcount := count_merge hxs.climbs hys.climbs
  have hone := hleft hxs.nodup hfirst.sublist hxs fun a => (hcount a).1
  have htwo := hleft hys.nodup hsecond.sublist hys fun a => (hcount a).2
  cases hmerge : merge cmp xs ys
  rw [hmerge] at hone htwo
  rw [← hone, ← htwo]

/-!
# The difference of two sequences
-/

/-- For every total order and any two sequences, both sides keep the order of their input, and
what the inputs hold beyond them is one common sequence.  On sequences that climb, an item is
left as often as its side holds it more often than the other one; on sequences that climb
strictly, the sides are the two differences as sets. -/
theorem merge_exact (cmp : α → α → Ordering) [Std.TransCmp cmp] [Std.LawfulEqCmp cmp]
    [DecidableEq α] (xs ys : List α) :
    (merge cmp xs ys).first.Sublist xs ∧ (merge cmp xs ys).second.Sublist ys ∧
    (exists common, Interleaves (merge cmp xs ys).first common xs ∧
      Interleaves (merge cmp xs ys).second common ys) ∧
    (Climbs cmp xs → Climbs cmp ys → ∀ a,
      (merge cmp xs ys).first.count a = xs.count a - ys.count a ∧
      (merge cmp xs ys).second.count a = ys.count a - xs.count a) ∧
    (ClimbsStrictly cmp xs → ClimbsStrictly cmp ys →
      merge cmp xs ys = ⟨xs.filter fun a => a ∉ ys, ys.filter fun a => a ∉ xs⟩) := by
  rcases exists_common cmp xs ys with ⟨common, hfirst, hsecond⟩
  refine ⟨hfirst.sublist, hsecond.sublist, ⟨common, hfirst, hsecond⟩, ?_, ?_⟩
  · intro hxs hys a
    exact count_merge hxs hys a
  · intro hxs hys
    exact merge_of_climbsStrictly hxs hys

/-- Three keys in the order of their texts. -/
def threeKeys : Fin 3 → RouteKey
  | 0 => .network 10 0 0
  | 1 => .network 10 0 1
  | 2 => .network 10 0 10

/-- One key stands once more on the left, and another one only on the right. -/
theorem merge_exact_of_threeKeys :
    exists a b c, a = threeKeys 0 ∧ b = threeKeys 1 ∧ c = threeKeys 2 ∧
      Climbs compare [a, b, b] ∧ Climbs compare [b, c, c] ∧
      (merge compare [a, b, b] [b, c, c]).first.count b = 1 ∧
      (merge compare [a, b, b] [b, c, c]).second.count c = 2 ∧
      ClimbsStrictly compare [a, b] ∧ ClimbsStrictly compare [b, c] ∧
      merge compare [a, b] [b, c] = ⟨[a], [c]⟩ := by
  have hclimbs : Climbs compare [threeKeys 0, threeKeys 1, threeKeys 1] ∧
      Climbs compare [threeKeys 1, threeKeys 2, threeKeys 2] := by
    unfold Climbs
    decide +kernel
  have hstrict : ClimbsStrictly compare [threeKeys 0, threeKeys 1] ∧
      ClimbsStrictly compare [threeKeys 1, threeKeys 2] := by
    unfold ClimbsStrictly
    decide +kernel
  rcases merge_exact compare [threeKeys 0, threeKeys 1, threeKeys 1]
    [threeKeys 1, threeKeys 2, threeKeys 2] with ⟨_, _, _, hcount, _⟩
  rcases merge_exact compare [threeKeys 0, threeKeys 1] [threeKeys 1, threeKeys 2] with
    ⟨_, _, _, _, hsets⟩
  have hcounts := hcount hclimbs.1 hclimbs.2
  refine ⟨_, _, _, rfl, rfl, rfl, hclimbs.1, hclimbs.2, ?_, ?_, hstrict.1, hstrict.2, ?_⟩
  · rw [(hcounts (threeKeys 1)).1]
    decide
  · rw [(hcounts (threeKeys 2)).2]
    decide
  · rw [hsets hstrict.1 hstrict.2]
    decide

end Difference
end RouteAudit
