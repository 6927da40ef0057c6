import RouteAudit.Proofs.Difference.Interleaving

/-!
# Differences of ascending keys

On keys that ascend, the pass finds for each side exactly the keys that the other side
lacks, in their order.
-/

namespace RouteAudit
namespace Difference

/-- The keys ascend strictly. -/
def Ascends (keys : List RouteKey) : Prop :=
  keys.Pairwise fun k l => k.text < l.text

theorem Ascends.climbsStrictly {keys : List RouteKey} (h : Ascends keys) :
    ClimbsStrictly compare keys :=
  h.imp RouteKey.compare_lt_iff.mpr

/-- The keys of the first list that the second one lacks. -/
def without (xs ys : List RouteKey) : List RouteKey :=
  xs.filter fun k => k ∉ ys

theorem merge_of_ascends {xs ys : List RouteKey} (hx : Ascends xs) (hy : Ascends ys) :
    merge compare xs ys = ⟨without xs ys, without ys xs⟩ :=
  merge_of_climbsStrictly hx.climbsStrictly hy.climbsStrictly

theorem mem_without {k : RouteKey} {xs ys : List RouteKey} :
    k ∈ without xs ys ↔ k ∈ xs ∧ k ∉ ys := by
  simp [without]

theorem ascends_without {xs ys : List RouteKey} (h : Ascends xs) : Ascends (without xs ys) :=
  h.sublist List.filter_sublist

end Difference
end RouteAudit
