import RouteAudit.Proofs.Exclusion.Benign

/-!
# Application key by key

The rules work on a set that shrinks from one rule to the next.  What is left is decided for
each key by itself all the same: a key stays if no active rule of the list holds it benign.
So neither the order of the rules nor their repeats count, and sets of candidates may be
taken apart and put together again.
-/

namespace RouteAudit
namespace Exclusion

variable {rules others : List Rule} {ctx : Context} {candidates more : KeySet} {k : RouteKey}

/-- Whether some active rule of a list holds a key benign. -/
def Excluded (rules : List Rule) (ctx : Context) (k : RouteKey) : Prop :=
  exists r, r ∈ rules ∧ r.isActive ctx = true ∧ r.isBenign ctx k = true

theorem not_excluded_iff :
    ¬Excluded rules ctx k ↔ ∀ r ∈ rules, r.excludes ctx k = false := by
  constructor
  · intro hkept r hr
    cases hexcludes : r.excludes ctx k with
    | false => rfl
    | true =>
        have hparts : r.isActive ctx = true ∧ r.isBenign ctx k = true :=
          Bool.and_eq_true_iff.mp hexcludes
        exact absurd ⟨r, hr, hparts⟩ hkept
  · intro hnone hexcluded
    rcases hexcluded with ⟨r, hr, hparts⟩
    have hexcludes : r.excludes ctx k = true := Bool.and_eq_true_iff.mpr hparts
    rw [hnone r hr] at hexcludes
    cases hexcludes

theorem mem_apply_iff_not_excluded :
    k ∈ (apply rules ctx candidates).value ↔ k ∈ candidates ∧ ¬Excluded rules ctx k := by
  rw [mem_apply, not_excluded_iff]

/-- Lists with the same rules exclude the same keys. -/
theorem excluded_congr (h : ∀ r, r ∈ others ↔ r ∈ rules) :
    Excluded others ctx k ↔ Excluded rules ctx k := by
  constructor
  · intro hexcluded
    rcases hexcluded with ⟨r, hr, hparts⟩
    exact ⟨r, (h r).mp hr, hparts⟩
  · intro hexcluded
    rcases hexcluded with ⟨r, hr, hparts⟩
    exact ⟨r, (h r).mpr hr, hparts⟩

theorem apply_congr (h : ∀ r, r ∈ others ↔ r ∈ rules) :
    (apply others ctx candidates).value = (apply rules ctx candidates).value := by
  apply Ascending.eq_of_mem_iff
  intro k
  rw [mem_apply_iff_not_excluded, mem_apply_iff_not_excluded, excluded_congr h]

theorem apply_apply :
    (apply rules ctx (apply rules ctx candidates).value).value =
      (apply rules ctx candidates).value := by
  apply Ascending.eq_of_mem_iff
  intro k
  rw [mem_apply_iff_not_excluded, mem_apply_iff_not_excluded, and_assoc, and_self]

theorem apply_union :
    (apply rules ctx (candidates.union more)).value =
      (apply rules ctx candidates).value.union (apply rules ctx more).value := by
  apply Ascending.eq_of_mem_iff
  intro k
  rw [KeySet.mem_union, mem_apply_iff_not_excluded, mem_apply_iff_not_excluded,
    mem_apply_iff_not_excluded, KeySet.mem_union, or_and_right]

/-- What a list of rules leaves is decided key by key.  Lists with the same rules leave the
same keys, in whatever order and however often they name them; a second application leaves
all that the first left; no key is added; and a union is left as the union of what is left
of its parts. -/
theorem apply_decides_key_by_key (rules : List Rule) (ctx : Context) (candidates : KeySet) :
    (∀ k, k ∈ (apply rules ctx candidates).value ↔
      k ∈ candidates ∧
        ¬exists r, r ∈ rules ∧ r.isActive ctx = true ∧ r.isBenign ctx k = true) ∧
    (∀ others : List Rule, (∀ r, r ∈ others ↔ r ∈ rules) →
      (apply others ctx candidates).value = (apply rules ctx candidates).value) ∧
    (apply rules ctx (apply rules ctx candidates).value).value =
      (apply rules ctx candidates).value ∧
    (∀ k, k ∈ (apply rules ctx candidates).value → k ∈ candidates) ∧
    (∀ more : KeySet, (apply rules ctx (candidates.union more)).value =
      (apply rules ctx candidates).value.union (apply rules ctx more).value) := by
  refine ⟨fun k => mem_apply_iff_not_excluded, fun others h => apply_congr h, apply_apply, ?_,
    fun more => apply_union⟩
  intro k hk
  exact (mem_apply_iff_not_excluded.mp hk).1

/-- Applied in the reverse order and then once more, the standard rules leave what they
leave in their own order. -/
theorem standard_rules_in_any_order :
    (∀ r, r ∈ standard.reverse ++ standard ↔ r ∈ standard) ∧
    ∀ ctx candidates, (apply (standard.reverse ++ standard) ctx candidates).value =
      (apply standard ctx candidates).value := by
  have hsame : ∀ r, r ∈ standard.reverse ++ standard ↔ r ∈ standard := by
    intro r
    rw [List.mem_append, List.mem_reverse, or_self]
  exact ⟨hsame, fun ctx candidates =>
    (apply_decides_key_by_key standard ctx candidates).2.1 (standard.reverse ++ standard) hsame⟩

end Exclusion
end RouteAudit
