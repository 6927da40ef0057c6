import RouteAudit.Cycle
import RouteAudit.Proofs.Difference.Ascending
import RouteAudit.Proofs.Exclusion.Benign

/-!
# Comparing and explaining

The mismatches of a snapshot are differences of its sets.  Where there are any, late changes
are credited and the rules are applied; where there are none, both steps are left out, and
would find nothing to take away.
-/

namespace RouteAudit

variable {k : RouteKey}

namespace Mismatches

/-!
# The first comparison
-/

theorem merge_routes (s : Snapshot) :
    Difference.merge compare s.routes.keys s.programmed.items =
      ⟨Difference.without s.routes.keys s.programmed.items,
        Difference.without s.programmed.items s.routes.keys⟩ :=
  Difference.merge_of_ascends s.routes.pairwise_keys s.programmed.ascending

theorem merge_interfaces (s : Snapshot) :
    Difference.merge compare s.interfaces.items s.programmed.items =
      ⟨Difference.without s.interfaces.items s.programmed.items,
        Difference.without s.programmed.items s.interfaces.items⟩ :=
  Difference.merge_of_ascends s.interfaces.ascending s.programmed.ascending

theorem mem_missedRoutes_ofSnapshot {s : Snapshot} :
    k ∈ (ofSnapshot s).missedRoutes ↔ k ∈ s.routes.keys ∧ k ∉ s.programmed := by
  unfold ofSnapshot
  rw [merge_routes, KeySet.mem_ofList, Difference.mem_without]
  rfl

theorem missedInterfaces_ofSnapshot (s : Snapshot) :
    (ofSnapshot s).missedInterfaces = Difference.without s.interfaces.items s.programmed.items := by
  unfold ofSnapshot
  rw [merge_interfaces]

theorem mem_missedInterfaces_ofSnapshot {s : Snapshot} :
    k ∈ (ofSnapshot s).missedInterfaces ↔ k ∈ s.interfaces ∧ k ∉ s.programmed := by
  rw [missedInterfaces_ofSnapshot, Difference.mem_without]
  rfl

theorem mem_unaccounted_ofSnapshot {s : Snapshot} :
    k ∈ (ofSnapshot s).unaccounted ↔
      k ∈ s.programmed ∧ k ∉ s.routes.keys ∧ k ∉ s.interfaces := by
  unfold ofSnapshot
  rw [merge_routes, KeySet.mem_ofList, List.mem_filter, Difference.mem_without, Bool.not_eq_true',
    ← Bool.not_eq_true, KeySet.contains_iff, and_assoc]
  rfl

theorem isClean_iff {m : Mismatches} : m.isClean = true ↔
    ∀ k, k ∉ m.missedRoutes ∧ k ∉ m.missedInterfaces ∧ k ∉ m.unaccounted := by
  unfold isClean
  rw [Bool.and_eq_true_iff, Bool.and_eq_true_iff, Ascending.isEmpty_iff, Ascending.isEmpty_iff,
    List.isEmpty_iff, List.eq_nil_iff_forall_not_mem, and_assoc]
  simp only [forall_and]

theorem not_mem_of_isClean {m : Mismatches} (h : m.isClean = true) :
    k ∉ m.missedRoutes ∧ k ∉ m.missedInterfaces ∧ k ∉ m.unaccounted :=
  isClean_iff.mp h k

/-- A cycle passes if it is left without mismatches and the daemon has none to add. -/
theorem passed_outcome_iff {m : Mismatches} {records : List Json} :
    (m.outcome records).passed = true ↔ m.isClean = true ∧ records = [] := by
  rw [← List.isEmpty_iff]
  exact Bool.and_eq_true_iff

/-- The tables of a store do not agree exactly if some key is missing or unaccounted for. -/
theorem isClean_snapshot_eq_false_iff {s : Store} : (ofSnapshot s.snapshot).isClean = false ↔
    exists k, (k ∈ s.intended.keys ∧ k ∉ s.programmed) ∨
      (k ∈ s.interfaceHosts ∧ k ∉ s.programmed) ∨
      (k ∈ s.programmed ∧ k ∉ s.intended.keys ∧ k ∉ s.interfaceHosts) := by
  have hmissed : ∀ k, k ∈ (ofSnapshot s.snapshot).missedRoutes ↔
      k ∈ s.intended.keys ∧ k ∉ s.programmed := fun _ => mem_missedRoutes_ofSnapshot
  have hinterfaces : ∀ k, k ∈ (ofSnapshot s.snapshot).missedInterfaces ↔
      k ∈ s.interfaceHosts ∧ k ∉ s.programmed := fun _ => mem_missedInterfaces_ofSnapshot
  have hunaccounted : ∀ k, k ∈ (ofSnapshot s.snapshot).unaccounted ↔
      k ∈ s.programmed ∧ k ∉ s.intended.keys ∧ k ∉ s.interfaceHosts :=
    fun _ => mem_unaccounted_ofSnapshot
  rw [← Bool.not_eq_true, isClean_iff, not_forall]
  apply exists_congr
  intro k
  rw [not_and_or, not_and_or, not_not, not_not, not_not, hmissed, hinterfaces, hunaccounted]

/-!
# Late changes
-/

theorem mem_missedRoutes_credit {m : Mismatches} {changes : List Change} :
    k ∈ (m.credit (.ofChanges changes)).missedRoutes ↔
      k ∈ m.missedRoutes ∧ ⟨.add, k⟩ ∉ changes := by
  unfold credit
  rw [Ascending.mem_filter, Bool.not_eq_true', ← Bool.not_eq_true, KeySet.contains_iff,
    Drained.mem_adds_ofChanges]

theorem mem_unaccounted_credit {m : Mismatches} {changes : List Change} :
    k ∈ (m.credit (.ofChanges changes)).unaccounted ↔
      k ∈ m.unaccounted ∧ ⟨.remove, k⟩ ∉ changes := by
  unfold credit
  rw [Ascending.mem_filter, Bool.not_eq_true', ← Bool.not_eq_true, KeySet.contains_iff,
    Drained.mem_removes_ofChanges]

end Mismatches

/-!
# Explained mismatches
-/

namespace Check

/-- What the rules leave of mismatches. -/
def applyRules (c : Check) (ctx : Exclusion.Context) (m : Mismatches) : Mismatches :=
  { m with
    missedRoutes := (Exclusion.apply c.rules ctx m.missedRoutes).value
    unaccounted := (Exclusion.apply c.rules ctx m.unaccounted).value }

/-- What is left of mismatches after late changes and the rules. -/
def explained (c : Check) (ctx : Exclusion.Context) (changes : List Change) (m : Mismatches) :
    Mismatches :=
  if m.isClean then m else c.applyRules ctx (m.credit (.ofChanges changes))

variable {c : Check} {ctx : Exclusion.Context} {changes : List Change} {m : Mismatches}

theorem mem_missedRoutes_explained :
    k ∈ (c.explained ctx changes m).missedRoutes ↔
      k ∈ m.missedRoutes ∧ ⟨.add, k⟩ ∉ changes ∧ ∀ r ∈ c.rules, r.excludes ctx k = false := by
  unfold explained
  by_cases hclean : m.isClean = true
  · rw [if_pos hclean]
    have hnone := (Mismatches.not_mem_of_isClean (k := k) hclean).1
    constructor
    · intro hk
      exact absurd hk hnone
    · intro hparts
      rcases hparts with ⟨hk, _⟩
      exact hk
  · rw [if_neg hclean]
    unfold applyRules
    rw [Exclusion.mem_apply, Mismatches.mem_missedRoutes_credit, and_assoc]

theorem mem_unaccounted_explained :
    k ∈ (c.explained ctx changes m).unaccounted ↔
      k ∈ m.unaccounted ∧ ⟨.remove, k⟩ ∉ changes ∧
        ∀ r ∈ c.rules, r.excludes ctx k = false := by
  unfold explained
  by_cases hclean : m.isClean = true
  · rw [if_pos hclean]
    have hnone := (Mismatches.not_mem_of_isClean (k := k) hclean).2.2
    constructor
    · intro hk
      exact absurd hk hnone
    · intro hparts
      rcases hparts with ⟨hk, _⟩
      exact hk
  · rw [if_neg hclean]
    unfold applyRules
    rw [Exclusion.mem_apply, Mismatches.mem_unaccounted_credit, and_assoc]

/-- Neither late changes nor rules explain a missing interface address. -/
theorem missedInterfaces_explained :
    (c.explained ctx changes m).missedInterfaces = m.missedInterfaces := by
  unfold explained
  split
  · rfl
  · rfl

end Check
end RouteAudit
