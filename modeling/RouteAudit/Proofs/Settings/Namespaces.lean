import Mathlib.Data.List.Nodup
import RouteAudit.Settings.Basic

/-!
# The namespaces of settings

Settings that are valid give every namespace its own name.  What is checked is then all
namespaces, in the order of the settings, or the one that was asked for.
-/

namespace RouteAudit
namespace Settings

variable {s : Settings} {only : Option String} {name : String}

/-- The names that can be checked: those of the namespaces, or that of the host. -/
def names (s : Settings) : List String :=
  if s.namespaces.isEmpty then [""] else s.namespaces.map NamespaceSettings.name

/-!
# Different names
-/

theorem firstRepeat?_eq_none_iff {seen names : List String} :
    firstRepeat? seen names = none ↔ names.Nodup ∧ ∀ name ∈ names, name ∉ seen := by
  induction names generalizing seen with
  | nil => simp [firstRepeat?]
  | cons first rest ih =>
      unfold firstRepeat?
      by_cases hseen : first ∈ seen
      · simp [hseen]
      · rw [if_neg hseen, ih, List.nodup_cons, List.forall_mem_cons]
        simp only [List.mem_cons, not_or]
        constructor
        · intro hparts
          rcases hparts with ⟨hnodup, hrest⟩
          refine ⟨⟨?_, hnodup⟩, hseen, fun other hother => (hrest other hother).2⟩
          intro hfirst
          exact (hrest first hfirst).1 rfl
        · intro hparts
          rcases hparts with ⟨⟨hfirst, hnodup⟩, _, hrest⟩
          refine ⟨hnodup, fun other hother => ⟨?_, hrest other hother⟩⟩
          rintro rfl
          exact hfirst hother

theorem nodup_of_validate (h : s.validate = .ok ()) :
    (s.namespaces.map NamespaceSettings.name).Nodup := by
  unfold validate at h
  split at h
  · cases h
  · split at h
    · cases h
    · split at h
      · cases h
      · split at h
        · cases h
        · rename_i hnone
          exact (firstRepeat?_eq_none_iff.mp hnone).1

theorem nodup_names (h : s.validate = .ok ()) : s.names.Nodup := by
  unfold names
  split
  · exact List.nodup_singleton ""
  · exact nodup_of_validate h

/-!
# Resolved names
-/

theorem map_allNamespaces : s.allNamespaces.map Prod.fst = s.names := by
  unfold allNamespaces names
  split
  · rfl
  · rw [List.map_map]
    rfl

theorem allNamespaces_of_ne_nil (h : s.namespaces ≠ []) :
    s.allNamespaces = s.namespaces.map fun n => (n.name, n.database.getD s.database) := by
  unfold allNamespaces
  rw [if_neg]
  intro hempty
  exact h (List.isEmpty_iff.mp hempty)

theorem names_ne_nil : s.names ≠ [] := by
  unfold names
  split
  · nofun
  · rename_i hnonempty
    intro hnil
    rw [List.map_eq_nil_iff.mp hnil] at hnonempty
    exact hnonempty rfl

theorem map_filter_allNamespaces :
    (s.allNamespaces.filter fun n => n.1 = name).map Prod.fst =
      s.names.filter fun n => n = name := by
  rw [← map_allNamespaces, List.filter_map]
  rfl

/-- Of different names one is picked. -/
theorem filter_names (hvalid : s.validate = .ok ()) (hname : name ∈ s.names) :
    (s.names.filter fun n => n = name) = [name] := by
  apply List.perm_singleton.mp
  apply (List.perm_ext_iff_of_nodup ((nodup_names hvalid).filter _) (List.nodup_singleton _)).mpr
  intro other
  rw [List.mem_filter, List.mem_singleton, decide_eq_true_iff]
  constructor
  · exact And.right
  · rintro rfl
    exact ⟨hname, rfl⟩

/-- A namespace that is asked for is the only one of its name. -/
theorem resolve_of_mem (hvalid : s.validate = .ok ()) {name : String} {d : DatabaseSettings}
    (h : (name, d) ∈ s.allNamespaces) : s.resolve (some name) = .ok [(name, d)] := by
  have hname : name ∈ s.names := by
    rw [← map_allNamespaces]
    exact List.mem_map_of_mem h
  have hselected : (name, d) ∈ s.allNamespaces.filter fun n => n.1 = name :=
    List.mem_filter.mpr ⟨h, decide_eq_true rfl⟩
  have hone : ((s.allNamespaces.filter fun n => n.1 = name).map Prod.fst).length = 1 := by
    rw [map_filter_allNamespaces, filter_names hvalid hname]
    rfl
  rw [List.length_map] at hone
  rcases List.length_eq_one_iff.mp hone with ⟨only, honly⟩
  rw [honly, List.mem_singleton] at hselected
  unfold resolve
  dsimp only
  rw [honly, ← hselected]

/-- Only a name that no namespace has is refused. -/
theorem exists_fault_of_resolve_iff : (exists fault, s.resolve only = .error fault) ↔
    exists name, only = some name ∧ name ∉ s.names := by
  cases only with
  | none => simp [resolve]
  | some name =>
      have hfilter : (s.allNamespaces.filter fun n => n.1 = name) = [] ↔ name ∉ s.names := by
        rw [← List.map_eq_nil_iff, map_filter_allNamespaces, List.filter_eq_nil_iff]
        simpa using List.forall_mem_ne'
      unfold resolve
      dsimp only
      split
      · rename_i hnil
        simp [hfilter.mp hnil]
      · rename_i hnonempty
        simpa using not_imp_comm.mp hfilter.mpr hnonempty

/-- What is resolved is all names in their order, or the one that was asked for. -/
theorem names_of_resolve {entries : List (String × DatabaseSettings)}
    (hvalid : s.validate = .ok ()) (h : s.resolve only = .ok entries) :
    entries.map Prod.fst = only.elim s.names fun name => [name] := by
  cases only with
  | none =>
      cases h
      exact map_allNamespaces
  | some name =>
      have hname : name ∈ s.names := by
        by_contra hunknown
        rcases exists_fault_of_resolve_iff.mpr ⟨name, rfl, hunknown⟩ with ⟨fault, hfault⟩
        rw [h] at hfault
        cases hfault
      unfold resolve at h
      dsimp only at h
      split at h
      · cases h
      · cases h
        rw [map_filter_allNamespaces, filter_names hvalid hname]
        rfl

end Settings
end RouteAudit
