import RouteAudit.LocalInterfaces

/-!
# The local interfaces that are built

The interfaces are built from the names and the patterns of the settings, all of which have to be
patterns.
-/

namespace RouteAudit
namespace LocalInterfaces

variable {engine : Pattern.Engine} {l m : LocalInterfaces} {names others : List String}
  {c d : CheckSettings}

theorem mem_of_mapM_ok {α β : Type} {f : α → Attempt β} {items : List α} {found : List β}
    (h : items.mapM f = .ok found) {b : β} : b ∈ found ↔ exists a, a ∈ items ∧ f a = .ok b := by
  induction items generalizing found with
  | nil =>
      cases h
      simp
  | cons a rest ih =>
      rw [List.mapM_cons] at h
      cases hfirst : f a with
      | error e =>
          rw [hfirst] at h
          cases h
      | ok c =>
          cases hrest : rest.mapM f with
          | error e =>
              rw [hfirst, hrest] at h
              cases h
          | ok later =>
              rw [hfirst, hrest] at h
              cases h
              rw [List.mem_cons, ih hrest]
              simp [hfirst, eq_comm]

theorem mapM_of_ofNames (h : ofNames engine names c = .ok l) :
    l.names = names ∧ c.localPatterns.mapM (readPattern engine) = .ok l.patterns := by
  unfold ofNames at h
  cases hpatterns : c.localPatterns.mapM (readPattern engine) with
  | error e =>
      rw [hpatterns] at h
      cases h
  | ok patterns =>
      rw [hpatterns] at h
      cases h
      exact ⟨rfl, rfl⟩

/-- With more names more interfaces are management interfaces. -/
theorem isManagement_of_subset (hl : ofNames engine names c = .ok l)
    (hm : ofNames engine others d = .ok m) (hnames : names ⊆ others) {interface : String}
    (h : l.isManagement interface = true) : m.isManagement interface = true := by
  unfold isManagement at h ⊢
  rw [List.contains_iff_mem] at h ⊢
  rw [(mapM_of_ofNames hl).1] at h
  rw [(mapM_of_ofNames hm).1]
  exact hnames h

/-- With more patterns more interfaces are of the loopback style. -/
theorem isLoopbackStyle_of_subset (hl : ofNames engine names c = .ok l)
    (hm : ofNames engine others d = .ok m) (hpatterns : c.localPatterns ⊆ d.localPatterns)
    {interface : String} (h : l.isLoopbackStyle interface = true) :
    m.isLoopbackStyle interface = true := by
  unfold isLoopbackStyle at h ⊢
  rw [List.any_eq_true] at h ⊢
  rcases h with ⟨expr, hexpr, hfound⟩
  rcases (mem_of_mapM_ok (mapM_of_ofNames hl).2).mp hexpr with ⟨pattern, hpattern, hread⟩
  exact ⟨expr, (mem_of_mapM_ok (mapM_of_ofNames hm).2).mpr ⟨pattern, hpatterns hpattern, hread⟩,
    hfound⟩

end LocalInterfaces
end RouteAudit
