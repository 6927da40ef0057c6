import RouteAudit.Report
import RouteAudit.Proofs.Ascending.Members
import RouteAudit.Proofs.Json.Fields
import RouteAudit.Proofs.RouteKey.Canonical

/-!
# Reports tell all failures

The document of a report shows the failing namespaces and nothing of the others, and it shows all
of them: from the document the failing namespaces and their four buckets can be told.  The two
forms of a document are never taken for each other, since the fields of the short form are arrays
and those of the long form objects.
-/

namespace RouteAudit

/-!
# Outcomes
-/

namespace Outcome

variable {o p : Outcome} {name : String}

/-- The same mismatches in the same order; of two records that differ in the sign of a zero
either stands for the other. -/
structure SameBuckets (o p : Outcome) : Prop where
  missedRoutes : o.missedRoutes = p.missedRoutes
  missedInterfaces : o.missedInterfaces = p.missedInterfaces
  unaccounted : o.unaccounted = p.unaccounted
  missedDaemonRoutes : Json.sameItems o.missedDaemonRoutes p.missedDaemonRoutes = true

/-- The four buckets under their names. -/
def buckets (o : Outcome) : List (String × List Json) :=
  [("missed_ROUTE_TABLE_routes", keyTexts o.missedRoutes),
    ("missed_INTF_TABLE_entries", keyTexts o.missedInterfaces),
    ("Unaccounted_ROUTE_ENTRY_TABLE_entries", keyTexts o.unaccounted),
    ("missed_FRR_routes", o.missedDaemonRoutes)]

theorem nodup_buckets (o : Outcome) : (o.buckets.map Prod.fst).Nodup := by
  show ["missed_ROUTE_TABLE_routes", "missed_INTF_TABLE_entries",
    "Unaccounted_ROUTE_ENTRY_TABLE_entries", "missed_FRR_routes"].Nodup
  decide

/-- The buckets that are not empty, as the fields of a document. -/
theorem toJson_eq (o : Outcome) : o.toJson =
    Json.ofFields ((o.buckets.filter fun b => b.2 ≠ []).map fun b => (b.1, .array b.2)) := by
  have hbucket : ∀ (n : String) (items : List Json), bucket n items =
      ([(n, items)].filter fun b => b.2 ≠ []).map fun b => (b.1, .array b.2) := by
    intro n items
    cases items <;> rfl
  unfold toJson buckets
  simp only [hbucket, ← List.map_append, ← List.filter_append]
  rfl

theorem field?_toJson_eq_some_iff {value : Json} : o.toJson.field? name = some value ↔
    exists items, (name, items) ∈ o.buckets ∧ items ≠ [] ∧ value = .array items := by
  have hnodup : (((o.buckets.filter fun b => b.2 ≠ []).map fun b =>
      (b.1, Json.array b.2)).map Prod.fst).Nodup := by
    rw [List.map_map]
    exact o.nodup_buckets.sublist (List.filter_sublist.map _)
  rw [toJson_eq, Json.field?_ofFields_eq_some_iff hnodup, List.mem_map]
  constructor
  · intro h
    rcases h with ⟨⟨n, items⟩, hmem, heq⟩
    cases heq
    rcases List.mem_filter.mp hmem with ⟨hmem, hne⟩
    exact ⟨items, hmem, of_decide_eq_true hne, rfl⟩
  · intro h
    rcases h with ⟨items, hmem, hne, rfl⟩
    exact ⟨(name, items), List.mem_filter.mpr ⟨hmem, decide_eq_true hne⟩, rfl⟩

theorem eq_of_mem_buckets {xs ys : List Json} (hxs : (name, xs) ∈ o.buckets)
    (hys : (name, ys) ∈ o.buckets) : xs = ys :=
  congrArg Prod.snd (List.inj_on_of_nodup_map o.nodup_buckets hxs hys rfl)

/-!
# What a document tells
-/

/-- From the same documents the same buckets are read. -/
theorem sameItems_of_same (name : String) {xs ys : List Json}
    (h : Json.same o.toJson p.toJson = true) (hxs : (name, xs) ∈ o.buckets)
    (hys : (name, ys) ∈ p.buckets) : Json.sameItems xs ys = true := by
  by_cases hempty : xs = []
  · subst hempty
    by_cases hother : ys = []
    · rw [hother, Json.sameItems]
    · have hfield : p.toJson.field? name = some (.array ys) :=
        field?_toJson_eq_some_iff.mpr ⟨ys, hys, hother, rfl⟩
      rcases Json.exists_field?_of_same (Json.same_symm h) hfield with ⟨value, hvalue, _⟩
      rcases field?_toJson_eq_some_iff.mp hvalue with ⟨items, hitems, hne, _⟩
      exact absurd (eq_of_mem_buckets hitems hxs) hne
  · have hfield : o.toJson.field? name = some (.array xs) :=
      field?_toJson_eq_some_iff.mpr ⟨xs, hxs, hempty, rfl⟩
    rcases Json.exists_field?_of_same h hfield with ⟨value, hvalue, hsame⟩
    rcases field?_toJson_eq_some_iff.mp hvalue with ⟨items, hitems, _, rfl⟩
    rw [eq_of_mem_buckets hys hitems]
    rwa [Json.same] at hsame

theorem eq_of_sameItems_keyTexts {ks ls : List RouteKey}
    (h : Json.sameItems (keyTexts ks) (keyTexts ls) = true) : ks = ls := by
  induction ks generalizing ls with
  | nil =>
      cases ls with
      | nil => rfl
      | cons l ls => cases h
  | cons k ks ih =>
      cases ls with
      | nil => cases h
      | cons l ls =>
          simp only [keyTexts, List.map_cons, Json.sameItems, Json.same, Bool.and_eq_true,
            beq_iff_eq] at h
          rw [RouteKey.text_injective h.1, ih h.2]

theorem sameBuckets_of_same (h : Json.same o.toJson p.toJson = true) : o.SameBuckets p where
  missedRoutes := eq_of_sameItems_keyTexts
    (sameItems_of_same "missed_ROUTE_TABLE_routes" h (by simp [buckets])
      (by simp [buckets]))
  missedInterfaces := eq_of_sameItems_keyTexts
    (sameItems_of_same "missed_INTF_TABLE_entries" h (by simp [buckets])
      (by simp [buckets]))
  unaccounted := eq_of_sameItems_keyTexts
    (sameItems_of_same "Unaccounted_ROUTE_ENTRY_TABLE_entries" h (by simp [buckets])
      (by simp [buckets]))
  missedDaemonRoutes := sameItems_of_same "missed_FRR_routes" h (by simp [buckets])
    (by simp [buckets])

theorem passed_iff : o.passed = true ↔ ∀ b ∈ o.buckets, b.2 = [] := by
  simp [passed, buckets, keyTexts, and_assoc]

/-- An outcome that does not pass leaves a field. -/
theorem exists_field?_of_failed (h : o.passed = false) :
    exists name value, o.toJson.field? name = some value := by
  rw [← Bool.not_eq_true, passed_iff] at h
  simp only [not_forall] at h
  rcases h with ⟨b, hb, hne⟩
  exact ⟨b.1, .array b.2, field?_toJson_eq_some_iff.mpr ⟨b.2, hb, hne, rfl⟩⟩

/-- The document of an outcome is empty if and only if the outcome passes. -/
theorem toJson_eq_empty_iff : o.toJson = .object [] ↔ o.passed = true := by
  constructor
  · intro h
    rw [← Bool.not_eq_false]
    intro hfailed
    rcases exists_field?_of_failed hfailed with ⟨name, value, hfield⟩
    rw [h] at hfield
    cases hfield
  · intro h
    have hempty : o.buckets.filter (fun b => b.2 ≠ []) = [] := by
      rw [List.filter_eq_nil_iff]
      intro b hb
      rw [passed_iff.mp h b hb]
      decide
    rw [toJson_eq, hempty]
    rfl

theorem SameBuckets.passed_eq (h : o.SameBuckets p) : o.passed = p.passed := by
  have hdaemon : o.missedDaemonRoutes.isEmpty = p.missedDaemonRoutes.isEmpty := by
    have hsame := h.missedDaemonRoutes
    cases hos : o.missedDaemonRoutes with
    | nil => cases hps : p.missedDaemonRoutes with
      | nil => rfl
      | cons y ys =>
          rw [hos, hps] at hsame
          cases hsame
    | cons x xs => cases hps : p.missedDaemonRoutes with
      | nil =>
          rw [hos, hps] at hsame
          cases hsame
      | cons y ys => rfl
  unfold passed
  rw [h.missedRoutes, h.missedInterfaces, h.unaccounted, hdaemon]

end Outcome

/-!
# Reports
-/

namespace Report

variable {r s : Report} {site : String} {o p : Outcome} {value : Json}

/-- A namespace of a report that does not pass, with its outcome. -/
structure Fails (r : Report) (site : String) (o : Outcome) : Prop where
  found : Table.get? r site = some o
  failed : o.passed = false

/-- A report of the host namespace alone is written in the short form. -/
def IsHostAlone (r : Report) (o : Outcome) : Prop := r.items = [("", o)]

theorem get?_eq_some_iff : Table.get? r site = some o ↔ (site, o) ∈ r.items := by
  unfold Table.get?
  rw [Option.map_eq_some_iff]
  constructor
  · intro h
    rcases h with ⟨⟨n, other⟩, hfind, rfl⟩
    rcases Ascending.find?_eq_some_iff.mp hfind with ⟨hmem, rfl⟩
    exact hmem
  · intro h
    exact ⟨(site, o), Ascending.find?_eq_some_iff.mpr ⟨h, rfl⟩, rfl⟩

theorem Fails.mem (h : r.Fails site o) : (site, o) ∈ r.items := get?_eq_some_iff.mp h.found

theorem passed_iff_not_fails : r.passed = true ↔ ∀ site o, ¬ r.Fails site o := by
  unfold passed
  rw [List.all_eq_true]
  constructor
  · intro h site o hfails
    have hpassed := h _ hfails.mem
    rw [hfails.failed] at hpassed
    cases hpassed
  · intro h entry hentry
    rw [← Bool.not_eq_false]
    intro hfailed
    exact h entry.1 entry.2 ⟨get?_eq_some_iff.mpr hentry, hfailed⟩

theorem IsHostAlone.toJson_eq (h : r.IsHostAlone o) : r.toJson = o.toJson := by
  unfold toJson
  rw [h]
  split
  · rename_i heq
    cases heq
    rfl
  · rename_i hne
    exact absurd rfl (hne o)

theorem IsHostAlone.eq_of_found (h : r.IsHostAlone o) (hp : Table.get? r site = some p) :
    site = "" ∧ p = o := by
  have hmem := get?_eq_some_iff.mp hp
  rw [h, List.mem_singleton, Prod.mk.injEq] at hmem
  exact hmem

theorem toJson_of_not_hostAlone (h : ∀ o, ¬ r.IsHostAlone o) : r.toJson = .object r.failures := by
  unfold toJson
  split
  · rename_i o heq
    exact absurd heq (h o)
  · rfl

theorem exists_object (r : Report) : exists fields, r.toJson = .object fields := by
  by_cases hr : exists first, r.IsHostAlone first
  · rcases hr with ⟨first, hr⟩
    exact ⟨_, hr.toJson_eq⟩
  · exact ⟨_, toJson_of_not_hostAlone (not_exists.mp hr)⟩

/-- In the long form the failing namespaces stand under their names, and nothing else. -/
theorem field?_toJson_eq_some_iff (h : ∀ o, ¬ r.IsHostAlone o) :
    r.toJson.field? site = some value ↔ exists o, r.Fails site o ∧ value = o.toJson := by
  have hfind : (r.failures.find? fun f => f.1 = site) =
      ((r.items.filter fun entry => !entry.2.passed).find? fun entry => entry.1 = site).map
        fun entry => (entry.1, entry.2.toJson) := by
    unfold failures
    rw [List.find?_map]
    rfl
  have hentry : ∀ entry, ((r.items.filter fun entry => !entry.2.passed).find?
      fun entry => entry.1 = site) = some entry ↔ entry.1 = site ∧ r.Fails site entry.2 := by
    intro entry
    have hfilter : ((r.filter fun entry => !entry.2.passed).items.find? fun entry => entry.1 = site)
        = some entry ↔ _ ∧ _ := Ascending.find?_eq_some_iff
    rw [Ascending.mem_filter] at hfilter
    refine hfilter.trans ?_
    rcases entry with ⟨n, o⟩
    constructor
    · intro hparts
      rcases hparts with ⟨⟨hmem, hfailed⟩, rfl⟩
      exact ⟨rfl, get?_eq_some_iff.mpr hmem, (Bool.not_eq_true' _).mp hfailed⟩
    · intro hparts
      rcases hparts with ⟨rfl, hfails⟩
      exact ⟨⟨hfails.mem, (Bool.not_eq_true' _).mpr hfails.failed⟩, rfl⟩
  rw [toJson_of_not_hostAlone h]
  unfold Json.field?
  simp only [hfind, Option.map_map, Option.map_eq_some_iff, hentry, Function.comp_apply]
  constructor
  · intro hparts
    rcases hparts with ⟨entry, ⟨_, hfails⟩, rfl⟩
    exact ⟨entry.2, hfails, rfl⟩
  · intro hparts
    rcases hparts with ⟨o, hfails, rfl⟩
    exact ⟨(site, o), ⟨rfl, hfails⟩, rfl⟩

/-- A field of the short form is an array, and one of the long form an object. -/
theorem not_same_of_forms (ho : r.IsHostAlone o) (hs : ∀ p, ¬ s.IsHostAlone p) {name : String}
    {x y : Json} (hx : r.toJson.field? name = some x) (hy : s.toJson.field? name = some y) :
    Json.same x y = false ∧ Json.same y x = false := by
  rw [ho.toJson_eq] at hx
  rcases Outcome.field?_toJson_eq_some_iff.mp hx with ⟨items, _, _, rfl⟩
  rcases (field?_toJson_eq_some_iff hs).mp hy with ⟨p, _, rfl⟩
  exact ⟨rfl, rfl⟩

/-- What one report fails another of the same document fails as well. -/
theorem exists_fails_of_same (h : Json.same r.toJson s.toJson = true) (ho : r.Fails site o) :
    exists p, s.Fails site p ∧ o.SameBuckets p := by
  by_cases hr : exists first, r.IsHostAlone first
  · rcases hr with ⟨first, hr⟩
    rcases hr.eq_of_found ho.found with ⟨rfl, rfl⟩
    by_cases hs : exists second, s.IsHostAlone second
    · rcases hs with ⟨second, hs⟩
      rw [hr.toJson_eq, hs.toJson_eq] at h
      have hbuckets := Outcome.sameBuckets_of_same h
      have hfound : Table.get? s "" = some second := by
        rw [get?_eq_some_iff, hs]
        exact List.mem_singleton_self _
      exact ⟨second, ⟨hfound, hbuckets.passed_eq.symm.trans ho.failed⟩, hbuckets⟩
    · rcases Outcome.exists_field?_of_failed ho.failed with ⟨name, x, hx⟩
      rw [← hr.toJson_eq] at hx
      rcases Json.exists_field?_of_same h hx with ⟨y, hy, hsame⟩
      rw [(not_same_of_forms hr (not_exists.mp hs) hx hy).1] at hsame
      cases hsame
  · have hfield := (field?_toJson_eq_some_iff (not_exists.mp hr)).mpr ⟨o, ho, rfl⟩
    rcases Json.exists_field?_of_same h hfield with ⟨y, hy, hsame⟩
    by_cases hs : exists second, s.IsHostAlone second
    · rcases hs with ⟨second, hs⟩
      rw [(not_same_of_forms hs (not_exists.mp hr) hy hfield).2] at hsame
      cases hsame
    · rcases (field?_toJson_eq_some_iff (not_exists.mp hs)).mp hy with ⟨p, hp, rfl⟩
      exact ⟨p, hp, Outcome.sameBuckets_of_same hsame⟩

theorem toJson_eq_empty_iff : r.toJson = .object [] ↔ r.passed = true := by
  by_cases hr : exists first, r.IsHostAlone first
  · rcases hr with ⟨first, hr⟩
    have hpassed : r.passed = first.passed := by
      unfold passed
      rw [hr]
      simp
    rw [hr.toJson_eq, Outcome.toJson_eq_empty_iff, hpassed]
  · rw [passed_iff_not_fails]
    constructor
    · intro h site o hfails
      have hfield := (field?_toJson_eq_some_iff (not_exists.mp hr)).mpr ⟨o, hfails, rfl⟩
      rw [h] at hfield
      cases hfield
    · intro h
      rw [toJson_of_not_hostAlone (not_exists.mp hr)]
      unfold failures
      rw [List.filter_eq_nil_iff.mpr, List.map_nil]
      intro entry hentry hfailed
      exact h entry.1 entry.2 ⟨get?_eq_some_iff.mpr hentry, (Bool.not_eq_true' _).mp hfailed⟩

theorem field?_toJson_of_passed (hfound : Table.get? r site = some o) (hpassed : o.passed = true) :
    r.toJson.field? site = none := by
  by_cases hr : exists first, r.IsHostAlone first
  · rcases hr with ⟨first, hr⟩
    rcases hr.eq_of_found hfound with ⟨rfl, rfl⟩
    rw [hr.toJson_eq, Outcome.toJson_eq_empty_iff.mpr hpassed]
    rfl
  · rw [Option.eq_none_iff_forall_ne_some]
    intro value hvalue
    rcases (field?_toJson_eq_some_iff (not_exists.mp hr)).mp hvalue with ⟨p, hp, _⟩
    have heq : o = p := Option.some.inj (hfound.symm.trans hp.found)
    rw [heq, hp.failed] at hpassed
    cases hpassed

/-- The document of a report is always an object, and an empty one exactly if the report passes.
It has no field for a namespace that passes.  Reports whose documents are the same fail the same
namespaces, with the same mismatches in the same order, whatever the namespaces are called and
whatever the records of the routing daemon hold. -/
theorem tells_failures (r : Report) :
    (exists fields, r.toJson = .object fields) ∧
      (r.toJson = .object [] ↔ r.passed = true) ∧
      (∀ site o, Table.get? r site = some o → o.passed = true → r.toJson.field? site = none) ∧
      ∀ s : Report, Json.same r.toJson s.toJson = true →
        (∀ site, (exists o, r.Fails site o) ↔ exists p, s.Fails site p) ∧
          ∀ site o p, r.Fails site o → s.Fails site p → o.SameBuckets p := by
  refine ⟨exists_object r, toJson_eq_empty_iff, fun _ _ => field?_toJson_of_passed, ?_⟩
  intro s hsame
  constructor
  · intro site
    constructor
    · intro hr
      rcases hr with ⟨o, ho⟩
      rcases exists_fails_of_same hsame ho with ⟨p, hp, _⟩
      exact ⟨p, hp⟩
    · intro hs
      rcases hs with ⟨p, hp⟩
      rcases exists_fails_of_same (Json.same_symm hsame) hp with ⟨o, ho, _⟩
      exact ⟨o, ho⟩
  · intro site o p ho hp
    rcases exists_fails_of_same hsame ho with ⟨other, hother, hbuckets⟩
    have heq : other = p := Option.some.inj (hother.found.symm.trans hp.found)
    rw [← heq]
    exact hbuckets

/-- An outcome with one record of the routing daemon, in which a zero stands. -/
def zeroOutcome (negative : Bool) : Outcome :=
  ⟨[], [], [], [.object [("metric", .number (.real (.zero negative)))]]⟩

/-- A namespace that passes beside one that is called like a bucket. -/
def crowdedReport : Report :=
  insert (insert .empty "asic0" ⟨[], [], [], []⟩) "missed_FRR_routes" (zeroOutcome true)

def loneReport : Report := insert .empty "missed_FRR_routes" (zeroOutcome false)

theorem tells_failures_of_crowdedReport :
    Json.same crowdedReport.toJson loneReport.toJson = true ∧
      crowdedReport.toJson.field? "asic0" = none ∧
      crowdedReport.toJson ≠ .object [] ∧
      (zeroOutcome true).SameBuckets (zeroOutcome false) := by
  have hsame : Json.same crowdedReport.toJson loneReport.toJson = true := by decide +kernel
  have hpassing : Table.get? crowdedReport "asic0" = some ⟨[], [], [], []⟩ := by
    unfold crowdedReport insert
    rw [Table.get?_set_of_ne (by decide), Table.get?_set_self]
  have hcrowded : crowdedReport.Fails "missed_FRR_routes" (zeroOutcome true) :=
    ⟨Table.get?_set_self, rfl⟩
  have hlone : loneReport.Fails "missed_FRR_routes" (zeroOutcome false) :=
    ⟨Table.get?_set_self, rfl⟩
  rcases tells_failures crowdedReport with ⟨_, hempty, habsent, htold⟩
  refine ⟨hsame, habsent _ _ hpassing rfl, ?_, (htold loneReport hsame).2 _ _ _ hcrowded hlone⟩
  rw [ne_eq, hempty, passed_iff_not_fails]
  exact fun h => h _ _ hcrowded

end Report
end RouteAudit
