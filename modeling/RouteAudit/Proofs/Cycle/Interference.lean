import RouteAudit.Proofs.Cycle.Outcome
import RouteAudit.Proofs.Gathering.Requests
import RouteAudit.Proofs.Store.Concurrent

/-!
# A cycle beside another process

While a cycle runs, another process programs and withdraws routes.  What the cycle reports
held all the same from the moment at which it read the programmed routes to the end of its
window: the changes that it was told since its subscription make up for those that its reads
could not see.
-/

namespace RouteAudit

open Program

/-!
# Programs that mark nothing
-/

namespace History

theorem allows_isPlain (site : String) : Gathering.Allows IsPlain (fun _ => True) site where
  keys _ _ _ hdb := hdb
  row _ _ _ := trivial

theorem keeps_askDaemon (c : Check) : Keeps IsPlain c.askDaemon := by
  refine c.keeps_askDaemon.mono ?_
  intro q hq
  cases q with
  | enter stage => trivial
  | row site db key => trivial
  | fetch daemon => trivial
  | pause duration stage => trivial
  | _ => exact absurd hq id

/-!
# The snapshot
-/

variable {h : History} {s : State} {k : RouteKey}

theorem not_isLinkLocal_of_parseRoute {key : String}
    (hkey : (TableKey.parseRoute key).value = some k) : k.isLinkLocal = false := by
  unfold TableKey.parseRoute at hkey
  split at hkey
  · cases hkey
  · split at hkey
    · rename_i l _
      by_cases hlocal : l.isLinkLocal = true
      · rw [if_pos hlocal] at hkey
        cases hkey
      · rw [if_neg hlocal] at hkey
        cases hkey
        exact Bool.not_eq_true _ ▸ hlocal
    · cases hkey

/-- Link-local destinations are never intended, whatever rows are read. -/
theorem not_isLinkLocal_of_mem_keys {rows : List Row}
    (hk : k ∈ Routes.keys (.ofList (Logged.filterMap IntendedRoute.ofTableRow rows).value)) :
    k.isLinkLocal = false := by
  rcases Routes.mem_keys.mp hk with ⟨r, hr, rfl⟩
  rcases Store.mem_filterMap.mp (Ascending.mem_of_mem_ofList hr) with ⟨row, _, hrow⟩
  rw [Store.ofTableRow_value] at hrow
  rcases Option.map_eq_some_iff.mp hrow with ⟨l, hl, rfl⟩
  exact not_isLinkLocal_of_parseRoute hl

/-- The programmed routes are those of the moment at which they are read. -/
theorem ensures_programmedRoutes {site : String} :
    Ensures h.surroundings (Gathering.programmedRoutes site) s fun programmed t =>
      t.subscribed = s.subscribed ∧ s.done ≤ t.readAt ∧ h.DoneBy t.clock t.readAt ∧
      ∀ k, k ∈ programmed ↔ (h.storeAt t.readAt).HoldsEntry k ∧ k.isLinkLocal = false := by
  unfold Gathering.programmedRoutes keysOf
  rw [ensures_bind, ensures_request (q := .keys site .asic _) trivial]
  refine ⟨trivial, ?_⟩
  intro keys t hparts
  rcases hparts with ⟨u, ⟨hsu, hfits⟩, hkeys, rfl⟩
  rw [ensures_bind, ensures_ofLogged, ensures_pure, if_pos rfl]
  refine ⟨hsu.subscribed, hsu.done, hfits.1, ?_⟩
  intro k
  rw [KeySet.mem_ofList, Store.mem_filterMap]
  constructor
  · intro hparts
    rcases hparts with ⟨key, hkey, hparse⟩
    rcases RouteEntry.parseProgrammed_eq_some_iff.mp hparse with ⟨hvalue, hlocal⟩
    exact ⟨⟨key, (hkeys key).mp hkey, hvalue⟩, hlocal⟩
  · intro hparts
    rcases hparts with ⟨⟨key, hkey, hvalue⟩, hlocal⟩
    exact ⟨key, (hkeys key).mpr hkey, RouteEntry.parseProgrammed_eq_some_iff.mpr ⟨hvalue, hlocal⟩⟩

/-- What a snapshot says of the moment at which the programmed routes were read. -/
structure Sees (h : History) (snapshot : Snapshot) (t : State) : Prop where
  marks : t.subscribed ≤ t.readAt
  done : h.DoneBy t.clock t.readAt
  programmed : ∀ k, k ∈ snapshot.programmed ↔
    (h.storeAt t.readAt).HoldsEntry k ∧ k.isLinkLocal = false
  intended : ∀ k, k ∈ snapshot.routes.keys → k.isLinkLocal = false

theorem ensures_takeSnapshot {c : Check} :
    Ensures h.surroundings c.takeSnapshot s fun snapshot t => h.Sees snapshot t := by
  unfold Check.takeSnapshot Gathering.snapshot
  rw [ensures_bind, ensures_enter]
  refine ⟨trivial, ?_⟩
  intro _ t _
  rw [ensures_bind, ensures_request (q := .subscribe c.site) trivial]
  refine ⟨trivial, ?_⟩
  intro _ _ hparts
  rcases hparts with ⟨u, _, rfl⟩
  rw [ensures_bind]
  refine ensures_programmedRoutes.imp ?_
  intro programmed v hparts
  rcases hparts with ⟨hsubscribed, hread, hdone, hprogrammed⟩
  unfold Gathering.intendedRoutes
  rw [ensures_bind, ensures_bind]
  refine (ensures_plain ((allows_isPlain c.site).keeps_scan trivial (by decide))).imp ?_
  intro rows x hvx
  rw [ensures_bind, ensures_ofLogged, ensures_pure, ensures_bind]
  refine (ensures_plain ((allows_isPlain c.site).keeps_interfaceAddresses trivial)).imp ?_
  intro interfaces y hxy
  rw [ensures_bind, ensures_log, ensures_pure]
  have hvy := hvx.trans hxy
  refine ⟨?_, ?_, ?_, fun k hk => not_isLinkLocal_of_mem_keys hk⟩
  · rw [hvy.subscribed, hvy.readAt, hsubscribed]
    exact hread
  · rw [hvy.readAt]
    exact hdone.mono hvy.clock
  · rw [hvy.readAt]
    exact hprogrammed

/-!
# Comparing and explaining
-/

theorem ensures_compareTables {c : Check} {snapshot : Snapshot} :
    Ensures h.surroundings (c.compareTables snapshot) s fun m t =>
      m = .ofSnapshot snapshot ∧ After s t := by
  rw [Check.ensures_compareTables_iff, ensures_enter]
  refine ⟨trivial, ?_⟩
  intro _ t hparts
  rcases hparts with ⟨hst, _⟩
  exact ⟨rfl, hst⟩

/-- What is left of mismatches, with nothing told against it until the end of the window. -/
structure Leaves (h : History) (m n : Mismatches) (t : State) : Prop where
  missedRoutes : ∀ k, k ∈ n.missedRoutes →
    k ∈ m.missedRoutes ∧ t.readAt ≤ t.drainedAt ∧ h.Quiet t .add k
  unaccounted : ∀ k, k ∈ n.unaccounted →
    k ∈ m.unaccounted ∧ t.readAt ≤ t.drainedAt ∧ h.Quiet t .remove k

theorem Leaves.of_after {m n : Mismatches} {t u : State} (htu : After t u)
    (hleaves : h.Leaves m n t) : h.Leaves m n u := by
  refine ⟨?_, ?_⟩
  · intro k hk
    rcases hleaves.missedRoutes k hk with ⟨hmem, hdrained⟩
    exact ⟨hmem, drained_of_after htu hdrained⟩
  · intro k hk
    rcases hleaves.unaccounted k hk with ⟨hmem, hdrained⟩
    exact ⟨hmem, drained_of_after htu hdrained⟩

theorem ensures_reconcile {c : Check} {m : Mismatches} (hwindow : 0 < c.settings.windowMillis)
    (hdone : h.DoneBy s.clock s.readAt) :
    Ensures h.surroundings (c.reconcile m) s fun n t =>
      t.subscribed = s.subscribed ∧ t.readAt = s.readAt ∧ h.Leaves m n t := by
  rw [Check.ensures_reconcile_iff, ensures_enter]
  refine ⟨trivial, ?_⟩
  intro _ t hparts
  rcases hparts with ⟨hst, _⟩
  rw [ensures_request (q := .remaining) trivial]
  refine ⟨trivial, ?_⟩
  intro left u hparts
  rcases hparts with ⟨hleft, htu, _⟩
  refine (ensures_drain (Nat.lt_min.mpr ⟨hwindow, hleft⟩)).imp ?_
  intro drained v hparts
  rcases hparts with ⟨hsubscribed, hread, hmarks, hadds, hremoves⟩
  have hsu := hst.trans htu
  have hmarks' : v.readAt ≤ v.drainedAt := by
    apply hmarks
    rw [hsu.readAt]
    exact hdone.mono hsu.clock
  refine ⟨hsubscribed.trans hsu.subscribed, hread.trans hsu.readAt, ?_, ?_⟩
  · intro k hk
    rcases Ascending.mem_filter.mp hk with ⟨hmem, hnone⟩
    refine ⟨hmem, hmarks', hadds k ?_⟩
    rw [← KeySet.contains_iff, Bool.not_eq_true]
    exact Bool.not_eq_true' _ ▸ hnone
  · intro k hk
    rcases Ascending.mem_filter.mp hk with ⟨hmem, hnone⟩
    refine ⟨hmem, hmarks', hremoves k ?_⟩
    rw [← KeySet.contains_iff, Bool.not_eq_true]
    exact Bool.not_eq_true' _ ▸ hnone

theorem ensures_exclude {c : Check} {routes : Routes} {m : Mismatches} :
    Ensures h.surroundings (c.exclude routes m) s fun n t => After s t ∧
      (∀ k, k ∈ n.missedRoutes → k ∈ m.missedRoutes) ∧
      (∀ k, k ∈ n.unaccounted → k ∈ m.unaccounted) := by
  rw [Check.ensures_exclude_iff, ensures_enter]
  refine ⟨trivial, ?_⟩
  intro _ t hparts
  rcases hparts with ⟨hst, _⟩
  refine (ensures_plain ((allows_isPlain c.site).keeps_context trivial trivial _ _ _)).imp ?_
  intro ctx u htu
  exact ⟨hst.trans htu, fun k hk => (Exclusion.mem_apply.mp hk).1,
    fun k hk => (Exclusion.mem_apply.mp hk).1⟩

theorem ensures_explain {c : Check} {routes : Routes} {m : Mismatches}
    (hwindow : 0 < c.settings.windowMillis) (hdone : h.DoneBy s.clock s.readAt) :
    Ensures h.surroundings (c.explain routes m) s fun n t =>
      t.subscribed = s.subscribed ∧ t.readAt = s.readAt ∧ h.Leaves m n t := by
  unfold Check.explain
  by_cases hclean : m.isClean = true
  · rw [if_pos hclean]
    refine ⟨rfl, rfl, ?_, ?_⟩
    · intro k hk
      exact absurd hk (Mismatches.not_mem_of_isClean hclean).1
    · intro k hk
      exact absurd hk (Mismatches.not_mem_of_isClean hclean).2.2
  · rw [if_neg hclean, ensures_bind]
    refine (ensures_reconcile hwindow hdone).imp ?_
    intro n t hparts
    rcases hparts with ⟨hsubscribed, hread, hleaves⟩
    refine ensures_exclude.imp ?_
    intro o u hparts
    rcases hparts with ⟨htu, hmissed, hunaccounted⟩
    have hleaves' := hleaves.of_after htu
    refine ⟨htu.subscribed.trans hsubscribed, htu.readAt.trans hread, ?_, ?_⟩
    · intro k hk
      exact hleaves'.missedRoutes k (hmissed k hk)
    · intro k hk
      exact hleaves'.unaccounted k (hunaccounted k hk)

/-!
# The whole cycle
-/

/-- What an outcome says of the history: its lists are what a snapshot showed, and nothing
was told against them. -/
structure Reports (h : History) (o : Outcome) (t : State) : Prop where
  marks : t.subscribed ≤ t.readAt
  missedRoutes : ∀ k, k ∈ o.missedRoutes → k.isLinkLocal = false ∧
    ¬(h.storeAt t.readAt).HoldsEntry k ∧ t.readAt ≤ t.drainedAt ∧ h.Quiet t .add k
  unaccounted : ∀ k, k ∈ o.unaccounted → k.isLinkLocal = false ∧
    (h.storeAt t.readAt).HoldsEntry k ∧ t.readAt ≤ t.drainedAt ∧ h.Quiet t .remove k

theorem Reports.of_leaves {snapshot : Snapshot} {n : Mismatches} {records : List Json}
    {t u : State} (hsees : h.Sees snapshot t) (hsubscribed : u.subscribed = t.subscribed)
    (hread : u.readAt = t.readAt) (hleaves : h.Leaves (.ofSnapshot snapshot) n u) :
    h.Reports (n.outcome records) u := by
  refine ⟨?_, ?_, ?_⟩
  · rw [hsubscribed, hread]
    exact hsees.marks
  · intro k hk
    rcases hleaves.missedRoutes k hk with ⟨hmissed, hmarks, hquiet⟩
    rcases Mismatches.mem_missedRoutes_ofSnapshot.mp hmissed with ⟨hintended, hprogrammed⟩
    have hlocal := hsees.intended k hintended
    refine ⟨hlocal, ?_, hmarks, hquiet⟩
    rw [hread]
    intro hheld
    exact hprogrammed ((hsees.programmed k).mpr ⟨hheld, hlocal⟩)
  · intro k hk
    rcases hleaves.unaccounted k hk with ⟨hextra, hmarks, hquiet⟩
    rcases (hsees.programmed k).mp (Mismatches.mem_unaccounted_ofSnapshot.mp hextra).1 with
      ⟨hheld, hlocal⟩
    refine ⟨hlocal, ?_, hmarks, hquiet⟩
    rw [hread]
    exact hheld

theorem Reports.of_after {o : Outcome} {t u : State} (htu : After t u) (hreports : h.Reports o t) :
    h.Reports o u := by
  refine ⟨?_, ?_, ?_⟩
  · rw [htu.subscribed, htu.readAt]
    exact hreports.marks
  · intro k hk
    rcases hreports.missedRoutes k hk with ⟨hlocal, hheld, hdrained⟩
    rw [htu.readAt]
    exact ⟨hlocal, hheld, htu.readAt ▸ drained_of_after htu hdrained⟩
  · intro k hk
    rcases hreports.unaccounted k hk with ⟨hlocal, hheld, hdrained⟩
    rw [htu.readAt]
    exact ⟨hlocal, hheld, htu.readAt ▸ drained_of_after htu hdrained⟩

theorem ensures_conclude {o : Outcome} :
    Ensures h.surroundings (Check.conclude o) s fun p t => p = o ∧ After s t := by
  have hsame : Ensures h.surroundings (Check.conclude o) s fun p _ => p = o := by
    rw [Check.ensures_conclude_iff, ensures_enter]
    exact ⟨trivial, fun _ _ _ => rfl⟩
  exact hsame.and (ensures_plain (Check.keeps_conclude (fun _ => trivial) o))

theorem ensures_cycle {c : Check} (hwindow : 0 < c.settings.windowMillis) :
    Ensures h.surroundings c.cycle s fun o t => h.Reports o t := by
  unfold Check.cycle Check.stages
  rw [ensures_within, ensures_bind]
  refine ensures_takeSnapshot.imp ?_
  intro snapshot t hsees
  rw [ensures_bind]
  refine ensures_compareTables.imp ?_
  intro m u hparts
  rcases hparts with ⟨rfl, htu⟩
  rw [ensures_bind]
  have hdone : h.DoneBy u.clock u.readAt := by
    rw [htu.readAt]
    exact hsees.done.mono htu.clock
  refine (ensures_explain hwindow hdone).imp ?_
  intro n v hparts
  rcases hparts with ⟨hsubscribed, hread, hleaves⟩
  rw [ensures_bind]
  refine (ensures_plain (keeps_askDaemon c)).imp ?_
  intro records x hvx
  refine ensures_conclude.imp ?_
  intro o y hparts
  rcases hparts with ⟨rfl, hxy⟩
  have hreports : h.Reports (n.outcome records) v :=
    Reports.of_leaves hsees (hsubscribed.trans htu.subscribed) (hread.trans htu.readAt) hleaves
  exact hreports.of_after (hvx.trans hxy)

/-- A cycle can always be run to its end beside another process. -/
theorem exists_run {c : Check} (hwindow : 0 < c.settings.windowMillis)
    (hs : s.done ≤ h.actions.length) :
    exists o t, Yields h.surroundings c.cycle s o t :=
  (ensures_cycle hwindow).exists_yields (fun _ q ht _ => exists_answer q ht) hs

/-- However the actions of the other process fall between the requests of a cycle: a missing
route had no entry, and an unaccounted one had an entry, at every moment from the read of the
programmed routes to the end of the window; and if only intended routes are ever programmed,
a route that was first intended after that read is not unaccounted. -/
theorem cycle_beside_changes {c : Check} {t : State} {o : Outcome}
    (hwindow : 0 < c.settings.windowMillis) (hrun : Yields h.surroundings c.cycle s o t) :
    (∀ k, k ∈ o.missedRoutes → t.readAt ≤ t.drainedAt ∧
      ∀ n, t.readAt ≤ n → n ≤ t.drainedAt → ¬(h.storeAt n).HoldsEntry k) ∧
    (∀ k, k ∈ o.unaccounted → t.readAt ≤ t.drainedAt ∧
      ∀ n, t.readAt ≤ n → n ≤ t.drainedAt → (h.storeAt n).HoldsEntry k) ∧
    (h.Disciplined → ∀ k, (∀ n, n ≤ t.readAt → ¬(h.storeAt n).HasRoute k) →
      k ∉ o.unaccounted) := by
  have hreports := (ensures_cycle hwindow).of_yields hrun
  refine ⟨?_, ?_, ?_⟩
  · intro k hk
    rcases hreports.missedRoutes k hk with ⟨hlocal, hheld, hmarks, hquiet⟩
    refine ⟨hmarks, ?_⟩
    intro n hread hdrained
    refine not_holdsEntry_of_no_add hlocal hread hheld ?_
    intro i time hi hin
    exact hquiet i time (Nat.le_trans hreports.marks hi) (Nat.lt_of_lt_of_le hin hdrained)
  · intro k hk
    rcases hreports.unaccounted k hk with ⟨hlocal, hheld, hmarks, hquiet⟩
    refine ⟨hmarks, ?_⟩
    intro n hread hdrained
    refine holdsEntry_of_no_remove hlocal hread hheld ?_
    intro i time hi hin
    exact hquiet i time (Nat.le_trans hreports.marks hi) (Nat.lt_of_lt_of_le hin hdrained)
  · intro hdisciplined k hnever hk
    rcases hreports.unaccounted k hk with ⟨_, hheld, _⟩
    rcases hdisciplined.hasRoute hheld with ⟨m, hm, hroute⟩
    exact hnever m hm hroute

/-- A route that is intended first and programmed ten milliseconds later. -/
def lateRoute : History where
  origin := .empty
  actions :=
    [(10, .write .route "10.0.0.0/24" [("ifname", "Ethernet0"), ("nexthop", "10.1.0.1")]),
      (20, .write .entry (RouteEntry.object "10.0.0.0/24").compact [])]
  ordered := by simp

theorem disciplined_lateRoute : lateRoute.Disciplined where
  origin k hheld := by
    rcases hheld with ⟨key, hlisted, _⟩
    exact absurd (Store.mem_listed.mp hlisted).1 List.not_mem_nil
  writes n time short fields k ha hkey := by
    match n with
    | 0 => cases ha
    | 1 =>
        cases ha
        have hparsed : (RouteEntry.parseKey (Place.entry.key
            (RouteEntry.object "10.0.0.0/24").compact)).value =
              some ⟨.v4 #v[10, 0, 0, 0], 24, by decide⟩ := by decide +kernel
        rw [hparsed] at hkey
        cases hkey
        exact ⟨"ROUTE_TABLE:10.0.0.0/24", by decide +kernel, by decide +kernel⟩
    | n + 2 => cases ha

theorem cycle_beside_lateRoute :
    exists o t, Yields lateRoute.surroundings Check.plain.cycle ⟨0, 0, 0, 0, 0⟩ o t ∧
      (∀ k, k ∈ o.missedRoutes → ¬(lateRoute.storeAt t.drainedAt).HoldsEntry k) ∧
      (∀ k, k ∈ o.unaccounted → (lateRoute.storeAt t.drainedAt).HoldsEntry k) ∧
      ∀ k, (∀ n, n ≤ t.readAt → ¬(lateRoute.storeAt n).HasRoute k) → k ∉ o.unaccounted := by
  have hwindow : 0 < Check.plain.settings.windowMillis := by decide
  rcases exists_run (h := lateRoute) (s := ⟨0, 0, 0, 0, 0⟩) hwindow (Nat.zero_le _) with
    ⟨o, t, hrun⟩
  rcases cycle_beside_changes hwindow hrun with ⟨hmissed, hunaccounted, hfirst⟩
  refine ⟨o, t, hrun, ?_, ?_, hfirst disciplined_lateRoute⟩
  · intro k hk
    rcases hmissed k hk with ⟨hmarks, habsent⟩
    exact habsent t.drainedAt hmarks (Nat.le_refl _)
  · intro k hk
    rcases hunaccounted k hk with ⟨hmarks, hpresent⟩
    exact hpresent t.drainedAt hmarks (Nat.le_refl _)

end History
end RouteAudit
