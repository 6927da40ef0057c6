import RouteAudit.Proofs.Cycle.Buckets
import RouteAudit.Proofs.Cycle.Result
import RouteAudit.Proofs.Store.Views

/-!
# What an outcome depends on

The outcome of a cycle depends on the rows that are meant for it, on the keys that are added or
removed while its window is open, and on the reads of its daemon.  Rows of other tables have no
part in it, nor have other fields, the order of changes or their number.
-/

namespace RouteAudit

namespace Check

variable {c : Check} {store other : Store} {w u : World}

/-!
# What is settled
-/

theorem settled_same {changes others : List Change} (h : store.ShowsSame other)
    (hchanges : ∀ change, change ∈ changes ↔ change ∈ others) :
    c.settled store changes = c.settled other others := by
  unfold settled explained
  rw [Store.snapshot_congr h, Store.intended_congr h.routes, Store.context_congr h,
    Drained.ofChanges_congr hchanges]

/-!
# Results
-/

/-- Two cycles have the same result, which is an outcome unless a read of the daemon fails. -/
def SameResult (c : Check) (w u : World) : Prop :=
  exists result : Attempt Outcome, (w.run c.cycle).1 = World.replyOf result ∧
    (u.run c.cycle).1 = World.replyOf result ∧
    ∀ f, result = .error f → exists daemon settings j, c.daemon = some (daemon, settings) ∧
      w.readAt daemon j = .error f

theorem daemonReport_congr {r q : Nat → Nat → DaemonRead} (h : store.ShowsSame other)
    (hreads : ∀ daemon settings, c.daemon = some (daemon, settings) → r daemon = q daemon) :
    c.daemonReport store r = c.daemonReport other q := by
  unfold daemonReport
  cases hdaemon : c.daemon with
  | none => rfl
  | some daemon =>
      rcases daemon with ⟨daemon, settings⟩
      dsimp only
      rw [h.suppressing, hreads daemon settings hdaemon]

theorem exists_read_of_result {changes : List Change} {r : Nat → Nat → DaemonRead} {f : Failure}
    (h : c.result store changes r = .error f) :
    exists daemon settings j, c.daemon = some (daemon, settings) ∧ r daemon j = .error f := by
  have hreport : c.daemonReport store r = .error f := by
    unfold result at h
    cases hreport : c.daemonReport store r with
    | ok records =>
        rw [hreport] at h
        cases h
    | error g =>
        rw [hreport] at h
        cases h
        rfl
  unfold daemonReport at hreport
  cases hdaemon : c.daemon with
  | none =>
      rw [hdaemon] at hreport
      cases hreport
  | some daemon =>
      rcases daemon with ⟨daemon, settings⟩
      rw [hdaemon] at hreport
      dsimp only at hreport
      split at hreport
      · rcases ControlPlane.exists_read_of_follow hreport with ⟨j, hj⟩
        exact ⟨daemon, settings, j, rfl, hj⟩
      · cases hreport

theorem sameResult_of_lateChanges (hw : w.IsCalm c.site store) (hu : u.IsCalm c.site other)
    (hsame : store.ShowsSame other)
    (hreads : ∀ daemon settings, c.daemon = some (daemon, settings) →
      w.readAt daemon = u.readAt daemon)
    (hlate : ∀ change, change ∈ c.lateChanges store w.now w.deadline ↔
      change ∈ c.lateChanges other u.now u.deadline) : c.SameResult w u := by
  refine ⟨_, run_cycle hw, ?_, fun f hf => exists_read_of_result hf⟩
  rw [run_cycle hu]
  unfold result
  rw [← settled_same hsame hlate, ← daemonReport_congr hsame hreads]

/-- The outcome depends on nothing but the rows that are meant for it, the reads of the daemon,
and the sets of keys that are added and removed: those that arrive in the window, or, where the
changes are all there from the start, those of the changes that are kept. -/
theorem cycle_of_same_views (hw : w.IsCalm c.site store) (hu : u.IsCalm c.site other)
    (hsame : store.ShowsSame other)
    (hreads : ∀ daemon settings, c.daemon = some (daemon, settings) →
      w.readAt daemon = u.readAt daemon) :
    ((∀ change, change ∈ c.lateChanges store w.now w.deadline ↔
        change ∈ c.lateChanges other u.now u.deadline) → c.SameResult w u) ∧
    (store.upcoming = none → other.upcoming = none →
      (drainStart store w.now < w.deadline ↔ drainStart other u.now < u.deadline) →
      (∀ change, change ∈ store.scripted ↔ change ∈ other.scripted) → c.SameResult w u) := by
  constructor
  · exact sameResult_of_lateChanges hw hu hsame hreads
  · intro hkept hother htime hscripted
    apply sameResult_of_lateChanges hw hu hsame hreads
    intro change
    by_cases hopen : 0 < c.settings.windowMillis ∧ drainStart store w.now < w.deadline
    · rw [lateChanges_of_scripted hkept hopen.1 hopen.2,
        lateChanges_of_scripted hother hopen.1 (htime.mp hopen.2), hscripted]
    · have hclosed : ¬(0 < c.settings.windowMillis ∧ drainStart other u.now < u.deadline) := by
        rw [← htime]
        exact hopen
      rw [lateChanges_of_closed hopen, lateChanges_of_closed hclosed]

/-!
# A table with a longer name
-/

/-- One route that is not programmed, and one that is programmed while the window is open. -/
def plainStore : Store :=
  { (Store.empty.addRoute "10.0.0.0/24" "Ethernet0" "10.1.0.1").addRoute
      "10.0.2.0/24" "Ethernet0" "10.1.0.1" with
    scripted := [⟨.add, .network 10 0 2⟩, ⟨.remove, .network 10 0 3⟩] }

/-- A store with rows of two other tables. -/
def withForeignRows (s : Store) : Store :=
  (s.insert .appl "ROUTE_TABLE_KEY_SET:10.0.9.0/24" [("ifname", "Ethernet0")]).insert
    .config "DEVICE_METADATA|peer" [("subtype", "DualToR")]

theorem showsSame_withForeignRows (s : Store) : (withForeignRows s).ShowsSame s := by
  have hkeys : (s.insert .appl "ROUTE_TABLE_KEY_SET:10.0.9.0/24"
      [("ifname", "Ethernet0")]).ShowsSame s := Store.showsSame_insert (by decide)
  exact (Store.showsSame_insert (by decide)).trans hkeys

/-- With such rows beside its own, and with its changes in another order. -/
def crowdedStore : Store :=
  { withForeignRows plainStore with
    scripted := [⟨.remove, .network 10 0 3⟩, ⟨.add, .network 10 0 2⟩, ⟨.add, .network 10 0 2⟩] }

theorem showsSame_crowdedStore : crowdedStore.ShowsSame plainStore := by
  have hrows : crowdedStore.rows = (withForeignRows plainStore).rows := rfl
  exact (Store.ShowsSame.of_rows hrows).trans (showsSame_withForeignRows plainStore)

theorem cycle_of_same_views_of_crowdedStore :
    exists o v x, (World.around crowdedStore).run plain.cycle = (.ok o, v) ∧
      (World.around plainStore).run plain.cycle = (.ok o, x) ∧
      ⟨.v4 #v[10, 0, 0, 0], 24, by decide⟩ ∈ o.missedRoutes ∧
      ⟨.v4 #v[10, 0, 2, 0], 24, by decide⟩ ∉ o.missedRoutes := by
  have hcrowded : (World.around crowdedStore).IsCalm plain.site crowdedStore :=
    World.isCalm_around rfl (by decide)
  have hplain : (World.around plainStore).IsCalm plain.site plainStore :=
    World.isCalm_around rfl (by decide)
  have hscripted : ∀ change, change ∈ crowdedStore.scripted ↔ change ∈ plainStore.scripted := by
    intro change
    simp only [crowdedStore, plainStore, List.mem_cons, List.not_mem_nil]
    tauto
  rcases (cycle_of_same_views hcrowded hplain showsSame_crowdedStore
    (fun _ _ hdaemon => by cases hdaemon)).2 rfl rfl (by decide) hscripted with
    ⟨result, hfirst, hsecond, hfails⟩
  rcases run_of_no_daemon hplain rfl with ⟨o, x, hrun, ho⟩
  cases hrun' : (World.around crowdedStore).run plain.cycle with
  | mk found v =>
      rw [hrun'] at hfirst
      rw [hrun] at hsecond
      obtain rfl : found = .ok o := hfirst.trans hsecond.symm
      rw [lateChanges_of_scripted rfl (by decide) (by decide)] at ho
      refine ⟨o, v, x, rfl, hrun, ?_, ?_⟩
      · rw [ho]
        refine (mem_missedRoutes_settled rfl).mpr
          ⟨by decide +kernel, by decide +kernel, by decide +kernel, ?_⟩
        rw [← Exclusion.excluded_iff_benign]
        decide +kernel
      · rw [ho]
        exact not_mem_missedRoutes_of_add List.mem_cons_self

end Check
end RouteAudit
