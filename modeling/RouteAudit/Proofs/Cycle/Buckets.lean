import RouteAudit.Proofs.Cycle.Outcome

/-!
# The lists of an outcome

In a calm world the mismatches that a cycle reports are exactly those that the tables, the
late changes and the exclusions leave: routes that are intended and not programmed, and
routes that are programmed and not intended.  Missing interface addresses are reported
whatever arrives in the window.
-/

namespace RouteAudit
namespace Check

open Difference Exclusion

variable {c : Check} {store : Store} {w : World} {k : RouteKey} {changes : List Change}

/-!
# Settled mismatches
-/

theorem mem_missedRoutes_settled (hrules : c.rules = standard) :
    k ∈ (c.settled store changes).missedRoutes ↔ k ∈ store.intended.keys ∧
      k ∉ store.programmed ∧ ⟨.add, k⟩ ∉ changes ∧
      ¬Benign store c.locals c.settings.fabricStart k := by
  unfold settled
  rw [mem_missedRoutes_explained, Mismatches.mem_missedRoutes_ofSnapshot, hrules,
    ← excluded_iff_benign, and_assoc]
  simp only [not_exists, not_and, Bool.not_eq_true]
  rfl

theorem mem_unaccounted_settled (hrules : c.rules = standard) :
    k ∈ (c.settled store changes).unaccounted ↔ k ∈ store.programmed ∧
      k ∉ store.intended.keys ∧ k ∉ store.interfaceHosts ∧ ⟨.remove, k⟩ ∉ changes ∧
      ¬Benign store c.locals c.settings.fabricStart k := by
  unfold settled
  rw [mem_unaccounted_explained, Mismatches.mem_unaccounted_ofSnapshot, hrules,
    ← excluded_iff_benign, and_assoc, and_assoc]
  simp only [not_exists, not_and, Bool.not_eq_true]
  rfl

theorem mem_missedInterfaces_settled :
    k ∈ (c.settled store changes).missedInterfaces ↔
      k ∈ store.interfaceHosts ∧ k ∉ store.programmed := by
  unfold settled
  rw [missedInterfaces_explained, Mismatches.mem_missedInterfaces_ofSnapshot]
  rfl

theorem ascends_missedInterfaces_settled :
    Ascends (c.settled store changes).missedInterfaces := by
  unfold settled
  rw [missedInterfaces_explained, Mismatches.missedInterfaces_ofSnapshot]
  exact ascends_without store.interfaceHosts.ascending

theorem not_mem_missedRoutes_of_add (hadd : ⟨.add, k⟩ ∈ changes) :
    k ∉ (c.settled store changes).missedRoutes := by
  unfold settled
  rw [mem_missedRoutes_explained]
  intro hparts
  rcases hparts with ⟨_, hnone, _⟩
  exact hnone hadd

/-!
# Outcomes
-/

/-- The outcome of a cycle that asks no daemon, as sets: the differences of the tables, less
what late changes credit and what is benign. -/
theorem cycle_buckets (hcalm : w.IsCalm c.site store) (hrules : c.rules = standard)
    (hdaemon : c.daemon = none) (hwindow : 0 < c.settings.windowMillis)
    (htime : drainStart store w.now < w.deadline) :
    exists o v changes, w.run c.cycle = (.ok o, v) ∧
      changes = c.lateChanges store w.now w.deadline ∧
      (store.upcoming = none → changes = store.scripted) ∧
      o.missedDaemonRoutes = [] ∧
      Ascends o.missedRoutes ∧ Ascends o.missedInterfaces ∧ Ascends o.unaccounted ∧
      (∀ k, k ∈ o.missedRoutes ↔ k ∈ store.intended.keys ∧ k ∉ store.programmed ∧
        ⟨.add, k⟩ ∉ changes ∧ ¬Benign store c.locals c.settings.fabricStart k) ∧
      (∀ k, k ∈ o.unaccounted ↔ k ∈ store.programmed ∧ k ∉ store.intended.keys ∧
        k ∉ store.interfaceHosts ∧ ⟨.remove, k⟩ ∉ changes ∧
        ¬Benign store c.locals c.settings.fabricStart k) ∧
      (∀ k, k ∈ o.missedInterfaces → k ∈ store.interfaceHosts ∧ k ∉ store.programmed) ∧
      (∀ k, k ∈ store.interfaceHosts → k ∉ store.programmed → ⟨.add, k⟩ ∉ changes →
        k ∈ o.missedInterfaces) := by
  rcases run_of_no_daemon hcalm hdaemon with ⟨o, v, hrun, rfl⟩
  refine ⟨_, v, c.lateChanges store w.now w.deadline, hrun, rfl, ?_, rfl, ?_, ?_, ?_, ?_, ?_, ?_, ?_⟩
  · intro hkept
    exact lateChanges_of_scripted hkept hwindow htime
  · exact Ascending.ascending _
  · exact ascends_missedInterfaces_settled
  · exact Ascending.ascending _
  · exact fun k => mem_missedRoutes_settled hrules
  · exact fun k => mem_unaccounted_settled hrules
  · exact fun k hk => mem_missedInterfaces_settled.mp hk
  · exact fun k hinterface hprogrammed _ =>
      mem_missedInterfaces_settled.mpr ⟨hinterface, hprogrammed⟩

def mixedStore : Store :=
  ((((Store.empty.addRoute "10.0.0.0/24" "Ethernet0" "10.1.0.1").addRoute
    "10.0.2.0/24" "Ethernet0" "10.1.0.1").addRoute "0.0.0.0/0" "Ethernet0" "10.1.0.1").addProgrammed
    "10.0.1.0/24").announce ⟨.add, .network 10 0 2⟩

theorem cycle_buckets_of_mixedStore :
    exists o v, (World.around mixedStore).run plain.cycle = (.ok o, v) ∧
      ⟨.v4 #v[10, 0, 0, 0], 24, by decide⟩ ∈ o.missedRoutes ∧
      ⟨.v4 #v[10, 0, 2, 0], 24, by decide⟩ ∉ o.missedRoutes ∧
      ⟨.v4 #v[0, 0, 0, 0], 0, by decide⟩ ∉ o.missedRoutes ∧
      ⟨.v4 #v[10, 0, 1, 0], 24, by decide⟩ ∈ o.unaccounted ∧ o.missedDaemonRoutes = [] := by
  have hcalm : (World.around mixedStore).IsCalm plain.site mixedStore :=
    World.isCalm_around rfl (by decide)
  rcases cycle_buckets hcalm rfl rfl (by decide) (by decide) with
    ⟨o, v, changes, hrun, _, hchanges, hdaemon, _, _, _, hmissed, hunaccounted, _, _⟩
  obtain rfl := hchanges rfl
  refine ⟨o, v, hrun, ?_, ?_, ?_, ?_, hdaemon⟩
  · refine (hmissed _).mpr ⟨by decide +kernel, by decide +kernel, by decide +kernel, ?_⟩
    rw [← excluded_iff_benign]
    decide +kernel
  · intro hk
    exact ((hmissed _).mp hk).2.2.1 List.mem_cons_self
  · intro hk
    exact ((hmissed _).mp hk).2.2.2 (Benign.defaultRoute rfl)
  · refine (hunaccounted _).mpr
      ⟨by decide +kernel, by decide +kernel, by decide +kernel, by decide +kernel, ?_⟩
    rw [← excluded_iff_benign]
    decide +kernel

/-!
# Keys in flight
-/

/-- A key that is added while the window is open is no missing route, whatever the rules
and the daemon say.  It is still a missing interface address exactly if the tables had it
as one when they were read. -/
theorem cycle_in_flight (hcalm : w.IsCalm c.site store)
    (hadd : ⟨.add, k⟩ ∈ c.lateChanges store w.now w.deadline) :
    (c.daemon = none → exists o v, w.run c.cycle = (.ok o, v)) ∧
    ∀ o v, w.run c.cycle = (.ok o, v) →
      k ∉ o.missedRoutes ∧
      (k ∈ o.missedInterfaces ↔ k ∈ store.interfaceHosts ∧ k ∉ store.programmed) := by
  constructor
  · intro hdaemon
    rcases run_of_no_daemon hcalm hdaemon with ⟨o, v, hrun, _⟩
    exact ⟨o, v, hrun⟩
  · intro o v hrun
    rcases outcome_of_run hcalm hrun with ⟨records, rfl⟩
    exact ⟨not_mem_missedRoutes_of_add hadd, mem_missedInterfaces_settled⟩

/-- An interface address whose host route is programmed while the window is open. -/
def lateInterfaceStore : Store :=
  (Store.empty.addInterface "Ethernet0" "10.0.0.1/24").announce
    ⟨.add, ⟨.v4 #v[10, 0, 0, 1], 32, by decide⟩⟩

theorem isCalm_lateInterfaceStore :
    (World.around lateInterfaceStore).IsCalm plain.site lateInterfaceStore :=
  World.isCalm_around rfl (by decide)

theorem lateChanges_lateInterfaceStore :
    ⟨.add, ⟨.v4 #v[10, 0, 0, 1], 32, by decide⟩⟩ ∈
      plain.lateChanges lateInterfaceStore 0 (World.around lateInterfaceStore).deadline := by
  rw [lateChanges_of_scripted rfl (by decide) (by decide)]
  exact List.mem_cons_self

theorem cycle_in_flight_of_lateInterfaceStore :
    exists o v, (World.around lateInterfaceStore).run plain.cycle = (.ok o, v) ∧
      ⟨.v4 #v[10, 0, 0, 1], 32, by decide⟩ ∉ o.missedRoutes := by
  rcases cycle_in_flight isCalm_lateInterfaceStore lateChanges_lateInterfaceStore with
    ⟨hruns, hbuckets⟩
  rcases hruns rfl with ⟨o, v, hrun⟩
  exact ⟨o, v, hrun, (hbuckets o v hrun).1⟩

theorem lateInterface_reported_missing :
    exists o v k, (World.around lateInterfaceStore).run plain.cycle = (.ok o, v) ∧
      ⟨.add, k⟩ ∈ plain.lateChanges lateInterfaceStore 0
        (World.around lateInterfaceStore).deadline ∧
      k ∈ o.missedInterfaces := by
  rcases run_of_no_daemon isCalm_lateInterfaceStore rfl with ⟨o, v, hrun, rfl⟩
  refine ⟨_, v, _, hrun, lateChanges_lateInterfaceStore, ?_⟩
  exact mem_missedInterfaces_settled.mpr ⟨by decide +kernel, by decide +kernel⟩

end Check
end RouteAudit
