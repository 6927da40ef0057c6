import RouteAudit.Proofs.Cycle.Refusals

/-!
# Repeated cycles

A cycle that passes may owe that to late changes.  A cycle after it, over the same tables and
without new changes, has the tables alone to look at: it reports exactly the keys for which the
first one needed a late change.
-/

namespace RouteAudit

/-- What a store has become when its changes were taken. -/
structure Store.Delivered (store n : Store) : Prop where
  rows : n.rows = store.rows
  failing : n.failing = store.failing
  scripted : n.scripted = []

namespace Check

variable {c : Check} {store : Store} {w v : World} {o : Outcome} {k : RouteKey}
  {changes : List Change}

/-- Whether the rules of a check leave a key alone. -/
def Leaves (c : Check) (store : Store) (k : RouteKey) : Prop :=
  ∀ r ∈ c.rules, r.excludes (store.context store.intended c.locals c.settings.fabricStart) k = false

instance : Decidable (c.Leaves store k) :=
  inferInstanceAs (Decidable (∀ r ∈ c.rules, _ = false))

/-- An intended route that is not programmed, where only a late change can excuse that. -/
def Lacks (c : Check) (store : Store) (k : RouteKey) : Prop :=
  k ∈ store.intended.keys ∧ k ∉ store.programmed ∧ c.Leaves store k

/-- A programmed route that nothing intends, where only a late change can excuse that. -/
def Exceeds (c : Check) (store : Store) (k : RouteKey) : Prop :=
  k ∈ store.programmed ∧ k ∉ store.intended.keys ∧ k ∉ store.interfaceHosts ∧ c.Leaves store k

/-!
# Settled mismatches and late changes
-/

theorem mem_missedRoutes_settled_iff :
    k ∈ (c.settled store changes).missedRoutes ↔ c.Lacks store k ∧ ⟨.add, k⟩ ∉ changes := by
  unfold settled Lacks Leaves
  rw [mem_missedRoutes_explained, Mismatches.mem_missedRoutes_ofSnapshot]
  constructor
  · intro hparts
    rcases hparts with ⟨⟨hintended, hprogrammed⟩, hadd, hleft⟩
    exact ⟨⟨hintended, hprogrammed, hleft⟩, hadd⟩
  · intro hparts
    rcases hparts with ⟨⟨hintended, hprogrammed, hleft⟩, hadd⟩
    exact ⟨⟨hintended, hprogrammed⟩, hadd, hleft⟩

theorem mem_unaccounted_settled_iff :
    k ∈ (c.settled store changes).unaccounted ↔ c.Exceeds store k ∧ ⟨.remove, k⟩ ∉ changes := by
  unfold settled Exceeds Leaves
  rw [mem_unaccounted_explained, Mismatches.mem_unaccounted_ofSnapshot]
  constructor
  · intro hparts
    rcases hparts with ⟨⟨hprogrammed, hintended, hinterface⟩, hremove, hleft⟩
    exact ⟨⟨hprogrammed, hintended, hinterface, hleft⟩, hremove⟩
  · intro hparts
    rcases hparts with ⟨⟨hprogrammed, hintended, hinterface, hleft⟩, hremove⟩
    exact ⟨⟨hprogrammed, hintended, hinterface⟩, hremove, hleft⟩

/-- Late changes have no part in the missing interface addresses. -/
theorem missedInterfaces_settled :
    (c.settled store changes).missedInterfaces =
      (Mismatches.ofSnapshot store.snapshot).missedInterfaces :=
  missedInterfaces_explained

/-- Where no mismatch is left, a late change excused each key that the tables lack or exceed. -/
theorem excused_of_isClean (h : (c.settled store changes).isClean = true) :
    (c.Lacks store k → ⟨.add, k⟩ ∈ changes) ∧ (c.Exceeds store k → ⟨.remove, k⟩ ∈ changes) := by
  rcases Mismatches.not_mem_of_isClean (k := k) h with ⟨hmissed, _, hunaccounted⟩
  rw [mem_missedRoutes_settled_iff] at hmissed
  rw [mem_unaccounted_settled_iff] at hunaccounted
  constructor
  · intro hlacks
    by_contra hnone
    exact hmissed ⟨hlacks, hnone⟩
  · intro hexceeds
    by_contra hnone
    exact hunaccounted ⟨hexceeds, hnone⟩

/-!
# Mismatches without the changes
-/

section Settled

variable {later : List Change} (hclean : (c.settled store changes).isClean = true)
  (hscripted : ∀ change ∈ changes, change ∈ store.scripted) (hquiet : ∀ change, change ∉ later)

include hclean hscripted hquiet

/-- Without the changes, a route is missing that needed one as an excuse. -/
theorem mem_missedRoutes_settled_later :
    k ∈ (c.settled store later).missedRoutes ↔ c.Lacks store k ∧ ⟨.add, k⟩ ∈ store.scripted := by
  rw [mem_missedRoutes_settled_iff]
  apply and_congr_right
  intro hlacks
  exact iff_of_true (hquiet _) (hscripted _ ((excused_of_isClean hclean).1 hlacks))

theorem mem_unaccounted_settled_later :
    k ∈ (c.settled store later).unaccounted ↔
      c.Exceeds store k ∧ ⟨.remove, k⟩ ∈ store.scripted := by
  rw [mem_unaccounted_settled_iff]
  apply and_congr_right
  intro hexceeds
  exact iff_of_true (hquiet _) (hscripted _ ((excused_of_isClean hclean).2 hexceeds))

omit hscripted hquiet in
theorem missedInterfaces_settled_later : (c.settled store later).missedInterfaces = [] := by
  rw [missedInterfaces_settled, ← missedInterfaces_settled (c := c)]
  apply List.eq_nil_iff_forall_not_mem.mpr
  exact fun k => (Mismatches.not_mem_of_isClean hclean).2.1

theorem isClean_settled_later_iff : (c.settled store later).isClean = true ↔
    (∀ k, c.Lacks store k → ⟨.add, k⟩ ∉ store.scripted) ∧
      ∀ k, c.Exceeds store k → ⟨.remove, k⟩ ∉ store.scripted := by
  rw [Mismatches.isClean_iff, missedInterfaces_settled_later hclean]
  simp only [mem_missedRoutes_settled_later hclean hscripted hquiet,
    mem_unaccounted_settled_later hclean hscripted hquiet, forall_and, not_and,
    List.not_mem_nil, not_false_eq_true, true_and]

end Settled

/-!
# Stores that have delivered their changes
-/

theorem not_mem_lateChanges (hscripted : store.scripted = []) (hkept : store.upcoming = none)
    (start deadline : Time) (change : Change) :
    change ∉ c.lateChanges store start deadline := by
  intro hlate
  have hmem := mem_scripted_of_mem_lateChanges hkept hlate
  rw [hscripted] at hmem
  exact List.not_mem_nil hmem

theorem run_of_firstRefusal_eq_none (h : w.Offers c.site store)
    (hdaemons : c.daemon ≠ none → w.DaemonsWork) (hnone : c.firstRefusal store = none) :
    exists v records, (c.daemon = none → records = []) ∧ w.run c.cycle =
      (.ok ((c.settled store (c.lateChanges store w.now w.deadline)).outcome records), v) := by
  rcases (run_cases h hdaemons).2 with
    ⟨o, v, hrun, _, records, hrecords, rfl⟩ | ⟨f, _, _, _, _, _, hsome, _⟩
  · exact ⟨v, records, hrecords, hrun⟩
  · rw [hnone] at hsome
    cases hsome

theorem delivered_of_run (h : w.Offers c.site store) (hdaemons : c.daemon ≠ none → w.DaemonsWork)
    (hnone : c.firstRefusal store = none) :
    exists n, (w.run c.cycle).2.Offers c.site n ∧ store.Delivered n := by
  rcases offers_after_run h hdaemons with ⟨n, hoffers, hrows, hfailing, hscripted⟩
  rw [refused_asic_of_none hnone] at hscripted
  exact ⟨n, hoffers, hrows, hfailing, hscripted⟩

/-!
# Cycles one after another
-/

/-- After a cycle that passed, the store is as it was, without the changes that it kept.  A cycle
over it misses no interface address.  It misses the routes that the tables lack and for which a
kept change was an addition, and finds unaccounted those that they exceed and for which one was
a removal.  So it passes, where the daemon has nothing to add, exactly if no change was needed
as an excuse. -/
theorem cycle_after_passed (h : w.Offers c.site store)
    (hdaemons : c.daemon ≠ none → w.DaemonsWork) (hrun : w.run c.cycle = (.ok o, v))
    (hpassed : o.passed = true) :
    (exists n, v.Offers c.site n ∧ store.Delivered n) ∧
    ∀ (u : World) (n : Store), u.Offers c.site n → store.Delivered n →
      (c.daemon ≠ none → u.DaemonsWork) →
      exists p x, u.run c.cycle = (.ok p, x) ∧ p.missedInterfaces = [] ∧
        (∀ k, k ∈ p.missedRoutes ↔ c.Lacks store k ∧ ⟨.add, k⟩ ∈ store.scripted) ∧
        (∀ k, k ∈ p.unaccounted ↔ c.Exceeds store k ∧ ⟨.remove, k⟩ ∈ store.scripted) ∧
        (c.daemon = none → p.missedDaemonRoutes = []) ∧
        (p.passed = true ↔ p.missedDaemonRoutes = [] ∧
          (∀ k, c.Lacks store k → ⟨.add, k⟩ ∉ store.scripted) ∧
          ∀ k, c.Exceeds store k → ⟨.remove, k⟩ ∉ store.scripted) := by
  obtain ⟨hnone, hclean⟩ : c.firstRefusal store = none ∧
      (c.settled store (c.lateChanges store w.now w.deadline)).isClean = true := by
    rcases (run_cases h hdaemons).2 with
      ⟨p, x, hsame, hnone, records, _, rfl⟩ | ⟨f, _, _, _, x, hsame, _⟩
    · rw [hrun] at hsame
      cases hsame
      exact ⟨hnone, (Mismatches.passed_outcome_iff.mp hpassed).1⟩
    · rw [hrun] at hsame
      cases hsame
  constructor
  · have hdelivered := delivered_of_run h hdaemons hnone
    rw [hrun] at hdelivered
    exact hdelivered
  · intro u n hoffers hdelivered hworking
    rcases run_of_firstRefusal_eq_none hoffers hworking
      ((firstRefusal_congr hdelivered.rows hdelivered.failing).trans hnone) with
      ⟨x, records, hrecords, hsecond⟩
    rw [settled_congr hdelivered.rows] at hsecond
    have hscripted : ∀ change ∈ c.lateChanges store w.now w.deadline, change ∈ store.scripted :=
      fun _ => mem_scripted_of_mem_lateChanges h.kept
    have hquiet : ∀ change, change ∉ c.lateChanges n u.now u.deadline :=
      not_mem_lateChanges hdelivered.scripted hoffers.kept u.now u.deadline
    refine ⟨_, x, hsecond, missedInterfaces_settled_later hclean,
      fun k => mem_missedRoutes_settled_later hclean hscripted hquiet,
      fun k => mem_unaccounted_settled_later hclean hscripted hquiet, hrecords, ?_⟩
    rw [Mismatches.passed_outcome_iff, isClean_settled_later_iff hclean hscripted hquiet, and_comm]
    exact Iff.rfl

/-- A store with a route that is intended, and a change that says that it was programmed. -/
def announcedStore : Store :=
  (Store.empty.addRoute "10.0.0.0/24" "Ethernet0" "10.1.0.1").announce ⟨.add, .network 10 0 0⟩

/-- The same store where it is programmed. -/
def programmedStore : Store := announcedStore.addProgrammed "10.0.0.0/24"

theorem offers_around {store : Store} (hkept : store.upcoming = none) :
    (World.around store).Offers plain.site store :=
  ⟨World.site_setSite_self (w := {}), hkept, rfl, rfl, rfl⟩

theorem no_daemon_of_plain {w : World} : plain.daemon ≠ none → w.DaemonsWork :=
  fun hdaemon => absurd rfl hdaemon

theorem run_around (store : Store) (hkept : store.upcoming = none) (hdelay : store.delay = none)
    (hnone : plain.firstRefusal store = none) :
    exists v, (World.around store).run plain.cycle =
      (.ok ((plain.settled store store.scripted).outcome []), v) := by
  rcases run_of_firstRefusal_eq_none (offers_around hkept) no_daemon_of_plain hnone with
    ⟨v, records, hrecords, hrun⟩
  have htime : @LT.lt Nat _ (drainStart store 0) 60000 := by
    unfold drainStart
    rw [hdelay]
    decide
  have hlate : plain.lateChanges store (World.around store).now (World.around store).deadline =
      store.scripted := lateChanges_of_scripted hkept (by decide) htime
  rw [hrecords rfl, hlate] at hrun
  exact ⟨v, hrun⟩

theorem cycle_after_passed_of_programmedStore :
    exists o v p x, (World.around programmedStore).run plain.cycle = (.ok o, v) ∧
      o.passed = true ∧ v.run plain.cycle = (.ok p, x) ∧ p.passed = true := by
  rcases run_around programmedStore rfl rfl (by decide +kernel) with ⟨v, hrun⟩
  have hpassed : ((plain.settled programmedStore programmedStore.scripted).outcome []).passed =
      true := by decide +kernel
  rcases cycle_after_passed (offers_around rfl) no_daemon_of_plain hrun hpassed with
    ⟨⟨n, hoffers, hdelivered⟩, hafter⟩
  rcases hafter v n hoffers hdelivered no_daemon_of_plain with
    ⟨p, x, hsecond, _, _, _, hdaemon, hiff⟩
  refine ⟨_, v, p, x, hrun, hpassed, hsecond, hiff.mpr ⟨hdaemon rfl, ?_, ?_⟩⟩
  · intro k hlacks hadd
    cases List.mem_singleton.mp hadd
    have hprogrammed : ⟨.v4 #v[10, 0, 0, 0], 24, by decide⟩ ∈ programmedStore.programmed := by
      decide +kernel
    exact hlacks.2.1 hprogrammed
  · intro k _ hremove
    cases List.mem_singleton.mp hremove

theorem announced_route_passes_once :
    exists o v n p x, (World.around announcedStore).run plain.cycle = (.ok o, v) ∧
      o.passed = true ∧ v.Offers plain.site n ∧ announcedStore.Delivered n ∧
      v.run plain.cycle = (.ok p, x) ∧ p.passed = false := by
  have hnone : plain.firstRefusal announcedStore = none := by decide +kernel
  rcases run_around announcedStore rfl rfl hnone with ⟨v, hrun⟩
  have hdelivered := delivered_of_run (offers_around rfl) no_daemon_of_plain hnone
  rw [hrun] at hdelivered
  rcases hdelivered with ⟨n, hoffers, hdelivered⟩
  rcases run_of_firstRefusal_eq_none hoffers no_daemon_of_plain
    ((firstRefusal_congr hdelivered.rows hdelivered.failing).trans hnone) with
    ⟨x, records, _, hsecond⟩
  refine ⟨_, v, n, _, x, hrun, by decide +kernel, hoffers, hdelivered, hsecond, ?_⟩
  apply Bool.eq_false_of_not_eq_true
  rw [Mismatches.passed_outcome_iff, settled_congr hdelivered.rows]
  intro hparts
  have hlacks : plain.Lacks announcedStore ⟨.v4 #v[10, 0, 0, 0], 24, by decide⟩ :=
    ⟨by decide +kernel, by decide +kernel, by decide +kernel⟩
  exact not_mem_lateChanges hdelivered.scripted hoffers.kept _ _ _
    ((excused_of_isClean hparts.1).1 hlacks)

end Check
end RouteAudit
