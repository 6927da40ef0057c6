import RouteAudit.Proofs.Cycle.Stages
import RouteAudit.Proofs.Store.Warnings
import RouteAudit.Proofs.World.Warnings

/-!
# Warnings of a cycle

A cycle with mismatches reads all tables, and the warnings that it starts with are those of the
rows.  So every row is either gathered, left out for a known reason, warned of, or overlooked:
then nothing shows that it was ever there.
-/

namespace RouteAudit

open Program

/-!
# Reading
-/

namespace Surroundings.Reads

variable {σ : Type} {E : Surroundings σ} {site : String} {store : Store} {inv : σ → Prop}
  {pass : σ → σ} {s : σ}

theorem ensures_programmedRoutes_withWarnings (h : E.Reads site store inv pass) (hs : inv s)
    {Q : Logged KeySet → σ → Prop} :
    Ensures E (Gathering.programmedRoutes site).withWarnings s Q ↔
      Q ⟨store.programmed, (Logged.filterMap RouteEntry.parseProgrammed
        (store.listed .asic Tables.routeEntryStart)).warnings⟩ (pass s) := by
  unfold Gathering.programmedRoutes keysOf
  rw [ensures_withWarnings_bind_silent (Silent.request (q := .keys site .asic _) trivial),
    h.ensures_keys hs, ensures_withWarnings_bind_pure, ensures_withWarnings_ofLogged]
  rfl

theorem ensures_intendedRoutes_withWarnings (h : E.Reads site store inv pass) (hs : inv s)
    {Q : Logged Routes → σ → Prop} :
    Ensures E (Gathering.intendedRoutes site).withWarnings s Q ↔
      Q ⟨store.intended, (Logged.filterMap IntendedRoute.ofTableRow
        (store.tableRows .appl Tables.route)).warnings⟩ (pass s) := by
  unfold Gathering.intendedRoutes
  rw [ensures_withWarnings_bind_silent (Silent.scan _ _ _), h.ensures_scan hs,
    ensures_withWarnings_bind_pure, ensures_withWarnings_ofLogged]
  rfl

theorem ensures_interfaceAddresses_withWarnings (h : E.Reads site store inv pass) (hs : inv s)
    {Q : Logged KeySet → σ → Prop} :
    Ensures E (Gathering.interfaceAddresses site).withWarnings s Q ↔
      Q ⟨store.interfaceHosts, (Logged.filterMap TableKey.parseInterface
        (Gathering.interfaceKeys (store.listed .appl
          (Database.tableStart .appl Tables.interface)))).warnings⟩ (pass s) := by
  unfold Gathering.interfaceAddresses keysOf
  rw [ensures_withWarnings_bind_silent (Silent.request (q := .keys site .appl _) trivial),
    h.ensures_keys hs, ensures_withWarnings_bind_pure, ensures_withWarnings_ofLogged]
  rfl

theorem ensures_snapshot_withWarnings (h : E.Reads site store inv pass) (hs : inv s)
    {Q : Logged Snapshot → σ → Prop} :
    Ensures E (Gathering.snapshot site).withWarnings s Q ↔
      Q ⟨store.snapshot, store.snapshotWarnings⟩ (pass (pass (pass s))) := by
  unfold Gathering.snapshot
  rw [ensures_withWarnings_bind, h.ensures_programmedRoutes_withWarnings hs,
    ensures_withWarnings_bind, h.ensures_intendedRoutes_withWarnings (h.kept hs),
    ensures_withWarnings_bind,
    h.ensures_interfaceAddresses_withWarnings (h.kept (h.kept hs)),
    ensures_withWarnings_bind_silent (Silent.log rfl), ensures_log, (Silent.pure _).ensures,
    ensures_pure]
  simp only [Logged.after, List.append_nil, ← List.append_assoc]
  rfl

theorem silent_vnetRoutes (site table : String) : Silent (Gathering.vnetRoutes site table) :=
  Silent.bind (Silent.scan _ _ _) fun _ => Silent.pure _

theorem silent_standbyNeighbors (site : String) : Silent (Gathering.standbyNeighbors site) :=
  Silent.bind (Silent.scan _ _ _) fun _ => Silent.pure _

theorem ensures_dualTorTables_withWarnings (h : E.Reads site store inv pass) (hs : inv s)
    {dualTor : Bool} :
    Ensures E (Gathering.dualTorTables site dualTor).withWarnings s fun x t => inv t ∧
      x = ⟨(if dualTor then store.standbyHosts else [], if dualTor then store.cableHosts else []),
        if dualTor then
          (Logged.filterMap (fun row => do return some (← Gathering.cableAddressesOf row))
            (store.tableRows .config Tables.muxCable)).warnings
        else
          []⟩ := by
  unfold Gathering.dualTorTables
  cases dualTor with
  | false => exact ⟨hs, rfl⟩
  | true =>
      simp only [if_true]
      unfold Gathering.cableAddresses
      rw [ensures_withWarnings_bind_silent (silent_standbyNeighbors site),
        h.ensures_standbyNeighbors hs, ensures_withWarnings_bind_pure,
        ensures_withWarnings_bind_silent (Silent.scan _ _ _), h.ensures_scan (h.kept hs),
        ensures_withWarnings_bind_pure, ensures_withWarnings_ofLogged, filterMap_some,
        ← List.flatMap_def]
      exact ⟨h.kept (h.kept hs), rfl⟩

theorem ensures_context_withWarnings (h : E.Reads site store inv pass) (hs : inv s)
    {routes : Routes} {locals : LocalInterfaces} {fabricStart : String} :
    Ensures E (Gathering.context site routes locals fabricStart).withWarnings s fun x t =>
      inv t ∧ x = ⟨store.context routes locals fabricStart, store.contextWarnings⟩ := by
  unfold Gathering.context entry
  rw [ensures_withWarnings_bind_silent (Silent.request (q := .row site .config _) trivial),
    h.ensures_row hs, ensures_withWarnings_bind_silent (silent_vnetRoutes _ _),
    h.ensures_vnetRoutes hs, ensures_withWarnings_bind_silent (silent_vnetRoutes _ _),
    h.ensures_vnetRoutes (h.kept hs), ensures_withWarnings_bind]
  refine (h.ensures_dualTorTables_withWarnings (h.kept (h.kept hs))).imp ?_
  rintro x t ⟨ht, rfl⟩
  rw [ensures_withWarnings_bind_silent (Silent.log rfl), ensures_log, (Silent.pure _).ensures,
    ensures_pure]
  refine ⟨ht, ?_⟩
  unfold Logged.after
  rw [List.append_nil]
  rfl

end Surroundings.Reads

/-!
# Stages
-/

namespace Check

variable {c : Check} {m : Mismatches} {snapshot : Snapshot}

theorem silent_dump (c : Check) (set : String) (keys : List RouteKey) :
    Silent (c.dump set keys) := by
  unfold dump
  split
  · exact Silent.log rfl
  · exact Silent.pure ()

theorem silent_compareTables (c : Check) (snapshot : Snapshot) :
    Silent (c.compareTables snapshot) := by
  unfold compareTables
  refine Silent.bind (Silent.enter _) fun _ => ?_
  refine Silent.bind (c.silent_dump _ _) fun _ => Silent.bind (c.silent_dump _ _) fun _ => ?_
  refine Silent.bind (c.silent_dump _ _) fun _ => ?_
  exact Silent.bind (Silent.log rfl) fun _ => Silent.pure _

theorem silent_reconcile (c : Check) (m : Mismatches) : Silent (c.reconcile m) := by
  unfold reconcile
  refine Silent.bind (Silent.enter _) fun _ => ?_
  refine Silent.bind (Silent.request (q := .remaining) trivial) fun left => ?_
  refine Silent.bind (Silent.request (q := .drain c.site _) trivial) fun drained => ?_
  refine Silent.bind (c.silent_dump _ _) fun _ => Silent.bind (c.silent_dump _ _) fun _ => ?_
  exact Silent.pure _

theorem warnings_applyAll (rules : List Exclusion.Rule) (ctx : Exclusion.Context)
    (candidates : KeySet) : (Exclusion.applyAll rules ctx candidates).warnings = [] := by
  induction rules generalizing candidates with
  | nil => rfl
  | cons r rest ih =>
      have hrule : (r.apply ctx candidates).warnings = [] := by
        unfold Exclusion.Rule.apply Logged.warnings
        rw [List.filter_map, List.map_eq_nil_iff, List.filter_eq_nil_iff]
        intro k _ hwarning
        cases hwarning
      rw [Exclusion.applyAll, Logged.warnings_bind, hrule, ih, List.append_nil]

/-- The rules say what they take out, and warn of nothing. -/
theorem warnings_apply (rules : List Exclusion.Rule) (ctx : Exclusion.Context)
    (candidates : KeySet) : (Exclusion.apply rules ctx candidates).warnings = [] := by
  unfold Exclusion.apply
  rw [Logged.warnings_bind, warnings_applyAll]
  rfl

end Check

namespace Passage

variable {c : Check} {p : Passage} {m : Mismatches} {s : List Stage}

theorem ensures_takeSnapshot_withWarnings (hsite : c.site ∈ p.sites)
    (hclear : p.Clear s [.snapshotting]) :
    Ensures p.surroundings c.takeSnapshot.withWarnings s fun x t =>
      x = ⟨(p.stores c.site).snapshot, (p.stores c.site).snapshotWarnings⟩ ∧
        t = s ++ [.snapshotting] := by
  have hentered : p.underway (s ++ [.snapshotting]) := hclear _ (List.prefix_refl _)
  unfold Check.takeSnapshot
  rw [ensures_withWarnings_bind_silent (Silent.enter _)]
  refine ensures_stage hclear.here ?_
  rw [ensures_withWarnings_bind_silent (Silent.request (q := .subscribe c.site) trivial)]
  refine ensures_any (q := .subscribe c.site) trivial hentered hsite (fun _ _ h => h) fun _ => ?_
  exact ((reads hsite hentered).ensures_snapshot_withWarnings rfl).mpr ⟨rfl, rfl⟩

theorem ensures_exclude_withWarnings {routes : Routes} (hsite : c.site ∈ p.sites)
    (hclear : p.Clear s [.filtering]) :
    Ensures p.surroundings (c.exclude routes m).withWarnings s fun x t =>
      x.events = (p.stores c.site).contextWarnings ∧ t = s ++ [.filtering] := by
  have hentered : p.underway (s ++ [.filtering]) := hclear _ (List.prefix_refl _)
  unfold Check.exclude
  rw [ensures_withWarnings_bind_silent (Silent.enter _)]
  refine ensures_stage hclear.here ?_
  rw [ensures_withWarnings_bind]
  refine ((reads hsite hentered).ensures_context_withWarnings rfl).imp ?_
  rintro x t ⟨rfl, rfl⟩
  have hsilent : ∀ ctx, Silent (do
      let missedRoutes ← ofLogged (Exclusion.apply c.rules ctx m.missedRoutes)
      let unaccounted ← ofLogged (Exclusion.apply c.rules ctx m.unaccounted)
      c.dump "missed after filters" missedRoutes.items
      c.dump "unaccounted after filters" unaccounted.items
      return { m with missedRoutes, unaccounted }) := by
    intro ctx
    refine Silent.bind (Silent.ofLogged (Check.warnings_apply _ _ _)) fun _ => ?_
    refine Silent.bind (Silent.ofLogged (Check.warnings_apply _ _ _)) fun _ => ?_
    refine Silent.bind (c.silent_dump _ _) fun _ => Silent.bind (c.silent_dump _ _) fun _ => ?_
    exact Silent.pure _
  rw [(hsilent _).ensures]
  simp only [ensures_bind, ensures_ofLogged, Check.ensures_dump, ensures_pure]
  exact ⟨List.append_nil _, trivial⟩

/-- Where there are mismatches, the warnings before the daemon is asked are those of the rows. -/
theorem ensures_findings_withWarnings (hsite : c.site ∈ p.sites)
    (hdirty : (Mismatches.ofSnapshot (p.stores c.site).snapshot).isClean = false)
    (hclear : p.Clear s ([.snapshotting] ++ ([.diffing] ++ ([.reconciling] ++ [.filtering])))) :
    Ensures p.surroundings c.findings.withWarnings s fun x t =>
      x.events = (p.stores c.site).warnings ∧
        t = s ++ [.snapshotting] ++ [.diffing] ++ [.reconciling] ++ [.filtering] := by
  unfold Check.findings
  rw [ensures_withWarnings_bind]
  refine (ensures_takeSnapshot_withWarnings hsite hclear.left).imp ?_
  rintro x t ⟨rfl, rfl⟩
  rw [ensures_withWarnings_bind_silent (c.silent_compareTables _)]
  refine (ensures_compareTables hclear.right.left).imp ?_
  rintro m t ⟨rfl, rfl⟩
  unfold Check.explain
  rw [if_neg (Bool.eq_false_iff.mp hdirty),
    ensures_withWarnings_bind_silent (c.silent_reconcile _)]
  refine (ensures_reconcile hsite hclear.right.right.left).imp ?_
  rintro n t rfl
  refine (ensures_exclude_withWarnings hsite hclear.right.right.right).imp ?_
  rintro y t ⟨hevents, rfl⟩
  exact ⟨congrArg (_ ++ ·) hevents, rfl⟩

theorem ensures_conclude_withWarnings {o : Outcome} (hs : p.underway s) :
    Ensures p.surroundings (Check.conclude o).withWarnings s fun x _ =>
      x = ⟨o, if o.passed then [] else [Check.mismatchEvent o]⟩ := by
  unfold Check.conclude
  split
  · rw [ensures_withWarnings_bind_silent (Silent.enter _)]
    refine ensures_stage hs ?_
    rw [ensures_withWarnings_bind_silent (Silent.log rfl), ensures_log, (Silent.pure _).ensures]
    exact rfl
  · rw [ensures_withWarnings_bind_silent (Silent.enter _)]
    refine ensures_stage hs ?_
    rw [ensures_withWarnings_bind, ensures_withWarnings_log, (Silent.pure _).ensures]
    exact rfl

/-- Without a daemon to be asked, a cycle adds at most that it found mismatches. -/
theorem ensures_cycle_withWarnings (hsite : c.site ∈ p.sites) (hdaemon : c.daemon = none)
    (hopen : ∀ way, p.underway way)
    (hdirty : (Mismatches.ofSnapshot (p.stores c.site).snapshot).isClean = false) :
    Ensures p.surroundings c.cycle.withWarnings s fun x _ =>
      x.events = ((p.stores c.site).warnings ++
        if x.value.passed then [] else [Check.mismatchEvent x.value]).map (.inSpan c.span) := by
  have hnone : c.askDaemon = pure [] := by
    unfold Check.askDaemon
    rw [hdaemon]
  unfold Check.cycle
  rw [ensures_withWarnings_within, Check.stages_eq, hnone, ensures_withWarnings_bind]
  refine (ensures_findings_withWarnings hsite hdirty fun _ _ => hopen _).imp ?_
  rintro x t ⟨hevents, _⟩
  rw [pure_bind]
  refine (ensures_conclude_withWarnings (hopen _)).imp ?_
  rintro y _ rfl
  rw [← hevents]
  rfl

end Passage

namespace Check

variable {c : Check} {w v : World} {store : Store} {trial : Trial} {result : Attempt Outcome}

/-- The stages of a cycle with mismatches up to the filters. -/
def filtered : List Stage := [.snapshotting] ++ ([.diffing] ++ ([.reconciling] ++ [.filtering]))

/-- The way of a cycle with mismatches over a store, up to its filters. -/
def untilFilters (c : Check) (store : Store) : Passage :=
  ⟨[c.site], fun _ => store, (· <+: filtered)⟩

theorem holds_start_of_site {p : Passage} (hsites : p.sites = [c.site])
    (htables : w.site c.site = .memory (p.stores c.site))
    (hquiet : ∀ o ∈ w.outside, o.site ≠ c.site) (trial : Trial) :
    p.Holds w [] (trial.start w) := by
  have hsites : p.sites = [c].map Check.site := hsites
  exact holds_start_of_tables hsites (List.forall_mem_singleton.mpr htables)
    (List.forall_mem_singleton.mpr hquiet) trial

theorem ensures_untilFilters (hdirty : (Mismatches.ofSnapshot store.snapshot).isClean = false) :
    Ensures (c.untilFilters store).surroundings (c.findings.within c.span).withWarnings []
      fun x way => x.events = store.warnings.map (.inSpan c.span) ∧ way = filtered := by
  rw [ensures_withWarnings_within]
  have hclear : (c.untilFilters store).Clear [] filtered := fun _ hway => hway
  have hsite : c.site ∈ (c.untilFilters store).sites := List.mem_cons_self
  have hfindings := Passage.ensures_findings_withWarnings hsite hdirty hclear
  refine hfindings.imp ?_
  rintro x way ⟨hevents, hway⟩
  exact ⟨congrArg (List.map (LogEvent.inSpan c.span)) hevents, hway⟩

/-- A cycle that is stopped before it is past its filters stands in none of the later stages. -/
theorem stage_of_stopped {stop : Stop} {u : World} (htables : w.site c.site = .memory store)
    (hquiet : ∀ o ∈ w.outside, o.site ≠ c.site)
    (hdirty : (Mismatches.ofSnapshot store.snapshot).isClean = false)
    (hrun : (trial.start w).run (c.findings.within c.span).withWarnings = (.error stop, u)) :
    u.stage ≠ .controlPlane := by
  have hstart : (c.untilFilters store).Holds w [] (trial.start w) :=
    holds_start_of_site rfl htables hquiet trial
  rcases ((c.untilFilters store).follows w).stopped (ensures_untilFilters hdirty) hstart hrun with
    ⟨way, q, r, _, ⟨hway, _⟩, hr, hanswer⟩
  have hway : way <+: filtered := hway
  rw [(hr.onward (World.onward_of_error hanswer)).stage]
  cases hlast : way.getLast? with
  | none => nofun
  | some stage =>
      have hstage : stage ∈ filtered := hway.subset (List.mem_of_getLast? hlast)
      rintro rfl
      exact absurd hstage (by decide)

/-- A cycle that has an outcome or stands in the stage for the daemon is past its filters. -/
theorem warnings_of_rows (htables : w.site c.site = .memory store)
    (hquiet : ∀ o ∈ w.outside, o.site ≠ c.site)
    (hdirty : (Mismatches.ofSnapshot store.snapshot).isClean = false)
    (hrun : trial.run c.cycle w = (some result, v))
    (hpast : (exists o, result = .ok o) ∨ v.stage = .controlPlane) :
    w.warnings ++ store.warnings.map (.inSpan c.span) <+: v.warnings := by
  have hcycle : c.cycle = c.findings.within c.span >>= fun m =>
      within c.span (c.askDaemon >>= fun records => conclude (m.outcome records)) := by
    unfold cycle
    rw [stages_eq, within_bind]
  have hends := trial.ends_run c.cycle w
  rw [hrun] at hends
  cases hends with
  | unbegun hcancelled =>
      rcases hpast with ⟨o, ho⟩ | hstage
      · cases ho
      · cases hstage
  | @ran outcome u hran =>
      rw [hcycle, World.run_bind] at hran
      rcases World.run_withWarnings (c.findings.within c.span) (trial.start w) with
        ⟨events, hwarnings, hwarned⟩
      generalize (trial.start w).run (c.findings.within c.span) = ended at hran hwarnings hwarned
      rcases ended with ⟨stop | m, r⟩
      · -- the findings were stopped, and with them the cycle
        exfalso
        cases hran
        rcases hpast with ⟨o, ho⟩ | hstage
        · exact World.conclude_error_ne_ok ho
        · have honward := World.onward_conclude trial.limit (Except.error (α := Outcome) stop) u
          exact stage_of_stopped htables hquiet hdirty hwarned (honward.stage.symm.trans hstage)
      · rcases ((c.untilFilters store).follows w).ensured (ensures_untilFilters hdirty)
          (holds_start_of_site rfl htables hquiet trial) hwarned with ⟨_, ⟨hevents, _⟩, _⟩
        have hlater := World.warnings_run
          (within c.span (c.askDaemon >>= fun records => conclude (m.outcome records))) r
        rw [show r.run _ = (outcome, u) from hran] at hlater
        have hstart : (trial.start w).warnings = w.warnings := rfl
        rw [← hstart, ← hevents, ← hwarnings]
        exact hlater.trans (World.warnings_conclude trial.limit (outcome, u))

/-- Without a daemon the warnings of a cycle with mismatches are those of the rows, and at most
one that there are mismatches. -/
theorem warnings_of_cycle {o : Outcome} (hdaemon : c.daemon = none)
    (htables : w.site c.site = .memory store) (hquiet : ∀ o ∈ w.outside, o.site ≠ c.site)
    (hdirty : (Mismatches.ofSnapshot store.snapshot).isClean = false)
    (hrun : trial.run c.cycle w = (some (.ok o), v)) :
    v.warnings = w.warnings ++
      (store.warnings ++ if o.passed then [] else [mismatchEvent o]).map (.inSpan c.span) := by
  let p : Passage := ⟨[c.site], fun _ => store, fun _ => True⟩
  have hcycle := Passage.ensures_cycle_withWarnings (p := p) (s := []) List.mem_cons_self hdaemon
    (fun _ => trivial) hdirty
  have hends := trial.ends_run c.cycle w
  rw [hrun] at hends
  rcases World.run_withWarnings c.cycle (trial.start w) with ⟨events, hwarnings, hwarned⟩
  rw [hends.run_of_ok rfl] at hwarnings hwarned
  rcases (p.follows w).ensured hcycle (holds_start_of_site rfl htables hquiet trial) hwarned with
    ⟨_, hevents, _⟩
  exact hwarnings.trans (congrArg (w.warnings ++ ·) hevents)

/-!
# Rows
-/

/-- The tables that the rules of a check consult. -/
def context (c : Check) (store : Store) : Exclusion.Context :=
  store.context store.intended c.locals c.settings.fabricStart

/-- A cycle with mismatches reads every row.  A row whose key is not overlooked is gathered, left
out for a reason that is known, or warned of under its key.  A row whose key is overlooked names
no destination and has no such reason, and without it the same is gathered with the same
warnings. -/
theorem row_leaves_trace_unless_overlooked (trial : Trial)
    (htables : w.site c.site = .memory store) (hquiet : ∀ o ∈ w.outside, o.site ≠ c.site)
    (hdirty : (Mismatches.ofSnapshot store.snapshot).isClean = false)
    (hrun : trial.run c.cycle w = (some result, v))
    (hpast : (exists o, result = .ok o) ∨ v.stage = .controlPlane) :
    exists warned, v.warnings = w.warnings ++ warned ∧
      store.warnings.map (.inSpan c.span) <+: warned ∧
      ∀ (t : KeyTable) (key : String), store.Files t key →
        (¬t.Overlooked key →
          (exists k, t.Names key k ∧ Store.Gathered store.snapshot (c.context store) t k) ∨
          t.Documented key ∨
          exists event, event ∈ warned ∧ event.level = .warn ∧
            ("key", .text (t.shown key)) ∈ event.fields) ∧
        (t.Overlooked key → (∀ k, ¬t.Names key k) ∧ ¬t.Documented key ∧
          store.GathersSame (store.without t key)) := by
  rcases warnings_of_rows htables hquiet hdirty hrun hpast with ⟨later, hwarnings⟩
  rw [List.append_assoc] at hwarnings
  refine ⟨_, hwarnings.symm, List.prefix_append _ _, ?_⟩
  intro t key hfiles
  constructor
  · intro hseen
    have hfate := t.fate key
    generalize hreading : t.reading key = found at hfate
    cases hfate with
    | @read k hnames =>
        refine Or.inl ⟨k, hnames, Store.gathered_of_files hfiles ?_⟩
        rw [hreading]
    | documented hdocumented => exact Or.inr (Or.inl hdocumented)
    | overlooked hoverlooked => exact absurd hoverlooked hseen
    | @warned event hlevel hkey =>
        have hevent : event ∈ store.warnings := by
          refine Store.mem_warnings_of_files hfiles ?_ (decide_eq_true hlevel)
          rw [hreading]
          exact List.mem_cons_self
        exact Or.inr (Or.inr ⟨event.inSpan c.span,
          List.mem_append_left _ (List.mem_map_of_mem hevent), hlevel, hkey⟩)
  · intro hoverlooked
    exact ⟨hoverlooked.not_names, hoverlooked.not_documented,
      Store.gathersSame_without hoverlooked.reading⟩

theorem exists_unwatched_outcome (store : Store) (limit : Time) (hhealthy : store.failing = [])
    (hworking : store.kept.ending.isBroken = false) : exists o v,
      (Trial.unwatched limit none).run plain.cycle (World.around store) = (some (.ok o), v) := by
  have hcalm : ((Trial.unwatched limit none).start (World.around store)).IsCalm plain.site store :=
    ⟨World.site_setSite_self (w := {}), hhealthy, hworking, rfl, rfl,
      fun _ ho => absurd ho List.not_mem_nil⟩
  rcases run_of_no_daemon hcalm rfl with ⟨o, v, hrun, _⟩
  exact ⟨o, v, Trial.run_unwatched_of_ok hrun⟩

/-- A route that is not programmed, and the name of a routing instance without a destination. -/
def bareStore : Store :=
  (Store.empty.addRoute "10.0.0.0/24" "Ethernet0" "10.1.0.1").addRoute "Vrf-red" "Ethernet0"
    "10.1.0.1"

theorem overlooked_bareInstance : KeyTable.Overlooked .routes "Vrf-red" :=
  KeyTable.Overlooked.bareInstance (show ':' ∉ "-red".toList by decide)

/-- The same store, with an interface whose address is none. -/
def unnumberedStore : Store := bareStore.addInterface "Ethernet0" "unnumbered"

theorem row_leaves_trace_of_unnumberedStore : exists o v,
    (Trial.unwatched 60000 none).run plain.cycle (World.around unnumberedStore) =
      (some (.ok o), v) ∧
    (exists event, event ∈ v.warnings ∧ event.level = .warn ∧
      ("key", .text "Ethernet0:unnumbered") ∈ event.fields) ∧
    unnumberedStore.GathersSame (unnumberedStore.without .routes "Vrf-red") := by
  rcases exists_unwatched_outcome unnumberedStore 60000 rfl rfl with ⟨o, v, hrun⟩
  have htables : (World.around unnumberedStore).site plain.site = .memory unnumberedStore :=
    World.site_setSite_self (w := {})
  have hwarning : unnumberedStore.warnings =
      [.warn "Skipping unparsable INTF_TABLE key" [("key", .text "Ethernet0:unnumbered")]] := by
    decide +kernel
  rcases row_leaves_trace_unless_overlooked (.unwatched 60000 none) htables
    (fun _ ho => absurd ho List.not_mem_nil) (by decide +kernel) hrun (Or.inl ⟨o, rfl⟩) with
    ⟨warned, hwarnings, hrows, htraces⟩
  refine ⟨o, v, hrun, ?_, ?_⟩
  · rw [hwarning] at hrows
    have hevent := hrows.subset List.mem_cons_self
    rw [hwarnings]
    exact ⟨_, List.mem_append_right _ hevent, rfl, List.mem_cons_self⟩
  · exact ((htraces .routes "Vrf-red" (by decide +kernel)).2 overlooked_bareInstance).2.2

/-- The bare name is neither gathered nor left out for a reason, and no warning carries it. -/
theorem bare_instance_without_trace : exists o v,
    (Trial.unwatched 60000 none).run plain.cycle (World.around bareStore) = (some (.ok o), v) ∧
    (Mismatches.ofSnapshot bareStore.snapshot).isClean = false ∧
    bareStore.Files .routes "Vrf-red" ∧
    (∀ k, ¬(KeyTable.routes.Names "Vrf-red" k ∧
      Store.Gathered bareStore.snapshot (plain.context bareStore) .routes k)) ∧
    ¬KeyTable.routes.Documented "Vrf-red" ∧
    ∀ event ∈ v.warnings, ("key", .text "Vrf-red") ∉ event.fields := by
  rcases exists_unwatched_outcome bareStore 60000 rfl rfl with ⟨o, v, hrun⟩
  have htables : (World.around bareStore).site plain.site = .memory bareStore :=
    World.site_setSite_self (w := {})
  have hdirty : (Mismatches.ofSnapshot bareStore.snapshot).isClean = false := by decide +kernel
  have hsilent : bareStore.warnings = [] := by decide +kernel
  refine ⟨o, v, hrun, hdirty, by decide +kernel,
    fun k hnames => overlooked_bareInstance.not_names k hnames.1,
    overlooked_bareInstance.not_documented, ?_⟩
  rw [warnings_of_cycle rfl htables (fun _ ho => absurd ho List.not_mem_nil) hdirty hrun, hsilent]
  intro event hevent
  have hverdict : event ∈ (if o.passed then [] else [mismatchEvent o]).map (.inSpan plain.span) :=
    hevent
  split at hverdict
  · cases hverdict
  · rw [List.mem_singleton.mp hverdict]
    simp [mismatchEvent, LogEvent.inSpan, LogEvent.warn]

end Check
end RouteAudit
