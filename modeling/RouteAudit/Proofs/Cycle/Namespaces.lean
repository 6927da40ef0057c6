import RouteAudit.Proofs.Cycle.Refusals
import RouteAudit.Proofs.Settings.Namespaces
import RouteAudit.Proofs.World.Instant

/-!
# Checks of several namespaces

Namespaces are checked one after another in one world.  Where reading takes no time, each check
ends as it would if there was only its own namespace, and the report holds what all of them
ended with, or there is none because of the first check that failed.
-/

namespace RouteAudit

open Program

/-- The same world with a single site. -/
def World.alone (w : World) (site : String) : World :=
  { w with sites := Table.set .empty site (w.site site), feeds := .empty }

theorem World.Offers.alone {w : World} {site : String} {store : Store} (h : w.Offers site store) :
    (w.alone site).Offers site store where
  tables := (World.site_setSite_self (w := {})).trans h.tables
  kept := h.kept
  unwatched := h.unwatched
  uncancelled := h.uncancelled
  quiet := h.quiet

/-- The memory store at a site, and an empty one where there is none. -/
def World.storeAt (w : World) (site : String) : Store :=
  match w.site site with
  | .memory s => s
  | .remote _ _ => .empty

theorem World.Offers.storeAt_eq {w : World} {site : String} {store : Store}
    (h : w.Offers site store) : w.storeAt site = store := by
  unfold storeAt
  rw [h.tables]

namespace Check

variable {c : Check} {store other : Store} {w v : World}

/-!
# One check
-/

/-- How a cycle that asks no routing daemon ends. -/
def ending (c : Check) (store : Store) (start deadline : Time) : Except Stop Outcome :=
  match c.firstRefusal store with
  | some f => .error (.failed f)
  | none => .ok ((c.settled store (c.lateChanges store start deadline)).outcome [])

theorem run_eq_ending (h : w.Offers c.site store) (hdaemon : c.daemon = none) :
    (w.run c.cycle).1 = c.ending store w.now w.deadline := by
  unfold ending
  rcases (run_cases h fun hattached => absurd hdaemon hattached).2 with
    ⟨o, v, hrun, hnone, records, hrecords, rfl⟩ | ⟨f, _, _, _, v, hrun, hsome, _⟩
  · rw [hrun, hnone, hrecords hdaemon]
  · rw [hrun, hsome]

/-- A healthy store gives its check an outcome. -/
theorem exists_outcome_of_healthy (hhealthy : store.failing = []) {start deadline : Time} :
    exists o, c.ending store start deadline = .ok o := by
  have hopen : ∀ db, store.refused db = false := fun _ => Store.not_refused hhealthy
  have hnone : c.firstRefusal store = none := by
    apply firstRefusal_eq_none (hopen .asic) (hopen .appl)
    intro hconfig
    rw [hopen .config] at hconfig
    cases hconfig
  unfold ending
  rw [hnone]
  exact ⟨_, rfl⟩

/-- The reads that a store granted have no part in how a cycle ends. -/
theorem ending_congr (h : store.SameContent other) {start deadline : Time} :
    c.ending other start deadline = c.ending store start deadline := by
  have hother : other = { store with accesses := other.accesses } := by
    cases other
    cases store
    cases h.rows
    cases h.scripted
    cases h.upcoming
    cases h.failing
    cases h.delay
    rfl
  rw [hother]
  rfl

/-!
# One check beside the others
-/

/-- A world offers at the site of a check what a store holds, except for the list of the reads
that it granted. -/
def FindsReady (c : Check) (store : Store) (w : World) : Prop :=
  exists t, store.SameContent t ∧ w.Offers c.site t

theorem FindsReady.run_eq (h : c.FindsReady store w) (hdaemon : c.daemon = none) :
    (w.run c.cycle).1 = c.ending store w.now w.deadline := by
  rcases h with ⟨t, hstore, hoffers⟩
  rw [run_eq_ending hoffers hdaemon, ending_congr hstore]

theorem allows_atSite (site : String) :
    Allows (fun q => ¬Calm.IsDaemonRequest q) (fun _ => True) site where
  keys _ _ _ _ := id
  row _ _ _ := id
  enter _ := id
  remaining := id
  drain _ := id

/-- A check of an undelayed store with an outcome leaves the clock and the other sites alone. -/
theorem FindsReady.beside {o : Outcome} (h : c.FindsReady store w) (hdaemon : c.daemon = none)
    (hdelay : store.delay.getD 0 = 0) (hrun : w.run c.cycle = (.ok o, v)) :
    w.Beside c.site true v := by
  rcases h with ⟨t, hstore, hoffers⟩
  have hkeeps : Keeps (fun q => ¬Calm.IsDaemonRequest q) c.cycle := by
    apply (allows_atSite c.site).keeps_cycle trivial trivial id fun _ => id
    unfold askDaemon
    rw [hdaemon]
    exact Keeps.pure []
  have hcycle : Ensures (World.atSite c.site) c.cycle false fun _ subscribed => subscribed = true :=
    c.ensures_subscribing.keeping hkeeps
  have hstart : w.Beside c.site false w := by
    refine ⟨rfl, rfl, rfl, rfl, hoffers.quiet, ⟨t, hoffers.tables, ?_, hoffers.kept⟩, nofun, ?_⟩
    · rw [hstore.delay]
      exact hdelay
    · exact fun other s _ hs => ⟨s, hs, Store.SameContent.refl s⟩
  rcases (World.Beside.follows w c.site).ensured hcycle hstart hrun with ⟨_, rfl, hv⟩
  exact hv

theorem FindsReady.later {d : Check} {site : String} {subscribed : Bool}
    (h : d.FindsReady store w) (hv : w.Beside site subscribed v) (hsite : d.site ≠ site) :
    d.FindsReady store v := by
  rcases h with ⟨t, hstore, hoffers⟩
  rcases hv.others d.site t hsite hoffers.tables with ⟨r, hr, htr⟩
  exact ⟨r, hstore.trans htr, hr, htr.upcoming.trans hoffers.kept,
    hv.watched.trans hoffers.unwatched, hv.cancelAt.trans hoffers.uncancelled, hv.quiet⟩

/-!
# The loop over the checks
-/

/-- Files what checks end with, up to the first one that has no outcome. -/
def gather (f : Check → Except Stop Outcome) : List Check → Report → Except Stop Report
  | [], report => .ok report
  | c :: rest, report =>
      match f c with
      | .ok o => gather f rest (report.insert c.site o)
      | .error stop => .error stop

/-- Each check of the loop ends as if it was the only one. -/
theorem run_checkAll {checks : List Check} {report : Report} (stores : String → Store)
    (hsites : (checks.map Check.site).Nodup) (hdaemon : ∀ c ∈ checks, c.daemon = none)
    (hdelay : ∀ c ∈ checks, (stores c.site).delay.getD 0 = 0)
    (hready : ∀ c ∈ checks, c.FindsReady (stores c.site) w) :
    (w.run (checkAll checks report)).1 =
      gather (fun c => c.ending (stores c.site) w.now w.deadline) checks report := by
  induction checks generalizing w report with
  | nil => rfl
  | cons c rest ih =>
      rw [List.map_cons, List.nodup_cons] at hsites
      rcases hsites with ⟨hsite, hrestSites⟩
      rcases List.forall_mem_cons.mp hdaemon with ⟨hdaemon, hrestDaemon⟩
      rcases List.forall_mem_cons.mp hdelay with ⟨hdelay, hrestDelay⟩
      rcases List.forall_mem_cons.mp hready with ⟨hready, hrestReady⟩
      have hfirst := hready.run_eq hdaemon
      unfold checkAll gather
      rw [World.run_bind]
      cases hrun : w.run c.cycle with
      | mk result v =>
          rw [hrun] at hfirst
          dsimp only at hfirst ⊢
          rw [← hfirst]
          cases result with
          | error stop => rfl
          | ok o =>
              have hbeside := hready.beside hdaemon hdelay hrun
              dsimp only
              rw [← hbeside.now, ← hbeside.deadline]
              apply ih hrestSites hrestDaemon hrestDelay
              intro d hd
              apply (hrestReady d hd).later hbeside
              intro heq
              apply hsite
              rw [← heq]
              exact List.mem_map_of_mem hd

variable {f : Check → Except Stop Outcome} {checks : List Check} {report : Report}

theorem gather_congr {g : Check → Except Stop Outcome} (h : ∀ c ∈ checks, f c = g c) :
    gather f checks report = gather g checks report := by
  induction checks generalizing report with
  | nil => rfl
  | cons c rest ih =>
      rcases List.forall_mem_cons.mp h with ⟨hc, hrest⟩
      unfold gather
      rw [hc]
      cases g c with
      | ok o => exact ih hrest
      | error stop => rfl

/-- Where all checks have outcomes, these are filed under their sites. -/
theorem gather_of_ok (report : Report) (h : ∀ c ∈ checks, exists o, f c = .ok o) :
    exists entries : List (String × Outcome),
      gather f checks report = .ok (entries.foldl Ascending.put report) ∧
      entries.map Prod.fst = checks.map Check.site ∧
      (∀ c ∈ checks, exists o, f c = .ok o ∧ (c.site, o) ∈ entries) ∧
      ∀ entry ∈ entries, exists c, c ∈ checks ∧ f c = .ok entry.2 := by
  induction checks generalizing report with
  | nil => exact ⟨[], rfl, rfl, nofun, nofun⟩
  | cons c rest ih =>
      rcases List.forall_mem_cons.mp h with ⟨⟨o, ho⟩, hrest⟩
      rcases ih (report.insert c.site o) hrest with ⟨entries, hgather, hsites, hfiled, hfrom⟩
      refine ⟨(c.site, o) :: entries, ?_, ?_, ?_, ?_⟩
      · unfold gather
        rw [ho]
        exact hgather
      · rw [List.map_cons, List.map_cons, hsites]
      · rw [List.forall_mem_cons]
        constructor
        · exact ⟨o, ho, List.mem_cons_self⟩
        · intro d hd
          rcases hfiled d hd with ⟨p, hp, hmem⟩
          exact ⟨p, hp, List.mem_cons_of_mem _ hmem⟩
      · rw [List.forall_mem_cons]
        constructor
        · exact ⟨c, List.mem_cons_self, ho⟩
        · intro entry hentry
          rcases hfrom entry hentry with ⟨d, hd, hend⟩
          exact ⟨d, List.mem_cons_of_mem c hd, hend⟩

/-- The first check without an outcome ends the loop. -/
theorem gather_of_error {before : List Check} {stop : Stop} (after : List Check)
    (report : Report) (hbefore : ∀ d ∈ before, exists o, f d = .ok o) (hc : f c = .error stop) :
    gather f (before ++ c :: after) report = .error stop := by
  induction before generalizing report with
  | nil =>
      rw [List.nil_append, gather, hc]
  | cons d rest ih =>
      rcases List.forall_mem_cons.mp hbefore with ⟨⟨o, ho⟩, hrest⟩
      rw [List.cons_append, gather, ho]
      exact ih _ hrest

/-!
# The report
-/

/-- A report of outcomes under different sites has each of them, and passes if they all do. -/
theorem report_of_ok (hsites : (checks.map Check.site).Nodup)
    (h : ∀ c ∈ checks, exists o, f c = .ok o) :
    exists report, gather f checks .empty = .ok report ∧
      (Ascending.names report).Perm (checks.map Check.site) ∧
      (∀ c ∈ checks, exists o, f c = .ok o ∧ report.get? c.site = some o) ∧
      (report.passed = true ↔ ∀ c ∈ checks, ∀ o, f c = .ok o → o.passed = true) := by
  rcases gather_of_ok .empty h with ⟨entries, hgather, hnames, hfiled, hfrom⟩
  have hperm : (Ascending.ofList entries : Report).items.Perm entries :=
    Ascending.perm_ofList_of_nodup (hnames ▸ hsites)
  refine ⟨Ascending.ofList entries, hgather, ?_, ?_, ?_⟩
  · rw [← hnames]
    exact hperm.map Prod.fst
  · intro c hc
    rcases hfiled c hc with ⟨o, ho, hmem⟩
    refine ⟨o, ho, ?_⟩
    unfold Table.get?
    rw [Ascending.find?_eq_some_iff.mpr ⟨hperm.mem_iff.mpr hmem, rfl⟩]
    rfl
  · unfold Report.passed
    rw [hperm.all_eq, List.all_eq_true]
    constructor
    · intro hpassed c hc o ho
      rcases hfiled c hc with ⟨p, hp, hmem⟩
      rw [ho] at hp
      cases hp
      exact hpassed _ hmem
    · intro hpassed entry hentry
      rcases hfrom entry hentry with ⟨c, hc, hend⟩
      exact hpassed c hc _ hend

/-!
# From the settings to the verdict
-/

/-- One check for each of some names, none of which asks a routing daemon, each before its own
memory store that is read without a delay. -/
structure Assigned (w : World) (names : List String) (checks : List Check) : Prop where
  sites : checks.map Check.site = names
  daemons : ∀ c ∈ checks, c.daemon = none
  stores : ∀ c ∈ checks, exists store, w.Offers c.site store ∧ store.delay.getD 0 = 0

theorem Assigned.ending_eq {names : List String} (h : Assigned w names checks)
    {store : Store} (hc : c ∈ checks) (hstore : w.site c.site = .memory store) :
    ((w.alone c.site).run c.cycle).1 = c.ending store w.now w.deadline := by
  rcases h.stores c hc with ⟨t, hoffers, _⟩
  rw [hoffers.tables] at hstore
  cases hstore
  exact run_eq_ending hoffers.alone (h.daemons c hc)

/-- In the loop each check ends as it does alone. -/
theorem Assigned.run_eq {names : List String} (h : Assigned w names checks)
    (hnames : names.Nodup) (report : Report) : (w.run (checkAll checks report)).1 =
      gather (fun c => ((w.alone c.site).run c.cycle).1) checks report := by
  have hstores : ∀ c ∈ checks, w.Offers c.site (w.storeAt c.site) ∧
      (w.storeAt c.site).delay.getD 0 = 0 := by
    intro c hc
    rcases h.stores c hc with ⟨t, hoffers, hdelay⟩
    rw [hoffers.storeAt_eq]
    exact ⟨hoffers, hdelay⟩
  rw [run_checkAll w.storeAt (h.sites ▸ hnames) h.daemons fun c hc => (hstores c hc).2]
  · apply gather_congr
    intro c hc
    exact (h.ending_eq hc (hstores c hc).1.tables).symm
  · intro c hc
    exact ⟨w.storeAt c.site, Store.SameContent.refl _, (hstores c hc).1⟩

/-- From valid settings to the verdict no namespace is lost, doubled or masked.  What is resolved
are different names, all in their order or the one that was asked for, and nothing else is
refused than a name that no namespace has.  One check for each of them ends as it does alone:
where all have outcomes, as they have before healthy stores, the report holds exactly these, and
passes if all of them are empty; otherwise the first check in the order that fails ends the run
without a report. -/
theorem namespaces_checked {s : Settings} (hvalid : s.validate = .ok ()) (only : Option String) :
    ((exists fault, s.resolve only = .error fault) ↔
      exists name, only = some name ∧ name ∉ s.names) ∧
    ∀ entries, s.resolve only = .ok entries →
      entries ≠ [] ∧ (entries.map Prod.fst).Nodup ∧
      entries.map Prod.fst = (only.elim s.names fun name => [name]) ∧
      ∀ checks w, Assigned w (entries.map Prod.fst) checks →
        ((∀ c ∈ checks, ∀ store, w.site c.site = .memory store → store.failing = []) →
          ∀ c ∈ checks, exists o, ((w.alone c.site).run c.cycle).1 = .ok o) ∧
        ((∀ c ∈ checks, exists o, ((w.alone c.site).run c.cycle).1 = .ok o) →
          exists report v, w.run (checkAll checks .empty) = (.ok report, v) ∧
            (Ascending.names report).Perm (entries.map Prod.fst) ∧
            (∀ c ∈ checks, exists o, ((w.alone c.site).run c.cycle).1 = .ok o ∧
              report.get? c.site = some o) ∧
            (report.passed = true ↔
              ∀ c ∈ checks, ∀ o, ((w.alone c.site).run c.cycle).1 = .ok o →
                o.missedRoutes = [] ∧ o.missedInterfaces = [] ∧ o.unaccounted = [] ∧
                  o.missedDaemonRoutes = [])) ∧
        ∀ before c after stop, checks = before ++ c :: after →
          (∀ d ∈ before, exists o, ((w.alone d.site).run d.cycle).1 = .ok o) →
          ((w.alone c.site).run c.cycle).1 = .error stop →
          exists v, w.run (checkAll checks .empty) = (.error stop, v) := by
  refine ⟨Settings.exists_fault_of_resolve_iff, ?_⟩
  intro entries hresolve
  have hnames := Settings.names_of_resolve hvalid hresolve
  have hnodup : (entries.map Prod.fst).Nodup := by
    rw [hnames]
    cases only with
    | none => exact Settings.nodup_names hvalid
    | some name => exact List.nodup_singleton name
  have hnonempty : entries ≠ [] := by
    rintro rfl
    cases only with
    | none => exact Settings.names_ne_nil hnames.symm
    | some name => cases hnames
  refine ⟨hnonempty, hnodup, hnames, ?_⟩
  intro checks w hassigned
  have hrun := hassigned.run_eq hnodup .empty
  refine ⟨?_, ?_, ?_⟩
  · intro hhealthy c hc
    rcases hassigned.stores c hc with ⟨store, hoffers, _⟩
    rw [hassigned.ending_eq hc hoffers.tables]
    exact exists_outcome_of_healthy (hhealthy c hc store hoffers.tables)
  · intro hok
    rcases report_of_ok (hassigned.sites ▸ hnodup) hok with ⟨report, hgather, hperm, hfiled, hpassed⟩
    rw [← hrun] at hgather
    refine ⟨report, _, Prod.ext hgather rfl, hassigned.sites ▸ hperm, hfiled, ?_⟩
    simp only [hpassed, Outcome.passed_iff_nil]
  · intro before c after stop hchecks hbefore hc
    subst hchecks
    have hgather := gather_of_error after .empty hbefore hc
    rw [← hrun] at hgather
    exact ⟨_, Prod.ext hgather rfl⟩

def twoNamespaces : Settings := { namespaces := [{ name := "asic0" }, { name := "asic1" }] }

def twoChecks : List Check := [{ plain with site := "asic0" }, { plain with site := "asic1" }]

/-- A namespace with a route that is not programmed, and one without routes. -/
def twoSites : World :=
  (({ deadline := 60000 } : World).setSite "asic0"
    (.memory (Store.empty.addRoute "10.0.0.0/24" "Ethernet0" "10.1.0.1"))).setSite "asic1"
    (.memory .empty)

theorem assigned_twoChecks : Assigned twoSites ["asic0", "asic1"] twoChecks where
  sites := rfl
  daemons := by
    intro c hc
    rcases List.mem_pair.mp hc with rfl | rfl
    · rfl
    · rfl
  stores := by
    intro c hc
    rcases List.mem_pair.mp hc with rfl | rfl
    · exact ⟨_, ⟨(World.site_setSite_of_ne (by decide)).trans World.site_setSite_self, rfl, rfl, rfl,
        rfl⟩, rfl⟩
    · exact ⟨_, ⟨World.site_setSite_self, rfl, rfl, rfl, rfl⟩, rfl⟩

theorem namespaces_checked_of_two :
    exists report v, twoSites.run (checkAll twoChecks .empty) = (.ok report, v) ∧
      (Ascending.names report).Perm ["asic0", "asic1"] ∧
      ∀ c ∈ twoChecks, exists o, ((twoSites.alone c.site).run c.cycle).1 = .ok o ∧
        report.get? c.site = some o := by
  have hvalid : twoNamespaces.validate = .ok () := by
    simp [twoNamespaces, Settings.validate, CheckSettings.timeoutMillis, Settings.firstRepeat?]
  rcases namespaces_checked hvalid none with ⟨_, hresolved⟩
  rcases hresolved _ rfl with ⟨_, _, _, hchecks⟩
  rcases hchecks twoChecks twoSites assigned_twoChecks with ⟨hhealthy, hok, _⟩
  have houtcomes := hhealthy fun c hc store hstore => by
    rcases List.mem_pair.mp hc with rfl | rfl
    · rw [twoSites, World.site_setSite_of_ne (by decide), World.site_setSite_self] at hstore
      cases hstore
      rfl
    · rw [twoSites, World.site_setSite_self] at hstore
      cases hstore
      rfl
  rcases hok houtcomes with ⟨report, v, hrun, hnames, hfiled, _⟩
  exact ⟨report, v, hrun, hnames, hfiled⟩

end Check
end RouteAudit
