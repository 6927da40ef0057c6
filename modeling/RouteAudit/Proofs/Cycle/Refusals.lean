import RouteAudit.Proofs.Cycle.Forgetting

/-!
# Refused cycles

A cycle has an outcome if all databases that it needs answer: those of the programmed and of
the intended routes in any case, and the configuration where the first comparison shows a
mismatch or a routing daemon is attached.  Otherwise the first refused request is its failure.
Whichever way it ends, the tables stay, and the changes that were kept are gone unless the
subscription was refused.
-/

namespace RouteAudit

open Program

theorem Store.refused_iff {s : Store} {db : Database} : s.refused db = true ↔ db ∈ s.failing := by
  unfold Store.refused
  exact List.contains_iff_mem

namespace Check

/-- The failure of the first request of a cycle that a store refuses. -/
def firstRefusal (c : Check) (store : Store) : Option Failure :=
  if store.refused .asic then
    some (Store.refusal .asic "subscribe")
  else if store.refused .appl then
    some (Store.refusal .appl
      (Store.keysOperation .appl (Database.tableStart .appl Tables.route ++ "*")))
  else if store.refused .config ∧
      ((Mismatches.ofSnapshot store.snapshot).isClean = false ∨ c.daemon ≠ none) then
    some (Store.refusal .config "hgetall")
  else
    none

variable {c : Check} {store : Store} {deadline : Time} {s : Calm.State} {w v : World}

theorem firstRefusal_congr {other : Store} (hrows : other.rows = store.rows)
    (hfailing : other.failing = store.failing) : c.firstRefusal other = c.firstRefusal store := by
  cases other
  cases store
  cases hrows
  cases hfailing
  rfl

theorem refused_asic_of_ne
    (h : c.firstRefusal store ≠ some (Store.refusal .asic "subscribe")) :
    store.refused .asic = false := by
  apply Bool.eq_false_of_not_eq_true
  intro hasic
  exact h (if_pos hasic)

theorem refused_asic_of_none (h : c.firstRefusal store = none) : store.refused .asic = false := by
  apply refused_asic_of_ne
  rw [h]
  nofun

theorem refused_asic_of_operation {db : Database} {operation : String}
    (h : c.firstRefusal store = some (Store.refusal db operation))
    (hoperation : operation ≠ "subscribe") : store.refused .asic = false := by
  apply refused_asic_of_ne
  rw [h]
  intro hsame
  injection hsame with hfailure
  injection hfailure with heq _
  exact hoperation heq

section Deciding

variable (hasic : store.refused .asic = false)

include hasic

theorem firstRefusal_of_appl (happl : store.refused .appl = true) :
    c.firstRefusal store = some (Store.refusal .appl
      (Store.keysOperation .appl (Database.tableStart .appl Tables.route ++ "*"))) := by
  unfold firstRefusal
  simp [hasic, happl]

variable (happl : store.refused .appl = false)

include happl

theorem firstRefusal_of_config (hconfig : store.refused .config = true)
    (hneeded : (Mismatches.ofSnapshot store.snapshot).isClean = false ∨ c.daemon ≠ none) :
    c.firstRefusal store = some (Store.refusal .config "hgetall") := by
  unfold firstRefusal
  simp [hasic, happl, hconfig, hneeded]

theorem firstRefusal_eq_none (hconfig : store.refused .config = true →
    (Mismatches.ofSnapshot store.snapshot).isClean = true ∧ c.daemon = none) :
    c.firstRefusal store = none := by
  unfold firstRefusal
  rw [if_neg (by simp [hasic]), if_neg (by simp [happl]), if_neg]
  intro hparts
  rcases hparts with ⟨hrefused, hneeded⟩
  rcases hconfig hrefused with ⟨hclean, hdaemon⟩
  simp [hclean, hdaemon] at hneeded

end Deciding

theorem firstRefusal_ne_none_iff : c.firstRefusal store ≠ none ↔
    .asic ∈ store.failing ∨ .appl ∈ store.failing ∨
    .config ∈ store.failing ∧
      ((exists k, (k ∈ store.intended.keys ∧ k ∉ store.programmed) ∨
          (k ∈ store.interfaceHosts ∧ k ∉ store.programmed) ∨
          (k ∈ store.programmed ∧ k ∉ store.intended.keys ∧ k ∉ store.interfaceHosts)) ∨
        c.daemon ≠ none) := by
  rw [← Mismatches.isClean_snapshot_eq_false_iff]
  unfold firstRefusal
  simp only [Store.refused_iff]
  split
  · simp [*]
  · split
    · simp [*]
    · split
      · simp [*]
      · simp [*]

theorem eq_of_firstRefusal {f : Failure} (h : c.firstRefusal store = some f) :
    f = if .asic ∈ store.failing then .store "subscribe" "ASIC_DB unavailable"
      else if .appl ∈ store.failing then
        .store "keys APPL_DB ROUTE_TABLE:*" "APPL_DB unavailable"
      else .store "hgetall" "CONFIG_DB unavailable" := by
  unfold firstRefusal at h
  simp only [Store.refused_iff] at h
  split at h
  · rename_i hasic
    cases h
    rw [if_pos hasic]
    rfl
  · rename_i hasic
    rw [if_neg hasic]
    split at h
    · rename_i happl
      cases h
      rw [if_pos happl]
      rfl
    · rename_i happl
      rw [if_neg happl]
      split at h
      · cases h
        rfl
      · cases h

/-!
# Stages before a store that may refuse
-/

/-- The surroundings in which a cycle stops at its first refused request. -/
def refusing (c : Check) (store : Store) (deadline : Time) : Surroundings Calm.State :=
  (c.calm store deadline).refusing (c.daemon ≠ none) fun f => c.firstRefusal store = some f

theorem allows_open (store : Store) (site : String) :
    Allows (fun q => store.refusal? q = none) (fun db => store.refused db = false) site where
  keys _ _ hopen _ := Store.refusal?_keys.mpr hopen
  row _ _ hopen := Store.refusal?_row.mpr hopen
  enter _ := rfl
  remaining := rfl
  drain _ := rfl

/-- What is ensured in a calm world is ensured without a refused request. -/
theorem ensures_open {α : Type} {p : Program α} {Q : α → Calm.State → Prop}
    (h : Ensures (c.calm store deadline).surroundings p s Q)
    (hp : Keeps (fun q => store.refusal? q = none) p) :
    Ensures (c.refusing store deadline) p s Q := by
  apply (h.keeping hp).widen
  · intro t q hparts
    rcases hparts with ⟨hserves, hopen⟩
    constructor
    · exact Or.inl hserves
    · intro f hf
      have hnone : (c.calm store deadline).store.refusal? q = none := hopen
      rw [hnone] at hf
      cases hf
  · intro t q x u _ hx
    exact hx.2

/-- No answer follows the first refused request. -/
theorem ensures_refused (q : Request) {f : Failure} {Q : q.Answer → Calm.State → Prop}
    (hq : IsQuestion q) (hserves : (c.calm store deadline).serves s q)
    (hrefusal : store.refusal? q = some f) (hfirst : c.firstRefusal store = some f) :
    Ensures (c.refusing store deadline) (request q) s Q := by
  have hrefusal' : (c.calm store deadline).store.refusal? q = some f := hrefusal
  rw [ensures_request hq]
  constructor
  · constructor
    · exact Or.inl hserves
    · intro g hg
      rw [hrefusal'] at hg
      cases hg
      exact hfirst
  · intro x t hx
    have hopen := hx.1
    rw [hrefusal'] at hopen
    cases hopen

theorem ensures_enter_refusing {stage : Stage} {Q : Unit → Calm.State → Prop} (hQ : Q () s) :
    Ensures (c.refusing store deadline) (enter stage) s Q :=
  ensures_open (Calm.ensures_stage.mpr hQ) (Keeps.enter rfl)

theorem ensures_takeSnapshot_refusing :
    Ensures (c.refusing store deadline) c.takeSnapshot s fun snapshot t =>
      store.refused .asic = false ∧ store.refused .appl = false ∧ snapshot = store.snapshot ∧
      t = ⟨drainStart store s.clock, .ofChanges [], s.kept.startingAt s.clock⟩ := by
  have hallows := allows_open store c.site
  cases hasic : store.refused .asic with
  | true =>
      unfold takeSnapshot
      rw [ensures_bind]
      apply ensures_enter_refusing
      rw [ensures_bind]
      exact ensures_refused (.subscribe c.site) trivial rfl (if_pos hasic) (if_pos hasic)
  | false =>
      have hprogrammed : ∀ pattern, store.refusal? (.keys c.site .asic pattern) = none :=
        fun pattern => Store.refusal?_keys.mpr hasic
      cases happl : store.refused .appl with
      | true =>
          unfold takeSnapshot Gathering.snapshot
          rw [ensures_bind]
          apply ensures_enter_refusing
          rw [ensures_bind]
          apply ensures_open (Calm.ensures_subscribe.mpr _)
            (Keeps.request (q := .subscribe c.site) trivial (Store.refusal?_subscribe.mpr hasic))
          rw [ensures_bind]
          apply ensures_open _ (Gathering.Allows.keeps_programmedRoutes hprogrammed)
          apply ((c.calm store deadline).reads.ensures_programmedRoutes trivial).mpr
          -- the first listing of the application tables is the scan of the intended routes
          unfold Gathering.intendedRoutes scan keysOf
          rw [ensures_bind, ensures_bind, ensures_bind]
          exact ensures_refused (.keys c.site .appl _) trivial rfl (if_pos happl)
            (firstRefusal_of_appl hasic happl)
      | false =>
          apply ensures_open
          · rw [ensures_takeSnapshot]
            exact ⟨rfl, rfl, rfl, rfl⟩
          · exact hallows.keeps_takeSnapshot happl (Store.refusal?_subscribe.mpr hasic) hprogrammed

section Snapshot

variable (hasic : store.refused .asic = false) (happl : store.refused .appl = false)

include hasic happl

/-- Only a comparison that is not clean makes a cycle read the configuration for the rules. -/
theorem ensures_explain_refusing (hfeed : s.feed.ending.isBroken = false) :
    Ensures (c.refusing store deadline)
      (c.explain store.snapshot.routes (.ofSnapshot store.snapshot)) s fun m _ =>
        m = c.explained (store.context store.snapshot.routes c.locals c.settings.fabricStart)
          (c.arrivals s.feed s.clock deadline) (.ofSnapshot store.snapshot) ∧
        (store.refused .config = true →
          (Mismatches.ofSnapshot store.snapshot).isClean = true) := by
  have hallows := allows_open store c.site
  cases hconfig : store.refused .config with
  | false =>
      apply (ensures_open (ensures_explain hfeed) (hallows.keeps_explain happl hconfig _ _)).imp
      intro m t heq
      exact ⟨heq, nofun⟩
  | true =>
      unfold explain explained
      by_cases hclean : (Mismatches.ofSnapshot store.snapshot).isClean = true
      · rw [if_pos hclean, if_pos hclean]
        exact ⟨rfl, fun _ => hclean⟩
      · rw [if_neg hclean, ensures_bind]
        apply (ensures_open (ensures_reconcile hfeed) (hallows.keeps_reconcile _)).imp
        intro m t _
        unfold exclude
        rw [ensures_bind]
        apply ensures_enter_refusing
        unfold Gathering.context entry
        rw [ensures_bind, ensures_bind]
        apply ensures_refused (.row c.site .config _) trivial rfl (if_pos hconfig)
        exact firstRefusal_of_config hasic happl hconfig (Or.inl (Bool.not_eq_true _ ▸ hclean))

/-- An attached daemon makes a cycle read the configuration. -/
theorem ensures_askDaemon_refusing :
    Ensures (c.refusing store deadline) c.askDaemon s fun records _ =>
      (c.daemon = none → records = []) ∧ (store.refused .config = true → c.daemon = none) := by
  cases hdaemon : c.daemon with
  | none =>
      apply (ensures_askDaemon_none hdaemon).imp
      intro records t heq
      exact ⟨fun _ => heq, fun _ => rfl⟩
  | some attached =>
      have hattached : c.daemon ≠ none := by simp [hdaemon]
      cases hconfig : store.refused .config with
      | false =>
          refine (c.keeps_askDaemon.ensures ?_ (fun _ _ _ _ _ _ _ => trivial) trivial).imp ?_
          · intro t q _ hq
            cases q with
            | enter stage => exact ⟨Or.inl trivial, nofun⟩
            | row site db key =>
                rcases hq with ⟨hsite, rfl⟩
                constructor
                · exact Or.inl hsite
                · intro f hf
                  have hopen : (c.calm store deadline).store.refusal? (.row site .config key) =
                    none := Store.refusal?_row.mpr hconfig
                  rw [hopen] at hf
                  cases hf
            | fetch daemon => exact ⟨Or.inr ⟨hattached, trivial⟩, nofun⟩
            | pause duration stage => exact ⟨Or.inr ⟨hattached, trivial⟩, nofun⟩
            | _ => exact absurd hq id
          · exact fun _ _ _ => ⟨nofun, nofun⟩
      | true =>
          rcases attached with ⟨daemon, settings⟩
          unfold askDaemon
          rw [hdaemon]
          unfold ControlPlane.suppressing entry
          rw [ensures_bind, ensures_bind]
          exact ensures_refused (.row c.site .config _) trivial rfl (if_pos hconfig)
            (firstRefusal_of_config hasic happl hconfig (Or.inr hattached))

end Snapshot

/-- A cycle that is not stopped by a refusal was refused nothing. -/
theorem ensures_cycle_refusing (hkept : s.kept = store.kept)
    (hworking : store.kept.ending.isBroken = false) :
    Ensures (c.refusing store deadline) c.cycle s fun o _ => c.firstRefusal store = none ∧
      exists records, (c.daemon = none → records = []) ∧
        o = (c.settled store (c.lateChanges store s.clock deadline)).outcome records := by
  have hallows := allows_open store c.site
  unfold cycle stages
  rw [ensures_within, ensures_bind]
  apply ensures_takeSnapshot_refusing.imp
  intro snapshot t hparts
  rcases hparts with ⟨hasic, happl, rfl, rfl⟩
  rw [ensures_bind]
  apply ensures_open _ (hallows.keeps_compareTables _)
  rw [ensures_compareTables, ensures_bind]
  refine (ensures_explain_refusing hasic happl ?_).imp ?_
  · rw [hkept]
    exact (FeedEnd.isBroken_startingAt _ _).trans hworking
  · intro m t hparts
    rcases hparts with ⟨rfl, hclean⟩
    rw [ensures_bind]
    apply (ensures_askDaemon_refusing hasic happl).imp
    intro records u hparts
    rcases hparts with ⟨hrecords, hdaemon⟩
    apply (ensures_open ensures_conclude (keeps_conclude (fun _ => rfl) _)).imp
    intro o v heq
    rcases heq with rfl
    constructor
    · exact firstRefusal_eq_none hasic happl fun hconfig => ⟨hclean hconfig, hdaemon hconfig⟩
    · refine ⟨records, hrecords, ?_⟩
      rw [hkept]
      rfl

end Check

/-!
# Runs before a store that may refuse
-/

/-- The store of a site takes its changes from nobody but its deeds, and nothing interrupts the
run.  Databases of the store may fail. -/
structure World.Offers (w : World) (site : String) (store : Store) : Prop where
  tables : w.site site = .memory store
  kept : store.upcoming = none
  unwatched : w.watched = false
  uncancelled : w.cancelAt = none
  quiet : w.outside = []

namespace Check

variable {c : Check} {store : Store} {w : World}

theorem working_of_offers {site : String} (h : w.Offers site store) :
    store.kept.ending.isBroken = false := by
  unfold Store.kept
  rw [h.kept]
  rfl

theorem holds_of_offers (h : w.Offers c.site store) :
    (c.calm store w.deadline).Holds (c.start store w) w := by
  refine ⟨⟨store, h.tables, rfl, rfl, rfl, rfl⟩, rfl, rfl, rfl, h.unwatched, h.uncancelled, ?_⟩
  rw [h.quiet]
  exact fun o ho => absurd ho List.not_mem_nil

/-- A cycle ends with an outcome if nothing that it needs is refused, and otherwise with its
first refused request. -/
theorem run_cases (h : w.Offers c.site store) (hdaemons : c.daemon ≠ none → w.DaemonsWork) :
    (exists t, (c.calm store w.deadline).Holds t (w.run c.cycle).2) ∧
    ((exists o v, w.run c.cycle = (.ok o, v) ∧ c.firstRefusal store = none ∧
      exists records, (c.daemon = none → records = []) ∧
        o = (c.settled store (c.lateChanges store w.now w.deadline)).outcome records) ∨
    exists f asked q next v, w.run c.cycle = (.error (.failed f), v) ∧
      c.firstRefusal store = some f ∧ World.Asks c.cycle w asked (.ask q next) v ∧
      store.refusal? q = some f ∧ ∀ r ∈ asked, store.refusal? r = none) := by
  have hcycle : Ensures (c.refusing store w.deadline) c.cycle (c.start store w) _ :=
    ensures_cycle_refusing rfl (working_of_offers h)
  have hfollows : World.Follows (c.refusing store w.deadline) (c.calm store w.deadline).Holds :=
    Calm.follows_refusing _ _ _
  have hstart := holds_of_offers h
  cases hrun : w.run c.cycle with
  | mk result v =>
      cases result with
      | ok o =>
          rcases hfollows.ensured hcycle hstart hrun with ⟨t, houtcome, hv⟩
          exact ⟨⟨t, hv⟩, Or.inl ⟨o, v, rfl, houtcome⟩⟩
      | error stop =>
          rcases World.exists_asks_of_error hrun with
            ⟨asked, f, hasked, _⟩ | ⟨asked, q, next, u, hasked, hstop⟩
          · rcases hfollows.at_point hcycle hstart hasked with ⟨t, hrest, _⟩
            exact absurd hrest id
          · rcases hfollows.at_point hcycle hstart hasked with ⟨t, hrest, hu⟩
            rcases log_or_question q with ⟨event, rfl⟩ | hq
            · cases hstop
            · rcases (ensures_ask hq).mp hrest with ⟨⟨hserves, hfirst⟩, _⟩
              rcases hu.stopped (hserves.imp_right And.right) hstop with
                ⟨f, hrefusal, rfl, rfl⟩ | ⟨daemon, rfl⟩
              · refine ⟨⟨t, hu⟩, Or.inr
                  ⟨f, asked, q, next, v, rfl, hfirst f hrefusal, hasked, hrefusal, ?_⟩⟩
                intro r hr
                rcases log_or_question r with ⟨event, rfl⟩ | hquestion
                · rfl
                · rcases hfollows.answered hcycle hstart hasked hr hquestion with ⟨_, _, _, hx⟩
                  exact hx.1
              · rcases World.exists_read_of_fetch hstop with ⟨reads, f, hreads, hf, _⟩
                rcases hserves with hserved | ⟨hattached, _⟩
                · exact absurd hserved id
                · exact absurd hf ((hdaemons hattached).of_asks hasked reads hreads f)

/-!
# What a cycle leaves
-/

/-- A cycle subscribes unless its subscription is refused. -/
theorem served_of_run (h : w.Offers c.site store) (hdaemons : c.daemon ≠ none → w.DaemonsWork) :
    World.Served c.site store (!store.refused .asic) (w.run c.cycle).2 := by
  have hfollows := World.Served.follows c.site store
  have hstart : World.Served c.site store false w :=
    ⟨h.quiet, store, h.tables, ⟨rfl, rfl, rfl, h.kept, rfl⟩, rfl⟩
  rcases (run_cases h hdaemons).2 with
    ⟨o, v, hrun, hnone, _⟩ | ⟨f, asked, q, next, v, hrun, hsome, hasked, hrefusal, _⟩
  · rcases hfollows.ensured c.ensures_subscribing hstart hrun with ⟨_, rfl, hv⟩
    rw [hrun, refused_asic_of_none hnone]
    exact hv
  · rcases hfollows.at_point c.ensures_subscribing hstart hasked with ⟨subscribed, hrest, hv⟩
    suffices hsubscribed : subscribed = !store.refused .asic by
      rw [hrun, ← hsubscribed]
      exact hv
    cases q with
    | keys site db pattern =>
        rcases hrest.1 with ⟨_, rfl⟩
        rcases Option.ite_some_none_eq_some.mp hrefusal with ⟨_, rfl⟩
        rw [refused_asic_of_operation hsome (Store.keysOperation_ne_subscribe db pattern)]
        rfl
    | row site db key =>
        rcases hrest.1 with ⟨_, rfl⟩
        rcases Option.ite_some_none_eq_some.mp hrefusal with ⟨_, rfl⟩
        rw [refused_asic_of_operation hsome (by decide)]
        rfl
    | subscribe site =>
        rcases hrest.1 with ⟨_, rfl⟩
        rcases Option.ite_some_none_eq_some.mp hrefusal with ⟨hasic, _⟩
        rw [hasic]
        rfl
    | _ => cases hrefusal

/-- However a cycle ends, the next one finds the same tables, and of the changes what the
subscription did not take. -/
theorem offers_after_run (h : w.Offers c.site store)
    (hdaemons : c.daemon ≠ none → w.DaemonsWork) :
    exists n, (w.run c.cycle).2.Offers c.site n ∧ n.rows = store.rows ∧
      n.failing = store.failing ∧
      n.scripted = if store.refused .asic then store.scripted else [] := by
  have hserved := served_of_run h hdaemons
  rcases hserved.store with ⟨n, hn, hresembles, _⟩
  rcases (run_cases h hdaemons).1 with ⟨t, hv⟩
  refine ⟨n, ⟨hn, hresembles.upcoming, hv.unwatched, hv.uncancelled, hserved.quiet⟩,
    hresembles.rows, hresembles.failing, hresembles.scripted.trans ?_⟩
  cases store.refused .asic with
  | true => rfl
  | false => rfl

/-- A cycle has no outcome exactly if a database that it needs fails: the one of the programmed
routes, the one of the intended routes, or, where the tables do not agree or a daemon is
attached, the configuration.  It then ends with its first refused request, all others before it
being granted.  Whether it has an outcome or not, the tables stay, and the changes that were
kept are still there exactly if the subscription was refused. -/
theorem cycle_of_failing_databases (h : w.Offers c.site store)
    (hdaemons : c.daemon ≠ none → w.DaemonsWork) :
    exists result v, w.run c.cycle = (result, v) ∧
      ((exists stop, result = .error stop) ↔
        .asic ∈ store.failing ∨ .appl ∈ store.failing ∨
        .config ∈ store.failing ∧
          ((exists k, (k ∈ store.intended.keys ∧ k ∉ store.programmed) ∨
              (k ∈ store.interfaceHosts ∧ k ∉ store.programmed) ∨
              (k ∈ store.programmed ∧ k ∉ store.intended.keys ∧ k ∉ store.interfaceHosts)) ∨
            c.daemon ≠ none)) ∧
      (∀ stop, result = .error stop →
        exists f asked q next, stop = .failed f ∧
          World.Asks c.cycle w asked (.ask q next) v ∧ store.refusal? q = some f ∧
          (∀ r ∈ asked, store.refusal? r = none) ∧
          f = if .asic ∈ store.failing then .store "subscribe" "ASIC_DB unavailable"
            else if .appl ∈ store.failing then
              .store "keys APPL_DB ROUTE_TABLE:*" "APPL_DB unavailable"
            else .store "hgetall" "CONFIG_DB unavailable") ∧
      exists n, v.site c.site = .memory n ∧ n.rows = store.rows ∧
        n.scripted = if .asic ∈ store.failing then store.scripted else [] := by
  have hstore : exists n, (w.run c.cycle).2.site c.site = .memory n ∧ n.rows = store.rows ∧
      n.scripted = if .asic ∈ store.failing then store.scripted else [] := by
    rcases offers_after_run h hdaemons with ⟨n, hoffers, hrows, _, hscripted⟩
    simp only [Store.refused_iff] at hscripted
    exact ⟨n, hoffers.tables, hrows, hscripted⟩
  rcases (run_cases h hdaemons).2 with
    ⟨o, v, hrun, hnone, _⟩ | ⟨f, asked, q, next, v, hrun, hsome, hasked, hrefusal, hgranted⟩
  · rw [hrun] at hstore
    refine ⟨_, v, hrun, ?_, nofun, hstore⟩
    rw [← firstRefusal_ne_none_iff, hnone]
    simp
  · rw [hrun] at hstore
    refine ⟨_, v, hrun, ?_, ?_, hstore⟩
    · rw [← firstRefusal_ne_none_iff, hsome]
      simp
    · intro stop hstop
      cases hstop
      exact ⟨f, asked, q, next, rfl, hasked, hrefusal, hgranted, eq_of_firstRefusal hsome⟩

/-- A check that asks the first daemon. -/
def attached : Check := { plain with daemon := some (0, {}) }

/-- A store without routes whose configuration cannot be read, and which keeps a change. -/
def closedStore : Store :=
  (Store.empty.fail .config).announce ⟨.add, .network 10 0 0⟩

def closedWorld : World := { World.around closedStore with daemons := [[.ok []]] }

theorem cycle_of_closedStore :
    exists v n, closedWorld.run attached.cycle =
        (.error (.failed (.store "hgetall" "CONFIG_DB unavailable")), v) ∧
      v.site "" = .memory n ∧ n.scripted = [] := by
  have hoffers : closedWorld.Offers attached.site closedStore :=
    ⟨World.site_setSite_self (w := {}), rfl, rfl, rfl, rfl⟩
  have hdaemons : closedWorld.DaemonsWork := by
    intro reads hreads f hf
    obtain rfl : reads = [.ok []] := List.mem_singleton.mp hreads
    cases List.mem_singleton.mp hf
  rcases cycle_of_failing_databases hoffers (fun _ => hdaemons) with
    ⟨result, v, hrun, hfails, hfailure, n, hn, _, hscripted⟩
  rcases hfails.mpr (Or.inr (Or.inr ⟨List.mem_cons_self, Or.inr (by decide)⟩)) with ⟨stop, rfl⟩
  rcases hfailure stop rfl with ⟨f, _, _, _, rfl, _, _, _, rfl⟩
  exact ⟨v, n, hrun, hn, hscripted⟩

end Check
end RouteAudit
