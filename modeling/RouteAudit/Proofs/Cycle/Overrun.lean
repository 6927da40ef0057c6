import RouteAudit.Proofs.ControlPlane.EveryRead
import RouteAudit.Proofs.Cycle.Budget
import RouteAudit.Proofs.Gathering.Reading

/-!
# Checks that wait for as long as they may

In some worlds that answer at once checks wait for all that they may wait for: their tables
differ, no change comes while their windows are open, and a route stays pending at every read
of every routing daemon.  The windows and the waits of the checks then add up, and where they
take longer than the time limit the checks time out.
-/

namespace RouteAudit

open Program

/-- The names of sites that are checked, and the deadline of the checks. -/
structure Overrun where
  names : List String
  deadline : Nat

namespace Overrun

/-!
# A world of waits
-/

/-- A store with a route that is intended only, on a device that waits for its hardware.  Its
feed stays silent. -/
def store : Store :=
  ((Store.empty.addRoute "10.0.0.0/24" "Ethernet0" "10.1.0.1").setMetadata
    "suppress-fib-pending" "enabled").offer ⟨[], .silent⟩

/-- What every routing daemon answers at every read. -/
def records : List Json := [ControlPlane.selected "10.0.0.0/24" "00:01" []]

def sites : List String → Table Site
  | [] => .empty
  | name :: rest => (sites rest).set name (.memory store)

/-- A site for each name, and as many daemons. -/
def world (names : List String) : World :=
  { sites := sites names, daemons := List.replicate names.length [.ok records] }

theorem not_isClean_store : (Mismatches.ofSnapshot store.snapshot).isClean = false := by
  decide +kernel

theorem isSuppressing_store : store.isSuppressing = true := rfl

/-- What is pending at every read is kept at every read. -/
theorem keep_records {previous : Option (List Json)} (h : previous.getD records = records) :
    ControlPlane.keep previous records = records := by
  cases previous with
  | none => rfl
  | some previous =>
      obtain rfl : previous = records := h
      rfl

/-!
# The course of the waits
-/

structure State where
  clock : Nat
  /-- The sites whose changes were subscribed to. -/
  subscribed : List String

def State.wait (s : State) (duration : Nat) : State := { s with clock := s.clock + duration }

def serves (p : Overrun) (s : State) : Request → Prop
  | .keys site _ _ => site ∈ p.names
  | .row site _ _ => site ∈ p.names
  | .subscribe site => site ∈ p.names ∧ site ∉ s.subscribed
  | .drain site _ => site ∈ s.subscribed
  | .fetch daemon => daemon < p.names.length
  | _ => True

def answers (p : Overrun) (s : State) : (q : Request) → q.Answer → State → Prop
  | .remaining, x, t => x = p.deadline - s.clock ∧ t = s
  | .keys _ db pattern, x, t => x = store.keys db pattern ∧ t = s
  | .row _ db key, x, t => x = store.fieldsOf db key ∧ t = s
  | .subscribe site, _, t => t = { s with subscribed := site :: s.subscribed }
  | .drain _ window, _, t => t = s.wait window
  | .fetch _, x, t => x = records ∧ t = s
  | .pause duration _, _, t => t = s.wait duration
  | _, _, t => t = s

/-- Surroundings in which every wait takes its time. -/
def surroundings (p : Overrun) : Surroundings State := ⟨p.serves, p.answers⟩

structure Holds (p : Overrun) (s : State) (w : World) : Prop where
  clock : w.now = s.clock
  deadline : w.deadline = p.deadline
  unwatched : w.watched = false
  uncancelled : w.cancelAt = none
  quiet : w.outside = []
  daemons : w.daemons = List.replicate p.names.length [.ok records]
  stores : ∀ name ∈ p.names, exists m, w.site name = .memory m ∧ m.rows = store.rows ∧
    m.failing = [] ∧ m.delay = none ∧ (name ∉ s.subscribed → m.upcoming = store.upcoming)
  feeds : ∀ name ∈ s.subscribed, w.feed name = ⟨[], .silent⟩

variable {p : Overrun} {s : State} {w : World}

/-!
# The world of waits follows its course
-/

theorem Holds.note (h : p.Holds s w) (event : LogEvent) : p.Holds s (w.note event) :=
  ⟨h.clock, h.deadline, h.unwatched, h.uncancelled, h.quiet, h.daemons, h.stores, h.feeds⟩

theorem Holds.waitUntil (h : p.Holds s w) (t : Nat) :
    exists v, w.waitUntil t = (.ok (), v) ∧ p.Holds { s with clock := max s.clock t } v := by
  refine ⟨{ w with now := max w.now t }, ?_, congrArg (max · t) h.clock, h.deadline, h.unwatched,
    h.uncancelled, h.quiet, h.daemons, h.stores, h.feeds⟩
  unfold World.waitUntil
  rw [World.interruption?_of_unwatched h.unwatched, World.advance_of_quiet h.quiet]
  split
  · rename_i hpast
    rw [Nat.max_eq_left hpast]
  · rfl

/-- A wait of some length is a wait until its end. -/
theorem Holds.wait (h : p.Holds s w) (duration : Nat) :
    exists v, w.waitUntil (s.clock + duration) = (.ok (), v) ∧ p.Holds (s.wait duration) v := by
  rcases h.waitUntil (s.clock + duration) with ⟨v, hwait, hv⟩
  rw [Nat.max_eq_right (Nat.le_add_right s.clock duration)] at hv
  exact ⟨v, hwait, hv⟩

theorem Holds.setFeed (h : p.Holds s w) (name : String) :
    p.Holds s (w.setFeed name ⟨[], .silent⟩) := by
  refine ⟨h.clock, h.deadline, h.unwatched, h.uncancelled, h.quiet, h.daemons, h.stores, ?_⟩
  intro other hother
  by_cases hname : other = name
  · rw [hname]
    exact World.feed_setFeed_self
  · exact (World.feed_setFeed_of_ne hname).trans (h.feeds other hother)

/-- A store is replaced by one with the same tables, perhaps once its feed is handed out. -/
theorem Holds.setSite {name : String} {m : Store} {subscribed : List String} (h : p.Holds s w)
    (hrows : m.rows = store.rows) (hfailing : m.failing = []) (hdelay : m.delay = none)
    (hupcoming : name ∉ subscribed → m.upcoming = store.upcoming)
    (hmore : s.subscribed ⊆ subscribed)
    (hfeeds : ∀ name ∈ subscribed, w.feed name = ⟨[], .silent⟩) :
    p.Holds { s with subscribed := subscribed } (w.setSite name (.memory m)) where
  clock := h.clock
  deadline := h.deadline
  unwatched := h.unwatched
  uncancelled := h.uncancelled
  quiet := h.quiet
  daemons := h.daemons
  stores other hother := by
    by_cases hname : other = name
    · subst hname
      exact ⟨m, World.site_setSite_self, hrows, hfailing, hdelay, hupcoming⟩
    · rcases h.stores other hother with ⟨n, hn, hnrows, hnfailing, hndelay, hnupcoming⟩
      refine ⟨n, (World.site_setSite_of_ne hname).trans hn, hnrows, hnfailing, hndelay, ?_⟩
      exact fun hfresh => hnupcoming fun hold => hfresh (hmore hold)
  feeds := hfeeds

theorem Holds.keys {name : String} (h : p.Holds s w) (hname : name ∈ p.names) (db : Database)
    (pattern : String) :
    exists v, w.keys name db pattern = (.ok (store.keys db pattern), v) ∧ p.Holds s v := by
  rcases h.stores name hname with ⟨m, hsite, hrows, hfailing, hdelay, hupcoming⟩
  have hgranted : p.Holds s
      (w.setSite name (.memory (m.grant (Store.keysOperation db pattern)))) :=
    h.setSite hrows hfailing hdelay hupcoming (List.Subset.refl _) h.feeds
  rcases hgranted.wait 0 with ⟨v, hwait, hv⟩
  rcases hv.stores name hname with ⟨n, hn, hnrows, _⟩
  refine ⟨v, ?_, hv⟩
  unfold World.keys
  simp only [hsite, Store.not_refused hfailing, Bool.false_eq_true, if_false]
  rw [hdelay, hgranted.clock, Option.getD_none, hwait]
  simp only [hn, Store.keys_congr hnrows]

theorem Holds.row {name : String} (h : p.Holds s w) (hname : name ∈ p.names) (db : Database)
    (key : String) : w.row name db key = (.ok (store.fieldsOf db key), w) := by
  rcases h.stores name hname with ⟨m, hsite, hrows, hfailing, _⟩
  unfold World.row
  simp only [hsite, Store.not_refused hfailing, Bool.false_eq_true, if_false,
    Store.fieldsOf_congr hrows]

theorem Holds.subscribe {name : String} (h : p.Holds s w) (hname : name ∈ p.names)
    (hfresh : name ∉ s.subscribed) :
    exists v, w.subscribe name = (.ok (), v) ∧
      p.Holds { s with subscribed := name :: s.subscribed } v := by
  rcases h.stores name hname with ⟨m, hsite, hrows, hfailing, hdelay, hupcoming⟩
  have hfeed : ((m.grant "subscribe").subscribe w.now).1 = ⟨[], .silent⟩ := by
    unfold Store.subscribe Store.grant
    rw [hupcoming hfresh]
    rfl
  have hhanded : p.Holds { s with subscribed := name :: s.subscribed }
      ((w.setFeed name ⟨[], .silent⟩).setSite name
        (.memory ((m.grant "subscribe").subscribe w.now).2)) := by
    refine (h.setFeed name).setSite hrows hfailing hdelay ?_ (List.subset_cons_self _ _) ?_
    · exact fun hnever => absurd List.mem_cons_self hnever
    · exact List.forall_mem_cons.mpr ⟨World.feed_setFeed_self, (h.setFeed name).feeds⟩
  refine ⟨_, ?_, hhanded⟩
  unfold World.subscribe
  simp only [hsite, Store.not_refused hfailing, Bool.false_eq_true, if_false, hfeed]
  rfl

/-- No change comes, and the window stays open until its end. -/
theorem Holds.drain {name : String} (h : p.Holds s w) (hname : name ∈ s.subscribed)
    (window : Nat) :
    exists d v, w.drain name window = (.ok d, v) ∧ p.Holds (s.wait window) v := by
  rcases h.wait window with ⟨v, hwait, hv⟩
  unfold World.drain World.collect
  rw [h.feeds name hname, h.clock]
  dsimp only
  rw [h.clock]
  split
  · rename_i hclosed
    have hnone : s.wait window = s := by
      unfold State.wait
      rw [Nat.le_antisymm hclosed (Nat.le_add_right s.clock window)]
    rw [hnone]
    exact ⟨_, _, rfl, (h.setFeed name).note _⟩
  · unfold World.collectEnd World.endDrainAt
    dsimp only
    rw [hwait]
    exact ⟨_, _, rfl, (hv.setFeed name).note _⟩

theorem Holds.fetch {daemon : Nat} (h : p.Holds s w) (hdaemon : daemon < p.names.length) :
    exists v, w.fetch daemon = (.ok records, v) ∧ p.Holds s v := by
  have hreads : w.daemons[daemon]?.getD [] = [.ok records] := by
    rw [h.daemons, List.getElem?_replicate_of_lt hdaemon]
    rfl
  have hkept : w.daemons.set daemon [.ok records] = w.daemons := by
    rw [h.daemons, List.set_replicate_self]
  unfold World.fetch
  rw [hreads]
  refine ⟨_, rfl, h.clock, h.deadline, h.unwatched, h.uncancelled, h.quiet, ?_, h.stores,
    h.feeds⟩
  exact hkept.trans h.daemons

theorem Holds.pause (h : p.Holds s w) (duration : Nat) (stage : Stage) :
    exists v, w.pause duration stage = (.ok (), v) ∧ p.Holds (s.wait duration) v := by
  rw [World.pause_of_none h.uncancelled, h.clock]
  exact h.wait duration

theorem Holds.enter (h : p.Holds s w) (stage : Stage) :
    exists left v, w.enter stage = (.ok left, v) ∧ p.Holds s v := by
  unfold World.enter
  rw [World.not_isCancelled_of_none h.uncancelled]
  exact ⟨_, _, rfl, h.clock, h.deadline, h.unwatched, h.uncancelled, h.quiet, h.daemons, h.stores,
    h.feeds⟩

/-- What is served is answered, and takes the time that it may take. -/
theorem Holds.answer {q : Request} (h : p.Holds s w) (hserves : p.serves s q) :
    exists x t v, w.answer q = (.ok x, v) ∧ p.answers s q x t ∧ p.Holds t v := by
  cases q with
  | log event => exact ⟨(), s, _, rfl, rfl, h.note event⟩
  | enter stage =>
      rcases h.enter stage with ⟨left, v, henter, hv⟩
      exact ⟨left, s, v, henter, rfl, hv⟩
  | remaining =>
      refine ⟨_, s, w, rfl, ⟨?_, rfl⟩, h⟩
      unfold World.remaining
      rw [h.deadline, h.clock]
  | keys name db pattern =>
      rcases h.keys hserves db pattern with ⟨v, hkeys, hv⟩
      exact ⟨_, s, v, hkeys, ⟨rfl, rfl⟩, hv⟩
  | row name db key => exact ⟨_, s, w, h.row hserves db key, ⟨rfl, rfl⟩, h⟩
  | subscribe name =>
      rcases h.subscribe hserves.1 hserves.2 with ⟨v, hsubscribe, hv⟩
      exact ⟨(), _, v, hsubscribe, rfl, hv⟩
  | drain name window =>
      rcases h.drain hserves window with ⟨d, v, hdrain, hv⟩
      exact ⟨d, _, v, hdrain, rfl, hv⟩
  | fetch daemon =>
      rcases h.fetch hserves with ⟨v, hfetch, hv⟩
      exact ⟨_, s, v, hfetch, ⟨rfl, rfl⟩, hv⟩
  | pause duration stage =>
      rcases h.pause duration stage with ⟨v, hpause, hv⟩
      exact ⟨(), _, v, hpause, rfl, hv⟩

theorem serves_all (p : Overrun) : World.Serves p.surroundings p.Holds := by
  intro s w q h hserves
  rcases h.answer hserves with ⟨x, t, v, hanswer, _⟩
  exact ⟨x, v, hanswer⟩

theorem follows (p : Overrun) : World.Follows p.surroundings p.Holds where
  note event h := h.note event
  sound := by
    intro s w q x v _ h hserves hanswer
    rcases h.answer hserves with ⟨y, t, u, hown, hy, ht⟩
    rw [hanswer] at hown
    cases hown
    exact ⟨t, hy, ht⟩

/-!
# Reading the tables
-/

theorem reads {site : String} (hsite : site ∈ p.names) :
    p.surroundings.Reads site store (fun t => t = s) fun t => t where
  servesKeys _ _ _ := hsite
  servesRow _ _ _ := hsite
  keys _ _ _ _ := Iff.rfl
  row _ _ _ _ := Iff.rfl
  kept ht := ht

theorem ensures_stage {stage : Stage} {Q : Unit → State → Prop} (hQ : Q () s) :
    Ensures p.surroundings (enter stage) s Q := by
  refine ensures_enter.mpr ⟨trivial, ?_⟩
  rintro _ t rfl
  exact hQ

variable {c : Check}

theorem ensures_findings (hsite : c.site ∈ p.names) (hfresh : c.site ∉ s.subscribed) :
    Ensures p.surroundings c.findings s fun _ t =>
      t = ⟨s.clock + min c.settings.windowMillis (p.deadline - s.clock),
        c.site :: s.subscribed⟩ := by
  unfold Check.findings Check.takeSnapshot
  rw [ensures_bind, ensures_bind]
  refine ensures_stage ?_
  rw [ensures_bind, ensures_request (q := .subscribe c.site) trivial]
  refine ⟨⟨hsite, hfresh⟩, ?_⟩
  rintro _ _ rfl
  rw [(reads hsite).ensures_snapshot rfl, ensures_bind, Check.ensures_compareTables_iff]
  refine ensures_stage ?_
  unfold Check.explain
  rw [if_neg (Bool.eq_false_iff.mp not_isClean_store), ensures_bind, Check.ensures_reconcile_iff]
  refine ensures_stage ?_
  rw [ensures_request (q := .remaining) trivial]
  refine ⟨trivial, ?_⟩
  rintro _ _ ⟨rfl, rfl⟩
  rw [ensures_request (q := .drain c.site _) trivial]
  refine ⟨List.mem_cons_self, ?_⟩
  rintro d _ rfl
  rw [Check.ensures_exclude_iff]
  refine ensures_stage ?_
  exact ((reads hsite).ensures_context rfl).imp fun _ _ hparts => hparts.1

/-!
# Waiting for a routing daemon
-/

theorem ensures_waitBefore {settings : DaemonSettings} {attempt : Nat} :
    Ensures p.surroundings (ControlPlane.waitBefore settings attempt) s fun _ t =>
      t = s.wait (if 1 < attempt then settings.retryWaitMillis else 0) := by
  unfold ControlPlane.waitBefore
  split
  · rw [ensures_request (q := .pause settings.retryWaitMillis .controlPlane) trivial]
    exact ⟨trivial, fun _ _ ht => ht⟩
  · exact rfl

/-- No read ends the loop, so each of them but the first one comes after a wait. -/
theorem ensures_reads {daemon : Nat} {settings : DaemonSettings}
    (hdaemon : daemon < p.names.length) (left attempt : Nat) (previous : Option (List Json))
    (hattempt : 1 ≤ attempt) (hprevious : previous.getD records = records) :
    Ensures p.surroundings (ControlPlane.reads daemon settings left attempt previous) s
      fun _ t => t = s.wait ((left - if 1 < attempt then 0 else 1) * settings.retryWaitMillis) := by
  induction left generalizing attempt previous s with
  | zero =>
      unfold ControlPlane.reads
      rw [ensures_bind, ensures_log, ensures_pure, Nat.zero_sub, Nat.zero_mul]
      rfl
  | succ left ih =>
      have hpending : ¬records.isEmpty = true := Bool.false_ne_true
      unfold ControlPlane.reads
      rw [ensures_bind]
      refine ensures_waitBefore.imp ?_
      rintro _ _ rfl
      rw [ensures_bind, ensures_request (q := .fetch daemon) trivial]
      refine ⟨hdaemon, ?_⟩
      rintro _ _ ⟨rfl, rfl⟩
      rw [ensures_bind, ensures_log, keep_records hprevious, if_neg hpending]
      refine (ih (attempt + 1) (some records) (Nat.le_add_left 1 attempt) rfl).imp ?_
      rintro _ _ rfl
      rw [if_pos (Nat.lt_succ_of_le hattempt), Nat.sub_zero]
      unfold State.wait
      split
      · rw [Nat.sub_zero, Nat.succ_mul, Nat.add_assoc, Nat.add_comm settings.retryWaitMillis]
      · rfl

theorem ensures_askDaemon {number : Nat} {settings : DaemonSettings} (hsite : c.site ∈ p.names)
    (hdaemon : c.daemon = some (number, settings)) (hnumber : number < p.names.length) :
    Ensures p.surroundings c.askDaemon s fun _ t => t = s.wait c.daemonPatience := by
  unfold Check.askDaemon Check.daemonPatience
  rw [hdaemon]
  dsimp only
  rw [ensures_bind, (reads hsite).ensures_suppressing rfl, isSuppressing_store, if_pos rfl,
    ensures_bind]
  refine ensures_stage ?_
  unfold ControlPlane.checkPending
  rw [ensures_within]
  refine (ensures_reads hnumber _ 1 none (Nat.le_refl 1) rfl).imp ?_
  rintro _ _ rfl
  have hwaits : max settings.retries 1 - 1 = settings.retries - 1 := by omega
  rw [if_neg (Nat.lt_irrefl 1), hwaits]
  rfl

/-!
# Checks that time out
-/

/-- A cycle waits for its window, as far as the deadline lets it, and for its daemon. -/
theorem ensures_cycle {number : Nat} {settings : DaemonSettings} (hsite : c.site ∈ p.names)
    (hfresh : c.site ∉ s.subscribed) (hdaemon : c.daemon = some (number, settings))
    (hnumber : number < p.names.length) :
    Ensures p.surroundings c.cycle s fun _ t =>
      t = ⟨s.clock + min c.settings.windowMillis (p.deadline - s.clock) + c.daemonPatience,
        c.site :: s.subscribed⟩ := by
  unfold Check.cycle
  rw [ensures_within, Check.stages_eq, ensures_bind]
  refine (ensures_findings hsite hfresh).imp ?_
  rintro m _ rfl
  rw [ensures_bind]
  refine (ensures_askDaemon hsite hdaemon hnumber).imp ?_
  rintro daemonRoutes _ rfl
  rw [Check.ensures_conclude_iff]
  exact ensures_stage rfl

/-- A check of one of the sites, with a routing daemon of its own. -/
structure Waits (p : Overrun) (window patience : Nat) (c : Check) : Prop where
  site : c.site ∈ p.names
  window : c.settings.windowMillis = window
  daemon : exists number settings, c.daemon = some (number, settings) ∧ number < p.names.length
  patience : c.daemonPatience = patience

/-- Checks whose windows and waits together take too long are not over by the deadline. -/
theorem ensures_checkAll {checks : List Check} {r : Report} {window patience : Nat}
    (hwaits : ∀ c ∈ checks, p.Waits window patience c) (hpositive : 0 < patience)
    (hdistinct : (checks.map Check.site).Nodup) (hfresh : ∀ c ∈ checks, c.site ∉ s.subscribed)
    (hlong : p.deadline < s.clock + checks.length * (window + patience)) :
    Ensures p.surroundings (checkAll checks r) s fun _ t => p.deadline < t.clock := by
  induction checks generalizing r s with
  | nil =>
      rw [List.length_nil, Nat.zero_mul] at hlong
      exact hlong
  | cons c rest ih =>
      rcases List.forall_mem_cons.mp hwaits with ⟨⟨hsite, rfl, hdaemon, rfl⟩, hrest⟩
      rcases List.forall_mem_cons.mp hfresh with ⟨hnew, hfresh⟩
      rcases List.nodup_cons.mp hdistinct with ⟨hother, hdistinct⟩
      rcases hdaemon with ⟨number, settings, hdaemon, hnumber⟩
      unfold checkAll
      rw [ensures_bind]
      refine (ensures_cycle hsite hnew hdaemon hnumber).imp ?_
      rintro o _ rfl
      refine ih hrest hdistinct ?_ ?_
      · intro d hd
        rw [List.mem_cons, not_or]
        refine ⟨?_, hfresh d hd⟩
        intro hsame
        exact hother (hsame ▸ List.mem_map_of_mem hd)
      · -- a window that the deadline cuts short leaves no time for the waits after it
        rw [List.length_cons, Nat.succ_mul] at hlong
        dsimp only
        omega

/-!
# The run of the checks
-/

theorem get?_sites (names : List String) (name : String) :
    (sites names).get? name = if name ∈ names then some (.memory store) else none := by
  induction names with
  | nil => rfl
  | cons first rest ih =>
      unfold sites
      by_cases hname : name = first
      · rw [hname, Table.get?_set_self, if_pos List.mem_cons_self]
      · rw [Table.get?_set_of_ne hname, ih]
        simp only [List.mem_cons, hname, false_or]

theorem site_world {names : List String} {name : String} (h : name ∈ names) :
    (world names).site name = .memory store := by
  unfold World.site world
  rw [get?_sites, if_pos h]
  rfl

theorem answersAtOnce_world (names : List String) : (world names).AnswersAtOnce where
  stores name s hs := by
    unfold World.site world at hs
    rw [get?_sites] at hs
    split at hs
    · cases hs
      exact rfl
    · cases hs
      exact rfl
  changes o ho := absurd ho List.not_mem_nil

theorem daemonsNameNoStage_world (names : List String) : (world names).DaemonsNameNoStage := by
  intro reads hreads f hf
  rw [List.eq_of_mem_replicate hreads, List.mem_singleton] at hf
  cases hf

theorem holds_world (names : List String) (limit : Nat) :
    Holds ⟨names, limit⟩ ⟨0, []⟩ ((world names).watch limit).free where
  clock := rfl
  deadline := Nat.zero_add limit
  unwatched := rfl
  uncancelled := rfl
  quiet := rfl
  daemons := rfl
  stores _ hname := ⟨store, site_world hname, rfl, rfl, rfl, fun _ => rfl⟩
  feeds _ hname := absurd hname List.not_mem_nil

/-- Where the windows and the waits of checks together take longer than the time limit, the
checks time out in the world of waits. -/
theorem exists_timeout {names : List String} {checks : List Check} {limit window patience : Nat}
    (hwaits : ∀ c ∈ checks, Waits ⟨names, limit⟩ window patience c) (hpositive : 0 < patience)
    (hdistinct : (checks.map Check.site).Nodup)
    (hlong : limit < checks.length * (window + patience)) :
    exists stage, (World.bounded limit (checkAll checks .empty) (world names)).1 =
      .error (.timeout stage limit) := by
  have hlate : (⟨names, limit⟩ : Overrun).deadline <
      (⟨0, []⟩ : State).clock + checks.length * (window + patience) := by
    rw [Nat.zero_add]
    exact hlong
  have hchecks := ensures_checkAll (r := .empty) hwaits hpositive hdistinct
    (fun _ _ => List.not_mem_nil) hlate
  have hstart := holds_world names limit
  rcases (follows _).runs (serves_all _) hchecks hstart with ⟨report, v, hrun⟩
  rcases (follows _).ensured hchecks hstart hrun with ⟨t, ht, hv⟩
  refine World.exists_timeout_of_run rfl hrun ?_
  rw [hv.clock]
  show 0 + limit < t.clock
  rw [Nat.zero_add]
  exact ht

end Overrun
end RouteAudit
