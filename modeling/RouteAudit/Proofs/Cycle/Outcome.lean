import RouteAudit.Proofs.Cycle.Calm
import RouteAudit.Proofs.World.Points

/-!
# The outcome of a cycle

The three lists of an outcome are given by the tables of the store and by the changes that
arrive in the window, as sets and in order, whatever steps a cycle takes or leaves out.
-/

namespace RouteAudit

open Program

/-!
# Calm worlds
-/

/-- The store of a site serves every read and is not changed from outside, the feed that it
hands out does not break, and nothing stops the run. -/
structure World.IsCalm (w : World) (site : String) (store : Store) : Prop where
  tables : w.site site = .memory store
  healthy : store.failing = []
  working : store.kept.ending.isBroken = false
  unwatched : w.watched = false
  uncancelled : w.cancelAt = none
  unchanged : ∀ o ∈ w.outside, o.site ≠ site

namespace Check

variable {c : Check} {store : Store} {w v : World} {o : Outcome} {k : RouteKey}

/-- Where a run of the check starts. -/
def start (c : Check) (store : Store) (w : World) : Calm.State :=
  ⟨w.now, store.kept, w.feed c.site⟩

theorem holds_start (h : w.IsCalm c.site store) :
    (c.calm store w.deadline).Holds (c.start store w) w :=
  ⟨⟨store, h.tables, rfl, rfl, rfl, rfl⟩, rfl, rfl, rfl, h.unwatched, h.uncancelled,
    h.unchanged⟩

/-!
# Asking the daemon
-/

/-- The requests that are made for the routing daemon. -/
def IsDaemonQuestion (site : String) : Request → Prop
  | .enter _ => True
  | .row name db _ => name = site ∧ db = .config
  | .fetch _ => True
  | .pause _ _ => True
  | _ => False

/-- The requests that are made once it is asked. -/
def IsRetry : Request → Prop
  | .fetch _ => True
  | .pause _ stage => stage = .controlPlane
  | _ => False

theorem keeps_reads {daemon : Nat} {settings : DaemonSettings} (left attempt : Nat)
    (previous : Option (List Json)) :
    Keeps IsRetry (ControlPlane.reads daemon settings left attempt previous) := by
  induction left generalizing attempt previous with
  | zero =>
      unfold ControlPlane.reads
      exact Keeps.bind (Keeps.log _) fun _ => Keeps.pure _
  | succ left ih =>
      have hwait : Keeps IsRetry (ControlPlane.waitBefore settings attempt) := by
        unfold ControlPlane.waitBefore
        split
        · exact Keeps.request trivial rfl
        · exact Keeps.pure ()
      unfold ControlPlane.reads
      refine Keeps.bind hwait fun _ => Keeps.bind (Keeps.request trivial trivial) fun records => ?_
      refine Keeps.bind (Keeps.log _) fun _ => ?_
      split
      · exact Keeps.bind (Keeps.log _) fun _ => Keeps.pure _
      · exact ih (attempt + 1) _

theorem keeps_askDaemon (c : Check) : Keeps (IsDaemonQuestion c.site) c.askDaemon := by
  unfold askDaemon
  cases c.daemon with
  | none => exact Keeps.pure []
  | some daemon =>
      rcases daemon with ⟨daemon, settings⟩
      have hasked : Keeps (IsDaemonQuestion c.site) (ControlPlane.suppressing c.site) := by
        unfold ControlPlane.suppressing entry
        exact Keeps.bind (Keeps.request trivial ⟨rfl, rfl⟩) fun _ => Keeps.pure _
      dsimp only
      refine Keeps.bind hasked fun suppressing => ?_
      split
      · unfold ControlPlane.checkPending
        refine Keeps.bind (Keeps.enter trivial) fun _ => ((keeps_reads _ _ _).mono ?_).within
        intro q hq
        cases q with
        | fetch daemon => trivial
        | pause duration stage => trivial
        | _ => exact absurd hq id
      · exact Keeps.bind (Keeps.log _) fun _ => Keeps.pure []

theorem keeps_conclude {allowed : Request → Prop} (hallowed : ∀ stage, allowed (.enter stage))
    (o : Outcome) : Keeps allowed (conclude o) :=
  ensures_conclude_iff.mpr (Keeps.enter (hallowed _))

theorem ensures_askDaemon {deadline : Time} {s : Calm.State} :
    Ensures (c.calm store deadline).withDaemons c.askDaemon s fun _ _ => True := by
  refine c.keeps_askDaemon.ensures ?_ (fun _ _ _ _ _ _ _ => trivial) trivial
  intro t q _ hq
  cases q with
  | enter stage => exact Or.inl trivial
  | row site db key => exact Or.inl hq.1
  | fetch daemon => exact Or.inr trivial
  | pause duration stage => exact Or.inr trivial
  | _ => exact absurd hq id

theorem ensures_askDaemon_none {E : Surroundings Calm.State} {s : Calm.State}
    (hdaemon : c.daemon = none) :
    Ensures E c.askDaemon s fun records _ => records = [] := by
  unfold askDaemon
  rw [hdaemon]
  exact rfl

/-!
# Outcomes
-/

/-- An outcome in a calm world is that of the settled mismatches. -/
theorem outcome_of_run (h : w.IsCalm c.site store) (hrun : w.run c.cycle = (.ok o, v)) :
    exists records,
      o = (c.settled store (c.lateChanges store w.now w.deadline)).outcome records := by
  have hcycle : Ensures (c.calm store w.deadline).withDaemons c.cycle (c.start store w) _ :=
    ensures_cycle (fun _ _ hserved => Or.inl hserved) (fun _ _ _ _ hx => hx) rfl h.working
      fun _ => ensures_askDaemon
  rcases (Calm.follows_withDaemons _).ensured hcycle (holds_start h) hrun with
    ⟨t, ⟨records, _, houtcome⟩, _⟩
  exact ⟨records, houtcome⟩

/-- A cycle that asks no daemon has an outcome in a calm world. -/
theorem run_of_no_daemon (h : w.IsCalm c.site store) (hdaemon : c.daemon = none) :
    exists o v, w.run c.cycle = (.ok o, v) ∧
      o = (c.settled store (c.lateChanges store w.now w.deadline)).outcome [] := by
  have hcycle : Ensures (c.calm store w.deadline).surroundings c.cycle (c.start store w) _ :=
    ensures_cycle (fun _ _ hserved => hserved) (fun _ _ _ _ hx => hx) rfl h.working
      fun _ => ensures_askDaemon_none hdaemon
  rcases (Calm.follows _).runs (Calm.serves_all h.healthy) hcycle (holds_start h) with ⟨o, v, hrun⟩
  rcases (Calm.follows _).ensured hcycle (holds_start h) hrun with
    ⟨t, ⟨records, rfl, houtcome⟩, _⟩
  exact ⟨o, v, hrun, houtcome⟩

/-- In an open window a feed without times delivers all changes that were kept. -/
theorem lateChanges_of_scripted (hkept : store.upcoming = none)
    (hwindow : 0 < c.settings.windowMillis) {deadline now : Nat}
    (htime : @LT.lt Nat _ (drainStart store now) deadline) :
    c.lateChanges store now deadline = store.scripted := by
  unfold lateChanges arrivals Store.kept
  rw [hkept]
  apply Feed.delivered_ofChanges
  · unfold drainStart
    omega
  · exact Nat.lt_add_of_pos_right (Nat.lt_min.mpr ⟨hwindow, Nat.sub_pos_of_lt htime⟩)

/-- A closed window tells no changes. -/
theorem lateChanges_of_closed {start deadline : Nat}
    (h : ¬(0 < c.settings.windowMillis ∧ @LT.lt Nat _ (drainStart store start) deadline)) :
    c.lateChanges store start deadline = [] := by
  have hfinish : @LE.le Nat _ (drainStart store start + min c.settings.windowMillis
      (deadline - drainStart store start)) (drainStart store start) := by
    omega
  unfold lateChanges arrivals Feed.delivered
  cases ((store.kept.startingAt start).events) with
  | nil => rfl
  | cons event rest => exact if_pos hfinish

/-- What is credited was kept. -/
theorem mem_scripted_of_mem_lateChanges (hkept : store.upcoming = none) {change : Change}
    {start deadline : Time} (h : change ∈ c.lateChanges store start deadline) :
    change ∈ store.scripted := by
  unfold lateChanges arrivals Store.kept at h
  rw [hkept] at h
  exact Feed.mem_of_mem_delivered h

end Check

/-!
# The plainest surroundings
-/

/-- A world with one store, a minute before its deadline. -/
def World.around (store : Store) : World :=
  { deadline := 60000, sites := Table.set .empty "" (.memory store) }

/-- A check by the standard rules, without local interfaces and without a daemon. -/
def Check.plain : Check := ⟨"", {}, ⟨[], []⟩, Exclusion.standard, none, .errors⟩

theorem World.isCalm_around {store : Store} (hhealthy : store.failing = [])
    (hworking : store.kept.ending.isBroken = false) :
    (World.around store).IsCalm Check.plain.site store where
  tables := World.site_setSite_self (w := {})
  healthy := hhealthy
  working := hworking
  unwatched := rfl
  uncancelled := rfl
  unchanged _ ho := absurd ho List.not_mem_nil

end RouteAudit
