import RouteAudit.Proofs.Cycle.Requests
import RouteAudit.Proofs.World.Mirrors

/-!
# Cycles do not remember

A session is what happens to one store: deeds change it, time passes, and one check is tried
again and again, under the watchdog or outside of it, to its end or not.  Of all earlier
cycles a later one notices only which changes were already handed to a subscriber.
-/

namespace RouteAudit

open Program

/-!
# The requests of a cycle
-/

namespace Check

theorem allows_mayFollow (site : String) :
    Allows (Request.MayFollow site true) (fun _ => True) site where
  keys _ _ _ _ := ⟨rfl, rfl⟩
  row _ _ _ := ⟨rfl, rfl⟩
  enter _ := trivial
  remaining := trivial
  drain _ := ⟨rfl, rfl⟩

variable {c : Check}

theorem keeps_askDaemon_subscribed :
    Keeps (Request.MayFollow c.site true) c.askDaemon := by
  refine c.keeps_askDaemon.mono ?_
  intro q hq
  cases q with
  | enter stage => trivial
  | row site db key => exact ⟨hq.1, rfl⟩
  | fetch daemon => trivial
  | pause duration stage => trivial
  | _ => exact absurd hq id

/-- A cycle subscribes once, and before everything else that it asks of its store. -/
theorem ensures_subscribing (c : Check) :
    Ensures (.subscribing c.site) c.cycle false fun _ subscribed => subscribed = true := by
  unfold cycle stages
  rw [ensures_within, ensures_bind]
  have hsnapshot : Ensures (.subscribing c.site) c.takeSnapshot false
      fun _ subscribed => subscribed = true := by
    unfold takeSnapshot
    rw [ensures_bind, ensures_enter]
    refine ⟨trivial, ?_⟩
    rintro _ _ rfl
    rw [ensures_bind, ensures_request (q := .subscribe c.site) trivial]
    refine ⟨⟨rfl, rfl⟩, ?_⟩
    rintro _ _ rfl
    exact ((allows_mayFollow c.site).keeps_snapshot trivial fun _ => ⟨rfl, rfl⟩).ensures_subscribed
  refine hsnapshot.imp ?_
  rintro snapshot _ rfl
  have hallows := allows_mayFollow c.site
  refine Keeps.ensures_subscribed (Keeps.bind (hallows.keeps_compareTables snapshot) fun m => ?_)
  refine Keeps.bind (hallows.keeps_explain trivial trivial _ m) fun n => ?_
  refine Keeps.bind keeps_askDaemon_subscribed fun records => ?_
  exact keeps_conclude (fun _ => trivial) _

end Check

/-!
# Sessions
-/

/-- What is done to a store between cycles. -/
inductive Deed where
  | alter (db : Database) (change : Table Fields → Table Fields)
  | announce (c : Change)
  | fail (db : Database)
  | slow (delay : Time)
  | heal

namespace Deed

def apply : Deed → Store → Store
  | .alter db change, s => s.withRows db change
  | .announce c, s => s.announce c
  | .fail db, s => s.fail db
  | .slow delay, s => s.slow delay
  | .heal, s => s.heal

def announced : Deed → List Change
  | .announce c => [c]
  | _ => []

theorem scripted_apply (d : Deed) (m : Store) :
    (d.apply m).scripted = m.scripted ++ d.announced := by
  cases d with
  | announce c => rfl
  | _ => exact (List.append_nil _).symm

end Deed

/-- A deed makes of stores with the same tables such stores again. -/
theorem Store.Resembles.apply {m n : Store} {kept : List Change} (h : m.Resembles kept n)
    (d : Deed) : (d.apply m).Resembles (kept ++ d.announced) (d.apply n) := by
  have hscripted : (d.apply n).scripted = kept ++ d.announced := by
    rw [d.scripted_apply, h.scripted]
  cases d with
  | alter db change =>
      have hrows : (n.withRows db change).rows = (m.withRows db change).rows := by
        unfold Store.withRows
        rw [h.rows]
      exact ⟨hrows, h.failing, h.delay, h.upcoming, hscripted⟩
  | announce c => exact ⟨h.rows, h.failing, h.delay, h.upcoming, hscripted⟩
  | fail db => exact ⟨h.rows, congrArg (db :: ·) h.failing, h.delay, h.upcoming, hscripted⟩
  | slow delay => exact ⟨h.rows, h.failing, rfl, h.upcoming, hscripted⟩
  | heal => exact ⟨h.rows, rfl, rfl, h.upcoming, hscripted⟩

/-- The number of subscriptions that a site granted. -/
def World.subscriptions (w : World) (site : String) : Nat :=
  match w.site site with
  | .memory s => s.subscriptions
  | .remote _ _ => 0

structure Session where
  world : World
  /-- The changes announced since the last cycle whose subscription was granted. -/
  unheard : List Change
  /-- The changes handed to each of the cycles. -/
  handed : List (List Change)

namespace Session

inductive Event where
  | deed (d : Deed)
  | wait (duration : Time)
  | cycle (t : Trial)

variable {c : Check} {s : Session} {m : Store}

def start (c : Check) (daemons : List (List DaemonRead)) : Session :=
  ⟨{ sites := Table.set .empty c.site (.memory .empty), daemons }, [], []⟩

def step (c : Check) (s : Session) : Event → Session
  | .deed d =>
      { s with
        world := s.world.changeStore c.site d.apply
        unheard := s.unheard ++ d.announced }
  | .wait duration => { s with world := s.world.advance (s.world.now + duration) }
  | .cycle t =>
      let after := (t.run c.cycle s.world).2
      if after.subscriptions c.site = s.world.subscriptions c.site then
        { s with world := after, handed := s.handed ++ [[]] }
      else
        ⟨after, [], s.handed ++ [s.unheard]⟩

def run (c : Check) (daemons : List (List DaemonRead)) (events : List Event) : Session :=
  events.foldl (step c) (start c daemons)

/-- What an event makes of a store that no cycle uses. -/
def edit (m : Store) : Event → Store
  | .deed d => d.apply m
  | .wait _ => m
  | .cycle _ => m

def edited (events : List Event) : Store := events.foldl edit .empty

/-!
# What a session keeps
-/

/-- The store is the one that only the deeds made, except for the changes that were already
handed to cycles and for the list of its accesses. -/
structure Holds (c : Check) (m : Store) (s : Session) : Prop where
  quiet : s.world.outside = []
  store : exists n, s.world.site c.site = .memory n ∧ m.Resembles s.unheard n
  handed : s.handed.flatten ++ s.unheard = m.scripted

theorem holds_start (c : Check) (daemons : List (List DaemonRead)) :
    Holds c .empty (start c daemons) :=
  ⟨rfl, ⟨_, World.site_setSite_self (w := {}), rfl, rfl, rfl, rfl, rfl⟩, rfl⟩

theorem Holds.deed (h : Holds c m s) (d : Deed) : Holds c (d.apply m) (s.step c (.deed d)) := by
  rcases h.store with ⟨n, hn, hresembles⟩
  have hworld : s.world.changeStore c.site d.apply =
      s.world.setSite c.site (.memory (d.apply n)) := by
    unfold World.changeStore
    rw [hn]
  unfold step
  dsimp only
  rw [hworld]
  refine ⟨h.quiet, ⟨d.apply n, World.site_setSite_self, hresembles.apply d⟩, ?_⟩
  show s.handed.flatten ++ (s.unheard ++ d.announced) = _
  rw [← List.append_assoc, h.handed, d.scripted_apply]

theorem Holds.wait (h : Holds c m s) (duration : Time) :
    Holds c m (s.step c (.wait duration)) := by
  unfold step
  dsimp only
  rw [World.advance_of_quiet h.quiet]
  exact ⟨h.quiet, h.store, h.handed⟩

/-- A trial of the check takes all changes that were kept, or none of them. -/
theorem Holds.trial {n : Store} (h : Holds c m s) (hn : s.world.site c.site = .memory n)
    (hresembles : m.Resembles s.unheard n) (t : Trial) :
    exists subscribed : Bool, World.Served c.site n subscribed (t.run c.cycle s.world).2 ∧
      (t.run c.cycle s.world).2.subscriptions c.site =
        s.world.subscriptions c.site + subscribed.toNat ∧
      ∀ o, (t.run c.cycle s.world).1 = some (.ok o) → subscribed = true := by
  rcases (t.ends_run c.cycle s.world).served c.ensures_subscribing
    (Trial.served_start h.quiet hn hresembles.upcoming t) with ⟨subscribed, hserved, hresult⟩
  refine ⟨subscribed, hserved, ?_, hresult⟩
  rcases hserved.store with ⟨r, hr, _, hcount⟩
  unfold World.subscriptions
  rw [hr, hn]
  exact hcount

theorem Holds.cycle (h : Holds c m s) (t : Trial) : Holds c m (s.step c (.cycle t)) := by
  rcases h.store with ⟨n, hn, hresembles⟩
  rcases h.trial hn hresembles t with ⟨subscribed, hserved, hcount, _⟩
  rcases hserved.store with ⟨r, hr, hserved', _⟩
  have hafter := hresembles.trans hserved'
  unfold step
  dsimp only
  cases subscribed with
  | false =>
      -- without a granted subscription the store still keeps what was not heard
      rw [if_pos (hcount.trans (Nat.add_zero _))]
      refine ⟨hserved.quiet, ⟨r, hr, { hafter with scripted := ?_ }⟩, ?_⟩
      · exact hafter.scripted.trans hresembles.scripted
      · show (s.handed ++ [[]]).flatten ++ s.unheard = m.scripted
        rw [List.flatten_append, ← h.handed]
        exact congrArg (· ++ s.unheard) (List.append_nil _)
  | true =>
      rw [if_neg (by rw [hcount]; exact Nat.succ_ne_self _)]
      refine ⟨hserved.quiet, ⟨r, hr, hafter⟩, ?_⟩
      show (s.handed ++ [s.unheard]).flatten ++ [] = m.scripted
      rw [List.append_nil, List.flatten_append, List.flatten_singleton]
      exact h.handed

theorem holds_run (c : Check) (daemons : List (List DaemonRead)) (events : List Event) :
    Holds c (edited events) (run c daemons events) := by
  have hfold : ∀ (m : Store) (s : Session), Holds c m s →
      Holds c (events.foldl edit m) (events.foldl (step c) s) := by
    induction events with
    | nil => exact fun m s h => h
    | cons event rest ih =>
        intro m s h
        cases event with
        | deed d => exact ih _ _ (h.deed d)
        | wait duration => exact ih _ _ (h.wait duration)
        | cycle t => exact ih _ _ (h.cycle t)
  exact hfold _ _ (holds_start c daemons)

/-!
# Fresh cycles
-/

/-- A world that was never used, with the tables and the delay of a store, in which changes
are kept for the first subscriber. -/
def freshWorld (c : Check) (m : Store) (kept : List Change) (daemons : List (List DaemonRead)) :
    World :=
  { sites := Table.set .empty c.site
      (.memory { Store.empty with rows := m.rows, delay := m.delay, scripted := kept })
    daemons }

/-- However a session went, the next cycle looks to its program like a first one. -/
theorem Holds.mirror_fresh (h : Holds c m s) (t : Trial) :
    World.Mirror c.site s.world.now false (t.start s.world)
      (t.fresh.start (freshWorld c m s.unheard s.world.daemons)) := by
  have hstores : exists a b, s.world.site c.site = .memory a ∧
      (freshWorld c m s.unheard s.world.daemons).site c.site = .memory b ∧ a.Mirrors b := by
    rcases h.store with ⟨n, hn, hresembles⟩
    exact ⟨n, _, hn, World.site_setSite_self (w := {}), hresembles.rows.symm,
      hresembles.delay.symm, hresembles.scripted.symm, hresembles.upcoming, rfl, rfl⟩
  have hclock : s.world.now = 0 + s.world.now := (Nat.zero_add _).symm
  have hdeadline : s.world.now + t.limit = 0 + t.fresh.limit + s.world.now := by
    rw [t.limit_fresh, Nat.zero_add]
    exact Nat.add_comm _ _
  exact ⟨hclock, hdeadline, t.isWatched_fresh, t.cancelAt_fresh, rfl, rfl, h.quiet, rfl, hstores,
    nofun⟩

/-- However deeds, waits and cycles followed each other: the tables are those that the deeds
made, the store keeps the changes since the last granted subscription, and each change was
handed to one cycle at most.  The next cycle subscribes once at most and before it reads, and
if it has an outcome, then it has subscribed and the outcome is that of a first cycle with
the same tables and exactly those changes. -/
theorem cycles_forget (c : Check) (daemons : List (List DaemonRead)) (events : List Event)
    (t : Trial) :
    (exists n, (run c daemons events).world.site c.site = .memory n ∧
      n.rows = (edited events).rows ∧ n.scripted = (run c daemons events).unheard) ∧
    (run c daemons events).handed.flatten ++ (run c daemons events).unheard =
      (edited events).scripted ∧
    (∀ asked q next u,
      World.Asks c.cycle (t.start (run c daemons events).world) asked (.ask q next) u →
      q.MayFollow c.site (asked.any Request.isSubscription)) ∧
    (t.run c.cycle (run c daemons events).world).2.subscriptions c.site ≤
      (run c daemons events).world.subscriptions c.site + 1 ∧
    ∀ o, (t.run c.cycle (run c daemons events).world).1 = some (.ok o) →
      (t.run c.cycle (run c daemons events).world).2.subscriptions c.site =
        (run c daemons events).world.subscriptions c.site + 1 ∧
      (t.fresh.run c.cycle (freshWorld c (edited events) (run c daemons events).unheard
        (run c daemons events).world.daemons)).1 = some (.ok o) := by
  have hheld := holds_run c daemons events
  generalize run c daemons events = s at hheld ⊢
  generalize edited events = m at hheld ⊢
  rcases hheld.store with ⟨n, hn, hresembles⟩
  rcases hheld.trial hn hresembles t with ⟨subscribed, _, hcount, hresult⟩
  refine ⟨⟨n, hn, hresembles.rows, hresembles.scripted⟩, hheld.handed, ?_, ?_, ?_⟩
  · intro asked q next u hasked
    exact hasked.mayFollow c.ensures_subscribing
  · rw [hcount]
    exact Nat.add_le_add_left (Bool.toNat_le _) _
  · intro o ho
    have hsubscribed := hresult o ho
    rw [hsubscribed] at hcount
    rcases Trial.run_of_ok ho with ⟨u, hrun⟩
    rcases (hheld.mirror_fresh t).run c.ensures_subscribing hrun with ⟨v, hfresh⟩
    exact ⟨hcount, Trial.run_fresh hfresh⟩

/-- A route is announced, and the cycle that is told of it is dropped on its way. -/
def droppedCycle : List Event :=
  [.deed (.announce ⟨.add, .network 10 0 0⟩), .cycle (.dropped 60000 5)]

theorem cycles_forget_after_drop :
    exists o, ((Trial.unwatched 60000 none).run Check.plain.cycle
        (run .plain [] droppedCycle).world).1 = some (.ok o) ∧
      ((Trial.unwatched 60000 none).run Check.plain.cycle
        (freshWorld .plain (edited droppedCycle) (run .plain [] droppedCycle).unheard
          (run .plain [] droppedCycle).world.daemons)).1 = some (.ok o) := by
  have hheld := holds_run .plain [] droppedCycle
  rcases hheld.store with ⟨n, hn, hresembles⟩
  have hcalm : ((Trial.unwatched 60000 none).start (run .plain [] droppedCycle).world).IsCalm
      Check.plain.site n := by
    refine ⟨hn, hresembles.failing, ?_, rfl, rfl, ?_⟩
    · unfold Store.kept
      rw [hresembles.upcoming]
      rfl
    · show ∀ o ∈ (run .plain [] droppedCycle).world.outside, o.site ≠ Check.plain.site
      rw [hheld.quiet]
      exact fun o ho => absurd ho List.not_mem_nil
  rcases Check.run_of_no_daemon hcalm rfl with ⟨o, v, hrun, _⟩
  have hresult : ((Trial.unwatched 60000 none).run Check.plain.cycle
      (run .plain [] droppedCycle).world).1 = some (.ok o) :=
    Trial.run_fresh (t := .unwatched 60000 none) hrun
  rcases cycles_forget .plain [] droppedCycle (.unwatched 60000 none) with ⟨_, _, _, _, houtcome⟩
  exact ⟨o, hresult, (houtcome o hresult).2⟩

end Session
end RouteAudit
