import RouteAudit.Proofs.Ascending.Members
import RouteAudit.Proofs.World.Following
import RouteAudit.Proofs.World.Onward
import RouteAudit.Proofs.World.Window

/-!
# Calm worlds

A world is calm for a site if nothing from outside changes the site's store, and nothing
interrupts the run.  A program then reads the tables of one moment, and a window delivers the
changes of the feed that fall into it.  A run is stopped only where the store refuses a
request or a routing daemon fails.
-/

namespace RouteAudit

/-- The changes that the next subscriber gets. -/
def Store.kept (s : Store) : Feed := s.upcoming.getD (.ofChanges s.scripted)

/-- Why a store refuses a request, if it does. -/
def Store.refusal? (s : Store) : Request → Option Failure
  | .keys _ db pattern =>
      if s.refused db then some (refusal db (keysOperation db pattern)) else none
  | .row _ db _ => if s.refused db then some (refusal db "hgetall") else none
  | .subscribe _ => if s.refused .asic then some (refusal .asic "subscribe") else none
  | _ => none

namespace Store

variable {s : Store} {site : String} {db : Database}

theorem refusal?_keys {pattern : String} :
    s.refusal? (.keys site db pattern) = none ↔ s.refused db = false := by
  unfold refusal?
  split <;> simp_all

theorem refusal?_row {key : String} :
    s.refusal? (.row site db key) = none ↔ s.refused db = false := by
  unfold refusal?
  split <;> simp_all

theorem refusal?_subscribe :
    s.refusal? (.subscribe site) = none ↔ s.refused .asic = false := by
  unfold refusal?
  split <;> simp_all

theorem refusal?_of_healthy (h : s.failing = []) (q : Request) : s.refusal? q = none := by
  cases q with
  | keys site db pattern => exact refusal?_keys.mpr (not_refused h)
  | row site db key => exact refusal?_row.mpr (not_refused h)
  | subscribe site => exact refusal?_subscribe.mpr (not_refused h)
  | _ => rfl

end Store

/-!
# States of a calm run
-/

/-- A site with what its store holds, and the deadline of the run. -/
structure Calm where
  site : String
  store : Store
  deadline : Time

namespace Calm

structure State where
  clock : Time
  /-- The changes that the next subscriber gets. -/
  kept : Feed
  feed : Feed

/-- The time that listing the keys of a table takes. -/
def delay (c : Calm) : Time := c.store.delay.getD 0

structure Holds (c : Calm) (s : State) (w : World) : Prop where
  tables : exists m, w.site c.site = .memory m ∧ m.rows = c.store.rows ∧
    m.failing = c.store.failing ∧ m.delay = c.store.delay ∧ m.kept = s.kept
  clock : w.now = s.clock
  feed : w.feed c.site = s.feed
  deadline : w.deadline = c.deadline
  unwatched : w.watched = false
  uncancelled : w.cancelAt = none
  unchanged : ∀ o ∈ w.outside, o.site ≠ c.site

def IsDaemonRequest : Request → Prop
  | .fetch _ => True
  | .pause _ _ => True
  | _ => False

def serves (c : Calm) (s : State) : Request → Prop
  | .keys site _ _ => site = c.site
  | .row site _ _ => site = c.site
  | .subscribe site => site = c.site
  | .drain site _ => site = c.site ∧ s.feed.ending.isBroken = false
  | .log _ => True
  | .enter _ => True
  | .remaining => True
  | .fetch _ => False
  | .pause _ _ => False

def answers (c : Calm) (s : State) : (q : Request) → q.Answer → State → Prop
  | .keys _ db pattern, x, t =>
      x = c.store.keys db pattern ∧ t = { s with clock := s.clock + c.delay }
  | .row _ db key, x, t => x = c.store.fieldsOf db key ∧ t = s
  | .subscribe _, _, t =>
      t = { s with kept := .ofChanges [], feed := s.kept.startingAt s.clock }
  | .drain _ window, x, t =>
      x = .ofChanges (s.feed.delivered s.clock (s.clock + window)) ∧ t.kept = s.kept ∧
        t.feed.ending = s.feed.ending
  | .remaining, x, t => x = c.deadline - s.clock ∧ t = s
  | .log _, _, t => t = s
  | .enter _, _, t => t = s
  | .fetch _, _, t => t = s
  | .pause _ _, _, t => t.kept = s.kept ∧ t.feed = s.feed

/-- The surroundings of a run that asks no routing daemon. -/
def surroundings (c : Calm) : Surroundings State := ⟨c.serves, c.answers⟩

/-- The surroundings of a run that may also ask routing daemons, which may fail. -/
def withDaemons (c : Calm) : Surroundings State :=
  ⟨fun s q => c.serves s q ∨ IsDaemonRequest q, c.answers⟩

/-- The surroundings of a run where the store may refuse requests, and where a routing daemon
may be attached.  What is refused gets no answer, and is asked only if its failure is an
expected one. -/
def refusing (c : Calm) (attached : Prop) (expected : Failure → Prop) : Surroundings State where
  serves s q := (c.serves s q ∨ attached ∧ IsDaemonRequest q) ∧
    ∀ f, c.store.refusal? q = some f → expected f
  answers s q x t := c.store.refusal? q = none ∧ c.answers s q x t

/-!
# What happens in a calm world
-/

variable {c : Calm} {s : State} {w : World}

theorem Holds.note (event : LogEvent) (h : c.Holds s w) : c.Holds s (w.note event) :=
  ⟨h.tables, h.clock, h.feed, h.deadline, h.unwatched, h.uncancelled, h.unchanged⟩

theorem Holds.advance (t : Time) (h : c.Holds s w) :
    c.Holds { s with clock := max s.clock t } (w.advance t) := by
  rcases h.tables with ⟨m, hsite, hrest⟩
  have hkept : (w.advance t).site c.site = .memory m := (World.site_advance h.unchanged).trans hsite
  rcases w.advance_eq t with ⟨sites, heq⟩
  rw [heq] at hkept ⊢
  refine ⟨⟨m, hkept, hrest⟩, ?_, h.feed, h.deadline, h.unwatched, h.uncancelled, ?_⟩
  · show max w.now t = max s.clock t
    rw [h.clock]
  · intro o ho
    exact h.unchanged o (List.dropWhile_subset _ ho)

theorem Holds.waitUntil (t : Time) (h : c.Holds s w) :
    exists v, w.waitUntil t = (.ok (), v) ∧ c.Holds { s with clock := max s.clock t } v := by
  unfold World.waitUntil
  by_cases ht : t ≤ w.now
  · rw [if_pos ht]
    refine ⟨w, rfl, ?_⟩
    rw [← h.clock, Nat.max_eq_left ht, h.clock]
    exact h
  · rw [if_neg ht, World.interruption?_of_unwatched h.unwatched]
    exact ⟨w.advance t, rfl, h.advance t⟩

/-- The store of the site is replaced by one that holds the same. -/
theorem Holds.setSite {m : Store} {kept : Feed} (hrows : m.rows = c.store.rows)
    (hfailing : m.failing = c.store.failing) (hdelay : m.delay = c.store.delay) (hkept : m.kept = kept)
    (h : c.Holds s w) : c.Holds { s with kept := kept } (w.setSite c.site (.memory m)) :=
  ⟨⟨m, World.site_setSite_self, hrows, hfailing, hdelay, hkept⟩, h.clock, h.feed, h.deadline,
    h.unwatched, h.uncancelled, h.unchanged⟩

theorem Holds.setFeed {f : Feed} (h : c.Holds s w) :
    c.Holds { s with feed := f } (w.setFeed c.site f) :=
  ⟨h.tables, h.clock, World.feed_setFeed_self, h.deadline, h.unwatched, h.uncancelled, h.unchanged⟩

/-!
# Reading and subscribing
-/

theorem Holds.keys (db : Database) (pattern : String) (h : c.Holds s w)
    (hopen : c.store.refused db = false) :
    exists v, w.keys c.site db pattern = (.ok (c.store.keys db pattern), v) ∧
      c.Holds { s with clock := s.clock + c.delay } v := by
  rcases h.tables with ⟨m, hsite, hrows, hfailing, hdelay, hkept⟩
  have hgranted : c.Holds s
      (w.setSite c.site (.memory (m.grant (Store.keysOperation db pattern)))) :=
    h.setSite hrows hfailing hdelay hkept
  have hclock : max s.clock (w.now + m.delay.getD 0) = s.clock + c.delay := by
    rw [h.clock, hdelay]
    exact Nat.max_eq_right (Nat.le_add_right _ _)
  rcases hgranted.waitUntil (w.now + m.delay.getD 0) with ⟨v, hwait, hv⟩
  rw [hclock] at hv
  rcases hv.tables with ⟨n, hnsite, hnrows, _⟩
  refine ⟨v, ?_, hv⟩
  unfold World.keys
  simp only [hsite, Store.refused_congr hfailing, hopen, Bool.false_eq_true, if_false]
  have hnow : (w.setSite c.site (.memory (m.grant (Store.keysOperation db pattern)))).now = w.now :=
    rfl
  rw [hnow, hwait]
  simp only [hnsite, Store.keys_congr hnrows]

theorem Holds.row (db : Database) (key : String) (h : c.Holds s w)
    (hopen : c.store.refused db = false) :
    w.row c.site db key = (.ok (c.store.fieldsOf db key), w) := by
  rcases h.tables with ⟨m, hsite, hrows, hfailing, _, _⟩
  unfold World.row
  simp only [hsite, Store.refused_congr hfailing, hopen, Bool.false_eq_true, if_false,
    Store.fieldsOf_congr hrows]

theorem Holds.subscribe (h : c.Holds s w) (hopen : c.store.refused .asic = false) :
    exists v, w.subscribe c.site = (.ok (), v) ∧
      c.Holds { s with kept := .ofChanges [], feed := s.kept.startingAt s.clock } v := by
  rcases h.tables with ⟨m, hsite, hrows, hfailing, hdelay, hkept⟩
  unfold World.subscribe
  simp only [hsite, Store.refused_congr hfailing, hopen, Bool.false_eq_true, if_false]
  refine ⟨_, rfl, ?_⟩
  have hfeed : ((m.grant "subscribe").subscribe w.now).1 = s.kept.startingAt s.clock := by
    rw [← hkept, ← h.clock]
    rfl
  rw [hfeed]
  have hhanded : c.Holds { s with kept := .ofChanges [] }
      (w.setSite c.site (.memory ((m.grant "subscribe").subscribe w.now).2)) :=
    h.setSite hrows hfailing hdelay rfl
  exact hhanded.setFeed

/-- A request that the store refuses stops the run and changes nothing. -/
theorem Holds.refused {q : Request} {f : Failure} (h : c.Holds s w) (hserves : c.serves s q)
    (hrefusal : c.store.refusal? q = some f) : w.answer q = (.error (.failed f), w) := by
  rcases h.tables with ⟨m, hsite, _, hfailing, _⟩
  cases q with
  | keys site db pattern =>
      obtain rfl : site = c.site := hserves
      rcases Option.ite_some_none_eq_some.mp hrefusal with ⟨hclosed, rfl⟩
      unfold World.answer World.keys
      simp only [hsite, Store.refused_congr hfailing, hclosed, if_true]
  | row site db key =>
      obtain rfl : site = c.site := hserves
      rcases Option.ite_some_none_eq_some.mp hrefusal with ⟨hclosed, rfl⟩
      unfold World.answer World.row
      simp only [hsite, Store.refused_congr hfailing, hclosed, if_true]
  | subscribe site =>
      obtain rfl : site = c.site := hserves
      rcases Option.ite_some_none_eq_some.mp hrefusal with ⟨hclosed, rfl⟩
      unfold World.answer World.subscribe
      simp only [hsite, Store.refused_congr hfailing, hclosed, if_true]
  | _ => cases hrefusal

/-!
# Draining
-/

theorem Holds.endDrain {left : Feed} {d : Drained} (h : c.Holds s w) :
    exists v, w.endDrain c.site left d = (.ok d, v) ∧ c.Holds { s with feed := left } v :=
  ⟨_, rfl, h.setFeed.note _⟩

theorem Holds.endDrainAt {finish : Time} {left : Feed} {d : Drained} (h : c.Holds s w) :
    exists v, w.endDrainAt c.site finish left d = (.ok d, v) ∧
      c.Holds { s with clock := max s.clock finish, feed := left } v := by
  rcases h.waitUntil finish with ⟨u, hwait, hu⟩
  rcases hu.endDrain with ⟨v, hend, hv⟩
  refine ⟨v, ?_, hv⟩
  unfold World.endDrainAt
  rw [hwait]
  exact hend

/-- How a drain of a feed ends: with the changes that arrived, or, if the feed is broken,
perhaps in a failure. -/
def Drains (c : Calm) (s : State) (ending : FeedEnd) (d : Drained) :
    Except Stop Drained × World → Prop
  | (.ok x, v) => x = d ∧ exists t, t.kept = s.kept ∧ t.feed.ending = ending ∧ c.Holds t v
  | (.error _, _) => ending.isBroken = true

theorem Drains.of_ok {ending : FeedEnd} {d : Drained} {t : State} {v : World}
    (h : c.Holds t v) (hkept : t.kept = s.kept) (hending : t.feed.ending = ending) :
    c.Drains s ending d (.ok d, v) :=
  ⟨rfl, t, hkept, hending, h⟩

theorem Drains.of_kept {ending : FeedEnd} {d : Drained} {t : State}
    {ended : Except Stop Drained × World} (h : c.Drains t ending d ended)
    (hkept : t.kept = s.kept) : c.Drains s ending d ended := by
  rcases ended with ⟨stop | x, v⟩
  · exact h
  · rcases h with ⟨hx, r, hr, hrest⟩
    exact ⟨hx, r, hr.trans hkept, hrest⟩

theorem Holds.awaitNext {finish time : Nat} {ending : FeedEnd} {left : Feed} {d x : Drained}
    {next : World → Except Stop Drained × World} (h : c.Holds s w) (hending : left.ending = ending)
    (hnext : ∀ t v, t.kept = s.kept → t.clock = max s.clock time → t.clock ≤ finish →
      c.Holds t v → c.Drains s ending x (next v))
    (hlate : ¬max s.clock time ≤ finish → x = d) :
    c.Drains s ending x (w.awaitNext c.site finish time left d next) := by
  unfold World.awaitNext
  rw [h.clock]
  by_cases htime : max s.clock time ≤ finish
  · rw [if_pos htime]
    rcases h.waitUntil time with ⟨u, hwait, hu⟩
    rw [hwait]
    exact hnext { s with clock := max s.clock time } u rfl rfl htime hu
  · rw [if_neg htime]
    rcases h.endDrainAt with ⟨v, hend, hv⟩
    rw [hend, hlate htime]
    exact Drains.of_ok hv rfl hending

theorem Holds.collect {finish : Nat} {ending : FeedEnd} {events : List (Time × Change)}
    {d : Drained} (h : c.Holds s w) :
    c.Drains s ending ((Feed.arriving finish s.clock events).foldl Drained.record d)
      (w.collect c.site finish ending events d) := by
  induction events generalizing s w d with
  | nil =>
      unfold World.collect
      by_cases hfinish : finish ≤ w.now
      · rw [if_pos hfinish]
        rcases h.endDrain with ⟨v, hend, hv⟩
        rw [hend]
        exact Drains.of_ok hv rfl rfl
      · rw [if_neg hfinish]
        cases ending with
        | silent =>
            rcases h.endDrainAt with ⟨v, hend, hv⟩
            unfold World.collectEnd
            dsimp only
            rw [hend]
            exact Drains.of_ok hv rfl rfl
        | closes time =>
            refine h.awaitNext rfl (fun t u hkept _ _ hu => ?_) fun _ => rfl
            rcases (hu.note World.feedClosedEvent).endDrain with ⟨v, hend, hv⟩
            rw [hend]
            exact Drains.of_ok hv hkept rfl
        | breaks time f => exact h.awaitNext rfl (fun _ _ _ _ _ _ => rfl) fun _ => rfl
  | cons event rest ih =>
      rcases event with ⟨time, change⟩
      unfold World.collect Feed.arriving
      rw [← h.clock]
      by_cases hfinish : finish ≤ w.now
      · rw [if_pos hfinish, if_pos hfinish]
        rcases h.endDrain with ⟨v, hend, hv⟩
        rw [hend]
        exact Drains.of_ok hv rfl rfl
      · rw [if_neg hfinish, if_neg hfinish, h.clock]
        refine h.awaitNext rfl (fun t u hkept hclock hin hu => ?_) fun hlate => ?_
        · rw [hclock] at hin
          rw [if_pos hin, List.foldl_cons, ← hclock]
          exact (ih (hu.note (World.notificationEvent change))).of_kept hkept
        · rw [if_neg hlate]
          rfl

theorem Holds.drain (window : Time) (h : c.Holds s w) :
    c.Drains s s.feed.ending (.ofChanges (s.feed.delivered s.clock (s.clock + window)))
      (w.drain c.site window) := by
  unfold World.drain
  rw [h.feed, h.clock]
  exact h.collect

/-!
# The worlds follow the surroundings
-/

theorem Holds.enter (stage : Stage) (h : c.Holds s w) :
    exists left v, w.enter stage = (.ok left, v) ∧ c.Holds s v := by
  unfold World.enter
  rw [World.not_isCancelled_of_none h.uncancelled]
  exact ⟨_, _, rfl, h.tables, h.clock, h.feed, h.deadline, h.unwatched, h.uncancelled, h.unchanged⟩

theorem Holds.pause (duration : Time) (stage : Stage) (h : c.Holds s w) :
    exists v, w.pause duration stage = (.ok (), v) ∧
      c.Holds { s with clock := max s.clock (w.now + duration) } v := by
  rcases h.waitUntil (w.now + duration) with ⟨v, hwait, hv⟩
  refine ⟨v, ?_, hv⟩
  rw [World.pause_of_none h.uncancelled]
  exact hwait

theorem Holds.fetch {daemon : Nat} {records : List Json} {v : World} (h : c.Holds s w)
    (hfetch : w.fetch daemon = (.ok records, v)) : c.Holds s v := by
  unfold World.fetch at hfetch
  dsimp only at hfetch
  split at hfetch
  · cases hfetch
    exact ⟨h.tables, h.clock, h.feed, h.deadline, h.unwatched, h.uncancelled, h.unchanged⟩
  · cases hfetch

/-- What a daemon is asked about is none of the store's business. -/
theorem refusal?_of_isDaemonRequest {q : Request} (hq : IsDaemonRequest q) (m : Store) :
    m.refusal? q = none := by
  cases q with
  | fetch daemon => rfl
  | pause duration stage => rfl
  | _ => exact absurd hq id

theorem follows_refusing (c : Calm) (attached : Prop) (expected : Failure → Prop) :
    World.Follows (c.refusing attached expected) c.Holds where
  note event h := h.note event
  sound := by
    intro s w q x v hq h hparts hanswer
    have hserves : c.serves s q ∨ IsDaemonRequest q := hparts.1.imp_right And.right
    have hopen : c.store.refusal? q = none := by
      cases hrefusal : c.store.refusal? q with
      | none => rfl
      | some f =>
          rcases hserves with hserved | hdaemon
          · rw [h.refused hserved hrefusal] at hanswer
            cases hanswer
          · rw [refusal?_of_isDaemonRequest hdaemon] at hrefusal
            cases hrefusal
    suffices hsuffices : exists t, c.answers s q x t ∧ c.Holds t v by
      rcases hsuffices with ⟨t, hx, ht⟩
      exact ⟨t, ⟨hopen, hx⟩, ht⟩
    cases q with
    | log event => exact absurd hq id
    | enter stage =>
        rcases h.enter stage with ⟨left, u, henter, hu⟩
        rw [World.answer, henter] at hanswer
        cases hanswer
        exact ⟨s, rfl, hu⟩
    | remaining =>
        cases hanswer
        refine ⟨s, ⟨?_, rfl⟩, h⟩
        show w.deadline - w.now = c.deadline - s.clock
        rw [h.deadline, h.clock]
    | keys site db pattern =>
        rcases hserves with rfl | hdaemon
        · rcases h.keys db pattern (Store.refusal?_keys.mp hopen) with ⟨u, hkeys, hu⟩
          rw [World.answer, hkeys] at hanswer
          cases hanswer
          exact ⟨_, ⟨rfl, rfl⟩, hu⟩
        · exact absurd hdaemon id
    | row site db key =>
        rcases hserves with rfl | hdaemon
        · rw [World.answer, h.row db key (Store.refusal?_row.mp hopen)] at hanswer
          cases hanswer
          exact ⟨s, ⟨rfl, rfl⟩, h⟩
        · exact absurd hdaemon id
    | subscribe site =>
        rcases hserves with rfl | hdaemon
        · rcases h.subscribe (Store.refusal?_subscribe.mp hopen) with ⟨u, hsubscribe, hu⟩
          rw [World.answer, hsubscribe] at hanswer
          cases hanswer
          exact ⟨_, rfl, hu⟩
        · exact absurd hdaemon id
    | drain site window =>
        rcases hserves with ⟨rfl, _⟩ | hdaemon
        · have hdrain := h.drain window
          rw [World.answer] at hanswer
          rw [hanswer] at hdrain
          rcases hdrain with ⟨hx, t, hkept, hending, ht⟩
          exact ⟨t, ⟨hx, hkept, hending⟩, ht⟩
        · exact absurd hdaemon id
    | fetch daemon => exact ⟨s, rfl, h.fetch hanswer⟩
    | pause duration stage =>
        rcases h.pause duration stage with ⟨u, hpause, hu⟩
        rw [World.answer, hpause] at hanswer
        cases hanswer
        exact ⟨{ s with clock := max s.clock (w.now + duration) }, ⟨rfl, rfl⟩, hu⟩

theorem follows_withDaemons (c : Calm) : World.Follows c.withDaemons c.Holds where
  note event h := h.note event
  sound hq h hserves hanswer := by
    have hserved : (c.refusing True fun _ => True).serves _ _ :=
      ⟨hserves.imp_right fun hdaemon => ⟨trivial, hdaemon⟩, fun _ _ => trivial⟩
    rcases (c.follows_refusing _ _).sound hq h hserved hanswer with ⟨t, ⟨_, hx⟩, ht⟩
    exact ⟨t, hx, ht⟩

theorem follows (c : Calm) : World.Follows c.surroundings c.Holds where
  note event h := h.note event
  sound hq h hserves hanswer := c.follows_withDaemons.sound hq h (Or.inl hserves) hanswer

/-!
# Where runs are stopped
-/

/-- A request that stops a run is refused by the store, or asks a routing daemon. -/
theorem Holds.stopped {q : Request} {stop : Stop} {v : World} (h : c.Holds s w)
    (hserves : c.serves s q ∨ IsDaemonRequest q) (hanswer : w.answer q = (.error stop, v)) :
    (exists f, c.store.refusal? q = some f ∧ stop = .failed f ∧ v = w) ∨
      exists daemon, q = .fetch daemon := by
  cases hrefusal : c.store.refusal? q with
  | some f =>
      rcases hserves with hserved | hdaemon
      · rw [h.refused hserved hrefusal] at hanswer
        cases hanswer
        exact Or.inl ⟨f, rfl, rfl, rfl⟩
      · rw [refusal?_of_isDaemonRequest hdaemon] at hrefusal
        cases hrefusal
  | none =>
      cases q with
      | log event => cases hanswer
      | enter stage =>
          rcases h.enter stage with ⟨left, u, henter, _⟩
          rw [World.answer, henter] at hanswer
          cases hanswer
      | remaining => cases hanswer
      | keys site db pattern =>
          rcases hserves with rfl | hdaemon
          · rcases h.keys db pattern (Store.refusal?_keys.mp hrefusal) with ⟨u, hkeys, _⟩
            rw [World.answer, hkeys] at hanswer
            cases hanswer
          · exact absurd hdaemon id
      | row site db key =>
          rcases hserves with rfl | hdaemon
          · rw [World.answer, h.row db key (Store.refusal?_row.mp hrefusal)] at hanswer
            cases hanswer
          · exact absurd hdaemon id
      | subscribe site =>
          rcases hserves with rfl | hdaemon
          · rcases h.subscribe (Store.refusal?_subscribe.mp hrefusal) with ⟨u, hsubscribe, _⟩
            rw [World.answer, hsubscribe] at hanswer
            cases hanswer
          · exact absurd hdaemon id
      | drain site window =>
          rcases hserves with ⟨rfl, hending⟩ | hdaemon
          · have hdrain := h.drain window
            rw [World.answer] at hanswer
            rw [hanswer] at hdrain
            exact absurd hdrain (Bool.eq_false_iff.mp hending)
          · exact absurd hdaemon id
      | fetch daemon => exact Or.inr ⟨daemon, rfl⟩
      | pause duration stage =>
          rcases h.pause duration stage with ⟨u, hpause, _⟩
          rw [World.answer, hpause] at hanswer
          cases hanswer

theorem serves_all (hhealthy : c.store.failing = []) : World.Serves c.surroundings c.Holds := by
  intro s w q h hserves
  cases hanswer : w.answer q with
  | mk result v =>
      cases result with
      | ok x => exact ⟨x, v, rfl⟩
      | error stop =>
          rcases h.stopped (Or.inl hserves) hanswer with ⟨f, hrefusal, _⟩ | ⟨daemon, rfl⟩
          · rw [Store.refusal?_of_healthy hhealthy] at hrefusal
            cases hrefusal
          · exact absurd hserves id

end Calm
end RouteAudit
