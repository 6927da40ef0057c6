import RouteAudit.Proofs.World.Instant
import RouteAudit.Proofs.World.Race

/-!
# Worlds that answer at once

Where no store takes time to list its keys, a program waits only as long as it wants to: for the
window of a drain, or for a pause.  A wait that may last until the deadline is not interrupted,
so a request that is over by then stops its run at most with a failure, which names no stage.
A watched run that makes no other requests does not time out.
-/

namespace RouteAudit

open Program

/-- For how long a request may wait of its own accord. -/
def Request.patience : Request → Time
  | .drain _ window => window
  | .pause duration _ => duration
  | _ => 0

/-- Whether the keys of a store are listed without a delay. -/
def Store.AnswersAtOnce (s : Store) : Prop := s.delay.getD 0 = 0

namespace World

variable {α : Type} {w v : World} {name : String} {deadline now finish : Time}

/-- All stores answer at once, and nothing from outside slows them down. -/
structure AnswersAtOnce (w : World) : Prop where
  stores : ∀ name s, w.site name = .memory s → s.AnswersAtOnce
  changes : ∀ o ∈ w.outside, ∀ s : Store, s.AnswersAtOnce → (o.change s).AnswersAtOnce

/-!
# Changes of the stores
-/

theorem AnswersAtOnce.setSite {s : Store} (h : w.AnswersAtOnce) (hs : s.AnswersAtOnce) :
    (w.setSite name (.memory s)).AnswersAtOnce where
  stores other t ht := by
    by_cases hother : other = name
    · subst hother
      rw [site_setSite_self] at ht
      cases ht
      exact hs
    · rw [site_setSite_of_ne hother] at ht
      exact h.stores other t ht
  changes := h.changes

theorem AnswersAtOnce.applyOutside {o : OutsideChange} (h : w.AnswersAtOnce)
    (ho : ∀ s : Store, s.AnswersAtOnce → (o.change s).AnswersAtOnce) :
    (w.applyOutside o).AnswersAtOnce := by
  unfold World.applyOutside changeStore
  split
  · rename_i s hs
    exact h.setSite (ho s (h.stores o.site s hs))
  · exact h

theorem AnswersAtOnce.foldl_applyOutside {due : List OutsideChange} (h : w.AnswersAtOnce)
    (hdue : ∀ o ∈ due, ∀ s : Store, s.AnswersAtOnce → (o.change s).AnswersAtOnce) :
    (due.foldl World.applyOutside w).AnswersAtOnce := by
  induction due generalizing w with
  | nil => exact h
  | cons o rest ih =>
      rcases List.forall_mem_cons.mp hdue with ⟨ho, hrest⟩
      exact ih (h.applyOutside ho) hrest

theorem AnswersAtOnce.advance (h : w.AnswersAtOnce) (t : Time) : (w.advance t).AnswersAtOnce := by
  unfold World.advance
  refine AnswersAtOnce.foldl_applyOutside ⟨h.stores, ?_⟩ ?_
  · intro o ho
    exact h.changes o (List.dropWhile_subset _ ho)
  · intro o ho
    exact h.changes o (List.takeWhile_subset _ ho)

/-!
# Waiting until a deadline
-/

/-- A world at some moment of a run that nothing but its deadline may interrupt. -/
structure Timely (deadline now : Time) (w : World) : Prop where
  now : w.now = now
  deadline : w.deadline = deadline
  uncancelled : w.cancelAt = none
  stores : w.AnswersAtOnce
  daemons : w.DaemonsNameNoStage

/-- What a request comes to that does not outlast the deadline: an answer by some time, or a
failure that names no stage. -/
def AnsweredBy (deadline finish : Time) : Except Stop α × World → Prop
  | (.ok _, v) => exists later, later ≤ finish ∧ Timely deadline later v
  | (.error stop, _) => exists f, stop = .failed f ∧ f.stage? = none

theorem Timely.note (h : Timely deadline now w) (event : LogEvent) :
    Timely deadline now (w.note event) :=
  ⟨h.now, h.deadline, h.uncancelled, ⟨h.stores.stores, h.stores.changes⟩, h.daemons⟩

theorem Timely.setSite {s : Store} (h : Timely deadline now w) (hs : s.AnswersAtOnce) :
    Timely deadline now (w.setSite name (.memory s)) :=
  ⟨h.now, h.deadline, h.uncancelled, h.stores.setSite hs, h.daemons⟩

theorem Timely.setFeed (h : Timely deadline now w) (f : Feed) :
    Timely deadline now (w.setFeed name f) :=
  ⟨h.now, h.deadline, h.uncancelled, ⟨h.stores.stores, h.stores.changes⟩, h.daemons⟩

theorem Timely.advance (h : Timely deadline now w) (t : Time) :
    Timely deadline (max now t) (w.advance t) := by
  have hwv := Onward.of_advance t w
  constructor
  · rw [now_advance, h.now]
  · exact hwv.deadline.trans h.deadline
  · exact hwv.cancelAt.trans h.uncancelled
  · exact h.stores.advance t
  · exact h.daemons.onward hwv

/-- A wait that ends by the deadline is not interrupted. -/
theorem Timely.waitUntil {t : Time} (h : Timely deadline now w) (ht : t ≤ deadline) :
    exists v, w.waitUntil t = (.ok (), v) ∧ Timely deadline (max now t) v := by
  have hin : w.InTime t := by
    constructor
    · rw [h.deadline]
      exact ht
    · rw [h.uncancelled]
      nofun
  unfold World.waitUntil
  by_cases hpast : t ≤ w.now
  · rw [if_pos hpast]
    rw [h.now] at hpast
    rw [Nat.max_eq_left hpast]
    exact ⟨w, rfl, h⟩
  · rw [if_neg hpast, interruption?_of_inTime hin]
    exact ⟨w.advance t, rfl, h.advance t⟩

/-!
# Requests
-/

theorem Timely.enter (h : Timely deadline now w) (stage : Stage) :
    AnsweredBy deadline now (w.enter stage) := by
  unfold World.enter
  rw [not_isCancelled_of_none h.uncancelled]
  exact ⟨now, Nat.le_refl now, h.now, h.deadline, h.uncancelled,
    ⟨h.stores.stores, h.stores.changes⟩, h.daemons⟩

theorem Timely.keys (h : Timely deadline now w) (hnow : now ≤ deadline) (db : Database)
    (pattern : String) : AnsweredBy deadline now (w.keys name db pattern) := by
  unfold World.keys
  cases hsite : w.site name with
  | remote settings reason => exact ⟨_, rfl, stage?_readFailure settings reason db⟩
  | memory s =>
      have hs : s.AnswersAtOnce := h.stores.stores name s hsite
      dsimp only
      split
      · exact ⟨_, rfl, rfl⟩
      · have hgranted : Timely deadline now
            (w.setSite name (.memory (s.grant (Store.keysOperation db pattern)))) := h.setSite hs
        rw [show s.delay.getD 0 = 0 from hs, hgranted.now, Nat.add_zero]
        rcases hgranted.waitUntil hnow with ⟨v, hwait, hv⟩
        rw [Nat.max_self] at hv
        rw [hwait]
        dsimp only
        split
        · exact ⟨now, Nat.le_refl now, hv⟩
        · exact ⟨now, Nat.le_refl now, hv⟩

theorem Timely.row (h : Timely deadline now w) (db : Database) (key : String) :
    AnsweredBy deadline now (w.row name db key) := by
  unfold World.row
  split
  · exact ⟨_, rfl, stage?_readFailure _ _ db⟩
  · split
    · exact ⟨_, rfl, rfl⟩
    · exact ⟨now, Nat.le_refl now, h⟩

theorem Timely.subscribe (h : Timely deadline now w) :
    AnsweredBy deadline now (w.subscribe name) := by
  unfold World.subscribe
  split
  · exact ⟨_, rfl, stage?_subscribeFailure _ _⟩
  · rename_i s hsite
    split
    · exact ⟨_, rfl, rfl⟩
    · have hs : ((s.grant "subscribe").subscribe w.now).2.AnswersAtOnce :=
        h.stores.stores name s hsite
      exact ⟨now, Nat.le_refl now, (h.setSite hs).setFeed _⟩

theorem Timely.fetch (h : Timely deadline now w) (daemon : Nat) :
    AnsweredBy deadline now (w.fetch daemon) := by
  have hwv := Onward.of_fetch daemon w
  cases hfetch : w.fetch daemon with
  | mk result v =>
      cases result with
      | error stop =>
          rcases exists_read_of_fetch hfetch with ⟨reads, f, hreads, hf, rfl⟩
          exact ⟨f, rfl, h.daemons reads hreads f hf⟩
      | ok records =>
          rw [hfetch] at hwv
          unfold World.fetch at hfetch
          dsimp only at hfetch
          split at hfetch
          · cases hfetch
            exact ⟨now, Nat.le_refl now, h.now, h.deadline, h.uncancelled,
              ⟨h.stores.stores, h.stores.changes⟩, h.daemons.onward hwv⟩
          · cases hfetch

theorem Timely.pause (h : Timely deadline now w) (duration : Time) (stage : Stage)
    (hfinish : now + duration ≤ deadline) :
    AnsweredBy deadline (now + duration) (w.pause duration stage) := by
  rcases h.waitUntil hfinish with ⟨v, hwait, hv⟩
  rw [pause_of_none h.uncancelled, h.now, hwait]
  exact ⟨_, Nat.max_le.mpr ⟨Nat.le_add_right now duration, Nat.le_refl _⟩, hv⟩

/-!
# Draining
-/

theorem Timely.endDrain (h : Timely deadline now w) (hfinish : now ≤ finish) (left : Feed)
    (d : Drained) : AnsweredBy deadline finish (w.endDrain name left d) :=
  ⟨now, hfinish, (h.setFeed left).note _⟩

theorem Timely.endDrainAt (h : Timely deadline now w) (hnow : now ≤ finish)
    (hfinish : finish ≤ deadline) (left : Feed) (d : Drained) :
    AnsweredBy deadline finish (w.endDrainAt name finish left d) := by
  rcases h.waitUntil hfinish with ⟨v, hwait, hv⟩
  unfold World.endDrainAt
  rw [hwait]
  exact hv.endDrain (Nat.max_le.mpr ⟨hnow, Nat.le_refl finish⟩) left d

theorem Timely.awaitNext (h : Timely deadline now w) (hnow : now ≤ finish)
    (hfinish : finish ≤ deadline) {time : Nat} (left : Feed) (d : Drained)
    {next : World → Except Stop Drained × World}
    (hnext : ∀ v, max now time ≤ finish → Timely deadline (max now time) v →
      AnsweredBy deadline finish (next v)) :
    AnsweredBy deadline finish (w.awaitNext name finish time left d next) := by
  unfold World.awaitNext
  rw [h.now]
  split
  · rename_i hintime
    have htime : time ≤ deadline :=
      Nat.le_trans (Nat.le_trans (Nat.le_max_right now time) hintime) hfinish
    rcases h.waitUntil htime with ⟨v, hwait, hv⟩
    rw [hwait]
    exact hnext v hintime hv
  · exact h.endDrainAt hnow hfinish _ d

/-- A drain waits for changes until its window closes, and no longer. -/
theorem Timely.collect {ending : FeedEnd} {events : List (Time × Change)} {d : Drained}
    (h : Timely deadline now w) (hnow : now ≤ finish) (hfinish : finish ≤ deadline) :
    AnsweredBy deadline finish (w.collect name finish ending events d) := by
  induction events generalizing now w d with
  | nil =>
      unfold World.collect
      split
      · exact h.endDrain hnow _ d
      · cases ending with
        | silent => exact h.endDrainAt hnow hfinish _ d
        | closes time =>
            exact h.awaitNext hnow hfinish _ d fun v hin hv =>
              (hv.note feedClosedEvent).endDrain hin _ d
        | breaks time f => exact h.awaitNext hnow hfinish _ d fun v _ _ => ⟨f.1, rfl, f.2⟩
  | cons event rest ih =>
      rcases event with ⟨time, c⟩
      unfold World.collect
      split
      · exact h.endDrain hnow _ d
      · exact h.awaitNext hnow hfinish _ d fun v hin hv => ih (hv.note (notificationEvent c)) hin

/-!
# All requests
-/

/-- A request whose wait ends by the deadline is answered by then, or fails. -/
theorem Timely.answer (h : Timely deadline now w) (q : Request)
    (hfinish : now + q.patience ≤ deadline) :
    AnsweredBy deadline (now + q.patience) (w.answer q) := by
  have hnow : now ≤ deadline := Nat.le_trans (Nat.le_add_right now _) hfinish
  cases q with
  | log event => exact ⟨now, Nat.le_refl now, h.note event⟩
  | enter stage => exact h.enter stage
  | remaining => exact ⟨now, Nat.le_refl now, h⟩
  | keys name db pattern => exact h.keys hnow db pattern
  | row name db key => exact h.row db key
  | subscribe name => exact h.subscribe
  | drain name window =>
      show AnsweredBy deadline (now + window) (w.collect name (w.now + window) _ _ .empty)
      rw [h.now]
      exact h.collect (Nat.le_add_right now window) hfinish
  | fetch daemon => exact h.fetch daemon
  | pause duration stage => exact h.pause duration stage hfinish

/-!
# Runs that end in time
-/

/-- What a request may be answered at a time, and until when. -/
def answersBy (deadline now : Nat) : (q : Request) → q.Answer → Nat → Prop
  | .remaining, x, later => x = deadline - now ∧ later = now
  | q, _, later => later ≤ now + q.patience

/-- Surroundings that let time pass only for the waits of a program, and in which it may wait
until a deadline. -/
def untilDeadline (deadline : Nat) : Surroundings Nat :=
  ⟨fun now q => now + q.patience ≤ deadline, answersBy deadline⟩

theorem le_of_answersBy {q : Request} {x : q.Answer} {deadline now later : Nat}
    (h : answersBy deadline now q x later) : later ≤ now + q.patience := by
  cases q with
  | remaining => exact Nat.le_of_eq h.2
  | _ => exact h

theorem follows_untilDeadline (deadline : Time) :
    Follows (untilDeadline deadline) (Timely deadline) where
  note event h := h.note event
  sound := by
    intro now w q x v hq h hserves hanswer
    have hanswered := h.answer q hserves
    rw [hanswer] at hanswered
    rcases hanswered with ⟨later, hlater, hv⟩
    cases q with
    | remaining =>
        cases hanswer
        refine ⟨now, ⟨?_, rfl⟩, h⟩
        show w.deadline - w.now = deadline - now
        rw [h.deadline, h.now]
    | _ => exact ⟨later, hlater, hv⟩

/-- A watched run that waits for nothing beyond its deadline does not time out. -/
theorem bounded_ne_timeout {p : Program α} {limit : Time} {Q : α → Nat → Prop}
    (hp : Ensures (untilDeadline (w.now + limit)) p w.now Q) (hcancel : w.cancelAt = none)
    (hstores : w.AnswersAtOnce) (hdaemons : w.DaemonsNameNoStage) (stage : Stage) (told : Time) :
    (bounded limit p w).1 ≠ .error (.timeout stage told) := by
  have hstart : Timely (w.now + limit) w.now (w.watch limit) :=
    ⟨rfl, rfl, hcancel, ⟨hstores.stores, hstores.changes⟩, hdaemons⟩
  unfold bounded
  dsimp only
  rw [if_neg (Bool.eq_false_iff.mp (not_isCancelled_of_none hstart.uncancelled))]
  intro htimeout
  cases hrun : (w.watch limit).run p with
  | mk result v =>
      rw [hrun] at htimeout
      cases result with
      | ok a => cases htimeout
      | error stop =>
          rcases (follows_untilDeadline _).stopped hp hstart hrun with
            ⟨now, q, u, _, hserves, hu, hstop⟩
          have hfailed := hu.answer q hserves
          rw [hstop] at hfailed
          rcases hfailed with ⟨f, rfl, hnone⟩
          cases htimeout
          cases hnone

end World
end RouteAudit
