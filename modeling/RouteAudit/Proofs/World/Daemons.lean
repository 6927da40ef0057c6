import RouteAudit.Proofs.Program.Spans
import RouteAudit.Proofs.World.Following
import RouteAudit.Proofs.World.Onward

/-!
# Routing daemons

A daemon has a row of reads to offer, and answers them one after another; the last one repeats.
Only a request for its routes takes a read from it.
-/

namespace RouteAudit

open Program

namespace World

variable {w : World} {name : String} {ending : FeedEnd}

/-!
# Single reads
-/

/-- The read that a daemon answers after so many others. -/
def readAt (w : World) (daemon j : Nat) : DaemonRead :=
  let reads := w.daemons[daemon]?.getD []
  reads[min j (reads.length - 1)]?.getD (.ok [])

/-- What a run comes to with an attempt. -/
def replyOf {α : Type} : Attempt α → Except Stop α
  | .ok x => .ok x
  | .error f => .error (.failed f)

theorem nextRead_eq (reads : List DaemonRead) :
    (nextRead reads).1 = reads[min 0 (reads.length - 1)]?.getD (.ok []) ∧
      ∀ j, (nextRead reads).2[min j ((nextRead reads).2.length - 1)]?.getD (.ok []) =
        reads[min (j + 1) (reads.length - 1)]?.getD (.ok []) := by
  match reads with
  | [] => exact ⟨rfl, fun _ => rfl⟩
  | [last] =>
      refine ⟨rfl, fun j => ?_⟩
      simp [nextRead]
  | read :: next :: rest =>
      refine ⟨rfl, fun j => ?_⟩
      have hmin : min (j + 1) ((read :: next :: rest).length - 1) =
          min j ((next :: rest).length - 1) + 1 := by
        simp only [List.length_cons]
        omega
      rw [hmin]
      rfl

theorem run_request {q : Request} : w.run (request q) = w.answer q := by
  unfold request run
  cases w.answer q with
  | mk result v =>
      cases result with
      | ok x => rfl
      | error stop => rfl

/-- An event within spans is logged before what follows it. -/
theorem exists_run_log {α : Type} (spans : List Span) (event : LogEvent) (w : World) :
    exists placed, ∀ f : Unit → Program α,
      w.run ((log event).withinAll spans >>= f) = (w.note placed).run (f ()) := by
  rcases exists_withinAll_log spans event with ⟨placed, hplaced⟩
  refine ⟨placed, ?_⟩
  intro f
  rw [hplaced]
  rfl

/-- A read answers the next request, and the reads after it move up. -/
theorem fetch_eq (w : World) (daemon : Nat) :
    exists v, w.fetch daemon = (replyOf (w.readAt daemon 0), v) ∧ v.now = w.now ∧
      v.asked = daemon :: w.asked ∧ v.watched = w.watched ∧ v.cancelAt = w.cancelAt ∧
      ∀ j, v.readAt daemon j = w.readAt daemon (j + 1) := by
  rcases nextRead_eq (w.daemons[daemon]?.getD []) with ⟨hfirst, hrest⟩
  let v : World :=
    { w with
      daemons := w.daemons.set daemon (nextRead (w.daemons[daemon]?.getD [])).2
      asked := daemon :: w.asked }
  have hlater : ∀ j, v.readAt daemon j = w.readAt daemon (j + 1) := by
    intro j
    have hdaemon : v.daemons[daemon]?.getD [] = (nextRead (w.daemons[daemon]?.getD [])).2 := by
      show (w.daemons.set daemon _)[daemon]?.getD [] = _
      rw [List.getElem?_set_self']
      cases w.daemons[daemon]? with
      | none => rfl
      | some reads => rfl
    unfold readAt
    rw [hdaemon]
    exact hrest j
  refine ⟨v, ?_, rfl, rfl, rfl, rfl, hlater⟩
  unfold fetch readAt
  dsimp only
  rw [← hfirst]
  cases (nextRead (w.daemons[daemon]?.getD [])).1 with
  | ok records => rfl
  | error f => rfl

/-- Nothing ends a pause where nothing stops a run. -/
theorem pause_eq (hwatched : w.watched = false) (hcancel : w.cancelAt = none) (duration : Time)
    (stage : Stage) :
    exists v, w.pause duration stage = (.ok (), v) ∧ v.now = w.now + duration ∧
      v.asked = w.asked ∧ v.watched = false ∧ v.cancelAt = none ∧ v.daemons = w.daemons := by
  rw [pause_of_none hcancel]
  unfold waitUntil
  split
  · rename_i hzero
    exact ⟨w, rfl, Nat.le_antisymm (Nat.le_add_right _ _) hzero, rfl, hwatched, hcancel, rfl⟩
  · rw [interruption?_of_unwatched hwatched]
    rcases w.advance_eq (w.now + duration) with ⟨sites, heq⟩
    refine ⟨_, rfl, ?_⟩
    rw [heq]
    exact ⟨Nat.max_eq_right (Nat.le_add_right _ _), rfl, hwatched, hcancel, rfl⟩

/-!
# What leaves the daemons alone
-/

theorem daemons_waitUntil (t : Time) (w : World) : (w.waitUntil t).2.daemons = w.daemons := by
  have hadvance : ∀ u, (w.advance u).daemons = w.daemons := by
    intro u
    rcases w.advance_eq u with ⟨sites, heq⟩
    rw [heq]
  unfold waitUntil
  split
  · rfl
  · split
    · exact hadvance _
    · exact hadvance _

theorem daemons_endDrainAt (finish : Time) (left : Feed) (d : Drained) (w : World) :
    (w.endDrainAt name finish left d).2.daemons = w.daemons := by
  have hwait := daemons_waitUntil finish w
  unfold endDrainAt
  split
  · rename_i hstop
    rw [hstop] at hwait
    exact hwait
  · rename_i hdone
    rw [hdone] at hwait
    exact hwait

theorem daemons_awaitNext (finish time : Time) (left : Feed) (d : Drained)
    {next : World → Except Stop Drained × World}
    (hnext : ∀ v, (next v).2.daemons = v.daemons) (w : World) :
    (w.awaitNext name finish time left d next).2.daemons = w.daemons := by
  unfold awaitNext
  split
  · have hwait := daemons_waitUntil time w
    split
    · rename_i hstop
      rw [hstop] at hwait
      exact hwait
    · rename_i hdone
      rw [hdone] at hwait
      exact (hnext _).trans hwait
  · exact daemons_endDrainAt _ _ _ w

theorem daemons_collect (finish : Nat) (events : List (Time × Change)) (d : Drained) (w : World) :
    (w.collect name finish ending events d).2.daemons = w.daemons := by
  induction events generalizing d w with
  | nil =>
      unfold collect
      split
      · rfl
      · cases ending with
        | silent => exact daemons_endDrainAt _ _ _ w
        | closes time => exact daemons_awaitNext finish time _ d (fun _ => rfl) w
        | breaks time f => exact daemons_awaitNext finish time _ d (fun _ => rfl) w
  | cons event rest ih =>
      rcases event with ⟨time, change⟩
      unfold collect
      split
      · rfl
      · exact daemons_awaitNext finish time _ d
          (fun v => ih (d.record change) (v.note (notificationEvent change))) w

theorem daemons_keys (db : Database) (pattern : String) (w : World) :
    (w.keys name db pattern).2.daemons = w.daemons := by
  unfold keys
  split
  · rfl
  · rename_i s _
    dsimp only
    split
    · rfl
    · have hwait := daemons_waitUntil
        ((w.setSite name (.memory (s.grant (Store.keysOperation db pattern)))).now + s.delay.getD 0)
        (w.setSite name (.memory (s.grant (Store.keysOperation db pattern))))
      split
      · rename_i hstop
        rw [hstop] at hwait
        exact hwait
      · rename_i hdone
        rw [hdone] at hwait
        split
        · exact hwait
        · exact hwait

theorem daemons_pause (duration : Time) (stage : Stage) (w : World) :
    (w.pause duration stage).2.daemons = w.daemons := by
  unfold pause
  split
  · rcases w.advance_eq _ with ⟨sites, heq⟩
    rw [heq]
  · exact daemons_waitUntil _ w

/-- Only a request for the routes of a daemon takes a read from it. -/
theorem daemons_answer {q : Request} (hq : ∀ daemon, q ≠ .fetch daemon) (w : World) :
    (w.answer q).2.daemons = w.daemons := by
  cases q with
  | log event => rfl
  | enter stage =>
      show (w.enter stage).2.daemons = _
      unfold enter
      split
      · rfl
      · rfl
  | remaining => rfl
  | keys site db pattern => exact daemons_keys db pattern w
  | row site db key =>
      show (w.row site db key).2.daemons = _
      unfold row
      split
      · rfl
      · split
        · rfl
        · rfl
  | subscribe site =>
      show (w.subscribe site).2.daemons = _
      unfold subscribe
      split
      · rfl
      · split
        · rfl
        · rfl
  | drain site window => exact daemons_collect _ _ _ w
  | fetch daemon => exact absurd rfl (hq daemon)
  | pause duration stage => exact daemons_pause duration stage w

end World
end RouteAudit
