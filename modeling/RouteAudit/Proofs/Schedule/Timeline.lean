import RouteAudit.Proofs.Schedule.Turns

/-!
# The timeline of a schedule

The turns of a schedule follow each other at one interval from the end of one to the start of
the next, until the shutdown.  A schedule without an interval has one turn, one without a
shutdown never ends, and the verdict of a schedule is that of its last turn, also where the
shutdown has cut that turn short.
-/

namespace RouteAudit

/-- Whether the shutdown comes before the turn would end. -/
def Turn.isInterrupted (s : Schedule) (t : Turn) : Bool :=
  t.before.cancelAt.any (· ≤ t.finish s)

theorem Turn.isInterrupted_of_le (s : Schedule) (t : Turn) {shutdown : Time}
    (hcancel : t.before.cancelAt = some shutdown) (hearly : shutdown ≤ t.finish s) :
    t.isInterrupted s = true :=
  (Option.any_eq_true _ _).mpr ⟨shutdown, hcancel, decide_eq_true hearly⟩

theorem Turn.not_isInterrupted (s : Schedule) (t : Turn)
    (hin : ∀ shutdown, t.before.cancelAt = some shutdown → t.finish s < shutdown) :
    t.isInterrupted s = false := by
  unfold isInterrupted
  cases hcancel : t.before.cancelAt with
  | none => rfl
  | some shutdown => exact decide_eq_false (Nat.not_le_of_lt (hin shutdown hcancel))

namespace Schedule

variable {s : Schedule} {checks : Checker} {w v : World} {interval j k : Nat} {t : Turn}

/-!
# Waiting for the next turn
-/

/-- How the wait for the next turn ends. -/
inductive Awaits (interval : Nat) (w : World) : Awaited → Prop where
  | stopped {shutdown : Time} {v : World} (hcancel : w.cancelAt = some shutdown)
      (hin : shutdown ≤ w.now + interval * 1000) (hnow : v.now = max w.now shutdown)
      (houtput : v.output = w.output) : Awaits interval w (.stopped v)
  | resumed {v : World}
      (hfree : ∀ shutdown, w.cancelAt = some shutdown → w.now + interval * 1000 < shutdown)
      (hnow : v.now = w.now + interval * 1000) (hcancel : v.cancelAt = w.cancelAt)
      (houtput : v.output = w.output) : Awaits interval w (.resumed v)

theorem awaits_awaitNext (interval : Nat) (w : World) :
    Awaits interval w (awaitNext interval w) := by
  unfold awaitNext
  split
  · rename_i hcancelled
    rcases World.isCancelled_iff.mp hcancelled with ⟨shutdown, hcancel, hle⟩
    exact .stopped hcancel (Nat.le_trans hle (Nat.le_add_right _ _)) (Nat.max_eq_left hle).symm rfl
  · dsimp only
    split
    · rename_i shutdown hshutdown
      rcases Option.filter_eq_some_iff.mp hshutdown with ⟨hcancel, hin⟩
      exact .stopped hcancel (of_decide_eq_true hin) (World.now_advance _ _)
        (World.Onward.of_advance _ _).output
    · rename_i hnone
      have honward := World.Onward.of_advance (w.now + interval * 1000)
        (w.note (scheduledEvent interval))
      refine .resumed ?_ ?_ honward.cancelAt honward.output
      · intro shutdown hcancel
        have hkept := Option.filter_eq_none_iff.mp hnone shutdown hcancel
        exact Nat.lt_of_not_le fun hle => hkept (decide_eq_true hle)
      · exact (World.now_advance _ _).trans (Nat.max_eq_right (Nat.le_add_right _ _))

/-!
# The turns
-/

/-- The turn of a number, if the schedule comes to it. -/
def turn (s : Schedule) (checks : Checker) (w : World) : Nat → Option Turn
  | 0 => some ⟨checks 0, w⟩
  | k + 1 =>
      match s.interval, s.turn checks w k with
      | some interval, some t =>
          match awaitNext interval (t.after s) with
          | .stopped _ => none
          | .resumed v => some ⟨checks (k + 1), v⟩
      | _, _ => none

theorem turn_succ (hinterval : s.interval = some interval) (hturn : s.turn checks w k = some t) :
    s.turn checks w (k + 1) = match awaitNext interval (t.after s) with
      | .stopped _ => none
      | .resumed v => some ⟨checks (k + 1), v⟩ := by
  rw [turn, hinterval, hturn]

/-- How a turn starts that follows another one. -/
structure Succeeds (s : Schedule) (interval : Nat) (t next : Turn) : Prop where
  free : ∀ shutdown, t.before.cancelAt = some shutdown →
    (t.after s).now + interval * 1000 < shutdown
  clock : next.before.now = (t.after s).now + interval * 1000
  cancelAt : next.before.cancelAt = t.before.cancelAt
  output : next.before.output = (t.after s).output

theorem exists_of_turn_succ {next : Turn} (h : s.turn checks w (k + 1) = some next) :
    exists interval t, s.interval = some interval ∧ s.turn checks w k = some t ∧
      next.check = checks (k + 1) ∧ s.Succeeds interval t next := by
  rw [turn] at h
  split at h
  · rename_i interval t hinterval hturn
    have hawaits := awaits_awaitNext interval (t.after s)
    split at h
    · cases h
    · rename_i v hnext
      cases h
      rw [hnext] at hawaits
      cases hawaits with
      | resumed hfree hnow hcancel houtput =>
          rw [t.cancelAt_after s] at hfree hcancel
          exact ⟨interval, t, hinterval, hturn, rfl, hfree, hnow, hcancel, houtput⟩
  · cases h

/-- No turn is left out. -/
theorem exists_turn_of_le (h : s.turn checks w k = some t) (hle : j ≤ k) :
    exists u, s.turn checks w j = some u := by
  induction k generalizing t with
  | zero =>
      obtain rfl : j = 0 := Nat.le_zero.mp hle
      exact ⟨t, h⟩
  | succ k ih =>
      rcases Nat.le_succ_iff.mp hle with hle | rfl
      · rcases exists_of_turn_succ h with ⟨_, last, _, hlast, _⟩
        exact ih hlast hle
      · exact ⟨t, h⟩

theorem cancelAt_of_turn (h : s.turn checks w k = some t) : t.before.cancelAt = w.cancelAt := by
  induction k generalizing t with
  | zero =>
      cases h
      rfl
  | succ k ih =>
      rcases exists_of_turn_succ h with ⟨_, last, _, hlast, _, hnext⟩
      exact hnext.cancelAt.trans (ih hlast)

/-- A turn after the first one starts before the shutdown. -/
theorem lt_shutdown_of_turn_succ {shutdown : Time} (h : s.turn checks w (k + 1) = some t)
    (hcancel : w.cancelAt = some shutdown) : t.before.now < shutdown := by
  rcases exists_of_turn_succ h with ⟨_, last, _, hlast, _, hnext⟩
  rw [hnext.clock]
  exact hnext.free shutdown ((cancelAt_of_turn hlast).trans hcancel)

/-- A turn that is followed by another one has ended by itself. -/
theorem byItself_of_turn_succ {next : Turn} (hturn : s.turn checks w k = some t)
    (h : s.turn checks w (k + 1) = some next) : t.isInterrupted s = false ∧
      (t.after s).now = t.finish s ∧ t.passed s = (t.behaviour s).passed := by
  rcases exists_of_turn_succ h with ⟨interval, last, _, hlast, _, hnext⟩
  rw [hturn] at hlast
  cases hlast
  cases t.ends s with
  | byItself hin hnow hpassed _ => exact ⟨t.not_isInterrupted s hin, hnow, hpassed⟩
  | byShutdown shutdown hcancel _ hnow _ _ =>
      have hlate := hnext.free shutdown hcancel
      rw [hnow] at hlate
      exact absurd (Nat.le_trans (Nat.le_max_right _ _) (Nat.le_add_right _ _))
        (Nat.not_le_of_lt hlate)

/-- Whether time passes from turn to turn. -/
def Advances (s : Schedule) (checks : Checker) (w : World) : Prop :=
  s.interval ≠ some 0 ∨ ∀ k t, s.turn checks w k = some t → t.before.now < t.finish s

theorem clock_of_turn (hadvances : s.Advances checks w) (h : s.turn checks w k = some t) :
    w.now + k ≤ t.before.now := by
  induction k generalizing t with
  | zero =>
      cases h
      exact Nat.le_refl _
  | succ k ih =>
      rcases exists_of_turn_succ h with ⟨interval, last, hinterval, hlast, _, hnext⟩
      -- time passes between the turns, or else in each of them
      have hstep : last.before.now + 1 ≤ t.before.now := by
        rw [hnext.clock]
        rcases hadvances with hpositive | hlasting
        · rw [hinterval] at hpositive
          have hwait : 0 < interval * 1000 :=
            Nat.mul_pos (Nat.pos_of_ne_zero fun hzero => hpositive (congrArg some hzero))
              (by decide)
          exact Nat.add_le_add (last.now_le_after s) hwait
        · rw [(byItself_of_turn_succ hlast h).2.1]
          exact Nat.le_trans (hlasting k last hlast) (Nat.le_add_right _ _)
      exact Nat.le_trans (Nat.succ_le_succ (ih hlast)) hstep

/-- After the first turn the schedule goes on as one that starts with the second. -/
theorem turn_rest (hinterval : s.interval = some interval)
    (hnext : awaitNext interval (s.runOnce checks.first w).2 = .resumed v) (k : Nat) :
    s.turn checks w (k + 1) = s.turn checks.rest v k := by
  induction k with
  | zero =>
      have hfirst : s.turn checks w 0 = some ⟨checks.first, w⟩ := rfl
      rw [turn_succ hinterval hfirst]
      show (match awaitNext interval (s.runOnce checks.first w).2 with
        | .stopped _ => none
        | .resumed u => some (⟨checks 1, u⟩ : Turn)) = _
      rw [hnext]
      rfl
  | succ k ih =>
      rw [turn, ih, turn]
      rfl

theorem exists_turn_of_repeated {fuel : Nat} {result : Bool × World}
    (hinterval : s.interval = some interval)
    (h : s.repeated interval fuel checks w = some result) :
    exists k t v, s.turn checks w k = some t ∧ awaitNext interval (t.after s) = .stopped v ∧
      result = (t.passed s, v) := by
  induction fuel generalizing checks w with
  | zero => cases h
  | succ fuel ih =>
      rw [repeated] at h
      dsimp only at h
      split at h
      · rename_i v hstopped
        cases h
        exact ⟨0, ⟨checks.first, w⟩, v, rfl, hstopped, rfl⟩
      · rename_i v hresumed
        rcases ih h with ⟨k, t, u, hturn, hstopped, hresult⟩
        exact ⟨k + 1, t, u, (turn_rest hinterval hresumed k).trans hturn, hstopped, hresult⟩

theorem exists_turn_of_repeated_none {fuel : Nat} (hinterval : s.interval = some interval)
    (h : s.repeated interval fuel checks w = none) : exists t, s.turn checks w fuel = some t := by
  induction fuel generalizing checks w with
  | zero => exact ⟨_, rfl⟩
  | succ fuel ih =>
      rw [repeated] at h
      dsimp only at h
      split at h
      · cases h
      · rename_i v hresumed
        rcases ih h with ⟨t, hturn⟩
        exact ⟨t, (turn_rest hinterval hresumed fuel).trans hturn⟩

theorem turn_succ_of_stopped (hinterval : s.interval = some interval)
    (hturn : s.turn checks w k = some t) (hstopped : awaitNext interval (t.after s) = .stopped v) :
    s.turn checks w (k + 1) = none := by
  rw [turn_succ hinterval hturn, hstopped]

/-- Before a shutdown there is time for so many turns only. -/
theorem exists_run_of_shutdown {shutdown : Time} (hinterval : s.interval = some interval)
    (hadvances : s.Advances checks w) (hcancel : w.cancelAt = some shutdown) :
    exists result, s.repeated interval (enough w) checks w = some result := by
  cases hresult : s.repeated interval (enough w) checks w with
  | some result => exact ⟨result, rfl⟩
  | none =>
      have henough : enough w = shutdown - w.now + 1 + 1 := by
        unfold enough
        rw [hcancel]
      rw [henough] at hresult
      rcases exists_turn_of_repeated_none hinterval hresult with ⟨t, hturn⟩
      have hpast : shutdown ≤ t.before.now :=
        calc shutdown
            ≤ w.now + (shutdown - w.now) := Nat.sub_le_iff_le_add'.mp (Nat.le_refl _)
          _ ≤ w.now + (shutdown - w.now + 1 + 1) := Nat.add_le_add_left (Nat.le_add_right _ 2) _
          _ ≤ t.before.now := clock_of_turn hadvances hturn
      exact absurd (lt_shutdown_of_turn_succ hturn hcancel) (Nat.not_lt_of_le hpast)

theorem before_le_shutdown {shutdown : Time} (hcancel : w.cancelAt = some shutdown)
    (h : s.turn checks w k = some t) : t.before.now ≤ max w.now shutdown := by
  cases k with
  | zero =>
      cases h
      exact Nat.le_max_left _ _
  | succ k =>
      exact Nat.le_trans (Nat.le_of_lt (lt_shutdown_of_turn_succ h hcancel)) (Nat.le_max_right _ _)

theorem after_le_shutdown {shutdown : Time} (hcancel : w.cancelAt = some shutdown)
    (h : s.turn checks w k = some t) : (t.after s).now ≤ max w.now shutdown := by
  have hown : t.before.cancelAt = some shutdown := (cancelAt_of_turn h).trans hcancel
  cases t.ends s with
  | byItself hin hnow _ _ =>
      rw [hnow]
      exact Nat.le_trans (Nat.le_of_lt (hin shutdown hown)) (Nat.le_max_right _ _)
  | byShutdown other hother _ hnow _ _ =>
      rw [hown] at hother
      cases hother
      rw [hnow]
      exact Nat.max_le.mpr ⟨before_le_shutdown hcancel h, Nat.le_max_right _ _⟩

/-- A run that is shut down ends with its last turn, at the moment of the shutdown. -/
theorem exists_last_turn {shutdown : Time} (hinterval : s.interval = some interval)
    (hadvances : s.Advances checks w) (hcancel : w.cancelAt = some shutdown) :
    exists k t v, s.turn checks w k = some t ∧ s.turn checks w (k + 1) = none ∧
      s.runAll checks w = some (t.passed s, v) ∧ v.now = max w.now shutdown ∧
      v.output = (t.after s).output := by
  rcases exists_run_of_shutdown hinterval hadvances hcancel with ⟨result, hrun⟩
  rcases exists_turn_of_repeated hinterval hrun with ⟨k, t, v, hturn, hstopped, rfl⟩
  have hall : s.runAll checks w = some (t.passed s, v) := by
    unfold runAll
    rw [hinterval]
    exact hrun
  refine ⟨k, t, v, hturn, turn_succ_of_stopped hinterval hturn hstopped, hall, ?_⟩
  have hawaits := awaits_awaitNext interval (t.after s)
  rw [hstopped] at hawaits
  cases hawaits with
  | stopped hown _ hnow houtput =>
      rw [t.cancelAt_after s, cancelAt_of_turn hturn, hcancel] at hown
      cases hown
      refine ⟨?_, houtput⟩
      rw [hnow]
      have hstart : w.now ≤ (t.after s).now :=
        calc w.now
            ≤ w.now + k := Nat.le_add_right _ _
          _ ≤ t.before.now := clock_of_turn hadvances hturn
          _ ≤ (t.after s).now := t.now_le_after s
      apply Nat.le_antisymm
      · exact Nat.max_le.mpr ⟨after_le_shutdown hcancel hturn, Nat.le_max_right _ _⟩
      · exact Nat.max_le.mpr
          ⟨Nat.le_trans hstart (Nat.le_max_left _ _), Nat.le_max_right _ _⟩

/-!
# The timeline
-/

end Schedule
end RouteAudit
