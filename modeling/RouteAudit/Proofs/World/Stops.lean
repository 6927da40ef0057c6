import RouteAudit.DaemonShell
import RouteAudit.Proofs.World.Points
import RouteAudit.Proofs.World.Onward
import RouteAudit.Watchdog

/-!
# Stopped requests

A request that stops a run does so for one of four reasons: the run is interrupted while it
waits, a store or a feed refuses, a routing daemon fails, or a cancellation is noticed.  Only
the last one names a stage.
-/

namespace RouteAudit

/-!
# The shell of a daemon
-/

namespace DaemonShell

variable {program site command : String} {execute : List String → Execution} {f : Failure}

theorem stage?_of_table {execution : Execution}
    (h : table program command execution = .error f) : f.stage? = none := by
  cases execution with
  | notStarted reason =>
      cases h
      rfl
  | ended status output errors =>
      unfold table at h
      dsimp only at h
      split at h
      · split at h
        · cases h
        · cases h
          rfl
      · cases h
        rfl

theorem stage?_of_fetchAll {commands : List String}
    (h : (fetchAll program site execute commands).value = .error f) : f.stage? = none := by
  induction commands with
  | nil => cases h
  | cons command rest ih =>
      rw [fetchAll] at h
      dsimp only at h
      split at h
      · rename_i g htable
        cases h
        exact stage?_of_table htable
      · dsimp only at h
        cases hrest : (fetchAll program site execute rest).value with
        | error g =>
            rw [hrest] at h
            cases h
            exact ih hrest
        | ok records =>
            rw [hrest] at h
            cases h

end DaemonShell

namespace World

variable {w v u : World} {f : Failure}

/-- The routing daemons answer with routes, or with failures that name no stage. -/
def DaemonsNameNoStage (w : World) : Prop :=
  ∀ reads ∈ w.daemons, ∀ f, .error f ∈ reads → f.stage? = none

theorem DaemonsNameNoStage.onward (h : w.DaemonsNameNoStage) (hwv : Onward w v) :
    v.DaemonsNameNoStage := by
  intro reads hreads f hf
  rcases hwv.daemons reads hreads with ⟨earlier, hearlier, hsuffix⟩
  exact h earlier hearlier f (hsuffix.subset hf)

/-- No routing daemon fails. -/
def DaemonsWork (w : World) : Prop := ∀ reads ∈ w.daemons, ∀ f, .error f ∉ reads

/-- Daemons that are read through their shells name no stage. -/
theorem daemonsNameNoStage_of_shells
    (h : ∀ reads ∈ w.daemons, ∀ read ∈ reads, exists program site execute,
      read = (DaemonShell.fetch program site execute).value) : w.DaemonsNameNoStage := by
  intro reads hreads f hf
  rcases h reads hreads _ hf with ⟨program, site, execute, hread⟩
  exact DaemonShell.stage?_of_fetchAll hread.symm

/-!
# Waiting
-/

theorem interruption?_ne_failed {t time : Time} : w.interruption? t ≠ some (time, .failed f) := by
  unfold interruption?
  dsimp only
  intro h
  split at h
  · cases h
  · split at h
    · split at h
      · cases h
      · cases h
    · split at h
      · cases h
      · cases h

/-- A wait is interrupted, but does not fail. -/
theorem waitUntil_ne_failed {t : Time} : w.waitUntil t ≠ (.error (.failed f), v) := by
  unfold waitUntil
  intro h
  split at h
  · cases h
  · split at h
    · rename_i hinterrupted
      cases h
      exact interruption?_ne_failed hinterrupted
    · cases h

/-!
# Failures that name no stage
-/

theorem stage?_readFailure (settings : DatabaseSettings) (reason : String) (db : Database) :
    (Endpoint.readFailure settings reason db).stage? = none := by
  unfold Endpoint.readFailure
  split
  · rfl
  · rfl

theorem stage?_subscribeFailure (settings : DatabaseSettings) (reason : String) :
    (Endpoint.subscribeFailure settings reason).stage? = none := by
  unfold Endpoint.subscribeFailure
  split
  · rfl
  · rfl

theorem stage?_of_keys {name pattern : String} {db : Database}
    (h : w.keys name db pattern = (.error (.failed f), v)) : f.stage? = none := by
  unfold keys at h
  split at h
  · cases h
    exact stage?_readFailure _ _ _
  · dsimp only at h
    split at h
    · cases h
      rfl
    · split at h
      · rename_i hwait
        cases h
        exact absurd hwait waitUntil_ne_failed
      · split at h
        · cases h
        · cases h

theorem stage?_of_row {name key : String} {db : Database}
    (h : w.row name db key = (.error (.failed f), v)) : f.stage? = none := by
  unfold row at h
  split at h
  · cases h
    exact stage?_readFailure _ _ _
  · split at h
    · cases h
      rfl
    · cases h

theorem stage?_of_subscribe {name : String} (h : w.subscribe name = (.error (.failed f), v)) :
    f.stage? = none := by
  unfold subscribe at h
  split at h
  · cases h
    exact stage?_subscribeFailure _ _
  · split at h
    · cases h
      rfl
    · cases h

theorem endDrainAt_ne_failed {name : String} {finish : Time} {left : Feed} {d : Drained} :
    w.endDrainAt name finish left d ≠ (.error (.failed f), v) := by
  unfold endDrainAt
  intro h
  split at h
  · rename_i hwait
    cases h
    exact waitUntil_ne_failed hwait
  · cases h

/-- What fails after a wait for the feed is what comes next. -/
theorem exists_of_awaitNext_failed {name : String} {finish time : Time} {left : Feed} {d : Drained}
    {next : World → Except Stop Drained × World}
    (h : w.awaitNext name finish time left d next = (.error (.failed f), v)) :
    exists u, next u = (.error (.failed f), v) := by
  unfold awaitNext at h
  split at h
  · split at h
    · rename_i hwait
      cases h
      exact absurd hwait waitUntil_ne_failed
    · exact ⟨_, h⟩
  · exact absurd h endDrainAt_ne_failed

theorem stage?_of_collect {name : String} {finish : Time} {ending : FeedEnd}
    {events : List (Time × Change)} {d : Drained}
    (h : w.collect name finish ending events d = (.error (.failed f), v)) : f.stage? = none := by
  induction events generalizing w d with
  | nil =>
      unfold collect at h
      split at h
      · cases h
      · cases ending with
        | silent => exact absurd h endDrainAt_ne_failed
        | closes time =>
            rcases exists_of_awaitNext_failed h with ⟨u, hu⟩
            cases hu
        | breaks time g =>
            rcases exists_of_awaitNext_failed h with ⟨u, hu⟩
            cases hu
            exact g.2
  | cons event rest ih =>
      rcases event with ⟨time, c⟩
      unfold collect at h
      split at h
      · cases h
      · rcases exists_of_awaitNext_failed h with ⟨u, hu⟩
        exact ih hu

theorem nextRead_mem {reads : List DaemonRead} (h : (nextRead reads).1 = .error f) :
    .error f ∈ reads := by
  match reads with
  | [] => cases h
  | [last] => exact List.mem_singleton.mpr h.symm
  | read :: next :: rest =>
      rw [← h]
      exact List.mem_cons_self

/-- A daemon that stops a run fails in one of its reads. -/
theorem exists_read_of_fetch {daemon : Nat} {stop : Stop}
    (h : w.fetch daemon = (.error stop, v)) :
    exists reads f, reads ∈ w.daemons ∧ .error f ∈ reads ∧ stop = .failed f := by
  unfold fetch at h
  dsimp only at h
  split at h
  · cases h
  · rename_i g hread
    cases h
    have hmem := nextRead_mem hread
    cases hreads : w.daemons[daemon]? with
    | none =>
        rw [hreads] at hmem
        exact absurd hmem List.not_mem_nil
    | some reads =>
        rw [hreads] at hmem
        exact ⟨reads, g, List.mem_of_getElem? hreads, hmem, rfl⟩

theorem stage?_of_fetch {daemon : Nat} (hdaemons : w.DaemonsNameNoStage)
    (h : w.fetch daemon = (.error (.failed f), v)) : f.stage? = none := by
  rcases exists_read_of_fetch h with ⟨reads, g, hreads, hg, hstop⟩
  cases hstop
  exact hdaemons reads hreads f hg

/-!
# Cancellations
-/

theorem isCancelled_iff :
    w.isCancelled = true ↔ exists shutdown, w.cancelAt = some shutdown ∧ shutdown ≤ w.now := by
  unfold isCancelled
  rw [Option.any_eq_true]
  exact exists_congr fun _ => and_congr_right fun _ => decide_eq_true_iff

theorem isCancelled_eq_false_iff :
    w.isCancelled = false ↔ ∀ shutdown, w.cancelAt = some shutdown → w.now < shutdown := by
  rw [← Bool.not_eq_true, isCancelled_iff]
  simp only [not_exists, not_and, Nat.not_le]

/-- A pause that fails has been cancelled. -/
theorem pause_failed {duration : Time} {stage : Stage}
    (h : w.pause duration stage = (.error (.failed f), v)) : f = .cancelled stage := by
  unfold pause at h
  split at h
  · cases h
    rfl
  · exact absurd h waitUntil_ne_failed

theorem enter_of_error {stage : Stage} {stop : Stop} (h : w.enter stage = (.error stop, v)) :
    stop = .failed (.cancelled w.stage) ∧ v = w := by
  unfold enter at h
  split at h
  · cases h
    exact ⟨rfl, rfl⟩
  · cases h

theorem enter_of_ok {stage left : Stage} (h : w.enter stage = (.ok left, v)) :
    w.isCancelled = false ∧ v = { w with stage := stage, entered := stage :: w.entered } := by
  unfold enter at h
  split at h
  · cases h
  · rename_i hfree
    cases h
    exact ⟨Bool.not_eq_true _ ▸ hfree, rfl⟩

theorem subscribe_of_error {name : String} {stop : Stop}
    (h : w.subscribe name = (.error stop, v)) : v = w := by
  unfold subscribe at h
  split at h
  · cases h
    rfl
  · split at h
    · cases h
      rfl
    · cases h

/-- What a subscription takes from a store, it gives to the feed. -/
theorem subscribe_of_ok {name : String} (h : w.subscribe name = (.ok (), v)) :
    exists s, w.site name = .memory s ∧
      v = (w.setSite name (.memory ((s.grant "subscribe").subscribe w.now).2)).setFeed name
        ((s.grant "subscribe").subscribe w.now).1 := by
  unfold subscribe at h
  split at h
  · cases h
  · rename_i s hs
    split at h
    · cases h
    · cases h
      exact ⟨s, hs, rfl⟩

theorem isCancelled_of_onward (hwv : Onward w v) (h : w.isCancelled = true) :
    v.isCancelled = true := by
  rcases isCancelled_iff.mp h with ⟨shutdown, hcancel, hpast⟩
  exact isCancelled_iff.mpr
    ⟨shutdown, hwv.cancelAt.trans hcancel, Nat.le_trans hpast hwv.clock⟩

/-- A request that stops a run moves no stage and takes nothing from a store. -/
theorem onward_of_error {q : Request} {stop : Stop} (h : w.answer q = (.error stop, v)) :
    Onward w v := by
  by_cases hq : IsPassive q
  · have hwv := onward_answer hq w
    rw [h] at hwv
    exact hwv
  · cases q with
    | enter stage =>
        rcases enter_of_error h with ⟨_, rfl⟩
        exact Onward.refl v
    | subscribe name =>
        obtain rfl := subscribe_of_error h
        exact Onward.refl v
    | _ => exact absurd trivial hq

/-- Along a run the daemons only lose reads. -/
theorem Asks.daemons {α : Type} {p left : Program α} {asked : List Request}
    (h : Asks p w asked left u) :
    ∀ reads ∈ u.daemons, exists earlier, earlier ∈ w.daemons ∧ reads <:+ earlier := by
  induction h with
  | start p w => exact (Onward.refl w).daemons
  | @step q next w v u x asked left hanswer _ ih =>
      have hstep : ∀ reads ∈ v.daemons, exists earlier, earlier ∈ w.daemons ∧ reads <:+ earlier := by
        by_cases hq : IsPassive q
        · have hwv := onward_answer hq w
          rw [hanswer] at hwv
          exact hwv.daemons
        · cases q with
          | enter stage =>
              rcases enter_of_ok hanswer with ⟨_, rfl⟩
              exact (Onward.refl w).daemons
          | subscribe name =>
              rcases subscribe_of_ok hanswer with ⟨s, _, rfl⟩
              exact (Onward.refl w).daemons
          | _ => exact absurd trivial hq
      intro reads hreads
      rcases ih reads hreads with ⟨middle, hmiddle, hsuffix⟩
      rcases hstep middle hmiddle with ⟨earlier, hearlier, hlonger⟩
      exact ⟨earlier, hearlier, hsuffix.trans hlonger⟩

theorem DaemonsWork.of_asks {α : Type} {p left : Program α} {asked : List Request}
    (h : w.DaemonsWork) (hasked : Asks p w asked left u) : u.DaemonsWork := by
  intro reads hreads f hf
  rcases hasked.daemons reads hreads with ⟨earlier, hearlier, hsuffix⟩
  exact h earlier hearlier f (hsuffix.subset hf)

/-- After a cancellation no stage is entered any more. -/
theorem entered_of_isCancelled {α : Type} {p left : Program α} {asked : List Request}
    (hcancelled : w.isCancelled = true) (h : Asks p w asked left u) : u.entered = w.entered := by
  induction h with
  | start p w => rfl
  | @step q next w v u x asked left hanswer _ ih =>
      by_cases hq : IsPassive q
      · have hwv := onward_answer hq w
        rw [hanswer] at hwv
        exact (ih (isCancelled_of_onward hwv hcancelled)).trans hwv.entered
      · cases q with
        | enter stage =>
            rcases enter_of_ok hanswer with ⟨hfree, _⟩
            rw [hcancelled] at hfree
            cases hfree
        | subscribe name =>
            rcases subscribe_of_ok hanswer with ⟨s, _, rfl⟩
            exact ih hcancelled
        | _ => exact absurd trivial hq

theorem entered_run_of_isCancelled {α : Type} {p : Program α} (hcancelled : w.isCancelled = true) :
    (w.run p).2.entered = w.entered := by
  cases hrun : w.run p with
  | mk result v =>
      cases result with
      | ok a =>
          rcases exists_asks_of_ok hrun with ⟨asked, hasked⟩
          exact entered_of_isCancelled hcancelled hasked
      | error stop =>
          rcases exists_asks_of_error hrun with
            ⟨asked, f, hasked, _⟩ | ⟨asked, q, next, u, hasked, hstop⟩
          · exact entered_of_isCancelled hcancelled hasked
          · exact (onward_of_error hstop).entered.trans (entered_of_isCancelled hcancelled hasked)

/-!
# Concluded runs
-/

variable {α : Type}

/-- The end of a run is at most noted, and an abandoned run has its context cancelled. -/
theorem conclude_world (limit : Time) (outcome : Except Stop α) (u : World) :
    (conclude limit (outcome, u)).2 = u ∨
      exists abandoned event,
        (conclude limit (outcome, u)).2 = { u with abandoned := abandoned }.note event := by
  match outcome with
  | .ok a => exact Or.inl rfl
  | .error (.failed f) => exact Or.inl rfl
  | .error .cancelled => exact Or.inr ⟨_, _, rfl⟩
  | .error .overdue => exact Or.inr ⟨_, _, rfl⟩

theorem onward_conclude (limit : Time) (outcome : Except Stop α) (u : World) :
    Onward u (conclude limit (outcome, u)).2 := by
  rcases conclude_world limit outcome u with heq | ⟨abandoned, event, heq⟩
  · rw [heq]
    exact Onward.refl u
  · rw [heq]
    exact (Onward.of_abandoned abandoned u).trans (Onward.of_note event _)

theorem now_conclude (limit : Time) (outcome : Except Stop α) (u : World) :
    (conclude limit (outcome, u)).2.now = u.now := by
  rcases conclude_world limit outcome u with heq | ⟨abandoned, event, heq⟩
  · rw [heq]
  · rw [heq]
    rfl

/-- What was stopped has no result. -/
theorem exists_failure_conclude (limit : Time) (stop : Stop) (u : World) :
    exists f, (conclude limit (Except.error (α := α) stop, u)).1 = .error f := by
  cases stop with
  | failed f => exact ⟨f, rfl⟩
  | cancelled => exact ⟨_, rfl⟩
  | overdue => exact ⟨_, rfl⟩

theorem conclude_error_ne_ok {limit : Time} {stop : Stop} {a : α} :
    (conclude limit (Except.error (α := α) stop, u)).1 ≠ .ok a := by
  rcases exists_failure_conclude (α := α) limit stop u with ⟨f, hf⟩
  rw [hf]
  nofun

end World
end RouteAudit
