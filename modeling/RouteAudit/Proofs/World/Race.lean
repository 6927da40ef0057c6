import RouteAudit.Proofs.World.Stops

/-!
# Watched runs

A watched run races against its deadline and the shutdown.  If what it does by itself ends by
the deadline and before the shutdown, then this is what it does; otherwise it is stopped at
the one of the two that comes first.
-/

namespace RouteAudit
namespace World

variable {α : Type} {w u v : World}

/-- The same world with nothing that stops a run. -/
def free (w : World) : World := { w with watched := false, cancelAt := none }

/-- Whether a watched run may get to a time. -/
def InTime (w : World) (t : Time) : Prop :=
  t ≤ w.deadline ∧ ∀ s, w.cancelAt = some s → t < s

/-- When a watched run is stopped that does not end in time, and by what. -/
def limitation (w : World) : Time × Stop :=
  match w.cancelAt with
  | some s => if w.deadline < s then (w.deadline, .overdue) else (s, .cancelled)
  | none => (w.deadline, .overdue)

/-- How the run of a watched world compares with that of the free one. -/
inductive Race (w : World) : Except Stop α × World → Except Stop α × World → Prop where
  | inTime {result : Except Stop α} {v : World} (hin : w.InTime v.now) :
      Race w (result, v) (result, v.free)
  | late {result : Except Stop α} {u v : World} (hlate : ¬w.InTime v.now)
      (hstopped : u.now = w.limitation.1) : Race w (.error w.limitation.2, u) (result, v)

/-!
# Limits
-/

/-- What no request changes: time goes on, the limits stay, and nothing is written. -/
structure Later (w v : World) : Prop where
  clock : w.now ≤ v.now
  watched : v.watched = w.watched
  deadline : v.deadline = w.deadline
  cancelAt : v.cancelAt = w.cancelAt
  output : v.output = w.output

theorem Later.refl (w : World) : Later w w :=
  ⟨Nat.le_refl _, rfl, rfl, rfl, rfl⟩

theorem Later.trans (hwv : Later w v) (hvu : Later v u) : Later w u :=
  ⟨Nat.le_trans hwv.clock hvu.clock, hvu.watched.trans hwv.watched,
    hvu.deadline.trans hwv.deadline, hvu.cancelAt.trans hwv.cancelAt,
    hvu.output.trans hwv.output⟩

theorem Onward.later (h : Onward w v) : Later w v :=
  ⟨h.clock, h.watched, h.deadline, h.cancelAt, h.output⟩

theorem later_answer (q : Request) (w : World) : Later w (w.answer q).2 := by
  cases hanswer : w.answer q with
  | mk result v =>
      cases result with
      | error stop => exact (onward_of_error hanswer).later
      | ok x =>
          by_cases hq : IsPassive q
          · have hwv := onward_answer hq w
            rw [hanswer] at hwv
            exact hwv.later
          · cases q with
            | enter stage =>
                rcases enter_of_ok hanswer with ⟨_, rfl⟩
                exact ⟨Nat.le_refl _, rfl, rfl, rfl, rfl⟩
            | subscribe name =>
                rcases subscribe_of_ok hanswer with ⟨s, _, rfl⟩
                exact ⟨Nat.le_refl _, rfl, rfl, rfl, rfl⟩
            | _ => exact absurd trivial hq

theorem later_run (p : Program α) (w : World) : Later w (w.run p).2 := by
  induction p generalizing w with
  | done a => exact Later.refl w
  | fail f => exact Later.refl w
  | ask q next ih =>
      have hwv := later_answer q w
      rcases run_ask_cases q next w with ⟨stop, v, hanswer, heq⟩ | ⟨x, v, hanswer, heq⟩
      · rw [hanswer] at hwv
        rw [heq]
        exact hwv
      · rw [hanswer] at hwv
        rw [heq]
        exact hwv.trans (ih x v)

theorem InTime.of_le {s t : Time} (h : w.InTime t) (hst : s ≤ t) : w.InTime s :=
  ⟨Nat.le_trans hst h.1, fun c hc => Nat.lt_of_le_of_lt hst (h.2 c hc)⟩

/-- What comes after a time that is too late is too late as well. -/
theorem Race.goOn {ended : Except Stop α × World} (hlate : ¬w.InTime v.now)
    (hstopped : u.now = w.limitation.1) (hclock : v.now ≤ ended.2.now) :
    Race w (.error w.limitation.2, u) ended :=
  .late (fun hin => hlate (hin.of_le hclock)) hstopped

theorem Later.inTime_iff (h : Later w v) {t : Time} : v.InTime t ↔ w.InTime t := by
  unfold InTime
  rw [h.deadline, h.cancelAt]

theorem Later.limitation_eq (h : Later w v) : v.limitation = w.limitation := by
  unfold limitation
  rw [h.deadline, h.cancelAt]

/-- A race can be told from any moment before it. -/
theorem Later.race (h : Later w v) {ended free : Except Stop α × World}
    (hrace : Race v ended free) : Race w ended free := by
  cases hrace with
  | inTime hin => exact .inTime (h.inTime_iff.mp hin)
  | late hlate hstopped =>
      rw [h.limitation_eq] at hstopped ⊢
      exact .late (fun hin => hlate (h.inTime_iff.mpr hin)) hstopped

theorem limitation_of_lt (h : ∀ s, w.cancelAt = some s → w.deadline < s) :
    w.limitation = (w.deadline, .overdue) := by
  unfold limitation
  split
  · rename_i s hs
    exact if_pos (h s hs)
  · rfl

theorem limitation_of_le {s : Time} (hs : w.cancelAt = some s) (hle : s ≤ w.deadline) :
    w.limitation = (s, .cancelled) := by
  unfold limitation
  rw [hs]
  exact if_neg (Nat.not_lt_of_le hle)

theorem InTime.le_limitation {t : Time} (h : w.InTime t) : t ≤ w.limitation.1 := by
  unfold limitation
  split
  · rename_i s hs
    split
    · exact h.1
    · exact Nat.le_of_lt (h.2 s hs)
  · exact h.1

theorem InTime.not_isCancelled (h : w.InTime w.now) : w.isCancelled = false :=
  isCancelled_eq_false_iff.mpr h.2

/-!
# Waiting
-/

theorem applyOutside_free (w : World) (o : OutsideChange) :
    w.free.applyOutside o = (w.applyOutside o).free := by
  have hsite : w.free.site o.site = w.site o.site := rfl
  unfold applyOutside changeStore
  rw [hsite]
  cases w.site o.site with
  | memory s => rfl
  | remote settings reason => rfl

theorem foldl_applyOutside_free (due : List OutsideChange) (w : World) :
    due.foldl applyOutside w.free = (due.foldl applyOutside w).free := by
  induction due generalizing w with
  | nil => rfl
  | cons o rest ih => rw [List.foldl_cons, List.foldl_cons, applyOutside_free, ih]

theorem advance_free (t : Time) (w : World) : w.free.advance t = (w.advance t).free := by
  exact foldl_applyOutside_free (w.outside.takeWhile (isDue t))
    { w with now := max w.now t, outside := w.outside.dropWhile (isDue t) }

theorem now_advance (t : Time) (w : World) : (w.advance t).now = max w.now t := by
  rcases w.advance_eq t with ⟨sites, heq⟩
  rw [heq]

theorem interruption?_of_inTime {t : Time} (h : w.InTime t) : w.interruption? t = none := by
  have hnone : w.cancelAt.filter (· ≤ t) = none := by
    cases hcancel : w.cancelAt with
    | none => rfl
    | some s => exact if_neg (by simpa using h.2 s hcancel)
  unfold interruption?
  rw [hnone]
  cases w.watched with
  | false => rfl
  | true => exact if_neg (Nat.not_lt_of_le h.1)

/-- A watched run that waits for too long is stopped. -/
theorem interruption?_of_late {t : Time} (hw : w.watched = true) (h : ¬w.InTime t) :
    w.interruption? t = some (max w.now w.limitation.1, w.limitation.2) := by
  unfold interruption? limitation
  rw [hw]
  cases hcancel : w.cancelAt with
  | none =>
      have hover : w.deadline < t := by
        refine Nat.lt_of_not_le fun hle => h ⟨hle, ?_⟩
        rw [hcancel]
        nofun
      exact if_pos hover
  | some s =>
      by_cases hs : s ≤ t
      · have hfilter : (some s).filter (fun c => decide (c ≤ t)) = some s :=
          if_pos (by simpa using hs)
        rw [hfilter]
        dsimp only
        rw [if_neg (by decide)]
        by_cases hdeadline : w.deadline < s
        · rw [if_pos hdeadline, if_pos hdeadline]
        · rw [if_neg hdeadline, if_neg hdeadline]
      · have hover : w.deadline < t := by
          refine Nat.lt_of_not_le fun hle => h ⟨hle, ?_⟩
          intro c hc
          rw [hcancel] at hc
          cases hc
          exact Nat.lt_of_not_le hs
        have hfilter : (some s).filter (fun c => decide (c ≤ t)) = none :=
          if_neg (by simpa using hs)
        rw [hfilter]
        dsimp only
        rw [if_neg (by decide), if_pos hover, if_pos (Nat.lt_trans hover (Nat.lt_of_not_le hs))]

theorem race_waitUntil (hw : w.watched = true) (hnow : w.InTime w.now) (t : Time) :
    Race w (w.waitUntil t) (w.free.waitUntil t) := by
  have hfree : w.free.interruption? t = none := rfl
  have hclock : w.free.now = w.now := rfl
  unfold waitUntil
  rw [hfree, hclock]
  by_cases ht : t ≤ w.now
  · rw [if_pos ht, if_pos ht]
    exact .inTime hnow
  · have harrived : (w.advance t).now = t := by
      rw [now_advance]
      exact Nat.max_eq_right (Nat.le_of_not_le ht)
    rw [if_neg ht, if_neg ht, advance_free]
    by_cases hin : w.InTime t
    · rw [interruption?_of_inTime hin]
      exact .inTime (harrived.symm ▸ hin)
    · rw [interruption?_of_late hw hin]
      refine .late ?_ ?_
      · rw [show (w.advance t).free.now = t from harrived]
        exact hin
      · rw [now_advance, Nat.max_eq_right (Nat.le_max_left _ _),
          Nat.max_eq_right hnow.le_limitation]

/-!
# Requests
-/

theorem race_keys (hw : w.watched = true) (hnow : w.InTime w.now) (name : String) (db : Database)
    (pattern : String) : Race w (w.keys name db pattern) (w.free.keys name db pattern) := by
  have hsites : w.free.site name = w.site name := rfl
  unfold keys
  rw [hsites]
  cases hsite : w.site name with
  | remote settings reason => exact .inTime hnow
  | memory s =>
      dsimp only
      split
      · exact .inTime hnow
      · have hgranted := (Onward.of_grant hsite db pattern).later
        have hfree : w.free.setSite name (.memory (s.grant (Store.keysOperation db pattern))) =
          (w.setSite name (.memory (s.grant (Store.keysOperation db pattern)))).free := rfl
        have hstart : (w.setSite name (.memory (s.grant (Store.keysOperation db pattern)))).InTime
          (w.setSite name (.memory (s.grant (Store.keysOperation db pattern)))).now := hnow
        rw [hfree]
        generalize w.setSite name (.memory (s.grant (Store.keysOperation db pattern))) = g
          at hgranted hstart ⊢
        have hclock : g.free.now = g.now := rfl
        have hwait := hgranted.race
          (race_waitUntil (hgranted.watched.trans hw) hstart (g.now + s.delay.getD 0))
        rw [hclock]
        generalize g.waitUntil (g.now + s.delay.getD 0) = ended at hwait ⊢
        generalize g.free.waitUntil (g.now + s.delay.getD 0) = freed at hwait ⊢
        cases hwait with
        | @inTime result v hin =>
            cases result with
            | error stop => exact .inTime hin
            | ok x =>
                have hread : v.free.site name = v.site name := rfl
                dsimp only
                rw [hread]
                cases v.site name with
                | memory r => exact .inTime hin
                | remote settings reason => exact .inTime hin
        | @late result u v hlate hstopped =>
            cases result with
            | error stop => exact .late hlate hstopped
            | ok x =>
                dsimp only
                cases v.site name with
                | memory r => exact .late hlate hstopped
                | remote settings reason => exact .late hlate hstopped

theorem race_endDrainAt (hw : w.watched = true) (hnow : w.InTime w.now) (name : String)
    (finish : Time) (left : Feed) (d : Drained) :
    Race w (w.endDrainAt name finish left d) (w.free.endDrainAt name finish left d) := by
  have hwait := race_waitUntil hw hnow finish
  unfold endDrainAt
  generalize w.waitUntil finish = ended at hwait ⊢
  generalize w.free.waitUntil finish = freed at hwait ⊢
  cases hwait with
  | @inTime result v hin =>
      cases result with
      | error stop => exact .inTime hin
      | ok x => exact .inTime (v := (v.endDrain name left d).2) hin
  | @late result u v hlate hstopped =>
      cases result with
      | error stop => exact .late hlate hstopped
      | ok x => exact .late (v := (v.endDrain name left d).2) hlate hstopped

theorem race_awaitNext (hw : w.watched = true) (hnow : w.InTime w.now) (name : String)
    (finish time : Time) (left : Feed) (d : Drained)
    {next : World → Except Stop Drained × World} (honward : ∀ v, Onward v (next v).2)
    (hnext : ∀ v, v.watched = true → v.InTime v.now → Race v (next v) (next v.free)) :
    Race w (w.awaitNext name finish time left d next)
      (w.free.awaitNext name finish time left d next) := by
  have hclock : w.free.now = w.now := rfl
  unfold awaitNext
  rw [hclock]
  split
  · have hwait := race_waitUntil hw hnow time
    have hlater := (Onward.of_waitUntil time w).later
    generalize w.waitUntil time = ended at hwait hlater ⊢
    generalize w.free.waitUntil time = freed at hwait ⊢
    cases hwait with
    | @inTime result v hin =>
        cases result with
        | error stop => exact .inTime hin
        | ok x =>
            have hin' := hlater.inTime_iff.mpr hin
            exact hlater.race (hnext v (hlater.watched.trans hw) hin')
    | @late result u v hlate hstopped =>
        cases result with
        | error stop => exact .late hlate hstopped
        | ok x =>
            -- the feed does it too late, and whatever the free run does after it as well
            exact .goOn hlate hstopped (honward v).clock
  · exact race_endDrainAt hw hnow name finish _ d

theorem race_collect (hw : w.watched = true) (hnow : w.InTime w.now) (name : String)
    (finish : Time) (ending : FeedEnd) (events : List (Time × Change)) (d : Drained) :
    Race w (w.collect name finish ending events d)
      (w.free.collect name finish ending events d) := by
  have hclock : w.free.now = w.now := rfl
  induction events generalizing w d with
  | nil =>
      unfold collect
      rw [hclock]
      split
      · exact .inTime (v := (w.endDrain name ⟨[], ending⟩ d).2) hnow
      · cases ending with
        | silent => exact race_endDrainAt hw hnow name finish _ d
        | closes time =>
            exact race_awaitNext hw hnow name finish time _ d
              (fun v => (Onward.of_note _ v).trans (Onward.of_endDrain name _ d _))
              fun v _ hin => .inTime
                (v := ((v.note feedClosedEvent).endDrain name ⟨[], .closes time⟩ d).2) hin
        | breaks time f =>
            exact race_awaitNext hw hnow name finish time _ d (fun v => Onward.of_setFeed name _ v)
              fun v _ hin => .inTime (v := v.setFeed name ⟨[], .breaks time f⟩) hin
  | cons event rest ih =>
      rcases event with ⟨time, c⟩
      unfold collect
      rw [hclock]
      split
      · exact .inTime (v := (w.endDrain name ⟨(time, c) :: rest, ending⟩ d).2) hnow
      · refine race_awaitNext hw hnow name finish time _ d
          (fun v => (Onward.of_note _ v).trans (Onward.of_collect name finish ending rest _ _)) ?_
        intro v hwatched hin
        exact (Onward.of_note (notificationEvent c) v).later.race
          (ih (w := v.note (notificationEvent c)) hwatched hin (d.record c) rfl)

theorem race_answer (hw : w.watched = true) (hnow : w.InTime w.now) (q : Request) :
    Race w (w.answer q) (w.free.answer q) := by
  cases q with
  | log event => exact .inTime (v := w.note event) hnow
  | enter stage =>
      have hfree : w.free.isCancelled = false := rfl
      show Race w (w.enter stage) (w.free.enter stage)
      unfold enter
      rw [hnow.not_isCancelled, hfree]
      exact .inTime (v := { w with stage := stage, entered := stage :: w.entered }) hnow
  | remaining => exact .inTime hnow
  | keys name db pattern => exact race_keys hw hnow name db pattern
  | row name db key =>
      have hsites : w.free.site name = w.site name := rfl
      show Race w (w.row name db key) (w.free.row name db key)
      unfold row
      rw [hsites]
      cases w.site name with
      | remote settings reason => exact .inTime hnow
      | memory s =>
          dsimp only
          split
          · exact .inTime hnow
          · exact .inTime hnow
  | subscribe name =>
      have hsites : w.free.site name = w.site name := rfl
      show Race w (w.subscribe name) (w.free.subscribe name)
      unfold subscribe
      rw [hsites]
      cases w.site name with
      | remote settings reason => exact .inTime hnow
      | memory s =>
          dsimp only
          split
          · exact .inTime hnow
          · exact .inTime (v := (w.setSite name _).setFeed name _) hnow
  | drain name window => exact race_collect hw hnow name _ _ _ _
  | fetch daemon =>
      have hdaemons : w.free.daemons = w.daemons := rfl
      show Race w (w.fetch daemon) (w.free.fetch daemon)
      unfold fetch
      rw [hdaemons]
      dsimp only
      split
      · exact .inTime (v := { w with daemons := _, asked := daemon :: w.asked }) hnow
      · exact .inTime (v := { w with daemons := _, asked := daemon :: w.asked }) hnow
  | pause duration stage =>
      have hpause : w.pause duration stage = w.waitUntil (w.now + duration) := by
        unfold pause
        rw [hw]
      show Race w (w.pause duration stage) (w.free.pause duration stage)
      rw [hpause]
      exact race_waitUntil hw hnow (w.now + duration)

/-!
# Runs
-/

theorem race_run (p : Program α) (hw : w.watched = true) (hnow : w.InTime w.now) :
    Race w (w.run p) (w.free.run p) := by
  induction p generalizing w with
  | done a => exact .inTime hnow
  | fail f => exact .inTime hnow
  | ask q next ih =>
      have hanswer := race_answer hw hnow q
      have hlater := later_answer q w
      unfold run
      generalize w.answer q = ended at hanswer hlater ⊢
      generalize w.free.answer q = freed at hanswer ⊢
      cases hanswer with
      | @inTime result v hin =>
          cases result with
          | error stop => exact .inTime hin
          | ok x =>
              exact hlater.race (ih x (hlater.watched.trans hw) (hlater.inTime_iff.mpr hin))
      | @late result u v hlate hstopped =>
          cases result with
          | error stop => exact .late hlate hstopped
          | ok x => exact .goOn hlate hstopped (later_run (next x) v).clock

/-- A run is concluded in the same way with limits and without them. -/
theorem conclude_free (limit : Time) (outcome : Except Stop α) (u : World) :
    conclude limit (outcome, u.free) =
      ((conclude limit (outcome, u)).1, (conclude limit (outcome, u)).2.free) := by
  match outcome with
  | .ok a => rfl
  | .error (.failed f) => rfl
  | .error .cancelled => rfl
  | .error .overdue => rfl

/-- A watched run times out if by itself it ends after its deadline. -/
theorem exists_timeout_of_run {p : Program α} {limit : Time} {result : Except Stop α}
    (hcancel : w.cancelAt = none) (hrun : (w.watch limit).free.run p = (result, v))
    (hlate : (w.watch limit).deadline < v.now) :
    exists stage, (bounded limit p w).1 = .error (.timeout stage limit) := by
  have hnone : ∀ s, (w.watch limit).cancelAt = some s → (w.watch limit).deadline < s := by
    intro s hs
    rw [show (w.watch limit).cancelAt = none from hcancel] at hs
    cases hs
  have hstart : (w.watch limit).InTime (w.watch limit).now := by
    refine ⟨Nat.le_add_right _ _, fun s hs => ?_⟩
    exact Nat.lt_of_le_of_lt (Nat.le_add_right _ _) (hnone s hs)
  have hrace := race_run p rfl hstart
  unfold bounded
  dsimp only
  rw [if_neg (Bool.eq_false_iff.mp hstart.not_isCancelled)]
  rw [hrun] at hrace
  generalize (w.watch limit).run p = ended at hrace ⊢
  cases hrace with
  | inTime hin => exact absurd hin.1 (Nat.not_le_of_lt hlate)
  | @late _ u _ _ _ =>
      rw [limitation_of_lt hnone]
      exact ⟨u.stage, rfl⟩

end World
end RouteAudit
