import RouteAudit.Proofs.World.Race

/-!
# The first of three endings

A watched run has one of three endings: its own, its deadline or the shutdown.  What comes
first counts, and up to then the run makes the very steps that it makes by itself.  A step
at the instant of the deadline is still made, and its stage is the one that a timeout names;
of a shutdown and anything else at one instant the shutdown counts.
-/

namespace RouteAudit

/-- The stage in which a run stands after a request. -/
def Request.stageFrom (stage : Stage) : Request → Stage
  | .enter entered => entered
  | _ => stage

namespace World

variable {α β : Type} {p : Program α} {w u v : World} {limit : Time}

/-!
# Steps
-/

/-- The requests that a run makes, each with its time. -/
def steps : Program α → World → List (Time × Request)
  | .done _, _ => []
  | .fail _, _ => []
  | .ask q next, w =>
      (w.now, q) :: match w.answer q with
        | (.ok x, v) => steps (next x) v
        | (.error _, _) => []

/-- The stage last entered in a list of steps, or the stage in which they began. -/
def stageAfter (stage : Stage) (made : List (Time × Request)) : Stage :=
  made.foldl (fun current step => step.2.stageFrom current) stage

section Requests

variable {q : Request} {next : q.Answer → Program α}

theorem steps_ask_ok {x : q.Answer} (h : w.answer q = (.ok x, v)) :
    steps (.ask q next) w = (w.now, q) :: steps (next x) v := by
  rw [steps, h]

theorem steps_ask_error {stop : Stop} (h : w.answer q = (.error stop, v)) :
    steps (.ask q next) w = [(w.now, q)] := by
  rw [steps, h]

end Requests

/-- A run makes its steps between its start and its end. -/
theorem bounds_of_mem_steps {step : Time × Request} (h : step ∈ steps p w) :
    w.now ≤ step.1 ∧ step.1 ≤ (w.run p).2.now := by
  induction p generalizing w with
  | done a => cases h
  | fail f => cases h
  | ask q next ih =>
      have hlater := later_answer q w
      have hrun := later_run (.ask q next) w
      rcases hanswer : w.answer q with ⟨stop | x, v⟩
      · rw [steps_ask_error hanswer] at h
        rw [List.mem_singleton.mp h]
        exact ⟨Nat.le_refl _, hrun.clock⟩
      · rw [steps_ask_ok hanswer] at h
        rw [hanswer] at hlater
        cases List.mem_cons.mp h with
        | inl heq =>
            rw [heq]
            exact ⟨Nat.le_refl _, hrun.clock⟩
        | inr hmem =>
            rw [run_ask_ok hanswer]
            exact ⟨Nat.le_trans hlater.clock (ih x hmem).1, (ih x hmem).2⟩

/-- What a program would go on to do does not count if it is stopped before. -/
theorem steps_bind_of_error {k : α → Program β} {stop : Stop} (h : w.run p = (.error stop, v)) :
    steps (p >>= k) w = steps p w := by
  change steps (p.bind k) w = _
  induction p generalizing w with
  | done a => cases h
  | fail f => rfl
  | ask q next ih =>
      rw [Program.bind]
      rcases hanswer : w.answer q with ⟨stopped | x, u⟩
      · rw [steps_ask_error hanswer, steps_ask_error hanswer]
      · rw [run_ask_ok hanswer] at h
        rw [steps_ask_ok hanswer, steps_ask_ok hanswer, ih x h]

/-!
# Steps of watched runs
-/

instance (w : World) (t : Time) : Decidable (w.InTime t) :=
  decidable_of_iff (t ≤ w.deadline ∧ w.cancelAt.all (fun s => decide (t < s)) = true) (by
    unfold InTime
    rw [Option.all_eq_true]
    simp only [decide_eq_true_eq])

/-- A watched run makes the steps of the free run for which there is time. -/
theorem steps_race (hw : w.watched = true) (hnow : w.InTime w.now) :
    steps p w = (steps p w.free).filter fun step => w.InTime step.1 := by
  induction p generalizing w with
  | done a => rfl
  | fail f => rfl
  | ask q next ih =>
      have hanswer := race_answer hw hnow q
      have hlater := later_answer q w
      have hfirst : decide (w.InTime w.free.now) = true := decide_eq_true hnow
      rcases hwatched : w.answer q with ⟨result, u⟩
      rcases hfree : w.free.answer q with ⟨alone, v⟩
      rw [hwatched, hfree] at hanswer
      rw [hwatched] at hlater
      cases hanswer with
      | inTime hin =>
          cases result with
          | error stop =>
              rw [steps_ask_error hwatched, steps_ask_error hfree, List.filter_cons, if_pos hfirst]
              rfl
          | ok x =>
              rw [steps_ask_ok hwatched, steps_ask_ok hfree, List.filter_cons, if_pos hfirst,
                ih x (hlater.watched.trans hw) (hlater.inTime_iff.mpr hin)]
              simp only [hlater.inTime_iff]
              rfl
      | late hlate hstopped =>
          rw [steps_ask_error hwatched]
          cases alone with
          | error stop =>
              rw [steps_ask_error hfree, List.filter_cons, if_pos hfirst]
              rfl
          | ok x =>
              -- all that the free run does after this request is too late
              have hnone : (steps (next x) v).filter (fun step => w.InTime step.1) = [] := by
                apply List.filter_eq_nil_iff.mpr
                intro step hstep hin
                exact hlate ((of_decide_eq_true hin).of_le (bounds_of_mem_steps hstep).1)
              rw [steps_ask_ok hfree, List.filter_cons, if_pos hfirst, hnone]
              rfl

theorem stage_answer (hfree : w.isCancelled = false) (q : Request) :
    (w.answer q).2.stage = q.stageFrom w.stage := by
  by_cases hq : IsPassive q
  · have hstage := (onward_answer hq w).stage
    cases q with
    | enter stage => exact absurd hq id
    | _ => exact hstage
  · cases q with
    | enter stage =>
        show (w.enter stage).2.stage = stage
        unfold enter
        rw [if_neg (Bool.eq_false_iff.mp hfree)]
    | subscribe name =>
        show (w.subscribe name).2.stage = w.stage
        rcases hsubscribe : w.subscribe name with ⟨stop | _, v⟩
        · rw [subscribe_of_error hsubscribe]
        · rcases subscribe_of_ok hsubscribe with ⟨s, _, rfl⟩
          rfl
    | _ => exact absurd trivial hq

/-- A watched run stands in the stage that its steps entered last. -/
theorem stage_run (hw : w.watched = true) (hnow : w.InTime w.now) :
    (w.run p).2.stage = stageAfter w.stage (steps p w) := by
  induction p generalizing w with
  | done a => rfl
  | fail f => rfl
  | ask q next ih =>
      have hanswer := race_answer hw hnow q
      have hlater := later_answer q w
      have hstage := stage_answer hnow.not_isCancelled q
      rcases hwatched : w.answer q with ⟨stop | x, u⟩
      · rw [hwatched] at hstage
        rw [run_ask_error hwatched, steps_ask_error hwatched]
        exact hstage
      · rw [hwatched] at hanswer hlater hstage
        have hin : w.InTime u.now := by
          generalize w.free.answer q = alone at hanswer
          cases hanswer with
          | inTime hin => exact hin
        rw [run_ask_ok hwatched, steps_ask_ok hwatched,
          ih x (hlater.watched.trans hw) (hlater.inTime_iff.mpr hin), hstage]
        rfl

/-!
# Runs under the watchdog
-/

/-- What a program does by itself, where nothing stops it. -/
def solitary (limit : Time) (p : Program α) (w : World) : Attempt α × World :=
  unbounded limit p { w with cancelAt := none }

def solitarySteps (limit : Time) (p : Program α) (w : World) : List (Time × Request) :=
  steps p (w.watch limit).free

/-- The steps that a program makes under the watchdog. -/
def boundedSteps (limit : Time) (p : Program α) (w : World) : List (Time × Request) :=
  if w.isCancelled then [] else steps p (w.watch limit)

theorem solitary_eq (limit : Time) (p : Program α) (w : World) :
    solitary limit p w = conclude limit ((w.watch limit).free.run p) :=
  rfl

theorem now_solitary : (solitary limit p w).2.now = ((w.watch limit).free.run p).2.now := by
  rw [solitary_eq]
  exact now_conclude limit _ _

theorem now_le_now_solitary : w.now ≤ (solitary limit p w).2.now := by
  rw [now_solitary]
  exact (later_run p (w.watch limit).free).clock

section Cancelled

variable (hcancelled : w.isCancelled = true)

include hcancelled

theorem bounded_of_cancelled :
    bounded limit p w = conclude limit (.error .cancelled, w.watch limit) := by
  have hwatched : (w.watch limit).isCancelled = true := hcancelled
  unfold bounded
  dsimp only
  rw [if_pos hwatched]

theorem boundedSteps_of_cancelled : boundedSteps limit p w = [] :=
  if_pos hcancelled

end Cancelled

section Begun

variable (hbegun : w.isCancelled = false)

include hbegun

theorem bounded_of_begun : bounded limit p w = conclude limit ((w.watch limit).run p) := by
  have hwatched : (w.watch limit).isCancelled = false := hbegun
  unfold bounded
  dsimp only
  rw [if_neg (Bool.eq_false_iff.mp hwatched)]

theorem boundedSteps_of_begun : boundedSteps limit p w = steps p (w.watch limit) :=
  if_neg (Bool.eq_false_iff.mp hbegun)

theorem inTime_watch : (w.watch limit).InTime (w.watch limit).now :=
  ⟨Nat.le_add_right _ _, isCancelled_eq_false_iff.mp hbegun⟩

theorem boundedSteps_eq_filter : boundedSteps limit p w =
    (solitarySteps limit p w).filter fun step => (w.watch limit).InTime step.1 := by
  rw [boundedSteps_of_begun hbegun]
  exact steps_race rfl (inTime_watch hbegun)

/-- A run that is stopped ends at its limitation, in the stage that it had then entered. -/
theorem run_of_late (hlate : ¬(w.watch limit).InTime (solitary limit p w).2.now) :
    exists v, (w.watch limit).run p = (.error (w.watch limit).limitation.2, v) ∧
      v.now = (w.watch limit).limitation.1 ∧
      v.stage = stageAfter .idle (boundedSteps limit p w) ∧ v.cancelAt = w.cancelAt := by
  have hstart : (w.watch limit).InTime (w.watch limit).now := inTime_watch hbegun
  have hrace := race_run p rfl hstart
  have hstage : ((w.watch limit).run p).2.stage = stageAfter .idle (boundedSteps limit p w) := by
    rw [boundedSteps_of_begun hbegun]
    exact stage_run rfl hstart
  have hlater := later_run p (w.watch limit)
  rw [now_solitary] at hlate
  generalize (w.watch limit).free.run p = freed at hrace hlate
  generalize (w.watch limit).run p = ended at hrace hstage hlater ⊢
  cases hrace with
  | inTime hin => exact absurd hin hlate
  | late _ hstopped => exact ⟨_, rfl, hstopped, hstage, hlater.cancelAt⟩

end Begun

/-!
# The three endings
-/

/-- A run that ends in time ends as it does by itself. -/
theorem bounded_eq_solitary (hdeadline : (solitary limit p w).2.now ≤ w.now + limit)
    (hcancel : ∀ s, w.cancelAt = some s → (solitary limit p w).2.now < s) :
    (bounded limit p w).1 = (solitary limit p w).1 ∧
      (bounded limit p w).2.free = (solitary limit p w).2 ∧
      boundedSteps limit p w = solitarySteps limit p w := by
  have hbegun : w.isCancelled = false := by
    apply isCancelled_eq_false_iff.mpr
    intro s hs
    exact Nat.lt_of_le_of_lt now_le_now_solitary (hcancel s hs)
  have hin : (w.watch limit).InTime (solitary limit p w).2.now := ⟨hdeadline, hcancel⟩
  have hended : bounded limit p w = conclude limit ((w.watch limit).run p) :=
    bounded_of_begun hbegun
  have hstart : (w.watch limit).InTime (w.watch limit).now := inTime_watch hbegun
  have hrace := race_run p rfl hstart
  have hkept : ∀ step ∈ solitarySteps limit p w, decide ((w.watch limit).InTime step.1) = true := by
    intro step hstep
    apply decide_eq_true
    apply hin.of_le
    rw [now_solitary]
    exact (bounds_of_mem_steps hstep).2
  rw [boundedSteps_eq_filter hbegun, List.filter_eq_self.mpr hkept, hended, solitary_eq]
  rw [now_solitary] at hin
  generalize (w.watch limit).free.run p = freed at hrace hin ⊢
  generalize (w.watch limit).run p = ended at hrace ⊢
  cases hrace with
  | inTime _ =>
      rw [conclude_free]
      exact ⟨rfl, rfl, rfl⟩
  | late hlate _ => exact absurd hin hlate

/-- A run that lasts past its deadline ends there. -/
theorem bounded_overdue (hdeadline : w.now + limit < (solitary limit p w).2.now)
    (hcancel : ∀ s, w.cancelAt = some s → w.now + limit < s) :
    boundedSteps limit p w =
        ((solitarySteps limit p w).filter fun step => step.1 ≤ w.now + limit) ∧
      (bounded limit p w).1 =
        .error (.timeout (stageAfter .idle (boundedSteps limit p w)) limit) ∧
      (bounded limit p w).2.now = w.now + limit ∧
      (bounded limit p w).2.contextCancelled = true ∧
      (bounded limit p w).2.cancelAt = w.cancelAt := by
  have hbegun : w.isCancelled = false := by
    apply isCancelled_eq_false_iff.mpr
    intro s hs
    exact Nat.lt_of_le_of_lt (Nat.le_add_right _ _) (hcancel s hs)
  have hlate : ¬(w.watch limit).InTime (solitary limit p w).2.now :=
    fun hin => Nat.not_le_of_lt hdeadline hin.1
  have hlimitation : (w.watch limit).limitation = (w.now + limit, .overdue) :=
    limitation_of_lt hcancel
  have hintime : ∀ t : Time, (w.watch limit).InTime t ↔ t ≤ w.now + limit :=
    fun t => ⟨fun hin => hin.1, fun hle => ⟨hle, fun s hs => Nat.lt_of_le_of_lt hle (hcancel s hs)⟩⟩
  rcases run_of_late hbegun hlate with ⟨v, hrun, hnow, hstage, hcancelAt⟩
  rw [hlimitation] at hrun hnow
  rw [bounded_of_begun hbegun, hrun]
  refine ⟨?_, ?_, hnow, rfl, hcancelAt⟩
  · rw [boundedSteps_eq_filter hbegun]
    simp only [hintime]
  · rw [← hstage]
    rfl

/-- A run that lasts until the shutdown ends with it. -/
theorem bounded_interrupted {s : Time} (hs : w.cancelAt = some s) (hdeadline : s ≤ w.now + limit)
    (hreached : s ≤ (solitary limit p w).2.now) :
    boundedSteps limit p w = ((solitarySteps limit p w).filter fun step => step.1 < s) ∧
      (bounded limit p w).1 = .error (.cancelled (stageAfter .idle (boundedSteps limit p w))) ∧
      (bounded limit p w).2.now = max w.now s ∧ (bounded limit p w).2.cancelAt = w.cancelAt := by
  by_cases hpast : s ≤ w.now
  · have hcancelled : w.isCancelled = true := isCancelled_iff.mpr ⟨s, hs, hpast⟩
    rw [boundedSteps_of_cancelled hcancelled, bounded_of_cancelled hcancelled,
      Nat.max_eq_left hpast]
    refine ⟨?_, rfl, rfl, rfl⟩
    apply (List.filter_eq_nil_iff.mpr _).symm
    intro step hstep hin
    have hbegin : w.now ≤ step.1 := (bounds_of_mem_steps hstep).1
    exact Nat.not_lt_of_le (Nat.le_trans hpast hbegin) (of_decide_eq_true hin)
  · have hbegun : w.isCancelled = false := by
      apply isCancelled_eq_false_iff.mpr
      intro t ht
      rw [hs] at ht
      cases ht
      exact Nat.lt_of_not_le hpast
    have hlate : ¬(w.watch limit).InTime (solitary limit p w).2.now :=
      fun hin => Nat.not_lt_of_le hreached (hin.2 s hs)
    have hlimitation : (w.watch limit).limitation = (s, .cancelled) :=
      limitation_of_le hs hdeadline
    have hintime : ∀ t : Time, (w.watch limit).InTime t ↔ t < s := by
      intro t
      constructor
      · exact fun hin => hin.2 s hs
      · intro hlt
        refine ⟨Nat.le_trans (Nat.le_of_lt hlt) hdeadline, fun c hc => ?_⟩
        rw [show (w.watch limit).cancelAt = some s from hs] at hc
        cases hc
        exact hlt
    rcases run_of_late hbegun hlate with ⟨v, hrun, hnow, hstage, hcancelAt⟩
    rw [hlimitation] at hrun hnow
    rw [bounded_of_begun hbegun, hrun]
    refine ⟨?_, ?_, ?_, hcancelAt⟩
    · rw [boundedSteps_eq_filter hbegun]
      simp only [hintime]
    · rw [← hstage]
      rfl
    · rw [Nat.max_eq_right (Nat.le_of_not_le hpast)]
      exact hnow

/-- What a program would go on to do after it was stopped does not count: it may as well go on
forever. -/
theorem bounded_bind_of_late (k : α → Program β)
    (hlate : ¬(w.watch limit).InTime (solitary limit p w).2.now) :
    exists f, (bounded limit p w).1 = .error f ∧
      bounded limit (p >>= k) w = (.error f, (bounded limit p w).2) ∧
      boundedSteps limit (p >>= k) w = boundedSteps limit p w := by
  have hconclude : ∀ (stop : Stop) (v : World), exists f,
      (conclude limit (Except.error (α := α) stop, v)).1 = .error f ∧
      conclude limit (Except.error (α := β) stop, v) =
        (.error f, (conclude limit (Except.error (α := α) stop, v)).2) := by
    intro stop v
    cases stop with
    | failed f => exact ⟨f, rfl, rfl⟩
    | cancelled => exact ⟨_, rfl, rfl⟩
    | overdue => exact ⟨_, rfl, rfl⟩
  -- what is stopped here has either not begun or was under way
  cases hbegun : w.isCancelled with
  | true =>
      rcases hconclude .cancelled (w.watch limit) with ⟨f, hf, heq⟩
      rw [bounded_of_cancelled hbegun, bounded_of_cancelled hbegun,
        boundedSteps_of_cancelled hbegun, boundedSteps_of_cancelled hbegun]
      exact ⟨f, hf, heq, rfl⟩
  | false =>
      rcases run_of_late hbegun hlate with ⟨v, hrun, _⟩
      rcases hconclude (w.watch limit).limitation.2 v with ⟨f, hf, heq⟩
      have hbind : (w.watch limit).run (p >>= k) = (.error (w.watch limit).limitation.2, v) := by
        rw [run_bind, hrun]
      rw [bounded_of_begun hbegun, bounded_of_begun hbegun, hbind, hrun,
        boundedSteps_of_begun hbegun, boundedSteps_of_begun hbegun, steps_bind_of_error hrun]
      exact ⟨f, hf, heq, rfl⟩

theorem cancelAt_bounded (limit : Time) (p : Program α) (w : World) :
    (bounded limit p w).2.cancelAt = w.cancelAt := by
  unfold bounded
  dsimp only
  split
  · rfl
  · exact (onward_conclude limit _ _).cancelAt.trans (later_run p (w.watch limit)).cancelAt

/-- A watched run ends in the first of three endings.  If it ends in time by itself, this is
how it ends, with the same result, at the same time and with the same effects.  If it lasts
past its deadline, it ends there in a timeout that names the limit and the stage last entered
by then, and with no step after that; the context of the run is then cancelled, and nobody is
told of a shutdown.  If the shutdown comes first, the run ends there, at once if it had already
come, in a cancellation that names the stage last entered before; and of a run that comes after
the shutdown no step is made.  The watchdog never moves the shutdown.  And a program that is
stopped may go on in any way after that, or forever: the ending is the same. -/
theorem bounded_takes_first_ending (limit : Time) (p : Program α) (w : World) :
    ((solitary limit p w).2.now ≤ w.now + limit →
      (∀ s, w.cancelAt = some s → (solitary limit p w).2.now < s) →
        (bounded limit p w).1 = (solitary limit p w).1 ∧
        (bounded limit p w).2.free = (solitary limit p w).2 ∧
        boundedSteps limit p w = solitarySteps limit p w) ∧
    (w.now + limit < (solitary limit p w).2.now →
      (∀ s, w.cancelAt = some s → w.now + limit < s) →
        (bounded limit p w).1 = .error (.timeout (stageAfter .idle
          ((solitarySteps limit p w).filter fun step => step.1 ≤ w.now + limit)) limit) ∧
        (bounded limit p w).2.now = w.now + limit ∧
        boundedSteps limit p w =
          ((solitarySteps limit p w).filter fun step => step.1 ≤ w.now + limit) ∧
        (bounded limit p w).2.contextCancelled = true ∧
        (bounded limit p w).2.isCancelled = false) ∧
    (∀ s, w.cancelAt = some s → s ≤ w.now + limit → s ≤ (solitary limit p w).2.now →
        (bounded limit p w).1 = .error (.cancelled (stageAfter .idle
          ((solitarySteps limit p w).filter fun step => step.1 < s))) ∧
        (bounded limit p w).2.now = max w.now s ∧
        boundedSteps limit p w = ((solitarySteps limit p w).filter fun step => step.1 < s) ∧
        (s ≤ w.now → boundedSteps limit p w = [])) ∧
    (bounded limit p w).2.cancelAt = w.cancelAt ∧
    ((w.now + limit < (solitary limit p w).2.now ∨
        exists s, w.cancelAt = some s ∧ s ≤ (solitary limit p w).2.now) →
      ∀ (β : Type) (k : α → Program β), exists f, (bounded limit p w).1 = .error f ∧
        bounded limit (p >>= k) w = (.error f, (bounded limit p w).2) ∧
        boundedSteps limit (p >>= k) w = boundedSteps limit p w) := by
  refine ⟨bounded_eq_solitary, ?_, ?_, cancelAt_bounded limit p w, ?_⟩
  · intro hdeadline hcancel
    rcases bounded_overdue hdeadline hcancel with ⟨hsteps, hresult, hnow, hcontext, hkept⟩
    refine ⟨?_, hnow, hsteps, hcontext, ?_⟩
    · rw [hresult, hsteps]
    · apply isCancelled_eq_false_iff.mpr
      rw [hnow, hkept]
      exact hcancel
  · intro s hs hdeadline hreached
    rcases bounded_interrupted hs hdeadline hreached with ⟨hsteps, hresult, hnow, _⟩
    refine ⟨?_, hnow, hsteps, ?_⟩
    · rw [hresult, hsteps]
    · intro hpast
      exact boundedSteps_of_cancelled (isCancelled_iff.mpr ⟨s, hs, hpast⟩)
  · intro hlate β k
    refine bounded_bind_of_late k fun hin => ?_
    rcases hlate with hover | ⟨s, hs, hle⟩
    · exact Nat.not_le_of_lt hover hin.1
    · exact Nat.not_lt_of_le hle (hin.2 s hs)

/-- A program that enters two stages, with a wait of four milliseconds before the second, and
ends a millisecond later. -/
def twoStages : Program Unit := do
  Program.enter .snapshotting
  Program.request (.pause 4 .snapshotting)
  Program.enter .diffing
  Program.request (.pause 1 .diffing)

theorem endings_of_twoStages :
    (bounded 9 twoStages {}).1 = .ok () ∧
    (bounded 2 twoStages {}).1 = .error (.timeout .snapshotting 2) ∧
    (bounded 9 twoStages { cancelAt := some 3 }).1 = .error (.cancelled .snapshotting) ∧
    boundedSteps 9 twoStages { cancelAt := some 0 } = [] := by
  refine ⟨?_, ?_, ?_, ?_⟩
  · exact ((bounded_takes_first_ending 9 twoStages {}).1 (by decide) nofun).1
  · exact ((bounded_takes_first_ending 2 twoStages {}).2.1 (by decide) nofun).1
  · exact ((bounded_takes_first_ending 9 twoStages { cancelAt := some 3 }).2.2.1 3 rfl
      (by decide) (by decide)).1
  · exact ((bounded_takes_first_ending 9 twoStages { cancelAt := some 0 }).2.2.1 0 rfl
      (by decide) (by decide)).2.2.2 (Nat.le_refl 0)

/-- A stage that is entered at the very instant of the deadline is the one that a timeout names,
and not the stage that was entered last before it. -/
theorem timeout_names_stage_of_its_instant :
    ¬∀ (limit : Time) (p : Program Unit) (w : World), 0 < limit →
      w.now + limit < (solitary limit p w).2.now →
      (∀ s, w.cancelAt = some s → w.now + limit < s) →
      (bounded limit p w).1 = .error (.timeout (stageAfter .idle
        ((solitarySteps limit p w).filter fun step => step.1 < w.now + limit)) limit) := by
  intro h
  have hbefore : (bounded 4 twoStages {}).1 = .error (.timeout .snapshotting 4) :=
    h 4 twoStages {} (by decide) (by decide) nofun
  have hinstant : (bounded 4 twoStages {}).1 = .error (.timeout .diffing 4) := rfl
  rw [hinstant] at hbefore
  cases hbefore

end World
end RouteAudit
