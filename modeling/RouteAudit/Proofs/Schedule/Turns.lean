import RouteAudit.Proofs.World.Race
import RouteAudit.Schedule

/-!
# Turns of a schedule

How a check behaves by itself settles its turn: the turn ends when the check ends or at the
time limit, whatever is first, unless the shutdown comes before or at that moment.  A turn
that ends with a report writes it, and every other turn writes nothing.
-/

namespace RouteAudit

namespace Report

variable {r : Report}

/-- Whether a check passed; without a report it did not. -/
def verdict : Attempt Report → Bool
  | .ok r => r.passed
  | .error _ => false

/-- A report that shows no mismatch of any namespace. -/
def IsClear (r : Report) : Prop :=
  ∀ entry ∈ r.items, entry.2.missedRoutes = [] ∧ entry.2.missedInterfaces = [] ∧
    entry.2.unaccounted = [] ∧ entry.2.missedDaemonRoutes = []

theorem passed_iff_isClear : r.passed = true ↔ r.IsClear := by
  unfold passed IsClear
  rw [List.all_eq_true]
  simp only [Outcome.passed_iff_nil]

instance : Decidable r.IsClear :=
  decidable_of_iff _ passed_iff_isClear

/-- What is written of a check: the document of a report with mismatches and the end of its line,
or a line that says that there are none, unless only errors are shown.  Without a report nothing
is written. -/
def printed (mode : Mode) : Attempt Report → String
  | .ok r =>
      if r.IsClear then
        if mode = .errors then "" else "All good!\n"
      else
        r.toJson.pretty ++ "\n"
  | .error _ => ""

theorem getD_written (mode : Mode) (r : Report) :
    (r.written mode).getD "" = printed mode (.ok r) := by
  unfold written printed
  simp only [← passed_iff_isClear]
  split
  · split
    · rfl
    · rfl
  · rfl

end Report

/-- What a check does if nothing stops it: it ends after some time with a report or a failure,
or it lasts for longer than its limit. -/
inductive Behaviour where
  | ends (delay : Time) (result : Attempt Report)
  | lasts

namespace Behaviour

/-- The behaviour of a check that starts in a world. -/
def of (limit : Time) (p : Program Report) (w : World) : Behaviour :=
  let (result, v) := World.unbounded limit p { w with cancelAt := none }
  if v.now ≤ w.now + limit then .ends (v.now - w.now) result else .lasts

/-- How long a turn takes that ends by itself. -/
def length (limit : Time) : Behaviour → Time
  | .ends delay _ => delay
  | .lasts => limit

def passed : Behaviour → Bool
  | .ends _ result => Report.verdict result
  | .lasts => false

/-- What is written of a turn that ends by itself. -/
def printed (mode : Mode) : Behaviour → String
  | .ends _ result => Report.printed mode result
  | .lasts => ""

/-- A check that behaves in a given way. -/
def program (limit : Time) : Behaviour → Program Report
  | .ends delay (.ok r) => .ask (.pause delay .idle) fun _ => .done r
  | .ends delay (.error f) => .ask (.pause delay .idle) fun _ => .fail f
  | .lasts => .ask (.pause (limit + 1) .idle) fun _ => .done .empty

end Behaviour

namespace World

variable {limit : Time} {p : Program Report} {w : World}

/-!
# Watched checks
-/

/-- How a watched check ends: by itself, at its time limit or with the shutdown. -/
inductive Bounded (limit : Time) (p : Program Report) (w : World) :
    Attempt Report → Time → Prop where
  | ended {result : Attempt Report} {delay : Time}
      (hbehaviour : Behaviour.of limit p w = .ends delay result)
      (hin : ∀ s, w.cancelAt = some s → w.now + delay < s) :
      Bounded limit p w result (w.now + delay)
  | overdue {f : Failure} (hbehaviour : Behaviour.of limit p w = .lasts)
      (hin : ∀ s, w.cancelAt = some s → w.now + limit < s) :
      Bounded limit p w (.error f) (w.now + limit)
  | interrupted {f : Failure} {s : Time} (hcancel : w.cancelAt = some s)
      (hearly : s ≤ w.now + (Behaviour.of limit p w).length limit) :
      Bounded limit p w (.error f) (max w.now s)

/-- The behaviour of a check is told by its free run. -/
theorem behaviour_of_run {result : Except Stop Report} {v : World}
    (h : (w.watch limit).free.run p = (result, v)) :
    Behaviour.of limit p w = if v.now ≤ w.now + limit then
      .ends (v.now - w.now) (conclude limit (result, v)).1 else .lasts := by
  have hrun : unbounded limit p { w with cancelAt := none } = conclude limit (result, v) :=
    congrArg (conclude limit) h
  unfold Behaviour.of
  rw [hrun]
  show (if (conclude limit (result, v)).2.now ≤ w.now + limit then
    Behaviour.ends ((conclude limit (result, v)).2.now - w.now) (conclude limit (result, v)).1
      else .lasts) = _
  rw [now_conclude]

/-- Every behaviour is that of some check, in every world. -/
theorem behaviour_program {b : Behaviour} (hlimit : b.length limit ≤ limit) (w : World) :
    Behaviour.of limit (b.program limit) w = b := by
  have hpause : ∀ duration : Time, exists v,
      (w.watch limit).free.answer (.pause duration .idle) = (.ok (), v) ∧
        v.now = w.now + duration := by
    intro duration
    show exists v, (w.watch limit).free.waitUntil (w.now + duration) = (.ok (), v) ∧
      v.now = w.now + duration
    unfold waitUntil
    split
    · rename_i hnone
      exact ⟨_, rfl, Nat.le_antisymm (Nat.le_add_right _ _) hnone⟩
    · exact ⟨_, rfl, (now_advance _ _).trans (Nat.max_eq_right (Nat.le_add_right _ _))⟩
  cases b with
  | ends delay result =>
      rcases hpause delay with ⟨v, hanswer, hnow⟩
      have hin : v.now ≤ w.now + limit := by
        rw [hnow]
        exact Nat.add_le_add_left hlimit w.now
      cases result with
      | ok r =>
          have hrun : (w.watch limit).free.run (Behaviour.program limit (.ends delay (.ok r))) =
            (.ok r, v) := run_ask_ok hanswer
          rw [behaviour_of_run hrun, if_pos hin, hnow, Nat.add_sub_cancel_left]
          rfl
      | error f =>
          have hrun : (w.watch limit).free.run (Behaviour.program limit (.ends delay (.error f))) =
            (.error (.failed f), v) := run_ask_ok hanswer
          rw [behaviour_of_run hrun, if_pos hin, hnow, Nat.add_sub_cancel_left]
          rfl
  | lasts =>
      rcases hpause (limit + 1) with ⟨v, hanswer, hnow⟩
      have hover : ¬v.now ≤ w.now + limit := by
        rw [hnow]
        exact Nat.not_succ_le_self _
      have hrun : (w.watch limit).free.run (Behaviour.program limit .lasts) =
        (.ok .empty, v) := run_ask_ok hanswer
      rw [behaviour_of_run hrun, if_neg hover]

theorem length_behaviour_le (limit : Time) (p : Program Report) (w : World) :
    (Behaviour.of limit p w).length limit ≤ limit := by
  cases hrun : (w.watch limit).free.run p with
  | mk result v =>
      rw [behaviour_of_run hrun]
      split
      · rename_i hin
        exact Nat.sub_le_iff_le_add'.mpr hin
      · exact Nat.le_refl limit

/-- A run that is stopped is stopped by the shutdown if that comes before the end, and at the
time limit otherwise. -/
theorem bounded_of_late {result : Except Stop Report} {u v : World}
    (hrun : (w.watch limit).free.run p = (result, v)) (hclock : w.now ≤ v.now)
    (hfuture : ∀ s, w.cancelAt = some s → w.now < s) (hlate : ¬(w.watch limit).InTime v.now)
    (hstopped : u.now = (w.watch limit).limitation.1) {f : Failure} :
    Bounded limit p w (.error f) u.now := by
  have hbehaviour := behaviour_of_run hrun
  -- the free run may outlast the limit, so the shutdown is compared with the shorter of the two
  by_cases hearly : exists s, w.cancelAt = some s ∧
      s ≤ w.now + (Behaviour.of limit p w).length limit
  · rcases hearly with ⟨s, hs, hle⟩
    have hdeadline : s ≤ w.now + limit :=
      Nat.le_trans hle (Nat.add_le_add_left (length_behaviour_le limit p w) w.now)
    have hmax : max w.now s = s := Nat.max_eq_right (Nat.le_of_lt (hfuture s hs))
    rw [hstopped, limitation_of_le (w := w.watch limit) hs hdeadline]
    show Bounded limit p w (.error f) s
    rw [← hmax]
    exact .interrupted hs hle
  · have hin : ∀ s, w.cancelAt = some s → w.now + (Behaviour.of limit p w).length limit < s :=
      fun s hs => Nat.lt_of_not_le fun hle => hearly ⟨s, hs, hle⟩
    have hover : ¬v.now ≤ w.now + limit := by
      intro hle
      rw [hbehaviour, if_pos hle] at hin
      refine hlate ⟨hle, ?_⟩
      intro s hs
      rw [← Nat.add_sub_of_le hclock]
      exact hin s hs
    rw [if_neg hover] at hbehaviour
    rw [hbehaviour] at hin
    rw [hstopped, limitation_of_lt (w := w.watch limit) hin]
    exact .overdue hbehaviour hin

theorem bounded_of_race {ended freed : Except Stop Report × World}
    (hfree : (w.watch limit).free.run p = freed) (hclock : w.now ≤ freed.2.now)
    (hfuture : ∀ s, w.cancelAt = some s → w.now < s) (hrace : Race (w.watch limit) ended freed) :
    Bounded limit p w (conclude limit ended).1 (conclude limit ended).2.now := by
  cases hrace with
  | @inTime result v hin =>
      have hbehaviour := behaviour_of_run hfree
      have hle : v.free.now ≤ w.now + limit := hin.1
      rw [if_pos hle, conclude_free] at hbehaviour
      dsimp only at hbehaviour
      have hdelay : w.now + (v.free.now - w.now) = v.now := Nat.add_sub_of_le hclock
      rw [now_conclude, ← hdelay]
      refine .ended hbehaviour ?_
      rw [hdelay]
      exact hin.2
  | @late result u v hlate hstopped =>
      rcases exists_failure_conclude (α := Report) limit (w.watch limit).limitation.2 u with
        ⟨f, hf⟩
      rw [hf, now_conclude]
      exact bounded_of_late hfree hclock hfuture hlate hstopped

theorem bounded_cases (limit : Time) (p : Program Report) (w : World) :
    Bounded limit p w (bounded limit p w).1 (bounded limit p w).2.now := by
  unfold bounded
  dsimp only
  split
  · rename_i hcancelled
    rcases isCancelled_iff.mp hcancelled with ⟨s, hs, hle⟩
    have hmax : max w.now s = w.now := Nat.max_eq_left hle
    show Bounded limit p w (.error (.cancelled .idle)) w.now
    rw [← hmax]
    exact .interrupted hs (Nat.le_trans hle (Nat.le_add_right _ _))
  · rename_i hfree
    have hfuture : ∀ s, w.cancelAt = some s → w.now < s :=
      isCancelled_eq_false_iff.mp (Bool.eq_false_iff.mpr hfree)
    have hstart : (w.watch limit).InTime (w.watch limit).now :=
      ⟨Nat.le_add_right _ _, hfuture⟩
    exact bounded_of_race rfl (later_run p (w.watch limit).free).clock hfuture
      (race_run p rfl hstart)

theorem later_bounded {α : Type} (limit : Time) (p : Program α) (w : World) :
    w.now ≤ (bounded limit p w).2.now ∧ (bounded limit p w).2.cancelAt = w.cancelAt ∧
      (bounded limit p w).2.output = w.output := by
  have hlater : Later (w.watch limit) (bounded limit p w).2 := by
    unfold bounded
    dsimp only
    split
    · exact (onward_conclude limit _ _).later
    · exact (later_run p (w.watch limit)).trans (onward_conclude limit _ _).later
  exact ⟨hlater.clock, hlater.cancelAt, hlater.output⟩

end World

/-!
# Turns
-/

namespace Schedule

theorem exists_noteAll (events : List LogEvent) (w : World) :
    exists logged, noteAll events w = { w with logged := logged } := by
  unfold noteAll
  induction events.map inSpan generalizing w with
  | nil => exact ⟨w.logged, rfl⟩
  | cons event rest ih => exact ih (w.note event)

/-- A turn is a watched check, whose report is written. -/
theorem exists_runOnce (s : Schedule) (p : Program Report) (w : World) :
    exists logged, s.runOnce p w =
      (Report.verdict (World.bounded s.limit p { w with logged := [] }).1,
        { (World.bounded s.limit p { w with logged := [] }).2 with
          logged := logged
          output := (World.bounded s.limit p { w with logged := [] }).2.output ++
            Report.printed s.mode (World.bounded s.limit p { w with logged := [] }).1 }) := by
  unfold runOnce
  cases World.bounded s.limit p { w with logged := [] } with
  | mk result after =>
      cases result with
      | ok r =>
          rcases exists_noteAll (r.events s.mode none) (joinLog w after) with ⟨logged, heq⟩
          refine ⟨logged, ?_⟩
          dsimp only
          unfold report
          rw [heq, Report.getD_written]
          rfl
      | error f =>
          rcases exists_noteAll [f.event] (joinLog w after) with ⟨logged, heq⟩
          refine ⟨logged, ?_⟩
          dsimp only
          rw [heq]
          unfold Report.printed
          rw [String.append_empty]
          rfl

end Schedule

/-- A check and the world in which its turn starts. -/
structure Turn where
  check : Program Report
  before : World

namespace Turn

variable (s : Schedule) (t : Turn)

def behaviour : Behaviour := .of s.limit t.check { t.before with logged := [] }

/-- When the turn ends if it ends by itself. -/
def finish : Time := t.before.now + (t.behaviour s).length s.limit

def passed : Bool := (s.runOnce t.check t.before).1

def after : World := (s.runOnce t.check t.before).2

/-- How a turn ends, and with what. -/
inductive Ends : Prop where
  | byItself (hin : ∀ shutdown, t.before.cancelAt = some shutdown → t.finish s < shutdown)
      (hnow : (t.after s).now = t.finish s) (hpassed : t.passed s = (t.behaviour s).passed)
      (houtput : (t.after s).output = t.before.output ++ (t.behaviour s).printed s.mode)
  | byShutdown (shutdown : Time) (hcancel : t.before.cancelAt = some shutdown)
      (hearly : shutdown ≤ t.finish s) (hnow : (t.after s).now = max t.before.now shutdown)
      (hpassed : t.passed s = false) (houtput : (t.after s).output = t.before.output)

theorem ends : t.Ends s := by
  have hcases := World.bounded_cases s.limit t.check { t.before with logged := [] }
  rcases World.later_bounded s.limit t.check { t.before with logged := [] } with ⟨_, _, hkept⟩
  rcases s.exists_runOnce t.check t.before with ⟨logged, heq⟩
  have hpassed : t.passed s = _ := congrArg Prod.fst heq
  have hnow : (t.after s).now = _ := congrArg (fun ended => ended.2.now) heq
  have houtput : (t.after s).output = _ := congrArg (fun ended => ended.2.output) heq
  dsimp only at hpassed hnow houtput
  rw [hkept] at houtput
  generalize (World.bounded s.limit t.check { t.before with logged := [] }).1 = result
    at hcases hpassed houtput
  generalize (World.bounded s.limit t.check { t.before with logged := [] }).2.now = finish
    at hcases hnow
  cases hcases with
  | @ended _ delay hbehaviour hin =>
      have hown : t.behaviour s = .ends delay result := hbehaviour
      have hfinish : t.finish s = t.before.now + delay := by
        unfold finish
        rw [hown]
        rfl
      refine .byItself ?_ (hnow.trans hfinish.symm) ?_ ?_
      · rw [hfinish]
        exact hin
      · rw [hown]
        exact hpassed
      · rw [hown]
        exact houtput
  | overdue hbehaviour hin =>
      have hown : t.behaviour s = .lasts := hbehaviour
      have hfinish : t.finish s = t.before.now + s.limit := by
        unfold finish
        rw [hown]
        rfl
      refine .byItself ?_ (hnow.trans hfinish.symm) ?_ ?_
      · rw [hfinish]
        exact hin
      · rw [hown]
        exact hpassed
      · rw [hown]
        exact houtput
  | @interrupted _ shutdown hcancel hearly =>
      exact .byShutdown shutdown hcancel hearly hnow hpassed (houtput.trans String.append_empty)

theorem cancelAt_after : (t.after s).cancelAt = t.before.cancelAt := by
  rcases World.later_bounded s.limit t.check { t.before with logged := [] } with ⟨_, hkept, _⟩
  rcases s.exists_runOnce t.check t.before with ⟨logged, heq⟩
  exact (congrArg (fun ended => ended.2.cancelAt) heq).trans hkept

theorem now_le_after : t.before.now ≤ (t.after s).now := by
  cases t.ends s with
  | byItself _ hnow _ _ =>
      rw [hnow]
      exact Nat.le_add_right _ _
  | byShutdown shutdown _ _ hnow _ _ =>
      rw [hnow]
      exact Nat.le_max_left _ _

end Turn
end RouteAudit
