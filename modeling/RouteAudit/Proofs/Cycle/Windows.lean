import RouteAudit.Proofs.Cycle.Requests
import RouteAudit.Proofs.World.Endings
import RouteAudit.Proofs.World.Points

/-!
# The windows of a check

Before a check drains a feed it asks how much time is left, and its window is no longer than
that, however long the window of the settings may be.  As nothing comes between the question
and the drain, no window reaches beyond the deadline.
-/

namespace RouteAudit

open Program

/-- Whether a request collects changes. -/
def Request.IsDrain : Request → Prop
  | .drain _ _ => True
  | _ => False

namespace World

variable {α σ : Type} {w v : World} {p : Program α} {deadline limit : Time}

/-!
# What is served on the way
-/

/-- Each step of a run is one that the surroundings serve which the run follows. -/
theorem Follows.served_of_mem_steps {E : Surroundings σ} {R : σ → World → Prop} {s : σ}
    {Q : α → σ → Prop} (hfollows : Follows E R) (h : Ensures E p s Q) (hw : R s w)
    {step : Time × Request} (hstep : step ∈ steps p w) (hquestion : IsQuestion step.2) :
    exists t v, R t v ∧ v.now = step.1 ∧ E.serves t step.2 := by
  induction p generalizing s w with
  | done a => cases hstep
  | fail f => cases hstep
  | ask q next ih =>
      rcases hanswer : w.answer q with ⟨stop | x, v⟩
      · rw [steps_ask_error hanswer] at hstep
        obtain rfl := List.mem_singleton.mp hstep
        exact ⟨s, w, hw, rfl, ((ensures_ask hquestion).mp h).1⟩
      · rw [steps_ask_ok hanswer] at hstep
        rcases log_or_question q with ⟨event, rfl⟩ | hq
        · cases hanswer
          cases List.mem_cons.mp hstep with
          | inl heq =>
              rw [heq] at hquestion
              exact absurd hquestion id
          | inr hmem => exact ih () h (hfollows.note event hw) hmem
        · rcases (ensures_ask hq).mp h with ⟨hserves, hnext⟩
          cases List.mem_cons.mp hstep with
          | inl heq =>
              rw [heq]
              exact ⟨s, w, hw, rfl, hserves⟩
          | inr hmem =>
              rcases hfollows.sound hq hw hserves hanswer with ⟨t, hx, ht⟩
              exact ih x (hnext x t hx) ht hmem

/-!
# The time that is left
-/

def servesWithinLeft : Option Time → Request → Prop
  | left, .drain _ window => exists x, left = some x ∧ window ≤ x
  | _, _ => True

def answersWithLeft : (q : Request) → q.Answer → Option Time → Prop
  | .remaining, x, later => later = some x
  | _, _, later => later = none

/-- Surroundings that remember how much time was left, as long as nothing else is asked, and
serve a drain only if its window is no longer. -/
def rememberingLeft : Surroundings (Option Time) :=
  ⟨servesWithinLeft, fun _ => answersWithLeft⟩

theorem servesWithinLeft_of_not_isDrain {left : Option Time} {q : Request} (h : ¬q.IsDrain) :
    servesWithinLeft left q := by
  cases q with
  | drain site window => exact absurd trivial h
  | _ => exact trivial

/-- A world with a deadline, in which so much time is left as was remembered. -/
structure HasLeft (deadline : Time) (left : Option Time) (w : World) : Prop where
  ends : w.deadline = deadline
  known : ∀ x, left = some x → x = deadline - w.now

theorem follows_rememberingLeft (deadline : Time) :
    Follows rememberingLeft (HasLeft deadline) where
  note event h := ⟨h.ends, h.known⟩
  sound := by
    intro left w q x v _ h _ hanswer
    have hlater := later_answer q w
    rw [hanswer] at hlater
    have hdeadline : v.deadline = deadline := hlater.deadline.trans h.ends
    cases q with
    | remaining =>
        cases hanswer
        refine ⟨some w.remaining, rfl, hdeadline, ?_⟩
        rintro x ⟨rfl⟩
        rw [remaining, h.ends]
    | _ => exact ⟨none, rfl, hdeadline, nofun⟩

/-- The windows of a watched run open after its start and close by its deadline. -/
theorem window_closes_by_deadline {Q : α → Option Time → Prop}
    (hp : Ensures rememberingLeft p none Q) {t window : Time} {site : String}
    (hstep : (t, .drain site window) ∈ boundedSteps limit p w) :
    w.now ≤ t ∧ t + window ≤ w.now + limit := by
  have hbegun : w.isCancelled = false := by
    by_contra hcancelled
    rw [boundedSteps_of_cancelled (Bool.eq_true_of_not_eq_false hcancelled)] at hstep
    cases hstep
  have hin : t ≤ w.now + limit := by
    rw [boundedSteps_eq_filter hbegun] at hstep
    exact (of_decide_eq_true (List.mem_filter.mp hstep).2).1
  rw [boundedSteps_of_begun hbegun] at hstep
  have hstart : HasLeft (w.now + limit) none (w.watch limit) := ⟨rfl, nofun⟩
  rcases (follows_rememberingLeft _).served_of_mem_steps hp hstart hstep trivial with
    ⟨left, v, hv, hnow, x, hleft, hwindow⟩
  have hx : x = w.now + limit - t := by
    rw [hv.known x hleft, hnow]
  rw [hx] at hwindow
  exact ⟨(bounds_of_mem_steps hstep).1, (Nat.le_sub_iff_add_le' hin).mp hwindow⟩

end World

/-!
# Checks
-/

namespace Check

open World

variable {c : Check} {left : Option Time}

theorem allowsReading_noDrain (site : String) :
    AllowsReading (fun q => ¬q.IsDrain) (fun _ => True) site where
  keys _ _ _ _ := id
  row _ _ _ := id
  enter _ := id

theorem ensures_noDrain {α : Type} {p : Program α} (hp : Keeps (fun q => ¬q.IsDrain) p) :
    Ensures rememberingLeft p left fun _ _ => True := by
  refine hp.ensures ?_ ?_ trivial
  · intro _ q _ hq
    exact servesWithinLeft_of_not_isDrain hq
  · intro _ _ _ _ _ _ _
    trivial

theorem ensures_reconcile_withinLeft {m : Mismatches} :
    Ensures rememberingLeft (c.reconcile m) left fun _ _ => True := by
  rw [ensures_reconcile_iff, ensures_enter]
  refine ⟨trivial, ?_⟩
  intro _ _ _
  rw [ensures_request (q := .remaining) trivial]
  refine ⟨trivial, ?_⟩
  rintro x _ rfl
  rw [ensures_request (q := .drain c.site _) trivial]
  exact ⟨⟨x, rfl, Nat.min_le_right _ _⟩, fun _ _ _ => trivial⟩

theorem ensures_explain_withinLeft {routes : Routes} {m : Mismatches} :
    Ensures rememberingLeft (c.explain routes m) left fun _ _ => True := by
  unfold explain
  split
  · exact trivial
  · rw [ensures_bind]
    refine ensures_reconcile_withinLeft.imp ?_
    intro n _ _
    exact ensures_noDrain
      ((allowsReading_noDrain c.site).keeps_exclude trivial trivial routes n)

theorem ensures_cycle_withinLeft : Ensures rememberingLeft c.cycle left fun _ _ => True := by
  have hreading := allowsReading_noDrain c.site
  have hasked : Keeps (fun q => ¬q.IsDrain) c.askDaemon := by
    apply c.keeps_askDaemon.mono
    intro q hq
    cases q with
    | drain site window => exact absurd hq id
    | _ => exact id
  unfold cycle stages
  rw [ensures_within, ensures_bind]
  refine (ensures_noDrain
    (hreading.keeps_takeSnapshot trivial id fun _ => id)).imp ?_
  intro snapshot _ _
  rw [ensures_bind]
  refine (ensures_noDrain (hreading.keeps_compareTables snapshot)).imp ?_
  intro m _ _
  rw [ensures_bind]
  refine ensures_explain_withinLeft.imp ?_
  intro n _ _
  rw [ensures_bind]
  refine (ensures_noDrain hasked).imp ?_
  intro records _ _
  exact ensures_noDrain (keeps_conclude (fun _ => id) _)

/-- Before each drain of a check it is asked how much time is left. -/
theorem ensures_checkAll_withinLeft {checks : List Check} {r : Report} :
    Ensures rememberingLeft (checkAll checks r) left fun _ _ => True := by
  induction checks generalizing r left with
  | nil => exact trivial
  | cons c rest ih =>
      unfold checkAll
      rw [ensures_bind]
      exact ensures_cycle_withinLeft.imp fun _ _ _ => ih

end Check
end RouteAudit
