import RouteAudit.Proofs.World.Following

/-!
# Points of a run

On its way a run passes points: the requests that were answered so far, what is left of the
program, and the world there.  A run that is stopped is stopped at one of them, and what a
program ensures of its requests holds at all of them.
-/

namespace RouteAudit
namespace World

variable {α σ : Type}

/-- A run asks requests, and is then at a rest of its program in some world. -/
inductive Asks : Program α → World → List Request → Program α → World → Prop where
  | start (p : Program α) (w : World) : Asks p w [] p w
  | step {q : Request} {next : q.Answer → Program α} {w v u : World} {x : q.Answer}
      {asked : List Request} {left : Program α} (hanswer : w.answer q = (.ok x, v))
      (hrest : Asks (next x) v asked left u) : Asks (.ask q next) w (q :: asked) left u

variable {p left : Program α} {w u v : World} {asked : List Request}

/-- From each of its points a run goes on as a run of the rest. -/
theorem Asks.run_eq (h : Asks p w asked left u) : w.run p = u.run left := by
  induction h with
  | start p w => rfl
  | step hanswer _ ih => exact (run_ask_ok hanswer).trans ih

/-!
# Where runs end
-/

theorem exists_asks_of_ok {a : α} (hrun : w.run p = (.ok a, v)) :
    exists asked, Asks p w asked (.done a) v := by
  induction p generalizing w with
  | done b =>
      rw [run] at hrun
      cases hrun
      exact ⟨[], .start _ _⟩
  | fail f =>
      rw [run] at hrun
      cases hrun
  | ask q next ih =>
      rcases run_ask_cases q next w with ⟨stop, u, _, heq⟩ | ⟨x, u, hanswer, heq⟩
      · rw [heq] at hrun
        cases hrun
      · rw [heq] at hrun
        rcases ih x hrun with ⟨asked, hasked⟩
        exact ⟨q :: asked, .step hanswer hasked⟩

/-- A run without a result comes to a failure of its program or to a request that stops it. -/
theorem exists_asks_of_error {stop : Stop} (hrun : w.run p = (.error stop, v)) :
    (exists asked f, Asks p w asked (.fail f) v ∧ stop = .failed f) ∨
      exists asked q next u, Asks p w asked (.ask q next) u ∧ u.answer q = (.error stop, v) := by
  induction p generalizing w with
  | done b =>
      rw [run] at hrun
      cases hrun
  | fail f =>
      rw [run] at hrun
      cases hrun
      exact Or.inl ⟨[], f, .start _ _, rfl⟩
  | ask q next ih =>
      rcases run_ask_cases q next w with ⟨other, u, hanswer, heq⟩ | ⟨x, u, hanswer, heq⟩
      · rw [heq] at hrun
        cases hrun
        exact Or.inr ⟨[], q, next, w, .start _ _, hanswer⟩
      · rw [heq] at hrun
        rcases ih x hrun with ⟨asked, f, hasked, hstop⟩ | ⟨asked, r, rest, t, hasked, hstop⟩
        · exact Or.inl ⟨q :: asked, f, .step hanswer hasked, hstop⟩
        · exact Or.inr ⟨q :: asked, r, rest, t, .step hanswer hasked, hstop⟩

/-!
# What holds at a point
-/

variable {E : Surroundings σ} {R : σ → World → Prop} {s : σ} {Q : α → σ → Prop}

theorem Follows.at_point (hfollows : Follows E R) (h : Program.Ensures E p s Q) (hw : R s w)
    (hasked : Asks p w asked left u) : exists t, Program.Ensures E left t Q ∧ R t u := by
  induction hasked generalizing s with
  | start p w => exact ⟨s, h, hw⟩
  | @step q next w v u x asked left hanswer hrest ih =>
      rcases Program.log_or_question q with ⟨event, rfl⟩ | hq
      · cases hanswer
        exact ih h (hfollows.note event hw)
      · rcases (Program.ensures_ask hq).mp h with ⟨hserves, hnext⟩
        rcases hfollows.sound hq hw hserves hanswer with ⟨t, hx, ht⟩
        exact ih (hnext x t hx) ht

/-- What was asked on the way was answered as the surroundings answer it. -/
theorem Follows.answered (hfollows : Follows E R) (h : Program.Ensures E p s Q) (hw : R s w)
    (hasked : Asks p w asked left u) {r : Request} (hr : r ∈ asked)
    (hquestion : Program.IsQuestion r) : exists t x later, E.answers t r x later := by
  induction hasked generalizing s with
  | start p w => exact absurd hr List.not_mem_nil
  | @step q next w v u x asked left hanswer hrest ih =>
      rcases Program.log_or_question q with ⟨event, rfl⟩ | hq
      · cases hanswer
        rcases List.mem_cons.mp hr with rfl | hr
        · exact absurd hquestion id
        · exact ih h (hfollows.note event hw) hr
      · rcases (Program.ensures_ask hq).mp h with ⟨hserves, hnext⟩
        rcases hfollows.sound hq hw hserves hanswer with ⟨t, hx, ht⟩
        rcases List.mem_cons.mp hr with rfl | hr
        · exact ⟨s, x, t, hx⟩
        · exact ih (hnext x t hx) ht hr

/-- A run that has a result has one that the program ensures. -/
theorem Follows.ensured (hfollows : Follows E R) (h : Program.Ensures E p s Q) (hw : R s w)
    {a : α} (hrun : w.run p = (.ok a, v)) : exists t, Q a t ∧ R t v := by
  rcases exists_asks_of_ok hrun with ⟨asked, hasked⟩
  exact hfollows.at_point h hw hasked

/-- A run that is stopped is stopped at a request that the surroundings serve. -/
theorem Follows.stopped (hfollows : Follows E R) (h : Program.Ensures E p s Q) (hw : R s w)
    {stop : Stop} (hrun : w.run p = (.error stop, v)) :
    exists t q u, Program.IsQuestion q ∧ E.serves t q ∧ R t u ∧ u.answer q = (.error stop, v) := by
  rcases exists_asks_of_error hrun with ⟨asked, f, hasked, _⟩ | ⟨asked, q, next, u, hasked, hstop⟩
  · rcases hfollows.at_point h hw hasked with ⟨t, ht, _⟩
    exact absurd ht id
  · rcases hfollows.at_point h hw hasked with ⟨t, ht, hu⟩
    rcases Program.log_or_question q with ⟨event, rfl⟩ | hq
    · cases hstop
    · exact ⟨t, q, u, hq, ((Program.ensures_ask hq).mp ht).1, hu, hstop⟩

end World
end RouteAudit
