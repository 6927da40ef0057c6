import RouteAudit.World
import RouteAudit.Proofs.Program.Surroundings

/-!
# Worlds that follow surroundings

A relation between the states of surroundings and worlds lets a world follow the
surroundings if each of its answers is one that they may give.
-/

namespace RouteAudit
namespace World

variable {σ α β : Type} {E : Surroundings σ} {R : σ → World → Prop}

structure Follows (E : Surroundings σ) (R : σ → World → Prop) : Prop where
  note : ∀ {s w} (event : LogEvent), R s w → R s (w.note event)
  sound : ∀ {s w} {q : Request} {x : q.Answer} {v : World}, Program.IsQuestion q → R s w →
    E.serves s q → w.answer q = (.ok x, v) → exists t, E.answers s q x t ∧ R t v

/-- Whether a world has an answer to all that the surroundings serve. -/
def Serves (E : Surroundings σ) (R : σ → World → Prop) : Prop :=
  ∀ s w q, R s w → E.serves s q → exists x v, w.answer q = (.ok x, v)

/-!
# Steps of a run
-/

theorem run_ask_ok {q : Request} {next : q.Answer → Program α} {w v : World} {x : q.Answer}
    (h : w.answer q = (.ok x, v)) : w.run (.ask q next) = v.run (next x) := by
  rw [run, h]

theorem run_ask_error {q : Request} {next : q.Answer → Program α} {w v : World} {stop : Stop}
    (h : w.answer q = (.error stop, v)) : w.run (.ask q next) = (.error stop, v) := by
  rw [run, h]

/-- A run stops at its first request, or goes on from the answer. -/
theorem run_ask_cases (q : Request) (next : q.Answer → Program α) (w : World) :
    (exists stop v, w.answer q = (.error stop, v) ∧ w.run (.ask q next) = (.error stop, v)) ∨
      exists x v, w.answer q = (.ok x, v) ∧ w.run (.ask q next) = v.run (next x) := by
  cases hanswer : w.answer q with
  | mk result v =>
      cases result with
      | error stop => exact Or.inl ⟨stop, v, rfl, run_ask_error hanswer⟩
      | ok x => exact Or.inr ⟨x, v, rfl, run_ask_ok hanswer⟩

theorem run_log {event : LogEvent} {next : (Request.log event).Answer → Program α} {w : World} :
    w.run (.ask (.log event) next) = (w.note event).run (next ()) :=
  rfl

/-- A run of a program and what follows it is that of the program first. -/
theorem run_bind (p : Program α) (f : α → Program β) (w : World) :
    w.run (p >>= f) = match w.run p with
      | (.ok a, v) => v.run (f a)
      | (.error stop, v) => (.error stop, v) := by
  change w.run (p.bind f) = _
  induction p generalizing w with
  | done a => rfl
  | fail e => rfl
  | ask q next ih =>
      rw [Program.bind]
      cases hanswer : w.answer q with
      | mk result v =>
          cases result with
          | error stop => rw [run_ask_error hanswer, run_ask_error hanswer]
          | ok x =>
              rw [run_ask_ok hanswer, run_ask_ok hanswer]
              exact ih x v

/-!
# Runs
-/

/-- Where all that is served is answered, the run has a result. -/
theorem Follows.runs (hfollows : Follows E R) (hserves : Serves E R) {p : Program α} {s : σ}
    {w : World} {Q : α → σ → Prop} (h : Program.Ensures E p s Q) (hw : R s w) :
    exists a v, w.run p = (.ok a, v) := by
  induction p generalizing s w with
  | done b => exact ⟨b, w, rfl⟩
  | fail f => exact absurd h id
  | ask q next ih =>
      rcases Program.log_or_question q with ⟨event, rfl⟩ | hq
      · rw [run_log]
        exact ih () h (hfollows.note event hw)
      · rcases (Program.ensures_ask hq).mp h with ⟨hserved, hnext⟩
        rcases hserves s w q hw hserved with ⟨x, v, hanswer⟩
        rcases hfollows.sound hq hw hserved hanswer with ⟨t, hx, ht⟩
        rw [run_ask_ok hanswer]
        exact ih x (hnext x t hx) ht

end World
end RouteAudit
