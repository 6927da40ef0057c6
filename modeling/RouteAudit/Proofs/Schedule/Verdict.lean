import RouteAudit.Proofs.Schedule.Timeline

/-!
# The verdict of a schedule

A schedule that is shut down returns the verdict of its last turn.  All turns before that one
have ended by themselves.  If the last one has not, it counts as one that did not pass, and
the verdict of the turn before it is lost.
-/

namespace RouteAudit
namespace Schedule

variable {s : Schedule} {checks : Checker} {w : World} {interval k j : Nat} {t : Turn}

/-- A turn that was not interrupted has the verdict of its check, any other one did not pass. -/
theorem passed_eq (s : Schedule) (t : Turn) :
    t.passed s = (!t.isInterrupted s && (t.behaviour s).passed) := by
  cases t.ends s with
  | byItself hin _ hpassed _ =>
      rw [t.not_isInterrupted s hin]
      exact hpassed
  | byShutdown shutdown hcancel hearly _ hpassed _ =>
      rw [t.isInterrupted_of_le s hcancel hearly]
      exact hpassed

/-- The run returns the verdict of the last check if that one ended by itself, and otherwise
that it did not pass; all checks before ended by themselves. -/
theorem verdict_of_last_turn {shutdown : Time} (hinterval : s.interval = some interval)
    (hadvances : s.Advances checks w) (hcancel : w.cancelAt = some shutdown) :
    exists k t v, s.turn checks w k = some t ∧ s.turn checks w (k + 1) = none ∧
      s.runAll checks w = some (!t.isInterrupted s && (t.behaviour s).passed, v) ∧
      ∀ j, j < k → exists u, s.turn checks w j = some u ∧ u.isInterrupted s = false ∧
        u.passed s = (u.behaviour s).passed := by
  rcases exists_last_turn hinterval hadvances hcancel with ⟨k, t, v, hturn, hlast, hrun, _⟩
  refine ⟨k, t, v, hturn, hlast, ?_, ?_⟩
  · rw [hrun, passed_eq]
  · intro j hj
    rcases exists_turn_of_le hturn (Nat.le_of_lt hj) with ⟨u, hu⟩
    rcases exists_turn_of_le hturn hj with ⟨next, hnext⟩
    rcases byItself_of_turn_succ hu hnext with ⟨hended, _, hpassed⟩
    exact ⟨u, hu, hended, hpassed⟩

/-- A checker whose checks pass after three seconds. -/
def passing : Checker := fun _ => Behaviour.program 120000 (.ends 3000 (.ok .empty))

theorem verdict_of_passing :
    exists k t v, turn ⟨some 10, 120000, .errors⟩ passing { cancelAt := some 14500 } k = some t ∧
      runAll ⟨some 10, 120000, .errors⟩ passing { cancelAt := some 14500 } =
        some (!t.isInterrupted ⟨some 10, 120000, .errors⟩ &&
          (t.behaviour ⟨some 10, 120000, .errors⟩).passed, v) := by
  rcases verdict_of_last_turn (s := ⟨some 10, 120000, .errors⟩) (w := { cancelAt := some 14500 })
    rfl (Or.inl (by decide)) rfl with ⟨k, t, v, hturn, _, hrun, _⟩
  exact ⟨k, t, v, hturn, hrun⟩

/-- The first check passes, the shutdown interrupts the second one, and the run returns that
the check did not pass. -/
theorem interruption_loses_verdict :
    (turn ⟨some 10, 120000, .errors⟩ passing { cancelAt := some 14500 } 0).map
      (fun t => (t.isInterrupted ⟨some 10, 120000, .errors⟩,
        t.passed ⟨some 10, 120000, .errors⟩)) = some (false, true) ∧
    (turn ⟨some 10, 120000, .errors⟩ passing { cancelAt := some 14500 } 1).map
      (fun t => t.isInterrupted ⟨some 10, 120000, .errors⟩) = some true ∧
    (turn ⟨some 10, 120000, .errors⟩ passing { cancelAt := some 14500 } 2).isNone = true ∧
    (runAll ⟨some 10, 120000, .errors⟩ passing { cancelAt := some 14500 }).map Prod.fst =
      some false := by
  decide +kernel

end Schedule
end RouteAudit
