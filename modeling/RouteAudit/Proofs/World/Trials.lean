import RouteAudit.Proofs.World.Stops

/-!
# Trials

A trial is one way for a program to be run: under the watchdog, which a shutdown may end;
outside of it, where only a cancellation is noticed; or dropped on its way, before any of
its requests.  A trial that ends has a result, and one that is dropped has none.
-/

namespace RouteAudit
namespace World

variable {α : Type}

/-- Runs a program up to a number of requests; log events are not counted.  There is no
result if the next request is not made any more. -/
def runFor : Nat → Program α → World → Option (Except Stop α) × World
  | _, .done a, w => (some (.ok a), w)
  | _, .fail f, w => (some (.error (.failed f)), w)
  | n, .ask (.log event) next, w => runFor n (next ()) (w.note event)
  | 0, .ask _ _, w => (none, w)
  | n + 1, .ask q next, w =>
      match w.answer q with
      | (.ok x, v) => runFor n (next x) v
      | (.error stop, v) => (some (.error stop), v)

variable {p : Program α} {w v : World} {n : Nat}

theorem runFor_zero {q : Request} {next : q.Answer → Program α} (hq : Program.IsQuestion q) :
    runFor 0 (.ask q next) w = (none, w) := by
  cases q with
  | log event => exact absurd hq id
  | _ => rfl

theorem runFor_ok {q : Request} {next : q.Answer → Program α} {x : q.Answer} {u : World}
    (hq : Program.IsQuestion q) (h : w.answer q = (.ok x, u)) :
    runFor (n + 1) (.ask q next) w = runFor n (next x) u := by
  cases q with
  | log event => exact absurd hq id
  | _ =>
      rw [runFor, h]
      nofun

theorem runFor_error {q : Request} {next : q.Answer → Program α} {stop : Stop} {u : World}
    (hq : Program.IsQuestion q) (h : w.answer q = (.error stop, u)) :
    runFor (n + 1) (.ask q next) w = (some (.error stop), u) := by
  cases q with
  | log event => exact absurd hq id
  | _ =>
      rw [runFor, h]
      nofun

/-- A run that ends in time is a run as any other, and one that is dropped is dropped at a
request. -/
theorem runFor_cases (n : Nat) (p : Program α) (w : World) :
    (exists result v, runFor n p w = (some result, v) ∧ w.run p = (result, v)) ∨
      exists asked q next v, runFor n p w = (none, v) ∧ Program.IsQuestion q ∧
        Asks p w asked (.ask q next) v := by
  induction p generalizing n w with
  | done a => exact Or.inl ⟨.ok a, w, by rw [runFor], rfl⟩
  | fail f => exact Or.inl ⟨.error (.failed f), w, by rw [runFor], rfl⟩
  | ask q next ih =>
      rcases Program.log_or_question q with ⟨event, rfl⟩ | hq
      · rw [runFor]
        rcases ih () n (w.note event) with hended | ⟨asked, r, rest, v, hleft, hr, hasked⟩
        · exact Or.inl hended
        · exact Or.inr ⟨_ :: asked, r, rest, v, hleft, hr, .step (x := ()) rfl hasked⟩
      · cases n with
        | zero => exact Or.inr ⟨[], q, next, w, runFor_zero hq, hq, .start _ _⟩
        | succ n =>
            rcases run_ask_cases q next w with ⟨stop, u, hanswer, heq⟩ | ⟨x, u, hanswer, heq⟩
            · exact Or.inl ⟨.error stop, u, runFor_error hq hanswer, heq⟩
            · rw [runFor_ok hq hanswer, heq]
              rcases ih x n u with hended | ⟨asked, r, rest, v, hleft, hr, hasked⟩
              · exact Or.inl hended
              · exact Or.inr ⟨q :: asked, r, rest, v, hleft, hr, .step hanswer hasked⟩

end World

/-!
# Ways to run a program
-/

inductive Trial where
  /-- Under the watchdog, with a time limit and perhaps a shutdown. -/
  | watched (limit : Time) (shutdown : Option Time)
  /-- Outside of the watchdog, with a deadline that nothing enforces. -/
  | unwatched (limit : Time) (cancelled : Option Time)
  /-- Dropped before the request that follows on so many others. -/
  | dropped (limit : Time) (requests : Nat)

namespace Trial

variable {α : Type}

def limit : Trial → Time
  | .watched limit _ => limit
  | .unwatched limit _ => limit
  | .dropped limit _ => limit

def isWatched : Trial → Bool
  | .unwatched _ _ => false
  | _ => true

/-- When the trial is cancelled. -/
def cancelAt : Trial → Option Time
  | .watched _ shutdown => shutdown
  | .unwatched _ cancelled => cancelled
  | .dropped _ _ => none

/-- The world in which the program starts. -/
def start (w : World) (t : Trial) : World :=
  { w with
    watched := t.isWatched
    cancelAt := t.cancelAt
    deadline := w.now + t.limit
    stage := .idle
    abandoned := false }

def run (p : Program α) (w : World) (t : Trial) : Option (Attempt α) × World :=
  match t with
  | .watched limit shutdown =>
      let (result, v) := World.bounded limit p { w with cancelAt := shutdown }
      (some result, v)
  | .unwatched limit cancelled =>
      let (result, v) := World.unbounded limit p { w with cancelAt := cancelled }
      (some result, v)
  | .dropped limit requests =>
      match World.runFor requests p (t.start w) with
      | (some result, v) =>
          let (attempt, v) := World.conclude limit (result, v)
          (some attempt, v)
      | (none, v) => (none, v)

/-!
# How trials end
-/

variable {p : Program α} {w v : World} {t : Trial} {result : Option (Attempt α)}

/-- A trial may end before the program begins, with the run of the program, or at one of the
requests. -/
inductive Ends (t : Trial) (p : Program α) (w : World) : Option (Attempt α) → World → Prop where
  | unbegun (hcancelled : (t.start w).isCancelled = true) :
      Ends t p w (some (.error (.cancelled .idle)))
        ((t.start w).note (World.interruptedEvent .idle))
  | ran {outcome : Except Stop α} {u : World} (hrun : (t.start w).run p = (outcome, u)) :
      Ends t p w (some (World.conclude t.limit (outcome, u)).1)
        (World.conclude t.limit (outcome, u)).2
  | left {asked : List Request} {q : Request} {next : q.Answer → Program α} {u : World}
      (hq : Program.IsQuestion q) (hasked : World.Asks p (t.start w) asked (.ask q next) u) :
      Ends t p w none u

theorem ends_run (t : Trial) (p : Program α) (w : World) :
    t.Ends p w (t.run p w).1 (t.run p w).2 := by
  cases t with
  | watched limit shutdown =>
      show Ends _ p w (some (World.bounded limit p { w with cancelAt := shutdown }).1)
        (World.bounded limit p { w with cancelAt := shutdown }).2
      unfold World.bounded
      dsimp only
      split
      · rename_i hcancelled
        exact .unbegun hcancelled
      · exact .ran rfl
  | unwatched limit cancelled => exact .ran rfl
  | dropped limit requests =>
      unfold run
      dsimp only
      rcases World.runFor_cases requests p ((Trial.dropped limit requests).start w) with
        ⟨outcome, v, hleft, hrun⟩ | ⟨asked, q, next, v, hleft, hq, hasked⟩
      · rw [hleft]
        exact .ran hrun
      · rw [hleft]
        exact .left hq hasked

/-- A trial that has a result ran its program to the end. -/
theorem Ends.run_of_ok {a : α} (h : t.Ends p w result v) (hresult : result = some (.ok a)) :
    (t.start w).run p = (.ok a, v) := by
  cases h with
  | unbegun hcancelled => cases hresult
  | @ran outcome u hrun =>
      match outcome with
      | .ok b =>
          cases hresult
          exact hrun
      | .error stop => exact absurd (Option.some.inj hresult) World.conclude_error_ne_ok
  | left hq hasked => cases hresult

theorem run_of_ok {a : α} (h : (t.run p w).1 = some (.ok a)) :
    exists u, (t.start w).run p = (.ok a, u) :=
  ⟨_, (t.ends_run p w).run_of_ok h⟩

/-- Outside of the watchdog a run with a result is a trial. -/
theorem run_unwatched_of_ok {limit : Time} {cancelled : Option Time} {a : α}
    (h : ((Trial.unwatched limit cancelled).start w).run p = (.ok a, v)) :
    (Trial.unwatched limit cancelled).run p w = (some (.ok a), v) := by
  show (some (World.conclude limit (((Trial.unwatched limit cancelled).start w).run p)).1,
    (World.conclude limit (((Trial.unwatched limit cancelled).start w).run p)).2) = _
  rw [h]
  rfl

/-- The same trial without a cancellation and without an early end. -/
def fresh : Trial → Trial
  | .watched limit _ => .watched limit none
  | .unwatched limit _ => .unwatched limit none
  | .dropped limit _ => .watched limit none

@[simp] theorem limit_fresh (t : Trial) : t.fresh.limit = t.limit := by
  cases t <;> rfl

@[simp] theorem isWatched_fresh (t : Trial) : t.fresh.isWatched = t.isWatched := by
  cases t <;> rfl

@[simp] theorem cancelAt_fresh (t : Trial) : t.fresh.cancelAt = none := by
  cases t <;> rfl

theorem run_fresh {a : α} {u : World} (h : (t.fresh.start w).run p = (.ok a, u)) :
    (t.fresh.run p w).1 = some (.ok a) := by
  have hbounded : ∀ limit : Time,
      ({ w with cancelAt := none }.watch limit).run p = (.ok a, u) →
      ((Trial.watched limit none).run p w).1 = some (.ok a) := by
    intro limit hrun
    unfold run World.bounded
    dsimp only
    rw [if_neg (by unfold World.isCancelled World.watch; nofun), hrun]
    rfl
  cases t with
  | watched limit shutdown => exact hbounded limit h
  | dropped limit requests => exact hbounded limit h
  | unwatched limit cancelled => exact congrArg Prod.fst (run_unwatched_of_ok h)

end Trial
end RouteAudit
