import RouteAudit.Proofs.Program.Surroundings

/-!
# Programs within spans

The events of a program may stand within several spans.  A span changes what is logged and
nothing else: it passes through the parts of a program to their events.
-/

namespace RouteAudit
namespace Program

variable {α β : Type}

theorem within_bind (span : Span) (p : Program α) (f : α → Program β) :
    (p >>= f).within span = p.within span >>= fun a => (f a).within span := by
  change (p.bind f).within span = (p.within span).bind fun a => (f a).within span
  induction p with
  | done a => rfl
  | fail e => rfl
  | ask q next ih =>
      cases q with
      | log event => exact congrArg _ (funext fun answer => ih answer)
      | _ => exact congrArg _ (funext fun answer => ih answer)

/-- The events of a program are within spans, of which the first is the outermost. -/
def withinAll (spans : List Span) (p : Program α) : Program α :=
  spans.foldr within p

theorem withinAll_bind (spans : List Span) (p : Program α) (f : α → Program β) :
    (p >>= f).withinAll spans = p.withinAll spans >>= fun a => (f a).withinAll spans := by
  induction spans with
  | nil => rfl
  | cons span rest ih =>
      show ((p >>= f).withinAll rest).within span = _
      rw [ih]
      exact within_bind span _ _

theorem withinAll_pure (spans : List Span) (a : α) :
    (pure a : Program α).withinAll spans = pure a := by
  induction spans with
  | nil => rfl
  | cons span rest ih =>
      show ((pure a : Program α).withinAll rest).within span = _
      rw [ih]
      rfl

theorem withinAll_request (spans : List Span) {q : Request} (hq : IsQuestion q) :
    (request q).withinAll spans = request q := by
  induction spans with
  | nil => rfl
  | cons span rest ih =>
      show ((request q).withinAll rest).within span = _
      rw [ih]
      cases q with
      | log event => exact absurd hq id
      | _ => rfl

theorem exists_withinAll_log (spans : List Span) (event : LogEvent) :
    exists placed, (log event).withinAll spans = log placed := by
  induction spans with
  | nil => exact ⟨event, rfl⟩
  | cons span rest ih =>
      rcases ih with ⟨placed, hplaced⟩
      refine ⟨{ placed with scope := span :: placed.scope }, ?_⟩
      show ((log event).withinAll rest).within span = _
      rw [hplaced]
      rfl

end Program
end RouteAudit
