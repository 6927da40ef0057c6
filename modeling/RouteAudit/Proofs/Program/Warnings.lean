import RouteAudit.Proofs.Program.Spans

/-!
# Warnings of programs

What a program warns of is seen in its tree, apart from all surroundings: the same program can
return its warnings beside its result.  The warnings of a program with several parts are those
of its parts in their order, and most parts have none.
-/

namespace RouteAudit

namespace LogEvent

def isWarning (event : LogEvent) : Bool := event.level = .warn

/-- The event within one more span. -/
def inSpan (span : Span) (event : LogEvent) : LogEvent :=
  { event with scope := span :: event.scope }

theorem filter_inSpan (span : Span) (events : List LogEvent) :
    (events.map (inSpan span)).filter isWarning = (events.filter isWarning).map (inSpan span) :=
  List.filter_map

end LogEvent

namespace Logged

variable {α β : Type}

@[simp]
theorem value_pure (a : α) : (pure a : Logged α).value = a :=
  rfl

@[simp]
theorem events_pure (a : α) : (pure a : Logged α).events = [] :=
  rfl

@[simp]
theorem value_bind (x : Logged α) (f : α → Logged β) : (x >>= f).value = (f x.value).value :=
  rfl

@[simp]
theorem events_bind (x : Logged α) (f : α → Logged β) :
    (x >>= f).events = x.events ++ (f x.value).events :=
  rfl

/-- The warnings among the events. -/
def warnings (x : Logged α) : List LogEvent := x.events.filter LogEvent.isWarning

theorem warnings_bind (x : Logged α) (f : α → Logged β) :
    (x >>= f).warnings = x.warnings ++ (f x.value).warnings :=
  List.filter_append _ _

/-- The result, with events that arose before. -/
def after (earlier : List LogEvent) (x : Logged α) : Logged α := ⟨x.value, earlier ++ x.events⟩

/-- The result, with all events within one more span. -/
def inSpan (span : Span) (x : Logged α) : Logged α := ⟨x.value, x.events.map (.inSpan span)⟩

@[simp]
theorem after_nil (x : Logged α) : x.after [] = x :=
  rfl

@[simp]
theorem after_after (earlier later : List LogEvent) (x : Logged α) :
    (x.after later).after earlier = x.after (earlier ++ later) := by
  unfold after
  rw [List.append_assoc]

theorem inSpan_after (span : Span) (earlier : List LogEvent) (x : Logged α) :
    (x.after earlier).inSpan span = (x.inSpan span).after (earlier.map (.inSpan span)) := by
  unfold inSpan after
  rw [List.map_append]

end Logged

namespace Program

variable {σ α β γ : Type} {E : Surroundings σ} {s : σ}

/-- The program, which also returns the warnings that it logs. -/
def withWarnings : Program α → Program (Logged α)
  | .done a => .done ⟨a, []⟩
  | .fail f => .fail f
  | .ask (.log event) next => .ask (.log event) fun answer =>
      (next answer).withWarnings.bind fun x => .done (x.after ([event].filter LogEvent.isWarning))
  | .ask q next => .ask q fun answer => (next answer).withWarnings

/-!
# Single steps
-/

theorem withWarnings_log_ask (event : LogEvent) (next : Unit → Program α) :
    (Program.ask (.log event) next).withWarnings =
      log event >>= fun _ => (next ()).withWarnings >>= fun x =>
        pure (x.after ([event].filter LogEvent.isWarning)) :=
  rfl

theorem withWarnings_ask {q : Request} (hq : IsQuestion q) (next : q.Answer → Program α) :
    (Program.ask q next).withWarnings = request q >>= fun answer => (next answer).withWarnings := by
  cases q with
  | log event => exact absurd hq id
  | _ => rfl

theorem withWarnings_bind (p : Program α) (f : α → Program β) :
    (p >>= f).withWarnings = p.withWarnings >>= fun x => (f x.value).withWarnings >>= fun y =>
      pure (y.after x.events) := by
  induction p with
  | done a =>
      show (f a).withWarnings = (f a).withWarnings >>= fun y => pure (y.after [])
      simp only [Logged.after_nil, bind_pure]
  | fail e => rfl
  | ask q next ih =>
      have hstep : (Program.ask q next >>= f) = .ask q fun answer => next answer >>= f := rfl
      rcases log_or_question q with ⟨event, rfl⟩ | hq
      · rw [hstep, withWarnings_log_ask, withWarnings_log_ask, ih ()]
        simp only [bind_assoc, pure_bind, Logged.after_after]
        rfl
      · rw [hstep, withWarnings_ask hq, withWarnings_ask hq]
        simp only [ih, bind_assoc]

theorem withWarnings_within (span : Span) (p : Program α) :
    (p.within span).withWarnings = p.withWarnings.within span >>= fun x =>
      pure (x.inSpan span) := by
  induction p with
  | done a => rfl
  | fail e => rfl
  | ask q next ih =>
      rcases log_or_question q with ⟨event, rfl⟩ | hq
      · have hstep : (Program.ask (.log event) next).within span =
            .ask (.log (event.inSpan span)) fun answer => (next answer).within span := rfl
        have hlog : (log event).within span = log (event.inSpan span) := rfl
        have hpure : ∀ x : Logged α, (pure x : Program (Logged α)).within span = pure x :=
          fun _ => rfl
        have hwarning : [event.inSpan span].filter LogEvent.isWarning =
            ([event].filter LogEvent.isWarning).map (.inSpan span) :=
          LogEvent.filter_inSpan span [event]
        rw [hstep, withWarnings_log_ask, withWarnings_log_ask, ih (), within_bind, hlog]
        simp only [within_bind, bind_assoc, pure_bind, hpure, hwarning, Logged.inSpan_after]
      · have hstep : (Program.ask q next).within span =
            .ask q fun answer => (next answer).within span := by
          cases q with
          | log event => exact absurd hq id
          | _ => rfl
        have hrequest : (request q).within span = request q := withinAll_request [span] hq
        rw [hstep, withWarnings_ask hq, withWarnings_ask hq, within_bind, hrequest]
        simp only [ih, bind_assoc]

theorem withWarnings_logAll (events : List LogEvent) : (logAll events).withWarnings =
    logAll events >>= fun _ => pure ⟨(), events.filter LogEvent.isWarning⟩ := by
  induction events with
  | nil => rfl
  | cons event rest ih =>
      show (Program.ask (.log event) fun _ => logAll rest).withWarnings =
        (log event >>= fun _ => logAll rest) >>= _
      rw [withWarnings_log_ask, ih]
      simp only [bind_assoc, pure_bind]
      unfold Logged.after
      rw [← List.filter_append]
      rfl

theorem withWarnings_ofLogged (x : Logged α) :
    (ofLogged x).withWarnings = ofLogged x >>= fun a => pure ⟨a, x.warnings⟩ := by
  show (logAll x.events >>= fun _ => pure x.value).withWarnings =
    (logAll x.events >>= fun _ => pure x.value) >>= fun a => pure ⟨a, x.warnings⟩
  have hlast : (pure x.value : Program α).withWarnings = pure ⟨x.value, []⟩ := rfl
  rw [withWarnings_bind, withWarnings_logAll]
  simp only [bind_assoc, pure_bind, hlast]
  unfold Logged.after Logged.warnings
  rw [List.append_nil]

/-!
# Silent programs
-/

/-- A program that warns of nothing. -/
def Silent (p : Program α) : Prop :=
  p.withWarnings = p >>= fun a => pure ⟨a, []⟩

theorem Silent.pure (a : α) : Silent (pure a) :=
  rfl

theorem Silent.request {q : Request} (hq : IsQuestion q) : Silent (request q) :=
  withWarnings_ask hq .done

theorem Silent.log {event : LogEvent} (h : event.isWarning = false) : Silent (log event) := by
  have hevents := withWarnings_logAll [event]
  rw [List.filter_cons_of_neg (Bool.eq_false_iff.mp h)] at hevents
  exact hevents

theorem Silent.bind {p : Program α} {f : α → Program β} (hp : Silent p) (hf : ∀ a, Silent (f a)) :
    Silent (p >>= f) := by
  unfold Silent at hp hf ⊢
  rw [withWarnings_bind, hp]
  simp only [bind_assoc, pure_bind, hf, Logged.after_nil]

theorem Silent.ofLogged {x : Logged α} (h : x.warnings = []) : Silent (ofLogged x) := by
  unfold Silent
  rw [withWarnings_ofLogged, h]

theorem Silent.enter (stage : Stage) : Silent (enter stage) :=
  Silent.bind (Silent.request trivial) fun _ => Silent.log rfl

theorem Silent.mapM {f : γ → Program α} (hf : ∀ c, Silent (f c)) (items : List γ) :
    Silent (items.mapM f) := by
  induction items with
  | nil =>
      rw [List.mapM_nil]
      exact Silent.pure []
  | cons c rest ih =>
      rw [List.mapM_cons]
      exact (hf c).bind fun a => ih.bind fun as => Silent.pure (a :: as)

theorem Silent.scan (site : String) (db : Database) (table : String) :
    Silent (scan site db table) := by
  refine Silent.bind (Silent.request trivial) fun keys => Silent.mapM (fun key => ?_) _
  exact Silent.bind (Silent.request trivial) fun fields => Silent.pure _

/-!
# What programs ensure of their warnings
-/

theorem ensures_withWarnings_bind {p : Program α} {f : α → Program β}
    {Q : Logged β → σ → Prop} : Ensures E (p >>= f).withWarnings s Q ↔
      Ensures E p.withWarnings s fun x t =>
        Ensures E (f x.value).withWarnings t fun y u => Q (y.after x.events) u := by
  rw [withWarnings_bind]
  simp only [ensures_bind, ensures_pure]

theorem ensures_withWarnings_log {event : LogEvent} {Q : Logged Unit → σ → Prop} :
    Ensures E (log event).withWarnings s Q ↔ Q ⟨(), [event].filter LogEvent.isWarning⟩ s := by
  have hlog : (log event).withWarnings = log event >>= fun _ =>
      pure ⟨(), [event].filter LogEvent.isWarning⟩ := withWarnings_logAll [event]
  rw [hlog]
  simp only [ensures_bind, ensures_log, ensures_pure]

theorem ensures_withWarnings_ofLogged {x : Logged α} {Q : Logged α → σ → Prop} :
    Ensures E (ofLogged x).withWarnings s Q ↔ Q ⟨x.value, x.warnings⟩ s := by
  rw [withWarnings_ofLogged]
  simp only [ensures_bind, ensures_ofLogged, ensures_pure]

theorem ensures_withWarnings_within {span : Span} {p : Program α} {Q : Logged α → σ → Prop} :
    Ensures E (p.within span).withWarnings s Q ↔
      Ensures E p.withWarnings s fun x t => Q (x.inSpan span) t := by
  rw [withWarnings_within]
  simp only [ensures_bind, ensures_within, ensures_pure]

theorem Silent.ensures {p : Program α} (hp : Silent p) {Q : Logged α → σ → Prop} :
    Ensures E p.withWarnings s Q ↔ Ensures E p s fun a t => Q ⟨a, []⟩ t := by
  rw [hp]
  simp only [ensures_bind, ensures_pure]

theorem ensures_withWarnings_bind_silent {p : Program α} (hp : Silent p) {f : α → Program β}
    {Q : Logged β → σ → Prop} : Ensures E (p >>= f).withWarnings s Q ↔
      Ensures E p s fun a t => Ensures E (f a).withWarnings t Q := by
  rw [ensures_withWarnings_bind, hp.ensures]
  rfl

theorem ensures_withWarnings_bind_pure {p : Program α} {f : α → β} {Q : Logged β → σ → Prop} :
    Ensures E (p >>= fun a => pure (f a)).withWarnings s Q ↔
      Ensures E p.withWarnings s fun x t => Q ⟨f x.value, x.events⟩ t := by
  have hlast : ∀ x : Logged α, Logged.after x.events ⟨f x.value, []⟩ = ⟨f x.value, x.events⟩ := by
    intro x
    unfold Logged.after
    rw [List.append_nil]
  simp only [ensures_withWarnings_bind, (Silent.pure _).ensures, ensures_pure, hlast]

/-- With its warnings a program ensures of its result what it ensures without them. -/
theorem Ensures.withWarnings {p : Program α} {Q : α → σ → Prop} (h : Ensures E p s Q) :
    Ensures E p.withWarnings s fun x t => Q x.value t := by
  induction p generalizing s with
  | done a => exact h
  | fail e => exact h
  | ask q next ih =>
      rcases log_or_question q with ⟨event, rfl⟩ | hq
      · rw [withWarnings_log_ask]
        simp only [ensures_bind, ensures_log, ensures_pure]
        exact ih () h
      · rw [withWarnings_ask hq, ensures_bind, ensures_request hq]
        rcases (ensures_ask hq).mp h with ⟨hserves, hnext⟩
        exact ⟨hserves, fun x t hx => ih x (hnext x t hx)⟩

end Program
end RouteAudit
