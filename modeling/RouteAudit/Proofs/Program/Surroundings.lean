import RouteAudit.Program

/-!
# Programs in their surroundings

Surroundings say which answers a request may get and in which state they leave everything.
A program ensures a property if it ends with a result of that property whatever it is
answered; it yields a result if some answers lead there.  Log events change nothing and are
passed over.
-/

namespace RouteAudit

structure Surroundings (σ : Type) where
  /-- Whether a request is answered at all. -/
  serves : σ → Request → Prop
  answers : σ → (q : Request) → q.Answer → σ → Prop

/-- The same surroundings, where only some requests are served. -/
def Surroundings.only {σ : Type} (E : Surroundings σ) (allowed : Request → Prop) :
    Surroundings σ :=
  ⟨fun s q => E.serves s q ∧ allowed q, E.answers⟩

namespace Program

variable {σ α β : Type} {E : Surroundings σ}

def Ensures (E : Surroundings σ) : Program α → σ → (α → σ → Prop) → Prop
  | .done a, s, Q => Q a s
  | .fail _, _, _ => False
  | .ask (.log _) next, s, Q => Ensures E (next ()) s Q
  | .ask q next, s, Q => E.serves s q ∧ ∀ x t, E.answers s q x t → Ensures E (next x) t Q

def Yields (E : Surroundings σ) : Program α → σ → α → σ → Prop
  | .done a, s, b, t => b = a ∧ t = s
  | .fail _, _, _, _ => False
  | .ask (.log _) next, s, b, t => Yields E (next ()) s b t
  | .ask q next, s, b, t => exists x u, E.answers s q x u ∧ Yields E (next x) u b t

/-- Whether a request is more than a log event. -/
def IsQuestion : Request → Prop
  | .log _ => False
  | _ => True

theorem ensures_ask {q : Request} (hq : IsQuestion q) {next : q.Answer → Program α} {s : σ}
    {Q : α → σ → Prop} : Ensures E (.ask q next) s Q ↔
      E.serves s q ∧ ∀ x t, E.answers s q x t → Ensures E (next x) t Q := by
  cases q with
  | log event => exact absurd hq id
  | _ => rfl

theorem yields_ask {q : Request} (hq : IsQuestion q) {next : q.Answer → Program α} {s t : σ}
    {b : α} : Yields E (.ask q next) s b t ↔
      exists x u, E.answers s q x u ∧ Yields E (next x) u b t := by
  cases q with
  | log event => exact absurd hq id
  | _ => rfl

theorem log_or_question (q : Request) : (exists event, q = .log event) ∨ IsQuestion q := by
  cases q with
  | log event => exact Or.inl ⟨event, rfl⟩
  | _ => exact Or.inr trivial

/-!
# Results of a run
-/

theorem Ensures.of_yields {p : Program α} {s t : σ} {a : α} {Q : α → σ → Prop}
    (h : Ensures E p s Q) (hrun : Yields E p s a t) : Q a t := by
  induction p generalizing s with
  | done b =>
      rcases hrun with ⟨rfl, rfl⟩
      exact h
  | fail f => exact absurd h id
  | ask q next ih =>
      rcases log_or_question q with ⟨event, rfl⟩ | hq
      · exact ih () h hrun
      · rcases (yields_ask hq).mp hrun with ⟨x, u, hx, hrest⟩
        exact ih x (((ensures_ask hq).mp h).2 x u hx) hrest

/-- Where every request that is served has an answer that keeps an invariant, a program that
ensures anything has a run. -/
theorem Ensures.exists_yields {p : Program α} {s : σ} {Q : α → σ → Prop} {inv : σ → Prop}
    (hanswer : ∀ s q, inv s → E.serves s q → exists x t, E.answers s q x t ∧ inv t)
    (hs : inv s) (h : Ensures E p s Q) : exists a t, Yields E p s a t := by
  induction p generalizing s with
  | done b => exact ⟨b, s, rfl, rfl⟩
  | fail f => exact absurd h id
  | ask q next ih =>
      rcases log_or_question q with ⟨event, rfl⟩ | hq
      · exact ih () hs h
      · rcases (ensures_ask hq).mp h with ⟨hserves, hnext⟩
        rcases hanswer s q hs hserves with ⟨x, u, hx, hu⟩
        rcases ih x hu (hnext x u hx) with ⟨a, t, hrun⟩
        exact ⟨a, t, (yields_ask hq).mpr ⟨x, u, hx, hrun⟩⟩

theorem Ensures.and {p : Program α} {s : σ} {Q R : α → σ → Prop} (hQ : Ensures E p s Q)
    (hR : Ensures E p s R) : Ensures E p s fun a t => Q a t ∧ R a t := by
  induction p generalizing s with
  | done b => exact ⟨hQ, hR⟩
  | fail f => exact absurd hQ id
  | ask q next ih =>
      rcases log_or_question q with ⟨event, rfl⟩ | hq
      · exact ih () hQ hR
      · rcases (ensures_ask hq).mp hQ with ⟨hserves, hnext⟩
        rcases (ensures_ask hq).mp hR with ⟨_, hother⟩
        exact (ensures_ask hq).mpr
          ⟨hserves, fun x t hx => ih x (hnext x t hx) (hother x t hx)⟩

theorem Ensures.imp {p : Program α} {s : σ} {Q R : α → σ → Prop} (h : Ensures E p s Q)
    (himp : ∀ a t, Q a t → R a t) : Ensures E p s R := by
  induction p generalizing s with
  | done b => exact himp b s h
  | fail f => exact absurd h id
  | ask q next ih =>
      rcases log_or_question q with ⟨event, rfl⟩ | hq
      · exact ih () h
      · rcases (ensures_ask hq).mp h with ⟨hserves, hnext⟩
        exact (ensures_ask hq).mpr ⟨hserves, fun x t hx => ih x (hnext x t hx)⟩

/-- Surroundings that serve more and answer no other way ensure the same. -/
theorem Ensures.widen {F : Surroundings σ} {p : Program α} {s : σ} {Q : α → σ → Prop}
    (h : Ensures E p s Q) (hserves : ∀ s q, E.serves s q → F.serves s q)
    (hanswers : ∀ s q x t, E.serves s q → F.answers s q x t → E.answers s q x t) :
    Ensures F p s Q := by
  induction p generalizing s with
  | done b => exact h
  | fail f => exact h
  | ask q next ih =>
      rcases log_or_question q with ⟨event, rfl⟩ | hq
      · exact ih () h
      · rcases (ensures_ask hq).mp h with ⟨hserved, hnext⟩
        exact (ensures_ask hq).mpr ⟨hserves s q hserved,
          fun x t hx => ih x (hnext x t (hanswers s q x t hserved hx))⟩

/-!
# Parts of programs
-/

@[simp]
theorem ensures_pure {a : α} {s : σ} {Q : α → σ → Prop} :
    Ensures E (pure a) s Q ↔ Q a s :=
  Iff.rfl

@[simp]
theorem ensures_bind {p : Program α} {f : α → Program β} {s : σ} {Q : β → σ → Prop} :
    Ensures E (p >>= f) s Q ↔ Ensures E p s fun a t => Ensures E (f a) t Q := by
  change Ensures E (p.bind f) s Q ↔ _
  induction p generalizing s with
  | done a => rfl
  | fail e => rfl
  | ask q next ih =>
      rcases log_or_question q with ⟨event, rfl⟩ | hq
      · exact ih ()
      · rw [Program.bind, ensures_ask hq, ensures_ask hq]
        constructor
        · intro hparts
          rcases hparts with ⟨hserves, hnext⟩
          exact ⟨hserves, fun x t hx => (ih x).mp (hnext x t hx)⟩
        · intro hparts
          rcases hparts with ⟨hserves, hnext⟩
          exact ⟨hserves, fun x t hx => (ih x).mpr (hnext x t hx)⟩

theorem ensures_request {q : Request} (hq : IsQuestion q) {s : σ} {Q : q.Answer → σ → Prop} :
    Ensures E (request q) s Q ↔ E.serves s q ∧ ∀ x t, E.answers s q x t → Q x t :=
  ensures_ask hq

@[simp]
theorem ensures_log {event : LogEvent} {s : σ} {Q : Unit → σ → Prop} :
    Ensures E (log event) s Q ↔ Q () s :=
  Iff.rfl

theorem ensures_logAll {events : List LogEvent} {s : σ} {Q : Unit → σ → Prop} :
    Ensures E (logAll events) s Q ↔ Q () s := by
  induction events with
  | nil => rfl
  | cons event rest ih => exact ih

@[simp]
theorem ensures_ofLogged {x : Logged α} {s : σ} {Q : α → σ → Prop} :
    Ensures E (ofLogged x) s Q ↔ Q x.value s := by
  unfold ofLogged
  change Ensures E (logAll x.events >>= fun _ => .done x.value) s Q ↔ _
  rw [ensures_bind, ensures_logAll]
  rfl

@[simp]
theorem ensures_enter {stage : Stage} {s : σ} {Q : Unit → σ → Prop} :
    Ensures E (enter stage) s Q ↔
      E.serves s (.enter stage) ∧ ∀ x t, E.answers s (.enter stage) x t → Q () t := by
  unfold enter
  rw [ensures_bind, ensures_request (q := .enter stage) trivial]
  rfl

@[simp]
theorem ensures_within {span : Span} {p : Program α} {s : σ} {Q : α → σ → Prop} :
    Ensures E (p.within span) s Q ↔ Ensures E p s Q := by
  induction p generalizing s with
  | done a => rfl
  | fail e => rfl
  | ask q next ih =>
      have hnext : ∀ hq : IsQuestion q, (ask q next).within span =
          .ask q fun answer => (next answer).within span := by
        intro hq
        cases q with
        | log event => exact absurd hq id
        | _ => rfl
      rcases log_or_question q with ⟨event, rfl⟩ | hq
      · exact ih ()
      · rw [hnext hq, ensures_ask hq, ensures_ask hq]
        constructor
        · intro hparts
          rcases hparts with ⟨hserves, hrest⟩
          exact ⟨hserves, fun x t hx => (ih x).mp (hrest x t hx)⟩
        · intro hparts
          rcases hparts with ⟨hserves, hrest⟩
          exact ⟨hserves, fun x t hx => (ih x).mpr (hrest x t hx)⟩

/-!
# Invariants
-/

/-- A program that keeps to some requests keeps what these requests keep. -/
def Keeps (allowed : Request → Prop) (p : Program α) : Prop :=
  Ensures (σ := Unit) ⟨fun _ => allowed, fun _ _ _ _ => True⟩ p () fun _ _ => True

variable {allowed : Request → Prop}

theorem Keeps.pure (a : α) : Keeps allowed (pure a) :=
  trivial

theorem Keeps.log (event : LogEvent) : Keeps allowed (log event) :=
  trivial

theorem Keeps.request {q : Request} (hq : IsQuestion q) (hallowed : allowed q) :
    Keeps allowed (request q) :=
  (ensures_request hq).mpr ⟨hallowed, fun _ _ _ => trivial⟩

theorem Keeps.bind {p : Program α} {f : α → Program β} (hp : Keeps allowed p)
    (hf : ∀ a, Keeps allowed (f a)) : Keeps allowed (p >>= f) :=
  ensures_bind.mpr (Ensures.imp hp fun a _ _ => hf a)

theorem Keeps.ofLogged (x : Logged α) : Keeps allowed (ofLogged x) :=
  ensures_ofLogged.mpr trivial

theorem Keeps.enter {stage : Stage} (hallowed : allowed (.enter stage)) :
    Keeps allowed (enter stage) :=
  ensures_enter.mpr ⟨hallowed, fun _ _ _ => trivial⟩

theorem Keeps.within {span : Span} {p : Program α} (hp : Keeps allowed p) :
    Keeps allowed (p.within span) :=
  ensures_within.mpr hp

theorem Keeps.mapM {γ : Type} {f : γ → Program α} (hf : ∀ c, Keeps allowed (f c))
    (items : List γ) : Keeps allowed (items.mapM f) := by
  induction items with
  | nil =>
      rw [List.mapM_nil]
      exact Keeps.pure []
  | cons c rest ih =>
      rw [List.mapM_cons]
      exact (hf c).bind fun a => ih.bind fun as => Keeps.pure (a :: as)

theorem Keeps.scan {site : String} {db : Database} {table : String}
    (hkeys : ∀ pattern, allowed (.keys site db pattern))
    (hrow : ∀ key, allowed (.row site db key)) : Keeps allowed (scan site db table) := by
  unfold Program.scan keysOf
  refine Keeps.bind (Keeps.request trivial (hkeys _)) fun keys => ?_
  apply Keeps.mapM
  intro key
  unfold readRow
  exact Keeps.bind (Keeps.request trivial (hrow key)) fun fields => Keeps.pure _

theorem Keeps.mono {wider : Request → Prop} {p : Program α} (hp : Keeps allowed p)
    (hwider : ∀ q, allowed q → wider q) : Keeps wider p :=
  Ensures.widen hp (fun _ => hwider) fun _ _ _ _ _ _ => trivial

/-- What a program ensures, it ensures with the requests to which it keeps. -/
theorem Ensures.keeping {p : Program α} {s : σ} {Q : α → σ → Prop} (h : Ensures E p s Q)
    (hp : Keeps allowed p) : Ensures (E.only allowed) p s Q := by
  unfold Keeps at hp
  induction p generalizing s with
  | done a => exact h
  | fail e => exact h
  | ask q next ih =>
      rcases log_or_question q with ⟨event, rfl⟩ | hq
      · exact ih () h hp
      · rcases (ensures_ask hq).mp h with ⟨hserves, hnext⟩
        rcases (ensures_ask hq).mp hp with ⟨hallowed, hrest⟩
        exact (ensures_ask hq).mpr
          ⟨⟨hserves, hallowed⟩, fun x t hx => ih x (hnext x t hx) (hrest x () trivial)⟩

theorem Keeps.ensures {p : Program α} (hp : Keeps allowed p) {s : σ}
    {inv : σ → Prop} (hserves : ∀ s q, inv s → allowed q → E.serves s q)
    (hstep : ∀ s q x t, inv s → allowed q → E.answers s q x t → inv t) (hs : inv s) :
    Ensures E p s fun _ t => inv t := by
  unfold Keeps at hp
  induction p generalizing s with
  | done a => exact hs
  | fail e => exact absurd hp id
  | ask q next ih =>
      rcases log_or_question q with ⟨event, rfl⟩ | hq
      · exact ih () hp hs
      · rcases (ensures_ask hq).mp hp with ⟨hallowed, hnext⟩
        refine (ensures_ask hq).mpr ⟨hserves s q hs hallowed, ?_⟩
        intro x t hx
        exact ih x (hnext x () trivial) (hstep s q x t hs hallowed hx)

end Program
end RouteAudit
