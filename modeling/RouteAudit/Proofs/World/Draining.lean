import RouteAudit.Proofs.World.Race
import RouteAudit.Proofs.World.Window

/-!
# Drains

A drain takes from a feed what comes before the end of its window, whether it was there
before the window opened or came while it was open.  It lasts until the window ends, or until
the feed closes or breaks if that is sooner.  What the feed does in the very instant in which
the window ends is left open here.
-/

namespace RouteAudit

/-- When a feed closes or breaks. -/
def FeedEnd.time? : FeedEnd → Option Time
  | .silent => none
  | .closes time => some time
  | .breaks time _ => some time

namespace Feed

/-- The changes of a feed come in the order of their times, and before its end. -/
structure InOrder (f : Feed) : Prop where
  events : f.events.Pairwise fun a b => a.1 ≤ b.1
  ending : ∀ time, f.ending.time? = some time → ∀ e ∈ f.events, e.1 ≤ time

/-- A feed that does nothing in an instant. -/
structure IsIdleAt (f : Feed) (instant : Time) : Prop where
  events : ∀ e ∈ f.events, e.1 ≠ instant
  ending : ∀ time, f.ending.time? = some time → time ≠ instant

/-- The changes that come before a time. -/
def before (finish : Time) (f : Feed) : List Change :=
  (f.events.filter fun e => e.1 < finish).map Prod.snd

/-- What is left of a feed after a time. -/
def after (finish : Time) (f : Feed) : Feed :=
  ⟨f.events.filter fun e => finish < e.1, f.ending⟩

/-- When a drain ends that starts at one time and whose window ends at another. -/
def drainedAt (start finish : Time) (f : Feed) : Time :=
  match f.ending with
  | .closes time => if time < finish then max start time else finish
  | _ => finish

variable {f : Feed} {ending : FeedEnd} {time finish start : Nat} {c : Change}
  {rest : List (Time × Change)}

theorem mem_before :
    c ∈ f.before finish ↔ exists time, time < finish ∧ (time, c) ∈ f.events := by
  unfold before
  simp only [List.mem_map, List.mem_filter, decide_eq_true_eq, Prod.exists, exists_eq_right]
  exact exists_congr fun _ => and_comm

theorem InOrder.tail (h : InOrder ⟨(time, c) :: rest, ending⟩) : InOrder ⟨rest, ending⟩ where
  events := (List.pairwise_cons.mp h.events).2
  ending closing hclosing e he := h.ending closing hclosing e (List.mem_cons_of_mem _ he)

/-- The first change of a feed comes before all that follows. -/
theorem InOrder.first_le (h : InOrder ⟨(time, c) :: rest, ending⟩) : ∀ e ∈ rest, time ≤ e.1 :=
  (List.pairwise_cons.mp h.events).1

theorem IsIdleAt.tail (h : IsIdleAt ⟨(time, c) :: rest, ending⟩ finish) :
    IsIdleAt ⟨rest, ending⟩ finish where
  events e he := h.events e (List.mem_cons_of_mem _ he)
  ending := h.ending

theorem before_cons_of_lt (h : time < finish) :
    before finish ⟨(time, c) :: rest, ending⟩ = c :: before finish ⟨rest, ending⟩ := by
  have hkept : decide ((time, c).1 < finish) = true := decide_eq_true h
  unfold before
  dsimp only
  rw [List.filter_cons, if_pos hkept, List.map_cons]

theorem after_cons_of_lt (h : time < finish) :
    after finish ⟨(time, c) :: rest, ending⟩ = after finish ⟨rest, ending⟩ := by
  have hdropped : ¬decide (finish < (time, c).1) = true := by
    simpa using Nat.le_of_lt h
  unfold after
  dsimp only
  rw [List.filter_cons, if_neg hdropped]

/-- A feed whose first change comes too late has nothing before the end of the window. -/
theorem before_of_late (h : ∀ e ∈ f.events, finish < e.1) : f.before finish = [] := by
  unfold before
  rw [List.filter_eq_nil_iff.mpr, List.map_nil]
  intro e he
  simpa using Nat.le_of_lt (h e he)

theorem after_of_late (h : ∀ e ∈ f.events, finish < e.1) : f.after finish = f := by
  unfold after
  rw [List.filter_eq_self.mpr fun e he => decide_eq_true (h e he)]

/-- What comes late ends no drain. -/
theorem drainedAt_of_late (h : ∀ time, f.ending.time? = some time → finish < time) :
    f.drainedAt start finish = finish := by
  unfold drainedAt
  split
  · rename_i time hclosing
    have hlate : finish < time := h time (by rw [hclosing]; rfl)
    exact if_neg (Nat.not_lt_of_lt hlate)
  · rfl

end Feed

namespace World

variable {w u v : World} {name : String} {finish time : Nat}

/-!
# Waiting in a window
-/

/-- Nothing stops the run up to a time. -/
def Uninterrupted (w : World) (finish : Time) : Prop := w.watched = true → w.InTime finish

theorem Uninterrupted.later (h : w.Uninterrupted finish) (hwv : Later w v) :
    v.Uninterrupted finish := by
  intro hv
  exact hwv.inTime_iff.mpr (h (hwv.watched.symm.trans hv))

theorem waitUntil_of_uninterrupted (h : w.Uninterrupted finish) (htime : time ≤ finish) :
    exists v, w.waitUntil time = (.ok (), v) ∧ v.now = max w.now time ∧ Later w v := by
  have hlater := (Onward.of_waitUntil time w).later
  have hnone : w.interruption? time = none := by
    cases hwatched : w.watched with
    | false => exact interruption?_of_unwatched hwatched time
    | true => exact interruption?_of_inTime ((h hwatched).of_le htime)
  unfold waitUntil at hlater ⊢
  rw [hnone] at hlater ⊢
  by_cases hpast : time ≤ w.now
  · rw [if_pos hpast]
    exact ⟨w, rfl, (Nat.max_eq_left hpast).symm, Later.refl w⟩
  · rw [if_neg hpast] at hlater ⊢
    exact ⟨w.advance time, rfl, now_advance time w, hlater⟩

/-!
# How a drain ends
-/

/-- The end of a drain of a feed: in the failure of the feed if that comes in the window, and
otherwise with the changes of the window. -/
def DrainEnds (name : String) (start finish : Time) (f : Feed) (d : Drained) :
    Except Stop Drained × World → Prop
  | (.error stop, v) => exists time failure, f.ending = .breaks time failure ∧ time < finish ∧
      stop = .failed failure ∧ v.now = max start time
  | (.ok x, v) => (∀ time failure, f.ending = .breaks time failure → finish < time) ∧
      x = (f.before finish).foldl Drained.record d ∧ v.now = f.drainedAt start finish ∧
      v.feed name = f.after finish

/-- A window in which a feed does nothing is waited for to its end. -/
theorem drainEnds_of_late {f : Feed} {d : Drained} (hopen : w.now < finish)
    (hfree : w.Uninterrupted finish) (hevents : ∀ e ∈ f.events, finish < e.1)
    (hending : ∀ time, f.ending.time? = some time → finish < time) :
    DrainEnds name w.now finish f d (w.endDrainAt name finish f d) := by
  rcases waitUntil_of_uninterrupted hfree (Nat.le_refl finish) with ⟨v, hwait, hnow, _⟩
  unfold endDrainAt
  rw [hwait]
  refine ⟨?_, ?_, ?_, ?_⟩
  · intro time failure hbreaks
    exact hending time (by rw [hbreaks]; rfl)
  · rw [Feed.before_of_late hevents]
    rfl
  · rw [Feed.drainedAt_of_late hending]
    exact hnow.trans (Nat.max_eq_right (Nat.le_of_lt hopen))
  · rw [Feed.after_of_late hevents]
    exact feed_setFeed_self

/-- What a feed does next in the window is waited for. -/
theorem awaitNext_of_lt {left : Feed} {d : Drained} {next : World → Except Stop Drained × World}
    (hopen : w.now < finish) (hfree : w.Uninterrupted finish) (htime : time < finish) :
    exists v, w.awaitNext name finish time left d next = next v ∧ v.now = max w.now time ∧
      Later w v := by
  rcases waitUntil_of_uninterrupted hfree (Nat.le_of_lt htime) with ⟨v, hwait, hnow, hlater⟩
  refine ⟨v, ?_, hnow, hlater⟩
  unfold awaitNext
  rw [if_pos (Nat.max_le.mpr ⟨Nat.le_of_lt hopen, Nat.le_of_lt htime⟩), hwait]

theorem awaitNext_of_gt {left : Feed} {d : Drained} {next : World → Except Stop Drained × World}
    (htime : finish < time) :
    w.awaitNext name finish time left d next = w.endDrainAt name finish left d :=
  if_neg fun hle => Nat.not_le_of_lt htime (Nat.le_trans (Nat.le_max_right _ _) hle)

/-- An end of the feed after the window is left in the feed. -/
theorem drainEnds_awaitNext_of_gt {ending : FeedEnd} {d : Drained}
    {next : World → Except Stop Drained × World} (hopen : w.now < finish)
    (hfree : w.Uninterrupted finish) (htime : ending.time? = some time) (hlate : finish < time) :
    DrainEnds name w.now finish ⟨[], ending⟩ d
      (w.awaitNext name finish time ⟨[], ending⟩ d next) := by
  rw [awaitNext_of_gt hlate]
  refine drainEnds_of_late hopen hfree nofun ?_
  intro other hother
  rw [show ending.time? = some other from hother] at htime
  cases htime
  exact hlate

/-- A feed without changes does no more than end. -/
theorem drainEnds_collectEnd {ending : FeedEnd} {d : Drained} (hopen : w.now < finish)
    (hfree : w.Uninterrupted finish) (hidle : Feed.IsIdleAt ⟨[], ending⟩ finish) :
    DrainEnds name w.now finish ⟨[], ending⟩ d (w.collectEnd name finish ending d) := by
  cases ending with
  | silent => exact drainEnds_of_late hopen hfree nofun nofun
  | closes time =>
      unfold collectEnd
      dsimp only
      by_cases htime : time < finish
      · rcases awaitNext_of_lt hopen hfree htime with ⟨v, hnext, hnow, _⟩
        rw [hnext]
        refine ⟨nofun, rfl, ?_, feed_setFeed_self⟩
        exact hnow.trans (if_pos htime).symm
      · have hlate : finish < time :=
          Nat.lt_of_le_of_ne (Nat.le_of_not_lt htime) (hidle.ending time rfl).symm
        exact drainEnds_awaitNext_of_gt hopen hfree rfl hlate
  | breaks time failure =>
      unfold collectEnd
      dsimp only
      by_cases htime : time < finish
      · rcases awaitNext_of_lt hopen hfree htime with ⟨v, hnext, hnow, _⟩
        rw [hnext]
        exact ⟨time, failure, rfl, htime, rfl, hnow⟩
      · have hlate : finish < time :=
          Nat.lt_of_le_of_ne (Nat.le_of_not_lt htime) (hidle.ending time rfl).symm
        exact drainEnds_awaitNext_of_gt hopen hfree rfl hlate

/-- A change that was taken shifts the start of the drain to its time. -/
theorem DrainEnds.cons {events : List (Time × Change)} {ending : FeedEnd} {c : Change}
    {d : Drained} {start : Nat} {ended : Except Stop Drained × World} (htime : time < finish)
    (hordered : Feed.InOrder ⟨(time, c) :: events, ending⟩)
    (h : DrainEnds name (max start time) finish ⟨events, ending⟩ (d.record c) ended) :
    DrainEnds name start finish ⟨(time, c) :: events, ending⟩ d ended := by
  have hstart : ∀ closing, ending.time? = some closing →
      max (max start time) closing = max start closing := by
    intro closing hclosing
    have hle : time ≤ closing := hordered.ending closing hclosing (time, c) List.mem_cons_self
    rw [Nat.max_assoc, Nat.max_eq_right hle]
  rcases ended with ⟨stop | x, v⟩
  · rcases h with ⟨breaking, failure, hbreaks, hin, hstop, hnow⟩
    have hbreaks' : ending = .breaks breaking failure := hbreaks
    refine ⟨breaking, failure, hbreaks, hin, hstop, ?_⟩
    rw [hnow, hstart breaking (by rw [hbreaks']; rfl)]
  · rcases h with ⟨hbreaks, hx, hnow, hleft⟩
    refine ⟨hbreaks, ?_, ?_, ?_⟩
    · rw [hx, Feed.before_cons_of_lt htime, List.foldl_cons]
    · rw [hnow]
      unfold Feed.drainedAt
      cases ending with
      | closes closing =>
          dsimp only
          rw [hstart closing rfl]
      | _ => rfl
    · rw [hleft, Feed.after_cons_of_lt htime]

/-- A run of the drain loop takes one change after another until the window or the feed ends. -/
theorem drainEnds_collect {events : List (Time × Change)} {ending : FeedEnd} {d : Drained}
    (hopen : w.now < finish) (hfree : w.Uninterrupted finish)
    (hordered : Feed.InOrder ⟨events, ending⟩) (hidle : Feed.IsIdleAt ⟨events, ending⟩ finish) :
    DrainEnds name w.now finish ⟨events, ending⟩ d (w.collect name finish ending events d) := by
  induction events generalizing w d with
  | nil =>
      unfold collect
      rw [if_neg (Nat.not_le_of_lt hopen)]
      exact drainEnds_collectEnd hopen hfree hidle
  | cons event rest ih =>
      rcases event with ⟨time, c⟩
      unfold collect
      rw [if_neg (Nat.not_le_of_lt hopen)]
      by_cases htime : time < finish
      · rcases awaitNext_of_lt hopen hfree htime with ⟨v, hnext, hnow, hlater⟩
        have hnoted := hlater.trans (Onward.of_note (notificationEvent c) v).later
        have hrest := ih (w := v.note (notificationEvent c)) (d := d.record c)
          (by rw [show (v.note (notificationEvent c)).now = v.now from rfl, hnow]
              exact Nat.max_lt.mpr ⟨hopen, htime⟩)
          (hfree.later hnoted) hordered.tail hidle.tail
        rw [hnext]
        refine DrainEnds.cons htime hordered ?_
        rw [← hnow]
        exact hrest
      · -- the first change comes too late, and so does all that follows it
        have hlate : finish < time := Nat.lt_of_le_of_ne (Nat.le_of_not_lt htime)
          (hidle.events (time, c) List.mem_cons_self).symm
        rw [awaitNext_of_gt hlate]
        refine drainEnds_of_late hopen hfree ?_ ?_
        · intro e he
          cases List.mem_cons.mp he with
          | inl heq => exact heq ▸ hlate
          | inr hmem => exact Nat.lt_of_lt_of_le hlate (hordered.first_le e hmem)
        · intro closing hclosing
          exact Nat.lt_of_lt_of_le hlate
            (hordered.ending closing hclosing (time, c) List.mem_cons_self)

/-!
# Drains of a feed
-/

/-- A drain takes exactly what its window holds.  If the feed breaks in the window, the drain
fails with the failure of the feed, when that comes.  Otherwise it has the keys of just the
changes that came before the end of the window; it lasts until the feed closes, which may be
at once, or else until the window ends and never longer; and what comes later is left. -/
theorem drain_takes_window (name : String) (window : Time) (w : World) (hwindow : 0 < window)
    (hordered : (w.feed name).InOrder) (hidle : (w.feed name).IsIdleAt (w.now + window))
    (hfree : w.Uninterrupted (w.now + window)) :
    (∀ time failure, (w.feed name).ending = .breaks time failure → time < w.now + window →
      exists v, w.drain name window = (.error (.failed failure), v) ∧ v.now = max w.now time) ∧
    ((∀ time failure, (w.feed name).ending = .breaks time failure → w.now + window < time) →
      exists d v, w.drain name window = (.ok d, v) ∧
        (∀ k, k ∈ d.adds ↔
          exists time, time < w.now + window ∧ (time, ⟨.add, k⟩) ∈ (w.feed name).events) ∧
        (∀ k, k ∈ d.removes ↔
          exists time, time < w.now + window ∧ (time, ⟨.remove, k⟩) ∈ (w.feed name).events) ∧
        (∀ time, (w.feed name).ending = .closes time → time < w.now + window →
          v.now = max w.now time) ∧
        ((∀ time, (w.feed name).ending = .closes time → w.now + window < time) →
          v.now = w.now + window) ∧
        v.feed name = ⟨(w.feed name).events.filter fun e => w.now + window < e.1,
          (w.feed name).ending⟩) := by
  have hopen : w.now < w.now + window := Nat.lt_add_of_pos_right hwindow
  have hends : DrainEnds name w.now (w.now + window) (w.feed name) .empty (w.drain name window) :=
    drainEnds_collect hopen hfree hordered hidle
  rcases hdrain : w.drain name window with ⟨stop | d, v⟩
  · rw [hdrain] at hends
    rcases hends with ⟨time, failure, hbreaks, hin, rfl, hnow⟩
    constructor
    · intro other reason hother _
      rw [hbreaks] at hother
      cases hother
      exact ⟨v, rfl, hnow⟩
    · intro hworks
      exact absurd (hworks time failure hbreaks) (Nat.not_lt_of_lt hin)
  · rw [hdrain] at hends
    rcases hends with ⟨hworks, rfl, hnow, hleft⟩
    constructor
    · intro time failure hbreaks hin
      exact absurd (hworks time failure hbreaks) (Nat.not_lt_of_lt hin)
    · intro _
      refine ⟨_, v, rfl, ?_, ?_, ?_, ?_, hleft⟩
      · intro k
        rw [Drained.mem_adds_foldl, Feed.mem_before]
        exact or_iff_right Ascending.not_mem_empty
      · intro k
        rw [Drained.mem_removes_foldl, Feed.mem_before]
        exact or_iff_right Ascending.not_mem_empty
      · intro time hcloses hin
        rw [hnow]
        unfold Feed.drainedAt
        rw [hcloses]
        exact if_pos hin
      · intro hcloses
        rw [hnow]
        unfold Feed.drainedAt
        cases hending : (w.feed name).ending with
        | closes time => exact if_neg (Nat.not_lt_of_lt (hcloses time hending))
        | _ => rfl

/-- A world whose clock stands at two, with a feed that holds one change from before that time,
one that comes in a window of five, and one that comes after it. -/
def feeding : World :=
  { now := 2
    feeds := .set .empty "" ⟨[(1, ⟨.add, .network 10 0 0⟩), (4, ⟨.remove, .network 10 1 0⟩),
      (8, ⟨.add, .network 10 2 0⟩)], .closes 9⟩ }

theorem drain_of_feeding :
    exists d v, feeding.drain "" 5 = (.ok d, v) ∧ .network 10 0 0 ∈ d.adds ∧
      .network 10 1 0 ∈ d.removes ∧ .network 10 2 0 ∉ d.adds ∧ v.now = 7 ∧
      v.feed "" = ⟨[(8, ⟨.add, .network 10 2 0⟩)], .closes 9⟩ := by
  have hordered : (feeding.feed "").InOrder := by
    constructor
    · decide
    · rintro _ ⟨⟩
      decide
  have hidle : (feeding.feed "").IsIdleAt (feeding.now + 5) := by
    constructor
    · decide
    · rintro _ ⟨⟩
      decide
  rcases (drain_takes_window "" 5 feeding (by decide) hordered hidle nofun).2 nofun with
    ⟨d, v, hdrain, hadds, hremoves, _, hnow, hleft⟩
  refine ⟨d, v, hdrain, (hadds _).mpr ⟨1, by decide⟩, (hremoves _).mpr ⟨4, by decide⟩, ?_, ?_, ?_⟩
  · intro hmem
    rcases (hadds _).mp hmem with ⟨time, hin, hevent⟩
    have hlate : ∀ e ∈ (feeding.feed "").events, e.2 = ⟨.add, .network 10 2 0⟩ → 7 < e.1 := by
      decide
    exact absurd hin (Nat.not_lt_of_lt (hlate _ hevent rfl))
  · refine hnow ?_
    rintro _ ⟨⟩
    decide
  · rw [hleft]
    decide

end World
end RouteAudit
