import RouteAudit.Proofs.Store.History
import RouteAudit.Proofs.World.Calm

/-!
# A store that changes while it is read

A cycle makes its requests one after another, and between any two of them the other process
may act.  Each request is answered at some later moment of the history, with what the store
then holds.  A subscriber is told every change from its subscription on, each at its time.
-/

namespace RouteAudit
namespace History

open Program

/-!
# Surroundings
-/

/-- Where a run stands: the time, the number of actions that are done, and how many of them
were done at its marks. -/
structure State where
  clock : Time
  done : Nat
  /-- The moment of the subscription. -/
  subscribed : Nat
  /-- The moment at which the programmed routes were read. -/
  readAt : Nat
  /-- The last moment before the end of the window. -/
  drainedAt : Nat

/-- Time passes and nothing is marked. -/
structure After (s t : State) : Prop where
  clock : s.clock ≤ t.clock
  done : s.done ≤ t.done
  subscribed : t.subscribed = s.subscribed
  readAt : t.readAt = s.readAt
  drainedAt : t.drainedAt = s.drainedAt

/-- Time passes up to some moment. -/
def Reaches (h : History) (s t : State) : Prop := After s t ∧ h.Fits t.clock t.done

/-- A world in which a subscriber waits for the changes since its subscription. -/
def listening (h : History) (site : String) (s : State) : World :=
  { now := s.clock, feeds := Table.set .empty site ⟨h.changesFrom s.subscribed, .silent⟩ }

/-- The state at the end of a window that opens at a state. -/
def windowEnd (h : History) (window : Time) (s : State) : State :=
  { s with clock := s.clock + window, drainedAt := h.countBefore (s.clock + window) }

def answers (h : History) (s : State) : (q : Request) → q.Answer → State → Prop
  | .keys _ db pattern, x, t => exists u, h.Reaches s u ∧
      (∀ key, key ∈ x ↔ key ∈ (h.storeAt u.done).keys db pattern) ∧
      t = if db = .asic then { u with readAt := u.done } else u
  | .row _ db key, x, t => h.Reaches s t ∧ x = (h.storeAt t.done).fieldsOf db key
  | .subscribe _, _, t => exists u, h.Reaches s u ∧ t = { u with subscribed := u.done }
  | .drain site window, x, t => exists u, h.Reaches s u ∧
      ((h.listening site u).drain site window).1 = .ok x ∧ h.Reaches (h.windowEnd window u) t
  | .remaining, x, t => 0 < x ∧ h.Reaches s t
  | .log _, _, t => t = s
  | .enter _, _, t => h.Reaches s t
  | .fetch _, _, t => h.Reaches s t
  | .pause _ _, _, t => h.Reaches s t

def surroundings (h : History) : Surroundings State := ⟨fun _ _ => True, h.answers⟩

variable {h : History} {s t u : State}

theorem After.refl (s : State) : After s s :=
  ⟨Nat.le_refl _, Nat.le_refl _, rfl, rfl, rfl⟩

theorem After.trans (hst : After s t) (htu : After t u) : After s u :=
  ⟨Nat.le_trans hst.clock htu.clock, Nat.le_trans hst.done htu.done,
    htu.subscribed.trans hst.subscribed, htu.readAt.trans hst.readAt,
    htu.drainedAt.trans hst.drainedAt⟩

/-!
# Requests that mark nothing
-/

def IsPlain : Request → Prop
  | .keys _ db _ => db ≠ .asic
  | .subscribe _ => False
  | .drain _ _ => False
  | _ => True

theorem ensures_plain {α : Type} {p : Program α} (hp : Keeps IsPlain p) :
    Ensures h.surroundings p s fun _ t => After s t := by
  refine hp.ensures (fun _ _ _ _ => trivial) ?_ (After.refl s)
  intro t q x u hst hq hx
  cases q with
  | log event =>
      obtain rfl : u = t := hx
      exact hst
  | enter stage => exact hst.trans hx.1
  | remaining => exact hst.trans hx.2.1
  | keys site db pattern =>
      rcases hx with ⟨v, hreach, _, rfl⟩
      rw [if_neg hq]
      exact hst.trans hreach.1
  | row site db key => exact hst.trans hx.1.1
  | subscribe site => exact absurd hq id
  | drain site window => exact absurd hq id
  | fetch daemon => exact hst.trans hx.1
  | pause duration stage => exact hst.trans hx.1

/-!
# What a window tells
-/

/-- Nothing of a kind was told about a key from the subscription to the end of the window. -/
def Quiet (h : History) (t : State) (kind : ChangeKind) (k : RouteKey) : Prop :=
  ∀ i time, t.subscribed ≤ i → i < t.drainedAt → h.changeAt i ≠ some (time, ⟨kind, k⟩)

theorem Quiet.of_after {kind : ChangeKind} {k : RouteKey} (hst : After s t)
    (hquiet : h.Quiet s kind k) : h.Quiet t kind k := by
  intro i time hi hlt
  rw [hst.subscribed] at hi
  rw [hst.drainedAt] at hlt
  exact hquiet i time hi hlt

/-- What was told by the end of a window does not change after it. -/
theorem drained_of_after {kind : ChangeKind} {k : RouteKey} (hst : After s t)
    (hdrained : s.readAt ≤ s.drainedAt ∧ h.Quiet s kind k) :
    t.readAt ≤ t.drainedAt ∧ h.Quiet t kind k := by
  rcases hdrained with ⟨hmarks, hquiet⟩
  rw [hst.readAt, hst.drainedAt]
  exact ⟨hmarks, hquiet.of_after hst⟩

theorem holds_listening (h : History) (site : String) (s : State) :
    Calm.Holds ⟨site, .empty, 0⟩
      ⟨s.clock, .ofChanges [], ⟨h.changesFrom s.subscribed, .silent⟩⟩ (h.listening site s) :=
  ⟨⟨.empty, rfl, rfl, rfl, rfl, rfl⟩, rfl, World.feed_setFeed_self (w := {}), rfl, rfl, rfl,
    fun _ ho => absurd ho List.not_mem_nil⟩

/-- A window never fails, and takes all changes before its end. -/
theorem drain_listening (h : History) (site : String) (window : Time) (s : State) :
    ((h.listening site s).drain site window).1 = .ok (.ofChanges
      (Feed.arriving (s.clock + window) s.clock (h.changesFrom s.subscribed))) := by
  have hdrain := (h.holds_listening site s).drain window
  cases hresult : (h.listening site s).drain site window with
  | mk result v =>
      rw [hresult] at hdrain
      cases result with
      | error stop => cases hdrain
      | ok d =>
          rcases hdrain with ⟨rfl, _⟩
          rfl

theorem arriving_of_changeAt {window : Nat} {i : Nat} {time : Time} {c : Change}
    (hwindow : 0 < window) (hi : s.subscribed ≤ i)
    (hlt : i < h.countBefore (s.clock + window)) (hc : h.changeAt i = some (time, c)) :
    c ∈ Feed.arriving (s.clock + window) s.clock (h.changesFrom s.subscribed) := by
  rcases changeAt_time hc with ⟨a, ha⟩
  have htime := time_lt_of_lt_countBefore hlt ha
  exact Feed.mem_arriving_of_lt (h.pairwise_changesFrom _) (Nat.lt_add_of_pos_right hwindow)
    (mem_changesFrom hi hc) htime

/-- A key that a window does not credit was told of by nobody until its end. -/
theorem ensures_drain {site : String} {window : Nat} (hwindow : 0 < window) :
    Ensures h.surroundings (request (.drain site window)) s fun d t =>
      t.subscribed = s.subscribed ∧ t.readAt = s.readAt ∧
      (h.DoneBy s.clock s.readAt → t.readAt ≤ t.drainedAt) ∧
      (∀ k, k ∉ d.adds → h.Quiet t .add k) ∧ (∀ k, k ∉ d.removes → h.Quiet t .remove k) := by
  rw [ensures_request (q := .drain site window) trivial]
  refine ⟨trivial, ?_⟩
  intro d t hparts
  rcases hparts with ⟨u, ⟨hsu, _⟩, hdrain, ⟨hut, _⟩⟩
  rw [drain_listening] at hdrain
  cases hdrain
  have htold : ∀ {i time c}, t.subscribed ≤ i → i < t.drainedAt → h.changeAt i = some (time, c) →
      c ∈ Feed.arriving (u.clock + window) u.clock (h.changesFrom u.subscribed) := by
    intro i time c hi hlt hc
    rw [hut.subscribed] at hi
    rw [hut.drainedAt] at hlt
    exact arriving_of_changeAt hwindow hi hlt hc
  refine ⟨hut.subscribed.trans hsu.subscribed, hut.readAt.trans hsu.readAt, ?_, ?_, ?_⟩
  · intro hdone
    rw [hut.readAt, hut.drainedAt]
    show u.readAt ≤ h.countBefore (u.clock + window)
    rw [hsu.readAt]
    exact hdone.le_countBefore
      (Nat.lt_of_le_of_lt hsu.clock (Nat.lt_add_of_pos_right hwindow))
  · intro k hk i time hi hlt hc
    exact hk (Drained.mem_adds_ofChanges.mpr (htold hi hlt hc))
  · intro k hk i time hi hlt hc
    exact hk (Drained.mem_removes_ofChanges.mpr (htold hi hlt hc))

/-!
# Runs exist
-/

/-- Some moment comes after every state: the one at which all actions are done. -/
theorem exists_reaches (hs : s.done ≤ h.actions.length) :
    exists t, h.Reaches s t ∧ t.done ≤ h.actions.length := by
  have hlast : exists last : Time, ∀ a ∈ h.actions, a.1 ≤ last := by
    refine ⟨(h.actions.map (·.1)).max?.getD 0, ?_⟩
    intro a ha
    exact List.le_max?_getD_of_mem (List.mem_map_of_mem ha)
  rcases hlast with ⟨last, hlast⟩
  refine ⟨{ s with clock := max s.clock last, done := h.actions.length },
    ⟨⟨Nat.le_max_left _ _, hs, rfl, rfl, rfl⟩, ⟨Nat.le_refl _, ?_⟩, ?_⟩, Nat.le_refl _⟩
  · intro i time a _ ha
    exact Nat.le_trans (hlast _ (List.mem_of_getElem? ha)) (Nat.le_max_right _ _)
  · intro i time a hi ha
    rcases List.getElem?_eq_some_iff.mp ha with ⟨hlt, _⟩
    exact absurd hlt (Nat.not_lt.mpr hi)

theorem exists_answer (q : Request) (hs : s.done ≤ h.actions.length) :
    exists x t, h.answers s q x t ∧ t.done ≤ h.actions.length := by
  rcases exists_reaches hs with ⟨t, ht, hdone⟩
  cases q with
  | log event => exact ⟨(), s, rfl, hs⟩
  | enter stage => exact ⟨.idle, t, ht, hdone⟩
  | remaining => exact ⟨(1 : Nat), t, ⟨Nat.one_pos, ht⟩, hdone⟩
  | keys site db pattern =>
      refine ⟨(h.storeAt t.done).keys db pattern, _, ⟨t, ht, fun _ => Iff.rfl, rfl⟩, ?_⟩
      split
      · exact hdone
      · exact hdone
  | row site db key => exact ⟨_, t, ⟨ht, rfl⟩, hdone⟩
  | subscribe site => exact ⟨(), _, ⟨t, ht, rfl⟩, hdone⟩
  | drain site window =>
      have hend : (h.windowEnd window t).done ≤ h.actions.length := hdone
      rcases exists_reaches hend with ⟨u, hu, hlast⟩
      exact ⟨_, u, ⟨t, ht, h.drain_listening site window t, hu⟩, hlast⟩
  | fetch daemon => exact ⟨([] : List Json), t, ht, hdone⟩
  | pause duration stage => exact ⟨(), t, ht, hdone⟩

end History
end RouteAudit
