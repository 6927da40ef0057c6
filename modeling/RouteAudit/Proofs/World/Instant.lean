import RouteAudit.Proofs.World.Calm
import RouteAudit.Proofs.World.Subscribing

/-!
# Work at one site that takes no time

Where keys are listed without a delay, and all changes of a feed are there when it is handed
out, nothing that is asked of a site takes time.  A program that works at one site then leaves
the clock and all other sites as they were.
-/

namespace RouteAudit

open Program

/-- The changes of a feed are all there at a time, and then it closes. -/
structure Feed.IsPresent (f : Feed) (now : Time) : Prop where
  ending : exists time, time ≤ now ∧ f.ending = .closes time
  events : ∀ e ∈ f.events, e.1 ≤ now

theorem Feed.isPresent_ofChanges (changes : List Change) (now : Time) :
    ((Feed.ofChanges changes).startingAt now).IsPresent now := by
  constructor
  · exact ⟨now, Nat.le_refl now, rfl⟩
  · intro e he
    unfold Feed.startingAt Feed.ofChanges at he
    rw [List.map_map] at he
    rcases List.mem_map.mp he with ⟨c, _, rfl⟩
    exact Nat.le_refl now

namespace World

variable {base w v : World} {site : String} {subscribed : Bool}

/-!
# Requests that take no time
-/

theorem instant_keys {s : Store} (db : Database) (pattern : String)
    (hs : w.site site = .memory s) (hdelay : s.delay.getD 0 = 0) :
    (w.keys site db pattern).2.now = w.now ∧ (w.keys site db pattern).2.feeds = w.feeds := by
  unfold keys
  rw [hs]
  dsimp only
  split
  · exact ⟨rfl, rfl⟩
  · have hwait : ∀ u : World, u.waitUntil (u.now + 0) = (.ok (), u) :=
      fun u => if_pos (Nat.le_refl _)
    rw [hdelay, hwait]
    dsimp only
    split
    · exact ⟨rfl, rfl⟩
    · exact ⟨rfl, rfl⟩

theorem row_snd {db : Database} {key : String} : (w.row site db key).2 = w := by
  unfold row
  split
  · rfl
  · split
    · rfl
    · rfl

theorem instant_endDrain {left : Feed} {d : Drained} (hleft : left.IsPresent w.now) :
    (w.endDrain site left d).2.now = w.now ∧
      ((w.endDrain site left d).2.feed site).IsPresent w.now := by
  have hfeed : (w.endDrain site left d).2.feed site = left := feed_setFeed_self
  rw [hfeed]
  exact ⟨rfl, hleft⟩

/-- What a feed does at once is not waited for. -/
theorem awaitNext_of_le {finish time : Nat} {left : Feed} {d : Drained}
    {next : World → Except Stop Drained × World} (htime : time ≤ w.now) (hopen : w.now ≤ finish) :
    w.awaitNext site finish time left d next = next w := by
  have hwait : w.waitUntil time = (.ok (), w) := if_pos htime
  unfold awaitNext
  rw [Nat.max_eq_left htime, if_pos hopen, hwait]

theorem instant_collect {finish closing : Nat} {events : List (Time × Change)} {d : Drained}
    (hclosing : closing ≤ w.now) (hevents : ∀ e ∈ events, e.1 ≤ w.now) :
    (w.collect site finish (.closes closing) events d).2.now = w.now ∧
      ((w.collect site finish (.closes closing) events d).2.feed site).IsPresent w.now := by
  induction events generalizing w d with
  | nil =>
      have hleft : Feed.IsPresent ⟨[], .closes closing⟩ w.now := ⟨⟨closing, hclosing, rfl⟩, hevents⟩
      unfold collect
      split
      · exact instant_endDrain hleft
      · rename_i hopen
        unfold collectEnd
        dsimp only
        rw [awaitNext_of_le hclosing (Nat.le_of_not_le hopen)]
        exact instant_endDrain (w := w.note feedClosedEvent) hleft
  | cons event rest ih =>
      rcases event with ⟨time, c⟩
      rcases List.forall_mem_cons.mp hevents with ⟨htime, hrest⟩
      unfold collect
      split
      · exact instant_endDrain ⟨⟨closing, hclosing, rfl⟩, hevents⟩
      · rename_i hopen
        rw [awaitNext_of_le htime (Nat.le_of_not_le hopen)]
        exact ih (w := w.note (notificationEvent c)) hclosing hrest

theorem instant_drain (window : Time) (h : (w.feed site).IsPresent w.now) :
    (w.drain site window).2.now = w.now ∧
      ((w.drain site window).2.feed site).IsPresent w.now := by
  rcases h.ending with ⟨closing, hclosing, heq⟩
  unfold drain
  dsimp only
  rw [heq]
  exact instant_collect hclosing h.events

/-!
# What a program leaves alone
-/

/-- A world that a program reached while it worked at one site, in no time. -/
structure Beside (base : World) (site : String) (subscribed : Bool) (w : World) : Prop where
  now : w.now = base.now
  deadline : w.deadline = base.deadline
  watched : w.watched = base.watched
  cancelAt : w.cancelAt = base.cancelAt
  quiet : w.outside = []
  own : exists s, w.site site = .memory s ∧ s.delay.getD 0 = 0 ∧ s.upcoming = none
  feed : subscribed = true → (w.feed site).IsPresent w.now
  others : ∀ other s, other ≠ site → base.site other = .memory s →
    exists t, w.site other = .memory t ∧ s.SameContent t

theorem Beside.quietAt (h : Beside base site subscribed w) (name : String) :
    ∀ o ∈ w.outside, o.site ≠ name := by
  rw [h.quiet]
  exact fun o ho => absurd ho List.not_mem_nil

/-- A request that takes no time goes on beside the other sites. -/
theorem Beside.onward (h : Beside base site subscribed w) (hwv : Onward w v)
    (hnow : v.now = w.now) (hfeed : subscribed = true → (v.feed site).IsPresent w.now) :
    Beside base site subscribed v where
  now := hnow.trans h.now
  deadline := hwv.deadline.trans h.deadline
  watched := hwv.watched.trans h.watched
  cancelAt := hwv.cancelAt.trans h.cancelAt
  quiet := by
    have hsubset := hwv.outside
    rw [h.quiet] at hsubset
    exact List.subset_nil.mp hsubset
  own := by
    rcases h.own with ⟨s, hs, hdelay, hupcoming⟩
    rcases hwv.tables site s (h.quietAt site) hs with ⟨t, ht, hst⟩
    refine ⟨t, ht, ?_, hst.upcoming.trans hupcoming⟩
    rw [hst.delay]
    exact hdelay
  feed := by
    rw [hnow]
    exact hfeed
  others other s hother hs := by
    rcases h.others other s hother hs with ⟨t, ht, hst⟩
    rcases hwv.tables other t (h.quietAt other) ht with ⟨r, hr, htr⟩
    exact ⟨r, hr, hst.trans htr⟩

theorem Beside.enter {stage left : Stage} (h : Beside base site subscribed w)
    (henter : w.enter stage = (.ok left, v)) : Beside base site subscribed v := by
  rcases enter_of_ok henter with ⟨_, rfl⟩
  exact ⟨h.now, h.deadline, h.watched, h.cancelAt, h.quiet, h.own, h.feed, h.others⟩

theorem Beside.subscribe (h : Beside base site subscribed w)
    (hsubscribe : w.subscribe site = (.ok (), v)) : Beside base site true v := by
  rcases h.own with ⟨s, hs, hdelay, hupcoming⟩
  rcases subscribe_of_ok hsubscribe with ⟨t, ht, rfl⟩
  rw [hs] at ht
  cases ht
  refine ⟨h.now, h.deadline, h.watched, h.cancelAt, h.quiet, ?_, ?_, ?_⟩
  · exact ⟨_, site_setSite_self, hdelay, rfl⟩
  · intro _
    rw [feed_setFeed_self]
    unfold Store.subscribe Store.grant
    dsimp only
    rw [hupcoming]
    exact Feed.isPresent_ofChanges _ _
  · intro other r hother hr
    rcases h.others other r hother hr with ⟨t, ht, hrt⟩
    exact ⟨t, (site_setSite_of_ne hother).trans ht, hrt⟩

/-- The surroundings of a program that works at one site and asks no routing daemon. -/
def atSite (site : String) : Surroundings Bool :=
  (Surroundings.subscribing site).only fun q => ¬Calm.IsDaemonRequest q

theorem Beside.follows (base : World) (site : String) :
    Follows (atSite site) (Beside base site) where
  note event h := h.onward (.of_note event _) rfl h.feed
  sound := by
    intro subscribed w q x v hq h hserves hanswer
    rcases hserves with ⟨hmay, hdaemon⟩
    refine ⟨_, rfl, ?_⟩
    have hwv : IsPassive q → Onward w v := by
      intro hpassive
      have honward := onward_answer hpassive w
      rw [hanswer] at honward
      exact honward
    cases q with
    | log event => exact absurd hq id
    | enter stage =>
        have hnone : (Request.enter stage).isSubscription = false := rfl
        rw [hnone, Bool.or_false]
        exact h.enter hanswer
    | remaining =>
        cases hanswer
        have hnone : Request.remaining.isSubscription = false := rfl
        rw [hnone, Bool.or_false]
        exact h
    | keys name db pattern =>
        rcases hmay with ⟨rfl, rfl⟩
        rcases h.own with ⟨s, hs, hdelay, _⟩
        have hinstant := instant_keys db pattern hs hdelay
        have hv : (w.keys name db pattern).2 = v := congrArg Prod.snd hanswer
        rw [hv] at hinstant
        rcases hinstant with ⟨hnow, hfeeds⟩
        apply h.onward (hwv trivial) hnow
        intro _
        unfold World.feed
        rw [hfeeds]
        exact h.feed rfl
    | row name db key =>
        rcases hmay with ⟨rfl, rfl⟩
        have hv : (w.row name db key).2 = v := congrArg Prod.snd hanswer
        rw [row_snd] at hv
        subst hv
        exact h
    | subscribe name =>
        rcases hmay with ⟨rfl, rfl⟩
        exact h.subscribe hanswer
    | drain name window =>
        rcases hmay with ⟨rfl, rfl⟩
        have hinstant := instant_drain window (h.feed rfl)
        have hv : (w.drain name window).2 = v := congrArg Prod.snd hanswer
        rw [hv] at hinstant
        exact h.onward (hwv trivial) hinstant.1 fun _ => hinstant.2
    | fetch daemon => exact absurd trivial hdaemon
    | pause duration stage => exact absurd trivial hdaemon

end World
end RouteAudit
