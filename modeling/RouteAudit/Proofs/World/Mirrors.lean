import RouteAudit.Proofs.World.Subscribing

/-!
# Mirrored worlds

A world mirrors another one for a program of one site if it has the same tables, keeps the
same changes and stands in the same stage, with its clock behind by a fixed time.  Nothing is
refused in the mirror and nothing cancels a run there, so a run that has a result has the same
one in the mirror.  What is left of earlier runs in the feed does not matter before the
subscription.
-/

namespace RouteAudit

open Program

theorem Feed.startingAt_startingAt (f : Feed) (s t : Time) :
    (f.startingAt s).startingAt t = f.startingAt (t + s) := by
  unfold startingAt
  rw [List.map_map]
  congr 1
  · apply List.map_congr_left
    intro event _
    rcases event with ⟨at_, c⟩
    exact congrArg (·, c) (Nat.add_assoc t s at_).symm
  · cases f.ending with
    | silent => rfl
    | closes time => exact congrArg FeedEnd.closes (Nat.add_assoc t s time).symm
    | breaks time failure =>
        exact congrArg (FeedEnd.breaks · failure) (Nat.add_assoc t s time).symm

/-- A store that refuses nothing, with the tables of another one and the changes that it keeps. -/
structure Store.Mirrors (m n : Store) : Prop where
  rows : n.rows = m.rows
  delay : n.delay = m.delay
  scripted : n.scripted = m.scripted
  unheard : m.upcoming = none
  fresh : n.upcoming = none
  healthy : n.failing = []

theorem Store.Mirrors.not_refused {m n : Store} (h : m.Mirrors n) (db : Database) :
    ¬n.refused db = true :=
  Bool.eq_false_iff.mp (Store.not_refused h.healthy)

namespace World

structure Mirror (site : String) (ahead : Time) (subscribed : Bool) (w v : World) : Prop where
  clock : w.now = v.now + ahead
  deadline : w.deadline = v.deadline + ahead
  watched : v.watched = w.watched
  uncancelled : v.cancelAt = none
  stage : v.stage = w.stage
  daemons : v.daemons = w.daemons
  quiet : w.outside = []
  quietBehind : v.outside = []
  stores : exists m n, w.site site = .memory m ∧ v.site site = .memory n ∧ m.Mirrors n
  feed : subscribed = true → w.feed site = (v.feed site).startingAt ahead

namespace Mirror

variable {site : String} {ahead : Time} {subscribed : Bool} {w w' v : World}

theorem note (event : LogEvent) (h : Mirror site ahead subscribed w v) :
    Mirror site ahead subscribed (w.note event) (v.note event) :=
  { h with }

/-!
# Time
-/

theorem advance (t : Time) (h : Mirror site ahead subscribed w v) :
    Mirror site ahead subscribed (w.advance (t + ahead)) (v.advance t) := by
  rw [advance_of_quiet h.quiet, advance_of_quiet h.quietBehind]
  refine { h with clock := ?_ }
  show max w.now (t + ahead) = max v.now t + ahead
  rw [h.clock]
  exact Nat.add_max_add_right v.now t ahead

/-- What does not interrupt a wait does not interrupt it in the mirror. -/
theorem interruption? {t : Time} (h : Mirror site ahead subscribed w v)
    (hfree : w.interruption? (t + ahead) = none) : v.interruption? t = none := by
  unfold World.interruption? at hfree ⊢
  rw [h.watched, h.uncancelled]
  cases hwatched : w.watched with
  | false => rfl
  | true =>
      rw [hwatched, h.deadline] at hfree
      dsimp only at hfree ⊢
      split at hfree
      · rename_i hunwatched
        cases hunwatched
      · split at hfree
        · split at hfree
          · cases hfree
          · cases hfree
        · split at hfree
          · cases hfree
          · rename_i hopen
            exact if_neg fun hover => hopen (Nat.add_lt_add_right hover ahead)

theorem waitUntil {t : Time} (h : Mirror site ahead subscribed w v)
    (hwait : w.waitUntil (t + ahead) = (.ok (), w')) :
    exists v', v.waitUntil t = (.ok (), v') ∧ Mirror site ahead subscribed w' v' := by
  unfold World.waitUntil at hwait ⊢
  rw [h.clock] at hwait
  by_cases ht : t ≤ v.now
  · rw [if_pos (Nat.add_le_add_right ht ahead)] at hwait
    cases hwait
    exact ⟨v, if_pos ht, h⟩
  · rw [if_neg fun hle => ht (Nat.le_of_add_le_add_right hle)] at hwait
    rw [if_neg ht]
    split at hwait
    · cases hwait
    · rename_i hfree
      cases hwait
      rw [h.interruption? hfree]
      exact ⟨_, rfl, h.advance t⟩

/-!
# Requests
-/

theorem enter {stage left : Stage} (h : Mirror site ahead subscribed w v)
    (henter : w.enter stage = (.ok left, w')) :
    exists v', v.enter stage = (.ok left, v') ∧ Mirror site ahead subscribed w' v' := by
  have hfree : v.isCancelled = false := by
    unfold isCancelled
    rw [h.uncancelled]
    rfl
  unfold World.enter at henter ⊢
  rw [if_neg (by rw [hfree]; nofun)]
  split at henter
  · cases henter
  · cases henter
    refine ⟨{ v with stage := stage, entered := stage :: v.entered }, ?_, { h with stage := rfl }⟩
    rw [h.stage]

theorem keys {db : Database} {pattern : String} {x : List String}
    (h : Mirror site ahead subscribed w v) (hkeys : w.keys site db pattern = (.ok x, w')) :
    exists v', v.keys site db pattern = (.ok x, v') ∧ Mirror site ahead subscribed w' v' := by
  rcases h.stores with ⟨m, n, hm, hn, hmirrors⟩
  unfold World.keys at hkeys ⊢
  rw [hm] at hkeys
  rw [hn]
  dsimp only at hkeys ⊢
  rw [if_neg (hmirrors.not_refused _)]
  split at hkeys
  · cases hkeys
  · have hgranted : Mirror site ahead subscribed
        (w.setSite site (.memory (m.grant (Store.keysOperation db pattern))))
        (v.setSite site (.memory (n.grant (Store.keysOperation db pattern)))) :=
      { h with stores := ⟨_, _, site_setSite_self, site_setSite_self, { hmirrors with }⟩ }
    generalize w.setSite site (.memory (m.grant (Store.keysOperation db pattern))) = a
      at hgranted hkeys
    generalize v.setSite site (.memory (n.grant (Store.keysOperation db pattern))) = b
      at hgranted ⊢
    have hfinish : a.now + m.delay.getD 0 = b.now + n.delay.getD 0 + ahead := by
      rw [hgranted.clock, hmirrors.delay]
      exact Nat.add_right_comm _ _ _
    rw [hfinish] at hkeys
    split at hkeys
    · cases hkeys
    · rename_i a' hwait
      rcases hgranted.waitUntil hwait with ⟨b', hwait', hab⟩
      rw [hwait']
      rcases hab.stores with ⟨r, s, hr, hs, hread⟩
      rw [hr] at hkeys
      cases hkeys
      refine ⟨b', ?_, hab⟩
      dsimp only
      rw [hs]
      dsimp only
      rw [Store.keys_congr hread.rows]

theorem row {db : Database} {key : String} {x : Fields} (h : Mirror site ahead subscribed w v)
    (hrow : w.row site db key = (.ok x, w')) :
    v.row site db key = (.ok x, v) ∧ w' = w := by
  rcases h.stores with ⟨m, n, hm, hn, hmirrors⟩
  unfold World.row at hrow ⊢
  rw [hm] at hrow
  rw [hn]
  dsimp only at hrow ⊢
  rw [if_neg (hmirrors.not_refused _)]
  split at hrow
  · cases hrow
  · cases hrow
    refine ⟨?_, rfl⟩
    rw [Store.fieldsOf_congr hmirrors.rows]

theorem subscribe (h : Mirror site ahead subscribed w v)
    (hsubscribe : w.subscribe site = (.ok (), w')) :
    exists v', v.subscribe site = (.ok (), v') ∧ Mirror site ahead true w' v' := by
  rcases subscribe_of_ok hsubscribe with ⟨m, hm, rfl⟩
  rcases h.stores with ⟨r, n, hr, hn, hmirrors⟩
  rw [hm] at hr
  cases hr
  unfold World.subscribe
  rw [hn]
  dsimp only
  rw [if_neg (hmirrors.not_refused _)]
  refine ⟨_, rfl, ?_⟩
  refine
    { h with
      stores := ⟨_, _, site_setSite_self, site_setSite_self,
        { hmirrors with scripted := rfl, unheard := rfl, fresh := rfl }⟩
      feed := fun _ => ?_ }
  rw [feed_setFeed_self, feed_setFeed_self]
  show (m.upcoming.getD (.ofChanges m.scripted)).startingAt w.now =
    ((n.upcoming.getD (.ofChanges n.scripted)).startingAt v.now).startingAt ahead
  rw [Feed.startingAt_startingAt, hmirrors.unheard, hmirrors.fresh, hmirrors.scripted, h.clock,
    Nat.add_comm]

/-!
# Draining
-/

theorem endDrain (left : Feed) {d : Drained} (h : Mirror site ahead subscribed w v) :
    Mirror site ahead subscribed (w.endDrain site (left.startingAt ahead) d).2
      (v.endDrain site left d).2 := by
  refine { h with feed := fun _ => ?_ }
  show (w.setFeed site (left.startingAt ahead)).feed site =
    ((v.setFeed site left).feed site).startingAt ahead
  rw [feed_setFeed_self, feed_setFeed_self]

theorem endDrainAt {finish : Time} (left : Feed) {d x : Drained}
    (h : Mirror site ahead subscribed w v)
    (hend : w.endDrainAt site (finish + ahead) (left.startingAt ahead) d = (.ok x, w')) :
    exists v', v.endDrainAt site finish left d = (.ok x, v') ∧
      Mirror site ahead subscribed w' v' := by
  unfold World.endDrainAt at hend ⊢
  split at hend
  · cases hend
  · rename_i a hwait
    rcases h.waitUntil hwait with ⟨b, hwait', hab⟩
    rw [hwait']
    cases hend
    exact ⟨_, rfl, hab.endDrain left⟩

/-- What comes next in a feed comes next in the mirror, earlier by as much as its clock is. -/
theorem awaitNext {finish time : Time} (left : Feed) {d x : Drained}
    {next next' : World → Except Stop Drained × World}
    (h : Mirror site ahead subscribed w v)
    (hnext : ∀ a b, Mirror site ahead subscribed a b → next a = (.ok x, w') →
      exists v', next' b = (.ok x, v') ∧ Mirror site ahead subscribed w' v')
    (hawait : w.awaitNext site (finish + ahead) (ahead + time) (left.startingAt ahead) d next =
      (.ok x, w')) :
    exists v', v.awaitNext site finish time left d next' = (.ok x, v') ∧
      Mirror site ahead subscribed w' v' := by
  have hmax : max w.now (ahead + time) = max v.now time + ahead := by
    rw [h.clock, Nat.add_comm ahead time]
    exact Nat.add_max_add_right v.now time ahead
  unfold World.awaitNext at hawait ⊢
  rw [hmax] at hawait
  by_cases htime : max v.now time ≤ finish
  · rw [if_pos (Nat.add_le_add_right htime ahead), Nat.add_comm ahead time] at hawait
    rw [if_pos htime]
    split at hawait
    · cases hawait
    · rename_i a hwait
      rcases h.waitUntil hwait with ⟨b, hwait', hab⟩
      rw [hwait']
      exact hnext a b hab hawait
  · rw [if_neg fun hle => htime (Nat.le_of_add_le_add_right hle)] at hawait
    rw [if_neg htime]
    exact h.endDrainAt left hawait

theorem collect {finish : Time} {ending : FeedEnd} {events : List (Time × Change)} {d x : Drained}
    (h : Mirror site ahead subscribed w v)
    (hcollect : w.collect site (finish + ahead) (ending.startingAt ahead)
      (events.map fun (at_, c) => (ahead + at_, c)) d = (.ok x, w')) :
    exists v', v.collect site finish ending events d = (.ok x, v') ∧
      Mirror site ahead subscribed w' v' := by
  have hpast : ∀ {w v : World}, Mirror site ahead subscribed w v →
      (finish + ahead ≤ w.now ↔ finish ≤ v.now) := by
    intro w v h
    rw [h.clock]
    exact Nat.add_le_add_iff_right
  induction events generalizing w v d with
  | nil =>
      rw [List.map_nil] at hcollect
      unfold World.collect at hcollect ⊢
      by_cases hfinish : finish ≤ v.now
      · rw [if_pos ((hpast h).mpr hfinish)] at hcollect
        rw [if_pos hfinish]
        cases hcollect
        exact ⟨_, rfl, h.endDrain ⟨[], ending⟩⟩
      · rw [if_neg fun hle => hfinish ((hpast h).mp hle)] at hcollect
        rw [if_neg hfinish]
        cases ending with
        | silent => exact h.endDrainAt ⟨[], .silent⟩ hcollect
        | closes time =>
            refine h.awaitNext ⟨[], .closes time⟩ (fun a b hab hended => ?_) hcollect
            cases hended
            exact ⟨_, rfl, (hab.note feedClosedEvent).endDrain ⟨[], .closes time⟩⟩
        | breaks time failure =>
            exact h.awaitNext ⟨[], .breaks time failure⟩ (fun a b hab hended => by cases hended)
              hcollect
  | cons event rest ih =>
      rcases event with ⟨time, c⟩
      unfold World.collect
      rw [List.map_cons] at hcollect
      dsimp only at hcollect
      rw [World.collect] at hcollect
      by_cases hfinish : finish ≤ v.now
      · rw [if_pos ((hpast h).mpr hfinish)] at hcollect
        rw [if_pos hfinish]
        cases hcollect
        exact ⟨_, rfl, h.endDrain ⟨(time, c) :: rest, ending⟩⟩
      · rw [if_neg fun hle => hfinish ((hpast h).mp hle)] at hcollect
        rw [if_neg hfinish]
        exact h.awaitNext ⟨(time, c) :: rest, ending⟩
          (fun a b hab hrest => ih (hab.note (notificationEvent c)) hrest) hcollect

theorem drain {window : Time} {x : Drained} (h : Mirror site ahead true w v)
    (hdrain : w.drain site window = (.ok x, w')) :
    exists v', v.drain site window = (.ok x, v') ∧ Mirror site ahead true w' v' := by
  unfold World.drain at hdrain ⊢
  dsimp only at hdrain ⊢
  rw [h.feed rfl, h.clock, Nat.add_right_comm] at hdrain
  exact h.collect hdrain

/-!
# Daemons and pauses
-/

theorem fetch {daemon : Nat} {x : List Json} (h : Mirror site ahead subscribed w v)
    (hfetch : w.fetch daemon = (.ok x, w')) :
    exists v', v.fetch daemon = (.ok x, v') ∧ Mirror site ahead subscribed w' v' := by
  unfold World.fetch at hfetch ⊢
  rw [h.daemons]
  dsimp only at hfetch ⊢
  split at hfetch
  · cases hfetch
    exact ⟨_, rfl, { h with daemons := rfl }⟩
  · cases hfetch

theorem pause {duration : Time} {stage : Stage} (h : Mirror site ahead subscribed w v)
    (hpause : w.pause duration stage = (.ok (), w')) :
    exists v', v.pause duration stage = (.ok (), v') ∧ Mirror site ahead subscribed w' v' := by
  unfold World.pause at hpause ⊢
  rw [h.uncancelled]
  split at hpause
  · cases hpause
  · have hfinish : w.now + duration = v.now + duration + ahead := by
      rw [h.clock]
      exact Nat.add_right_comm _ _ _
    rw [hfinish] at hpause
    rcases h.waitUntil hpause with ⟨v', hwait, hv'⟩
    refine ⟨v', ?_, hv'⟩
    cases v.watched with
    | false => exact hwait
    | true => exact hwait

theorem answer {q : Request} {x : q.Answer} (h : Mirror site ahead subscribed w v)
    (hq : q.MayFollow site subscribed) (hanswer : w.answer q = (.ok x, w')) :
    exists v', v.answer q = (.ok x, v') ∧
      Mirror site ahead (subscribed || q.isSubscription) w' v' := by
  have hsame : ∀ {v' : World}, q.isSubscription = false → Mirror site ahead subscribed w' v' →
      Mirror site ahead (subscribed || q.isSubscription) w' v' := by
    intro v' hnone hv'
    rw [hnone, Bool.or_false]
    exact hv'
  cases q with
  | log event =>
      cases hanswer
      exact ⟨_, rfl, hsame rfl (h.note event)⟩
  | enter stage =>
      rcases h.enter hanswer with ⟨v', henter, hv'⟩
      exact ⟨v', henter, hsame rfl hv'⟩
  | remaining =>
      cases hanswer
      refine ⟨v, ?_, hsame rfl h⟩
      show (Except.ok v.remaining, v) = (.ok w.remaining, v)
      unfold World.remaining
      rw [h.deadline, h.clock, Nat.add_sub_add_right]
  | keys name db pattern =>
      rcases hq with ⟨rfl, _⟩
      rcases h.keys hanswer with ⟨v', hkeys, hv'⟩
      exact ⟨v', hkeys, hsame rfl hv'⟩
  | row name db key =>
      rcases hq with ⟨rfl, _⟩
      rcases h.row hanswer with ⟨hrow, rfl⟩
      exact ⟨v, hrow, hsame rfl h⟩
  | subscribe name =>
      rcases hq with ⟨rfl, rfl⟩
      exact h.subscribe hanswer
  | drain name window =>
      rcases hq with ⟨rfl, rfl⟩
      exact h.drain hanswer
  | fetch daemon =>
      rcases h.fetch hanswer with ⟨v', hfetch, hv'⟩
      exact ⟨v', hfetch, hsame rfl hv'⟩
  | pause duration stage =>
      rcases h.pause hanswer with ⟨v', hpause, hv'⟩
      exact ⟨v', hpause, hsame rfl hv'⟩

/-- A run that has a result has the same one in the mirror. -/
theorem run {α : Type} {p : Program α} {a : α} {Q : α → Bool → Prop}
    (h : Mirror site ahead subscribed w v) (hp : Ensures (.subscribing site) p subscribed Q)
    (hrun : w.run p = (.ok a, w')) : exists v', v.run p = (.ok a, v') := by
  induction p generalizing subscribed w v with
  | done b =>
      cases hrun
      exact ⟨v, rfl⟩
  | fail f => cases hrun
  | ask q next ih =>
      rcases run_ask_cases q next w with ⟨stop, u, _, heq⟩ | ⟨x, u, hanswer, heq⟩
      · rw [heq] at hrun
        cases hrun
      · rw [heq] at hrun
        rcases log_or_question q with ⟨event, rfl⟩ | hq
        · cases hanswer
          exact ih () (h.note event) hp hrun
        · rcases (ensures_ask hq).mp hp with ⟨hserved, hnext⟩
          rcases h.answer hserved hanswer with ⟨v', hanswer', hu⟩
          rcases ih x hu (hnext x _ rfl) hrun with ⟨v'', hrest⟩
          exact ⟨v'', (run_ask_ok hanswer').trans hrest⟩

end Mirror
end World
end RouteAudit
