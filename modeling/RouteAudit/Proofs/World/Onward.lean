import RouteAudit.World
import RouteAudit.Proofs.Ascending.Members

/-!
# What requests leave alone

Only entering a stage moves the stage of a world, and only a subscription takes the changes
that a store keeps.  All other requests let time pass: the clock does not go back, what
limits the run stays, and a store that nothing from outside changes keeps its content.
-/

namespace RouteAudit

namespace Store

theorem keys_congr {s t : Store} {db : Database} {pattern : String} (h : t.rows = s.rows) :
    t.keys db pattern = s.keys db pattern := by
  unfold keys
  rw [h]

theorem fieldsOf_congr {s t : Store} {db : Database} {key : String} (h : t.rows = s.rows) :
    t.fieldsOf db key = s.fieldsOf db key := by
  unfold fieldsOf
  rw [h]

theorem refused_congr {s t : Store} {db : Database} (h : t.failing = s.failing) :
    t.refused db = s.refused db := by
  unfold refused
  rw [h]

theorem not_refused {s : Store} {db : Database} (h : s.failing = []) : s.refused db = false := by
  unfold refused
  rw [h]
  rfl

/-- The number of subscriptions that a store granted. -/
def subscriptions (s : Store) : Nat := s.accesses.count "subscribe"

/-- Stores that differ at most in the reads that they granted. -/
structure SameContent (s t : Store) : Prop where
  rows : t.rows = s.rows
  scripted : t.scripted = s.scripted
  upcoming : t.upcoming = s.upcoming
  failing : t.failing = s.failing
  delay : t.delay = s.delay
  subscriptions : t.subscriptions = s.subscriptions

theorem SameContent.refl (s : Store) : s.SameContent s :=
  ⟨rfl, rfl, rfl, rfl, rfl, rfl⟩

theorem SameContent.trans {s t u : Store} (hst : s.SameContent t) (htu : t.SameContent u) :
    s.SameContent u :=
  ⟨htu.rows.trans hst.rows, htu.scripted.trans hst.scripted, htu.upcoming.trans hst.upcoming,
    htu.failing.trans hst.failing, htu.delay.trans hst.delay,
    htu.subscriptions.trans hst.subscriptions⟩

theorem keysOperation_ne_subscribe (db : Database) (pattern : String) :
    keysOperation db pattern ≠ "subscribe" := by
  intro heq
  have hchars : (keysOperation db pattern).toList = "subscribe".toList := by rw [heq]
  unfold keysOperation at hchars
  simp only [String.toList_append] at hchars
  cases hchars

theorem sameContent_grant_keys (s : Store) (db : Database) (pattern : String) :
    s.SameContent (s.grant (keysOperation db pattern)) := by
  refine ⟨rfl, rfl, rfl, rfl, rfl, ?_⟩
  unfold subscriptions grant
  rw [List.count_append, List.count_singleton, if_neg, Nat.add_zero]
  simpa using keysOperation_ne_subscribe db pattern

end Store

namespace World

variable {w v u : World} {name : String}

/-!
# Sites and feeds
-/

theorem site_setSite_self {place : Site} : (w.setSite name place).site name = place := by
  unfold site setSite
  rw [Table.get?_set_self]
  rfl

theorem site_setSite_of_ne {other : String} {place : Site} (hne : other ≠ name) :
    (w.setSite name place).site other = w.site other := by
  unfold site setSite
  rw [Table.get?_set_of_ne hne]

theorem feed_setFeed_self {f : Feed} : (w.setFeed name f).feed name = f := by
  unfold feed setFeed
  rw [Table.get?_set_self]
  rfl

theorem feed_setFeed_of_ne {other : String} {f : Feed} (hne : other ≠ name) :
    (w.setFeed name f).feed other = w.feed other := by
  unfold feed setFeed
  rw [Table.get?_set_of_ne hne]

/-!
# The passing of time
-/

theorem applyOutside_eq (w : World) (o : OutsideChange) :
    exists sites, w.applyOutside o = { w with sites := sites } := by
  unfold applyOutside changeStore
  split
  · exact ⟨_, rfl⟩
  · exact ⟨w.sites, rfl⟩

theorem foldl_applyOutside_eq (due : List OutsideChange) (w : World) :
    exists sites, due.foldl applyOutside w = { w with sites := sites } := by
  induction due generalizing w with
  | nil => exact ⟨w.sites, rfl⟩
  | cons o rest ih =>
      rcases w.applyOutside_eq o with ⟨sites, hsites⟩
      rw [List.foldl_cons, hsites]
      exact ih _

/-- Time moves the clock and lets changes from outside happen, and nothing else. -/
theorem advance_eq (t : Time) (w : World) : exists sites, w.advance t =
    { w with now := max w.now t, outside := w.outside.dropWhile (isDue t), sites := sites } := by
  unfold advance
  exact foldl_applyOutside_eq _ _

theorem site_applyOutside {o : OutsideChange} (h : o.site ≠ name) :
    (w.applyOutside o).site name = w.site name := by
  unfold applyOutside changeStore
  split
  · exact site_setSite_of_ne (Ne.symm h)
  · rfl

theorem site_foldl_applyOutside {due : List OutsideChange} (h : ∀ o ∈ due, o.site ≠ name) :
    (due.foldl applyOutside w).site name = w.site name := by
  induction due generalizing w with
  | nil => rfl
  | cons o rest ih =>
      rw [List.foldl_cons, ih fun p hp => h p (List.mem_cons_of_mem o hp)]
      exact site_applyOutside (h o List.mem_cons_self)

theorem site_advance {t : Time} (h : ∀ o ∈ w.outside, o.site ≠ name) :
    (w.advance t).site name = w.site name := by
  unfold advance
  rw [site_foldl_applyOutside fun o ho => h o (List.takeWhile_subset _ ho)]
  rfl

/-- A wait ends where it began, or at some later time. -/
theorem waitUntil_cases (w : World) (t : Time) :
    (w.waitUntil t).2 = w ∨ exists later, (w.waitUntil t).2 = w.advance later := by
  unfold waitUntil
  split
  · exact Or.inl rfl
  · split
    · exact Or.inr ⟨_, rfl⟩
    · exact Or.inr ⟨_, rfl⟩

/-- Where nothing is to come from outside, time moves only the clock. -/
theorem advance_of_quiet {t : Time} (h : w.outside = []) :
    w.advance t = { w with now := max w.now t } := by
  unfold advance
  rw [h]
  show { w with now := max w.now t, outside := [] } = _
  rw [← h]

/-!
# Runs without limits
-/

theorem not_isCancelled_of_none (h : w.cancelAt = none) : w.isCancelled = false := by
  unfold isCancelled
  rw [h]
  rfl

theorem interruption?_of_unwatched (h : w.watched = false) (t : Time) :
    w.interruption? t = none := by
  unfold interruption?
  rw [h]
  rfl

/-- Without a cancellation a pause is a wait. -/
theorem pause_of_none (h : w.cancelAt = none) (duration : Time) (stage : Stage) :
    w.pause duration stage = w.waitUntil (w.now + duration) := by
  unfold pause
  rw [h]
  cases w.watched with
  | false => rfl
  | true => rfl

/-!
# Going on
-/

/-- What all requests but those for a stage and a subscription leave alone. -/
structure Onward (w v : World) : Prop where
  clock : w.now ≤ v.now
  stage : v.stage = w.stage
  entered : v.entered = w.entered
  watched : v.watched = w.watched
  deadline : v.deadline = w.deadline
  cancelAt : v.cancelAt = w.cancelAt
  output : v.output = w.output
  outside : v.outside ⊆ w.outside
  daemons : ∀ reads ∈ v.daemons, exists earlier, earlier ∈ w.daemons ∧ reads <:+ earlier
  tables : ∀ name s, (∀ o ∈ w.outside, o.site ≠ name) → w.site name = .memory s →
    exists t, v.site name = .memory t ∧ s.SameContent t

namespace Onward

theorem refl (w : World) : Onward w w where
  clock := Nat.le_refl _
  stage := rfl
  entered := rfl
  watched := rfl
  deadline := rfl
  cancelAt := rfl
  output := rfl
  outside := List.Subset.refl _
  daemons reads hreads := ⟨reads, hreads, List.suffix_refl reads⟩
  tables _ s _ hs := ⟨s, hs, Store.SameContent.refl s⟩

theorem trans (hwv : Onward w v) (hvu : Onward v u) : Onward w u where
  clock := Nat.le_trans hwv.clock hvu.clock
  stage := hvu.stage.trans hwv.stage
  entered := hvu.entered.trans hwv.entered
  watched := hvu.watched.trans hwv.watched
  deadline := hvu.deadline.trans hwv.deadline
  cancelAt := hvu.cancelAt.trans hwv.cancelAt
  output := hvu.output.trans hwv.output
  outside := List.Subset.trans hvu.outside hwv.outside
  daemons reads hreads := by
    rcases hvu.daemons reads hreads with ⟨middle, hmiddle, hsuffix⟩
    rcases hwv.daemons middle hmiddle with ⟨earlier, hearlier, hlonger⟩
    exact ⟨earlier, hearlier, hsuffix.trans hlonger⟩
  tables name s hquiet hs := by
    rcases hwv.tables name s hquiet hs with ⟨t, ht, hst⟩
    rcases hvu.tables name t (fun o ho => hquiet o (hwv.outside ho)) ht with ⟨r, hr, htr⟩
    exact ⟨r, hr, hst.trans htr⟩

theorem of_note (event : LogEvent) (w : World) : Onward w (w.note event) :=
  { refl w with }

theorem of_setFeed (name : String) (f : Feed) (w : World) : Onward w (w.setFeed name f) :=
  { refl w with }

theorem of_abandoned (abandoned : Bool) (w : World) :
    Onward w { w with abandoned := abandoned } :=
  { refl w with }

theorem of_advance (t : Time) (w : World) : Onward w (w.advance t) := by
  have hsite : ∀ name s, (∀ o ∈ w.outside, o.site ≠ name) → w.site name = .memory s →
      exists r, (w.advance t).site name = .memory r ∧ s.SameContent r := by
    intro name s hquiet hs
    exact ⟨s, (site_advance hquiet).trans hs, Store.SameContent.refl s⟩
  rcases w.advance_eq t with ⟨sites, heq⟩
  rw [heq] at hsite ⊢
  exact
    { clock := Nat.le_max_left _ _
      stage := rfl
      entered := rfl
      watched := rfl
      deadline := rfl
      cancelAt := rfl
      output := rfl
      outside := List.dropWhile_subset _
      daemons := (refl w).daemons
      tables := hsite }

theorem of_waitUntil (t : Time) (w : World) : Onward w (w.waitUntil t).2 := by
  rcases w.waitUntil_cases t with heq | ⟨later, heq⟩
  · rw [heq]
    exact refl w
  · rw [heq]
    exact of_advance later w

theorem of_pause (duration : Time) (stage : Stage) (w : World) :
    Onward w (w.pause duration stage).2 := by
  unfold World.pause
  split
  · exact of_advance _ w
  · exact of_waitUntil _ w

theorem of_grant {s : Store} (hs : w.site name = .memory s) (db : Database) (pattern : String) :
    Onward w (w.setSite name (.memory (s.grant (Store.keysOperation db pattern)))) := by
  refine { refl w with tables := ?_ }
  intro other r hquiet hr
  by_cases hother : other = name
  · subst hother
    rw [hs] at hr
    cases hr
    exact ⟨_, site_setSite_self, s.sameContent_grant_keys db pattern⟩
  · exact ⟨r, (site_setSite_of_ne hother).trans hr, Store.SameContent.refl r⟩

theorem of_keys (name : String) (db : Database) (pattern : String) (w : World) :
    Onward w (w.keys name db pattern).2 := by
  unfold World.keys
  cases hsite : w.site name with
  | remote settings reason => exact refl w
  | memory s =>
      dsimp only
      split
      · exact refl w
      · have hgrant := of_grant hsite db pattern
        generalize w.setSite name (.memory (s.grant (Store.keysOperation db pattern))) = u
          at hgrant ⊢
        have hwait := hgrant.trans (of_waitUntil (u.now + s.delay.getD 0) u)
        generalize u.waitUntil (u.now + s.delay.getD 0) = ended at hwait ⊢
        rcases ended with ⟨stop | _, v⟩
        · exact hwait
        · dsimp only
          split
          · exact hwait
          · exact hwait

theorem of_row (name : String) (db : Database) (key : String) (w : World) :
    Onward w (w.row name db key).2 := by
  unfold World.row
  split
  · exact refl w
  · split
    · exact refl w
    · exact refl w

theorem of_endDrain (name : String) (left : Feed) (d : Drained) (w : World) :
    Onward w (w.endDrain name left d).2 :=
  (of_setFeed name left w).trans (of_note _ _)

theorem of_endDrainAt (name : String) (finish : Time) (left : Feed) (d : Drained) (w : World) :
    Onward w (w.endDrainAt name finish left d).2 := by
  have hwait := of_waitUntil finish w
  unfold World.endDrainAt
  generalize w.waitUntil finish = ended at hwait ⊢
  rcases ended with ⟨stop | _, v⟩
  · exact hwait
  · exact hwait.trans (of_endDrain name left d v)

theorem of_awaitNext (name : String) (finish time : Time) (left : Feed) (d : Drained)
    {next : World → Except Stop Drained × World} (hnext : ∀ v, Onward v (next v).2) (w : World) :
    Onward w (w.awaitNext name finish time left d next).2 := by
  unfold World.awaitNext
  split
  · have hwait := of_waitUntil time w
    generalize w.waitUntil time = ended at hwait ⊢
    rcases ended with ⟨stop | _, v⟩
    · exact hwait
    · exact hwait.trans (hnext v)
  · exact of_endDrainAt name finish _ d w

theorem of_collect (name : String) (finish : Time) (ending : FeedEnd)
    (events : List (Time × Change)) (d : Drained) (w : World) :
    Onward w (w.collect name finish ending events d).2 := by
  induction events generalizing d w with
  | nil =>
      unfold World.collect
      split
      · exact of_endDrain name _ d w
      · cases ending with
        | silent => exact of_endDrainAt name finish _ d w
        | closes time =>
            exact of_awaitNext name finish time _ d
              (fun v => (of_note _ v).trans (of_endDrain name _ d _)) w
        | breaks time f => exact of_awaitNext name finish time _ d (fun v => of_setFeed name _ v) w
  | cons event rest ih =>
      rcases event with ⟨time, c⟩
      unfold World.collect
      split
      · exact of_endDrain name _ d w
      · exact of_awaitNext name finish time _ d (fun v => (of_note _ v).trans (ih _ _)) w

theorem nextRead_suffix (reads : List DaemonRead) : (nextRead reads).2 <:+ reads := by
  match reads with
  | [] => exact List.suffix_refl []
  | [last] => exact List.suffix_refl [last]
  | read :: next :: rest => exact List.suffix_cons read (next :: rest)

theorem of_fetch (daemon : Nat) (w : World) : Onward w (w.fetch daemon).2 := by
  have hdaemons : ∀ reads, reads ∈ w.daemons.set daemon
      (nextRead (w.daemons[daemon]?.getD [])).2 →
      exists earlier, earlier ∈ w.daemons ∧ reads <:+ earlier := by
    intro reads hreads
    by_cases hdaemon : daemon < w.daemons.length
    · rcases List.mem_or_eq_of_mem_set hreads with hmem | rfl
      · exact ⟨reads, hmem, List.suffix_refl reads⟩
      · refine ⟨w.daemons[daemon], List.getElem_mem hdaemon, ?_⟩
        rw [List.getElem?_eq_getElem hdaemon]
        exact nextRead_suffix _
    · rw [List.set_eq_of_length_le (Nat.le_of_not_lt hdaemon)] at hreads
      exact ⟨reads, hreads, List.suffix_refl reads⟩
  unfold World.fetch
  dsimp only
  split
  · exact { refl w with daemons := hdaemons }
  · exact { refl w with daemons := hdaemons }

end Onward

/-!
# Reading
-/

/-- Keys are listed as they are when the listing was asked for. -/
theorem keys_of_ok {s : Store} {db : Database} {pattern : String} {x : List String}
    (hquiet : ∀ o ∈ w.outside, o.site ≠ name) (hs : w.site name = .memory s)
    (h : w.keys name db pattern = (.ok x, v)) : x = s.keys db pattern := by
  unfold World.keys at h
  rw [hs] at h
  dsimp only at h
  split at h
  · cases h
  · have hgrant := Onward.of_grant hs db pattern
    generalize w.setSite name (.memory (s.grant (Store.keysOperation db pattern))) = u at hgrant h
    have hwait := hgrant.trans (Onward.of_waitUntil (u.now + s.delay.getD 0) u)
    generalize u.waitUntil (u.now + s.delay.getD 0) = ended at hwait h
    rcases ended with ⟨stop | _, r⟩
    · cases h
    · rcases hwait.tables name s hquiet hs with ⟨t, ht, hst⟩
      dsimp only at ht h
      rw [ht] at h
      cases h
      exact Store.keys_congr hst.rows

theorem row_of_ok {s : Store} {db : Database} {key : String} {x : Fields}
    (hs : w.site name = .memory s) (h : w.row name db key = (.ok x, v)) :
    x = s.fieldsOf db key := by
  unfold World.row at h
  rw [hs] at h
  dsimp only at h
  split at h
  · cases h
  · cases h
    rfl

/-!
# Requests
-/

/-- Whether a request moves no stage and takes no changes from a store. -/
def IsPassive : Request → Prop
  | .enter _ => False
  | .subscribe _ => False
  | _ => True

theorem onward_answer {q : Request} (hq : IsPassive q) (w : World) : Onward w (w.answer q).2 := by
  cases q with
  | log event => exact Onward.of_note event w
  | enter stage => exact absurd hq id
  | remaining => exact Onward.refl w
  | keys site db pattern => exact Onward.of_keys site db pattern w
  | row site db key => exact Onward.of_row site db key w
  | subscribe site => exact absurd hq id
  | drain site window => exact Onward.of_collect site _ _ _ _ w
  | fetch daemon => exact Onward.of_fetch daemon w
  | pause duration stage => exact Onward.of_pause duration stage w

end World
end RouteAudit
