import RouteAudit.Proofs.World.Trials

/-!
# One subscription

A program may subscribe to the changes of a site once, and must do so before it reads a table
or drains the feed.  Whether it has subscribed is then all that its run does to the store: the
tables stay, and the changes that were kept are gone exactly if it has.
-/

namespace RouteAudit

open Program

namespace Store

/-- A store with the tables of another one and its disturbances, which keeps some changes. -/
structure Resembles (m : Store) (kept : List Change) (n : Store) : Prop where
  rows : n.rows = m.rows
  failing : n.failing = m.failing
  delay : n.delay = m.delay
  upcoming : n.upcoming = none
  scripted : n.scripted = kept

variable {m n r : Store} {kept left : List Change}

theorem Resembles.of_sameContent (h : m.Resembles kept n) (hnr : n.SameContent r) :
    m.Resembles kept r :=
  ⟨hnr.rows.trans h.rows, hnr.failing.trans h.failing, hnr.delay.trans h.delay,
    hnr.upcoming.trans h.upcoming, hnr.scripted.trans h.scripted⟩

theorem Resembles.trans (h : m.Resembles kept n) (hnr : n.Resembles left r) :
    m.Resembles left r :=
  ⟨hnr.rows.trans h.rows, hnr.failing.trans h.failing, hnr.delay.trans h.delay, hnr.upcoming,
    hnr.scripted⟩

end Store

def Request.isSubscription : Request → Bool
  | .subscribe _ => true
  | _ => false

/-- What may be asked of a site before the subscription and after it. -/
def Request.MayFollow (site : String) (subscribed : Bool) : Request → Prop
  | .keys name _ _ => name = site ∧ subscribed = true
  | .row name _ _ => name = site ∧ subscribed = true
  | .drain name _ => name = site ∧ subscribed = true
  | .subscribe name => name = site ∧ subscribed = false
  | _ => True

/-- Surroundings that know whether there was a subscription. -/
def Surroundings.subscribing (site : String) : Surroundings Bool where
  serves subscribed q := q.MayFollow site subscribed
  answers subscribed q _ later := later = (subscribed || q.isSubscription)

theorem World.IsPassive.isSubscription {q : Request} (hq : World.IsPassive q) :
    q.isSubscription = false := by
  cases q with
  | subscribe name => exact absurd hq id
  | _ => rfl

/-- A program that does not subscribe may go on after the subscription. -/
theorem Program.Keeps.ensures_subscribed {α : Type} {site : String} {p : Program α}
    (hp : Keeps (Request.MayFollow site true) p) :
    Ensures (.subscribing site) p true fun _ subscribed => subscribed = true := by
  refine hp.ensures ?_ ?_ rfl
  · rintro subscribed q rfl hq
    exact hq
  · rintro subscribed q x later rfl _ hlater
    exact hlater

namespace World

variable {α : Type} {site : String} {p left : Program α} {w v u : World} {asked : List Request}
  {subscribed : Bool} {Q : α → Bool → Prop}

/-- At every point of a run it is known whether there was a subscription. -/
theorem Asks.ensures_subscribing (h : Asks p w asked left u)
    (hp : Ensures (.subscribing site) p subscribed Q) :
    Ensures (.subscribing site) left (subscribed || asked.any Request.isSubscription) Q := by
  induction h generalizing subscribed with
  | start p w =>
      rw [List.any_nil, Bool.or_false]
      exact hp
  | @step q next w v u x asked left _ _ ih =>
      rw [List.any_cons, ← Bool.or_assoc]
      -- surroundings do not answer a log event, and it is no subscription
      rcases log_or_question q with ⟨event, rfl⟩ | hq
      · have hnone : (Request.log event).isSubscription = false := rfl
        refine ih ?_
        rw [hnone, Bool.or_false]
        exact hp
      · exact ih (((ensures_ask hq).mp hp).2 x _ rfl)

theorem Asks.mayFollow {q : Request} {next : q.Answer → Program α}
    (h : Asks p w asked (.ask q next) u) (hp : Ensures (.subscribing site) p false Q) :
    q.MayFollow site (asked.any Request.isSubscription) := by
  have hleft := h.ensures_subscribing hp
  rw [Bool.false_or] at hleft
  rcases log_or_question q with ⟨event, rfl⟩ | hq
  · exact trivial
  · exact ((ensures_ask hq).mp hleft).1

/-!
# What a run does to the store
-/

/-- A world whose store was subscribed to, or was not, since it was another store. -/
structure Served (site : String) (m : Store) (subscribed : Bool) (w : World) : Prop where
  quiet : w.outside = []
  store : exists n, w.site site = .memory n ∧
    m.Resembles (if subscribed then [] else m.scripted) n ∧
    n.subscriptions = m.subscriptions + subscribed.toNat

variable {m : Store}

theorem Served.onward (h : Served site m subscribed w) (hwv : Onward w v) :
    Served site m subscribed v := by
  rcases h.store with ⟨n, hn, hresembles, hcount⟩
  have hquiet : ∀ o ∈ w.outside, o.site ≠ site := by
    rw [h.quiet]
    exact fun o ho => absurd ho List.not_mem_nil
  rcases hwv.tables site n hquiet hn with ⟨r, hr, hnr⟩
  refine ⟨?_, r, hr, hresembles.of_sameContent hnr, hnr.subscriptions.trans hcount⟩
  have hsubset := hwv.outside
  rw [h.quiet] at hsubset
  exact List.subset_nil.mp hsubset

theorem Served.enter {stage left : Stage} (h : Served site m subscribed w)
    (henter : w.enter stage = (.ok left, v)) : Served site m subscribed v := by
  rcases enter_of_ok henter with ⟨_, rfl⟩
  exact ⟨h.quiet, h.store⟩

theorem Served.subscribe (h : Served site m false w)
    (hsubscribe : w.subscribe site = (.ok (), v)) : Served site m true v := by
  rcases subscribe_of_ok hsubscribe with ⟨n, hn, rfl⟩
  rcases h.store with ⟨r, hr, hresembles, hcount⟩
  rw [hn] at hr
  cases hr
  refine ⟨h.quiet, _, site_setSite_self, { hresembles with upcoming := rfl, scripted := rfl }, ?_⟩
  show (n.accesses ++ ["subscribe"]).count "subscribe" = m.subscriptions + 1
  rw [List.count_append]
  exact congrArg (· + 1) hcount

theorem Served.follows (site : String) (m : Store) :
    Follows (.subscribing site) (Served site m) where
  note event h := h.onward (Onward.of_note event _)
  sound := by
    intro subscribed w q x v hq h hserves hanswer
    refine ⟨_, rfl, ?_⟩
    by_cases hpassive : IsPassive q
    · have hwv := onward_answer hpassive w
      rw [hanswer] at hwv
      rw [hpassive.isSubscription, Bool.or_false]
      exact h.onward hwv
    · cases q with
      | enter stage =>
          have hnone : (Request.enter stage).isSubscription = false := rfl
          rw [hnone, Bool.or_false]
          exact h.enter hanswer
      | subscribe name =>
          rcases hserves with ⟨rfl, rfl⟩
          exact h.subscribe hanswer
      | _ => exact absurd trivial hpassive

end World

/-!
# What a trial does to the store
-/

namespace Trial

variable {α : Type} {site : String} {m : Store} {p : Program α} {w v : World} {t : Trial}
  {result : Option (Attempt α)} {subscribed : Bool}

theorem served_start (hquiet : w.outside = []) (hsite : w.site site = .memory m)
    (hkept : m.upcoming = none) (t : Trial) : World.Served site m false (t.start w) := by
  exact ⟨hquiet, m, hsite, ⟨rfl, rfl, rfl, hkept, rfl⟩, rfl⟩

/-- However a trial ends, the store was subscribed to or was not, and it was if the trial has a
result. -/
theorem Ends.served (hends : t.Ends p w result v)
    (hp : Ensures (.subscribing site) p false fun _ subscribed => subscribed = true)
    (hstart : World.Served site m false (t.start w)) :
    exists subscribed, World.Served site m subscribed v ∧
      ∀ a, result = some (.ok a) → subscribed = true := by
  cases hends with
  | unbegun hcancelled => exact ⟨false, hstart.onward (.of_note _ _), nofun⟩
  | @ran outcome u hrun =>
      cases outcome with
      | ok a =>
          rcases (World.Served.follows site m).ensured hp hstart hrun with ⟨_, rfl, hu⟩
          exact ⟨true, hu.onward (World.onward_conclude _ _ _), fun _ _ => rfl⟩
      | error stop =>
          rcases (World.Served.follows site m).stopped hp hstart hrun with
            ⟨subscribed, q, x, _, _, hx, hanswer⟩
          have hu := hx.onward (World.onward_of_error hanswer)
          refine ⟨subscribed, hu.onward (World.onward_conclude _ _ _), ?_⟩
          intro a ha
          exact absurd (Option.some.inj ha) World.conclude_error_ne_ok
  | left hq hasked =>
      rcases (World.Served.follows site m).at_point hp hstart hasked with ⟨subscribed, _, hu⟩
      exact ⟨subscribed, hu, nofun⟩

end Trial
end RouteAudit
