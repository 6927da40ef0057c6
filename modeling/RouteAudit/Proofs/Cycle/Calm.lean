import RouteAudit.Proofs.Cycle.Comparison
import RouteAudit.Proofs.Gathering.Reading

/-!
# A cycle in a calm world

In a calm world a cycle ends with an outcome that is a function of the store's tables and
of the changes that arrive in the window.
-/

namespace RouteAudit
namespace Check

open Program

variable {σ : Type} {E : Surroundings σ}

/-!
# Steps that only log
-/

theorem ensures_dump {c : Check} {set : String} {keys : List RouteKey} {s : σ}
    {Q : Unit → σ → Prop} : Ensures E (c.dump set keys) s Q ↔ Q () s := by
  unfold dump
  split
  · exact ensures_log
  · exact ensures_pure

/-!
# Stages in any surroundings
-/

section Stages

variable {c : Check} {s : σ}

theorem ensures_compareTables_iff {snapshot : Snapshot} {Q : Mismatches → σ → Prop} :
    Ensures E (c.compareTables snapshot) s Q ↔
      Ensures E (enter .diffing) s fun _ t => Q (.ofSnapshot snapshot) t := by
  unfold compareTables
  simp only [ensures_bind, ensures_dump, ensures_log, ensures_pure]

theorem ensures_reconcile_iff {m : Mismatches} {Q : Mismatches → σ → Prop} :
    Ensures E (c.reconcile m) s Q ↔ Ensures E (enter .reconciling) s fun _ t =>
      Ensures E (request .remaining) t fun left u =>
        Ensures E (request (.drain c.site (min c.settings.windowMillis left))) u fun d v =>
          Q (m.credit d) v := by
  unfold reconcile
  simp only [ensures_bind, ensures_dump, ensures_pure]

theorem ensures_exclude_iff {routes : Routes} {m : Mismatches} {Q : Mismatches → σ → Prop} :
    Ensures E (c.exclude routes m) s Q ↔ Ensures E (enter .filtering) s fun _ t =>
      Ensures E (Gathering.context c.site routes c.locals c.settings.fabricStart) t fun ctx u =>
        Q (c.applyRules ctx m) u := by
  unfold exclude
  simp only [ensures_bind, ensures_ofLogged, ensures_dump, ensures_pure]
  rfl

theorem ensures_conclude_iff {o : Outcome} {Q : Outcome → σ → Prop} :
    Ensures E (conclude o) s Q ↔
      Ensures E (enter (if o.passed then .passed else .failed)) s fun _ t => Q o t := by
  unfold conclude
  split
  · simp only [ensures_bind, ensures_log, ensures_pure]
  · simp only [ensures_bind, ensures_log, ensures_pure]

end Stages

/-!
# Stages
-/

/-- The surroundings of a check. -/
def calm (c : Check) (store : Store) (deadline : Time) : Calm := ⟨c.site, store, deadline⟩

variable {c : Check} {store : Store} {deadline : Time} {s : Calm.State}

theorem ensures_takeSnapshot {Q : Snapshot → Calm.State → Prop} :
    Ensures (c.calm store deadline).surroundings c.takeSnapshot s Q ↔
      Q store.snapshot
        { clock := s.clock + (c.calm store deadline).delay + (c.calm store deadline).delay +
            (c.calm store deadline).delay
          kept := .ofChanges []
          feed := s.kept.startingAt s.clock } := by
  unfold takeSnapshot
  rw [ensures_bind, Calm.ensures_stage, ensures_bind]
  exact Calm.ensures_subscribe.trans Calm.ensures_snapshot

theorem ensures_compareTables {snapshot : Snapshot} {Q : Mismatches → Calm.State → Prop} :
    Ensures (c.calm store deadline).surroundings (c.compareTables snapshot) s Q ↔
      Q (.ofSnapshot snapshot) s := by
  rw [ensures_compareTables_iff, Calm.ensures_stage]

/-- The changes that arrive while the window of a check is open. -/
def arrivals (c : Check) (feed : Feed) (start deadline : Time) : List Change :=
  feed.delivered start (start + min c.settings.windowMillis (deadline - start))

theorem ensures_reconcile {m : Mismatches} (hfeed : s.feed.ending.isBroken = false) :
    Ensures (c.calm store deadline).surroundings (c.reconcile m) s fun n _ =>
      n = m.credit (.ofChanges (c.arrivals s.feed s.clock deadline)) := by
  rw [ensures_reconcile_iff, Calm.ensures_stage, Calm.ensures_remaining,
    ensures_request (q := .drain c.site _) trivial]
  refine ⟨⟨rfl, hfeed⟩, ?_⟩
  intro drained t hparts
  rcases hparts with ⟨rfl, _, _⟩
  rfl

theorem ensures_exclude {routes : Routes} {m : Mismatches} :
    Ensures (c.calm store deadline).surroundings (c.exclude routes m) s fun n _ =>
      n = c.applyRules (store.context routes c.locals c.settings.fabricStart) m := by
  rw [ensures_exclude_iff, Calm.ensures_stage]
  have hcontext : Ensures (c.calm store deadline).surroundings
      (Gathering.context c.site routes c.locals c.settings.fabricStart) s fun ctx _ =>
        ctx = store.context routes c.locals c.settings.fabricStart := Calm.ensures_context
  refine hcontext.imp ?_
  intro ctx t heq
  rcases heq with rfl
  rfl

theorem ensures_explain {routes : Routes} {m : Mismatches}
    (hfeed : s.feed.ending.isBroken = false) :
    Ensures (c.calm store deadline).surroundings (c.explain routes m) s fun n _ =>
      n = c.explained (store.context routes c.locals c.settings.fabricStart)
        (c.arrivals s.feed s.clock deadline) m := by
  unfold explain explained
  by_cases hclean : m.isClean = true
  · rw [if_pos hclean, if_pos hclean]
    exact rfl
  · rw [if_neg hclean, if_neg hclean, ensures_bind]
    refine (ensures_reconcile hfeed).imp ?_
    intro n t heq
    rcases heq with rfl
    exact ensures_exclude

theorem ensures_conclude {o : Outcome} :
    Ensures (c.calm store deadline).surroundings (conclude o) s fun p _ => p = o := by
  rw [ensures_conclude_iff, Calm.ensures_stage]

/-!
# The whole cycle
-/

/-- The mismatches that a cycle is left with. -/
def settled (c : Check) (store : Store) (changes : List Change) : Mismatches :=
  c.explained (store.context store.intended c.locals c.settings.fabricStart) changes
    (.ofSnapshot store.snapshot)

/-- Only the rows of a store have a part in the mismatches. -/
theorem settled_congr {other : Store} {changes : List Change} (h : other.rows = store.rows) :
    c.settled other changes = c.settled store changes := by
  cases other
  cases store
  cases h
  rfl

/-- When a cycle that starts at a time asks for late changes. -/
def drainStart (store : Store) (start : Time) : Time :=
  start + store.delay.getD 0 + store.delay.getD 0 + store.delay.getD 0

/-- The changes that a cycle which starts at a time credits. -/
def lateChanges (c : Check) (store : Store) (start deadline : Time) : List Change :=
  c.arrivals (store.kept.startingAt start) (drainStart store start) deadline

/-- The part of a cycle before the daemon is asked. -/
def findings (c : Check) : Program Mismatches := do
  let snapshot ← c.takeSnapshot
  let m ← c.compareTables snapshot
  c.explain snapshot.routes m

theorem stages_eq (c : Check) : c.stages = c.findings >>= fun m => c.askDaemon >>= fun records =>
    conclude (m.outcome records) := by
  unfold stages findings
  simp only [bind_assoc]

theorem ensures_findings (hkept : s.kept = store.kept)
    (hworking : store.kept.ending.isBroken = false) :
    Ensures (c.calm store deadline).surroundings c.findings s fun m _ =>
      m = c.settled store (c.lateChanges store s.clock deadline) := by
  unfold findings
  rw [ensures_bind, ensures_takeSnapshot, ensures_bind, ensures_compareTables, hkept]
  exact ensures_explain ((FeedEnd.isBroken_startingAt _ _).trans hworking)

theorem ensures_cycle {E : Surroundings Calm.State} {P : List Json → Prop}
    (hserves : ∀ s q, (c.calm store deadline).serves s q → E.serves s q)
    (hanswers : ∀ s q x t, E.answers s q x t → (c.calm store deadline).answers s q x t)
    (hkept : s.kept = store.kept) (hworking : store.kept.ending.isBroken = false)
    (hdaemon : ∀ t, Ensures E c.askDaemon t fun records _ => P records) :
    Ensures E c.cycle s fun o _ => exists records, P records ∧
      o = (c.settled store (c.lateChanges store s.clock deadline)).outcome records := by
  have hwiden : ∀ {α : Type} {p : Program α} {t : Calm.State} {Q : α → Calm.State → Prop},
      Ensures (c.calm store deadline).surroundings p t Q → Ensures E p t Q :=
    fun h => h.widen hserves fun s q x t _ => hanswers s q x t
  unfold cycle
  rw [ensures_within, stages_eq, ensures_bind]
  refine (hwiden (ensures_findings hkept hworking)).imp ?_
  intro m t heq
  rcases heq with rfl
  rw [ensures_bind]
  refine (hdaemon t).imp ?_
  intro records u hrecords
  refine (hwiden ensures_conclude).imp ?_
  intro o v heq
  exact ⟨records, hrecords, heq⟩

end Check
end RouteAudit
