import RouteAudit.Proofs.ControlPlane.Reads
import RouteAudit.Proofs.Cycle.Outcome

/-!
# The result of a cycle

In a calm world the result of a cycle is a function of the tables of its store, of the changes
that arrive in the window and of the reads that its routing daemon has to offer.
-/

namespace RouteAudit

open Program

namespace Check

variable {c : Check} {store : Store} {w v : World} {s : Calm.State} {deadline : Time}

/-!
# Parts of a run
-/

/-- A part of a run in a calm world ends as its program ensures, and takes no read from any
daemon. -/
theorem run_calm {α : Type} {p : Program α} {Q : α → Calm.State → Prop}
    (hhealthy : store.failing = []) (h : (c.calm store deadline).Holds s w)
    (hp : Ensures (c.calm store deadline).surroundings p s Q) :
    exists a t v, w.run p = (.ok a, v) ∧ Q a t ∧ (c.calm store deadline).Holds t v ∧
      v.daemons = w.daemons := by
  have hfollows : World.Follows (c.calm store deadline).surroundings fun t v =>
      (c.calm store deadline).Holds t v ∧ v.daemons = w.daemons := by
    constructor
    · intro t v event ht
      exact ⟨ht.1.note event, ht.2⟩
    · intro t v q x u hq ht hserves hanswer
      rcases (Calm.follows _).sound hq ht.1 hserves hanswer with ⟨t', hx, ht'⟩
      have hdaemons := World.daemons_answer (q := q) (by rintro daemon rfl; exact hserves) v
      rw [hanswer] at hdaemons
      exact ⟨t', hx, ht', hdaemons.trans ht.2⟩
  have hserves : World.Serves (c.calm store deadline).surroundings fun t v =>
      (c.calm store deadline).Holds t v ∧ v.daemons = w.daemons :=
    fun t v q ht => Calm.serves_all hhealthy t v q ht.1
  rcases hfollows.runs hserves hp ⟨h, rfl⟩ with ⟨a, v, hrun⟩
  rcases hfollows.ensured hp ⟨h, rfl⟩ hrun with ⟨t, hQ, ht, hdaemons⟩
  exact ⟨a, t, v, hrun, hQ, ht, hdaemons⟩

/-- Nothing keeps a run that is not cancelled from entering a stage. -/
theorem run_enter (hcancel : w.cancelAt = none) (spans : List Span) (stage : Stage) :
    exists v, w.run ((enter stage).withinAll spans) = (.ok (), v) ∧ v.cancelAt = none := by
  have hfree := World.not_isCancelled_of_none hcancel
  have hanswer : w.answer (.enter stage) =
      (.ok w.stage, { w with stage := stage, entered := stage :: w.entered }) := by
    show w.enter stage = _
    unfold World.enter
    rw [hfree]
    rfl
  rcases exists_withinAll_log spans
    (.debug "Stage transition" [("from", Stage.name w.stage), ("to", stage.name)]) with
    ⟨event, hevent⟩
  unfold enter
  rw [withinAll_bind, withinAll_request spans (q := .enter stage) trivial, World.run_bind,
    World.run_request, hanswer]
  dsimp only
  rw [hevent]
  exact ⟨_, rfl, hcancel⟩

theorem run_conclude (hcancel : w.cancelAt = none) (o : Outcome) :
    (w.run ((conclude o).withinAll [c.span])).1 = .ok o := by
  have hconclude : ∀ (stage : Stage) (event : LogEvent),
      (w.run ((do enter stage; log event; return o : Program Outcome).withinAll [c.span])).1 =
        .ok o := by
    intro stage event
    rcases run_enter hcancel [c.span] stage with ⟨v, hrun, _⟩
    rw [withinAll_bind, World.run_bind, hrun]
    rfl
  unfold conclude
  split
  · exact hconclude _ _
  · exact hconclude _ _

/-!
# The daemon's part
-/

/-- What the routing daemon adds to an outcome, by the reads that it has to offer. -/
def daemonReport (c : Check) (store : Store) (r : Nat → Nat → DaemonRead) :
    Attempt (List Json) :=
  match c.daemon with
  | none => .ok []
  | some (daemon, settings) =>
      if store.isSuppressing then
        (ControlPlane.follow List.isEmpty (r daemon) (max settings.retries 1) none).2
      else
        .ok []

theorem run_askDaemon (hhealthy : store.failing = []) (h : (c.calm store deadline).Holds s w) :
    exists v, w.run (c.askDaemon.withinAll [c.span]) =
      (World.replyOf (c.daemonReport store w.readAt), v) ∧ v.cancelAt = none := by
  unfold askDaemon daemonReport
  cases c.daemon with
  | none => exact ⟨w, rfl, h.uncancelled⟩
  | some daemon =>
      rcases daemon with ⟨daemon, settings⟩
      dsimp only
      have hasked : Ensures (c.calm store deadline).surroundings
          ((ControlPlane.suppressing c.site).withinAll [c.span]) s fun suppressing _ =>
            suppressing = store.isSuppressing :=
        ensures_within.mpr ((Calm.reads _).ensures_suppressing trivial |>.mpr rfl)
      rcases run_calm hhealthy h hasked with ⟨_, t, u, hrun, rfl, hu, hdaemons⟩
      rw [withinAll_bind, World.run_bind, hrun]
      dsimp only
      cases store.isSuppressing with
      | false => exact ⟨_, rfl, hu.uncancelled⟩
      | true =>
          have hentered : Ensures (c.calm store deadline).surroundings
              ((enter .controlPlane).withinAll [c.span]) t fun _ _ => True :=
            ensures_within.mpr (Calm.ensures_stage.mpr trivial)
          rcases run_calm hhealthy hu hentered with ⟨_, t', v, henter, _, hv, hvdaemons⟩
          have hreads : v.readAt = w.readAt := by
            unfold World.readAt
            rw [hvdaemons, hdaemons]
          rcases ControlPlane.run_readsUntil List.isEmpty daemon settings
            [c.span, ⟨"check_pending", [("retries", toString settings.retries)]⟩]
            hv.unwatched hv.uncancelled (max settings.retries 1) (Nat.le_refl 1) none with
            ⟨x, hread, _, _, hcancel⟩
          rw [hreads, ← ControlPlane.reads_eq] at hread
          rw [if_pos rfl, if_pos rfl, withinAll_bind, World.run_bind, henter]
          exact ⟨x, hread, hcancel⟩

/-!
# The whole cycle
-/

/-- The outcome that a cycle is left with, or the failure of its daemon. -/
def result (c : Check) (store : Store) (changes : List Change) (r : Nat → Nat → DaemonRead) :
    Attempt Outcome :=
  (c.daemonReport store r).map (c.settled store changes).outcome

/-- In a calm world the result of a cycle is that of its tables, of the late changes and of the
reads of its daemon. -/
theorem run_cycle (h : w.IsCalm c.site store) :
    (w.run c.cycle).1 = World.replyOf
      (c.result store (c.lateChanges store w.now w.deadline) w.readAt) := by
  have hstages : c.cycle = c.findings.withinAll [c.span] >>= fun m =>
      c.askDaemon.withinAll [c.span] >>= fun records =>
        (conclude (m.outcome records)).withinAll [c.span] := by
    have hcycle : c.cycle = c.stages.withinAll [c.span] := rfl
    rw [hcycle, stages_eq, withinAll_bind]
    simp only [withinAll_bind]
  have hfindings : Ensures (c.calm store w.deadline).surroundings
      (c.findings.withinAll [c.span]) (c.start store w) fun m _ =>
        m = c.settled store (c.lateChanges store w.now w.deadline) :=
    ensures_within.mpr (ensures_findings rfl h.working)
  rcases run_calm h.healthy (holds_start h) hfindings with ⟨_, t, v, hrun, rfl, hv, hdaemons⟩
  rcases run_askDaemon h.healthy hv with ⟨u, hasked, hcancel⟩
  have hreads : v.readAt = w.readAt := by
    unfold World.readAt
    rw [hdaemons]
  unfold result
  rw [hstages, World.run_bind, hrun]
  dsimp only
  rw [World.run_bind, hasked, hreads]
  cases c.daemonReport store w.readAt with
  | error f => rfl
  | ok records => exact run_conclude hcancel _

end Check
end RouteAudit
