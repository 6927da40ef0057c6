import RouteAudit.Proofs.Cycle.Requests
import RouteAudit.Proofs.World.AtOnce

/-!
# The time that checks take

Where everything answers at once, a check takes the time of its window and of the waits between
the reads of its routing daemon.  The window closes at the deadline at the latest, but nothing
ends the waits.  So checks that wait for no daemon are over by their deadline, and others are
if the windows and the waits of all of them fit into the time until then.
-/

namespace RouteAudit

open Program

/-- How long the waits between the reads of a routing daemon take. -/
def DaemonSettings.patience (d : DaemonSettings) : Nat := (d.retries - 1) * d.retryWaitMillis

namespace Check

variable {c : Check} {deadline now finish : Nat}

/-- How long a check waits for its routing daemon. -/
def daemonPatience (c : Check) : Nat := c.daemon.elim 0 fun d => d.2.patience

/-!
# Parts that take no time
-/

theorem allowsReading_brief (site : String) :
    AllowsReading (fun q => q.patience = 0) (fun _ => True) site where
  keys _ _ _ _ := rfl
  row _ _ _ := rfl
  enter _ := rfl

theorem ensures_brief {α : Type} {p : Program α} (hp : Keeps (fun q => q.patience = 0) p)
    (hnow : now ≤ deadline) :
    Ensures (World.untilDeadline deadline) p now fun _ later => later ≤ now := by
  refine hp.ensures ?_ ?_ (Nat.le_refl now)
  · intro t q ht hq
    show t + q.patience ≤ deadline
    rw [hq]
    exact Nat.le_trans ht hnow
  · intro t q x later ht hq hx
    have hlater := World.le_of_answersBy hx
    rw [hq] at hlater
    exact Nat.le_trans hlater ht

theorem ensures_takeSnapshot_brief (hnow : now ≤ deadline) :
    Ensures (World.untilDeadline deadline) c.takeSnapshot now fun _ later => later ≤ now :=
  ensures_brief ((allowsReading_brief c.site).keeps_takeSnapshot trivial rfl fun _ => rfl) hnow

/-!
# The window
-/

/-- The window closes at the deadline at the latest. -/
theorem ensures_reconcile_by {m : Mismatches} (hnow : now ≤ deadline) :
    Ensures (World.untilDeadline deadline) (c.reconcile m) now fun _ later =>
      later ≤ deadline ∧ later ≤ now + c.settings.windowMillis := by
  rw [ensures_reconcile_iff, ensures_enter]
  refine ⟨hnow, ?_⟩
  intro _ t ht
  have hentered : t ≤ now := ht
  rw [ensures_request (q := .remaining) trivial]
  refine ⟨Nat.le_trans hentered hnow, ?_⟩
  rintro _ u ⟨rfl, rfl⟩
  rw [ensures_request (q := .drain c.site _) trivial]
  constructor
  · show u + min c.settings.windowMillis (deadline - u) ≤ deadline
    omega
  · intro drained later hlater
    have hclosed : later ≤ u + min c.settings.windowMillis (deadline - u) := hlater
    constructor
    · omega
    · omega

theorem ensures_explain_by {routes : Routes} {m : Mismatches} (hnow : now ≤ deadline) :
    Ensures (World.untilDeadline deadline) (c.explain routes m) now fun _ later =>
      later ≤ deadline ∧ later ≤ now + c.settings.windowMillis := by
  unfold explain
  split
  · exact ⟨hnow, Nat.le_add_right now _⟩
  · rw [ensures_bind]
    refine (ensures_reconcile_by hnow).imp ?_
    rintro n t ⟨hdeadline, hwindow⟩
    have hexclude := (allowsReading_brief c.site).keeps_exclude trivial trivial routes n
    refine (ensures_brief hexclude hdeadline).imp ?_
    intro _ later hlater
    exact ⟨Nat.le_trans hlater hdeadline, Nat.le_trans hlater hwindow⟩

/-!
# The waits for a routing daemon
-/

theorem ensures_waitBefore_by {settings : DaemonSettings} {attempt : Nat}
    (hfinish : now + (if 1 < attempt then settings.retryWaitMillis else 0) ≤ deadline) :
    Ensures (World.untilDeadline deadline) (ControlPlane.waitBefore settings attempt) now
      fun _ later => later ≤ now + if 1 < attempt then settings.retryWaitMillis else 0 := by
  unfold ControlPlane.waitBefore
  split
  · rename_i hwait
    rw [if_pos hwait] at hfinish
    rw [ensures_request (q := .pause settings.retryWaitMillis .controlPlane) trivial]
    exact ⟨hfinish, fun _ _ hlater => hlater⟩
  · exact Nat.le_refl now

/-- Each read but the first one comes after a wait. -/
theorem ensures_reads_by {daemon : Nat} {settings : DaemonSettings} (left attempt : Nat)
    (previous : Option (List Json)) (hattempt : 1 ≤ attempt) (hdeadline : finish ≤ deadline)
    (hfinish : now + (left - if 1 < attempt then 0 else 1) * settings.retryWaitMillis ≤ finish) :
    Ensures (World.untilDeadline deadline)
      (ControlPlane.reads daemon settings left attempt previous) now
      fun _ later => later ≤ finish := by
  induction left generalizing attempt previous now with
  | zero =>
      unfold ControlPlane.reads
      rw [ensures_bind, ensures_log, ensures_pure]
      exact Nat.le_trans (Nat.le_add_right now _) hfinish
  | succ left ih =>
      have hwaits : now + (if 1 < attempt then settings.retryWaitMillis else 0) +
          left * settings.retryWaitMillis ≤ finish := by
        split
        · rename_i hwait
          rw [if_pos hwait, Nat.sub_zero, Nat.succ_mul] at hfinish
          omega
        · rename_i hfirst
          rw [if_neg hfirst, Nat.add_sub_cancel] at hfinish
          exact hfinish
      unfold ControlPlane.reads
      rw [ensures_bind]
      refine (ensures_waitBefore_by (by omega)).imp ?_
      intro _ t ht
      rw [ensures_bind, ensures_request (q := .fetch daemon) trivial]
      constructor
      · show t ≤ deadline
        omega
      · intro records later hlater
        have hread : later ≤ t := hlater
        rw [ensures_bind, ensures_log]
        split
        · rw [ensures_bind, ensures_log, ensures_pure]
          omega
        · refine ih (attempt + 1) _ (Nat.le_add_left 1 attempt) ?_
          rw [if_pos (Nat.lt_succ_of_le hattempt), Nat.sub_zero]
          omega

theorem ensures_askDaemon_by (hfinish : now + c.daemonPatience ≤ deadline) :
    Ensures (World.untilDeadline deadline) c.askDaemon now fun _ later =>
      later ≤ now + c.daemonPatience := by
  unfold askDaemon
  unfold daemonPatience at hfinish ⊢
  cases hdaemon : c.daemon with
  | none => exact Nat.le_refl now
  | some daemon =>
      rcases daemon with ⟨daemon, settings⟩
      rw [hdaemon] at hfinish
      have hnow : now ≤ deadline := Nat.le_trans (Nat.le_add_right now _) hfinish
      have hasked : Keeps (fun q => q.patience = 0) (ControlPlane.suppressing c.site) := by
        unfold ControlPlane.suppressing entry
        exact Keeps.bind (Keeps.request trivial rfl) fun _ => Keeps.pure _
      dsimp only
      rw [ensures_bind]
      refine (ensures_brief hasked hnow).imp ?_
      intro suppressing t ht
      split
      · rw [ensures_bind, ensures_enter]
        refine ⟨Nat.le_trans ht hnow, ?_⟩
        intro _ later hlater
        have hentered : later ≤ now := Nat.le_trans hlater ht
        unfold ControlPlane.checkPending
        rw [ensures_within]
        refine ensures_reads_by _ 1 none (Nat.le_refl 1) hfinish ?_
        have hwaits : max settings.retries 1 - 1 = settings.retries - 1 := by omega
        rw [if_neg (Nat.lt_irrefl 1), hwaits]
        exact Nat.add_le_add_right hentered _
      · rw [ensures_bind, ensures_log]
        exact Nat.le_trans ht (Nat.le_add_right now _)

/-!
# Whole cycles
-/

/-- A cycle that waits for its daemon ends in time if its window and the waits fit into the time
until the deadline; one that does not wait for a daemon always ends in time. -/
theorem ensures_cycle_by (hnow : now ≤ deadline)
    (hroom : c.daemonPatience = 0 ∨
      now + (c.settings.windowMillis + c.daemonPatience) ≤ deadline) :
    Ensures (World.untilDeadline deadline) c.cycle now fun _ later =>
      later ≤ deadline ∧ later ≤ now + (c.settings.windowMillis + c.daemonPatience) := by
  unfold cycle
  rw [ensures_within, stages_eq, ensures_bind]
  have hfindings : Ensures (World.untilDeadline deadline) c.findings now fun _ later =>
      later ≤ deadline ∧ later ≤ now + c.settings.windowMillis := by
    unfold findings
    rw [ensures_bind]
    refine (ensures_takeSnapshot_brief hnow).imp ?_
    intro snapshot t ht
    have hcompare := (allowsReading_brief c.site).keeps_compareTables snapshot
    rw [ensures_bind]
    refine (ensures_brief hcompare (Nat.le_trans ht hnow)).imp ?_
    intro m u hu
    refine (ensures_explain_by (Nat.le_trans hu (Nat.le_trans ht hnow))).imp ?_
    rintro n later ⟨hdeadline, hwindow⟩
    exact ⟨hdeadline, by omega⟩
  refine hfindings.imp ?_
  rintro m t ⟨hdeadline, hwindow⟩
  rw [ensures_bind]
  refine (ensures_askDaemon_by (by omega)).imp ?_
  intro records u hu
  refine (ensures_brief (keeps_conclude (fun _ => rfl) _) (by omega)).imp ?_
  intro o later hlater
  constructor
  · omega
  · omega

/-- The windows and the waits of checks add up, as far as any of them waits for a daemon. -/
theorem ensures_checkAll_by {checks : List Check} {r : Report} {window patience : Nat}
    (hwindow : ∀ c ∈ checks, c.settings.windowMillis = window)
    (hpatience : ∀ c ∈ checks, c.daemonPatience = patience) (hnow : now ≤ deadline)
    (hroom : patience = 0 ∨ now + checks.length * (window + patience) ≤ deadline) :
    Ensures (World.untilDeadline deadline) (checkAll checks r) now fun _ later =>
      later ≤ deadline := by
  induction checks generalizing r now with
  | nil => exact hnow
  | cons c rest ih =>
      rcases List.forall_mem_cons.mp hwindow with ⟨hcwindow, hwindow⟩
      rcases List.forall_mem_cons.mp hpatience with ⟨hcpatience, hpatience⟩
      have hmore : (c :: rest).length * (window + patience) =
          rest.length * (window + patience) + (window + patience) := Nat.succ_mul _ _
      unfold checkAll
      rw [ensures_bind]
      refine (ensures_cycle_by hnow ?_).imp ?_
      · rw [hcwindow, hcpatience]
        exact hroom.imp id fun hfits => by omega
      · rintro o t ⟨hdeadline, hlater⟩
        rw [hcwindow, hcpatience] at hlater
        refine ih hwindow hpatience hdeadline ?_
        exact hroom.imp id fun hfits => by omega

end Check
end RouteAudit
