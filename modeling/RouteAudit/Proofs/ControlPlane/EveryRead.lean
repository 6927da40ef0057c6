import RouteAudit.Proofs.ControlPlane.Reads

/-!
# What the check of a daemon reports

The check of a routing daemon reports the records that are stuck at the last read that it may
make.  It makes no read after the first one that fails or leaves nothing stuck, and what such a
read would have shown has no part in the report.
-/

namespace RouteAudit
namespace ControlPlane

open Program

variable {daemon : Nat} {settings : DaemonSettings} {w : World} {r : Nat → DaemonRead}

/-!
# Reports
-/

/-- What a check that may make so many reads comes to: the number of reads that it makes, and
its result. -/
structure Reports (r : Nat → DaemonRead) (allowed made : Nat) (result : Attempt (List Json)) :
    Prop where
  at_least : 1 ≤ made
  at_most : made ≤ allowed
  /-- No read before the last one fails or leaves nothing stuck. -/
  going_on : ∀ j, j + 1 < made → (exists records, r j = .ok records) ∧ stuckIn r j ≠ []
  failed : ∀ f, r (made - 1) = .error f → result = .error f
  /-- After a last read that succeeds the result is what is stuck at the last one allowed. -/
  stuck : ∀ records, r (made - 1) = .ok records →
    result = .ok (stuckIn r (allowed - 1)) ∧ (stuckIn r (made - 1) = [] ∨ made = allowed)

theorem reports_follow (r : Nat → DaemonRead) (left : Nat) :
    Reports r (left + 1) (follow List.isEmpty r (left + 1) none).1
      (follow List.isEmpty r (left + 1) none).2 := by
  rcases follow_ends List.isEmpty r left 0 with ⟨made, hmade, hends⟩
  rw [follow_eq_followFrom, hmade]
  rcases hends with ⟨hallowed, hbefore, hfailed, hread⟩
  simp only [Nat.zero_add] at hbefore hfailed hread
  refine ⟨Nat.succ_pos made, hallowed, ?_, hfailed, ?_⟩
  · intro j hj
    refine (hbefore j (Nat.lt_of_succ_lt_succ hj)).imp id fun hempty => ?_
    exact fun hnil => Bool.false_ne_true (hempty.symm.trans (List.isEmpty_iff.mpr hnil))
  · intro records hrecords
    rcases hread records hrecords with ⟨hresult, hlast⟩
    rcases hlast with hempty | hlast
    · have hnil := List.isEmpty_iff.mp hempty
      have hlater := stuckAt_eq_nil_of_le hnil (Nat.lt_succ_iff.mp hallowed)
      refine ⟨?_, Or.inl hnil⟩
      rw [hresult, hnil]
      exact congrArg Except.ok hlater.symm
    · obtain rfl := Nat.succ.inj hlast
      exact ⟨hresult, Or.inr rfl⟩

/-- All reads that are allowed come to what is stuck at the last one. -/
theorem follow_all (left : Nat) (h : ∀ j, j < left + 1 → exists records, r j = .ok records) :
    (follow (fun _ => false) r (left + 1) none).2 = .ok (stuckIn r left) := by
  rcases follow_ends (fun _ => false) r left 0 with ⟨made, hmade, hends⟩
  rcases h made hends.allowed with ⟨records, hrecords⟩
  rw [← Nat.zero_add made] at hrecords
  rcases hends.read records hrecords with ⟨hresult, hlast⟩
  rcases hlast with hfalse | hlast
  · exact absurd hfalse Bool.false_ne_true
  · obtain rfl := Nat.succ.inj hlast
    rw [follow_eq_followFrom, hresult, Nat.zero_add]

/-!
# The check
-/

theorem run_checkPending (hwatched : w.watched = false) (hcancel : w.cancelAt = none)
    (daemon : Nat) (settings : DaemonSettings) :
    exists v, w.run (checkPending daemon settings) =
        (World.replyOf (follow List.isEmpty (w.readAt daemon) (max settings.retries 1) none).2, v) ∧
      v.asked = List.replicate
        (follow List.isEmpty (w.readAt daemon) (max settings.retries 1) none).1 daemon ++ w.asked ∧
      v.now = w.now + ((follow List.isEmpty (w.readAt daemon) (max settings.retries 1) none).1 -
        1) * settings.retryWaitMillis := by
  unfold checkPending
  rw [reads_eq]
  rcases run_readsUntil List.isEmpty daemon settings
    [⟨"check_pending", [("retries", toString settings.retries)]⟩] hwatched hcancel
    (max settings.retries 1) (Nat.le_refl 1) none with ⟨v, hrun, hasked, hnow, _⟩
  exact ⟨v, hrun, hasked, hnow⟩

/-- Without an early end the reads come to what is stuck at the last one, if none fails. -/
theorem run_allReads (hwatched : w.watched = false) (hcancel : w.cancelAt = none)
    (daemon : Nat) (settings : DaemonSettings)
    (hall : ∀ j, j < max settings.retries 1 → exists records, w.readAt daemon j = .ok records) :
    (w.run (allReads daemon settings)).1 =
      .ok (stuckIn (w.readAt daemon) (max settings.retries 1 - 1)) := by
  have hallowed := Nat.sub_add_cancel (Nat.le_max_right settings.retries 1)
  rcases run_readsUntil (fun _ => false) daemon settings [] hwatched hcancel
    (max settings.retries 1) (Nat.le_refl 1) none with ⟨v, hrun, _⟩
  rw [← hallowed] at hall
  rw [← hallowed, follow_all _ hall, hallowed] at hrun
  exact congrArg Prod.fst hrun

/-- A check makes its reads and reports what is stuck at every read that it may make.  What it
reports is what it would report without an early end, and depends on no read that it does not
make. -/
theorem checkPending_reports (hwatched : w.watched = false) (hcancel : w.cancelAt = none)
    (daemon : Nat) (settings : DaemonSettings) :
    exists made result v, w.run (checkPending daemon settings) = (World.replyOf result, v) ∧
      v.asked = List.replicate made daemon ++ w.asked ∧
      v.now = w.now + (made - 1) * settings.retryWaitMillis ∧
      Reports (w.readAt daemon) (max settings.retries 1) made result ∧
      ((∀ j, j < max settings.retries 1 → exists records, w.readAt daemon j = .ok records) →
        (w.run (allReads daemon settings)).1 = World.replyOf result) ∧
      ∀ u : World, u.watched = false → u.cancelAt = none →
        (∀ j, j < made → u.readAt daemon j = w.readAt daemon j) →
        (u.run (checkPending daemon settings)).1 = World.replyOf result := by
  rcases run_checkPending hwatched hcancel daemon settings with ⟨v, hrun, hasked, hnow⟩
  have hreports := reports_follow (w.readAt daemon) (max settings.retries 1 - 1)
  rw [Nat.sub_add_cancel (Nat.le_max_right settings.retries 1)] at hreports
  refine ⟨_, _, v, hrun, hasked, hnow, hreports, ?_, ?_⟩
  · intro hall
    have hlast : (follow List.isEmpty (w.readAt daemon) (max settings.retries 1) none).1 - 1 <
        max settings.retries 1 :=
      Nat.lt_of_lt_of_le (Nat.sub_lt hreports.at_least Nat.one_pos) hreports.at_most
    rcases hall _ hlast with ⟨records, hrecords⟩
    rw [(hreports.stuck records hrecords).1]
    exact run_allReads hwatched hcancel daemon settings hall
  · intro u huwatched hucancel hsame
    rcases run_checkPending huwatched hucancel daemon settings with ⟨x, hurun, _, _⟩
    rw [hurun, follow_congr _ _ hsame]

/-!
# Records between reads
-/

/-- The record of a selected route that BGP learned, with its uptime and some fields more. -/
def selected (destination uptime : String) (more : List (String × Json)) : Json :=
  Json.ofFields ([("prefix", .string destination), ("protocol", .string "bgp"),
    ("selected", .bool true), ("uptime", .string uptime)] ++ more)

/-- Of the routes of the first read one is offloaded and one is of another instance.  Of the two
others one is there twice at the next read, and a further read would fail. -/
def agingReads : World :=
  { daemons := [[
      .ok [selected "10.0.0.0/24" "00:01" [], selected "10.0.1.0/24" "00:01" [],
        selected "10.0.2.0/24" "00:01" [("offloaded", .bool true)],
        selected "10.0.3.0/24" "00:01" [("vrfName", .string "VrfBlue")]],
      .ok [selected "10.0.2.0/24" "00:16" [("offloaded", .bool true)],
        selected "10.0.0.0/24" "00:16" [], selected "10.0.0.0/24" "00:17" [],
        selected "10.0.3.0/24" "00:16" [("vrfName", .string "VrfBlue")]],
      .error (.cancelled .controlPlane)]] }

theorem checkPending_reports_of_agingReads :
    agingReads.watched = false ∧ agingReads.cancelAt = none ∧
      exists v, agingReads.run (checkPending 0 { retries := 2 }) =
          (.ok [selected "10.0.0.0/24" "00:16" [], selected "10.0.0.0/24" "00:17" []], v) ∧
        v.asked = [0, 0] ∧ v.now = 15000 := by
  refine ⟨rfl, rfl, ?_⟩
  rcases checkPending_reports (w := agingReads) rfl rfl 0 { retries := 2 } with
    ⟨made, result, v, hrun, hasked, hnow, hreports, _⟩
  have hlast : stuckIn (agingReads.readAt 0) 1 =
      [selected "10.0.0.0/24" "00:16" [], selected "10.0.0.0/24" "00:17" []] := rfl
  have hmost : made ≤ 2 := hreports.at_most
  rcases Nat.le_iff_lt_or_eq.mp hmost with hless | rfl
  · rcases Nat.le_antisymm (Nat.le_of_lt_succ hless) hreports.at_least with rfl
    rcases (hreports.stuck _ rfl).2 with hempty | htwo
    · cases hempty
    · cases htwo
  · rw [(hreports.stuck _ rfl).1] at hrun
    exact ⟨v, hrun, hasked, hnow⟩

end ControlPlane
end RouteAudit
