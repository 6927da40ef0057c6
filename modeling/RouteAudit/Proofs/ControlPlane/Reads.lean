import RouteAudit.Proofs.ControlPlane.Stuck
import RouteAudit.Proofs.Program.Spans
import RouteAudit.Proofs.World.Daemons

/-!
# Reads of a routing daemon

Where nothing stops a run, the reads of a daemon are those that it has to offer, one after
another, with a wait before each but the first.  The loop ends with the first read that fails,
with the first one after which there is no more to find, or with the last one.  If that is the
first one that keeps nothing, what the loop reports is what it would report without the early
end: the records that are stuck at the last read that it may make.
-/

namespace RouteAudit

open Program

namespace ControlPlane

/-!
# The loop over the reads
-/

/-- The loop over the reads, which ends early where what a read keeps is enough. -/
def readsUntil (enough : List Json → Bool) (daemon : Nat) (settings : DaemonSettings) :
    Nat → Nat → Option (List Json) → Program (List Json)
  | 0, _, previous => do
      let stuck := previous.getD []
      Program.log (.warn "Routes pending in FRR on every read" [("count", toString stuck.length)])
      return stuck
  | left + 1, attempt, previous => do
      waitBefore settings attempt
      let records ← Program.request (.fetch daemon)
      let kept := keep previous records
      Program.log (.debug "FRR read"
        [("attempt", toString attempt), ("pending", toString kept.length)])
      if enough kept then
        Program.log (.info "No routes pending in FRR" [])
        return kept
      else
        readsUntil enough daemon settings left (attempt + 1) (some kept)

/-- All reads that may be made, also once nothing is kept. -/
def allReads (daemon : Nat) (settings : DaemonSettings) : Program (List Json) :=
  readsUntil (fun _ => false) daemon settings (max settings.retries 1) 1 none

theorem reads_eq (daemon : Nat) (settings : DaemonSettings) (left attempt : Nat)
    (previous : Option (List Json)) : reads daemon settings left attempt previous =
      readsUntil List.isEmpty daemon settings left attempt previous := by
  induction left generalizing attempt previous with
  | zero => rfl
  | succ left ih =>
      unfold reads readsUntil
      simp only [ih]

/-- The number of reads that the loop over them makes, and what it comes to. -/
def follow (enough : List Json → Bool) (r : Nat → DaemonRead) :
    Nat → Option (List Json) → Nat × Attempt (List Json)
  | 0, previous => (0, .ok (previous.getD []))
  | left + 1, previous =>
      match r 0 with
      | .error f => (1, .error f)
      | .ok records =>
          let kept := keep previous records
          if enough kept then
            (1, .ok kept)
          else
            let rest := follow enough (fun j => r (j + 1)) left (some kept)
            (rest.1 + 1, rest.2)

section Follow

variable {enough : List Json → Bool} {r : Nat → DaemonRead} {left : Nat}
  {previous : Option (List Json)} {records : List Json}

theorem follow_error {f : Failure} (h : r 0 = .error f) :
    follow enough r (left + 1) previous = (1, .error f) := by
  rw [follow, h]

theorem follow_enough (h : r 0 = .ok records) (henough : enough (keep previous records) = true) :
    follow enough r (left + 1) previous = (1, .ok (keep previous records)) := by
  rw [follow, h]
  exact if_pos henough

theorem follow_more (h : r 0 = .ok records) (henough : ¬enough (keep previous records) = true) :
    follow enough r (left + 1) previous =
      ((follow enough (fun j => r (j + 1)) left (some (keep previous records))).1 + 1,
        (follow enough (fun j => r (j + 1)) left (some (keep previous records))).2) := by
  rw [follow, h]
  exact if_neg henough

/-- Only the reads that are made have a part in what the loop comes to. -/
theorem follow_congr {other : Nat → DaemonRead} (left : Nat) (previous : Option (List Json))
    (h : ∀ j, j < (follow enough r left previous).1 → other j = r j) :
    follow enough other left previous = follow enough r left previous := by
  induction left generalizing r other previous with
  | zero => rfl
  | succ left ih =>
      cases hread : r 0 with
      | error f =>
          rw [follow_error hread] at h ⊢
          exact follow_error ((h 0 Nat.one_pos).trans hread)
      | ok records =>
          by_cases henough : enough (keep previous records) = true
          · rw [follow_enough hread henough] at h ⊢
            exact follow_enough ((h 0 Nat.one_pos).trans hread) henough
          · rw [follow_more hread henough] at h ⊢
            rw [follow_more ((h 0 (Nat.succ_pos _)).trans hread) henough,
              ih (some (keep previous records)) fun j hj => h (j + 1) (Nat.succ_lt_succ hj)]

/-- The loop fails with a read that failed. -/
theorem exists_read_of_follow {f : Failure}
    (h : (follow enough r left previous).2 = .error f) : exists j, r j = .error f := by
  induction left generalizing r previous with
  | zero => cases h
  | succ left ih =>
      cases hread : r 0 with
      | error g =>
          rw [follow_error hread] at h
          exact ⟨0, hread.trans h⟩
      | ok records =>
          by_cases henough : enough (keep previous records) = true
          · rw [follow_enough hread henough] at h
            cases h
          · rw [follow_more hread henough] at h
            rcases ih h with ⟨j, hj⟩
            exact ⟨j + 1, hj⟩

end Follow

/-!
# Runs of the loop
-/

variable {enough : List Json → Bool} {daemon : Nat} {w : World}

theorem run_waitBefore (settings : DaemonSettings) (spans : List Span)
    (hwatched : w.watched = false) (hcancel : w.cancelAt = none) (attempt : Nat) :
    exists v, w.run ((waitBefore settings attempt).withinAll spans) = (.ok (), v) ∧
      v.now = w.now + (if 1 < attempt then settings.retryWaitMillis else 0) ∧
      v.asked = w.asked ∧ v.watched = false ∧ v.cancelAt = none ∧ v.daemons = w.daemons := by
  unfold waitBefore
  split
  · rw [withinAll_request spans (q := .pause settings.retryWaitMillis .controlPlane) trivial]
    rcases World.pause_eq hwatched hcancel settings.retryWaitMillis .controlPlane with
      ⟨v, hpause, hv⟩
    exact ⟨v, World.run_request.trans hpause, hv⟩
  · rw [withinAll_pure]
    exact ⟨w, rfl, rfl, rfl, hwatched, hcancel, rfl⟩

/-- The wait before a read that is the last one. -/
theorem wait_before_last (attempt wait : Nat) :
    (if 1 < attempt then wait else 0) = (1 - if 1 < attempt then 0 else 1) * wait := by
  split
  · rw [Nat.sub_zero, Nat.one_mul]
  · rw [Nat.sub_self, Nat.zero_mul]

/-- The loop makes its reads one after another, each but the first after a wait. -/
theorem run_readsUntil (enough : List Json → Bool) (daemon : Nat) (settings : DaemonSettings)
    (spans : List Span) (hwatched : w.watched = false) (hcancel : w.cancelAt = none)
    (left : Nat) {attempt : Nat} (hattempt : 1 ≤ attempt) (previous : Option (List Json)) :
    exists v, w.run ((readsUntil enough daemon settings left attempt previous).withinAll spans) =
        (World.replyOf (follow enough (w.readAt daemon) left previous).2, v) ∧
      v.asked =
        List.replicate (follow enough (w.readAt daemon) left previous).1 daemon ++ w.asked ∧
      v.now = w.now + ((follow enough (w.readAt daemon) left previous).1 -
        if 1 < attempt then 0 else 1) * settings.retryWaitMillis ∧ v.cancelAt = none := by
  induction left generalizing attempt previous w with
  | zero =>
      unfold readsUntil
      rw [withinAll_bind]
      rcases World.exists_run_log spans (.warn "Routes pending in FRR on every read"
        [("count", toString (previous.getD []).length)]) w with ⟨event, hlog⟩
      rw [hlog, withinAll_pure]
      refine ⟨w.note event, rfl, rfl, ?_, hcancel⟩
      show w.now = w.now + (0 - _) * _
      rw [Nat.zero_sub, Nat.zero_mul, Nat.add_zero]
  | succ left ih =>
      rcases run_waitBefore settings spans hwatched hcancel attempt with
        ⟨u, hwait, hunow, huasked, huwatched, hucancel, hudaemons⟩
      rcases u.fetch_eq daemon with ⟨v, hfetch, hvnow, hvasked, hvwatched, hvcancel, hlater⟩
      have hreads : u.readAt daemon = w.readAt daemon := by
        unfold World.readAt
        rw [hudaemons]
      rw [hreads] at hfetch hlater
      have hread : u.run (request (.fetch daemon)) = (World.replyOf (w.readAt daemon 0), v) :=
        World.run_request.trans hfetch
      unfold readsUntil follow
      rw [withinAll_bind, World.run_bind, hwait]
      dsimp only
      rw [withinAll_bind, withinAll_request spans (q := .fetch daemon) trivial, World.run_bind,
        hread]
      cases hfirst : w.readAt daemon 0 with
      | error f =>
          refine ⟨v, rfl, ?_, ?_, hvcancel.trans hucancel⟩
          · rw [hvasked, huasked]
            rfl
          · rw [hvnow, hunow, wait_before_last]
      | ok records =>
          dsimp only [World.replyOf]
          rw [withinAll_bind]
          rcases World.exists_run_log spans (.debug "FRR read" [("attempt", toString attempt),
            ("pending", toString (keep previous records).length)]) v with ⟨event, hlog⟩
          rw [hlog]
          by_cases henough : enough (keep previous records) = true
          · rw [if_pos henough, if_pos henough, withinAll_bind, withinAll_pure]
            rcases World.exists_run_log spans (.info "No routes pending in FRR" [])
              (v.note event) with ⟨last, hlast⟩
            rw [hlast]
            refine ⟨(v.note event).note last, rfl, ?_, ?_, hvcancel.trans hucancel⟩
            · show v.asked = _
              rw [hvasked, huasked]
              rfl
            · show v.now = _
              rw [hvnow, hunow, wait_before_last]
          · rw [if_neg henough, if_neg henough]
            have hrest : (v.note event).readAt daemon = fun j => w.readAt daemon (j + 1) :=
              funext hlater
            rcases ih (w := v.note event) (hvwatched.trans huwatched) (hvcancel.trans hucancel)
              (Nat.le_succ_of_le hattempt) (some (keep previous records)) with
              ⟨x, hrun, hasked, hnow, hxcancel⟩
            rw [hrest] at hrun hasked hnow
            rw [if_pos (Nat.lt_succ_of_le hattempt)] at hnow
            refine ⟨x, hrun, ?_, ?_, hxcancel⟩
            · rw [hasked]
              show _ ++ v.asked = _
              rw [hvasked, huasked, List.replicate_succ', List.append_assoc]
              rfl
            · rw [hnow]
              show v.now + _ = _
              rw [hvnow, hunow, wait_before_last, Nat.add_assoc, ← Nat.add_mul]
              congr 2
              dsimp only
              split <;> omega

/-!
# Where the loop ends
-/

/-- The records of a read; one that fails has none. -/
def recordsRead : DaemonRead → List Json
  | .ok records => records
  | .error _ => []

/-- The records that are stuck at each read. -/
def stuckIn (r : Nat → DaemonRead) (j : Nat) : List Json :=
  stuckAt (fun i => recordsRead (r i)) j

/-- The loop over the reads from one with a number on makes the last one after so many others,
and comes to a result there. -/
structure EndsAfter (enough : List Json → Bool) (r : Nat → DaemonRead) (first left made : Nat)
    (result : Attempt (List Json)) : Prop where
  allowed : made < left
  /-- No read before the last one ended the loop. -/
  open_before : ∀ j, j < made → (exists records, r (first + j) = .ok records) ∧
    enough (stuckIn r (first + j)) = false
  failed : ∀ f, r (first + made) = .error f → result = .error f
  read : ∀ records, r (first + made) = .ok records → result = .ok (stuckIn r (first + made)) ∧
    (enough (stuckIn r (first + made)) = true ∨ made + 1 = left)

variable {r : Nat → DaemonRead} {first left : Nat}

/-- What a read keeps is what is stuck there, if the reads before it kept what was. -/
theorem keep_records {records : List Json} (h : r first = .ok records) :
    keep (keptBefore (fun i => recordsRead (r i)) first) records = stuckIn r first := by
  have hrecords : recordsRead (r first) = records := by
    rw [h]
    rfl
  rw [← hrecords]
  exact keep_keptBefore _ first

/-- The loop over the reads from one with a number on, which finds what was kept before it. -/
def followFrom (enough : List Json → Bool) (r : Nat → DaemonRead) (first left : Nat) :
    Nat × Attempt (List Json) :=
  follow enough (fun j => r (first + j)) left (keptBefore (fun i => recordsRead (r i)) first)

/-- The whole loop starts with the first read. -/
theorem follow_eq_followFrom (enough : List Json → Bool) (r : Nat → DaemonRead) (left : Nat) :
    follow enough r left none = followFrom enough r 0 left := by
  unfold followFrom
  simp only [Nat.zero_add]
  rfl

theorem followFrom_error {f : Failure} (h : r first = .error f) :
    followFrom enough r first (left + 1) = (1, .error f) :=
  follow_error h

theorem followFrom_enough {records : List Json} (h : r first = .ok records)
    (henough : enough (stuckIn r first) = true) :
    followFrom enough r first (left + 1) = (1, .ok (stuckIn r first)) := by
  unfold followFrom
  rw [← keep_records h] at henough ⊢
  exact follow_enough h henough

theorem followFrom_more {records : List Json} (h : r first = .ok records)
    (henough : enough (stuckIn r first) = false) :
    followFrom enough r first (left + 1) = ((followFrom enough r (first + 1) left).1 + 1,
      (followFrom enough r (first + 1) left).2) := by
  have hlater : (fun j => r (first + (j + 1))) = fun j => r (first + 1 + j) := by
    funext j
    rw [Nat.add_assoc, Nat.add_comm 1 j]
  unfold followFrom
  rw [← keep_records h] at henough
  rw [follow_more (r := fun j => r (first + j)) h (ne_true_of_eq_false henough), hlater,
    keep_records h]
  rfl

/-- The loop ends with its first read if that fails, keeps enough or is the only one. -/
theorem ends_at_first (h : ∀ records, r first = .ok records →
      enough (stuckIn r first) = true ∨ left = 0) :
    (followFrom enough r first (left + 1)).1 = 1 ∧
      EndsAfter enough r first (left + 1) 0 (followFrom enough r first (left + 1)).2 := by
  cases hread : r first with
  | error f =>
      rw [followFrom_error hread]
      refine ⟨rfl, Nat.succ_pos left, fun j hj => absurd hj (Nat.not_lt_zero j), ?_, ?_⟩
      · intro g hg
        exact hread.symm.trans hg
      · intro records hrecords
        rw [Nat.add_zero, hread] at hrecords
        cases hrecords
  | ok records =>
      have hresult : followFrom enough r first (left + 1) = (1, .ok (stuckIn r first)) := by
        cases henough : enough (stuckIn r first) with
        | true => exact followFrom_enough hread henough
        | false =>
            rcases h records hread with htrue | rfl
            · exact absurd (henough.symm.trans htrue) Bool.false_ne_true
            · rw [followFrom_more hread henough]
              rfl
      rw [hresult]
      refine ⟨rfl, Nat.succ_pos left, fun j hj => absurd hj (Nat.not_lt_zero j), ?_, ?_⟩
      · intro f hf
        rw [Nat.add_zero, hread] at hf
        cases hf
      · intro _ _
        exact ⟨rfl, (h records hread).imp id fun hleft => by rw [hleft]⟩

/-- Each read either ends the loop or leaves the rest of it to the reads after it. -/
theorem follow_ends (enough : List Json → Bool) (r : Nat → DaemonRead) (left first : Nat) :
    exists made, (followFrom enough r first (left + 1)).1 = made + 1 ∧
      EndsAfter enough r first (left + 1) made (followFrom enough r first (left + 1)).2 := by
  induction left generalizing first with
  | zero => exact ⟨0, ends_at_first fun _ _ => Or.inr rfl⟩
  | succ left ih =>
      by_cases hmore : exists records, r first = .ok records ∧ enough (stuckIn r first) = false
      · rcases hmore with ⟨records, hread, henough⟩
        rcases ih (first + 1) with ⟨made, hmade, hends⟩
        rw [followFrom_more hread henough, hmade]
        refine ⟨made + 1, rfl, Nat.succ_lt_succ hends.allowed, ?_, ?_, ?_⟩
        · intro j hj
          cases j with
          | zero => exact ⟨⟨records, hread⟩, henough⟩
          | succ j =>
              rw [Nat.add_comm j 1, ← Nat.add_assoc]
              exact hends.open_before j (Nat.lt_of_succ_lt_succ hj)
        · rw [Nat.add_comm made 1, ← Nat.add_assoc]
          exact hends.failed
        · rw [Nat.add_comm made 1, ← Nat.add_assoc]
          intro records hrecords
          exact (hends.read records hrecords).imp id fun h =>
            h.imp id fun hlast => by rw [← hlast, Nat.add_comm 1 made]
      · refine ⟨0, ends_at_first ?_⟩
        intro records hread
        refine Or.inl (Bool.of_not_eq_false fun henough => ?_)
        exact hmore ⟨records, hread, henough⟩

end ControlPlane
end RouteAudit
