import RouteAudit.ControlPlane
import RouteAudit.Proofs.Json.Sameness

/-!
# Stuck records

A record of a read is stuck if its route is unconfirmed and, but for its uptime, the record was
there in every read before, unconfirmed as well.  A read compares its records with those that the
read before it kept, and not with all earlier reads; it keeps the stuck records all the same.  Once
a read keeps nothing, no later read keeps anything.
-/

namespace RouteAudit
namespace ControlPlane

variable {r : Nat → List Json} {records : List Json} {x y z : Json} {name text : String}

/-!
# Unconfirmed routes

A field that holds no text, or no truth value, counts as one that is missing.
-/

/-- The record of a selected route that was learned by BGP for the default instance, and that the
hardware has not confirmed. -/
structure Unconfirmed (record : Json) : Prop where
  vrf : ∀ name, record.field? "vrfName" = some (.string name) → name = "default"
  protocol : record.field? "protocol" = some (.string "bgp")
  selected : record.field? "selected" = some (.bool true)
  not_offloaded : record.field? "offloaded" ≠ some (.bool true)

theorem asText?_field?_eq_some_iff :
    (x.field? name).bind Json.asText? = some text ↔ x.field? name = some (.string text) := by
  rw [Option.bind_eq_some_iff]
  constructor
  · intro h
    rcases h with ⟨value, hvalue, htext⟩
    cases value with
    | string s =>
        cases htext
        exact hvalue
    | _ => cases htext
  · intro h
    exact ⟨_, h, rfl⟩

theorem textField_eq_iff : textField name text x = text ↔
    ∀ other, x.field? name = some (.string other) → other = text := by
  unfold textField
  simp only [← asText?_field?_eq_some_iff]
  cases (x.field? name).bind Json.asText? with
  | none => simp
  | some other => simp

theorem flagField_iff : flagField name x = true ↔ x.field? name = some (.bool true) := by
  unfold flagField
  cases x.field? name with
  | none => simp
  | some value =>
      cases value with
      | bool b => simp [Json.asBool?]
      | _ => simp [Json.asBool?]

theorem isPending_iff : isPending x = true ↔ Unconfirmed x := by
  unfold isPending
  rw [Bool.and_eq_true, Bool.and_eq_true, Bool.and_eq_true, beq_iff_eq, beq_iff_eq,
    textField_eq_iff, asText?_field?_eq_some_iff, flagField_iff, Bool.not_eq_true',
    ← Bool.not_eq_true, flagField_iff]
  constructor
  · intro h
    rcases h with ⟨⟨⟨hvrf, hprotocol⟩, hselected⟩, hoffloaded⟩
    exact ⟨hvrf, hprotocol, hselected, hoffloaded⟩
  · intro h
    exact ⟨⟨⟨h.vrf, h.protocol⟩, h.selected⟩, h.not_offloaded⟩

instance : DecidablePred Unconfirmed :=
  fun _ => decidable_of_iff _ isPending_iff

theorem mem_pending : x ∈ pending records ↔ x ∈ records ∧ Unconfirmed x := by
  unfold pending
  rw [List.mem_filter, isPending_iff]

theorem Unconfirmed.isObject (h : Unconfirmed x) : exists fields, x = .object fields := by
  have hprotocol := h.protocol
  cases x with
  | object fields => exact ⟨fields, rfl⟩
  | _ => cases hprotocol

/-!
# Records of different reads
-/

/-- The fields of a record but for the uptime, with floating-point zeros that have no sign. -/
def lastingFields (fields : List (String × Json)) : List (String × Json) :=
  (fields.filter fun f => f.1 ≠ "uptime").map fun f => (f.1, f.2.unsigned)

/-- Records with the same fields, but for the uptime. -/
inductive AgreeButUptime : Json → Json → Prop where
  | objects {xs ys : List (String × Json)} :
      lastingFields xs = lastingFields ys → AgreeButUptime (.object xs) (.object ys)

theorem AgreeButUptime.symm (h : AgreeButUptime x y) : AgreeButUptime y x := by
  cases h with
  | objects h => exact .objects h.symm

theorem AgreeButUptime.trans (hxy : AgreeButUptime x y) (hyz : AgreeButUptime y z) :
    AgreeButUptime x z := by
  cases hxy with
  | objects hxy =>
      cases hyz with
      | objects hyz => exact .objects (hxy.trans hyz)

theorem same_stableForm_iff {xs ys : List (String × Json)} :
    (stableForm (.object xs)).same (stableForm (.object ys)) = true ↔
      AgreeButUptime (.object xs) (.object ys) := by
  have hfields : ∀ fields : List (String × Json), (stableForm (.object fields)).unsigned =
      .object (lastingFields fields) := by
    intro fields
    exact congrArg Json.object (Json.unsignedFields_eq_map _)
  rw [Json.same_iff_unsigned_eq, hfields, hfields, Json.object.injEq]
  constructor
  · intro h
    exact .objects h
  · intro h
    cases h with
    | objects h => exact h

/-- A record was unconfirmed in a read, whatever its uptime was then. -/
def WasUnconfirmed (records : List Json) (x : Json) : Prop :=
  exists y, y ∈ records ∧ Unconfirmed y ∧ AgreeButUptime y x

theorem isAmong_iff (hrecords : ∀ y ∈ records, Unconfirmed y) (hx : Unconfirmed x) :
    isAmong records x = true ↔ exists y, y ∈ records ∧ AgreeButUptime y x := by
  rcases hx.isObject with ⟨xs, rfl⟩
  unfold isAmong
  rw [List.any_eq_true]
  apply exists_congr
  intro y
  apply and_congr_right
  intro hy
  rcases (hrecords y hy).isObject with ⟨ys, rfl⟩
  exact same_stableForm_iff

theorem isAmong_pending_iff (hx : Unconfirmed x) :
    isAmong (pending records) x = true ↔ WasUnconfirmed records x := by
  rw [isAmong_iff (fun y hy => (mem_pending.mp hy).2) hx]
  unfold WasUnconfirmed
  simp only [mem_pending, and_assoc]

/-!
# Stuck records
-/

/-- A record that a read with a number shows is unconfirmed, and was in each read before it.
Numbers start at zero. -/
def IsStuck (r : Nat → List Json) (j : Nat) (x : Json) : Prop :=
  Unconfirmed x ∧ ∀ i, i < j → WasUnconfirmed (r i) x

theorem isStuck_iff {j : Nat} :
    (isPending x = true ∧ ∀ i, i < j → isAmong (pending (r i)) x = true) ↔ IsStuck r j x := by
  unfold IsStuck
  rw [isPending_iff]
  apply and_congr_right
  intro hx
  simp only [isAmong_pending_iff hx]

instance (r : Nat → List Json) (j : Nat) : DecidablePred (IsStuck r j) :=
  fun _ => decidable_of_iff _ isStuck_iff

/-- The stuck records of the read with a number, in their order and with repeats. -/
def stuckAt (r : Nat → List Json) (j : Nat) : List Json :=
  (r j).filter fun x => IsStuck r j x

/-- What a read finds kept by the reads before it. -/
def keptBefore (r : Nat → List Json) : Nat → Option (List Json)
  | 0 => none
  | j + 1 => some (stuckAt r j)

theorem mem_stuckAt {j : Nat} : x ∈ stuckAt r j ↔ x ∈ r j ∧ IsStuck r j x := by
  unfold stuckAt
  rw [List.mem_filter, decide_eq_true_iff]

/-- To be among the stuck records of a read is to have been unconfirmed in that read and in all
reads before it. -/
theorem isAmong_stuckAt_iff {j : Nat} (hx : Unconfirmed x) : isAmong (stuckAt r j) x = true ↔
    ∀ i, i < j + 1 → WasUnconfirmed (r i) x := by
  rw [isAmong_iff (fun y hy => (mem_stuckAt.mp hy).2.1) hx]
  constructor
  · intro h i hi
    rcases h with ⟨y, hy, hagree⟩
    rcases mem_stuckAt.mp hy with ⟨hmem, hunconfirmed, hbefore⟩
    rcases Nat.lt_succ_iff_lt_or_eq.mp hi with hi | rfl
    · rcases hbefore i hi with ⟨z, hz, hwas, hzy⟩
      exact ⟨z, hz, hwas, hzy.trans hagree⟩
    · exact ⟨y, hmem, hunconfirmed, hagree⟩
  · intro h
    rcases h j (Nat.lt_succ_self j) with ⟨y, hy, hunconfirmed, hagree⟩
    refine ⟨y, mem_stuckAt.mpr ⟨hy, hunconfirmed, ?_⟩, hagree⟩
    intro i hi
    rcases h i (Nat.lt_succ_of_lt hi) with ⟨z, hz, hwas, hzx⟩
    exact ⟨z, hz, hwas, hzx.trans hagree.symm⟩

theorem keep_keptBefore (r : Nat → List Json) (j : Nat) :
    keep (keptBefore r j) (r j) = stuckAt r j := by
  cases j with
  | zero =>
      show (r 0).filter isPending = _
      apply List.filter_congr
      intro x _
      rw [Bool.eq_iff_iff, decide_eq_true_iff, isPending_iff]
      exact (and_iff_left fun i hi => absurd hi (Nat.not_lt_zero i)).symm
  | succ j =>
      show ((r (j + 1)).filter isPending).filter (isAmong (stuckAt r j)) = _
      rw [List.filter_filter]
      apply List.filter_congr
      intro x _
      rw [Bool.eq_iff_iff, Bool.and_eq_true, decide_eq_true_iff, isPending_iff, and_comm]
      exact and_congr_right isAmong_stuckAt_iff

theorem stuckAt_eq_nil_of_le {j k : Nat} (h : stuckAt r j = []) (hjk : j ≤ k) :
    stuckAt r k = [] := by
  induction hjk with
  | refl => exact h
  | @step k _ ih =>
      have hkeep := keep_keptBefore r (k + 1)
      rw [← hkeep, keptBefore, ih]
      show (pending (r (k + 1))).filter (fun _ => false) = []
      exact List.filter_eq_nil_iff.mpr fun _ _ => Bool.false_ne_true

end ControlPlane
end RouteAudit
