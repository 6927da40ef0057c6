import RouteAudit.Clock
import RouteAudit.Launch
import RouteAudit.Proofs.Cycle.Windows
import RouteAudit.Proofs.Settings.Documents

/-!
# Settings and the range of the clock

A run adds durations to what the clock shows: its time limit where it begins, and the window of
each drain.  Windows close by the deadline, so they fit where the deadline does.  But a time
limit is only asked to be longer than the window, and a valid one may be so long that the
clock, whatever full second it shows, has no reading for the deadline.
-/

namespace RouteAudit

namespace Clock

variable {shown : Reading} {seconds : Nat}

theorem nanosOf_seconds (seconds : Nat) : nanosOf (seconds * 1000) = seconds * nanosPerSecond :=
  Nat.mul_assoc _ _ _

/-- Full seconds can be added as long as the seconds of the sum are within the range. -/
theorem isSome_add?_seconds_iff :
    (shown.add? (nanosOf (seconds * 1000))).isSome ↔ shown.seconds + seconds < secondsLimit := by
  have hnanos := shown.nanos_lt
  have hsum : shown.total + nanosOf (seconds * 1000) =
      (shown.seconds + seconds) * nanosPerSecond + shown.nanos := by
    rw [nanosOf_seconds, Nat.add_mul]
    unfold Reading.total
    omega
  rw [Reading.isSome_add?_iff, hsum]
  constructor
  · intro h
    exact Nat.lt_of_mul_lt_mul_right (Nat.lt_of_le_of_lt (Nat.le_add_right _ _) h)
  · intro h
    calc (shown.seconds + seconds) * nanosPerSecond + shown.nanos
        < (shown.seconds + seconds) * nanosPerSecond + nanosPerSecond :=
          Nat.add_lt_add_left hnanos _
      _ = (shown.seconds + seconds + 1) * nanosPerSecond := (Nat.succ_mul _ _).symm
      _ ≤ secondsLimit * nanosPerSecond := Nat.mul_le_mul_right _ h

/-- A window that is no longer than the time that was left ends by the deadline, or so much later
as the clock went on since it was asked for the time left. -/
theorem isSome_add?_window {deadline asked drained : Reading}
    (h : (deadline.add? (drained.since asked)).isSome) (window : Nat) :
    (drained.add? (min window (deadline.since asked))).isSome := by
  have hdrained := drained.total_lt
  rw [Reading.isSome_add?_iff] at h ⊢
  unfold Reading.since at h ⊢
  omega

/-!
# Additions
-/

/-- A duration that is added to what the clock shows at some time of a run. -/
structure Addition where
  time : Time
  duration : Time

/-- Whether the clock has readings for the time of an addition and for the sum, if it showed a
reading at the start of the run. -/
def Addition.Fits (a : Addition) (shown : Reading) (start : Time) : Prop :=
  ((shown.add? (nanosOf (a.time - start))).bind fun now => now.add? (nanosOf a.duration)).isSome

theorem Addition.fits_iff {a : Addition} {start : Time} : a.Fits shown start ↔
    shown.total + nanosOf (a.time - start + a.duration) < secondsLimit * nanosPerSecond := by
  have hsum : nanosOf (a.time - start + a.duration) =
      nanosOf (a.time - start) + nanosOf a.duration := Nat.add_mul _ _ _
  unfold Fits
  rw [hsum, ← Nat.add_assoc]
  cases hnow : shown.add? (nanosOf (a.time - start)) with
  | none =>
      have hlate : ¬shown.total + nanosOf (a.time - start) < secondsLimit * nanosPerSecond := by
        rw [← Reading.isSome_add?_iff, hnow]
        exact Bool.false_ne_true
      constructor
      · intro h
        cases h
      · intro h
        exact absurd (Nat.lt_of_le_of_lt (Nat.le_add_right _ _) h) hlate
  | some now =>
      rw [Option.bind_some, Reading.isSome_add?_iff, Reading.total_of_add? hnow]

end Clock

namespace World

variable {α : Type} {p : Program α} {w : World} {limit : Time}

/-- The addition of the window that a drain makes. -/
def windowAdded? : Time × Request → Option Clock.Addition
  | (t, .drain _ window) => some ⟨t, window⟩
  | _ => none

/-- The additions of a watched run: its limit, and the windows of its drains. -/
def additions (limit : Time) (p : Program α) (w : World) : List Clock.Addition :=
  ⟨w.now, limit⟩ :: (boundedSteps limit p w).filterMap windowAdded?

theorem mem_additions {a : Clock.Addition} : a ∈ additions limit p w ↔
    a = ⟨w.now, limit⟩ ∨
      exists site, (a.time, .drain site a.duration) ∈ boundedSteps limit p w := by
  unfold additions
  rw [List.mem_cons, List.mem_filterMap]
  apply or_congr_right
  constructor
  · intro h
    rcases h with ⟨⟨t, q⟩, hmem, hadded⟩
    cases q with
    | drain site window =>
        cases hadded
        exact ⟨site, hmem⟩
    | _ => cases hadded
  · intro h
    rcases h with ⟨site, hmem⟩
    exact ⟨_, hmem, rfl⟩

/-- Where the windows of a run close by its deadline, they fit if the deadline does. -/
theorem additions_fit_iff {Q : α → Option Time → Prop} {shown : Clock.Reading}
    (hp : Program.Ensures rememberingLeft p none Q) :
    (∀ a ∈ additions limit p w, a.Fits shown w.now) ↔
      (shown.add? (Clock.nanosOf limit)).isSome := by
  have hlimit : Clock.Addition.Fits ⟨w.now, limit⟩ shown w.now ↔
      (shown.add? (Clock.nanosOf limit)).isSome := by
    rw [Clock.Addition.fits_iff, Clock.Reading.isSome_add?_iff, Nat.sub_self, Nat.zero_add]
  constructor
  · intro h
    exact hlimit.mp (h _ (mem_additions.mpr (Or.inl rfl)))
  · intro h a ha
    cases mem_additions.mp ha with
    | inl heq =>
        rw [heq]
        exact hlimit.mpr h
    | inr hdrain =>
        rcases hdrain with ⟨site, hstep⟩
        rcases window_closes_by_deadline hp hstep with ⟨hopens, hcloses⟩
        have hle : Clock.nanosOf (a.time - w.now + a.duration) ≤ Clock.nanosOf limit := by
          apply Nat.mul_le_mul_right
          rw [← Nat.sub_add_comm hopens]
          exact Nat.sub_le_iff_le_add'.mpr hcloses
        rw [Clock.Reading.isSome_add?_iff] at h
        exact Clock.Addition.fits_iff.mpr (Nat.lt_of_le_of_lt (Nat.add_le_add_left hle _) h)

end World

/-!
# Valid settings
-/

namespace Settings

/-- A check adds nothing that leads out of the range of the clock as long as its time limit does
not: all additions fit if the full seconds of the reading at its start and of the time limit do.
If the clock goes on between the question for the time left and the drain, the window still fits
if the deadline has a reading so much later. -/
theorem check_additions_fit_iff (s : Settings) (checks : List Check) (r : Report) (w : World)
    (shown : Clock.Reading) :
    ((∀ a ∈ World.additions s.check.timeoutMillis (checkAll checks r) w, a.Fits shown w.now) ↔
      shown.seconds + s.check.timeoutSeconds < Clock.secondsLimit) ∧
    ∀ (window : Nat) (deadline asked drained : Clock.Reading),
      (deadline.add? (drained.since asked)).isSome →
        (drained.add? (min window (deadline.since asked))).isSome := by
  constructor
  · rw [World.additions_fit_iff Check.ensures_checkAll_withinLeft]
    exact Clock.isSome_add?_seconds_iff
  · intro window deadline asked drained hdeadline
    exact Clock.isSome_add?_window hdeadline window

/-- A check of an empty store, whose changes may be late. -/
def plainCheck : Check where
  site := ""
  settings := {}
  locals := ⟨[], []⟩
  rules := []
  daemon := none
  mode := .errors

theorem additions_fit_of_defaults :
    (∀ a ∈ World.additions ({} : Settings).check.timeoutMillis (checkAll [plainCheck] .empty) {},
      a.Fits Clock.Reading.booted 0) ∧
    (Clock.Reading.booted.add? (Clock.Reading.booted.since .zero)).isSome ∧
    (Clock.Reading.booted.add? (min 5 (Clock.Reading.booted.since .zero))).isSome := by
  have hgap : (Clock.Reading.booted.add? (Clock.Reading.booted.since .zero)).isSome := by decide
  have hfit := check_additions_fit_iff {} [plainCheck] .empty {} Clock.Reading.booted
  exact ⟨hfit.1.mpr (by decide), hgap, hfit.2 5 _ _ _ hgap⟩

/-- A document with the longest time limit that can be written. -/
def longDocument : String := "[check]\ntimeout_secs = 9223372036854775807"

def longSettings : Settings where
  check := { timeoutSeconds := 9223372036854775807 }

/-- Valid settings whose time limit leads out of the range of the clock at any full second. -/
theorem valid_time_limit_overflows :
    parse longDocument = .ok longSettings ∧ longSettings.validate = .ok () ∧
      exists a, a ∈ World.additions longSettings.check.timeoutMillis
        (checkAll [plainCheck] .empty) {} ∧ ¬a.Fits Clock.Reading.booted 0 := by
  have hvalid : longSettings.validate = .ok () := by decide +kernel
  have hread : parse longDocument = .ok longSettings :=
    parse_eq_ok_iff.mpr ⟨by decide +kernel, hvalid⟩
  refine ⟨hread, hvalid, ⟨0, longSettings.check.timeoutMillis⟩, List.mem_cons_self, ?_⟩
  rw [Clock.Addition.fits_iff]
  decide

end Settings

/-!
# Crashes
-/

namespace Launch

variable {machine : Machine} {engine : Pattern.Engine} {arguments : CommandLine.Arguments}
  {s : Settings} {c : Checker}

theorem limit_of_checker {namespaces : List (String × DatabaseSettings)}
    (h : (checker machine engine arguments s namespaces).value = .ok c) :
    c.schedule.limit = s.check.timeoutMillis := by
  unfold checker at h
  dsimp only [bind] at h
  split at h
  · cases h
  · cases h
    rfl

theorem limit_of_prepare (hload : (Settings.load machine.files arguments.config).value = .ok s)
    (h : (prepare machine engine arguments).value = .ok c) :
    c.schedule.limit = s.check.timeoutMillis := by
  unfold prepare at h
  dsimp only [bind] at h
  rw [hload] at h
  dsimp only at h
  split at h
  · cases h
  · exact limit_of_checker h

theorem exitCode_resultOf_ne (mode : Mode) (before : List LogEvent)
    (checked : Bool × List LogEvent × String × Checker) :
    (resultOf mode before checked).exitCode ≠ crashCode := by
  rcases checked with ⟨passed, events, output, later⟩
  show exitCode passed ≠ crashCode
  cases passed with
  | false => decide
  | true => decide

theorem crashes_iff (mode : Mode) (before : List LogEvent) (now : Clock.Reading) :
    (c.result mode before now).exitCode = crashCode ↔ ¬(c.deadline? now).isSome := by
  unfold Checker.result
  by_cases hdeadline : (c.deadline? now).isSome
  · rw [if_pos hdeadline]
    exact iff_of_false (exitCode_resultOf_ne mode before c.once) (not_not_intro hdeadline)
  · rw [if_neg hdeadline]
    exact iff_of_true rfl hdeadline

theorem run_of_ready (hready : (prepare machine engine arguments).value = .ok c)
    (now : Clock.Reading) :
    run machine engine arguments now =
      c.result arguments.mode (prepare machine engine arguments).events now := by
  unfold run
  generalize prepare machine engine arguments = prepared at hready ⊢
  dsimp only
  rw [hready]

/-- A checker that is ready crashes if the seconds of its time limit lead out of the range of the
clock, and only then. -/
theorem run_crashes_iff (hload : (Settings.load machine.files arguments.config).value = .ok s)
    (hready : (prepare machine engine arguments).value = .ok c) (now : Clock.Reading) :
    (run machine engine arguments now).exitCode = crashCode ↔
      Clock.secondsLimit ≤ now.seconds + s.check.timeoutSeconds := by
  have hdeadline : (c.deadline? now).isSome ↔
      now.seconds + s.check.timeoutSeconds < Clock.secondsLimit := by
    unfold Checker.deadline?
    rw [limit_of_prepare hload hready]
    exact Clock.isSome_add?_seconds_iff
  rw [run_of_ready hready, crashes_iff, hdeadline, Nat.not_lt]

end Launch
end RouteAudit
