import RouteAudit.Store
import RouteAudit.Text.Numeral

/-!
# The clock

Deadlines are set by a clock that shows the time since the machine was started, in seconds and
nanoseconds.  The seconds are a signed number of 64 binary digits, so a time beyond the last of
them has no reading.
-/

namespace RouteAudit
namespace Clock

def nanosPerSecond : Nat := 1000000000

def nanosPerMilli : Nat := 1000000

/-- The first number of seconds that the clock cannot show. -/
def secondsLimit : Nat := Numeral.twoTo 63

/-- A time in nanoseconds. -/
def nanosOf (t : Time) : Nat := t * nanosPerMilli

structure Reading where
  seconds : Nat
  nanos : Nat
  seconds_lt : seconds < secondsLimit
  nanos_lt : nanos < nanosPerSecond

namespace Reading

/-- The machine was just started. -/
def zero : Reading := ⟨0, 0, by decide, by decide⟩

/-- The first full second. -/
def booted : Reading := ⟨1, 0, by decide, by decide⟩

/-- The nanoseconds that a reading stands for. -/
def total (r : Reading) : Nat := r.seconds * nanosPerSecond + r.nanos

/-- The reading after a duration in nanoseconds: first the full seconds are added, then the
rest, which may carry over into one more. -/
def add? (r : Reading) (duration : Nat) : Option Reading :=
  let seconds := r.seconds + duration / nanosPerSecond
  let nanos := r.nanos + duration % nanosPerSecond
  if hseconds : seconds < secondsLimit then
    if hnanos : nanos < nanosPerSecond then
      some ⟨seconds, nanos, hseconds, hnanos⟩
    else if hcarry : seconds + 1 < secondsLimit then
      some ⟨seconds + 1, nanos - nanosPerSecond, hcarry, by
        have hrest := Nat.mod_lt duration (show 0 < nanosPerSecond by decide)
        have hshown := r.nanos_lt
        omega⟩
    else
      none
  else
    none

/-- The nanoseconds since an earlier reading, and none since a later one. -/
def since (r earlier : Reading) : Nat := r.total - earlier.total

theorem total_lt (r : Reading) : r.total < secondsLimit * nanosPerSecond := by
  have hseconds := r.seconds_lt
  have hnanos := r.nanos_lt
  unfold total
  calc r.seconds * nanosPerSecond + r.nanos
      < r.seconds * nanosPerSecond + nanosPerSecond := Nat.add_lt_add_left hnanos _
    _ = (r.seconds + 1) * nanosPerSecond := (Nat.succ_mul _ _).symm
    _ ≤ secondsLimit * nanosPerSecond := Nat.mul_le_mul_right _ hseconds

theorem total_of_add? {r later : Reading} {duration : Nat} (h : r.add? duration = some later) :
    later.total = r.total + duration := by
  have hwhole := Nat.div_add_mod' duration nanosPerSecond
  unfold add? at h
  dsimp only at h
  split at h
  · split at h
    · cases h
      unfold total
      dsimp only
      rw [Nat.add_mul]
      omega
    · split at h
      · cases h
        unfold total
        dsimp only
        rw [Nat.add_mul, Nat.add_mul, Nat.one_mul]
        omega
      · cases h
  · cases h

/-- A duration can be added as long as the sum is within the range of the clock. -/
theorem isSome_add?_iff {r : Reading} {duration : Nat} :
    (r.add? duration).isSome ↔ r.total + duration < secondsLimit * nanosPerSecond := by
  constructor
  · intro h
    rcases Option.isSome_iff_exists.mp h with ⟨later, hlater⟩
    rw [← total_of_add? hlater]
    exact later.total_lt
  · intro h
    have hsum : (r.seconds + duration / nanosPerSecond) * nanosPerSecond +
        (r.nanos + duration % nanosPerSecond) < secondsLimit * nanosPerSecond := by
      have hwhole := Nat.div_add_mod' duration nanosPerSecond
      unfold total at h
      rw [Nat.add_mul]
      omega
    have hseconds : r.seconds + duration / nanosPerSecond < secondsLimit :=
      Nat.lt_of_mul_lt_mul_right (Nat.lt_of_le_of_lt (Nat.le_add_right _ _) hsum)
    unfold add?
    dsimp only
    rw [dif_pos hseconds]
    split
    · rfl
    · rename_i hnanos
      have hcarry : r.seconds + duration / nanosPerSecond + 1 < secondsLimit := by
        apply Nat.lt_of_mul_lt_mul_right (a := nanosPerSecond)
        rw [Nat.succ_mul]
        omega
      rw [dif_pos hcarry]
      rfl

end Reading

/-- What is said when a deadline has no reading. -/
def overflowMessage : String := "overflow when adding duration to instant"

end Clock
end RouteAudit
