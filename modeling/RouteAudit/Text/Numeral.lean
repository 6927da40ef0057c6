/-!
# Whole numbers in text

Prefix lengths, hardware address bytes, interface indices and the arguments of the
command line are read by one rule: an optional plus sign, then at least one digit,
with a value up to a limit.  Leading zeros are allowed.  Numbers are written in their
shortest form.
-/

namespace RouteAudit
namespace Numeral

/-- The first number of more than `n` binary digits. -/
def twoTo (n : Nat) : Nat := Nat.pow 2 n

/-- The first number of more than `n` decimal digits. -/
def tenTo (n : Nat) : Nat := Nat.pow 10 n

/-- Why a text is no number. -/
inductive Fault where
  | empty
  | invalidDigit
  | tooLarge
  deriving DecidableEq, Repr

def Fault.message : Fault → String
  | .empty => "cannot parse integer from empty string"
  | .invalidDigit => "invalid digit found in string"
  | .tooLarge => "number too large to fit in target type"

/-!
# Digits

Digits above nine are letters of either case.
-/

def digit? (base : Nat) (c : Char) : Option Nat :=
  let value :=
    if '0' ≤ c ∧ c ≤ '9' then c.toNat - '0'.toNat
    else if 'a' ≤ c ∧ c ≤ 'z' then c.toNat - 'a'.toNat + 10
    else if 'A' ≤ c ∧ c ≤ 'Z' then c.toNat - 'A'.toNat + 10
    else base
  if value < base then some value else none

/-- Adds the digits of a text to a value, from the left.  The first digit that is none,
or that takes the value above the limit, decides the fault. -/
def extend (base limit : Nat) : Nat → List Char → Except Fault Nat
  | value, [] => .ok value
  | value, c :: rest =>
      match digit? base c with
      | none => .error .invalidDigit
      | some d =>
          if value * base + d ≤ limit then
            extend base limit (value * base + d) rest
          else
            .error .tooLarge

/-!
# Reading and writing
-/

def read (base limit : Nat) : List Char → Except Fault Nat
  | [] => .error .empty
  | '+' :: [] => .error .invalidDigit
  | '+' :: rest => extend base limit 0 rest
  | text => extend base limit 0 text

def read? (base limit : Nat) (text : List Char) : Option Nat :=
  (read base limit text).toOption

def digits (base n : Nat) : List Char :=
  Nat.toDigits base n

/-- Writes a number in at least `width` digits. -/
def padded (base width n : Nat) : List Char :=
  let text := digits base n
  List.replicate (width - text.length) '0' ++ text

theorem extend_le {base limit value n : Nat} {text : List Char} (hv : value ≤ limit)
    (h : extend base limit value text = .ok n) : n ≤ limit := by
  induction text generalizing value with
  | nil =>
      simp only [extend, Except.ok.injEq] at h
      omega
  | cons c rest ih =>
      simp only [extend] at h
      split at h
      · cases h
      · split at h
        · rename_i hle
          exact ih hle h
        · cases h

theorem read?_eq_some {base limit n : Nat} {text : List Char} :
    read? base limit text = some n ↔ read base limit text = .ok n := by
  unfold read?
  cases read base limit text with
  | error fault => simp [Except.toOption]
  | ok m => simp [Except.toOption]

end Numeral
end RouteAudit
