import RouteAudit.Text.Numeral

/-!
# Binary floating point

A number of the 64-bit binary format is a sign, a significand and an exponent.  This
module rounds exact quotients to the format, multiplies and divides in it, and finds the
decimal digits that stand for a number.  All of it is exact arithmetic on naturals, and
infinities and the undefined value are left out: what is too large has no result.
-/

namespace RouteAudit

/-- The number `±significand · 2 ^ exponent`. -/
structure Binary64 where
  negative : Bool
  significand : Nat
  exponent : Int
  deriving DecidableEq, Repr

namespace Binary64

def leastExponent : Int := -1074

def greatestExponent : Int := 971

def zero (negative : Bool) : Binary64 := ⟨negative, 0, leastExponent⟩

def isZero (x : Binary64) : Bool := x.significand == 0

/-- Equality of numbers: the two zeros are equal. -/
def same (x y : Binary64) : Bool :=
  x == y || (x.isZero && y.isZero)

/-!
# Rounding

A quotient is rounded to the nearest number of the format, and of two nearest ones to
the one with the even significand.
-/

/-- Writes `n · 2 ^ e` as a quotient. -/
def scaled (n : Nat) (e : Int) : Nat × Nat :=
  if 0 ≤ e then (n * Numeral.twoTo e.toNat, 1) else (n, Numeral.twoTo (-e).toNat)

/-- The integer nearest to `num / den`, the even one of two. -/
def nearest (num den : Nat) : Nat :=
  let q := num / den
  let r := num % den
  if den < 2 * r ∨ (2 * r = den ∧ q % 2 = 1) then q + 1 else q

/-- The exponent that gives `num / den` a significand of 53 bits, or the least one. -/
def exponentFor (num den : Nat) : Int :=
  let e : Int := (Nat.log2 num : Int) - Nat.log2 den - 53
  let (n, d) := scaled num (-e)
  let e := if Numeral.twoTo 53 ≤ n / (d * den) then e + 1 else e
  max e leastExponent

def round? (negative : Bool) (num den : Nat) : Option Binary64 :=
  if num = 0 then
    some (zero negative)
  else
    let e := exponentFor num den
    let (n, d) := scaled num (-e)
    let q := nearest n (d * den)
    let (q, e) := if q = Numeral.twoTo 53 then (Numeral.twoTo 52, e + 1) else (q, e)
    if e ≤ greatestExponent then some ⟨negative, q, e⟩ else none

def ofNat? (n : Nat) : Option Binary64 := round? false n 1

/-- The number nearest to a power of ten. -/
def powerOfTen? (n : Nat) : Option Binary64 := ofNat? (Numeral.tenTo n)

def mul? (x y : Binary64) : Option Binary64 :=
  let (num, den) := scaled (x.significand * y.significand) (x.exponent + y.exponent)
  round? (x.negative != y.negative) num den

/-- The quotient by a number that is not zero. -/
def div? (x y : Binary64) : Option Binary64 :=
  let (num, den) := scaled x.significand (x.exponent - y.exponent)
  round? (x.negative != y.negative) num (den * y.significand)

/-!
# Shortest digits

Among the decimals that round to a number, the shortest are searched, and the nearest of
them is taken.  For each count of digits only the two neighbors of the number on the
grid of that many digits can be such decimals.
-/

/-- The reals that round to a number, as quotients over one denominator; the ends belong
to it when the significand is even. -/
structure Interval where
  low : Nat
  value : Nat
  high : Nat
  den : Nat
  closed : Bool

def interval (x : Binary64) : Interval :=
  let m := x.significand
  let below := if m = Numeral.twoTo 52 ∧ leastExponent < x.exponent then 1 else 2
  let (unit, den) := scaled 1 (x.exponent - 2)
  ⟨(4 * m - below) * unit, 4 * m * unit, (4 * m + 2) * unit, den, m % 2 == 0⟩

/-- The power of ten just above `num / den`. -/
def magnitude (num den : Nat) : Int :=
  if den ≤ num then
    (Numeral.digits 10 (num / den)).length
  else
    let length := (Numeral.digits 10 (den / num)).length
    if den ≤ num * Numeral.tenTo (length - 1) then 2 - length else 1 - length

/-- Whether `digits · 10 ^ place` rounds to the number. -/
def Interval.has (i : Interval) (digits : Nat) (place : Int) : Bool :=
  let (n, d) :=
    if 0 ≤ place then (digits * Numeral.tenTo place.toNat, 1)
    else (digits, Numeral.tenTo (-place).toNat)
  let at_ := n * i.den
  let low := i.low * d
  let high := i.high * d
  if i.closed then low ≤ at_ && at_ ≤ high else low < at_ && at_ < high

/-- The neighbor of the number on the grid `10 ^ place` that rounds to it. -/
def Interval.onGrid? (i : Interval) (place : Int) : Option Nat :=
  let (n, d) :=
    if 0 ≤ place then (i.value, i.den * Numeral.tenTo place.toNat)
    else (i.value * Numeral.tenTo (-place).toNat, i.den)
  let floor := n / d
  let rest := n % d
  match i.has floor place, i.has (floor + 1) place with
  | false, false => none
  | true, false => some floor
  | false, true => some (floor + 1)
  | true, true =>
      if d < 2 * rest ∨ (2 * rest = d ∧ floor % 2 = 1) then some (floor + 1) else some floor

def search (i : Interval) (top : Int) : Nat → Nat → Nat × Int
  | 0, count => ((i.onGrid? (top - count)).getD 0, top - count)
  | fuel + 1, count =>
      match i.onGrid? (top - count) with
      | some digits => (digits, top - count)
      | none => search i top fuel (count + 1)

/-- Drops trailing zeros. -/
def strip : Nat → Nat → Int → Nat × Int
  | 0, digits, place => (digits, place)
  | fuel + 1, digits, place =>
      if digits ≠ 0 ∧ digits % 10 = 0 then strip fuel (digits / 10) (place + 1)
      else (digits, place)

/-- Digits and the place of the last one, for a number that is not zero. -/
def shortest (x : Binary64) : Nat × Int :=
  let i := x.interval
  let (digits, place) := search i (magnitude i.value i.den) 17 1
  strip 18 digits place

end Binary64
end RouteAudit
