import RouteAudit.Binary64
import RouteAudit.Text.Split
import RouteAudit.Toml.Value

/-!
# Plain values

A plain value is written without quotes: a truth value, a number or a moment.  It is the
longest run of characters that such values are made of, and the run as a whole decides
what it is.
-/

namespace RouteAudit
namespace Toml
namespace Scalar

def isPlainChar (c : Char) : Bool :=
  c.isAlphanum || c == '+' || c == '-' || c == '_' || c == '.' || c == ':'

/-!
# Digits

A low line may stand between two digits.
-/

def digitRun? (base : Nat) (text : List Char) : Option (List Char) :=
  let runs := Text.pieces '_' text
  if runs.all fun run => run ≠ [] ∧ run.all fun c => (Numeral.digit? base c).isSome then
    some runs.flatten
  else
    none

def valueOf (base : Nat) (digits : List Char) : Nat :=
  digits.foldl (fun n c => n * base + (Numeral.digit? base c).getD 0) 0

/-- The sign of a number, true for minus, and the rest. -/
def signed (text : List Char) : Bool × List Char :=
  match text with
  | '-' :: rest => (true, rest)
  | '+' :: rest => (false, rest)
  | _ => (false, text)

/-- Decimal digits without a leading zero. -/
def decimalRun? (text : List Char) : Option (List Char) := do
  let ds ← digitRun? 10 text
  if 1 < ds.length ∧ ds.head? = some '0' then none else some ds

/-!
# Whole numbers

Bases other than ten are marked and take no sign.  Numbers outside the range of 128 bits
are refused.
-/

def inRange? (n : Int) : Option Toml :=
  if -(Numeral.twoTo 127 : Int) ≤ n ∧ n < Numeral.twoTo 128 then some (.integer n) else none

def integer? (text : List Char) : Option Toml :=
  match text with
  | '0' :: 'x' :: rest => (digitRun? 16 rest).bind fun ds => inRange? (valueOf 16 ds)
  | '0' :: 'o' :: rest => (digitRun? 8 rest).bind fun ds => inRange? (valueOf 8 ds)
  | '0' :: 'b' :: rest => (digitRun? 2 rest).bind fun ds => inRange? (valueOf 2 ds)
  | _ =>
      let (negative, rest) := signed text
      (decimalRun? rest).bind fun ds =>
        let n : Int := valueOf 10 ds
        inRange? (if negative then -n else n)

/-!
# Real numbers

A real number has a fraction or an exponent, and a finite value when rounded.
-/

/-- Whether `n · 10 ^ e` rounds to a finite number. -/
def isFinite (n : Nat) (e : Int) : Bool :=
  let length : Int := (Numeral.digits 10 n).length
  if n = 0 ∨ length + e < 300 then
    true
  else if 320 < length + e then
    false
  else if 0 ≤ e then
    (Binary64.round? false (n * Numeral.tenTo e.toNat) 1).isSome
  else
    (Binary64.round? false n (Numeral.tenTo (-e).toNat)).isSome

def exponent? (text : List Char) : Option Int := do
  let (negative, rest) := signed text
  let ds ← digitRun? 10 rest
  let n : Int := valueOf 10 ds
  return if negative then -n else n

/-- The digits before and behind the point, with the exponent. -/
def isDecimal (whole : List Char) (fraction : Option (List Char)) (exponent : Option (List Char)) :
    Bool :=
  (fraction.isSome || exponent.isSome) &&
    ((do
      let ds ← decimalRun? whole
      let fs ← match fraction with
        | none => some []
        | some fraction => digitRun? 10 fraction
      let e ← match exponent with
        | none => some 0
        | some exponent => exponent? exponent
      return isFinite (valueOf 10 (ds ++ fs)) (e - fs.length)) : Option Bool).getD false

def isReal (text : List Char) : Bool :=
  let (_, rest) := signed text
  if rest = "inf".toList ∨ rest = "nan".toList then
    true
  else
    let (number, exponent) := match Text.cut 'e' rest with
      | some (number, exponent) => (number, some exponent)
      | none =>
          match Text.cut 'E' rest with
          | some (number, exponent) => (number, some exponent)
          | none => (rest, none)
    match Text.cut '.' number with
    | some (whole, fraction) => isDecimal whole (some fraction) exponent
    | none => isDecimal number none exponent

/-!
# Moments

A moment is a date, a time of day, or both with an optional distance from universal time.
Seconds may be left out.
-/

/-- Reads a number of exactly so many digits, up to a limit. -/
def fixed? (count low high : Nat) (text : List Char) : Option (Nat × List Char) :=
  let ds := text.take count
  let n := valueOf 10 ds
  if ds.length = count ∧ ds.all Char.isDigit ∧ low ≤ n ∧ n ≤ high then
    some (n, text.drop count)
  else
    none

def daysIn (year month : Nat) : Nat :=
  if month = 2 then
    if year % 4 = 0 ∧ (year % 100 ≠ 0 ∨ year % 400 = 0) then 29 else 28
  else if month = 4 ∨ month = 6 ∨ month = 9 ∨ month = 11 then 30
  else 31

def date? (text : List Char) : Option (List Char) := do
  let (year, rest) ← fixed? 4 0 9999 text
  let rest ← Text.after? ['-'] rest
  let (month, rest) ← fixed? 2 1 12 rest
  let rest ← Text.after? ['-'] rest
  let (_, rest) ← fixed? 2 1 (daysIn year month) rest
  return rest

def clock? (text : List Char) : Option (List Char) := do
  let (_, rest) ← fixed? 2 0 23 text
  let rest ← Text.after? [':'] rest
  let (_, rest) ← fixed? 2 0 59 rest
  return rest

def second? (text : List Char) : Option (List Char) :=
  match text with
  | ':' :: rest => do
      let (_, rest) ← fixed? 2 0 60 rest
      match rest with
      | '.' :: rest =>
          if (rest.takeWhile Char.isDigit) = [] then none else some (rest.dropWhile Char.isDigit)
      | _ => some rest
  | _ => some text

def isDistance (text : List Char) : Bool :=
  match text with
  | [] | ['Z'] | ['z'] => true
  | '+' :: rest | '-' :: rest => clock? rest = some []
  | _ => false

def time? (text : List Char) : Option (List Char) :=
  (clock? text).bind second?

def isMoment (text : List Char) : Bool :=
  match date? text with
  | some [] => true
  | some (c :: rest) => (c == 'T' || c == 't') && ((time? rest).map isDistance).getD false
  | none => time? text = some []

/-!
# The run as a whole
-/

def ofRun? (run : List Char) : Option Toml :=
  if run = "true".toList then some (.boolean true)
  else if run = "false".toList then some (.boolean false)
  else
    match integer? run with
    | some value => some value
    | none => if isReal run then some .real else if isMoment run then some .moment else none

/-- Reads a plain value.  Between a date and a time of day a blank may stand. -/
def read? (text : List Char) : Option (Toml × List Char) :=
  let run := text.takeWhile isPlainChar
  let rest := text.dropWhile isPlainChar
  match date? run, rest with
  | some [], ' ' :: c :: more =>
      if c.isDigit then
        let second := (c :: more).takeWhile isPlainChar
        (ofRun? (run ++ 'T' :: second)).map fun v => (v, (c :: more).dropWhile isPlainChar)
      else
        (ofRun? run).map fun v => (v, rest)
  | _, _ => (ofRun? run).map fun v => (v, rest)

end Scalar
end Toml
end RouteAudit
