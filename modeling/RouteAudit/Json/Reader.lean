import RouteAudit.Json.Value

/-!
# Reading JSON

Documents are read strictly: one value, blanks around it and nothing else.  Values nest
less than 128 deep.  This module also skips values whose content does not matter, which
are held to the grammar alone: to no depth, to no range of numbers, and to no pairing of
escaped surrogates.
-/

namespace RouteAudit
namespace Json
namespace Reader

def isSpace (c : Char) : Bool :=
  c == ' ' || c == '\n' || c == '\t' || c == '\r'

def spaces (text : List Char) : List Char :=
  text.dropWhile isSpace

/-!
# Strings

The functions start behind the opening quote and return what follows the closing one.
-/

/-- Four hexadecimal digits. -/
def hex4? : List Char → Option (Nat × List Char)
  | a :: b :: c :: d :: rest => do
      let a ← Numeral.digit? 16 a
      let b ← Numeral.digit? 16 b
      let c ← Numeral.digit? 16 c
      let d ← Numeral.digit? 16 d
      return (((a * 16 + b) * 16 + c) * 16 + d, rest)
  | _ => none

def simpleEscape? (c : Char) : Option Char :=
  match c with
  | '"' => some '"'
  | '\\' => some '\\'
  | '/' => some '/'
  | 'b' => some '\x08'
  | 'f' => some '\x0c'
  | 'n' => some '\n'
  | 'r' => some '\r'
  | 't' => some '\t'
  | _ => none

/-- The character of a `\u` escape: one code unit, or a pair of surrogates. -/
def unicodeEscape? (text : List Char) : Option (Char × List Char) := do
  let (unit, rest) ← hex4? text
  if 0xDC00 ≤ unit ∧ unit ≤ 0xDFFF then
    none
  else if 0xD800 ≤ unit ∧ unit ≤ 0xDBFF then
    match rest with
    | '\\' :: 'u' :: rest => do
        let (low, rest) ← hex4? rest
        if 0xDC00 ≤ low ∧ low ≤ 0xDFFF then
          some (Char.ofNat (0x10000 + (unit - 0xD800) * 0x400 + (low - 0xDC00)), rest)
        else
          none
    | _ => none
  else
    some (Char.ofNat unit, rest)

/-- Reads a string; every step of the fuel takes one character or escape. -/
def string? : Nat → List Char → Option (List Char × List Char)
  | 0, _ => none
  | _ + 1, [] => none
  | _ + 1, '"' :: rest => some ([], rest)
  | fuel + 1, '\\' :: 'u' :: rest => do
      let (c, rest) ← unicodeEscape? rest
      let (cs, rest) ← string? fuel rest
      return (c :: cs, rest)
  | fuel + 1, '\\' :: c :: rest => do
      let c ← simpleEscape? c
      let (cs, rest) ← string? fuel rest
      return (c :: cs, rest)
  | fuel + 1, c :: rest =>
      if c = '\\' ∨ c.toNat < 0x20 then
        none
      else do
        let (cs, rest) ← string? fuel rest
        return (c :: cs, rest)

def skipString? : Nat → List Char → Option (List Char)
  | 0, _ => none
  | _ + 1, [] => none
  | _ + 1, '"' :: rest => some rest
  | fuel + 1, '\\' :: 'u' :: rest => do
      let (_, rest) ← hex4? rest
      skipString? fuel rest
  | fuel + 1, '\\' :: c :: rest => do
      let _ ← simpleEscape? c
      skipString? fuel rest
  | fuel + 1, c :: rest =>
      if c = '\\' ∨ c.toNat < 0x20 then none else skipString? fuel rest

/-!
# Numbers

The parts of a number are the digits before the point, the digits behind it and the
exponent with its sign.
-/

structure Parts where
  negative : Bool
  whole : List Char
  fraction : Option (List Char)
  exponent : Option (Bool × List Char)

def isDigit (c : Char) : Bool := '0' ≤ c && c ≤ '9'

def digitsOf (text : List Char) : List Char × List Char :=
  (text.takeWhile isDigit, text.dropWhile isDigit)

def fraction? : List Char → Option (Option (List Char) × List Char)
  | '.' :: rest =>
      let (ds, rest) := digitsOf rest
      if ds = [] then none else some (some ds, rest)
  | text => some (none, text)

def exponentDigits? (negative : Bool) (text : List Char) :
    Option (Option (Bool × List Char) × List Char) :=
  let (ds, rest) := digitsOf text
  if ds = [] then none else some (some (negative, ds), rest)

def exponent? : List Char → Option (Option (Bool × List Char) × List Char)
  | 'e' :: '+' :: rest | 'E' :: '+' :: rest => exponentDigits? false rest
  | 'e' :: '-' :: rest | 'E' :: '-' :: rest => exponentDigits? true rest
  | 'e' :: rest | 'E' :: rest => exponentDigits? false rest
  | text => some (none, text)

def unsigned? (negative : Bool) (text : List Char) : Option (Parts × List Char) := do
  let (whole, rest) := digitsOf text
  if whole = [] ∨ (1 < whole.length ∧ whole.head? = some '0') then
    none
  else
    let (fraction, rest) ← fraction? rest
    let (exponent, rest) ← exponent? rest
    return (⟨negative, whole, fraction, exponent⟩, rest)

def parts? : List Char → Option (Parts × List Char)
  | '-' :: rest => unsigned? true rest
  | text => unsigned? false text

/-!
# The value of a number

Digits are gathered into a significand of at most 64 bits; those that no longer fit only
move the decimal point.  The significand is rounded to floating point, and the result is
multiplied or divided by a power of ten and rounded again.
-/

def wordLimit : Nat := Numeral.twoTo 64 - 1

def digitValue (c : Char) : Nat := c.toNat - '0'.toNat

/-- The digits before the point: their significand and the number of digits left out. -/
def gatherWhole : Nat → List Char → Nat × Int
  | acc, [] => (acc, 0)
  | acc, c :: rest =>
      if acc * 10 + digitValue c ≤ wordLimit then
        gatherWhole (acc * 10 + digitValue c) rest
      else
        (acc, rest.length + 1)

/-- The digits behind the point, up to the first that does not fit. -/
def gatherFraction : Nat → Int → List Char → Nat × Int
  | acc, place, [] => (acc, place)
  | acc, place, c :: rest =>
      if acc * 10 + digitValue c ≤ wordLimit then
        gatherFraction (acc * 10 + digitValue c) (place - 1) rest
      else
        (acc, place)

def decimalValue (ds : List Char) : Nat :=
  ds.foldl (fun acc c => acc * 10 + digitValue c) 0

/-- `x · 10 ^ e`, by one multiplication or by divisions. -/
def shift? (x : Binary64) (e : Int) : Option Binary64 :=
  if 308 < e then
    if x.isZero then some x else none
  else if 0 ≤ e then do
    let p ← Binary64.powerOfTen? e.toNat
    x.mul? p
  else if -308 ≤ e then do
    let p ← Binary64.powerOfTen? (-e).toNat
    x.div? p
  else do
    let p ← Binary64.powerOfTen? 308
    let y ← x.div? p
    if -616 ≤ e then do
      let q ← Binary64.powerOfTen? (-e - 308).toNat
      y.div? q
    else
      some (Binary64.zero x.negative)

def exponentLimit : Nat := Numeral.twoTo 31 - 1

def real? (negative : Bool) (significand : Nat) (place : Int)
    (exponent : Option (Bool × List Char)) : Option Binary64 := do
  let x ← Binary64.ofNat? significand
  let y ← match exponent with
    | none => shift? x place
    | some (down, ds) =>
        let e := decimalValue ds
        if exponentLimit < e then
          if significand = 0 ∨ down then some (Binary64.zero false) else none
        else
          shift? x (if down then place - e else place + e)
  return { y with negative := negative }

def number? (p : Parts) : Option Number :=
  let (significand, place) := gatherWhole 0 p.whole
  match p.fraction, p.exponent with
  | none, none =>
      if place ≠ 0 then
        (real? p.negative significand place none).map .real
      else if ¬ p.negative then
        some (.natural significand)
      else if 0 < significand ∧ significand ≤ Numeral.twoTo 63 then
        some (.negative significand)
      else
        (real? true significand 0 none).map .real
  | fraction, exponent =>
      let (significand, place) := gatherFraction significand place (fraction.getD [])
      (real? p.negative significand place exponent).map .real

/-!
# Values

The fuel bounds the number of steps, and every step takes at least one character; the
depth is the number of levels that may still be opened.
-/

mutual

def value? : Nat → Nat → List Char → Option (Json × List Char)
  | 0, _, _ => none
  | fuel + 1, depth, text =>
      match spaces text with
      | 'n' :: 'u' :: 'l' :: 'l' :: rest => some (.null, rest)
      | 't' :: 'r' :: 'u' :: 'e' :: rest => some (.bool true, rest)
      | 'f' :: 'a' :: 'l' :: 's' :: 'e' :: rest => some (.bool false, rest)
      | '"' :: rest => do
          let (s, rest) ← string? (rest.length + 1) rest
          return (.string (String.ofList s), rest)
      | '[' :: rest =>
          if depth ≤ 1 then none
          else
            match spaces rest with
            | ']' :: rest => some (.array [], rest)
            | rest => do
                let (xs, rest) ← items? fuel (depth - 1) rest
                return (.array xs, rest)
      | '{' :: rest =>
          if depth ≤ 1 then none
          else
            match spaces rest with
            | '}' :: rest => some (.object [], rest)
            | rest => do
                let (xs, rest) ← fields? fuel (depth - 1) rest
                return (ofFields xs, rest)
      | rest => do
          let (p, rest) ← parts? rest
          let n ← number? p
          return (.number n, rest)

def items? : Nat → Nat → List Char → Option (List Json × List Char)
  | 0, _, _ => none
  | fuel + 1, depth, text => do
      let (x, rest) ← value? fuel depth text
      match spaces rest with
      | ']' :: rest => some ([x], rest)
      | ',' :: rest => do
          let (xs, rest) ← items? fuel depth rest
          return (x :: xs, rest)
      | _ => none

def fields? : Nat → Nat → List Char → Option (List (String × Json) × List Char)
  | 0, _, _ => none
  | fuel + 1, depth, text =>
      match spaces text with
      | '"' :: rest => do
          let (name, rest) ← string? (rest.length + 1) rest
          match spaces rest with
          | ':' :: rest => do
              let (x, rest) ← value? fuel depth rest
              let here := (String.ofList name, x)
              match spaces rest with
              | '}' :: rest => some ([here], rest)
              | ',' :: rest => do
                  let (xs, rest) ← fields? fuel depth rest
                  return (here :: xs, rest)
              | _ => none
          | _ => none
      | _ => none

end

/-!
# Skipped values
-/

mutual

def skipValue? : Nat → List Char → Option (List Char)
  | 0, _ => none
  | fuel + 1, text =>
      match spaces text with
      | 'n' :: 'u' :: 'l' :: 'l' :: rest => some rest
      | 't' :: 'r' :: 'u' :: 'e' :: rest => some rest
      | 'f' :: 'a' :: 'l' :: 's' :: 'e' :: rest => some rest
      | '"' :: rest => skipString? (rest.length + 1) rest
      | '[' :: rest =>
          match spaces rest with
          | ']' :: rest => some rest
          | rest => skipItems? fuel rest
      | '{' :: rest =>
          match spaces rest with
          | '}' :: rest => some rest
          | rest => skipFields? fuel rest
      | rest => (parts? rest).map Prod.snd

def skipItems? : Nat → List Char → Option (List Char)
  | 0, _ => none
  | fuel + 1, text => do
      let rest ← skipValue? fuel text
      match spaces rest with
      | ']' :: rest => some rest
      | ',' :: rest => skipItems? fuel rest
      | _ => none

def skipFields? : Nat → List Char → Option (List Char)
  | 0, _ => none
  | fuel + 1, text =>
      match spaces text with
      | '"' :: rest => do
          let rest ← skipString? (rest.length + 1) rest
          match spaces rest with
          | ':' :: rest => do
              let rest ← skipValue? fuel rest
              match spaces rest with
              | '}' :: rest => some rest
              | ',' :: rest => skipFields? fuel rest
              | _ => none
          | _ => none
      | _ => none

end

/-- Levels that a document may open. -/
def depthLimit : Nat := 128

end Reader

def parse? (text : String) : Option Json := do
  let cs := text.toList
  let (x, rest) ← Reader.value? (2 * cs.length + 1) Reader.depthLimit cs
  if Reader.spaces rest = [] then some x else none

end Json
end RouteAudit
