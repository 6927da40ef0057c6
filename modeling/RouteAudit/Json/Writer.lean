import RouteAudit.Json.Value

/-!
# Written JSON

Values are written on one line, or over several with an indent of two blanks per level.
In strings only quotes, backslashes and control characters are escaped.
-/

namespace RouteAudit
namespace Json

/-!
# Strings
-/

def escapeChar (c : Char) : List Char :=
  if c = '"' then ['\\', '"']
  else if c = '\\' then ['\\', '\\']
  else if c = '\x08' then ['\\', 'b']
  else if c = '\x0c' then ['\\', 'f']
  else if c = '\n' then ['\\', 'n']
  else if c = '\r' then ['\\', 'r']
  else if c = '\t' then ['\\', 't']
  else if c.toNat < 0x20 then '\\' :: 'u' :: Numeral.padded 16 4 c.toNat
  else [c]

def quote (text : List Char) : List Char :=
  '"' :: text.flatMap escapeChar ++ ['"']

/-!
# Numbers

A floating-point number is written in its shortest digits: with a decimal point where the
first digit stands between five places behind it and fifteen before it, else with a
signed exponent.
-/

def realDigits (digits : Nat) (place : Int) : List Char :=
  let ds := Numeral.digits 10 digits
  let point : Int := ds.length + place
  if 0 ≤ place ∧ point ≤ 16 then
    ds ++ List.replicate place.toNat '0' ++ ['.', '0']
  else if 0 < point ∧ point ≤ 16 then
    ds.take point.toNat ++ '.' :: ds.drop point.toNat
  else if -5 < point ∧ point ≤ 0 then
    '0' :: '.' :: (List.replicate (-point).toNat '0' ++ ds)
  else
    let e := point - 1
    let mantissa := match ds with
      | [d] => [d]
      | d :: rest => d :: '.' :: rest
      | [] => []
    let sign := if 0 ≤ e then '+' else '-'
    mantissa ++ 'e' :: sign :: Numeral.digits 10 e.natAbs

def realChars (x : Binary64) : List Char :=
  let body :=
    if x.isZero then ['0', '.', '0']
    else
      let (digits, place) := x.shortest
      realDigits digits place
  if x.negative then '-' :: body else body

def numberChars : Number → List Char
  | .natural n => Numeral.digits 10 n
  | .negative n => '-' :: Numeral.digits 10 n
  | .real x => realChars x

/-!
# One line
-/

mutual

def chars : Json → List Char
  | .null => ['n', 'u', 'l', 'l']
  | .bool true => ['t', 'r', 'u', 'e']
  | .bool false => ['f', 'a', 'l', 's', 'e']
  | .number n => numberChars n
  | .string s => quote s.toList
  | .array [] => ['[', ']']
  | .array (x :: xs) => '[' :: chars x ++ itemChars xs ++ [']']
  | .object [] => ['{', '}']
  | .object ((n, x) :: xs) =>
      '{' :: quote n.toList ++ ':' :: chars x ++ fieldChars xs ++ ['}']

def itemChars : List Json → List Char
  | [] => []
  | x :: xs => ',' :: chars x ++ itemChars xs

def fieldChars : List (String × Json) → List Char
  | [] => []
  | (n, x) :: xs => ',' :: quote n.toList ++ ':' :: chars x ++ fieldChars xs

end

def compact (value : Json) : String :=
  String.ofList value.chars

/-!
# Several lines
-/

def newLine (level : Nat) : List Char :=
  '\n' :: List.replicate (2 * level) ' '

mutual

def lines (level : Nat) : Json → List Char
  | .array (x :: xs) =>
      '[' :: newLine (level + 1) ++ lines (level + 1) x ++ itemLines (level + 1) xs
        ++ newLine level ++ [']']
  | .object ((n, x) :: xs) =>
      '{' :: newLine (level + 1) ++ quote n.toList ++ ':' :: ' ' :: lines (level + 1) x
        ++ fieldLines (level + 1) xs ++ newLine level ++ ['}']
  | value => value.chars

def itemLines (level : Nat) : List Json → List Char
  | [] => []
  | x :: xs => ',' :: newLine level ++ lines level x ++ itemLines level xs

def fieldLines (level : Nat) : List (String × Json) → List Char
  | [] => []
  | (n, x) :: xs =>
      ',' :: newLine level ++ quote n.toList ++ ':' :: ' ' :: lines level x ++ fieldLines level xs

end

def pretty (value : Json) : String :=
  String.ofList (value.lines 0)

end Json
end RouteAudit
