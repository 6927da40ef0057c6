import RouteAudit.Pattern.Cursor

/-!
# Escapes

A backslash takes a character literally, or names a character by its code, a set of
characters, or a condition on the place.
-/

namespace RouteAudit
namespace Pattern

/-- What stands for one character or one condition.  A literal written by two hexadecimal
digits denotes an octet where Unicode is off. -/
inductive Atom where
  | literal (c : Char) (octet : Bool)
  | set (s : CharSet)
  | place (condition : Condition)

namespace Reader

/-!
# Character codes
-/

def ofCode (code : Nat) : Reader Char :=
  if code < 0xD800 ∨ (0xE000 ≤ code ∧ code ≤ 0x10FFFF) then return Char.ofNat code else fail

def hexDigits : Nat → Nat → Reader Nat
  | 0, code => return code
  | n + 1, code => do
      let d ← ofOption (Numeral.digit? 16 (← char))
      bumpSkip
      hexDigits n (code * 16 + d)

def hexBraced : Reader Nat := do
  let text ← braced ((← rest).length + 1)
  bumpSkip
  ofOption (if text = [] then none else
    (text.mapM (Numeral.digit? 16)).map fun ds => ds.foldl (fun code d => code * 16 + d) 0)

/-- Reads a code of a fixed number of digits, or of any number in braces. -/
def hexCode (digits : Nat) : Reader Atom := do
  bumpSkip
  if ← isAt '{' then
    return .literal (← ofCode (← hexBraced)) false
  else
    return .literal (← ofCode (← hexDigits digits 0)) (digits == 2)

/-!
# Named sets
-/

/-- Cuts a text at the first occurrence of a mark. -/
def cutAt (mark : List Char) : List Char → Option (List Char × List Char)
  | [] => none
  | c :: text =>
      match Text.after? mark (c :: text) with
      | some after => some ([], after)
      | none => (cutAt mark text).map fun (before, after) => (c :: before, after)

/-- The set that a name in braces denotes, and whether the name negates it. -/
def namedSet? (name : List Char) : Option (CharSet × Bool) :=
  match cutAt ['!', '='] name with
  | some (kind, value) => (Unicode.valueSet? kind value).map fun s => (s, true)
  | none =>
      match (Text.cut ':' name).or (Text.cut '=' name) with
      | some (kind, value) => (Unicode.valueSet? kind value).map fun s => (s, false)
      | none => (Unicode.set? name).map fun s => (s, false)

def propertyName : Reader (CharSet × Bool) := do
  bumpSkip
  let c ← char
  if c = '{' then
    let name ← braced ((← rest).length + 1)
    bump
    ofOption (namedSet? name)
  else if c = '\\' then
    fail
  else
    bumpSkip
    ofOption ((Unicode.set? [c]).map fun s => (s, false))

def property (negated : Bool) : Reader Atom := do
  let (s, reversed) ← propertyName
  let f ← flags
  if f.unicode then
    return .set (← ofOption (f.foldAndNegate? (negated != reversed) s))
  else
    fail

def asciiDigits : CharSet := ⟨[(0x30, 0x39)]⟩

def asciiSpaces : CharSet := ⟨[(9, 13), (0x20, 0x20)]⟩

def asciiWords : CharSet := ⟨[(0x30, 0x39), (0x41, 0x5A), (0x5F, 0x5F), (0x61, 0x7A)]⟩

/-- The set of word characters that is in force. -/
def wordsOf (f : Flags) : CharSet :=
  if f.unicode then Unicode.wordSet else asciiWords

def shorthand (f : Flags) (letter : Char) : CharSet :=
  match letter with
  | 'd' => if f.unicode then Unicode.digitSet else asciiDigits
  | 's' => if f.unicode then Unicode.spaceSet else asciiSpaces
  | _ => wordsOf f

/-- The sets of one letter; a capital letter negates. -/
def shorthandSet (letter : Char) : Reader Atom := do
  bump
  let f ← flags
  let s := shorthand f letter.toLower
  if letter.isUpper then
    if f.unicode then return .set s.complement else fail
  else
    return .set s

/-!
# Conditions
-/

def isWordEdgeChar (c : Char) : Bool :=
  ('A' ≤ c && c ≤ 'Z') || ('a' ≤ c && c ≤ 'z') || c == '-'

/-- Reads the name of a special edge of words, up to its closing brace. -/
def edgeName : Nat → Reader (List Char)
  | 0 => fail
  | fuel + 1 => do
      let c ← char
      if isWordEdgeChar c then
        bumpSkip
        return c :: (← edgeName fuel)
      else if c = '}' then
        bump
        return []
      else
        fail

/-- Behind `\b` a brace may name a special edge; else it opens a repetition. -/
def wordEdge : Reader Condition := do
  let start ← rest
  if ← isAt '{' then
    bumpSkip
    if isWordEdgeChar (← char) then
      let name ← edgeName ((← rest).length + 1)
      match String.ofList name with
      | "start" => return .wordStart
      | "end" => return .wordFinish
      | "start-half" => return .wordStartHalf
      | "end-half" => return .wordFinishHalf
      | _ => fail
    else
      setText start
      return .wordEdge
  else
    return .wordEdge

/-!
# All escapes
-/

/-- Characters that an escape takes literally: all of ASCII but letters, digits and the two
angle brackets. -/
def isEscapable (c : Char) : Bool :=
  c.toNat < 128 && !c.isAlphanum && c != '<' && c != '>'

def singleEscape (c : Char) : Reader Atom := do
  if isEscapable c then
    return .literal c false
  else
    match c with
    | 'a' => return .literal '\x07' false
    | 'f' => return .literal '\x0c' false
    | 't' => return .literal '\t' false
    | 'n' => return .literal '\n' false
    | 'r' => return .literal '\r' false
    | 'v' => return .literal '\x0b' false
    | 'A' => return .place .start
    | 'z' => return .place .finish
    | 'b' => return .place (← wordEdge)
    | 'B' => return .place .notWordEdge
    | '<' => return .place .wordStart
    | '>' => return .place .wordFinish
    | _ => fail

def escape : Reader Atom := do
  bump
  let c ← char
  match c with
  | 'x' => hexCode 2
  | 'u' => hexCode 4
  | 'U' => hexCode 8
  | 'p' => property false
  | 'P' => property true
  | 'd' | 's' | 'w' | 'D' | 'S' | 'W' => shorthandSet c
  | _ => do
      bump
      singleEscape c

end Reader
end Pattern
end RouteAudit
