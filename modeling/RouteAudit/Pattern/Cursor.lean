import RouteAudit.Pattern.Expr
import RouteAudit.Unicode.CaseFolding
import RouteAudit.Unicode.Naming

/-!
# Reading position

A pattern is read from left to right.  The cursor holds the rest of its text, the flags
that are in force and the names of the groups met so far.
-/

namespace RouteAudit
namespace Pattern

structure Flags where
  ignoreCase : Bool := false
  multiLine : Bool := false
  dotAll : Bool := false
  swapped : Bool := false
  unicode : Bool := true
  eitherEnd : Bool := false
  spaced : Bool := false
  deriving DecidableEq, Repr

namespace Flags

/-- Sets the flag of a letter. -/
def set? (f : Flags) (letter : Char) (value : Bool) : Option Flags :=
  match letter with
  | 'i' => some { f with ignoreCase := value }
  | 'm' => some { f with multiLine := value }
  | 's' => some { f with dotAll := value }
  | 'U' => some { f with swapped := value }
  | 'u' => some { f with unicode := value }
  | 'R' => some { f with eitherEnd := value }
  | 'x' => some { f with spaced := value }
  | _ => none

/-- Closes a set under case where case is ignored. -/
def fold (f : Flags) (s : CharSet) : CharSet :=
  if !f.ignoreCase then s
  else if f.unicode then s.closeUnderCase
  else s.closeUnderAsciiCase

/-- Folds a set, then takes its complement if it is negated.  Without Unicode no
complement is a set of whole characters. -/
def foldAndNegate? (f : Flags) (negated : Bool) (s : CharSet) : Option CharSet :=
  if !negated then some (f.fold s)
  else if f.unicode then some (f.fold s).complement
  else none

end Flags

structure Cursor where
  text : List Char
  flags : Flags
  names : List (List Char)

abbrev Reader := StateT Cursor Option

namespace Reader

def fail {α : Type} : Reader α := fun _ => none

def ofOption {α : Type} (x : Option α) : Reader α := fun c => x.map fun a => (a, c)

def flags : Reader Flags := return (← get).flags

def rest : Reader (List Char) := return (← get).text

/-- The character at the cursor; at the end of the text there is none. -/
def char : Reader Char := do ofOption (← rest).head?

/-- Whether a character stands at the cursor. -/
def isAt (c : Char) : Reader Bool := return (← rest).head? == some c

def setText (text : List Char) : Reader Unit := modify fun c => { c with text := text }

def setFlags (f : Flags) : Reader Unit := modify fun c => { c with flags := f }

def bump : Reader Unit := do setText (← rest).tail

/-!
# Blanks

Where the flag for spaced patterns is set, blanks and comments up to the end of their line
are passed over.
-/

def dropBlanks (inComment : Bool) : List Char → List Char
  | [] => []
  | c :: text =>
      if inComment then dropBlanks (c ≠ '\n') text
      else if Text.isBlank c then dropBlanks false text
      else if c = '#' then dropBlanks true text
      else c :: text

def skip : Reader Unit := do
  if (← flags).spaced then setText (dropBlanks false (← rest))

def bumpSkip : Reader Unit := do
  bump
  skip

/-- The character behind the one at the cursor, blanks passed over. -/
def peek : Reader (Option Char) := do
  let text := (← rest).tail
  if (← flags).spaced then
    match text.dropWhile Text.isBlank with
    | '#' :: comment => return (comment.dropWhile Text.isBlank).head?
    | text => return text.head?
  else
    return text.head?

/-- The characters from behind the opening brace at the cursor to the closing one, on
which the cursor then stands. -/
def braced : Nat → Reader (List Char)
  | 0 => fail
  | fuel + 1 => do
      bumpSkip
      let c ← char
      if c = '}' then
        return []
      else
        return c :: (← braced fuel)

end Reader
end Pattern
end RouteAudit
