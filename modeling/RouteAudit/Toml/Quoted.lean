import RouteAudit.Text.Numeral
import RouteAudit.Text.Split

/-!
# Quoted texts

A text stands in double quotes, where a backslash escapes, or in single quotes, where
nothing does.  Tripled quotes hold texts of several lines, in which one or two quotes may
stand, also right before the closing ones.

The functions start behind the opening quotes and return what follows the closing ones.
-/

namespace RouteAudit
namespace Toml
namespace Quoted

/-- Control characters apart from the tab stand in no text. -/
def isAllowed (c : Char) : Bool :=
  c == '\t' || (0x20 ≤ c.toNat && c.toNat ≠ 0x7F)

/-!
# Escapes
-/

def code? (count : Nat) (text : List Char) : Option (Char × List Char) := do
  let ds ← (text.take count).mapM (Numeral.digit? 16)
  let code := ds.foldl (fun n d => n * 16 + d) 0
  if ds.length = count ∧ (code < 0xD800 ∨ (0xE000 ≤ code ∧ code ≤ 0x10FFFF)) then
    some (Char.ofNat code, text.drop count)
  else
    none

/-- The character that an escape stands for; the text starts behind the backslash. -/
def escape? (text : List Char) : Option (Char × List Char) :=
  match text with
  | 'b' :: rest => some ('\x08', rest)
  | 't' :: rest => some ('\t', rest)
  | 'n' :: rest => some ('\n', rest)
  | 'f' :: rest => some ('\x0c', rest)
  | 'r' :: rest => some ('\r', rest)
  | 'e' :: rest => some ('\x1b', rest)
  | '"' :: rest => some ('"', rest)
  | '\\' :: rest => some ('\\', rest)
  | 'x' :: rest => code? 2 rest
  | 'u' :: rest => code? 4 rest
  | 'U' :: rest => code? 8 rest
  | _ => none

/-!
# One line
-/

def basic? : Nat → List Char → Option (List Char × List Char)
  | 0, _ => none
  | _ + 1, [] => none
  | _ + 1, '"' :: rest => some ([], rest)
  | fuel + 1, '\\' :: rest => do
      let (c, rest) ← escape? rest
      let (cs, rest) ← basic? fuel rest
      return (c :: cs, rest)
  | fuel + 1, c :: rest =>
      if isAllowed c then do
        let (cs, rest) ← basic? fuel rest
        return (c :: cs, rest)
      else
        none

def literal? (text : List Char) : Option (List Char × List Char) :=
  match Text.cut '\'' text with
  | some (cs, rest) => if cs.all isAllowed then some (cs, rest) else none
  | none => none

/-!
# Several lines

A line break right behind the opening quotes does not count.  In double quotes a backslash
at the end of a line joins it to the next line that is not blank.
-/

/-- Reads a line break. -/
def lineBreak? (text : List Char) : Option (List Char) :=
  match text with
  | '\n' :: rest => some rest
  | '\r' :: '\n' :: rest => some rest
  | _ => none

def isSpace (c : Char) : Bool := c == ' ' || c == '\t'

def isSpaceOrBreak (c : Char) : Bool := isSpace c || c == '\n' || c == '\r'

/-- The text behind a backslash at the end of a line. -/
def joined? (text : List Char) : Option (List Char) :=
  (lineBreak? (text.dropWhile isSpace)).map fun rest => rest.dropWhile isSpaceOrBreak

/-- At a run of three or more quotes: the quotes that still belong to the text, and the rest. -/
def closing? (quote : Char) (text : List Char) : Option (List Char × List Char) :=
  let run := text.takeWhile (· = quote)
  if run.length < 3 then none
  else
    let kept := min (run.length - 3) 2
    some (List.replicate kept quote, text.drop (kept + 3))

def lines? (quote : Char) : Nat → List Char → Option (List Char × List Char)
  | 0, _ => none
  | _ + 1, [] => none
  | fuel + 1, c :: rest =>
      match closing? quote (c :: rest) with
      | some found => some found
      | none =>
          if c = '\\' ∧ quote = '"' then
            match joined? rest with
            | some rest => lines? quote fuel rest
            | none => do
                let (e, rest) ← escape? rest
                let (cs, rest) ← lines? quote fuel rest
                return (e :: cs, rest)
          else
            match lineBreak? (c :: rest) with
            | some rest => do
                let (cs, rest) ← lines? quote fuel rest
                return ('\n' :: cs, rest)
            | none =>
                if isAllowed c then do
                  let (cs, rest) ← lines? quote fuel rest
                  return (c :: cs, rest)
                else
                  none

def multiline? (quote : Char) (text : List Char) : Option (List Char × List Char) :=
  let text := (lineBreak? text).getD text
  lines? quote (text.length + 1) text

/-- Reads a text in quotes of one line; the text starts with the opening quote. -/
def single? (text : List Char) : Option (List Char × List Char) :=
  match text with
  | '"' :: rest => basic? (rest.length + 1) rest
  | '\'' :: rest => literal? rest
  | _ => none

/-- Reads a text in quotes of any kind; the text starts with the opening quotes. -/
def read? (text : List Char) : Option (List Char × List Char) :=
  match text with
  | '"' :: '"' :: '"' :: rest => multiline? '"' rest
  | '\'' :: '\'' :: '\'' :: rest => multiline? '\'' rest
  | _ => single? text

end Quoted
end Toml
end RouteAudit
