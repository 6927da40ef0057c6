import RouteAudit.Toml.Quoted
import RouteAudit.Toml.Scalar
import RouteAudit.Toml.Tree

/-!
# Reading settings documents

A document is a sequence of lines: headers, keys with values, comments and blank lines.
Arrays and tables written as values may run over several lines and may end in a comma.
Values nest at most 80 deep.
-/

namespace RouteAudit
namespace Toml
namespace Reader

open Quoted (isSpace lineBreak?)

def spaces (text : List Char) : List Char := text.dropWhile isSpace

/-!
# Comments and blank lines
-/

def isLineEnd (c : Char) : Bool := c == '\n' || c == '\r'

/-- Passes over a comment if one starts here. -/
def comment? (text : List Char) : Option (List Char) :=
  match text with
  | '#' :: rest =>
      let comment := rest.takeWhile fun c => !isLineEnd c
      if comment.all Quoted.isAllowed then some (rest.dropWhile fun c => !isLineEnd c) else none
  | _ => some text

/-- Passes over blanks, comments and line breaks. -/
def gap? : Nat → List Char → Option (List Char)
  | 0, _ => none
  | fuel + 1, text => do
      let rest ← comment? (spaces text)
      match rest with
      | [] => some []
      | c :: _ =>
          if isLineEnd c then do
            let rest ← lineBreak? rest
            gap? fuel rest
          else
            some rest

def gapHere? (text : List Char) : Option (List Char) := gap? (text.length + 1) text

/-!
# Keys
-/

def isKeyChar (c : Char) : Bool := c.isAlphanum || c == '_' || c == '-'

def simpleKey? (text : List Char) : Option (String × List Char) :=
  match Quoted.single? text with
  | some (name, rest) => some (String.ofList name, rest)
  | none =>
      let name := text.takeWhile isKeyChar
      if name = [] then none else some (String.ofList name, text.dropWhile isKeyChar)

/-- Reads a dotted key: the names in front of the last one, the last one, and the rest,
without the blanks around it. -/
def key? : Nat → List Char → Option (List String × String × List Char)
  | 0, _ => none
  | fuel + 1, text => do
      let (name, rest) ← simpleKey? (spaces text)
      match spaces rest with
      | '.' :: rest => do
          let (path, last, rest) ← key? fuel rest
          return (name :: path, last, rest)
      | rest => some ([], name, rest)

def keyHere? (text : List Char) : Option (List String × String × List Char) :=
  key? (text.length + 1) text

/-!
# Values
-/

mutual

def value? : Nat → Nat → List Char → Option (Toml × List Char)
  | 0, _, _ => none
  | _, 0, _ => none
  | fuel + 1, depth + 1, text =>
      match text with
      | '"' :: _ | '\'' :: _ =>
          (Quoted.read? text).map fun (s, rest) => (.string (String.ofList s), rest)
      | '[' :: rest => do
          let (items, rest) ← items? fuel depth rest
          return (.array items, rest)
      | '{' :: rest => do
          let (entries, rest) ← entries? fuel depth [] rest
          return (.table (Node.closeEntries entries), rest)
      | _ => Scalar.read? text

/-- Reads the items of an array up to its closing bracket. -/
def items? : Nat → Nat → List Char → Option (List Toml × List Char)
  | 0, _, _ => none
  | fuel + 1, depth, text => do
      let text ← gapHere? text
      match text with
      | ']' :: rest => some ([], rest)
      | _ => do
          let (x, rest) ← value? fuel depth text
          let rest ← gapHere? rest
          match rest with
          | ']' :: rest => some ([x], rest)
          | ',' :: rest => do
              let (xs, rest) ← items? fuel depth rest
              return (x :: xs, rest)
          | _ => none

/-- Reads the entries of a table up to its closing brace. -/
def entries? : Nat → Nat → Entries → List Char → Option (Entries × List Char)
  | 0, _, _, _ => none
  | fuel + 1, depth, entries, text => do
      let text ← gapHere? text
      match text with
      | '\x7d' :: rest => some (entries, rest)
      | _ => do
          let (path, name, rest) ← keyHere? text
          let rest ← Text.after? ['='] rest
          let (v, rest) ← value? fuel depth (spaces rest)
          let entries ← entries.assign path name v
          let rest ← gapHere? rest
          match rest with
          | '\x7d' :: rest => some (entries, rest)
          | ',' :: rest => entries? fuel depth entries rest
          | _ => none

end

/-- Levels of arrays and tables in a value. -/
def depthLimit : Nat := 80

def valueHere? (text : List Char) : Option (Toml × List Char) :=
  value? (2 * text.length + 1) (depthLimit + 1) text

/-!
# Lines
-/

/-- The document so far, with the path of the table that is being filled. -/
structure State where
  root : Entries
  current : List String

/-- Assigns in the table that is being filled. -/
def State.assign? (s : State) (path : List String) (name : String) (v : Toml) : Option State :=
  (Entries.descend false (fun _ entries => entries.assign path name v) s.current .stated s.root).map
    fun root => { s with root := root }

def State.header? (s : State) (isElement : Bool) (path : List String) (name : String) :
    Option State :=
  let root := if isElement then s.root.addElement path name else s.root.stateTable path name
  root.map fun root => ⟨root, path ++ [name]⟩

def header? (s : State) (text : List Char) : Option (State × List Char) :=
  match text with
  | '[' :: '[' :: rest => do
      let (path, name, rest) ← keyHere? rest
      let rest ← Text.after? [']', ']'] rest
      let s ← s.header? true path name
      return (s, rest)
  | '[' :: rest => do
      let (path, name, rest) ← keyHere? rest
      let rest ← Text.after? [']'] rest
      let s ← s.header? false path name
      return (s, rest)
  | _ => none

def assignment? (s : State) (text : List Char) : Option (State × List Char) := do
  let (path, name, rest) ← keyHere? text
  let rest ← Text.after? ['='] rest
  let (v, rest) ← valueHere? (spaces rest)
  let s ← s.assign? path name v
  return (s, rest)

/-- Reads what stands on a line apart from its comment. -/
def statement? (s : State) (text : List Char) : Option (State × List Char) :=
  match text with
  | [] => some (s, [])
  | c :: _ =>
      if isLineEnd c || c == '#' then some (s, text)
      else if c = '[' then header? s text
      else assignment? s text

def lines? : Nat → State → List Char → Option State
  | 0, _, _ => none
  | fuel + 1, s, text => do
      let (s, rest) ← statement? s (spaces text)
      let rest ← comment? (spaces rest)
      if rest = [] then
        some s
      else do
        let rest ← lineBreak? rest
        lines? fuel s rest

def byteOrderMark : Char := '\uFEFF'

def withoutMark (text : List Char) : List Char :=
  if text.head? = some byteOrderMark then text.tail else text

end Reader

def parse? (text : String) : Option (List (String × Toml)) :=
  let text := Reader.withoutMark text.toList
  (Reader.lines? (text.length + 1) ⟨[], []⟩ text).map fun s => Node.closeEntries s.root

end Toml
end RouteAudit
