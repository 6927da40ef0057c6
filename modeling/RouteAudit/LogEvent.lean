import RouteAudit.Text.Quoted

/-!
# Log events

Everything the checker has to say apart from its results is an event: a severity, a
message and named fields.  Functions that may have something to say return a `Logged`
value, the result together with the events in the order in which they arose.
-/

namespace RouteAudit

inductive Level where
  | error
  | warn
  | info
  | debug
  | trace
  deriving DecidableEq, Repr

namespace Level

def name : Level → String
  | .error => "ERROR"
  | .warn => "WARN"
  | .info => "INFO"
  | .debug => "DEBUG"
  | .trace => "TRACE"

def rank : Level → Nat
  | .error => 0
  | .warn => 1
  | .info => 2
  | .debug => 3
  | .trace => 4

def all : List Level := [.error, .warn, .info, .debug, .trace]

def ofName? (text : String) : Option Level :=
  all.find? fun level => level.name = text

/-- Whether an event of this severity is kept when `limit` is the least severe one kept. -/
def within (level limit : Level) : Bool :=
  level.rank ≤ limit.rank

end Level

/-!
# Fields

A field holds a text, or something else that is shown by a text.  The two differ only in
lines, where texts are quoted.
-/

inductive FieldValue where
  | text (s : String)
  | shown (s : String)
  deriving DecidableEq, Repr

namespace FieldValue

instance : Coe String FieldValue := ⟨shown⟩

def plain : FieldValue → String
  | .text s | .shown s => s

/-- The value as it stands in a line. -/
def written : FieldValue → String
  | .text s => Quoted.quote s
  | .shown s => s

end FieldValue

abbrev LogFields := List (String × FieldValue)

/-- A span of work that an event belongs to, with the values it was opened with. -/
structure Span where
  name : String
  fields : LogFields
  deriving DecidableEq, Repr

structure LogEvent where
  level : Level
  message : String
  fields : LogFields
  scope : List Span := []
  deriving DecidableEq, Repr

namespace LogEvent

def error (message : String) (fields : LogFields) : LogEvent :=
  ⟨.error, message, fields, []⟩

def warn (message : String) (fields : LogFields) : LogEvent :=
  ⟨.warn, message, fields, []⟩

def info (message : String) (fields : LogFields) : LogEvent :=
  ⟨.info, message, fields, []⟩

def debug (message : String) (fields : LogFields) : LogEvent :=
  ⟨.debug, message, fields, []⟩

/-!
# The line form

A line holds the severity, the open spans with a colon after each, the message, the
fields and last the fields of the spans.  Spans are kept only where informational
events are.  Characters of the message that would steer a terminal are spelled out.
-/

def spellOut (c : Char) : List Char :=
  if c = '\x07' ∨ c = '\x08' ∨ c = '\x0c' ∨ c = '\x1b' ∨ c = '\x7f' then
    '\\' :: 'x' :: Numeral.padded 16 2 c.toNat
  else if 0x80 ≤ c.toNat ∧ c.toNat ≤ 0x9F then
    '\\' :: 'u' :: '\x7b' :: Numeral.digits 16 c.toNat ++ ['\x7d']
  else
    [c]

def messageWords (event : LogEvent) : List String :=
  if event.message.isEmpty then [] else [String.ofList (event.message.toList.flatMap spellOut)]

def fieldWords (fields : LogFields) : List String :=
  fields.map fun (name, value) => name ++ "=" ++ value.written

def line (event : LogEvent) (limit : Level) : String :=
  let spans := if Level.info.within limit then event.scope else []
  let names := String.join (spans.map fun s => s.name ++ ":")
  let words := (if names.isEmpty then [] else [names]) ++ event.messageWords
    ++ fieldWords event.fields ++ spans.flatMap fun s => fieldWords s.fields
  String.intercalate " " (event.level.name :: words)

end LogEvent

/-!
# Results with events
-/

structure Logged (α : Type) where
  value : α
  events : List LogEvent
  deriving DecidableEq, Repr

namespace Logged

def note (event : LogEvent) : Logged Unit := ⟨(), [event]⟩

instance : Monad Logged where
  pure a := ⟨a, []⟩
  bind x f := let y := f x.value; ⟨y.value, x.events ++ y.events⟩

/-- Keeps the results of a function that may have none, with all that it had to say. -/
def filterMap {α β : Type} (f : α → Logged (Option β)) : List α → Logged (List β)
  | [] => ⟨[], []⟩
  | a :: rest =>
      let x := f a
      let xs := filterMap f rest
      ⟨x.value.toList ++ xs.value, x.events ++ xs.events⟩

end Logged
end RouteAudit
