import RouteAudit.Report
import RouteAudit.Settings.Document
import RouteAudit.Text.Similarity

/-!
# The command line

The checker is given switches, some of which take a value.  A switch is written by its
letter, with others of one letter in one word if it takes no value, or by its name.  Every
switch is given at most once, and nothing else is accepted.
-/

namespace RouteAudit
namespace CommandLine

inductive Switch where
  | mode
  | interval
  | logToSyslog
  | config
  | namesOnly
  | help
  | version
  deriving DecidableEq, Repr

namespace Switch

def all : List Switch := [.mode, .interval, .logToSyslog, .config, .namesOnly, .help, .version]

def long : Switch → String
  | .mode => "mode"
  | .interval => "interval"
  | .logToSyslog => "log-to-syslog"
  | .config => "config"
  | .namesOnly => "namespace"
  | .help => "help"
  | .version => "version"

def short : Switch → Char
  | .mode => 'm'
  | .interval => 'i'
  | .logToSyslog => 's'
  | .config => 'c'
  | .namesOnly => 'n'
  | .help => 'h'
  | .version => 'V'

def takesValue : Switch → Bool
  | .mode | .interval | .config | .namesOnly => true
  | .logToSyslog | .help | .version => false

/-- A switch as it is shown, with a placeholder for its value. -/
def shown (s : Switch) : String :=
  if s.takesValue then "--" ++ s.long ++ " <" ++ s.long.toUpper ++ ">" else "--" ++ s.long

def ofLong? (name : String) : Option Switch := all.find? fun s => s.long = name

def ofShort? (letter : Char) : Option Switch := all.find? fun s => s.short = letter

end Switch

/-!
# Faults
-/

inductive Fault where
  | unexpectedArgument (argument : String) (similar : Option Switch) (used : List Switch)
  | unexpectedValue (value : String) (switch : Switch) (used : List Switch)
  | repeated (switch : Switch)
  | missingValue (switch : Switch)
  | invalidMode (value : String) (similar : Option String)
  | invalidInterval (value : String) (fault : Numeral.Fault)
  deriving DecidableEq, Repr

def possibleModes : String :=
  "\n  [possible values: " ++ String.intercalate ", " (Mode.all.map Mode.name) ++ "]"

def usage (used : List Switch) : String :=
  let words := if used.isEmpty then ["[OPTIONS]"] else used.map Switch.shown
  "\n\nUsage: route_check " ++ String.intercalate " " words

def tip (kind : String) : Option String → String
  | some text => "\n\n  tip: a similar " ++ kind ++ " exists: '" ++ text ++ "'"
  | none => ""

namespace Fault

def body : Fault → String
  | .unexpectedArgument argument similar used =>
      "unexpected argument '" ++ argument ++ "' found"
        ++ tip "argument" (similar.map fun s => "--" ++ s.long) ++ usage used
  | .unexpectedValue value switch used =>
      "unexpected value '" ++ value ++ "' for '" ++ switch.shown
        ++ "' found; no more were expected" ++ usage used
  | .repeated switch =>
      "the argument '" ++ switch.shown ++ "' cannot be used multiple times" ++ usage []
  | .missingValue switch =>
      "a value is required for '" ++ switch.shown ++ "' but none was supplied"
        ++ (if switch = .mode then possibleModes else "")
  | .invalidMode value similar =>
      "invalid value '" ++ value ++ "' for '" ++ Switch.mode.shown ++ "'" ++ possibleModes
        ++ tip "value" similar
  | .invalidInterval value fault =>
      "invalid value '" ++ value ++ "' for '" ++ Switch.interval.shown ++ "': " ++ fault.message

def message (f : Fault) : String :=
  "error: " ++ f.body ++ "\n\nFor more information, try '--help'."

end Fault

/-!
# Values
-/

structure Arguments where
  mode : Mode := .errors
  interval : Nat := 0
  logToSyslog : Bool := false
  config : Option String := none
  /-- The only namespace to check. -/
  namesOnly : Option String := none
  deriving DecidableEq, Repr

namespace Arguments

def setMode (a : Arguments) (value : String) : Except Fault Arguments :=
  if value.isEmpty then
    .error (.missingValue .mode)
  else
    match Mode.ofName? true value with
    | some mode => .ok { a with mode }
    | none => .error (.invalidMode value (Similarity.suggest? value (Mode.all.map Mode.name)))

def setInterval (a : Arguments) (value : String) : Except Fault Arguments :=
  match Numeral.read 10 (Numeral.twoTo 64 - 1) value.toList with
  | .ok interval => .ok { a with interval }
  | .error fault => .error (.invalidInterval value fault)

def setConfig (a : Arguments) (value : String) : Except Fault Arguments :=
  if value.isEmpty then .error (.missingValue .config) else .ok { a with config := some value }

def set (a : Arguments) (switch : Switch) (value : String) : Except Fault Arguments :=
  match switch with
  | .mode => a.setMode value
  | .interval => a.setInterval value
  | .config => a.setConfig value
  | .namesOnly => .ok { a with namesOnly := some value }
  | .logToSyslog => .ok { a with logToSyslog := true }
  | .help | .version => .ok a

end Arguments

/-!
# Reading

A switch that takes a value is pending until the next argument is known to be one of its
own; only then is its value looked at.
-/

structure State where
  arguments : Arguments := {}
  used : List Switch := []
  /-- The last switch, with the value that followed it. -/
  pending : Option (Switch × Option String) := none

/-- How reading ends before the arguments are complete. -/
inductive Ending where
  | help
  | version
  | refused (f : Fault)

namespace State

/-- Takes a switch with its value.  The state is also of use after a fault. -/
def accept (s : State) (switch : Switch) (value : String) : State × Option Fault :=
  if switch ∈ s.used then
    ({ s with used := s.used.erase switch }, some (.repeated switch))
  else
    let s := { s with used := s.used ++ [switch] }
    match s.arguments.set switch value with
    | .ok arguments => ({ s with arguments }, none)
    | .error fault => (s, some fault)

/-- Takes the pending switch. -/
def settle (s : State) : State × Option Fault :=
  match s.pending with
  | none => (s, none)
  | some (switch, none) => ({ s with pending := none }, some (.missingValue switch))
  | some (switch, some value) => accept { s with pending := none } switch value

def orRefuse : State × Option Fault → Except Ending State
  | (s, none) => .ok s
  | (_, some fault) => .error (.refused fault)

def settled (s : State) : Except Ending State := orRefuse s.settle

/-- A switch with the value attached to it, if any. -/
def take (s : State) (switch : Switch) (value : Option String) : Except Ending State := do
  let s ← s.settled
  match switch with
  | .help => .error .help
  | .version => .error .version
  | _ =>
      if switch.takesValue ∧ value = none then .ok { s with pending := some (switch, none) }
      else orRefuse (s.accept switch (value.getD ""))

/-- Reads a word of one-letter switches. -/
def letters (s : State) : List Char → Except Ending State
  | [] => .ok s
  | c :: rest =>
      match Switch.ofShort? c with
      | none => .error (.refused (.unexpectedArgument (String.ofList ['-', c]) none []))
      | some switch =>
          if switch.takesValue then
            match rest with
            | [] => s.take switch none
            | '=' :: value => s.take switch (some (String.ofList value))
            | value => s.take switch (some (String.ofList value))
          else do
            let s ← s.take switch none
            s.letters rest

def addOnce (used : List Switch) (switch : Switch) : List Switch :=
  if switch ∈ used then used else used ++ [switch]

def unknownName (s : State) (name : String) : Fault :=
  let used := s.settle.1.used
  let similar := (Similarity.suggest? name (Switch.all.map Switch.long)).bind Switch.ofLong?
  .unexpectedArgument ("--" ++ name) similar
    (match similar with
    | some switch => addOnce used switch
    | none => used)

/-- Reads a switch by its name, to which a value may be attached. -/
def named (s : State) (name : String) (value : Option String) : Except Ending State :=
  match Switch.ofLong? name with
  | none => .error (.refused (s.unknownName name))
  | some switch =>
      match value with
      | some v =>
          if switch.takesValue then s.take switch (some v)
          else .error (.refused (.unexpectedValue v switch (addOnce s.used switch)))
      | none => s.take switch none

def unexpected (argument : String) : Except Ending State :=
  .error (.refused (.unexpectedArgument argument none []))

def plain (s : State) (argument : String) : Except Ending State :=
  match s.pending with
  | some (switch, none) => .ok { s with pending := some (switch, some argument) }
  | _ => unexpected argument

def argument (s : State) (argument : String) : Except Ending State :=
  match argument.toList with
  | '-' :: '-' :: text =>
      match Text.cut '=' text with
      | some (name, value) => s.named (String.ofList name) (some (String.ofList value))
      | none => s.named (String.ofList text) none
  | '-' :: c :: rest => s.letters (c :: rest)
  | _ => s.plain argument

/-- Reads all arguments.  Behind `--` nothing is accepted. -/
def all (s : State) : List String → Except Ending State
  | [] => s.settled
  | ["--"] => s.settled
  | "--" :: next :: _ => unexpected next
  | next :: rest => do
      let s ← s.argument next
      s.all rest

end State

def parse (arguments : List String) : Except Ending Arguments :=
  (State.all {} arguments).map State.arguments

/-!
# Help
-/

def helpLines : List String :=
  ["Route consistency checker for SONiC (APPL_DB intent vs ASIC_DB programmed routes)",
    "",
    "Usage: route_check [OPTIONS]",
    "",
    "Options:",
    "  -m, --mode <MODE>            Log verbosity [default: ERR]"
      ++ " [possible values: ERR, INFO, DEBUG]",
    "  -i, --interval <INTERVAL>    Repeat the check every N seconds (0 runs it once) [default: 0]",
    "  -s, --log-to-syslog          Mirror log output to syslog",
    "  -c, --config <CONFIG>        Configuration file (default: "
      ++ Settings.defaultPath ++ " if present)",
    "  -n, --namespace <NAMESPACE>  Check only this namespace",
    "  -h, --help                   Print help",
    "  -V, --version                Print version"]

def help : String := String.join (helpLines.map fun line => line ++ "\n")

def version : String := "route_check 0.1.0\n"

end CommandLine
end RouteAudit
