import RouteAudit.Clock
import RouteAudit.CommandLine
import RouteAudit.Schedule
import RouteAudit.Settings.Document
import RouteAudit.Text.Quoted

/-!
# Starting the checker

From the arguments and the files of the machine the checker loads its settings, picks the
namespaces and sets up a check for each of them.  What goes wrong on the way keeps it from
starting; after that only checks fail, or the checker crashes because the clock has no reading
for the deadline of a check.
-/

namespace RouteAudit
namespace Launch

structure Machine where
  files : Files
  /-- Why no database server can be reached. -/
  unreachable : String

/-- What keeps the checker from starting, and what it was about to do. -/
structure Obstacle where
  context : String
  failure : Failure

/-- A failure together with what lies behind it. -/
def Obstacle.chain (o : Obstacle) : List String :=
  match o.failure with
  | .io reason => [o.failure.message, reason]
  | _ => [o.failure.message]

def Obstacle.event (o : Obstacle) : LogEvent :=
  .error (String.intercalate ": " ("route_check failed to start" :: o.context :: o.chain)) []

/-- A checker that is ready to run. -/
structure Checker where
  schedule : Schedule
  checks : List Check
  world : World

/-!
# Checks
-/

def checkOf (settings : Settings) (mode : Mode) (site : String) (number : Nat)
    (locals : LocalInterfaces) : Check :=
  { site, locals, mode
    settings := settings.check
    rules := Exclusion.standard
    daemon := if settings.daemon.enabled then some (number, settings.daemon) else none }

/-- Sets up the checks of namespaces, of which the first has the number given. -/
def checks (machine : Machine) (engine : Pattern.Engine) (settings : Settings) (mode : Mode) :
    Nat → List String → Logged (Except Obstacle (List Check))
  | _, [] => pure (.ok [])
  | number, site :: rest => do
      match ← LocalInterfaces.ofSettings machine.files settings.check engine with
      | .error failure =>
          return .error ⟨"Failed to set up namespace '" ++ site ++ "'", failure⟩
      | .ok locals =>
          let more ← checks machine engine settings mode (number + 1) rest
          return more.map fun more => checkOf settings mode site number locals :: more

def worldOf (machine : Machine) (namespaces : List (String × DatabaseSettings)) : World :=
  { sites := .ofList (namespaces.map fun n => (n.1, .remote n.2 machine.unreachable)) }

/-!
# The start
-/

def startEvent (arguments : CommandLine.Arguments) (settings : Settings) (sites : List String) :
    LogEvent :=
  .info "Starting route_check"
    [("namespaces", Quoted.list sites), ("interval_secs", toString arguments.interval),
      ("frr", toString settings.daemon.enabled)]

/-- The checker for settings and the namespaces picked. -/
def checker (machine : Machine) (engine : Pattern.Engine) (arguments : CommandLine.Arguments)
    (settings : Settings) (namespaces : List (String × DatabaseSettings)) :
    Logged (Except Obstacle Checker) := do
  let sites := namespaces.map Prod.fst
  match ← checks machine engine settings arguments.mode 0 sites with
  | .error o => return .error o
  | .ok checks =>
      Logged.note (startEvent arguments settings sites)
      let interval ← ScanInterval.ofSeconds arguments.interval
      let schedule : Schedule :=
        { interval, limit := settings.check.timeoutMillis, mode := arguments.mode }
      return .ok ⟨schedule, checks, worldOf machine namespaces⟩

def prepare (machine : Machine) (engine : Pattern.Engine) (arguments : CommandLine.Arguments) :
    Logged (Except Obstacle Checker) := do
  match ← Settings.load machine.files arguments.config with
  | .error fault => return .error ⟨"Failed to load configuration", .settings fault⟩
  | .ok settings =>
      match settings.resolve arguments.namesOnly with
      | .error fault => return .error ⟨"Failed to resolve namespaces", .settings fault⟩
      | .ok namespaces => checker machine engine arguments settings namespaces

namespace Checker

def program (c : Checker) : Program Report := checkAll c.checks .empty

/-- The reading of the clock at which a check ends that begins now. -/
def deadline? (c : Checker) (now : Clock.Reading) : Option Clock.Reading :=
  now.add? (Clock.nanosOf c.schedule.limit)

/-- One check: its verdict, what it logs, what it writes, and the checker after it. -/
def once (c : Checker) : Bool × List LogEvent × String × Checker :=
  let (passed, w) := c.schedule.runOnce c.program { c.world with logged := [], output := "" }
  (passed, w.events, w.output, { c with world := w })

end Checker

/-!
# A single run
-/

/-- The lines of the events that a mode shows. -/
def lines (mode : Mode) (events : List LogEvent) : List String :=
  (events.filter fun e => e.level.within mode.level).map fun e => e.line mode.level

structure Result where
  exitCode : Nat
  output : String
  errorLines : List String

def exitCode (passed : Bool) : Nat := if passed then 0 else 1

def crashCode : Nat := 101

/-- What comes of a check that was made, and of the events before it. -/
def resultOf (mode : Mode) (before : List LogEvent) :
    Bool × List LogEvent × String × Checker → Result
  | (passed, events, output, _) => ⟨exitCode passed, output, lines mode (before ++ events)⟩

/-- What comes of a single check that begins now, and of the events before it.  Without a deadline
the check is not begun. -/
def Checker.result (c : Checker) (mode : Mode) (before : List LogEvent) (now : Clock.Reading) :
    Result :=
  if (c.deadline? now).isSome then
    resultOf mode before c.once
  else
    ⟨crashCode, "", lines mode before ++ [Clock.overflowMessage]⟩

/-- Runs a single check for arguments that are complete, at a reading of the clock. -/
def run (machine : Machine) (engine : Pattern.Engine) (arguments : CommandLine.Arguments)
    (now : Clock.Reading) : Result :=
  let prepared := prepare machine engine arguments
  match prepared.value with
  | .error o => ⟨1, "", lines arguments.mode (prepared.events ++ [o.event])⟩
  | .ok c => c.result arguments.mode prepared.events now

/-- Runs the checker once for any arguments. -/
def respond (machine : Machine) (arguments : List String)
    (engine : Pattern.Engine := Pattern.Engine.roomy)
    (now : Clock.Reading := Clock.Reading.booted) : Result :=
  match CommandLine.parse arguments with
  | .ok arguments => run machine engine arguments now
  | .error .help => ⟨0, CommandLine.help, []⟩
  | .error .version => ⟨0, CommandLine.version, []⟩
  | .error (.refused fault) => ⟨2, "", [fault.message]⟩

end Launch
end RouteAudit
