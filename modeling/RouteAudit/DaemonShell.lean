import RouteAudit.ControlPlane
import RouteAudit.Json.Reader
import RouteAudit.Text.Quoted
import RouteAudit.Text.Utf8

/-!
# The routing daemon's shell

The routes of the routing daemon are read by running its shell once per address family.
The shell prints JSON, or fails and says why.
-/

namespace RouteAudit
namespace DaemonShell

def commands : List String := ["show ip route json", "show ipv6 route json"]

/-- The number of the daemon of a namespace `asic<number>`. -/
def instance? (site : String) : Option Nat :=
  (Text.after? "asic".toList site.toList).bind (Numeral.read? 10 (Numeral.twoTo 32 - 1))

def arguments (site command : String) : List String :=
  let ofInstance := match instance? site with
    | some n => ["-n", toString n]
    | none => []
  ofInstance ++ ["-c", command]

/-!
# Executions
-/

inductive ExitStatus where
  | code (n : Nat)
  | signal (n : Nat)
  deriving DecidableEq, Repr

namespace ExitStatus

def signalNames : List String :=
  ["HUP", "INT", "QUIT", "ILL", "TRAP", "ABRT", "BUS", "FPE", "KILL", "USR1", "SEGV", "USR2",
    "PIPE", "ALRM", "TERM", "STKFLT", "CHLD", "CONT", "STOP", "TSTP", "TTIN", "TTOU", "URG",
    "XCPU", "XFSZ", "VTALRM", "PROF", "WINCH", "IO", "PWR", "SYS"]

def text : ExitStatus → String
  | .code n => "exit status: " ++ toString n
  | .signal n =>
      match if n = 0 then none else signalNames[n - 1]? with
      | some name => "signal: " ++ toString n ++ " (SIG" ++ name ++ ")"
      | none => "signal: " ++ toString n

end ExitStatus

/-- What came of starting the shell with some arguments. -/
inductive Execution where
  | notStarted (reason : String)
  | ended (status : ExitStatus) (output errors : Utf8.Octets)

def table (program command : String) : Execution → Attempt Json
  | .notStarted reason => .error (.controlPlane (.notStarted program reason))
  | .ended status output errors =>
      if status = .code 0 then
        match (Utf8.decode? output).bind Json.parse? with
        | some value => .ok value
        | none => .error .malformedJson
      else
        let message := String.ofList (Text.trim (Utf8.decodeLossy errors).toList)
        .error (.controlPlane (.exited command status.text message))

def queryEvent (program : String) (args : List String) : LogEvent :=
  .debug "Querying FRR" [("vtysh", program), ("args", Quoted.list args)]

/-- Runs commands one after another and gathers the records; the first failure ends it. -/
def fetchAll (program site : String) (execute : List String → Execution) :
    List String → Logged (Attempt (List Json))
  | [] => pure (.ok [])
  | command :: rest =>
      let args := arguments site command
      let event := queryEvent program args
      match table program command (execute args) with
      | .error f => ⟨.error f, [event]⟩
      | .ok value =>
          let more := fetchAll program site execute rest
          ⟨more.value.map fun records => ControlPlane.flatten value ++ records,
            event :: more.events⟩

def fetch (program site : String) (execute : List String → Execution) :
    Logged (Attempt (List Json)) :=
  fetchAll program site execute commands

end DaemonShell
end RouteAudit
