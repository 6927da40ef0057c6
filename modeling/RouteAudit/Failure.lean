/-!
# Stages and failures

A check cycle moves through stages; the stage it stands in is what a failure report
names.  A mismatch between the tables is an outcome and never a failure: failures are
the reasons why a cycle has no outcome, or why a text or a setting is refused.
-/

namespace RouteAudit

inductive Stage where
  | idle
  | snapshotting
  | diffing
  | reconciling
  | filtering
  | controlPlane
  | passed
  | failed
  deriving DecidableEq, Repr

namespace Stage

def name : Stage → String
  | .idle => "Idle"
  | .snapshotting => "Snapshotting"
  | .diffing => "Diffing"
  | .reconciling => "Reconciling"
  | .filtering => "Filtering"
  | .controlPlane => "ControlPlane"
  | .passed => "Passed"
  | .failed => "Failed"

def all : List Stage :=
  [.idle, .snapshotting, .diffing, .reconciling, .filtering, .controlPlane, .passed, .failed]

def ofName? (text : String) : Option Stage :=
  all.find? fun stage => stage.name = text

end Stage

/-!
# Causes

The settings and the routing daemon fail for causes of their own.
-/

inductive SettingsFault where
  | unreadable (path reason : String)
  | malformed
  | noTimeout
  | windowTooLong
  | noRetries
  | duplicateNamespace (name : String)
  | unknownNamespace (name : String)
  | badPattern (pattern : String)
  | other (text : String)
  deriving DecidableEq, Repr

def SettingsFault.message : SettingsFault → String
  | .unreadable path reason => "Failed to read " ++ path ++ ": " ++ reason
  | .malformed => "Failed to parse TOML"
  | .noTimeout => "check.timeout_secs must be greater than 0"
  | .windowTooLong => "check.subscribe_window_ms must be shorter than check.timeout_secs"
  | .noRetries => "frr.retries must be at least 1"
  | .duplicateNamespace name => "duplicate namespace '" ++ name ++ "'"
  | .unknownNamespace name => "unknown namespace '" ++ name ++ "'"
  | .badPattern pattern => "bad local interface pattern '" ++ pattern ++ "'"
  | .other text => text

inductive DaemonFault where
  | notStarted (path reason : String)
  | exited (command status stderr : String)
  | other (text : String)
  deriving DecidableEq, Repr

def DaemonFault.message : DaemonFault → String
  | .notStarted path reason => "failed to run " ++ path ++ ": " ++ reason
  | .exited command status stderr =>
      "'" ++ command ++ "' exited with " ++ status ++ ": " ++ stderr
  | .other text => text

/-!
# Failures

Durations are in milliseconds and are reported in whole seconds.
-/

inductive Failure where
  | store (operation message : String)
  | timeout (stage : Stage) (limit : Nat)
  | cancelled (stage : Stage)
  | settings (fault : SettingsFault)
  | invalidKey (text : String)
  | controlPlane (fault : DaemonFault)
  | io (reason : String)
  | malformedJson
  deriving DecidableEq, Repr

def Failure.message : Failure → String
  | .store operation message => "Store operation failed: " ++ operation ++ ": " ++ message
  | .timeout stage limit =>
      "Check cycle timed out after " ++ toString (limit / 1000) ++ "s during " ++ stage.name
  | .cancelled stage => "Check cycle cancelled during " ++ stage.name
  | .settings fault => "Configuration error: " ++ fault.message
  | .invalidKey text => "Invalid route key: " ++ text
  | .controlPlane fault => "Control-plane query failed: " ++ fault.message
  | .io reason => "IO error: " ++ reason
  | .malformedJson => "JSON error: malformed document"

/-- The stage that a failure names. -/
def Failure.stage? : Failure → Option Stage
  | .timeout stage _ => some stage
  | .cancelled stage => some stage
  | _ => none

/-- A computation that ends in a value or a failure. -/
abbrev Attempt (α : Type) := Except Failure α

end RouteAudit
