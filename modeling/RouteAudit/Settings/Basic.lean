import RouteAudit.Failure
import RouteAudit.LogEvent

/-!
# Settings

The settings say where the databases are, how long a check cycle may take, which
interfaces are local, and how the routing daemon is asked.  Every setting has a default
apart from the name of a namespace.
-/

namespace RouteAudit

structure DatabaseSettings where
  host : String := "127.0.0.1"
  port : Nat := 6379
  /-- The path of a local socket, which takes precedence over host and port. -/
  socket : Option String := none
  applNumber : Nat := 0
  asicNumber : Nat := 1
  configNumber : Nat := 4
  deriving DecidableEq, Repr

structure CheckSettings where
  timeoutSeconds : Nat := 120
  /-- How long late changes are still credited, in milliseconds. -/
  windowMillis : Nat := 1000
  localInterfaces : List String := ["eth0", "eth1", "docker0"]
  localPatterns : List String := ["tun0", "lo", "Loopback\\d+"]
  fabricStart : String := "Ethernet-IB"
  /-- The file that lists the interfaces inside a chassis. -/
  chassisFile : Option String := none
  deriving DecidableEq, Repr

structure DaemonSettings where
  enabled : Bool := false
  retries : Nat := 3
  retryWaitSeconds : Nat := 15
  program : String := "/usr/bin/vtysh"
  deriving DecidableEq, Repr

structure NamespaceSettings where
  name : String
  database : Option DatabaseSettings := none
  deriving DecidableEq, Repr

structure Settings where
  database : DatabaseSettings := {}
  check : CheckSettings := {}
  daemon : DaemonSettings := {}
  namespaces : List NamespaceSettings := []
  deriving DecidableEq, Repr

def CheckSettings.timeoutMillis (c : CheckSettings) : Nat := c.timeoutSeconds * 1000

def DaemonSettings.retryWaitMillis (d : DaemonSettings) : Nat := d.retryWaitSeconds * 1000

namespace Settings

/-!
# Validation

A cycle needs time, more of it than the window for late changes takes; a daemon that is
asked is asked at least once; and namespaces have different names.
-/

/-- The first name that stands twice in a list. -/
def firstRepeat? (seen : List String) : List String → Option String
  | [] => none
  | name :: rest => if name ∈ seen then some name else firstRepeat? (name :: seen) rest

def validate (s : Settings) : Except SettingsFault Unit :=
  if s.check.timeoutSeconds = 0 then
    .error .noTimeout
  else if s.check.timeoutMillis ≤ s.check.windowMillis then
    .error .windowTooLong
  else if s.daemon.enabled ∧ s.daemon.retries = 0 then
    .error .noRetries
  else
    match firstRepeat? [] (s.namespaces.map NamespaceSettings.name) with
    | some name => .error (.duplicateNamespace name)
    | none => .ok ()

/-!
# Namespaces to check

Without any namespace the host namespace is checked, whose name is empty.  A namespace
without database settings uses those at the top.
-/

def allNamespaces (s : Settings) : List (String × DatabaseSettings) :=
  if s.namespaces.isEmpty then
    [("", s.database)]
  else
    s.namespaces.map fun n => (n.name, n.database.getD s.database)

def resolve (s : Settings) (only : Option String) :
    Except SettingsFault (List (String × DatabaseSettings)) :=
  match only with
  | none => .ok s.allNamespaces
  | some name =>
      match s.allNamespaces.filter fun n => n.1 = name with
      | [] => .error (.unknownNamespace name)
      | selected => .ok selected

end Settings

/-!
# The interval between checks

Zero stands for a single check; other intervals are kept between ten seconds and an hour.
-/

namespace ScanInterval

def least : Nat := 10

def most : Nat := 3600

def clamp (seconds : Nat) : Nat := max least (min seconds most)

def clampEvents (seconds : Nat) : List LogEvent :=
  if clamp seconds = seconds then []
  else [.warn "Scan interval out of range, clamped"
    [("requested", toString seconds), ("clamped", toString (clamp seconds))]]

/-- The interval in seconds that a request for one leads to. -/
def ofSeconds (seconds : Nat) : Logged (Option Nat) :=
  if seconds = 0 then ⟨none, []⟩ else ⟨some (clamp seconds), clampEvents seconds⟩

theorem least_le_clamp (seconds : Nat) : least ≤ clamp seconds := Nat.le_max_left ..

theorem least_le_of_ofSeconds {seconds kept : Nat}
    (h : (ofSeconds seconds).value = some kept) : least ≤ kept := by
  unfold ofSeconds at h
  split at h
  · cases h
  · cases h
    exact least_le_clamp seconds

end ScanInterval
end RouteAudit
