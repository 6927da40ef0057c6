import RouteAudit.Json.Writer
import RouteAudit.Settings.Basic
import RouteAudit.Settings.File
import RouteAudit.Toml.Reader

/-!
# Settings documents

A document has a section for the databases, the check and the routing daemon and a list of
namespaces.  A section is a table of named settings or an array of settings in their fixed
order; settings that are not written take their defaults, and unknown ones are passed over.
-/

namespace RouteAudit

/-- The settings written in a section. -/
inductive Section where
  | named (entries : List (String × Toml))
  | listed (items : List Toml)

namespace Section

/-- A moment is a section without settings. -/
def ofValue? : Toml → Option Section
  | .table entries => some (.named entries)
  | .array items => some (.listed items)
  | .moment => some (.named [])
  | _ => none

def find? (s : Section) (name : String) (position : Nat) : Option Toml :=
  match s with
  | .named entries => Toml.entry? name entries
  | .listed items => items[position]?

/-- Reads a setting that may be left out. -/
def get? {α : Type} (s : Section) (name : String) (position : Nat) (byDefault : α)
    (read? : Toml → Option α) : Option α :=
  match s.find? name position with
  | none => some byDefault
  | some v => read? v

end Section

/-!
# Kinds of settings
-/

namespace Setting

def text? : Toml → Option String
  | .string s => some s
  | _ => none

def path? (v : Toml) : Option (Option String) := (text? v).map some

def texts? : Toml → Option (List String)
  | .array items => items.mapM text?
  | _ => none

def flag? : Toml → Option Bool
  | .boolean b => some b
  | _ => none

/-- A whole number below `2 ^ bits`. -/
def number? (bits : Nat) : Toml → Option Nat
  | .integer n => if 0 ≤ n ∧ n < Numeral.twoTo bits then some n.toNat else none
  | _ => none

end Setting

/-!
# Sections
-/

def DatabaseSettings.ofValue? (v : Toml) : Option DatabaseSettings := do
  let s ← Section.ofValue? v
  let d : DatabaseSettings := {}
  let host ← s.get? "redis_host" 0 d.host Setting.text?
  let port ← s.get? "redis_port" 1 d.port (Setting.number? 16)
  let socket ← s.get? "unix_socket" 2 d.socket Setting.path?
  let applNumber ← s.get? "appl_db_number" 3 d.applNumber (Setting.number? 32)
  let asicNumber ← s.get? "asic_db_number" 4 d.asicNumber (Setting.number? 32)
  let configNumber ← s.get? "config_db_number" 5 d.configNumber (Setting.number? 32)
  return { host, port, socket, applNumber, asicNumber, configNumber }

def CheckSettings.ofValue? (v : Toml) : Option CheckSettings := do
  let s ← Section.ofValue? v
  let d : CheckSettings := {}
  let timeoutSeconds ← s.get? "timeout_secs" 0 d.timeoutSeconds (Setting.number? 64)
  let windowMillis ← s.get? "subscribe_window_ms" 1 d.windowMillis (Setting.number? 64)
  let localInterfaces ← s.get? "local_interfaces" 2 d.localInterfaces Setting.texts?
  let localPatterns ← s.get? "local_interface_patterns" 3 d.localPatterns Setting.texts?
  let fabricStart ← s.get? "fabric_interface_prefix" 4 d.fabricStart Setting.text?
  let chassisFile ← s.get? "chassisdb_conf" 5 d.chassisFile Setting.path?
  return { timeoutSeconds, windowMillis, localInterfaces, localPatterns, fabricStart, chassisFile }

def DaemonSettings.ofValue? (v : Toml) : Option DaemonSettings := do
  let s ← Section.ofValue? v
  let d : DaemonSettings := {}
  let enabled ← s.get? "enabled" 0 d.enabled Setting.flag?
  let retries ← s.get? "retries" 1 d.retries (Setting.number? 32)
  let retryWaitSeconds ← s.get? "retry_wait_secs" 2 d.retryWaitSeconds (Setting.number? 64)
  let program ← s.get? "vtysh_path" 3 d.program Setting.text?
  return { enabled, retries, retryWaitSeconds, program }

def NamespaceSettings.ofValue? (v : Toml) : Option NamespaceSettings := do
  let s ← Section.ofValue? v
  let name ← (s.find? "name" 0).bind Setting.text?
  let database ← s.get? "database" 1 none fun v => (DatabaseSettings.ofValue? v).map some
  return { name, database }

def namespaces? : Toml → Option (List NamespaceSettings)
  | .array items => items.mapM NamespaceSettings.ofValue?
  | _ => none

namespace Settings

def ofEntries? (entries : List (String × Toml)) : Option Settings := do
  let s := Section.named entries
  let database ← s.get? "database" 0 {} DatabaseSettings.ofValue?
  let check ← s.get? "check" 1 {} CheckSettings.ofValue?
  let daemon ← s.get? "frr" 2 {} DaemonSettings.ofValue?
  let namespaces ← s.get? "namespace" 3 [] namespaces?
  return { database, check, daemon, namespaces }

/-!
# Documents

Settings that are read are also validated.
-/

def parse (text : String) : Except SettingsFault Settings :=
  match (Toml.parse? text).bind ofEntries? with
  | none => .error .malformed
  | some s =>
      match s.validate with
      | .ok () => .ok s
      | .error fault => .error fault

def ofFile (path : String) (file : FileState) : Except SettingsFault Settings :=
  match file.text with
  | .ok text => parse text
  | .error reason => .error (.unreadable path reason)

def defaultPath : String := "/etc/sonic/route_check.toml"

/-- Loads the file named, or the default file if it is there. -/
def load (files : Files) (explicit : Option String) : Logged (Except SettingsFault Settings) :=
  match explicit with
  | some path => pure (ofFile path (files path))
  | none =>
      match files defaultPath with
      | .absent =>
          ⟨.ok {}, [.debug "No config file, using defaults" [("path", .text defaultPath)]]⟩
      | file => pure (ofFile defaultPath file)

end Settings

/-!
# Written settings
-/

namespace Json

def ofText? (text : Option String) : Json :=
  match text with
  | some s => .string s
  | none => .null

end Json

def DatabaseSettings.toJson (d : DatabaseSettings) : Json :=
  Json.ofFields [("redis_host", .string d.host), ("redis_port", .ofNat d.port),
    ("unix_socket", .ofText? d.socket), ("appl_db_number", .ofNat d.applNumber),
    ("asic_db_number", .ofNat d.asicNumber), ("config_db_number", .ofNat d.configNumber)]

def CheckSettings.toJson (c : CheckSettings) : Json :=
  Json.ofFields [("timeout_secs", .ofNat c.timeoutSeconds),
    ("subscribe_window_ms", .ofNat c.windowMillis),
    ("local_interfaces", .texts c.localInterfaces),
    ("local_interface_patterns", .texts c.localPatterns),
    ("fabric_interface_prefix", .string c.fabricStart),
    ("chassisdb_conf", .ofText? c.chassisFile)]

def DaemonSettings.toJson (d : DaemonSettings) : Json :=
  Json.ofFields [("enabled", .bool d.enabled), ("retries", .ofNat d.retries),
    ("retry_wait_secs", .ofNat d.retryWaitSeconds), ("vtysh_path", .string d.program)]

def NamespaceSettings.toJson (n : NamespaceSettings) : Json :=
  Json.ofFields [("name", .string n.name),
    ("database", match n.database with
      | some d => d.toJson
      | none => .null)]

def Settings.toJson (s : Settings) : Json :=
  Json.ofFields [("database", s.database.toJson), ("check", s.check.toJson),
    ("frr", s.daemon.toJson), ("namespace", .array (s.namespaces.map NamespaceSettings.toJson))]

end RouteAudit
