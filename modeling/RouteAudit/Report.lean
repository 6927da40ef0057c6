import RouteAudit.Json.Writer
import RouteAudit.LogEvent
import RouteAudit.Failure
import RouteAudit.RouteKey

/-!
# Outcomes and reports

The outcome of a check is four lists of mismatches, and a check without any passes.  A
report holds the outcomes of the namespaces.  Written, it shows the mismatches alone: those
of the host namespace by themselves, those of several namespaces under their names.
-/

namespace RouteAudit

structure Outcome where
  missedRoutes : List RouteKey
  missedInterfaces : List RouteKey
  unaccounted : List RouteKey
  missedDaemonRoutes : List Json
  deriving Repr

namespace Outcome

def passed (o : Outcome) : Bool :=
  o.missedRoutes.isEmpty && o.missedInterfaces.isEmpty && o.unaccounted.isEmpty
    && o.missedDaemonRoutes.isEmpty

theorem passed_iff_nil {o : Outcome} : o.passed = true ↔
    o.missedRoutes = [] ∧ o.missedInterfaces = [] ∧ o.unaccounted = [] ∧
      o.missedDaemonRoutes = [] := by
  simp [passed, and_assoc]

def keyTexts (keys : List RouteKey) : List Json :=
  keys.map fun k => .string k.text

/-- A list of mismatches under its name; an empty one is left out. -/
def bucket (name : String) (items : List Json) : List (String × Json) :=
  if items.isEmpty then [] else [(name, .array items)]

def toJson (o : Outcome) : Json :=
  Json.ofFields (bucket "missed_ROUTE_TABLE_routes" (keyTexts o.missedRoutes)
    ++ bucket "missed_INTF_TABLE_entries" (keyTexts o.missedInterfaces)
    ++ bucket "Unaccounted_ROUTE_ENTRY_TABLE_entries" (keyTexts o.unaccounted)
    ++ bucket "missed_FRR_routes" o.missedDaemonRoutes)

end Outcome

/-- Outcomes by namespace. -/
abbrev Report := Table Outcome

namespace Report

def insert (r : Report) (site : String) (o : Outcome) : Report := Table.set r site o

def passed (r : Report) : Bool := r.items.all fun entry => entry.2.passed

def failures (r : Report) : List (String × Json) :=
  (r.items.filter fun entry => !entry.2.passed).map fun entry => (entry.1, entry.2.toJson)

def toJson (r : Report) : Json :=
  match r.items with
  | [("", o)] => o.toJson
  | _ => .object r.failures

end Report

/-!
# Verbosity
-/

inductive Mode where
  | errors
  | info
  | debug
  deriving DecidableEq, Repr

namespace Mode

def all : List Mode := [.errors, .info, .debug]

def name : Mode → String
  | .errors => "ERR"
  | .info => "INFO"
  | .debug => "DEBUG"

/-- The name of the least severe level that is logged. -/
def filter : Mode → String
  | .errors => "error"
  | .info => "info"
  | .debug => "debug"

def level : Mode → Level
  | .errors => .error
  | .info => .info
  | .debug => .debug

def ofName? (ignoreCase : Bool) (text : String) : Option Mode :=
  all.find? fun m => m.name = text || (ignoreCase && m.name = text.toUpper)

end Mode

/-!
# Reporting

A report is written and logged; a passing one is confirmed in a line unless only errors are
shown.  A sink refuses what is written with a reason, or takes it.
-/

namespace Report

def confirmation : String := "All good!\n"

/-- What a report writes, if anything. -/
def written (mode : Mode) (r : Report) : Option String :=
  if r.passed then
    if mode = .errors then none else some confirmation
  else
    some (r.toJson.pretty ++ "\n")

def refusalEvents (refusal : Option String) : List LogEvent :=
  match refusal with
  | some reason => [.error "Failed to write results" [("error", reason)]]
  | none => []

def events (mode : Mode) (refusal : Option String) (r : Report) : List LogEvent :=
  let refused := if (r.written mode).isSome then refusalEvents refusal else []
  if r.passed then
    .info "All good!" [("namespaces", toString r.size)] :: refused
  else
    .error ("Failure results: " ++ r.toJson.pretty) [] :: refused
      ++ [.error "Failed. Look at reported mismatches above" []]

end Report

/-- How a cycle without an outcome is logged. -/
def Failure.event : Failure → LogEvent
  | .timeout stage limit =>
      .error "route_check timed out"
        [("stage", stage.name), ("timeout_secs", toString (limit / 1000))]
  | .cancelled stage => .info "route_check cancelled" [("stage", stage.name)]
  | other => .error "route_check failed" [("error", other.message)]

end RouteAudit
