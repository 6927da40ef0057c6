import RouteAudit.ControlPlane
import RouteAudit.Difference
import RouteAudit.Gathering
import RouteAudit.Report

/-!
# A check cycle

A cycle compares the tables of one namespace.  It subscribes to changes before it reads
any table, so that a route programmed in between is still credited.  If the comparison
shows mismatches, late changes and the exclusion rules are consulted; then the routing
daemon is asked, where that is wanted; and the last stage says whether the check passed.
-/

namespace RouteAudit

/-- The check of one namespace. -/
structure Check where
  site : String
  settings : CheckSettings
  locals : LocalInterfaces
  rules : List Exclusion.Rule
  /-- The routing daemon to be asked, by its number. -/
  daemon : Option (Nat × DaemonSettings)
  mode : Mode

/-- The mismatches between the tables. -/
structure Mismatches where
  missedRoutes : KeySet
  missedInterfaces : List RouteKey
  unaccounted : KeySet

namespace Mismatches

def isClean (m : Mismatches) : Bool :=
  m.missedRoutes.isEmpty && m.missedInterfaces.isEmpty && m.unaccounted.isEmpty

/-!
# Comparison

Interface addresses account for programmed routes, so those are not unaccounted for.
-/

def ofSnapshot (s : Snapshot) : Mismatches :=
  let routes := Difference.merge compare s.routes.keys s.programmed.items
  let interfaces := Difference.merge compare s.interfaces.items s.programmed.items
  { missedRoutes := .ofList routes.first
    missedInterfaces := interfaces.first
    unaccounted := .ofList (routes.second.filter fun k => !s.interfaces.contains k) }

/-- Late changes explain keys that were added or removed. -/
def credit (m : Mismatches) (d : Drained) : Mismatches :=
  { m with
    missedRoutes := m.missedRoutes.filter fun k => !d.adds.contains k
    unaccounted := m.unaccounted.filter fun k => !d.removes.contains k }

def outcome (m : Mismatches) (daemonRoutes : List Json) : Outcome :=
  ⟨m.missedRoutes.items, m.missedInterfaces, m.unaccounted.items, daemonRoutes⟩

end Mismatches

namespace Check

/-- Shows a set of keys where everything is shown. -/
def dump (c : Check) (set : String) (keys : List RouteKey) : Program Unit :=
  if c.mode = .debug then
    Program.log (.debug (String.intercalate " " (keys.map RouteKey.text))
      [("set", .text set), ("count", toString keys.length)])
  else
    return ()

/-!
# Stages
-/

def takeSnapshot (c : Check) : Program Snapshot := do
  Program.enter .snapshotting
  Program.request (.subscribe c.site)
  Gathering.snapshot c.site

def compareTables (c : Check) (s : Snapshot) : Program Mismatches := do
  Program.enter .diffing
  c.dump "ROUTE_TABLE" s.routes.keys
  c.dump "INTF_TABLE" s.interfaces.items
  c.dump "ASIC_ROUTE_ENTRY" s.programmed.items
  let m := Mismatches.ofSnapshot s
  Program.log (.debug "Initial diff"
    [("missed_routes", toString m.missedRoutes.size),
      ("missed_interfaces", toString m.missedInterfaces.length),
      ("unaccounted", toString m.unaccounted.size)])
  return m

def reconcile (c : Check) (m : Mismatches) : Program Mismatches := do
  Program.enter .reconciling
  let left ← Program.request .remaining
  let drained ← Program.request (.drain c.site (min c.settings.windowMillis left))
  let m := m.credit drained
  c.dump "missed after drain" m.missedRoutes.items
  c.dump "unaccounted after drain" m.unaccounted.items
  return m

def exclude (c : Check) (routes : Routes) (m : Mismatches) : Program Mismatches := do
  Program.enter .filtering
  let ctx ← Gathering.context c.site routes c.locals c.settings.fabricStart
  let missedRoutes ← Program.ofLogged (Exclusion.apply c.rules ctx m.missedRoutes)
  let unaccounted ← Program.ofLogged (Exclusion.apply c.rules ctx m.unaccounted)
  c.dump "missed after filters" missedRoutes.items
  c.dump "unaccounted after filters" unaccounted.items
  return { m with missedRoutes, unaccounted }

def explain (c : Check) (routes : Routes) (m : Mismatches) : Program Mismatches := do
  if m.isClean then
    return m
  else
    c.exclude routes (← c.reconcile m)

def askDaemon (c : Check) : Program (List Json) := do
  match c.daemon with
  | none => return []
  | some (daemon, settings) =>
      if ← ControlPlane.suppressing c.site then
        Program.enter .controlPlane
        ControlPlane.checkPending daemon settings
      else
        Program.log (.debug "suppress-fib-pending disabled, skipping FRR check" [])
        return []

def mismatchEvent (o : Outcome) : LogEvent :=
  .warn "Route check found mismatches"
    [("missed_routes", toString o.missedRoutes.length),
      ("missed_interfaces", toString o.missedInterfaces.length),
      ("unaccounted", toString o.unaccounted.length),
      ("missed_frr_routes", toString o.missedDaemonRoutes.length)]

def conclude (o : Outcome) : Program Outcome := do
  if o.passed then
    Program.enter .passed
    Program.log (.info "Route check passed" [])
  else
    Program.enter .failed
    Program.log (mismatchEvent o)
  return o

/-!
# The cycle
-/

def stages (c : Check) : Program Outcome := do
  let snapshot ← c.takeSnapshot
  let m ← c.compareTables snapshot
  let m ← c.explain snapshot.routes m
  let daemonRoutes ← c.askDaemon
  conclude (m.outcome daemonRoutes)

def span (c : Check) : Span := ⟨"run_cycle", [("namespace", c.site)]⟩

def cycle (c : Check) : Program Outcome :=
  Program.within c.span c.stages

end Check

/-- Checks several namespaces one after another; the first failure ends all of them. -/
def checkAll : List Check → Report → Program Report
  | [], report => return report
  | c :: rest, report => do
      let o ← c.cycle
      checkAll rest (report.insert c.site o)

end RouteAudit
