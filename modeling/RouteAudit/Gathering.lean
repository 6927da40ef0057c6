import RouteAudit.Exclusion
import RouteAudit.Program

/-!
# Reading the tables

The programmed routes are read before the intended ones, so that a route that is programmed
and intended while the tables are read is not taken for one that nobody intends.  The
tables for the exclusion rules are read later, and those of dual top-of-rack devices only
on such devices.
-/

namespace RouteAudit
namespace Gathering

/-!
# The snapshot
-/

def programmedRoutes (site : String) : Program KeySet := do
  let keys ← Program.keysOf site .asic Tables.routeEntryStart
  let found ← Program.ofLogged (Logged.filterMap RouteEntry.parseProgrammed keys)
  return .ofList found

def intendedRoutes (site : String) : Program Routes := do
  let rows ← Program.scan site .appl Tables.route
  let found ← Program.ofLogged (Logged.filterMap IntendedRoute.ofTableRow rows)
  return .ofList found

/-- The keys of the interface table without the table, in the order of the answer. -/
def interfaceKeys (keys : List String) : List String :=
  keys.filterMap fun key =>
    (Text.after? (Database.tableStart .appl Tables.interface).toList key.toList).map String.ofList

def interfaceAddresses (site : String) : Program KeySet := do
  let keys ← Program.keysOf site .appl (Database.tableStart .appl Tables.interface)
  let found ← Program.ofLogged (Logged.filterMap TableKey.parseInterface (interfaceKeys keys))
  return .ofList found

def snapshot (site : String) : Program Snapshot := do
  let programmed ← programmedRoutes site
  let routes ← intendedRoutes site
  let interfaces ← interfaceAddresses site
  Program.log (.debug "Snapshot taken"
    [("routes", toString routes.size), ("interfaces", toString interfaces.size),
      ("programmed", toString programmed.size)])
  return ⟨routes, interfaces, programmed⟩

/-!
# The tables of the rules
-/

def isDualTor (metadata : Fields) : Bool :=
  match metadata.get? "subtype" with
  | some subtype => subtype.toLower == "dualtor"
  | none => false

def vnetRoutes (site table : String) : Program (List RouteKey) := do
  let rows ← Program.scan site .appl table
  return rows.filterMap fun row => TableKey.vnetRoute? row.key

/-- Whether a neighbor's hardware address is the all-zero one. -/
def isStandby (row : Row) : Bool :=
  ((row.field? "neigh").bind Mac.parse?).any Mac.isZero

def standbyNeighbors (site : String) : Program (List RouteKey) := do
  let rows ← Program.scan site .appl Tables.neighbor
  return (rows.filter isStandby).filterMap fun row => TableKey.neighbor? row.key

/-- The address in one field of a cable's row. -/
def cableAddressIn (row : Row) (field : String) : Logged (Option RouteKey) :=
  match row.field? field with
  | none => pure none
  | some value =>
      match TableKey.cableAddress? value with
      | some k => pure (some k)
      | none =>
          ⟨none, [.warn "Ignoring unparsable SoC address" [("port", row.key), ("value", .text value)]]⟩

def cableAddressesOf (row : Row) : Logged (List RouteKey) :=
  Logged.filterMap (cableAddressIn row) ["soc_ipv4", "soc_ipv6"]

def cableAddresses (site : String) : Program (List RouteKey) := do
  let rows ← Program.scan site .config Tables.muxCable
  let found ← Program.ofLogged (Logged.filterMap (fun row => do
    return some (← cableAddressesOf row)) rows)
  return found.flatten

/-- What only dual top-of-rack devices have: standby neighbors and cable addresses. -/
def dualTorTables (site : String) (dualTor : Bool) : Program (List RouteKey × List RouteKey) := do
  if dualTor then
    let neighbors ← standbyNeighbors site
    let cables ← cableAddresses site
    return (neighbors, cables)
  else
    return ([], [])

def context (site : String) (routes : Routes) (locals : LocalInterfaces) (fabricStart : String) :
    Program Exclusion.Context := do
  let metadata ← Program.entry site .config Tables.deviceMetadata Tables.localhost
  let dualTor := isDualTor metadata
  let plain ← vnetRoutes site Tables.vnetRoute
  let tunnels ← vnetRoutes site Tables.vnetTunnel
  let (neighbors, cables) ← dualTorTables site dualTor
  let ctx : Exclusion.Context :=
    { routes, locals, fabricStart, dualTor
      vnetRoutes := .ofList (plain ++ tunnels)
      standbyNeighbors := .ofList neighbors
      cableAddresses := .ofList cables }
  Program.log (.debug "Filter context loaded"
    [("dual_tor", toString dualTor), ("vnet_routes", toString ctx.vnetRoutes.size),
      ("standby_neighbors", toString ctx.standbyNeighbors.size),
      ("soc_addresses", toString ctx.cableAddresses.size)])
  return ctx

end Gathering
end RouteAudit
