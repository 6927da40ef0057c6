import RouteAudit.Change
import RouteAudit.TableKey

/-!
# Intended routes and snapshots

A row of the route table says over which interfaces and next hops a destination is meant to
be reached.  A snapshot holds what the three tables said when they were read.
-/

namespace RouteAudit

structure IntendedRoute where
  key : RouteKey
  interfaces : List String
  nexthops : List Address
  deriving DecidableEq, Repr

namespace IntendedRoute

def name (r : IntendedRoute) : String := r.key.text

/-- Whether no next hop says where to go: there is none, or all are the unspecified
address. -/
def hasUnspecifiedNexthop (r : IntendedRoute) : Bool :=
  r.nexthops.all Address.isUnspecified

/-!
# Rows

Interfaces and next hops are comma-separated lists.  A next hop that is no address is left
out with a warning.
-/

def itemsOf (row : Row) (field : String) : List (List Char) :=
  match row.field? field with
  | some value => Text.items value.toList
  | none => []

def nexthop? (k : RouteKey) (item : List Char) : Logged (Option Address) :=
  match Address.ofChars? item with
  | some a => pure (some a)
  | none =>
      ⟨none, [.warn "Ignoring unparsable next-hop"
        [("route", k.text), ("nexthop", .text (String.ofList item))]]⟩

def ofRow (k : RouteKey) (row : Row) : Logged IntendedRoute := do
  let nexthops ← Logged.filterMap (nexthop? k) (itemsOf row "nexthop")
  return ⟨k, (itemsOf row "ifname").map String.ofList, nexthops⟩

/-- The route of a row of the route table, if its key names a destination. -/
def ofTableRow (row : Row) : Logged (Option IntendedRoute) := do
  match ← TableKey.parseRoute row.key with
  | none => return none
  | some k => return some (← ofRow k row)

end IntendedRoute

/-- Intended routes by their destination; of several rows for one the last counts. -/
abbrev Routes := Ascending IntendedRoute IntendedRoute.name

namespace Routes

def route? (routes : Routes) (k : RouteKey) : Option IntendedRoute :=
  routes.items.find? fun r => r.key = k

def keys (routes : Routes) : List RouteKey := routes.items.map IntendedRoute.key

end Routes

structure Snapshot where
  routes : Routes
  interfaces : KeySet
  programmed : KeySet

end RouteAudit
