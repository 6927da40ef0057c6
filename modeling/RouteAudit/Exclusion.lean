import RouteAudit.LocalInterfaces
import RouteAudit.Route

/-!
# Exclusions

Some mismatches are expected.  A rule names one kind of them: it says for which devices it
is active and which keys it holds benign.  The rules are applied one after another, each to
the keys that the ones before it left.
-/

namespace RouteAudit
namespace Exclusion

/-- What the rules consult. -/
structure Context where
  routes : Routes
  locals : LocalInterfaces
  fabricStart : String
  vnetRoutes : KeySet
  dualTor : Bool
  standbyNeighbors : KeySet
  cableAddresses : KeySet

structure Rule where
  name : String
  isActive : Context → Bool
  isBenign : Context → RouteKey → Bool

/-!
# The six rules

Routes over local interfaces; hosts in the fabric of a chassis; default routes; routes of
virtual networks; and on dual top-of-rack devices neighbors behind the standby tunnel and
the addresses of smart cables.
-/

def localInterface : Rule where
  name := "local-interface"
  isActive _ := true
  isBenign ctx k :=
    match ctx.routes.route? k with
    | none => false
    | some r =>
        r.interfaces.any ctx.locals.isManagement ||
          (r.hasUnspecifiedNexthop && r.interfaces.any ctx.locals.isLoopbackStyle)

def startsWith (start text : String) : Bool :=
  start.toList.isPrefixOf text.toList

def fabricNeighbor : Rule where
  name := "fabric-neighbor"
  isActive ctx := !ctx.fabricStart.isEmpty
  isBenign ctx k :=
    k.isHost &&
      match ctx.routes.route? k with
      | none => false
      | some r =>
          !r.nexthops.isEmpty && r.hasUnspecifiedNexthop &&
            r.interfaces.any (startsWith ctx.fabricStart)

def defaultRoute : Rule where
  name := "default-route"
  isActive _ := true
  isBenign _ k := k.isDefaultRoute

def vnetRoute : Rule where
  name := "vnet-route"
  isActive _ := true
  isBenign ctx k := ctx.vnetRoutes.contains k

def standbyNeighbor : Rule where
  name := "standby-neighbor"
  isActive ctx := ctx.dualTor
  isBenign ctx k := k.isHost && ctx.standbyNeighbors.contains k

def cableAddress : Rule where
  name := "soc-address"
  isActive ctx := ctx.dualTor && !ctx.cableAddresses.isEmpty
  isBenign ctx k := ctx.cableAddresses.contains k

def standard : List Rule :=
  [localInterface, fabricNeighbor, defaultRoute, vnetRoute, standbyNeighbor, cableAddress]

def rule? (name : String) : Option Rule :=
  standard.find? fun r => r.name = name

/-!
# Application
-/

/-- Whether a rule takes a key out. -/
def Rule.excludes (r : Rule) (ctx : Context) (k : RouteKey) : Bool :=
  r.isActive ctx && r.isBenign ctx k

def Rule.event (r : Rule) (k : RouteKey) : LogEvent :=
  .debug "Excluded" [("stage", .text r.name), ("key", k.text)]

def Rule.apply (r : Rule) (ctx : Context) (candidates : KeySet) : Logged KeySet :=
  ⟨candidates.filter fun k => !r.excludes ctx k,
    (candidates.items.filter (r.excludes ctx)).map r.event⟩

def applyAll (rules : List Rule) (ctx : Context) (candidates : KeySet) : Logged KeySet :=
  match rules with
  | [] => pure candidates
  | r :: rest => do
      let left ← r.apply ctx candidates
      applyAll rest ctx left

/-- Applies all rules and says how many keys there were and how many are left. -/
def apply (rules : List Rule) (ctx : Context) (candidates : KeySet) : Logged KeySet := do
  let left ← applyAll rules ctx candidates
  Logged.note (.debug "Exclusion pipeline applied"
    [("before", toString candidates.size), ("after", toString left.size)])
  return left

end Exclusion
end RouteAudit
