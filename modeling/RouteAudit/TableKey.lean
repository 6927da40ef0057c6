import RouteAudit.Database
import RouteAudit.LogEvent
import RouteAudit.Mac
import RouteAudit.RouteKey

/-!
# Keys of the tables

Each table spells destinations in a way of its own: behind the name of a routing
instance, behind an interface with a mask, behind a virtual network.  This module turns
the keys of all of them into route keys.  The keys stand without their table.
-/

namespace RouteAudit
namespace TableKey

def afterColon? (key : String) : Option (List Char) :=
  (Text.cut ':' key.toList).map Prod.snd

/-!
# Intended routes

A key that starts with `Vrf` carries the name of a routing instance up to its first
colon.  Link-local destinations never reach the hardware and are left out.
-/

def routeChars? (key : String) : Option (List Char) :=
  if (Text.after? "Vrf".toList key.toList).isSome then afterColon? key else some key.toList

def parseRoute (key : String) : Logged (Option RouteKey) :=
  match routeChars? key with
  | none => pure none
  | some text =>
      match RouteKey.ofChars? text with
      | some k => pure (if k.isLinkLocal then none else some k)
      | none => ⟨none, [.warn "Skipping unparsable ROUTE_TABLE key" [("key", .text key)]]⟩

/-!
# Interface addresses

The address of an interface is programmed as a host route, whatever its mask.  The
management port and the container bridge are never programmed.
-/

def unprogrammedInterfaces : List (List Char) :=
  ["eth0".toList, "docker0".toList]

/-- The host key of the address in front of a mask. -/
def hostBeforeMask? (text : List Char) : Option RouteKey :=
  (Address.ofChars? (Text.head '/' text)).map RouteKey.host

def parseInterface (key : String) : Logged (Option RouteKey) :=
  match Text.cut ':' key.toList with
  | none => pure none
  | some (interface, address) =>
      if interface ∈ unprogrammedInterfaces then
        pure none
      else
        match hostBeforeMask? address with
        | some k => pure (if k.isLinkLocal then none else some k)
        | none => ⟨none, [.warn "Skipping unparsable INTF_TABLE key" [("key", .text key)]]⟩

/-!
# Auxiliary tables

Keys of these tables that name no destination are passed over in silence.
-/

/-- The destination of a virtual network's route. -/
def vnetRoute? (key : String) : Option RouteKey := do
  let text ← afterColon? key
  RouteKey.ofChars? text

/-- The host key of a neighbor. -/
def neighbor? (key : String) : Option RouteKey := do
  let text ← afterColon? key
  (Address.ofChars? text).map RouteKey.host

/-- The host key of a cable's address, which is programmed whatever mask it carries. -/
def cableAddress? (value : String) : Option RouteKey :=
  hostBeforeMask? (Text.trim value.toList)

end TableKey
end RouteAudit
