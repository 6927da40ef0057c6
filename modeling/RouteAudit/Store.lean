import RouteAudit.Change
import RouteAudit.RouteEntry

/-!
# Memory stores

A memory store holds the rows of the three databases, the changes that its next
subscriber will be told, and what disturbs readers: databases that refuse every access,
and a delay before keys are listed.  It keeps a list of the accesses it granted.

Times are in milliseconds.
-/

namespace RouteAudit

abbrev Time := Nat

/-!
# Feeds

A feed delivers changes at set times, in their order, and then stays silent, or at a set
time closes or breaks.  A broken feed fails at every further request, with a failure that is
its own: it never speaks of the stage of a cycle.
-/

abbrev FeedFailure := {f : Failure // f.stage? = none}

inductive FeedEnd where
  | silent
  | closes (time : Time)
  | breaks (time : Time) (failure : FeedFailure)
  deriving DecidableEq, Repr

structure Feed where
  events : List (Time × Change)
  ending : FeedEnd
  deriving DecidableEq, Repr

namespace FeedEnd

def brokenFailure : FeedFailure := ⟨.store "next_event" "feed broken", rfl⟩

/-- The end of a feed that closes as soon as it has no more changes. -/
def closed : FeedEnd := .closes 0

/-- The end of a feed that breaks as soon as it has no more changes. -/
def broken : FeedEnd := .breaks 0 brokenFailure

def isBroken : FeedEnd → Bool
  | .breaks _ _ => true
  | _ => false

/-- The same end for a subscriber at time `start`. -/
def startingAt (start : Time) : FeedEnd → FeedEnd
  | .silent => .silent
  | .closes time => .closes (start + time)
  | .breaks time failure => .breaks (start + time) failure

theorem isBroken_startingAt (start : Time) (e : FeedEnd) :
    (e.startingAt start).isBroken = e.isBroken := by
  cases e <;> rfl

end FeedEnd

namespace Feed

/-- Changes that are all there from the start, in a feed that then closes. -/
def ofChanges (changes : List Change) : Feed :=
  ⟨changes.map fun c => (0, c), .closed⟩

/-- The feed as it runs for a subscriber at time `start`. -/
def startingAt (start : Time) (feed : Feed) : Feed :=
  ⟨feed.events.map fun (at_, c) => (start + at_, c), feed.ending.startingAt start⟩

end Feed

structure Store where
  rows : Database → Table Fields
  /-- Changes kept for the next subscriber. -/
  scripted : List Change
  /-- A feed of set times that the next subscriber gets in their place. -/
  upcoming : Option Feed
  failing : List Database
  delay : Option Time
  accesses : List String

namespace Store

def empty : Store :=
  { rows := fun _ => .empty, scripted := [], upcoming := none, failing := [], delay := none,
    accesses := [] }

/-!
# Writing rows
-/

def withRows (s : Store) (db : Database) (f : Table Fields → Table Fields) : Store :=
  { s with rows := fun d => if d = db then f (s.rows d) else s.rows d }

def insert (s : Store) (db : Database) (key : String) (fields : List (String × String)) : Store :=
  s.withRows db fun rows => rows.set key (.ofList fields)

def remove (s : Store) (db : Database) (key : String) : Store :=
  s.withRows db fun rows => rows.erase key

def setField (s : Store) (db : Database) (key name value : String) : Store :=
  s.withRows db fun rows => rows.set key (((rows.get? key).getD .empty).set name value)

/-- The address family that a text belongs to, judged by its colons. -/
def familyOf (address : String) : String :=
  if ':' ∈ address.toList then "IPv6" else "IPv4"

def addRoute (s : Store) (destination interfaces nexthops : String) : Store :=
  s.insert .appl (Tables.route ++ ":" ++ destination)
    [("ifname", interfaces), ("nexthop", nexthops)]

def addInterface (s : Store) (interface address : String) : Store :=
  s.insert .appl (Tables.interface ++ ":" ++ interface ++ ":" ++ address)
    [("scope", "global"), ("family", familyOf address)]

def addProgrammed (s : Store) (destination : String) : Store :=
  s.insert .asic (RouteEntry.keyOf destination)
    [("SAI_ROUTE_ENTRY_ATTR_PACKET_ACTION", "SAI_PACKET_ACTION_FORWARD")]

def removeProgrammed (s : Store) (destination : String) : Store :=
  s.remove .asic (RouteEntry.keyOf destination)

def addVnetTunnel (s : Store) (vnet destination endpoint : String) : Store :=
  s.insert .appl (Tables.vnetTunnel ++ ":" ++ vnet ++ ":" ++ destination)
    [("endpoint", endpoint)]

def addVnetRoute (s : Store) (vnet destination interface : String) : Store :=
  s.insert .appl (Tables.vnetRoute ++ ":" ++ vnet ++ ":" ++ destination)
    [("ifname", interface)]

def metadataKey : String := Tables.deviceMetadata ++ "|" ++ Tables.localhost

def setMetadata (s : Store) (name value : String) : Store :=
  s.setField .config metadataKey name value

def addNeighbor (s : Store) (interface address mac : String) : Store :=
  s.insert .appl (Tables.neighbor ++ ":" ++ interface ++ ":" ++ address)
    [("neigh", mac), ("family", familyOf address)]

def addMuxCable (s : Store) (port address : String) : Store :=
  s.insert .config (Tables.muxCable ++ "|" ++ port) [("state", "auto"), ("soc_ipv4", address)]

/-!
# Disturbances
-/

def announce (s : Store) (c : Change) : Store :=
  { s with scripted := s.scripted ++ [c] }

def offer (s : Store) (feed : Feed) : Store :=
  { s with upcoming := some feed }

def fail (s : Store) (db : Database) : Store :=
  { s with failing := db :: s.failing }

def slow (s : Store) (delay : Time) : Store :=
  { s with delay := some delay }

def heal (s : Store) : Store :=
  { s with failing := [], delay := none }

/-!
# Reading

A pattern that ends in a star matches the keys that start with the rest of it, any other
pattern one key.
-/

def matchesPattern (pattern key : String) : Bool :=
  match pattern.toList.reverse with
  | '*' :: start => start.reverse.isPrefixOf key.toList
  | _ => key = pattern

def refused (s : Store) (db : Database) : Bool := s.failing.contains db

def refusal (db : Database) (operation : String) : Failure :=
  .store operation (db.name ++ " unavailable")

def keysOperation (db : Database) (pattern : String) : String :=
  "keys " ++ db.name ++ " " ++ pattern

def grant (s : Store) (operation : String) : Store :=
  { s with accesses := s.accesses ++ [operation] }

def keys (s : Store) (db : Database) (pattern : String) : List String :=
  (s.rows db).names.filter (matchesPattern pattern)

def fieldsOf (s : Store) (db : Database) (key : String) : Fields :=
  ((s.rows db).get? key).getD .empty

/-- Hands the kept changes to a subscriber. -/
def subscribe (s : Store) (now : Time) : Feed × Store :=
  let feed := (s.upcoming.getD (.ofChanges s.scripted)).startingAt now
  (feed, { s with scripted := [], upcoming := none })

def describe (s : Store) : String :=
  let rows := Database.all.foldl (fun n db => n + (s.rows db).size) 0
  "MemoryStore \x7b keys: " ++ toString rows ++ ", scripted: " ++ toString s.scripted.length
    ++ " \x7d"

end Store
end RouteAudit
