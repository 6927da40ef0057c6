import RouteAudit.Change
import RouteAudit.Database
import RouteAudit.Json.Reader
import RouteAudit.Json.Writer
import RouteAudit.LogEvent

/-!
# Route entries of the hardware

The hardware's routes are filed under keys that hold a JSON object with the destination.
This module writes such keys, reads the destination out of them, and reads the
notifications that the database sends when one of them changes.
-/

namespace RouteAudit
namespace RouteEntry

/-!
# Writing
-/

def object (destination : String) : Json :=
  Json.ofFields [("dest", .string destination), ("switch_id", .string "oid:0x21000000000000"),
    ("vr", .string "oid:0x3000000000022")]

def keyOf (destination : String) : String :=
  Tables.routeEntryStart ++ (object destination).compact

/-!
# Reading the destination

The document is an object in which `dest` stands once, as a string, beside fields of any
other name, or an array of that one string.
-/

open Json.Reader in
def member? (text : List Char) : Option (List Char × List Char) :=
  match spaces text with
  | '"' :: rest => do
      let (name, rest) ← string? (rest.length + 1) rest
      match spaces rest with
      | ':' :: rest => some (name, rest)
      | _ => none
  | _ => none

open Json.Reader in
def quoted? (text : List Char) : Option (List Char × List Char) :=
  match spaces text with
  | '"' :: rest => string? (rest.length + 1) rest
  | _ => none

open Json.Reader in
/-- Reads fields up to the closing brace; `found` is the destination met so far. -/
def fields? : Nat → Option (List Char) → List Char → Option (List Char × List Char)
  | 0, _, _ => none
  | fuel + 1, found, text => do
      let (name, rest) ← member? text
      let (found, rest) ←
        if name = "dest".toList then
          if found.isSome then
            none
          else
            (quoted? rest).map fun (dest, rest) => (some dest, rest)
        else
          (skipValue? (2 * rest.length + 1) rest).map fun rest => (found, rest)
      match spaces rest with
      | '}' :: rest => found.map fun dest => (dest, rest)
      | ',' :: rest => fields? fuel found rest
      | _ => none

open Json.Reader in
def document? (text : List Char) : Option (List Char × List Char) :=
  match spaces text with
  | '{' :: rest =>
      match spaces rest with
      | '}' :: _ => none
      | rest => fields? (rest.length + 1) none rest
  | '[' :: rest => do
      let (dest, rest) ← quoted? rest
      match spaces rest with
      | ']' :: rest => some (dest, rest)
      | _ => none
  | _ => none

def destination? (text : List Char) : Option String := do
  let (dest, rest) ← document? text
  if Json.Reader.spaces rest = [] then some (String.ofList dest) else none

/-!
# Reading keys

A key of another table is passed over in silence; one without a readable destination is
passed over with a warning.
-/

def parseKey (key : String) : Logged (Option RouteKey) :=
  match Text.after? Tables.routeEntryStart.toList key.toList with
  | none => pure none
  | some text =>
      match destination? text with
      | none => ⟨none, [.warn "Skipping malformed ASIC route entry key" [("key", .text key)]]⟩
      | some dest =>
          match RouteKey.parse? dest with
          | some k => pure (some k)
          | none =>
              ⟨none, [.warn "Skipping ASIC route entry with bad destination"
                [("key", .text key), ("dest", dest)]]⟩

/-- A key whose route the hardware holds; link-local routes never count. -/
def parseProgrammed (key : String) : Logged (Option RouteKey) := do
  let k ← parseKey key
  return k.filter fun k => !k.isLinkLocal

/-!
# Notifications

A notification names a channel, which ends in the key, and the operation on that key.
-/

def channelMark : List Char := "__:".toList

/-- What follows the first mark of a channel's name. -/
def afterMark? : List Char → Option (List Char)
  | [] => none
  | c :: rest =>
      match Text.after? channelMark (c :: rest) with
      | some key => some key
      | none => afterMark? rest

def operationKind? (operation : String) : Option ChangeKind :=
  if operation = "hset" ∨ operation = "hmset" ∨ operation = "hsetnx" then some .add
  else if operation = "del" then some .remove
  else none

def parseNotification (channel operation : String) : Logged (Option Change) :=
  match afterMark? channel.toList with
  | none => pure none
  | some key => do
      let key := String.ofList key
      match ← parseProgrammed key with
      | none => return none
      | some k =>
          match operationKind? operation with
          | some kind => return some ⟨kind, k⟩
          | none =>
              if operation ≠ "expire" then
                Logged.note (.warn "Ignoring unexpected keyspace operation"
                  [("operation", .text operation), ("key", .text key)])
              return none

end RouteEntry
end RouteAudit
