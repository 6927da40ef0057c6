import RouteAudit.Program
import RouteAudit.Settings.Basic

/-!
# The routing daemon's view

The routing daemon marks a route as offloaded once the hardware has confirmed it.  A
selected route that stays without the mark over several reads is stuck.  A read is a list
of route records, which are JSON values.
-/

namespace RouteAudit
namespace ControlPlane

/-!
# Records

The daemon prints one object whose fields are destinations, each with its records.
-/

def recordsOf : Json → List Json
  | .array records => records
  | other => [other]

def flatten : Json → List Json
  | .object fields => fields.flatMap fun f => recordsOf f.2
  | _ => []

def textField (name byDefault : String) (record : Json) : String :=
  ((record.field? name).bind Json.asText?).getD byDefault

def flagField (name : String) (record : Json) : Bool :=
  ((record.field? name).bind Json.asBool?).getD false

/-- Whether a record is a selected route of the default instance that is not offloaded. -/
def isPending (record : Json) : Bool :=
  textField "vrfName" "default" record == "default" &&
    (record.field? "protocol").bind Json.asText? == some "bgp" &&
    flagField "selected" record && !flagField "offloaded" record

def pending (records : List Json) : List Json :=
  records.filter isPending

/-!
# Stuck routes

Records of different reads are compared without their uptime.  A read keeps the pending
records that some record kept by the read before it equals; once nothing is kept, no
further read is made.
-/

def stableForm (record : Json) : Json := record.withoutField "uptime"

def isAmong (previous : List Json) (record : Json) : Bool :=
  previous.any fun p => (stableForm p).same (stableForm record)

/-- The records that a read keeps. -/
def keep (previous : Option (List Json)) (records : List Json) : List Json :=
  match previous with
  | none => pending records
  | some previous => (pending records).filter (isAmong previous)

def waitBefore (settings : DaemonSettings) (attempt : Nat) : Program Unit :=
  if 1 < attempt then Program.request (.pause settings.retryWaitMillis .controlPlane)
  else return ()

/-- Makes up to `left` further reads, the next of which has the number `attempt`. -/
def reads (daemon : Nat) (settings : DaemonSettings) :
    Nat → Nat → Option (List Json) → Program (List Json)
  | 0, _, previous => do
      let stuck := previous.getD []
      Program.log (.warn "Routes pending in FRR on every read" [("count", toString stuck.length)])
      return stuck
  | left + 1, attempt, previous => do
      waitBefore settings attempt
      let records ← Program.request (.fetch daemon)
      let kept := keep previous records
      Program.log (.debug "FRR read"
        [("attempt", toString attempt), ("pending", toString kept.length)])
      if kept.isEmpty then
        Program.log (.info "No routes pending in FRR" [])
        return kept
      else
        reads daemon settings left (attempt + 1) (some kept)

def checkPending (daemon : Nat) (settings : DaemonSettings) : Program (List Json) :=
  Program.within ⟨"check_pending", [("retries", toString settings.retries)]⟩
    (reads daemon settings (max settings.retries 1) 1 none)

/-!
# When to ask

The daemon waits for the hardware only where the device metadata says so.
-/

def isSuppressing (metadata : Fields) : Bool :=
  metadata.get? "suppress-fib-pending" == some "enabled"

def suppressing (site : String) : Program Bool := do
  let metadata ← Program.entry site .config Tables.deviceMetadata Tables.localhost
  return isSuppressing metadata

end ControlPlane
end RouteAudit
