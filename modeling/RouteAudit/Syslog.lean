import RouteAudit.LogEvent
import RouteAudit.Text.Split
import RouteAudit.Text.Utf8

/-!
# System log records

A log event that is mirrored to the system log arrives in pieces and is sent as one record.
Blanks at its end are dropped, and an event without anything else is not sent.
-/

namespace RouteAudit

structure SyslogRecord where
  priority : Nat
  tag : String
  message : String
  deriving DecidableEq, Repr

namespace SyslogRecord

/-- The number of the facility for user programs, shifted to its place. -/
def userFacility : Nat := 8

def severity : Level → Nat
  | .error => 3
  | .warn => 4
  | .info => 6
  | .debug | .trace => 7

/-- The record of an event; an event of no level counts as informational. -/
def ofPieces? (tag : String) (level : Option Level) (pieces : List Utf8.Octets) :
    Option SyslogRecord :=
  let message := Text.trimEnd (Utf8.decodeLossy pieces.flatten).toList
  if message = [] then none
  else some ⟨userFacility + severity (level.getD .info), tag, String.ofList message⟩

end SyslogRecord
end RouteAudit
