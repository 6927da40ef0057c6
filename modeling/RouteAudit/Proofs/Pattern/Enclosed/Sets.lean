import RouteAudit.Pattern.Bracket
import RouteAudit.Proofs.Pattern.Enclosed.Escapes
import Mathlib.Data.List.TakeWhile

/-!
# Sets in front of a closing parenthesis
-/

namespace RouteAudit
namespace Pattern

/-!
# What is looked at ahead
-/

namespace Reader

variable {pre : Cursor → Prop}

end Reader
end Pattern
end RouteAudit
