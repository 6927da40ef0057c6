import RouteAudit.Pattern.Reader
import RouteAudit.Proofs.Pattern.Enclosed.Brackets

/-!
# Groups and repetitions in front of a closing parenthesis
-/

namespace RouteAudit
namespace Pattern
namespace Reader

variable {pre : Cursor → Prop}

/-!
# Flags
-/

end Reader
end Pattern
end RouteAudit
