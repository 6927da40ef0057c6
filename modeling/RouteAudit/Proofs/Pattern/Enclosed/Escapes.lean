import RouteAudit.Pattern.Escape
import RouteAudit.Proofs.Pattern.Enclosed.Steps

/-!
# Escapes in front of a closing parenthesis
-/

namespace RouteAudit
namespace Pattern
namespace Reader

variable {pre : Cursor → Prop} {n : Nat}

end Reader
end Pattern
end RouteAudit
