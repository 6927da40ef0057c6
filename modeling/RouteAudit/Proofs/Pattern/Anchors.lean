import RouteAudit.Proofs.Pattern.Enclosed.Whole
import RouteAudit.Proofs.Pattern.Language

/-!
# Patterns between anchors

A pattern is anchored by pasting its text between two others.  What is read then is the pattern
itself between two conditions on the place, unless the pattern closes a parenthesis that it does
not open or ends in a comment.  Whether an engine takes what is read is decided by the pasted text
as well.
-/

namespace RouteAudit
namespace Pattern

/-- The pattern at the start of a text, up to a parenthesis that it does not open, and the rest of
the text. -/
def reading (text : List Char) : Option (Piece × List Char) :=
  ((Reader.body (text.length + 1) [] []).run ⟨text, {}, []⟩).map fun (p, c) => (p, c.text)

theorem parse?_eq_some_iff {text : List Char} {e : Expr} :
    parse? text = some e ↔ exists p, reading text = some (p, []) ∧ p.nesting ≤ nestingLimit ∧
      p.expr = e := by
  unfold parse? reading
  rcases (Reader.body (text.length + 1) [] []).run ⟨text, {}, []⟩ with _ | ⟨p, c⟩
  · simp
  · simp only [Option.bind_some, Option.bind_eq_bind, Option.map_some,
      Option.ite_none_right_eq_some, Option.some.injEq, Prod.mk.injEq]
    constructor
    · rintro ⟨⟨hend, hnesting⟩, he⟩
      exact ⟨p, ⟨rfl, hend⟩, hnesting, he⟩
    · rintro ⟨_, ⟨rfl, hend⟩, hnesting, he⟩
      exact ⟨⟨hend, hnesting⟩, he⟩

namespace Reader

end Reader

variable {engine : Engine} {pattern : String}

namespace FitsAnchors

variable {p : Piece}

end FitsAnchors

/-- A pattern by itself that is refused, since its comment swallows the closing anchor. -/
example : (parse? "(?x)lo # any".toList).isSome = true ∧
    parse? (between "(?x)lo # any") = none :=
  ⟨rfl, rfl⟩

end Pattern
end RouteAudit
