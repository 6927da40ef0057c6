import RouteAudit.Proofs.Pattern.Enclosed.Sets

/-!
# Brackets in front of a closing parenthesis

No set is closed behind the pattern, so where a set is still open at its end both readings fail.
-/

namespace RouteAudit
namespace Pattern
namespace Reader

variable {pre : Cursor → Prop}

/-!
# Sets inside a set
-/

/-- The rounds left for a set in both readings: each takes two for every character. -/
structure SetRoom (n i : Nat) (c : Cursor) : Prop where
  left : 2 * c.text.length < n
  left' : 2 * (c.text.length + 2) < i

/-- The rounds left for what is listed in a set. -/
structure ListRoom (n i : Nat) (c : Cursor) : Prop where
  left : 2 * c.text.length + 1 < n
  left' : 2 * (c.text.length + 2) + 1 < i

section

variable {n i : Nat} {c d : Cursor}

theorem SetRoom.listed (h : SetRoom (n + 1) (i + 1) c)
    (hshorter : d.text.length < c.text.length) : ListRoom n i d :=
  ⟨by have := h.left; omega, by have := h.left'; omega⟩

theorem ListRoom.of_suffix (h : ListRoom n i c) (hsuffix : d.text <:+ c.text) : ListRoom n i d := by
  have hlength := hsuffix.length_le
  exact ⟨by have := h.left; omega, by have := h.left'; omega⟩

theorem ListRoom.set (h : ListRoom (n + 1) (i + 1) c) : SetRoom n i c :=
  ⟨by have := h.left; omega, by have := h.left'; omega⟩

end

end Reader
end Pattern
end RouteAudit
