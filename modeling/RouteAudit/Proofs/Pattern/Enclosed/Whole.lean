import RouteAudit.Proofs.Pattern.Enclosed.Groups

/-!
# A whole pattern in front of a closing parenthesis
-/

namespace RouteAudit
namespace Pattern
namespace Reader

variable {pre : Cursor → Prop}

/-!
# Single characters
-/

/-- A group, or a setting for the rest of the group that it stands in. -/
def group (n : Nat) (sequences pieces : List Piece) : Reader Piece := do
  let outer ← flags
  match ← opening with
  | .setting f =>
      setFlags f
      body n sequences (.setting :: pieces)
  | .group f =>
      setFlags f
      let inner ← body n [] []
      if ← isAt ')' then
        bump
        setFlags outer
        body n sequences (.item inner.expr (inner.nesting + 1) :: pieces)
      else
        fail

/-- A reader returns whatever another one returns. -/
def Extends {α : Type} (m m' : Reader α) : Prop := ∀ c r, m c = some r → m' c = some r

namespace Extends

variable {α β : Type} {m m' : Reader α} {k k' : α → Reader β}

theorem refl (m : Reader α) : Extends m m := fun _ _ h => h

theorem bind (hm : Extends m m') (hk : ∀ a, Extends (k a) (k' a)) :
    Extends (m >>= k) (m' >>= k') := by
  rintro c ⟨b, e⟩ h
  rcases bind_eq_some.mp h with ⟨a, d, hd, he⟩
  exact bind_eq_some.mpr ⟨a, d, hm c (a, d) hd, hk a d (b, e) he⟩

end Extends

end Reader
end Pattern
end RouteAudit
