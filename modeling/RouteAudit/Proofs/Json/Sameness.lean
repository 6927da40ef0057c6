import RouteAudit.Json.Value

/-!
# Sameness of values

Values are the same if they are equal once every floating-point zero is written without a sign.
So sameness is an equivalence, although it is not equality.
-/

namespace RouteAudit

/-!
# Numbers
-/

def Binary64.unsigned (x : Binary64) : Binary64 :=
  if x.isZero then .zero false else x

theorem Binary64.same_iff {x y : Binary64} : x.same y = true ↔ x.unsigned = y.unsigned := by
  unfold same unsigned
  rw [Bool.or_eq_true, Bool.and_eq_true, beq_iff_eq]
  cases hx : x.isZero with
  | true =>
      cases hy : y.isZero with
      | true => simp
      | false =>
          have hne : x ≠ y := by
            rintro rfl
            rw [hx] at hy
            cases hy
          have hzero : Binary64.zero false ≠ y := by
            rintro rfl
            cases hy
          simp [hne, hzero]
  | false =>
      cases hy : y.isZero with
      | true =>
          have hne : x ≠ y := by
            rintro rfl
            rw [hx] at hy
            cases hy
          have hzero : x ≠ Binary64.zero false := by
            rintro rfl
            cases hx
          simp [hne, hzero]
      | false => simp

namespace Json

def Number.unsigned : Number → Number
  | .real x => .real x.unsigned
  | n => n

theorem Number.same_iff {m n : Number} : m.same n = true ↔ m.unsigned = n.unsigned := by
  cases m <;> cases n <;> simp [Number.same, Number.unsigned, Binary64.same_iff]

/-!
# Values
-/

mutual

/-- A value whose floating-point zeros have no sign. -/
def unsigned : Json → Json
  | .number n => .number n.unsigned
  | .array items => .array (unsignedItems items)
  | .object fields => .object (unsignedFields fields)
  | value => value

def unsignedItems : List Json → List Json
  | [] => []
  | x :: xs => unsigned x :: unsignedItems xs

def unsignedFields : List (String × Json) → List (String × Json)
  | [] => []
  | (name, x) :: xs => (name, unsigned x) :: unsignedFields xs

end

mutual

theorem same_iff_unsigned_eq (a b : Json) : same a b = true ↔ unsigned a = unsigned b := by
  cases a with
  | array xs =>
      cases b with
      | array ys => simpa [same, unsigned] using sameItems_iff_unsigned_eq xs ys
      | _ => simp [same, unsigned]
  | object xs =>
      cases b with
      | object ys => simpa [same, unsigned] using sameFields_iff_unsigned_eq xs ys
      | _ => simp [same, unsigned]
  | number m => cases b <;> simp [same, unsigned, Number.same_iff]
  | _ => cases b <;> simp [same, unsigned]

theorem sameItems_iff_unsigned_eq (xs ys : List Json) :
    sameItems xs ys = true ↔ unsignedItems xs = unsignedItems ys := by
  cases xs with
  | nil => cases ys <;> simp [sameItems, unsignedItems]
  | cons x xs =>
      cases ys with
      | nil => simp [sameItems, unsignedItems]
      | cons y ys =>
          rw [sameItems, unsignedItems, unsignedItems, Bool.and_eq_true, List.cons.injEq,
            same_iff_unsigned_eq x y, sameItems_iff_unsigned_eq xs ys]

theorem sameFields_iff_unsigned_eq (xs ys : List (String × Json)) :
    sameFields xs ys = true ↔ unsignedFields xs = unsignedFields ys := by
  cases xs with
  | nil => cases ys <;> simp [sameFields, unsignedFields]
  | cons x xs =>
      cases ys with
      | nil => simp [sameFields, unsignedFields]
      | cons y ys =>
          rcases x with ⟨m, x⟩
          rcases y with ⟨n, y⟩
          rw [sameFields, unsignedFields, unsignedFields, Bool.and_eq_true, Bool.and_eq_true,
            List.cons.injEq, Prod.mk.injEq, beq_iff_eq, same_iff_unsigned_eq x y,
            sameFields_iff_unsigned_eq xs ys]

end

theorem unsignedFields_eq_map (fields : List (String × Json)) :
    unsignedFields fields = fields.map fun f => (f.1, f.2.unsigned) := by
  induction fields with
  | nil => rfl
  | cons f fields ih =>
      rw [unsignedFields, ih]
      rfl

theorem same_symm {a b : Json} (h : same a b = true) : same b a = true := by
  rw [same_iff_unsigned_eq] at h ⊢
  exact h.symm

end Json
end RouteAudit
