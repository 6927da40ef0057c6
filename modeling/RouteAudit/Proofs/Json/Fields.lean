import RouteAudit.Proofs.Json.Sameness
import Mathlib.Data.List.Induction

/-!
# Fields of objects

Fields that are put into an object are found under their names, and objects that are the same have
the same fields.
-/

namespace RouteAudit
namespace Json

variable {name other : String} {value : Json} {fields : List (String × Json)}

theorem field?_cons : (object ((other, value) :: fields)).field? name =
    if other = name then some value else (object fields).field? name := by
  unfold field?
  by_cases h : other = name <;> simp [h]

theorem field?_putField_self : (object (putField name value fields)).field? name = some value := by
  induction fields with
  | nil => rw [putField, field?_cons, if_pos rfl]
  | cons f fields ih =>
      rcases f with ⟨n, v⟩
      rw [putField]
      split_ifs with hlt heq
      · rw [field?_cons, if_pos rfl]
      · rw [field?_cons, if_pos rfl]
      · rw [field?_cons, if_neg (Ne.symm heq), ih]

theorem field?_putField_of_ne (h : other ≠ name) :
    (object (putField name value fields)).field? other = (object fields).field? other := by
  induction fields with
  | nil => rw [putField, field?_cons, if_neg (Ne.symm h)]
  | cons f fields ih =>
      rcases f with ⟨n, v⟩
      rw [putField]
      split_ifs with hlt heq
      · rw [field?_cons, if_neg (Ne.symm h)]
      · rw [field?_cons, field?_cons, ← heq, if_neg (Ne.symm h), if_neg (Ne.symm h)]
      · rw [field?_cons, field?_cons, ih]

/-- Fields of different names are all found. -/
theorem field?_ofFields_eq_some_iff (hnodup : (fields.map Prod.fst).Nodup) :
    (ofFields fields).field? name = some value ↔ (name, value) ∈ fields := by
  unfold ofFields
  induction fields using List.reverseRecOn with
  | nil => exact iff_of_false (fun h => nomatch h) List.not_mem_nil
  | append_singleton fields f ih =>
      rcases f with ⟨n, v⟩
      rw [List.map_append, List.nodup_append] at hnodup
      rw [List.foldl_append, List.foldl_cons, List.foldl_nil, List.mem_append, List.mem_singleton,
        Prod.mk.injEq]
      by_cases hname : name = n
      · subst hname
        have hnone : (name, value) ∉ fields := by
          intro hmem
          exact hnodup.2.2 _ (List.mem_map_of_mem hmem) _ (List.mem_singleton_self _) rfl
        rw [field?_putField_self, Option.some.injEq]
        constructor
        · intro h
          exact Or.inr ⟨rfl, h.symm⟩
        · intro h
          exact (h.resolve_left hnone).2.symm
      · rw [field?_putField_of_ne hname, ih hnodup.1]
        constructor
        · exact Or.inl
        · intro h
          exact h.resolve_right fun heq => hname heq.1

theorem exists_field?_of_sameFields {xs ys : List (String × Json)} {x : Json}
    (h : sameFields xs ys = true) (hx : (object xs).field? name = some x) :
    exists y, (object ys).field? name = some y ∧ same x y = true := by
  induction xs generalizing ys with
  | nil => cases hx
  | cons f xs ih =>
      rcases f with ⟨m, u⟩
      cases ys with
      | nil => cases h
      | cons g ys =>
          rcases g with ⟨n, v⟩
          simp only [sameFields, Bool.and_eq_true, beq_iff_eq] at h
          rcases h with ⟨⟨rfl, huv⟩, hrest⟩
          rw [field?_cons] at hx ⊢
          split_ifs at hx ⊢ with hm
          · cases hx
            exact ⟨v, rfl, huv⟩
          · exact ih hrest hx

/-- Values that are the same have the same fields. -/
theorem exists_field?_of_same {a b x : Json} (h : same a b = true) (hx : a.field? name = some x) :
    exists y, b.field? name = some y ∧ same x y = true := by
  cases a with
  | object xs =>
      cases b with
      | object ys =>
          rw [same] at h
          exact exists_field?_of_sameFields h hx
      | _ => cases h
  | _ => cases hx

end Json
end RouteAudit
