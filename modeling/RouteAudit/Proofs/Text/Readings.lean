import Mathlib.Data.List.Forall2

/-!
# Readings of lists

A list is read item by item.  It has a reading if every item has one, and what is read are the
readings of the items in their order.
-/

namespace RouteAudit

variable {α β : Type} {R : α → β → Prop} {f : α → Option β} {items : List α} {found : List β}

/-!
# Items and what stands in their places
-/

theorem exists_getElem?_of_forall₂ (h : List.Forall₂ R items found) {i : Nat} {a : α}
    (ha : items[i]? = some a) : exists b, found[i]? = some b ∧ R a b := by
  rcases List.getElem?_eq_some_iff.mp ha with ⟨hi, rfl⟩
  have hfound : i < found.length := h.length_eq ▸ hi
  exact ⟨found[i], List.getElem?_eq_getElem hfound, h.get hi hfound⟩

theorem exists_mem_of_forall₂ (h : List.Forall₂ R items found) {a : α} (ha : a ∈ items) :
    exists b, b ∈ found ∧ R a b := by
  rcases List.getElem?_of_mem ha with ⟨i, hi⟩
  rcases exists_getElem?_of_forall₂ h hi with ⟨b, hb, hR⟩
  exact ⟨b, List.mem_of_getElem? hb, hR⟩

/-!
# Readings
-/

theorem mapM_eq_some_iff :
    items.mapM f = some found ↔ List.Forall₂ (fun a b => f a = some b) items found := by
  induction items generalizing found with
  | nil =>
      rw [List.mapM_nil, List.forall₂_nil_left_iff]
      exact Option.some_inj.trans eq_comm
  | cons a rest ih =>
      rw [List.mapM_cons, List.forall₂_cons_left_iff]
      constructor
      · intro h
        cases ha : f a with
        | none => simp [ha] at h
        | some b =>
            cases hrest : rest.mapM f with
            | none => simp [ha, hrest] at h
            | some bs =>
                have hfound : b :: bs = found := by simpa [ha, hrest] using h
                exact ⟨b, bs, rfl, ih.mp hrest, hfound.symm⟩
      · intro h
        rcases h with ⟨b, bs, ha, hrest, rfl⟩
        simp [ha, ih.mpr hrest]

theorem forall_of_mapM_eq_some (h : items.mapM f = some found) : ∀ a ∈ items, (f a).isSome := by
  intro a ha
  rcases exists_mem_of_forall₂ (mapM_eq_some_iff.mp h) ha with ⟨b, _, hread⟩
  exact Option.isSome_of_eq_some hread

theorem exists_mapM_eq_some (h : ∀ a ∈ items, (f a).isSome) :
    exists found, items.mapM f = some found := by
  induction items with
  | nil => exact ⟨[], rfl⟩
  | cons a rest ih =>
      rcases Option.isSome_iff_exists.mp (h a List.mem_cons_self) with ⟨b, hb⟩
      rcases ih fun c hc => h c (List.mem_cons_of_mem a hc) with ⟨bs, hbs⟩
      exact ⟨b :: bs, mapM_eq_some_iff.mpr (.cons hb (mapM_eq_some_iff.mp hbs))⟩

theorem mapM_map_of_inverse {g : β → Option α} {f : α → β} (h : ∀ a, g (f a) = some a)
    (items : List α) : (items.map f).mapM g = some items := by
  rw [mapM_eq_some_iff, List.forall₂_map_left_iff, List.forall₂_same]
  exact fun a _ => h a

end RouteAudit
