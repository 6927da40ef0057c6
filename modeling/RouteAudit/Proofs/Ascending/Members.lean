import RouteAudit.Ascending
import Mathlib.Data.List.Induction
import Mathlib.Data.List.Nodup
import Mathlib.Data.List.Sort
import Mathlib.Logic.Function.Defs

/-!
# Members of ascending collections

What a collection holds after items were filed, and which item stands under a name.  Where
names tell items apart, a collection made of a list holds exactly the items of the list.
-/

namespace RouteAudit
namespace Ascending

variable {α : Type} {name : α → String}

instance [DecidableEq α] (a : α) (s : Ascending α name) : Decidable (a ∈ s) :=
  inferInstanceAs (Decidable (a ∈ s.items))

/-!
# Filing
-/

theorem ne_of_name_lt {a b : α} (h : name a < name b) : name a ≠ name b := by
  intro heq
  rw [heq] at h
  exact String.lt_irrefl _ h

theorem mem_putItem_iff {a c : α} {items : List α}
    (h : items.Pairwise fun a b => name a < name b) :
    c ∈ putItem name a items ↔ c = a ∨ (c ∈ items ∧ name c ≠ name a) := by
  induction items with
  | nil => simp [putItem]
  | cons b rest ih =>
      rcases List.pairwise_cons.mp h with ⟨hb, hrest⟩
      unfold putItem
      by_cases hab : name a < name b
      · have hne : ∀ d ∈ b :: rest, name d ≠ name a := by
          intro d hd
          rcases List.mem_cons.mp hd with rfl | hd
          · exact (ne_of_name_lt hab).symm
          · exact (ne_of_name_lt (String.lt_trans hab (hb d hd))).symm
        rw [if_pos hab, List.mem_cons]
        constructor
        · intro hcases
          cases hcases with
          | inl hc =>
              exact Or.inl hc
          | inr hc =>
              exact Or.inr ⟨hc, hne c hc⟩
        · intro hcases
          rcases hcases with hc | ⟨hc, _⟩
          · exact Or.inl hc
          · exact Or.inr hc
      · rw [if_neg hab]
        by_cases heq : name a = name b
        · have hne : ∀ d ∈ rest, name d ≠ name a := by
            intro d hd
            rw [heq]
            exact (ne_of_name_lt (hb d hd)).symm
          rw [if_pos heq, List.mem_cons, List.mem_cons]
          constructor
          · intro hcases
            cases hcases with
            | inl hc =>
                exact Or.inl hc
            | inr hc =>
                exact Or.inr ⟨Or.inr hc, hne c hc⟩
          · intro hcases
            rcases hcases with hc | ⟨rfl | hc, hname⟩
            · exact Or.inl hc
            · exact absurd heq.symm hname
            · exact Or.inr hc
        · rw [if_neg heq, List.mem_cons, ih hrest, List.mem_cons]
          constructor
          · intro hcases
            rcases hcases with rfl | hc | ⟨hc, hname⟩
            · exact Or.inr ⟨Or.inl rfl, Ne.symm heq⟩
            · exact Or.inl hc
            · exact Or.inr ⟨Or.inr hc, hname⟩
          · intro hcases
            rcases hcases with hc | ⟨hc | hc, hname⟩
            · exact Or.inr (Or.inl hc)
            · exact Or.inl hc
            · exact Or.inr (Or.inr ⟨hc, hname⟩)

theorem mem_put {s : Ascending α name} {a c : α} :
    c ∈ s.put a ↔ c = a ∨ (c ∈ s ∧ name c ≠ name a) :=
  mem_putItem_iff s.ascending

theorem not_mem_empty {c : α} : c ∉ (empty : Ascending α name) :=
  List.not_mem_nil

theorem mem_put_of_injective (hname : Function.Injective name) {s : Ascending α name} {a c : α} :
    c ∈ s.put a ↔ c = a ∨ c ∈ s := by
  rw [mem_put]
  constructor
  · intro hcases
    rcases hcases with hc | ⟨hc, _⟩
    · exact Or.inl hc
    · exact Or.inr hc
  · intro hcases
    cases hcases with
    | inl hc =>
        exact Or.inl hc
    | inr hc =>
        by_cases heq : c = a
        · exact Or.inl heq
        · exact Or.inr ⟨hc, fun h => heq (hname h)⟩

theorem mem_foldl_put (hname : Function.Injective name) {items : List α}
    {s : Ascending α name} {c : α} : c ∈ items.foldl put s ↔ c ∈ items ∨ c ∈ s := by
  induction items generalizing s with
  | nil => simp
  | cons a rest ih =>
      rw [List.foldl_cons, ih, mem_put_of_injective hname, List.mem_cons]
      constructor
      · intro hcases
        rcases hcases with hc | hc | hc
        · exact Or.inl (Or.inr hc)
        · exact Or.inl (Or.inl hc)
        · exact Or.inr hc
      · intro hcases
        rcases hcases with (hc | hc) | hc
        · exact Or.inr (Or.inl hc)
        · exact Or.inl hc
        · exact Or.inr (Or.inr hc)

theorem mem_of_mem_foldl_put {items : List α} {s : Ascending α name} {c : α}
    (h : c ∈ items.foldl put s) : c ∈ items ∨ c ∈ s := by
  induction items generalizing s with
  | nil => exact Or.inr h
  | cons a rest ih =>
      rw [List.foldl_cons] at h
      cases ih h with
      | inl hc =>
          exact Or.inl (List.mem_cons_of_mem a hc)
      | inr hc =>
          rcases mem_put.mp hc with rfl | ⟨hc, _⟩
          · exact Or.inl List.mem_cons_self
          · exact Or.inr hc

/-- Whatever the names, a collection holds items of the list it was made of. -/
theorem mem_of_mem_ofList {items : List α} {c : α}
    (h : c ∈ (ofList items : Ascending α name)) : c ∈ items := by
  cases mem_of_mem_foldl_put h with
  | inl hc =>
      exact hc
  | inr hc =>
      exact absurd hc not_mem_empty

theorem mem_ofList (hname : Function.Injective name) {items : List α} {c : α} :
    c ∈ (ofList items : Ascending α name) ↔ c ∈ items := by
  unfold ofList
  rw [mem_foldl_put hname]
  constructor
  · intro hcases
    cases hcases with
    | inl hc =>
        exact hc
    | inr hc =>
        exact absurd hc not_mem_empty
  · exact Or.inl

/-- Items under different names are all filed, whatever stood under these names before. -/
theorem mem_foldl_put_of_nodup {items : List α} {s : Ascending α name} {c : α}
    (hnodup : (items.map name).Nodup) :
    c ∈ items.foldl put s ↔ c ∈ items ∨ (c ∈ s ∧ ∀ a ∈ items, name c ≠ name a) := by
  induction items generalizing s with
  | nil => simp
  | cons a rest ih =>
      rw [List.map_cons, List.nodup_cons] at hnodup
      rcases hnodup with ⟨ha, hrest⟩
      rw [List.foldl_cons, ih hrest, mem_put, List.forall_mem_cons, List.mem_cons]
      constructor
      · intro hcases
        rcases hcases with hc | ⟨rfl | ⟨hc, hname⟩, hothers⟩
        · exact Or.inl (Or.inr hc)
        · exact Or.inl (Or.inl rfl)
        · exact Or.inr ⟨hc, hname, hothers⟩
      · intro hcases
        rcases hcases with (rfl | hc) | ⟨hc, hname, hothers⟩
        · refine Or.inr ⟨Or.inl rfl, fun b hb heq => ha ?_⟩
          rw [heq]
          exact List.mem_map_of_mem hb
        · exact Or.inl hc
        · exact Or.inr ⟨Or.inr ⟨hc, hname⟩, hothers⟩

/-- A collection made of items under different names holds just these. -/
theorem perm_ofList_of_nodup {items : List α} (hnodup : (items.map name).Nodup) :
    (ofList items : Ascending α name).items.Perm items := by
  have hitems : (ofList items : Ascending α name).items.Nodup := by
    apply (ofList items : Ascending α name).ascending.imp
    rintro a _ hlt rfl
    exact ne_of_name_lt hlt rfl
  apply (List.perm_ext_iff_of_nodup hitems (List.Nodup.of_map name hnodup)).mpr
  intro c
  rw [← mem_items, ofList, mem_foldl_put_of_nodup hnodup]
  exact or_iff_left fun hparts => not_mem_empty hparts.1

/-!
# Finding
-/

theorem eq_of_name_eq {s : Ascending α name} {a b : α} (ha : a ∈ s) (hb : b ∈ s)
    (h : name a = name b) : a = b := by
  have hsame : ∀ x ∈ s.items, ∀ y ∈ s.items, name x = name y → x = y :=
    fun x hx y hy => List.Pairwise.forall_of_forall_of_flip (R := fun x y => name x = name y → x = y)
      (fun _ _ _ => rfl)
      (s.ascending.imp fun hlt heq => absurd heq (ne_of_name_lt hlt))
      (s.ascending.imp fun hlt heq => absurd heq.symm (ne_of_name_lt hlt)) hx hy
  exact hsame a ha b hb h

theorem find?_eq_some_iff {s : Ascending α name} {key : String} {a : α} :
    s.find? key = some a ↔ a ∈ s ∧ name a = key := by
  unfold find?
  constructor
  · intro h
    exact ⟨List.mem_of_find?_eq_some h, by simpa using List.find?_some h⟩
  · intro hparts
    rcases hparts with ⟨ha, hkey⟩
    cases hfind : s.items.find? fun b => name b = key with
    | none => exact absurd hkey (by simpa using List.find?_eq_none.mp hfind a ha)
    | some b =>
        have hb : name b = key := by simpa using List.find?_some hfind
        rw [eq_of_name_eq (List.mem_of_find?_eq_some hfind) ha (hb.trans hkey.symm)]

theorem find?_put_self {s : Ascending α name} {a : α} : (s.put a).find? (name a) = some a :=
  find?_eq_some_iff.mpr ⟨mem_put.mpr (Or.inl rfl), rfl⟩

theorem find?_put_of_ne {s : Ascending α name} {a : α} {key : String} (h : key ≠ name a) :
    (s.put a).find? key = s.find? key := by
  apply Option.ext
  intro c
  rw [find?_eq_some_iff, find?_eq_some_iff, mem_put]
  constructor
  · intro hparts
    rcases hparts with ⟨rfl | ⟨hc, _⟩, hkey⟩
    · exact absurd hkey.symm h
    · exact ⟨hc, hkey⟩
  · intro hparts
    rcases hparts with ⟨hc, rfl⟩
    exact ⟨Or.inr ⟨hc, h⟩, rfl⟩

theorem find?_erase_of_ne {s : Ascending α name} {key other : String} (h : other ≠ key) :
    (s.erase key).find? other = s.find? other := by
  apply Option.ext
  intro c
  rw [find?_eq_some_iff, find?_eq_some_iff]
  unfold erase
  rw [mem_filter]
  constructor
  · intro hparts
    exact ⟨hparts.1.1, hparts.2⟩
  · intro hparts
    rcases hparts with ⟨hc, rfl⟩
    exact ⟨⟨hc, decide_eq_true h⟩, rfl⟩

/-- Of several items with one name the last stays. -/
theorem find?_ofList (items : List α) (key : String) :
    (ofList items : Ascending α name).find? key =
      (items.filter fun a => name a = key).getLast? := by
  induction items using List.reverseRecOn with
  | nil => rfl
  | append_singleton rest a ih =>
      have hput : (ofList (rest ++ [a]) : Ascending α name) = (ofList rest).put a := by
        unfold ofList
        rw [List.foldl_append]
        rfl
      rw [hput, List.filter_append, List.getLast?_append]
      by_cases hkey : name a = key
      · rw [← hkey, find?_put_self]
        simp
      · rw [find?_put_of_ne (Ne.symm hkey), ih]
        simp [hkey]

theorem isEmpty_iff {s : Ascending α name} : s.isEmpty = true ↔ ∀ a, a ∉ s := by
  unfold isEmpty
  rw [List.isEmpty_iff, List.eq_nil_iff_forall_not_mem]
  rfl

/-- A collection is known by its members. -/
theorem eq_of_mem_iff {s t : Ascending α name} (h : ∀ a, a ∈ s ↔ a ∈ t) : s = t := by
  have hirrefl : Std.Irrefl fun a b : α => name a < name b := ⟨fun _ => String.lt_irrefl _⟩
  have hantisymm : Std.Antisymm fun a b : α => name a < name b :=
    ⟨fun _ _ hlt hgt => absurd hgt (String.lt_asymm hlt)⟩
  have hitems := List.Pairwise.eq_of_mem_iff s.ascending t.ascending h
  cases s
  cases t
  cases hitems
  rfl

end Ascending

/-!
# Tables
-/

namespace Table

variable {α : Type} {t : Table α} {key other : String} {value : α}

theorem get?_set_self : (t.set key value).get? key = some value := by
  unfold get? set
  rw [Ascending.find?_put_self (a := (key, value))]
  rfl

theorem get?_set_of_ne (h : other ≠ key) : (t.set key value).get? other = t.get? other := by
  unfold get? set
  rw [Ascending.find?_put_of_ne h]

theorem get?_erase_of_ne (h : other ≠ key) : get? (t.erase key) other = t.get? other := by
  unfold get?
  rw [Ascending.find?_erase_of_ne h]

end Table
end RouteAudit
