import RouteAudit.Proofs.Ascending.Members
import RouteAudit.Proofs.RouteKey.Canonical
import RouteAudit.Route

/-!
# Sets of route keys

Texts tell keys apart, so a set of keys holds what was put into it, whatever the order and
however often.
-/

namespace RouteAudit

namespace RouteKey

theorem text_injective_function : Function.Injective RouteKey.text :=
  fun _ _ h => text_injective h

theorem compare_lt_iff {k l : RouteKey} : compare k l = .lt ↔ k.text < l.text :=
  compareOfLessAndEq_eq_lt

instance : Std.TransCmp (compare : RouteKey → RouteKey → Ordering) :=
  inferInstanceAs (Std.TransCmp (compareOn RouteKey.text))

instance : Std.LawfulEqCmp (compare : RouteKey → RouteKey → Ordering) where
  compare_self := compare_eq_iff.mpr rfl
  eq_of_compare := compare_eq_iff.mp

end RouteKey

namespace KeySet

theorem mem_ofList {keys : List RouteKey} {k : RouteKey} :
    k ∈ (Ascending.ofList keys : KeySet) ↔ k ∈ keys :=
  Ascending.mem_ofList RouteKey.text_injective_function

theorem mem_union {s t : KeySet} {k : RouteKey} : k ∈ s.union t ↔ k ∈ s ∨ k ∈ t := by
  unfold Ascending.union
  rw [Ascending.mem_foldl_put RouteKey.text_injective_function, Or.comm]
  rfl

theorem contains_iff {s : KeySet} {k : RouteKey} : s.contains k = true ↔ k ∈ s := by
  unfold contains
  rw [List.contains_iff_mem]
  rfl

theorem ofList_congr {keys others : List RouteKey} (h : ∀ k, k ∈ keys ↔ k ∈ others) :
    (.ofList keys : KeySet) = .ofList others := by
  apply Ascending.eq_of_mem_iff
  intro k
  rw [mem_ofList, mem_ofList, h]

theorem contains_ofList {keys : List RouteKey} {k : RouteKey} :
    contains (.ofList keys) k = true ↔ k ∈ keys := by
  rw [contains_iff, mem_ofList]

end KeySet

/-!
# Changes

Of the changes that were recorded only the keys and their kinds count.
-/

namespace Drained

def ofChanges (changes : List Change) : Drained :=
  changes.foldl record empty

theorem mem_adds_foldl {changes : List Change} {d : Drained} {k : RouteKey} :
    k ∈ (changes.foldl record d).adds ↔ k ∈ d.adds ∨ ⟨.add, k⟩ ∈ changes := by
  induction changes generalizing d with
  | nil => simp
  | cons c rest ih =>
      rw [List.foldl_cons, ih, List.mem_cons]
      rcases c with ⟨kind, l⟩
      cases kind with
      | add =>
          have hput : k ∈ (d.record ⟨.add, l⟩).adds ↔ k = l ∨ k ∈ d.adds :=
            Ascending.mem_put_of_injective RouteKey.text_injective_function
          rw [hput]
          simp only [Change.mk.injEq, true_and]
          tauto
      | remove =>
          have hsame : (d.record ⟨.remove, l⟩).adds = d.adds := rfl
          rw [hsame]
          simp

theorem mem_removes_foldl {changes : List Change} {d : Drained} {k : RouteKey} :
    k ∈ (changes.foldl record d).removes ↔ k ∈ d.removes ∨ ⟨.remove, k⟩ ∈ changes := by
  induction changes generalizing d with
  | nil => simp
  | cons c rest ih =>
      rw [List.foldl_cons, ih, List.mem_cons]
      rcases c with ⟨kind, l⟩
      cases kind with
      | add =>
          have hsame : (d.record ⟨.add, l⟩).removes = d.removes := rfl
          rw [hsame]
          simp
      | remove =>
          have hput : k ∈ (d.record ⟨.remove, l⟩).removes ↔ k = l ∨ k ∈ d.removes :=
            Ascending.mem_put_of_injective RouteKey.text_injective_function
          rw [hput]
          simp only [Change.mk.injEq, true_and]
          tauto

theorem mem_adds_ofChanges {changes : List Change} {k : RouteKey} :
    k ∈ (ofChanges changes).adds ↔ ⟨.add, k⟩ ∈ changes := by
  unfold ofChanges
  rw [mem_adds_foldl]
  constructor
  · intro hcases
    cases hcases with
    | inl h =>
        exact absurd h Ascending.not_mem_empty
    | inr h =>
        exact h
  · exact Or.inr

theorem mem_removes_ofChanges {changes : List Change} {k : RouteKey} :
    k ∈ (ofChanges changes).removes ↔ ⟨.remove, k⟩ ∈ changes := by
  unfold ofChanges
  rw [mem_removes_foldl]
  constructor
  · intro hcases
    cases hcases with
    | inl h =>
        exact absurd h Ascending.not_mem_empty
    | inr h =>
        exact h
  · exact Or.inr

/-- Neither the order of changes nor their repeats count. -/
theorem ofChanges_congr {changes others : List Change} (h : ∀ c, c ∈ changes ↔ c ∈ others) :
    ofChanges changes = ofChanges others := by
  have hadds : (ofChanges changes).adds = (ofChanges others).adds := by
    apply Ascending.eq_of_mem_iff
    intro k
    rw [mem_adds_ofChanges, mem_adds_ofChanges, h]
  have hremoves : (ofChanges changes).removes = (ofChanges others).removes := by
    apply Ascending.eq_of_mem_iff
    intro k
    rw [mem_removes_ofChanges, mem_removes_ofChanges, h]
  calc ofChanges changes = ⟨(ofChanges changes).adds, (ofChanges changes).removes⟩ := rfl
    _ = ofChanges others := by rw [hadds, hremoves]

end Drained

/-!
# Routes
-/

namespace Routes

theorem route?_eq_find? (routes : Routes) (k : RouteKey) :
    routes.route? k = routes.find? k.text := by
  unfold route? Ascending.find?
  congr
  funext r
  exact decide_eq_decide.mpr RouteKey.text_eq_iff.symm

theorem route?_eq_some_iff {routes : Routes} {k : RouteKey} {r : IntendedRoute} :
    routes.route? k = some r ↔ r ∈ routes ∧ r.key = k := by
  rw [route?_eq_find?, Ascending.find?_eq_some_iff]
  exact and_congr_right fun _ => RouteKey.text_eq_iff

/-- Of several routes to one destination the last is found. -/
theorem route?_ofList (found : List IntendedRoute) (k : RouteKey) :
    route? (.ofList found) k = (found.filter fun r => r.key = k).getLast? := by
  rw [route?_eq_find?, Ascending.find?_ofList]
  congr
  funext r
  exact decide_eq_decide.mpr RouteKey.text_eq_iff

theorem pairwise_keys (routes : Routes) : routes.keys.Pairwise fun k l => k.text < l.text :=
  List.pairwise_map.mpr routes.ascending

theorem mem_keys {routes : Routes} {k : RouteKey} :
    k ∈ routes.keys ↔ exists r, r ∈ routes ∧ r.key = k :=
  List.mem_map

theorem mem_keys_iff_route? {routes : Routes} {k : RouteKey} :
    k ∈ routes.keys ↔ exists r, routes.route? k = some r := by
  simp only [mem_keys, route?_eq_some_iff]

end Routes
end RouteAudit
