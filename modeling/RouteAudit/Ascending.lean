/-!
# Ascending collections

Everything the checker compares is kept in ascending order of a text: route keys by
their written form, database rows by their key, outcomes by their namespace.  A
collection is a list whose names strictly ascend, so an item is found at one place and
the order in which items arrive leaves no trace.
-/

namespace RouteAudit

structure Ascending (α : Type) (name : α → String) where
  items : List α
  ascending : items.Pairwise fun a b => name a < name b

/-- Rows and fields: values under a text. -/
abbrev Table (α : Type) := Ascending (String × α) Prod.fst

namespace Ascending

variable {α : Type} {name : α → String}

instance : Inhabited (Ascending α name) := ⟨⟨[], List.Pairwise.nil⟩⟩

def empty : Ascending α name := ⟨[], List.Pairwise.nil⟩

instance : Membership α (Ascending α name) := ⟨fun s a => a ∈ s.items⟩

theorem mem_items {s : Ascending α name} {a : α} : a ∈ s ↔ a ∈ s.items := Iff.rfl

/-!
# Order on texts

Texts are ordered by their characters; of two texts one comes first or they are equal.
-/

theorem lt_of_not_lt_of_ne {s t : String} (hlt : ¬ s < t) (hne : s ≠ t) : t < s := by
  by_cases h : t < s
  · exact h
  · exact absurd (String.le_antisymm (String.not_lt.mp h) (String.not_lt.mp hlt)) hne

/-!
# Writing

`put` files an item under its name and replaces the item that stood there.
-/

def putItem (name : α → String) (a : α) : List α → List α
  | [] => [a]
  | b :: rest =>
      if name a < name b then a :: b :: rest
      else if name a = name b then a :: rest
      else b :: putItem name a rest

theorem mem_putItem {a c : α} {items : List α} (h : c ∈ putItem name a items) :
    c = a ∨ c ∈ items := by
  induction items with
  | nil => simp_all [putItem]
  | cons b rest ih =>
      simp only [putItem] at h
      split at h
      · simpa using h
      · split at h
        · rcases List.mem_cons.mp h with h | h
          · exact Or.inl h
          · exact Or.inr (List.mem_cons_of_mem _ h)
        · rcases List.mem_cons.mp h with h | h
          · exact Or.inr (h ▸ List.mem_cons_self)
          · exact (ih h).imp id (List.mem_cons_of_mem _)

theorem pairwise_putItem (a : α) {items : List α}
    (h : items.Pairwise fun a b => name a < name b) :
    (putItem name a items).Pairwise fun a b => name a < name b := by
  induction items with
  | nil => simp [putItem]
  | cons b rest ih =>
      obtain ⟨hb, hrest⟩ := List.pairwise_cons.mp h
      simp only [putItem]
      split
      · rename_i hab
        refine List.pairwise_cons.mpr ⟨?_, h⟩
        intro c hc
        rcases List.mem_cons.mp hc with rfl | hc
        · exact hab
        · exact String.lt_trans hab (hb c hc)
      · rename_i hab
        split
        · rename_i heq
          refine List.pairwise_cons.mpr ⟨?_, hrest⟩
          intro c hc
          rw [heq]
          exact hb c hc
        · rename_i hne
          refine List.pairwise_cons.mpr ⟨?_, ih hrest⟩
          intro c hc
          rcases mem_putItem hc with rfl | hc
          · exact lt_of_not_lt_of_ne hab hne
          · exact hb c hc

def put (s : Ascending α name) (a : α) : Ascending α name :=
  ⟨putItem name a s.items, pairwise_putItem a s.ascending⟩

/-- Files items one after another; of several with one name the last stays. -/
def ofList (items : List α) : Ascending α name :=
  items.foldl put empty

def union (s t : Ascending α name) : Ascending α name :=
  t.items.foldl put s

/-!
# Reading and removing
-/

def find? (s : Ascending α name) (key : String) : Option α :=
  s.items.find? fun a => name a = key

def has (s : Ascending α name) (key : String) : Bool :=
  s.items.any fun a => name a = key

def filter (s : Ascending α name) (p : α → Bool) : Ascending α name :=
  ⟨s.items.filter p, s.ascending.sublist List.filter_sublist⟩

def erase (s : Ascending α name) (key : String) : Ascending α name :=
  s.filter fun a => name a ≠ key

def size (s : Ascending α name) : Nat := s.items.length

def isEmpty (s : Ascending α name) : Bool := s.items.isEmpty

def names (s : Ascending α name) : List String := s.items.map name

theorem mem_filter {s : Ascending α name} {p : α → Bool} {a : α} :
    a ∈ s.filter p ↔ a ∈ s ∧ p a = true := by
  simp [mem_items, filter]

end Ascending

namespace Table

variable {α : Type}

def get? (t : Table α) (key : String) : Option α :=
  (t.find? key).map Prod.snd

def set (t : Table α) (key : String) (value : α) : Table α :=
  t.put (key, value)

end Table
end RouteAudit
