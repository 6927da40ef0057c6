import RouteAudit.Proofs.Text.Pieces

/-!
# Lists in text

A text is a list of items if commas part it into pieces that are blank or hold one item, with
blanks around it.  Every text is such a list, of exactly one sequence of items, and that is the
one that is read from it.
-/

namespace RouteAudit
namespace Text

variable {text piece rest : List Char} {found more : List (List Char)}

/-- An item neither starts nor ends with a blank; there may be blanks inside it. -/
structure IsItem (item : List Char) : Prop where
  nonempty : item ≠ []
  undivided : ',' ∉ item
  head : ∀ c ∈ item.head?, isBlank c = false
  last : ∀ c ∈ item.getLast?, isBlank c = false

/-- What stands between two commas is blank or one item with blanks around it. -/
inductive Entry : List Char → List (List Char) → Prop where
  | blank {piece : List Char} : (∀ c ∈ piece, isBlank c = true) → Entry piece []
  | item {before item after : List Char} : (∀ c ∈ before, isBlank c = true) →
      (∀ c ∈ after, isBlank c = true) → IsItem item → Entry (before ++ item ++ after) [item]

/-- A text lists the items of its pieces, in their order. -/
inductive Lists : List Char → List (List Char) → Prop where
  | last {piece : List Char} {found : List (List Char)} : Entry piece found → Lists piece found
  | more {piece rest : List Char} {found more : List (List Char)} : Entry piece found →
      Lists rest more → Lists (piece ++ ',' :: rest) (found ++ more)

/-!
# One piece
-/

theorem comma_not_mem_blanks (h : ∀ c ∈ text, isBlank c = true) : ',' ∉ text := by
  intro hc
  exact absurd (h ',' hc) (by decide)

theorem Entry.comma_not_mem (h : Entry piece found) : ',' ∉ piece := by
  cases h with
  | blank hblank =>
      exact comma_not_mem_blanks hblank
  | item hbefore hafter hitem =>
      rw [List.mem_append, List.mem_append, not_or, not_or]
      exact ⟨⟨comma_not_mem_blanks hbefore, hitem.undivided⟩, comma_not_mem_blanks hafter⟩

theorem Entry.filter_trim (h : Entry piece found) : [trim piece].filter (· ≠ []) = found := by
  cases h with
  | blank hblank =>
      have htrim : trim (piece ++ [] ++ []) = [] :=
        trim_padded hblank (by simp) (by simp) (by simp)
      rw [List.append_nil, List.append_nil] at htrim
      rw [htrim]
      rfl
  | item hbefore hafter hitem =>
      rw [trim_padded hbefore hafter hitem.head hitem.last]
      simp [hitem.nonempty]

theorem entry_trim (h : ',' ∉ piece) : Entry piece ([trim piece].filter (· ≠ [])) := by
  rcases eq_blanks_trim piece with ⟨before, after, hbefore, hafter, hpiece⟩
  by_cases htrim : trim piece = []
  · rw [htrim]
    apply Entry.blank
    intro c hc
    rw [hpiece, htrim, List.append_nil, List.mem_append] at hc
    cases hc with
    | inl hc => exact hbefore c hc
    | inr hc => exact hafter c hc
  · have hitem : IsItem (trim piece) := by
      refine ⟨htrim, ?_, isBlank_head?_trim piece, isBlank_getLast?_trim piece⟩
      intro hc
      apply h
      rw [hpiece, List.mem_append, List.mem_append]
      exact Or.inl (Or.inr hc)
    have hkept : [trim piece].filter (· ≠ []) = [trim piece] := by simp [htrim]
    have hentry := Entry.item hbefore hafter hitem
    rw [← hpiece] at hentry
    rw [hkept]
    exact hentry

/-!
# The whole list
-/

theorem items_of_comma_not_mem (h : ',' ∉ piece) : items piece = [trim piece].filter (· ≠ []) := by
  unfold items
  rw [pieces_of_not_mem h, List.map_singleton]

theorem items_append (h : ',' ∉ piece) (rest : List Char) :
    items (piece ++ ',' :: rest) = [trim piece].filter (· ≠ []) ++ items rest := by
  unfold items
  rw [pieces_append rest h, List.map_cons, ← List.filter_append]
  rfl

theorem lists_items (text : List Char) : Lists text (items text) := by
  have hjoin : ∀ ps : List (List Char), ps ≠ [] → (∀ p ∈ ps, ',' ∉ p) →
      Lists (join ',' ps) ((ps.map trim).filter (· ≠ [])) := by
    intro ps
    induction ps with
    | nil =>
        intro hne
        exact absurd rfl hne
    | cons p ps ih =>
        intro _ hp
        have hentry := entry_trim (hp p List.mem_cons_self)
        cases ps with
        | nil =>
            exact Lists.last hentry
        | cons q more =>
            have hmore := ih (by simp) fun r hr => hp r (List.mem_cons_of_mem p hr)
            have hall := Lists.more hentry hmore
            rw [← List.filter_append] at hall
            exact hall
  have htext := hjoin (pieces ',' text) (pieces_ne_nil ',' text) fun p => not_mem_of_mem_pieces
  rw [join_pieces] at htext
  exact htext

theorem lists_iff : Lists text found ↔ items text = found := by
  constructor
  · intro h
    induction h with
    | last hentry =>
        rw [items_of_comma_not_mem hentry.comma_not_mem, hentry.filter_trim]
    | more hentry _ ih =>
        rw [items_append hentry.comma_not_mem, hentry.filter_trim, ih]
  · rintro rfl
    exact lists_items text

end Text
end RouteAudit
