import RouteAudit.Text.Split
import Mathlib.Data.List.TakeWhile

/-!
# Pieces of joined text

Pieces without a separator are found again in the text that joins them, and a text in
which no blank stands is left as it is by trimming.
-/

namespace RouteAudit
namespace Text

variable {sep : Char}

theorem pieces_of_not_mem {text : List Char} (h : sep ∉ text) : pieces sep text = [text] := by
  induction text with
  | nil => rfl
  | cons c rest ih =>
      simp only [List.mem_cons, not_or] at h
      simp [pieces, Ne.symm h.1, ih h.2]

theorem pieces_append {piece : List Char} (rest : List Char) (h : sep ∉ piece) :
    pieces sep (piece ++ sep :: rest) = piece :: pieces sep rest := by
  induction piece with
  | nil => simp [pieces]
  | cons c piece ih =>
      simp only [List.mem_cons, not_or] at h
      simp [pieces, Ne.symm h.1, ih h.2]

theorem pieces_join {ps : List (List Char)} (hne : ps ≠ []) (h : ∀ p ∈ ps, sep ∉ p) :
    pieces sep (join sep ps) = ps := by
  induction ps with
  | nil => exact absurd rfl hne
  | cons p ps ih =>
      have hp : sep ∉ p := h p List.mem_cons_self
      cases ps with
      | nil => exact pieces_of_not_mem hp
      | cons q more =>
          rw [join, pieces_append _ hp,
            ih (by simp) fun r hr => h r (List.mem_cons_of_mem p hr)]
          simp

theorem mem_join {c : Char} {ps : List (List Char)} (h : c ∈ join sep ps) :
    c = sep ∨ ∃ p ∈ ps, c ∈ p := by
  induction ps with
  | nil => simp [join] at h
  | cons p ps ih =>
      cases ps with
      | nil => exact Or.inr ⟨p, List.mem_cons_self, h⟩
      | cons q more =>
          simp only [join, List.mem_append, List.mem_cons] at h
          rcases h with h | h | h
          · exact Or.inr ⟨p, List.mem_cons_self, h⟩
          · exact Or.inl h
          · rcases ih h with h | ⟨r, hr, hc⟩
            · exact Or.inl h
            · exact Or.inr ⟨r, List.mem_cons_of_mem p hr, hc⟩

theorem not_mem_of_mem_pieces {text piece : List Char} (h : piece ∈ pieces sep text) :
    sep ∉ piece := by
  induction text generalizing piece with
  | nil =>
      rw [pieces, List.mem_singleton] at h
      simp [h]
  | cons c rest ih =>
      rw [pieces] at h
      split_ifs at h with hc
      · rcases List.mem_cons.mp h with rfl | h
        · exact List.not_mem_nil
        · exact ih h
      · cases hrest : pieces sep rest with
        | nil => exact absurd hrest (pieces_ne_nil sep rest)
        | cons first more =>
            rw [hrest] at h ih
            rcases List.mem_cons.mp h with rfl | h
            · rw [List.mem_cons, not_or]
              exact ⟨Ne.symm hc, ih List.mem_cons_self⟩
            · exact ih (List.mem_cons_of_mem first h)

theorem cut_eq_none_iff {text : List Char} : cut sep text = none ↔ sep ∉ text := by
  constructor
  · intro hcut hsep
    induction text with
    | nil => exact absurd hsep List.not_mem_nil
    | cons c rest ih =>
        rw [cut] at hcut
        split at hcut
        · cases hcut
        · rename_i hne
          rcases List.mem_cons.mp hsep with heq | hrest
          · exact hne heq.symm
          · exact ih (Option.map_eq_none_iff.mp hcut) hrest
  · intro hsep
    cases hcut : cut sep text with
    | none => rfl
    | some parts =>
        rw [(cut_eq_some hcut).1] at hsep
        exact absurd (List.mem_append_right _ List.mem_cons_self) hsep

/-!
# Heads
-/

theorem head_of_not_mem {chars : List Char} (h : sep ∉ chars) : head sep chars = chars := by
  unfold head
  rw [List.takeWhile_eq_self_iff]
  intro c hc
  have hne : c ≠ sep := fun heq => h (heq ▸ hc)
  simp [hne]

theorem head_append {chars : List Char} (h : sep ∉ chars) (more : List Char) :
    head sep (chars ++ sep :: more) = chars := by
  unfold head
  rw [List.takeWhile_append_of_pos]
  · simp
  · intro c hc
    have hne : c ≠ sep := fun heq => h (heq ▸ hc)
    simp [hne]

theorem head_cases (sep : Char) (chars : List Char) : head sep chars = chars ∨
    exists more, chars = head sep chars ++ sep :: more := by
  have hparts : head sep chars ++ chars.dropWhile (· ≠ sep) = chars :=
    List.takeWhile_append_dropWhile
  cases hrest : chars.dropWhile (· ≠ sep) with
  | nil =>
      rw [hrest, List.append_nil] at hparts
      exact Or.inl hparts
  | cons c more =>
      have hnot := List.head?_dropWhile_not (· ≠ sep) chars
      rw [hrest, List.head?_cons] at hnot
      have hc : c = sep := by simpa using hnot
      rw [hrest, hc] at hparts
      exact Or.inr ⟨more, hparts.symm⟩

/-!
# Known beginnings
-/

theorem after?_eq_some_iff {start text rest : List Char} :
    after? start text = some rest ↔ text = start ++ rest := by
  unfold after?
  constructor
  · intro h
    split at h
    · rename_i hprefix
      cases h
      exact (List.prefix_iff_eq_append.mp (List.isPrefixOf_iff_prefix.mp hprefix)).symm
    · cases h
  · rintro rfl
    rw [if_pos (List.isPrefixOf_iff_prefix.mpr (List.prefix_append start rest)), List.drop_left]

/-!
# Blanks
-/

theorem dropWhile_isBlank_eq_self {text : List Char} (h : ∀ c ∈ text.head?, isBlank c = false) :
    text.dropWhile isBlank = text := by
  cases text with
  | nil => rfl
  | cons c rest =>
      rw [List.dropWhile_cons_of_neg]
      simp [h c rfl]

/-- Trimming drops the blanks around a text that neither starts nor ends with one. -/
theorem trim_padded {before text after : List Char} (hbefore : ∀ c ∈ before, isBlank c = true)
    (hafter : ∀ c ∈ after, isBlank c = true) (hhead : ∀ c ∈ text.head?, isBlank c = false)
    (hlast : ∀ c ∈ text.getLast?, isBlank c = false) : trim (before ++ text ++ after) = text := by
  have hstart : ∀ rest : List Char, (before ++ rest).dropWhile isBlank = rest.dropWhile isBlank :=
    fun rest => List.dropWhile_append_of_pos hbefore
  have hend : (after.reverse ++ text.reverse).dropWhile isBlank = text.reverse := by
    rw [List.dropWhile_append_of_pos fun c hc => hafter c (List.mem_reverse.mp hc)]
    apply dropWhile_isBlank_eq_self
    rw [List.head?_reverse]
    exact hlast
  unfold trim trimEnd trimStart
  rw [List.append_assoc, hstart]
  cases text with
  | nil =>
      have hnil : (after ++ []).dropWhile isBlank = [] := List.dropWhile_append_of_pos hafter
      rw [List.append_nil] at hnil
      rw [List.nil_append, hnil]
      rfl
  | cons c rest =>
      rw [List.cons_append, List.dropWhile_cons_of_neg (by simp [hhead c rfl]),
        ← List.cons_append, List.reverse_append, hend, List.reverse_reverse]

theorem trim_blanks {before text after : List Char} (hbefore : ∀ c ∈ before, isBlank c = true)
    (htext : ∀ c ∈ text, isBlank c = false) (hafter : ∀ c ∈ after, isBlank c = true) :
    trim (before ++ text ++ after) = text :=
  trim_padded hbefore hafter (fun c hc => htext c (List.mem_of_mem_head? hc))
    fun c hc => htext c (List.mem_of_mem_getLast? hc)

theorem isBlank_head?_dropWhile (text : List Char) :
    ∀ c ∈ (text.dropWhile isBlank).head?, isBlank c = false := by
  intro c hc
  have hnot := List.head?_dropWhile_not isBlank text
  rw [Option.mem_def.mp hc] at hnot
  exact hnot

theorem isBlank_getLast?_trim (text : List Char) :
    ∀ c ∈ (trim text).getLast?, isBlank c = false := by
  unfold trim trimEnd
  rw [List.getLast?_reverse]
  exact isBlank_head?_dropWhile _

theorem trimEnd_append_cons {c : Char} (h : isBlank c = false) (front rest : List Char) :
    trimEnd (front ++ c :: rest) = front ++ c :: trimEnd rest := by
  have hkept : (c :: front.reverse).dropWhile isBlank = c :: front.reverse :=
    List.dropWhile_cons_of_neg (by simp [h])
  have hsplit : (front ++ c :: rest).reverse = rest.reverse ++ c :: front.reverse := by simp
  unfold trimEnd
  rw [hsplit, List.dropWhile_append, hkept]
  split
  · rename_i hblank
    rw [List.isEmpty_iff.mp hblank]
    simp
  · simp

/-- Trimming reaches no further than the first character of a text without blanks in front. -/
theorem trim_append_cons {c : Char} {front : List Char} {rest : List Char}
    (hfront : ∀ d ∈ front, isBlank d = false) (hc : isBlank c = false) :
    trim (front ++ c :: rest) = front ++ c :: trimEnd rest := by
  have hhead : ∀ d ∈ (front ++ c :: rest).head?, isBlank d = false := by
    intro d hd
    cases front with
    | nil =>
        cases hd
        exact hc
    | cons e front =>
        cases hd
        exact hfront d List.mem_cons_self
  unfold trim trimStart
  rw [dropWhile_isBlank_eq_self hhead]
  exact trimEnd_append_cons hc front rest

/-- Only blanks are trimmed. -/
theorem eq_blanks_trim (text : List Char) :
    exists before after, (∀ c ∈ before, isBlank c = true) ∧ (∀ c ∈ after, isBlank c = true) ∧
      text = before ++ trim text ++ after := by
  have hstart : text.takeWhile isBlank ++ trimStart text = text :=
    List.takeWhile_append_dropWhile
  have hend : trim text ++ ((trimStart text).reverse.takeWhile isBlank).reverse =
      trimStart text := by
    unfold trim trimEnd
    rw [← List.reverse_append, List.takeWhile_append_dropWhile, List.reverse_reverse]
  refine ⟨text.takeWhile isBlank, ((trimStart text).reverse.takeWhile isBlank).reverse, ?_, ?_, ?_⟩
  · intro c hc
    exact List.mem_takeWhile_imp hc
  · intro c hc
    exact List.mem_takeWhile_imp (List.mem_reverse.mp hc)
  · rw [List.append_assoc, hend, hstart]

theorem isBlank_head?_trim (text : List Char) : ∀ c ∈ (trim text).head?, isBlank c = false := by
  intro c hc
  have hprefix : trim text <+: trimStart text := by
    unfold trim trimEnd
    rw [← List.reverse_suffix, List.reverse_reverse]
    exact List.dropWhile_suffix _
  cases htrim : trim text with
  | nil =>
      rw [htrim] at hc
      cases hc
  | cons d rest =>
      rw [htrim] at hc hprefix
      rcases hprefix with ⟨more, hmore⟩
      apply isBlank_head?_dropWhile text
      rw [trimStart] at hmore
      rw [← hmore]
      exact hc

theorem trim_of_no_blank {text : List Char} (h : ∀ c ∈ text, isBlank c = false) :
    trim text = text := by
  have hnone : ∀ c ∈ ([] : List Char), isBlank c = true := by simp
  simpa using trim_blanks hnone h hnone

end Text
end RouteAudit
