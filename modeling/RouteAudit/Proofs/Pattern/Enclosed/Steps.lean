import RouteAudit.Proofs.Pattern.Enclosed

/-!
# Steps in front of a closing parenthesis

What looks at the character at the cursor or passes it does the same in front of what closes the
pattern.  Only where nothing is left of the pattern the parenthesis behind it is met.
-/

namespace RouteAudit
namespace Pattern

variable {α β : Type} {pre : Cursor → Prop} {ahead : α → Cursor → Prop}
  {ahead' : β → Cursor → Prop}

/-!
# The character at the cursor
-/

namespace Drops

variable {k : α → Reader β} {n : Nat}

theorem char : Drops 0 Reader.char := by
  intro c x d h
  rcases Option.map_eq_some_iff.mp h with ⟨x, _, hc⟩
  cases hc
  exact List.suffix_refl _

theorem bump : Drops 1 Reader.bump := by
  rintro ⟨text, f, names⟩ a d ⟨⟩
  show text.tail <:+ text.drop 1
  rw [List.drop_one]

end Drops

namespace Tracks

variable {m m' : Reader α} {k k' : α → Reader β} {n i : Nat} {z z' : List Char}

theorem bump {ahead : Unit → Cursor → Prop} (hpre : ∀ c, pre c → c.text ≠ []) :
    Tracks 1 pre ahead Reader.bump Reader.bump := by
  refine ⟨Drops.bump, Drops.bump, ?_, fun c hc hend => absurd hend (hpre c hc)⟩
  rintro ⟨text, f, names⟩ hc
  cases text with
  | nil => exact absurd rfl (hpre _ hc)
  | cons x text => exact .both () ⟨text, f, names⟩

end Tracks

/-!
# Blanks
-/

namespace Reader

theorem dropBlanks_suffix (inComment : Bool) (text : List Char) :
    dropBlanks inComment text <:+ text := by
  induction text generalizing inComment with
  | nil => exact List.suffix_refl []
  | cons x text ih =>
      unfold dropBlanks
      split_ifs
      · exact (ih _).trans (List.suffix_cons x text)
      · exact (ih _).trans (List.suffix_cons x text)
      · exact (ih _).trans (List.suffix_cons x text)
      · exact List.suffix_refl _

/-- Blanks are dropped alike, unless what is pasted behind the text falls into a comment. -/
theorem dropBlanks_closing (inComment : Bool) (text : List Char) :
    dropBlanks inComment (text ++ closing) = dropBlanks inComment text ++ closing ∨
      dropBlanks inComment text = [] ∧ dropBlanks inComment (text ++ closing) = [] ∧
        (inComment = true ∧ '\n' ∉ text ∨ HasLastComment text) := by
  induction text generalizing inComment with
  | nil =>
      cases inComment with
      | true => exact Or.inr ⟨rfl, rfl, Or.inl ⟨rfl, List.not_mem_nil⟩⟩
      | false => exact Or.inl rfl
  | cons x text ih =>
      have htail : HasLastComment text → HasLastComment (x :: text) :=
        fun h => h.of_suffix (List.suffix_cons x text)
      rw [List.cons_append]
      unfold dropBlanks
      split_ifs with hcomment hblank hsign
      · rcases ih (x ≠ '\n') with hsame | ⟨hend, hend', hline | hlast⟩
        · exact Or.inl hsame
        · rw [decide_eq_true_eq] at hline
          have hlines : '\n' ∉ x :: text := by
            simpa [eq_comm] using hline
          exact Or.inr ⟨hend, hend', Or.inl ⟨hcomment, hlines⟩⟩
        · exact Or.inr ⟨hend, hend', Or.inr (htail hlast)⟩
      · rcases ih false with hsame | ⟨hend, hend', hline | hlast⟩
        · exact Or.inl hsame
        · cases hline.1
        · exact Or.inr ⟨hend, hend', Or.inr (htail hlast)⟩
      · rcases ih true with hsame | ⟨hend, hend', hline | hlast⟩
        · exact Or.inl hsame
        · rw [hsign]
          exact Or.inr ⟨hend, hend', Or.inr ⟨[], text, rfl, hline.2⟩⟩
        · exact Or.inr ⟨hend, hend', Or.inr (htail hlast)⟩
      · exact Or.inl rfl

theorem skip_run (c : Cursor) :
    skip c = some ((), { c with
      text := if c.flags.spaced then dropBlanks false c.text else c.text }) := by
  rcases c with ⟨text, f, names⟩
  unfold skip
  show (if f.spaced = true then _ else _ : Reader Unit) _ = _
  cases f.spaced <;> rfl

theorem skip_drops : Drops 0 skip := by
  intro c a d h
  rw [skip_run] at h
  cases h
  show (if c.flags.spaced = true then _ else _) <:+ _
  split_ifs
  · exact dropBlanks_suffix false c.text
  · exact List.suffix_refl _

end Reader

namespace Tracks

theorem skip {ahead : Unit → Cursor → Prop} : Tracks 0 pre ahead Reader.skip Reader.skip := by
  refine ⟨Reader.skip_drops, Reader.skip_drops, ?_, fun _ _ _ => rfl⟩
  rintro ⟨text, f, names⟩ _
  rw [Reader.skip_run, Reader.skip_run]
  cases hspaced : f.spaced with
  | true =>
      simp only [Cursor.enclosed, hspaced, if_true]
      rcases Reader.dropBlanks_closing false text with hsame | ⟨hend, hend', hline | hlast⟩
      · rw [hsame]
        exact .both () ⟨_, f, names⟩
      · cases hline.1
      · rw [hend, hend']
        exact .swallowed () _ rfl hlast
  | false =>
      simp only [Cursor.enclosed, hspaced, Bool.false_eq_true, if_false]
      exact .both () ⟨text, f, names⟩

theorem bumpSkip {ahead : Unit → Cursor → Prop} (hpre : ∀ c, pre c → c.text ≠ []) :
    Tracks 1 pre ahead Reader.bumpSkip Reader.bumpSkip :=
  (bump hpre).bind_never fun _ => skip

/-!
# Rules for what comes first
-/

end Tracks

/-!
# Braces
-/

namespace Reader

end Reader

end Pattern
end RouteAudit
