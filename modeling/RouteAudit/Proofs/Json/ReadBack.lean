import RouteAudit.Json.Reader
import RouteAudit.Json.Writer
import RouteAudit.Proofs.Text.Numerals
import Mathlib.Data.List.Induction

/-!
# Written strings are read back

Whatever characters a string has, it is read again from its written form: quotes, backslashes
and control characters from their escapes, and all others from themselves.
-/

namespace RouteAudit
namespace Json
namespace Reader

variable {c : Char} {fuel n : Nat} {rest : List Char}

/-!
# Escapes
-/

theorem padded_of_lt (hn : n < 32) :
    Numeral.padded 16 4 n = ['0', '0', (n / 16).digitChar, (n % 16).digitChar] := by
  interval_cases n <;> decide

theorem hex4?_padded (hn : n < 32) (rest : List Char) :
    hex4? (Numeral.padded 16 4 n ++ rest) = some (n, rest) := by
  have hzero : Numeral.digit? 16 '0' = some 0 := by decide
  have hhigh : Numeral.digit? 16 (n / 16).digitChar = some (n / 16) :=
    Numeral.digit?_digitChar (by decide) (by omega)
  have hlow : Numeral.digit? 16 (n % 16).digitChar = some (n % 16) :=
    Numeral.digit?_digitChar (by decide) (by omega)
  have hback : ((0 * 16 + 0) * 16 + n / 16) * 16 + n % 16 = n := by omega
  rw [padded_of_lt hn]
  simp only [List.cons_append, List.nil_append, hex4?, hzero, hhigh, hlow, Option.bind_eq_bind,
    Option.bind_some, Option.pure_def, hback]

theorem unicodeEscape?_padded (hc : c.toNat < 32) (rest : List Char) :
    unicodeEscape? (Numeral.padded 16 4 c.toNat ++ rest) = some (c, rest) := by
  have hlow : ¬(0xDC00 ≤ c.toNat ∧ c.toNat ≤ 0xDFFF) := by omega
  have hhigh : ¬(0xD800 ≤ c.toNat ∧ c.toNat ≤ 0xDBFF) := by omega
  unfold unicodeEscape?
  rw [hex4?_padded hc]
  simp only [Option.bind_eq_bind, Option.bind_some, if_neg hlow, if_neg hhigh, Char.ofNat_toNat]

/-- A character that needs no escape is read as it stands. -/
theorem string?_plain (hquote : c ≠ '"') (hslash : c ≠ '\\') (hcontrol : ¬c.toNat < 0x20) :
    string? (fuel + 1) (c :: rest) =
      (string? fuel rest).bind fun (cs, rest) => some (c :: cs, rest) := by
  rw [string?.eq_def]
  split <;> simp_all

/-- One step of the fuel reads one character from its written form. -/
theorem string?_escapeChar (c : Char) :
    string? (fuel + 1) (escapeChar c ++ rest) =
      (string? fuel rest).bind fun (cs, rest) => some (c :: cs, rest) := by
  unfold escapeChar
  split_ifs with hquote hslash hback hfeed hline hreturn htab hcontrol
  · subst hquote
    rfl
  · subst hslash
    rfl
  · subst hback
    rfl
  · subst hfeed
    rfl
  · subst hline
    rfl
  · subst hreturn
    rfl
  · subst htab
    rfl
  · rw [List.cons_append, List.cons_append, string?, unicodeEscape?_padded hcontrol]
    rfl
  · exact string?_plain hquote hslash hcontrol

/-!
# Whole strings
-/

theorem string?_written {s : List Char} (hfuel : s.length < fuel) (rest : List Char) :
    string? fuel (s.flatMap escapeChar ++ '"' :: rest) = some (s, rest) := by
  induction s generalizing fuel with
  | nil =>
      cases fuel with
      | zero => exact absurd hfuel (Nat.lt_irrefl 0)
      | succ fuel => rfl
  | cons c s ih =>
      cases fuel with
      | zero => exact absurd hfuel (Nat.not_lt_zero _)
      | succ fuel =>
          rw [List.flatMap_cons, List.append_assoc, string?_escapeChar,
            ih (Nat.lt_of_succ_lt_succ hfuel)]
          rfl

theorem skipString?_escapeChar (c : Char) :
    skipString? (fuel + 1) (escapeChar c ++ rest) = skipString? fuel rest := by
  unfold escapeChar
  split_ifs with hquote hslash hback hfeed hline hreturn htab hcontrol
  · rfl
  · rfl
  · rfl
  · rfl
  · rfl
  · rfl
  · rfl
  · rw [List.cons_append, List.cons_append, skipString?, hex4?_padded hcontrol]
    rfl
  · rw [List.singleton_append, skipString?.eq_def]
    split <;> simp_all

theorem skipString?_written {s : List Char} (hfuel : s.length < fuel) (rest : List Char) :
    skipString? fuel (s.flatMap escapeChar ++ '"' :: rest) = some rest := by
  induction s generalizing fuel with
  | nil =>
      cases fuel with
      | zero => exact absurd hfuel (Nat.lt_irrefl 0)
      | succ fuel => rfl
  | cons c s ih =>
      cases fuel with
      | zero => exact absurd hfuel (Nat.not_lt_zero _)
      | succ fuel =>
          rw [List.flatMap_cons, List.append_assoc, skipString?_escapeChar]
          exact ih (Nat.lt_of_succ_lt_succ hfuel)

theorem length_le_written (s : List Char) : s.length ≤ (s.flatMap escapeChar).length := by
  have hpositive : ∀ c, 1 ≤ (escapeChar c).length := by
    intro c
    unfold escapeChar
    split_ifs <;> simp
  induction s with
  | nil => exact Nat.le_refl 0
  | cons c s ih =>
      have hc := hpositive c
      rw [List.flatMap_cons, List.length_append, List.length_cons]
      omega

/-!
# Quoted strings in a document
-/

theorem quote_append (s rest : List Char) :
    quote s ++ rest = '"' :: (s.flatMap escapeChar ++ '"' :: rest) := by
  simp [quote]

theorem spaces_of_not_isSpace (hc : isSpace c = false) : spaces (c :: rest) = c :: rest := by
  unfold spaces
  rw [List.dropWhile_cons_of_neg]
  simp [hc]

/-- The length of the text behind the opening quote is enough fuel. -/
theorem length_lt_quoted (s rest : List Char) :
    s.length < (s.flatMap escapeChar ++ '"' :: rest).length + 1 := by
  have hlength := length_le_written s
  rw [List.length_append]
  omega

theorem skipValue?_quote (s rest : List Char) :
    skipValue? (fuel + 1) (quote s ++ rest) = some rest := by
  rw [quote_append, skipValue?, spaces_of_not_isSpace rfl]
  exact skipString?_written (length_lt_quoted s rest) rest

end Reader

/-!
# Objects
-/

theorem putField_of_lt {name : String} {value : Json} {fields : List (String × Json)}
    (h : ∀ f ∈ fields, f.1 < name) : putField name value fields = fields ++ [(name, value)] := by
  induction fields with
  | nil => rfl
  | cons f fields ih =>
      rcases f with ⟨n, v⟩
      have hn : n < name := h _ List.mem_cons_self
      have hne : name ≠ n := by
        rintro rfl
        exact String.lt_irrefl _ hn
      rw [putField, if_neg (String.lt_asymm hn), if_neg hne,
        ih fun g hg => h g (List.mem_cons_of_mem _ hg)]
      rfl

/-- Fields in the order of their names stay as they are. -/
theorem ofFields_of_ascends {fields : List (String × Json)}
    (h : fields.Pairwise fun f g => f.1 < g.1) : ofFields fields = .object fields := by
  suffices hfold : fields.foldl (fun sorted f => putField f.1 f.2 sorted) [] = fields by
    exact congrArg Json.object hfold
  induction fields using List.reverseRecOn with
  | nil => rfl
  | append_singleton fields f ih =>
      rcases List.pairwise_append.mp h with ⟨hfields, _, hlast⟩
      rw [List.foldl_append, ih hfields, List.foldl_cons, List.foldl_nil]
      exact putField_of_lt fun g hg => hlast g hg f List.mem_cons_self

end Json
end RouteAudit
