import RouteAudit.Text.Numeral
import RouteAudit.Text.Split
import Mathlib.Tactic.IntervalCases

/-!
# Written numbers are read back

A number is written in digits of a base up to sixteen.  Reading them gives the number
again, also behind a plus sign and behind any number of zeros.  None of the written
characters is a separator, a sign or a blank.
-/

namespace RouteAudit
namespace Numeral

variable {base limit n : Nat}

/-!
# Digits

The characters that numbers are written in, which end where the letters of base sixteen do.
-/

def written : List Char := "0123456789abcdef".toList

theorem digitChar_mem_written {d : Nat} (hd : d < 16) : d.digitChar ∈ written := by
  interval_cases d <;> decide

theorem digit?_digitChar {d : Nat} (hbase : base ≤ 16) (hd : d < base) :
    digit? base d.digitChar = some d := by
  have hlimit : d < 16 := by omega
  unfold digit?
  interval_cases d <;> simp [Nat.digitChar, hd]

theorem mem_written_of_mem_digits {c : Char} (hone : 1 < base) (hbase : base ≤ 16)
    (hc : c ∈ digits base n) : c ∈ written := by
  unfold digits at hc
  induction n using Nat.strongRecOn with
  | ind n ih =>
      by_cases hn : n < base
      · rw [Nat.toDigits_of_lt_base hn, List.mem_singleton] at hc
        rw [hc]
        exact digitChar_mem_written (by omega)
      · rw [Nat.toDigits_of_base_le hone (by omega)] at hc
        cases List.mem_append.mp hc with
        | inl hc =>
            exact ih (n / base) (Nat.div_lt_self (by omega) hone) hc
        | inr hc =>
            rw [List.mem_singleton] at hc
            rw [hc]
            have := Nat.mod_lt n (show 0 < base by omega)
            exact digitChar_mem_written (by omega)

theorem not_mem_digits {c : Char} (hone : 1 < base) (hbase : base ≤ 16) (hc : c ∉ written) :
    c ∉ digits base n :=
  fun h => hc (mem_written_of_mem_digits hone hbase h)

/-- Only zero starts with the digit zero. -/
theorem head?_digits_ne_zero (hone : 1 < base) (hn : 0 < n) :
    (digits base n).head? ≠ some '0' := by
  unfold digits
  induction n using Nat.strongRecOn with
  | ind n ih =>
      by_cases hlt : n < base
      · rw [Nat.toDigits_of_lt_base hlt]
        simp only [List.head?_cons, ne_eq, Option.some.injEq, Nat.digitChar_eq_zero]
        omega
      · rw [Nat.toDigits_of_base_le hone (by omega), List.head?_append]
        have hquot : 0 < n / base := Nat.div_pos (by omega) (by omega)
        cases hhead : (Nat.toDigits base (n / base)).head? with
        | none => exact absurd (List.head?_eq_none_iff.mp hhead) Nat.toDigits_ne_nil
        | some c =>
            have := ih (n / base) (Nat.div_lt_self (by omega) hone) hquot
            rw [hhead] at this
            simpa using this

/-!
# Reading

A number that is within the limit stays within it at each of its digits.
-/

theorem extend_digits (hone : 1 < base) (hbase : base ≤ 16) (hn : n ≤ limit)
    (rest : List Char) :
    extend base limit 0 (digits base n ++ rest) = extend base limit n rest := by
  unfold digits
  induction n using Nat.strongRecOn generalizing rest with
  | ind n ih =>
      by_cases hlt : n < base
      · rw [Nat.toDigits_of_lt_base hlt]
        simp [extend, digit?_digitChar hbase hlt, hn]
      · have hquot : n / base ≤ n := Nat.div_le_self n base
        have hrem : n % base < base := Nat.mod_lt n (by omega)
        have hback : n / base * base + n % base = n := Nat.div_add_mod' n base
        rw [Nat.toDigits_of_base_le hone (by omega), List.append_assoc,
          ih (n / base) (Nat.div_lt_self (by omega) hone) (by omega)]
        simp [extend, digit?_digitChar hbase hrem, hback, hn]

theorem extend_zeros (hone : 1 < base) (k : Nat) (rest : List Char) :
    extend base limit 0 (List.replicate k '0' ++ rest) = extend base limit 0 rest := by
  have hzero : digit? base '0' = some 0 := by
    simp [digit?]
    omega
  induction k with
  | zero => rfl
  | succ k ih =>
      rw [List.replicate_succ, List.cons_append, extend]
      simpa [hzero] using ih

theorem read_of_no_plus {text : List Char} (hne : text ≠ []) (hplus : '+' ∉ text) :
    read base limit text = extend base limit 0 text := by
  unfold read
  split
  · exact absurd rfl hne
  · simp at hplus
  · simp at hplus
  · rfl

theorem read_plus {text : List Char} (hne : text ≠ []) :
    read base limit ('+' :: text) = extend base limit 0 text := by
  cases text with
  | nil => exact absurd rfl hne
  | cons c rest => rfl

theorem plus_not_mem_zeros_digits (hone : 1 < base) (hbase : base ≤ 16) (k : Nat) :
    '+' ∉ List.replicate k '0' ++ digits base n := by
  intro h
  cases List.mem_append.mp h with
  | inl h =>
      have := List.eq_of_mem_replicate h
      simp at this
  | inr h =>
      exact not_mem_digits hone hbase (by decide) h

/-- A number is read from its digits behind zeros, with or without a plus sign. -/
theorem read?_spelled (hone : 1 < base) (hbase : base ≤ 16) (hn : n ≤ limit) (k : Nat)
    (plus : Bool) :
    read? base limit ((if plus then ['+'] else []) ++ (List.replicate k '0' ++ digits base n)) =
      some n := by
  have hne : List.replicate k '0' ++ digits base n ≠ [] := by
    simp [digits]
  have hvalue : extend base limit 0 (List.replicate k '0' ++ digits base n) = .ok n := by
    rw [extend_zeros hone]
    simpa [extend] using extend_digits hone hbase hn []
  unfold read?
  cases plus with
  | false =>
      simp only [Bool.false_eq_true, if_false, List.nil_append]
      rw [read_of_no_plus hne (plus_not_mem_zeros_digits hone hbase k), hvalue]
      rfl
  | true =>
      simp only [if_true, List.singleton_append]
      rw [read_plus hne, hvalue]
      rfl

theorem read?_digits (hone : 1 < base) (hbase : base ≤ 16) (hn : n ≤ limit) :
    read? base limit (digits base n) = some n := by
  simpa using read?_spelled hone hbase hn 0 false

/-!
# What is read

A text that is read as a number, and has no sign, consists of digits.  A digit is neither a
blank nor one of the separators.
-/

theorem isSome_digit?_of_extend {value : Nat} {text : List Char}
    (h : extend base limit value text = .ok n) : ∀ c ∈ text, (digit? base c).isSome := by
  induction text generalizing value with
  | nil => simp
  | cons c rest ih =>
      simp only [extend] at h
      cases hdigit : digit? base c with
      | none =>
          rw [hdigit] at h
          cases h
      | some d =>
          rw [hdigit] at h
          dsimp only at h
          split at h
          · intro e he
            rcases List.mem_cons.mp he with rfl | he
            · simp [hdigit]
            · exact ih h e he
          · cases h

theorem isSome_digit?_of_read? {text : List Char} (hplus : text.head? ≠ some '+')
    (h : read? base limit text = some n) : ∀ c ∈ text, (digit? base c).isSome := by
  have hread := read?_eq_some.mp h
  cases text with
  | nil => simp
  | cons c rest =>
      have hc : c ≠ '+' := by
        intro hc
        exact hplus (by rw [hc]; rfl)
      have hextend : extend base limit 0 (c :: rest) = .ok n := by
        rw [← hread]
        unfold read
        split <;> simp_all
      exact isSome_digit?_of_extend hextend

theorem alphanumeric_of_digit? {c : Char} (h : (digit? base c).isSome) :
    ('0' ≤ c ∧ c ≤ '9') ∨ ('a' ≤ c ∧ c ≤ 'z') ∨ ('A' ≤ c ∧ c ≤ 'Z') := by
  unfold digit? at h
  by_cases h09 : '0' ≤ c ∧ c ≤ '9'
  · exact Or.inl h09
  · by_cases haz : 'a' ≤ c ∧ c ≤ 'z'
    · exact Or.inr (Or.inl haz)
    · by_cases hAZ : 'A' ≤ c ∧ c ≤ 'Z'
      · exact Or.inr (Or.inr hAZ)
      · simp [h09, haz, hAZ] at h

/-- A digit is one to every larger base. -/
theorem isSome_digit?_of_le {larger : Nat} {c : Char} (hbase : base ≤ larger)
    (h : (digit? base c).isSome) : (digit? larger c).isSome := by
  have hisSome : ∀ {value limit : Nat},
      (if value < limit then some value else none).isSome = true ↔ value < limit := by
    intro value limit
    split <;> simp_all
  unfold digit? at h ⊢
  dsimp only at h ⊢
  rw [hisSome] at h ⊢
  split_ifs at h ⊢ <;> omega

/-!
# Decimal numbers

What is read as a decimal number is the number's digits, behind zeros and perhaps a sign.
-/

theorem eq_digitChar_of_digit? {c : Char} {d : Nat} (h : digit? 10 c = some d) :
    c = d.digitChar ∧ d < 10 := by
  have hzero : '0'.toNat = 48 := rfl
  unfold digit? at h
  by_cases hdecimal : '0' ≤ c ∧ c ≤ '9'
  · have hlow : 48 ≤ c.toNat := hdecimal.1
    have hhigh : c.toNat ≤ 57 := hdecimal.2
    simp only [hdecimal, and_self, if_true, hzero] at h
    rw [if_pos (by omega)] at h
    obtain rfl : c.toNat - 48 = d := Option.some.inj h
    refine ⟨?_, by omega⟩
    apply Char.toNat_inj.mp
    generalize c.toNat = code at hlow hhigh
    interval_cases code <;> rfl
  · have hlarge : ¬(if 'a' ≤ c ∧ c ≤ 'z' then c.toNat - 'a'.toNat + 10
        else if 'A' ≤ c ∧ c ≤ 'Z' then c.toNat - 'A'.toNat + 10 else 10) < 10 := by
      split
      · omega
      · split <;> omega
    simp only [hdecimal, if_false] at h
    rw [if_neg hlarge] at h
    cases h

theorem digits_step {v d : Nat} (hv : 0 < v) (hd : d < 10) :
    digits 10 (v * 10 + d) = digits 10 v ++ [d.digitChar] := by
  unfold digits
  have hquot : (v * 10 + d) / 10 = v := by omega
  have hrem : (v * 10 + d) % 10 = d := by omega
  rw [Nat.toDigits_of_base_le (by decide) (by omega), hquot, hrem]

theorem digits_of_extend {v : Nat} {text : List Char} (hv : 0 < v)
    (h : extend 10 limit v text = .ok n) : digits 10 n = digits 10 v ++ text := by
  induction text generalizing v with
  | nil =>
      simp only [extend, Except.ok.injEq] at h
      rw [h, List.append_nil]
  | cons c rest ih =>
      simp only [extend] at h
      cases hdigit : digit? 10 c with
      | none =>
          rw [hdigit] at h
          cases h
      | some d =>
          rw [hdigit] at h
          dsimp only at h
          rcases eq_digitChar_of_digit? hdigit with ⟨rfl, hd⟩
          split at h
          · rw [ih (by omega) h, digits_step hv hd, List.append_assoc]
            rfl
          · cases h

theorem zeros_digits_of_extend {text : List Char} (hne : text ≠ [])
    (h : extend 10 limit 0 text = .ok n) :
    exists k, text = List.replicate k '0' ++ digits 10 n := by
  induction text with
  | nil => exact absurd rfl hne
  | cons c rest ih =>
      simp only [extend] at h
      cases hdigit : digit? 10 c with
      | none =>
          rw [hdigit] at h
          cases h
      | some d =>
          rw [hdigit] at h
          dsimp only at h
          rcases eq_digitChar_of_digit? hdigit with ⟨rfl, hd⟩
          split at h
          · rw [Nat.zero_mul, Nat.zero_add] at h
            cases d with
            | zero =>
                cases rest with
                | nil =>
                    obtain rfl : 0 = n := by simpa [extend] using h
                    exact ⟨0, rfl⟩
                | cons e more =>
                    rcases ih (by simp) h with ⟨k, hk⟩
                    refine ⟨k + 1, ?_⟩
                    rw [hk, List.replicate_succ]
                    rfl
            | succ d =>
                refine ⟨0, ?_⟩
                rw [digits_of_extend (Nat.succ_pos d) h]
                unfold digits
                rw [Nat.toDigits_of_lt_base hd]
                rfl
          · cases h

theorem spelled_of_read? {text : List Char} (h : read? 10 limit text = some n) :
    exists (plus : Bool) (k : Nat),
      text = (if plus then ['+'] else []) ++ (List.replicate k '0' ++ digits 10 n) := by
  have hread := read?_eq_some.mp h
  unfold read at hread
  split at hread
  · cases hread
  · cases hread
  · rename_i rest hrest
    rcases zeros_digits_of_extend (fun hnil => hrest (by rw [hnil])) hread with ⟨k, rfl⟩
    exact ⟨true, k, rfl⟩
  · rename_i hne _ _
    rcases zeros_digits_of_extend hne hread with ⟨k, hk⟩
    exact ⟨false, k, hk⟩

end Numeral
end RouteAudit
