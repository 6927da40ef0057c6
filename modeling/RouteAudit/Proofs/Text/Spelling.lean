import Mathlib.Data.Nat.Digits.Defs
import RouteAudit.Proofs.Text.Numerals
import RouteAudit.Proofs.Text.Readings

/-!
# Spelled numbers

A text spells a number if it consists of the digits of the number, the highest one first, and
perhaps a plus sign in front.  Letters among the digits are of either case, and any number of
zeros may come first.  What is read up to a limit is exactly what spells a number up to it.
-/

namespace RouteAudit
namespace Numeral

variable {base limit n : Nat} {text : List Char}

/-- The characters that numbers are spelled with where letters are capitals. -/
def capitals : List Char := "0123456789ABCDEF".toList

/-- A character that stands for a digit. -/
def IsDigit (base : Nat) (c : Char) (d : Nat) : Prop :=
  d < base ∧ (written[d]? = some c ∨ capitals[d]? = some c)

/-- A text of digits, at least one of them, which denotes a number. -/
def Denotes (base : Nat) (text : List Char) (n : Nat) : Prop :=
  text ≠ [] ∧
    exists ds, List.Forall₂ (IsDigit base) text ds ∧ Nat.ofDigits base ds.reverse = n

inductive Spells (base : Nat) : List Char → Nat → Prop where
  | plain {text : List Char} {n : Nat} : Denotes base text n → Spells base text n
  | signed {text : List Char} {n : Nat} : Denotes base text n → Spells base ('+' :: text) n

/-!
# Digits

A digit of a smaller base is one to base sixteen, and those are few enough to be looked at.
-/

theorem digit?_eq_filter (hbase : base ≤ 16) (c : Char) :
    digit? base c = (digit? 16 c).filter (· < base) := by
  have hifs : ∀ value : Nat, (if value < base then some value else none) =
      (if value < 16 then some value else none).filter (· < base) := by
    intro value
    by_cases hvalue : value < base
    · rw [if_pos hvalue, if_pos (Nat.lt_of_lt_of_le hvalue hbase), Option.filter_some,
        if_pos (decide_eq_true hvalue)]
    · rw [if_neg hvalue]
      split
      · rw [Option.filter_some, if_neg (by simpa using hvalue)]
      · rfl
  unfold digit?
  split_ifs
  · exact hifs _
  · exact hifs _
  · exact hifs _
  · simp

theorem toNat_lt_of_digit? {c : Char} (h : (digit? base c).isSome) : c.toNat < 128 := by
  rcases alphanumeric_of_digit? h with ⟨_, hhigh⟩ | ⟨_, hhigh⟩ | ⟨_, hhigh⟩
  · exact Nat.lt_of_le_of_lt (show c.toNat ≤ 57 from hhigh) (by decide)
  · exact Nat.lt_of_le_of_lt (show c.toNat ≤ 122 from hhigh) (by decide)
  · exact Nat.lt_of_le_of_lt (show c.toNat ≤ 90 from hhigh) (by decide)

theorem written_or_capital_of_digit? {c : Char} {d : Nat} (h : digit? 16 c = some d) :
    written[d]? = some c ∨ capitals[d]? = some c := by
  have hcodes : ∀ code < 128, (digit? 16 (Char.ofNat code)).all fun e =>
      written[e]? = some (Char.ofNat code) ∨ capitals[e]? = some (Char.ofNat code) := by
    decide +kernel
  have hchar := hcodes c.toNat (toNat_lt_of_digit? (Option.isSome_of_eq_some h))
  rw [Char.ofNat_toNat, h] at hchar
  exact of_decide_eq_true hchar

theorem digit?_getElem_written :
    ∀ (d : Nat) (hd : d < written.length), digit? 16 (written.get ⟨d, hd⟩) = some d := by
  decide +kernel

theorem digit?_getElem_capitals :
    ∀ (d : Nat) (hd : d < capitals.length), digit? 16 (capitals.get ⟨d, hd⟩) = some d := by
  decide +kernel

theorem digit?_sixteen_iff {c : Char} {d : Nat} :
    digit? 16 c = some d ↔ written[d]? = some c ∨ capitals[d]? = some c := by
  constructor
  · exact written_or_capital_of_digit?
  · intro h
    cases h with
    | inl h =>
        rcases List.getElem?_eq_some_iff.mp h with ⟨hd, rfl⟩
        exact digit?_getElem_written d hd
    | inr h =>
        rcases List.getElem?_eq_some_iff.mp h with ⟨hd, rfl⟩
        exact digit?_getElem_capitals d hd

theorem digit?_eq_some_iff (hbase : base ≤ 16) {c : Char} {d : Nat} :
    digit? base c = some d ↔ IsDigit base c d := by
  rw [digit?_eq_filter hbase, Option.filter_eq_some_iff, digit?_sixteen_iff, decide_eq_true_iff]
  exact And.comm

/-!
# Texts of digits

Every digit makes the value larger, so a value that ends within the limit was always within it.
-/

theorem denotes_of_extend (hbase : base ≤ 16) {value : Nat}
    (h : extend base limit value text = .ok n) : exists ds, List.Forall₂ (IsDigit base) text ds ∧
      value * base ^ ds.length + Nat.ofDigits base ds.reverse = n := by
  induction text generalizing value with
  | nil =>
      cases h
      exact ⟨[], .nil, by simp⟩
  | cons c rest ih =>
      rw [extend] at h
      cases hdigit : digit? base c with
      | none =>
          rw [hdigit] at h
          cases h
      | some d =>
          rw [hdigit] at h
          dsimp only at h
          split at h
          · rcases ih h with ⟨ds, hds, hvalue⟩
            refine ⟨d :: ds, .cons ((digit?_eq_some_iff hbase).mp hdigit) hds, ?_⟩
            rw [← hvalue, List.reverse_cons, Nat.ofDigits_append, Nat.ofDigits_singleton,
              List.length_reverse, List.length_cons]
            ring
          · cases h

theorem extend_of_denotes (hbase : base ≤ 16) {value : Nat} {ds : List Nat}
    (hds : List.Forall₂ (IsDigit base) text ds)
    (hlimit : value * base ^ ds.length + Nat.ofDigits base ds.reverse ≤ limit) :
    extend base limit value text =
      .ok (value * base ^ ds.length + Nat.ofDigits base ds.reverse) := by
  induction hds generalizing value with
  | nil => simp [extend]
  | @cons c d rest ds hdigit hds ih =>
      have hvalue : value * base ^ (d :: ds).length + Nat.ofDigits base (d :: ds).reverse =
          (value * base + d) * base ^ ds.length + Nat.ofDigits base ds.reverse := by
        rw [List.reverse_cons, Nat.ofDigits_append, Nat.ofDigits_singleton,
          List.length_reverse, List.length_cons]
        ring
      have hpos : 0 < base ^ ds.length := Nat.pow_pos (Nat.zero_lt_of_lt hdigit.1)
      rw [hvalue] at hlimit ⊢
      have hstep : value * base + d ≤ limit :=
        Nat.le_trans (Nat.le_trans (Nat.le_mul_of_pos_right _ hpos) (Nat.le_add_right _ _)) hlimit
      rw [extend, (digit?_eq_some_iff hbase).mpr hdigit]
      dsimp only
      rw [if_pos hstep]
      exact ih hlimit

theorem extend_zero_iff (hbase : base ≤ 16) (hne : text ≠ []) :
    extend base limit 0 text = .ok n ↔ Denotes base text n ∧ n ≤ limit := by
  constructor
  · intro h
    rcases denotes_of_extend hbase h with ⟨ds, hds, hvalue⟩
    rw [Nat.zero_mul, Nat.zero_add] at hvalue
    exact ⟨⟨hne, ds, hds, hvalue⟩, extend_le (Nat.zero_le limit) h⟩
  · intro h
    rcases h with ⟨⟨_, ds, hds, rfl⟩, hlimit⟩
    have hzero : ∀ k, 0 * base ^ ds.length + k = k := by
      intro k
      rw [Nat.zero_mul, Nat.zero_add]
    have hextend : extend base limit 0 text =
        .ok (0 * base ^ ds.length + Nat.ofDigits base ds.reverse) := by
      apply extend_of_denotes hbase hds
      rw [hzero]
      exact hlimit
    rw [hextend, hzero]

/-!
# Spelled texts
-/

theorem mem_of_denotes (h : Denotes base text n) {c : Char} (hc : c ∈ text) :
    c ∈ written ∨ c ∈ capitals := by
  rcases h with ⟨_, ds, hds, _⟩
  rcases exists_mem_of_forall₂ hds hc with ⟨d, _, hdigit⟩
  exact hdigit.2.imp List.mem_of_getElem? List.mem_of_getElem?

theorem head_ne_plus_of_denotes {c : Char} (h : Denotes base (c :: text) n) : c ≠ '+' := by
  rintro rfl
  exact absurd (mem_of_denotes h List.mem_cons_self) (by decide)

theorem mem_of_spells (h : Spells base text n) {c : Char} (hc : c ∈ text) :
    c = '+' ∨ c ∈ written ∨ c ∈ capitals := by
  cases h with
  | plain h => exact Or.inr (mem_of_denotes h hc)
  | signed h => exact (List.mem_cons.mp hc).imp id (mem_of_denotes h)

/-- What is read up to a limit are the texts that spell a number up to it. -/
theorem read?_eq_some_iff (hbase : base ≤ 16) :
    read? base limit text = some n ↔ Spells base text n ∧ n ≤ limit := by
  have hsigned : ∀ rest : List Char, rest ≠ [] →
      (read base limit ('+' :: rest) = .ok n ↔ Denotes base rest n ∧ n ≤ limit) := by
    intro rest hne
    rw [read_plus hne]
    exact extend_zero_iff hbase hne
  rw [read?_eq_some]
  constructor
  · intro h
    unfold read at h
    split at h
    · cases h
    · cases h
    · rename_i rest hne
      rw [extend_zero_iff hbase hne] at h
      exact ⟨.signed h.1, h.2⟩
    · rename_i hne _ _
      rw [extend_zero_iff hbase hne] at h
      exact ⟨.plain h.1, h.2⟩
  · intro h
    rcases h with ⟨hspells, hlimit⟩
    cases hspells with
    | signed h => exact (hsigned _ h.1).mpr ⟨h, hlimit⟩
    | plain h =>
        unfold read
        split
        · exact absurd rfl h.1
        · exact absurd rfl (head_ne_plus_of_denotes h)
        · exact absurd rfl (head_ne_plus_of_denotes h)
        · exact (extend_zero_iff hbase h.1).mpr ⟨h, hlimit⟩

end Numeral
end RouteAudit
