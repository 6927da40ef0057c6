/-!
# Octets and characters

Files and streams hold octets.  Well-formed UTF-8 is decoded as a whole, or octets that
form no character are each time replaced by the replacement character: one for every
beginning of a character that is cut short, and one for every octet that cannot begin a
character.
-/

namespace RouteAudit
namespace Utf8

abbrev Octets := List UInt8

/-- How a first octet goes on: its payload, the range of the second octet and the number
of octets after that. -/
structure Lead where
  payload : Nat
  low : Nat
  high : Nat
  more : Nat

def lead? (b : Nat) : Option Lead :=
  if 0xC2 ≤ b ∧ b ≤ 0xDF then some ⟨b - 0xC0, 0x80, 0xBF, 0⟩
  else if b = 0xE0 then some ⟨0, 0xA0, 0xBF, 1⟩
  else if b = 0xED then some ⟨13, 0x80, 0x9F, 1⟩
  else if 0xE1 ≤ b ∧ b ≤ 0xEF then some ⟨b - 0xE0, 0x80, 0xBF, 1⟩
  else if b = 0xF0 then some ⟨0, 0x90, 0xBF, 2⟩
  else if 0xF1 ≤ b ∧ b ≤ 0xF3 then some ⟨b - 0xF0, 0x80, 0xBF, 2⟩
  else if b = 0xF4 then some ⟨4, 0x80, 0x8F, 2⟩
  else none

/-- Reads continuation octets; the first of them lies in the range given.  Without a value
the octets that could have belonged to the character are gone. -/
def continued (code low high : Nat) : Nat → Octets → Option Nat × Octets
  | _, [] => (none, [])
  | more, b :: rest =>
      if low ≤ b.toNat ∧ b.toNat ≤ high then
        match more with
        | 0 => (some (code * 64 + (b.toNat - 0x80)), rest)
        | more + 1 => continued (code * 64 + (b.toNat - 0x80)) 0x80 0xBF more rest
      else
        (none, b :: rest)

/-- The first character, if the octets start with one, and the octets behind it. -/
def step (b : UInt8) (rest : Octets) : Option Char × Octets :=
  if b.toNat < 0x80 then
    (some (Char.ofNat b.toNat), rest)
  else
    match lead? b.toNat with
    | none => (none, rest)
    | some l =>
        let (code, rest) := continued l.payload l.low l.high l.more rest
        (code.map Char.ofNat, rest)

theorem continued_length (code low high more : Nat) (octets : Octets) :
    (continued code low high more octets).2.length ≤ octets.length := by
  induction octets generalizing code low high more with
  | nil => simp [continued]
  | cons b rest ih =>
      unfold continued
      split
      · split
        · exact Nat.le_succ _
        · exact Nat.le_succ_of_le (ih ..)
      · exact Nat.le_refl _

theorem step_length (b : UInt8) (rest : Octets) : (step b rest).2.length ≤ rest.length := by
  unfold step
  split
  · exact Nat.le_refl _
  · split
    · exact Nat.le_refl _
    · exact continued_length ..

def replacement : Char := '\uFFFD'

def characters : Octets → List (Option Char)
  | [] => []
  | b :: rest => (step b rest).1 :: characters (step b rest).2
  termination_by octets => octets.length
  decreasing_by
    have := step_length b rest
    simp only [List.length_cons]
    omega

/-- The text of well-formed octets. -/
def decode? (octets : Octets) : Option String :=
  ((characters octets).mapM id).map String.ofList

/-- The text of any octets. -/
def decodeLossy (octets : Octets) : String :=
  String.ofList ((characters octets).map fun c => c.getD replacement)

def encode (text : String) : Octets := text.toUTF8.toList

end Utf8
end RouteAudit
