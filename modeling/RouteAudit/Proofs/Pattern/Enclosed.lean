import RouteAudit.Pattern.Cursor
import Mathlib.Data.List.Infix

/-!
# Reading in front of a closing parenthesis

A pattern that is pasted between anchors is read with a closing parenthesis and the mark of the end
behind it.  The reading of the pattern by itself and that of the pasted text go side by side: they
fail together, or they return the same and stand at the same place.  They part in two ways only.  A
comment at the end of the pattern swallows what is pasted behind it, and where the pattern by
itself ends too early, the pasted text may be read on into what closes it.
-/

namespace RouteAudit
namespace Pattern

/-- What is pasted behind a pattern. -/
def closing : List Char := [')', '$']

def Cursor.enclosed (c : Cursor) : Cursor := { c with text := c.text ++ closing }

/-- Behind a number sign the text has no further line. -/
def HasLastComment (text : List Char) : Prop :=
  exists before comment, text = before ++ '#' :: comment ∧ '\n' ∉ comment

theorem HasLastComment.of_suffix {text whole : List Char} (h : HasLastComment text)
    (hsuffix : text <:+ whole) : HasLastComment whole := by
  rcases h with ⟨before, comment, rfl, hlines⟩
  rcases hsuffix with ⟨front, rfl⟩
  exact ⟨front ++ before, comment, (List.append_assoc ..).symm, hlines⟩

theorem drop_suffix_of_suffix {xs ys : List Char} (h : xs <:+ ys) (n : Nat) :
    xs.drop n <:+ ys.drop n := by
  rw [List.suffix_iff_eq_drop.mp h, List.drop_drop, Nat.add_comm, ← List.drop_drop]
  exact List.drop_suffix _ _

variable {α β : Type} {start : List Char} {pre pre' : Cursor → Prop} {ahead : α → Cursor → Prop}
  {ahead' : β → Cursor → Prop}

/-- The results of reading a text and the same text with what closes it.  Where only the second
reading succeeds, it has run ahead. -/
inductive Coupled (start : List Char) (ahead : α → Cursor → Prop) :
    Option (α × Cursor) → Option (α × Cursor) → Prop
  | fails : Coupled start ahead none none
  | both (a : α) (c : Cursor) : Coupled start ahead (some (a, c)) (some (a, c.enclosed))
  | swallowed (a : α) (c : Cursor) : c.text = [] → HasLastComment start →
      Coupled start ahead (some (a, c)) (some (a, c))
  | ahead (a : α) (c : Cursor) : ahead a c → Coupled start ahead none (some (a, c))

theorem Coupled.of_suffix {text : List Char} {r r' : Option (α × Cursor)}
    (h : Coupled text ahead r r') (hsuffix : text <:+ start) : Coupled start ahead r r' := by
  cases h with
  | fails => exact .fails
  | both a c => exact .both a c
  | swallowed a c hend hcomment => exact .swallowed a c hend (hcomment.of_suffix hsuffix)
  | ahead a c h => exact .ahead a c h

/-- Whatever a reader returns satisfies a condition. -/
def Yields (holds : α → Cursor → Prop) (r : Option (α × Cursor)) : Prop :=
  ∀ a c, r = some (a, c) → holds a c

theorem Yields.coupled {r : Option (α × Cursor)} (h : Yields ahead r) :
    Coupled start ahead none r := by
  rcases r with _ | ⟨a, c⟩
  · exact .fails
  · exact .ahead a c (h a c rfl)

/-- The rest of the text is one of the ends of a given text. -/
def Within (z : List Char) (_ : α) (c : Cursor) : Prop := c.text <:+ z

/-- A reader drops characters from the front of the text, and at least so many. -/
def Drops (n : Nat) (m : Reader α) : Prop := ∀ c, Yields (Within (c.text.drop n)) (m c)

/-- Two readers go side by side from where a condition holds, the second one on the text with what
closes it; at the end of the text they do the same. -/
structure Tracks (n : Nat) (pre : Cursor → Prop) (ahead : α → Cursor → Prop) (m m' : Reader α) :
    Prop where
  drops : Drops n m
  drops' : Drops n m'
  coupled : ∀ c, pre c → Coupled c.text ahead (m c) (m' c.enclosed)
  ends : ∀ c, pre c → c.text = [] → m c = m' c

/-- The rounds left for both readings of the rest of the text. -/
structure Room (n i : Nat) (c : Cursor) : Prop where
  left : c.text.length < n
  left' : c.text.length + 2 < i

namespace Room

variable {n i : Nat} {c d : Cursor}

theorem of_suffix (h : Room n i c) (hsuffix : d.text <:+ c.text) : Room n i d := by
  have hlength := hsuffix.length_le
  exact ⟨by have := h.left; omega, by have := h.left'; omega⟩

end Room

namespace Reader

variable {m m' : Reader α} {k k' : α → Reader β}

theorem bind_run (c : Cursor) : (m >>= k) c = (m c).bind fun r => k r.1 r.2 := rfl

theorem bind_eq_some {c e : Cursor} {b : β} :
    (m >>= k) c = some (b, e) ↔ exists a d, m c = some (a, d) ∧ k a d = some (b, e) := by
  rw [bind_run, Option.bind_eq_some_iff]
  simp only [Prod.exists]

end Reader

namespace Drops

variable {m : Reader α} {k : α → Reader β} {n i : Nat}

theorem suffix (h : Drops n m) {c d : Cursor} {a : α} (hd : m c = some (a, d)) :
    d.text <:+ c.text :=
  (h c a d hd).trans (List.drop_suffix n c.text)

theorem bind (hm : Drops n m) (hk : ∀ a, Drops i (k a)) : Drops (n + i) (m >>= k) := by
  intro c b e h
  rcases Reader.bind_eq_some.mp h with ⟨a, d, hd, he⟩
  have hdropped : d.text.drop i <:+ c.text.drop (n + i) := by
    rw [← List.drop_drop]
    exact drop_suffix_of_suffix (hm c a d hd) i
  exact (hk a d b e he).trans hdropped

theorem fail : Drops n (Reader.fail (α := α)) := by
  rintro c a d ⟨⟩

theorem pure (a : α) : Drops 0 (Pure.pure a : Reader α) := by
  rintro c a d ⟨⟩
  exact List.suffix_refl _

end Drops

namespace Tracks

variable {m m' : Reader α} {k k' : α → Reader β} {n i : Nat} {z z' : List Char}

theorem mono (h : Tracks n pre ahead m m') {wider : α → Cursor → Prop}
    (hwider : ∀ a c, ahead a c → wider a c) : Tracks n pre wider m m' where
  drops := h.drops
  drops' := h.drops'
  coupled := by
    intro c hc
    have hcoupled := h.coupled c hc
    generalize m c = r, m' c.enclosed = r' at hcoupled ⊢
    cases hcoupled with
    | fails => exact .fails
    | both a d => exact .both a d
    | swallowed a d hend hcomment => exact .swallowed a d hend hcomment
    | ahead a d h => exact .ahead a d (hwider a d h)
  ends := h.ends

theorem bind_ahead (hm : Tracks n pre ahead m m')
    (hahead : ∀ a d, ahead a d → Yields ahead' (k' a d))
    (hk : ∀ a, Tracks i (fun d => exists c, pre c ∧ m c = some (a, d)) ahead' (k a) (k' a)) :
    Tracks (n + i) pre ahead' (m >>= k) (m' >>= k') where
  drops := hm.drops.bind fun a => (hk a).drops
  drops' := hm.drops'.bind fun a => (hk a).drops'
  coupled := by
    intro c hc
    rw [Reader.bind_run, Reader.bind_run]
    have hcoupled := hm.coupled c hc
    generalize hr : m c = r at hcoupled ⊢
    generalize m' c.enclosed = r' at hcoupled ⊢
    cases hcoupled with
    | fails => exact .fails
    | both a d => exact ((hk a).coupled d ⟨c, hc, hr⟩).of_suffix (hm.drops.suffix hr)
    | swallowed a d hend hcomment =>
        -- Both readings stand at the end of their texts, where they do the same.
        have hsame : k a d = k' a d := (hk a).ends d ⟨c, hc, hr⟩ hend
        simp only [Option.bind_some, ← hsame]
        rcases hrest : k a d with _ | ⟨b, e⟩
        · exact .fails
        · have hsuffix := (hk a).drops.suffix hrest
          rw [hend, List.suffix_nil] at hsuffix
          exact .swallowed b e hsuffix hcomment
    | ahead a d h => exact (hahead a d h).coupled
  ends := by
    intro c hc hend
    rw [Reader.bind_run, Reader.bind_run, ← hm.ends c hc hend]
    rcases hr : m c with _ | ⟨a, d⟩
    · rfl
    · have hsuffix := hm.drops.suffix hr
      rw [hend, List.suffix_nil] at hsuffix
      exact (hk a).ends d ⟨c, hc, hr⟩ hsuffix

theorem bind_never (hm : Tracks n pre (fun _ _ => False) m m')
    (hk : ∀ a, Tracks i (fun d => exists c, pre c ∧ m c = some (a, d)) ahead' (k a) (k' a)) :
    Tracks (n + i) pre ahead' (m >>= k) (m' >>= k') :=
  hm.bind_ahead (fun _ _ h => h.elim) hk

/-- Where a reader may run ahead up to some place, what follows it may run ahead from there. -/
theorem bind_within (hm : Tracks n pre (Within z) m m') (hz : z.drop i <:+ z')
    (hk : ∀ a, Tracks i (fun d => exists c, pre c ∧ m c = some (a, d)) (Within z') (k a) (k' a)) :
    Tracks (n + i) pre (Within z') (m >>= k) (m' >>= k') :=
  hm.bind_ahead (fun a d hd b e he =>
    (((hk a).drops' d b e he).trans (drop_suffix_of_suffix hd i)).trans hz) hk

theorem bind (hm : Tracks 0 pre (Within z) m m') (hz : z.drop n <:+ z')
    (hk : ∀ a, Tracks n (fun d => exists c, pre c ∧ m c = some (a, d)) (Within z') (k a) (k' a)) :
    Tracks n pre (Within z') (m >>= k) (m' >>= k') := by
  have h := hm.bind_within hz hk
  rw [Nat.zero_add] at h
  exact h

theorem advance (hm : Tracks 1 pre (Within z) m m') (hz : z <:+ z')
    (hk : ∀ a, Tracks 0 (fun d => exists c, pre c ∧ m c = some (a, d)) (Within z') (k a) (k' a)) :
    Tracks 1 pre (Within z') (m >>= k) (m' >>= k') :=
  hm.bind_within (i := 0) hz hk

/-- Readers that only look at the flags, or fail. -/
theorem of_flags (x : Flags → Option (α × Flags))
    (hm : ∀ c, m c = (x c.flags).map fun r => (r.1, { c with flags := r.2 })) :
    Tracks 0 pre ahead m m := by
  have hdrops : Drops 0 m := by
    intro c a d h
    rw [hm, Option.map_eq_some_iff] at h
    rcases h with ⟨r, _, hr⟩
    cases hr
    exact List.suffix_refl _
  refine ⟨hdrops, hdrops, ?_, fun _ _ _ => rfl⟩
  intro c _
  rw [hm, hm]
  show Coupled _ _ _ ((x c.flags).map _)
  rcases x c.flags with _ | r
  · exact .fails
  · exact .both r.1 { c with flags := r.2 }

theorem fail : Tracks n pre ahead (Reader.fail (α := α)) Reader.fail where
  drops := Drops.fail
  drops' := Drops.fail
  coupled := fun _ _ => .fails
  ends := fun _ _ _ => rfl

theorem pure (a : α) : Tracks 0 pre ahead (Pure.pure a : Reader α) (Pure.pure a) :=
  of_flags (fun f => some (a, f)) fun _ => rfl

theorem setFlags {ahead : Unit → Cursor → Prop} (f : Flags) :
    Tracks 0 pre ahead (Reader.setFlags f) (Reader.setFlags f) :=
  of_flags (fun _ => some ((), f)) fun _ => rfl

theorem ofOption (x : Option α) : Tracks 0 pre ahead (Reader.ofOption x) (Reader.ofOption x) := by
  cases x with
  | none => exact fail
  | some a => exact pure a

end Tracks
end Pattern
end RouteAudit
