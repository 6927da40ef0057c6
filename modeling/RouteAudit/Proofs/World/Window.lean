import RouteAudit.Proofs.RouteKey.Sets
import RouteAudit.Store

/-!
# Windows

A window is open for some time and delivers the changes of a feed that arrive in it, each
at its time and in their order.
-/

namespace RouteAudit
namespace Feed

/-- The changes that arrive while a window is open.  A change at the end of the window is
taken if the window was open before it. -/
def arriving (finish : Nat) : Nat → List (Time × Change) → List Change
  | _, [] => []
  | now, (time, c) :: rest =>
      if finish ≤ now then []
      else if max now time ≤ finish then c :: arriving finish (max now time) rest
      else []

def delivered (f : Feed) (start finish : Time) : List Change :=
  arriving finish start f.events

/-- Nothing arrives that the feed does not hold. -/
theorem mem_of_mem_arriving {finish now : Nat} {events : List (Time × Change)} {c : Change}
    (h : c ∈ arriving finish now events) : exists time, (time, c) ∈ events := by
  induction events generalizing now with
  | nil => cases h
  | cons event rest ih =>
      rcases event with ⟨first, d⟩
      unfold arriving at h
      split at h
      · cases h
      · split at h
        · rcases List.mem_cons.mp h with rfl | hrest
          · exact ⟨first, List.mem_cons_self⟩
          · rcases ih hrest with ⟨time, hmem⟩
            exact ⟨time, List.mem_cons_of_mem _ hmem⟩
        · cases h

/-- Of changes in the order of their times all before the end of the window arrive. -/
theorem mem_arriving_of_lt {finish now time : Nat} {events : List (Time × Change)} {c : Change}
    (hordered : events.Pairwise fun a b => a.1 ≤ b.1) (hopen : now < finish)
    (hmem : (time, c) ∈ events) (htime : time < finish) : c ∈ arriving finish now events := by
  induction events generalizing now with
  | nil => exact absurd hmem List.not_mem_nil
  | cons event rest ih =>
      rcases event with ⟨first, d⟩
      rcases List.pairwise_cons.mp hordered with ⟨hfirst, hrest⟩
      have hle : @LE.le Nat _ first time := by
        cases List.mem_cons.mp hmem with
        | inl heq =>
            cases heq
            exact Nat.le_refl _
        | inr hmem =>
            exact hfirst _ hmem
      unfold arriving
      rw [if_neg (by omega), if_pos (by omega)]
      cases List.mem_cons.mp hmem with
      | inl heq =>
          cases heq
          exact List.mem_cons_self
      | inr hmem =>
          exact List.mem_cons_of_mem _ (ih hrest (by omega) hmem)

theorem mem_of_mem_delivered {changes : List Change} {subscribed start finish : Time} {c : Change}
    (h : c ∈ ((ofChanges changes).startingAt subscribed).delivered start finish) :
    c ∈ changes := by
  rcases mem_of_mem_arriving h with ⟨time, hmem⟩
  unfold startingAt ofChanges at hmem
  rw [List.map_map] at hmem
  rcases List.mem_map.mp hmem with ⟨d, hd, heq⟩
  cases heq
  exact hd

/-- Changes that are there from the start all arrive in an open window. -/
theorem delivered_ofChanges {changes : List Change} {subscribed start finish : Nat}
    (hstart : subscribed ≤ start) (hopen : start < finish) :
    ((ofChanges changes).startingAt subscribed).delivered start finish = changes := by
  have harriving : ∀ rest : List Change,
      arriving finish start (rest.map fun c => (subscribed, c)) = rest := by
    intro rest
    induction rest with
    | nil => rfl
    | cons c rest ih =>
        rw [List.map_cons, arriving, if_neg (by omega), if_pos (by omega), Nat.max_eq_left hstart,
          ih]
  unfold delivered startingAt ofChanges
  rw [List.map_map]
  exact harriving changes

end Feed

end RouteAudit
