import RouteAudit.Proofs.Program.Warnings
import RouteAudit.Proofs.World.Onward
import RouteAudit.Proofs.World.Following
import RouteAudit.Watchdog

/-!
# Warnings of a run

A world answers without a warning: what it notes itself, while a feed is drained, is meant for
debugging.  So the warnings of a run are those of its program, in their order.
-/

namespace RouteAudit
namespace World

variable {α : Type} {w v : World}

/-- The warnings logged so far, in their order. -/
def warnings (w : World) : List LogEvent := w.events.filter LogEvent.isWarning

theorem warnings_note (event : LogEvent) (w : World) :
    (w.note event).warnings = w.warnings ++ [event].filter LogEvent.isWarning := by
  unfold warnings events note
  rw [List.reverse_cons, List.filter_append]

theorem warnings_note_of_not {event : LogEvent} (h : event.isWarning = false) :
    (w.note event).warnings = w.warnings := by
  rw [warnings_note, List.filter_cons_of_neg (Bool.eq_false_iff.mp h)]
  exact List.append_nil _

/-!
# Answers
-/

theorem warnings_advance (t : Time) (w : World) : (w.advance t).warnings = w.warnings := by
  rcases w.advance_eq t with ⟨sites, heq⟩
  rw [heq]
  rfl

theorem warnings_waitUntil (t : Time) (w : World) : (w.waitUntil t).2.warnings = w.warnings := by
  rcases w.waitUntil_cases t with heq | ⟨later, heq⟩
  · rw [heq]
  · rw [heq]
    exact warnings_advance later w

theorem warnings_pause (duration : Time) (stage : Stage) (w : World) :
    (w.pause duration stage).2.warnings = w.warnings := by
  unfold pause
  split
  · exact warnings_advance _ w
  · exact warnings_waitUntil _ w

theorem warnings_enter (stage : Stage) (w : World) : (w.enter stage).2.warnings = w.warnings := by
  unfold enter
  split <;> rfl

theorem warnings_keys (name : String) (db : Database) (pattern : String) (w : World) :
    (w.keys name db pattern).2.warnings = w.warnings := by
  unfold keys
  split
  · rfl
  · rename_i s _
    dsimp only
    split
    · rfl
    · have hgrant : (w.setSite name
          (.memory (s.grant (Store.keysOperation db pattern)))).warnings = w.warnings := rfl
      generalize w.setSite name (.memory (s.grant (Store.keysOperation db pattern))) = u
        at hgrant ⊢
      have hwait := (warnings_waitUntil (u.now + s.delay.getD 0) u).trans hgrant
      generalize u.waitUntil (u.now + s.delay.getD 0) = ended at hwait ⊢
      rcases ended with ⟨stop | _, v⟩
      · exact hwait
      · dsimp only
        split
        · exact hwait
        · exact hwait

theorem warnings_row (name : String) (db : Database) (key : String) (w : World) :
    (w.row name db key).2.warnings = w.warnings := by
  unfold row
  split
  · rfl
  · split <;> rfl

theorem warnings_subscribe (name : String) (w : World) :
    (w.subscribe name).2.warnings = w.warnings := by
  unfold subscribe
  split
  · rfl
  · split <;> rfl

theorem warnings_endDrainAt (name : String) (finish : Time) (left : Feed) (d : Drained)
    (w : World) : (w.endDrainAt name finish left d).2.warnings = w.warnings := by
  have hwait := warnings_waitUntil finish w
  unfold endDrainAt
  generalize w.waitUntil finish = ended at hwait ⊢
  rcases ended with ⟨stop | _, v⟩
  · exact hwait
  · exact (warnings_note_of_not rfl).trans hwait

theorem warnings_awaitNext {name : String} {finish time : Time} {left : Feed} {d : Drained}
    {next : World → Except Stop Drained × World} (hnext : ∀ v, (next v).2.warnings = v.warnings)
    (w : World) : (w.awaitNext name finish time left d next).2.warnings = w.warnings := by
  unfold awaitNext
  split
  · have hwait := warnings_waitUntil time w
    generalize w.waitUntil time = ended at hwait ⊢
    rcases ended with ⟨stop | _, v⟩
    · exact hwait
    · exact (hnext v).trans hwait
  · exact warnings_endDrainAt name finish left d w

theorem warnings_collect (name : String) (finish : Time) (ending : FeedEnd)
    (events : List (Time × Change)) (d : Drained) (w : World) :
    (w.collect name finish ending events d).2.warnings = w.warnings := by
  induction events generalizing d w with
  | nil =>
      unfold collect
      split
      · exact warnings_note_of_not rfl
      · cases ending with
        | silent => exact warnings_endDrainAt name finish _ d w
        | closes time =>
            refine warnings_awaitNext (fun v => ?_) w
            exact (warnings_note_of_not rfl).trans (warnings_note_of_not rfl)
        | breaks time f => exact warnings_awaitNext (fun v => rfl) w
  | cons event rest ih =>
      rcases event with ⟨time, c⟩
      unfold collect
      split
      · exact warnings_note_of_not rfl
      · exact warnings_awaitNext (fun v => (ih _ _).trans (warnings_note_of_not rfl)) w

theorem warnings_fetch (daemon : Nat) (w : World) : (w.fetch daemon).2.warnings = w.warnings := by
  unfold fetch
  dsimp only
  split <;> rfl

theorem warnings_answer {q : Request} (hq : Program.IsQuestion q) (w : World) :
    (w.answer q).2.warnings = w.warnings := by
  cases q with
  | log event => exact absurd hq id
  | enter stage => exact warnings_enter stage w
  | remaining => rfl
  | keys site db pattern => exact warnings_keys site db pattern w
  | row site db key => exact warnings_row site db key w
  | subscribe site => exact warnings_subscribe site w
  | drain site window => exact warnings_collect site _ _ _ _ w
  | fetch daemon => exact warnings_fetch daemon w
  | pause duration stage => exact warnings_pause duration stage w

/-!
# Runs
-/

/-- A run that also returns its warnings is the same run, and returns just those that it logs. -/
theorem run_withWarnings (p : Program α) (w : World) : exists events,
    (w.run p).2.warnings = w.warnings ++ events ∧
      w.run p.withWarnings = ((w.run p).1.map fun a => ⟨a, events⟩, (w.run p).2) := by
  induction p generalizing w with
  | done a => exact ⟨[], (List.append_nil _).symm, rfl⟩
  | fail f => exact ⟨[], (List.append_nil _).symm, rfl⟩
  | ask q next ih =>
      rcases Program.log_or_question q with ⟨event, rfl⟩ | hq
      · rcases ih () (w.note event) with ⟨events, hwarnings, hrun⟩
        refine ⟨[event].filter LogEvent.isWarning ++ events, ?_, ?_⟩
        · rw [run_log, hwarnings, warnings_note, List.append_assoc]
        · show (w.note event).run ((next ()).withWarnings >>= _) = _
          rw [run_log, run_bind, hrun]
          cases ((w.note event).run (next ())).1 <;> rfl
      · rcases run_ask_cases q next w with ⟨stop, u, hanswer, heq⟩ | ⟨x, u, hanswer, heq⟩
        · have hkept := warnings_answer hq w
          rw [hanswer] at hkept
          have hrequest : w.run (Program.request q) = (.error stop, u) := run_ask_error hanswer
          rw [heq, Program.withWarnings_ask hq, run_bind, hrequest]
          exact ⟨[], hkept.trans (List.append_nil _).symm, rfl⟩
        · have hkept := warnings_answer hq w
          rw [hanswer] at hkept
          have hrequest : w.run (Program.request q) = (.ok x, u) := run_ask_ok hanswer
          rw [heq, Program.withWarnings_ask hq, run_bind, hrequest]
          rcases ih x u with ⟨events, hwarnings, hrun⟩
          exact ⟨events, hwarnings.trans (congrArg (· ++ events) hkept), hrun⟩

/-- The warnings before a run stay. -/
theorem warnings_run (p : Program α) (w : World) : w.warnings <+: (w.run p).2.warnings := by
  rcases run_withWarnings p w with ⟨events, hwarnings, _⟩
  exact ⟨events, hwarnings.symm⟩

theorem warnings_conclude (limit : Time) (ended : Except Stop α × World) :
    ended.2.warnings <+: (conclude limit ended).2.warnings := by
  rcases ended with ⟨(f | _ | _) | a, v⟩
  · exact List.prefix_refl _
  · exact ⟨_, (warnings_note _ v).symm⟩
  · exact ⟨_, (warnings_note _ _).symm⟩
  · exact List.prefix_refl _

end World
end RouteAudit
