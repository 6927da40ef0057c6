import RouteAudit.Proofs.Cycle.Outcome

/-!
# The course of a cycle

The tables of a store fix the stages that a cycle goes through before its verdict: late
changes and exclusions are consulted only where the comparison shows a mismatch, and the
daemon is asked only where there is one and the device metadata wants it.  Whatever else a
check is answered, at each of its requests the stages entered so far are a beginning of that
course.
-/

namespace RouteAudit

open Program

namespace Check

/-- The tables of a store do not agree on some key: it is missing, or unaccounted for. -/
def Disagree (s : Store) : Prop :=
  exists k, (k ∈ s.intended.keys ∧ k ∉ s.programmed) ∨
    (k ∈ s.interfaceHosts ∧ k ∉ s.programmed) ∨
    (k ∈ s.programmed ∧ k ∉ s.intended.keys ∧ k ∉ s.interfaceHosts)

instance (s : Store) : Decidable (Disagree s) :=
  decidable_of_iff _ Mismatches.isClean_snapshot_eq_false_iff

/-- The stages for mismatches. -/
def detour (s : Store) : List Stage :=
  if Disagree s then [.reconciling, .filtering] else []

/-- The stage for the routing daemon. -/
def daemonStage (c : Check) (s : Store) : List Stage :=
  if c.daemon.isSome && s.isSuppressing then [.controlPlane] else []

/-- The stages of a cycle before its verdict. -/
def course (c : Check) (s : Store) : List Stage :=
  [.snapshotting] ++ ([.diffing] ++ (detour s ++ c.daemonStage s))

/-- The stage of the verdict on an outcome. -/
def verdict (o : Outcome) : Stage :=
  if o.missedRoutes = [] ∧ o.missedInterfaces = [] ∧ o.unaccounted = [] ∧
      o.missedDaemonRoutes = [] then
    .passed
  else
    .failed

theorem verdict_eq (o : Outcome) : verdict o = if o.passed then .passed else .failed := by
  unfold verdict
  simp only [← Outcome.passed_iff_nil]

/-- How far a cycle goes: through its course to the verdict on its outcome, or, without an
outcome, to some point of the course. -/
inductive Went (course : List Stage) : Option (Attempt Outcome) → List Stage → Prop where
  | whole (o : Outcome) : Went course (some (.ok o)) (course ++ [verdict o])
  | failed {f : Failure} {entered : List Stage} (h : entered <+: course) :
      Went course (some (.error f)) entered
  | dropped {entered : List Stage} (h : entered <+: course) : Went course none entered

/-- How far the cycles of several checks go.  The next check starts a new course after the
verdict of the one before. -/
inductive WentThrough (stores : String → Store) :
    List Check → Report → Option (Attempt Report) → List Stage → Prop where
  | whole (r : Report) : WentThrough stores [] r (some (.ok r)) []
  | next {c : Check} {rest : List Check} {r : Report} {o : Outcome}
      {result : Option (Attempt Report)} {entered : List Stage}
      (h : WentThrough stores rest (r.insert c.site o) result entered) :
      WentThrough stores (c :: rest) r result
        (c.course (stores c.site) ++ [verdict o] ++ entered)
  | failed {c : Check} {rest : List Check} {r : Report} {f : Failure} {entered : List Stage}
      (h : entered <+: c.course (stores c.site)) :
      WentThrough stores (c :: rest) r (some (.error f)) entered
  | dropped {c : Check} {rest : List Check} {r : Report} {entered : List Stage}
      (h : entered <+: c.course (stores c.site)) : WentThrough stores (c :: rest) r none entered

/-- The stages that may have been entered when one of several checks makes a request. -/
inductive Underway (stores : String → Store) : List Check → List Stage → Prop where
  | inside {c : Check} {rest : List Check} {entered : List Stage}
      (h : entered <+: c.course (stores c.site)) : Underway stores (c :: rest) entered
  | later {c : Check} {rest : List Check} {o : Outcome} {entered : List Stage}
      (h : Underway stores rest entered) :
      Underway stores (c :: rest) (c.course (stores c.site) ++ [verdict o] ++ entered)

theorem Underway.start {stores : String → Store} {c : Check} {rest : List Check} :
    Underway stores (c :: rest) [] :=
  .inside List.nil_prefix

theorem Underway.wentThrough {stores : String → Store} {checks : List Check}
    {entered : List Stage} (h : Underway stores checks entered) (r : Report) :
    (∀ f, WentThrough stores checks r (some (.error f)) entered) ∧
      WentThrough stores checks r none entered := by
  induction h generalizing r with
  | inside h => exact ⟨fun f => .failed h, .dropped h⟩
  | @later c rest o entered _ ih =>
      rcases ih (r.insert c.site o) with ⟨hfailed, hdropped⟩
      exact ⟨fun f => .next (hfailed f), .next hdropped⟩

end Check

/-!
# Passages

The state of a passage is the list of the stages entered.
-/

/-- Stores that nothing changes, and what the stages may be when a request is made. -/
structure Passage where
  sites : List String
  stores : String → Store
  underway : List Stage → Prop

namespace Passage

/-- Reads are of known sites, and only in the stage for the daemon there are pauses. -/
def Fits (p : Passage) (entered : List Stage) : Request → Prop
  | .keys site _ _ => site ∈ p.sites
  | .row site _ _ => site ∈ p.sites
  | .subscribe site => site ∈ p.sites
  | .drain site _ => site ∈ p.sites
  | .pause _ stage => entered.getLast? = some stage
  | _ => True

def answers (p : Passage) (s : List Stage) : (q : Request) → q.Answer → List Stage → Prop
  | .keys site db pattern, x, t => x = (p.stores site).keys db pattern ∧ t = s
  | .row site db key, x, t => x = (p.stores site).fieldsOf db key ∧ t = s
  | .enter stage, _, t => t = s ++ [stage]
  | _, _, t => t = s

def surroundings (p : Passage) : Surroundings (List Stage) :=
  ⟨fun s q => p.underway s ∧ p.Fits s q, p.answers⟩

/-- As long as no stage is entered, the tables are read. -/
theorem reads {p : Passage} {site : String} {s : List Stage} (hsite : site ∈ p.sites)
    (hs : p.underway s) :
    p.surroundings.Reads site (p.stores site) (fun t => t = s) fun t => t where
  servesKeys _ _ ht := ⟨ht ▸ hs, hsite⟩
  servesRow _ _ ht := ⟨ht ▸ hs, hsite⟩
  keys _ _ _ _ := Iff.rfl
  row _ _ _ _ := Iff.rfl
  kept ht := ht

/-- The way through some further stages is open. -/
def Clear (p : Passage) (s way : List Stage) : Prop :=
  ∀ entered, entered <+: way → p.underway (s ++ entered)

variable {p : Passage} {c : Check} {s way more : List Stage}

theorem Clear.here (h : p.Clear s way) : p.underway s := by
  have hs := h [] List.nil_prefix
  rw [List.append_nil] at hs
  exact hs

theorem Clear.left (h : p.Clear s (way ++ more)) : p.Clear s way := by
  intro entered hentered
  exact h entered (hentered.trans (List.prefix_append way more))

theorem Clear.right (h : p.Clear s (way ++ more)) : p.Clear (s ++ way) more := by
  intro entered hentered
  rw [List.append_assoc]
  exact h _ ((List.prefix_append_right_inj way).mpr hentered)

/-!
# Stages of a passage
-/

theorem ensures_stage {stage : Stage} {Q : Unit → List Stage → Prop} (hs : p.underway s)
    (hQ : Q () (s ++ [stage])) : Ensures p.surroundings (enter stage) s Q := by
  refine ensures_enter.mpr ⟨⟨hs, trivial⟩, ?_⟩
  intro _ t heq
  rcases heq with rfl
  exact hQ

/-- Requests whose answers the course does not depend on. -/
theorem ensures_any {q : Request} {Q : q.Answer → List Stage → Prop} (hq : IsQuestion q)
    (hs : p.underway s) (hfits : p.Fits s q) (hkept : ∀ x t, p.answers s q x t → t = s)
    (hQ : ∀ x, Q x s) : Ensures p.surroundings (request q) s Q := by
  refine (ensures_request hq).mpr ⟨⟨hs, hfits⟩, ?_⟩
  intro x t hx
  obtain rfl := hkept x t hx
  exact hQ x

theorem ensures_takeSnapshot (hsite : c.site ∈ p.sites) (hclear : p.Clear s [.snapshotting]) :
    Ensures p.surroundings c.takeSnapshot s fun snapshot t =>
      snapshot = (p.stores c.site).snapshot ∧ t = s ++ [.snapshotting] := by
  have hentered : p.underway (s ++ [.snapshotting]) := hclear _ (List.prefix_refl _)
  unfold Check.takeSnapshot
  rw [ensures_bind]
  refine ensures_stage hclear.here ?_
  rw [ensures_bind]
  refine ensures_any (q := .subscribe c.site) trivial hentered hsite (fun _ _ h => h) fun _ => ?_
  exact ((reads hsite hentered).ensures_snapshot rfl).mpr ⟨rfl, rfl⟩

theorem ensures_compareTables {snapshot : Snapshot} (hclear : p.Clear s [.diffing]) :
    Ensures p.surroundings (c.compareTables snapshot) s fun m t =>
      m = .ofSnapshot snapshot ∧ t = s ++ [.diffing] := by
  rw [Check.ensures_compareTables_iff]
  exact ensures_stage hclear.here ⟨rfl, rfl⟩

theorem ensures_reconcile {m : Mismatches} (hsite : c.site ∈ p.sites)
    (hclear : p.Clear s [.reconciling]) :
    Ensures p.surroundings (c.reconcile m) s fun _ t => t = s ++ [.reconciling] := by
  have hentered : p.underway (s ++ [.reconciling]) := hclear _ (List.prefix_refl _)
  rw [Check.ensures_reconcile_iff]
  refine ensures_stage hclear.here ?_
  refine ensures_any (q := .remaining) trivial hentered trivial (fun _ _ h => h) fun left => ?_
  exact ensures_any (q := .drain c.site _) trivial hentered hsite (fun _ _ h => h) fun _ => rfl

theorem ensures_exclude {routes : Routes} {m : Mismatches} (hsite : c.site ∈ p.sites)
    (hclear : p.Clear s [.filtering]) :
    Ensures p.surroundings (c.exclude routes m) s fun _ t => t = s ++ [.filtering] := by
  have hentered : p.underway (s ++ [.filtering]) := hclear _ (List.prefix_refl _)
  rw [Check.ensures_exclude_iff]
  refine ensures_stage hclear.here ?_
  exact ((reads hsite hentered).ensures_context rfl).imp fun _ _ hparts => hparts.1

theorem ensures_explain {routes : Routes} (hsite : c.site ∈ p.sites)
    (hclear : p.Clear s (Check.detour (p.stores c.site))) :
    Ensures p.surroundings (c.explain routes (.ofSnapshot (p.stores c.site).snapshot)) s
      fun _ t => t = s ++ Check.detour (p.stores c.site) := by
  unfold Check.explain
  unfold Check.detour at hclear ⊢
  by_cases hdisagree : Check.Disagree (p.stores c.site)
  · have hdirty := Mismatches.isClean_snapshot_eq_false_iff.mpr hdisagree
    rw [if_pos hdisagree] at hclear ⊢
    rw [if_neg (ne_true_of_eq_false hdirty), ensures_bind]
    have hway : p.Clear s ([.reconciling] ++ [.filtering]) := hclear
    refine (ensures_reconcile hsite hway.left).imp ?_
    intro m t heq
    rcases heq with rfl
    refine (ensures_exclude hsite hway.right).imp ?_
    intro n t heq
    rw [heq, List.append_assoc]
    rfl
  · have hclean := Bool.of_not_eq_false (mt Mismatches.isClean_snapshot_eq_false_iff.mp hdisagree)
    rw [if_pos hclean, if_neg hdisagree, ensures_pure, List.append_nil]

theorem ensures_askDaemon (hsite : c.site ∈ p.sites)
    (hclear : p.Clear s (c.daemonStage (p.stores c.site))) :
    Ensures p.surroundings c.askDaemon s fun _ t =>
      t = s ++ c.daemonStage (p.stores c.site) := by
  unfold Check.askDaemon
  unfold Check.daemonStage at hclear ⊢
  cases hdaemon : c.daemon with
  | none =>
      rw [if_neg (by simp), List.append_nil]
      exact rfl
  | some daemon =>
      rcases daemon with ⟨daemon, settings⟩
      rw [hdaemon] at hclear
      dsimp only
      rw [ensures_bind, (reads hsite hclear.here).ensures_suppressing rfl]
      cases hsuppressing : (p.stores c.site).isSuppressing with
      | false =>
          rw [if_neg (by simp), if_neg (by simp), List.append_nil]
          exact rfl
      | true =>
          rw [hsuppressing] at hclear
          have hway : p.Clear s [.controlPlane] := hclear
          have hentered : p.underway (s ++ [.controlPlane]) := hway _ (List.prefix_refl _)
          rw [if_pos rfl, if_pos (by simp), ensures_bind]
          refine ensures_stage hway.here ?_
          unfold ControlPlane.checkPending
          rw [ensures_within]
          refine (Check.keeps_reads _ _ _).ensures ?_ ?_ rfl
          · intro t q heq hq
            rcases heq with rfl
            cases q with
            | fetch daemon => exact ⟨hentered, trivial⟩
            | pause duration stage =>
                obtain rfl : stage = .controlPlane := hq
                exact ⟨hentered, List.getLast?_concat⟩
            | _ => exact absurd hq id
          · intro t q x u heq hq hx
            cases q with
            | fetch daemon => exact hx.trans heq
            | pause duration stage => exact hx.trans heq
            | _ => exact absurd hq id

theorem ensures_conclude {o : Outcome} (hs : p.underway s) :
    Ensures p.surroundings (Check.conclude o) s fun verdictOf t =>
      verdictOf = o ∧ t = s ++ [Check.verdict o] := by
  rw [Check.ensures_conclude_iff, ← Check.verdict_eq]
  exact ensures_stage hs ⟨rfl, rfl⟩

/-!
# Whole cycles
-/

theorem ensures_cycle (hsite : c.site ∈ p.sites)
    (hclear : p.Clear s (c.course (p.stores c.site))) :
    Ensures p.surroundings c.cycle s fun o t =>
      t = s ++ (c.course (p.stores c.site) ++ [Check.verdict o]) := by
  unfold Check.course at hclear ⊢
  unfold Check.cycle Check.stages
  rw [ensures_within, ensures_bind]
  refine (ensures_takeSnapshot hsite hclear.left).imp ?_
  intro snapshot t hparts
  rcases hparts with ⟨rfl, rfl⟩
  rw [ensures_bind]
  refine (ensures_compareTables hclear.right.left).imp ?_
  intro m t hparts
  rcases hparts with ⟨rfl, rfl⟩
  rw [ensures_bind]
  refine (ensures_explain hsite hclear.right.right.left).imp ?_
  intro m t heq
  rcases heq with rfl
  rw [ensures_bind]
  refine (ensures_askDaemon hsite hclear.right.right.right).imp ?_
  intro records t heq
  rcases heq with rfl
  have hend := hclear.right.right.right _ (List.prefix_refl _)
  refine (ensures_conclude hend).imp ?_
  intro o t hparts
  rcases hparts with ⟨rfl, rfl⟩
  simp only [List.append_assoc]

theorem ensures_checkAll {checks : List Check} {r : Report}
    (hsites : ∀ c ∈ checks, c.site ∈ p.sites)
    (hopen : ∀ entered, Check.Underway p.stores checks entered → p.underway (s ++ entered)) :
    Ensures p.surroundings (checkAll checks r) s fun report t => exists entered,
      t = s ++ entered ∧ Check.WentThrough p.stores checks r (some (.ok report)) entered := by
  induction checks generalizing r s with
  | nil => exact ⟨[], (List.append_nil s).symm, .whole r⟩
  | cons c rest ih =>
      unfold checkAll
      rw [ensures_bind]
      have hsite := hsites c List.mem_cons_self
      refine (ensures_cycle hsite fun entered hentered => hopen entered (.inside hentered)).imp ?_
      intro o t heq
      rcases heq with rfl
      refine (ih (fun d hd => hsites d (List.mem_cons_of_mem c hd)) ?_).imp ?_
      · intro entered hentered
        rw [List.append_assoc]
        exact hopen _ (.later hentered)
      · intro report t hparts
        rcases hparts with ⟨entered, rfl, hwent⟩
        exact ⟨_, List.append_assoc _ _ _, .next hwent⟩

end Passage
end RouteAudit
