import RouteAudit.Proofs.Cycle.Course
import RouteAudit.Proofs.World.Trials

/-!
# The stages of a trial

However checks are run, the stages that they enter are a beginning of their course, and all
of it if there is a result.  The stage in which a run stands is the last one that it entered,
and a cancellation or a timeout names that stage.
-/

namespace RouteAudit

open Program

/-!
# Worlds in passage
-/

namespace Passage

variable {p : Passage} {base w v : World} {s : List Stage} {f : Failure}

/-- A world whose stores hold what the passage says, and which has entered some stages since
an earlier world. -/
structure Holds (p : Passage) (base : World) (s : List Stage) (w : World) : Prop where
  tables : ∀ site ∈ p.sites, exists m, w.site site = .memory m ∧ m.rows = (p.stores site).rows
  quiet : ∀ o ∈ w.outside, o.site ∉ p.sites
  entered : w.entered = s.reverse ++ base.entered
  stage : w.stage = s.getLast?.getD .idle
  daemons : base.DaemonsNameNoStage → w.DaemonsNameNoStage

theorem Holds.quietAt (h : p.Holds base s w) {site : String} (hsite : site ∈ p.sites) :
    ∀ o ∈ w.outside, o.site ≠ site := by
  rintro o ho rfl
  exact h.quiet o ho hsite

theorem Holds.onward (h : p.Holds base s w) (hwv : World.Onward w v) : p.Holds base s v where
  tables site hsite := by
    rcases h.tables site hsite with ⟨m, hm, hrows⟩
    rcases hwv.tables site m (h.quietAt hsite) hm with ⟨n, hn, hmn⟩
    exact ⟨n, hn, hmn.rows.trans hrows⟩
  quiet o ho := h.quiet o (hwv.outside ho)
  entered := hwv.entered.trans h.entered
  stage := hwv.stage.trans h.stage
  daemons hdaemons := (h.daemons hdaemons).onward hwv

theorem Holds.enter {stage left : Stage} (h : p.Holds base s w)
    (henter : w.enter stage = (.ok left, v)) : p.Holds base (s ++ [stage]) v := by
  rcases World.enter_of_ok henter with ⟨_, rfl⟩
  refine ⟨h.tables, h.quiet, ?_, ?_, h.daemons⟩
  · rw [List.reverse_append]
    exact congrArg (stage :: ·) h.entered
  · rw [List.getLast?_concat]
    rfl

theorem Holds.subscribe {name : String} (h : p.Holds base s w)
    (hsubscribe : w.subscribe name = (.ok (), v)) : p.Holds base s v := by
  rcases World.subscribe_of_ok hsubscribe with ⟨m, hm, rfl⟩
  refine ⟨?_, h.quiet, h.entered, h.stage, h.daemons⟩
  intro site hsite
  rcases h.tables site hsite with ⟨n, hn, hrows⟩
  by_cases hname : site = name
  · subst hname
    rw [hm] at hn
    cases hn
    exact ⟨_, World.site_setSite_self, hrows⟩
  · exact ⟨n, (World.site_setSite_of_ne hname).trans hn, hrows⟩

theorem follows (p : Passage) (base : World) : World.Follows p.surroundings (p.Holds base) where
  note event h := h.onward (World.Onward.of_note event _)
  sound := by
    intro s w q x v hq h hserves hanswer
    rcases hserves with ⟨_, hfits⟩
    by_cases hpassive : World.IsPassive q
    · have hwv := World.onward_answer hpassive w
      rw [hanswer] at hwv
      refine ⟨s, ?_, h.onward hwv⟩
      cases q with
      | log event => exact absurd hq id
      | enter stage => exact absurd hpassive id
      | subscribe site => exact absurd hpassive id
      | keys site db pattern =>
          rcases h.tables site hfits with ⟨m, hm, hrows⟩
          refine ⟨?_, rfl⟩
          exact (World.keys_of_ok (h.quietAt hfits) hm hanswer).trans (Store.keys_congr hrows)
      | row site db key =>
          rcases h.tables site hfits with ⟨m, hm, hrows⟩
          refine ⟨?_, rfl⟩
          exact (World.row_of_ok hm hanswer).trans (Store.fieldsOf_congr hrows)
      | remaining => rfl
      | drain site window => rfl
      | fetch daemon => rfl
      | pause duration stage => rfl
    · cases q with
      | enter stage => exact ⟨s ++ [stage], rfl, h.enter hanswer⟩
      | subscribe site => exact ⟨s, rfl, h.subscribe hanswer⟩
      | _ => exact absurd trivial hpassive

/-!
# Stopped passages
-/

/-- A failure names the stage in which the passage stands, or none. -/
theorem Holds.named {q : Request} {stage : Stage} (h : p.Holds base s w)
    (hdaemons : base.DaemonsNameNoStage) (hfits : p.Fits s q)
    (hanswer : w.answer q = (.error (.failed f), v)) (hstage : f.stage? = some stage) :
    stage = s.getLast?.getD .idle := by
  have hnone : f.stage? ≠ none := by
    rw [hstage]
    nofun
  cases q with
  | log event => cases hanswer
  | remaining => cases hanswer
  | keys site db pattern => exact absurd (World.stage?_of_keys hanswer) hnone
  | row site db key => exact absurd (World.stage?_of_row hanswer) hnone
  | subscribe site => exact absurd (World.stage?_of_subscribe hanswer) hnone
  | drain site window => exact absurd (World.stage?_of_collect hanswer) hnone
  | fetch daemon => exact absurd (World.stage?_of_fetch (h.daemons hdaemons) hanswer) hnone
  | enter next =>
      rcases World.enter_of_error hanswer with ⟨hstop, _⟩
      cases hstop
      cases hstage
      exact h.stage
  | pause duration during =>
      obtain rfl := World.pause_failed hanswer
      cases hstage
      have hlast : s.getLast? = some stage := hfits
      rw [hlast]
      rfl

end Passage

/-!
# Trials
-/

namespace Trial

variable {α : Type} {p : Passage} {program : Program α} {w v : World} {t : Trial}
  {result : Option (Attempt α)}

/-- The stages that a trial entered, and what its end says of them. -/
structure Marks (w : World) (result : Option (Attempt α)) (v : World) (way : List Stage) :
    Prop where
  entered : v.entered = way.reverse ++ w.entered
  stage : v.stage = way.getLast?.getD .idle
  named : w.DaemonsNameNoStage → ∀ f stage, result = some (.error f) → f.stage? = some stage →
    stage = way.getLast?.getD .idle

theorem holds_start (htables : ∀ site ∈ p.sites, w.site site = .memory (p.stores site))
    (hquiet : ∀ o ∈ w.outside, o.site ∉ p.sites) (t : Trial) : p.Holds w [] (t.start w) := by
  exact ⟨fun site hsite => ⟨_, htables site hsite, rfl⟩, hquiet, rfl, rfl, fun h => h⟩

/-- A run that is stopped ends within the passage. -/
theorem marks_of_stop {s : List Stage} {stop : Stop} (hv : p.Holds w s v)
    (hnamed : w.DaemonsNameNoStage → ∀ f stage, stop = .failed f → f.stage? = some stage →
      stage = s.getLast?.getD .idle) :
    Marks w (some (World.conclude t.limit (Except.error (α := α) stop, v)).1)
      (World.conclude t.limit (Except.error (α := α) stop, v)).2 s := by
  cases stop with
  | failed f =>
      refine ⟨hv.entered, hv.stage, ?_⟩
      intro hdaemons g stage hg hstage
      cases hg
      exact hnamed hdaemons f stage rfl hstage
  | cancelled =>
      refine ⟨hv.entered, hv.stage, ?_⟩
      intro _ g stage hg hstage
      cases hg
      cases hstage
      exact hv.stage
  | overdue =>
      refine ⟨hv.entered, hv.stage, ?_⟩
      intro _ g stage hg hstage
      cases hg
      cases hstage
      exact hv.stage

/-- A trial of a program that keeps to a passage has its result at the end of the passage, and
stays within it otherwise. -/
theorem exists_marks {Q : α → List Stage → Prop} (hprogram : Ensures p.surroundings program [] Q)
    (hopen : p.underway []) (hstart : p.Holds w [] (t.start w))
    (hends : t.Ends program w result v) :
    exists way, Marks w result v way ∧ (∀ a, result = some (.ok a) → Q a way) ∧
      ((∀ a, result ≠ some (.ok a)) → p.underway way) := by
  cases hends with
  | unbegun hcancelled =>
      refine ⟨[], ⟨hstart.entered, hstart.stage, ?_⟩, nofun, fun _ => hopen⟩
      intro _ g stage hg hstage
      cases hg
      cases hstage
      rfl
  | @ran outcome u hrun =>
      cases outcome with
      | ok a =>
          rcases (p.follows w).ensured hprogram hstart hrun with ⟨s, hQ, hu⟩
          refine ⟨s, ⟨hu.entered, hu.stage, nofun⟩, ?_, ?_⟩
          · intro b hb
            cases hb
            exact hQ
          · intro hnone
            exact absurd rfl (hnone a)
      | error stop =>
          rcases (p.follows w).stopped hprogram hstart hrun with
            ⟨s, q, x, hq, ⟨hunderway, hfits⟩, hx, hanswer⟩
          have hu := hx.onward (World.onward_of_error hanswer)
          refine ⟨s, marks_of_stop hu ?_, ?_, fun _ => hunderway⟩
          · intro hdaemons f stage hstop hstage
            subst hstop
            exact hx.named hdaemons hfits hanswer hstage
          · intro a ha
            exact absurd (Option.some.inj ha) World.conclude_error_ne_ok
  | @left asked q next _ hq hasked =>
      rcases (p.follows w).at_point hprogram hstart hasked with ⟨s, hrest, hu⟩
      have hserved := ((ensures_ask hq).mp hrest).1
      exact ⟨s, ⟨hu.entered, hu.stage, nofun⟩, nofun, fun _ => hserved.1⟩

end Trial

namespace Check

variable {c : Check} {rest : List Check} {w : World}

theorem holds_start_of_tables {p : Passage} {checks : List Check}
    (hsites : p.sites = checks.map Check.site)
    (htables : ∀ d ∈ checks, w.site d.site = .memory (p.stores d.site))
    (hquiet : ∀ d ∈ checks, ∀ o ∈ w.outside, o.site ≠ d.site) (t : Trial) :
    p.Holds w [] (t.start w) := by
  apply Trial.holds_start
  · intro site hsite
    rw [hsites] at hsite
    rcases List.mem_map.mp hsite with ⟨d, hd, rfl⟩
    exact htables d hd
  · intro o ho hsite
    rw [hsites] at hsite
    rcases List.mem_map.mp hsite with ⟨d, hd, heq⟩
    exact hquiet d hd o ho heq.symm

/-- The stages of one cycle, and those of the cycles of several checks.  Both are entered in
the order of their courses, as a whole if there is a result and as a beginning otherwise, and
after a cancellation none is entered any more. -/
theorem stages_of_trial (stores : String → Store) (t : Trial)
    (htables : ∀ d ∈ c :: rest, w.site d.site = .memory (stores d.site))
    (hquiet : ∀ d ∈ c :: rest, ∀ o ∈ w.outside, o.site ≠ d.site) :
    (exists way, Trial.Marks w (t.run c.cycle w).1 (t.run c.cycle w).2 way ∧
      Went (c.course (stores c.site)) (t.run c.cycle w).1 way) ∧
    (∀ r, exists way, Trial.Marks w (t.run (checkAll (c :: rest) r) w).1
        (t.run (checkAll (c :: rest) r) w).2 way ∧
      WentThrough stores (c :: rest) r (t.run (checkAll (c :: rest) r) w).1 way) ∧
    (∀ (α : Type) (left : Program α) (u : World), u.isCancelled = true →
      (u.run left).2.entered = u.entered ∧
      ∀ asked later v, World.Asks left u asked later v → v.entered = u.entered) := by
  refine ⟨?_, ?_, ?_⟩
  · let p : Passage := ⟨(c :: rest).map Check.site, stores, (· <+: c.course (stores c.site))⟩
    have hcycle : Ensures p.surroundings c.cycle [] fun o way =>
        way = [] ++ (c.course (stores c.site) ++ [verdict o]) :=
      Passage.ensures_cycle (List.mem_map_of_mem List.mem_cons_self) fun way hway => hway
    rcases Trial.exists_marks hcycle List.nil_prefix
      (holds_start_of_tables rfl htables hquiet t) (t.ends_run c.cycle w) with
      ⟨way, hmarks, hok, hother⟩
    refine ⟨way, hmarks, ?_⟩
    generalize (t.run c.cycle w).1 = result at hok hother
    match result with
    | some (.ok o) =>
        rw [hok o rfl]
        exact .whole o
    | some (.error f) => exact .failed (hother nofun)
    | none => exact .dropped (hother nofun)
  · intro r
    let p : Passage := ⟨(c :: rest).map Check.site, stores, Underway stores (c :: rest)⟩
    have hall : Ensures p.surroundings (checkAll (c :: rest) r) [] fun report way =>
        exists onward, way = [] ++ onward ∧
          WentThrough stores (c :: rest) r (some (.ok report)) onward :=
      Passage.ensures_checkAll (fun d hd => List.mem_map_of_mem hd) fun way hway => hway
    rcases Trial.exists_marks hall Underway.start
      (holds_start_of_tables rfl htables hquiet t) (t.ends_run (checkAll (c :: rest) r) w) with
      ⟨way, hmarks, hok, hother⟩
    refine ⟨way, hmarks, ?_⟩
    generalize (t.run (checkAll (c :: rest) r) w).1 = result at hok hother
    match result with
    | some (.ok report) =>
        rcases hok report rfl with ⟨onward, rfl, hwent⟩
        exact hwent
    | some (.error f) => exact ((hother nofun).wentThrough r).1 f
    | none => exact ((hother nofun).wentThrough r).2
  · intro α left u hcancelled
    refine ⟨World.entered_run_of_isCancelled hcancelled, ?_⟩
    intro asked later v hasked
    exact World.entered_of_isCancelled hcancelled hasked

/-- A store with a route that is not programmed. -/
def unroutedStore : Store := Store.empty.addRoute "10.0.0.0/24" "Ethernet0" "10.1.0.1"

/-- The same store with a configuration that cannot be read. -/
def unconfiguredStore : Store := unroutedStore.fail .config

theorem site_around (store : Store) :
    ∀ d ∈ [plain], (World.around store).site d.site = .memory store := by
  intro d hd
  cases List.mem_singleton.mp hd
  exact World.site_setSite_self (w := {})

theorem quiet_around (store : Store) :
    ∀ d ∈ [plain], ∀ o ∈ (World.around store).outside, o.site ≠ d.site :=
  fun _ _ _ ho => absurd ho List.not_mem_nil

theorem course_plain : plain.course unroutedStore =
    [.snapshotting, .diffing, .reconciling, .filtering] := by
  decide +kernel

/-- The cycle of a store that can be read goes through its course to the verdict. -/
theorem exists_outcome_unroutedStore : exists o,
    ((Trial.watched 60000 (some 5000)).run plain.cycle (World.around unroutedStore)).1 =
      some (.ok o) ∧ verdict o = .failed := by
  have hverdict : (((Trial.watched 60000 (some 5000)).run plain.cycle
      (World.around unroutedStore)).1.bind Except.toOption).map verdict = some .failed := by
    decide +kernel
  rcases Option.map_eq_some_iff.mp hverdict with ⟨o, ho, hfailed⟩
  rcases Option.bind_eq_some_iff.mp ho with ⟨result, hresult, hok⟩
  cases result with
  | ok p =>
      cases hok
      exact ⟨o, hresult, hfailed⟩
  | error f => cases hok

theorem stages_of_unconfiguredStore :
    (exists way, Trial.Marks (World.around unconfiguredStore)
        ((Trial.watched 60000 (some 5000)).run plain.cycle (World.around unconfiguredStore)).1
        ((Trial.watched 60000 (some 5000)).run plain.cycle (World.around unconfiguredStore)).2 way ∧
      Went [.snapshotting, .diffing, .reconciling, .filtering]
        ((Trial.watched 60000 (some 5000)).run plain.cycle (World.around unconfiguredStore)).1
        way) ∧
    ((Trial.watched 60000 (some 5000)).run plain.cycle (World.around unroutedStore)).2.entered =
      [.failed, .filtering, .reconciling, .diffing, .snapshotting] := by
  constructor
  · have hcourse : plain.course unconfiguredStore = _ := course_plain
    rcases (stages_of_trial (fun _ => unconfiguredStore) (.watched 60000 (some 5000))
      (site_around _) (quiet_around _)).1 with ⟨way, hmarks, hwent⟩
    rw [hcourse] at hwent
    exact ⟨way, hmarks, hwent⟩
  · rcases exists_outcome_unroutedStore with ⟨o, hresult, hfailed⟩
    rcases (stages_of_trial (fun _ => unroutedStore) (.watched 60000 (some 5000))
      (site_around _) (quiet_around _)).1 with ⟨way, hmarks, hwent⟩
    rw [hresult, course_plain] at hwent
    cases hwent
    rw [hmarks.entered, hfailed]
    rfl

end Check
end RouteAudit
