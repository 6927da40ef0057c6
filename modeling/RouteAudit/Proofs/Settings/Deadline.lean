import RouteAudit.Launch
import RouteAudit.Proofs.Cycle.Overrun
import RouteAudit.Proofs.Settings.Namespaces

/-!
# Settings and their time limit

The window of valid settings is shorter than the time limit of a check.  Nothing of that kind
is asked of the waits for a routing daemon, and both add up over the namespaces.  So there are
valid settings whose checks time out although everything answers at once: those that have a
daemon to wait for, and for all namespaces together more to wait for than the time limit.
-/

namespace RouteAudit

/-!
# The checks of settings
-/

namespace Launch

variable {machine : Machine} {engine : Pattern.Engine} {settings : Settings} {mode : Mode}
  {number : Nat} {names : List String} {checks : List Check}

theorem value_checks_cons {locals : LocalInterfaces} {name : String} {rest : List String}
    (h : (LocalInterfaces.ofSettings machine.files settings.check engine).value = .ok locals) :
    (Launch.checks machine engine settings mode number (name :: rest)).value =
      (Launch.checks machine engine settings mode (number + 1) rest).value.map
        (checkOf settings mode name number locals :: ·) := by
  rw [Launch.checks]
  dsimp only [bind]
  rw [h]
  rfl

/-- Where the local interfaces are known, there are checks. -/
theorem exists_checks {locals : LocalInterfaces}
    (h : (LocalInterfaces.ofSettings machine.files settings.check engine).value = .ok locals)
    (number : Nat) (names : List String) :
    exists checks,
      (Launch.checks machine engine settings mode number names).value = .ok checks := by
  induction names generalizing number with
  | nil => exact ⟨[], rfl⟩
  | cons name rest ih =>
      rcases ih (number + 1) with ⟨checks, hchecks⟩
      rw [value_checks_cons h, hchecks]
      exact ⟨_, rfl⟩

/-- There is a check for each name, and their numbers start where they are to start. -/
theorem checks_eq
    (h : (Launch.checks machine engine settings mode number names).value = .ok checks) :
    checks.map Check.site = names ∧ ∀ c ∈ checks, exists own locals,
      own < number + names.length ∧ c = checkOf settings mode c.site own locals := by
  induction names generalizing number checks with
  | nil =>
      cases h
      exact ⟨rfl, nofun⟩
  | cons name rest ih =>
      cases hlocals : (LocalInterfaces.ofSettings machine.files settings.check engine).value with
      | error failure =>
          rw [Launch.checks] at h
          dsimp only [bind] at h
          rw [hlocals] at h
          cases h
      | ok locals =>
          rw [value_checks_cons hlocals] at h
          cases hmore : (Launch.checks machine engine settings mode (number + 1) rest).value with
          | error o =>
              rw [hmore] at h
              cases h
          | ok more =>
              rw [hmore] at h
              cases h
              rcases ih hmore with ⟨hnames, hchecks⟩
              refine ⟨congrArg (name :: ·) hnames, ?_⟩
              refine List.forall_mem_cons.mpr ⟨⟨number, locals, ?_, rfl⟩, ?_⟩
              · exact Nat.lt_add_of_pos_right (Nat.succ_pos _)
              · intro c hc
                rcases hchecks c hc with ⟨own, locals, hown, hc⟩
                rw [Nat.add_right_comm] at hown
                exact ⟨own, locals, hown, hc⟩

end Launch

namespace Settings

variable {s : Settings} {machine : Launch.Machine} {engine : Pattern.Engine} {mode : Mode}
  {names : List String} {checks : List Check}

/-- How long the checks of settings wait for a routing daemon. -/
def daemonPatience (s : Settings) : Nat := if s.daemon.enabled then s.daemon.patience else 0

theorem daemonPatience_checkOf (site : String) (number : Nat) (locals : LocalInterfaces) :
    (Launch.checkOf s mode site number locals).daemonPatience = s.daemonPatience := by
  unfold daemonPatience Check.daemonPatience Launch.checkOf
  split
  · rfl
  · rfl

/-- All checks have the window and the daemon of the settings. -/
theorem waits_of_checks
    (hchecks : (Launch.checks machine engine s mode 0 names).value = .ok checks) :
    checks.length = names.length ∧ ∀ c ∈ checks,
      c.settings.windowMillis = s.check.windowMillis ∧ c.daemonPatience = s.daemonPatience := by
  rcases Launch.checks_eq hchecks with ⟨hnames, hown⟩
  constructor
  · rw [← hnames, List.length_map]
  · intro c hc
    rcases hown c hc with ⟨number, locals, _, heq⟩
    rw [heq]
    exact ⟨rfl, daemonPatience_checkOf c.site number locals⟩

/-- Checks that have their windows and waits end within the time limit do not time out where
everything answers at once. -/
theorem ne_timeout (hchecks : (Launch.checks machine engine s mode 0 names).value = .ok checks)
    (hroom : s.daemonPatience = 0 ∨
      names.length * (s.check.windowMillis + s.daemonPatience) ≤ s.check.timeoutMillis)
    {w : World} (hcancel : w.cancelAt = none) (hstores : w.AnswersAtOnce)
    (hdaemons : w.DaemonsNameNoStage) (stage : Stage) (told : Time) :
    (World.bounded s.check.timeoutMillis (checkAll checks .empty) w).1 ≠
      .error (.timeout stage told) := by
  rcases waits_of_checks hchecks with ⟨hlength, hwaits⟩
  refine World.bounded_ne_timeout (Check.ensures_checkAll_by (fun c hc => (hwaits c hc).1)
    (fun c hc => (hwaits c hc).2) (Nat.le_add_right _ _) ?_) hcancel hstores hdaemons stage told
  rw [hlength]
  exact hroom.imp id fun hfits => Nat.add_le_add_left hfits w.now

/-- Other checks time out in some such world. -/
theorem exists_timeout (hchecks : (Launch.checks machine engine s mode 0 names).value = .ok checks)
    (hdistinct : names.Nodup) (hwaits : s.daemonPatience ≠ 0)
    (hlong : s.check.timeoutMillis <
      names.length * (s.check.windowMillis + s.daemonPatience)) :
    exists stage, (World.bounded s.check.timeoutMillis (checkAll checks .empty)
      (Overrun.world names)).1 = .error (.timeout stage s.check.timeoutMillis) := by
  rcases Launch.checks_eq hchecks with ⟨hnames, hown⟩
  rcases waits_of_checks hchecks with ⟨hlength, hsame⟩
  have henabled : s.daemon.enabled = true := by
    unfold daemonPatience at hwaits
    by_contra hdisabled
    exact hwaits (if_neg hdisabled)
  rw [← hlength] at hlong
  refine Overrun.exists_timeout ?_ (Nat.pos_of_ne_zero hwaits) (hnames ▸ hdistinct) hlong
  intro c hc
  rcases hown c hc with ⟨number, locals, hnumber, heq⟩
  rw [Nat.zero_add] at hnumber
  refine ⟨?_, (hsame c hc).1, ⟨number, s.daemon, ?_, hnumber⟩, (hsame c hc).2⟩
  · rw [← hnames]
    exact List.mem_map_of_mem hc
  · rw [heq]
    exact if_pos henabled

/-- The checks of valid settings never time out where everything answers at once if and only if
they wait for no routing daemon, or their windows and waits for all namespaces end within the
time limit. -/
theorem never_timeout_iff {only : Option String} {namespaces : List (String × DatabaseSettings)}
    (hvalid : s.validate = .ok ()) (hnamespaces : s.resolve only = .ok namespaces)
    (hchecks :
      (Launch.checks machine engine s mode 0 (namespaces.map Prod.fst)).value = .ok checks) :
    (∀ w : World, w.cancelAt = none → w.AnswersAtOnce → w.DaemonsNameNoStage → ∀ stage limit,
      (World.bounded s.check.timeoutMillis (checkAll checks .empty) w).1 ≠
        .error (.timeout stage limit)) ↔
      s.daemonPatience = 0 ∨ namespaces.length * (s.check.windowMillis + s.daemonPatience) ≤
        s.check.timeoutMillis := by
  have hlength : (namespaces.map Prod.fst).length = namespaces.length := List.length_map _
  have hdistinct : (namespaces.map Prod.fst).Nodup := by
    rw [names_of_resolve hvalid hnamespaces]
    cases only with
    | none => exact nodup_names hvalid
    | some name => exact List.nodup_singleton name
  constructor
  · intro hnever
    by_contra hlong
    rw [not_or, Nat.not_le, ← hlength] at hlong
    rcases exists_timeout hchecks hdistinct hlong.1 hlong.2 with ⟨stage, htimeout⟩
    exact hnever _ rfl (Overrun.answersAtOnce_world _) (Overrun.daemonsNameNoStage_world _) _ _
      htimeout
  · intro hroom w hcancel hstores hdaemons stage told
    rw [← hlength] at hroom
    exact ne_timeout hchecks hroom hcancel hstores hdaemons stage told

/-!
# Chassis of several chips

By default the check of a namespace waits for at most 31 seconds, and all checks together may
take 120.
-/

def asicNames (number : Nat) : List String :=
  (List.range number).map fun n => "asic" ++ toString n

/-- A namespace for each chip and a routing daemon to be asked, all as by default. -/
def asics (number : Nat) : Settings :=
  { check := { localPatterns := [] }
    daemon := { enabled := true }
    namespaces := (asicNames number).map fun name => { name } }

/-- A machine without files. -/
def bareMachine : Launch.Machine := ⟨fun _ => .absent, "Connection refused"⟩

/-- No pattern and no file keeps the chips from being checked. -/
theorem exists_checks_asics (number : Nat) :
    exists checks, (Launch.checks bareMachine .roomy (asics number) .errors 0
      (asicNames number)).value = .ok checks :=
  Launch.exists_checks rfl 0 (asicNames number)

theorem never_timeout_of_threeAsics :
    (asics 3).validate = .ok () ∧ (asics 3).resolve none = .ok (asics 3).allNamespaces ∧
      exists checks, (Launch.checks bareMachine .roomy (asics 3) .errors 0
          ((asics 3).allNamespaces.map Prod.fst)).value = .ok checks ∧
        (World.bounded (asics 3).check.timeoutMillis (checkAll checks .empty)
          (Overrun.world (asicNames 3))).1 ≠ .error (.timeout .controlPlane 120000) := by
  have hvalid : (asics 3).validate = .ok () := by decide +kernel
  have hnamespaces : (asics 3).resolve none = .ok (asics 3).allNamespaces := rfl
  rcases exists_checks_asics 3 with ⟨checks, hchecks⟩
  refine ⟨hvalid, hnamespaces, checks, hchecks, ?_⟩
  have hnever := (never_timeout_iff hvalid hnamespaces hchecks).mpr (Or.inr (by decide))
  exact hnever _ rfl (Overrun.answersAtOnce_world _) (Overrun.daemonsNameNoStage_world _) _ _

/-- Four valid namespaces are too many. -/
theorem fourAsics_time_out :
    (asics 4).validate = .ok () ∧ (asics 4).resolve none = .ok (asics 4).allNamespaces ∧
      exists checks, (Launch.checks bareMachine .roomy (asics 4) .errors 0
          ((asics 4).allNamespaces.map Prod.fst)).value = .ok checks ∧
        (Overrun.world (asicNames 4)).cancelAt = none ∧
        (Overrun.world (asicNames 4)).AnswersAtOnce ∧
        (Overrun.world (asicNames 4)).DaemonsNameNoStage ∧
        exists stage, (World.bounded (asics 4).check.timeoutMillis (checkAll checks .empty)
          (Overrun.world (asicNames 4))).1 = .error (.timeout stage 120000) := by
  rcases exists_checks_asics 4 with ⟨checks, hchecks⟩
  refine ⟨by decide +kernel, rfl, checks, hchecks, rfl, Overrun.answersAtOnce_world _,
    Overrun.daemonsNameNoStage_world _, ?_⟩
  exact exists_timeout hchecks (by decide) (by decide) (by decide)

end Settings
end RouteAudit
