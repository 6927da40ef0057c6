import RouteAudit.Proofs.Store.Tables
import RouteAudit.Proofs.World.Calm

/-!
# Reading the tables of a store

Where every listing and every row is that of a store, the snapshot and the tables of the
rules are those that the store holds at one moment.  That is so in a calm world, and up to
the point where a run is stopped also in others.
-/

namespace RouteAudit

open Program

variable {σ : Type}

/-- Surroundings in which the tables of a site are those of a store, as long as an invariant
holds.  Listing keys may change the state, in the way in which time passes. -/
structure Surroundings.Reads (E : Surroundings σ) (site : String) (store : Store)
    (inv : σ → Prop) (pass : σ → σ) : Prop where
  servesKeys : ∀ {s} db pattern, inv s → E.serves s (.keys site db pattern)
  servesRow : ∀ {s} db key, inv s → E.serves s (.row site db key)
  keys : ∀ {s} db pattern x t,
    E.answers s (.keys site db pattern) x t ↔ x = store.keys db pattern ∧ t = pass s
  row : ∀ {s} db key x t, E.answers s (.row site db key) x t ↔ x = store.fieldsOf db key ∧ t = s
  kept : ∀ {s}, inv s → inv (pass s)

namespace Surroundings.Reads

variable {E : Surroundings σ} {site : String} {store : Store} {inv : σ → Prop} {pass : σ → σ}
  {s : σ}

/-!
# Single requests
-/

theorem ensures_keys (h : E.Reads site store inv pass) (hs : inv s) {db : Database}
    {pattern : String} {Q : List String → σ → Prop} :
    Ensures E (request (.keys site db pattern)) s Q ↔ Q (store.keys db pattern) (pass s) := by
  rw [ensures_request (q := .keys site db pattern) trivial]
  constructor
  · intro hparts
    rcases hparts with ⟨_, hnext⟩
    exact hnext _ _ ((h.keys db pattern _ _).mpr ⟨rfl, rfl⟩)
  · intro hQ
    refine ⟨h.servesKeys db pattern hs, ?_⟩
    intro x t hparts
    rcases (h.keys db pattern x t).mp hparts with ⟨rfl, rfl⟩
    exact hQ

theorem ensures_row (h : E.Reads site store inv pass) (hs : inv s) {db : Database} {key : String}
    {Q : Fields → σ → Prop} :
    Ensures E (request (.row site db key)) s Q ↔ Q (store.fieldsOf db key) s := by
  rw [ensures_request (q := .row site db key) trivial]
  constructor
  · intro hparts
    rcases hparts with ⟨_, hnext⟩
    exact hnext _ _ ((h.row db key _ _).mpr ⟨rfl, rfl⟩)
  · intro hQ
    refine ⟨h.servesRow db key hs, ?_⟩
    intro x t hparts
    rcases (h.row db key x t).mp hparts with ⟨rfl, rfl⟩
    exact hQ

/-!
# Scans
-/

theorem ensures_rows (h : E.Reads site store inv pass) (hs : inv s) {db : Database}
    {start : String} {keys : List String} {Q : List Row → σ → Prop} :
    Ensures E (keys.mapM (readRow site db start)) s Q ↔
      Q (keys.map fun key => ⟨shortKey start key, store.fieldsOf db key⟩) s := by
  induction keys generalizing Q with
  | nil =>
      rw [List.mapM_nil]
      rfl
  | cons key rest ih =>
      have hrow : ∀ {R : Row → σ → Prop}, Ensures E (readRow site db start key) s R ↔
          R ⟨shortKey start key, store.fieldsOf db key⟩ s := by
        intro R
        unfold readRow
        rw [ensures_bind, h.ensures_row hs, ensures_pure]
      rw [List.mapM_cons, ensures_bind, hrow, ensures_bind, ih, ensures_pure, List.map_cons]

theorem ensures_scan (h : E.Reads site store inv pass) (hs : inv s) {db : Database}
    {table : String} {Q : List Row → σ → Prop} :
    Ensures E (scan site db table) s Q ↔ Q (store.tableRows db table) (pass s) := by
  unfold scan keysOf
  rw [ensures_bind, h.ensures_keys hs, Store.mergeSort_keys, h.ensures_rows (h.kept hs)]
  rfl

/-!
# The snapshot
-/

theorem ensures_programmedRoutes (h : E.Reads site store inv pass) (hs : inv s)
    {Q : KeySet → σ → Prop} :
    Ensures E (Gathering.programmedRoutes site) s Q ↔ Q store.programmed (pass s) := by
  unfold Gathering.programmedRoutes keysOf
  rw [ensures_bind, h.ensures_keys hs, ensures_bind, ensures_ofLogged, ensures_pure]
  rfl

theorem ensures_intendedRoutes (h : E.Reads site store inv pass) (hs : inv s)
    {Q : Routes → σ → Prop} :
    Ensures E (Gathering.intendedRoutes site) s Q ↔ Q store.intended (pass s) := by
  unfold Gathering.intendedRoutes
  rw [ensures_bind, h.ensures_scan hs, ensures_bind, ensures_ofLogged, ensures_pure]
  rfl

theorem ensures_interfaceAddresses (h : E.Reads site store inv pass) (hs : inv s)
    {Q : KeySet → σ → Prop} :
    Ensures E (Gathering.interfaceAddresses site) s Q ↔ Q store.interfaceHosts (pass s) := by
  unfold Gathering.interfaceAddresses keysOf
  rw [ensures_bind, h.ensures_keys hs, ensures_bind, ensures_ofLogged, ensures_pure]
  rfl

theorem ensures_snapshot (h : E.Reads site store inv pass) (hs : inv s)
    {Q : Snapshot → σ → Prop} :
    Ensures E (Gathering.snapshot site) s Q ↔ Q store.snapshot (pass (pass (pass s))) := by
  unfold Gathering.snapshot
  rw [ensures_bind, h.ensures_programmedRoutes hs, ensures_bind,
    h.ensures_intendedRoutes (h.kept hs), ensures_bind,
    h.ensures_interfaceAddresses (h.kept (h.kept hs)), ensures_bind, ensures_log, ensures_pure]
  rfl

/-!
# The tables of the rules
-/

theorem ensures_vnetRoutes (h : E.Reads site store inv pass) (hs : inv s) {table : String}
    {Q : List RouteKey → σ → Prop} :
    Ensures E (Gathering.vnetRoutes site table) s Q ↔ Q (store.vnetKeys table) (pass s) := by
  unfold Gathering.vnetRoutes
  rw [ensures_bind, h.ensures_scan hs]
  rfl

theorem ensures_standbyNeighbors (h : E.Reads site store inv pass) (hs : inv s)
    {Q : List RouteKey → σ → Prop} :
    Ensures E (Gathering.standbyNeighbors site) s Q ↔ Q store.standbyHosts (pass s) := by
  unfold Gathering.standbyNeighbors
  rw [ensures_bind, h.ensures_scan hs]
  rfl

theorem filterMap_some {α β : Type} (f : α → Logged β) (items : List α) :
    (Logged.filterMap (fun a => do return some (← f a)) items).value =
      items.map fun a => (f a).value := by
  induction items with
  | nil => rfl
  | cons a rest ih =>
      rw [Logged.filterMap, ih]
      rfl

theorem ensures_cableAddresses (h : E.Reads site store inv pass) (hs : inv s)
    {Q : List RouteKey → σ → Prop} :
    Ensures E (Gathering.cableAddresses site) s Q ↔ Q store.cableHosts (pass s) := by
  unfold Gathering.cableAddresses
  rw [ensures_bind, h.ensures_scan hs, ensures_bind, ensures_ofLogged, ensures_pure,
    filterMap_some, ← List.flatMap_def]
  rfl

theorem ensures_dualTorTables (h : E.Reads site store inv pass) (hs : inv s) {dualTor : Bool} :
    Ensures E (Gathering.dualTorTables site dualTor) s fun tables t => inv t ∧
      tables = (if dualTor then store.standbyHosts else [],
        if dualTor then store.cableHosts else []) := by
  unfold Gathering.dualTorTables
  cases dualTor with
  | false => exact ⟨hs, rfl⟩
  | true =>
      simp only [if_true]
      rw [ensures_bind, h.ensures_standbyNeighbors hs, ensures_bind,
        h.ensures_cableAddresses (h.kept hs)]
      exact ⟨h.kept (h.kept hs), rfl⟩

theorem ensures_context (h : E.Reads site store inv pass) (hs : inv s) {routes : Routes}
    {locals : LocalInterfaces} {fabricStart : String} :
    Ensures E (Gathering.context site routes locals fabricStart) s fun ctx t => inv t ∧
      ctx = store.context routes locals fabricStart := by
  unfold Gathering.context entry
  rw [ensures_bind, h.ensures_row hs, ensures_bind, h.ensures_vnetRoutes hs, ensures_bind,
    h.ensures_vnetRoutes (h.kept hs), ensures_bind]
  refine (h.ensures_dualTorTables (h.kept (h.kept hs))).imp ?_
  intro tables t hparts
  rcases tables with ⟨neighbors, cables⟩
  rcases hparts with ⟨ht, htables⟩
  cases htables
  exact ⟨ht, rfl⟩

theorem ensures_suppressing (h : E.Reads site store inv pass) (hs : inv s)
    {Q : Bool → σ → Prop} :
    Ensures E (ControlPlane.suppressing site) s Q ↔ Q store.isSuppressing s := by
  unfold ControlPlane.suppressing entry
  rw [ensures_bind, h.ensures_row hs, ensures_pure]
  rfl

end Surroundings.Reads

/-!
# Calm worlds
-/

namespace Calm

variable {c : Calm} {s : State}

theorem reads (c : Calm) : c.surroundings.Reads c.site c.store (fun _ => True)
    fun s => { s with clock := s.clock + c.delay } where
  servesKeys _ _ _ := rfl
  servesRow _ _ _ := rfl
  keys _ _ _ _ := Iff.rfl
  row _ _ _ _ := Iff.rfl
  kept _ := trivial

theorem ensures_subscribe {Q : Unit → State → Prop} :
    Ensures c.surroundings (request (.subscribe c.site)) s Q ↔
      Q () { s with kept := .ofChanges [], feed := s.kept.startingAt s.clock } := by
  rw [ensures_request (q := .subscribe c.site) trivial]
  constructor
  · intro hparts
    rcases hparts with ⟨_, hnext⟩
    exact hnext () _ rfl
  · intro hQ
    refine ⟨rfl, ?_⟩
    intro x t heq
    rcases heq with rfl
    exact hQ

theorem ensures_remaining {Q : Time → State → Prop} :
    Ensures c.surroundings (request .remaining) s Q ↔ Q (c.deadline - s.clock) s := by
  rw [ensures_request (q := .remaining) trivial]
  constructor
  · intro hparts
    rcases hparts with ⟨_, hnext⟩
    exact hnext _ _ ⟨rfl, rfl⟩
  · intro hQ
    refine ⟨trivial, ?_⟩
    intro x t hparts
    rcases hparts with ⟨rfl, rfl⟩
    exact hQ

theorem ensures_stage {stage : Stage} {Q : Unit → State → Prop} :
    Ensures c.surroundings (enter stage) s Q ↔ Q () s := by
  rw [ensures_enter]
  constructor
  · intro hparts
    rcases hparts with ⟨_, hnext⟩
    exact hnext .idle s rfl
  · intro hQ
    refine ⟨trivial, ?_⟩
    intro x t heq
    rcases heq with rfl
    exact hQ

theorem ensures_snapshot {Q : Snapshot → State → Prop} :
    Ensures c.surroundings (Gathering.snapshot c.site) s Q ↔
      Q c.store.snapshot { s with clock := s.clock + c.delay + c.delay + c.delay } :=
  c.reads.ensures_snapshot trivial

theorem ensures_context {routes : Routes} {locals : LocalInterfaces} {fabricStart : String} :
    Ensures c.surroundings (Gathering.context c.site routes locals fabricStart) s fun ctx _ =>
      ctx = c.store.context routes locals fabricStart :=
  (c.reads.ensures_context trivial).imp fun _ _ hparts => hparts.2

end Calm
end RouteAudit
