import RouteAudit.Proofs.Store.Tables

/-!
# Benign keys

The rules leave a key exactly if no active rule holds it benign.  For the standard rules
this is a statement about the tables: a key is benign for what its own row says, for what
it is, or for a row of one of the tables that the rules consult.
-/

namespace RouteAudit
namespace Exclusion

/-!
# Application of rules
-/

theorem mem_rule_apply {r : Rule} {ctx : Context} {candidates : KeySet} {k : RouteKey} :
    k ∈ (r.apply ctx candidates).value ↔ k ∈ candidates ∧ r.excludes ctx k = false := by
  unfold Rule.apply
  rw [Ascending.mem_filter, Bool.not_eq_true']

theorem mem_applyAll {rules : List Rule} {ctx : Context} {candidates : KeySet} {k : RouteKey} :
    k ∈ (applyAll rules ctx candidates).value ↔
      k ∈ candidates ∧ ∀ r ∈ rules, r.excludes ctx k = false := by
  induction rules generalizing candidates with
  | nil =>
      constructor
      · intro hk
        exact ⟨hk, fun r hr => absurd hr List.not_mem_nil⟩
      · intro hparts
        rcases hparts with ⟨hk, _⟩
        exact hk
  | cons r rest ih =>
      have hstep : (applyAll (r :: rest) ctx candidates).value =
          (applyAll rest ctx (r.apply ctx candidates).value).value := rfl
      rw [hstep, ih, mem_rule_apply, List.forall_mem_cons, and_assoc]

theorem mem_apply {rules : List Rule} {ctx : Context} {candidates : KeySet} {k : RouteKey} :
    k ∈ (apply rules ctx candidates).value ↔
      k ∈ candidates ∧ ∀ r ∈ rules, r.excludes ctx k = false :=
  mem_applyAll

/-!
# What is benign
-/

inductive Benign (s : Store) (locals : LocalInterfaces) (fabricStart : String) (k : RouteKey) :
    Prop where
  | localInterface {r : IntendedRoute} {interface : String} :
      r ∈ s.intended → r.key = k → interface ∈ r.interfaces →
      locals.isManagement interface = true → Benign s locals fabricStart k
  | loopback {r : IntendedRoute} {interface : String} :
      r ∈ s.intended → r.key = k → (∀ a ∈ r.nexthops, a.isUnspecified = true) →
      interface ∈ r.interfaces → locals.isLoopbackStyle interface = true →
      Benign s locals fabricStart k
  | fabricNeighbor {r : IntendedRoute} {interface : String} :
      k.isHost = true → fabricStart ≠ "" → r ∈ s.intended → r.key = k → r.nexthops ≠ [] →
      (∀ a ∈ r.nexthops, a.isUnspecified = true) → interface ∈ r.interfaces →
      fabricStart.toList <+: interface.toList → Benign s locals fabricStart k
  | defaultRoute : k.isDefaultRoute = true → Benign s locals fabricStart k
  | vnetRoute {table : String} {row : Row} :
      (table = Tables.vnetRoute ∨ table = Tables.vnetTunnel) → row ∈ s.tableRows .appl table →
      TableKey.vnetRoute? row.key = some k → Benign s locals fabricStart k
  | standbyNeighbor {row : Row} :
      s.isDualTor = true → k.isHost = true → row ∈ s.tableRows .appl Tables.neighbor →
      Gathering.isStandby row = true → TableKey.neighbor? row.key = some k →
      Benign s locals fabricStart k
  | cableAddress {row : Row} {field value : String} :
      s.isDualTor = true → row ∈ s.tableRows .config Tables.muxCable →
      (field = "soc_ipv4" ∨ field = "soc_ipv6") → row.field? field = some value →
      TableKey.cableAddress? value = some k → Benign s locals fabricStart k

/-!
# The standard rules
-/

variable {s : Store} {locals : LocalInterfaces} {fabricStart : String} {k : RouteKey}

theorem hasUnspecifiedNexthop_iff {r : IntendedRoute} :
    r.hasUnspecifiedNexthop = true ↔ ∀ a ∈ r.nexthops, a.isUnspecified = true := by
  unfold IntendedRoute.hasUnspecifiedNexthop
  exact List.all_eq_true

theorem startsWith_iff {start text : String} :
    startsWith start text = true ↔ start.toList <+: text.toList := by
  unfold startsWith
  exact List.isPrefixOf_iff_prefix

theorem excludes_localInterface {ctx : Context} :
    localInterface.excludes ctx k = true ↔ exists r interface, ctx.routes.route? k = some r ∧
      interface ∈ r.interfaces ∧ (ctx.locals.isManagement interface = true ∨
        ((∀ a ∈ r.nexthops, a.isUnspecified = true) ∧
          ctx.locals.isLoopbackStyle interface = true)) := by
  cases hroute : ctx.routes.route? k with
  | none => simp [Rule.excludes, localInterface, hroute]
  | some r =>
      simp only [Rule.excludes, localInterface, hroute, Bool.true_and, Bool.or_eq_true,
        Bool.and_eq_true, List.any_eq_true, hasUnspecifiedNexthop_iff, Option.some.injEq]
      constructor
      · intro hcases
        rcases hcases with ⟨interface, hmem, hname⟩ | ⟨hnexthops, interface, hmem, hname⟩
        · exact ⟨r, interface, rfl, hmem, Or.inl hname⟩
        · exact ⟨r, interface, rfl, hmem, Or.inr ⟨hnexthops, hname⟩⟩
      · intro hparts
        rcases hparts with ⟨_, interface, rfl, hmem, hname | ⟨hnexthops, hname⟩⟩
        · exact Or.inl ⟨interface, hmem, hname⟩
        · exact Or.inr ⟨hnexthops, interface, hmem, hname⟩

theorem excludes_fabricNeighbor {ctx : Context} :
    fabricNeighbor.excludes ctx k = true ↔ exists r interface, k.isHost = true ∧
      ctx.fabricStart ≠ "" ∧ ctx.routes.route? k = some r ∧ r.nexthops ≠ [] ∧
      (∀ a ∈ r.nexthops, a.isUnspecified = true) ∧ interface ∈ r.interfaces ∧
      ctx.fabricStart.toList <+: interface.toList := by
  cases hroute : ctx.routes.route? k with
  | none => simp [Rule.excludes, fabricNeighbor, hroute]
  | some r =>
      simp only [Rule.excludes, fabricNeighbor, hroute, Bool.and_eq_true, List.any_eq_true,
        hasUnspecifiedNexthop_iff, startsWith_iff, Option.some.injEq, Bool.not_eq_true',
        String.isEmpty_eq_false_iff, List.isEmpty_eq_false_iff]
      constructor
      · intro hparts
        rcases hparts with ⟨hstart, hhost, ⟨hsome, hnexthops⟩, interface, hmem, hprefix⟩
        exact ⟨r, interface, hhost, hstart, rfl, hsome, hnexthops, hmem, hprefix⟩
      · intro hparts
        rcases hparts with ⟨_, interface, hhost, hstart, rfl, hsome, hnexthops, hmem, hprefix⟩
        exact ⟨hstart, hhost, ⟨hsome, hnexthops⟩, interface, hmem, hprefix⟩

theorem excludes_vnetRoute :
    vnetRoute.excludes (s.context s.intended locals fabricStart) k = true ↔
      k ∈ s.vnetKeys Tables.vnetRoute ∨ k ∈ s.vnetKeys Tables.vnetTunnel := by
  unfold Rule.excludes vnetRoute
  rw [Bool.true_and, ← List.mem_append]
  exact KeySet.contains_ofList

theorem excludes_standbyNeighbor :
    standbyNeighbor.excludes (s.context s.intended locals fabricStart) k = true ↔
      s.isDualTor = true ∧ k.isHost = true ∧ k ∈ s.standbyHosts := by
  have hcontains : (s.context s.intended locals fabricStart).standbyNeighbors.contains k = true ↔
      k ∈ if s.isDualTor then s.standbyHosts else [] := KeySet.contains_ofList
  unfold Rule.excludes standbyNeighbor
  rw [Bool.and_eq_true_iff, Bool.and_eq_true_iff, hcontains]
  constructor
  · intro hparts
    rcases hparts with ⟨hdual, hhost, hmem⟩
    have hdual' : s.isDualTor = true := hdual
    rw [if_pos hdual'] at hmem
    exact ⟨hdual', hhost, hmem⟩
  · intro hparts
    rcases hparts with ⟨hdual, hhost, hmem⟩
    rw [if_pos hdual]
    exact ⟨hdual, hhost, hmem⟩

theorem excludes_cableAddress :
    cableAddress.excludes (s.context s.intended locals fabricStart) k = true ↔
      s.isDualTor = true ∧ k ∈ s.cableHosts := by
  have hcontains : (s.context s.intended locals fabricStart).cableAddresses.contains k = true ↔
      k ∈ if s.isDualTor then s.cableHosts else [] := KeySet.contains_ofList
  unfold Rule.excludes cableAddress
  rw [Bool.and_eq_true_iff, Bool.and_eq_true_iff]
  constructor
  · intro hparts
    rcases hparts with ⟨⟨hdual, _⟩, hmem⟩
    have hdual' : s.isDualTor = true := hdual
    have hmem' := hcontains.mp hmem
    rw [if_pos hdual'] at hmem'
    exact ⟨hdual', hmem'⟩
  · intro hparts
    rcases hparts with ⟨hdual, hmem⟩
    have hmem' := hcontains.mpr (by rw [if_pos hdual]; exact hmem)
    refine ⟨⟨hdual, ?_⟩, hmem'⟩
    -- the rule is active only where there are addresses at all
    cases hempty : (s.context s.intended locals fabricStart).cableAddresses.isEmpty with
    | false => rfl
    | true =>
        have hnone := Ascending.isEmpty_iff.mp hempty k
        exact absurd (KeySet.contains_iff.mp hmem') hnone

/-- The standard rules take out exactly the benign keys. -/
theorem excluded_iff_benign :
    (exists r, r ∈ standard ∧ r.excludes (s.context s.intended locals fabricStart) k = true) ↔
      Benign s locals fabricStart k := by
  constructor
  · intro hparts
    rcases hparts with ⟨r, hr, hexcludes⟩
    simp only [standard, List.mem_cons, List.not_mem_nil, or_false] at hr
    rcases hr with rfl | rfl | rfl | rfl | rfl | rfl
    · rcases excludes_localInterface.mp hexcludes with ⟨r, interface, hroute, hmem, hname⟩
      rcases Routes.route?_eq_some_iff.mp hroute with ⟨hr, hkey⟩
      rcases hname with hname | ⟨hnexthops, hname⟩
      · exact Benign.localInterface hr hkey hmem hname
      · exact Benign.loopback hr hkey hnexthops hmem hname
    · rcases excludes_fabricNeighbor.mp hexcludes with
        ⟨r, interface, hhost, hstart, hroute, hsome, hnexthops, hmem, hprefix⟩
      rcases Routes.route?_eq_some_iff.mp hroute with ⟨hr, hkey⟩
      exact Benign.fabricNeighbor hhost hstart hr hkey hsome hnexthops hmem hprefix
    · exact Benign.defaultRoute hexcludes
    · cases excludes_vnetRoute.mp hexcludes with
      | inl hmem =>
          rcases Store.mem_vnetKeys.mp hmem with ⟨row, hrow, hkey⟩
          exact Benign.vnetRoute (Or.inl rfl) hrow hkey
      | inr hmem =>
          rcases Store.mem_vnetKeys.mp hmem with ⟨row, hrow, hkey⟩
          exact Benign.vnetRoute (Or.inr rfl) hrow hkey
    · rcases excludes_standbyNeighbor.mp hexcludes with ⟨hdual, hhost, hmem⟩
      rcases Store.mem_standbyHosts.mp hmem with ⟨row, hrow, hstandby, hkey⟩
      exact Benign.standbyNeighbor hdual hhost hrow hstandby hkey
    · rcases excludes_cableAddress.mp hexcludes with ⟨hdual, hmem⟩
      rcases Store.mem_cableHosts.mp hmem with ⟨row, field, value, hrow, hfield, hread, haddress⟩
      exact Benign.cableAddress hdual hrow hfield hread haddress
  · intro h
    cases h with
    | localInterface hr hkey hmem hname =>
        have hroute := Routes.route?_eq_some_iff.mpr ⟨hr, hkey⟩
        exact ⟨localInterface, by simp [standard], excludes_localInterface.mpr
          ⟨_, _, hroute, hmem, Or.inl hname⟩⟩
    | loopback hr hkey hnexthops hmem hname =>
        have hroute := Routes.route?_eq_some_iff.mpr ⟨hr, hkey⟩
        exact ⟨localInterface, by simp [standard], excludes_localInterface.mpr
          ⟨_, _, hroute, hmem, Or.inr ⟨hnexthops, hname⟩⟩⟩
    | fabricNeighbor hhost hstart hr hkey hsome hnexthops hmem hprefix =>
        have hroute := Routes.route?_eq_some_iff.mpr ⟨hr, hkey⟩
        exact ⟨fabricNeighbor, by simp [standard], excludes_fabricNeighbor.mpr
          ⟨_, _, hhost, hstart, hroute, hsome, hnexthops, hmem, hprefix⟩⟩
    | defaultRoute hdefault =>
        exact ⟨defaultRoute, by simp [standard], hdefault⟩
    | vnetRoute htable hrow hkey =>
        refine ⟨vnetRoute, by simp [standard], excludes_vnetRoute.mpr ?_⟩
        rcases htable with rfl | rfl
        · exact Or.inl (Store.mem_vnetKeys.mpr ⟨_, hrow, hkey⟩)
        · exact Or.inr (Store.mem_vnetKeys.mpr ⟨_, hrow, hkey⟩)
    | standbyNeighbor hdual hhost hrow hstandby hkey =>
        exact ⟨standbyNeighbor, by simp [standard], excludes_standbyNeighbor.mpr
          ⟨hdual, hhost, Store.mem_standbyHosts.mpr ⟨_, hrow, hstandby, hkey⟩⟩⟩
    | cableAddress hdual hrow hfield hread haddress =>
        exact ⟨cableAddress, by simp [standard], excludes_cableAddress.mpr
          ⟨hdual, Store.mem_cableHosts.mpr ⟨_, _, _, hrow, hfield, hread, haddress⟩⟩⟩

end Exclusion
end RouteAudit
