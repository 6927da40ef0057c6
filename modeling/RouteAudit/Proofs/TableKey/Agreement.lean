import RouteAudit.Proofs.RouteEntry.Written
import RouteAudit.Proofs.TableKey.Spelled

/-!
# All tables agree on a destination

The tables spell a destination in ways of their own, and the readers of their keys share no
code.  Whichever text of a destination they hold, behind whatever names and before whatever
mask, they all come to one route key.
-/

namespace RouteAudit
namespace TableKey

variable {text name interface : String} {a : Address} {k : RouteKey}

/-!
# Prefixes
-/

theorem parse?_of_address (h : Address.parse? text = some a) :
    RouteKey.parse? text = some (.host a) := by
  have hspelling : RouteKey.Spelling a a.width ([] ++ text.toList ++ []) :=
    RouteKey.Spelling.host (by simp) (by simp) h rfl
  rw [List.nil_append, List.append_nil] at hspelling
  exact RouteKey.parse?_eq_some_iff.mpr hspelling

theorem parseRoute_plain (h : RouteKey.parse? text = some k) (hlocal : k.isLinkLocal = false) :
    (parseRoute text).value = some k :=
  parseRoute_eq_some_iff.mpr ⟨NamesRoute.plain h, hlocal⟩

theorem parseRoute_qualified (hname : ':' ∉ name.toList) (h : RouteKey.parse? text = some k)
    (hlocal : k.isLinkLocal = false) :
    (parseRoute ("Vrf" ++ name ++ ":" ++ text)).value = some k :=
  parseRoute_eq_some_iff.mpr ⟨NamesRoute.qualified hname h, hlocal⟩

theorem parseProgrammed_keyOf (h : RouteKey.parse? text = some k) (hlocal : k.isLinkLocal = false) :
    (RouteEntry.parseProgrammed (RouteEntry.keyOf text)).value = some k := by
  rw [RouteEntry.parseProgrammed_eq_some_iff, RouteEntry.parseKey_keyOf]
  exact ⟨h, hlocal⟩

/-!
# Hosts
-/

theorem parseInterface_masked (hinterface : ':' ∉ interface.toList)
    (hmanagement : interface ≠ "eth0") (hbridge : interface ≠ "docker0") (mask : String)
    (h : Address.parse? text = some a) (hlocal : a.isLinkLocal = false) :
    (parseInterface (interface ++ ":" ++ (text ++ "/" ++ mask))).value = some (.host a) := by
  apply parseInterface_eq_some_iff.mpr
  constructor
  · exact NamesInterface.intro hinterface hmanagement hbridge (NamesHost.masked mask h)
  · exact hlocal

/-!
# Agreement
-/

/-- The text of an address is the same host in the route table, plain or behind a routing
instance, in the interface table with any mask, in the tables of virtual networks, neighbors and
cables, and in the hardware's routes.  The text of any prefix is the same key in those of them
that hold prefixes. -/
theorem agree_on_destination (name interface mask : String) (hname : ':' ∉ name.toList)
    (hinterface : ':' ∉ interface.toList) (hmanagement : interface ≠ "eth0")
    (hbridge : interface ≠ "docker0") :
    (∀ (text : String) (a : Address), Address.parse? text = some a → a.isLinkLocal = false →
      (parseRoute text).value = some (.host a) ∧
      (parseRoute ("Vrf" ++ name ++ ":" ++ text)).value = some (.host a) ∧
      (parseInterface (interface ++ ":" ++ (text ++ "/" ++ mask))).value = some (.host a) ∧
      vnetRoute? (name ++ ":" ++ text) = some (.host a) ∧
      neighbor? (name ++ ":" ++ text) = some (.host a) ∧
      cableAddress? (text ++ "/" ++ mask) = some (.host a) ∧
      (RouteEntry.parseKey (RouteEntry.keyOf text)).value = some (.host a) ∧
      (RouteEntry.parseProgrammed (RouteEntry.keyOf text)).value = some (.host a)) ∧
    ∀ (text : String) (k : RouteKey), RouteKey.parse? text = some k → k.isLinkLocal = false →
      (parseRoute text).value = some k ∧
      (parseRoute ("Vrf" ++ name ++ ":" ++ text)).value = some k ∧
      vnetRoute? (name ++ ":" ++ text) = some k ∧
      (RouteEntry.parseKey (RouteEntry.keyOf text)).value = some k ∧
      (RouteEntry.parseProgrammed (RouteEntry.keyOf text)).value = some k := by
  have hprefixes : ∀ (text : String) (k : RouteKey), RouteKey.parse? text = some k →
      k.isLinkLocal = false →
      (parseRoute text).value = some k ∧
      (parseRoute ("Vrf" ++ name ++ ":" ++ text)).value = some k ∧
      vnetRoute? (name ++ ":" ++ text) = some k ∧
      (RouteEntry.parseKey (RouteEntry.keyOf text)).value = some k ∧
      (RouteEntry.parseProgrammed (RouteEntry.keyOf text)).value = some k := by
    intro text k h hlocal
    refine ⟨parseRoute_plain h hlocal, parseRoute_qualified hname h hlocal, ?_, ?_,
      parseProgrammed_keyOf h hlocal⟩
    · rw [vnetRoute?_behind hname, h]
    · rw [RouteEntry.parseKey_keyOf, h]
  constructor
  · intro text a h hlocal
    rcases hprefixes text (.host a) (parse?_of_address h) hlocal with
      ⟨hplain, hqualified, hvnet, hentry, hprogrammed⟩
    refine ⟨hplain, hqualified, ?_, hvnet, ?_, cableAddress?_masked h mask, hentry, hprogrammed⟩
    · exact parseInterface_masked hinterface hmanagement hbridge mask h hlocal
    · rw [neighbor?_behind hname, h]
      rfl
  · exact hprefixes

/-- Colons, capitals and zeros in the text of the address make no difference. -/
theorem agree_on_destination_of_colons :
    (parseRoute ("VrfBlue:" ++ "FC00:0::1")).value =
        some (.host (.v6 #v[0xfc00, 0, 0, 0, 0, 0, 0, 1])) ∧
      (parseInterface ("Ethernet0:" ++ ("FC00:0::1" ++ "/" ++ "64"))).value =
        some (.host (.v6 #v[0xfc00, 0, 0, 0, 0, 0, 0, 1])) ∧
      (RouteEntry.parseKey (RouteEntry.keyOf "FC00:0::1")).value =
        some (.host (.v6 #v[0xfc00, 0, 0, 0, 0, 0, 0, 1])) ∧
      vnetRoute? ("Blue" ++ ":" ++ " 10.0.0.0/08") =
        some ⟨.v4 #v[10, 0, 0, 0], 8, by decide⟩ := by
  have haddress : Address.parse? "FC00:0::1" = some (.v6 #v[0xfc00, 0, 0, 0, 0, 0, 0, 1]) := by
    decide +kernel
  have hprefix : RouteKey.parse? " 10.0.0.0/08" = some ⟨.v4 #v[10, 0, 0, 0], 8, by decide⟩ := by
    decide +kernel
  rcases agree_on_destination "Blue" "Ethernet0" "64" (by decide) (by decide) (by decide)
    (by decide) with ⟨hhosts, hprefixes⟩
  rcases hhosts _ _ haddress (by decide) with ⟨_, hqualified, hhost, _, _, _, hentry, _⟩
  exact ⟨hqualified, hhost, hentry, (hprefixes _ _ hprefix (by decide)).2.2.1⟩

end TableKey
end RouteAudit
