/-
The rules of a station's firewall are removed as they were installed, exactly
when no family is configured on top of itself and the fragment rule is still
asked for by the file that was read last when it is to go. What is installed of
a family is what stands under the handles in the places of the family, between
the calls.
-/
import Mathlib.Algebra.BigOperators.Group.Multiset.Basic
import HiaeCommon.Ipacm.FirewallRuns

namespace HiaeCommon

open Function (update)
open Lib (Along Block Ledger Meets Needs Step)
open Lib.Ledger (Holds)
open Lib.Step (Budgeted)

/-- The members, and for each family the rules its last configuration added, nothing after they were to be deleted. -/
structure FirewallHistory where
  now : WanFirewall
  installed : IpFamily → Multiset (Nat × FirewallSlot) := fun _ => 0

namespace FirewallHistory

/-- The rules that a call has added. -/
def added (s t : WanFirewall) : Multiset (Nat × FirewallSlot) :=
  (t.flt.live : Multiset (Nat × FirewallSlot)).filter fun x => x.1 ∉ s.flt.used

/-- What a call that made `t` of the members makes of the record. -/
def record (h : FirewallHistory) (t : WanFirewall) : StaCall → IpFamily → Multiset (Nat × FirewallSlot)
  | .config g _ => update h.installed g (added h.now t)
  | .del g => update h.installed g 0
  | _ => h.installed

def exec (D : FirewallDriver) (env : WanFirewallEnv) (h : FirewallHistory) (c : StaCall) :
    Except FirewallFault FirewallHistory := do
  let t ← c.exec D env h.now
  return { now := t, installed := h.record t c }

/-- The rules of a family that the driver has. -/
def present (h : FirewallHistory) (g : IpFamily) : Multiset (Nat × FirewallSlot) :=
  (h.now.flt.live : Multiset (Nat × FirewallSlot)).filter fun x => x.2.ip = g

/-- The driver has exactly the rules that were installed last and not deleted since, and nothing was deleted that was not
there. -/
structure AsInstalled (h : FirewallHistory) : Prop where
  present : ∀ g, h.present g = h.installed g
  misses : h.now.flt.misses = 0

/-- What a call finds: an inactive family, a file that fits, and the fragment rule asked for by the file that was read
last. -/
def CallKeeps (env : WanFirewallEnv) (h : FirewallHistory) (c : StaCall) : Prop :=
  env.rxProp = none ∨
    match c with
    | .up g => h.now.active g = false
    | .config g file => WanFirewall.StaFits file g h.now
    | .del g => g = .v6 → h.now.isIpv6FragInstalled = true → h.now.config.checkDftFirewallRulesAttrMask = true
    | .down _ => True

end FirewallHistory

namespace WanFirewall

/-! ## What is deleted -/

section Drop

variable {s : WanFirewall} {m : Multiset (Nat × FirewallSlot)}

theorem dropHdl_of_ne_zero {h : Nat} (h0 : h ≠ 0) (d : Ledger FirewallSlot) : dropHdl h d = d.del h := if_neg h0

/-- The rules go whose handles are kept in the places, and those in the other places stay. -/
theorem drop_holds {ps qs : List FirewallPlace} {N : Multiset (Nat × FirewallSlot)} {d : Ledger FirewallSlot}
    (hne : ∀ x ∈ N, x.1 ≠ 0) (hk : ((ps ++ qs).map s.kept : Multiset (Option Nat)) = N.map fun x => some x.1)
    (hd : Holds d (N + m)) : ∃ N' ≤ N, Holds (ps.foldl (fun d p => dropHdl ((s.kept p).getD 0) d) d) (N' + m) ∧
      (qs.map s.kept : Multiset (Option Nat)) = N'.map fun x => some x.1 := by
  induction ps generalizing N d with
  | nil => exact ⟨N, le_refl N, hd, hk⟩
  | cons p ps ih =>
    rw [List.cons_append, List.map_cons, ← Multiset.cons_coe] at hk
    have hmem : s.kept p ∈ N.map fun x => some x.1 := by
      rw [← hk]
      exact Multiset.mem_cons_self _ _
    obtain ⟨x, hx, hxp⟩ := Multiset.mem_map.1 hmem
    obtain ⟨N₁, rfl⟩ := Multiset.exists_cons_of_mem hx
    rw [Multiset.map_cons, hxp, Multiset.cons_inj_right] at hk
    have hgo : dropHdl ((s.kept p).getD 0) d = d.del x.1 := by
      rw [← hxp]
      exact dropHdl_of_ne_zero (hne x hx) d
    have hdel : Holds (d.del x.1) (N₁ + m) := by
      refine Holds.del (r := x.2) (hd.of_eq ?_)
      rw [Multiset.singleton_add, Multiset.cons_add]
    obtain ⟨N', hle, hN', hq⟩ := ih (fun y hy => hne y (Multiset.mem_cons_of_mem hy)) hk hdel
    refine ⟨N', hle.trans (Multiset.le_cons_self _ _), ?_, hq⟩
    rw [List.foldl_cons, hgo]
    exact hN'

end Drop

end WanFirewall

namespace FirewallHistory

variable {D : FirewallDriver} {env : WanFirewallEnv} {rx : RuleAttrib × RuleAttrib} {base : IpFamily → Int}
variable {active own : IpFamily → Bool} {h : FirewallHistory} {g : IpFamily}

/-- The fragment rule is among the family's. -/
def hasFrag (s : WanFirewall) (g : IpFamily) : Bool := g == .v6 && s.isIpv6FragInstalled

/-- All places of a family's rules. -/
def allPlaces (s : WanFirewall) (g : IpFamily) : List FirewallPlace :=
  WanFirewall.rulePlaces g (s.numFirewall g).toNat (hasFrag s g)

/-- What is so between the calls: what was installed is there, and for the families that are configured the handles are
in the places of their rules. -/
structure Recorded (base : IpFamily → Int) (active own : IpFamily → Bool) (h : FirewallHistory) : Prop where
  safe : WanFirewall.Safe base active own h.now
  holds : Holds h.now.flt (h.installed .v4 + h.installed .v6)
  nonzero : ∀ g, ∀ x ∈ h.installed g, x.1 ≠ 0
  family : ∀ g, ∀ x ∈ h.installed g, x.2.ip = g
  places : ∀ g, own g = true →
    ((allPlaces h.now g).map h.now.kept : Multiset (Option Nat)) = (h.installed g).map fun x => some x.1
  few : ∀ g, own g = true → (h.now.numFirewall g).toInt ≤ ipacmMaxFirewallEntries
  free : ∀ g, own g = false → h.installed g = 0 ∧ h.now.numFirewall g = 0 ∧ hasFrag h.now g = false

/-- One family's part of what is installed, and the rest. -/
theorem update_add {α : Type} (f : IpFamily → Multiset α) (g : IpFamily) (x : Multiset α) :
    f g + (update f g x .v4 + update f g x .v6) = x + (f .v4 + f .v6) := by
  cases g with
  | v4 =>
    rw [Function.update_self, Function.update_of_ne (by decide)]
    ac_rfl
  | v6 =>
    rw [Function.update_self, Function.update_of_ne (by decide)]
    ac_rfl

theorem hasFrag_other {s t : WanFirewall} {g g' : IpFamily} (hg : g' ≠ g)
    (h : g = .v4 → t.isIpv6FragInstalled = s.isIpv6FragInstalled) : hasFrag t g' = hasFrag s g' := by
  cases g with
  | v4 => rw [hasFrag, hasFrag, h rfl]
  | v6 =>
    cases g' with
    | v4 => rfl
    | v6 => exact absurd rfl hg

theorem ip_of_mem_allPlaces {s : WanFirewall} {p : FirewallPlace} (hp : p ∈ allPlaces s g) : p.ip = g := by
  refine WanFirewall.ip_of_mem_rulePlaces (fun hb => ?_) hp
  rw [hasFrag, Bool.and_eq_true, beq_iff_eq] at hb
  exact hb.1

namespace Recorded

theorem asInstalled (hr : Recorded base active own h) : h.AsInstalled where
  present g := by
    have hself : (h.installed g).filter (fun x => x.2.ip = g) = h.installed g :=
      Multiset.filter_eq_self.2 (hr.family g)
    have hother : ∀ g', g' ≠ g → (h.installed g').filter (fun x => x.2.ip = g) = 0 := fun g' hg =>
      Multiset.filter_eq_nil.2 fun x hx he => hg ((hr.family g' x hx).symm.trans he)
    rw [FirewallHistory.present, hr.holds.live, Multiset.filter_add]
    cases g with
    | v4 => rw [hself, hother .v6 (by decide), add_zero]
    | v6 => rw [hself, hother .v4 (by decide), zero_add]
  misses := hr.holds.misses

/-- The places of a family are not touched by a change of the other. -/
theorem places_of_ne {s : WanFirewall} (hr : Recorded base active own h) {g' : IpFamily} (hown : own g' = true)
    (hnum : s.numFirewall g' = h.now.numFirewall g') (hfrag : hasFrag s g' = hasFrag h.now g')
    (hkept : ∀ p, p.ip = g' → s.kept p = h.now.kept p) :
    ((allPlaces s g').map s.kept : Multiset (Option Nat)) = (h.installed g').map fun x => some x.1 := by
  have hsame : allPlaces s g' = allPlaces h.now g' := by rw [allPlaces, allPlaces, hnum, hfrag]
  rw [hsame, ← hr.places g' hown]
  exact congrArg _ (List.map_congr_left fun p hp => hkept p (ip_of_mem_allPlaces hp))

theorem exec_ok {t : WanFirewall} {c : StaCall} (h : FirewallHistory) (hc : c.exec D env h.now = .ok t) :
    h.exec D env c = .ok { now := t, installed := h.record t c } := by
  rw [exec, hc]
  rfl

/-- A family that has nothing is configured. -/
theorem config (hD : D.Succeeds) (hrx : env.rxProp = some rx) {file : FirewallFile} (hr : Recorded base active own h)
    (hown : own g = false) (hfit : WanFirewall.StaFits file g h.now) :
    ∃ t, h.exec D env (.config g file) = .ok t ∧ Recorded base active (update own g true) t := by
  obtain ⟨hnone, hzero, hnofrag⟩ := hr.free g hown
  have hrefill : h.now.Refills file g := by
    intro _ i hle hlt
    rw [hzero] at hlt
    exact absurd hlt (by simpa using hle)
  obtain ⟨r, hgo, hsafe⟩ := hr.safe.config hD hrx hfit hrefill
  obtain ⟨hcount, -⟩ := WanFirewall.configDftFirewallRules_counts hD file hrx hgo
  cases WanFirewall.configDftFirewallRules_does hD file hrx hgo
  obtain ⟨new, hnew, hkept, hslots, hne⟩ := WanFirewall.putAll_holds (D := D) (s := { h.now with config := file })
    (WanFirewall.configPuts_nodup env rx.1 file g)
    (fun x hx => WanFirewall.configPuts_exists hfit.1 hx) hr.holds
  refine ⟨_, exec_ok h (WanFirewall.exec_config g file hgo), ?_⟩
  change WanFirewall.Safe base active (update own g true) (h.now.configured env rx.1 file D g) at hsafe
  change Holds (h.now.configured env rx.1 file D g).flt _ at hnew
  have hadded : added h.now (h.now.configured env rx.1 file D g) = new := hr.holds.filter_added hnew
  have hnum : ((h.now.configured env rx.1 file D g).numFirewall g).toNat = WanFirewall.ruleCount file g := by
    have h0 := hsafe.nonneg g
    have := WanFirewall.toInt_eq_toNat h0
    rw [hzero, show (0 : BitVec 32).toInt = 0 from rfl, zero_add] at hcount
    change ((h.now.configured env rx.1 file D g).numFirewall g).toInt = _ at hcount
    omega
  have hfrag : hasFrag (h.now.configured env rx.1 file D g) g = WanFirewall.wantsFrag file g := by
    rw [hasFrag, WanFirewall.configured_isIpv6FragInstalled]
    cases g with
    | v4 => rfl
    | v6 =>
      have hno : h.now.isIpv6FragInstalled = false := hnofrag
      rw [hno]
      rfl
  have hother : ∀ g', g' ≠ g → hasFrag (h.now.configured env rx.1 file D g) g' = hasFrag h.now g' := by
    refine fun g' hg => hasFrag_other hg fun h4 => ?_
    subst h4
    rw [WanFirewall.configured_isIpv6FragInstalled, WanFirewall.wantsFrag_v4, Bool.or_false]
  constructor
  · exact hsafe
  · refine hnew.of_eq ?_
    have hsum := update_add h.installed g (new : Multiset (Nat × FirewallSlot))
    rw [hnone, zero_add] at hsum
    simp only [record, hadded, hsum]
  · intro g' x hx
    simp only [record, hadded] at hx
    by_cases hg : g' = g
    · rw [hg, Function.update_self] at hx
      exact hne x hx
    · rw [Function.update_of_ne hg] at hx
      exact hr.nonzero g' x hx
  · intro g' x hx
    simp only [record, hadded] at hx
    by_cases hg : g' = g
    · rw [hg, Function.update_self, Multiset.mem_coe] at hx
      have hslot : x.2 ∈ new.map Prod.snd := List.mem_map_of_mem hx
      rw [hslots] at hslot
      obtain ⟨y, hy, hyx⟩ := List.mem_map.1 hslot
      rw [hg, ← hyx, WanFirewall.configPuts_ip hy]
    · rw [Function.update_of_ne hg] at hx
      exact hr.family g' x hx
  · intro g' hown'
    by_cases hg : g' = g
    · subst hg
      have hperm := (WanFirewall.configPuts_places env rx.1 file g').symm.map
        (h.now.configured env rx.1 file D g').kept
      simp only [record, hadded, Function.update_self, allPlaces, hnum, hfrag]
      rw [Multiset.coe_eq_coe.2 hperm, Multiset.map_coe]
      exact congrArg _ hkept
    · simp only [record, Function.update_of_ne hg] at hown' ⊢
      refine hr.places_of_ne hown' (WanFirewall.configured_numFirewall _ _ _ _ _ hg) (hother g' hg) fun p hp => ?_
      refine WanFirewall.kept_configured _ _ _ _ _ fun hmem => hg ?_
      rw [← hp, WanFirewall.ip_of_mem_rulePlaces WanFirewall.eq_v6_of_wantsFrag hmem]
  · intro g' hown'
    by_cases hg : g' = g
    · have hle := hfit.1
      have h0 := WanFirewall.toInt_eq_toNat (hsafe.nonneg g)
      rw [hg]
      change ((h.now.configured env rx.1 file D g).numFirewall g).toInt ≤ _
      omega
    · rw [Function.update_of_ne hg] at hown'
      simp only [WanFirewall.configured_numFirewall _ _ _ _ _ hg]
      exact hr.few g' hown'
  · intro g' hown'
    by_cases hg : g' = g
    · rw [hg, Function.update_self] at hown'
      cases hown'
    · rw [Function.update_of_ne hg] at hown'
      simp only [record, Function.update_of_ne hg, WanFirewall.configured_numFirewall _ _ _ _ _ hg, hother g' hg]
      exact hr.free g' hown'

/-- A family that is configured is deleted: all of its rules go but the fragment rule, if that is not asked for. -/
theorem del_leaves (hD : D.Succeeds) (hrx : env.rxProp = some rx) (hbase : -2 ^ 31 ≤ base g)
    (hr : Recorded base active own h) (hact : active g = true) (hown : own g = true) :
    ∃ m left, h.exec D env (.del g) =
        .ok { now := h.now.cleared g m, installed := update h.installed g 0 } ∧
      WanFirewall.Safe base active (update own g false) (h.now.cleared g m) ∧ left ≤ h.installed g ∧
      Holds (h.now.cleared g m).flt (left + (update h.installed g 0 .v4 + update h.installed g 0 .v6)) ∧
      ((WanFirewall.fragPlaces (hasFrag h.now g && !h.now.delsFrag g)).map h.now.kept : Multiset (Option Nat)) =
        left.map fun x => some x.1 := by
  obtain ⟨m, hgo, hsafe⟩ := hr.safe.del_goes hD hrx hbase hact hown (hr.few g hown)
  have hsplit : allPlaces h.now g = h.now.delPlaces g ++ WanFirewall.fragPlaces (hasFrag h.now g && !h.now.delsFrag g) := by
    have hdels : h.now.delsFrag g = (hasFrag h.now g && h.now.config.checkDftFirewallRulesAttrMask) := by
      rw [WanFirewall.delsFrag, hasFrag, Bool.and_assoc]
    simp only [allPlaces, WanFirewall.delPlaces, WanFirewall.rulePlaces, hdels]
    cases hasFrag h.now g <;> cases h.now.config.checkDftFirewallRulesAttrMask <;>
      simp [WanFirewall.fragPlaces]
  have hplaces := hr.places g hown
  rw [hsplit] at hplaces
  have hholds := hr.holds
  have hsum := update_add h.installed g (0 : Multiset (Nat × FirewallSlot))
  rw [zero_add] at hsum
  rw [← hsum] at hholds
  obtain ⟨left, hle, hleft, hmap⟩ := WanFirewall.drop_holds (hr.nonzero g) hplaces hholds
  exact ⟨m, left, exec_ok h (WanFirewall.exec_del g hgo), hsafe, hle, hleft, hmap⟩

/-- All of them go if the fragment rule is asked for. -/
theorem del (hD : D.Succeeds) (hrx : env.rxProp = some rx) (hbase : -2 ^ 31 ≤ base g)
    (hr : Recorded base active own h) (hact : active g = true) (hown : own g = true)
    (hasked : g = .v6 → h.now.isIpv6FragInstalled = true → h.now.config.checkDftFirewallRulesAttrMask = true) :
    ∃ t, h.exec D env (.del g) = .ok t ∧ Recorded base active (update own g false) t := by
  obtain ⟨m, left, hgo, hsafe, -, hholds, hmap⟩ := hr.del_leaves hD hrx hbase hact hown
  have hnone : (hasFrag h.now g && !h.now.delsFrag g) = false := by
    cases g with
    | v4 => rfl
    | v6 =>
      change (h.now.isIpv6FragInstalled && !(h.now.isIpv6FragInstalled && h.now.config.checkDftFirewallRulesAttrMask)) = false
      cases hf : h.now.isIpv6FragInstalled with
      | false => rfl
      | true => rw [hasked rfl hf]; rfl
  rw [hnone] at hmap
  have hleft : left = 0 := Multiset.map_eq_zero.1 hmap.symm
  rw [hleft, zero_add] at hholds
  have hfrag : ∀ g', g' ≠ g → hasFrag (h.now.cleared g m) g' = hasFrag h.now g' := by
    refine fun g' hg => hasFrag_other hg fun h4 => ?_
    subst h4
    exact Bool.and_true _
  refine ⟨_, hgo, ?_⟩
  constructor
  · exact hsafe
  · exact hholds
  · intro g' x hx
    by_cases hg : g' = g
    · simp only [hg, Function.update_self] at hx
      exact absurd hx (Multiset.notMem_zero x)
    · simp only [Function.update_of_ne hg] at hx
      exact hr.nonzero g' x hx
  · intro g' x hx
    by_cases hg : g' = g
    · simp only [hg, Function.update_self] at hx
      exact absurd hx (Multiset.notMem_zero x)
    · simp only [Function.update_of_ne hg] at hx
      exact hr.family g' x hx
  · intro g' hown'
    by_cases hg : g' = g
    · rw [hg, Function.update_self] at hown'
      cases hown'
    · simp only [Function.update_of_ne hg] at hown' ⊢
      refine hr.places_of_ne hown' ?_ (hfrag g' hg) fun p _ => WanFirewall.kept_cleared _ _ _ p
      rw [WanFirewall.cleared_numFirewall, Function.update_of_ne hg]
  · intro g' hown'
    by_cases hg : g' = g
    · rw [hg, Function.update_self] at hown'
      cases hown'
    · rw [Function.update_of_ne hg] at hown'
      simp only [WanFirewall.cleared_numFirewall, Function.update_of_ne hg]
      exact hr.few g' hown'
  · intro g' hown'
    by_cases hg : g' = g
    · subst hg
      refine ⟨Function.update_self _ _ _, Function.update_self _ _ _, ?_⟩
      change (g' == .v6 && (h.now.isIpv6FragInstalled && !h.now.delsFrag g')) = false
      rw [← Bool.and_assoc]
      exact hnone
    · rw [Function.update_of_ne hg] at hown'
      simp only [WanFirewall.cleared_numFirewall, Function.update_of_ne hg, hfrag g' hg]
      exact hr.free g' hown'

theorem mark (hr : Recorded base active own h) (g : IpFamily) (b : Bool) : Recorded base (update active g b) own
    { now := { h.now with active := update h.now.active g b }, installed := h.installed } where
  safe := hr.safe.mark g b
  holds := hr.holds
  nonzero := hr.nonzero
  family := hr.family
  places _ hown := hr.places_of_ne hown rfl rfl fun p _ => WanFirewall.kept_congr rfl rfl rfl p
  few := hr.few
  free := hr.free

/-- A configured family has a rule at least. -/
theorem exists_installed (hr : Recorded base active own h) (hown : own g = true) : ∃ x, x ∈ h.installed g := by
  have hplaces := hr.places g hown
  refine Multiset.exists_mem_of_ne_zero fun hzero => ?_
  rw [hzero, Multiset.map_zero, Multiset.coe_eq_zero, List.map_eq_nil_iff] at hplaces
  have hlen := WanFirewall.rulePlaces_length g (h.now.numFirewall g).toNat (hasFrag h.now g)
  rw [show WanFirewall.rulePlaces g _ _ = allPlaces h.now g from rfl, hplaces] at hlen
  cases g <;> simp [WanFirewall.dftPlaces] at hlen <;> omega

theorem mem_live (hr : Recorded base active own h) {x : Nat × FirewallSlot} (hx : x ∈ h.installed g) :
    x ∈ h.now.flt.live := by
  rw [← Multiset.mem_coe, hr.holds.live, Multiset.mem_add]
  cases g
  · exact .inl hx
  · exact .inr hx

/-- A family that is configured on top of itself has rules that the record has not. -/
theorem not_config_twice (hD : D.Succeeds) (hrx : env.rxProp = some rx) (hr : Recorded base active own h)
    (hown : own g = true) {file : FirewallFile} {t : FirewallHistory} (hgo : h.exec D env (.config g file) = .ok t) :
    ¬t.AsInstalled := by
  intro ht
  cases hc : h.now.configDftFirewallRules D env file g with
  | error e =>
    rw [exec, StaCall.exec, hc] at hgo
    cases hgo
  | ok r =>
    rw [exec_ok h (WanFirewall.exec_config g file hc), Except.ok.injEq] at hgo
    subst hgo
    have hfit := WanFirewall.staFits_of_ok hD hrx hc
    cases WanFirewall.configDftFirewallRules_does hD file hrx hc
    obtain ⟨new, hnew, -⟩ := WanFirewall.putAll_holds (D := D) (s := { h.now with config := file })
      (WanFirewall.configPuts_nodup env rx.1 file g)
      (fun x hx => WanFirewall.configPuts_exists hfit.1 hx) hr.holds
    obtain ⟨x, hx⟩ := hr.exists_installed hown
    have hlive := hr.mem_live hx
    have hpresent : x ∈ FirewallHistory.present
        { now := h.now.configured env rx.1 file D g,
          installed := h.record (h.now.configured env rx.1 file D g) (.config g file) } g := by
      refine Multiset.mem_filter.2 ⟨?_, hr.family g x hx⟩
      change x ∈ ((WanFirewall.configured env rx.1 file D g h.now).flt.live : Multiset _)
      rw [WanFirewall.configured, hnew.live, ← hr.holds.live]
      exact Multiset.mem_add.2 (.inr hlive)
    rw [ht.present g] at hpresent
    simp only [record, Function.update_self, added, Multiset.mem_filter] at hpresent
    exact hpresent.2 (List.mem_map_of_mem hlive)

/-- The fragment rule that is not asked for stays. -/
theorem asked_of_del (hD : D.Succeeds) (hrx : env.rxProp = some rx) (hbase : -2 ^ 31 ≤ base g)
    (hr : Recorded base active own h) (hact : active g = true) (hown : own g = true) {t : FirewallHistory}
    (hgo : h.exec D env (.del g) = .ok t) (ht : t.AsInstalled) (h6 : g = .v6)
    (hfrag : h.now.isIpv6FragInstalled = true) : h.now.config.checkDftFirewallRulesAttrMask = true := by
  obtain ⟨m, left, hok, -, hle, hholds, hmap⟩ := hr.del_leaves hD hrx hbase hact hown
  rw [hok, Except.ok.injEq] at hgo
  subst hgo h6
  by_contra hno
  have hstays : (hasFrag h.now .v6 && !h.now.delsFrag .v6) = true := by
    simp [hasFrag, WanFirewall.delsFrag, hfrag, Bool.eq_false_of_not_eq_true hno]
  rw [hstays] at hmap
  obtain ⟨x, hx, -⟩ := Multiset.mem_map.1 (hmap ▸ Multiset.mem_coe.2 List.mem_cons_self)
  have hpresent : x ∈ FirewallHistory.present
      { now := h.now.cleared .v6 m, installed := update h.installed .v6 0 } .v6 := by
    refine Multiset.mem_filter.2 ⟨?_, hr.family .v6 x (Multiset.mem_of_le hle hx)⟩
    rw [hholds.live]
    exact Multiset.mem_add.2 (.inl hx)
  rw [ht.present .v6] at hpresent
  change x ∈ update h.installed .v6 0 .v6 at hpresent
  rw [Function.update_self] at hpresent
  exact absurd hpresent (Multiset.notMem_zero x)

end Recorded

/-! ## Runs -/

section Runs

variable (hD : D.Succeeds) (hrx : env.rxProp = some rx) (hbase : ∀ g, -2 ^ 31 ≤ base g)
include hD hrx hbase

theorem del_step (hact : active g = true) (hown : own g = true) {h : FirewallHistory} (hr : Recorded base active own h)
    (hkeeps : CallKeeps env h (.del g)) :
    ∃ t, h.exec D env (.del g) = .ok t ∧ Recorded base active (update own g false) t :=
  hr.del hD hrx (hbase g) hact hown (hkeeps.resolve_left (by rw [hrx]; exact fun h => nomatch h))

omit hbase in
theorem config_step (hown : own g = false) {h : FirewallHistory} (hr : Recorded base active own h) {file : FirewallFile}
    (hkeeps : CallKeeps env h (.config g file)) :
    ∃ t, h.exec D env (.config g file) = .ok t ∧ Recorded base active (update own g true) t :=
  hr.config hD hrx hown (hkeeps.resolve_left (by rw [hrx]; exact fun h => nomatch h))

theorem del_need (hact : active g = true) (hown : own g = true) {h : FirewallHistory} (hr : Recorded base active own h)
    {cs : List StaCall} (hal : Along (exec D env) AsInstalled h (.del g :: cs)) : CallKeeps env h (.del g) := by
  obtain ⟨-, t, ht, hal⟩ := hal
  exact .inr (hr.asked_of_del hD hrx (hbase g) hact hown ht hal.head)

omit hbase in
theorem config_need {h : FirewallHistory} {file : FirewallFile} {cs : List StaCall}
    (hal : Along (exec D env) AsInstalled h (.config g file :: cs)) : CallKeeps env h (.config g file) := by
  obtain ⟨-, t, ht, -⟩ := hal
  cases hc : h.now.configDftFirewallRules D env file g with
  | error e =>
    rw [exec, StaCall.exec, hc] at ht
    cases ht
  | ok r => exact .inr (WanFirewall.staFits_of_ok hD hrx hc)

theorem change_keeps (active : IpFamily → Bool) (files : IpFamily → FirewallFile) (g : IpFamily) :
    Block (exec D env) (CallKeeps env) AsInstalled (Recorded base active active) (StaEvent.change active files g)
        (Recorded base active active) ∧
      Needs (exec D env) (CallKeeps env) AsInstalled (Recorded base active active) (StaEvent.change active files g) := by
  rw [StaEvent.change]
  split_ifs with hact
  · have hback : update (update active g false) g true = active := by
      rw [Function.update_idem, ← hact, Function.update_eq_self]
    have hdel : ∀ h, Recorded base active active h → CallKeeps env h (.del g) →
        ∃ t, h.exec D env (.del g) = .ok t ∧ Recorded base active (update active g false) t := fun h hr hkeeps =>
      del_step hD hrx hbase hact hact hr hkeeps
    have hconfig : ∀ h, Recorded base active (update active g false) h → CallKeeps env h (.config g (files g)) →
        ∃ t, h.exec D env (.config g (files g)) = .ok t ∧ Recorded base active active t := by
      intro h hr hkeeps
      obtain ⟨t, ht, hrt⟩ := config_step hD hrx (Function.update_self _ _ _) hr hkeeps
      rw [hback] at hrt
      exact ⟨t, ht, hrt⟩
    exact ⟨Block.cons (fun _ hr => hr.asInstalled) hdel (Block.cons (fun _ hr => hr.asInstalled) hconfig
        (Block.nil fun _ hr => hr.asInstalled)),
      Needs.cons (fun _ hr hal => del_need hD hrx hbase hact hact hr hal) hdel
        (Needs.cons (fun _ _ hal => config_need hD hrx hal) hconfig Needs.nil)⟩
  · exact ⟨Block.nil fun _ hr => hr.asInstalled, Needs.nil⟩

theorem event_keeps (e : StaEvent) :
    Block (exec D env) (CallKeeps env) AsInstalled (Recorded base active active) (e.calls active)
        (Recorded base (e.next active) (e.next active)) ∧
      Needs (exec D env) (CallKeeps env) AsInstalled (Recorded base active active) (e.calls active) := by
  cases e with
  | routeAdd g file =>
    have hup : ∀ h, Recorded base active active h → CallKeeps env h (.up g) →
        ∃ t, h.exec D env (.up g) = .ok t ∧ active g = false ∧ Recorded base (update active g true) active t := by
      intro h hr hkeeps
      have hact : h.now.active g = false := hkeeps.resolve_left (by rw [hrx]; exact fun h => nomatch h)
      rw [hr.safe.active] at hact
      exact ⟨_, rfl, hact, hr.mark g true⟩
    have hconfig : ∀ h, (active g = false ∧ Recorded base (update active g true) active h) →
        CallKeeps env h (.config g file) →
          ∃ t, h.exec D env (.config g file) = .ok t ∧ Recorded base (update active g true) (update active g true) t :=
      fun h hr hkeeps => config_step hD hrx hr.1 hr.2 hkeeps
    refine ⟨Block.cons (fun _ hr => hr.asInstalled) hup (Block.cons (fun _ hr => hr.2.asInstalled) hconfig
        (Block.nil fun _ hr => hr.asInstalled)),
      Needs.cons ?_ hup (Needs.cons (fun _ _ hal => config_need hD hrx hal) hconfig Needs.nil)⟩
    -- what is configured already would be configured on top of itself
    intro h hr hal
    refine .inr ?_
    rw [hr.safe.active]
    refine Bool.eq_false_of_not_eq_true fun hact => ?_
    obtain ⟨-, t, ht, -, u, hu, hal⟩ := hal
    cases ht
    exact (hr.mark g true).not_config_twice hD hrx hact hu hal
  | routeDel g =>
    simp only [StaEvent.calls, StaEvent.next]
    split_ifs with hact
    · have hdel : ∀ h, Recorded base active active h → CallKeeps env h (.del g) →
          ∃ t, h.exec D env (.del g) = .ok t ∧ Recorded base active (update active g false) t := fun h hr hkeeps =>
        del_step hD hrx hbase hact hact hr hkeeps
      have hdown : ∀ h, Recorded base active (update active g false) h → CallKeeps env h (.down g) →
          ∃ t, h.exec D env (.down g) = .ok t ∧ Recorded base (update active g false) (update active g false) t :=
        fun h hr _ => ⟨_, rfl, hr.mark g false⟩
      exact ⟨Block.cons (fun _ hr => hr.asInstalled) hdel (Block.cons (fun _ hr => hr.asInstalled) hdown
          (Block.nil fun _ hr => hr.asInstalled)),
        Needs.cons (fun _ hr hal => del_need hD hrx hbase hact hact hr hal) hdel
          (Needs.cons (fun _ _ _ => .inr trivial) hdown Needs.nil)⟩
    · have hsame : update active g false = active := by
        rw [← Bool.eq_false_of_not_eq_true hact, Function.update_eq_self]
      rw [hsame]
      exact ⟨Block.nil fun _ hr => hr.asInstalled, Needs.nil⟩
  | firewallChange files =>
    obtain ⟨hb4, hn4⟩ := change_keeps hD hrx hbase active files .v4
    obtain ⟨hb6, hn6⟩ := change_keeps hD hrx hbase active files .v6
    exact ⟨hb4.append hb6, hn4.append hb4 hn6⟩

end Runs

/-- Before any event. -/
def start (count : IpFamily → BitVec 32) : FirewallHistory where
  now := WanFirewall.constructed count

theorem start_recorded (count : IpFamily → BitVec 32) :
    Recorded (fun g => (count g).toInt) (fun _ => false) (fun _ => false) (start count) where
  safe := WanFirewall.constructed_safe count
  holds := Holds.empty
  nonzero _ x hx := absurd hx (Multiset.notMem_zero x)
  family _ x hx := absurd hx (Multiset.notMem_zero x)
  places _ h := by cases h
  few _ h := by cases h
  free g _ := by cases g <;> exact ⟨rfl, rfl, rfl⟩

/-- Without rx properties nothing is installed. -/
theorem asInstalled_of_none (hrx : env.rxProp = none) (count : IpFamily → BitVec 32) (cs : List StaCall) :
    Along (exec D env) AsInstalled (start count) cs ∧ Meets (exec D env) (CallKeeps env) (start count) cs := by
  have hmeets : ∀ h, Meets (exec D env) (CallKeeps env) h cs := by
    induction cs with
    | nil => exact fun _ => trivial
    | cons c cs ih => exact fun h => ⟨.inl hrx, fun t _ => ih t⟩
  let I : FirewallHistory → Prop := fun h => h.now.flt = Ledger.empty ∧ h.installed = fun _ => 0
  have hI : ∀ h, I h → h.AsInstalled := by
    rintro h ⟨hflt, hinst⟩
    exact ⟨fun g => by rw [present, hflt, hinst]; rfl, by rw [hflt]; rfl⟩
  refine ⟨(Block.of_inv (A := I) hI (fun h c hr _ => ?_) cs (start count) ⟨rfl, rfl⟩ (hmeets _)).1, hmeets _⟩
  obtain ⟨hflt, hinst⟩ := hr
  obtain ⟨t, ht, hsame⟩ := WanFirewall.exec_none (D := D) hrx h.now c
  refine ⟨_, Recorded.exec_ok h ht, hsame.trans hflt, ?_⟩
  have hzero : ∀ g, update h.installed g 0 = fun _ => 0 := fun g => by rw [hinst, Function.update_eq_self_iff]
  cases c with
  | up g => exact hinst
  | config g file =>
    have hadded : added h.now t = 0 := by
      rw [added, hsame, hflt]
      rfl
    rw [record, hadded]
    exact hzero g
  | del g => exact hzero g
  | down g => exact hinst

/-- **The rules are removed as they were installed exactly when each call finds what it is to**, in every run of events
with every file, while the driver refuses nothing. -/
theorem asInstalled_iff (env : WanFirewallEnv) {D : FirewallDriver} (hD : D.Succeeds) (count : IpFamily → BitVec 32)
    (es : List StaEvent) :
    Along (exec D env) AsInstalled (start count) (staCalls es) ↔
      Meets (exec D env) (CallKeeps env) (start count) (staCalls es) := by
  cases hrx : env.rxProp with
  | none =>
    obtain ⟨hal, hmeets⟩ := asInstalled_of_none (D := D) hrx count (staCalls es)
    exact iff_of_true hal hmeets
  | some rx =>
    have hbase : ∀ g, -2 ^ 31 ≤ (count g).toInt := fun g => by
      have := BitVec.le_toInt (count g)
      omega
    exact Lib.along_iff_of_blocks (I := fun a => Recorded (fun g => (count g).toInt) a a)
      (fun _ _ hr => hr.asInstalled) (fun _ e => (event_keeps hD hrx hbase e).1)
      (fun _ e => (event_keeps hD hrx hbase e).2) (start_recorded count) es

/-- A run that meets the condition: a route comes, and goes again. -/
theorem asInstalled_iff_route :
    Along (exec obedientFirewall WanFirewall.routerEnv) AsInstalled (start fun _ => 0)
      (staCalls [.routeAdd .v4 {}, .routeDel .v4]) := by
  refine (asInstalled_iff WanFirewall.routerEnv obedientFirewall_succeeds (fun _ => 0) _).2 ?_
  refine ⟨.inr rfl, ?_⟩
  rintro _ ⟨⟩
  refine ⟨.inr ⟨by decide, by decide, by decide⟩, fun _ _ => ⟨.inr (fun h => nomatch h), fun _ _ => ?_⟩⟩
  exact ⟨.inr trivial, fun _ _ => trivial⟩

/-- A file that asks for an IPv6 port. -/
def ipv6Port : FirewallFile where
  settings := { firewallEnable := true }
  entries := [{ attrib := { attribMask := {.srcPort} }, ipVsn := 6 }]

/-- The IPv6 route comes while the file asks for a port; when it goes, the IPv4 route has come and the file was read
without one: the fragment rule stays. -/
theorem not_asInstalled_fragment :
    ¬Along (exec obedientFirewall WanFirewall.routerEnv) AsInstalled (start fun _ => 0)
      (staCalls [.routeAdd .v6 ipv6Port, .routeAdd .v4 {}, .routeDel .v6]) := by
  intro h
  obtain ⟨t, ht, hP⟩ := h.last
  have hleft : ((staCalls [.routeAdd .v6 ipv6Port, .routeAdd .v4 {}, .routeDel .v6]).foldlM
      (exec obedientFirewall WanFirewall.routerEnv) (start fun _ => 0)).toOption.map
        (fun t => ((t.present .v6).card, (t.installed .v6).card)) = some (1, 0) := by
    decide +kernel
  rw [ht] at hleft
  have hcards : ((t.present .v6).card, (t.installed .v6).card) = (1, 0) := Option.some.inj hleft
  rw [hP.present .v6] at hcards
  exact absurd ((Prod.mk.inj hcards).1.symm.trans (Prod.mk.inj hcards).2) (by decide)

end FirewallHistory

end HiaeCommon
