/-
A station's firewall over whole runs: what its events call, and that no call
goes wrong while the file fits when it is read and the driver refuses nothing.
Every place that is counted has been written then, and the pipe's rules are
counted at least as often as they will be counted down.
-/
import HiaeCommon.Lib.CallBlocks
import HiaeCommon.Ipacm.FirewallCalls

namespace HiaeCommon

open Function (update)
open Lib (Along Block Meets callsOf)

/-- What an event does to the firewall: the marks `active_v4` and `active_v6` change as well. A call of
`config_dft_firewall_rules` reads the file. -/
inductive StaCall
  | up (g : IpFamily)
  | config (g : IpFamily) (file : FirewallFile)
  | del (g : IpFamily)
  | down (g : IpFamily)

/-- The events of a station: `handle_route_add_evt` gets to the firewall, a route is deleted, the file has changed. -/
inductive StaEvent
  | routeAdd (g : IpFamily) (file : FirewallFile)
  | routeDel (g : IpFamily)
  | firewallChange (files : IpFamily → FirewallFile)

/-- The members after a call. -/
def StaCall.exec (D : FirewallDriver) (env : WanFirewallEnv) (s : WanFirewall) : StaCall → Except FirewallFault WanFirewall
  | .up g => .ok { s with active := update s.active g true }
  | .config g file => do
    let (_, s) ← s.configDftFirewallRules D env file g
    return s
  | .del g => do
    let (_, s) ← s.delDftFirewallRules D env g
    return s
  | .down g => .ok { s with active := update s.active g false }

namespace StaEvent

/-- The files of a family that is active are read anew. -/
def change (active : IpFamily → Bool) (files : IpFamily → FirewallFile) (g : IpFamily) : List StaCall :=
  if active g then [.del g, .config g (files g)] else []

def calls (active : IpFamily → Bool) : StaEvent → List StaCall
  | .routeAdd g file => [.up g, .config g file]
  | .routeDel g => if active g then [.del g, .down g] else []
  | .firewallChange files => change active files .v4 ++ change active files .v6

def next (active : IpFamily → Bool) : StaEvent → IpFamily → Bool
  | .routeAdd g _ => update active g true
  | .routeDel g => update active g false
  | .firewallChange _ => active

end StaEvent

/-- The calls that events make from the start, when no family is active. -/
def staCalls (es : List StaEvent) : List StaCall := callsOf StaEvent.calls StaEvent.next (fun _ => false) es

namespace WanFirewall

/-- An instance that was constructed; the pipe may have rules of others. -/
def constructed (fltRuleCount : IpFamily → BitVec 32) : WanFirewall where
  fltRuleCount := fltRuleCount

/-- Every handle that will be counted has been written: those of this file will be, and where the family has others that
are counted they are there, or there are so many that none is deleted. -/
def Refills (s : WanFirewall) (file : FirewallFile) (g : IpFamily) : Prop :=
  (s.numFirewall g).toInt + ruleCount file g ≤ ipacmMaxFirewallEntries →
    ∀ i, ruleCount file g ≤ i → i < (s.numFirewall g).toNat + ruleCount file g → (s.kept (.entry g i)).isSome

/-- What a call finds. -/
def CallFits (env : WanFirewallEnv) (s : WanFirewall) : StaCall → Prop
  | .config g file => env.rxProp = none ∨ StaFits file g s ∧ s.Refills file g
  | _ => True

/-- What the pipe's count has of a family, with the default rules or without. -/
def owed (s : WanFirewall) (g : IpFamily) (own : Bool) : Nat :=
  (s.numFirewall g).toNat + (if own then (dftPlaces g).length else 0) + (g == .v6 && s.isIpv6FragInstalled).toNat

/-- What is so between the calls. `own` are the families whose default rules are installed, `base` is the pipe's count
without the rules of this instance. -/
structure Safe (base : IpFamily → Int) (active own : IpFamily → Bool) (s : WanFirewall) : Prop where
  active : s.active = active
  nonneg : ∀ g, 0 ≤ (s.numFirewall g).toInt
  written : ∀ g, (s.numFirewall g).toInt ≤ ipacmMaxFirewallEntries →
    ∀ i < (s.numFirewall g).toNat, (s.kept (.entry g i)).isSome
  dft : ∀ g, own g = true → ∀ p ∈ dftPlaces g, (s.kept p).isSome
  counted : ∀ g, base g + s.owed g (own g) ≤ (s.fltRuleCount g).toInt

namespace Safe

variable {D : FirewallDriver} {env : WanFirewallEnv} {base : IpFamily → Int} {active own : IpFamily → Bool}
variable {s : WanFirewall} {g : IpFamily}

theorem mark (h : Safe base active own s) (g : IpFamily) (b : Bool) :
    Safe base (update active g b) own { s with active := update s.active g b } where
  active := by rw [h.active]
  nonneg := h.nonneg
  written := h.written
  dft := h.dft
  counted := h.counted

/-- The default rules are no longer counted on. -/
theorem disown (h : Safe base active own s) (g : IpFamily) : Safe base active (update own g false) s where
  active := h.active
  nonneg := h.nonneg
  written := h.written
  dft g' hg' := by
    by_cases hg : g' = g
    · rw [hg, Function.update_self] at hg'
      cases hg'
    · rw [Function.update_of_ne hg] at hg'
      exact h.dft g' hg'
  counted g' := by
    have hc := h.counted g'
    by_cases hg : g' = g
    · rw [hg, Function.update_self]
      rw [hg] at hc
      simp only [owed, Bool.false_eq_true, if_false] at hc ⊢
      omega
    · rwa [Function.update_of_ne hg]

variable {rx : RuleAttrib × RuleAttrib} {file : FirewallFile}

/-- `config_dft_firewall_rules` keeps it. -/
theorem config (hD : D.Succeeds) (hrx : env.rxProp = some rx) (h : Safe base active own s) (hfit : StaFits file g s)
    (hrefill : s.Refills file g) : ∃ r, s.configDftFirewallRules D env file g = .ok r ∧
      Safe base active (update own g true) r.2 := by
  obtain ⟨r, hr⟩ := (configDftFirewallRules_ok_iff env file g s).2 (.inr hfit) D
  obtain ⟨hnum, hcount⟩ := configDftFirewallRules_counts hD file hrx hr
  cases configDftFirewallRules_does hD file hrx hr
  simp only at hnum hcount
  refine ⟨_, hr, ?_⟩
  change Safe base active (update own g true) (s.configured env rx.1 file D g)
  have hnat : ((s.configured env rx.1 file D g).numFirewall g).toNat = (s.numFirewall g).toNat + ruleCount file g := by
    have h0 := h.nonneg g
    have hs := toInt_eq_toNat h0
    have ht := toInt_eq_toNat (n := (s.configured env rx.1 file D g).numFirewall g) (by omega)
    omega
  constructor
  · rw [configured_active, h.active]
  · intro g'
    by_cases hg : g' = g
    · have h0 := h.nonneg g
      rw [hg]
      omega
    · rw [configured_numFirewall _ _ _ _ _ hg]
      exact h.nonneg g'
  · intro g' hle i hi
    refine kept_configured_isSome env rx.1 file D s hfit.1 ?_
    by_cases hg : g' = g
    · subst hg
      by_cases hlt : i < ruleCount file g'
      · exact .inl (mem_rulePlaces.2 (.inl ⟨i, hlt, rfl⟩))
      · exact .inr (hrefill (by omega) i (not_lt.1 hlt) (by omega))
    · rw [configured_numFirewall _ _ _ _ _ hg] at hle hi
      exact .inr (h.written g' hle i hi)
  · intro g' hown p hp
    refine kept_configured_isSome env rx.1 file D s hfit.1 ?_
    by_cases hg : g' = g
    · subst hg
      exact .inl (mem_rulePlaces.2 (.inr (.inl hp)))
    · rw [Function.update_of_ne hg] at hown
      exact .inr (h.dft g' hown p hp)
  · intro g'
    have hc := h.counted g'
    simp only [owed, configured_isIpv6FragInstalled] at hc ⊢
    by_cases hg : g' = g
    · subst hg
      have hlen := dftPlaces_length file g'
      have hfrag : (g' == .v6 && (s.isIpv6FragInstalled || wantsFrag file g')).toNat ≤
          (g' == .v6 && s.isIpv6FragInstalled).toNat + (wantsFrag file g').toNat := by
        cases g' == IpFamily.v6 <;> cases s.isIpv6FragInstalled <;> cases wantsFrag file g' <;> decide
      rw [Function.update_self, if_pos rfl]
      omega
    · have hfrag : (g' == .v6 && (s.isIpv6FragInstalled || wantsFrag file g)) = (g' == .v6 && s.isIpv6FragInstalled) := by
        cases g with
        | v4 => rw [wantsFrag_v4, Bool.or_false]
        | v6 =>
          cases g' with
          | v4 => rfl
          | v6 => exact absurd rfl hg
      rw [Function.update_of_ne hg, configured_numFirewall _ _ _ _ _ hg, configured_fltRuleCount _ _ _ _ _ hg, hfrag]
      exact hc

/-- `del_dft_firewall_rules` keeps it, where the default rules are installed and there are not too many others. -/
theorem del_goes (hD : D.Succeeds) (hrx : env.rxProp = some rx) (hbase : -2 ^ 31 ≤ base g) (h : Safe base active own s)
    (hact : active g = true) (hown : own g = true) (hfew : (s.numFirewall g).toInt ≤ ipacmMaxFirewallEntries) :
    ∃ m, s.delDftFirewallRules D env g = .ok (true, s.cleared g m) ∧
      Safe base active (update own g false) (s.cleared g m) := by
  have hsact : s.active g = true := by rw [h.active, hact]
  have hdels : (s.delsFrag g).toNat ≤ (g == .v6 && s.isIpv6FragInstalled).toNat := by
    simp only [delsFrag]
    cases g == IpFamily.v6 <;> cases s.isIpv6FragInstalled <;> simp
    exact Bool.toNat_le _
  have hlen := rulePlaces_length g (s.numFirewall g).toNat (s.delsFrag g)
  have hcounted := h.counted g
  simp only [owed, hown, if_true] at hcounted
  have hread : ∀ p ∈ s.delPlaces g, (s.kept p).isSome := by
    intro p hp
    rcases mem_rulePlaces.1 hp with ⟨i, hi, rfl⟩ | hdft | ⟨-, rfl⟩
    · exact h.written g hfew i hi
    · exact h.dft g hown p hdft
    · rfl
  obtain ⟨m, hm, hgo⟩ := delDftFirewallRules_goes hD hrx hsact (h.nonneg g) hfew hread (by
    rw [delPlaces, hlen]
    omega)
  refine ⟨m, hgo, ?_⟩
  have hfresh : (0 : BitVec 32).toInt = 0 := rfl
  constructor
  · exact h.active
  · intro g'
    by_cases hg : g' = g
    · rw [cleared_numFirewall, hg, Function.update_self, hfresh]
    · rw [cleared_numFirewall, Function.update_of_ne hg]
      exact h.nonneg g'
  · intro g' hle i hi
    rw [kept_cleared]
    by_cases hg : g' = g
    · rw [cleared_numFirewall, hg, Function.update_self] at hi
      exact absurd hi (Nat.not_lt_zero i)
    · rw [cleared_numFirewall, Function.update_of_ne hg] at hle hi
      exact h.written g' hle i hi
  · intro g' hown' p hp
    rw [kept_cleared]
    exact (h.disown g).dft g' hown' p hp
  · intro g'
    have hc := h.counted g'
    simp only [owed, cleared_numFirewall, cleared_fltRuleCount, cleared_isIpv6FragInstalled] at hc ⊢
    by_cases hg : g' = g
    · subst hg
      have hfrag : (g' == .v6 && (s.isIpv6FragInstalled && !s.delsFrag g')).toNat + (s.delsFrag g').toNat =
          (g' == .v6 && s.isIpv6FragInstalled).toNat := by
        simp only [delsFrag]
        cases g' == IpFamily.v6 <;> cases s.isIpv6FragInstalled <;> cases s.config.checkDftFirewallRulesAttrMask <;> rfl
      have hzero : (0 : BitVec 32).toNat = 0 := rfl
      rw [delPlaces, hlen] at hm
      rw [Function.update_self, Function.update_self, Function.update_self, hzero, if_neg Bool.false_ne_true]
      omega
    · have hfrag : (g' == .v6 && (s.isIpv6FragInstalled && !s.delsFrag g)) = (g' == .v6 && s.isIpv6FragInstalled) := by
        cases g with
        | v4 => rw [show s.delsFrag .v4 = false from rfl, Bool.not_false, Bool.and_true]
        | v6 =>
          cases g' with
          | v4 => rfl
          | v6 => exact absurd rfl hg
      rw [Function.update_of_ne hg, Function.update_of_ne hg, Function.update_of_ne hg, hfrag]
      exact hc

/-- It goes right also where it deletes nothing, because there are too many. -/
theorem del (hD : D.Succeeds) (hrx : env.rxProp = some rx) (hbase : -2 ^ 31 ≤ base g) (h : Safe base active own s)
    (hact : active g = true) (hown : own g = true) : ∃ r, s.delDftFirewallRules D env g = .ok r ∧
      Safe base active (update own g false) r.2 := by
  by_cases hmany : (ipacmMaxFirewallEntries : Int) < (s.numFirewall g).toInt
  · refine ⟨(false, s), ?_, h.disown g⟩
    simp only [delDftFirewallRules, hrx, if_pos (h.active ▸ hact : s.active g = true), if_pos hmany]
  · obtain ⟨m, hgo, hsafe⟩ := h.del_goes hD hrx hbase hact hown (not_lt.1 hmany)
    exact ⟨_, hgo, hsafe⟩

end Safe

/-! ## Runs -/

section Runs

variable {D : FirewallDriver} {env : WanFirewallEnv} {base : IpFamily → Int} {active own : IpFamily → Bool}
variable {rx : RuleAttrib × RuleAttrib}

theorem exec_config (g : IpFamily) (file : FirewallFile) {s : WanFirewall} {r : Bool × WanFirewall}
    (h : s.configDftFirewallRules D env file g = .ok r) : StaCall.exec D env s (.config g file) = .ok r.2 := by
  rw [StaCall.exec, h]
  rfl

theorem exec_del (g : IpFamily) {s : WanFirewall} {r : Bool × WanFirewall} (h : s.delDftFirewallRules D env g = .ok r) :
    StaCall.exec D env s (.del g) = .ok r.2 := by
  rw [StaCall.exec, h]
  rfl

theorem exec_none (hrx : env.rxProp = none) (s : WanFirewall) (c : StaCall) :
    ∃ t, StaCall.exec D env s c = .ok t ∧ t.flt = s.flt := by
  cases c with
  | up g => exact ⟨_, rfl, rfl⟩
  | config g file => exact ⟨s, exec_config g file (r := (true, s)) (by simp only [configDftFirewallRules, hrx]), rfl⟩
  | del g => exact ⟨s, exec_del g (r := (true, s)) (by simp only [delDftFirewallRules, hrx]), rfl⟩
  | down g => exact ⟨_, rfl, rfl⟩

/-- Where a family is active the event's calls for it keep the safety. -/
theorem change_block (hD : D.Succeeds) (hrx : env.rxProp = some rx) (hbase : ∀ g, -2 ^ 31 ≤ base g)
    (files : IpFamily → FirewallFile) (g : IpFamily) : Block (StaCall.exec D env) (CallFits env) (fun _ => True)
      (Safe base active active) (StaEvent.change active files g) (Safe base active active) := by
  rw [StaEvent.change]
  split_ifs with hact
  · refine Block.cons (M := Safe base active (update active g false)) (fun _ _ => trivial) ?_
      (Block.cons (M := Safe base active active) (fun _ _ => trivial) ?_ (Block.nil fun _ _ => trivial))
    · intro s hs _
      obtain ⟨r, hr, hsafe⟩ := hs.del hD hrx (hbase g) hact hact
      exact ⟨_, exec_del g hr, hsafe⟩
    · intro s hs hfits
      obtain ⟨hfit, hrefill⟩ := hfits.resolve_left (by rw [hrx]; exact fun h => nomatch h)
      obtain ⟨r, hr, hsafe⟩ := hs.config hD hrx hfit hrefill
      rw [Function.update_idem, ← hact, Function.update_eq_self] at hsafe
      exact ⟨_, exec_config g _ hr, hsafe⟩
  · exact Block.nil fun _ _ => trivial

theorem event_block (hD : D.Succeeds) (hrx : env.rxProp = some rx) (hbase : ∀ g, -2 ^ 31 ≤ base g) (e : StaEvent) :
    Block (StaCall.exec D env) (CallFits env) (fun _ => True) (Safe base active active) (e.calls active)
      (Safe base (e.next active) (e.next active)) := by
  cases e with
  | routeAdd g file =>
    refine Block.cons (M := Safe base (update active g true) active) (fun _ _ => trivial) ?_
      (Block.cons (M := Safe base (update active g true) (update active g true)) (fun _ _ => trivial) ?_
        (Block.nil fun _ _ => trivial))
    · exact fun s hs _ => ⟨_, rfl, hs.mark g true⟩
    · intro s hs hfits
      obtain ⟨hfit, hrefill⟩ := hfits.resolve_left (by rw [hrx]; exact fun h => nomatch h)
      obtain ⟨r, hr, hsafe⟩ := hs.config hD hrx hfit hrefill
      exact ⟨_, exec_config g _ hr, hsafe⟩
  | routeDel g =>
    simp only [StaEvent.calls, StaEvent.next]
    split_ifs with hact
    · refine Block.cons (M := Safe base active (update active g false)) (fun _ _ => trivial) ?_
        (Block.cons (M := Safe base (update active g false) (update active g false)) (fun _ _ => trivial) ?_
          (Block.nil fun _ _ => trivial))
      · intro s hs _
        obtain ⟨r, hr, hsafe⟩ := hs.del hD hrx (hbase g) hact hact
        exact ⟨_, exec_del g hr, hsafe⟩
      · exact fun s hs _ => ⟨_, rfl, hs.mark g false⟩
    · have hsame : update active g false = active := by
        rw [← Bool.eq_false_of_not_eq_true hact, Function.update_eq_self]
      rw [hsame]
      exact Block.nil fun _ _ => trivial
  | firewallChange files =>
    exact (change_block hD hrx hbase files .v4).append (change_block hD hrx hbase files .v6)

theorem constructed_safe (count : IpFamily → BitVec 32) :
    Safe (fun g => (count g).toInt) (fun _ => false) (fun _ => false) (constructed count) where
  active := rfl
  nonneg _ := le_refl 0
  written _ _ i hi := absurd hi (Nat.not_lt_zero i)
  dft _ h := by cases h
  counted g := by
    have howed : (constructed count).owed g false = 0 := by cases g <;> rfl
    rw [howed]
    exact le_of_eq (add_zero _)

/-- **No call goes wrong** in a run whose files fit. -/
theorem staCalls_goRight (hD : D.Succeeds) (count : IpFamily → BitVec 32) {es : List StaEvent}
    (hfits : Meets (StaCall.exec D env) (CallFits env) (constructed count) (staCalls es)) :
    Along (StaCall.exec D env) (fun _ => True) (constructed count) (staCalls es) := by
  cases hrx : env.rxProp with
  | none =>
    refine (Block.of_inv (A := fun _ => True) (fun _ _ => trivial) (fun s c _ _ => ?_) _ _ trivial hfits).1
    obtain ⟨t, ht, -⟩ := exec_none hrx s c
    exact ⟨t, ht, trivial⟩
  | some rx =>
    have hbase : ∀ g, -2 ^ 31 ≤ (count g).toInt := fun g => by
      have := BitVec.le_toInt (count g)
      omega
    exact Lib.along_of_blocks (I := fun a => Safe (fun g => (count g).toInt) a a) (fun _ _ _ => trivial)
      (fun _ e => event_block hD hrx hbase e) (constructed_safe count) hfits

end Runs

/-- **The installers stay in bounds exactly when the rules of the file fit**, whatever the driver does; and in a run whose
files fit while the driver refuses nothing, nothing is read that was not written and no count overflows. -/
theorem inBounds_iff_fits (env : WanFirewallEnv) :
    (∀ file g s, (∀ D, ∃ r, configDftFirewallRules D env file g s = .ok r) ↔ env.rxProp = none ∨ StaFits file g s) ∧
    (∀ file ruleOffset g s, (∀ D, ∃ r, configDftFirewallRulesEx D env file ruleOffset g s = .ok r) ↔
      env.rxProp = none ∨ ruleOffset.toInt < 0 ∨ ExFits env file ruleOffset g s) ∧
    ∀ D : FirewallDriver, D.Succeeds → ∀ count es,
      Meets (StaCall.exec D env) (CallFits env) (constructed count) (staCalls es) →
        Along (StaCall.exec D env) (fun _ => True) (constructed count) (staCalls es) :=
  ⟨configDftFirewallRules_ok_iff env, configDftFirewallRulesEx_ok_iff env, fun _ hD count _ => staCalls_goRight hD count⟩

/-- A file that asks for that many ports of TCP and of UDP. -/
def bothProtocols (n : Nat) (hn : n ≤ ipacmMaxFirewallEntries) : FirewallFile where
  settings := { firewallEnable := true }
  entries := List.replicate n { attrib := { v4 := { protocol := 253 } }, ipVsn := 4 }
  fits := by rwa [List.length_replicate]

/-- An interface with rx properties, of the third version. -/
def routerEnv : WanFirewallEnv where
  featureIpaV3 := true
  rxProp := some ({}, {})
  ifModeRouter := true
  isWanBridgeMode := false

theorem bothProtocols_ruleCount (n : Nat) (hn : n ≤ ipacmMaxFirewallEntries) :
    ruleCount (bothProtocols n hn) .v4 = 2 * n := by
  simp [ruleCount, entryAttribs, bothProtocols, FirewallFile.entriesOf, IpFamily.ipVsn, RuleAttrib.split,
    RuleAttrib.protocolOf, mul_comm]

/-- A run that fits: a route comes, and goes again. -/
theorem inBounds_iff_fits_route :
    Along (StaCall.exec obedientFirewall routerEnv) (fun _ => True) (constructed fun _ => 0)
      (staCalls [.routeAdd .v4 {}, .routeDel .v4]) := by
  refine (inBounds_iff_fits routerEnv).2.2 obedientFirewall obedientFirewall_succeeds (fun _ => 0) _ ?_
  refine ⟨trivial, ?_⟩
  rintro _ ⟨⟩
  refine ⟨.inr ⟨⟨by decide, by decide, by decide⟩, fun _ i _ hi => absurd hi (Nat.not_lt_zero i)⟩, ?_⟩
  exact fun _ _ => ⟨trivial, fun _ _ => ⟨trivial, fun _ _ => trivial⟩⟩

/-- A station's handles are outside their array with 26 entries for both protocols, and the modem's rules with 50. -/
theorem not_inBounds_bothProtocols :
    (¬∀ D, ∃ r, configDftFirewallRules D routerEnv (bothProtocols 26 (by decide)) .v4 (constructed fun _ => 0) = .ok r) ∧
      ¬∀ D, ∃ r, configDftFirewallRulesEx D routerEnv (bothProtocols 50 (by decide)) 0 .v4 (constructed fun _ => 0) = .ok r := by
  rw [configDftFirewallRules_ok_iff, configDftFirewallRulesEx_ok_iff]
  constructor
  · rintro (h | ⟨h, -⟩)
    · cases h
    · rw [bothProtocols_ruleCount] at h
      exact absurd h (by decide)
  · rintro (h | h | ⟨h, -⟩)
    · cases h
    · exact absurd h (by decide)
    · rw [bothProtocols_ruleCount] at h
      exact absurd h (by decide)

end WanFirewall

end HiaeCommon
