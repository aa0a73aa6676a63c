/-
The firewall installers stay within their arrays and counters exactly when the
rules they expand the file to fit: a counter of the function, the number of
firewall rules and the number of filter rules are spent together, one rule
after the other, whichever of the driver's calls fails.
-/
import Mathlib.Algebra.Order.Group.Int
import Mathlib.Algebra.Order.Monoid.Prod
import Mathlib.Data.Int.ConditionallyCompleteOrder
import HiaeCommon.Ipacm.WanFirewall

namespace HiaeCommon

open Function (update)
open Lib (Step)
open Lib.Step (Costs Pays Keeps Budgeted)

/-! ## `int` -/

/-- `INT_MAX`. -/
abbrev intMax : Int := 2 ^ 31 - 1

theorem addInt_ok {n : BitVec 32} {k : Int} (h : -2 ^ 31 ≤ n.toInt + k ∧ n.toInt + k < 2 ^ 31) :
    ∃ m, addInt n k = .ok m ∧ m.toInt = n.toInt + k := by
  refine ⟨_, if_pos h, ?_⟩
  rw [BitVec.toInt_add, BitVec.toInt_ofInt, Int.add_bmod_bmod]
  exact Int.bmod_eq_of_le (by omega) (by omega)

theorem toInt_le_intMax (n : BitVec 32) : n.toInt ≤ intMax := by
  have := BitVec.toInt_lt (x := n)
  simp only [intMax]
  omega

theorem ok_bind {ε α β : Type} (a : α) (f : α → Except ε β) : (Except.ok a >>= f) = f a := rfl

/-- One more. -/
theorem addInt_one {n : BitVec 32} (h : n.toInt + 1 ≤ intMax) : ∃ m, addInt n 1 = .ok m ∧ m.toInt = n.toInt + 1 := by
  have := BitVec.le_toInt n
  simp only [intMax] at h
  exact addInt_ok (by omega)

theorem addInt_one_error {n : BitVec 32} (h : ¬n.toInt + 1 ≤ intMax) : addInt n 1 = .error .overflow := by
  simp only [intMax] at h
  exact if_neg (by omega)

theorem FirewallDriver.Succeeds.not_fails {D : FirewallDriver} (hD : D.Succeeds) (call : FirewallCall) :
    ¬D.fails call = true := by simp [hD.fails]

namespace WanFirewall

/-! ## What a file asks for -/

/-- How many rules a family's entries expand to. -/
def ruleCount (file : FirewallFile) (g : IpFamily) : Nat := (entryAttribs file g).length

def fragCount (file : FirewallFile) (g : IpFamily) : Nat := if wantsFrag file g then 1 else 0

/-- A station's rules beside those of the entries. -/
def dftCount (file : FirewallFile) : IpFamily → Nat
  | .v4 => 1
  | .v6 => fragCount file .v6 + 2

theorem wantsFrag_v4 (file : FirewallFile) : wantsFrag file .v4 = false := rfl

theorem ruleCount_eq_zero {file : FirewallFile} (h : file.numRules .v6 = 0) : entryAttribs file .v6 = [] := by
  have hnone : file.entriesOf .v6 = [] := by
    refine List.filter_eq_nil_iff.2 fun e he h6 => ?_
    have hv4 : ¬(e.ipVsn != 4) = true := List.countP_eq_zero.1 h e he
    rw [beq_iff_eq] at h6
    rw [h6] at hv4
    exact hv4 rfl
  simp [entryAttribs, hnone]

/-! ## A station -/

/-- `firewall_hdl_v4` or `firewall_hdl_v6`, `num_firewall_v4` or `num_firewall_v6`, and the count of the pipe's rules. -/
def staUse (g : IpFamily) (t : Nat × WanFirewall) : Int × Int × Int :=
  (t.1, (t.2.numFirewall g).toInt, (t.2.fltRuleCount g).toInt)

def staLimit : Int × Int × Int := (ipacmMaxFirewallEntries, intMax, intMax)

/-- What fits of a file. -/
def StaFits (file : FirewallFile) (g : IpFamily) (s : WanFirewall) : Prop :=
  ruleCount file g ≤ ipacmMaxFirewallEntries ∧ (s.numFirewall g).toInt + ruleCount file g ≤ intMax ∧
    (s.fltRuleCount g).toInt + (ruleCount file g + dftCount file g) ≤ intMax

section Sta

variable {D : FirewallDriver} {env : WanFirewallEnv} {g : IpFamily}

/-- The members with a rule installed and counted with the pipe's. -/
def installed (D : FirewallDriver) (g : IpFamily) (rule : WanFltRule) (m : BitVec 32) (s : WanFirewall) : WanFirewall :=
  (s.withFlt (s.flt.add D.handles ⟨g, rule⟩).2).withCount g m

theorem addFilteringRule_fails {call : FirewallCall} {rule : WanFltRule} (h : D.fails call = true) (s : WanFirewall) :
    s.addFilteringRule D call g rule = (none, s) := if_pos h

theorem addFilteringRule_goes {call : FirewallCall} {rule : WanFltRule} (h : D.fails call = false) (s : WanFirewall) :
    s.addFilteringRule D call g rule =
      (some (D.handles.pick s.flt.used), s.withFlt (s.flt.add D.handles ⟨g, rule⟩).2) := by
  rw [addFilteringRule, h]
  rfl

theorem addFltRuleCount_ok {s : WanFirewall} (h : (s.fltRuleCount g).toInt + 1 ≤ intMax) :
    ∃ m, m.toInt = (s.fltRuleCount g).toInt + 1 ∧ s.addFltRuleCount g 1 = .ok (s.withCount g m) := by
  obtain ⟨m, hm, hint⟩ := addInt_one h
  exact ⟨m, hint, by rw [addFltRuleCount, hm]; rfl⟩

theorem addFltRuleCount_error {s : WanFirewall} (h : ¬(s.fltRuleCount g).toInt + 1 ≤ intMax) :
    s.addFltRuleCount g 1 = .error .overflow := by
  rw [addFltRuleCount, addInt_one_error h]
  rfl

section Rule

variable {call : FirewallCall} (rule : WanFltRule) (store : Nat → WanFirewall → WanFirewall) (i : Nat) {s : WanFirewall}

theorem addRule_stops (h : D.fails call = true) : addRule D call g rule store (i, s) = .ok (false, i, s) := by
  simp only [addRule, addFilteringRule_fails h]

theorem addRule_goes (h : D.fails call = false) (hc : (s.fltRuleCount g).toInt + 1 ≤ intMax) :
    ∃ m, m.toInt = (s.fltRuleCount g).toInt + 1 ∧
      addRule D call g rule store (i, s) = .ok (true, i, store (D.handles.pick s.flt.used) (s.installed D g rule m)) := by
  obtain ⟨m, hm, hok⟩ := addFltRuleCount_ok (s := s.withFlt (s.flt.add D.handles ⟨g, rule⟩).2) hc
  refine ⟨m, hm, ?_⟩
  simp only [addRule, addFilteringRule_goes h, hok]
  rfl

theorem addRule_error (h : D.fails call = false) (hc : ¬(s.fltRuleCount g).toInt + 1 ≤ intMax) :
    addRule D call g rule store (i, s) = .error .overflow := by
  simp only [addRule, addFilteringRule_goes h,
    addFltRuleCount_error (s := s.withFlt (s.flt.add D.handles ⟨g, rule⟩).2) hc]
  rfl

theorem addEntry_stops (h : D.fails (.addEntry i) = true) : addEntry D g rule (i, s) = .ok (false, i, s) := by
  simp only [addEntry, addFilteringRule_fails h]

theorem addEntry_goes (h : D.fails (.addEntry i) = false) (hc : (s.fltRuleCount g).toInt + 1 ≤ intMax)
    (hi : i < ipacmMaxFirewallEntries) (hn : (s.numFirewall g).toInt + 1 ≤ intMax) :
    ∃ m n, m.toInt = (s.fltRuleCount g).toInt + 1 ∧ n.toInt = (s.numFirewall g).toInt + 1 ∧
      addEntry D g rule (i, s) = .ok (true, i + 1,
        ((s.installed D g rule m).withHdl g ⟨i, hi⟩ (D.handles.pick s.flt.used)).withNum g n) := by
  obtain ⟨m, hm, hok⟩ := addFltRuleCount_ok (s := s.withFlt (s.flt.add D.handles ⟨g, rule⟩).2) hc
  obtain ⟨n, hn1, hn⟩ := addInt_one hn
  refine ⟨m, n, hm, hn, ?_⟩
  simp only [addEntry, addFilteringRule_goes h, hok, ok_bind, dif_pos hi, withCount_numFirewall, withFlt_numFirewall,
    hn1]
  rfl

theorem addEntry_error (h : D.fails (.addEntry i) = false)
    (hno : ¬(i < ipacmMaxFirewallEntries ∧ (s.numFirewall g).toInt + 1 ≤ intMax ∧
      (s.fltRuleCount g).toInt + 1 ≤ intMax)) : ∃ e, addEntry D g rule (i, s) = .error e := by
  by_cases hc : (s.fltRuleCount g).toInt + 1 ≤ intMax
  · obtain ⟨m, -, hok⟩ := addFltRuleCount_ok (s := s.withFlt (s.flt.add D.handles ⟨g, rule⟩).2) hc
    by_cases hi : i < ipacmMaxFirewallEntries
    · have hn : ¬(s.numFirewall g).toInt + 1 ≤ intMax := fun hn => hno ⟨hi, hn, hc⟩
      refine ⟨.overflow, ?_⟩
      simp only [addEntry, addFilteringRule_goes h, hok, ok_bind, dif_pos hi, withCount_numFirewall,
        withFlt_numFirewall, addInt_one_error hn]
      rfl
    · refine ⟨.index, ?_⟩
      simp only [addEntry, addFilteringRule_goes h, hok, ok_bind, dif_neg hi]
  · refine ⟨.overflow, ?_⟩
    simp only [addEntry, addFilteringRule_goes h,
      addFltRuleCount_error (s := s.withFlt (s.flt.add D.handles ⟨g, rule⟩).2) hc]
    rfl

end Rule

/-- A call that is only asked for costs nothing. -/
theorem ask_budgeted {good : FirewallDriver} (hgood : good.Succeeds) (call : FirewallCall) {κ : Type} [AddCommMonoid κ]
    [PartialOrder κ] (use : Nat × WanFirewall → κ) (limit : κ) :
    Budgeted use limit good 0 fun D => ask D call where
  nonneg := le_refl 0
  costs _ s _ := ⟨_, s, rfl, fun _ => (add_zero _).symm⟩
  pays s b s' h := by
    cases h
    exact ⟨by rw [hgood.fails]; rfl, (add_zero _).symm⟩
  keeps s b s' hs h := by
    cases h
    exact hs

theorem staUse_le_iff {t : Nat × WanFirewall} {a b c : Int} :
    staUse g t + (a, b, c) ≤ staLimit ↔
      t.1 + a ≤ ipacmMaxFirewallEntries ∧ (t.2.numFirewall g).toInt + b ≤ intMax ∧
        (t.2.fltRuleCount g).toInt + c ≤ intMax := Iff.rfl

/-- A rule with a place of its own is only counted with the pipe's. -/
theorem addRule_budgeted {good : FirewallDriver} (hgood : good.Succeeds) (call : FirewallCall) (rule : WanFltRule)
    {store : Nat → WanFirewall → WanFirewall} (hnum : ∀ h s, (store h s).numFirewall = s.numFirewall)
    (hcount : ∀ h s, (store h s).fltRuleCount = s.fltRuleCount) :
    Budgeted (staUse g) staLimit good (0, 0, 1) fun D => addRule D call g rule store := by
  refine Budgeted.of_cases (fun D => D.fails call = true) (hgood.not_fails call) (by decide) ?_
  rintro D ⟨i, s⟩
  cases hf : D.fails call with
  | true => exact .inl ⟨rfl, _, addRule_stops rule store i hf⟩
  | false =>
    refine .inr ?_
    by_cases hc : (s.fltRuleCount g).toInt + 1 ≤ intMax
    · obtain ⟨m, hm, hok⟩ := addRule_goes rule store i hf hc
      have huse : staUse g (i, store (D.handles.pick s.flt.used) (s.installed D g rule m)) =
          staUse g (i, s) + (0, 0, 1) := by
        simp [staUse, hnum, hcount, installed, hm]
      refine .inl ⟨_, hok, huse, fun hle => ?_⟩
      rw [huse, staUse_le_iff]
      exact ⟨by simpa [staUse, staLimit] using hle.1, by simpa [staUse, staLimit] using hle.2.1, hc⟩
    · exact .inr ⟨⟨_, addRule_error rule store i hf hc⟩, fun h => hc h.2.2⟩

/-- A rule of an entry is counted three times. -/
theorem addEntry_budgeted {good : FirewallDriver} (hgood : good.Succeeds) (rule : WanFltRule) :
    Budgeted (staUse g) staLimit good (1, 1, 1) fun D => addEntry D g rule := by
  refine Budgeted.of_cases (fun D => ∃ i, D.fails (.addEntry i) = true) (fun ⟨i, hi⟩ => hgood.not_fails _ hi)
    (by decide) ?_
  rintro D ⟨i, s⟩
  cases hf : D.fails (.addEntry i) with
  | true => exact .inl ⟨⟨i, hf⟩, _, addEntry_stops rule i hf⟩
  | false =>
    refine .inr ?_
    by_cases hfit : i < ipacmMaxFirewallEntries ∧ (s.numFirewall g).toInt + 1 ≤ intMax ∧
        (s.fltRuleCount g).toInt + 1 ≤ intMax
    · obtain ⟨hi, hn, hc⟩ := hfit
      obtain ⟨m, n, hm, hn1, hok⟩ := addEntry_goes rule i hf hc hi hn
      refine .inl ⟨_, hok, by simp [staUse, installed, hm, hn1], fun _ => ?_⟩
      refine ⟨by simpa [staUse, staLimit] using (by omega : (i : Int) + 1 ≤ ipacmMaxFirewallEntries), ?_, ?_⟩
      · simpa [staUse, staLimit, hn1] using hn
      · simpa [staUse, staLimit, installed, hm] using hc
    · refine .inr ⟨addEntry_error rule i hf hfit, fun h => hfit ?_⟩
      have := (staUse_le_iff.1 h).1
      simp only at this
      exact ⟨by omega, h.2.1, h.2.2⟩

section Config

variable {good : FirewallDriver} (hgood : good.Succeeds) (env : WanFirewallEnv) (rx : RuleAttrib) (file : FirewallFile)
include hgood

theorem addDft_budgeted (call : FirewallCall) (rule : WanFltRule) (k : Fin 3) :
    Budgeted (staUse g) staLimit good (0, 0, 1) fun D => addDft D call g rule k :=
  addRule_budgeted hgood call rule (fun _ _ => rfl) fun _ _ => rfl

theorem addFrag_budgeted : Budgeted (staUse .v6) staLimit good (0, 0, 1) fun D => addFrag D env rx :=
  addRule_budgeted hgood .addFrag (env.staFragRule rx) (fun _ _ => rfl) fun _ _ => rfl

theorem fragSteps_budgeted :
    Budgeted (staUse .v6) staLimit good (0, 0, (fragCount file .v6 : Int)) fun D =>
      Step.all (fragSteps D env rx file .v6) := by
  simp only [fragSteps, fragCount]
  split_ifs
  · exact (addFrag_budgeted hgood env rx).singleton
  · exact Budgeted.nil

theorem entrySteps_budgeted (g : IpFamily) :
    Budgeted (staUse g) staLimit good ((ruleCount file g : Int), (ruleCount file g : Int), (ruleCount file g : Int))
      fun D => Step.all (entrySteps D env rx file g) := by
  have h := Budgeted.map (entryAttribs file g) (fun a D => addEntry D g (env.staEntryRule rx g file a))
    fun _ _ => addEntry_budgeted hgood _
  exact h.of_eq (by simp [ruleCount])

theorem configSteps_budgeted (g : IpFamily) :
    Budgeted (staUse g) staLimit good
      ((ruleCount file g : Int), (ruleCount file g : Int), ((ruleCount file g + dftCount file g : Nat) : Int)) fun D =>
        Step.all (configSteps D env rx file g) := by
  have hask : ∀ g, Budgeted (staUse g) staLimit good 0 fun D => Step.all [ask D .getRoutingTable] := fun g =>
    (ask_budgeted hgood _ _ _).singleton
  have hentries := fun g => entrySteps_budgeted hgood env rx file g
  have hdft : ∀ g, Budgeted (staUse g) staLimit good (0, 0, 1) fun D => Step.all [dftStep D env rx file g] := fun g =>
    (addDft_budgeted hgood _ _ _).singleton
  have hicmp : Budgeted (staUse .v6) staLimit good (0, 0, 1) fun D => Step.all [icmpStep D env rx] :=
    (addDft_budgeted hgood _ _ _).singleton
  cases g with
  | v4 => exact (((hask .v4).append (hentries .v4)).append (hdft .v4)).of_eq (by simp [dftCount])
  | v6 =>
    have hfrag := fragSteps_budgeted hgood env rx file
    by_cases hnone : file.numRules .v6 = 0
    · simp only [configSteps, if_pos hnone]
      refine (hfrag.append (hicmp.append ((hask .v6).append (hdft .v6)))).of_eq ?_
      simp [dftCount, ruleCount, ruleCount_eq_zero hnone]
    · simp only [configSteps, if_neg hnone]
      refine (hfrag.append (((hask .v6).append (hentries .v6)).append (hicmp.append (hdft .v6)))).of_eq ?_
      simp [dftCount]
      omega

end Config

theorem staUse_le (t : Nat × WanFirewall) (h : t.1 = 0) : staUse g t ≤ staLimit := by
  refine ⟨?_, toInt_le_intMax _, toInt_le_intMax _⟩
  simp [staUse, staLimit, h]

theorem staUse_le_iff_fits {file : FirewallFile} {s : WanFirewall} :
    staUse g (0, { s with config := file }) +
      ((ruleCount file g : Int), (ruleCount file g : Int), ((ruleCount file g + dftCount file g : Nat) : Int)) ≤ staLimit ↔
        StaFits file g s := by
  rw [staUse_le_iff, StaFits]
  simp only [Nat.cast_zero, zero_add, Int.ofNat_le, Nat.cast_add]

/-- **A station's installer stays in bounds exactly when the file fits.** -/
theorem configDftFirewallRules_ok_iff (env : WanFirewallEnv) (file : FirewallFile) (g : IpFamily) (s : WanFirewall) :
    (∀ D, ∃ r, s.configDftFirewallRules D env file g = .ok r) ↔ env.rxProp = none ∨ StaFits file g s := by
  cases hrx : env.rxProp with
  | none => simp [configDftFirewallRules, hrx]
  | some rx =>
    have h := (configSteps_budgeted obedientFirewall_succeeds env rx.1 file g).ok_iff
      (staUse_le (0, { s with config := file }) rfl)
    have hret : ∀ D, (∃ r, s.configDftFirewallRules D env file g = .ok r) ↔
        ∃ r, Step.all (configSteps D env rx.1 file g) (0, { s with config := file }) = .ok r := by
      intro D
      simp only [configDftFirewallRules, hrx]
      cases Step.all (configSteps D env rx.1 file g) (0, { s with config := file }) with
      | error e => simp [bind, Except.bind]
      | ok r => simp [bind, Except.bind, pure, Except.pure]
    simp only [hret, reduceCtorEq, false_or]
    rw [h, staUse_le_iff_fits]

/-- Where the driver refuses nothing it stays in bounds only then. -/
theorem staFits_of_ok (hD : D.Succeeds) {rx : RuleAttrib × RuleAttrib} (hrx : env.rxProp = some rx) {file : FirewallFile}
    {s : WanFirewall} {r : Bool × WanFirewall} (h : s.configDftFirewallRules D env file g = .ok r) : StaFits file g s := by
  simp only [configDftFirewallRules, hrx] at h
  cases ht : Step.all (configSteps D env rx.1 file g) (0, { s with config := file }) with
  | error e =>
    rw [ht] at h
    cases h
  | ok t =>
    exact staUse_le_iff_fits.1 ((configSteps_budgeted hD env rx.1 file g).le_of_ok (staUse_le _ rfl) ht)

end Sta

/-! ## The modem -/

/-- `pos`, `num_firewall_v4` or `num_firewall_v6`, and `num_v4_flt_rule` or `num_v6_flt_rule`. -/
def exUse (g : IpFamily) (t : Nat × WanFirewall) : Int × Int × Int :=
  (t.1, (t.2.numFirewall g).toInt, (t.2.numFltRule g).toInt)

def exLimit (env : WanFirewallEnv) : Int × Int × Int := (env.ipaMaxFltRule, intMax, intMax)

/-- What fits of a file behind the rules that are in the table: the rules of the entries, the default rule and the
fragment rule. -/
def ExFits (env : WanFirewallEnv) (file : FirewallFile) (ruleOffset : BitVec 32) (g : IpFamily) (s : WanFirewall) : Prop :=
  ruleOffset.toNat + (fragCount file g + ruleCount file g + 1) ≤ env.ipaMaxFltRule ∧
    (s.numFirewall g).toInt + (ruleCount file g + 1) ≤ intMax ∧
      (s.numFltRule g).toInt + (fragCount file g + ruleCount file g + 1) ≤ intMax

section Ex

variable {good : FirewallDriver} (hgood : good.Succeeds) (env : WanFirewallEnv) (rx : RuleAttrib) (file : FirewallFile)

theorem exUse_le_iff {g : IpFamily} {t : Nat × WanFirewall} {a b c : Int} :
    exUse g t + (a, b, c) ≤ exLimit env ↔
      t.1 + a ≤ env.ipaMaxFltRule ∧ (t.2.numFirewall g).toInt + b ≤ intMax ∧ (t.2.numFltRule g).toInt + c ≤ intMax :=
  Iff.rfl

theorem writeRule_goes {g : IpFamily} (counted : Bool) (rule : WanFltRule) {pos : Nat} {s : WanFirewall}
    (hpos : pos < env.ipaMaxFltRule) (hn : (s.numFirewall g).toInt + counted.toNat ≤ intMax)
    (hk : (s.numFltRule g).toInt + 1 ≤ intMax) :
    ∃ t, writeRule env g counted rule (pos, s) = .ok (true, pos + 1, t) ∧
      (t.numFirewall g).toInt = (s.numFirewall g).toInt + counted.toNat ∧
        (t.numFltRule g).toInt = (s.numFltRule g).toInt + 1 := by
  obtain ⟨k, hk1, hk⟩ := addInt_one hk
  cases counted with
  | false => exact ⟨_, by simp only [writeRule, if_pos hpos, hk1]; rfl, by simp, by simp [hk]⟩
  | true =>
    obtain ⟨n, hn1, hn⟩ := addInt_one hn
    exact ⟨_, by simp only [writeRule, if_pos hpos, if_true, hn1, hk1]; rfl, by simp [hn], by simp [hk]⟩

theorem writeRule_error {g : IpFamily} (counted : Bool) (rule : WanFltRule) {pos : Nat} {s : WanFirewall}
    (hno : ¬(pos < env.ipaMaxFltRule ∧ (s.numFirewall g).toInt + counted.toNat ≤ intMax ∧
      (s.numFltRule g).toInt + 1 ≤ intMax)) : ∃ e, writeRule env g counted rule (pos, s) = .error e := by
  by_cases hpos : pos < env.ipaMaxFltRule
  · refine ⟨.overflow, ?_⟩
    cases counted with
    | false =>
      have hk : ¬(s.numFltRule g).toInt + 1 ≤ intMax := fun hk =>
        hno ⟨hpos, by simpa using toInt_le_intMax (s.numFirewall g), hk⟩
      simp only [writeRule, if_pos hpos, addInt_one_error hk]
      rfl
    | true =>
      by_cases hn : (s.numFirewall g).toInt + 1 ≤ intMax
      · obtain ⟨n, hn1, -⟩ := addInt_one hn
        have hk : ¬(s.numFltRule g).toInt + 1 ≤ intMax := fun hk => hno ⟨hpos, hn, hk⟩
        simp only [writeRule, if_pos hpos, if_true, hn1, addInt_one_error hk]
        rfl
      · simp only [writeRule, if_pos hpos, if_true, addInt_one_error hn]
        rfl
  · exact ⟨.index, if_neg hpos⟩

theorem writeRule_budgeted (good : FirewallDriver) (g : IpFamily) (counted : Bool) (rule : WanFltRule) :
    Budgeted (exUse g) (exLimit env) good (1, (counted.toNat : Int), 1) fun _ => writeRule env g counted rule := by
  have hnonneg : 0 ≤ ((1 : Int), (counted.toNat : Int), (1 : Int)) := by cases counted <;> decide
  refine Budgeted.of_cases (fun _ => False) not_false hnonneg ?_
  rintro D ⟨pos, s⟩
  refine .inr ?_
  by_cases hfit : pos < env.ipaMaxFltRule ∧ (s.numFirewall g).toInt + counted.toNat ≤ intMax ∧
      (s.numFltRule g).toInt + 1 ≤ intMax
  · obtain ⟨hpos, hn, hk⟩ := hfit
    obtain ⟨t, hok, hn1, hk1⟩ := writeRule_goes env counted rule hpos hn hk
    refine .inl ⟨_, hok, by simp [exUse, hn1, hk1], fun _ => ?_⟩
    refine ⟨by simpa [exUse, exLimit] using (by omega : (pos : Int) + 1 ≤ env.ipaMaxFltRule), ?_, ?_⟩
    · simpa [exUse, exLimit, hn1] using hn
    · simpa [exUse, exLimit, hk1] using hk
  · refine .inr ⟨writeRule_error env counted rule hfit, fun h => hfit ?_⟩
    have hle := (exUse_le_iff env).1 h
    have := hle.1
    simp only at this
    exact ⟨by omega, hle.2.1, hle.2.2⟩

/-- Where the rule was written there was room for it. -/
theorem writeRule_ends {g : IpFamily} (counted : Bool) (rule : WanFltRule) (s : Nat × WanFirewall) (b : Bool)
    (s' : Nat × WanFirewall) (h : writeRule env g counted rule s = .ok (b, s')) : exUse g s' ≤ exLimit env := by
  obtain ⟨pos, s⟩ := s
  by_cases hfit : pos < env.ipaMaxFltRule ∧ (s.numFirewall g).toInt + counted.toNat ≤ intMax ∧
      (s.numFltRule g).toInt + 1 ≤ intMax
  · obtain ⟨t, hok, -⟩ := writeRule_goes env counted rule hfit.1 hfit.2.1 hfit.2.2
    rw [hok] at h
    cases h
    have hpos : ((pos + 1 : Nat) : Int) ≤ env.ipaMaxFltRule := by have := hfit.1; omega
    exact ⟨hpos, toInt_le_intMax _, toInt_le_intMax _⟩
  · obtain ⟨e, he⟩ := writeRule_error env counted rule hfit
    rw [he] at h
    cases h

/-- What that many rules of entries cost. -/
def thrice (n : Nat) : Int × Int × Int := (n, n, n)

theorem sum_map_thrice {α : Type} (l : List α) (k : α → Nat) : (l.map fun a => thrice (k a)).sum = thrice (l.map k).sum := by
  induction l with
  | nil => rfl
  | cons a l ih =>
    rw [List.map_cons, List.sum_cons, ih, List.map_cons, List.sum_cons]
    simp [thrice]

include hgood

theorem exFragSteps_budgeted (g : IpFamily) :
    Budgeted (exUse g) (exLimit env) good ((fragCount file g : Int), 0, (fragCount file g : Int)) fun D =>
      Step.all (exFragSteps D env rx file g) := by
  cases g with
  | v4 => exact Budgeted.nil
  | v6 =>
    simp only [exFragSteps, fragCount]
    split_ifs
    · have hask := fun call => ask_budgeted hgood call (exUse .v6) (exLimit env)
      exact ((hask .queryFrag).cons ((hask .generateFrag).cons (writeRule_budgeted env good .v6 false _).singleton)).of_eq
        (by simp)
    · exact Budgeted.nil

theorem exEntrySteps_budgeted (g : IpFamily) (i : Nat) (a : RuleAttrib) :
    Budgeted (exUse g) (exLimit env) good (thrice (a.split g).length) fun D =>
      Step.all (exEntrySteps D env rx file g i a) := by
  have hask := fun call => ask_budgeted hgood call (exUse g) (exLimit env)
  have hrule : ∀ p : RuleAttrib × Nat, Budgeted (exUse g) (exLimit env) good ((1 : Int), (1 : Int), (1 : Int)) fun D =>
      Step.all [ask D (.generateEntry i p.2), writeRule env g true (env.exEntryRule rx g file p.1)] := fun p =>
    ((hask _).cons (writeRule_budgeted env good g true _).singleton).of_eq (by simp)
  have h := (hask (.queryEntry i)).cons (Budgeted.flatMap (a.split g).zipIdx (fun p D =>
    [ask D (.generateEntry i p.2), writeRule env g true (env.exEntryRule rx g file p.1)]) _ fun p _ => hrule p)
  exact h.of_eq (by simp [thrice])

theorem exEntriesSteps_budgeted (g : IpFamily) :
    Budgeted (exUse g) (exLimit env) good (thrice (ruleCount file g)) fun D =>
      Step.all (exEntriesSteps D env rx file g) := by
  simp only [exEntriesSteps, ruleCount, entryAttribs]
  split_ifs with hon
  · have h := Budgeted.flatMap (file.entriesOf g).zipIdx (fun p D => exEntrySteps D env rx file g p.2 p.1.attrib) _
      fun p _ => exEntrySteps_budgeted hgood env rx file g p.2 p.1.attrib
    refine h.of_eq ?_
    have hlen : ((file.entriesOf g).zipIdx.map fun p => (p.1.attrib.split g).length) =
        (file.entriesOf g).map fun e => (e.attrib.split g).length := by
      conv_rhs => rw [← List.zipIdx_map_fst 0 (file.entriesOf g), List.map_map]
      rfl
    rw [sum_map_thrice, hlen, ← List.length_flatMap]
  · exact Budgeted.nil

theorem configExSteps_budgeted (rx : RuleAttrib × RuleAttrib) (g : IpFamily) :
    Budgeted (exUse g) (exLimit env) good
      (((fragCount file g + ruleCount file g + 1 : Nat) : Int), ((ruleCount file g + 1 : Nat) : Int),
        ((fragCount file g + ruleCount file g + 1 : Nat) : Int)) fun D => Step.all (configExSteps D env rx file g) := by
  have hask := fun call => ask_budgeted hgood call (exUse g) (exLimit env)
  have hdft := (hask .queryDft).cons ((hask .generateDft).cons
    (writeRule_budgeted env good g true (env.exDftRule (exDftRx rx g) g file)).singleton)
  exact (((exFragSteps_budgeted hgood env rx.1 file g).append (exEntriesSteps_budgeted hgood env rx.1 file g)).append
    hdft).of_eq (by simp [thrice])

/-- The last rule is one that is counted, wherever the table was. -/
theorem configExSteps_ends (rx : RuleAttrib × RuleAttrib) (g : IpFamily) (s : Nat × WanFirewall) (b : Bool)
    (s' : Nat × WanFirewall) (h : Step.all (configExSteps good env rx file g) s = .ok (b, s')) :
    exUse g s' ≤ exLimit env := by
  let P : Nat × WanFirewall → Prop := fun s => exUse g s ≤ exLimit env
  have hask := fun call => (ask_budgeted hgood call (exUse g) (exLimit env)).pays
  rw [configExSteps, Step.all_append] at h
  refine ((exFragSteps_budgeted hgood env rx.1 file g).append (exEntriesSteps_budgeted hgood env rx.1 file g)).pays.ends
    (P := P) ?_ h
  refine fun s b s' => (hask .queryDft).ends (P := P) ?_
  refine fun s b s' => (hask .generateDft).ends (P := P) ?_
  rw [Step.all_singleton]
  exact writeRule_ends env true _

end Ex

/-- **The modem's installer stays in bounds exactly when the file fits** behind the rules that are in the table. -/
theorem configDftFirewallRulesEx_ok_iff (env : WanFirewallEnv) (file : FirewallFile) (ruleOffset : BitVec 32)
    (g : IpFamily) (s : WanFirewall) :
    (∀ D, ∃ r, s.configDftFirewallRulesEx D env file ruleOffset g = .ok r) ↔
      env.rxProp = none ∨ ruleOffset.toInt < 0 ∨ ExFits env file ruleOffset g s := by
  cases hrx : env.rxProp with
  | none => simp [configDftFirewallRulesEx, hrx]
  | some rx =>
    by_cases hneg : ruleOffset.toInt < 0
    · simp [configDftFirewallRulesEx, hrx, hneg]
    have h := (configExSteps_budgeted obedientFirewall_succeeds env file rx g).ok_iff_of_ends
      (configExSteps_ends obedientFirewall_succeeds env file rx g (ruleOffset.toNat, { s with config := file }))
    have hret : ∀ D, (∃ r, s.configDftFirewallRulesEx D env file ruleOffset g = .ok r) ↔
        ∃ r, Step.all (configExSteps D env rx file g) (ruleOffset.toNat, { s with config := file }) = .ok r := by
      intro D
      simp only [configDftFirewallRulesEx, hrx, if_neg hneg]
      cases Step.all (configExSteps D env rx file g) (ruleOffset.toNat, { s with config := file }) with
      | error e => simp [bind, Except.bind]
      | ok r => simp [bind, Except.bind, pure, Except.pure]
    simp only [hret, reduceCtorEq, false_or, hneg]
    rw [h, exUse_le_iff, ExFits]
    simp only [← Nat.cast_add, Int.ofNat_le]
    norm_cast

end WanFirewall

end HiaeCommon
