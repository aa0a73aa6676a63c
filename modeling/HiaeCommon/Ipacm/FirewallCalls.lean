/-
The two calls of a station's firewall as a whole, while the driver refuses
nothing: `config_dft_firewall_rules` puts a list of rules in their places, one
after the other, and `del_dft_firewall_rules` deletes what the handles in the
places it reads stand for.
-/
import HiaeCommon.Ipacm.FirewallBounds

namespace HiaeCommon

open Function (update)
open Lib (Ledger Step)
open Lib.Ledger (Holds)
open Lib.Step (Does)

/-- Where a handle is kept: in `firewall_hdl_v4` or `firewall_hdl_v6`, in `dft_wan_fl_hdl`, or in
`ipv6_frag_firewall_flt_rule_hdl`. -/
inductive FirewallPlace
  | entry (g : IpFamily) (i : Nat)
  | dft (k : Fin 3)
  | frag
  deriving DecidableEq

/-- The family whose rules are kept there. -/
def FirewallPlace.ip : FirewallPlace → IpFamily
  | .entry g _ => g
  | .dft k => if k = WanFirewall.dftIdx .v4 then .v4 else .v6
  | .frag => .v6

/-- There is such a place. -/
def FirewallPlace.Exists : FirewallPlace → Prop
  | .entry _ i => i < ipacmMaxFirewallEntries
  | _ => True

namespace WanFirewall

/-! ## Rules put in their places -/

def kept (s : WanFirewall) : FirewallPlace → Option Nat
  | .entry g i => if hi : i < ipacmMaxFirewallEntries then s.firewallHdl g ⟨i, hi⟩ else none
  | .dft k => s.dftWanFlHdl k
  | .frag => some s.ipv6FragHdl

/-- The members with a handle kept; the entries' are counted. -/
def store (s : WanFirewall) (h : Nat) : FirewallPlace → WanFirewall
  | .entry g i =>
    if hi : i < ipacmMaxFirewallEntries then (s.withHdl g ⟨i, hi⟩ h).withNum g (s.numFirewall g + 1) else s
  | .dft k => { s with dftWanFlHdl := update s.dftWanFlHdl k (some h) }
  | .frag => { s with ipv6FragHdl := h, isIpv6FragInstalled := true }

/-- A rule installed, counted with the pipe's, and its handle kept. -/
def put (D : FirewallDriver) (s : WanFirewall) (x : FirewallPlace × WanFltRule) : WanFirewall :=
  (s.installed D x.1.ip x.2 (s.fltRuleCount x.1.ip + 1)).store (D.handles.pick s.flt.used) x.1

def putAll (D : FirewallDriver) (s : WanFirewall) (l : List (FirewallPlace × WanFltRule)) : WanFirewall := l.foldl (put D) s

section Puts

variable (env : WanFirewallEnv) (rx : RuleAttrib) (file : FirewallFile)

def fragPuts (g : IpFamily) : List (FirewallPlace × WanFltRule) :=
  if wantsFrag file g then [(.frag, env.staFragRule rx)] else []

def entryPuts (g : IpFamily) : List (FirewallPlace × WanFltRule) :=
  (entryAttribs file g).zipIdx.map fun (a, i) => (.entry g i, env.staEntryRule rx g file a)

def dftPuts : IpFamily → List (FirewallPlace × WanFltRule)
  | .v4 => [(.dft (dftIdx .v4), env.staDftRule rx .v4 file)]
  | .v6 => [(.dft icmpIdx, env.staIcmpRule rx), (.dft (dftIdx .v6), env.staDftRule rx .v6 file)]

/-- The rules of a station with the file, and their places. -/
def configPuts (g : IpFamily) : List (FirewallPlace × WanFltRule) :=
  fragPuts env rx file g ++ entryPuts env rx file g ++ dftPuts env rx file g

/-- The members with the file read and its rules put. -/
def configured (D : FirewallDriver) (g : IpFamily) (s : WanFirewall) : WanFirewall :=
  WanFirewall.putAll D { s with config := file } (configPuts env rx file g)

end Puts

section Goes

variable {D : FirewallDriver} {env : WanFirewallEnv} {g : IpFamily}

theorem addInt_value {n m : BitVec 32} {k : Int} (h : addInt n k = .ok m) : m = n + BitVec.ofInt 32 k := by
  rw [addInt] at h
  split_ifs at h
  cases h
  rfl

theorem addFltRuleCount_value {s t : WanFirewall} {k : Int} (h : s.addFltRuleCount g k = .ok t) :
    t = s.withCount g (s.fltRuleCount g + BitVec.ofInt 32 k) := by
  rw [addFltRuleCount] at h
  cases hn : addInt (s.fltRuleCount g) k with
  | error e =>
    rw [hn] at h
    cases h
  | ok n =>
    rw [hn] at h
    cases h
    rw [addInt_value hn]

variable (hD : D.Succeeds)
include hD

theorem ask_does (call : FirewallCall) : Does (ask D call) id := by
  intro s r h
  cases h
  rw [hD.fails]
  rfl

theorem addRule_does (call : FirewallCall) (rule : WanFltRule) (p : FirewallPlace) (hp : p.ip = g)
    {st : Nat → WanFirewall → WanFirewall} (hst : ∀ h s, st h s = s.store h p) :
    Does (addRule D call g rule st) fun t => (t.1, t.2.put D (p, rule)) := by
  rintro ⟨i, s⟩ r h
  simp only [addRule, addFilteringRule_goes (hD.fails call)] at h
  cases hn : (s.withFlt (s.flt.add D.handles ⟨g, rule⟩).2).addFltRuleCount g 1 with
  | error e =>
    rw [hn] at h
    cases h
  | ok t =>
    rw [hn] at h
    cases h
    simp only [addFltRuleCount_value hn, hst, put, hp]
    rfl

theorem addEntry_does (rule : WanFltRule) :
    Does (addEntry D g rule) fun t => (t.1 + 1, t.2.put D (.entry g t.1, rule)) := by
  rintro ⟨i, s⟩ r h
  simp only [addEntry, addFilteringRule_goes (hD.fails _)] at h
  cases hn : (s.withFlt (s.flt.add D.handles ⟨g, rule⟩).2).addFltRuleCount g 1 with
  | error e =>
    rw [hn] at h
    cases h
  | ok t =>
    rw [hn, ok_bind] at h
    split_ifs at h with hi
    cases hm : addInt (t.numFirewall g) 1 with
    | error e =>
      rw [hm] at h
      cases h
    | ok m =>
      rw [hm] at h
      cases h
      rw [addInt_value hm, addFltRuleCount_value hn]
      simp only [put, store, dif_pos hi]
      rfl

theorem addDft_does (call : FirewallCall) (rule : WanFltRule) (k : Fin 3) (hk : (FirewallPlace.dft k).ip = g) :
    Does (addDft D call g rule k) fun t => (t.1, t.2.put D (.dft k, rule)) :=
  addRule_does hD call rule (.dft k) hk fun _ _ => rfl

omit hD in
/-- The rules of the entries take the places from the counter on. -/
theorem entries_foldl (rule : RuleAttrib → WanFltRule) (as : List RuleAttrib) (i : Nat) (s : WanFirewall) :
    as.foldl (fun t a => (t.1 + 1, t.2.put D (.entry g t.1, rule a))) (i, s) =
      (i + as.length, s.putAll D ((as.zipIdx i).map fun (a, i) => (.entry g i, rule a))) := by
  induction as generalizing i s with
  | nil => rfl
  | cons a as ih =>
    rw [List.foldl_cons, ih, List.length_cons, Nat.add_right_comm, Nat.add_assoc]
    rfl

variable (rx : RuleAttrib) (file : FirewallFile)

theorem fragSteps_does (env : WanFirewallEnv) (g : IpFamily) :
    Does (Step.all (fragSteps D env rx file g)) fun t => (t.1, t.2.putAll D (fragPuts env rx file g)) := by
  rw [fragSteps, fragPuts]
  split_ifs
  · exact (addRule_does hD .addFrag _ .frag rfl fun _ _ => rfl).singleton
  · exact Does.nil

theorem entrySteps_does (env : WanFirewallEnv) (g : IpFamily) :
    Does (Step.all (entrySteps D env rx file g)) fun t =>
      (t.1 + (entryAttribs file g).length,
        t.2.putAll D (((entryAttribs file g).zipIdx t.1).map fun (a, i) => (.entry g i, env.staEntryRule rx g file a))) := by
  have h := Does.map (entryAttribs file g) fun a => addEntry_does (g := g) hD (env.staEntryRule rx g file a)
  rintro ⟨i, s⟩ r hr
  exact (h _ _ hr).trans (congrArg _ (entries_foldl _ _ i s))

theorem configSteps_does (g : IpFamily) (s : WanFirewall) {r : Bool × Nat × WanFirewall}
    (h : Step.all (configSteps D env rx file g) (0, s) = .ok r) :
    r.1 = true ∧ r.2.2 = s.putAll D (configPuts env rx file g) := by
  have hask : Does (Step.all [ask D .getRoutingTable]) id := (ask_does hD _).singleton
  have hdft : ∀ g, Does (Step.all [dftStep D env rx file g]) fun t =>
      (t.1, t.2.put D (.dft (dftIdx g), env.staDftRule rx g file)) := fun g =>
    (addDft_does hD .addDft _ _ (by cases g <;> rfl)).singleton
  have hicmp : Does (Step.all [icmpStep D env rx]) fun t => (t.1, t.2.put D (.dft icmpIdx, env.staIcmpRule rx)) :=
    (addDft_does hD .addIcmp _ icmpIdx rfl).singleton
  have hfrag := fragSteps_does hD rx file env
  have hentries := entrySteps_does hD rx file env
  cases g with
  | v4 =>
    rw [((hfrag .v4).append ((hask.append (hentries .v4)).append (hdft .v4))) _ _ h]
    simp [configPuts, putAll, List.foldl_append, entryPuts, dftPuts]
  | v6 =>
    by_cases hnone : file.numRules .v6 = 0
    · simp only [configSteps, if_pos hnone] at h
      rw [((hfrag .v6).append (hicmp.append (hask.append (hdft .v6)))) _ _ h]
      simp [configPuts, putAll, entryPuts, dftPuts, ruleCount_eq_zero hnone]
    · simp only [configSteps, if_neg hnone] at h
      rw [((hfrag .v6).append ((hask.append (hentries .v6)).append (hicmp.append (hdft .v6)))) _ _ h]
      simp [configPuts, putAll, List.foldl_append, entryPuts, dftPuts]

/-- **What `config_dft_firewall_rules` does**, wherever it stays in bounds. -/
theorem configDftFirewallRules_does {rx : RuleAttrib × RuleAttrib} (hrx : env.rxProp = some rx) {s : WanFirewall}
    {r : Bool × WanFirewall} (h : s.configDftFirewallRules D env file g = .ok r) :
    r = (true, s.configured env rx.1 file D g) := by
  simp only [configDftFirewallRules, hrx] at h
  cases ht : Step.all (configSteps D env rx.1 file g) (0, { s with config := file }) with
  | error e =>
    rw [ht] at h
    cases h
  | ok t =>
    rw [ht] at h
    cases h
    obtain ⟨h1, h2⟩ := configSteps_does hD rx.1 file g _ ht
    rw [← h1, configured, ← h2]

end Goes

/-- How it counts the rules of its family. -/
theorem configDftFirewallRules_counts {D : FirewallDriver} {env : WanFirewallEnv} {g : IpFamily} (hD : D.Succeeds)
    (file : FirewallFile) {rx : RuleAttrib × RuleAttrib} (hrx : env.rxProp = some rx) {s : WanFirewall}
    {r : Bool × WanFirewall} (h : s.configDftFirewallRules D env file g = .ok r) :
    (r.2.numFirewall g).toInt = (s.numFirewall g).toInt + ruleCount file g ∧
      (r.2.fltRuleCount g).toInt = (s.fltRuleCount g).toInt + (ruleCount file g + dftCount file g : Nat) := by
  simp only [configDftFirewallRules, hrx] at h
  cases ht : Step.all (configSteps D env rx.1 file g) (0, { s with config := file }) with
  | error e =>
    rw [ht] at h
    cases h
  | ok t =>
    rw [ht] at h
    cases h
    have huse := ((configSteps_budgeted hD env rx.1 file g).pays _ _ _ ht).2
    exact (Prod.mk.inj (Prod.mk.inj huse).2)

/-! ## What a rule that is put changes -/

section Put

variable (D : FirewallDriver) (s : WanFirewall) (h : Nat) (p : FirewallPlace) (x : FirewallPlace × WanFltRule)

@[simp] theorem store_flt : (s.store h p).flt = s.flt := by
  cases p <;> simp only [store]
  split_ifs <;> rfl

@[simp] theorem store_active : (s.store h p).active = s.active := by
  cases p <;> simp only [store]
  split_ifs <;> rfl

@[simp] theorem store_config : (s.store h p).config = s.config := by
  cases p <;> simp only [store]
  split_ifs <;> rfl

@[simp] theorem store_fltRuleCount : (s.store h p).fltRuleCount = s.fltRuleCount := by
  cases p <;> simp only [store]
  split_ifs <;> rfl

theorem store_isIpv6FragInstalled :
    (s.store h p).isIpv6FragInstalled = (s.isIpv6FragInstalled || decide (p = .frag)) := by
  cases p <;> simp [store]
  split_ifs <;> rfl

theorem store_numFirewall {g : IpFamily} (hg : p.ip ≠ g) : (s.store h p).numFirewall g = s.numFirewall g := by
  cases p with
  | entry g' i =>
    simp only [store]
    split_ifs
    · exact Function.update_of_ne (Ne.symm hg) _ _
    · rfl
  | dft k => rfl
  | frag => rfl

theorem kept_store {p : FirewallPlace} (hp : p.Exists) : (s.store h p).kept p = some h := by
  cases p with
  | entry g i => simp [kept, store, dif_pos (show i < ipacmMaxFirewallEntries from hp)]
  | dft k => simp [kept, store]
  | frag => rfl

theorem kept_store_of_ne {p q : FirewallPlace} (hne : q ≠ p) : (s.store h p).kept q = s.kept q := by
  cases p with
  | entry g i =>
    simp only [store]
    split_ifs with hi
    · cases q with
      | entry g' j =>
        simp only [kept, withNum_firewallHdl, withHdl_firewallHdl]
        by_cases hg : g' = g
        · have hij : j ≠ i := fun hij => hne (by rw [hg, hij])
          subst hg
          rw [Function.update_self]
          split_ifs with hj
          · exact Function.update_of_ne (fun he => hij (congrArg Fin.val he)) _ _
          · rfl
        · rw [Function.update_of_ne hg]
      | dft k => rfl
      | frag => rfl
    · rfl
  | dft k =>
    cases q with
    | entry g' j => rfl
    | dft k' => exact Function.update_of_ne (fun he => hne (congrArg _ he)) _ _
    | frag => rfl
  | frag =>
    cases q with
    | entry g' j => rfl
    | dft k' => rfl
    | frag => exact absurd rfl hne

/-- What is kept is in the members only. -/
theorem kept_congr {s t : WanFirewall} (hhdl : t.firewallHdl = s.firewallHdl) (hdft : t.dftWanFlHdl = s.dftWanFlHdl)
    (hfrag : t.ipv6FragHdl = s.ipv6FragHdl) (p : FirewallPlace) : t.kept p = s.kept p := by
  cases p <;> simp only [kept, hhdl, hdft, hfrag]

theorem put_flt : (s.put D x).flt = (s.flt.add D.handles ⟨x.1.ip, x.2⟩).2 := store_flt _ _ _

@[simp] theorem put_active : (s.put D x).active = s.active := store_active _ _ _

@[simp] theorem put_config : (s.put D x).config = s.config := store_config _ _ _

theorem put_isIpv6FragInstalled :
    (s.put D x).isIpv6FragInstalled = (s.isIpv6FragInstalled || decide (x.1 = .frag)) :=
  store_isIpv6FragInstalled _ _ _

theorem put_numFirewall {g : IpFamily} (hg : x.1.ip ≠ g) : (s.put D x).numFirewall g = s.numFirewall g :=
  store_numFirewall _ _ _ hg

theorem put_fltRuleCount {g : IpFamily} (hg : x.1.ip ≠ g) : (s.put D x).fltRuleCount g = s.fltRuleCount g := by
  rw [put, store_fltRuleCount]
  exact Function.update_of_ne (Ne.symm hg) _ _

theorem kept_put (hx : x.1.Exists) : (s.put D x).kept x.1 = some (D.handles.pick s.flt.used) := kept_store _ _ hx

theorem kept_put_of_ne {q : FirewallPlace} (hne : q ≠ x.1) : (s.put D x).kept q = s.kept q :=
  (kept_store_of_ne _ _ hne).trans (kept_congr rfl rfl rfl q)

end Put

section PutAll

variable {D : FirewallDriver} {s : WanFirewall} {l : List (FirewallPlace × WanFltRule)}

/-- What no rule of the list changes stays. -/
theorem putAll_frame {β : Type} (f : WanFirewall → β) (h : ∀ x ∈ l, ∀ s, f (s.put D x) = f s) (s : WanFirewall) :
    f (s.putAll D l) = f s := by
  induction l generalizing s with
  | nil => rfl
  | cons x l ih =>
    refine (ih (fun y hy => h y (List.mem_cons_of_mem _ hy)) (s.put D x)).trans ?_
    exact h x List.mem_cons_self s

theorem kept_putAll_of_not_mem {q : FirewallPlace} (hq : q ∉ l.map Prod.fst) (s : WanFirewall) :
    (s.putAll D l).kept q = s.kept q :=
  putAll_frame (kept · q) (fun x hx s => kept_put_of_ne D s x fun he => hq (he ▸ List.mem_map_of_mem hx)) s

theorem putAll_isIpv6FragInstalled (s : WanFirewall) :
    (s.putAll D l).isIpv6FragInstalled = (s.isIpv6FragInstalled || decide (FirewallPlace.frag ∈ l.map Prod.fst)) := by
  induction l generalizing s with
  | nil => simp [putAll]
  | cons x l ih =>
    refine (ih (s.put D x)).trans ?_
    rw [put_isIpv6FragInstalled, List.map_cons, Bool.or_assoc]
    by_cases hx : x.1 = .frag
    · simp [hx]
    · simp only [hx, decide_false, Bool.false_or, List.mem_cons, Ne.symm hx, false_or]

/-- Every handle that is kept stays written, and those of the rules are written. -/
theorem kept_putAll_isSome (hex : ∀ x ∈ l, x.1.Exists) {q : FirewallPlace} (hq : q ∈ l.map Prod.fst ∨ (s.kept q).isSome) :
    ((s.putAll D l).kept q).isSome := by
  induction l generalizing s with
  | nil => simpa [putAll] using hq
  | cons x l ih =>
    refine ih (fun y hy => hex y (List.mem_cons_of_mem _ hy)) ?_
    by_cases hx : q = x.1
    · refine .inr ?_
      rw [hx, kept_put D s x (hex x List.mem_cons_self)]
      rfl
    · rw [kept_put_of_ne D s x hx]
      exact hq.imp_left fun hq => (List.mem_cons.1 hq).resolve_left hx

/-- The rules that are put are installed beside the others, and their handles are kept. -/
theorem putAll_holds {m : Multiset (Nat × FirewallSlot)} (hnd : (l.map Prod.fst).Nodup) (hex : ∀ x ∈ l, x.1.Exists)
    (hs : Holds s.flt m) : ∃ new : List (Nat × FirewallSlot), Holds (s.putAll D l).flt (new + m) ∧
      (l.map Prod.fst).map (s.putAll D l).kept = new.map (fun x => some x.1) ∧
        new.map Prod.snd = (l.map fun x => ⟨x.1.ip, x.2⟩) ∧ ∀ x ∈ new, x.1 ≠ 0 := by
  induction l generalizing s m with
  | nil => exact ⟨[], by simpa [putAll] using hs, rfl, rfl, fun x hx => absurd hx List.not_mem_nil⟩
  | cons x l ih =>
    rw [List.map_cons, List.nodup_cons] at hnd
    have hput : Holds (s.put D x).flt ({(D.handles.pick s.flt.used, ⟨x.1.ip, x.2⟩)} + m) := by
      rw [put_flt]
      exact hs.add _
    obtain ⟨new, hnew, hkept, hslots, hne⟩ := ih hnd.2 (fun y hy => hex y (List.mem_cons_of_mem _ hy)) hput
    refine ⟨(D.handles.pick s.flt.used, ⟨x.1.ip, x.2⟩) :: new, hnew.of_eq ?_, ?_, ?_, ?_⟩
    · rw [← Multiset.cons_coe, ← Multiset.singleton_add, add_left_comm, add_assoc]
    · rw [List.map_cons, List.map_cons, List.map_cons, ← hkept]
      congr 1
      exact (kept_putAll_of_not_mem hnd.1 _).trans (kept_put D s x (hex x List.mem_cons_self))
    · rw [List.map_cons, List.map_cons, hslots]
    · intro y hy
      rcases List.mem_cons.1 hy with rfl | hy
      · exact D.ne_zero _
      · exact hne y hy

end PutAll

/-! ## The places of a family's rules -/

section Places

variable {env : WanFirewallEnv} {rx : RuleAttrib} {file : FirewallFile} {g : IpFamily}

def entryPlaces (g : IpFamily) (n : Nat) : List FirewallPlace := (List.range n).map (.entry g)

/-- In the order in which they are deleted. -/
def dftPlaces : IpFamily → List FirewallPlace
  | .v4 => [.dft (dftIdx .v4)]
  | .v6 => [.dft (dftIdx .v6), .dft icmpIdx]

def fragPlaces (b : Bool) : List FirewallPlace := if b then [.frag] else []

/-- The places of a family with that many rules of entries, with or without the fragment rule. -/
def rulePlaces (g : IpFamily) (n : Nat) (b : Bool) : List FirewallPlace := entryPlaces g n ++ dftPlaces g ++ fragPlaces b

theorem mem_rulePlaces {n : Nat} {b : Bool} {p : FirewallPlace} :
    p ∈ rulePlaces g n b ↔ (∃ i < n, p = .entry g i) ∨ p ∈ dftPlaces g ∨ b = true ∧ p = .frag := by
  simp only [rulePlaces, entryPlaces, fragPlaces, List.mem_append, List.mem_map, List.mem_range, eq_comm, or_assoc]
  cases b <;> simp

theorem frag_not_mem_dftPlaces (g : IpFamily) : FirewallPlace.frag ∉ dftPlaces g := by cases g <;> simp [dftPlaces]

theorem entry_not_mem_dftPlaces (g g' : IpFamily) (i : Nat) : FirewallPlace.entry g i ∉ dftPlaces g' := by
  cases g' <;> simp [dftPlaces]

theorem dftPlaces_nodup (g : IpFamily) : (dftPlaces g).Nodup := by cases g <;> decide

theorem rulePlaces_nodup (g : IpFamily) (n : Nat) (b : Bool) : (rulePlaces g n b).Nodup := by
  have hentries : (entryPlaces g n).Nodup := List.Nodup.map (fun i j hij => by cases hij; rfl) List.nodup_range
  have hfrag : (fragPlaces b).Nodup := by cases b <;> simp [fragPlaces]
  refine List.Nodup.append (List.Nodup.append hentries (dftPlaces_nodup g) ?_) hfrag ?_
  · rintro p hp hp'
    obtain ⟨i, -, rfl⟩ := List.mem_map.1 hp
    exact entry_not_mem_dftPlaces _ _ _ hp'
  · rintro p hp hp'
    have hpf : p = .frag := by cases b <;> simp_all [fragPlaces]
    subst hpf
    rcases List.mem_append.1 hp with hp | hp
    · obtain ⟨i, -, hi⟩ := List.mem_map.1 hp
      cases hi
    · exact frag_not_mem_dftPlaces g hp

theorem rulePlaces_length (g : IpFamily) (n : Nat) (b : Bool) :
    (rulePlaces g n b).length = n + (dftPlaces g).length + b.toNat := by
  simp only [rulePlaces, entryPlaces, List.length_append, List.length_map, List.length_range]
  cases b <;> rfl

theorem entryPuts_places : (entryPuts env rx file g).map Prod.fst = entryPlaces g (ruleCount file g) := by
  rw [entryPuts, List.map_map, entryPlaces, ruleCount, List.range_eq_range', ← List.zipIdx_map_snd 0 (entryAttribs file g),
    List.map_map]
  rfl

theorem fragPuts_places : (fragPuts env rx file g).map Prod.fst = fragPlaces (wantsFrag file g) := by
  rw [fragPuts, fragPlaces]
  split_ifs <;> rfl

theorem dftPuts_places : ((dftPuts env rx file g).map Prod.fst).Perm (dftPlaces g) := by
  cases g with
  | v4 => exact List.Perm.refl _
  | v6 => exact List.Perm.swap _ _ _

/-- The rules of a station take the places of their family. -/
theorem configPuts_places (env : WanFirewallEnv) (rx : RuleAttrib) (file : FirewallFile) (g : IpFamily) :
    ((configPuts env rx file g).map Prod.fst).Perm (rulePlaces g (ruleCount file g) (wantsFrag file g)) := by
  rw [configPuts, List.map_append, List.map_append, entryPuts_places, fragPuts_places, rulePlaces, List.append_assoc]
  exact List.perm_append_comm.trans ((dftPuts_places.append_left _).append_right _)

/-- The places of a family are not those of the other. -/
theorem ip_of_mem_rulePlaces {n : Nat} {b : Bool} (hb : b = true → g = .v6) {p : FirewallPlace} (hp : p ∈ rulePlaces g n b) :
    p.ip = g := by
  rcases mem_rulePlaces.1 hp with ⟨i, -, rfl⟩ | hdft | ⟨hfrag, rfl⟩
  · rfl
  · cases g <;> simp only [dftPlaces, List.mem_cons, List.not_mem_nil, or_false] at hdft
    · rw [hdft]
      rfl
    · rcases hdft with rfl | rfl <;> rfl
  · exact (hb hfrag).symm

theorem eq_v6_of_wantsFrag (h : wantsFrag file g = true) : g = .v6 := by
  cases g with
  | v4 => cases h
  | v6 => rfl

theorem configPuts_ip {x : FirewallPlace × WanFltRule} (hx : x ∈ configPuts env rx file g) : x.1.ip = g :=
  ip_of_mem_rulePlaces eq_v6_of_wantsFrag ((configPuts_places env rx file g).subset (List.mem_map_of_mem hx))

theorem configPuts_exists (hfit : ruleCount file g ≤ ipacmMaxFirewallEntries) {x : FirewallPlace × WanFltRule}
    (hx : x ∈ configPuts env rx file g) : x.1.Exists := by
  have hp : x.1 ∈ rulePlaces g (ruleCount file g) (wantsFrag file g) :=
    (configPuts_places env rx file g).subset (List.mem_map_of_mem hx)
  cases he : x.1 with
  | entry g' i =>
    rw [he] at hp
    rcases mem_rulePlaces.1 hp with ⟨j, hj, hi⟩ | hdft | ⟨-, hp⟩
    · cases hi
      exact lt_of_lt_of_le hj hfit
    · exact absurd hdft (entry_not_mem_dftPlaces _ _ _)
    · cases hp
  | dft k => trivial
  | frag => trivial

theorem configPuts_nodup (env : WanFirewallEnv) (rx : RuleAttrib) (file : FirewallFile) (g : IpFamily) :
    ((configPuts env rx file g).map Prod.fst).Nodup :=
  (configPuts_places env rx file g).nodup_iff.2 (rulePlaces_nodup _ _ _)

theorem mem_configPuts {p : FirewallPlace} :
    p ∈ (configPuts env rx file g).map Prod.fst ↔ p ∈ rulePlaces g (ruleCount file g) (wantsFrag file g) :=
  (configPuts_places env rx file g).mem_iff

theorem dftPlaces_length (file : FirewallFile) (g : IpFamily) :
    (dftPlaces g).length + (wantsFrag file g).toNat = dftCount file g := by
  cases g with
  | v4 => rfl
  | v6 =>
    simp only [dftPlaces, dftCount, fragCount]
    cases wantsFrag file .v6 <;> rfl

/-! ## The members after the rules are put -/

variable (env rx file) (D : FirewallDriver) (s : WanFirewall)

@[simp] theorem configured_active (g : IpFamily) : (s.configured env rx file D g).active = s.active :=
  putAll_frame (·.active) (fun x _ s => put_active D s x) _

@[simp] theorem configured_config (g : IpFamily) : (s.configured env rx file D g).config = file :=
  putAll_frame (·.config) (fun x _ s => put_config D s x) _

theorem configured_isIpv6FragInstalled (g : IpFamily) :
    (s.configured env rx file D g).isIpv6FragInstalled = (s.isIpv6FragInstalled || wantsFrag file g) := by
  rw [configured, putAll_isIpv6FragInstalled]
  congr 1
  cases hb : wantsFrag file g with
  | true => exact decide_eq_true (mem_configPuts.2 (mem_rulePlaces.2 (.inr (.inr ⟨hb, rfl⟩))))
  | false =>
    refine decide_eq_false fun hmem => ?_
    rcases mem_rulePlaces.1 (mem_configPuts.1 hmem) with ⟨i, -, hi⟩ | hdft | ⟨hw, -⟩
    · cases hi
    · exact frag_not_mem_dftPlaces g hdft
    · rw [hb] at hw
      cases hw

theorem configured_numFirewall {g g' : IpFamily} (hg : g' ≠ g) :
    (s.configured env rx file D g).numFirewall g' = s.numFirewall g' :=
  putAll_frame (·.numFirewall g') (fun x hx s => put_numFirewall D s x (by rw [configPuts_ip hx]; exact Ne.symm hg)) _

theorem configured_fltRuleCount {g g' : IpFamily} (hg : g' ≠ g) :
    (s.configured env rx file D g).fltRuleCount g' = s.fltRuleCount g' :=
  putAll_frame (·.fltRuleCount g') (fun x hx s => put_fltRuleCount D s x (by rw [configPuts_ip hx]; exact Ne.symm hg)) _

/-- The places of others keep their handles. -/
theorem kept_configured {p : FirewallPlace} (hp : p ∉ rulePlaces g (ruleCount file g) (wantsFrag file g)) :
    (s.configured env rx file D g).kept p = s.kept p :=
  (kept_putAll_of_not_mem (fun hmem => hp (mem_configPuts.1 hmem)) _).trans (kept_congr rfl rfl rfl p)

theorem kept_configured_isSome (hfit : ruleCount file g ≤ ipacmMaxFirewallEntries) {p : FirewallPlace}
    (hp : p ∈ rulePlaces g (ruleCount file g) (wantsFrag file g) ∨ (s.kept p).isSome) :
    ((s.configured env rx file D g).kept p).isSome := by
  refine kept_putAll_isSome (fun x hx => configPuts_exists hfit hx) ?_
  have hsame : WanFirewall.kept { s with config := file } p = s.kept p := kept_congr rfl rfl rfl p
  rw [hsame]
  exact hp.imp_left mem_configPuts.2

end Places

/-! ## Rules deleted -/

/-- What becomes of the driver's rules with one handle. -/
def dropHdl (h : Nat) (d : Ledger FirewallSlot) : Ledger FirewallSlot := if h = 0 then d else d.del h

/-- The members with the rules deleted whose handles are kept in the places. -/
def dropAll (s : WanFirewall) (ps : List FirewallPlace) : WanFirewall :=
  s.withFlt (ps.foldl (fun d p => dropHdl ((s.kept p).getD 0) d) s.flt)

/-- What `del_dft_firewall_rules` takes the fragment rule for. -/
def delsFrag (s : WanFirewall) (g : IpFamily) : Bool :=
  g == .v6 && (s.isIpv6FragInstalled && s.config.checkDftFirewallRulesAttrMask)

/-- The places that `del_dft_firewall_rules` reads. -/
def delPlaces (s : WanFirewall) (g : IpFamily) : List FirewallPlace :=
  rulePlaces g (s.numFirewall g).toNat (s.delsFrag g)

/-- The members after it, but for the count of the pipe's rules. -/
def cleared (s : WanFirewall) (g : IpFamily) (m : BitVec 32) : WanFirewall :=
  { ((s.dropAll (s.delPlaces g)).withCount g m).withNum g 0 with
    isIpv6FragInstalled := s.isIpv6FragInstalled && !s.delsFrag g }

section Cleared

variable (s : WanFirewall) (g : IpFamily) (m : BitVec 32)

@[simp] theorem cleared_active : (s.cleared g m).active = s.active := rfl
@[simp] theorem cleared_config : (s.cleared g m).config = s.config := rfl
@[simp] theorem cleared_numFirewall : (s.cleared g m).numFirewall = update s.numFirewall g 0 := rfl
@[simp] theorem cleared_fltRuleCount : (s.cleared g m).fltRuleCount = update s.fltRuleCount g m := rfl
@[simp] theorem cleared_isIpv6FragInstalled :
    (s.cleared g m).isIpv6FragInstalled = (s.isIpv6FragInstalled && !s.delsFrag g) := rfl

theorem kept_cleared (p : FirewallPlace) : (s.cleared g m).kept p = s.kept p := kept_congr rfl rfl rfl p

end Cleared

section Del

variable {D : FirewallDriver} {env : WanFirewallEnv} {g : IpFamily} {s : WanFirewall}

theorem kept_dropAll (s : WanFirewall) (ps : List FirewallPlace) (p : FirewallPlace) : (s.dropAll ps).kept p = s.kept p :=
  kept_congr rfl rfl rfl p

theorem kept_withCount (s : WanFirewall) (g : IpFamily) (m : BitVec 32) (p : FirewallPlace) :
    (s.withCount g m).kept p = s.kept p := kept_congr rfl rfl rfl p

theorem dropAll_append (s : WanFirewall) (ps qs : List FirewallPlace) :
    s.dropAll (ps ++ qs) = (s.dropAll ps).dropAll qs := by
  have hkept : (s.dropAll ps).kept = s.kept := funext (kept_dropAll s ps)
  simp only [dropAll, List.foldl_append] at hkept ⊢
  rw [hkept]
  rfl

theorem dropAll_withCount (s : WanFirewall) (g : IpFamily) (m : BitVec 32) (ps : List FirewallPlace) :
    (s.withCount g m).dropAll ps = (s.dropAll ps).withCount g m := by
  have hkept : (s.withCount g m).kept = s.kept := funext (kept_withCount s g m)
  simp only [dropAll, hkept]
  rfl

theorem withCount_withCount (s : WanFirewall) (g : IpFamily) (m n : BitVec 32) :
    (s.withCount g m).withCount g n = s.withCount g n := by
  simp only [withCount, Function.update_idem]

variable (hD : D.Succeeds)
include hD

theorem deleteFilteringHdl_goes (call : FirewallCall) (h : Nat) (s : WanFirewall) :
    s.deleteFilteringHdl D call h = (true, s.withFlt (dropHdl h s.flt)) := by
  rw [deleteFilteringHdl, dropHdl]
  split_ifs with h0 hf
  · rfl
  · exact absurd hf (hD.not_fails call)
  · rfl

theorem delEntry_goes {i : Nat} (hw : (s.kept (.entry g i)).isSome) :
    delEntry D g i s = .ok (true, s.dropAll [.entry g i]) := by
  obtain ⟨h, hh⟩ := Option.isSome_iff_exists.1 hw
  have hi : i < ipacmMaxFirewallEntries := by
    by_contra hi
    simp [kept, hi] at hh
  have hk : s.firewallHdl g ⟨i, hi⟩ = some h := by simpa only [kept, dif_pos hi] using hh
  simp only [delEntry, dif_pos hi, hk, readHdl, ok_bind, deleteFilteringHdl_goes hD, dropAll, List.foldl_cons,
    List.foldl_nil, hh]
  rfl

theorem delEntryAll_goes (is : List Nat) (hw : ∀ i ∈ is, (s.kept (.entry g i)).isSome) :
    Step.all (is.map (delEntry D g)) s = .ok (true, s.dropAll (is.map (.entry g))) := by
  induction is generalizing s with
  | nil => rfl
  | cons i is ih =>
    have hone := delEntry_goes hD (hw i List.mem_cons_self)
    rw [List.map_cons, Step.all, Step.andThen_ok hone, ih fun j hj => ?_]
    · rw [List.map_cons, ← dropAll_append, List.singleton_append]
    · rw [kept_dropAll]
      exact hw j (List.mem_cons_of_mem _ hj)

/-- One handle, and one rule of the pipe less. -/
theorem delOne_goes (call : FirewallCall) (p : FirewallPlace) (after : WanFirewall → WanFirewall)
    (hafter : ∀ s, (after s).fltRuleCount = s.fltRuleCount) (hw : (s.kept p).isSome)
    (hroom : -2 ^ 31 ≤ (s.fltRuleCount g).toInt - 1) : ∃ m, m.toInt = (s.fltRuleCount g).toInt - 1 ∧
      delOne D call g (·.kept p) after s = .ok (true, (after (s.dropAll [p])).withCount g m) := by
  obtain ⟨h, hh⟩ := Option.isSome_iff_exists.1 hw
  have := BitVec.toInt_lt (x := s.fltRuleCount g)
  obtain ⟨m, hm, hint⟩ := addInt_ok (n := s.fltRuleCount g) (k := -1) (by omega)
  refine ⟨m, by omega, ?_⟩
  have hcount : (after (s.dropAll [p])).fltRuleCount g = s.fltRuleCount g := by rw [hafter]; rfl
  have hdrop : s.withFlt (dropHdl h s.flt) = s.dropAll [p] := by simp [dropAll, hh]
  simp only [delOne, hh, readHdl, ok_bind, deleteFilteringHdl_goes hD, hdrop, addFltRuleCount, hcount, hm]
  rfl

omit hD in
theorem toInt_eq_toNat {n : BitVec 32} (h : 0 ≤ n.toInt) : n.toInt = n.toNat := by
  have := n.isLt
  rw [BitVec.toInt_eq_toNat_cond] at h ⊢
  split_ifs at h ⊢ <;> omega

theorem delEntries_goes (h0 : 0 ≤ (s.numFirewall g).toInt) (h50 : (s.numFirewall g).toInt ≤ ipacmMaxFirewallEntries)
    (hw : ∀ i < (s.numFirewall g).toNat, (s.kept (.entry g i)).isSome)
    (hroom : -2 ^ 31 ≤ (s.fltRuleCount g).toInt - (s.numFirewall g).toNat) :
    ∃ m, m.toInt = (s.fltRuleCount g).toInt - (s.numFirewall g).toNat ∧
      Step.all (delEntries D g (s.numFirewall g)) s =
        .ok (true, (s.dropAll (entryPlaces g (s.numFirewall g).toNat)).withCount g m) := by
  have hint := toInt_eq_toNat h0
  rw [delEntries]
  split_ifs with hn
  · have hwidth : ((s.numFirewall g).setWidth 8).toNat = (s.numFirewall g).toNat := by
      rw [BitVec.toNat_setWidth]
      refine Nat.mod_eq_of_lt ?_
      have hle : (s.numFirewall g).toNat ≤ 50 := by
        rw [hint] at h50
        exact_mod_cast h50
      omega
    have := BitVec.toInt_lt (x := s.fltRuleCount g)
    obtain ⟨m, hm, hmint⟩ := addInt_ok (n := s.fltRuleCount g) (k := -(s.numFirewall g).toInt) (by omega)
    refine ⟨m, by omega, ?_⟩
    have hall := delEntryAll_goes hD (List.range (s.numFirewall g).toNat) fun i hi => hw i (List.mem_range.1 hi)
    rw [hwidth, Step.all_append, Step.andThen_ok hall, Step.all_singleton]
    simp only [countDown, addFltRuleCount]
    rw [show (s.dropAll _).fltRuleCount = s.fltRuleCount from rfl, hm]
    rfl
  · have hz : s.numFirewall g = 0 := not_not.1 hn
    refine ⟨s.fltRuleCount g, by simp [hz], ?_⟩
    have hsame : s.withCount g (s.fltRuleCount g) = s := by simp only [withCount, Function.update_eq_self]
    rw [hz]
    exact congrArg (fun t => Except.ok (true, t)) hsame.symm

/-- The next handle. -/
theorem delOne_next (call : FirewallCall) (ps : List FirewallPlace) (p : FirewallPlace) {m : BitVec 32} (hw : (s.kept p).isSome)
    (hroom : -2 ^ 31 ≤ m.toInt - 1) : ∃ m', m'.toInt = m.toInt - 1 ∧
      delOne D call g (·.kept p) id ((s.dropAll ps).withCount g m) = .ok (true, (s.dropAll (ps ++ [p])).withCount g m') := by
  have hcount : ((s.dropAll ps).withCount g m).fltRuleCount g = m := Function.update_self _ _ _
  have hkept : (((s.dropAll ps).withCount g m).kept p).isSome := by rwa [kept_withCount, kept_dropAll]
  obtain ⟨m', hm', hok⟩ := delOne_goes (g := g) hD call p id (fun _ => rfl) hkept (by rwa [hcount])
  refine ⟨m', by rw [hm', hcount], ?_⟩
  rw [hok, id, dropAll_withCount, withCount_withCount, dropAll_append]

/-- The fragment rule goes if it is there and the configuration asks for it. -/
theorem delFrag_goes (ps : List FirewallPlace) {m : BitVec 32}
    (hroom : -2 ^ 31 ≤ m.toInt - (s.delsFrag .v6).toNat) : ∃ m', m'.toInt = m.toInt - (s.delsFrag .v6).toNat ∧
      delFrag D ((s.dropAll ps).withCount .v6 m) =
        .ok (true, { (s.dropAll (ps ++ fragPlaces (s.delsFrag .v6))).withCount .v6 m' with
          isIpv6FragInstalled := s.isIpv6FragInstalled && !s.delsFrag .v6 }) := by
  have hdels : s.delsFrag .v6 = (s.isIpv6FragInstalled && s.config.checkDftFirewallRulesAttrMask) := rfl
  have hsame : delFrag D ((s.dropAll ps).withCount .v6 m) = if s.delsFrag .v6 then
      delOne D .delFrag .v6 (·.kept .frag) (fun s => { s with isIpv6FragInstalled := false })
        ((s.dropAll ps).withCount .v6 m) else .ok (true, (s.dropAll ps).withCount .v6 m) := rfl
  rw [hsame]
  cases hb : s.delsFrag .v6 with
  | false =>
    refine ⟨m, by simp, ?_⟩
    simp only [Bool.false_eq_true, if_false, fragPlaces, List.append_nil, Bool.not_false, Bool.and_true]
    rfl
  | true =>
    rw [hb] at hroom
    have hcount : ((s.dropAll ps).withCount .v6 m).fltRuleCount .v6 = m := by simp
    obtain ⟨m', hm', hok⟩ := delOne_goes (g := .v6) (s := (s.dropAll ps).withCount .v6 m) hD .delFrag .frag
      (fun s => { s with isIpv6FragInstalled := false }) (fun _ => rfl) rfl (by rwa [hcount])
    refine ⟨m', by rw [hm', hcount]; rfl, ?_⟩
    rw [if_pos rfl, hok, dropAll_withCount, fragPlaces, if_pos rfl, dropAll_append, Bool.not_true, Bool.and_false]
    simp only [withCount, Function.update_idem]

omit hD in
theorem delSteps_v4 (n : BitVec 32) : delSteps D .v4 n =
    delEntries D .v4 n ++ [delOne D .delDft .v4 (·.kept (.dft (dftIdx .v4))) id, resetNum .v4] :=
  List.append_assoc _ _ _

omit hD in
theorem delSteps_v6 (n : BitVec 32) : delSteps D .v6 n =
    delEntries D .v6 n ++ [delOne D .delDft .v6 (·.kept (.dft (dftIdx .v6))) id,
      delOne D .delIcmp .v6 (·.kept (.dft icmpIdx)) id, delFrag D, resetNum .v6] :=
  List.append_assoc _ _ _

/-- **What `del_dft_firewall_rules` does** where it finds its handles. -/
theorem delDftFirewallRules_goes {rx : RuleAttrib × RuleAttrib} (hrx : env.rxProp = some rx) (hact : s.active g = true)
    (h0 : 0 ≤ (s.numFirewall g).toInt) (h50 : (s.numFirewall g).toInt ≤ ipacmMaxFirewallEntries)
    (hw : ∀ p ∈ s.delPlaces g, (s.kept p).isSome) (hroom : -2 ^ 31 ≤ (s.fltRuleCount g).toInt - (s.delPlaces g).length) :
    ∃ m, m.toInt = (s.fltRuleCount g).toInt - (s.delPlaces g).length ∧
      s.delDftFirewallRules D env g = .ok (true, s.cleared g m) := by
  have hle : ¬(ipacmMaxFirewallEntries : Int) < (s.numFirewall g).toInt := not_lt.2 h50
  have hdft : ∀ p ∈ dftPlaces g, (s.kept p).isSome := fun p hp => hw p (mem_rulePlaces.2 (.inr (.inl hp)))
  rw [delPlaces, rulePlaces_length] at hroom ⊢
  obtain ⟨m, hm, hentries⟩ := delEntries_goes (g := g) (s := s) hD h0 h50
    (fun i hi => hw _ (mem_rulePlaces.2 (.inl ⟨i, hi, rfl⟩))) (by omega)
  simp only [delDftFirewallRules, hrx, if_pos hact, if_neg hle]
  cases g with
  | v4 =>
    have hlen : (dftPlaces .v4).length + (s.delsFrag .v4).toNat = 1 := rfl
    obtain ⟨m₁, hm₁, hdft4⟩ := delOne_next (g := .v4) (s := s) hD .delDft
      (entryPlaces .v4 (s.numFirewall .v4).toNat) (.dft (dftIdx .v4)) (m := m) (hdft _ List.mem_cons_self) (by omega)
    refine ⟨m₁, by omega, ?_⟩
    rw [delSteps_v4, Step.all_append, Step.andThen_ok hentries, Step.all, Step.andThen_ok hdft4, Step.all_singleton]
    simp only [resetNum, cleared, delPlaces, rulePlaces, show s.delsFrag .v4 = false from rfl, fragPlaces, dftPlaces,
      Bool.false_eq_true, if_false, List.append_nil, Bool.not_false, Bool.and_true]
    rfl
  | v6 =>
    have hlen : (dftPlaces .v6).length = 2 := rfl
    obtain ⟨m₁, hm₁, hdft6⟩ := delOne_next (g := .v6) (s := s) hD .delDft
      (entryPlaces .v6 (s.numFirewall .v6).toNat) (.dft (dftIdx .v6)) (m := m) (hdft _ List.mem_cons_self) (by omega)
    obtain ⟨m₂, hm₂, hicmp⟩ := delOne_next (g := .v6) (s := s) hD .delIcmp
      (entryPlaces .v6 (s.numFirewall .v6).toNat ++ [.dft (dftIdx .v6)]) (.dft icmpIdx) (m := m₁)
      (hdft _ (List.mem_cons_of_mem _ List.mem_cons_self)) (by omega)
    obtain ⟨m₃, hm₃, hfrag⟩ := delFrag_goes (s := s) hD
      (entryPlaces .v6 (s.numFirewall .v6).toNat ++ [.dft (dftIdx .v6)] ++ [.dft icmpIdx]) (m := m₂) (by omega)
    refine ⟨m₃, by omega, ?_⟩
    rw [delSteps_v6, Step.all_append, Step.andThen_ok hentries, Step.all, Step.andThen_ok hdft6, Step.all,
      Step.andThen_ok hicmp, Step.all, Step.andThen_ok hfrag, Step.all_singleton]
    simp only [resetNum, cleared, delPlaces, rulePlaces, dftPlaces, List.append_assoc, List.cons_append, List.nil_append]
    rfl

end Del

end WanFirewall

end HiaeCommon
