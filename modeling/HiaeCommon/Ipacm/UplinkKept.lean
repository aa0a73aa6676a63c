/-
What the handlers of WAN-ups and WAN-downs do to the uplink rules of an
interface and to its records of them: the counts stay within the arrays
whatever the driver does (`Counted`), the records are of the rules that are
installed (`Kept`), and the rules are one set of the backhaul (`Holds`).
-/
import HiaeCommon.Ipacm.UplinkOps

namespace HiaeCommon

open Lib (Handles Ledger untilFailure)

/-! ## The rules as they should be -/

/-- What is installed for a family. -/
inductive Backhaul
  | down
  | modem (rules : List FltRule)
  | sta (rule : FltRule)
  deriving DecidableEq

/-- The modem's rules, and the rules of `handle_wan_up`. -/
def Backhaul.modemSet : Backhaul → List FltRule
  | .modem rules => rules
  | _ => []

def Backhaul.staSet : Backhaul → List FltRule
  | .sta rule => [rule]
  | _ => []

/-- What a WAN-up or WAN-down makes of a family. A modem that was up stays as it is. -/
def Backhaul.next (cfg : LanConf) (sh : LanShared) (backhaul : IpType → Backhaul) : WanOp → IpType → Backhaul
  | .up ip isSta x _ => Function.update backhaul ip <|
    if isSta then .sta (lanWanRule sh ip)
    else match backhaul ip, cfg.rxProp with
      | .modem rules, _ => .modem rules
      | _, none => .modem []
      | _, some rx => .modem (uplinkRules rx cfg.ipaIfCate sh (sh.getExtProp ip) ip x)
  | .down ip _ => Function.update backhaul ip .down

section Next

variable {cfg : LanConf} {sh : LanShared} {g : IpType → Backhaul} {ip : IpType} {x : BitVec 8} {num : Nat}

theorem Backhaul.next_sta : Backhaul.next cfg sh g (.up ip true x num) = Function.update g ip (.sta (lanWanRule sh ip)) := rfl

theorem Backhaul.next_again {rules : List FltRule} (hg : g ip = .modem rules) : Backhaul.next cfg sh g (.up ip false x num) = g := by
  unfold Backhaul.next
  simp only [hg, Bool.false_eq_true, if_false]
  rw [← hg, Function.update_eq_self]

theorem Backhaul.next_modem {rx : RxProps} (hrx : cfg.rxProp = some rx) (hg : g ip = .down) :
    Backhaul.next cfg sh g (.up ip false x num) =
      Function.update g ip (.modem (uplinkRules rx cfg.ipaIfCate sh (sh.getExtProp ip) ip x)) := by
  unfold Backhaul.next
  simp only [hg, hrx, Bool.false_eq_true, if_false]

end Next

/-! ## What the handlers do to the rules -/

namespace Lan

/-- The modem's rules of an interface, and those of `handle_wan_up`. -/
def modemView (n : Nat) (p : Lan × LanOut) (ip : IpType) : List (Nat × FltSlot) := p.2.flt.view (ofUse n .wanUl ip)

def staView (n : Nat) (p : Lan × LanOut) (ip : IpType) : List (Nat × FltSlot) := p.2.flt.view (ofUse n .lanWan ip)

/-- The deletions of the modem's rules all succeed, or not even the first does. -/
def DeletesWhole (D : LanDriver) (ip : IpType) (num : Nat) : Prop :=
  (∀ i < num, D.fails (.delFlt .wanUl ip i) = false) ∨ D.fails (.delFlt .wanUl ip 0) = true

/-- All that differs of the uplink rules is of one family. -/
structure Other (n : Nat) (ip : IpType) (p p' : Lan × LanOut) : Prop where
  ul : ∀ ip', ip' ≠ ip → ip' ≠ .max → p'.1.ul ip' = p.1.ul ip'
  modem : ∀ ip', ip' ≠ ip → ip' ≠ .max → modemView n p' ip' = modemView n p ip'

section Specs

variable {D : LanDriver} {cfg : LanConf} {sh : LanShared} {p p' : Lan × LanOut} {ip : IpType} {x : BitVec 8}

theorem Quiet.modemView (h : Quiet p p') (n : Nat) (ip : IpType) : modemView n p' ip = modemView n p ip := h.view (by decide) n ip

theorem Quiet.staView (h : Quiet p p') (n : Nat) (ip : IpType) : staView n p' ip = staView n p ip := h.view (by decide) n ip

/-- A whole set goes to the rear, and its handles are recorded. -/
theorem installUplink_spec {rx : RxProps} (hip : ip ≠ .max) (hrx : cfg.rxProp = some rx)
    (h : Installs D cfg (sh.getExtProp ip) ip) :
    ∃ hs : List Nat, hs.length = (sh.getExtProp ip).length ∧
      let p' := (p.1.installUplink D cfg sh (sh.getExtProp ip) ip x p.2).2
      Other cfg.ipaIfNum ip p p' ∧ (p'.1.ul ip).modemUlSet = true ∧
      (p'.1.ul ip).numWanUlFlRule = (p.1.ul ip).numWanUlFlRule + hs.length ∧
      (p'.1.ul ip).wanUlFlRuleHdl = (fun i =>
        if (p.1.ul ip).numWanUlFlRule ≤ i ∧ i < (p.1.ul ip).numWanUlFlRule + hs.length
        then (hs[i - (p.1.ul ip).numWanUlFlRule]?).getD noFltHdl else (p.1.ul ip).wanUlFlRuleHdl i) ∧
      modemView cfg.ipaIfNum p' ip = modemView cfg.ipaIfNum p ip ++
        hs.zip ((uplinkRules rx cfg.ipaIfCate sh (sh.getExtProp ip) ip x).map (rx.slot cfg.ipaIfNum .wanUl ip)) := by
  obtain ⟨hs, hlen, hf, hlive⟩ := @handleUplinkFilterRule_of_installs _ _ sh p.1 p.2 _ _ _ x hip hrx h
  refine ⟨hs, hlen, ⟨fun ip' hne hmax => ?_, fun ip' hne _ => ?_⟩, ?_, ?_, ?_, ?_⟩
  · rw [installUplink]
    dsimp only
    rw [hf, setUl_ul_of_ne hne hip hmax, setUl_ul_of_ne hne hip hmax]
  · exact Ledger.view_append_of_not hlive fun r hr => ofUse_of_ne hne (ofUse_slot rx _ _ _ r hr)
  · exact congrArg UplinkRules.modemUlSet (setUl_ul_self ..)
  · refine (congrArg UplinkRules.numWanUlFlRule (setUl_ul_self ..)).trans ?_
    exact (congrArg (fun f => (f.ul ip).numWanUlFlRule) hf).trans (congrArg UplinkRules.numWanUlFlRule (setUl_ul_self ..))
  · refine (congrArg UplinkRules.wanUlFlRuleHdl (setUl_ul_self ..)).trans ?_
    exact (congrArg (fun f => (f.ul ip).wanUlFlRuleHdl) hf).trans (congrArg UplinkRules.wanUlFlRuleHdl (setUl_ul_self ..))
  · exact Ledger.view_append hlive (ofUse_slot rx _ _ _)

theorem setUl_lanWanHdl (f : Lan) (u : UplinkRules) : (f.setUl ip u).lanWanHdl = f.lanWanHdl := by cases ip <;> rfl

theorem handleUplinkFilterRule_lanWanHdl {prop : List ExtProp} :
    (p.1.handleUplinkFilterRule D cfg sh prop ip x p.2).2.1.lanWanHdl = p.1.lanWanHdl := by
  unfold handleUplinkFilterRule
  cases cfg.rxProp with
  | none => rfl
  | some rx =>
    dsimp only
    split
    · rfl
    split
    · rfl
    split
    · rfl
    split
    · rfl
    split
    · rfl
    · exact setUl_lanWanHdl ..

theorem installUplink_sta {prop : List ExtProp} (n : Nat) (ip' : IpType) :
    staView n (p.1.installUplink D cfg sh prop ip x p.2).2 ip' = staView n p ip' ∧
      (p.1.installUplink D cfg sh prop ip x p.2).2.1.lanWanHdl = p.1.lanWanHdl := by
  have hadds := @handleUplinkFilterRule_adds D cfg sh p.1 p.2 prop ip x
  exact ⟨hadds.view _ fun u hu => ofUse_blind (by rw [List.mem_singleton.1 hu]; decide),
    (setUl_lanWanHdl ..).trans handleUplinkFilterRule_lanWanHdl⟩

/-- Where the deletions go through the set is gone, and the record is empty. -/
theorem wanDownModem_spec (hb : Base p) (hip : ip ≠ .max)
    (hhdl : (List.range (p.1.ul ip).numWanUlFlRule).map (p.1.ul ip).wanUlFlRuleHdl = (modemView cfg.ipaIfNum p ip).map Prod.fst)
    (hle : (p.1.ul ip).numWanUlFlRule ≤ maxWanUlFilterRules)
    (hok : ∀ i < (p.1.ul ip).numWanUlFlRule, D.fails (.delFlt .wanUl ip i) = false) :
    let p' := (p.1.wanDownModem D cfg sh ip p.2).2
    Other cfg.ipaIfNum ip p p' ∧ p'.1.ul ip = { modemUlSet := false, numWanUlFlRule := 0, wanUlFlRuleHdl := fun _ => 0 } ∧
      modemView cfg.ipaIfNum p' ip = [] ∧ (∀ ip', staView cfg.ipaIfNum p' ip' = staView cfg.ipaIfNum p ip') ∧
      p'.1.lanWanHdl = p.1.lanWanHdl := by
  obtain ⟨h1, h2⟩ := @LanOut.deleteFilteringHdls_of_ok D _ hb.sound.ne_zero .wanUl ip
    ((List.range (p.1.ul ip).numWanUlFlRule).map (p.1.ul ip).wanUlFlRuleHdl) (by simpa using hok)
  have hlive := h2.trans (congrArg (fun hdls : List Nat => p.2.flt.live.filter fun x => x.1 ∉ hdls) hhdl)
  -- the rules of the driver, whatever the last call comes to
  have hflt : ∀ o' : LanOut, o'.flt.live = (p.2.deleteFilteringHdls D .wanUl ip
        ((List.range (p.1.ul ip).numWanUlFlRule).map (p.1.ul ip).wanUlFlRuleHdl)).2.flt.live →
      let p' := (p.1.setUl ip { modemUlSet := false, numWanUlFlRule := 0, wanUlFlRuleHdl := fun _ => 0 }, o')
      Other cfg.ipaIfNum ip p p' ∧ p'.1.ul ip = { modemUlSet := false, numWanUlFlRule := 0, wanUlFlRuleHdl := fun _ => 0 } ∧
        modemView cfg.ipaIfNum p' ip = [] ∧ (∀ ip', staView cfg.ipaIfNum p' ip' = staView cfg.ipaIfNum p ip') ∧
        p'.1.lanWanHdl = p.1.lanWanHdl := by
    intro o' ho' p'
    have ho' := ho'.trans hlive
    refine ⟨⟨fun ip' hne hmax => setUl_ul_of_ne hne hip hmax _, fun ip' hne _ => ?_⟩, setUl_ul_self .., ?_, fun ip' => ?_, setUl_lanWanHdl ..⟩
    · exact Ledger.view_of_deleted_other hb.sound.nodup (fun r hr => ofUse_of_ne hne hr) ho'
    · exact Ledger.view_of_deleted ho'
    · refine Ledger.view_of_deleted_other hb.sound.nodup (fun r hr => @ofUse_blind _ _ .wanUl _ (by decide) r ?_) ho'
      simp only [ofUse, Bool.decide_and, Bool.and_eq_true, decide_eq_true_eq] at hr
      exact hr.2.1
  unfold wanDownModem
  dsimp only
  rw [if_neg (by omega)]
  revert h1 hflt
  generalize p.2.deleteFilteringHdls D .wanUl ip ((List.range (p.1.ul ip).numWanUlFlRule).map (p.1.ul ip).wanUlFlRuleHdl) = r
  obtain ⟨ok, o'⟩ := r
  intro h1 hflt
  cases h1
  dsimp only
  split
  · exact hflt _ (congrArg Ledger.live (decreaseFltRuleCount_flt ..))
  · exact hflt _ (congrArg Ledger.live (decreaseFltRuleCount_flt ..))

theorem addOne_of_ok {f : Lan} {o : LanOut} {use : FltUse} {rule : FltRule} {set : Nat → Lan} {rx : RxProps} (hD : D.Succeeds) :
    ∃ h, (f.addOne D cfg use ip rule set rx o).2.1 = set h ∧
      (f.addOne D cfg use ip rule set rx o).2.2.flt.live = o.flt.live ++ [h].zip ([rule].map (rx.slot cfg.ipaIfNum use ip)) := by
  obtain ⟨hs, hlen, hfst, hlive⟩ := @Ledger.install_rear _ D.handles (D.refuses (.addFlt use ip)) o.flt
    ([rule].map (rx.slot cfg.ipaIfNum use ip)) (hD.refuses _)
  match hs, hlen with
  | [h], _ =>
    refine ⟨h, ?_⟩
    unfold addOne
    dsimp only [LanOut.addFilteringRule]
    rw [if_neg (by simp [hD.fails])]
    have hrules : [(true, rule)].map (fun r => (r.1, (⟨rx.rx.srcPipe, ip, cfg.ipaIfNum, use, r.2⟩ : FltSlot))) =
        ([rule].map (rx.slot cfg.ipaIfNum use ip)).map fun r => (true, r) := rfl
    rw [hrules]
    dsimp only
    rw [hfst, LanOut.addFltRuleCount_flt]
    exact ⟨rfl, hlive⟩

/-- A rule of `handle_wan_up` goes to the rear, and its handle is recorded. -/
theorem handleWanUp_spec {rx : RxProps} (hip : ip ≠ .max) (hrx : cfg.rxProp = some rx) (hD : D.Succeeds) :
    let p' := (p.1.handleWanUp D cfg sh ip p.2).2
    (∀ ip', ip' ≠ ip → ip' ≠ .max → p'.1.lanWanHdl ip' = p.1.lanWanHdl ip') ∧ (∀ ip', p'.1.ul ip' = p.1.ul ip') ∧
      p'.2.flt.live = p.2.flt.live ++ [p'.1.lanWanHdl ip].zip ([lanWanRule sh ip].map (rx.slot cfg.ipaIfNum .lanWan ip)) := by
  intro p'
  cases ip with
  | v4 =>
    obtain ⟨h, hf, hlive⟩ := @addOne_of_ok D cfg .v4 p.1 p.2 .lanWan (lanWanRule sh .v4)
      (fun h => { p.1 with lanWanFlRuleHdl := h }) rx hD
    have he : p' = (p.1.addOne D cfg .lanWan .v4 (lanWanRule sh .v4) (fun h => { p.1 with lanWanFlRuleHdl := h }) rx p.2).2 := by
      show (p.1.handleWanUp D cfg sh .v4 p.2).2 = _
      unfold handleWanUp
      rw [hrx]
      dsimp only
      rw [if_neg (by simp [hD.fails])]
    rw [he, hf]
    refine ⟨fun ip' hne hmax => ?_, fun ip' => ?_, hlive⟩
    · cases ip' with
      | v4 => exact absurd rfl hne
      | v6 => rfl
      | max => exact absurd rfl hmax
    · cases ip' <;> rfl
  | v6 =>
    obtain ⟨h, hf, hlive⟩ := @addOne_of_ok D cfg .v6 p.1 p.2 .lanWan (lanWanRule sh .v6)
      (fun h => { p.1 with dftV6flRuleHdl := fun i => if i = ipv6DefaultFiltertingRules then h else p.1.dftV6flRuleHdl i }) rx hD
    have he : p' = (p.1.addOne D cfg .lanWan .v6 (lanWanRule sh .v6)
        (fun h => { p.1 with dftV6flRuleHdl := fun i => if i = ipv6DefaultFiltertingRules then h else p.1.dftV6flRuleHdl i })
        rx p.2).2 := by
      show (p.1.handleWanUp D cfg sh .v6 p.2).2 = _
      unfold handleWanUp
      rw [hrx]
      dsimp only
      rw [if_neg (by simp [hD.fails])]
    rw [he, hf]
    refine ⟨fun ip' hne hmax => ?_, fun ip' => ?_, ?_⟩
    · cases ip' with
      | v4 => rfl
      | v6 => exact absurd rfl hne
      | max => exact absurd rfl hmax
    · cases ip' <;> rfl
    · exact hlive
  | max => exact absurd rfl hip

theorem wanDownSta_fst (hdl : Nat) : (p.1.wanDownSta D cfg ip hdl p.2).2.1 = p.1 := by
  unfold wanDownSta
  split <;> rfl

theorem wanDownSta_flt (hdl : Nat) :
    (p.1.wanDownSta D cfg ip hdl p.2).2.2.flt = (p.2.deleteFilteringHdls D .lanWan ip [hdl]).2.flt := by
  unfold wanDownSta
  split
  next he => rw [he]
  next he => rw [he, decreaseFltRuleCount_flt]

theorem deleteIpv6PrefixFltRule_view {q : FltSlot → Bool} (h : ∀ r, (p.1.ipv6PrefixFltRuleHdl, r) ∉ p.2.flt.view q) :
    (p.1.deleteIpv6PrefixFltRule D cfg p.2).flt.view q = p.2.flt.view q := by
  have hv := @LanOut.deleteFilteringHdls_view D _ _ .ipv6Prefix .v6 [p.1.ipv6PrefixFltRuleHdl]
    fun k hk => by rw [List.mem_singleton.1 hk]; exact h
  unfold deleteIpv6PrefixFltRule
  revert hv
  generalize p.2.deleteFilteringHdls D .ipv6Prefix .v6 [p.1.ipv6PrefixFltRuleHdl] = r
  intro hv
  dsimp only
  split
  · rw [decreaseFltRuleCount_flt]
    exact hv
  · exact hv

/-! ## The counts -/

/-- The count fits the array, and is zero where the flag is not set. -/
def Counted (f : Lan) (ip : IpType) : Prop :=
  (f.ul ip).numWanUlFlRule ≤ maxWanUlFilterRules ∧ ((f.ul ip).modemUlSet = false → (f.ul ip).numWanUlFlRule = 0)

theorem handleUplinkFilterRule_ul {prop : List ExtProp} (hip : ip ≠ .max) :
    let f' := (p.1.handleUplinkFilterRule D cfg sh prop ip x p.2).2.1
    (∀ ip', ip' ≠ ip → ip' ≠ .max → f'.ul ip' = p.1.ul ip') ∧
      (f'.ul ip).numWanUlFlRule ≤ (p.1.ul ip).numWanUlFlRule + maxWanUlFilterRules := by
  unfold handleUplinkFilterRule
  cases cfg.rxProp with
  | none => exact ⟨fun _ _ _ => rfl, Nat.le_add_right _ _⟩
  | some rx =>
    dsimp only
    split
    · exact ⟨fun _ _ _ => rfl, Nat.le_add_right _ _⟩
    split
    · exact ⟨fun _ _ _ => rfl, Nat.le_add_right _ _⟩
    next hle =>
    split
    · exact ⟨fun _ _ _ => rfl, Nat.le_add_right _ _⟩
    split
    · exact ⟨fun _ _ _ => rfl, Nat.le_add_right _ _⟩
    next hs _ he =>
      have hlen := addFilteringRule_length he
      rw [List.length_map] at hlen
      refine ⟨fun ip' hne hmax => setUl_ul_of_ne hne hip hmax _, ?_⟩
      rw [setUl_ul_self]
      dsimp only
      omega

theorem wanUp_counted (hip : ip ≠ .max) (h : ∀ ip', ip' ≠ .max → Counted p.1 ip') (isSta : Bool) {ip' : IpType} (hip' : ip' ≠ .max) :
    Counted (wanUp D cfg sh ip isSta x p).1 ip' := by
  have hinst : (p.1.ul ip).modemUlSet = false → Counted (p.1.installUplink D cfg sh (sh.getExtProp ip) ip x p.2).2.1 ip' := by
    intro hset
    obtain ⟨hother, hself⟩ := @handleUplinkFilterRule_ul D cfg sh p _ x (sh.getExtProp ip) hip
    by_cases he : ip' = ip
    · subst he
      rw [(h ip' hip).2 hset, Nat.zero_add] at hself
      unfold Counted
      rw [show (p.1.installUplink D cfg sh (sh.getExtProp ip') ip' x p.2).2.1.ul ip' = _ from setUl_ul_self ..]
      exact ⟨hself, fun hc => by cases hc⟩
    · have hsame : (p.1.installUplink D cfg sh (sh.getExtProp ip) ip x p.2).2.1.ul ip' = p.1.ul ip' :=
        (setUl_ul_of_ne he hip hip' _).trans (hother ip' he hip')
      unfold Counted
      rw [hsame]
      exact h ip' hip'
  unfold wanUp
  split
  · unfold handleWanUpEx
    split
    · exact h ip' hip'
    split
    next hc =>
      refine hinst ?_
      rw [hc.2.1]
      exact hc.2.2
    split
    next hc =>
      refine hinst ?_
      rw [hc.1]
      exact hc.2
    · exact h ip' hip'
  · have hul : (p.1.handleWanUp D cfg sh ip p.2).2.1.ul ip' = p.1.ul ip' :=
      handleWanUp_fields ip (fun f => f.ul ip' = p.1.ul ip') rfl (fun _ => by cases ip' <;> rfl) fun _ => by cases ip' <;> rfl
    unfold Counted
    rw [hul]
    exact h ip' hip'

theorem wanDownModem_counted (hip : ip ≠ .max) (h : ∀ ip', ip' ≠ .max → Counted p.1 ip') {ip' : IpType} (hip' : ip' ≠ .max) :
    Counted (p.1.wanDownModem D cfg sh ip p.2).2.1 ip' := by
  have hreset : Counted (p.1.setUl ip { modemUlSet := false, numWanUlFlRule := 0, wanUlFlRuleHdl := fun _ => 0 }) ip' := by
    unfold Counted
    by_cases he : ip' = ip
    · subst he
      rw [setUl_ul_self]
      exact ⟨Nat.zero_le _, fun _ => rfl⟩
    · rw [setUl_ul_of_ne he hip hip']
      exact h ip' hip'
  unfold wanDownModem
  dsimp only
  split
  · exact h ip' hip'
  split
  · exact h ip' hip'
  split
  · exact hreset
  · exact hreset

theorem wanDown_counted (h : ∀ ip', ip' ≠ .max → Counted p.1 ip') (isSta : Bool) {ip' : IpType} (hip' : ip' ≠ .max) :
    Counted (wanDown D cfg sh ip isSta p).1 ip' := by
  have h6 : Counted (p.1.handleWanDownV6 D cfg sh isSta p.2).2.1 ip' := by
    unfold handleWanDownV6
    dsimp only
    split
    · split
      · exact h ip' hip'
      · exact wanDownModem_counted (p := ({ p.1 with ipv6Prefix := 0 }, _)) (by decide) h hip'
    · rw [wanDownSta_fst (p := ({ p.1 with ipv6Prefix := 0 }, _))]
      exact h ip' hip'
  cases ip with
  | v4 =>
    unfold wanDown handleWanDown
    dsimp only
    split
    · exact wanDownModem_counted (by decide) h hip'
    · rw [wanDownSta_fst]
      exact h ip' hip'
  | v6 => exact h6
  | max => exact h6

/-! ## The records -/

/-- The modem's rules of a family are those that are recorded, and the flag says whether there are any. -/
structure Kept (n : Nat) (p : Lan × LanOut) (ip : IpType) : Prop where
  hdls : (List.range (p.1.ul ip).numWanUlFlRule).map (p.1.ul ip).wanUlFlRuleHdl = (modemView n p ip).map Prod.fst
  set : (p.1.ul ip).modemUlSet = true ↔ 0 < (p.1.ul ip).numWanUlFlRule
  le : (p.1.ul ip).numWanUlFlRule ≤ maxWanUlFilterRules

theorem Kept.of_same {n : Nat} (h : Kept n p ip) (hul : p'.1.ul ip = p.1.ul ip) (hv : modemView n p' ip = modemView n p ip) :
    Kept n p' ip := ⟨by rw [hul, hv]; exact h.hdls, by rw [hul]; exact h.set, by rw [hul]; exact h.le⟩

theorem Kept.quiet {n : Nat} (h : Kept n p ip) (hq : Quiet p p') : Kept n p' ip := h.of_same (hq.ul ip) (hq.modemView n ip)

theorem Kept.num_of_not {n : Nat} (h : Kept n p ip) (hset : (p.1.ul ip).modemUlSet = false) : (p.1.ul ip).numWanUlFlRule = 0 := by
  by_contra hn
  rw [h.set.2 (Nat.pos_of_ne_zero hn)] at hset
  cases hset

theorem Kept.view_of_not {n : Nat} (h : Kept n p ip) (hset : (p.1.ul ip).modemUlSet = false) : modemView n p ip = [] := by
  have hm := h.hdls
  rw [h.num_of_not hset] at hm
  exact List.map_eq_nil_iff.1 hm.symm

/-- A whole set on top of none. -/
theorem installUplink_kept (hip : ip ≠ .max) (h : ∀ ip', ip' ≠ .max → Kept cfg.ipaIfNum p ip')
    (hset : (p.1.ul ip).modemUlSet = false) (hi : Installs D cfg (sh.getExtProp ip) ip) {ip' : IpType} (hip' : ip' ≠ .max) :
    Kept cfg.ipaIfNum (p.1.installUplink D cfg sh (sh.getExtProp ip) ip x p.2).2 ip' := by
  cases hrx : cfg.rxProp with
  | none => exact absurd hrx hi.rx
  | some rx =>
    obtain ⟨hs, hlen, hother, hflag, hnum, hhdl, hview⟩ := installUplink_spec (p := p) (x := x) hip hrx hi
    by_cases he : ip' = ip
    · subst he
      have h0 := (h ip' hip).num_of_not hset
      have hpos : 0 < hs.length := by rw [hlen]; exact List.length_pos_iff.2 hi.ne_nil
      rw [h0, Nat.zero_add] at hnum
      refine ⟨?_, iff_of_true hflag (by rw [hnum]; exact hpos), by rw [hnum, hlen]; exact hi.fits⟩
      rw [hnum, hhdl, hview, (h ip' hip).view_of_not hset, List.nil_append, List.map_fst_zip (by
        rw [List.length_map, uplinkRules, List.length_map, hlen])]
      refine List.ext_getElem (by simp) fun i hi₁ hi₂ => ?_
      rw [List.length_map, List.length_range] at hi₁
      simp [h0, hi₁]
    · exact (h ip' hip').of_same (hother.ul ip' he hip') (hother.modem ip' he hip')

theorem wanUp_kept (hip : ip ≠ .max) (h : ∀ ip', ip' ≠ .max → Kept cfg.ipaIfNum p ip') (isSta : Bool)
    (hi : isSta = false → writeQmapid D cfg ip = true → (p.1.ul ip).modemUlSet = false → (ip = .v6 → p.1.numDftRtV6 = 1) →
      Installs D cfg (sh.getExtProp ip) ip) {ip' : IpType} (hip' : ip' ≠ .max) :
    Kept cfg.ipaIfNum (wanUp D cfg sh ip isSta x p) ip' := by
  unfold wanUp
  cases isSta with
  | false =>
    rw [if_pos rfl]
    cases hq : writeQmapid D cfg ip with
    | false =>
      have hnot : (p.1.handleWanUpEx D cfg sh (sh.getExtProp ip) ip x p.2).2 = p := by
        unfold handleWanUpEx
        rw [if_pos hq]
      rw [hnot]
      exact h ip' hip'
    | true =>
      rw [handleWanUpEx_eq hq]
      split
      next hc => exact installUplink_kept hip h hc.2.1 (hi rfl hq hc.2.1 hc.2.2) hip'
      next => exact h ip' hip'
  | true =>
    rw [if_neg (by simp)]
    refine (h ip' hip').of_same ?_ ?_
    · exact handleWanUp_fields ip (fun f => f.ul ip' = p.1.ul ip') rfl (fun _ => by cases ip' <;> rfl) fun _ => by cases ip' <;> rfl
    · exact (handleWanUp_adds ip).view _ fun u hu => ofUse_blind (by rw [List.mem_singleton.1 hu]; decide)

theorem wanDownModem_kept (hb : Base p) (hip : ip ≠ .max) (h : ∀ ip', ip' ≠ .max → Kept cfg.ipaIfNum p ip')
    (hd : DeletesWhole D ip (p.1.ul ip).numWanUlFlRule) {ip' : IpType} (hip' : ip' ≠ .max) :
    Kept cfg.ipaIfNum (p.1.wanDownModem D cfg sh ip p.2).2 ip' := by
  have hk := h ip hip
  have hwhole : (∀ i < (p.1.ul ip).numWanUlFlRule, D.fails (.delFlt .wanUl ip i) = false) →
      Kept cfg.ipaIfNum (p.1.wanDownModem D cfg sh ip p.2).2 ip' := by
    intro hok
    obtain ⟨hother, hul, hview, -⟩ := @wanDownModem_spec _ _ sh _ _ hb hip hk.hdls hk.le hok
    by_cases he : ip' = ip
    · subst he
      exact ⟨by rw [hul, hview]; rfl, by rw [hul]; exact iff_of_false (by simp) (by simp), by rw [hul]; exact Nat.zero_le _⟩
    · exact (h ip' hip').of_same (hother.ul ip' he hip') (hother.modem ip' he hip')
  rcases hd with hok | hfirst
  · exact hwhole hok
  · -- the first handle is that of a rule, so its deletion fails, unless there is none
    cases hl : (List.range (p.1.ul ip).numWanUlFlRule).map (p.1.ul ip).wanUlFlRuleHdl with
    | nil =>
      have h0 : (p.1.ul ip).numWanUlFlRule = 0 := by simpa using hl
      exact hwhole fun i hi => by rw [h0] at hi; exact absurd hi (Nat.not_lt_zero i)
    | cons k l =>
      have hne : k ≠ 0 := by
        have hm : k ∈ (modemView cfg.ipaIfNum p ip).map Prod.fst := by rw [← hk.hdls, hl]; exact List.mem_cons_self ..
        obtain ⟨y, hy, rfl⟩ := List.mem_map.1 hm
        exact fun he => hb.sound.ne_zero (he ▸ List.mem_map_of_mem (List.mem_filter.1 hy).1)
      have hnot : (p.1.wanDownModem D cfg sh ip p.2).2 = p := by
        unfold wanDownModem
        dsimp only
        rw [if_neg (by have := hk.le; omega), hl, LanOut.deleteFilteringHdls_of_first hne hfirst]
      rw [hnot]
      exact h ip' hip'

/-- The deletion of a rule that is no modem's rule. -/
theorem wanDownSta_kept (h : ∀ ip', ip' ≠ .max → Kept cfg.ipaIfNum p ip') {hdl : Nat}
    (hdl' : ∀ ip' r, (hdl, r) ∉ modemView cfg.ipaIfNum p ip') {ip' : IpType} (hip' : ip' ≠ .max) :
    Kept cfg.ipaIfNum (p.1.wanDownSta D cfg ip hdl p.2).2 ip' := by
  refine (h ip' hip').of_same (by rw [wanDownSta_fst]) ?_
  unfold modemView
  rw [wanDownSta_flt]
  exact LanOut.deleteFilteringHdls_view fun k hk => by rw [List.mem_singleton.1 hk]; exact hdl' ip'

theorem wanDown_kept (hb : Base p) (hip : ip ≠ .max) (h : ∀ ip', ip' ≠ .max → Kept cfg.ipaIfNum p ip') (isSta : Bool)
    (hpre : ip = .v6 → ∀ ip' r, (p.1.ipv6PrefixFltRuleHdl, r) ∉ modemView cfg.ipaIfNum p ip')
    (hd : if isSta then ∀ ip' r, (p.1.lanWanHdl ip, r) ∉ modemView cfg.ipaIfNum p ip'
      else DeletesWhole D ip (p.1.ul ip).numWanUlFlRule) {ip' : IpType} (hip' : ip' ≠ .max) :
    Kept cfg.ipaIfNum (wanDown D cfg sh ip isSta p) ip' := by
  cases ip with
  | v4 =>
    unfold wanDown handleWanDown
    cases isSta with
    | false => exact wanDownModem_kept hb hip h hd hip'
    | true => exact wanDownSta_kept h hd hip'
  | v6 =>
    have hview : ∀ ip', modemView cfg.ipaIfNum ({ p.1 with ipv6Prefix := 0 }, p.1.deleteIpv6PrefixFltRule D cfg p.2) ip' =
        modemView cfg.ipaIfNum p ip' := fun ip' => deleteIpv6PrefixFltRule_view (hpre rfl ip')
    have hb' : Base ({ p.1 with ipv6Prefix := 0 }, p.1.deleteIpv6PrefixFltRule D cfg p.2) :=
      hb.of_addrs (deleteIpv6PrefixFltRule_sound hb.sound) rfl rfl
    have h' : ∀ ip', ip' ≠ .max → Kept cfg.ipaIfNum ({ p.1 with ipv6Prefix := 0 }, p.1.deleteIpv6PrefixFltRule D cfg p.2) ip' :=
      fun ip' hip' => (h ip' hip').of_same (by cases ip' <;> rfl) (hview ip')
    unfold wanDown handleWanDownV6
    cases isSta with
    | false =>
      dsimp only
      rw [if_pos rfl]
      split
      · exact h' ip' hip'
      · have hd' : DeletesWhole D .v6 (p.1.ul .v6).numWanUlFlRule := hd
        exact @wanDownModem_kept _ _ _ _ .v6 hb' (by decide) h' hd' _ hip'
    | true =>
      dsimp only
      rw [if_neg (by simp)]
      exact wanDownSta_kept h' (fun ip' r => by rw [hview]; exact hd ip' r) hip'
  | max => exact absurd rfl hip

/-! ## One set -/

/-- What is installed for a family is the set of its backhaul. -/
structure Holds (n : Nat) (p : Lan × LanOut) (ip : IpType) (g : Backhaul) : Prop where
  modem : (modemView n p ip).map (fun x => x.2.rule) = g.modemSet
  sta : (staView n p ip).map (fun x => (x.1, x.2.rule)) = g.staSet.map fun rule => (p.1.lanWanHdl ip, rule)
  ne_nil : ∀ rules, g = .modem rules → rules ≠ []

theorem Holds.of_same {n : Nat} {g : Backhaul} (h : Holds n p ip g) (hm : modemView n p' ip = modemView n p ip)
    (hs : staView n p' ip = staView n p ip) (hh : p'.1.lanWanHdl ip = p.1.lanWanHdl ip) : Holds n p' ip g :=
  ⟨by rw [hm]; exact h.modem, by rw [hs, hh]; exact h.sta, h.ne_nil⟩

theorem Holds.quiet {n : Nat} {g : Backhaul} (h : Holds n p ip g) (hq : Quiet p p') : Holds n p' ip g :=
  h.of_same (hq.modemView n ip) (hq.staView n ip) (hq.lanWanHdl ip)

theorem Holds.flag {n : Nat} {g : Backhaul} (h : Holds n p ip g) (hk : Kept n p ip) :
    (p.1.ul ip).modemUlSet = true ↔ ∃ rules, g = .modem rules := by
  have hlen : (p.1.ul ip).numWanUlFlRule = ((modemView n p ip).map fun x => x.2.rule).length := by
    have := congrArg List.length hk.hdls
    simpa using this
  rw [hk.set, hlen, h.modem, List.length_pos_iff]
  cases g with
  | down => exact iff_of_false (fun hc => hc rfl) (by rintro ⟨_, hc⟩; cases hc)
  | modem rules => exact iff_of_true (h.ne_nil rules rfl) ⟨rules, rfl⟩
  | sta rule => exact iff_of_false (fun hc => hc rfl) (by rintro ⟨_, hc⟩; cases hc)

theorem installUplink_holds {rx : RxProps} (hip : ip ≠ .max) (hrx : cfg.rxProp = some rx) {g : IpType → Backhaul}
    (h : ∀ ip', ip' ≠ .max → Holds cfg.ipaIfNum p ip' (g ip')) (hg : g ip = .down) (hi : Installs D cfg (sh.getExtProp ip) ip)
    {ip' : IpType} (hip' : ip' ≠ .max) :
    Holds cfg.ipaIfNum (p.1.installUplink D cfg sh (sh.getExtProp ip) ip x p.2).2 ip'
      (Function.update g ip (.modem (uplinkRules rx cfg.ipaIfCate sh (sh.getExtProp ip) ip x)) ip') := by
  obtain ⟨hs, hlen, hother, -, -, -, hview⟩ := installUplink_spec (p := p) (x := x) hip hrx hi
  obtain ⟨hsta, hhdl⟩ := @installUplink_sta D cfg sh p ip x (sh.getExtProp ip) cfg.ipaIfNum ip'
  by_cases he : ip' = ip
  · subst he
    rw [Function.update_self]
    refine ⟨?_, ?_, fun rules hr => ?_⟩
    · have hnil : modemView cfg.ipaIfNum p ip' = [] := by
        have := (h ip' hip).modem
        rw [hg] at this
        exact List.map_eq_nil_iff.1 this
      rw [hview, hnil, List.nil_append, show (fun y : Nat × FltSlot => y.2.rule) = FltSlot.rule ∘ Prod.snd from rfl,
        ← List.map_map, List.map_snd_zip (by rw [List.length_map, uplinkRules, List.length_map, hlen]), List.map_map]
      exact List.map_id _
    · rw [hsta]
      have := (h ip' hip).sta
      rw [hg] at this
      exact this
    · cases hr
      simpa [uplinkRules] using hi.ne_nil
  · rw [Function.update_of_ne he]
    exact (h ip' hip').of_same (hother.modem ip' he hip') hsta (congrFun hhdl ip')

theorem handleWanUp_holds {rx : RxProps} (hip : ip ≠ .max) (hrx : cfg.rxProp = some rx) (hD : D.Succeeds) {g : IpType → Backhaul}
    (h : ∀ ip', ip' ≠ .max → Holds cfg.ipaIfNum p ip' (g ip')) (hg : g ip = .down) {ip' : IpType} (hip' : ip' ≠ .max) :
    Holds cfg.ipaIfNum (p.1.handleWanUp D cfg sh ip p.2).2 ip' (Function.update g ip (.sta (lanWanRule sh ip)) ip') := by
  obtain ⟨hhdl, -, hlive⟩ := @handleWanUp_spec _ _ sh p _ _ hip hrx hD
  have hm : modemView cfg.ipaIfNum (p.1.handleWanUp D cfg sh ip p.2).2 ip' = modemView cfg.ipaIfNum p ip' :=
    (handleWanUp_adds ip).view _ fun u hu => ofUse_blind (by rw [List.mem_singleton.1 hu]; decide)
  by_cases he : ip' = ip
  · subst he
    rw [Function.update_self]
    have hsta := (h ip' hip).sta
    have hmodem := (h ip' hip).modem
    rw [hg] at hsta hmodem
    refine ⟨by rw [hm]; exact hmodem, ?_, fun rules hr => by cases hr⟩
    unfold staView
    rw [Ledger.view_append hlive (ofUse_slot rx _ _ _), List.map_append, show (p.2.flt.view _).map _ = _ from hsta]
    rfl
  · rw [Function.update_of_ne he]
    refine (h ip' hip').of_same hm ?_ (hhdl ip' he hip')
    exact Ledger.view_append_of_not hlive fun r hr => ofUse_of_ne he (ofUse_slot rx _ _ _ r hr)

theorem wanDownModem_holds (hb : Base p) (hip : ip ≠ .max) (hk : Kept cfg.ipaIfNum p ip) (hD : D.Succeeds) {g : IpType → Backhaul}
    (h : ∀ ip', ip' ≠ .max → Holds cfg.ipaIfNum p ip' (g ip')) (hg : ∀ rule, g ip ≠ .sta rule) {ip' : IpType} (hip' : ip' ≠ .max) :
    Holds cfg.ipaIfNum (p.1.wanDownModem D cfg sh ip p.2).2 ip' (Function.update g ip .down ip') := by
  obtain ⟨hother, -, hview, hsta, hhdl⟩ := @wanDownModem_spec _ _ sh _ _ hb hip hk.hdls hk.le fun i _ => hD.fails _
  by_cases he : ip' = ip
  · subst he
    rw [Function.update_self]
    refine ⟨by rw [hview]; rfl, ?_, fun rules hr => by cases hr⟩
    rw [hsta, (h ip' hip).sta]
    cases hg' : g ip' with
    | down => rfl
    | modem rules => rfl
    | sta rule => exact absurd hg' (hg rule)
  · rw [Function.update_of_ne he]
    exact (h ip' hip').of_same (hother.modem ip' he hip') (hsta ip') (congrFun hhdl ip')

/-- The deletion of the rule of `handle_wan_up`, or of no uplink rule at all. -/
theorem wanDownSta_holds (hb : Base p) (hip : ip ≠ .max) (hD : D.Succeeds) {g : IpType → Backhaul}
    (h : ∀ ip', ip' ≠ .max → Holds cfg.ipaIfNum p ip' (g ip')) (hg : ∀ rules, g ip ≠ .modem rules)
    (hm : ∀ ip' r, (p.1.lanWanHdl ip, r) ∉ modemView cfg.ipaIfNum p ip')
    (hs : ∀ ip', ip' ≠ ip → ∀ r, (p.1.lanWanHdl ip, r) ∉ staView cfg.ipaIfNum p ip') {ip' : IpType} (hip' : ip' ≠ .max) :
    Holds cfg.ipaIfNum (p.1.wanDownSta D cfg ip (p.1.lanWanHdl ip) p.2).2 ip' (Function.update g ip .down ip') := by
  have hmodem : modemView cfg.ipaIfNum (p.1.wanDownSta D cfg ip (p.1.lanWanHdl ip) p.2).2 ip' = modemView cfg.ipaIfNum p ip' := by
    unfold modemView
    rw [wanDownSta_flt]
    exact LanOut.deleteFilteringHdls_view fun k hk => by rw [List.mem_singleton.1 hk]; exact hm ip'
  by_cases he : ip' = ip
  · subst he
    rw [Function.update_self]
    have hlive := (@LanOut.deleteFilteringHdls_of_ok D _ hb.sound.ne_zero .lanWan ip' [p.1.lanWanHdl ip']
      fun i _ => hD.fails _).2
    have hsta : staView cfg.ipaIfNum (p.1.wanDownSta D cfg ip' (p.1.lanWanHdl ip') p.2).2 ip' =
        (staView cfg.ipaIfNum p ip').filter fun x => x.1 ≠ p.1.lanWanHdl ip' := by
      unfold staView Ledger.view
      rw [wanDownSta_flt, hlive, List.filter_filter, List.filter_filter]
      refine List.filter_congr fun x _ => ?_
      rw [Bool.and_comm]
      simp
    have hold := (h ip' hip).sta
    refine ⟨?_, ?_, fun rules hr => by cases hr⟩
    · rw [hmodem, (h ip' hip).modem]
      cases hg' : g ip' with
      | down => rfl
      | modem rules => exact absurd hg' (hg rules)
      | sta rule => rfl
    · rw [hsta]
      have hall : ∀ x ∈ staView cfg.ipaIfNum p ip', x.1 = p.1.lanWanHdl ip' := by
        intro x hx
        have hmem : (x.1, x.2.rule) ∈ (staView cfg.ipaIfNum p ip').map fun x => (x.1, x.2.rule) := List.mem_map_of_mem hx
        rw [hold] at hmem
        cases hg' : g ip' with
        | down => rw [hg'] at hmem; cases hmem
        | modem rules => rw [hg'] at hmem; cases hmem
        | sta rule =>
          rw [hg'] at hmem
          exact congrArg Prod.fst (List.mem_singleton.1 hmem)
      rw [List.filter_eq_nil_iff.2 fun x hx => by simp [hall x hx]]
      rfl
  · rw [Function.update_of_ne he]
    refine (h ip' hip').of_same hmodem ?_ (by rw [wanDownSta_fst])
    unfold staView
    rw [wanDownSta_flt]
    exact LanOut.deleteFilteringHdls_view fun k hk => by rw [List.mem_singleton.1 hk]; exact hs ip' he

theorem wanUp_holds {rx : RxProps} (hip : ip ≠ .max) (hrx : cfg.rxProp = some rx) (hD : D.Succeeds) {g : IpType → Backhaul}
    (hk : ∀ ip', ip' ≠ .max → Kept cfg.ipaIfNum p ip') (h : ∀ ip', ip' ≠ .max → Holds cfg.ipaIfNum p ip' (g ip')) {isSta : Bool}
    (hop : if isSta then g ip = .down else match g ip with
      | .down => Installable (sh.getExtProp ip) ∧ (ip = .v6 → p.1.numDftRtV6 = 1)
      | .modem _ => True
      | .sta _ => False) {ip' : IpType} (hip' : ip' ≠ .max) :
    Holds cfg.ipaIfNum (wanUp D cfg sh ip isSta x p) ip' (Backhaul.next cfg sh g (.up ip isSta x p.1.numDftRtV6) ip') := by
  unfold wanUp
  cases isSta with
  | true =>
    rw [if_neg (by simp), Backhaul.next_sta]
    exact handleWanUp_holds hip hrx hD h hop hip'
  | false =>
    have hq : writeQmapid D cfg ip = true := by
      unfold writeQmapid
      rw [hrx]
      simp [hD.fails]
    rw [if_pos rfl, handleWanUpEx_eq hq]
    have hflag := (h ip hip).flag (hk ip hip)
    cases hg : g ip with
    | down =>
      rw [if_neg (by simp), hg] at hop
      have hset : (p.1.ul ip).modemUlSet = false := by
        rw [← Bool.not_eq_true, hflag, hg]
        rintro ⟨_, hc⟩
        cases hc
      rw [if_pos ⟨hip, hset, hop.2⟩, Backhaul.next_modem hrx hg]
      exact installUplink_holds hip hrx h hg ⟨by simp [hrx], hop.1.1, hop.1.2, hD.fails _, hD.fails _, hD.refuses _⟩ hip'
    | modem rules =>
      have hset := hflag.2 ⟨rules, hg⟩
      rw [if_neg (by simp [hset]), Backhaul.next_again hg]
      exact h ip' hip'
    | sta rule =>
      rw [if_neg (by simp), hg] at hop
      exact hop.elim

theorem wanDown_holds (hb : Base p) (hip : ip ≠ .max) (hD : D.Succeeds) {g : IpType → Backhaul}
    (hk : ∀ ip', ip' ≠ .max → Kept cfg.ipaIfNum p ip') (h : ∀ ip', ip' ≠ .max → Holds cfg.ipaIfNum p ip' (g ip')) {isSta : Bool}
    (hpre : ip = .v6 → ∀ ip' r, (p.1.ipv6PrefixFltRuleHdl, r) ∉ modemView cfg.ipaIfNum p ip' ∧
      (p.1.ipv6PrefixFltRuleHdl, r) ∉ staView cfg.ipaIfNum p ip')
    (hop : if isSta then (∀ rules, g ip ≠ .modem rules) ∧ (∀ ip' r, (p.1.lanWanHdl ip, r) ∉ modemView cfg.ipaIfNum p ip') ∧
        ∀ ip', ip' ≠ ip → ∀ r, (p.1.lanWanHdl ip, r) ∉ staView cfg.ipaIfNum p ip'
      else ∀ rule, g ip ≠ .sta rule) {ip' : IpType} (hip' : ip' ≠ .max) :
    Holds cfg.ipaIfNum (wanDown D cfg sh ip isSta p) ip' (Function.update g ip .down ip') := by
  cases ip with
  | v4 =>
    unfold wanDown handleWanDown
    cases isSta with
    | false => exact wanDownModem_holds hb hip (hk .v4 hip) hD h hop hip'
    | true => exact @wanDownSta_holds _ _ _ .v4 hb hip hD _ h hop.1 hop.2.1 hop.2.2 _ hip'
  | v6 =>
    have hview : ∀ ip', modemView cfg.ipaIfNum ({ p.1 with ipv6Prefix := 0 }, p.1.deleteIpv6PrefixFltRule D cfg p.2) ip' =
        modemView cfg.ipaIfNum p ip' := fun ip' => deleteIpv6PrefixFltRule_view fun r => (hpre rfl ip' r).1
    have hview' : ∀ ip', staView cfg.ipaIfNum ({ p.1 with ipv6Prefix := 0 }, p.1.deleteIpv6PrefixFltRule D cfg p.2) ip' =
        staView cfg.ipaIfNum p ip' := fun ip' => deleteIpv6PrefixFltRule_view fun r => (hpre rfl ip' r).2
    have hb' : Base ({ p.1 with ipv6Prefix := 0 }, p.1.deleteIpv6PrefixFltRule D cfg p.2) :=
      hb.of_addrs (deleteIpv6PrefixFltRule_sound hb.sound) rfl rfl
    have hk' : ∀ ip', ip' ≠ .max → Kept cfg.ipaIfNum ({ p.1 with ipv6Prefix := 0 }, p.1.deleteIpv6PrefixFltRule D cfg p.2) ip' :=
      fun ip' hip' => (hk ip' hip').of_same (by cases ip' <;> rfl) (hview ip')
    have h' : ∀ ip', ip' ≠ .max →
        Holds cfg.ipaIfNum ({ p.1 with ipv6Prefix := 0 }, p.1.deleteIpv6PrefixFltRule D cfg p.2) ip' (g ip') :=
      fun ip' hip' => (h ip' hip').of_same (hview ip') (hview' ip') (by cases ip' <;> rfl)
    unfold wanDown handleWanDownV6
    cases isSta with
    | false =>
      rw [if_neg (by simp)] at hop
      dsimp only
      rw [if_pos rfl]
      split
      next hnum =>
        -- without a rule there was none to delete, and the function fails
        have hdown : g .v6 = .down := by
          have hflag := (h .v6 hip).flag (hk .v6 hip)
          rw [(hk .v6 hip).set] at hflag
          cases hg : g .v6 with
          | down => rfl
          | modem rules =>
            have := hflag.2 ⟨rules, hg⟩
            rw [show (p.1.ul .v6).numWanUlFlRule = 0 from hnum] at this
            cases this
          | sta rule => exact absurd hg (hop rule)
        rw [← hdown, Function.update_eq_self]
        exact h' ip' hip'
      next => exact @wanDownModem_holds _ _ _ _ .v6 hb' (by decide) (hk' .v6 hip) hD _ h' hop _ hip'
    | true =>
      rw [if_pos rfl] at hop
      dsimp only
      rw [if_neg (by simp)]
      exact @wanDownSta_holds _ _ _ .v6 hb' (by decide) hD _ h' hop.1 (fun ip' r => by rw [hview]; exact hop.2.1 ip' r)
        (fun ip' hne r => by rw [hview']; exact hop.2.2 ip' hne r) _ hip'
  | max => exact absurd rfl hip

/-- The handle of the rule of `handle_wan_up` is that of no other uplink rule. -/
theorem Holds.unique {n : Nat} {rule : FltRule} (hb : Base p) (h : Holds n p ip (.sta rule)) :
    (∀ ip' r, (p.1.lanWanHdl ip, r) ∉ modemView n p ip') ∧ ∀ ip', ip' ≠ ip → ∀ r, (p.1.lanWanHdl ip, r) ∉ staView n p ip' := by
  have hm : (p.1.lanWanHdl ip, rule) ∈ (staView n p ip).map fun x => (x.1, x.2.rule) := by
    rw [h.sta]
    exact List.mem_singleton_self _
  obtain ⟨y, hy, he⟩ := List.mem_map.1 hm
  obtain ⟨hylive, hyof⟩ := List.mem_filter.1 hy
  have hsame : ∀ r, (p.1.lanWanHdl ip, r) ∈ p.2.flt.live → r = y.2 := fun r hr =>
    congrArg Prod.snd (Ledger.live_unique hb.sound.nodup hr hylive (congrArg Prod.fst he).symm)
  refine ⟨fun ip' r hr => ?_, fun ip' hne r hr => ?_⟩
  · obtain ⟨hr, hof⟩ := List.mem_filter.1 hr
    rw [hsame r hr] at hof
    simp only [ofUse, Bool.decide_and, Bool.and_eq_true, decide_eq_true_eq] at hof hyof
    rw [hyof.2.1] at hof
    cases hof.2.1
  · obtain ⟨hr, hof⟩ := List.mem_filter.1 hr
    rw [hsame r hr, ofUse_of_ne hne hyof] at hof
    cases hof

end Specs

end Lan

end HiaeCommon
