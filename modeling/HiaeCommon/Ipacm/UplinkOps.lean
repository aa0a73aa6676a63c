/-
What an event is for the uplink rules of an interface: a WAN-up or a WAN-down
of one family (`Lan.wanOp`), or nothing. `eventCallback_spec` says so for every
state and every driver; what the two do to the rules is proved elsewhere.
-/
import HiaeCommon.Ipacm.UplinkRuns

namespace HiaeCommon

open Lib (Handles Ledger untilFailure)

/-- A WAN-up, with the mux id its handler passes on and the number of IPv6 addresses, or a WAN-down. -/
inductive WanOp
  | up (ip : IpType) (isSta : Bool) (x : BitVec 8) (numDftRtV6 : Nat)
  | down (ip : IpType) (isSta : Bool)
  deriving DecidableEq, Repr

def WanOp.ip : WanOp → IpType
  | .up ip .. => ip
  | .down ip _ => ip

/-- The addresses, and the WAN interfaces' messages. -/
def LanEvt.isUplink : LanEvt → Bool
  | .addrAdd _ | .wanUpTether .. | .wanUpV6Tether .. | .wanDownTether .. | .wanDownV6Tether .. => true
  | _ => false

namespace Lan

section Defs

variable (D : LanDriver) (cfg : LanConf) (sh : LanShared)

/-- The handle of the rule of `handle_wan_up`. -/
def lanWanHdl (f : Lan) : IpType → Nat
  | .v4 => f.lanWanFlRuleHdl
  | _ => f.dftV6flRuleHdl ipv6DefaultFiltertingRules

/-- `handle_addr_evt` succeeds. -/
def setsUp (f : Lan) (a : LanAddr) : Bool :=
  match a.iptype with
  | .v4 => !D.fails (.addRt .lanV4)
  | _ => !f.hasIpv6Addr a.ipv6Addr && (!D.fails (.addRt .v6) && !D.fails (.addRt .wanV6))

/-- The WAN-up or WAN-down that an event is for the interface. An address is one if it is set up while the WAN interface is
up, for IPv6 the first. -/
def wanOp (f : Lan) : LanEvt → Option WanOp
  | .addrAdd a =>
    if a.IsOf cfg ∧ f.acceptsAddr a = true ∧ f.setsUp D a = true then
      match a.iptype with
      | .v4 => if sh.isWanUP cfg.ipaIfNum = true then some (.up .v4 sh.backhaulIsStaMode (addrMux sh .v4) f.numDftRtV6) else none
      | _ =>
        if sh.isWanUPV6 cfg.ipaIfNum = true ∧ f.numDftRtV6 = 0 then some (.up .v6 sh.backhaulIsStaMode (addrMux sh .v6) 1) else none
    else none
  | .wanUpTether i isSta => if i = cfg.ipaIfNum ∧ f.hasFamily .v4 = true then some (.up .v4 isSta 0 f.numDftRtV6) else none
  | .wanUpV6Tether i isSta _ => if i = cfg.ipaIfNum ∧ f.hasFamily .v6 = true then some (.up .v6 isSta 0 f.numDftRtV6) else none
  | .wanDownTether i isSta => if i = cfg.ipaIfNum ∧ f.hasFamily .v4 = true then some (.down .v4 isSta) else none
  | .wanDownV6Tether i isSta => if i = cfg.ipaIfNum ∧ f.hasFamily .v6 = true then some (.down .v6 isSta) else none
  | _ => none

/-- The uplink part of a WAN-up. -/
def wanUp (ip : IpType) (isSta : Bool) (x : BitVec 8) (s : Lan × LanOut) : Lan × LanOut :=
  if isSta = false then (s.1.handleWanUpEx D cfg sh (sh.getExtProp ip) ip x s.2).2 else (s.1.handleWanUp D cfg sh ip s.2).2

/-- A WAN-down that is handled. -/
def wanDown (ip : IpType) (isSta : Bool) (s : Lan × LanOut) : Lan × LanOut :=
  match ip with
  | .v4 => (s.1.handleWanDown D cfg sh isSta s.2).2
  | _ => (s.1.handleWanDownV6 D cfg sh isSta s.2).2

end Defs

/-- An access point ignores the WAN-down of a modem for IPv4 if it is not the first, and any without rx properties. -/
def ignoresDown (cfg : LanConf) (ip : IpType) (isSta : Bool) : Prop :=
  cfg.ipaIfCate = .wlanIf ∧ (ip = .v4 ∧ isSta = false ∧ cfg.wlanApIndex > 0 ∨ cfg.rxProp = none)

instance (cfg : LanConf) (ip : IpType) (isSta : Bool) : Decidable (ignoresDown cfg ip isSta) := inferInstanceAs (Decidable (_ ∧ _))

/-- What holds of an interface whatever the driver does. -/
structure Base (s : Lan × LanOut) : Prop where
  sound : s.2.Sound
  active : s.1.isActive = true
  privateFl : s.1.hasFamily .v4 = false → ∀ i < ipaMaxPrivateSubnetEntries, s.1.privateFlRuleHdl i = 0

/-- What is not about uplink rules. -/
def quietUses : List FltUse := [.dft, .icmp, .privateSubnet, .ipv6Prefix, .softwareRouting]

/-- Neither the uplink rules nor the fields they are in change. -/
structure Quiet (s s' : Lan × LanOut) : Prop where
  ul : ∀ ip, s'.1.ul ip = s.1.ul ip
  lanWanHdl : ∀ ip, s'.1.lanWanHdl ip = s.1.lanWanHdl ip
  adds : LanOut.Adds quietUses s.2 s'.2

namespace Quiet

variable {s s' s'' : Lan × LanOut}

theorem refl (s : Lan × LanOut) : Quiet s s := ⟨fun _ => rfl, fun _ => rfl, .refl _⟩

theorem trans (h : Quiet s s') (h' : Quiet s' s'') : Quiet s s'' :=
  ⟨fun ip => (h'.ul ip).trans (h.ul ip), fun ip => (h'.lanWanHdl ip).trans (h.lanWanHdl ip), h.adds.trans h'.adds⟩

theorem of_wan {uses : List FltUse} (hw : s'.1.wan = s.1.wan) (ha : LanOut.Adds uses s.2 s'.2) (hu : uses ⊆ quietUses) : Quiet s s' := by
  refine ⟨fun ip => ?_, fun ip => ?_, ha.weaken hu⟩
  · cases ip with
    | v4 => exact congrArg LanWan.ulV4 hw
    | v6 => exact congrArg LanWan.ulV6 hw
    | max => exact congrArg LanWan.ulV6 hw
  · cases ip with
    | v4 => exact congrArg LanWan.lanWanFlRuleHdl hw
    | v6 => exact congrArg LanWan.lanWanV6FlRuleHdl hw
    | max => exact congrArg LanWan.lanWanV6FlRuleHdl hw

/-- The rules of a kind that is not quiet are as they were. -/
theorem view (h : Quiet s s') {use : FltUse} (hu : use ∉ quietUses) (n : Nat) (ip : IpType) :
    s'.2.flt.view (ofUse n use ip) = s.2.flt.view (ofUse n use ip) :=
  h.adds.view _ fun _ hu' => ofUse_blind (by rintro rfl; exact hu hu')

end Quiet

namespace Base

variable {s s' : Lan × LanOut}

theorem of_addrs (h : Base s) (hs : s'.2.Sound) (hactive : s'.1.isActive = s.1.isActive) (haddrs : s'.1.addrs = s.1.addrs) :
    Base s' := by
  refine ⟨hs, hactive.trans h.active, fun hf i hi => ?_⟩
  have htype : s'.1.ipType = s.1.ipType := congrArg LanAddrs.ipType haddrs
  refine (congrFun (congrArg LanAddrs.privateFlRuleHdl haddrs) i).trans (h.privateFl ?_ i hi)
  rw [← hf, hasFamily, hasFamily, htype]

theorem of_core (h : Base s) (hs : s'.2.Sound) (hc : s'.1.core = s.1.core) : Base s' :=
  h.of_addrs hs (congrArg Prod.fst hc) (congrArg (fun c => c.2.2) hc)

end Base

/-! ## The handlers -/

section Handlers

variable {D : LanDriver} {cfg : LanConf} {sh : LanShared} {f : Lan} {o : LanOut}

theorem handleWanUp_adds (ip : IpType) : LanOut.Adds [.lanWan] o (f.handleWanUp D cfg sh ip o).2.2 := by
  unfold handleWanUp
  cases cfg.rxProp with
  | none => exact .refl o
  | some rx =>
    cases ip with
    | v4 =>
      dsimp only
      split
      · exact .refl o
      · exact addOne_adds ..
    | v6 =>
      dsimp only
      split
      · exact .refl o
      · exact addOne_adds ..
    | max => exact .refl o

/-- `handle_wan_up` records a handle, and that is all it does to the interface. -/
theorem handleWanUp_fields (ip : IpType) (P : Lan → Prop) (hf : P f) (h4 : ∀ h, P { f with lanWanFlRuleHdl := h })
    (h6 : ∀ h, P { f with dftV6flRuleHdl := fun i => if i = ipv6DefaultFiltertingRules then h else f.dftV6flRuleHdl i }) :
    P (f.handleWanUp D cfg sh ip o).2.1 := by
  unfold handleWanUp
  cases cfg.rxProp with
  | none => exact hf
  | some rx =>
    cases ip with
    | v4 =>
      dsimp only
      split
      · exact hf
      · exact addOne_fst P .lanWan .v4 (lanWanRule sh .v4) rx hf h4
    | v6 =>
      dsimp only
      split
      · exact hf
      · exact addOne_fst P .lanWan .v6 (lanWanRule sh .v6) rx hf h6
    | max => exact hf

@[simp] theorem decreaseFltRuleCount_flt (ip : IpType) (n : Nat) : (decreaseFltRuleCount cfg ip n o).flt = o.flt := by
  unfold decreaseFltRuleCount
  cases cfg.rxProp with
  | none => rfl
  | some rx => exact LanOut.addFltRuleCount_flt ..

theorem wanDownModem_base {s : Lan × LanOut} (h : Base s) (ip : IpType) : Base (s.1.wanDownModem D cfg sh ip s.2).2 := by
  unfold wanDownModem
  dsimp only
  split
  · exact h
  have hs := h.sound.deleteFilteringHdls (D := D) .wanUl ip ((List.range (s.1.ul ip).numWanUlFlRule).map (s.1.ul ip).wanUlFlRuleHdl)
  split
  next he =>
    rw [he] at hs
    exact h.of_addrs hs rfl rfl
  next o' he =>
    rw [he] at hs
    split
    · exact h.of_addrs (hs.of_flt (by simp)) (setUl_isActive ..) (setUl_addrs ..)
    · exact h.of_addrs (hs.of_flt (by simp)) (setUl_isActive ..) (setUl_addrs ..)

theorem wanDownSta_base {s : Lan × LanOut} (h : Base s) (ip : IpType) (hdl : Nat) : Base (s.1.wanDownSta D cfg ip hdl s.2).2 := by
  unfold wanDownSta
  have hs := h.sound.deleteFilteringHdls (D := D) .lanWan ip [hdl]
  split
  next he =>
    rw [he] at hs
    exact h.of_addrs hs rfl rfl
  next he =>
    rw [he] at hs
    exact h.of_addrs (hs.of_flt (by simp)) rfl rfl

theorem deleteIpv6PrefixFltRule_sound (h : o.Sound) : (f.deleteIpv6PrefixFltRule D cfg o).Sound := by
  unfold deleteIpv6PrefixFltRule
  have hs := h.deleteFilteringHdls (D := D) .ipv6Prefix .v6 [f.ipv6PrefixFltRuleHdl]
  revert hs
  generalize o.deleteFilteringHdls D .ipv6Prefix .v6 [f.ipv6PrefixFltRuleHdl] = r
  intro hs
  dsimp only
  split
  · exact hs.of_flt (by simp)
  · exact hs

theorem wanUp_base {s : Lan × LanOut} (h : Base s) (ip : IpType) (isSta : Bool) (x : BitVec 8) : Base (wanUp D cfg sh ip isSta x s) := by
  unfold wanUp
  split
  · refine h.of_addrs ?_ handleWanUpEx_addrs.2 handleWanUpEx_addrs.1
    have hinst : (s.1.installUplink D cfg sh (sh.getExtProp ip) ip x s.2).2.2.Sound := handleUplinkFilterRule_adds.sound h.sound
    unfold handleWanUpEx
    split
    · exact h.sound
    split
    · exact hinst
    split
    · exact hinst
    · exact h.sound
  · exact h.of_addrs ((handleWanUp_adds ip).sound h.sound)
      (handleWanUp_fields ip (fun f => f.isActive = s.1.isActive) rfl (fun _ => rfl) fun _ => rfl)
      (handleWanUp_fields ip (fun f => f.addrs = s.1.addrs) rfl (fun _ => rfl) fun _ => rfl)

theorem wanDown_base {s : Lan × LanOut} (h : Base s) (ip : IpType) (isSta : Bool) : Base (wanDown D cfg sh ip isSta s) := by
  have h6 : Base (s.1.handleWanDownV6 D cfg sh isSta s.2).2 := by
    unfold handleWanDownV6
    have h' : Base ({ s.1 with ipv6Prefix := 0 }, s.1.deleteIpv6PrefixFltRule D cfg s.2) :=
      h.of_addrs (deleteIpv6PrefixFltRule_sound h.sound) rfl rfl
    dsimp only
    split
    · split
      · exact h'
      · exact wanDownModem_base h' .v6
    · exact wanDownSta_base h' .v6 _
  cases ip with
  | v4 =>
    unfold wanDown handleWanDown
    dsimp only
    split
    · exact wanDownModem_base h .v4
    · exact wanDownSta_base h .v4 _
  | v6 => exact h6
  | max => exact h6

end Handlers

/-! ## The events -/

section Events

variable (D : LanDriver) (cfg : LanConf) (sh : LanShared)

/-- What an event does, by what it is for the interface. -/
def EvtDoes (s s' : Lan × LanOut) : Option WanOp → Prop
  | none => Quiet s s'
  | some (.up ip isSta x num) =>
    ∃ s₁, Base s₁ ∧ Quiet s s₁ ∧ s₁.1.numDftRtV6 = num ∧ Quiet (wanUp D cfg sh ip isSta x s₁) s'
  | some (.down ip isSta) => s' = if ignoresDown cfg ip isSta then s else wanDown D cfg sh ip isSta s

variable {D cfg sh} {f : Lan} {o : LanOut}

theorem addrRules_base {s : Lan × LanOut} (h : Base s) {a : LanAddr} (hacc : s.1.acceptsAddr a = true) :
    let r := s.1.addrRules D cfg a s.2
    r.1 = s.1.setsUp D a ∧ Base r.2 ∧ Quiet s r.2 ∧
      r.2.1.numDftRtV6 = if a.iptype ≠ .v4 ∧ s.1.setsUp D a = true then s.1.numDftRtV6 + 1 else s.1.numDftRtV6 := by
  intro r
  obtain ⟨hok, hcore⟩ := @addrRules_spec D cfg s.1 s.2 a
  obtain ⟨hok', hcore'⟩ := @handleAddrEvt_spec D cfg s.1 s.2 a
  have hactive : r.2.1.isActive = s.1.isActive := congrArg Prod.fst hcore
  have htype : r.2.1.ipType = (s.1.handleAddrEvt D cfg a s.2).2.1.ipType := congrArg (fun c => c.2.2.ipType) hcore
  have hnum : r.2.1.numDftRtV6 = (s.1.handleAddrEvt D cfg a s.2).2.1.numDftRtV6 := congrArg (fun c => c.2.2.numDftRtV6) hcore
  have hpriv : a.iptype = .v4 → ∀ i < ipaMaxPrivateSubnetEntries, s.1.privateFlRuleHdl i = 0 := by
    intro hip
    refine h.privateFl ?_
    unfold acceptsAddr differs at hacc
    rw [hip] at hacc
    unfold hasFamily
    cases ht : s.1.ipType <;> simp_all
  have hadds := @addrRules_adds D cfg _ _ a h.sound hpriv
  refine ⟨hok.trans hok', ⟨hadds.sound h.sound, hactive.trans h.active, fun hf i hi => ?_⟩,
    .of_wan (congrArg (fun c => c.2.1) hcore) hadds (by decide), ?_⟩
  · cases hip : a.iptype with
    | v4 =>
      rw [hip] at hcore'
      have htype' : (s.1.handleAddrEvt D cfg a s.2).2.1.ipType = (s.1.configIpType .v4).ipType :=
        congrArg (fun c => c.2.2.ipType) hcore'
      have hhas : r.2.1.hasFamily .v4 = true := by
        unfold hasFamily
        rw [htype, htype', configIpType, if_pos rfl]
        cases s.1.ipType <;> rfl
      rw [hhas] at hf
      cases hf
    | v6 =>
      rw [hip] at hcore'
      have htype' : (s.1.handleAddrEvt D cfg a s.2).2.1.ipType = (s.1.configIpType .v6).ipType := by
        refine (congrArg (fun c => c.2.2.ipType) hcore').trans ?_
        dsimp only
        split <;> rfl
      rw [addrRules_private (by rw [hip]; decide)]
      refine h.privateFl ?_ i hi
      rw [← hf, hasFamily, hasFamily, htype, htype', configIpType, if_neg (by decide)]
      cases s.1.ipType <;> rfl
    | max => exact absurd hip a.family
  · rw [hnum]
    unfold setsUp
    cases hip : a.iptype with
    | v4 =>
      rw [hip] at hcore'
      rw [if_neg (by simp)]
      exact congrArg (fun c => c.2.2.numDftRtV6) hcore'
    | v6 =>
      rw [hip] at hcore'
      refine (congrArg (fun c => c.2.2.numDftRtV6) hcore').trans ?_
      dsimp only
      cases s.1.hasIpv6Addr a.ipv6Addr with
      | true => simp [addrs]
      | false => simp
    | max => exact absurd hip a.family

theorem installIpv6PrefixFltRule_quiet (p : BitVec 64) : Quiet (f, o) (f.installIpv6PrefixFltRule D cfg p o) := by
  have hcore := @installIpv6PrefixFltRule_wan D cfg f o p
  refine ⟨fun ip => ?_, fun ip => ?_, (installIpv6PrefixFltRule_adds p).weaken (by decide)⟩
  · cases ip with
    | v4 => exact congrArg (fun c => c.2.1.ulV4) hcore
    | v6 => exact congrArg (fun c => c.2.1.ulV6) hcore
    | max => exact congrArg (fun c => c.2.1.ulV6) hcore
  · cases ip with
    | v4 => exact congrArg (fun c => c.2.1.lanWanFlRuleHdl) hcore
    | v6 => exact congrArg (fun c => c.2.1.lanWanV6FlRuleHdl) hcore
    | max => exact congrArg (fun c => c.2.1.lanWanV6FlRuleHdl) hcore

theorem checkWanUp_v4 : f.checkWanUp D cfg sh .v4 o =
    if sh.isWanUP cfg.ipaIfNum = true then wanUp D cfg sh .v4 sh.backhaulIsStaMode (addrMux sh .v4) (f, o) else (f, o) := by
  unfold checkWanUp
  by_cases hup : sh.isWanUP cfg.ipaIfNum = true
  · rw [if_pos ⟨hup, .inl rfl⟩, if_pos hup]
    dsimp only
    rw [if_neg fun hc => by rcases hc.2.1 with hc | hc <;> cases hc]
    rfl
  · rw [if_neg fun hc => hup hc.1, if_neg hup]
    dsimp only
    rw [if_neg fun hc => by rcases hc.2.1 with hc | hc <;> cases hc]

theorem checkWanUp_v6 : f.checkWanUp D cfg sh .v6 o =
    if sh.isWanUPV6 cfg.ipaIfNum = true ∧ f.numDftRtV6 = 1 then
      wanUp D cfg sh .v6 sh.backhaulIsStaMode (addrMux sh .v6)
        (({ f with ipv6Prefix := sh.backhaulIpv6Prefix } : Lan).installIpv6PrefixFltRule D cfg sh.backhaulIpv6Prefix o)
    else (f, o) := by
  unfold checkWanUp
  rw [if_neg (by simp)]
  dsimp only
  by_cases hup : sh.isWanUPV6 cfg.ipaIfNum = true ∧ f.numDftRtV6 = 1
  · rw [if_pos ⟨hup.1, .inl rfl, hup.2⟩, if_pos hup]
    rfl
  · rw [if_neg fun hc => hup ⟨hc.1, hc.2.2⟩, if_neg hup]

/-- The prefix and its rule. -/
theorem withIpv6Prefix {s : Lan × LanOut} (h : Base s) (p : BitVec 64) :
    let s₁ := ({ s.1 with ipv6Prefix := p } : Lan).installIpv6PrefixFltRule D cfg p s.2
    Base s₁ ∧ Quiet s s₁ ∧ s₁.1.numDftRtV6 = s.1.numDftRtV6 := by
  intro s₁
  have hsame : Quiet s ({ s.1 with ipv6Prefix := p }, s.2) :=
    ⟨fun ip => by cases ip <;> rfl, fun ip => by cases ip <;> rfl, .refl _⟩
  have hq : Quiet s s₁ := hsame.trans (installIpv6PrefixFltRule_quiet p)
  have hcore := @installIpv6PrefixFltRule_wan D cfg { s.1 with ipv6Prefix := p } s.2 p
  exact ⟨h.of_addrs (hq.adds.sound h.sound) (congrArg Prod.fst hcore) (congrArg (fun c => c.2.2) hcore), hq,
    congrArg (fun c => c.2.2.numDftRtV6) hcore⟩

theorem wanOp_addrAdd {a : LanAddr} (hof : a.IsOf cfg) (hacc : f.acceptsAddr a = true) (hok : f.setsUp D a = true) :
    f.wanOp D cfg sh (.addrAdd a) = match a.iptype with
      | .v4 => if sh.isWanUP cfg.ipaIfNum = true then some (.up .v4 sh.backhaulIsStaMode (addrMux sh .v4) f.numDftRtV6) else none
      | _ =>
        if sh.isWanUPV6 cfg.ipaIfNum = true ∧ f.numDftRtV6 = 0 then some (.up .v6 sh.backhaulIsStaMode (addrMux sh .v6) 1) else none :=
  if_pos ⟨hof, hacc, hok⟩

theorem setUpAddr_does {s : Lan × LanOut} (h : Base s) {a : LanAddr} (hof : a.IsOf cfg) (hacc : s.1.acceptsAddr a = true) :
    Base (s.1.setUpAddr D cfg sh a s.2).2 ∧ EvtDoes D cfg sh s (s.1.setUpAddr D cfg sh a s.2).2 (s.1.wanOp D cfg sh (.addrAdd a)) := by
  obtain ⟨hok, hb, hq, hnum⟩ := @addrRules_base D cfg _ h _ hacc
  unfold setUpAddr
  revert hok hb hq hnum
  generalize s.1.addrRules D cfg a s.2 = r
  obtain ⟨ok, f₁, o₁⟩ := r
  intro hok hb hq hnum
  dsimp only at hok hb hq hnum
  cases ok with
  | false =>
    have hop : s.1.wanOp D cfg sh (.addrAdd a) = none := if_neg fun hc => by
      have := hok.trans hc.2.2
      cases this
    rw [hop]
    exact ⟨hb, hq⟩
  | true =>
    have hop := @wanOp_addrAdd D _ sh _ _ hof hacc hok.symm
    rw [hop]
    dsimp only
    cases hip : a.iptype with
    | v4 =>
      rw [hip, if_neg (by simp)] at hnum
      rw [checkWanUp_v4]
      dsimp only
      by_cases hup : sh.isWanUP cfg.ipaIfNum = true
      · rw [if_pos hup, if_pos hup]
        exact ⟨wanUp_base hb .v4 _ _, (f₁, o₁), hb, hq, hnum, .refl _⟩
      · rw [if_neg hup, if_neg hup]
        exact ⟨hb, hq⟩
    | v6 =>
      rw [hip, if_pos ⟨by decide, hok.symm⟩] at hnum
      rw [checkWanUp_v6]
      dsimp only
      by_cases hup : sh.isWanUPV6 cfg.ipaIfNum = true ∧ s.1.numDftRtV6 = 0
      · have hone : f₁.numDftRtV6 = 1 := by rw [hnum, hup.2]
        rw [if_pos ⟨hup.1, hone⟩, if_pos hup]
        obtain ⟨hb₁, hq₁, hnum₁⟩ := @withIpv6Prefix D cfg _ hb sh.backhaulIpv6Prefix
        exact ⟨wanUp_base hb₁ .v6 _ _, _, hb₁, hq.trans hq₁, hnum₁.trans hone, .refl _⟩
      · rw [if_neg fun hc => hup ⟨hc.1, by omega⟩, if_neg hup]
        exact ⟨hb, hq⟩
    | max => exact absurd hip a.family

theorem EvtDoes.then {s s' s'' : Lan × LanOut} {op : Option WanOp} (hup : ∀ ip isSta, op ≠ some (.down ip isSta))
    (h : EvtDoes D cfg sh s s' op) (hq : Quiet s' s'') : EvtDoes D cfg sh s s'' op := by
  match op, hup, h with
  | none, _, h => exact Quiet.trans h hq
  | some (.up ..), _, ⟨s₁, hb, hq₁, hnum, hq₂⟩ => exact ⟨s₁, hb, hq₁, hnum, hq₂.trans hq⟩
  | some (.down ip isSta), hup, _ => exact absurd rfl (hup ip isSta)

theorem EvtDoes.after {s₀ s s' : Lan × LanOut} {op : Option WanOp} (hup : ∀ ip isSta, op ≠ some (.down ip isSta))
    (hq : Quiet s₀ s) (h : EvtDoes D cfg sh s s' op) : EvtDoes D cfg sh s₀ s' op := by
  match op, hup, h with
  | none, _, h => exact hq.trans h
  | some (.up ..), _, ⟨s₁, hb, hq₁, hnum, hq₂⟩ => exact ⟨s₁, hb, hq.trans hq₁, hnum, hq₂⟩
  | some (.down ip isSta), hup, _ => exact absurd rfl (hup ip isSta)

/-- What an address comes to. -/
theorem addrAdd_does {s : Lan × LanOut} (h : Base s) (hc : cfg.ipaIfCate ≠ .oduIf) (a : LanAddr) :
    let s' := s.1.eventCallback D cfg sh (.addrAdd a) s.2
    Base s' ∧ EvtDoes D cfg sh s s' (s.1.wanOp D cfg sh (.addrAdd a)) := by
  intro s'
  by_cases hacc : a.IsOf cfg ∧ s.1.acceptsAddr a = true
  · obtain ⟨hof, hacc⟩ := hacc
    obtain ⟨o₀, hflt, hcore, hadds⟩ := @addrAdd_of_accepts D _ sh _ s.2 hc h.active _ hof hacc
    have hb₀ : Base (s.1, o₀) := ⟨h.sound.of_flt hflt, h.active, h.privateFl⟩
    have hq₀ : Quiet s (s.1, o₀) := ⟨fun _ => rfl, fun _ => rfl, .of_flt hflt⟩
    obtain ⟨hb, hdoes⟩ := @setUpAddr_does D _ sh _ hb₀ _ hof hacc
    have hnot : ∀ ip isSta, s.1.wanOp D cfg sh (.addrAdd a) ≠ some (.down ip isSta) := by
      intro ip isSta he
      by_cases hok : s.1.setsUp D a = true
      · rw [wanOp_addrAdd hof hacc hok] at he
        cases hip : a.iptype with
        | v4 =>
          rw [hip] at he
          dsimp only at he
          split at he <;> cases he
        | v6 =>
          rw [hip] at he
          dsimp only at he
          split at he <;> cases he
        | max => exact a.family hip
      · have hnone : s.1.wanOp D cfg sh (.addrAdd a) = none := if_neg fun hc => hok hc.2.2
        rw [hnone] at he
        cases he
    exact ⟨hb.of_core (hadds.sound hb.sound) hcore, (hdoes.after hnot hq₀).then hnot
      (.of_wan (congrArg (fun c => c.2.1) hcore) hadds (by decide))⟩
  · obtain ⟨hcore, hadds⟩ := @addrAdd_of_not D _ sh _ s.2 hc _ hacc
    have hnone : s.1.wanOp D cfg sh (.addrAdd a) = none := if_neg fun hc => hacc ⟨hc.1, hc.2.1⟩
    rw [hnone]
    exact ⟨h.of_core (hadds.sound h.sound) hcore, .of_wan (congrArg (fun c => c.2.1) hcore) hadds (by decide)⟩

section Messages

variable (h : f.isActive = true) (i : Nat) (isSta : Bool)
include h

theorem wanUpTether_eq : f.eventCallback D cfg sh (.wanUpTether i isSta) o =
    if i = cfg.ipaIfNum ∧ f.hasFamily .v4 = true then wanUp D cfg sh .v4 isSta 0 (f, o) else (f, o) := by
  unfold eventCallback wanUpTether
  rw [if_neg (by simp [h])]
  dsimp only
  by_cases hi : i = cfg.ipaIfNum
  · by_cases hf : f.hasFamily .v4 = true
    · rw [if_pos hi, if_pos hf, if_pos (And.intro hi hf)]
      rfl
    · rw [if_pos hi, if_neg hf, if_neg fun hc : i = cfg.ipaIfNum ∧ _ => hf hc.2]
  · rw [if_neg hi, if_neg fun hc : i = cfg.ipaIfNum ∧ _ => hi hc.1]

theorem wanUpV6Tether_eq (p : BitVec 64) : f.eventCallback D cfg sh (.wanUpV6Tether i isSta p) o =
    if i = cfg.ipaIfNum ∧ f.hasFamily .v6 = true then
      wanUp D cfg sh .v6 isSta 0 (({ f with ipv6Prefix := p } : Lan).installIpv6PrefixFltRule D cfg p o)
    else (f, o) := by
  unfold eventCallback wanUpV6Tether
  rw [if_neg (by simp [h])]
  dsimp only
  by_cases hi : i = cfg.ipaIfNum
  · by_cases hf : f.hasFamily .v6 = true
    · rw [if_pos hi, if_pos hf, if_pos (And.intro hi hf)]
      rfl
    · rw [if_pos hi, if_neg hf, if_neg fun hc : i = cfg.ipaIfNum ∧ _ => hf hc.2]
  · rw [if_neg hi, if_neg fun hc : i = cfg.ipaIfNum ∧ _ => hi hc.1]

theorem wanDownTether_eq : f.eventCallback D cfg sh (.wanDownTether i isSta) o =
    if i = cfg.ipaIfNum ∧ f.hasFamily .v4 = true then
      if ignoresDown cfg .v4 isSta then (f, o) else wanDown D cfg sh .v4 isSta (f, o)
    else (f, o) := by
  unfold eventCallback wanDownTether
  rw [if_neg (by simp [h])]
  dsimp only
  have hg : (cfg.ipaIfCate = .wlanIf ∧ (isSta = false ∧ cfg.wlanApIndex > 0 ∨ cfg.rxProp = none)) ↔ ignoresDown cfg .v4 isSta := by
    simp [ignoresDown]
  rw [if_congr hg rfl rfl]
  by_cases hi : i = cfg.ipaIfNum
  · by_cases hf : f.hasFamily .v4 = true
    · rw [if_pos hi, if_pos hf, if_pos (And.intro hi hf)]
      rfl
    · rw [if_pos hi, if_neg hf, if_neg fun hc : i = cfg.ipaIfNum ∧ _ => hf hc.2, ite_self]
  · rw [if_neg hi, if_neg fun hc : i = cfg.ipaIfNum ∧ _ => hi hc.1]

theorem wanDownV6Tether_eq : f.eventCallback D cfg sh (.wanDownV6Tether i isSta) o =
    if i = cfg.ipaIfNum ∧ f.hasFamily .v6 = true then
      if ignoresDown cfg .v6 isSta then (f, o) else wanDown D cfg sh .v6 isSta (f, o)
    else (f, o) := by
  unfold eventCallback wanDownV6Tether
  rw [if_neg (by simp [h])]
  dsimp only
  have hg : (cfg.ipaIfCate = .wlanIf ∧ cfg.rxProp = none) ↔ ignoresDown cfg .v6 isSta := by
    simp [ignoresDown]
  rw [if_congr hg rfl rfl]
  by_cases hi : i = cfg.ipaIfNum
  · by_cases hf : f.hasFamily .v6 = true
    · rw [if_pos hi, if_pos hf, if_pos (And.intro hi hf)]
      rfl
    · rw [if_pos hi, if_neg hf, if_neg fun hc : i = cfg.ipaIfNum ∧ _ => hf hc.2, ite_self]
  · rw [if_neg hi, if_neg fun hc : i = cfg.ipaIfNum ∧ _ => hi hc.1]

end Messages

/-- **What an event does**, for every state of an interface and every driver. -/
theorem eventCallback_does {s : Lan × LanOut} (h : Base s) (hc : cfg.ipaIfCate ≠ .oduIf) {evt : LanEvt} (hevt : evt.isUplink = true) :
    Base (s.1.eventCallback D cfg sh evt s.2) ∧
      EvtDoes D cfg sh s (s.1.eventCallback D cfg sh evt s.2) (s.1.wanOp D cfg sh evt) := by
  cases evt with
  | addrAdd a => exact addrAdd_does h hc a
  | wanUpTether i isSta =>
    rw [wanUpTether_eq h.active]
    by_cases hi : i = cfg.ipaIfNum ∧ s.1.hasFamily .v4 = true
    · rw [if_pos hi, show s.1.wanOp D cfg sh (.wanUpTether i isSta) = _ from if_pos hi]
      exact ⟨wanUp_base h .v4 isSta 0, s, h, .refl s, rfl, .refl _⟩
    · rw [if_neg hi, show s.1.wanOp D cfg sh (.wanUpTether i isSta) = _ from if_neg hi]
      exact ⟨h, .refl s⟩
  | wanUpV6Tether i isSta p =>
    rw [wanUpV6Tether_eq h.active]
    by_cases hi : i = cfg.ipaIfNum ∧ s.1.hasFamily .v6 = true
    · rw [if_pos hi, show s.1.wanOp D cfg sh (.wanUpV6Tether i isSta p) = _ from if_pos hi]
      obtain ⟨hb₁, hq₁, hnum₁⟩ := @withIpv6Prefix D cfg _ h p
      exact ⟨wanUp_base hb₁ .v6 isSta 0, _, hb₁, hq₁, hnum₁, .refl _⟩
    · rw [if_neg hi, show s.1.wanOp D cfg sh (.wanUpV6Tether i isSta p) = _ from if_neg hi]
      exact ⟨h, .refl s⟩
  | wanDownTether i isSta =>
    rw [wanDownTether_eq h.active]
    by_cases hi : i = cfg.ipaIfNum ∧ s.1.hasFamily .v4 = true
    · rw [if_pos hi, show s.1.wanOp D cfg sh (.wanDownTether i isSta) = _ from if_pos hi]
      refine ⟨?_, rfl⟩
      split
      · exact h
      · exact wanDown_base h .v4 isSta
    · rw [if_neg hi, show s.1.wanOp D cfg sh (.wanDownTether i isSta) = _ from if_neg hi]
      exact ⟨h, .refl s⟩
  | wanDownV6Tether i isSta =>
    rw [wanDownV6Tether_eq h.active]
    by_cases hi : i = cfg.ipaIfNum ∧ s.1.hasFamily .v6 = true
    · rw [if_pos hi, show s.1.wanOp D cfg sh (.wanDownV6Tether i isSta) = _ from if_pos hi]
      refine ⟨?_, rfl⟩
      split
      · exact h
      · exact wanDown_base h .v6 isSta
    · rw [if_neg hi, show s.1.wanOp D cfg sh (.wanDownV6Tether i isSta) = _ from if_neg hi]
      exact ⟨h, .refl s⟩
  | privateSubnetChange i => cases hevt
  | swRoutingEnable => cases hevt
  | swRoutingDisable => cases hevt
  | linkDown i => cases hevt

theorem wanOp_ip {evt : LanEvt} {op : WanOp} (h : f.wanOp D cfg sh evt = some op) : op.ip ≠ .max := by
  have hite : ∀ {c : Prop} [Decidable c] {a : WanOp}, (if c then some a else none) = some op → a.ip ≠ .max → op.ip ≠ .max := by
    intro c _ a he ha
    split at he
    · cases he
      exact ha
    · cases he
  cases evt with
  | addrAdd a =>
    by_cases hc : a.IsOf cfg ∧ f.acceptsAddr a = true ∧ f.setsUp D a = true
    · rw [wanOp_addrAdd hc.1 hc.2.1 hc.2.2] at h
      cases hip : a.iptype with
      | v4 => rw [hip] at h; exact hite h (fun hc => by cases hc)
      | v6 => rw [hip] at h; exact hite h (fun hc => by cases hc)
      | max => exact absurd hip a.family
    · rw [show f.wanOp D cfg sh (.addrAdd a) = none from if_neg hc] at h
      cases h
  | wanUpTether i b => exact hite h (fun hc => by cases hc)
  | wanUpV6Tether i b q => exact hite h (fun hc => by cases hc)
  | wanDownTether i b => exact hite h (fun hc => by cases hc)
  | wanDownV6Tether i b => exact hite h (fun hc => by cases hc)
  | privateSubnetChange i => cases h
  | swRoutingEnable => cases h
  | swRoutingDisable => cases h
  | linkDown i => cases h

end Events

end Lan

end HiaeCommon
