/-
Runs of an interface in which it gets addresses and is told that a modem is up:
the addresses it takes (`Taken`), and the uplink rules it then has (`Up`).
-/
import HiaeCommon.Ipacm.Uplink

namespace HiaeCommon

/-- The WAN interfaces are up, with a modem, for the interface `n`. -/
structure LanShared.ModemUp (sh : LanShared) (n : Nat) : Prop where
  v4 : sh.isWanUP n = true
  v6 : sh.isWanUPV6 n = true
  modem : sh.backhaulIsStaMode = false

/-- They are not, for the interface `n`. -/
structure LanShared.WanDown (sh : LanShared) (n : Nat) : Prop where
  v4 : sh.isWanUP n = false
  v6 : sh.isWanUPV6 n = false

namespace Lan

variable (D : LanDriver) (cfg : LanConf)

/-- A run of an interface: its events, each with what the statics are. -/
def run (evts : List (LanShared × LanEvt)) (s : Lan × LanOut) : Lan × LanOut :=
  evts.foldl (fun s e => s.1.eventCallback D cfg e.1 e.2 s.2) s

/-- The messages that a modem is up, in one order or the other. -/
def wanUpMsgs (up : LanShared) (v6First : Bool) : List (LanShared × LanEvt) :=
  let v4 := (up, LanEvt.wanUpTether cfg.ipaIfNum false)
  let v6 := (up, LanEvt.wanUpV6Tether cfg.ipaIfNum false up.backhaulIpv6Prefix)
  if v6First then [v6, v4] else [v4, v6]

end Lan

/-- The uplink rules on the interface's pipe, in order. -/
def LanOut.uplinks (o : LanOut) (n : Nat) (ip : IpType) : List FltRule := (o.flt.view (ofUse n .wanUl ip)).map fun x => x.2.rule

/-- There are properties to make a set of rules from, and not too many. -/
def Installable (prop : List ExtProp) : Prop := prop ≠ [] ∧ prop.length ≤ maxWanUlFilterRules

instance (prop : List ExtProp) : Decidable (Installable prop) := inferInstanceAs (Decidable (_ ∧ _))

/-! ## The addresses an interface takes -/

structure Taken where
  v4 : Bool
  v6 : List (BitVec 128)

namespace Taken

def none : Taken := ⟨false, []⟩

def ipType : Taken → IfaceIpType
  | ⟨false, []⟩ => .null
  | ⟨true, []⟩ => .v4
  | ⟨false, _ :: _⟩ => .v6
  | ⟨true, _ :: _⟩ => .max

def next (cfg : LanConf) (t : Taken) (a : LanAddr) : Taken :=
  if a.IsOf cfg then
    match a.iptype with
    | .v4 => { t with v4 := true }
    | _ => if t.v6.length < maxDefaultV6RouteRules ∧ a.ipv6Addr ∉ t.v6 then { t with v6 := t.v6 ++ [a.ipv6Addr] } else t
  else t

/-- The families the address handler has installed the rules of, once the WAN interfaces are up. -/
def families (wan : Bool) (t : Taken) : IpType → Bool
  | .v4 => wan && t.v4
  | .v6 => wan && !t.v6.isEmpty
  | .max => false

end Taken

/-- The mux id the address handler passes on. -/
def addrMux (sh : LanShared) : IpType → BitVec 8
  | .v4 => if sh.getXlatMuxId then 1 else 0
  | _ => 0

/-- The interface has these addresses. -/
structure Lan.Has (f : Lan) (t : Taken) : Prop where
  active : f.isActive = true
  ipType : f.ipType = t.ipType
  num : f.numDftRtV6 = t.v6.length
  addr : ∀ i, ∀ h : i < t.v6.length, f.ipv6Addr i = t.v6[i]
  le : t.v6.length ≤ maxDefaultV6RouteRules
  privateFl : t.v4 = false → ∀ i < ipaMaxPrivateSubnetEntries, f.privateFlRuleHdl i = 0

namespace Lan

variable {D : LanDriver} {cfg : LanConf} {sh : LanShared} {f f' : Lan} {o : LanOut} {t : Taken}

theorem Has.of_addrs (h : f.Has t) (hactive : f'.isActive = f.isActive) (haddrs : f'.addrs = f.addrs) : f'.Has t := by
  refine ⟨hactive.trans h.active, (congrArg LanAddrs.ipType haddrs).trans h.ipType,
    (congrArg LanAddrs.numDftRtV6 haddrs).trans h.num, fun i hi => ?_, h.le, fun ht i hi => ?_⟩
  · exact (congrFun (congrArg LanAddrs.ipv6Addr haddrs) i).trans (h.addr i hi)
  · exact (congrFun (congrArg LanAddrs.privateFlRuleHdl haddrs) i).trans (h.privateFl ht i hi)

theorem Has.of_core (h : f.Has t) (hc : f'.core = f.core) : f'.Has t :=
  h.of_addrs (congrArg Prod.fst hc) (congrArg (fun c => c.2.2) hc)

theorem Has.hasFamily (h : f.Has t) (ip : IpType) : f.hasFamily ip = match ip with
    | .v4 => t.v4
    | _ => !t.v6.isEmpty := by
  unfold Lan.hasFamily
  rw [h.ipType]
  obtain ⟨v4, v6⟩ := t
  cases ip <;> cases v4 <;> cases v6 <;> rfl

theorem Has.hasIpv6Addr (h : f.Has t) (a : BitVec 128) : f.hasIpv6Addr a = true ↔ a ∈ t.v6 := by
  rw [Lan.hasIpv6Addr, List.any_eq_true, h.num]
  constructor
  · rintro ⟨i, hi, he⟩
    rw [List.mem_range] at hi
    rw [decide_eq_true_eq, h.addr i hi] at he
    exact he ▸ List.getElem_mem hi
  · intro ha
    obtain ⟨i, hi, he⟩ := List.mem_iff_getElem.1 ha
    exact ⟨i, List.mem_range.2 hi, by rw [decide_eq_true_eq, h.addr i hi, he]⟩

theorem Has.acceptsAddr (h : f.Has t) {a : LanAddr} : f.acceptsAddr a = match a.iptype with
    | .v4 => !t.v4
    | _ => decide (t.v6.length < maxDefaultV6RouteRules) := by
  have hle := h.le
  unfold Lan.acceptsAddr differs
  rw [h.ipType, h.num]
  obtain ⟨v4, v6⟩ := t
  cases hip : a.iptype with
  | max => exact absurd hip a.family
  | v4 => cases v4 <;> cases v6 <;> rfl
  | v6 =>
    match v6, hle with
    | [], _ => cases v4 <;> rfl
    | [_], _ => cases v4 <;> rfl
    | [_, _], _ => cases v4 <;> rfl

theorem Has.next_of_not {a : LanAddr} (h : f.Has t) (hn : ¬ (a.IsOf cfg ∧ f.acceptsAddr a = true)) : t.next cfg a = t := by
  unfold Taken.next
  split
  next ha =>
    have hacc : f.acceptsAddr a = false := by
      by_contra hc
      exact hn ⟨ha, by simpa using hc⟩
    rw [h.acceptsAddr] at hacc
    cases hip : a.iptype with
    | v4 =>
      simp only [hip, Bool.not_eq_false'] at hacc
      obtain ⟨v4, v6⟩ := t
      exact congrArg (Taken.mk · v6) hacc.symm
    | v6 =>
      simp only [hip, decide_eq_false_iff_not] at hacc
      exact if_neg fun hc => hacc hc.1
    | max => exact absurd hip a.family
  next => rfl

/-- An address that is set up with success is one of those the interface has, from then on. -/
theorem Has.addrRules {a : LanAddr} (h : f.Has t) (hD : D.Succeeds) (ha : a.IsOf cfg) (hacc : f.acceptsAddr a = true) :
    ((f.addrRules D cfg a o).1 = true ↔ a.iptype = .v4 ∨ a.ipv6Addr ∉ t.v6) ∧ (f.addrRules D cfg a o).2.1.Has (t.next cfg a) ∧
      (f.addrRules D cfg a o).2.1.wan = f.wan := by
  obtain ⟨hok, hcore⟩ := @addrRules_spec D cfg f o a
  obtain ⟨hok', hcore'⟩ := @handleAddrEvt_spec D cfg f o a
  have hdup := h.hasIpv6Addr a.ipv6Addr
  have hactive : (f.addrRules D cfg a o).2.1.isActive = f.isActive := congrArg Prod.fst hcore
  have htype : (f.addrRules D cfg a o).2.1.ipType = (f.handleAddrEvt D cfg a o).2.1.ipType :=
    congrArg (fun c => c.2.2.ipType) hcore
  have hnum : (f.addrRules D cfg a o).2.1.numDftRtV6 = (f.handleAddrEvt D cfg a o).2.1.numDftRtV6 :=
    congrArg (fun c => c.2.2.numDftRtV6) hcore
  have haddr : (f.addrRules D cfg a o).2.1.ipv6Addr = (f.handleAddrEvt D cfg a o).2.1.ipv6Addr :=
    congrArg (fun c => c.2.2.ipv6Addr) hcore
  refine ⟨?_, ?_, congrArg (fun c => c.2.1) hcore⟩
  · rw [hok, hok']
    cases hip : a.iptype with
    | v4 => simp [hD.fails]
    | v6 => simp [hD.fails, ← hdup]
    | max => exact absurd hip a.family
  · rw [h.acceptsAddr] at hacc
    have hft := h.ipType
    unfold Taken.next
    rw [if_pos ha]
    cases hip : a.iptype with
    | v4 =>
      simp only [hip, Bool.not_eq_true'] at hacc
      simp only [hip] at hcore'
      have htype' : (f.handleAddrEvt D cfg a o).2.1.ipType = (f.configIpType .v4).ipType := congrArg (fun c => c.2.2.ipType) hcore'
      have hnum' : (f.handleAddrEvt D cfg a o).2.1.numDftRtV6 = f.numDftRtV6 := congrArg (fun c => c.2.2.numDftRtV6) hcore'
      have haddr' : (f.handleAddrEvt D cfg a o).2.1.ipv6Addr = f.ipv6Addr := congrArg (fun c => c.2.2.ipv6Addr) hcore'
      refine ⟨hactive.trans h.active, ?_, hnum.trans (hnum'.trans h.num), fun i hi => ?_, h.le, fun h => absurd h (by simp)⟩
      · rw [htype, htype', configIpType, if_pos rfl]
        dsimp only
        rw [hft]
        obtain ⟨v4, v6⟩ := t
        cases hacc
        cases v6 <;> rfl
      · rw [haddr, haddr']
        exact h.addr i hi
    | v6 =>
      simp only [hip, decide_eq_true_eq] at hacc
      simp only [hip, hD.fails, Bool.not_false, Bool.and_self, if_true] at hcore'
      have hpriv := @addrRules_private D cfg f o a (by rw [hip]; decide)
      have htype' : (f.configIpType .v6).ipType = Taken.ipType { t with v6 := t.v6 ++ [a.ipv6Addr] } := by
        rw [configIpType, if_neg (by decide)]
        dsimp only
        rw [hft]
        obtain ⟨v4, v6⟩ := t
        cases v4 <;> cases v6 <;> rfl
      dsimp only
      by_cases hm : a.ipv6Addr ∈ t.v6
      · rw [if_pos (hdup.2 hm)] at hcore'
        rw [if_neg fun hc => hc.2 hm]
        refine ⟨hactive.trans h.active, ?_, ?_, fun i hi => ?_, h.le, fun ht i hi => ?_⟩
        · rw [htype, show (f.handleAddrEvt D cfg a o).2.1.ipType = _ from congrArg (fun c => c.2.2.ipType) hcore']
          refine htype'.trans ?_
          obtain ⟨v4, v6⟩ := t
          cases v6 with
          | nil => cases hm
          | cons b l => cases v4 <;> rfl
        · exact hnum.trans ((congrArg (fun c => c.2.2.numDftRtV6) hcore').trans h.num)
        · rw [haddr, show (f.handleAddrEvt D cfg a o).2.1.ipv6Addr = f.ipv6Addr from congrArg (fun c => c.2.2.ipv6Addr) hcore']
          exact h.addr i hi
        · rw [hpriv]
          exact h.privateFl ht i hi
      · rw [if_neg (by rw [hdup]; exact hm)] at hcore'
        rw [if_pos ⟨hacc, hm⟩]
        refine ⟨hactive.trans h.active, ?_, ?_, fun i hi => ?_, ?_, fun ht i hi => ?_⟩
        · rw [htype, show (f.handleAddrEvt D cfg a o).2.1.ipType = _ from congrArg (fun c => c.2.2.ipType) hcore']
          exact htype'
        · rw [hnum, show (f.handleAddrEvt D cfg a o).2.1.numDftRtV6 = f.numDftRtV6 + 1 from
            congrArg (fun c => c.2.2.numDftRtV6) hcore', h.num, List.length_append]
          rfl
        · have haddr' : (f.handleAddrEvt D cfg a o).2.1.ipv6Addr = fun n => if n = f.numDftRtV6 then a.ipv6Addr else f.ipv6Addr n :=
            congrArg (fun c => c.2.2.ipv6Addr) hcore'
          rw [haddr, haddr', h.num]
          rw [List.length_append, List.length_singleton] at hi
          dsimp only
          by_cases he : i = t.v6.length
          · subst he
            simp
          · have hlt : i < t.v6.length := by omega
            rw [if_neg he, h.addr i hlt]
            simp [hlt]
        · rw [List.length_append]
          exact hacc
        · rw [hpriv]
          exact h.privateFl ht i hi
    | max => exact absurd hip a.family

end Lan

/-! ## The uplink rules of a run -/
/-- One set of rules, where one can be installed. -/
def newUplink (cfg : LanConf) (sh : LanShared) (ip : IpType) (x : BitVec 8) : List FltRule :=
  match cfg.rxProp with
  | none => []
  | some rx => if Installable (sh.getExtProp ip) then uplinkRules rx cfg.ipaIfCate sh (sh.getExtProp ip) ip x else []

/-- The uplink rules are `l`, and a set with the mux id `x` for each family of `u`. -/
structure Up (cfg : LanConf) (sh : LanShared) (x : IpType → BitVec 8) (l : IpType → List FltRule) (u : IpType → Bool)
    (s : Lan × LanOut) : Prop where
  sound : s.2.Sound
  set : ∀ ip, ip ≠ .max → (s.1.ul ip).modemUlSet = u ip
  rules : ∀ ip, s.2.uplinks cfg.ipaIfNum ip = l ip ++ if u ip then newUplink cfg sh ip (x ip) else []

namespace Up

variable {D : LanDriver} {cfg : LanConf} {sh : LanShared} {x : IpType → BitVec 8} {l : IpType → List FltRule} {u : IpType → Bool}
  {s s' : Lan × LanOut}

theorem uplinks_of_adds {o o' : LanOut} {uses : List FltUse} (ha : LanOut.Adds uses o o') (hu : FltUse.wanUl ∉ uses) (n : Nat)
    (ip : IpType) : o'.uplinks n ip = o.uplinks n ip := by
  have hblind : ∀ u ∈ uses, Blind (ofUse n .wanUl ip) u := fun u hu' => ofUse_blind (by rintro rfl; exact hu hu')
  unfold LanOut.uplinks
  rw [ha.view _ hblind]

theorem of_adds (h : Up cfg sh x l u s) {uses : List FltUse} (ha : LanOut.Adds uses s.2 s'.2) (hu : FltUse.wanUl ∉ uses)
    (hset : ∀ ip, s'.1.ul ip = s.1.ul ip) : Up cfg sh x l u s' :=
  ⟨ha.sound h.sound, fun ip hip => by rw [hset]; exact h.set ip hip, fun ip => by
    rw [uplinks_of_adds ha hu]; exact h.rules ip⟩

theorem installUplink (h : Up cfg sh x l u s) (hD : D.Succeeds) {ip : IpType} (hip : ip ≠ .max) (hu : u ip = false) :
    Up cfg sh x l (Function.update u ip true) (s.1.installUplink D cfg sh (sh.getExtProp ip) ip (x ip) s.2).2 := by
  have hadds := @Lan.handleUplinkFilterRule_adds D cfg sh s.1 s.2 (sh.getExtProp ip) ip (x ip)
  -- the rules and the record of the installer, and the flag on top of them
  have hinst : (∀ ip', (s.1.handleUplinkFilterRule D cfg sh (sh.getExtProp ip) ip (x ip) s.2).2.2.uplinks cfg.ipaIfNum ip' =
        s.2.uplinks cfg.ipaIfNum ip' ++ if ip' = ip then newUplink cfg sh ip (x ip) else []) ∧
      ∀ ip', ip' ≠ ip → ip' ≠ .max →
        (s.1.handleUplinkFilterRule D cfg sh (sh.getExtProp ip) ip (x ip) s.2).2.1.ul ip' = s.1.ul ip' := by
    cases hrx : cfg.rxProp with
    | none =>
      rw [Lan.handleUplinkFilterRule_of_nothing (.inl hrx)]
      exact ⟨fun ip' => by simp [newUplink, hrx], fun _ _ _ => rfl⟩
    | some rx =>
      by_cases hi : Installable (sh.getExtProp ip)
      · obtain ⟨hs, hlen, hf, hlive⟩ := @Lan.handleUplinkFilterRule_of_installs _ _ sh s.1 s.2 _ _ _ (x ip) hip hrx
          ⟨by simp [hrx], hi.1, hi.2, hD.fails _, hD.fails _, hD.refuses _⟩
        refine ⟨fun ip' => ?_, fun ip' hne hmax => by rw [hf, Lan.setUl_ul_of_ne hne hip hmax]⟩
        by_cases he : ip' = ip
        · subst he
          rw [if_pos rfl, LanOut.uplinks, Lib.Ledger.view_append hlive (ofUse_slot rx _ _ _)]
          rw [List.map_append, newUplink, hrx]
          dsimp only
          rw [if_pos hi]
          congr 1
          rw [show (fun y : Nat × FltSlot => y.2.rule) = FltSlot.rule ∘ Prod.snd from rfl, ← List.map_map, List.map_snd_zip (by
            rw [List.length_map, uplinkRules, List.length_map, hlen]), List.map_map]
          exact List.map_id _
        · rw [if_neg he, List.append_nil, LanOut.uplinks, Lib.Ledger.view_append_of_not hlive fun r hr =>
            ofUse_of_ne he (ofUse_slot rx _ _ _ r hr)]
          rfl
      · rw [Lan.handleUplinkFilterRule_of_nothing (by
          rw [Installable, not_and_or, not_not, not_le] at hi
          exact .inr hi)]
        exact ⟨fun ip' => by simp [newUplink, hrx, hi], fun _ _ _ => rfl⟩
  refine ⟨hadds.sound h.sound, fun ip' hmax => ?_, fun ip' => ?_⟩
  · by_cases he : ip' = ip
    · subst he
      rw [Function.update_self]
      exact congrArg UplinkRules.modemUlSet (Lan.setUl_ul_self ..)
    · rw [Function.update_of_ne he, ← h.set ip' hmax]
      refine congrArg UplinkRules.modemUlSet ((Lan.setUl_ul_of_ne he hip hmax _).trans ?_)
      exact hinst.2 ip' he hmax
  · refine (hinst.1 ip').trans ?_
    rw [h.rules ip']
    by_cases he : ip' = ip
    · subst he
      simp [hu]
    · simp [he]

/-- `handle_wan_up_ex` installs a set for a family without one, for IPv6 while there is one address. -/
theorem handleWanUpEx (h : Up cfg sh x l u s) (hD : D.Succeeds) {ip : IpType} (hip : ip ≠ .max) :
    Up cfg sh x l (Function.update u ip (u ip || decide (ip = .v6 → s.1.numDftRtV6 = 1)))
      (s.1.handleWanUpEx D cfg sh (sh.getExtProp ip) ip (x ip) s.2).2 := by
  have hq : Lan.writeQmapid D cfg ip = true := by
    unfold Lan.writeQmapid
    cases cfg.rxProp with
    | none => rfl
    | some rx => simp [hD.fails]
  rw [Lan.handleWanUpEx_eq hq, h.set ip hip]
  cases hu : u ip with
  | true => rw [if_neg (by simp), Bool.true_or, ← hu, Function.update_eq_self]; exact h
  | false =>
    by_cases hn : ip = .v6 → s.1.numDftRtV6 = 1
    · rw [if_pos ⟨hip, rfl, hn⟩, decide_eq_true hn, Bool.false_or]
      exact h.installUplink hD hip hu
    · rw [if_neg fun hc => hn hc.2.2, decide_eq_false hn, Bool.false_or, ← hu, Function.update_eq_self]
      exact h

end Up

/-! ## The addresses and the messages -/

namespace Lan

variable {D : LanDriver} {cfg : LanConf} {sh : LanShared} {f : Lan} {o : LanOut} {t : Taken}

theorem handleUplinkFilterRule_addrs {prop : List ExtProp} {ip : IpType} {x : BitVec 8} :
    (f.handleUplinkFilterRule D cfg sh prop ip x o).2.1.addrs = f.addrs ∧
      (f.handleUplinkFilterRule D cfg sh prop ip x o).2.1.isActive = f.isActive := by
  unfold handleUplinkFilterRule
  cases cfg.rxProp with
  | none => exact ⟨rfl, rfl⟩
  | some rx =>
    dsimp only
    split
    · exact ⟨rfl, rfl⟩
    split
    · exact ⟨rfl, rfl⟩
    split
    · exact ⟨rfl, rfl⟩
    split
    · exact ⟨rfl, rfl⟩
    split
    · exact ⟨rfl, rfl⟩
    · exact ⟨setUl_addrs .., setUl_isActive ..⟩

theorem handleWanUpEx_addrs {prop : List ExtProp} {ip : IpType} {x : BitVec 8} :
    (f.handleWanUpEx D cfg sh prop ip x o).2.1.addrs = f.addrs ∧
      (f.handleWanUpEx D cfg sh prop ip x o).2.1.isActive = f.isActive := by
  have h : (f.installUplink D cfg sh prop ip x o).2.1.addrs = f.addrs ∧
      (f.installUplink D cfg sh prop ip x o).2.1.isActive = f.isActive :=
    ⟨(setUl_addrs ..).trans handleUplinkFilterRule_addrs.1, (setUl_isActive ..).trans handleUplinkFilterRule_addrs.2⟩
  unfold handleWanUpEx
  split
  · exact ⟨rfl, rfl⟩
  split
  · exact h
  split
  · exact h
  · exact ⟨rfl, rfl⟩

theorem installIpv6PrefixFltRule_adds (p : BitVec 64) : LanOut.Adds [.ipv6Prefix] o (f.installIpv6PrefixFltRule D cfg p o).2 := by
  unfold installIpv6PrefixFltRule
  cases cfg.rxProp with
  | none => exact .refl o
  | some rx => exact addOne_adds ..

theorem installIpv6PrefixFltRule_wan (p : BitVec 64) : (f.installIpv6PrefixFltRule D cfg p o).1.core = (f.isActive,
    { f.wan with ipv6PrefixFltRuleHdl := (f.installIpv6PrefixFltRule D cfg p o).1.ipv6PrefixFltRuleHdl }, f.addrs) := by
  unfold installIpv6PrefixFltRule
  cases cfg.rxProp with
  | none => rfl
  | some rx =>
    exact addOne_fst (fun f' => f'.core = (f.isActive, { f.wan with ipv6PrefixFltRuleHdl := f'.ipv6PrefixFltRuleHdl }, f.addrs))
      .ipv6Prefix .v6 (ipv6PrefixRule p) rx rfl fun _ => rfl

end Lan

namespace Up

variable {D : LanDriver} {cfg : LanConf} {sh : LanShared} {x : IpType → BitVec 8} {l : IpType → List FltRule} {u : IpType → Bool}
  {s : Lan × LanOut} {t : Taken}

/-- The rule of the prefix, and the uplink rules behind it. -/
theorem wanUpEx_v6 (ht : s.1.Has t) (h : Up cfg sh x l u s) (hD : D.Succeeds) (p : BitVec 64) (hx : x .v6 = 0) :
    let s₁ := ({ s.1 with ipv6Prefix := p } : Lan).installIpv6PrefixFltRule D cfg p s.2
    let s₂ := (s₁.1.handleWanUpEx D cfg sh (sh.getExtProp .v6) .v6 0 s₁.2).2
    s₂.1.Has t ∧ Up cfg sh x l (Function.update u .v6 (u .v6 || decide (t.v6.length = 1))) s₂ := by
  intro s₁ s₂
  have hcore := @Lan.installIpv6PrefixFltRule_wan D cfg { s.1 with ipv6Prefix := p } s.2 p
  have ht₁ : s₁.1.Has t := ht.of_addrs (congrArg Prod.fst hcore) (congrArg (fun c => c.2.2) hcore)
  have h₁ : Up cfg sh x l u s₁ := by
    refine h.of_adds (Lan.installIpv6PrefixFltRule_adds p) (by decide) fun ip => ?_
    cases ip with
    | v4 => exact congrArg (fun c => c.2.1.ulV4) hcore
    | v6 => exact congrArg (fun c => c.2.1.ulV6) hcore
    | max => exact congrArg (fun c => c.2.1.ulV6) hcore
  have h₂ := @Up.handleWanUpEx _ _ _ _ _ _ _ h₁ hD .v6 (by decide)
  rw [hx, ht₁.num, decide_eq_decide.2 (forall_prop_of_true rfl)] at h₂
  exact ⟨ht₁.of_addrs Lan.handleWanUpEx_addrs.2 Lan.handleWanUpEx_addrs.1, h₂⟩

theorem wanUpTether (ht : s.1.Has t) (h : Up cfg sh x l u s) (hD : D.Succeeds) (hx : x .v4 = 0) :
    let s' := s.1.eventCallback D cfg sh (.wanUpTether cfg.ipaIfNum false) s.2
    s'.1.Has t ∧ Up cfg sh x l (Function.update u .v4 (u .v4 || t.v4)) s' := by
  unfold Lan.eventCallback
  rw [if_neg (by simp [ht.active])]
  dsimp only
  rw [if_pos rfl]
  unfold Lan.wanUpTether
  rw [ht.hasFamily]
  dsimp only
  cases t.v4 with
  | false => rw [Bool.or_false, Function.update_eq_self]; exact ⟨ht, h⟩
  | true =>
    have h₁ := @Up.handleWanUpEx _ _ _ _ _ _ _ h hD .v4 (by decide)
    rw [hx, decide_eq_true (by simp)] at h₁
    exact ⟨ht.of_addrs Lan.handleWanUpEx_addrs.2 Lan.handleWanUpEx_addrs.1, h₁⟩

theorem wanUpV6Tether (ht : s.1.Has t) (h : Up cfg sh x l u s) (hD : D.Succeeds) (hx : x .v6 = 0) (p : BitVec 64) :
    let s' := s.1.eventCallback D cfg sh (.wanUpV6Tether cfg.ipaIfNum false p) s.2
    s'.1.Has t ∧ Up cfg sh x l (Function.update u .v6 (u .v6 || decide (t.v6.length = 1))) s' := by
  unfold Lan.eventCallback
  rw [if_neg (by simp [ht.active])]
  dsimp only
  rw [if_pos rfl]
  unfold Lan.wanUpV6Tether
  rw [ht.hasFamily]
  dsimp only
  split
  next => exact wanUpEx_v6 ht h hD p hx
  next hnil =>
    have hnil : t.v6 = [] := by simpa using hnil
    rw [hnil, List.length_nil, decide_eq_false (by decide), Bool.or_false, Function.update_eq_self]
    exact ⟨ht, h⟩

theorem checkWanUp (ht : s.1.Has t) (h : Up cfg sh (addrMux sh) l u s) (hD : D.Succeeds) (hm : sh.ModemUp cfg.ipaIfNum) {ip : IpType}
    (hip : ip ≠ .max) :
    let s' := s.1.checkWanUp D cfg sh ip s.2
    s'.1.Has t ∧ Up cfg sh (addrMux sh) l (Function.update u ip (u ip || decide (ip = .v6 → t.v6.length = 1))) s' := by
  unfold Lan.checkWanUp
  cases ip with
  | v4 =>
    rw [if_pos ⟨hm.v4, .inl rfl⟩, if_pos hm.modem]
    dsimp only
    rw [if_neg fun hc => by rcases hc.2.1 with hc | hc <;> cases hc]
    have h₁ := @Up.handleWanUpEx _ _ _ _ _ _ _ h hD .v4 (by decide)
    rw [decide_eq_true (by intro hc; cases hc)] at h₁ ⊢
    exact ⟨ht.of_addrs Lan.handleWanUpEx_addrs.2 Lan.handleWanUpEx_addrs.1, h₁⟩
  | v6 =>
    rw [if_neg (by simp), decide_eq_decide.2 (forall_prop_of_true rfl)]
    dsimp only
    by_cases hn : t.v6.length = 1
    · rw [if_pos ⟨hm.v6, .inl rfl, ht.num.trans hn⟩, if_pos hm.modem]
      exact wanUpEx_v6 ht h hD _ rfl
    · rw [if_neg fun hc => hn (ht.num.symm.trans hc.2.2), decide_eq_false hn, Bool.or_false, Function.update_eq_self]
      exact ⟨ht, h⟩
  | max => exact absurd rfl hip

/-- What an address comes to, before and after the WAN interfaces are up. -/
theorem addrAdd (hD : D.Succeeds) (hc : cfg.ipaIfCate ≠ .oduIf) {wan : Bool} {sh' : LanShared} (ht : s.1.Has t)
    (h : Up cfg sh x l (t.families wan) s)
    (hsh : wan = false ∧ sh'.WanDown cfg.ipaIfNum ∨ wan = true ∧ sh' = sh ∧ sh.ModemUp cfg.ipaIfNum ∧ x = addrMux sh) (a : LanAddr) :
    let s' := s.1.eventCallback D cfg sh' (.addrAdd a) s.2
    s'.1.Has (t.next cfg a) ∧ Up cfg sh x l ((t.next cfg a).families wan) s' := by
  intro s'
  have hul : ∀ {s₁ s₂ : Lan × LanOut} {u : IpType → Bool} {uses : List FltUse}, Up cfg sh x l u s₁ → s₂.1.wan = s₁.1.wan →
      LanOut.Adds uses s₁.2 s₂.2 → FltUse.wanUl ∉ uses → Up cfg sh x l u s₂ := by
    intro s₁ s₂ u uses h hw ha hu
    refine h.of_adds ha hu fun ip => ?_
    cases ip with
    | v4 => exact congrArg LanWan.ulV4 hw
    | v6 => exact congrArg LanWan.ulV6 hw
    | max => exact congrArg LanWan.ulV6 hw
  by_cases hacc : a.IsOf cfg ∧ s.1.acceptsAddr a = true
  · obtain ⟨hof, hacc⟩ := hacc
    obtain ⟨o₀, hflt, hcore, hadds⟩ := @Lan.addrAdd_of_accepts D _ sh' _ s.2 hc ht.active _ hof hacc
    obtain ⟨hok, ht₁, hwan⟩ := ht.addrRules (o := o₀) hD hof hacc
    have hpriv : a.iptype = .v4 → ∀ i < ipaMaxPrivateSubnetEntries, s.1.privateFlRuleHdl i = 0 := by
      intro hip
      rw [ht.acceptsAddr, hip] at hacc
      exact ht.privateFl (by simpa using hacc)
    have h₁ : Up cfg sh x l (t.families wan) (s.1.addrRules D cfg a o₀).2 :=
      hul h hwan ((LanOut.Adds.of_flt hflt).trans (Lan.addrRules_adds a (h.sound.of_flt hflt) hpriv)) (by decide)
    -- what is left is the look at the WAN interfaces
    suffices hset : (s.1.setUpAddr D cfg sh' a o₀).2.1.Has (t.next cfg a) ∧
        Up cfg sh x l ((t.next cfg a).families wan) (s.1.setUpAddr D cfg sh' a o₀).2 from
      ⟨hset.1.of_core hcore, hul hset.2 (congrArg (fun c => c.2.1) hcore) hadds (by decide)⟩
    unfold Lan.setUpAddr
    revert hok ht₁ h₁
    generalize s.1.addrRules D cfg a o₀ = r
    obtain ⟨ok, f₁, o₁⟩ := r
    intro hok ht₁ h₁
    cases ok with
    | false =>
      have hnot : ¬ (a.iptype = .v4 ∨ a.ipv6Addr ∉ t.v6) := fun hc => by cases hok.2 hc
      have hsame : t.next cfg a = t := by
        rw [not_or, not_not] at hnot
        unfold Taken.next
        rw [if_pos hof]
        cases hip : a.iptype with
        | v4 => exact absurd hip hnot.1
        | v6 => exact if_neg fun hc => hc.2 hnot.2
        | max => exact absurd hip a.family
      rw [hsame] at ht₁ ⊢
      exact ⟨ht₁, h₁⟩
    | true =>
      dsimp only
      rcases hsh with ⟨rfl, hdown⟩ | ⟨rfl, rfl, hup, rfl⟩
      · have hsame : (t.next cfg a).families false = t.families false := by
          funext ip
          cases ip <;> rfl
        have hcheck : f₁.checkWanUp D cfg sh' a.iptype o₁ = (f₁, o₁) := by
          unfold Lan.checkWanUp
          rw [if_neg (by simp [hdown.v4])]
          exact if_neg (by simp [hdown.v6])
        rw [hcheck, hsame]
        exact ⟨ht₁, h₁⟩
      · have hcheck := checkWanUp ht₁ h₁ hD hup a.family
        have hfam : Function.update (t.families true) a.iptype
            (t.families true a.iptype || decide (a.iptype = .v6 → (t.next cfg a).v6.length = 1)) = (t.next cfg a).families true := by
          have hnew := hok.1 rfl
          rw [ht.acceptsAddr] at hacc
          unfold Taken.next
          rw [if_pos hof]
          cases hip : a.iptype with
          | v4 =>
            funext ip
            cases ip with
            | v4 => simp [Taken.families]
            | v6 => rfl
            | max => rfl
          | v6 =>
            simp only [hip, decide_eq_true_eq] at hacc
            have hnew : a.ipv6Addr ∉ t.v6 := hnew.resolve_left (by rw [hip]; decide)
            dsimp only
            rw [if_pos ⟨hacc, hnew⟩]
            funext ip
            cases ip with
            | v4 => rfl
            | v6 => cases hv : t.v6 <;> simp [Taken.families, hv]
            | max => rfl
          | max => exact absurd hip a.family
        rw [hfam] at hcheck
        exact hcheck
  · obtain ⟨hcore, hadds⟩ := @Lan.addrAdd_of_not D _ sh' _ s.2 hc _ hacc
    rw [ht.next_of_not hacc]
    exact ⟨ht.of_core hcore, hul h (congrArg (fun c => c.2.1) hcore) hadds (by decide)⟩

end Up
/-! ## Whole runs -/

namespace Up

variable {D : LanDriver} {cfg : LanConf} {sh up down : LanShared} {x : IpType → BitVec 8} {l : IpType → List FltRule} {s : Lan × LanOut}
  {t : Taken} {o : LanOut}

theorem run_addrs (hD : D.Succeeds) (hc : cfg.ipaIfCate ≠ .oduIf) {wan : Bool} {sh' : LanShared} (ht : s.1.Has t)
    (h : Up cfg sh x l (t.families wan) s)
    (hsh : wan = false ∧ sh'.WanDown cfg.ipaIfNum ∨ wan = true ∧ sh' = sh ∧ sh.ModemUp cfg.ipaIfNum ∧ x = addrMux sh)
    (addrs : List LanAddr) :
    let s' := Lan.run D cfg (addrs.map fun a => (sh', .addrAdd a)) s
    s'.1.Has (addrs.foldl (Taken.next cfg) t) ∧ Up cfg sh x l ((addrs.foldl (Taken.next cfg) t).families wan) s' := by
  induction addrs generalizing s t with
  | nil => exact ⟨ht, h⟩
  | cons a addrs ih =>
    have ha := addrAdd hD hc ht h hsh a
    exact ih ha.1 ha.2

/-- Where there is no set there is no mux id. -/
theorem of_none (h : Up cfg sh x l (fun _ => false) s) (x' : IpType → BitVec 8) : Up cfg sh x' l (fun _ => false) s :=
  ⟨h.sound, h.set, h.rules⟩

theorem families_false (t : Taken) : t.families false = fun _ => false := by
  funext ip
  cases ip <;> rfl

theorem new (ho : o.Sound) : Up cfg sh x (fun ip => o.uplinks cfg.ipaIfNum ip) (fun _ => false) ({}, o) := by
  refine ⟨ho, fun ip _ => ?_, fun ip => (List.append_nil _).symm⟩
  cases ip <;> rfl

theorem has_new : ({} : Lan).Has Taken.none :=
  ⟨rfl, rfl, rfl, fun i hi => absurd hi (Nat.not_lt_zero i), Nat.zero_le _, fun _ _ _ => rfl⟩

/-- The families a message makes a set for. -/
def told (t : Taken) : IpType → Bool
  | .v4 => t.v4
  | .v6 => decide (t.v6.length = 1)
  | .max => false

theorem run_msgs (hD : D.Succeeds) (ht : s.1.Has t) (h : Up cfg sh (fun _ => 0) l (fun _ => false) s) (v6First : Bool) :
    (Lan.run D cfg (Lan.wanUpMsgs cfg sh v6First) s).1.Has t ∧
      Up cfg sh (fun _ => 0) l (told t) (Lan.run D cfg (Lan.wanUpMsgs cfg sh v6First) s) := by
  cases v6First with
  | false =>
    have h4 := wanUpTether ht h hD rfl
    have h6 := wanUpV6Tether h4.1 h4.2 hD rfl sh.backhaulIpv6Prefix
    have htold : told t = Function.update (Function.update (fun _ => false) IpType.v4 (false || t.v4)) IpType.v6
        (Function.update (fun _ => false) IpType.v4 (false || t.v4) IpType.v6 || decide (t.v6.length = 1)) := by
      funext ip
      cases ip with
      | v4 => rfl
      | v6 => simp [told]
      | max => rfl
    rw [htold]
    exact h6
  | true =>
    have h6 := wanUpV6Tether ht h hD rfl sh.backhaulIpv6Prefix
    have h4 := wanUpTether h6.1 h6.2 hD rfl
    have htold : told t = Function.update (Function.update (fun _ => false) IpType.v6 (false || decide (t.v6.length = 1))) IpType.v4
        (Function.update (fun _ => false) IpType.v6 (false || decide (t.v6.length = 1)) IpType.v4 || t.v4) := by
      funext ip
      cases ip with
      | v4 => simp [told]
      | v6 => simp [told]
      | max => rfl
    rw [htold]
    exact h4

end Up

/-! ## A LAN interface -/

def sampleLan : LanConf where
  ipaIfNum := 2
  ipaIfCate := .lanIf
  rxProp := some ⟨⟨4, none⟩, []⟩
  wlanApIndex := 0
  appsLanCons := 17
  pipes := 20

def sampleDown : LanShared where
  wanUp := false
  wanUpV6 := false
  ipaIfNumTetherV4 := [2]
  ipaIfNumTetherV6 := [2]
  xlatMuxId := 0
  backhaulIsStaMode := false
  backhaulIsWanBridge := false
  backhaulIpv6Prefix := 0
  extPropV4 := []
  extPropV6 := []
  qmapId := 0
  ipaSwRtEnable := false
  ipacmOduEnable := false
  ipacmOduRouterMode := false

def sampleAddr : LanAddr := ⟨.v4, some 2, 0xC0A80101, 0, by decide⟩

theorem LanOut.sound_new : ({} : LanOut).Sound := ⟨List.nodup_nil, List.not_mem_nil⟩

end HiaeCommon
