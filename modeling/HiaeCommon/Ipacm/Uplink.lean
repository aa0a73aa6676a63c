/-
The uplink rules of an interface, handler by handler: what each installs and
records, and what an address event comes to. The uplink rules of a family are
those of the modem (`wanUl`) and that of `handle_wan_up` (`lanWan`).
-/
import HiaeCommon.Ipacm.LanFrame

namespace HiaeCommon

open Lib (Handles Ledger untilFailure)

/-- The rules an interface has for a use and a family. -/
def ofUse (n : Nat) (use : FltUse) (ip : IpType) (s : FltSlot) : Bool := s.owner = n ∧ s.use = use ∧ s.ip = ip

theorem ofUse_blind {n : Nat} {use use' : FltUse} {ip : IpType} (h : use' ≠ use) : Blind (ofUse n use ip) use' := by
  intro s hs
  simp [ofUse, hs, h]

/-- The uplink rules of the modem are all installed. -/
structure Installs (D : LanDriver) (cfg : LanConf) (prop : List ExtProp) (iptype : IpType) : Prop where
  rx : cfg.rxProp ≠ none
  ne_nil : prop ≠ []
  fits : prop.length ≤ maxWanUlFilterRules
  sent : D.fails (.sendRuleIndex iptype) = false
  added : D.fails (.addFlt .wanUl iptype) = false
  kept : ∀ i, D.refuses (.addFlt .wanUl iptype) i = false

/-- The rules of one set. -/
def uplinkRules (rx : RxProps) (cate : LanCate) (sh : LanShared) (prop : List ExtProp) (iptype : IpType) (xlatMuxId : BitVec 8) :
    List FltRule := prop.map (uplinkRule rx.rx iptype (uplinkAction cate sh iptype) xlatMuxId)

def RxProps.slot (rx : RxProps) (n : Nat) (use : FltUse) (ip : IpType) (rule : FltRule) : FltSlot := ⟨rx.rx.srcPipe, ip, n, use, rule⟩

/-- The rules of one family are not of another. -/
theorem ofUse_of_ne {n : Nat} {use : FltUse} {ip ip' : IpType} (h : ip' ≠ ip) {s : FltSlot} (hs : ofUse n use ip s = true) :
    ofUse n use ip' s = false := by
  simp only [ofUse, Bool.decide_and, Bool.and_eq_true, decide_eq_true_eq] at hs
  simp [ofUse, hs.2.2, Ne.symm h]

theorem ofUse_slot (rx : RxProps) (n : Nat) (use : FltUse) (ip : IpType) {rules : List FltRule} :
    ∀ s ∈ rules.map (rx.slot n use ip), ofUse n use ip s = true := by
  intro s hs
  obtain ⟨r, _, rfl⟩ := List.mem_map.1 hs
  simp [ofUse, RxProps.slot]

namespace Lan

variable {D : LanDriver} {cfg : LanConf} {sh : LanShared} {f : Lan} {o : LanOut}

/-! ## The fields -/

@[simp] theorem setUl_addrs (ip : IpType) (u : UplinkRules) : (f.setUl ip u).addrs = f.addrs := by cases ip <;> rfl

@[simp] theorem setUl_isActive (ip : IpType) (u : UplinkRules) : (f.setUl ip u).isActive = f.isActive := by cases ip <;> rfl

theorem setUl_ul_of_ne {ip ip' : IpType} (h : ip' ≠ ip) (h1 : ip ≠ .max) (h2 : ip' ≠ .max) (u : UplinkRules) :
    (f.setUl ip u).ul ip' = f.ul ip' := by
  cases ip with
  | v4 =>
    cases ip' with
    | v4 => exact absurd rfl h
    | v6 => rfl
    | max => exact absurd rfl h2
  | v6 =>
    cases ip' with
    | v4 => rfl
    | v6 => exact absurd rfl h
    | max => exact absurd rfl h2
  | max => exact absurd rfl h1

@[simp] theorem setUl_ul_self (ip : IpType) (u : UplinkRules) : (f.setUl ip u).ul ip = u := by cases ip <;> rfl

/-! ## The modem's rules -/

theorem handleUplinkFilterRule_adds {prop : List ExtProp} {ip : IpType} {x : BitVec 8} :
    LanOut.Adds [.wanUl] o (f.handleUplinkFilterRule D cfg sh prop ip x o).2.2 := by
  unfold handleUplinkFilterRule
  cases cfg.rxProp with
  | none => exact .refl o
  | some rx =>
    dsimp only
    split
    · exact .refl o
    split
    · exact .refl o
    split
    · exact .refl o
    split
    · exact .refl o
    have h := (@LanOut.Adds.of_flt [.wanUl] o (o.notify ⟨rx.rx.srcPipe, prop.map ExtProp.ruleId, sh.qmapId⟩)
      rfl).trans (LanOut.Adds.addFilteringRule (D := D) cfg.ipaIfNum rx.rx.srcPipe .wanUl ip
        (prop.map fun p => (true, uplinkRule rx.rx ip (uplinkAction cfg.ipaIfCate sh ip) x p)))
    split
    next he => rwa [he] at h
    next he =>
      rw [he] at h
      exact h.addFltRuleCount _ _ _ _

/-- Where nothing can be installed, nothing changes. -/
theorem handleUplinkFilterRule_of_nothing {prop : List ExtProp} {ip : IpType} {x : BitVec 8}
    (h : cfg.rxProp = none ∨ prop = [] ∨ maxWanUlFilterRules < prop.length) :
    (f.handleUplinkFilterRule D cfg sh prop ip x o).2 = (f, o) := by
  unfold handleUplinkFilterRule
  cases hrx : cfg.rxProp with
  | none => rfl
  | some rx =>
    dsimp only
    rcases h with h | h | h
    · rw [hrx] at h
      cases h
    · rw [if_pos h]
    · rw [if_neg (by rintro rfl; exact absurd h (by decide)), if_pos h]

/-- A set of rules is installed at the rear, and its handles are recorded behind those that were. -/
theorem handleUplinkFilterRule_of_installs {rx : RxProps} {prop : List ExtProp} {ip : IpType} {x : BitVec 8} (hip : ip ≠ .max)
    (hrx : cfg.rxProp = some rx) (h : Installs D cfg prop ip) :
    ∃ hs : List Nat, hs.length = prop.length ∧
      (f.handleUplinkFilterRule D cfg sh prop ip x o).2.1 = f.setUl ip { f.ul ip with
        wanUlFlRuleHdl := fun i =>
          if (f.ul ip).numWanUlFlRule ≤ i ∧ i < (f.ul ip).numWanUlFlRule + hs.length
          then (hs[i - (f.ul ip).numWanUlFlRule]?).getD noFltHdl else (f.ul ip).wanUlFlRuleHdl i
        numWanUlFlRule := (f.ul ip).numWanUlFlRule + hs.length } ∧
      (f.handleUplinkFilterRule D cfg sh prop ip x o).2.2.flt.live = o.flt.live ++
        hs.zip ((uplinkRules rx cfg.ipaIfCate sh prop ip x).map (rx.slot cfg.ipaIfNum .wanUl ip)) := by
  obtain ⟨hs, hlen, hfst, hlive⟩ := @Ledger.install_rear _ D.handles (D.refuses (.addFlt .wanUl ip)) o.flt
    ((uplinkRules rx cfg.ipaIfCate sh prop ip x).map (rx.slot cfg.ipaIfNum .wanUl ip)) h.kept
  have hlen' : hs.length = prop.length := by rw [hlen, List.length_map, uplinkRules, List.length_map]
  refine ⟨hs, hlen', ?_⟩
  unfold handleUplinkFilterRule
  rw [hrx]
  dsimp only
  rw [if_neg h.ne_nil, if_neg (by have := h.fits; omega), if_neg hip, if_neg (by simp [h.sent])]
  dsimp only [LanOut.addFilteringRule]
  rw [if_neg (by simp [h.added])]
  have hrules : (prop.map fun p => (true, uplinkRule rx.rx ip (uplinkAction cfg.ipaIfCate sh ip) x p)).map
        (fun r => (r.1, (⟨rx.rx.srcPipe, ip, cfg.ipaIfNum, .wanUl, r.2⟩ : FltSlot))) =
      ((uplinkRules rx cfg.ipaIfCate sh prop ip x).map (rx.slot cfg.ipaIfNum .wanUl ip)).map fun r => (true, r) := by
    simp only [uplinkRules, List.map_map]
    rfl
  dsimp only [LanOut.notify_flt]
  rw [hrules, LanOut.addFltRuleCount_flt]
  refine ⟨?_, hlive⟩
  rw [hfst, List.length_map]
  congr 2
  funext i
  split
  · rw [List.getElem?_map]
    cases hs[i - (f.ul ip).numWanUlFlRule]? <;> rfl
  · rfl

/-- The rules of a family are installed the first time, for IPv6 while there is one address. -/
theorem handleWanUpEx_eq {prop : List ExtProp} {ip : IpType} {x : BitVec 8} (hq : writeQmapid D cfg ip = true) :
    (f.handleWanUpEx D cfg sh prop ip x o).2 =
      if ip ≠ .max ∧ (f.ul ip).modemUlSet = false ∧ (ip = .v6 → f.numDftRtV6 = 1) then (f.installUplink D cfg sh prop ip x o).2
      else (f, o) := by
  unfold handleWanUpEx
  rw [if_neg (by simp [hq])]
  cases ip with
  | v4 =>
    rw [if_neg (by simp)]
    cases hset : f.ulV4.modemUlSet with
    | true => rw [if_neg (by simp), if_neg (by simp [ul, hset])]
    | false => rw [if_pos ⟨rfl, rfl⟩, if_pos ⟨by decide, hset, by simp⟩]
  | v6 =>
    by_cases h : f.numDftRtV6 = 1 ∧ f.ulV6.modemUlSet = false
    · rw [if_pos ⟨h.1, rfl, h.2⟩, if_pos ⟨by decide, h.2, fun _ => h.1⟩]
    · rw [if_neg (fun h' => h ⟨h'.1, h'.2.2⟩), if_neg (by simp), if_neg fun h' => h ⟨h'.2.2 rfl, h'.2.1⟩]
  | max => rw [if_neg (by simp), if_neg (by simp), if_neg (by simp)]

end Lan

/-! ## An address event -/

/-- The address is one of this interface. -/
def LanAddr.IsOf (data : LanAddr) (cfg : LanConf) : Prop := Lan.invalidAddr data = false ∧ data.ipaIfIndex = some cfg.ipaIfNum

instance (data : LanAddr) (cfg : LanConf) : Decidable (data.IsOf cfg) := inferInstanceAs (Decidable (_ ∧ _))

namespace Lan

variable {D : LanDriver} {cfg : LanConf} {sh : LanShared} {f : Lan} {o : LanOut}

theorem lanAddrAdd_eq (hc : cfg.ipaIfCate ≠ .oduIf) {data : LanAddr} (h : data.IsOf cfg) (hacc : f.acceptsAddr data = true) :
    f.lanAddrAdd D cfg sh data o =
      (let (ok, f, o) := f.setUpAddr D cfg sh data o
      let o := if ok ∧ data.iptype = .v4 then o.post (.handleLanUp data.ipv4Addr (o.privateSubnet.subnetMask 0)) else o
      if ok = true ∧ sh.ipaSwRtEnable = true then f.handleSoftwareRoutingEnable D cfg o else (f, o)) := by
  unfold lanAddrAdd
  rw [if_neg (by simp [h.1, h.2]), if_neg (fun h => hc h.2.2)]
  simp only [hacc, if_true]

/-- An address the interface takes is set up, and the software routing may follow. -/
theorem addrAdd_of_accepts (hc : cfg.ipaIfCate ≠ .oduIf) (ha : f.isActive = true) {data : LanAddr} (h : data.IsOf cfg)
    (hacc : f.acceptsAddr data = true) :
    ∃ o₀, o₀.flt = o.flt ∧
      (f.eventCallback D cfg sh (.addrAdd data) o).1.core = (f.setUpAddr D cfg sh data o₀).2.1.core ∧
      LanOut.Adds [.softwareRouting] (f.setUpAddr D cfg sh data o₀).2.2 (f.eventCallback D cfg sh (.addrAdd data) o).2 := by
  have hsw : ∀ (ok : Bool) (f : Lan) (o o' : LanOut), o'.flt = o.flt →
      (if ok = true ∧ sh.ipaSwRtEnable = true then f.handleSoftwareRoutingEnable D cfg o' else (f, o')).1.core = f.core ∧
      LanOut.Adds [.softwareRouting] o
        (if ok = true ∧ sh.ipaSwRtEnable = true then f.handleSoftwareRoutingEnable D cfg o' else (f, o')).2 := by
    intro ok f o o' hflt
    split
    · exact ⟨handleSoftwareRoutingEnable_core, (LanOut.Adds.of_flt hflt).trans handleSoftwareRoutingEnable_adds⟩
    · exact ⟨rfl, .of_flt hflt⟩
  unfold eventCallback
  rw [if_neg (by simp [ha])]
  dsimp only
  split
  next hw =>
    unfold wlanAddrAdd
    rw [if_neg (by simp [h.1, h.2, hacc])]
    refine ⟨if data.iptype = .v4 then o.post (.handleWlanUp data.ipv4Addr (o.privateSubnet.subnetMask 0)) else o, ?_, ?_⟩
    · split <;> rfl
    · dsimp only
      generalize f.setUpAddr D cfg sh data _ = r
      cases r with
      | mk ok r =>
        cases ok with
        | false => exact ⟨rfl, .refl _⟩
        | true =>
          have := hsw true r.1 r.2 r.2 rfl
          simpa using this
  next hw =>
    refine ⟨o, rfl, ?_⟩
    rw [lanAddrAdd_eq hc h hacc]
    generalize f.setUpAddr D cfg sh data o = r
    exact hsw r.1 r.2.1 r.2.2 _ (by split <;> rfl)

/-- Any other address changes nothing beside the software routing. -/
theorem addrAdd_of_not (hc : cfg.ipaIfCate ≠ .oduIf) {data : LanAddr} (h : ¬ (data.IsOf cfg ∧ f.acceptsAddr data = true)) :
    (f.eventCallback D cfg sh (.addrAdd data) o).1.core = f.core ∧
      LanOut.Adds [.softwareRouting] o (f.eventCallback D cfg sh (.addrAdd data) o).2 := by
  unfold eventCallback
  split
  · exact ⟨rfl, .refl o⟩
  dsimp only
  split
  next hw =>
    unfold wlanAddrAdd
    rw [if_pos]
    · exact ⟨rfl, .refl o⟩
    · by_contra hn
      simp only [not_or, Bool.not_eq_true, not_not, Bool.not_eq_false] at hn
      exact h ⟨⟨hn.1, hn.2.1⟩, hn.2.2⟩
  next hw =>
    unfold lanAddrAdd
    split
    · exact ⟨rfl, .refl o⟩
    next hv =>
      simp only [not_or, Bool.not_eq_true, not_not] at hv
      have hacc : f.acceptsAddr data = false := by
        by_contra hn
        exact h ⟨⟨hv.1, hv.2⟩, by simpa using hn⟩
      rw [if_neg (fun h => hc h.2.2)]
      simp only [hacc, Bool.false_eq_true, if_false, true_and]
      split
      · exact ⟨handleSoftwareRoutingEnable_core, handleSoftwareRoutingEnable_adds⟩
      · exact ⟨rfl, .refl o⟩

end Lan

end HiaeCommon
