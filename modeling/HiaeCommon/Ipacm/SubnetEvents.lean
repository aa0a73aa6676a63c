/-
An IPv4 address event and the interface down event, seen from the private
subnets: what they do to the table and to the row of the interface, and that
everybody else's rules stay.
-/
import HiaeCommon.Ipacm.PrivateSubnets

namespace HiaeCommon

open Lib (Handles Ledger untilFailure)

namespace LanOut

/-- The rules of every other interface are as they were, and if the table is not, `P` held and the change was posted. -/
structure Turns (n : Nat) (P : Prop) (o o' : LanOut) : Prop where
  sound : o.Sound → o'.Sound
  view : ∀ p, (∀ s : FltSlot, s.owner = n → p s = false) → o'.flt.view p = o.flt.view p
  table : (o'.privateSubnet = o.privateSubnet ∧ o'.changes = o.changes) ∨ (P ∧ o'.changes = o.changes ++ [n])

/-- Everybody else's rules are as they were, and of one's own some went. -/
structure Drops (n : Nat) (o o' : LanOut) : Prop where
  apart : Apart n o o'
  sub : ∀ x ∈ o'.flt.live, x ∈ o.flt.live

variable {D : LanDriver} {n : Nat} {P : Prop} {o o' o₁ o₂ o₃ : LanOut} {h : Nat}

theorem Apart.turns (ha : Apart n o o') : Turns n P o o' := ⟨ha.sound, ha.view, .inl ⟨ha.privateSubnet, ha.changes⟩⟩

theorem Turns.apart (ht : Turns n P o₁ o₂) (ha : Apart n o₂ o₃) : Turns n P o₁ o₃ := by
  refine ⟨fun ho => ha.sound (ht.sound ho), fun p hp => (ha.view p hp).trans (ht.view p hp), ?_⟩
  rw [ha.privateSubnet, ha.changes]
  exact ht.table

theorem Apart.then (ha : Apart n o₁ o₂) (ht : Turns n P o₂ o₃) : Turns n P o₁ o₃ := by
  refine ⟨fun ho => ht.sound (ha.sound ho), fun p hp => (ht.view p hp).trans (ha.view p hp), ?_⟩
  rw [← ha.privateSubnet, ← ha.changes]
  exact ht.table

theorem Turns.imp {P' : Prop} (ht : Turns n P o o') (hp : P → P') : Turns n P' o o' :=
  ⟨ht.sound, ht.view, ht.table.imp_right fun h => ⟨hp h.1, h.2⟩⟩

theorem Turns.ofUse_view (ht : Turns n P o o') {m : Nat} (hm : m ≠ n) (use : FltUse) (ip : IpType) :
    o'.flt.view (ofUse m use ip) = o.flt.view (ofUse m use ip) := ht.view _ fun s hn => by simp [ofUse, hn, Ne.symm hm]

theorem Turns.own (ht : Turns n P o o') {m : Nat} (hm : m ≠ n) (hh : Own m o h) : Own m o' h :=
  hh.of_view (ht.view _ fun s hn => by simp [hn, Ne.symm hm])

theorem changes_post (m : LanMsg) : (o.post m).changes = o.changes ++ [m].filterMap LanMsg.changed := List.filterMap_append

/-- `AddPrivateSubnet` posts the change it makes. -/
theorem addPrivateSubnet_turns (ipAddr : BitVec 32) :
    Turns n (o.privateSubnet.has ipAddr = false ∧ o.privateSubnet.num < ipaMaxPrivateSubnetEntries) o (o.addPrivateSubnet ipAddr n) := by
  refine ⟨fun ho => ho.of_flt (by simp), fun _ _ => by simp, ?_⟩
  unfold addPrivateSubnet
  dsimp only
  split
  · exact .inl ⟨rfl, rfl⟩
  next hh =>
    split
    next hlt => exact .inr ⟨⟨by simpa [PrivateSubnetTable.has] using hh, hlt⟩, changes_post _⟩
    next => exact .inl ⟨rfl, rfl⟩

@[simp] theorem delPrivateSubnet_flt (ipAddr : BitVec 32) (n : Nat) : (o.delPrivateSubnet ipAddr n).flt = o.flt := by
  unfold delPrivateSubnet
  dsimp only
  split <;> rfl

theorem delPrivateSubnet_turns (ipAddr : BitVec 32) :
    Turns n (o.privateSubnet.has ipAddr = true) o (o.delPrivateSubnet ipAddr n) := by
  refine ⟨fun ho => ho.of_flt (by simp), fun _ _ => by simp, ?_⟩
  unfold delPrivateSubnet
  dsimp only
  split
  next => exact .inl ⟨rfl, rfl⟩
  next cnt hf =>
    refine .inr ⟨?_, changes_post _⟩
    have hm := List.mem_of_find?_eq_some hf
    have hp := List.find?_some hf
    exact List.any_eq_true.2 ⟨cnt, hm, hp⟩

namespace Drops

theorem refl (n : Nat) (o : LanOut) : Drops n o o := ⟨.refl n o, fun _ => id⟩

theorem trans (h : Drops n o₁ o₂) (h' : Drops n o₂ o₃) : Drops n o₁ o₃ := ⟨h.apart.trans h'.apart, fun x hx => h.sub x (h'.sub x hx)⟩

theorem of_flt (ha : Apart n o o') (hf : o'.flt = o.flt) : Drops n o o' := ⟨ha, fun x hx => by rwa [hf] at hx⟩

theorem spare (hd : Drops n o o') (hs : Spare n o h) : Spare n o' h := fun s hm => hs s (hd.sub _ hm)

theorem post {m : LanMsg} (hm : m.changed = none) : Drops n o (o.post m) := .of_flt (.post hm) rfl

end Drops

/-- The deletion of rules of one's own. -/
theorem deleteFilteringHdls_drops (use : FltUse) (ip : IpType) {hdls : List Nat} (hs : ∀ k ∈ hdls, Spare n o k) :
    Drops n o (o.deleteFilteringHdls D use ip hdls).2 := by
  have hfix : (o.deleteFilteringHdls D use ip hdls).2.privateSubnet = o.privateSubnet ∧
      (o.deleteFilteringHdls D use ip hdls).2.changes = o.changes ∧
      ∀ x ∈ (o.deleteFilteringHdls D use ip hdls).2.flt.live, x ∈ o.flt.live := by
    refine Lib.untilFailure_keeps (fun o' : LanOut => o'.privateSubnet = o.privateSubnet ∧ o'.changes = o.changes ∧
      ∀ x ∈ o'.flt.live, x ∈ o.flt.live) (fun x _ o' ho' => ?_) ⟨rfl, rfl, fun _ => id⟩
    dsimp only
    split
    · exact ho'
    split
    · exact ho'
    · exact ⟨ho'.1, ho'.2.1, fun y hy => ho'.2.2 y (Ledger.mem_del.1 hy).1⟩
  refine ⟨⟨fun h => h.deleteFilteringHdls use ip hdls, fun p hp => ?_, hfix.1, hfix.2.1⟩, hfix.2.2⟩
  refine deleteFilteringHdls_view fun k hk r hr => ?_
  obtain ⟨hr, hpr⟩ := List.mem_filter.1 hr
  rw [hp r (hs k hk r hr)] at hpr
  cases hpr

theorem deleteFilteringHdl_drops (use : FltUse) (ip : IpType) {k : Nat} (hs : Spare n o k) :
    Drops n o (o.deleteFilteringHdls D use ip [k]).2 :=
  deleteFilteringHdls_drops use ip fun j hj => by rw [List.mem_singleton.1 hj]; exact hs

end LanOut

namespace Lan

/-! ## An address -/

section Addr

variable {D : LanDriver} {cfg : LanConf} {sh : LanShared} {f : Lan} {o : LanOut} {rx : RxProps}

/-- In bridge mode an ODU only gets the rules of the private subnets. -/
def oduBridge (cfg : LanConf) (sh : LanShared) : Prop :=
  sh.ipacmOduEnable = true ∧ sh.ipacmOduRouterMode = false ∧ cfg.ipaIfCate = .oduIf

instance (cfg : LanConf) (sh : LanShared) : Decidable (oduBridge cfg sh) := inferInstanceAs (Decidable (_ ∧ _ ∧ _))

/-- The subnet of an address. -/
def subnetOf (a : LanAddr) : BitVec 32 := (a.ipv4Addr >>> 8) <<< 8

/-- What a new row does to everything else. -/
structure NewRow (rx : RxProps) (n : Nat) (P : Prop) (s s' : Lan × LanOut) : Prop where
  turns : s.2.Turns n P s'.2
  held : s'.1.AllHdls (LanOut.Own n s'.2)
  row : Row rx n s' s'.2.privateSubnet.rule

theorem checkWanUp_addrs : (f.checkWanUp D cfg sh .v4 o).1.addrs = f.addrs ∧ (f.checkWanUp D cfg sh .v4 o).1.isActive = f.isActive := by
  rw [checkWanUp_v4]
  split
  · unfold wanUp
    split
    · exact handleWanUpEx_addrs
    · exact handleWanUp_fields .v4 (fun f' => f'.addrs = f.addrs ∧ f'.isActive = f.isActive) ⟨rfl, rfl⟩ (fun _ => ⟨rfl, rfl⟩)
        fun _ => ⟨rfl, rfl⟩
  · exact ⟨rfl, rfl⟩

theorem checkWanUp_adds (hD : D.Succeeds) : LanOut.Adds [.wanUl, .lanWan] o (f.checkWanUp D cfg sh .v4 o).2 := by
  rw [checkWanUp_v4]
  split
  · unfold wanUp
    split
    · have hq : writeQmapid D cfg .v4 = true := by
        unfold writeQmapid
        cases cfg.rxProp with
        | none => rfl
        | some rx => simp [hD.fails]
      rw [handleWanUpEx_eq hq]
      split
      · exact handleUplinkFilterRule_adds.weaken (by decide)
      · exact .refl o
    · exact (handleWanUp_adds .v4).weaken (by decide)
  · exact .refl o

/-- The rules of the private subnets, where there were none. -/
theorem newRow (hD : D.Succeeds) (hrx : cfg.rxProp = some rx) (ho : o.Sound) (hh : f.AllHdls (LanOut.Own cfg.ipaIfNum o))
    (hv : o.flt.view (ofUse cfg.ipaIfNum .privateSubnet .v4) = []) :
    let r := f.addDummyPrivateSubnetFltRule D cfg .v4 o
    let o' := r.1.handlePrivateSubnetAndroid D cfg .v4 r.2
    Gains cfg.ipaIfNum (f, o) (r.1, o') ∧ Row rx cfg.ipaIfNum (r.1, o') o'.privateSubnet.rule := by
  intro r o'
  have hne : cfg.rxProp ≠ none := by simp [hrx]
  have h1 := @addDummyPrivateSubnetFltRule_gains D cfg f o
  have hrow := @addDummyPrivateSubnetFltRule_row D cfg f o rx hD hrx hv
  have ho1 := h1.apart.sound ho
  have h2 := handlePrivateSubnetAndroid_gains hD hne ho1 (h1.held hh).privateFl
  refine ⟨h1.trans h2, ?_⟩
  rw [show o'.privateSubnet = r.2.privateSubnet from h2.apart.privateSubnet]
  exact handlePrivateSubnetAndroid_row hD hne hrow ho1.nodup

/-- What `handle_addr_evt` does for IPv4. -/
theorem handleAddrEvtV4_does (hD : D.Succeeds) (data : LanAddr) :
    let r := f.handleAddrEvtV4 D cfg data o
    let P := o.privateSubnet.has (subnetOf data) = false ∧ o.privateSubnet.num < ipaMaxPrivateSubnetEntries
    r.1 = true ∧ o.Turns cfg.ipaIfNum P r.2.2 ∧
      (f.AllHdls (LanOut.Own cfg.ipaIfNum o) → r.2.1.AllHdls (LanOut.Own cfg.ipaIfNum r.2.2)) := by
  intro r P
  have hturn := @LanOut.addPrivateSubnet_turns cfg.ipaIfNum o (subnetOf data)
  have hflt : (o.addPrivateSubnet (subnetOf data) cfg.ipaIfNum).flt = o.flt := by simp
  show (f.handleAddrEvtV4 D cfg data o).1 = true ∧ o.Turns cfg.ipaIfNum P (f.handleAddrEvtV4 D cfg data o).2.2 ∧
    (f.AllHdls (LanOut.Own cfg.ipaIfNum o) →
      (f.handleAddrEvtV4 D cfg data o).2.1.AllHdls (LanOut.Own cfg.ipaIfNum (f.handleAddrEvtV4 D cfg data o).2.2))
  unfold handleAddrEvtV4
  dsimp only
  split
  next o₁ he =>
    unfold LanOut.addRoutingRule at he
    rw [if_neg (by simp [hD.fails])] at he
    cases he
  next h o₁ he =>
    have hrt := LanOut.Apart.addRoutingRule (D := D) (n := cfg.ipaIfNum) (o := o.addPrivateSubnet (subnetOf data) cfg.ipaIfNum)
      (addrRtRule cfg .lanV4 (data.ipv4Addr.setWidth 128))
    have hrtflt := LanOut.addRoutingRule_flt (D := D) (o := o.addPrivateSubnet (subnetOf data) cfg.ipaIfNum)
      (addrRtRule cfg .lanV4 (data.ipv4Addr.setWidth 128))
    rw [show (o.addPrivateSubnet (subnetOf data) cfg.ipaIfNum).addRoutingRule D
      (addrRtRule cfg .lanV4 (data.ipv4Addr.setWidth 128)) = (some h, o₁) from he] at hrt hrtflt
    have hup := @setUpV4_gains D cfg
      ((({ f with ifIpv4Subnet := subnetOf data } : Lan).configIpType .v4).setDftRtRuleHdl 0 h) o₁ hD
    refine ⟨rfl, (hturn.apart hrt).apart hup.apart, fun hh => hup.held ?_⟩
    have hh : f.AllHdls (LanOut.Own cfg.ipaIfNum o₁) :=
      hh.imp fun _ => LanOut.Own.mono fun x hx => by rw [show o₁.flt = o.flt from hrtflt.trans hflt]; exact hx
    exact ⟨hh.icmpV4, hh.ipv6Prefix, hh.lanWan, hh.swV4, hh.swV6, hh.dftV4, hh.dftV6, hh.privateFl, hh.ulV4, hh.ulV6⟩

theorem configIpType_v4 (h : f.ipType = .null ∨ f.ipType = .v4) : (f.configIpType .v4).ipType = .v4 := by
  unfold configIpType
  rw [if_pos rfl]
  rcases h with h | h <;> rw [h]

/-- The interface takes its first address. -/
theorem setUpAddr_newRow (hD : D.Succeeds) (hrx : cfg.rxProp = some rx) (ho : o.Sound) (hh : f.AllHdls (LanOut.Own cfg.ipaIfNum o))
    (hv : o.flt.view (ofUse cfg.ipaIfNum .privateSubnet .v4) = []) (ht : f.ipType = .null ∨ f.ipType = .v4) {a : LanAddr}
    (ha : a.iptype = .v4) :
    let r := f.setUpAddr D cfg sh a o
    r.1 = true ∧ r.2.1.isActive = f.isActive ∧ r.2.1.ipType = .v4 ∧
      NewRow rx cfg.ipaIfNum (o.privateSubnet.has (subnetOf a) = false ∧ o.privateSubnet.num < ipaMaxPrivateSubnetEntries) (f, o) r.2 := by
  intro r
  obtain ⟨hok, hturn, hheld⟩ := @handleAddrEvtV4_does D cfg f o hD a
  have hcore := (@handleAddrEvtV4_spec D cfg f o a).2
  have hview := (@handleAddrEvtV4_adds D cfg f o a).view (ofUse cfg.ipaIfNum .privateSubnet .v4) fun u hu =>
    ofUse_blind (by rintro rfl; exact absurd hu (by decide))
  have hr : r = f.setUpAddr D cfg sh a o := rfl
  clear_value r
  unfold setUpAddr addrRules handleAddrEvt at hr
  rw [if_pos ha, ha] at hr
  revert hr hok hturn hheld hcore hview
  generalize f.handleAddrEvtV4 D cfg a o = p
  intro hok hturn hheld hcore hview hr
  obtain ⟨ok, f₁, o₁⟩ := p
  cases hok
  dsimp only at hr hturn hheld hcore hview
  obtain ⟨hgain, hrow⟩ := newRow (f := f₁) hD hrx (hturn.sound ho) (hheld hh) (hview.trans hv)
  have hdummy := @addDummyPrivateSubnetFltRule_core D cfg f₁ o₁ .v4
  revert hr hgain hrow hdummy
  generalize f₁.addDummyPrivateSubnetFltRule D cfg .v4 o₁ = q
  obtain ⟨f₂, o₂⟩ := q
  intro hr hgain hrow hdummy
  dsimp only at hr hgain hrow hdummy
  have hcheck := @checkWanUp_gains D cfg sh f₂ (f₂.handlePrivateSubnetAndroid D cfg .v4 o₂) hD
  obtain ⟨haddrs, hactive⟩ := @checkWanUp_addrs D cfg sh f₂ (f₂.handlePrivateSubnetAndroid D cfg .v4 o₂)
  have hadds := @checkWanUp_adds D cfg sh f₂ (f₂.handlePrivateSubnetAndroid D cfg .v4 o₂) hD
  rw [hr]
  refine ⟨rfl, ?_, ?_, (hturn.apart hgain.apart).apart hcheck.apart, hcheck.held (hgain.held (hheld hh)), ?_⟩
  · exact hactive.trans ((congrArg Prod.fst hdummy).trans (congrArg Prod.fst hcore))
  · refine (congrArg LanAddrs.ipType haddrs).trans ((congrArg (fun c => c.2.2.ipType) hdummy).trans ?_)
    exact (congrArg (fun c => c.2.2.ipType) hcore).trans (configIpType_v4 ht)
  · dsimp only
    rw [hcheck.apart.privateSubnet]
    refine hrow.of_same (congrArg LanAddrs.privateFlRuleHdl haddrs) (hadds.view _ fun u hu => ofUse_blind ?_)
    rintro rfl
    exact absurd hu (by decide)

/-! ### The event -/

/-- An IPv4 address for which the interface installs the rules of the private subnets. -/
def installs (cfg : LanConf) (sh : LanShared) (f : Lan) (a : LanAddr) : Prop := oduBridge cfg sh ∨ f.acceptsAddr a = true

instance (cfg : LanConf) (sh : LanShared) (f : Lan) (a : LanAddr) : Decidable (f.installs cfg sh a) :=
  inferInstanceAs (Decidable (_ ∨ _))

theorem NewRow.gains {n : Nat} {P : Prop} {s s' s'' : Lan × LanOut} (h : NewRow rx n P s s') (hg : Gains n s' s'')
    (hp : s''.1.privateFlRuleHdl = s'.1.privateFlRuleHdl)
    (hv : s''.2.flt.view (ofUse n .privateSubnet .v4) = s'.2.flt.view (ofUse n .privateSubnet .v4)) : NewRow rx n P s s'' := by
  refine ⟨h.turns.apart hg.apart, hg.held h.held, ?_⟩
  rw [hg.apart.privateSubnet]
  exact h.row.of_same hp hv

/-- The software routing may follow. -/
theorem NewRow.softwareRouting {n : Nat} {P : Prop} {s : Lan × LanOut} (hn : cfg.ipaIfNum = n) (h : NewRow rx n P s (f, o)) (c : Prop)
    [Decidable c] {s' : Lan × LanOut} (he : s' = if c then f.handleSoftwareRoutingEnable D cfg o else (f, o)) :
    NewRow rx n P s s' ∧ s'.1.isActive = f.isActive ∧ s'.1.ipType = f.ipType := by
  subst hn he
  split
  · have hcore := @handleSoftwareRoutingEnable_core D cfg f o
    refine ⟨h.gains handleSoftwareRoutingEnable_gains (congrArg (fun c => c.2.2.privateFlRuleHdl) hcore) ?_, congrArg Prod.fst hcore,
      congrArg (fun c => c.2.2.ipType) hcore⟩
    exact handleSoftwareRoutingEnable_adds.view _ fun u hu => ofUse_blind (by rw [List.mem_singleton.1 hu]; decide)
  · exact ⟨h, rfl, rfl⟩

theorem lanAddrAdd_bridge {a : LanAddr} (ha : a.iptype = .v4) (hof : a.IsOf cfg) (hb : oduBridge cfg sh) :
    f.lanAddrAdd D cfg sh a o = ((f.addDummyPrivateSubnetFltRule D cfg .v4 o).1,
      (f.addDummyPrivateSubnetFltRule D cfg .v4 o).1.handlePrivateSubnetAndroid D cfg .v4
        (f.addDummyPrivateSubnetFltRule D cfg .v4 o).2) := by
  have hb' : sh.ipacmOduEnable = true ∧ sh.ipacmOduRouterMode = false ∧ cfg.ipaIfCate = .oduIf := hb
  unfold lanAddrAdd
  rw [if_neg (by simp [hof.1, hof.2]), if_pos hb', ha, if_neg (by simp)]

/-- An address whose rules are installed. -/
theorem addrAdd_newRow (hD : D.Succeeds) (hrx : cfg.rxProp = some rx) (ho : o.Sound) (hh : f.AllHdls (LanOut.Own cfg.ipaIfNum o))
    (hact : f.isActive = true) (ht : f.ipType = .null ∨ f.ipType = .v4) {a : LanAddr} (ha : a.iptype = .v4) (hof : a.IsOf cfg)
    (hi : f.installs cfg sh a) (hv : o.flt.view (ofUse cfg.ipaIfNum .privateSubnet .v4) = []) :
    let s' := f.eventCallback D cfg sh (.addrAdd a) o
    s'.1.isActive = true ∧ s'.1.ipType = (if oduBridge cfg sh then f.ipType else .v4) ∧
      NewRow rx cfg.ipaIfNum (¬ oduBridge cfg sh ∧ o.privateSubnet.has (subnetOf a) = false ∧
        o.privateSubnet.num < ipaMaxPrivateSubnetEntries) (f, o) s' := by
  dsimp only
  unfold eventCallback
  rw [if_neg (by simp [hact])]
  dsimp only
  by_cases hb : oduBridge cfg sh
  · -- only the rules, and no change of the table
    rw [if_neg (by simp [hb.2.2]), if_pos hb, lanAddrAdd_bridge ha hof hb]
    obtain ⟨hgain, hrow⟩ := newRow hD hrx ho hh hv
    have hdummy := @addDummyPrivateSubnetFltRule_core D cfg f o .v4
    exact ⟨(congrArg Prod.fst hdummy).trans hact, congrArg (fun c => c.2.2.ipType) hdummy, hgain.apart.turns, hgain.held hh, hrow⟩
  have hacc : f.acceptsAddr a = true := hi.resolve_left hb
  rw [if_neg hb]
  split
  next hw =>
    have hpost : (o.post (.handleWlanUp a.ipv4Addr (o.privateSubnet.subnetMask 0))).Sound := ho.of_flt rfl
    obtain ⟨hok, hactive, htype, hrow⟩ := @setUpAddr_newRow D cfg sh f
      (o.post (.handleWlanUp a.ipv4Addr (o.privateSubnet.subnetMask 0))) rx hD hrx hpost hh hv ht a ha
    unfold wlanAddrAdd
    rw [if_neg (by simp [hof.1, hof.2, hacc])]
    dsimp only
    rw [if_pos ha]
    revert hok hactive htype hrow
    generalize f.setUpAddr D cfg sh a (o.post (.handleWlanUp a.ipv4Addr (o.privateSubnet.subnetMask 0))) = p
    intro hok hactive htype hrow
    obtain ⟨ok, f₁, o₁⟩ := p
    cases hok
    have hrow : NewRow rx cfg.ipaIfNum (¬ oduBridge cfg sh ∧ o.privateSubnet.has (subnetOf a) = false ∧
        o.privateSubnet.num < ipaMaxPrivateSubnetEntries) (f, o) (f₁, o₁) :=
      ⟨(LanOut.Apart.post rfl).then (hrow.turns.imp fun h => ⟨hb, h⟩), hrow.held, hrow.row⟩
    obtain ⟨h1, h2, h3⟩ := @NewRow.softwareRouting D _ _ _ _ _ _ _ rfl hrow (sh.ipaSwRtEnable = true) _ _ rfl
    exact ⟨h2.trans (hactive.trans hact), h3.trans htype, h1⟩
  next hw =>
    have hb' : ¬ (sh.ipacmOduEnable = true ∧ sh.ipacmOduRouterMode = false ∧ cfg.ipaIfCate = .oduIf) := hb
    obtain ⟨hok, hactive, htype, hrow⟩ := @setUpAddr_newRow D cfg sh f o rx hD hrx ho hh hv ht a ha
    unfold lanAddrAdd
    rw [if_neg (by simp [hof.1, hof.2]), if_neg hb', if_pos hacc]
    revert hok hactive htype hrow
    generalize f.setUpAddr D cfg sh a o = p
    intro hok hactive htype hrow
    obtain ⟨ok, f₁, o₁⟩ := p
    cases hok
    dsimp only
    rw [if_pos (show true = true ∧ a.iptype = .v4 from ⟨rfl, ha⟩)]
    have hrow : NewRow rx cfg.ipaIfNum (¬ oduBridge cfg sh ∧ o.privateSubnet.has (subnetOf a) = false ∧
        o.privateSubnet.num < ipaMaxPrivateSubnetEntries) (f, o) (f₁, o₁) :=
      ⟨hrow.turns.imp fun h => ⟨hb, h⟩, hrow.held, hrow.row⟩
    have hrow := hrow.gains (.of_flt (.post (m := .handleLanUp a.ipv4Addr (o₁.privateSubnet.subnetMask 0)) rfl) rfl fun _ => id) rfl rfl
    obtain ⟨h1, h2, h3⟩ := @NewRow.softwareRouting D _ _ _ _ _ _ _ rfl hrow (true = true ∧ sh.ipaSwRtEnable = true) _ _ rfl
    exact ⟨h2.trans (hactive.trans hact), h3.trans htype, h1⟩

/-- An address of another interface is not looked at. -/
theorem addrAdd_of_other {a : LanAddr} (h : a.ipaIfIndex ≠ some cfg.ipaIfNum) : f.eventCallback D cfg sh (.addrAdd a) o = (f, o) := by
  unfold eventCallback
  split
  · rfl
  dsimp only
  split
  · exact if_pos (.inr (.inl h))
  · exact if_pos (.inr h)

/-- Any other address comes to the software routing at most. -/
theorem addrAdd_of_not_installs {a : LanAddr} (h : ¬ (a.IsOf cfg ∧ f.installs cfg sh a)) :
    f.eventCallback D cfg sh (.addrAdd a) o = (f, o) ∨
      f.eventCallback D cfg sh (.addrAdd a) o = f.handleSoftwareRoutingEnable D cfg o := by
  unfold eventCallback
  split
  · exact .inl rfl
  dsimp only
  by_cases hof : a.IsOf cfg
  · have hn : ¬ oduBridge cfg sh ∧ f.acceptsAddr a = false := by
      have := fun hi => h ⟨hof, hi⟩
      simpa [installs] using this
    split
    next hw => exact .inl (if_pos (.inr (.inr hn.2)))
    next hw =>
      have hb' : ¬ (sh.ipacmOduEnable = true ∧ sh.ipacmOduRouterMode = false ∧ cfg.ipaIfCate = .oduIf) := hn.1
      unfold lanAddrAdd
      rw [if_neg (by simp [hof.1, hof.2]), if_neg hb']
      simp only [hn.2, Bool.false_eq_true, if_false, true_and]
      split
      · exact .inr rfl
      · exact .inl rfl
  · have hinv : invalidAddr a = true ∨ a.ipaIfIndex ≠ some cfg.ipaIfNum := by
      by_contra hc
      simp only [not_or, Bool.not_eq_true, not_not] at hc
      exact hof ⟨hc.1, hc.2⟩
    split
    · exact .inl (if_pos (hinv.imp_right .inl))
    · exact .inl (if_pos hinv)

end Addr

/-! ## Interface down -/

/-- The interface deletes rules of its own; of its handles some become zero. -/
structure Loses (n : Nat) (s s' : Lan × LanOut) : Prop where
  drops : s.2.Drops n s'.2
  hdls : ∀ Q : Nat → Prop, Q 0 → s.1.AllHdls Q → s'.1.AllHdls Q
  kept : (s'.1.ipType, s'.1.ifIpv4Subnet, s'.1.privateFlRuleHdl) = (s.1.ipType, s.1.ifIpv4Subnet, s.1.privateFlRuleHdl)

namespace Loses

variable {n : Nat} {s s' s'' : Lan × LanOut}

theorem refl (n : Nat) (s : Lan × LanOut) : Loses n s s := ⟨.refl n s.2, fun _ _ => id, rfl⟩

theorem trans (h : Loses n s s') (h' : Loses n s' s'') : Loses n s s'' :=
  ⟨h.drops.trans h'.drops, fun Q h0 hh => h'.hdls Q h0 (h.hdls Q h0 hh), h'.kept.trans h.kept⟩

theorem of_drops {f : Lan} {o o' : LanOut} (h : o.Drops n o') : Loses n (f, o) (f, o') := ⟨h, fun _ _ => id, rfl⟩

theorem spare (h : Loses n s s') (ho : s.2.Sound) (hh : s.1.AllHdls (LanOut.Spare n s.2)) : s'.1.AllHdls (LanOut.Spare n s'.2) :=
  h.hdls _ (fun _ hm => absurd (List.mem_map_of_mem hm) (h.drops.apart.sound ho).ne_zero) (hh.imp fun _ hk => h.drops.spare hk)

end Loses

section Down

variable {D : LanDriver} {cfg : LanConf} {sh : LanShared} {f : Lan} {o : LanOut} {n : Nat} {ip : IpType}

theorem decreaseFltRuleCount_apart (iptype : IpType) (m : Nat) : LanOut.Apart n o (decreaseFltRuleCount cfg iptype m o) := by
  unfold decreaseFltRuleCount
  cases cfg.rxProp with
  | none => exact .of_flt rfl rfl rfl
  | some rx => exact .addFltRuleCount ..

theorem wanDownModem_loses (hip : ip ≠ .max) (hh : f.AllHdls (LanOut.Spare n o)) :
    Loses n (f, o) (f.wanDownModem D cfg sh ip o).2 := by
  have hul : ∀ k ∈ (List.range (f.ul ip).numWanUlFlRule).map (f.ul ip).wanUlFlRuleHdl, LanOut.Spare n o k := fun k hk => by
    obtain ⟨i, _, rfl⟩ := List.mem_map.1 hk
    cases ip with
    | v4 => exact hh.ulV4 i
    | v6 => exact hh.ulV6 i
    | max => exact absurd rfl hip
  have hset : ∀ o', o.Drops n o' →
      Loses n (f, o) (f.setUl ip { modemUlSet := false, numWanUlFlRule := 0, wanUlFlRuleHdl := fun _ => 0 }, o') := fun o' hd => by
    cases ip with
    | v4 => exact ⟨hd, fun Q h0 hh => { hh with ulV4 := fun _ => h0 }, rfl⟩
    | v6 => exact ⟨hd, fun Q h0 hh => { hh with ulV6 := fun _ => h0 }, rfl⟩
    | max => exact absurd rfl hip
  unfold wanDownModem
  dsimp only
  split
  · exact .refl _ _
  have hd := LanOut.deleteFilteringHdls_drops (D := D) .wanUl ip hul
  split
  next he =>
    rw [he] at hd
    exact .of_drops hd
  next o' he =>
    rw [he] at hd
    have hd := hd.trans (.of_flt (@decreaseFltRuleCount_apart cfg _ n ip (f.ul ip).numWanUlFlRule) (decreaseFltRuleCount_flt ..))
    split
    · exact hset _ hd
    · exact hset _ (hd.trans (.of_flt (.notify _) rfl))

theorem wanDownSta_loses {hdl : Nat} (hs : LanOut.Spare n o hdl) : Loses n (f, o) (f.wanDownSta D cfg ip hdl o).2 := by
  have hd := LanOut.deleteFilteringHdl_drops (D := D) .lanWan ip hs
  unfold wanDownSta
  split
  next he =>
    rw [he] at hd
    exact .of_drops hd
  next he =>
    rw [he] at hd
    exact .of_drops (hd.trans (.of_flt (decreaseFltRuleCount_apart ..) (decreaseFltRuleCount_flt ..)))

theorem handleWanDown_loses (isSta : Bool) (hh : f.AllHdls (LanOut.Spare n o)) :
    Loses n (f, o) (f.handleWanDown D cfg sh isSta o).2 := by
  unfold handleWanDown
  split
  · exact wanDownModem_loses (by decide) hh
  · exact wanDownSta_loses hh.lanWan

theorem handleWanDownV6_loses (isSta : Bool) (ho : o.Sound) (hh : f.AllHdls (LanOut.Spare n o)) :
    Loses n (f, o) (f.handleWanDownV6 D cfg sh isSta o).2 := by
  have h1 : Loses n (f, o) ({ f with ipv6Prefix := 0 }, f.deleteIpv6PrefixFltRule D cfg o) := by
    refine ⟨?_, fun Q _ hh => { hh with icmpV4 := hh.icmpV4 }, rfl⟩
    have hd := LanOut.deleteFilteringHdl_drops (D := D) .ipv6Prefix .v6 hh.ipv6Prefix
    unfold deleteIpv6PrefixFltRule
    dsimp only
    split
    · exact hd.trans (.of_flt (decreaseFltRuleCount_apart ..) (decreaseFltRuleCount_flt ..))
    · exact hd
  have hh' := h1.spare ho hh
  unfold handleWanDownV6
  dsimp only
  split
  · split
    · exact h1
    · exact h1.trans (wanDownModem_loses (by decide) hh')
  · exact h1.trans (wanDownSta_loses (hh'.dftV6 _))

theorem handleSoftwareRoutingDisable_loses (hh : f.AllHdls (LanOut.Spare n o)) :
    Loses n (f, o) (f.handleSoftwareRoutingDisable D cfg o) := by
  unfold handleSoftwareRoutingDisable
  split
  · exact .refl _ _
  have hd := LanOut.deleteFilteringHdl_drops (D := D) .softwareRouting .v4 hh.swV4
  split
  next he =>
    rw [he] at hd
    exact .of_drops hd
  next o₁ he =>
    rw [he] at hd
    have hd := hd.trans (.of_flt (@decreaseFltRuleCount_apart cfg _ n .v4 1) (decreaseFltRuleCount_flt ..))
    have hd' := LanOut.deleteFilteringHdl_drops (D := D) .softwareRouting .v6 (hd.spare hh.swV6)
    split
    next he' =>
      rw [he'] at hd'
      exact .of_drops (hd.trans hd')
    next he' =>
      rw [he'] at hd'
      exact ⟨(hd.trans hd').trans (.of_flt (decreaseFltRuleCount_apart ..) (decreaseFltRuleCount_flt ..)),
        fun Q _ hh => { hh with icmpV4 := hh.icmpV4 }, rfl⟩

/-- One of the deletions of `handle_down_evt`, with the count. -/
def deleteAndCount (D : LanDriver) (cfg : LanConf) (x : FltUse × IpType × List Nat) (o : LanOut) : Bool × LanOut :=
  match o.deleteFilteringHdls D x.1 x.2.1 x.2.2 with
  | (false, o) => (false, o)
  | (true, o) => (true, decreaseFltRuleCount cfg x.2.1 x.2.2.length o)

/-- What `handle_down_evt` deletes for IPv4. -/
def v4Rules (f : Lan) : List (FltUse × IpType × List Nat) := [
  (.icmp, .v4, [f.ipv4IcmpFltRuleHdl]),
  (.dft, .v4, (List.range ipv4DefaultFiltertingRules).map f.dftV4flRuleHdl),
  (.privateSubnet, .v4, (List.range ipaMaxPrivateSubnetEntries).map f.privateFlRuleHdl)]

theorem deleteFltRules_eq (hrx : cfg.rxProp ≠ none) (ht : f.ipType = .v4) :
    f.deleteFltRules D cfg o = untilFailure (deleteAndCount D cfg) f.v4Rules o := by
  unfold deleteFltRules
  rw [if_neg hrx, if_pos (by rw [ht]; decide), if_neg (by rw [ht]; decide), List.append_nil]
  rfl

theorem v4Rules_all {Q : Nat → Prop} (hh : f.AllHdls Q) {x : FltUse × IpType × List Nat} (hx : x ∈ f.v4Rules) : ∀ k ∈ x.2.2, Q k := by
  intro k hk
  simp only [v4Rules, List.mem_cons, List.not_mem_nil, or_false] at hx
  rcases hx with rfl | rfl | rfl
  · rw [List.mem_singleton.1 hk]
    exact hh.icmpV4
  · obtain ⟨i, _, rfl⟩ := List.mem_map.1 hk
    exact hh.dftV4 i
  · obtain ⟨i, _, rfl⟩ := List.mem_map.1 hk
    exact hh.privateFl i

theorem deleteAndCount_of_ok (hD : D.Succeeds) (ho : o.Sound) {x : FltUse × IpType × List Nat}
    (hs : ∀ k ∈ x.2.2, LanOut.Spare n o k) :
    (deleteAndCount D cfg x o).1 = true ∧ o.Drops n (deleteAndCount D cfg x o).2 ∧
      ∀ y ∈ (deleteAndCount D cfg x o).2.flt.live, y.1 ∉ x.2.2 := by
  have hdel := LanOut.deleteFilteringHdls_drops (D := D) x.1 x.2.1 hs
  obtain ⟨hok, hlive⟩ := @LanOut.deleteFilteringHdls_of_ok D _ ho.ne_zero x.1 x.2.1 x.2.2 fun i _ => hD.fails _
  unfold deleteAndCount
  revert hok hlive hdel
  generalize o.deleteFilteringHdls D x.1 x.2.1 x.2.2 = r
  obtain ⟨ok, o₁⟩ := r
  intro hdel hok hlive
  cases hok
  refine ⟨rfl, hdel.trans (.of_flt (decreaseFltRuleCount_apart ..) (decreaseFltRuleCount_flt ..)), fun y hy => ?_⟩
  rw [decreaseFltRuleCount_flt, hlive] at hy
  simpa using (List.mem_filter.1 hy).2

/-- The rules of an interface with an IPv4 address all go. -/
theorem deleteFltRules_v4 (hD : D.Succeeds) (hrx : cfg.rxProp ≠ none) (ho : o.Sound) (hh : f.AllHdls (LanOut.Spare n o))
    (ht : f.ipType = .v4) :
    (f.deleteFltRules D cfg o).1 = true ∧ o.Drops n (f.deleteFltRules D cfg o).2 ∧
      ∀ x ∈ (f.deleteFltRules D cfg o).2.flt.live, x.1 ∉ (List.range ipaMaxPrivateSubnetEntries).map f.privateFlRuleHdl := by
  have hstep : ∀ x ∈ f.v4Rules, ∀ o', o.Drops n o' → (deleteAndCount D cfg x o').1 = true ∧
      o.Drops n (deleteAndCount D cfg x o').2 ∧ (∀ y ∈ (deleteAndCount D cfg x o').2.flt.live, y.1 ∉ x.2.2) ∧
      ∀ b ∈ f.v4Rules, b ≠ x → (∀ y ∈ o'.flt.live, y.1 ∉ b.2.2) →
        ∀ y ∈ (deleteAndCount D cfg x o').2.flt.live, y.1 ∉ b.2.2 := by
    intro x hx o' hd
    obtain ⟨hok, hdel, hgone⟩ := @deleteAndCount_of_ok D cfg o' n hD (hd.apart.sound ho) x
      fun k hk => hd.spare (v4Rules_all hh hx k hk)
    exact ⟨hok, hd.trans hdel, hgone, fun b _ _ hb y hy => hb y (hdel.sub y hy)⟩
  rw [deleteFltRules_eq hrx ht]
  obtain ⟨h1, h2, h3⟩ := Lib.untilFailure_each (fun o' => o.Drops n o')
    (fun (x : FltUse × IpType × List Nat) o' => ∀ y ∈ o'.flt.live, y.1 ∉ x.2.2) hstep (.refl n o)
  exact ⟨h1, h2, h3 (.privateSubnet, .v4, (List.range ipaMaxPrivateSubnetEntries).map f.privateFlRuleHdl) (by simp [v4Rules])⟩

theorem deleteRtRules_drops (ht : f.ipType = .v4) : o.Drops n (f.deleteRtRules D o) := by
  unfold deleteRtRules
  rw [if_neg (show ¬ f.ipType ≠ .v4 by rw [ht]; decide), if_pos (show f.ipType ≠ .v6 by rw [ht]; decide)]
  unfold LanOut.deleteRoutingHdl
  split
  · exact .refl n o
  split
  · exact .refl n o
  · exact .of_flt (.of_flt rfl rfl rfl) rfl

/-- What is left of the interface's own rules has none of the handles of its row. -/
def RowGone (f : Lan) (o : LanOut) : Prop :=
  ∀ x ∈ o.flt.live, x.1 ∉ (List.range ipaMaxPrivateSubnetEntries).map f.privateFlRuleHdl

theorem Row.gone {rx : RxProps} {R : Nat → FltRule} {o' : LanOut} (h : Row rx n (f, o) R) (hsub : ∀ x ∈ o'.flt.live, x ∈ o.flt.live)
    (hg : RowGone f o') : o'.flt.view (ofUse n .privateSubnet .v4) = [] := by
  refine List.filter_eq_nil_iff.2 fun x hx hp => hg x hx ?_
  have hm : x ∈ o.flt.view (ofUse n .privateSubnet .v4) := List.mem_filter.2 ⟨hsub x hx, hp⟩
  rw [show o.flt.view (ofUse n .privateSubnet .v4) = _ from h] at hm
  obtain ⟨i, hi, rfl⟩ := List.mem_map.1 hm
  exact List.mem_map_of_mem hi

/-- `handle_down_evt` up to its label `fail`. -/
theorem deleteIfaceRules_does (hD : D.Succeeds) (hrx : cfg.rxProp ≠ none) (ho : o.Sound)
    (hh : f.AllHdls (LanOut.Spare cfg.ipaIfNum o)) (ht : f.ipType = .v4) :
    let r := f.deleteIfaceRules D cfg sh o
    o.Turns cfg.ipaIfNum (o.privateSubnet.has f.ifIpv4Subnet = true) r.2 ∧ (∀ x ∈ r.2.flt.live, x ∈ o.flt.live) ∧
      r.1.AllHdls (LanOut.Spare cfg.ipaIfNum r.2) ∧ RowGone f r.2 := by
  have hup : ∀ (up : Prop) [Decidable up], Loses cfg.ipaIfNum (f, o)
      (if up then (f.handleWanDown D cfg sh sh.backhaulIsStaMode o).2 else (f, o)) := by
    intro up _
    split
    · exact handleWanDown_loses _ hh
    · exact .refl _ _
  have h1 := hup (sh.isWanUP cfg.ipaIfNum = true ∧ cfg.rxProp ≠ none)
  intro r
  have hr : r = f.deleteIfaceRules D cfg sh o := rfl
  clear_value r
  unfold deleteIfaceRules at hr
  revert h1 hr
  generalize (if sh.isWanUP cfg.ipaIfNum = true ∧ cfg.rxProp ≠ none then
    (f.handleWanDown D cfg sh sh.backhaulIsStaMode o).2 else (f, o)) = p
  intro h1 hr
  obtain ⟨f₁, o₁⟩ := p
  dsimp only at hr
  have h2 : Loses cfg.ipaIfNum (f₁, o₁) (if sh.isWanUPV6 cfg.ipaIfNum = true ∧ cfg.rxProp ≠ none then
      (f₁.handleWanDownV6 D cfg sh sh.backhaulIsStaMode o₁).2 else (f₁, o₁)) := by
    split
    · exact handleWanDownV6_loses _ (h1.drops.apart.sound ho) (h1.spare ho hh)
    · exact .refl _ _
  revert h2 hr
  generalize (if sh.isWanUPV6 cfg.ipaIfNum = true ∧ cfg.rxProp ≠ none then
      (f₁.handleWanDownV6 D cfg sh sh.backhaulIsStaMode o₁).2 else (f₁, o₁)) = p
  intro hr h2
  obtain ⟨f₂, o₂⟩ := p
  dsimp only at hr
  have h2 := h1.trans h2
  have hsound := h2.drops.apart.sound ho
  have htype : f₂.ipType = .v4 := (congrArg Prod.fst h2.kept).trans ht
  have hsub : f₂.ifIpv4Subnet = f.ifIpv4Subnet := congrArg (fun x => x.2.1) h2.kept
  have hpriv : f₂.privateFlRuleHdl = f.privateFlRuleHdl := congrArg (fun x => x.2.2) h2.kept
  obtain ⟨hok, hdel, hgone⟩ := deleteFltRules_v4 hD hrx hsound (h2.spare ho hh) htype
  revert hok hdel hgone hr
  generalize f₂.deleteFltRules D cfg o₂ = q
  intro hr hok hdel hgone
  obtain ⟨ok, o₃⟩ := q
  cases hok
  dsimp only at hr hdel hgone
  rw [if_pos (show f₂.ipType ≠ .v6 by rw [htype]; decide)] at hr
  have h3 := (h2.drops.trans hdel).trans ((@deleteRtRules_drops D f₂ o₃ cfg.ipaIfNum htype).trans
    (.post (m := .ethBridgeIfaceDown cfg.ipaIfNum) rfl))
  have hturn := (@LanOut.delPrivateSubnet_turns cfg.ipaIfNum ((f₂.deleteRtRules D o₃).post (.ethBridgeIfaceDown cfg.ipaIfNum))
    f₂.ifIpv4Subnet)
  rw [h3.apart.privateSubnet, hsub] at hturn
  have hflt : r.2.flt = ((f₂.deleteRtRules D o₃).post (.ethBridgeIfaceDown cfg.ipaIfNum)).flt := by
    rw [hr]
    exact LanOut.delPrivateSubnet_flt ..
  have hlive : ∀ x ∈ r.2.flt.live, x ∈ o.flt.live := fun x hx => h3.sub x (hflt ▸ hx)
  rw [hr] at hflt hlive ⊢
  refine ⟨?_, hlive, ?_, fun x hx hm => ?_⟩
  · rw [← hsub] at hturn ⊢
    exact h3.apart.then hturn
  · exact h2.hdls _ (fun s hs => absurd (List.mem_map_of_mem (hlive _ hs)) ho.ne_zero) (hh.imp fun _ hk s hs => hk s (hlive _ hs))
  · have hx := hflt ▸ hx
    refine hgone x ?_ (by rw [hpriv]; exact hm)
    exact ((@deleteRtRules_drops D f₂ o₃ cfg.ipaIfNum htype).trans (.post (m := .ethBridgeIfaceDown cfg.ipaIfNum) rfl)).sub x hx

/-- The interface goes down: it leaves no row of its own behind where it had an IPv4 address, and everybody else's rules. -/
theorem handleDownEvt_does (hD : D.Succeeds) (hrx : cfg.rxProp ≠ none) (ho : o.Sound)
    (hh : f.AllHdls (LanOut.Own cfg.ipaIfNum o)) (ht : f.ipType = .null ∨ f.ipType = .v4) :
    let r := f.handleDownEvt D cfg sh o
    r.1.isActive = false ∧ o.Turns cfg.ipaIfNum (f.ipType = .v4 ∧ o.privateSubnet.has f.ifIpv4Subnet = true) r.2 ∧
      (∀ x ∈ r.2.flt.live, x ∈ o.flt.live) ∧ (f.ipType = .v4 → RowGone f r.2) := by
  have hspare : f.AllHdls (LanOut.Spare cfg.ipaIfNum o) := hh.imp fun _ hk => hk.spare ho
  have h1 : let p := if f.ipType = .null then (f, o) else f.deleteIfaceRules D cfg sh o
      o.Turns cfg.ipaIfNum (f.ipType = .v4 ∧ o.privateSubnet.has f.ifIpv4Subnet = true) p.2 ∧ (∀ x ∈ p.2.flt.live, x ∈ o.flt.live) ∧
        p.1.AllHdls (LanOut.Spare cfg.ipaIfNum p.2) ∧ (f.ipType = .v4 → RowGone f p.2) := by
    rcases ht with ht | ht
    · rw [if_pos ht]
      exact ⟨(LanOut.Apart.refl _ o).turns, fun _ => id, hspare, fun h => by rw [ht] at h; cases h⟩
    · rw [if_neg (by rw [ht]; decide)]
      obtain ⟨h1, h2, h3, h4⟩ := @deleteIfaceRules_does D cfg sh f o hD hrx ho hspare ht
      exact ⟨h1.imp fun h => ⟨ht, h⟩, h2, h3, fun _ => h4⟩
  unfold handleDownEvt
  revert h1
  generalize (if f.ipType = .null then (f, o) else f.deleteIfaceRules D cfg sh o) = p
  obtain ⟨f₁, o₁⟩ := p
  intro h1
  dsimp only at h1 ⊢
  obtain ⟨hturn, hsub, hall, hgone⟩ := h1
  have h2 : Loses cfg.ipaIfNum (f₁, o₁) (if f₁.softwareroutingAct = true ∧ cfg.rxProp ≠ none then
      f₁.handleSoftwareRoutingDisable D cfg o₁ else (f₁, o₁)) := by
    split
    · exact handleSoftwareRoutingDisable_loses hall
    · exact .refl _ _
  have h3 := h2.drops.trans (.post (m := .lanDeleteSelf cfg.ipaIfNum) rfl)
  exact ⟨rfl, hturn.apart h3.apart, fun x hx => hsub x (h3.sub x hx), fun h x hx => hgone h x (h3.sub x hx)⟩

end Down

end Lan

end HiaeCommon
