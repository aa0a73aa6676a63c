/-
The private-subnet rules of one interface (`IPACM_Lan`, `IPACM_Wlan`), handler
by handler. An interface adds and deletes rules of its own only, since every
handle it keeps is that of a rule of its own; its private-subnet rules are a
row of three, which `handle_private_subnet_android` makes equal to the table.
-/
import HiaeCommon.Lib.Run
import HiaeCommon.Ipacm.UplinkKept

namespace HiaeCommon

open Lib (Handles Ledger untilFailure)

namespace PrivateSubnetTable

/-- The rule at a place of the table: that of its subnet, or the dummy. -/
def rule (t : PrivateSubnetTable) (i : Nat) : FltRule :=
  if i < t.num then privateSubnetRule (t.subnetAddr i) (t.subnetMask i) else dummyRule

/-- The subnet is in the table. -/
def has (t : PrivateSubnetTable) (ipAddr : BitVec 32) : Bool := (List.range t.num).any fun cnt => t.subnetAddr cnt = ipAddr

end PrivateSubnetTable

/-- Who changed the table, if that is what is posted. -/
def LanMsg.changed : LanMsg → Option Nat
  | .privateSubnetChange ifIndex => some ifIndex
  | _ => none

namespace LanOut

/-- The changes of the table that were posted. -/
def changes (o : LanOut) : List Nat := o.posted.filterMap LanMsg.changed

/-- The rules of every other interface are as they were, and so is the table. -/
structure Apart (n : Nat) (o o' : LanOut) : Prop where
  sound : o.Sound → o'.Sound
  view : ∀ p, (∀ s : FltSlot, s.owner = n → p s = false) → o'.flt.view p = o.flt.view p
  privateSubnet : o'.privateSubnet = o.privateSubnet
  changes : o'.changes = o.changes

/-- The handle is none, or that of a rule of the interface. -/
def Own (n : Nat) (o : LanOut) (h : Nat) : Prop := h = 0 ∨ ∃ s, (h, s) ∈ o.flt.live ∧ s.owner = n

/-- Nobody else has a rule under the handle. -/
def Spare (n : Nat) (o : LanOut) (h : Nat) : Prop := ∀ s, (h, s) ∈ o.flt.live → s.owner = n

variable {D : LanDriver} {n : Nat} {o o' o₁ o₂ o₃ : LanOut} {h : Nat}

theorem Own.spare (ho : o.Sound) (hh : Own n o h) : Spare n o h := by
  intro s hs
  rcases hh with rfl | ⟨s', hs', hn⟩
  · exact absurd (List.mem_map_of_mem hs) ho.ne_zero
  · exact (congrArg (fun x : Nat × FltSlot => x.2.owner) (Ledger.live_unique ho.nodup hs hs' rfl)).trans hn

theorem Own.mono (hm : ∀ x ∈ o.flt.live, x ∈ o'.flt.live) (hh : Own n o h) : Own n o' h := by
  rcases hh with hh | ⟨s, hs, hn⟩
  · exact .inl hh
  · exact .inr ⟨s, hm _ hs, hn⟩

/-- Where the rules of an interface are as they were, what is its own stays so. -/
theorem Own.of_view (hv : o'.flt.view (fun s => s.owner = n) = o.flt.view fun s => s.owner = n) (hh : Own n o h) : Own n o' h := by
  rcases hh with hh | ⟨s, hs, hs'⟩
  · exact .inl hh
  · have hmem : (h, s) ∈ o'.flt.view fun s => s.owner = n := by
      rw [hv]
      exact List.mem_filter.2 ⟨hs, by simpa using hs'⟩
    exact .inr ⟨s, (List.mem_filter.1 hmem).1, hs'⟩

namespace Apart

theorem refl (n : Nat) (o : LanOut) : Apart n o o := ⟨id, fun _ _ => rfl, rfl, rfl⟩

theorem trans (h : Apart n o₁ o₂) (h' : Apart n o₂ o₃) : Apart n o₁ o₃ :=
  ⟨fun ho => h'.sound (h.sound ho), fun p hp => (h'.view p hp).trans (h.view p hp), h'.privateSubnet.trans h.privateSubnet,
    h'.changes.trans h.changes⟩

theorem of_flt (hf : o'.flt = o.flt) (ht : o'.privateSubnet = o.privateSubnet) (hc : o'.changes = o.changes) : Apart n o o' :=
  ⟨fun ho => ho.of_flt hf, fun _ _ => by rw [hf], ht, hc⟩

theorem post {m : LanMsg} (hm : m.changed = none) : Apart n o (o.post m) := by
  refine of_flt rfl rfl ?_
  have he : (o.post m).changes = o.changes ++ [m].filterMap LanMsg.changed := List.filterMap_append
  rw [he, List.filterMap_cons_none hm, List.filterMap_nil, List.append_nil]

theorem notify (m : FltrInstalledNotif) : Apart n o (o.notify m) := of_flt rfl rfl rfl

theorem addFltRuleCount (pipes i : Nat) (t : IpType) (m : Int) : Apart n o (o.addFltRuleCount pipes i t m) := by
  unfold LanOut.addFltRuleCount
  split
  · exact .refl n o
  · exact of_flt rfl rfl rfl

theorem addRoutingRule (r : RtRule) : Apart n o (o.addRoutingRule D r).2 := by
  unfold LanOut.addRoutingRule
  split
  · exact .refl n o
  · exact of_flt rfl rfl rfl

/-- What is someone else's stays theirs. -/
theorem own (ha : Apart n o o') {m : Nat} (hm : m ≠ n) (hh : Own m o h) : Own m o' h :=
  hh.of_view (ha.view _ fun s hn => by simp [hn, Ne.symm hm])

theorem ofUse_view (ha : Apart n o o') {m : Nat} (hm : m ≠ n) (use : FltUse) (ip : IpType) :
    o'.flt.view (ofUse m use ip) = o.flt.view (ofUse m use ip) := ha.view _ fun s hn => by simp [ofUse, hn, Ne.symm hm]

end Apart

theorem addFilteringRule_apart (ep : Nat) (use : FltUse) (ip : IpType) (rules : List (Bool × FltRule)) :
    Apart n o (o.addFilteringRule D n ep use ip rules).2 := by
  refine ⟨fun ho => ho.addFilteringRule n ep use ip rules, fun p hp => ?_, ?_, ?_⟩
  · unfold addFilteringRule
    split
    · rfl
    · refine Ledger.install_view_of_not fun x hx => ?_
      obtain ⟨r, _, rfl⟩ := List.mem_map.1 hx
      exact hp _ rfl
  · unfold addFilteringRule
    split <;> rfl
  · unfold addFilteringRule
    split <;> rfl

/-- A handle that comes back is that of a rule of the interface. -/
theorem addFilteringRule_own {ep : Nat} {use : FltUse} {ip : IpType} {rules : List (Bool × FltRule)} {hs : List (Option Nat)}
    (he : o.addFilteringRule D n ep use ip rules = (some hs, o')) (hm : some h ∈ hs) : Own n o' h := by
  unfold addFilteringRule at he
  split at he
  · cases he
  simp only [Prod.mk.injEq, Option.some.injEq] at he
  obtain ⟨rfl, rfl⟩ := he
  obtain ⟨y, hy, hlive⟩ := Ledger.live_of_mem_install hm
  obtain ⟨r, _, rfl⟩ := List.mem_map.1 hy
  exact .inr ⟨_, hlive, rfl⟩

end LanOut

/-! ## Handles -/

/-- Every handle an interface keeps that has no IPv6 address. -/
structure Lan.AllHdls (Q : Nat → Prop) (f : Lan) : Prop where
  icmpV4 : Q f.ipv4IcmpFltRuleHdl
  ipv6Prefix : Q f.ipv6PrefixFltRuleHdl
  lanWan : Q f.lanWanFlRuleHdl
  swV4 : Q f.softwareRoutingFlRuleHdl.1
  swV6 : Q f.softwareRoutingFlRuleHdl.2
  dftV4 : ∀ i, Q (f.dftV4flRuleHdl i)
  dftV6 : ∀ i, Q (f.dftV6flRuleHdl i)
  privateFl : ∀ i, Q (f.privateFlRuleHdl i)
  ulV4 : ∀ i, Q (f.ulV4.wanUlFlRuleHdl i)
  ulV6 : ∀ i, Q (f.ulV6.wanUlFlRuleHdl i)

namespace Lan

theorem AllHdls.imp {Q Q' : Nat → Prop} {f : Lan} (h : f.AllHdls Q) (hq : ∀ k, Q k → Q' k) : f.AllHdls Q' :=
  ⟨hq _ h.icmpV4, hq _ h.ipv6Prefix, hq _ h.lanWan, hq _ h.swV4, hq _ h.swV6, fun i => hq _ (h.dftV4 i), fun i => hq _ (h.dftV6 i),
    fun i => hq _ (h.privateFl i), fun i => hq _ (h.ulV4 i), fun i => hq _ (h.ulV6 i)⟩

theorem AllHdls.new {Q : Nat → Prop} (h : Q 0) : ({} : Lan).AllHdls Q :=
  ⟨h, h, h, h, h, fun _ => h, fun _ => h, fun _ => h, fun _ => h, fun _ => h⟩

theorem recordHdls_all {Q : Nat → Prop} {hs : List (Option Nat)} {hdl : Nat → Nat} (h : ∀ i, Q (hdl i)) (hn : ∀ k, some k ∈ hs → Q k)
    (i : Nat) : Q (recordHdls hs hdl i) := by
  rcases @recordHdls_cases hs hdl i with he | he
  · rw [he]
    exact h i
  · exact hn _ he

/-- The interface adds rules of its own, and keeps their handles. -/
structure Gains (n : Nat) (s s' : Lan × LanOut) : Prop where
  apart : LanOut.Apart n s.2 s'.2
  held : s.1.AllHdls (LanOut.Own n s.2) → s'.1.AllHdls (LanOut.Own n s'.2)

namespace Gains

variable {n : Nat} {s s' s'' : Lan × LanOut}

theorem refl (n : Nat) (s : Lan × LanOut) : Gains n s s := ⟨.refl n s.2, id⟩

theorem trans (h : Gains n s s') (h' : Gains n s' s'') : Gains n s s'' := ⟨h.apart.trans h'.apart, fun hh => h'.held (h.held hh)⟩

/-- Nothing is added, and no handle is recorded. -/
theorem of_flt {f f' : Lan} {o o' : LanOut} (ha : LanOut.Apart n o o') (hf : o'.flt = o.flt)
    (hh : ∀ Q : Nat → Prop, f.AllHdls Q → f'.AllHdls Q) : Gains n (f, o) (f', o') :=
  ⟨ha, fun h => hh _ (h.imp fun _ => LanOut.Own.mono fun _ hx => by rw [hf]; exact hx)⟩

end Gains

section Gain

variable {D : LanDriver} {cfg : LanConf} {sh : LanShared} {f : Lan} {o : LanOut}

theorem addOne_gains (hD : D.Succeeds) (use : FltUse) (ip : IpType) (rule : FltRule) {set : Nat → Lan} (rx : RxProps)
    (hset : ∀ (Q : Nat → Prop) h, f.AllHdls Q → Q h → (set h).AllHdls Q) :
    Gains cfg.ipaIfNum (f, o) (f.addOne D cfg use ip rule set rx o).2 := by
  obtain ⟨h, hf, hlive⟩ := @addOne_of_ok D cfg ip f o use rule set rx hD
  refine ⟨?_, fun hh => ?_⟩
  · have ha := LanOut.addFilteringRule_apart (D := D) (n := cfg.ipaIfNum) (o := o) rx.rx.srcPipe use ip [(true, rule)]
    unfold addOne
    split
    next he => rwa [he] at ha
    next he =>
      rw [he] at ha
      exact ha.trans (.addFltRuleCount ..)
  · rw [hf]
    refine hset _ h (hh.imp fun _ => LanOut.Own.mono fun x hx => ?_) (.inr ⟨rx.slot cfg.ipaIfNum use ip rule, ?_, rfl⟩)
    · rw [hlive]
      exact List.mem_append_left _ hx
    · rw [hlive]
      exact List.mem_append_right _ (List.mem_singleton_self _)

theorem initFlRule_gains : Gains cfg.ipaIfNum (f, o) (f.initFlRule D cfg .v4 o) := by
  unfold initFlRule
  cases cfg.rxProp with
  | none => exact .refl _ _
  | some rx =>
    dsimp only
    rw [if_pos rfl]
    have ha := LanOut.addFilteringRule_apart (D := D) (n := cfg.ipaIfNum) (o := o) rx.rx.srcPipe .dft .v4 dftV4Rules
    have hm := (LanOut.Adds.addFilteringRule (D := D) (o := o) cfg.ipaIfNum rx.rx.srcPipe .dft .v4 dftV4Rules).mono
    split
    next he =>
      rw [he] at ha hm
      exact ⟨ha, fun hh => hh.imp fun _ => LanOut.Own.mono hm⟩
    next hs o' he =>
      rw [he] at ha hm
      refine ⟨ha.trans (.addFltRuleCount ..), fun hh => ?_⟩
      have hmono : ∀ k, LanOut.Own cfg.ipaIfNum o k →
          LanOut.Own cfg.ipaIfNum (o'.addFltRuleCount cfg.pipes rx.rx.srcPipe .v4 ipv4DefaultFiltertingRules) k :=
        fun _ => LanOut.Own.mono fun x hx => by rw [LanOut.addFltRuleCount_flt]; exact hm x hx
      exact { hh.imp hmono with
        dftV4 := recordHdls_all (fun i => hmono _ (hh.dftV4 i)) fun k hk =>
          (LanOut.addFilteringRule_own he hk).mono fun x hx => by rw [LanOut.addFltRuleCount_flt]; exact hx }

theorem installIpv4IcmpFltRule_gains (hD : D.Succeeds) : Gains cfg.ipaIfNum (f, o) (f.installIpv4IcmpFltRule D cfg o) := by
  unfold installIpv4IcmpFltRule
  cases cfg.rxProp with
  | none => exact .refl _ _
  | some rx => exact addOne_gains hD .icmp .v4 ipv4IcmpRule rx fun Q h hh hq => { hh with icmpV4 := hq }

theorem setUpV4_gains (hD : D.Succeeds) : Gains cfg.ipaIfNum (f, o) (f.setUpV4 D cfg o) := by
  unfold setUpV4
  have h := (@initFlRule_gains D cfg f o).trans (installIpv4IcmpFltRule_gains (f := (f.initFlRule D cfg .v4 o).1) hD)
  exact h.trans (.of_flt (.post rfl) rfl fun _ => id)

theorem handleWanUp_gains (hD : D.Succeeds) : Gains cfg.ipaIfNum (f, o) (f.handleWanUp D cfg sh .v4 o).2 := by
  unfold handleWanUp
  cases cfg.rxProp with
  | none => exact .refl _ _
  | some rx =>
    dsimp only
    rw [if_neg (by simp [hD.fails])]
    exact addOne_gains hD .lanWan .v4 (lanWanRule sh .v4) rx fun Q h hh hq => { hh with lanWan := hq }

theorem handleUplinkFilterRule_apart {prop : List ExtProp} {ip : IpType} {x : BitVec 8} :
    LanOut.Apart cfg.ipaIfNum o (f.handleUplinkFilterRule D cfg sh prop ip x o).2.2 := by
  unfold handleUplinkFilterRule
  cases cfg.rxProp with
  | none => exact .refl _ _
  | some rx =>
    dsimp only
    split
    · exact .refl _ _
    split
    · exact .refl _ _
    split
    · exact .refl _ _
    split
    · exact .refl _ _
    have h := (@LanOut.Apart.notify cfg.ipaIfNum o ⟨rx.rx.srcPipe, prop.map ExtProp.ruleId, sh.qmapId⟩).trans
      (LanOut.addFilteringRule_apart (D := D) rx.rx.srcPipe .wanUl ip
        (prop.map fun p => (true, uplinkRule rx.rx ip (uplinkAction cfg.ipaIfCate sh ip) x p)))
    split
    next he => rwa [he] at h
    next he =>
      rw [he] at h
      exact h.trans (.addFltRuleCount ..)

theorem handleUplinkFilterRule_gains (hD : D.Succeeds) {prop : List ExtProp} {x : BitVec 8} :
    Gains cfg.ipaIfNum (f, o) (f.handleUplinkFilterRule D cfg sh prop .v4 x o).2 := by
  refine ⟨handleUplinkFilterRule_apart, fun hh => ?_⟩
  by_cases hn : cfg.rxProp = none ∨ prop = [] ∨ maxWanUlFilterRules < prop.length
  · rw [handleUplinkFilterRule_of_nothing hn]
    exact hh
  simp only [not_or, Nat.not_lt] at hn
  obtain ⟨rx, hrx⟩ := Option.ne_none_iff_exists'.1 hn.1
  obtain ⟨hs, hlen, hf, hlive⟩ := @handleUplinkFilterRule_of_installs D cfg sh f o rx prop .v4 x (by decide) hrx
    ⟨hn.1, hn.2.1, hn.2.2, hD.fails _, hD.fails _, hD.refuses _⟩
  have hmono : ∀ k, LanOut.Own cfg.ipaIfNum o k → LanOut.Own cfg.ipaIfNum (f.handleUplinkFilterRule D cfg sh prop .v4 x o).2.2 k :=
    fun _ => LanOut.Own.mono fun y hy => by rw [hlive]; exact List.mem_append_left _ hy
  rw [hf]
  refine { hh.imp hmono with ulV4 := fun i => ?_ }
  dsimp only [setUl]
  split
  next hi =>
    -- the handle at this place is that of the new rule there
    have hj : i - (f.ul .v4).numWanUlFlRule < hs.length := by omega
    rw [List.getElem?_eq_getElem hj, Option.getD_some]
    have hz : i - (f.ul .v4).numWanUlFlRule <
        (hs.zip ((uplinkRules rx cfg.ipaIfCate sh prop .v4 x).map (rx.slot cfg.ipaIfNum .wanUl .v4))).length := by
      rw [List.length_zip, List.length_map, uplinkRules, List.length_map, ← hlen, Nat.min_self]
      exact hj
    have hm := List.getElem_mem hz
    rw [List.getElem_zip, List.getElem_map] at hm
    have hm := List.mem_append_right o.flt.live hm
    rw [← hlive] at hm
    exact .inr ⟨_, hm, rfl⟩
  next => exact hmono _ (hh.ulV4 i)

theorem wanUp_gains (hD : D.Succeeds) (isSta : Bool) (x : BitVec 8) : Gains cfg.ipaIfNum (f, o) (wanUp D cfg sh .v4 isSta x (f, o)) := by
  unfold wanUp
  split
  · have hq : writeQmapid D cfg .v4 = true := by
      unfold writeQmapid
      cases cfg.rxProp with
      | none => rfl
      | some rx => simp [hD.fails]
    rw [handleWanUpEx_eq hq]
    split
    · have h := @handleUplinkFilterRule_gains D cfg sh f o hD (sh.getExtProp .v4) x
      exact h.trans (.of_flt (.refl _ _) rfl fun Q hh => { hh with ulV4 := hh.ulV4 })
    · exact .refl _ _
  · exact handleWanUp_gains hD

theorem checkWanUp_gains (hD : D.Succeeds) : Gains cfg.ipaIfNum (f, o) (f.checkWanUp D cfg sh .v4 o) := by
  rw [checkWanUp_v4]
  split
  · exact wanUp_gains hD _ _
  · exact .refl _ _

theorem handleSoftwareRoutingEnable_gains : Gains cfg.ipaIfNum (f, o) (f.handleSoftwareRoutingEnable D cfg o) := by
  unfold handleSoftwareRoutingEnable
  split
  · exact .refl _ _
  cases cfg.rxProp with
  | none => exact .refl _ _
  | some rx =>
    have ha := LanOut.addFilteringRule_apart (D := D) (n := cfg.ipaIfNum) (o := o) rx.rx.srcPipe .softwareRouting .v4
      [(false, swRoutingRule)]
    have hm := (LanOut.Adds.addFilteringRule (D := D) (o := o) cfg.ipaIfNum rx.rx.srcPipe .softwareRouting .v4
      [(false, swRoutingRule)]).mono
    dsimp only
    split
    next h4 o₁ he =>
      rw [he] at ha hm
      have hown := LanOut.addFilteringRule_own he (List.mem_singleton_self _)
      have h1 : Gains cfg.ipaIfNum (f, o) ({ f with softwareRoutingFlRuleHdl := (h4, f.softwareRoutingFlRuleHdl.2) }, o₁) :=
        ⟨ha, fun hh => { hh.imp fun _ => LanOut.Own.mono hm with swV4 := hown }⟩
      have h2 := h1.trans (.of_flt (.addFltRuleCount cfg.pipes rx.rx.srcPipe .v4 1) (by simp) fun _ => id)
      have ha' := LanOut.addFilteringRule_apart (D := D) (n := cfg.ipaIfNum) (o := o₁.addFltRuleCount cfg.pipes rx.rx.srcPipe .v4 1)
        rx.rx.srcPipe .softwareRouting .v6 [(false, swRoutingRule)]
      have hm' := (LanOut.Adds.addFilteringRule (D := D) (o := o₁.addFltRuleCount cfg.pipes rx.rx.srcPipe .v4 1) cfg.ipaIfNum
        rx.rx.srcPipe .softwareRouting .v6 [(false, swRoutingRule)]).mono
      split
      next h6 o₂ he' =>
        rw [he'] at ha' hm'
        have hown' := LanOut.addFilteringRule_own he' (List.mem_singleton_self _)
        have h3 : Gains cfg.ipaIfNum _ ({ f with softwareRoutingFlRuleHdl := (h4, h6), softwareroutingAct := true }, o₂) :=
          h2.trans ⟨ha', fun hh => { hh.imp fun _ => LanOut.Own.mono hm' with swV6 := hown' }⟩
        exact h3.trans (.of_flt (.addFltRuleCount ..) (by simp) fun _ => id)
      next he' =>
        rw [he'] at ha' hm'
        exact h2.trans ⟨ha', fun hh => hh.imp fun _ => LanOut.Own.mono hm'⟩
    next he =>
      rw [he] at ha hm
      exact ⟨ha, fun hh => hh.imp fun _ => LanOut.Own.mono hm⟩

end Gain

/-! ## The row of the private subnets -/

/-- The private-subnet rules of the interface are those of the handles it keeps, in order, and say `R`. -/
def Row (rx : RxProps) (n : Nat) (s : Lan × LanOut) (R : Nat → FltRule) : Prop :=
  s.2.flt.view (ofUse n .privateSubnet .v4) =
    (List.range ipaMaxPrivateSubnetEntries).map fun i => (s.1.privateFlRuleHdl i, rx.slot n .privateSubnet .v4 (R i))

section Rows

variable {D : LanDriver} {cfg : LanConf} {f f' : Lan} {o o' : LanOut} {rx : RxProps} {n : Nat} {R : Nat → FltRule}

theorem setRule_view (d : Ledger FltSlot) (k : Nat) (rule : FltRule) (n : Nat) (use : FltUse) (ip : IpType) :
    (d.modify k fun s => { s with rule }).view (ofUse n use ip) =
      (d.view (ofUse n use ip)).map fun x => if x.1 = k then (k, { x.2 with rule }) else x := Ledger.modify_view fun _ => rfl

theorem Row.of_same (h : Row rx n (f, o) R) (hh : f'.privateFlRuleHdl = f.privateFlRuleHdl)
    (hv : o'.flt.view (ofUse n .privateSubnet .v4) = o.flt.view (ofUse n .privateSubnet .v4)) : Row rx n (f', o') R := by
  unfold Row
  rw [hv, hh]
  exact h

theorem Row.congr {R' : Nat → FltRule} (h : Row rx n (f, o) R) (hr : ∀ i < ipaMaxPrivateSubnetEntries, R i = R' i) :
    Row rx n (f, o) R' :=
  Eq.trans h (List.map_congr_left fun i hi => by rw [hr i (List.mem_range.1 hi)])

theorem Row.inj (h : Row rx n (f, o) R) (ho : o.flt.used.Nodup) {i j : Nat} (hi : i < ipaMaxPrivateSubnetEntries)
    (hj : j < ipaMaxPrivateSubnetEntries) (he : f.privateFlRuleHdl i = f.privateFlRuleHdl j) : i = j := by
  have hnd : ((o.flt.view (ofUse n .privateSubnet .v4)).map Prod.fst).Nodup := ho.sublist (List.filter_sublist.map _)
  rw [show o.flt.view (ofUse n .privateSubnet .v4) = _ from h, List.map_map] at hnd
  exact List.inj_on_of_nodup_map hnd (List.mem_range.2 hi) (List.mem_range.2 hj) he

/-- The rule at one place is replaced. -/
theorem Row.modify (h : Row rx n (f, o) R) (ho : o.flt.used.Nodup) {i : Nat} (hi : i < ipaMaxPrivateSubnetEntries) (rule : FltRule) :
    Row rx n (f, { o with flt := o.flt.modify (f.privateFlRuleHdl i) fun s => { s with rule } }) (Function.update R i rule) := by
  unfold Row
  dsimp only
  rw [setRule_view, show o.flt.view (ofUse n .privateSubnet .v4) = _ from h, List.map_map]
  refine List.map_congr_left fun j hj => ?_
  dsimp only [Function.comp]
  by_cases he : j = i
  · subst he
    rw [if_pos rfl, Function.update_self]
    rfl
  · rw [if_neg fun hc => he (h.inj ho (List.mem_range.1 hj) hi hc), Function.update_of_ne he]

/-- The rules at the first places are replaced. -/
theorem Row.modifyFirst (h : Row rx n (f, o) R) (ho : o.flt.used.Nodup) {k : Nat} (hk : k ≤ ipaMaxPrivateSubnetEntries)
    (Q : Nat → FltRule) :
    let d := (List.range k).foldl (fun d i => d.modify (f.privateFlRuleHdl i) fun s => { s with rule := Q i }) o.flt
    d.used.Nodup ∧ Row rx n (f, { o with flt := d }) fun i => if i < k then Q i else R i := by
  refine Lib.forRange_inv
    (fun k (d : Ledger FltSlot) => d.used.Nodup ∧ Row rx n (f, { o with flt := d }) fun i => if i < k then Q i else R i)
    ⟨ho, h.congr fun i _ => (if_neg (Nat.not_lt_zero i)).symm⟩ fun i d hi hd => ?_
  refine ⟨by rw [Ledger.modify_used]; exact hd.1, ?_⟩
  refine (hd.2.modify hd.1 (Nat.lt_of_lt_of_le hi hk) (Q i)).congr fun j _ => ?_
  by_cases hj : j = i
  · rw [hj, Function.update_self, if_pos (Nat.lt_succ_self i)]
  · rw [Function.update_of_ne hj]
    exact if_congr (by omega) rfl rfl

/-! ### `handle_private_subnet_android` -/

theorem foldl_resets (hD : D.Succeeds) (hdl : Nat → Nat) (l : List Nat) (o : LanOut) :
    l.foldl (fun o i => (o.modifyFilteringRule D (.resetFlt i) [(hdl i, dummyRule)]).2) o =
      { o with flt := l.foldl (fun d i => d.modify (hdl i) fun s => { s with rule := dummyRule }) o.flt } := by
  induction l generalizing o with
  | nil => rfl
  | cons i l ih =>
    rw [List.foldl_cons, ih]
    unfold LanOut.modifyFilteringRule
    rw [if_neg (by simp [hD.fails])]
    rfl

/-- The rules are reset one by one, and then the first ones get the subnets. -/
theorem handlePrivateSubnetAndroid_eq (hD : D.Succeeds) (hrx : cfg.rxProp ≠ none) :
    f.handlePrivateSubnetAndroid D cfg .v4 o = { o with
      flt := (List.range o.privateSubnet.num).foldl
        (fun d i => d.modify (f.privateFlRuleHdl i) fun s =>
          { s with rule := privateSubnetRule (o.privateSubnet.subnetAddr i) (o.privateSubnet.subnetMask i) })
        ((List.range ipaMaxPrivateSubnetEntries).foldl
          (fun d i => d.modify (f.privateFlRuleHdl i) fun s => { s with rule := dummyRule }) o.flt) } := by
  unfold handlePrivateSubnetAndroid
  rw [if_neg (by simp [hrx]), foldl_resets hD]
  dsimp only
  rw [if_neg (by simp [hD.fails])]
  unfold LanOut.modifyFilteringRule
  rw [if_neg (by simp [hD.fails]), List.foldl_map]

/-- The row is made equal to the table. -/
theorem handlePrivateSubnetAndroid_row (hD : D.Succeeds) (hrx : cfg.rxProp ≠ none) (h : Row rx n (f, o) R) (ho : o.flt.used.Nodup) :
    Row rx n (f, f.handlePrivateSubnetAndroid D cfg .v4 o) o.privateSubnet.rule := by
  obtain ⟨hnd, hreset⟩ := h.modifyFirst ho (Nat.le_refl _) fun _ => dummyRule
  have hset := (hreset.modifyFirst hnd o.privateSubnet.fits
    fun i => privateSubnetRule (o.privateSubnet.subnetAddr i) (o.privateSubnet.subnetMask i)).2
  rw [handlePrivateSubnetAndroid_eq hD hrx]
  refine hset.congr fun i hi => ?_
  unfold PrivateSubnetTable.rule
  rw [if_pos hi]

/-- Without rules there is nothing to change. -/
theorem handlePrivateSubnetAndroid_nil (hD : D.Succeeds) (hrx : cfg.rxProp ≠ none)
    (h : o.flt.view (ofUse n .privateSubnet .v4) = []) :
    (f.handlePrivateSubnetAndroid D cfg .v4 o).flt.view (ofUse n .privateSubnet .v4) = [] := by
  have hmod : ∀ (d : Ledger FltSlot) (k : Nat) (rule : FltRule), d.view (ofUse n .privateSubnet .v4) = [] →
      (d.modify k fun s => { s with rule }).view (ofUse n .privateSubnet .v4) = [] := fun d k rule hd => by
    rw [setRule_view, hd, List.map_nil]
  rw [handlePrivateSubnetAndroid_eq hD hrx]
  refine Lib.forRange_inv' (fun d : Ledger FltSlot => d.view (ofUse n .privateSubnet .v4) = []) ?_ fun i d _ hd => hmod d _ _ hd
  exact Lib.forRange_inv' (fun d : Ledger FltSlot => d.view (ofUse n .privateSubnet .v4) = []) h fun i d _ hd => hmod d _ _ hd

/-- All that changes are rules of the interface. -/
theorem handlePrivateSubnetAndroid_gains (hD : D.Succeeds) (hrx : cfg.rxProp ≠ none) (ho : o.Sound)
    (hh : ∀ i, LanOut.Own n o (f.privateFlRuleHdl i)) : Gains n (f, o) (f, f.handlePrivateSubnetAndroid D cfg .v4 o) := by
  have hmod : ∀ (d : Ledger FltSlot) (i : Nat) (rule : FltRule),
      (LanOut.Apart n o { o with flt := d } ∧ ∀ k, LanOut.Own n o k → LanOut.Own n { o with flt := d } k) →
      LanOut.Apart n o { o with flt := d.modify (f.privateFlRuleHdl i) fun s => { s with rule } } ∧
        ∀ k, LanOut.Own n o k → LanOut.Own n { o with flt := d.modify (f.privateFlRuleHdl i) fun s => { s with rule } } k := by
    rintro d i rule ⟨ha, hk⟩
    have hspare := (hk _ (hh i)).spare (ha.sound ho)
    refine ⟨⟨fun ho' => ?_, fun p hp => ?_, rfl, rfl⟩, fun k hk' => ?_⟩
    · have ho' := ha.sound ho'
      exact ⟨by rw [Ledger.modify_used]; exact ho'.nodup, by rw [Ledger.modify_used]; exact ho'.ne_zero⟩
    · refine Eq.trans ?_ (ha.view p hp)
      exact Ledger.modify_view_of_not fun s hs => ⟨hp s (hspare s hs), hp _ (hspare s hs)⟩
    · rcases hk k hk' with hk' | ⟨s, hs, hn⟩
      · exact .inl hk'
      have hm := List.mem_map_of_mem (f := fun x : Nat × FltSlot =>
        if x.1 = f.privateFlRuleHdl i then (f.privateFlRuleHdl i, { x.2 with rule }) else x) hs
      by_cases he : k = f.privateFlRuleHdl i
      · subst he
        rw [if_pos rfl] at hm
        exact .inr ⟨_, hm, hn⟩
      · rw [if_neg he] at hm
        exact .inr ⟨_, hm, hn⟩
  have h := Lib.forRange_inv' (fun d : Ledger FltSlot =>
      LanOut.Apart n o { o with flt := d } ∧ ∀ k, LanOut.Own n o k → LanOut.Own n { o with flt := d } k)
    (Lib.forRange_inv' (fun d : Ledger FltSlot =>
        LanOut.Apart n o { o with flt := d } ∧ ∀ k, LanOut.Own n o k → LanOut.Own n { o with flt := d } k)
      (n := ipaMaxPrivateSubnetEntries) ⟨.refl n o, fun _ => id⟩ fun i d _ => hmod d i dummyRule)
    (n := o.privateSubnet.num) fun i d _ => hmod d i (privateSubnetRule (o.privateSubnet.subnetAddr i) (o.privateSubnet.subnetMask i))
  rw [handlePrivateSubnetAndroid_eq hD hrx]
  exact ⟨h.1, fun hall => hall.imp h.2⟩

/-! ### `add_dummy_private_subnet_flt_rule` -/

theorem addDummyPrivateSubnetFltRule_gains :
    Gains cfg.ipaIfNum (f, o) (f.addDummyPrivateSubnetFltRule D cfg .v4 o) := by
  unfold addDummyPrivateSubnetFltRule
  cases cfg.rxProp with
  | none => exact .refl _ _
  | some rx =>
    have ha := LanOut.addFilteringRule_apart (D := D) (n := cfg.ipaIfNum) (o := o) rx.rx.srcPipe .privateSubnet .v4
      (List.replicate ipaMaxPrivateSubnetEntries (true, addedDummyRule))
    have hm := (LanOut.Adds.addFilteringRule (D := D) (o := o) cfg.ipaIfNum rx.rx.srcPipe .privateSubnet .v4
      (List.replicate ipaMaxPrivateSubnetEntries (true, addedDummyRule))).mono
    dsimp only
    rw [if_pos rfl]
    split
    next he =>
      rw [he] at ha hm
      exact ⟨ha, fun hh => hh.imp fun _ => LanOut.Own.mono hm⟩
    next hs o' he =>
      rw [he] at ha hm
      refine ⟨ha.trans (.addFltRuleCount ..), fun hh => ?_⟩
      have hflt := LanOut.addFltRuleCount_flt (o := o') cfg.pipes rx.rx.srcPipe .v4 ipaMaxPrivateSubnetEntries
      have hmono : ∀ k, LanOut.Own cfg.ipaIfNum o k →
          LanOut.Own cfg.ipaIfNum (o'.addFltRuleCount cfg.pipes rx.rx.srcPipe .v4 ipaMaxPrivateSubnetEntries) k :=
        fun _ => LanOut.Own.mono fun x hx => by rw [hflt]; exact hm x hx
      exact { hh.imp hmono with
        privateFl := recordHdls_all (fun i => hmono _ (hh.privateFl i)) fun k hk =>
          (LanOut.addFilteringRule_own he (List.takeWhile_subset _ hk)).mono fun x hx => by rw [hflt]; exact hx }

/-- A row of dummies is added where there was none. -/
theorem addDummyPrivateSubnetFltRule_row (hD : D.Succeeds) (hrx : cfg.rxProp = some rx)
    (h : o.flt.view (ofUse cfg.ipaIfNum .privateSubnet .v4) = []) :
    Row rx cfg.ipaIfNum (f.addDummyPrivateSubnetFltRule D cfg .v4 o) fun _ => addedDummyRule := by
  have hslots : ∀ s ∈ List.replicate ipaMaxPrivateSubnetEntries (rx.slot cfg.ipaIfNum .privateSubnet .v4 addedDummyRule),
      ofUse cfg.ipaIfNum .privateSubnet .v4 s = true := fun s hs => by
    rw [List.eq_of_mem_replicate hs]
    simp [ofUse, RxProps.slot]
  obtain ⟨hs, hlen, hfst, hlive⟩ := @Ledger.install_rear _ D.handles (D.refuses (.addFlt .privateSubnet .v4)) o.flt
    (List.replicate ipaMaxPrivateSubnetEntries (rx.slot cfg.ipaIfNum .privateSubnet .v4 addedDummyRule)) (hD.refuses _)
  have hview := Ledger.view_append hlive hslots
  rw [h, List.nil_append] at hview
  have hrules : (List.replicate ipaMaxPrivateSubnetEntries (true, addedDummyRule)).map
        (fun r => (r.1, (⟨rx.rx.srcPipe, .v4, cfg.ipaIfNum, .privateSubnet, r.2⟩ : FltSlot))) =
      (List.replicate ipaMaxPrivateSubnetEntries (rx.slot cfg.ipaIfNum .privateSubnet .v4 addedDummyRule)).map fun r => (true, r) := by
    simp only [List.map_replicate]
    rfl
  unfold addDummyPrivateSubnetFltRule
  rw [hrx]
  dsimp only
  rw [if_pos rfl]
  dsimp only [LanOut.addFilteringRule]
  rw [if_neg (by simp [hD.fails]), hrules]
  unfold Row
  dsimp only
  rw [LanOut.addFltRuleCount_flt, hview, hfst]
  rw [List.length_replicate] at hlen
  obtain ⟨a, b, c, rfl⟩ := List.length_eq_three.1 hlen
  rfl

end Rows

end Lan

end HiaeCommon
