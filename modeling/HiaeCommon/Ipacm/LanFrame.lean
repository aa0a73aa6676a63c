/-
What the handlers of an `IPACM_Lan` leave alone. The rules of one kind that are
installed (a view of the driver's list) are touched only by the calls for that
kind, and the fields the WAN interfaces' messages depend on are the core of the
interface, which its default rules and the software routing do not touch.
-/
import HiaeCommon.Ipacm.Lan

namespace HiaeCommon

open Lib (Handles Ledger untilFailure)

/-- No rule that is there for this use is of the kind. -/
def Blind (p : FltSlot → Bool) (use : FltUse) : Prop := ∀ s : FltSlot, s.use = use → p s = false

/-- Handles are given out once, and none is zero. -/
structure LanOut.Sound (o : LanOut) : Prop where
  nodup : o.flt.used.Nodup
  ne_zero : 0 ∉ o.flt.used

/-! ## The calls -/

namespace LanOut

variable {D : LanDriver} {o : LanOut} {p : FltSlot → Bool}

@[simp] theorem post_flt (m : LanMsg) : (o.post m).flt = o.flt := rfl

@[simp] theorem post_privateSubnet (m : LanMsg) : (o.post m).privateSubnet = o.privateSubnet := rfl

@[simp] theorem notify_flt (n : FltrInstalledNotif) : (o.notify n).flt = o.flt := rfl

@[simp] theorem addFltRuleCount_flt (pipes i : Nat) (t : IpType) (n : Int) : (o.addFltRuleCount pipes i t n).flt = o.flt := by
  unfold addFltRuleCount
  split <;> rfl

@[simp] theorem addRoutingRule_flt (r : RtRule) : (o.addRoutingRule D r).2.flt = o.flt := by
  unfold addRoutingRule
  split <;> rfl

@[simp] theorem addPrivateSubnet_flt (a : BitVec 32) (i : Nat) : (o.addPrivateSubnet a i).flt = o.flt := by
  unfold addPrivateSubnet
  dsimp only
  split
  · rfl
  · split <;> rfl

theorem addFilteringRule_view {use : FltUse} (hp : Blind p use) (owner ep : Nat) (ip : IpType) (rules : List (Bool × FltRule)) :
    (o.addFilteringRule D owner ep use ip rules).2.flt.view p = o.flt.view p := by
  unfold addFilteringRule
  split
  · rfl
  · refine Ledger.install_view_of_not fun x hx => ?_
    obtain ⟨r, _, rfl⟩ := List.mem_map.1 hx
    exact hp _ rfl

/-- A handle that comes back was not in use, and is that of one of the rules. -/
theorem addFilteringRule_new {owner ep : Nat} {use : FltUse} {ip : IpType} {rules : List (Bool × FltRule)} {hs : List (Option Nat)}
    {o' : LanOut} (he : o.addFilteringRule D owner ep use ip rules = (some hs, o')) {h : Nat} (hm : some h ∈ hs) :
    h ∉ o.flt.used ∧ ∀ s, (h, s) ∈ o'.flt.live → s.use = use := by
  unfold addFilteringRule at he
  split at he
  · cases he
  simp only [Prod.mk.injEq, Option.some.injEq] at he
  obtain ⟨rfl, rfl⟩ := he
  have hnot := Ledger.install_fresh hm
  refine ⟨hnot, fun s hs => ?_⟩
  rcases Ledger.mem_of_mem_install hs with h | ⟨_, y, hy, he⟩
  · exact absurd (List.mem_map_of_mem h) hnot
  · obtain ⟨r, _, rfl⟩ := List.mem_map.1 hy
    exact congrArg FltSlot.use he

theorem install_ne_zero (hz : ∀ used, D.handles.pick used ≠ 0) {refused : Nat → Bool} {l : List (Bool × FltSlot)} {d : Ledger FltSlot}
    (h0 : 0 ∉ d.used) : 0 ∉ (d.install D.handles refused l).2.used := by
  induction l generalizing refused d with
  | nil => exact h0
  | cons x l ih =>
    simp only [Ledger.install]
    split
    · exact ih h0
    · refine ih fun hm => ?_
      obtain ⟨y, hy, he⟩ := List.mem_map.1 hm
      rcases Ledger.mem_of_mem_put x.1 x.2 hy with hy | rfl
      · exact h0 (he ▸ List.mem_map_of_mem hy)
      · exact hz _ he

namespace Sound

theorem of_flt {o' : LanOut} (h : o.Sound) (he : o'.flt = o.flt) : o'.Sound := ⟨he ▸ h.nodup, he ▸ h.ne_zero⟩

theorem addFilteringRule (h : o.Sound) (owner ep : Nat) (use : FltUse) (ip : IpType) (rules : List (Bool × FltRule)) :
    (o.addFilteringRule D owner ep use ip rules).2.Sound := by
  unfold LanOut.addFilteringRule
  split
  · exact h
  · exact ⟨Ledger.install_nodup h.nodup, install_ne_zero D.ne_zero h.ne_zero⟩

theorem del (h : o.Sound) (k : Nat) : ({ o with flt := o.flt.del k } : LanOut).Sound := by
  refine ⟨Ledger.del_nodup h.nodup, fun hm => ?_⟩
  obtain ⟨x, hx, he⟩ := List.mem_map.1 hm
  exact h.ne_zero (he ▸ List.mem_map_of_mem (Ledger.mem_del.1 hx).1)

theorem deleteFilteringHdls (h : o.Sound) (use : FltUse) (ip : IpType) (hdls : List Nat) :
    (o.deleteFilteringHdls D use ip hdls).2.Sound := by
  refine Lib.untilFailure_keeps LanOut.Sound (fun x _ o h => ?_) h
  dsimp only
  split
  · exact h
  · split
    · exact h
    · exact h.del _

theorem modifyFilteringRule (h : o.Sound) (c : LanCall) (rules : List (Nat × FltRule)) :
    (o.modifyFilteringRule D c rules).2.Sound := by
  unfold LanOut.modifyFilteringRule
  split
  · exact h
  · have hu : ∀ d : Ledger FltSlot, (rules.foldl (fun d (x : Nat × FltRule) => d.modify x.1 fun s => { s with rule := x.2 }) d).used =
        d.used := by
      induction rules with
      | nil => exact fun _ => rfl
      | cons x rules ih => exact fun d => (ih _).trans Ledger.modify_used
    exact ⟨by rw [hu]; exact h.nodup, by rw [hu]; exact h.ne_zero⟩

end Sound

/-- All that changed of the filter rules is that rules for these uses were added. -/
structure Adds (uses : List FltUse) (o o' : LanOut) : Prop where
  sound : o.Sound → o'.Sound
  mono : ∀ x ∈ o.flt.live, x ∈ o'.flt.live
  view : ∀ p, (∀ u ∈ uses, Blind p u) → o'.flt.view p = o.flt.view p

namespace Adds

variable {uses : List FltUse} {o₁ o₂ o₃ : LanOut}

theorem of_flt (he : o₂.flt = o₁.flt) : Adds uses o₁ o₂ := ⟨fun h => h.of_flt he, fun _ hx => he ▸ hx, fun _ _ => by rw [he]⟩

theorem refl (o : LanOut) : Adds uses o o := of_flt rfl

theorem trans (h₁ : Adds uses o₁ o₂) (h₂ : Adds uses o₂ o₃) : Adds uses o₁ o₃ :=
  ⟨fun h => h₂.sound (h₁.sound h), fun x hx => h₂.mono x (h₁.mono x hx), fun p hp => (h₂.view p hp).trans (h₁.view p hp)⟩

theorem weaken {uses' : List FltUse} (h : Adds uses o₁ o₂) (hu : uses ⊆ uses') : Adds uses' o₁ o₂ :=
  ⟨h.sound, h.mono, fun p hp => h.view p fun u hu' => hp u (hu hu')⟩

theorem addFilteringRule (owner ep : Nat) (use : FltUse) (ip : IpType) (rules : List (Bool × FltRule)) :
    Adds [use] o (o.addFilteringRule D owner ep use ip rules).2 := by
  refine ⟨fun h => h.addFilteringRule owner ep use ip rules, fun x hx => ?_, fun p hp => ?_⟩
  · unfold LanOut.addFilteringRule
    split
    · exact hx
    · exact Ledger.mem_install hx
  · exact addFilteringRule_view (hp use (by simp)) owner ep ip rules

theorem addFltRuleCount (h : Adds uses o₁ o₂) (pipes i : Nat) (t : IpType) (n : Int) :
    Adds uses o₁ (o₂.addFltRuleCount pipes i t n) := h.trans (of_flt (by simp))

/-- `o₂` has no rule under the handle `h` that is not for `use`, and `o₁` has none at all. -/
def New (use : FltUse) (o₁ o₂ : LanOut) (h : Nat) : Prop := h ∉ o₁.flt.used ∧ ∀ s, (h, s) ∈ o₂.flt.live → s.use = use

theorem modify {use : FltUse} {h k : Nat} (ha : Adds [use] o₁ o₂) (hn : New use o₁ o₂ h) (hk : New use o₁ o₂ k) (rule : FltRule) :
    Adds [use] o₁ { o₂ with flt := o₂.flt.modify h fun s => { s with rule } } ∧
      New use o₁ { o₂ with flt := o₂.flt.modify h fun s => { s with rule } } k := by
  refine ⟨⟨fun ho => ?_, fun x hx => ?_, fun p hp => ?_⟩, hk.1, fun s hs => ?_⟩
  · have ho := ha.sound ho
    exact ⟨by rw [Ledger.modify_used]; exact ho.nodup, by rw [Ledger.modify_used]; exact ho.ne_zero⟩
  · exact Ledger.mem_modify_of_ne (ha.mono x hx) fun he => hn.1 (he ▸ List.mem_map_of_mem hx)
  · refine Eq.trans ?_ (ha.view p hp)
    exact Ledger.modify_view_of_not fun s hs => ⟨hp use (by simp) s (hn.2 s hs), hp use (by simp) _ (hn.2 s hs)⟩
  · obtain ⟨y, hy, he, h' | ⟨_, h'⟩⟩ := Ledger.mem_modify hs
    · have hu := hk.2 y.2 (by rw [← show y.1 = k from he]; exact hy)
      rw [show s = y.2 from h']
      exact hu
    · have hu := hk.2 y.2 (by rw [← show y.1 = k from he]; exact hy)
      rw [show s = { y.2 with rule } from h']
      exact hu

theorem modifyFilteringRule {use : FltUse} {hs : List Nat} (ha : Adds [use] o₁ o₂) (hn : ∀ h ∈ hs, New use o₁ o₂ h) (c : LanCall)
    {rules : List (Nat × FltRule)} (hr : ∀ x ∈ rules, x.1 ∈ hs) :
    Adds [use] o₁ (o₂.modifyFilteringRule D c rules).2 ∧ ∀ h ∈ hs, New use o₁ (o₂.modifyFilteringRule D c rules).2 h := by
  unfold LanOut.modifyFilteringRule
  split
  · exact ⟨ha, hn⟩
  · induction rules generalizing o₂ with
    | nil => exact ⟨ha, hn⟩
    | cons x rules ih =>
      have hx := hn _ (hr x (by simp))
      have ha' := ha.modify hx hx x.2
      exact ih ha'.1 (fun h hh => (ha.modify hx (hn h hh) x.2).2) fun y hy => hr y (List.mem_cons_of_mem _ hy)

end Adds

/-! ## Deletions -/

theorem filter_not_mem_cons {live : List (Nat × FltSlot)} (h : Nat) (hdls : List Nat) :
    (live.filter fun x => x.1 ≠ h).filter (fun x => x.1 ∉ hdls) = live.filter fun x => x.1 ∉ h :: hdls := by
  rw [List.filter_filter]
  refine List.filter_congr fun x _ => ?_
  by_cases hx : x.1 = h
  · simp [hx]
  · simp [hx]

/-- One handle of `DeleteFilteringHdls`. -/
def delFlt (D : LanDriver) (use : FltUse) (ip : IpType) (x : Nat × Nat) (o : LanOut) : Bool × LanOut :=
  if x.1 = 0 then (true, o)
  else if D.fails (.delFlt use ip x.2) then (false, o)
  else (true, { o with flt := o.flt.del x.1 })

section DelFlt

variable {use : FltUse} {ip : IpType} {h k : Nat}

theorem delFlt_zero (k : Nat) : delFlt D use ip (0, k) o = (true, o) := if_pos rfl

theorem delFlt_ok (hz : h ≠ 0) (hok : D.fails (.delFlt use ip k) = false) :
    delFlt D use ip (h, k) o = (true, { o with flt := o.flt.del h }) := (if_neg hz).trans (if_neg (Bool.eq_false_iff.1 hok))

theorem delFlt_fail (hz : h ≠ 0) (hf : D.fails (.delFlt use ip k) = true) : delFlt D use ip (h, k) o = (false, o) :=
  (if_neg hz).trans (if_pos hf)

end DelFlt

theorem untilFailure_delFlt {use : FltUse} {ip : IpType} {hdls : List Nat} {k : Nat} (ho : 0 ∉ o.flt.used)
    (hok : ∀ i < hdls.length, D.fails (.delFlt use ip (k + i)) = false) :
    (untilFailure (delFlt D use ip) (hdls.zipIdx k) o).1 = true ∧
      (untilFailure (delFlt D use ip) (hdls.zipIdx k) o).2.flt.live = o.flt.live.filter fun x => x.1 ∉ hdls := by
  induction hdls generalizing k o with
  | nil => exact ⟨rfl, (List.filter_eq_self.2 fun _ _ => by simp).symm⟩
  | cons h hdls ih =>
    have hk : D.fails (.delFlt use ip k) = false := hok 0 (by simp)
    have htail : ∀ i < hdls.length, D.fails (.delFlt use ip (k + 1 + i)) = false := fun i hi => by
      have := hok (i + 1) (by simpa using hi)
      rwa [show k + 1 + i = k + (i + 1) by omega]
    rw [List.zipIdx_cons]
    by_cases hz : h = 0
    · subst hz
      rw [Lib.untilFailure_cons_ok (delFlt_zero k)]
      refine ⟨(ih ho htail).1, (ih ho htail).2.trans (List.filter_congr fun x hx => ?_)⟩
      have hne : x.1 ≠ 0 := fun he => ho (he ▸ List.mem_map_of_mem hx)
      simp [hne]
    · rw [Lib.untilFailure_cons_ok (delFlt_ok hz hk)]
      have ho' : 0 ∉ (o.flt.del h).used := fun hm => by
        obtain ⟨x, hx, he⟩ := List.mem_map.1 hm
        exact ho (he ▸ List.mem_map_of_mem (Ledger.mem_del.1 hx).1)
      have h' := ih (o := { o with flt := o.flt.del h }) ho' htail
      refine ⟨h'.1, h'.2.trans ?_⟩
      dsimp only
      rw [Ledger.del_live]
      exact filter_not_mem_cons h hdls

/-- Where no call fails all the rules go. -/
theorem deleteFilteringHdls_of_ok (ho : 0 ∉ o.flt.used) (use : FltUse) (ip : IpType) {hdls : List Nat}
    (hok : ∀ i < hdls.length, D.fails (.delFlt use ip i) = false) :
    (o.deleteFilteringHdls D use ip hdls).1 = true ∧
      (o.deleteFilteringHdls D use ip hdls).2.flt.live = o.flt.live.filter fun x => x.1 ∉ hdls :=
  untilFailure_delFlt ho fun i hi => by rw [Nat.zero_add]; exact hok i hi

/-- Where the first fails nothing happens. -/
theorem deleteFilteringHdls_of_first {use : FltUse} {ip : IpType} {h : Nat} {hdls : List Nat} (hz : h ≠ 0)
    (hf : D.fails (.delFlt use ip 0) = true) : o.deleteFilteringHdls D use ip (h :: hdls) = (false, o) :=
  Lib.untilFailure_cons_fail (delFlt_fail hz hf) _

/-- What no handle names stays. -/
theorem deleteFilteringHdls_view {use : FltUse} {ip : IpType} {hdls : List Nat} (h : ∀ k ∈ hdls, ∀ r, (k, r) ∉ o.flt.view p) :
    (o.deleteFilteringHdls D use ip hdls).2.flt.view p = o.flt.view p := by
  refine Lib.untilFailure_keeps (fun o' : LanOut => o'.flt.view p = o.flt.view p) (fun x hx o' ho' => ?_) rfl
  dsimp only
  split
  · exact ho'
  split
  · exact ho'
  · have hk : x.1 ∈ hdls := (List.mem_zipIdx' hx).2 ▸ List.getElem_mem _
    refine (Ledger.del_view_of_not_mem fun r hr => ?_).trans ho'
    rw [ho'] at hr
    exact h x.1 hk r hr

end LanOut

/-! ## The interface -/

/-- What the WAN interfaces' messages change of an interface. -/
structure LanWan where
  ipv6PrefixFltRuleHdl : Nat
  lanWanFlRuleHdl : Nat
  lanWanV6FlRuleHdl : Nat
  ulV4 : UplinkRules
  ulV6 : UplinkRules

/-- What the addresses change of it. -/
structure LanAddrs where
  ipType : IfaceIpType
  numDftRtV6 : Nat
  ipv6Addr : Nat → BitVec 128
  privateFlRuleHdl : Nat → Nat

namespace Lan

variable {D : LanDriver} {cfg : LanConf} {sh : LanShared} {f : Lan} {o : LanOut}

def wan (f : Lan) : LanWan where
  ipv6PrefixFltRuleHdl := f.ipv6PrefixFltRuleHdl
  lanWanFlRuleHdl := f.lanWanFlRuleHdl
  lanWanV6FlRuleHdl := f.dftV6flRuleHdl ipv6DefaultFiltertingRules
  ulV4 := f.ulV4
  ulV6 := f.ulV6

def addrs (f : Lan) : LanAddrs where
  ipType := f.ipType
  numDftRtV6 := f.numDftRtV6
  ipv6Addr := f.ipv6Addr
  privateFlRuleHdl := f.privateFlRuleHdl

/-- What neither the default rules nor the software routing change. -/
def core (f : Lan) : Bool × LanWan × LanAddrs := (f.isActive, f.wan, f.addrs)

theorem addOne_adds (use : FltUse) (ip : IpType) (rule : FltRule) (set : Nat → Lan) (rx : RxProps) :
    LanOut.Adds [use] o (f.addOne D cfg use ip rule set rx o).2.2 := by
  have h := LanOut.Adds.addFilteringRule (D := D) (o := o) cfg.ipaIfNum rx.rx.srcPipe use ip [(true, rule)]
  unfold addOne
  split
  next he => rwa [he] at h
  next he =>
    rw [he] at h
    exact h.addFltRuleCount _ _ _ _

theorem addOne_fst (P : Lan → Prop) (use : FltUse) (ip : IpType) (rule : FltRule) {set : Nat → Lan} (rx : RxProps) (hf : P f)
    (hset : ∀ h, P (set h)) : P (f.addOne D cfg use ip rule set rx o).2.1 := by
  unfold addOne
  split
  · exact hf
  · exact hset _

theorem recordHdls_length {hs : List (Option Nat)} {hdl : Nat → Nat} {i : Nat} (hi : hs.length ≤ i) : recordHdls hs hdl i = hdl i := by
  rw [recordHdls, List.getElem?_eq_none hi]

theorem initFlRule_adds (ip : IpType) : LanOut.Adds [.dft] o (f.initFlRule D cfg ip o).2 := by
  unfold initFlRule
  cases cfg.rxProp with
  | none => exact .refl o
  | some rx =>
    dsimp only
    split
    · have h := LanOut.Adds.addFilteringRule (D := D) (o := o) cfg.ipaIfNum rx.rx.srcPipe .dft .v4 dftV4Rules
      split
      next he => rwa [he] at h
      next he =>
        rw [he] at h
        exact h.addFltRuleCount _ _ _ _
    · have h := LanOut.Adds.addFilteringRule (D := D) (o := o) cfg.ipaIfNum rx.rx.srcPipe .dft .v6 (dftV6Rules rx.rx)
      split
      next he => rwa [he] at h
      next he =>
        rw [he] at h
        exact h.addFltRuleCount _ _ _ _

theorem addFilteringRule_length {owner ep : Nat} {use : FltUse} {ip : IpType} {rules : List (Bool × FltRule)}
    {hs : List (Option Nat)} {o' : LanOut} (h : o.addFilteringRule D owner ep use ip rules = (some hs, o')) :
    hs.length = rules.length := by
  unfold LanOut.addFilteringRule at h
  split at h
  · cases h
  · cases h
    rw [Ledger.install_length, List.length_map]

theorem initFlRule_core (ip : IpType) : (f.initFlRule D cfg ip o).1.core = f.core := by
  unfold initFlRule
  cases cfg.rxProp with
  | none => rfl
  | some rx =>
    dsimp only
    split
    · split <;> rfl
    · split
      next => rfl
      next hs _ he =>
        have hlen : hs.length = 6 := addFilteringRule_length he
        simp only [core, wan, recordHdls_length (show hs.length ≤ ipv6DefaultFiltertingRules from hlen.le)]
        rfl

theorem installIpv4IcmpFltRule_adds : LanOut.Adds [.icmp] o (f.installIpv4IcmpFltRule D cfg o).2 := by
  unfold installIpv4IcmpFltRule
  cases cfg.rxProp with
  | none => exact .refl o
  | some rx => exact addOne_adds ..

theorem installIpv4IcmpFltRule_core : (f.installIpv4IcmpFltRule D cfg o).1.core = f.core := by
  unfold installIpv4IcmpFltRule
  cases cfg.rxProp with
  | none => rfl
  | some rx => exact addOne_fst (fun f' => f'.core = f.core) .icmp .v4 ipv4IcmpRule rx rfl fun _ => rfl

theorem installIpv6IcmpFltRule_adds : LanOut.Adds [.icmp] o (f.installIpv6IcmpFltRule D cfg o).2 := by
  unfold installIpv6IcmpFltRule
  cases cfg.rxProp with
  | none => exact .refl o
  | some rx => exact addOne_adds ..

theorem installIpv6IcmpFltRule_core : (f.installIpv6IcmpFltRule D cfg o).1.core = f.core := by
  unfold installIpv6IcmpFltRule
  cases cfg.rxProp with
  | none => rfl
  | some rx => exact addOne_fst (fun f' => f'.core = f.core) .icmp .v6 ipv6IcmpRule rx rfl fun _ => rfl

theorem handleSoftwareRoutingEnable_adds : LanOut.Adds [.softwareRouting] o (f.handleSoftwareRoutingEnable D cfg o).2 := by
  unfold handleSoftwareRoutingEnable
  split
  · exact .refl o
  cases cfg.rxProp with
  | none => exact .refl o
  | some rx =>
    have h4 := LanOut.Adds.addFilteringRule (D := D) (o := o) cfg.ipaIfNum rx.rx.srcPipe .softwareRouting .v4
      [(false, swRoutingRule)]
    dsimp only
    split
    next he =>
      rw [he] at h4
      have h4 := h4.addFltRuleCount cfg.pipes rx.rx.srcPipe .v4 1
      have h6 := h4.trans (LanOut.Adds.addFilteringRule (D := D) cfg.ipaIfNum rx.rx.srcPipe .softwareRouting .v6
        [(false, swRoutingRule)])
      split
      next he =>
        rw [he] at h6
        exact h6.addFltRuleCount _ _ _ _
      next he => rwa [he] at h6
    next he => rwa [he] at h4

theorem handleSoftwareRoutingEnable_core : (f.handleSoftwareRoutingEnable D cfg o).1.core = f.core := by
  unfold handleSoftwareRoutingEnable
  split
  · rfl
  cases cfg.rxProp with
  | none => rfl
  | some rx =>
    dsimp only
    split
    · split <;> rfl
    · rfl

/-! ## An address -/

theorem addDummyPrivateSubnetFltRule_adds (ip : IpType) : LanOut.Adds [.privateSubnet] o (f.addDummyPrivateSubnetFltRule D cfg ip o).2 := by
  unfold addDummyPrivateSubnetFltRule
  cases cfg.rxProp with
  | none => exact .refl o
  | some rx =>
    dsimp only
    split
    · have h := LanOut.Adds.addFilteringRule (D := D) (o := o) cfg.ipaIfNum rx.rx.srcPipe .privateSubnet .v4
        (List.replicate ipaMaxPrivateSubnetEntries (true, addedDummyRule))
      split
      next he => rwa [he] at h
      next he =>
        rw [he] at h
        exact h.addFltRuleCount _ _ _ _
    · exact .refl o

theorem addDummyPrivateSubnetFltRule_core (ip : IpType) : (f.addDummyPrivateSubnetFltRule D cfg ip o).1.core =
    (f.isActive, f.wan, { f.addrs with privateFlRuleHdl := (f.addDummyPrivateSubnetFltRule D cfg ip o).1.privateFlRuleHdl }) := by
  unfold addDummyPrivateSubnetFltRule
  cases cfg.rxProp with
  | none => rfl
  | some rx =>
    dsimp only
    split
    · split <;> rfl
    · rfl

theorem addDummyPrivateSubnetFltRule_of_ne {ip : IpType} (h : ip ≠ .v4) : f.addDummyPrivateSubnetFltRule D cfg ip o = (f, o) := by
  unfold addDummyPrivateSubnetFltRule
  cases cfg.rxProp with
  | none => rfl
  | some rx => exact if_neg h

/-- A handle that is recorded is that of a new rule, or was recorded before. -/
theorem recordHdls_cases {hs : List (Option Nat)} (hdl : Nat → Nat) (i : Nat) :
    recordHdls hs hdl i = hdl i ∨ some (recordHdls hs hdl i) ∈ hs := by
  unfold recordHdls
  split
  next h he => exact .inr (List.mem_of_getElem? he)
  next => exact .inl rfl

theorem addDummyPrivateSubnetFltRule_new (h0 : ∀ i < ipaMaxPrivateSubnetEntries, f.privateFlRuleHdl i = 0) (ho : o.Sound)
    (ip : IpType) {h : Nat}
    (hh : h ∈ (List.range ipaMaxPrivateSubnetEntries).map (f.addDummyPrivateSubnetFltRule D cfg ip o).1.privateFlRuleHdl) :
    LanOut.Adds.New .privateSubnet o (f.addDummyPrivateSubnetFltRule D cfg ip o).2 h := by
  obtain ⟨i, hi, rfl⟩ := List.mem_map.1 hh
  rw [List.mem_range] at hi
  have hzero : ∀ o', LanOut.Adds [.privateSubnet] o o' → LanOut.Adds.New .privateSubnet o o' 0 := fun o' ha =>
    ⟨ho.ne_zero, fun s hs => absurd (List.mem_map_of_mem hs) (ha.sound ho).ne_zero⟩
  have hadds := @addDummyPrivateSubnetFltRule_adds D cfg f o ip
  revert hadds
  unfold addDummyPrivateSubnetFltRule
  cases cfg.rxProp with
  | none =>
    intro hadds
    rw [show f.privateFlRuleHdl i = 0 from h0 i hi]
    exact hzero _ hadds
  | some rx =>
    dsimp only
    split
    · split
      next =>
        intro hadds
        rw [show f.privateFlRuleHdl i = 0 from h0 i hi]
        exact hzero _ hadds
      next hs o' he =>
        intro hadds
        dsimp only
        rcases @recordHdls_cases (hs.takeWhile Option.isSome) f.privateFlRuleHdl i with hr | hr
        · rw [hr, h0 i hi]
          exact hzero _ hadds
        · obtain ⟨hnot, huse⟩ := LanOut.addFilteringRule_new he (List.takeWhile_subset _ hr)
          refine ⟨hnot, fun s hs => huse s ?_⟩
          rwa [LanOut.addFltRuleCount_flt] at hs
    · intro hadds
      rw [show f.privateFlRuleHdl i = 0 from h0 i hi]
      exact hzero _ hadds

theorem handlePrivateSubnetAndroid_adds {o₁ : LanOut} (ha : LanOut.Adds [.privateSubnet] o₁ o)
    (hn : ∀ h ∈ (List.range ipaMaxPrivateSubnetEntries).map f.privateFlRuleHdl, LanOut.Adds.New .privateSubnet o₁ o h) (ip : IpType) :
    LanOut.Adds [.privateSubnet] o₁ (f.handlePrivateSubnetAndroid D cfg ip o) := by
  unfold handlePrivateSubnetAndroid
  split
  · exact ha
  have hresets : ∀ (l : List Nat), (∀ i ∈ l, i < ipaMaxPrivateSubnetEntries) → ∀ o : LanOut, LanOut.Adds [.privateSubnet] o₁ o →
      (∀ h ∈ (List.range ipaMaxPrivateSubnetEntries).map f.privateFlRuleHdl, LanOut.Adds.New .privateSubnet o₁ o h) →
      LanOut.Adds [.privateSubnet] o₁
          (l.foldl (fun o i => (o.modifyFilteringRule D (.resetFlt i) [(f.privateFlRuleHdl i, dummyRule)]).2) o) ∧
        ∀ h ∈ (List.range ipaMaxPrivateSubnetEntries).map f.privateFlRuleHdl, LanOut.Adds.New .privateSubnet o₁
          (l.foldl (fun o i => (o.modifyFilteringRule D (.resetFlt i) [(f.privateFlRuleHdl i, dummyRule)]).2) o) h := by
    intro l
    induction l with
    | nil => exact fun _ o ha hn => ⟨ha, hn⟩
    | cons i l ih =>
      intro hl o ha hn
      have hi : f.privateFlRuleHdl i ∈ (List.range ipaMaxPrivateSubnetEntries).map f.privateFlRuleHdl :=
        List.mem_map_of_mem (List.mem_range.2 (hl i (by simp)))
      obtain ⟨ha', hn'⟩ := @LanOut.Adds.modifyFilteringRule D _ _ _ _ ha hn (.resetFlt i)
        [(f.privateFlRuleHdl i, dummyRule)] fun x hx => by rw [List.mem_singleton.1 hx]; exact hi
      exact ih (fun j hj => hl j (List.mem_cons_of_mem _ hj)) _ ha' hn'
  obtain ⟨ha', hn'⟩ := hresets _ (fun i hi => List.mem_range.1 hi) o ha hn
  dsimp only
  split
  · exact ha'
  · refine (ha'.modifyFilteringRule (D := D) hn' .modifyFlt fun x hx => ?_).1
    obtain ⟨i, hi, rfl⟩ := List.mem_map.1 hx
    exact List.mem_map_of_mem (List.mem_range.2 ((List.mem_range.1 hi).trans_le (LanOut.privateSubnet _).fits))

theorem setUpV4_adds : LanOut.Adds [.dft, .icmp] o (f.setUpV4 D cfg o).2 := by
  unfold setUpV4
  have h1 := @LanOut.Adds.weaken _ _ _ [.dft, .icmp] (@initFlRule_adds D cfg f o .v4) (by decide)
  have h2 := h1.trans ((@installIpv4IcmpFltRule_adds D cfg (f.initFlRule D cfg .v4 o).1 _).weaken (by decide))
  exact h2.trans (.of_flt rfl)

theorem setUpV4_core : (f.setUpV4 D cfg o).1.core = f.core := installIpv4IcmpFltRule_core.trans (initFlRule_core .v4)

theorem setUpV6_adds : LanOut.Adds [.dft, .icmp] o (f.setUpV6 D cfg o).2 := by
  unfold setUpV6
  have h1 := @LanOut.Adds.weaken _ _ _ [.dft, .icmp] (@installIpv6IcmpFltRule_adds D cfg f o) (by decide)
  have h2 := h1.trans (@LanOut.Adds.of_flt _ _
    ((f.installIpv6IcmpFltRule D cfg o).2.post (.ethBridgeIfaceUp cfg.ipaIfNum .v6)) rfl)
  exact h2.trans ((initFlRule_adds .v6).weaken (by decide))

theorem setUpV6_core : (f.setUpV6 D cfg o).1.core = f.core := (initFlRule_core .v6).trans installIpv6IcmpFltRule_core

theorem addRoutingRule_adds {uses : List FltUse} {o' : LanOut} {r : RtRule} {h : Option Nat} (he : o.addRoutingRule D r = (h, o')) :
    LanOut.Adds uses o o' := .of_flt ((congrArg (fun x => x.2.flt) he).symm.trans (by simp))

theorem handleAddrEvtV4_adds (data : LanAddr) : LanOut.Adds [.dft, .icmp] o (f.handleAddrEvtV4 D cfg data o).2.2 := by
  have h0 : LanOut.Adds [.dft, .icmp] o (o.addPrivateSubnet ((data.ipv4Addr >>> 8) <<< 8) cfg.ipaIfNum) := .of_flt (by simp)
  unfold handleAddrEvtV4
  dsimp only
  split
  next he => exact h0.trans (addRoutingRule_adds he)
  next he => exact (h0.trans (addRoutingRule_adds he)).trans setUpV4_adds

theorem handleAddrEvtV4_spec (data : LanAddr) :
    (f.handleAddrEvtV4 D cfg data o).1 = !D.fails (.addRt .lanV4) ∧
      (f.handleAddrEvtV4 D cfg data o).2.1.core =
        (f.isActive, f.wan, { f.addrs with ipType := (f.configIpType .v4).ipType }) := by
  dsimp only [handleAddrEvtV4, LanOut.addRoutingRule, addrRtRule]
  cases D.fails (.addRt .lanV4) with
  | true => exact ⟨rfl, rfl⟩
  | false =>
    simp only [Bool.false_eq_true, if_false]
    exact ⟨rfl, setUpV4_core⟩

theorem addIpv6Addr_adds (addr : BitVec 128) : LanOut.Adds [.dft, .icmp] o (f.addIpv6Addr D cfg addr o).2.2 := by
  unfold addIpv6Addr
  dsimp only
  split
  next he => exact addRoutingRule_adds he
  next he =>
    split
    next he₂ => exact (addRoutingRule_adds he).trans (addRoutingRule_adds he₂)
    next he₂ =>
      have h := (@addRoutingRule_adds _ _ [.dft, .icmp] _ _ _ he).trans (addRoutingRule_adds he₂)
      dsimp only
      split
      · exact h.trans setUpV6_adds
      · exact h

theorem addIpv6Addr_spec (addr : BitVec 128) :
    (f.addIpv6Addr D cfg addr o).1 = (!D.fails (.addRt .v6) && !D.fails (.addRt .wanV6)) ∧
      (f.addIpv6Addr D cfg addr o).2.1.core = (f.isActive, f.wan, { f.addrs with
        ipv6Addr := fun n => if n = f.numDftRtV6 then addr else f.ipv6Addr n
        numDftRtV6 := if !D.fails (.addRt .v6) && !D.fails (.addRt .wanV6) then f.numDftRtV6 + 1 else f.numDftRtV6 }) := by
  dsimp only [addIpv6Addr, LanOut.addRoutingRule, addrRtRule]
  cases D.fails (.addRt .v6) with
  | true => exact ⟨rfl, rfl⟩
  | false =>
    simp only [Bool.false_eq_true, if_false]
    cases D.fails (.addRt .wanV6) with
    | true => exact ⟨rfl, rfl⟩
    | false =>
      simp only [Bool.false_eq_true, if_false]
      refine ⟨rfl, ?_⟩
      split
      · have h : ∀ (f : Lan) o, ({ (f.setUpV6 D cfg o).1 with numDftRtV6 := (f.setUpV6 D cfg o).1.numDftRtV6 + 1 } : Lan).core =
            (f.isActive, f.wan, { f.addrs with numDftRtV6 := f.numDftRtV6 + 1 }) := fun f o =>
          congrArg (fun c : Bool × LanWan × LanAddrs => (c.1, c.2.1, { c.2.2 with numDftRtV6 := c.2.2.numDftRtV6 + 1 }))
            (@setUpV6_core D cfg f o)
        exact h _ _
      · rfl

theorem handleAddrEvt_adds (data : LanAddr) : LanOut.Adds [.dft, .icmp] o (f.handleAddrEvt D cfg data o).2.2 := by
  unfold handleAddrEvt
  split
  · exact handleAddrEvtV4_adds data
  · dsimp only
    split
    · exact .refl o
    · exact addIpv6Addr_adds _

/-- How `handle_addr_evt` ends, and what it makes of the addresses. -/
theorem handleAddrEvt_spec (data : LanAddr) :
    (f.handleAddrEvt D cfg data o).1 = (match data.iptype with
      | .v4 => !D.fails (.addRt .lanV4)
      | _ => !f.hasIpv6Addr data.ipv6Addr && (!D.fails (.addRt .v6) && !D.fails (.addRt .wanV6))) ∧
    (f.handleAddrEvt D cfg data o).2.1.core = (f.isActive, f.wan, match data.iptype with
      | .v4 => { f.addrs with ipType := (f.configIpType .v4).ipType }
      | t => if f.hasIpv6Addr data.ipv6Addr then { f.addrs with ipType := (f.configIpType t).ipType } else { f.addrs with
          ipType := (f.configIpType t).ipType
          ipv6Addr := fun n => if n = f.numDftRtV6 then data.ipv6Addr else f.ipv6Addr n
          numDftRtV6 := if !D.fails (.addRt .v6) && !D.fails (.addRt .wanV6) then f.numDftRtV6 + 1 else f.numDftRtV6 }) := by
  unfold handleAddrEvt
  have hdup : (f.configIpType data.iptype).hasIpv6Addr data.ipv6Addr = f.hasIpv6Addr data.ipv6Addr := rfl
  cases hip : data.iptype with
  | v4 =>
    rw [if_pos rfl]
    exact handleAddrEvtV4_spec data
  | v6 =>
    rw [if_neg (by decide)]
    dsimp only
    rw [← hip, hdup, hip]
    cases f.hasIpv6Addr data.ipv6Addr with
    | true => exact ⟨rfl, rfl⟩
    | false => exact addIpv6Addr_spec (f := f.configIpType .v6) data.ipv6Addr
  | max => exact absurd hip data.family

theorem addrRules_adds (data : LanAddr) (ho : o.Sound)
    (h0 : data.iptype = .v4 → ∀ i < ipaMaxPrivateSubnetEntries, f.privateFlRuleHdl i = 0) :
    LanOut.Adds [.dft, .icmp, .privateSubnet] o (f.addrRules D cfg data o).2.2 := by
  have h1 := @LanOut.Adds.weaken _ _ _ [.dft, .icmp, .privateSubnet] (@handleAddrEvt_adds D cfg f o data) (by decide)
  have hcore := (@handleAddrEvt_spec D cfg f o data).2
  unfold addrRules
  split
  next he =>
    rw [he] at h1
    exact h1
  next f' o' he =>
    rw [he] at h1 hcore
    dsimp only
    cases hip : data.iptype with
    | v4 =>
      rw [hip] at hcore
      have hpriv : f'.privateFlRuleHdl = f.privateFlRuleHdl := congrArg (fun c => c.2.2.privateFlRuleHdl) hcore
      have h2 := @handlePrivateSubnetAndroid_adds D cfg _ _ _ (@addDummyPrivateSubnetFltRule_adds D cfg f' o' .v4)
        (fun h hh => addDummyPrivateSubnetFltRule_new (fun i hi => hpriv ▸ h0 hip i hi) (h1.sound ho) .v4 hh) .v4
      exact h1.trans (h2.weaken (by decide))
    | v6 =>
      rw [addDummyPrivateSubnetFltRule_of_ne (by decide)]
      have h2 : f'.handlePrivateSubnetAndroid D cfg .v6 o' = o' := if_pos (.inr rfl)
      rw [h2]
      exact h1
    | max => exact absurd hip data.family

theorem addrRules_spec (data : LanAddr) : (f.addrRules D cfg data o).1 = (f.handleAddrEvt D cfg data o).1 ∧
    (f.addrRules D cfg data o).2.1.core = (f.isActive, f.wan, { (f.handleAddrEvt D cfg data o).2.1.addrs with
      privateFlRuleHdl := (f.addrRules D cfg data o).2.1.privateFlRuleHdl }) := by
  have hcore := (@handleAddrEvt_spec D cfg f o data).2
  have hactive : (f.handleAddrEvt D cfg data o).2.1.isActive = f.isActive := congrArg Prod.fst hcore
  have hwan : (f.handleAddrEvt D cfg data o).2.1.wan = f.wan := congrArg (fun c => c.2.1) hcore
  unfold addrRules
  rw [← hactive, ← hwan]
  cases f.handleAddrEvt D cfg data o with
  | mk ok s =>
    cases ok with
    | false => exact ⟨rfl, rfl⟩
    | true => exact ⟨rfl, addDummyPrivateSubnetFltRule_core _⟩

theorem addrRules_private {data : LanAddr} (h : data.iptype ≠ .v4) :
    (f.addrRules D cfg data o).2.1.privateFlRuleHdl = f.privateFlRuleHdl := by
  have hcore := (@handleAddrEvt_spec D cfg f o data).2
  have hpriv : (f.handleAddrEvt D cfg data o).2.1.privateFlRuleHdl = f.privateFlRuleHdl := by
    refine (congrArg (fun c => c.2.2.privateFlRuleHdl) hcore).trans ?_
    cases hip : data.iptype with
    | v4 => exact absurd hip h
    | v6 =>
      dsimp only
      split <;> rfl
    | max => exact absurd hip data.family
  unfold addrRules
  rw [← hpriv]
  cases f.handleAddrEvt D cfg data o with
  | mk ok s =>
    cases ok with
    | false => rfl
    | true =>
      dsimp only
      rw [addDummyPrivateSubnetFltRule_of_ne h]

end Lan

end HiaeCommon
