/-
The switch between the concurrency modes against the installer: whether each
routing rule that is installed for a client is, after the switch, the one the
client would have got had it been installed afresh.

An access point switches the IPv4 rules of the clients that are awake, and no
IPv6 rule. The backhaul switches what it should in IPv4, and in IPv6 the rule of
the WAN's table, which should stay with the exception pipe, in place of the rule
of the LAN's table; and nothing while it is not the default gateway.
-/
import HiaeCommon.Ipacm.RuleSlots
import HiaeCommon.Ipacm.SccMcc
import HiaeCommon.Ipacm.WlanEvents

namespace HiaeCommon

open Lib (Ledger untilFailure)
open Outside (AllSucceed)

variable {σ : Type} {D : IpaDriver} {tx : List TxProp} {o o' : Outside}

/-! ## What a loop of modifications does -/

namespace Outside

/-- The rules in `l` are changed, and nothing else. -/
structure Modifies (l : List (Nat × (RtRule → RtRule))) (o o' : Outside) : Prop where
  rt : o'.rt = o.rt.modifyAll l
  hdr : o'.hdr = o.hdr
  told : o'.told = o.told

theorem Modifies.refl (o : Outside) : Modifies [] o o := ⟨rfl, rfl, rfl⟩

theorem Modifies.append {l₁ l₂ : List (Nat × (RtRule → RtRule))} {o₁ o₂ o₃ : Outside} (h : Modifies l₁ o₁ o₂)
    (h' : Modifies l₂ o₂ o₃) : Modifies (l₁ ++ l₂) o₁ o₃ :=
  ⟨by rw [h'.rt, h.rt, Ledger.modifyAll_append], h'.hdr.trans h.hdr, h'.told.trans h.told⟩

theorem modifyRoutingRule_modifies (hD : AllSucceed D) (rtRuleHdl : Nat) (m : RtRuleMdfy) (o : Outside) :
    ∃ o', o.modifyRoutingRule D rtRuleHdl m = (true, o') ∧ Modifies [(rtRuleHdl, m.apply)] o o' := by
  rw [modifyRoutingRule, call_succeeds hD]
  exact ⟨_, rfl, rfl, rfl, rfl⟩

theorem commitRouting_modifies (hD : AllSucceed D) (o : Outside) : Modifies [] o (o.commitRouting D).2 := by
  rw [commitRouting, call_succeeds hD]
  exact ⟨rfl, rfl, rfl⟩

end Outside

open Outside (Modifies)

namespace ClientTable

/-- The slots that are set in the records in use. -/
def slotList (tx : List TxProp) (t : ClientTable σ) : List (Nat × RuleSlot) :=
  (List.range t.num).flatMap fun i => ((t.slot i).slots tx).map fun x => (i, x)

def hdl (t : ClientTable σ) (k : Nat × RuleSlot) : Nat := (t.slot k.1).hdl k.2

theorem mem_slotList {t : ClientTable σ} {k : Nat × RuleSlot} : k ∈ t.slotList tx ↔ k.1 < t.num ∧ (t.slot k.1).IsSet tx k.2 := by
  rw [slotList, List.mem_flatMap]
  constructor
  · rintro ⟨i, hi, hk⟩
    obtain ⟨x, hx, rfl⟩ := List.mem_map.1 hk
    exact ⟨List.mem_range.1 hi, Client.mem_slots.1 hx⟩
  · rintro ⟨hi, hx⟩
    exact ⟨k.1, List.mem_range.2 hi, List.mem_map.2 ⟨k.2, Client.mem_slots.2 hx, rfl⟩⟩

theorem map_hdl_slotList (tx : List TxProp) (t : ClientTable σ) : ((t.slotList tx).map t.hdl : Multiset Nat) = t.rtHdls tx := by
  rw [slotList, List.map_flatMap, coe_flatMap]
  refine (congrArg List.sum (List.map_congr_left fun i _ => ?_)).trans (Multiset.sum_coe _).symm
  rw [List.map_map, ← Client.map_hdl_slots]
  rfl

/-- The changes of the rules in the slots, where there is one. -/
def changes (tx : List TxProp) (t : ClientTable σ) (change : Client σ → RuleSlot → Option RtRuleMdfy) :
    List (Nat × (RtRule → RtRule)) :=
  (t.slotList tx).filterMap fun k => (change (t.slot k.1) k.2).map fun m => (t.hdl k, m.apply)

theorem changes_keys (tx : List TxProp) (t : ClientTable σ) (change : Client σ → RuleSlot → Option RtRuleMdfy) :
    (t.changes tx change).map Prod.fst = ((t.slotList tx).filter fun k => (change (t.slot k.1) k.2).isSome).map t.hdl := by
  rw [changes]
  induction t.slotList tx with
  | nil => rfl
  | cons k l ih =>
    rw [List.filterMap_cons, List.filter_cons]
    cases change (t.slot k.1) k.2 with
    | none => simpa using ih
    | some m => simpa using ih

/-- What the changes make of a rule in a slot, the handles being distinct. -/
theorem lookup_changes {t : ClientTable σ} (hnd : ((t.slotList tx).map t.hdl).Nodup) (change : Client σ → RuleSlot → Option RtRuleMdfy)
    {k : Nat × RuleSlot} (hk : k ∈ t.slotList tx) (d : Ledger RtRule) : (d.modifyAll (t.changes tx change)).lookup (t.hdl k) =
      match change (t.slot k.1) k.2 with
      | some m => (d.lookup (t.hdl k)).map m.apply
      | none => d.lookup (t.hdl k) := by
  have hkeys := changes_keys tx t change
  cases hc : change (t.slot k.1) k.2 with
  | some m =>
    refine Ledger.lookup_modifyAll_mem ?_ (List.mem_filterMap.2 ⟨k, hk, by rw [hc]; rfl⟩)
    rw [hkeys]
    exact hnd.sublist (List.filter_sublist.map _)
  | none =>
    refine Ledger.lookup_modifyAll_other fun hm => ?_
    rw [hkeys] at hm
    obtain ⟨k', hk', heq⟩ := List.mem_map.1 hm
    obtain ⟨hk', hsome⟩ := List.mem_filter.1 hk'
    cases List.inj_on_of_nodup_map hnd hk' hk heq
    rw [hc] at hsome
    cases hsome

theorem lookup_changes_other {t : ClientTable σ} (change : Client σ → RuleSlot → Option RtRuleMdfy) {h : Nat}
    (hh : h ∉ (t.slotList tx).map t.hdl) (d : Ledger RtRule) : (d.modifyAll (t.changes tx change)).lookup h = d.lookup h := by
  refine Ledger.lookup_modifyAll_other fun hm => hh ?_
  rw [changes_keys] at hm
  exact (List.filter_sublist.map _).subset hm

/-- The changes, client by client. -/
theorem changes_eq (t : ClientTable σ) (change : Client σ → RuleSlot → Option RtRuleMdfy) :
    t.changes tx change = (List.range t.num).flatMap fun i =>
      ((t.slot i).slots tx).filterMap fun x => (change (t.slot i) x).map fun m => ((t.slot i).hdl x, m.apply) := by
  rw [changes, slotList, List.filterMap_flatMap]
  refine List.flatMap_congr fun i _ => ?_
  rw [List.filterMap_map]
  rfl

end ClientTable

namespace Client

variable {β : Type} {c : Client σ} {g : RuleSlot → Option β}

/-- What concerns the IPv4 rules only. -/
theorem filterMap_slots_v4 (h6 : ∀ p n, g (.v6 p n) = none) (hw : ∀ p n, g (.v6Wan p n) = none) : (c.slots tx).filterMap g =
    if c.routeRuleSetV4 = true then tx.zipIdx.flatMap fun p => if p.1.ip = .v4 then (g (.v4 p)).toList else [] else [] := by
  have hv6 : (tx.zipIdx.flatMap fun p => List.filterMap g (if p.1.ip = .v6 ∧ c.routeRuleSetV6 ≠ 0 then
      (List.range c.routeRuleSetV6).flatMap fun n => [RuleSlot.v6 p n, .v6Wan p n] else [])) = [] := by
    refine List.flatMap_eq_nil_iff.2 fun p _ => ?_
    split
    · rw [List.filterMap_flatMap]
      exact List.flatMap_eq_nil_iff.2 fun n _ => by simp [h6, hw]
    · rfl
  rw [slots, List.filterMap_append, List.filterMap_flatMap, List.filterMap_flatMap, hv6, List.append_nil]
  split
  next hset =>
    refine List.flatMap_congr fun p _ => ?_
    simp only [hset, and_true]
    split
    · cases hg : g (.v4 p) <;> simp [hg]
    · rfl
  next hset => exact List.flatMap_eq_nil_iff.2 fun p _ => by rw [if_neg fun h => hset h.2]; rfl

/-- What concerns the rules in the IPv6 table of the WAN only. -/
theorem filterMap_slots_v6Wan (h4 : ∀ p, g (.v4 p) = none) (h6 : ∀ p n, g (.v6 p n) = none) : (c.slots tx).filterMap g =
    tx.zipIdx.flatMap fun p => if p.1.ip = .v6 then (List.range c.routeRuleSetV6).flatMap fun n => (g (.v6Wan p n)).toList else [] := by
  have hv4 : (tx.zipIdx.flatMap fun p => List.filterMap g (if p.1.ip = .v4 ∧ c.routeRuleSetV4 = true then [RuleSlot.v4 p] else [])) =
      [] := by
    refine List.flatMap_eq_nil_iff.2 fun p _ => ?_
    split
    · simp [h4]
    · rfl
  rw [slots, List.filterMap_append, List.filterMap_flatMap, List.filterMap_flatMap, hv4, List.nil_append]
  refine List.flatMap_congr fun p _ => ?_
  by_cases hp : p.1.ip = .v6
  · by_cases h0 : c.routeRuleSetV6 = 0
    · simp [h0]
    · rw [if_pos ⟨hp, h0⟩, if_pos hp, List.filterMap_flatMap]
      refine List.flatMap_congr fun n _ => ?_
      cases hg : g (.v6Wan p n) <;> simp [h6, hg]
  · rw [if_neg fun h => hp h.1, if_neg hp]
    rfl

end Client

namespace Wlan

variable {w : Wlan}

/-- What the switch of an access point makes of the rule in a slot. -/
def change (w : Wlan) (c : Client WlanOwn) : RuleSlot → Option RtRuleMdfy
  | .v4 p => if c.own.powerSaveSet then none else some ⟨w.dstPipe p.1, some p.2, c.hdrHdlV4, c.v4Addr.setWidth 128⟩
  | .v6 _ _ => none
  | .v6Wan _ _ => none

/-- The changes of a client. -/
theorem filterMap_change (w : Wlan) (c : Client WlanOwn) :
    ((c.slots tx).filterMap fun x => (w.change c x).map fun m => (c.hdl x, m.apply)) =
      if c.own.powerSaveSet = true ∨ c.routeRuleSetV4 = false then [] else
        tx.zipIdx.flatMap fun p => if p.1.ip = .v4 then
          [((c.rtHdl p.2).rtRuleHdlV4, RtRuleMdfy.apply ⟨w.dstPipe p.1, some p.2, c.hdrHdlV4, c.v4Addr.setWidth 128⟩)] else [] := by
  rw [Client.filterMap_slots_v4 (fun _ _ => rfl) (fun _ _ => rfl)]
  rcases h4 : c.routeRuleSetV4 with _ | _
  · simp
  · rcases hs : c.own.powerSaveSet with _ | _
    · simp [change, hs, Client.hdl]
    · simp [change, hs]

theorem switchRule_modifies (hD : AllSucceed D) (rtRuleHdl : Nat) (m : RtRuleMdfy) (s : Bool × Outside) :
    ∃ t, switchRule D rtRuleHdl m s = (true, t) ∧ Modifies [(rtRuleHdl, m.apply)] s.2 t.2 := by
  obtain ⟨o', h1, h2⟩ := Outside.modifyRoutingRule_modifies hD rtRuleHdl m s.2
  exact ⟨(true, o'), by simp only [switchRule, h1], h2⟩

theorem switchClientV4_modifies (hD : AllSucceed D) (w : Wlan) (c : Client WlanOwn) (s : Bool × Outside) :
    ∃ t, w.switchClientV4 D c s = (true, t) ∧
      Modifies ((c.slots w.txProp).filterMap fun x => (w.change c x).map fun m => (c.hdl x, m.apply)) s.2 t.2 := by
  rw [filterMap_change, switchClientV4]
  by_cases hs : c.own.powerSaveSet = true ∨ c.routeRuleSetV4 = false
  · rw [if_pos hs, if_pos hs]
    exact ⟨s, rfl, .refl _⟩
  · rw [if_neg hs, if_neg hs]
    refine Lib.untilFailure_logs (fun l (s t : Bool × Outside) => Modifies l s.2 t.2) (fun s => .refl s.2) (fun h h' => h.append h')
      (fun p _ s => ?_) s
    by_cases h4 : p.1.ip = .v4
    · simp only [if_pos h4]
      exact switchRule_modifies hD _ _ s
    · simp only [if_neg h4]
      exact ⟨s, rfl, .refl _⟩

/-- **The IPv6 rules of a client are left alone.** -/
theorem switchClientV6_modifies (w : Wlan) (c : Client WlanOwn) (s : Bool × Outside) : w.switchClientV6 D c s = (true, s) := by
  rw [switchClientV6]
  by_cases hs : c.own.powerSaveSet = true ∨ c.routeRuleSetV6 < c.ipv6Set
  · rw [if_pos hs]
  · rw [not_or, Nat.not_lt] at hs
    -- the rules of all addresses are installed, so there is nothing from there on
    rw [if_neg (by simp [hs]), Nat.sub_eq_zero_of_le hs.2]
    have := Lib.untilFailure_inv (f := fun (p : TxProp × Nat) (s : Bool × Outside) => if p.1.ip = .v6 then
      untilFailure (fun n s => switchRule D ((c.rtHdl p.2).rtRuleHdlV6Wan n) ⟨w.dstPipe p.1, some p.2, c.hdrHdlV6, c.v6Addr n⟩ s)
        (List.range' c.routeRuleSetV6 0) s
      else (true, s)) (l := w.txProp.zipIdx) (fun t => t = s) (fun p _ t ht => by
        split
        · exact ⟨rfl, ht⟩
        · exact ⟨rfl, ht⟩) rfl
    exact Prod.ext this.1 this.2

theorem handleSccMccSwitch_v4 (hD : AllSucceed D) (w : Wlan) (o : Outside) :
    Modifies (w.wlanClient.changes w.txProp w.change) o (w.handleSccMccSwitch D .v4 o) := by
  obtain ⟨⟨isAdded, o'⟩, h1, h2⟩ := Lib.untilFailure_logs (fun l (s t : Bool × Outside) => Modifies l s.2 t.2) (fun s => .refl s.2)
    (fun h h' => h.append h') (l := List.range w.wlanClient.num)
    (fun i _ s => switchClientV4_modifies hD w (w.wlanClient.slot i) s) (false, o)
  rw [← ClientTable.changes_eq] at h2
  unfold handleSccMccSwitch
  split
  next htx =>
    have : w.wlanClient.changes w.txProp w.change = [] := by
      rw [ClientTable.changes_eq, htx]
      exact List.flatMap_eq_nil_iff.2 fun i _ => rfl
    rw [this]
    exact .refl o
  · simp only [h1]
    split
    · have := h2.append (Outside.commitRouting_modifies hD o')
      rwa [List.append_nil] at this
    · exact h2

theorem handleSccMccSwitch_v6 (w : Wlan) (o : Outside) : w.handleSccMccSwitch D .v6 o = o := by
  have h := Lib.untilFailure_inv (f := fun i s => w.switchClientV6 D (w.wlanClient.slot i) s) (l := List.range w.wlanClient.num)
    (fun t => t = (false, o)) (fun i _ t ht => by rw [switchClientV6_modifies]; exact ⟨rfl, ht⟩) rfl
  unfold handleSccMccSwitch
  split
  · rfl
  · rcases hr : untilFailure (fun i s => w.switchClientV6 D (w.wlanClient.slot i) s) (List.range w.wlanClient.num) (false, o)
      with ⟨ok, t⟩
    rw [hr] at h
    cases h.1
    cases h.2
    simp only [hr]
    rfl

end Wlan

namespace WanClients

variable {v : WanClients}

/-- What the switch of the backhaul makes of the rule in a slot: in IPv4, and in IPv6. -/
def changeV4 (v : WanClients) (c : Client Unit) : RuleSlot → Option RtRuleMdfy
  | .v4 p => if c.ipv4Set then some ⟨v.dstPipe p.1, some p.2, c.hdrHdlV4, c.v4Addr.setWidth 128⟩ else none
  | .v6 _ _ => none
  | .v6Wan _ _ => none

def changeV6 (v : WanClients) (c : Client Unit) : RuleSlot → Option RtRuleMdfy
  | .v4 _ => none
  | .v6 _ _ => none
  | .v6Wan p n => some ⟨v.dstPipe p.1, some p.2, c.hdrHdlV6, c.v6Addr n⟩

theorem switchClientV4_modifies (hD : AllSucceed D) (v : WanClients) (c : Client Unit) (o : Outside) :
    ∃ o', v.switchClientV4 D c o = (true, o') ∧
      Modifies ((c.slots v.txProp).filterMap fun x => (v.changeV4 c x).map fun m => (c.hdl x, m.apply)) o o' := by
  rw [Client.filterMap_slots_v4 (fun _ _ => rfl) (fun _ _ => rfl), switchClientV4]
  by_cases hs : c.routeRuleSetV4 = true ∧ c.ipv4Set = true
  · rw [if_neg (by simp [hs]), if_pos hs.1]
    refine Lib.untilFailure_logs Modifies Outside.Modifies.refl (fun h h' => h.append h') (fun p _ o => ?_) o
    by_cases h4 : p.1.ip = .v4
    · simp only [if_pos h4, changeV4, if_pos hs.2]
      exact Outside.modifyRoutingRule_modifies hD _ _ o
    · simp only [if_neg h4]
      exact ⟨o, rfl, .refl o⟩
  · rw [if_pos (by rw [not_and_or] at hs; simpa using hs)]
    refine ⟨o, rfl, ?_⟩
    have : (if c.routeRuleSetV4 = true then v.txProp.zipIdx.flatMap fun p => if p.1.ip = .v4 then
        ((v.changeV4 c (.v4 p)).map fun m => (c.hdl (.v4 p), m.apply)).toList else [] else []) = [] := by
      split
      next h =>
        have h' : ¬ c.ipv4Set = true := fun h' => hs ⟨h, h'⟩
        exact List.flatMap_eq_nil_iff.2 fun p _ => by simp [changeV4, h']
      next => rfl
    rw [this]
    exact .refl o

theorem switchClientV6_modifies (hD : AllSucceed D) (v : WanClients) (c : Client Unit) (o : Outside) :
    ∃ o', v.switchClientV6 D .v6 c o = (true, o') ∧
      Modifies ((c.slots v.txProp).filterMap fun x => (v.changeV6 c x).map fun m => (c.hdl x, m.apply)) o o' := by
  rw [Client.filterMap_slots_v6Wan (fun _ => rfl) (fun _ _ => rfl), switchClientV6]
  have hloop : ∃ o', untilFailure (fun p o => if p.1.ip = .v6 then
      untilFailure (fun n o => o.modifyRoutingRule D ((c.rtHdl p.2).rtRuleHdlV6Wan n) ⟨v.dstPipe p.1, some p.2, c.hdrHdlV6, c.v6Addr n⟩)
        (List.range c.routeRuleSetV6) o else (true, o)) v.txProp.zipIdx o = (true, o') ∧
      Modifies (v.txProp.zipIdx.flatMap fun p => if p.1.ip = .v6 then (List.range c.routeRuleSetV6).flatMap fun n =>
        ((v.changeV6 c (.v6Wan p n)).map fun m => (c.hdl (.v6Wan p n), m.apply)).toList else []) o o' := by
    refine Lib.untilFailure_logs Modifies Outside.Modifies.refl (fun h h' => h.append h') (fun p _ o => ?_) o
    by_cases h6 : p.1.ip = .v6
    · simp only [if_pos h6]
      exact Lib.untilFailure_logs Modifies Outside.Modifies.refl (fun h h' => h.append h')
        (fun n _ o => Outside.modifyRoutingRule_modifies hD ((c.rtHdl p.2).rtRuleHdlV6Wan n)
          ⟨v.dstPipe p.1, some p.2, c.hdrHdlV6, c.v6Addr n⟩ o) o
    · simp only [if_neg h6]
      exact ⟨o, rfl, .refl o⟩
  by_cases h0 : c.routeRuleSetV6 = 0
  · rw [if_pos h0]
    refine ⟨o, rfl, ?_⟩
    simp only [h0, List.range_zero, List.flatMap_nil, ite_self]
    rw [List.flatMap_eq_nil_iff.2 fun _ _ => rfl]
    exact .refl o
  · rw [if_neg h0]
    exact hloop

theorem switch_v4 (hD : AllSucceed D) {v : WanClients} (htx : v.txProp ≠ []) (hgw : v.isDefaultGateway = true) (b : Bool) (o : Outside) :
    Modifies (v.wanClient.changes v.txProp v.changeV4) o (v.handleWanClientSccMccSwitch D b .v4 o) := by
  obtain ⟨o', h1, h2⟩ := Lib.untilFailure_logs Modifies Outside.Modifies.refl (fun h h' => h.append h') (l := List.range v.wanClient.num)
    (fun i _ o => switchClientV4_modifies hD v (v.wanClient.slot i) o) o
  rw [← ClientTable.changes_eq] at h2
  rw [handleWanClientSccMccSwitch, if_neg (by simp [htx, hgw])]
  simp only [if_true, h1]
  exact h2

theorem switch_v6 (hD : AllSucceed D) {v : WanClients} (htx : v.txProp ≠ []) (hgw : v.isDefaultGateway = true) (b : Bool) (o : Outside) :
    Modifies (v.wanClient.changes v.txProp v.changeV6) o (v.handleWanClientSccMccSwitch D b .v6 o) := by
  obtain ⟨o', h1, h2⟩ := Lib.untilFailure_logs Modifies Outside.Modifies.refl (fun h h' => h.append h') (l := List.range v.wanClient.num)
    (fun i _ o => switchClientV6_modifies hD v (v.wanClient.slot i) o) o
  rw [← ClientTable.changes_eq] at h2
  rw [handleWanClientSccMccSwitch, if_neg (by simp [htx, hgw])]
  simp only [reduceCtorEq, if_false, h1]
  exact h2

/-- Without a property, or away from the default route, nothing is switched. -/
theorem switch_skips (h : v.txProp = [] ∨ v.isDefaultGateway = false) (b : Bool) (ip : IpType) (o : Outside) :
    v.handleWanClientSccMccSwitch D b ip o = o := if_pos h

end WanClients

/-! ## Against the installer -/

/-- A client of an access point installed afresh in the present mode, awake and alone: its record, and the driver. -/
def Wlan.installAfresh (D : IpaDriver) (w : Wlan) (c : Client WlanOwn) : Client WlanOwn × Outside :=
  let w₀ : Wlan := { w with wlanClient := ⟨1, fun _ => { c.routesOff with own := WlanOwn.mk false }⟩ }
  let (_, w₁, o₁) := w₀.handleWlanClientRouteRule D c.mac .v4 {}
  let (_, w₂, o₂) := w₁.handleWlanClientRouteRule D c.mac .v6 o₁
  (w₂.wlanClient.slot 0, o₂)

/-- A client of the backhaul installed afresh. -/
def WanClients.installAfresh (D : IpaDriver) (v : WanClients) (c : Client Unit) : Client Unit × Outside :=
  let v₀ : WanClients := { v with wanClient := ⟨1, fun _ => c.routesOff⟩ }
  let (_, v₁, o₁, _) := v₀.handleWanClientRouteRule D c.mac .v4 {}
  let (_, v₂, o₂, _) := v₁.handleWanClientRouteRule D c.mac .v6 o₁
  (v₂.wanClient.slot 0, o₂)

theorem txProp_ne_nil {c : Client σ} {x : RuleSlot} (hx : c.IsSet tx x) : tx ≠ [] := by
  rintro rfl
  cases x <;> exact absurd hx.1 (by simp)

theorem ClientTable.index_alone (c : Client σ) (t : ClientTable σ) (h1 : t.num = 1) (hm : (t.slot 0).mac = c.mac) :
    t.index c.mac = some 0 := by
  rw [index, h1]
  simp [hm]

theorem Wlan.installAfresh_lookup (hD : AllSucceed D) (w : Wlan) {c : Client WlanOwn} (hc : c.AddrsKnown) {x : RuleSlot}
    (hx : c.IsSet w.txProp x) : (w.installAfresh D c).2.rt.lookup ((w.installAfresh D c).1.hdl x) = some (w.rules.rule c x) := by
  obtain ⟨c₁, o₁, c₂, o₂, h1, h2, hmac, hown, hin⟩ := Client.addRules_afresh (o := {}) hD w.rules w.txProp
    (c := { c with own := WlanOwn.mk false }) ⟨hc.v4, hc.v6⟩ List.nodup_nil
  have hroute : ∀ (ip : IpType) (t : ClientTable WlanOwn) (o o' : Outside) (c' : Client WlanOwn), t.num = 1 → (t.slot 0).mac = c.mac →
      (t.slot 0).own.powerSaveSet = false → Client.addRules D w.rules w.txProp ip (t.slot 0, o) = (true, c', o') →
      ({ w with wlanClient := t } : Wlan).handleWlanClientRouteRule D c.mac ip o = (true, { w with wlanClient := t.set 0 c' }, o') := by
    intro ip t o o' c' hnum hm hps hadd
    simp only [handleWlanClientRouteRule, if_neg (txProp_ne_nil hx), ClientTable.index_alone c t hnum hm, hps, addRules_eq]
    rw [if_neg Bool.false_ne_true]
    exact congrArg (fun r : Bool × Client WlanOwn × Outside => (r.1, { w with wlanClient := t.set 0 r.2.1 }, r.2.2)) hadd
  have e1 := hroute .v4 ⟨1, fun _ => { c.routesOff with own := WlanOwn.mk false }⟩ {} o₁ c₁ rfl rfl rfl h1
  have e2 := hroute .v6 (ClientTable.set ⟨1, fun _ => { c.routesOff with own := WlanOwn.mk false }⟩ 0 c₁) o₁ o₂ c₂ rfl
    (by rw [ClientTable.set_slot_self, hmac]) (by rw [ClientTable.set_slot_self, hown])
    (by rw [ClientTable.set_slot_self]; exact h2)
  simp only [installAfresh, e1, e2, ClientTable.set_slot_self]
  exact hin x hx

theorem WanClients.installAfresh_lookup (hD : AllSucceed D) (v : WanClients) {c : Client Unit} (hc : c.AddrsKnown) {x : RuleSlot}
    (hx : c.IsSet v.txProp x) : (v.installAfresh D c).2.rt.lookup ((v.installAfresh D c).1.hdl x) = some (v.rules.rule c x) := by
  obtain ⟨c₁, o₁, c₂, o₂, h1, h2, hmac, -, hin⟩ := Client.addRules_afresh (o := {}) hD v.rules v.txProp hc List.nodup_nil
  have hroute : ∀ (ip : IpType) (t : ClientTable Unit) (o o' : Outside) (c' : Client Unit), t.num = 1 → (t.slot 0).mac = c.mac →
      Client.addRules D v.rules v.txProp ip (t.slot 0, o) = (true, c', o') →
      ∃ rm, ({ v with wanClient := t } : WanClients).handleWanClientRouteRule D c.mac ip o =
        (true, { v with wanClient := t.set 0 c' }, o', rm) := by
    intro ip t o o' c' hnum hm hadd
    have hrules : ({ v with wanClient := t } : WanClients).rules = v.rules := rfl
    simp only [handleWanClientRouteRule, if_neg (txProp_ne_nil hx), ClientTable.index_alone c t hnum hm, hrules, hadd]
    exact ⟨_, rfl⟩
  obtain ⟨rm, e1⟩ := hroute .v4 ⟨1, fun _ => c.routesOff⟩ {} o₁ c₁ rfl rfl h1
  obtain ⟨rm', e2⟩ := hroute .v6 (ClientTable.set ⟨1, fun _ => c.routesOff⟩ 0 c₁) o₁ o₂ c₂ rfl
    (by rw [ClientTable.set_slot_self, hmac]) (by rw [ClientTable.set_slot_self]; exact h2)
  simp only [installAfresh, e1, e2, ClientTable.set_slot_self]
  exact hin x hx

/-- Every rule that is installed for a client of a table is the one that `afresh` would give it. -/
def ClientTable.Reinstalled (tx : List TxProp) (t : ClientTable σ) (o : Outside) (afresh : Client σ → Client σ × Outside) : Prop :=
  ∀ i < t.num, ∀ x, (t.slot i).IsSet tx x →
    o.rt.lookup ((t.slot i).hdl x) = (afresh (t.slot i)).2.rt.lookup ((afresh (t.slot i)).1.hdl x)

/-- The addresses of the rules are known, and each rule is in the table its slot is for. -/
structure ClientTable.RulesPlaced (R : ClientRules) (tx : List TxProp) (t : ClientTable σ) (o : Outside) : Prop where
  addrs : ∀ i < t.num, (t.slot i).AddrsKnown
  tbl : ∀ i < t.num, ∀ x, (t.slot i).IsSet tx x → ∀ r, o.rt.lookup ((t.slot i).hdl x) = some r → r.tbl = (R.rule (t.slot i) x).tbl

/-- An access point and a backhaul before the switch: what their records list is in the driver, beside what others have there. -/
structure BeforeSwitch (w : Wlan) (v : WanClients) (s u : Multiset Nat) (o : Outside) : Prop where
  keeps : o.Keeps (w.wlanClient.rtHdls w.txProp + v.wanClient.rtHdls v.txProp + s) u
  wlan : w.wlanClient.RulesPlaced w.rules w.txProp o
  wan : v.wanClient.RulesPlaced v.rules v.txProp o

/-- The rule in a slot is right already where the switch of the access point leaves it alone: of a client that is asleep, and in
IPv6. -/
def Wlan.LeavesRight (w : Wlan) (o : Outside) (c : Client WlanOwn) : RuleSlot → Prop
  | .v4 p => c.own.powerSaveSet = true → o.rt.lookup (c.hdl (.v4 p)) = some (w.rules.rule c (.v4 p))
  | .v6 p n => o.rt.lookup (c.hdl (.v6 p n)) = some (w.rules.rule c (.v6 p n))
  | .v6Wan p n => o.rt.lookup (c.hdl (.v6Wan p n)) = some (w.rules.rule c (.v6Wan p n))

/-- The same of the backhaul, which leaves the IPv6 table of the LAN alone, and everything away from the default route; what it
puts into the IPv6 table of the WAN is right if that is the exception pipe and no header. -/
def WanClients.LeavesRight (v : WanClients) (o : Outside) (c : Client Unit) : RuleSlot → Prop
  | .v4 p => v.isDefaultGateway = false → o.rt.lookup (c.hdl (.v4 p)) = some (v.rules.rule c (.v4 p))
  | .v6 p n => o.rt.lookup (c.hdl (.v6 p n)) = some (v.rules.rule c (.v6 p n))
  | .v6Wan p n =>
    if v.isDefaultGateway then v.dstPipe p.1 = v.excpPipe ∧ c.hdrHdlV6 = 0
    else o.rt.lookup (c.hdl (.v6Wan p n)) = some (v.rules.rule c (.v6Wan p n))

/-- The switch of both, for both families, in the mode they have by now. -/
def sccMccSwitch (D : IpaDriver) (w : Wlan) (v : WanClients) (o : Outside) : Outside :=
  let o := w.handleSccMccSwitch D .v6 (w.handleSccMccSwitch D .v4 o)
  v.handleWanClientSccMccSwitch D (!v.isMccMode) .v6 (v.handleWanClientSccMccSwitch D (!v.isMccMode) .v4 o)

section Switched

variable {w : Wlan} {v : WanClients} {s u : Multiset Nat}

/-- The handles of one table are distinct, and none of another's. -/
theorem ClientTable.handles_nodup {t : ClientTable σ} {m : Multiset Nat} (h : (t.rtHdls tx + m).Nodup) :
    ((t.slotList tx).map t.hdl).Nodup ∧ ∀ k ∈ t.slotList tx, t.hdl k ∉ m := by
  rw [← map_hdl_slotList] at h
  obtain ⟨h1, -, h2⟩ := Multiset.nodup_add.1 h
  exact ⟨h1, fun k hk hm => Multiset.disjoint_left.1 h2 (List.mem_map.2 ⟨k, hk, rfl⟩) hm⟩

/-- What the backhaul changes. -/
def wanChanges (v : WanClients) : List (Nat × (RtRule → RtRule)) :=
  if v.isDefaultGateway then v.wanClient.changes v.txProp v.changeV4 ++ v.wanClient.changes v.txProp v.changeV6 else []

theorem sccMccSwitch_rt (hD : AllSucceed D) (w : Wlan) (v : WanClients) (o : Outside) :
    (sccMccSwitch D w v o).rt = (o.rt.modifyAll (w.wlanClient.changes w.txProp w.change)).modifyAll (wanChanges v) := by
  have h1 := Wlan.handleSccMccSwitch_v4 hD w o
  rw [sccMccSwitch, Wlan.handleSccMccSwitch_v6, ← h1.rt, wanChanges]
  by_cases hgw : v.isDefaultGateway = true
  · rw [if_pos hgw]
    by_cases htx : v.txProp = []
    · have hnil : ∀ change, v.wanClient.changes v.txProp change = [] := fun change => by
        rw [ClientTable.changes_eq, htx]
        exact List.flatMap_eq_nil_iff.2 fun i _ => rfl
      rw [hnil, hnil, WanClients.switch_skips (.inl htx), WanClients.switch_skips (.inl htx)]
      rfl
    · exact ((WanClients.switch_v4 hD htx hgw _ _).append (WanClients.switch_v6 hD htx hgw _ _)).rt
  · rw [if_neg hgw]
    have hgw' : v.isDefaultGateway = false := by simpa using hgw
    rw [WanClients.switch_skips (.inr hgw'), WanClients.switch_skips (.inr hgw')]
    rfl

/-- What the switch leaves under a handle of the access point. -/
theorem lookup_switched_wlan (hD : AllSucceed D) (h : BeforeSwitch w v s u o) {i : Nat} (hi : i < w.wlanClient.num) {x : RuleSlot}
    (hx : (w.wlanClient.slot i).IsSet w.txProp x) : (sccMccSwitch D w v o).rt.lookup ((w.wlanClient.slot i).hdl x) =
      match w.change (w.wlanClient.slot i) x with
      | some m => (o.rt.lookup ((w.wlanClient.slot i).hdl x)).map m.apply
      | none => o.rt.lookup ((w.wlanClient.slot i).hdl x) := by
  have hnd := h.keeps.rt.multiset_nodup
  rw [add_assoc] at hnd
  obtain ⟨hw, hdis⟩ := ClientTable.handles_nodup hnd
  have hk : ((i, x) : Nat × RuleSlot) ∈ w.wlanClient.slotList w.txProp := ClientTable.mem_slotList.2 ⟨hi, hx⟩
  have hnot : (w.wlanClient.slot i).hdl x ∉ (v.wanClient.slotList v.txProp).map v.wanClient.hdl := fun hm =>
    hdis _ hk (Multiset.mem_add.2 (.inl (ClientTable.map_hdl_slotList v.txProp v.wanClient ▸ Multiset.mem_coe.2 hm)))
  refine Eq.trans ?_ (ClientTable.lookup_changes hw w.change hk o.rt)
  rw [sccMccSwitch_rt hD, wanChanges]
  split
  · rw [Ledger.modifyAll_append]
    exact (ClientTable.lookup_changes_other _ hnot _).trans (ClientTable.lookup_changes_other _ hnot _)
  · rfl

/-- What it leaves under a handle of the backhaul. -/
theorem lookup_switched_wan (hD : AllSucceed D) (h : BeforeSwitch w v s u o) {i : Nat} (hi : i < v.wanClient.num) {x : RuleSlot}
    (hx : (v.wanClient.slot i).IsSet v.txProp x) : (sccMccSwitch D w v o).rt.lookup ((v.wanClient.slot i).hdl x) =
      match (if v.isDefaultGateway then (v.changeV4 (v.wanClient.slot i) x <|> v.changeV6 (v.wanClient.slot i) x) else none) with
      | some m => (o.rt.lookup ((v.wanClient.slot i).hdl x)).map m.apply
      | none => o.rt.lookup ((v.wanClient.slot i).hdl x) := by
  have hnd := h.keeps.rt.multiset_nodup
  rw [add_comm (w.wlanClient.rtHdls w.txProp), add_assoc] at hnd
  obtain ⟨hv, hdis⟩ := ClientTable.handles_nodup hnd
  have hk : ((i, x) : Nat × RuleSlot) ∈ v.wanClient.slotList v.txProp := ClientTable.mem_slotList.2 ⟨hi, hx⟩
  have hnot : (v.wanClient.slot i).hdl x ∉ (w.wlanClient.slotList w.txProp).map w.wlanClient.hdl := fun hm =>
    hdis _ hk (Multiset.mem_add.2 (.inl (ClientTable.map_hdl_slotList w.txProp w.wlanClient ▸ Multiset.mem_coe.2 hm)))
  have hw := ClientTable.lookup_changes_other w.change hnot o.rt
  rw [sccMccSwitch_rt hD, wanChanges]
  split
  next hgw =>
    have h6 := ClientTable.lookup_changes hv v.changeV6 hk
      ((o.rt.modifyAll (w.wlanClient.changes w.txProp w.change)).modifyAll (v.wanClient.changes v.txProp v.changeV4))
    have h4 := ClientTable.lookup_changes hv v.changeV4 hk (o.rt.modifyAll (w.wlanClient.changes w.txProp w.change))
    rw [Ledger.modifyAll_append]
    refine h6.trans ?_
    dsimp only at h4 ⊢
    rw [h4, show v.wanClient.hdl (i, x) = (v.wanClient.slot i).hdl x from rfl, hw]
    cases x with
    | v4 p => cases v.changeV4 (v.wanClient.slot i) (.v4 p) <;> rfl
    | v6 p n => rfl
    | v6Wan p n => rfl
  · exact hw

/-- What the records list is in the driver. -/
theorem ClientTable.lookup_listed {t : ClientTable σ} {m u : Multiset Nat} (h : o.Keeps (t.rtHdls tx + m) u) {i : Nat} (hi : i < t.num)
    {x : RuleSlot} (hx : (t.slot i).IsSet tx x) : ∃ r, o.rt.lookup ((t.slot i).hdl x) = some r := by
  have hm : (t.slot i).hdl x ∈ o.rt.used := h.rt.mem.2 (Multiset.mem_add.2 (.inl (by
    rw [← map_hdl_slotList]
    exact Multiset.mem_coe.2 (List.mem_map.2 ⟨(i, x), mem_slotList.2 ⟨hi, hx⟩, rfl⟩))))
  obtain ⟨⟨k, r⟩, hmem, hk⟩ := List.mem_map.1 hm
  exact ⟨r, Ledger.lookup_of_mem h.rt.nodup (hk ▸ hmem)⟩

/-- **A rule of the access point after the switch.** -/
theorem reinstalled_wlan_iff (hD : AllSucceed D) (h : BeforeSwitch w v s u o) {i : Nat} (hi : i < w.wlanClient.num) {x : RuleSlot}
    (hx : (w.wlanClient.slot i).IsSet w.txProp x) :
    (sccMccSwitch D w v o).rt.lookup ((w.wlanClient.slot i).hdl x) = some (w.rules.rule (w.wlanClient.slot i) x) ↔
      w.LeavesRight o (w.wlanClient.slot i) x := by
  obtain ⟨r, hr⟩ := ClientTable.lookup_listed (h.keeps.of_eq (add_assoc _ _ _) rfl) hi hx
  have htbl := h.wlan.tbl i hi x hx r hr
  rw [lookup_switched_wlan hD h hi hx]
  cases x with
  | v4 p =>
    cases hps : (w.wlanClient.slot i).own.powerSaveSet with
    | true => simp [Wlan.change, Wlan.LeavesRight, hps]
    | false =>
      simp only [Wlan.change, Wlan.LeavesRight, hps, hr, Option.map_some, RtRuleMdfy.apply, htbl, Bool.false_eq_true, if_false,
        false_implies, iff_true]
      rfl
  | v6 p n => rfl
  | v6Wan p n => rfl

/-- **A rule of the backhaul after the switch.** -/
theorem reinstalled_wan_iff (hD : AllSucceed D) (h : BeforeSwitch w v s u o) {i : Nat} (hi : i < v.wanClient.num) {x : RuleSlot}
    (hx : (v.wanClient.slot i).IsSet v.txProp x) :
    (sccMccSwitch D w v o).rt.lookup ((v.wanClient.slot i).hdl x) = some (v.rules.rule (v.wanClient.slot i) x) ↔
      v.LeavesRight o (v.wanClient.slot i) x := by
  obtain ⟨r, hr⟩ := ClientTable.lookup_listed (h.keeps.of_eq (by rw [add_comm (w.wlanClient.rtHdls w.txProp), add_assoc]) rfl) hi hx
  have htbl := h.wan.tbl i hi x hx r hr
  rw [lookup_switched_wan hD h hi hx]
  cases hgw : v.isDefaultGateway with
  | false =>
    cases x with
    | v4 p => simp [WanClients.LeavesRight, hgw]
    | v6 p n => rfl
    | v6Wan p n => simp [WanClients.LeavesRight, hgw]
  | true =>
    cases x with
    | v4 p =>
      have h4 := (h.wan.addrs i hi).v4 hx.2.2
      simp only [WanClients.changeV4, h4, hr, if_true, WanClients.LeavesRight, hgw, Bool.true_eq_false, false_implies, iff_true]
      change some (RtRuleMdfy.apply _ r) = _
      rw [RtRuleMdfy.apply, htbl]
      rfl
    | v6 p n => rfl
    | v6Wan p n =>
      simp only [WanClients.LeavesRight, hgw, hr, if_true]
      change some (RtRuleMdfy.apply ⟨v.dstPipe p.1, some p.2, (v.wanClient.slot i).hdrHdlV6, (v.wanClient.slot i).v6Addr n⟩ r) = _ ↔ _
      rw [RtRuleMdfy.apply, htbl]
      simp [ClientRules.rule, WanClients.rules]

/-- The rules of both are, after the switch, what the clients would have got had they been installed afresh in the new mode. -/
def SwitchReinstalls (D D' : IpaDriver) (w : Wlan) (v : WanClients) (o : Outside) : Prop :=
  w.wlanClient.Reinstalled w.txProp (sccMccSwitch D w v o) (w.installAfresh D') ∧
    v.wanClient.Reinstalled v.txProp (sccMccSwitch D w v o) (v.installAfresh D')

/-- **The switch equals reinstalling exactly when what it leaves alone is right already**, and the backhaul's rules in the IPv6 table
of the WAN are to go where it sends them. -/
theorem scc_mcc_switch_iff {D' : IpaDriver} (hD : AllSucceed D) (hD' : AllSucceed D') (h : BeforeSwitch w v s u o) :
    SwitchReinstalls D D' w v o ↔
      (∀ i < w.wlanClient.num, ∀ x, (w.wlanClient.slot i).IsSet w.txProp x → w.LeavesRight o (w.wlanClient.slot i) x) ∧
      ∀ i < v.wanClient.num, ∀ x, (v.wanClient.slot i).IsSet v.txProp x → v.LeavesRight o (v.wanClient.slot i) x := by
  refine and_congr ?_ ?_
  · refine forall₂_congr fun i hi => forall₂_congr fun x hx => ?_
    rw [Wlan.installAfresh_lookup hD' w (h.wlan.addrs i hi) hx]
    exact reinstalled_wlan_iff hD h hi hx
  · refine forall₂_congr fun i hi => forall₂_congr fun x hx => ?_
    rw [WanClients.installAfresh_lookup hD' v (h.wan.addrs i hi) hx]
    exact reinstalled_wan_iff hD h hi hx

end Switched

/-! ## Two access points with a client each -/

/-- A pipe for each mode. -/
def switchTx : List TxProp := [⟨.v4, 4, 6, "wlan0_ipv4"⟩, ⟨.v6, 4, 6, "wlan0_ipv6"⟩]

/-- An access point that is in MCC mode by now. -/
def switchAp (c : Client WlanOwn) : Wlan := { txProp := switchTx, excpPipe := 1, isMccMode := true, wlanClient := ⟨1, fun _ => c⟩ }

/-- A backhaul without clients. -/
def switchSta : WanClients := ⟨switchTx, 1, .wlanCons, true, true, ⟨0, fun _ => { own := () }⟩⟩

/-- A client with an IPv4 address, and one with an IPv6 address. -/
def clientV4 : Client WlanOwn :=
  { mac := 1, v4Addr := 7, ipv4Set := true, routeRuleSetV4 := true, hdrHdlV4 := 3, rtHdl := fun _ => { rtRuleHdlV4 := 5 }, own := {} }

def clientV6 : Client WlanOwn :=
  { mac := 1, v6Addr := fun _ => 7, ipv6Set := 1, routeRuleSetV6 := 1, hdrHdlV6 := 3
    rtHdl := fun _ => { rtRuleHdlV6 := fun _ => 5, rtRuleHdlV6Wan := fun _ => 8 }, own := {} }

/-- Their rules, installed in SCC mode. -/
def outsideV4 : Outside where
  rt := ⟨[(5, ⟨.lanV4, 4, some 0, 3, 7⟩)], 0⟩

def outsideV6 : Outside where
  rt := ⟨[(8, ⟨.wanV6, 4, some 1, 3, 7⟩), (5, ⟨.v6, 1, none, 0, 7⟩)], 0⟩

theorem beforeSwitch_v4 : BeforeSwitch (switchAp clientV4) switchSta 0 0 outsideV4 where
  keeps := ⟨⟨by decide, by decide, rfl⟩, .empty, by decide, by decide⟩
  wlan := by
    refine ⟨fun _ _ => ⟨fun _ => rfl, Nat.zero_le _⟩, fun i _ x hx r hr => ?_⟩
    cases x with
    | v4 p =>
      cases hr
      rfl
    | v6 p n => exact absurd hx.2.2 (Nat.not_lt_zero n)
    | v6Wan p n => exact absurd hx.2.2 (Nat.not_lt_zero n)
  wan := ⟨fun _ hi => absurd hi (Nat.not_lt_zero _), fun _ hi => absurd hi (Nat.not_lt_zero _)⟩

theorem beforeSwitch_v6 : BeforeSwitch (switchAp clientV6) switchSta 0 0 outsideV6 where
  keeps := ⟨⟨by decide, by decide, rfl⟩, .empty, by decide, by decide⟩
  wlan := by
    refine ⟨fun _ _ => ⟨(fun h => nomatch h), Nat.le_refl _⟩, fun i _ x hx r hr => ?_⟩
    cases x with
    | v4 p => cases hx.2.2
    | v6 p n =>
      cases hr
      rfl
    | v6Wan p n =>
      cases hr
      rfl
  wan := ⟨fun _ hi => absurd hi (Nat.not_lt_zero _), fun _ hi => absurd hi (Nat.not_lt_zero _)⟩

theorem scc_mcc_switch_iff_sample :
    SwitchReinstalls (sampleDriver []) (sampleDriver []) (switchAp clientV4) switchSta outsideV4 := by
  refine (scc_mcc_switch_iff (fun _ => rfl) (fun _ => rfl) beforeSwitch_v4).2 ⟨fun i _ x hx => ?_, fun _ hi => absurd hi (Nat.not_lt_zero _)⟩
  cases x with
  | v4 p => exact fun h => nomatch h
  | v6 p n => exact absurd hx.2.2 (Nat.not_lt_zero n)
  | v6Wan p n => exact absurd hx.2.2 (Nat.not_lt_zero n)

/-- The rules of the IPv6 client are as they were installed before the switch. -/
theorem outsideV6_installed : ({ switchAp clientV6 with isMccMode := false } : Wlan).wlanClient.Reinstalled switchTx outsideV6
    (({ switchAp clientV6 with isMccMode := false } : Wlan).installAfresh (sampleDriver [])) := by
  intro i _ x hx
  refine Eq.trans ?_ (Wlan.installAfresh_lookup (fun _ => rfl) { switchAp clientV6 with isMccMode := false }
    (beforeSwitch_v6.wlan.addrs 0 (by decide)) hx).symm
  have hp {p : TxProp × Nat} (hp : p ∈ switchTx.zipIdx) (h6 : p.1.ip = .v6) : p = (⟨.v6, 4, 6, "wlan0_ipv6"⟩, 1) := by
    rcases List.mem_pair.1 hp with rfl | rfl
    · cases h6
    · rfl
  cases x with
  | v4 p => cases hx.2.2
  | v6 p n =>
    cases hp hx.1 hx.2.1
    rfl
  | v6Wan p n =>
    cases hp hx.1 hx.2.1
    rfl

/-- The IPv6 client's rule keeps the pipe of the old mode. -/
theorem not_scc_mcc_switch : ¬ ∀ (D D' : IpaDriver) (w : Wlan) (v : WanClients) (s u : Multiset Nat) (o : Outside),
    AllSucceed D → AllSucceed D' → BeforeSwitch w v s u o →
      w.wlanClient.Reinstalled w.txProp o (({ w with isMccMode := !w.isMccMode } : Wlan).installAfresh D') →
      v.wanClient.Reinstalled v.txProp o (({ v with isMccMode := !v.isMccMode } : WanClients).installAfresh D') →
      SwitchReinstalls D D' w v o := by
  intro h
  have hs := (h (sampleDriver []) (sampleDriver []) _ _ 0 0 _ (fun _ => rfl) (fun _ => rfl) beforeSwitch_v6 outsideV6_installed
    (fun _ hi => absurd hi (Nat.not_lt_zero _))).1
  have hset : ((switchAp clientV6).wlanClient.slot 0).IsSet switchTx (.v6Wan (⟨.v6, 4, 6, "wlan0_ipv6"⟩, 1) 0) :=
    ⟨by decide, rfl, by decide⟩
  have h0 := hs 0 (by decide) _ hset
  rw [Wlan.installAfresh_lookup (fun _ => rfl) (switchAp clientV6) (beforeSwitch_v6.wlan.addrs 0 (by decide)) hset,
    reinstalled_wlan_iff (fun _ => rfl) beforeSwitch_v6 (by decide) hset] at h0
  have h8 : outsideV6.rt.lookup 8 = some ⟨.wanV6, 6, some 1, 3, 7⟩ := h0
  exact absurd h8 (by decide)

end HiaeCommon
