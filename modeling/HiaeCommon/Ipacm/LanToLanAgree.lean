/-
The LAN-to-LAN controller over whole runs: what is installed at any time is
exactly what the interfaces, their clients and their addresses call for, and
the filter rules and the routing rules of a pair name the same tables.
-/
import HiaeCommon.Ipacm.LanToLanUp

namespace HiaeCommon

open Lib (Handles Ledger)
open Lib.Ledger (Holds series)
open LanIface

namespace LanToLan

variable {H : Handles} {props : LanId → LanProps}

/-! ## Every run -/

theorem step_inv {s : LanToLan} (h : Inv props s) (e : EthBridgeEvt) : Inv props (s.step H props e) := by
  cases e with
  | ifaceUp iface ip stack => exact handleIfaceUp_inv h iface ip stack
  | ifaceDown iface => exact handleIfaceDown_inv h iface
  | clientAdd iface mac stack => exact handleClientAdd_inv h iface mac stack
  | clientDel iface mac =>
    simp only [step, handleClientDel]
    split
    next ha => exact ifaceClientDel_inv h ha mac
    next => exact h

theorem foldl_step_inv (events : List EthBridgeEvt) :
    ∀ {s : LanToLan}, Inv props s → Inv props (events.foldl (step H props) s) := by
  induction events with
  | nil => exact fun h => h
  | cons e events ih => exact fun h => ih (step_inv h e)

theorem run_inv (H : Handles) (props : LanId → LanProps) (events : List EthBridgeEvt) : Inv props (run H props events) :=
  foldl_step_inv events inv_init

/-! ## What the rules are for -/

section Wanted

variable (props)

/-- A filter rule for a client of a peer, for each family with an address. -/
def fltWanted (a : LanId) (asg : IpIndex → Bool) (tbl : PerIp String) (mac : MacAddr) : Multiset EthBridgeRule :=
  (if asg .v4 then {.flt a mac .v4 tbl.v4} else 0) + if asg .v6 then {.flt a mac .v6 tbl.v6} else 0

/-- The routing rules of an own client, as many for each family as the interface has for a client. -/
def rtWanted (a : LanId) (t : HdrL2Type) (tbl : PerIp String) (ctx : Nat) (mac : MacAddr) : Multiset EthBridgeRule :=
  (Multiset.range (props a).rtRuleCount.v4).map (fun i => .rt a mac .v4 t tbl.v4 ctx i) +
    (Multiset.range (props a).rtRuleCount.v6).map (fun i => .rt a mac .v6 t tbl.v6 ctx i)

/-- A header processing context for a type of header, and the routing rules of the own clients
behind it. -/
def typeWanted (s : LanToLan) (a : LanId) (t : HdrL2Type) : Multiset EthBridgeRule :=
  {.hdrProcCtx a t} + ((s.obj a).macs.map
    (rtWanted props a t (rtTblName t (props a).hdrL2Type) ((s.obj a).hdrProcCtxInter t))).sum

/-- The same between the own clients, and a filter rule for each of them. -/
def intraWanted (s : LanToLan) (a : LanId) : Multiset EthBridgeRule :=
  {.hdrProcCtx a (props a).hdrL2Type} + ((s.obj a).macs.map (fltWanted a (s.obj a).assigned rtTblNameIntra)).sum +
    ((s.obj a).macs.map (rtWanted props a (props a).hdrL2Type rtTblNameIntra (s.obj a).hdrProcCtxIntra)).sum

/-- The rules of an interface: for each client of each peer, for each header type with a nonzero
count, and between the own clients. -/
def wanted (s : LanToLan) (a : LanId) : Multiset EthBridgeRule :=
  ((s.obj a).peerIds.map fun b => ((s.obj b).macs.map
      (fltWanted a (s.obj a).assigned (rtTblName (props a).hdrL2Type (props b).hdrL2Type))).sum).sum +
    (([HdrL2Type.none, .ethernetII, .ieee8023, .max].filter fun t => (s.obj a).refCnt t ≠ 0).map (typeWanted props s a)).sum +
    if (s.obj a).supportIntra then intraWanted props s a else 0

end Wanted

theorem map_sum {α β γ : Type} (f : β → γ) (g : α → Multiset β) (l : List α) :
    (l.map g).sum.map f = (l.map fun x => (g x).map f).sum := by
  induction l with
  | nil => rfl
  | cons x l ih => simp only [List.map_cons, List.sum_cons, Multiset.map_add, ih]

theorem series_map_snd (r : Nat → EthBridgeRule) (hs : List Nat) :
    (series r hs).map Prod.snd = (Multiset.range hs.length).map r := by
  have hmap : (hs.zipIdx.map fun x => (x.1, r x.2)).map Prod.snd = (hs.zipIdx.map Prod.snd).map r := by
    rw [List.map_map, List.map_map]
    rfl
  rw [series, Multiset.map_coe, hmap, List.zipIdx_map_snd, ← List.range_eq_range', Multiset.range, Multiset.map_coe]

theorem rtOwn_map_snd {a : LanId} {hdls : RtRuleInfo} (h : Counted props a hdls) (mac : MacAddr) (t : HdrL2Type)
    (tbl : PerIp String) (ctx : Nat) : (rtOwn a mac t tbl ctx hdls).map Prod.snd = rtWanted props a t tbl ctx mac := by
  rw [rtOwn, Multiset.map_add, series_map_snd, series_map_snd, h.1, h.2]
  rfl

theorem fltOwn_map_snd {a : LanId} {asg : IpIndex → Bool} {tbl : PerIp String} {l : List FltRuleInfo} {ms : List MacAddr}
    (h : FltFor l ms) (hms : ms.Nodup) : (fltOwn a (fun _ => asg) tbl l).map Prod.snd = (ms.map (fltWanted a asg tbl)).sum := by
  have hperm : (fltClients l).Perm ms := (List.perm_ext_iff_of_nodup h.1 hms).2 h.2
  rw [← (hperm.map _).sum_eq, fltClients, List.map_map, fltOwn, map_sum]
  congr 1
  refine List.map_congr_left fun e _ => ?_
  simp only [entryOwn, fltWanted, Multiset.map_add, Function.comp_apply]
  congr 1
  · split <;> rfl
  · split <;> rfl

theorem typePart_map_snd {s : LanToLan} {a : LanId} {t : HdrL2Type}
    (h : ∀ c ∈ (s.obj a).clientInfo, Counted props a (c.interIfaceRtRuleHdl t)) :
    (typePart props a (s.obj a) t).map Prod.snd = typeWanted props s a t := by
  rw [typePart, Multiset.map_add, map_sum, Multiset.map_singleton, typeWanted, macs, List.map_map]
  congr 2
  exact List.map_congr_left fun c hc => rtOwn_map_snd (h c hc) _ _ _ _

theorem intraPart_map_snd {s : LanToLan} {a : LanId} (h : Local props a (s.obj a)) :
    (intraPart props a (s.obj a)).map Prod.snd = if (s.obj a).supportIntra then intraWanted props s a else 0 := by
  rw [intraPart]
  by_cases hi : (s.obj a).supportIntra = true
  · have hrt : ((s.obj a).clientInfo.map fun c => (clientIntra props a (s.obj a) c).map Prod.snd) =
        (s.obj a).macs.map (rtWanted props a (props a).hdrL2Type rtTblNameIntra (s.obj a).hdrProcCtxIntra) := by
      rw [macs, List.map_map]
      exact List.map_congr_left fun c hc => rtOwn_map_snd (h.intraCounted hi c hc) _ _ _ _
    rw [if_pos hi, if_pos hi, Multiset.map_add, Multiset.map_add, map_sum, hrt, Multiset.map_singleton,
      fltOwn_map_snd (h.intraFlt hi) h.clientsNodup]
    rfl
  · rw [if_neg hi, if_neg hi, Multiset.map_zero]

/-- No peer has a header type other than the two. -/
theorem refCnt_other {a : LanId} {f : LanIface} (h : Local props a f) {t : HdrL2Type} (ht : t = .none ∨ t = .max) :
    f.refCnt t = 0 := by
  rw [h.refCnt, Int.natCast_eq_zero, List.countP_eq_zero]
  intro b hb heq
  rw [decide_eq_true_eq] at heq
  have := h.peersHdr b hb
  rw [heq] at this
  cases ht with
  | inl ht => subst ht; simp at this
  | inr ht => subst ht; simp at this

theorem typesPart_map_snd {s : LanToLan} {a : LanId} (h : Local props a (s.obj a)) :
    (typesPart props a (s.obj a).refCnt (s.obj a)).map Prod.snd =
      (([HdrL2Type.none, .ethernetII, .ieee8023, .max].filter fun t => (s.obj a).refCnt t ≠ 0).map (typeWanted props s a)).sum := by
  have hpos : ∀ t, 0 < (s.obj a).refCnt t ↔ (s.obj a).refCnt t ≠ 0 := fun t =>
    ⟨fun h => h.ne', fun h' => lt_of_le_of_ne (h.refCnt_nonneg t) (Ne.symm h')⟩
  have htype : ∀ t, 0 < (s.obj a).refCnt t → (typePart props a (s.obj a) t).map Prod.snd = typeWanted props s a t := fun t ht => by
    obtain ⟨b, hb, rfl⟩ := (h.refCnt_pos t).1 ht
    exact typePart_map_snd fun c hc => h.counted c hc b hb
  have h0 := refCnt_other h (.inl rfl)
  have h3 := refCnt_other h (.inr rfl)
  have hpart : ∀ t, (if 0 < (s.obj a).refCnt t then typePart props a (s.obj a) t else 0).map Prod.snd =
      if (s.obj a).refCnt t ≠ 0 then typeWanted props s a t else 0 := fun t => by
    by_cases ht : 0 < (s.obj a).refCnt t
    · rw [if_pos ht, if_pos ((hpos t).1 ht), htype t ht]
    · rw [if_neg ht, if_neg (mt (hpos t).2 ht), Multiset.map_zero]
  rw [typesPart, Multiset.map_add, hpart, hpart]
  by_cases h1 : (s.obj a).refCnt .ethernetII = 0 <;> by_cases h2 : (s.obj a).refCnt .ieee8023 = 0 <;>
    simp [h0, h1, h2, h3]

/-- What an interface owns are the rules it is wanted to have. -/
theorem owned_map_snd {s : LanToLan} (h : Inv props s) {a : LanId} (ha : a ∈ s.mIface) :
    (owned props a (s.obj a)).map Prod.snd = wanted props s a := by
  have hf := h.loc a ha
  have hflt : (fltPart props a (s.obj a)).map Prod.snd = ((s.obj a).peerIds.map fun b => ((s.obj b).macs.map
      (fltWanted a (s.obj a).assigned (rtTblName (props a).hdrL2Type (props b).hdrL2Type))).sum).sum := by
    rw [fltPart, map_sum]
    congr 1
    exact List.map_congr_left fun b hb => fltOwn_map_snd (h.flt a ha b hb) (h.loc b (h.symm ha hb).1).clientsNodup
  rw [owned, Multiset.map_add, Multiset.map_add, hflt, typesPart_map_snd hf, intraPart_map_snd hf, wanted]

/-- The books of the controller are in order: who is a peer, what is counted, which clients have
filter rules, and that exactly the wanted rules are installed, each under a handle of its own, with
no deletion of a handle that was not in use. -/
structure Bookkept (props : LanId → LanProps) (s : LanToLan) : Prop where
  peersNodup : ∀ a ∈ s.mIface, (s.obj a).peerIds.Nodup
  peers : ∀ a ∈ s.mIface, ∀ b, b ∈ (s.obj a).peerIds ↔
    b ∈ s.mIface ∧ b ≠ a ∧ (s.obj a).supportInter = true ∧ (s.obj b).supportInter = true
  symm : ∀ a ∈ s.mIface, ∀ b ∈ (s.obj a).peerIds, a ∈ (s.obj b).peerIds
  refCnt : ∀ a ∈ s.mIface, ∀ t, (s.obj a).refCnt t = ((s.obj a).peerIds.countP fun b => (props b).hdrL2Type = t : Nat)
  clientsNodup : ∀ a ∈ s.mIface, (s.obj a).macs.Nodup
  fltClients : ∀ a ∈ s.mIface, ∀ p ∈ (s.obj a).peerIfaceInfo, (fltClients p.fltRule).Perm (s.obj p.peer).macs
  installed : (s.drv.live : Multiset (Nat × EthBridgeRule)) = ownedBy props s s.mIface
  rules : (s.drv.live.map Prod.snd : Multiset EthBridgeRule) = (s.mIface.map (wanted props s)).sum
  handles : (s.drv.live.map Prod.fst).Nodup
  misses : s.drv.misses = 0

/-- A filter rule for a client, under the handle of its only entry in `l`, names the table that all
routing rules of the client are in, and there are as many of these as there should be. -/
def SameTable (props : LanId → LanProps) (s : LanToLan) (a b : LanId) (l : List FltRuleInfo) (mac : MacAddr) (ip : IpIndex)
    (hdls : List Nat) : Prop :=
  ∃ e ∈ l, e.pClient = mac ∧ (∀ e' ∈ l, e'.pClient = mac → e' = e) ∧ ∃ tbl ctx,
    (e.fltRuleHdl.get ip, EthBridgeRule.flt a mac ip tbl) ∈ s.drv.live ∧ hdls.length = (props b).rtRuleCount.get ip ∧
    ∀ x ∈ hdls.zipIdx, (x.1, EthBridgeRule.rt b mac ip (props a).hdrL2Type tbl ctx x.2) ∈ s.drv.live

/-- The names agree, between the peers and between the own clients. A handle stands for one rule. -/
structure TablesAgree (props : LanId → LanProps) (s : LanToLan) : Prop where
  handles : (s.drv.live.map Prod.fst).Nodup
  inter : ∀ a ∈ s.mIface, ∀ p ∈ (s.obj a).peerIfaceInfo, ∀ c ∈ (s.obj p.peer).clientInfo, ∀ ip, (s.obj a).assigned ip = true →
    SameTable props s a p.peer p.fltRule c.macAddr ip ((c.interIfaceRtRuleHdl (props a).hdrL2Type).get ip)
  intra : ∀ a ∈ s.mIface, (s.obj a).supportIntra = true → ∀ c ∈ (s.obj a).clientInfo, ∀ ip, (s.obj a).assigned ip = true →
    SameTable props s a a (s.obj a).intraInfo.fltRule c.macAddr ip (c.intraIfaceRtRuleHdl.get ip)

theorem mem_sum {α β : Type} {g : α → Multiset β} {l : List α} {x : α} (hx : x ∈ l) {y : β} (hy : y ∈ g x) :
    y ∈ (l.map g).sum := by
  induction l with
  | nil => exact absurd hx List.not_mem_nil
  | cons z l ih =>
    rw [List.map_cons, List.sum_cons, Multiset.mem_add]
    cases List.mem_cons.1 hx with
    | inl h => exact .inl (h ▸ hy)
    | inr h => exact .inr (ih h)

theorem mem_fltOwn (a : LanId) (asg : IpIndex → Bool) (tbl : PerIp String) {l : List FltRuleInfo} {e : FltRuleInfo} (he : e ∈ l)
    {ip : IpIndex} (hip : asg ip = true) :
    (e.fltRuleHdl.get ip, EthBridgeRule.flt a e.pClient ip (tbl.get ip)) ∈ fltOwn a (fun _ => asg) tbl l := by
  refine mem_sum he ?_
  cases ip with
  | v4 => simp [entryOwn, hip, PerIp.get]
  | v6 => simp [entryOwn, hip, PerIp.get]

theorem mem_series (r : Nat → EthBridgeRule) {hs : List Nat} {x : Nat × Nat} (hx : x ∈ hs.zipIdx) :
    (x.1, r x.2) ∈ series r hs :=
  Multiset.mem_coe.2 (List.mem_map.2 ⟨x, hx, rfl⟩)

theorem mem_rtOwn {b : LanId} {mac : MacAddr} {t : HdrL2Type} {tbl : PerIp String} {ctx : Nat} {hdls : RtRuleInfo}
    {ip : IpIndex} {x : Nat × Nat} (hx : x ∈ (hdls.get ip).zipIdx) :
    (x.1, EthBridgeRule.rt b mac ip t (tbl.get ip) ctx x.2) ∈ rtOwn b mac t tbl ctx hdls := by
  rw [rtOwn, Multiset.mem_add]
  cases ip with
  | v4 => exact .inl (mem_series _ hx)
  | v6 => exact .inr (mem_series _ hx)

theorem counted_length {b : LanId} {hdls : RtRuleInfo} (h : Counted props b hdls) (ip : IpIndex) :
    (hdls.get ip).length = (props b).rtRuleCount.get ip := by
  cases ip with
  | v4 => exact h.1
  | v6 => exact h.2

/-- The entry of a client. -/
theorem fltFor_entry {l : List FltRuleInfo} {ms : List MacAddr} (h : FltFor l ms) {mac : MacAddr} (hm : mac ∈ ms) :
    ∃ e ∈ l, e.pClient = mac ∧ ∀ e' ∈ l, e'.pClient = mac → e' = e := by
  obtain ⟨e, he, rfl⟩ := List.mem_map.1 ((h.2 mac).2 hm)
  exact ⟨e, he, rfl, fun e' he' heq => List.inj_on_of_nodup_map h.1 he' he heq⟩

theorem Inv.mem_live {s : LanToLan} (h : Inv props s) {a : LanId} (ha : a ∈ s.mIface) {x : Nat × EthBridgeRule}
    (hx : x ∈ owned props a (s.obj a)) : x ∈ s.drv.live := by
  rw [← Multiset.mem_coe, h.holds.live]
  exact mem_sum ha hx

theorem Inv.sameTable_inter {s : LanToLan} (h : Inv props s) {a : LanId} (ha : a ∈ s.mIface) {p : PeerIfaceInfo}
    (hp : p ∈ (s.obj a).peerIfaceInfo) {c : ClientInfo} (hc : c ∈ (s.obj p.peer).clientInfo) {ip : IpIndex}
    (hip : (s.obj a).assigned ip = true) :
    SameTable props s a p.peer p.fltRule c.macAddr ip ((c.interIfaceRtRuleHdl (props a).hdrL2Type).get ip) := by
  have hf := h.loc a ha
  have hb : p.peer ∈ (s.obj a).peerIds := List.mem_map_of_mem hp
  obtain ⟨hbm, -, hab⟩ := h.symm ha hb
  have hg := h.loc p.peer hbm
  obtain ⟨e, he, hem, huniq⟩ := fltFor_entry (fltOf_of_mem hf.peersNodup hp ▸ h.flt a ha p.peer hb)
    (List.mem_map_of_mem hc)
  refine ⟨e, he, hem, huniq, (rtTblName (props a).hdrL2Type (props p.peer).hdrL2Type).get ip,
    (s.obj p.peer).hdrProcCtxInter (props a).hdrL2Type, h.mem_live ha ?_, counted_length (hg.counted c hc a hab) ip,
    fun x hx => h.mem_live hbm ?_⟩
  · have hmem := mem_fltOwn a (s.obj a).assigned (rtTblName (props a).hdrL2Type (props p.peer).hdrL2Type) he hip
    rw [hem] at hmem
    rw [owned, Multiset.mem_add, Multiset.mem_add, fltPart_eq props a hf.peersNodup]
    exact .inl (.inl (mem_sum hp hmem))
  · have hpos := (hg.refCnt_pos (props a).hdrL2Type).2 ⟨a, hab, rfl⟩
    have hmem : (x.1, EthBridgeRule.rt p.peer c.macAddr ip (props a).hdrL2Type
        ((rtTblName (props a).hdrL2Type (props p.peer).hdrL2Type).get ip)
        ((s.obj p.peer).hdrProcCtxInter (props a).hdrL2Type) x.2) ∈
        typePart props p.peer (s.obj p.peer) (props a).hdrL2Type := by
      rw [typePart, Multiset.mem_add]
      exact .inr (mem_sum hc (mem_rtOwn hx))
    rw [owned, Multiset.mem_add, Multiset.mem_add, typesPart_eq hf.hdr, if_pos hpos, Multiset.mem_add]
    exact .inl (.inr (.inl hmem))

theorem Inv.sameTable_intra {s : LanToLan} (h : Inv props s) {a : LanId} (ha : a ∈ s.mIface)
    (hi : (s.obj a).supportIntra = true) {c : ClientInfo} (hc : c ∈ (s.obj a).clientInfo) {ip : IpIndex}
    (hip : (s.obj a).assigned ip = true) :
    SameTable props s a a (s.obj a).intraInfo.fltRule c.macAddr ip (c.intraIfaceRtRuleHdl.get ip) := by
  have hf := h.loc a ha
  obtain ⟨e, he, hem, huniq⟩ := fltFor_entry (hf.intraFlt hi) (List.mem_map_of_mem hc)
  refine ⟨e, he, hem, huniq, rtTblNameIntra.get ip, (s.obj a).hdrProcCtxIntra, h.mem_live ha ?_,
    counted_length (hf.intraCounted hi c hc) ip, fun x hx => h.mem_live ha ?_⟩
  · have hmem := mem_fltOwn a (s.obj a).assigned rtTblNameIntra he hip
    rw [hem] at hmem
    rw [owned, intraPart, if_pos hi, Multiset.mem_add]
    exact .inr (Multiset.mem_add.2 (.inl (Multiset.mem_add.2 (.inr hmem))))
  · have hmem : (x.1, EthBridgeRule.rt a c.macAddr ip (props a).hdrL2Type (rtTblNameIntra.get ip) (s.obj a).hdrProcCtxIntra
        x.2) ∈ clientIntra props a (s.obj a) c := mem_rtOwn hx
    rw [owned, intraPart, if_pos hi, Multiset.mem_add]
    exact .inr (Multiset.mem_add.2 (.inr (mem_sum hc hmem)))

/-- In every run the filter rules of an interface for the clients of a peer name the tables that the
peer has installed the routing rules of these clients in. -/
theorem run_tablesAgree (H : Handles) (props : LanId → LanProps) (events : List EthBridgeEvt) :
    TablesAgree props (run H props events) where
  handles := (run_inv H props events).holds.nodup
  inter := fun _ ha _ hp _ hc _ hip => (run_inv H props events).sameTable_inter ha hp hc hip
  intra := fun _ ha hi _ hc _ hip => (run_inv H props events).sameTable_intra ha hi hc hip

end LanToLan
end HiaeCommon
