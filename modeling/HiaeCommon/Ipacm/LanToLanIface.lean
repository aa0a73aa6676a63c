/-
The functions of `IPACM_LanToLan_Iface`: what each makes of the interface, and
that it exchanges what the interface owns accordingly.
-/
import HiaeCommon.Ipacm.LanToLanOwned
import Mathlib.Tactic.Abel

namespace HiaeCommon

open Function (update)
open Lib (Handles Ledger)
open Lib.Ledger (Holds series)

/-- One entry for each of the clients. -/
def FltFor (l : List FltRuleInfo) (macs : List MacAddr) : Prop :=
  (LanIface.fltClients l).Nodup ∧ ∀ m, m ∈ LanIface.fltClients l ↔ m ∈ macs

theorem FltFor.perm {l : List FltRuleInfo} {ms ms' : List MacAddr} (h : FltFor l ms) (hp : ms.Perm ms') : FltFor l ms' :=
  ⟨h.1, fun m => (h.2 m).trans hp.mem_iff⟩

namespace LanIface

/-- What holds of each interface by itself. -/
structure Local (props : LanId → LanProps) (this : LanId) (f : LanIface) : Prop where
  hdr : (props this).hdrL2Type = .ethernetII ∨ (props this).hdrL2Type = .ieee8023
  assigned : f.isIpAddrAssigned.v4 = true ∨ f.isIpAddrAssigned.v6 = true
  supportInter : f.supportInter = (new props this).supportInter
  supportIntra : f.supportIntra = (new props this).supportIntra
  peersNodup : f.peerIds.Nodup
  notSelf : this ∉ f.peerIds
  peersHdr : ∀ b ∈ f.peerIds, (props b).hdrL2Type = .ethernetII ∨ (props b).hdrL2Type = .ieee8023
  named : Named props this f
  refCnt : ∀ t, f.refCnt t = (f.peerIds.countP fun b => (props b).hdrL2Type = t : Nat)
  clientsNodup : f.macs.Nodup
  counted : ∀ c ∈ f.clientInfo, ∀ b ∈ f.peerIds, Counted props this (c.interIfaceRtRuleHdl (props b).hdrL2Type)
  intraPeer : f.supportIntra = true → f.intraInfo.peer = this
  intraNamed : f.supportIntra = true →
    f.intraInfo.rtTblNameForFlt = rtTblNameIntra ∧ f.intraInfo.rtTblNameForRt = rtTblNameIntra
  intraFlt : f.supportIntra = true → FltFor f.intraInfo.fltRule f.macs
  intraCounted : f.supportIntra = true → ∀ c ∈ f.clientInfo, Counted props this c.intraIfaceRtRuleHdl

variable {H : Handles} {props : LanId → LanProps} {this : LanId} {f : LanIface}

theorem Local.refCnt_pos (h : Local props this f) (t : HdrL2Type) :
    0 < f.refCnt t ↔ ∃ b ∈ f.peerIds, (props b).hdrL2Type = t := by
  rw [h.refCnt, Int.natCast_pos, List.countP_pos_iff]
  simp

theorem Local.refCnt_nonneg (h : Local props this f) (t : HdrL2Type) : 0 ≤ f.refCnt t := by
  rw [h.refCnt]
  exact Int.natCast_nonneg _

/-- The new list of a peer's filter rules changes nothing else. -/
theorem Local.setFlt (h : Local props this f) (b : LanId) (l : List FltRuleInfo) : Local props this (f.setFlt b l) where
  hdr := h.hdr
  assigned := h.assigned
  supportInter := h.supportInter
  supportIntra := h.supportIntra
  peersNodup := by rw [peerIds_setFlt]; exact h.peersNodup
  notSelf := by rw [peerIds_setFlt]; exact h.notSelf
  peersHdr := by rw [peerIds_setFlt]; exact h.peersHdr
  named := by
    intro p hp
    obtain ⟨q, hq, rfl⟩ := List.mem_map.1 hp
    have := h.named q hq
    split <;> exact this
  refCnt := by rw [peerIds_setFlt]; exact h.refCnt
  clientsNodup := h.clientsNodup
  counted := by rw [peerIds_setFlt]; exact h.counted
  intraPeer := h.intraPeer
  intraNamed := h.intraNamed
  intraFlt := h.intraFlt
  intraCounted := h.intraCounted

theorem owned_setFlt (props : LanId → LanProps) (this : LanId) {b : LanId} (hnd : f.peerIds.Nodup) (hb : b ∈ f.peerIds) :
    ∃ rest, ∀ l, owned props this (f.setFlt b l) =
      fltOwn this (fun _ => f.assigned) (rtTblName (props this).hdrL2Type (props b).hdrL2Type) l + rest := by
  obtain ⟨rest, hrest⟩ := fltPart_split props this hnd hb
  refine ⟨rest + (typesPart props this f.refCnt f + intraPart props this f), fun l => ?_⟩
  rw [owned, hrest, add_assoc, add_assoc]
  rfl

/-- Other clients, and another list of filter rules for them. -/
def setClients (f : LanIface) (cs : List ClientInfo) (l : List FltRuleInfo) : LanIface :=
  { f with clientInfo := cs, intraInfo := { f.intraInfo with fltRule := l } }

theorem Local.setClients (h : Local props this f) {cs : List ClientInfo} {l : List FltRuleInfo}
    (hnd : (cs.map (·.macAddr)).Nodup)
    (hcount : ∀ c ∈ cs, ∀ b ∈ f.peerIds, Counted props this (c.interIfaceRtRuleHdl (props b).hdrL2Type))
    (hl : f.supportIntra = true → FltFor l (cs.map (·.macAddr)))
    (hintra : f.supportIntra = true → ∀ c ∈ cs, Counted props this c.intraIfaceRtRuleHdl) :
    Local props this (f.setClients cs l) where
  hdr := h.hdr
  assigned := h.assigned
  supportInter := h.supportInter
  supportIntra := h.supportIntra
  peersNodup := h.peersNodup
  notSelf := h.notSelf
  peersHdr := h.peersHdr
  named := h.named
  refCnt := h.refCnt
  clientsNodup := hnd
  counted := hcount
  intraPeer := h.intraPeer
  intraNamed := h.intraNamed
  intraFlt := hl
  intraCounted := hintra

theorem intraPart_setClients (h : f.supportIntra = true) (cs : List ClientInfo) (l : List FltRuleInfo) :
    intraPart props this (f.setClients cs l) =
      {(f.hdrProcCtxIntra, .hdrProcCtx this (props this).hdrL2Type)} + fltOwn this (fun _ => f.assigned) rtTblNameIntra l +
        (cs.map (clientIntra props this f)).sum :=
  if_pos h

/-- The list of intra-interface filter rules can be exchanged. -/
theorem owned_setClients_flt (props : LanId → LanProps) (this : LanId) (h : f.supportIntra = true) (cs : List ClientInfo) :
    ∃ rest, ∀ l, owned props this (f.setClients cs l) = fltOwn this (fun _ => f.assigned) rtTblNameIntra l + rest := by
  refine ⟨fltPart props this f + typesPart props this f.refCnt (f.setClients cs []) +
    ({(f.hdrProcCtxIntra, .hdrProcCtx this (props this).hdrL2Type)} + (cs.map (clientIntra props this f)).sum), fun l => ?_⟩
  have hrest : fltPart props this (f.setClients cs l) + typesPart props this f.refCnt (f.setClients cs l) =
      fltPart props this f + typesPart props this f.refCnt (f.setClients cs []) := rfl
  calc owned props this (f.setClients cs l)
      = fltPart props this (f.setClients cs l) + typesPart props this f.refCnt (f.setClients cs l) +
          intraPart props this (f.setClients cs l) := rfl
    _ = _ := by
      rw [intraPart_setClients h, hrest]
      abel

theorem fltPart_eq (props : LanId → LanProps) (this : LanId) (hnd : f.peerIds.Nodup) :
    fltPart props this f = (f.peerIfaceInfo.map fun p =>
      fltOwn this (fun _ => f.assigned) (rtTblName (props this).hdrL2Type (props p.peer).hdrL2Type) p.fltRule).sum := by
  rw [fltPart, peerIds, List.map_map]
  congr 1
  refine List.map_congr_left fun p hp => ?_
  simp only [Function.comp_apply, fltOf_of_mem hnd hp]

/-! ## A client of a peer comes or goes -/

/-- `add_one_client_flt_rule` for a client that is not yet entered. -/
theorem addOneClientFltRule_holds (h : Local props this f) {b : LanId} (hb : b ∈ f.peerIds) {mac : MacAddr}
    {ms : List MacAddr} (hflt : FltFor (f.fltOf b) ms) (hmac : mac ∉ ms) {d : BridgeDrv} {m : Installed}
    (hd : Holds d (owned props this f + m)) :
    ∃ l, (f.addOneClientFltRule H this b mac d).1 = f.setFlt b l ∧ FltFor l (mac :: ms) ∧
      Holds (f.addOneClientFltRule H this b mac d).2 (owned props this (f.setFlt b l) + m) := by
  obtain ⟨p, hp, hpb, hpf, hfirst⟩ := first_peer h.peersNodup hb
  obtain ⟨rest, hrest⟩ := owned_setFlt props this h.peersNodup hb
  have htbl : p.rtTblNameForFlt = rtTblName (props this).hdrL2Type (props b).hdrL2Type := hpb ▸ (h.named p hp).1
  have hown := hrest (f.fltOf b)
  rw [setFlt_fltOf h.peersNodup hb] at hown
  rw [hown, add_assoc, ← hpf, ← htbl] at hd
  rw [← hpf] at hflt
  obtain ⟨l, hl, hnd, hmem, hld⟩ := addClientFltRules_holds (H := H) h.assigned hflt.1 (fun hm => hmac ((hflt.2 _).1 hm)) hd
  refine ⟨l, ?_, ⟨hnd, fun m => ?_⟩, ?_⟩
  · simp only [addOneClientFltRule, hfirst _ d l hl]
    rfl
  · rw [hmem, hflt.2, List.mem_cons, or_comm]
  · simp only [addOneClientFltRule, hfirst _ d l hl]
    rw [hrest l, add_assoc, ← htbl]
    exact hld

/-- `del_one_client_flt_rule`. -/
theorem delOneClientFltRule_holds (h : Local props this f) (mac : MacAddr) {b : LanId} (hb : b ∈ f.peerIds)
    {ms : List MacAddr} (hms : ms.Nodup) (hflt : FltFor (f.fltOf b) ms) {d : BridgeDrv} {m : Installed}
    (hd : Holds d (owned props this f + m)) :
    ∃ l, (f.delOneClientFltRule b mac d).1 = f.setFlt b l ∧ FltFor l (ms.erase mac) ∧
      Holds (f.delOneClientFltRule b mac d).2 (owned props this (f.setFlt b l) + m) := by
  obtain ⟨p, hp, hpb, hpf, hfirst⟩ := first_peer h.peersNodup hb
  obtain ⟨rest, hrest⟩ := owned_setFlt props this h.peersNodup hb
  have hown := hrest (f.fltOf b)
  rw [setFlt_fltOf h.peersNodup hb] at hown
  rw [hown, add_assoc, ← hpf] at hd
  rw [← hpf] at hflt
  obtain ⟨hc, hld⟩ := eraseFltRule_holds mac hd
  refine ⟨(f.eraseFltRule mac p.fltRule d).1, ?_, ⟨?_, fun m => ?_⟩, ?_⟩
  · simp only [delOneClientFltRule, hfirst (f.delClientFltRule mac) d _ rfl]
    rfl
  · rw [hc]
    exact hflt.1.erase mac
  · rw [hc, hflt.1.mem_erase_iff, hms.mem_erase_iff, hflt.2]
  · simp only [delOneClientFltRule, hfirst (f.delClientFltRule mac) d _ rfl]
    rw [hrest, add_assoc]
    exact hld

/-! ## The routing rules of one client -/

section Client

variable {d : BridgeDrv} {m : Installed} {peer : PeerIfaceInfo} {c : ClientInfo}

/-- The rules for a peer are those of its header type. -/
theorem addClientRtRule_inter (hne : peer.peer ≠ this)
    (hname : peer.rtTblNameForRt = rtTblName (props peer.peer).hdrL2Type (props this).hdrL2Type) (d : BridgeDrv) :
    ∃ hdls, Counted props this hdls ∧
      (f.addClientRtRule H props this peer c d).1 =
        { c with interIfaceRtRuleHdl := update c.interIfaceRtRuleHdl (props peer.peer).hdrL2Type hdls } ∧
      ∀ m, Holds d m → Holds (f.addClientRtRule H props this peer c d).2
        (clientRt props this f (props peer.peer).hdrL2Type (f.addClientRtRule H props this peer c d).1 + m) := by
  simp only [addClientRtRule, if_pos hne, hname]
  refine ⟨_, ethBridgeAddRtRule_counted _ _ _ _ d, rfl, fun m hd => ?_⟩
  simp only [clientRt, Function.update_self]
  exact ethBridgeAddRtRule_holds hd _ _ _ _

theorem addClientRtRule_intra (props : LanId → LanProps) (hp : peer.peer = this) (hname : peer.rtTblNameForRt = rtTblNameIntra) (d : BridgeDrv) :
    ∃ hdls, Counted props this hdls ∧
      (f.addClientRtRule H props this peer c d).1 = { c with intraIfaceRtRuleHdl := hdls } ∧
      ∀ m, Holds d m → Holds (f.addClientRtRule H props this peer c d).2
        (clientIntra props this f (f.addClientRtRule H props this peer c d).1 + m) := by
  have hn : ¬peer.peer ≠ this := fun h => h hp
  simp only [addClientRtRule, if_neg hn, hname]
  rw [hp]
  refine ⟨_, ethBridgeAddRtRule_counted _ _ _ _ d, rfl, fun m hd => ?_⟩
  exact ethBridgeAddRtRule_holds hd _ _ _ _

/-- A client without its rules for `t`. -/
def resetRt (t : HdrL2Type) (c : ClientInfo) : ClientInfo :=
  { c with interIfaceRtRuleHdl := update c.interIfaceRtRuleHdl t ⟨[], []⟩ }

theorem delClientRtRule_inter (hne : peer.peer ≠ this)
    (hd : Holds d (clientRt props this f (props peer.peer).hdrL2Type c + m)) :
    Holds (delClientRtRule props this peer c d).2 m := by
  simp only [delClientRtRule, if_pos hne]
  exact ethBridgeDelRtRule_holds hd

theorem delClientRtRule_reset (hne : peer.peer ≠ this) (d : BridgeDrv) :
    (delClientRtRule props this peer c d).1 = resetRt (props peer.peer).hdrL2Type c := by
  simp only [delClientRtRule, if_pos hne, resetRt]

theorem delClientRtRule_intra (hp : peer.peer = this) (hd : Holds d (clientIntra props this f c + m)) :
    Holds (delClientRtRule props this peer c d).2 m := by
  have hn : ¬peer.peer ≠ this := fun h => h hp
  simp only [delClientRtRule, if_neg hn]
  exact ethBridgeDelRtRule_holds hd

theorem clientRt_reset {t t' : HdrL2Type} (h : t' ≠ t) : clientRt props this f t' (resetRt t c) = clientRt props this f t' c := by
  simp only [clientRt, resetRt, Function.update_of_ne h]

/-- The rules of a client for the types in `P`. -/
def clientTypes (props : LanId → LanProps) (this : LanId) (f : LanIface) (P : HdrL2Type → Bool) (c : ClientInfo) : Installed :=
  (if P .ethernetII then clientRt props this f .ethernetII c else 0) +
    if P .ieee8023 then clientRt props this f .ieee8023 c else 0

/-- One client more owns its rules for the types of the peers, and its intra-interface rules. -/
theorem owned_setClients_cons (f : LanIface) (c : ClientInfo) (cs : List ClientInfo) (l : List FltRuleInfo) :
    owned props this (f.setClients (c :: cs) l) =
      clientTypes props this f (fun t => 0 < f.refCnt t) c +
        ((if f.supportIntra then clientIntra props this f c else 0) + owned props this (f.setClients cs l)) := by
  have htype : ∀ t, typePart props this (f.setClients (c :: cs) l) t =
      clientRt props this f t c + typePart props this (f.setClients cs l) t := by
    intro t
    simp only [typePart, setClients, List.map_cons, List.sum_cons]
    exact add_left_comm _ _ _
  have hintra : intraPart props this (f.setClients (c :: cs) l) =
      (if f.supportIntra then clientIntra props this f c else 0) + intraPart props this (f.setClients cs l) := by
    by_cases hi : f.supportIntra = true
    · rw [intraPart_setClients hi, intraPart_setClients hi, if_pos hi, List.map_cons, List.sum_cons, add_left_comm]
    · have hnone : ∀ cs, intraPart props this (f.setClients cs l) = 0 := fun _ => if_neg hi
      rw [hnone, hnone, if_neg hi, zero_add]
  have hflt : fltPart props this (f.setClients (c :: cs) l) = fltPart props this (f.setClients cs l) := rfl
  have href : ∀ cs, (f.setClients cs l).refCnt = f.refCnt := fun _ => rfl
  simp only [owned, typesPart, clientTypes, hflt, hintra, htype, href, decide_eq_true_eq]
  split <;> split <;> abel

theorem owned_setClients_perm (f : LanIface) {cs cs' : List ClientInfo} (h : cs.Perm cs') (l : List FltRuleInfo) :
    owned props this (f.setClients cs l) = owned props this (f.setClients cs' l) := by
  induction h with
  | nil => rfl
  | cons c _ ih => rw [owned_setClients_cons, owned_setClients_cons, ih]
  | swap c c' cs =>
    simp only [owned_setClients_cons]
    abel
  | trans _ _ ih ih' => exact ih.trans ih'

/-- The intra-interface rules of a new client, whose rules for the peers are there. -/
theorem addClientIntra_holds (h : Local props this f) (hsi : f.supportIntra = true) (hmac : c.macAddr ∉ f.macs)
    (hd : Holds d (clientTypes props this f (fun t => 0 < f.refCnt t) c + (owned props this f + m))) :
    ∃ hdls l d₁ d₂, f.addClientRtRule H props this f.intraInfo c d = ({ c with intraIfaceRtRuleHdl := hdls }, d₁) ∧
      f.addClientFltRules H this c.macAddr f.intraInfo d₁ = ({ f.intraInfo with fltRule := l }, d₂) ∧
      Counted props this hdls ∧ FltFor l (c.macAddr :: f.macs) ∧
      Holds d₂ (owned props this (f.setClients ({ c with intraIfaceRtRuleHdl := hdls } :: f.clientInfo) l) + m) := by
  obtain ⟨hpn, hpr⟩ := h.intraNamed hsi
  obtain ⟨hnd, hmem⟩ := h.intraFlt hsi
  obtain ⟨hdls, hcount, he, hh⟩ := addClientRtRule_intra (H := H) props (f := f) (c := c) (h.intraPeer hsi) hpr d
  have hd₁ := hh _ hd
  rw [he] at hd₁
  obtain ⟨rest, hrest⟩ := owned_setClients_flt props this hsi ({ c with intraIfaceRtRuleHdl := hdls } :: f.clientInfo)
  have heq := (hrest f.intraInfo.fltRule).symm.trans
    (owned_setClients_cons f { c with intraIfaceRtRuleHdl := hdls } f.clientInfo f.intraInfo.fltRule)
  rw [if_pos hsi] at heq
  obtain ⟨l, hl, hlnd, hlm, hd₂⟩ := addClientFltRules_holds (H := H) (m := rest + m) h.assigned hnd
    (fun hin => hmac ((hmem _).1 hin)) (hd₁.of_eq (by
      rw [hpn, ← add_assoc (fltOwn _ _ _ _), heq, add_assoc, add_assoc, add_left_comm]
      rfl))
  rw [hpn, ← add_assoc] at hd₂
  refine ⟨hdls, l, _, _, Prod.ext he rfl, Prod.ext hl rfl, hcount, ⟨hlnd, fun a => ?_⟩, ?_⟩
  · rw [hlm, hmem, List.mem_cons, or_comm]
  · rw [hrest l]
    exact hd₂

/-- The intra-interface rules of a client that goes. -/
theorem delClientIntra_holds (h : Local props this f) (hsi : f.supportIntra = true) (mac : MacAddr) {cs : List ClientInfo}
    (hd : Holds d (clientIntra props this f c + (owned props this (f.setClients cs f.intraInfo.fltRule) + m))) :
    ∃ l d₁, f.delClientFltRule mac f.intraInfo d = ({ f.intraInfo with fltRule := l }, d₁) ∧
      FltFor l (f.macs.erase mac) ∧
      Holds (delClientRtRule props this f.intraInfo c d₁).2 (owned props this (f.setClients cs l) + m) := by
  obtain ⟨hnd, hmem⟩ := h.intraFlt hsi
  obtain ⟨rest, hrest⟩ := owned_setClients_flt props this hsi cs
  rw [hrest, add_left_comm, add_assoc] at hd
  obtain ⟨hc, hd₁⟩ := eraseFltRule_holds mac hd
  refine ⟨(f.eraseFltRule mac f.intraInfo.fltRule d).1, _, rfl, ⟨?_, fun a => ?_⟩, ?_⟩
  · rw [hc]
    exact hnd.erase mac
  · rw [hc, hnd.mem_erase_iff, h.clientsNodup.mem_erase_iff, hmem]
  · refine delClientRtRule_intra (f := f) (h.intraPeer hsi) (hd₁.of_eq ?_)
    rw [hrest]
    abel

end Client

/-! ## A peer of a header type comes or goes -/

/-- The other header type an interface may have. -/
def otherType (t : HdrL2Type) : HdrL2Type := if t = .ethernetII then .ieee8023 else .ethernetII

theorem typesPart_eq {t : HdrL2Type} (ht : t = .ethernetII ∨ t = .ieee8023) (r : HdrL2Type → Int) (f : LanIface) :
    typesPart props this r f = (if 0 < r t then typePart props this f t else 0) +
      if 0 < r (otherType t) then typePart props this f (otherType t) else 0 := by
  cases ht with
  | inl h => subst h; rfl
  | inr h =>
    subst h
    exact add_comm _ _

theorem otherType_ne (ht : t = .ethernetII ∨ t = .ieee8023) : otherType t ≠ t := by
  cases ht with
  | inl h => subst h; decide
  | inr h => subst h; decide

theorem typePart_congr {f g : LanIface} {t : HdrL2Type} (hctx : g.hdrProcCtxInter t = f.hdrProcCtxInter t)
    (hc : g.clientInfo.map (clientRt props this g t) = f.clientInfo.map (clientRt props this f t)) :
    typePart props this g t = typePart props this f t := by
  rw [typePart, typePart, hctx, hc]

section Types

variable {d : BridgeDrv} {m : Installed} {t : HdrL2Type}

/-- The clients behind `clear_all_rt_rule_for_one_peer_iface`. -/
def clearedClients (f : LanIface) (t : HdrL2Type) : List ClientInfo :=
  if f.refCnt t = 0 then f.clientInfo.map (resetRt t) else f.clientInfo

theorem clearAllRtRule_eq (props : LanId → LanProps) (peer : PeerIfaceInfo) (hne : peer.peer ≠ this) (ht : (props peer.peer).hdrL2Type = t)
    (d : BridgeDrv) : (f.clearAllRtRule props this peer d).1 = { f with clientInfo := f.clearedClients t } := by
  simp only [clearAllRtRule, clearedClients, ht]
  split
  · have := Ledger.each_map (f := delClientRtRule props this peer) (resetRt t) id f.clientInfo (d := d)
      (fun c _ d => by rw [delClientRtRule_reset hne, ht]; rfl)
    rw [List.map_id] at this
    rw [this]
  · rfl

/-- The last peer of a type takes the rules and the context for it along. -/
theorem release_holds (peer : PeerIfaceInfo) (hne : peer.peer ≠ this) (ht : (props peer.peer).hdrL2Type = t)
    (hok : t = .ethernetII ∨ t = .ieee8023) (hpos : 0 < f.refCnt t)
    (hd : Holds d (typesPart props this f.refCnt f + m)) :
    Holds ((f.addRefCnt t (-1)).delHdrProcCtx t ((f.addRefCnt t (-1)).clearAllRtRule props this peer d).2)
      (typesPart props this (f.addRefCnt t (-1)).refCnt
        { f with clientInfo := (f.addRefCnt t (-1)).clearedClients t } + m) := by
  have hother : (f.addRefCnt t (-1)).refCnt (otherType t) = f.refCnt (otherType t) :=
    Function.update_of_ne (otherType_ne hok) _ _
  have hself : (f.addRefCnt t (-1)).refCnt t = f.refCnt t - 1 := Function.update_self ..
  rw [typesPart_eq hok, if_pos hpos, add_assoc] at hd
  rw [typesPart_eq hok, hother, hself]
  by_cases h0 : f.refCnt t - 1 = 0
  · have hrest : typePart props this { f with clientInfo := (f.addRefCnt t (-1)).clearedClients t } (otherType t) =
        typePart props this f (otherType t) := by
      refine typePart_congr rfl ?_
      simp only [clearedClients, hself, if_pos h0, List.map_map]
      exact List.map_congr_left fun c _ => clientRt_reset (otherType_ne hok)
    rw [hrest, h0, if_neg (by omega), zero_add]
    simp only [delHdrProcCtx, clearAllRtRule, ht, hself, if_pos h0]
    rw [typePart, add_assoc] at hd
    have heach := Holds.each (f := delClientRtRule props this peer) (p := clientRt props this f t) (q := fun _ => 0)
      (l := f.clientInfo) (fun c _ d m h => by
        rw [zero_add]
        exact delClientRtRule_inter (f := f) hne (by rw [ht]; exact h)) (hd.of_eq (add_left_comm _ _ _))
    rw [List.map_const', List.sum_replicate, nsmul_zero, zero_add] at heach
    exact heach.del
  · have hsame : (f.addRefCnt t (-1)).clearedClients t = f.clientInfo := by
      simp only [clearedClients, hself, if_neg h0]
      rfl
    rw [hsame, if_pos (by omega)]
    simp only [delHdrProcCtx, clearAllRtRule, ht, hself, if_neg h0]
    exact hd.of_eq (add_assoc _ _ _).symm

/-- `handle_new_iface_up` installs a context for the first peer of a type. -/
theorem handleNewIfaceUp_eq (this : LanId) (f : LanIface) (forFlt forRt : PerIp String) {peer : LanId} (ht : (props peer).hdrL2Type = t)
    (d : BridgeDrv) :
    ∃ ctx : HdrL2Type → Nat, (∀ t' ≠ t, ctx t' = f.hdrProcCtxInter t') ∧ (f.refCnt t ≠ 0 → ctx = f.hdrProcCtxInter) ∧
      (f.handleNewIfaceUp H props this forFlt forRt peer d).1 =
        { f.addRefCnt t 1 with hdrProcCtxInter := ctx, peerIfaceInfo := ⟨peer, forRt, forFlt, []⟩ :: f.peerIfaceInfo } ∧
      ∀ m, Holds d m → Holds (f.handleNewIfaceUp H props this forFlt forRt peer d).2
        ((if f.refCnt t = 0 then {(ctx t, .hdrProcCtx this t)} else 0) + m) := by
  have hself : (f.addRefCnt t 1).refCnt t = f.refCnt t + 1 := Function.update_self ..
  simp only [handleNewIfaceUp, addHdrProcCtx, ht, hself]
  by_cases h0 : f.refCnt t = 0
  · rw [if_pos (by omega)]
    refine ⟨update f.hdrProcCtxInter t (d.add H (.hdrProcCtx this t)).1, fun t' h => Function.update_of_ne h _ _,
      fun h => absurd h0 h, rfl, fun m hd => ?_⟩
    rw [if_pos h0, Function.update_self]
    exact hd.add _
  · rw [if_neg (by omega)]
    refine ⟨f.hdrProcCtxInter, fun _ _ => rfl, fun _ => rfl, rfl, fun m hd => ?_⟩
    rw [if_neg h0, zero_add]
    exact hd

/-- Clients `cs`, which were `cs₀`, with new rules for `t`. -/
structure WithRt (props : LanId → LanProps) (this : LanId) (t : HdrL2Type) (cs₀ cs : List ClientInfo) : Prop where
  macs : cs.map (·.macAddr) = cs₀.map (·.macAddr)
  other : ∀ t' ≠ t, ∀ g, cs.map (clientRt props this g t') = cs₀.map (clientRt props this g t')
  intra : ∀ g, cs.map (clientIntra props this g) = cs₀.map (clientIntra props this g)
  mem : ∀ c' ∈ cs, ∃ c ∈ cs₀, (∀ t' ≠ t, c'.interIfaceRtRuleHdl t' = c.interIfaceRtRuleHdl t') ∧
    c'.intraIfaceRtRuleHdl = c.intraIfaceRtRuleHdl
  counted : ∀ c' ∈ cs, Counted props this (c'.interIfaceRtRuleHdl t)

/-- `add_client_rt_rule_for_new_iface`, for the first peer of its type. -/
theorem addClientRtRuleForNewIface_first {p : PeerIfaceInfo} {ps : List PeerIfaceInfo} (hp : f.peerIfaceInfo = p :: ps)
    (hne : p.peer ≠ this) (hname : p.rtTblNameForRt = rtTblName (props p.peer).hdrL2Type (props this).hdrL2Type)
    (ht : (props p.peer).hdrL2Type = t) (h1 : f.refCnt t = 1) (d : BridgeDrv) :
    ∃ cs, (f.addClientRtRuleForNewIface H props this d).1 = { f with clientInfo := cs } ∧
      WithRt props this t f.clientInfo cs ∧
      ∀ m, Holds d m → Holds (f.addClientRtRuleForNewIface H props this d).2
        ((cs.map (clientRt props this f t)).sum + m) := by
  have hbody := fun (c : ClientInfo) (d : BridgeDrv) =>
    addClientRtRule_inter (H := H) (f := f) (c := c) hne hname d
  simp only [ht] at hbody
  simp only [addClientRtRuleForNewIface, hp, ht, if_pos h1]
  refine ⟨_, rfl, ⟨?_, ?_, ?_, ?_, ?_⟩, fun m hd => ?_⟩
  · exact Ledger.each_map _ _ _ fun c _ d => by
      obtain ⟨hdls, -, he, -⟩ := hbody c d
      rw [he]
  · intro t' ht' g
    exact Ledger.each_map _ _ _ fun c _ d => by
      obtain ⟨hdls, -, he, -⟩ := hbody c d
      rw [he]
      simp only [clientRt, Function.update_of_ne ht']
  · intro g
    exact Ledger.each_map _ _ _ fun c _ d => by
      obtain ⟨hdls, -, he, -⟩ := hbody c d
      rw [he]
      rfl
  · intro c' hc'
    obtain ⟨c, hc, d', rfl⟩ := Ledger.each_mem _ hc'
    obtain ⟨hdls, -, he, -⟩ := hbody c d'
    rw [he]
    exact ⟨c, hc, fun t' ht' => Function.update_of_ne ht' _ _, rfl⟩
  · intro c' hc'
    obtain ⟨c, hc, d', rfl⟩ := Ledger.each_mem _ hc'
    obtain ⟨hdls, hcount, he, -⟩ := hbody c d'
    rw [he]
    simpa using hcount
  · refine Holds.each (p := fun _ => 0) (q := clientRt props this f t) (fun c _ d m h => ?_) ?_
    · obtain ⟨hdls, -, -, hh⟩ := hbody c d
      exact hh m (by rwa [zero_add] at h)
    · rw [List.map_const', List.sum_replicate, nsmul_zero, zero_add]
      exact hd

end Types

/-- The entry of a peer that has just come. -/
def newPeer (props : LanId → LanProps) (this b : LanId) : PeerIfaceInfo :=
  ⟨b, rtTblName (props b).hdrL2Type (props this).hdrL2Type, rtTblName (props this).hdrL2Type (props b).hdrL2Type, []⟩

/-- `f` became `g` with one peer `b` more. -/
structure Grown (props : LanId → LanProps) (this : LanId) (f g : LanIface) (b : LanId) : Prop where
  eq : g = { f.addRefCnt (props b).hdrL2Type 1 with
    hdrProcCtxInter := g.hdrProcCtxInter, peerIfaceInfo := newPeer props this b :: f.peerIfaceInfo, clientInfo := g.clientInfo }
  ctx : ∀ t' ≠ (props b).hdrL2Type, g.hdrProcCtxInter t' = f.hdrProcCtxInter t'
  later : f.refCnt (props b).hdrL2Type ≠ 0 → g.hdrProcCtxInter = f.hdrProcCtxInter ∧ g.clientInfo = f.clientInfo
  first : f.refCnt (props b).hdrL2Type = 0 → WithRt props this (props b).hdrL2Type f.clientInfo g.clientInfo

namespace Grown

variable {g : LanIface} {b : LanId}

theorem peerIds (h : Grown props this f g b) : g.peerIds = b :: f.peerIds := by
  rw [h.eq]
  rfl

theorem macs (h : Grown props this f g b) : g.macs = f.macs := by
  by_cases h0 : f.refCnt (props b).hdrL2Type = 0
  · exact (h.first h0).macs
  · simp only [LanIface.macs, (h.later h0).2]

theorem fltOf_self (h : Grown props this f g b) : g.fltOf b = [] := by
  rw [h.eq]
  simp [fltOf, newPeer]

theorem fltOf_of_ne (h : Grown props this f g b) {b' : LanId} (hne : b' ≠ b) : g.fltOf b' = f.fltOf b' := by
  rw [h.eq]
  simp [fltOf, newPeer, Ne.symm hne]

theorem refCnt (h : Grown props this f g b) (t : HdrL2Type) :
    g.refCnt t = f.refCnt t + if (props b).hdrL2Type = t then 1 else 0 := by
  rw [h.eq]
  by_cases ht : (props b).hdrL2Type = t
  · subst ht
    simp [addRefCnt]
  · simp [addRefCnt, ht, Function.update_of_ne (Ne.symm ht)]

theorem isIpAddrAssigned (h : Grown props this f g b) : g.isIpAddrAssigned = f.isIpAddrAssigned := by
  rw [h.eq]
  rfl

theorem supportInter (h : Grown props this f g b) : g.supportInter = f.supportInter := by
  rw [h.eq]
  rfl

theorem intraInfo (h : Grown props this f g b) : g.intraInfo = f.intraInfo := by
  rw [h.eq]
  rfl

theorem supportIntra (h : Grown props this f g b) : g.supportIntra = f.supportIntra := by
  rw [h.eq]
  rfl

theorem hdrProcCtxIntra (h : Grown props this f g b) : g.hdrProcCtxIntra = f.hdrProcCtxIntra := by
  rw [h.eq]
  rfl

theorem toLocal (h : Grown props this f g b) (hf : Local props this f) (hb : b ∉ f.peerIds) (hne : b ≠ this)
    (hok : (props b).hdrL2Type = .ethernetII ∨ (props b).hdrL2Type = .ieee8023) : Local props this g where
  hdr := hf.hdr
  assigned := h.isIpAddrAssigned ▸ hf.assigned
  supportInter := h.supportInter ▸ hf.supportInter
  supportIntra := h.supportIntra ▸ hf.supportIntra
  peersNodup := by rw [h.peerIds]; exact List.nodup_cons.2 ⟨hb, hf.peersNodup⟩
  notSelf := by
    rw [h.peerIds, List.mem_cons, not_or]
    exact ⟨Ne.symm hne, hf.notSelf⟩
  peersHdr := by
    rw [h.peerIds]
    exact List.forall_mem_cons.2 ⟨hok, hf.peersHdr⟩
  named := by
    intro p hp
    rw [h.eq] at hp
    cases List.mem_cons.1 hp with
    | inl hp => subst hp; exact ⟨rfl, rfl⟩
    | inr hp => exact hf.named p hp
  refCnt := by
    intro t
    rw [h.refCnt, hf.refCnt, h.peerIds, List.countP_cons]
    by_cases ht : (props b).hdrL2Type = t <;> simp [ht]
  clientsNodup := h.macs ▸ hf.clientsNodup
  counted := by
    rw [h.peerIds]
    intro c hc b' hb'
    by_cases h0 : f.refCnt (props b).hdrL2Type = 0
    · have hw := h.first h0
      by_cases ht : (props b').hdrL2Type = (props b).hdrL2Type
      · rw [ht]
        exact hw.counted c hc
      · obtain ⟨c₀, hc₀, hother, -⟩ := hw.mem c hc
        rw [hother _ ht]
        exact hf.counted c₀ hc₀ b' ((List.mem_cons.1 hb').resolve_left fun heq => ht (heq ▸ rfl))
    · rw [(h.later h0).2] at hc
      cases List.mem_cons.1 hb' with
      | inl heq =>
        subst heq
        obtain ⟨b₀, hb₀, ht⟩ := (hf.refCnt_pos (props b').hdrL2Type).1 (lt_of_le_of_ne (hf.refCnt_nonneg _) (Ne.symm h0))
        rw [← ht]
        exact hf.counted c hc b₀ hb₀
      | inr hmem => exact hf.counted c hc b' hmem
  intraPeer := by rw [h.supportIntra, h.intraInfo]; exact hf.intraPeer
  intraNamed := by rw [h.supportIntra, h.intraInfo]; exact hf.intraNamed
  intraFlt := by rw [h.supportIntra, h.intraInfo, h.macs]; exact hf.intraFlt
  intraCounted := by
    rw [h.supportIntra]
    intro hi c hc
    by_cases h0 : f.refCnt (props b).hdrL2Type = 0
    · obtain ⟨c₀, hc₀, -, hintra⟩ := (h.first h0).mem c hc
      rw [hintra]
      exact hf.intraCounted hi c₀ hc₀
    · rw [(h.later h0).2] at hc
      exact hf.intraCounted hi c hc

/-- What the peer adds to what is owned. -/
def more (props : LanId → LanProps) (this : LanId) (f g : LanIface) (b : LanId) : Installed :=
  if f.refCnt (props b).hdrL2Type = 0 then typePart props this g (props b).hdrL2Type else 0

theorem typesPart_eq (h : Grown props this f g b) (hnn : 0 ≤ f.refCnt (props b).hdrL2Type)
    (hok : (props b).hdrL2Type = .ethernetII ∨ (props b).hdrL2Type = .ieee8023) :
    typesPart props this g.refCnt g = more props this f g b + typesPart props this f.refCnt f := by
  have hne := otherType_ne hok
  have hother : typePart props this g (otherType (props b).hdrL2Type) =
      typePart props this f (otherType (props b).hdrL2Type) := by
    refine typePart_congr (h.ctx _ hne) ?_
    have hg : clientRt props this g (otherType (props b).hdrL2Type) =
        clientRt props this f (otherType (props b).hdrL2Type) := by
      funext c
      simp only [clientRt, h.ctx _ hne]
    rw [hg]
    by_cases h0 : f.refCnt (props b).hdrL2Type = 0
    · exact (h.first h0).other _ hne f
    · rw [(h.later h0).2]
  have hr : g.refCnt (otherType (props b).hdrL2Type) = f.refCnt (otherType (props b).hdrL2Type) := by
    rw [h.refCnt, if_neg (Ne.symm hne), add_zero]
  have hr' : g.refCnt (props b).hdrL2Type = f.refCnt (props b).hdrL2Type + 1 := by rw [h.refCnt, if_pos rfl]
  rw [LanIface.typesPart_eq hok, LanIface.typesPart_eq hok, hr, hother, hr',
    if_pos (show 0 < f.refCnt (props b).hdrL2Type + 1 by omega), more]
  by_cases h0 : f.refCnt (props b).hdrL2Type = 0
  · rw [if_pos h0, h0, if_neg (lt_irrefl 0)]
    abel
  · have hsame : typePart props this g (props b).hdrL2Type = typePart props this f (props b).hdrL2Type := by
      refine typePart_congr (congrFun (h.later h0).1 _) ?_
      rw [(h.later h0).2]
      refine List.map_congr_left fun c _ => ?_
      simp only [clientRt, (h.later h0).1]
    rw [if_neg h0, if_pos (show 0 < f.refCnt (props b).hdrL2Type by omega), hsame, zero_add]

theorem owned_eq (h : Grown props this f g b) (hf : Local props this f) (hb : b ∉ f.peerIds)
    (hok : (props b).hdrL2Type = .ethernetII ∨ (props b).hdrL2Type = .ieee8023) :
    owned props this g = more props this f g b + owned props this f := by
  have hflt : fltPart props this g = fltPart props this f := by
    simp only [fltPart, h.peerIds, List.map_cons, List.sum_cons, h.fltOf_self, assigned, h.isIpAddrAssigned]
    have : (f.peerIds.map fun b' =>
        fltOwn this (fun _ => f.isIpAddrAssigned.get) (rtTblName (props this).hdrL2Type (props b').hdrL2Type) (g.fltOf b')) =
        f.peerIds.map fun b' =>
          fltOwn this (fun _ => f.isIpAddrAssigned.get) (rtTblName (props this).hdrL2Type (props b').hdrL2Type) (f.fltOf b') :=
      List.map_congr_left fun b' hb' => by rw [h.fltOf_of_ne fun heq => hb (heq ▸ hb')]
    rw [this]
    simp [fltOwn]
  have hintra : intraPart props this g = intraPart props this f := by
    have hc : g.clientInfo.map (clientIntra props this g) = f.clientInfo.map (clientIntra props this f) := by
      have hg : clientIntra props this g = clientIntra props this f := by
        funext c
        simp only [clientIntra, h.hdrProcCtxIntra]
      rw [hg]
      by_cases h0 : f.refCnt (props b).hdrL2Type = 0
      · exact (h.first h0).intra f
      · rw [(h.later h0).2]
    simp only [intraPart, h.supportIntra, h.hdrProcCtxIntra, h.intraInfo, hc, assigned, h.isIpAddrAssigned]
  rw [owned, owned, hflt, hintra, h.typesPart_eq (hf.refCnt_nonneg _) hok]
  abel

end Grown

/-- `f` with the peer `b` gone. -/
def shrunk (props : LanId → LanProps) (f : LanIface) (b : LanId) : LanIface :=
  { f with
    refCnt := (f.addRefCnt (props b).hdrL2Type (-1)).refCnt
    peerIfaceInfo := f.peerIfaceInfo.eraseP fun p => p.peer = b
    clientInfo := (f.addRefCnt (props b).hdrL2Type (-1)).clearedClients (props b).hdrL2Type }

section Shrunk

variable {b : LanId}

theorem clearedClients_map {β : Type} (g : ClientInfo → β) (t : HdrL2Type) (hg : ∀ c, g (resetRt t c) = g c) (f : LanIface) :
    (f.clearedClients t).map g = f.clientInfo.map g := by
  simp only [clearedClients]
  split
  · rw [List.map_map]
    exact List.map_congr_left fun c _ => hg c
  · rfl

theorem shrunk_macs (f : LanIface) (b : LanId) : (f.shrunk props b).macs = f.macs :=
  clearedClients_map (·.macAddr) _ (fun _ => rfl) _

theorem shrunk_peerIds (f : LanIface) (b : LanId) : (f.shrunk props b).peerIds = f.peerIds.erase b := by
  simp only [peerIds, shrunk, List.erase_eq_eraseP', List.eraseP_map]
  congr 1

theorem shrunk_fltOf {b' : LanId} (hne : b' ≠ b) : (f.shrunk props b).fltOf b' = f.fltOf b' := by
  simp only [fltOf, shrunk]
  induction f.peerIfaceInfo with
  | nil => rfl
  | cons p ps ih =>
    by_cases hb : p.peer = b
    · have : p.peer ≠ b' := fun h => hne (h.symm.trans hb)
      simp [hb, Ne.symm hne]
    · rw [List.eraseP_cons_of_neg (by simpa using hb)]
      by_cases hb' : p.peer = b'
      · simp [hb']
      · simpa [hb'] using ih

theorem shrunk_refCnt (hf : Local props this f) (hb : b ∈ f.peerIds) (t : HdrL2Type) :
    (f.shrunk props b).refCnt t = ((f.shrunk props b).peerIds.countP fun b' => (props b').hdrL2Type = t : Nat) := by
  have hperm := List.perm_cons_erase hb
  have hcount := hperm.countP_eq fun b' => decide ((props b').hdrL2Type = t)
  rw [List.countP_cons] at hcount
  rw [shrunk_peerIds]
  have href := hf.refCnt t
  rw [hcount] at href
  simp only [shrunk, addRefCnt]
  by_cases ht : (props b).hdrL2Type = t
  · subst ht
    simp only [decide_true, if_true] at href
    rw [Function.update_self, href]
    push_cast
    omega
  · simp only [ht, decide_false, if_false, Bool.false_eq_true, add_zero] at href
    rw [Function.update_of_ne (Ne.symm ht), href]

theorem shrunk_local (hf : Local props this f) (hb : b ∈ f.peerIds) : Local props this (f.shrunk props b) where
  hdr := hf.hdr
  assigned := hf.assigned
  supportInter := hf.supportInter
  supportIntra := hf.supportIntra
  peersNodup := by rw [shrunk_peerIds]; exact hf.peersNodup.erase b
  notSelf := by rw [shrunk_peerIds]; exact fun h => hf.notSelf (List.mem_of_mem_erase h)
  peersHdr := by rw [shrunk_peerIds]; exact fun b' h => hf.peersHdr b' (List.mem_of_mem_erase h)
  named := fun p hp => hf.named p (List.mem_of_mem_eraseP hp)
  refCnt := shrunk_refCnt hf hb
  clientsNodup := by rw [shrunk_macs]; exact hf.clientsNodup
  counted := by
    intro c hc b' hb'
    have hpos : 0 < (f.shrunk props b).refCnt (props b').hdrL2Type := by
      rw [shrunk_refCnt hf hb, Int.natCast_pos, List.countP_pos_iff]
      exact ⟨b', hb', by simp⟩
    rw [shrunk_peerIds] at hb'
    have hmem := List.mem_of_mem_erase hb'
    simp only [shrunk, clearedClients] at hc hpos
    split at hc
    next h0 =>
      obtain ⟨c₀, hc₀, rfl⟩ := List.mem_map.1 hc
      have hne : (props b').hdrL2Type ≠ (props b).hdrL2Type := fun heq => by
        rw [heq, h0] at hpos
        exact lt_irrefl 0 hpos
      simp only [resetRt, Function.update_of_ne hne]
      exact hf.counted c₀ hc₀ b' hmem
    next => exact hf.counted c hc b' hmem
  intraPeer := hf.intraPeer
  intraNamed := hf.intraNamed
  intraFlt := by rw [shrunk_macs]; exact hf.intraFlt
  intraCounted := by
    intro hi c hc
    simp only [shrunk, clearedClients] at hc
    split at hc
    next =>
      obtain ⟨c₀, hc₀, rfl⟩ := List.mem_map.1 hc
      exact hf.intraCounted hi c₀ hc₀
    next => exact hf.intraCounted hi c hc

/-- The filter rules for the clients of `b`, and those for the clients of the other peers. -/
theorem fltPart_shrunk (hnd : f.peerIds.Nodup) (hb : b ∈ f.peerIds) :
    fltPart props this f =
      fltOwn this (fun _ => f.assigned) (rtTblName (props this).hdrL2Type (props b).hdrL2Type) (f.fltOf b) +
        fltPart props this (f.shrunk props b) := by
  rw [fltPart, ((List.perm_cons_erase hb).map _).sum_eq, List.map_cons, List.sum_cons, fltPart, shrunk_peerIds]
  congr 2
  refine List.map_congr_left fun b' hb' => ?_
  have hne : b' ≠ b := fun heq => (List.Nodup.not_mem_erase hnd) (heq ▸ hb')
  rw [shrunk_fltOf hne]
  rfl

theorem intraPart_cleared (t : HdrL2Type) (r : HdrL2Type → Int) (ps : List PeerIfaceInfo) (g : LanIface)
    (hg : g.clientInfo = f.clientInfo) :
    intraPart props this { f with refCnt := r, peerIfaceInfo := ps, clientInfo := g.clearedClients t } =
      intraPart props this f := by
  have hc : (g.clearedClients t).map (clientIntra props this f) = f.clientInfo.map (clientIntra props this f) := by
    rw [clearedClients_map (clientIntra props this f) t (fun _ => rfl), hg]
  simp only [intraPart]
  split
  · have : (g.clearedClients t).map (clientIntra props this
        { f with refCnt := r, peerIfaceInfo := ps, clientInfo := g.clearedClients t }) =
        (g.clearedClients t).map (clientIntra props this f) := rfl
    rw [this, hc]
    rfl
  · rfl

/-- What an interface owns before and after it loses a peer. -/
theorem owned_shrunk (hf : Local props this f) (hb : b ∈ f.peerIds) :
    ∃ rest, owned props this f =
        fltOwn this (fun _ => f.assigned) (rtTblName (props this).hdrL2Type (props b).hdrL2Type) (f.fltOf b) +
          (typesPart props this f.refCnt f + rest) ∧
      owned props this (f.shrunk props b) =
        typesPart props this (f.addRefCnt (props b).hdrL2Type (-1)).refCnt
          { f with clientInfo := (f.addRefCnt (props b).hdrL2Type (-1)).clearedClients (props b).hdrL2Type } + rest := by
  have hintra : intraPart props this (f.shrunk props b) = intraPart props this f := intraPart_cleared _ _ _ _ rfl
  refine ⟨fltPart props this (f.shrunk props b) + intraPart props this f, ?_, ?_⟩
  · rw [owned, fltPart_shrunk hf.peersNodup hb]
    abel
  · rw [owned, hintra, add_comm (fltPart _ _ _), add_assoc]
    rfl

end Shrunk

/-- Without peers, only the intra-interface rules are left. -/
theorem owned_noPeers (hf : Local props this f) (h : f.peerIds = []) : owned props this f = intraPart props this f := by
  have h0 : ∀ t, f.refCnt t = 0 := fun t => by rw [hf.refCnt, h]; rfl
  simp [owned, fltPart, typesPart, h, h0]

/-- The deletion of the intra-interface rules. -/
theorem clearIntra_holds {d : BridgeDrv} {m : Installed} (hf : Local props this f) (h : f.peerIds = [])
    (hsi : f.supportIntra = true) (hd : Holds d (owned props this f + m)) :
    Holds ((f.clearAllRtRule props this f.intraInfo (f.clearAllFltRule f.intraInfo.fltRule d)).2.del
      (f.clearAllRtRule props this f.intraInfo (f.clearAllFltRule f.intraInfo.fltRule d)).1.hdrProcCtxIntra) m := by
  have h0 : f.refCnt (props this).hdrL2Type = 0 := by rw [hf.refCnt, h]; rfl
  have hp := hf.intraPeer hsi
  rw [owned_noPeers hf h, intraPart, if_pos hsi] at hd
  have hd₁ := clearAllFltRule_holds (f := f) (hd.of_eq (by rw [add_assoc, add_assoc, add_left_comm]))
  have hd₂ := Holds.each (f := delClientRtRule props this f.intraInfo) (p := clientIntra props this f) (q := fun _ => 0)
    (l := f.clientInfo) (fun c _ d m h => by
      rw [zero_add]
      exact delClientRtRule_intra hp h) (hd₁.of_eq (add_left_comm _ _ _))
  rw [List.map_const', List.sum_replicate, nsmul_zero, zero_add] at hd₂
  have heq : f.clearAllRtRule props this f.intraInfo (f.clearAllFltRule f.intraInfo.fltRule d) =
      ({ f with clientInfo := ((f.clearAllFltRule f.intraInfo.fltRule d).each
        (delClientRtRule props this f.intraInfo) f.clientInfo).1 },
        ((f.clearAllFltRule f.intraInfo.fltRule d).each (delClientRtRule props this f.intraInfo) f.clientInfo).2) := by
    rw [clearAllRtRule, hp, if_pos h0]
  rw [heq]
  exact hd₂.del

end LanIface
end HiaeCommon
