/-
An interface comes up in the LAN-to-LAN controller, for the first time or with
an address of the other family.
-/
import HiaeCommon.Ipacm.LanToLanRuns

namespace HiaeCommon

open Function (update)
open Lib (Handles Ledger)
open Lib.Ledger (Holds series)
open LanIface

namespace LanToLan

variable {H : Handles} {props : LanId → LanProps}

/-! ## One family more -/

/-- The rules of one family more for the clients `ms` of the peers; `asg` are the families
before. -/
theorem interFlt_holds {this : LanId} {f : LanIface} {ip : IpIndex} (asg : IpIndex → Bool) (ms : LanId → List MacAddr)
    (hip : asg ip = false) (hother : ∀ i, i ≠ ip → asg i = f.assigned i) (hnow : f.assigned ip = true)
    (hnd : f.peerIds.Nodup) (hnamed : Named props this f) (hms : ∀ b ∈ f.peerIds, (ms b).Nodup)
    (hflt : ∀ p ∈ f.peerIfaceInfo, (fltClients p.fltRule).Nodup ∧ (∀ m ∈ fltClients p.fltRule, m ∈ ms p.peer) ∧
      ∀ mac ∈ ms p.peer, mac ∉ fltClients p.fltRule → ∀ i, asg i = false)
    {d : BridgeDrv} {m : Installed} (hd : Holds d ((f.peerIfaceInfo.map fun p =>
      fltOwn this (fun _ => asg) (rtTblName (props this).hdrL2Type (props p.peer).hdrL2Type) p.fltRule).sum + m)) :
    ∃ l d', d.each (fun p => addAllClientFltRule H this ip (ms p.peer) p) f.peerIfaceInfo = (l, d') ∧
      l.map (·.peer) = f.peerIds ∧ Named props this { f with peerIfaceInfo := l } ∧
      (∀ p ∈ l, FltFor p.fltRule (ms p.peer)) ∧ Holds d' (fltPart props this { f with peerIfaceInfo := l } + m) := by
  obtain ⟨hrel, hd'⟩ := Holds.each_rel (f := fun p => addAllClientFltRule H this ip (ms p.peer) p)
    (R := fun p p' => ∃ l, p' = { p with fltRule := l } ∧ FltFor l (ms p.peer))
    (q := fun p => fltOwn this (fun _ => f.assigned) (rtTblName (props this).hdrL2Type (props p.peer).hdrL2Type) p.fltRule)
    (l := f.peerIfaceInfo) (fun p hp d m h => by
      obtain ⟨hpnd, hsub, hnew⟩ := hflt p hp
      rw [← (hnamed p hp).1] at h
      obtain ⟨l, hl, hlnd, hmem, hh⟩ := addAllClientFltRule_family (H := H) (f := f) asg p hip hother hnow
        (hms p.peer (List.mem_map_of_mem hp)) hpnd hsub hnew h
      refine ⟨⟨l, hl, hlnd, hmem⟩, ?_⟩
      rw [hl, ← (hnamed p hp).1]
      exact hh) hd
  have hmap := Ledger.map_of_forall₂ (fun q : PeerIfaceInfo => q.peer) (fun q : PeerIfaceInfo => q.peer) (fun p p' ⟨l, h, _⟩ => by rw [h]) hrel
  have hname' : Named props this { f with peerIfaceInfo :=
      (d.each (fun p => addAllClientFltRule H this ip (ms p.peer) p) f.peerIfaceInfo).1 } := fun p' hp' => by
    obtain ⟨p, hp, l, rfl, -⟩ := Ledger.exists_of_forall₂ hrel hp'
    exact hnamed p hp
  refine ⟨_, _, rfl, hmap, hname', fun p' hp' => ?_, hd'.of_eq ?_⟩
  · obtain ⟨p, hp, l, rfl, hl⟩ := Ledger.exists_of_forall₂ hrel hp'
    exact hl
  · rw [fltPart_eq props this (by rw [peerIds, hmap]; exact hnd)]
    rfl

/-- The interface with an address of one family more. -/
def withIp (f : LanIface) (ip : IpIndex) : LanIface := { f with isIpAddrAssigned := f.isIpAddrAssigned.set ip true }

theorem withIp_assigned (f : LanIface) (ip : IpIndex) :
    (withIp f ip).assigned ip = true ∧ ∀ i, i ≠ ip → f.assigned i = (withIp f ip).assigned i :=
  ⟨PerIp.get_set_self _ _ _, fun _ hi => (PerIp.get_set_of_ne _ hi _).symm⟩

theorem local_withIp {this : LanId} {f : LanIface} (h : Local props this f) (ip : IpIndex) {ps : List PeerIfaceInfo}
    {l : List FltRuleInfo} (hps : ps.map (·.peer) = f.peerIds) (hnamed : Named props this { f with peerIfaceInfo := ps })
    (hl : f.supportIntra = true → FltFor l f.macs) :
    Local props this { withIp f ip with peerIfaceInfo := ps, intraInfo := { f.intraInfo with fltRule := l } } where
  hdr := h.hdr
  assigned := by
    have := PerIp.get_set_self f.isIpAddrAssigned ip true
    cases ip with
    | v4 => exact .inl this
    | v6 => exact .inr this
  supportInter := h.supportInter
  supportIntra := h.supportIntra
  peersNodup := by
    simp only [peerIds, hps]
    exact h.peersNodup
  notSelf := by
    simp only [peerIds, hps]
    exact h.notSelf
  peersHdr := by
    simp only [peerIds, hps]
    exact h.peersHdr
  named := hnamed
  refCnt := by
    simp only [peerIds, hps]
    exact h.refCnt
  clientsNodup := h.clientsNodup
  counted := by
    simp only [peerIds, hps]
    exact h.counted
  intraPeer := h.intraPeer
  intraNamed := h.intraNamed
  intraFlt := hl
  intraCounted := h.intraCounted

/-- The rules between the interfaces, when an interface gets an address of a new family. -/
theorem interFlt_known {s : LanToLan} (h : Inv props s) {this : LanId} (ha : this ∈ s.mIface) {ip : IpIndex}
    (hip : (s.obj this).isIpAddrAssigned.get ip = false) {m : Installed}
    (hd : Holds s.drv (fltPart props this (s.obj this) + m)) :
    ∃ ps d, (if (s.obj this).supportInter then (s.setObj this (withIp (s.obj this) ip, s.drv)).addAllInterFltRule H this ip
        else s.setObj this (withIp (s.obj this) ip, s.drv)) =
        s.setObj this ({ withIp (s.obj this) ip with peerIfaceInfo := ps }, d) ∧
      ps.map (·.peer) = (s.obj this).peerIds ∧ Named props this { s.obj this with peerIfaceInfo := ps } ∧
      (∀ p ∈ ps, FltFor p.fltRule (s.obj p.peer).macs) ∧
      Holds d (fltPart props this { withIp (s.obj this) ip with peerIfaceInfo := ps } + m) := by
  have hf := h.loc this ha
  obtain ⟨hnow, hother⟩ := withIp_assigned (s.obj this) ip
  have hobj : ∀ b ∈ (s.obj this).peerIds, (s.setObj this (withIp (s.obj this) ip, s.drv)).obj b = s.obj b := fun b hb =>
    setObj_of_ne s (fun heq : b = this => hf.notSelf (heq ▸ hb)) _
  rw [fltPart_eq props this hf.peersNodup] at hd
  obtain ⟨ps, d, heach, hids, hnamed, hflt, hd'⟩ := interFlt_holds (H := H) (f := withIp (s.obj this) ip)
    (s.obj this).assigned (fun b => ((s.setObj this (withIp (s.obj this) ip, s.drv)).obj b).clientInfo.map (·.macAddr)) hip hother hnow
    hf.peersNodup hf.named (fun b hb => by
      rw [hobj b hb]
      exact (h.loc b (h.symm ha hb).1).clientsNodup) (fun p hp => by
      have hb : p.peer ∈ (s.obj this).peerIds := List.mem_map_of_mem hp
      obtain ⟨hnd, hmem⟩ := fltOf_of_mem hf.peersNodup hp ▸ h.flt this ha p.peer hb
      rw [hobj p.peer hb]
      exact ⟨hnd, fun m => (hmem m).1, fun m hm hn => absurd ((hmem m).2 hm) hn⟩) hd
  refine ⟨ps, d, ?_, hids, hnamed, fun p hp => ?_, hd'⟩
  · by_cases hsup : (s.obj this).supportInter = true
    · rw [if_pos hsup, addAllInterFltRule]
      simp only [setObj_self, setObj_drv, heach, setObj_setObj]
    · have hnil : (withIp (s.obj this) ip).peerIfaceInfo = [] := h.noPeers ha (Bool.eq_false_iff.2 hsup)
      rw [hnil] at heach
      cases heach
      rw [if_neg hsup, ← hnil]
  · have hb : p.peer ∈ (s.obj this).peerIds := hids ▸ List.mem_map_of_mem hp
    have := hflt p hp
    rw [hobj p.peer hb] at this
    exact this

/-- An interface that is there gets an address of a new family. -/
theorem handleIfaceUp_known {s : LanToLan} (h : Inv props s) {this : LanId} (ha : this ∈ s.mIface) (ip : IpIndex)
    (stack : MacAddr → ClientInfo) : Inv props (s.handleIfaceUp H props this ip stack) := by
  have hf := h.loc this ha
  simp only [handleIfaceUp, if_pos ha]
  cases hip : (s.obj this).isIpAddrAssigned.get ip with
  | true => exact h
  | false =>
  obtain ⟨m, hd, hinv⟩ := h.exchange ha
  have hset : FltSet this (s.obj this).peerIds (s.obj this).macs s s := ⟨rfl, fun _ _ => rfl, fun b hb =>
    ⟨_, (setFlt_fltOf (h.peersFit ha |>.loc b hb).peersNodup ((h.peersFit ha).mem b hb)).symm, (h.peersFit ha).flt b hb⟩⟩
  rw [owned, add_assoc, add_assoc] at hd
  obtain ⟨ps, d, hinter, hids, hnamed, hflt, hd'⟩ := interFlt_known (H := H) h ha hip hd
  have hfor : ∀ (l : List FltRuleInfo), ∀ b ∈ (s.obj this).peerIds, FltFor
      (({ withIp (s.obj this) ip with peerIfaceInfo := ps, intraInfo := { (s.obj this).intraInfo with fltRule := l } } :
        LanIface).fltOf b) (s.obj b).macs := fun l b hb => by
    rw [← hids] at hb
    obtain ⟨p, hp, rfl⟩ := List.mem_map.1 hb
    rw [fltOf_of_mem (by simpa only [peerIds, hids] using hf.peersNodup) hp]
    exact hflt p hp
  have hown : ∀ l, owned props this
      { withIp (s.obj this) ip with peerIfaceInfo := ps, intraInfo := { (s.obj this).intraInfo with fltRule := l } } =
      fltPart props this { withIp (s.obj this) ip with peerIfaceInfo := ps } +
        (typesPart props this (s.obj this).refCnt (s.obj this) + if (s.obj this).supportIntra then
          {((s.obj this).hdrProcCtxIntra, .hdrProcCtx this (props this).hdrL2Type)} +
            fltOwn this (fun _ => (withIp (s.obj this) ip).assigned) rtTblNameIntra l +
            ((s.obj this).clientInfo.map (clientIntra props this (s.obj this))).sum else 0) := fun l => add_assoc _ _ _
  rw [if_neg Bool.false_ne_true]
  simp only [withIp] at hinter
  rw [hinter]
  simp only [setObj_self, setObj_drv, setObj_setObj]
  by_cases hsi : (s.obj this).supportIntra = true
  · obtain ⟨hnow, hother⟩ := withIp_assigned (s.obj this) ip
    obtain ⟨hnd, hmem⟩ := hf.intraFlt hsi
    have hpn := (hf.intraNamed hsi).1
    rw [intraPart, if_pos hsi] at hd'
    obtain ⟨l, hl, hlnd, hlm, hd''⟩ := addAllClientFltRule_family (H := H) (f := withIp (s.obj this) ip)
      (s.obj this).assigned (s.obj this).intraInfo
      (m := fltPart props this { withIp (s.obj this) ip with peerIfaceInfo := ps } +
        (typesPart props this (s.obj this).refCnt (s.obj this) +
          ({((s.obj this).hdrProcCtxIntra, .hdrProcCtx this (props this).hdrL2Type)} +
            ((s.obj this).clientInfo.map (clientIntra props this (s.obj this))).sum +
            (ownedBy props s (s.obj this).peerIds + m))))
      hip hother hnow hf.clientsNodup hnd (fun m hm => (hmem m).1 hm) (fun mac hm hn => absurd ((hmem mac).2 hm) hn)
      (hd'.of_eq (by
        rw [hpn]
        abel))
    have hd₂ : Holds (addAllClientFltRule H this ip (s.obj this).macs (s.obj this).intraInfo d).2 (owned props this
        { withIp (s.obj this) ip with
          peerIfaceInfo := ps
          intraInfo := (addAllClientFltRule H this ip (s.obj this).macs (s.obj this).intraInfo d).1 } +
        (ownedBy props s (s.obj this).peerIds + m)) := hd''.of_eq (by
      rw [hl, hown, if_pos hsi, hpn]
      abel)
    have hloc := local_withIp hf ip (l := l) hids hnamed fun _ => ⟨hlnd, hlm⟩
    have hnew := hfor l
    rw [← hl] at hloc hnew
    rw [if_pos hsi]
    exact hinv s _ _ hset hloc hids hnew hd₂
  · rw [if_neg hsi]
    refine hinv s { withIp (s.obj this) ip with peerIfaceInfo := ps } d hset
      (local_withIp hf ip (l := (s.obj this).intraInfo.fltRule) hids hnamed fun hi => absurd hi hsi) hids
      (hfor (s.obj this).intraInfo.fltRule) (hd'.of_eq ?_)
    have h1 := hown (s.obj this).intraInfo.fltRule
    rw [if_neg hsi, add_zero] at h1
    rw [intraPart, if_neg hsi, zero_add, ← add_assoc, ← h1]
    rfl

/-! ## A new interface -/

/-- The two halves of what an interface does for a peer that has just come: the entry and the
context first, the rules of its clients at last. -/
theorem addClientRtRuleForNewIface_grown {this b : LanId} {f f₁ : LanIface} {ctx : HdrL2Type → Nat} (hne : b ≠ this)
    (hctx : ∀ t' ≠ (props b).hdrL2Type, ctx t' = f.hdrProcCtxInter t')
    (hctx0 : f.refCnt (props b).hdrL2Type ≠ 0 → ctx = f.hdrProcCtxInter)
    (hf₁ : f₁ = { f.addRefCnt (props b).hdrL2Type 1 with
      hdrProcCtxInter := ctx, peerIfaceInfo := newPeer props this b :: f.peerIfaceInfo }) {d : BridgeDrv} {m : Installed}
    (hd : Holds d ((if f.refCnt (props b).hdrL2Type = 0 then
      {(ctx (props b).hdrL2Type, .hdrProcCtx this (props b).hdrL2Type)} else 0) + m)) :
    Grown props this f (f₁.addClientRtRuleForNewIface H props this d).1 b ∧
      Holds (f₁.addClientRtRuleForNewIface H props this d).2
        (Grown.more props this f (f₁.addClientRtRuleForNewIface H props this d).1 b + m) := by
  have hr : f₁.refCnt (props b).hdrL2Type = f.refCnt (props b).hdrL2Type + 1 := by
    rw [hf₁]
    exact Function.update_self ..
  by_cases h0 : f.refCnt (props b).hdrL2Type = 0
  · have hname : (newPeer props this b).rtTblNameForRt =
        rtTblName (props (newPeer props this b).peer).hdrL2Type (props this).hdrL2Type := rfl
    have hps : f₁.peerIfaceInfo = newPeer props this b :: f.peerIfaceInfo := by rw [hf₁]
    obtain ⟨cs, he, hrt, hh⟩ := addClientRtRuleForNewIface_first (H := H) hps hne hname rfl
      (hr.trans (by rw [h0]; rfl)) d
    rw [if_pos h0] at hd
    have hgrown : Grown props this f { f₁ with clientInfo := cs } b := by
      subst hf₁
      exact ⟨rfl, hctx, fun h => absurd h0 h, fun _ => hrt⟩
    rw [he]
    refine ⟨hgrown, (hh _ hd).of_eq ?_⟩
    rw [Grown.more, if_pos h0, typePart]
    subst hf₁
    rw [← add_assoc, add_comm (List.sum _)]
    rfl
  · have he : f₁.addClientRtRuleForNewIface H props this d = (f₁, d) := by
      have hps : f₁.peerIfaceInfo = newPeer props this b :: f.peerIfaceInfo := by rw [hf₁]
      have h1 : ¬f₁.refCnt (props (newPeer props this b).peer).hdrL2Type = 1 := by
        simp only [newPeer, hr]
        omega
      simp only [addClientRtRuleForNewIface, hps, if_neg h1]
    rw [if_neg h0] at hd
    rw [he, Grown.more, if_neg h0]
    refine ⟨?_, hd⟩
    subst hf₁
    exact ⟨rfl, hctx, fun h => ⟨hctx0 h, rfl⟩, fun h => absurd h h0⟩

/-- The new interface has no clients yet. -/
theorem handleNewIfaceUp_grown (props : LanId → LanProps) (nw b : LanId) {f : LanIface} (hc : f.clientInfo = []) (d : BridgeDrv) :
    ∃ g d', f.handleNewIfaceUp H props nw (rtTblName (props nw).hdrL2Type (props b).hdrL2Type)
        (rtTblName (props b).hdrL2Type (props nw).hdrL2Type) b d = (g, d') ∧
      Grown props nw f g b ∧ g.clientInfo = [] ∧ ∀ m, Holds d m → Holds d' (Grown.more props nw f g b + m) := by
  obtain ⟨ctx, hctx, hctx0, he, hh⟩ := handleNewIfaceUp_eq (H := H) (t := (props b).hdrL2Type) nw f
    (rtTblName (props nw).hdrL2Type (props b).hdrL2Type) (rtTblName (props b).hdrL2Type (props nw).hdrL2Type) rfl d
  have hrt : WithRt props nw (props b).hdrL2Type f.clientInfo [] := by
    rw [hc]
    exact ⟨rfl, fun _ _ _ => rfl, fun _ => rfl, fun _ h => absurd h List.not_mem_nil, fun _ h => absurd h List.not_mem_nil⟩
  have hgrown : Grown props nw f { f.addRefCnt (props b).hdrL2Type 1 with
      hdrProcCtxInter := ctx, peerIfaceInfo := newPeer props nw b :: f.peerIfaceInfo } b :=
    ⟨rfl, hctx, fun h => ⟨hctx0 h, rfl⟩, fun _ => by
      simp only [addRefCnt, hc]
      rw [hc] at hrt
      exact hrt⟩
  refine ⟨_, _, Prod.ext he rfl, hgrown, hc, fun m hd => (hh m hd).of_eq ?_⟩
  by_cases h0 : f.refCnt (props b).hdrL2Type = 0
  · rw [Grown.more, if_pos h0, if_pos h0, typePart]
    simp [addRefCnt, hc]
  · rw [Grown.more, if_neg h0, if_neg h0]

/-- One round of the loop over the interfaces that are there. -/
theorem newIfacePeer_holds {s : LanToLan} {nw exist : LanId} (hne : exist ≠ nw) (hx : Local props exist (s.obj exist))
    (hnot : nw ∉ (s.obj exist).peerIds) (hhdr : (props nw).hdrL2Type = .ethernetII ∨ (props nw).hdrL2Type = .ieee8023)
    (hc : (s.obj nw).clientInfo = []) (hnn : 0 ≤ (s.obj nw).refCnt (props exist).hdrL2Type) {m : Installed}
    (hd : Holds s.drv (typesPart props nw (s.obj nw).refCnt (s.obj nw) + (owned props exist (s.obj exist) + m))) :
    (∀ x, x ≠ nw → x ≠ exist → (newIfacePeer H props nw s exist).obj x = s.obj x) ∧
      Grown props exist (s.obj exist) ((newIfacePeer H props nw s exist).obj exist) nw ∧
      Grown props nw (s.obj nw) ((newIfacePeer H props nw s exist).obj nw) exist ∧
      ((newIfacePeer H props nw s exist).obj nw).clientInfo = [] ∧
      Holds (newIfacePeer H props nw s exist).drv (typesPart props nw ((newIfacePeer H props nw s exist).obj nw).refCnt
        ((newIfacePeer H props nw s exist).obj nw) + (owned props exist ((newIfacePeer H props nw s exist).obj exist) + m)) := by
  obtain ⟨ctx, hctx, hctx0, he, hh⟩ := handleNewIfaceUp_eq (H := H) (t := (props nw).hdrL2Type) exist (s.obj exist)
    (rtTblName (props exist).hdrL2Type (props nw).hdrL2Type) (rtTblName (props nw).hdrL2Type (props exist).hdrL2Type) rfl s.drv
  obtain ⟨g, d₂, hg, hgrown, hgc, hh₂⟩ := handleNewIfaceUp_grown (H := H) props nw exist hc
    ((s.obj exist).handleNewIfaceUp H props exist (rtTblName (props exist).hdrL2Type (props nw).hdrL2Type)
      (rtTblName (props nw).hdrL2Type (props exist).hdrL2Type) nw s.drv).2
  obtain ⟨hgrown', hd₃⟩ := addClientRtRuleForNewIface_grown (H := H) (Ne.symm hne) hctx hctx0 he
    ((hh₂ _ (hh _ hd)).of_eq (add_left_comm _ _ _))
  have hstep : newIfacePeer H props nw s exist =
      ((s.setObj exist ((s.obj exist).handleNewIfaceUp H props exist (rtTblName (props exist).hdrL2Type (props nw).hdrL2Type)
        (rtTblName (props nw).hdrL2Type (props exist).hdrL2Type) nw s.drv)).setObj nw (g, d₂)).setObj exist
        (((s.obj exist).handleNewIfaceUp H props exist (rtTblName (props exist).hdrL2Type (props nw).hdrL2Type)
          (rtTblName (props nw).hdrL2Type (props exist).hdrL2Type) nw s.drv).1.addClientRtRuleForNewIface H props exist d₂) := by
    simp only [newIfacePeer, setObj_of_ne _ (Ne.symm hne), setObj_of_ne _ hne, setObj_self, setObj_drv, hg]
  rw [hstep]
  simp only [setObj_self, setObj_of_ne _ (Ne.symm hne), setObj_drv]
  refine ⟨fun x hxn hxe => ?_, hgrown', hgrown, hgc, hd₃.of_eq ?_⟩
  · rw [setObj_of_ne _ hxe, setObj_of_ne _ hxn, setObj_of_ne _ hxe]
  · rw [hgrown.typesPart_eq hnn hx.hdr, hgrown'.owned_eq hx hnot hhdr]
    abel

/-- The new interface, which was `f₀`, while it gets its peers. -/
structure Fresh (props : LanId → LanProps) (nw : LanId) (f₀ f : LanIface) : Prop where
  eq : f = { f₀ with refCnt := f.refCnt, hdrProcCtxInter := f.hdrProcCtxInter, peerIfaceInfo := f.peerIfaceInfo, clientInfo := [] }
  nodup : f.peerIds.Nodup
  refCnt : ∀ t, f.refCnt t = (f.peerIds.countP fun b => (props b).hdrL2Type = t : Nat)
  peer : ∀ p ∈ f.peerIfaceInfo, p = newPeer props nw p.peer

theorem Fresh.refCnt_nonneg {nw : LanId} {f₀ f : LanIface} (h : Fresh props nw f₀ f) (t : HdrL2Type) : 0 ≤ f.refCnt t := by
  rw [h.refCnt]
  exact Int.natCast_nonneg _

theorem Fresh.grown {nw b : LanId} {f₀ f g : LanIface} (h : Fresh props nw f₀ f) (hg : Grown props nw f g b)
    (hc : g.clientInfo = []) (hb : b ∉ f.peerIds) : Fresh props nw f₀ g where
  eq := by
    conv_lhs => rw [hg.eq, h.eq]
    conv_rhs => rw [hg.eq]
    rw [hc]
    rfl
  nodup := by
    rw [hg.peerIds]
    exact List.nodup_cons.2 ⟨hb, h.nodup⟩
  refCnt := by
    intro t
    rw [hg.refCnt, h.refCnt, hg.peerIds, List.countP_cons]
    by_cases ht : (props b).hdrL2Type = t <;> simp [ht]
  peer := by
    have hps : g.peerIfaceInfo = newPeer props nw b :: f.peerIfaceInfo := by rw [hg.eq]
    rw [hps]
    exact List.forall_mem_cons.2 ⟨rfl, h.peer⟩

/-- The loop over the interfaces that are there. -/
theorem newIfacePeer_foldl {nw : LanId} {f₀ : LanIface}
    (hhdr : (props nw).hdrL2Type = .ethernetII ∨ (props nw).hdrL2Type = .ieee8023) :
    ∀ (bs : List LanId) {s : LanToLan} {m : Installed}, bs.Nodup → nw ∉ bs → (∀ b ∈ bs, Local props b (s.obj b)) →
      (∀ b ∈ bs, nw ∉ (s.obj b).peerIds) → Fresh props nw f₀ (s.obj nw) → (∀ b ∈ bs, b ∉ (s.obj nw).peerIds) →
      Holds s.drv (typesPart props nw (s.obj nw).refCnt (s.obj nw) + (ownedBy props s bs + m)) →
      (∀ x, x ≠ nw → x ∉ bs → (bs.foldl (newIfacePeer H props nw) s).obj x = s.obj x) ∧
        (∀ b ∈ bs, Grown props b (s.obj b) ((bs.foldl (newIfacePeer H props nw) s).obj b) nw) ∧
        Fresh props nw f₀ ((bs.foldl (newIfacePeer H props nw) s).obj nw) ∧
        (∀ b, b ∈ ((bs.foldl (newIfacePeer H props nw) s).obj nw).peerIds ↔ b ∈ bs ∨ b ∈ (s.obj nw).peerIds) ∧
        Holds (bs.foldl (newIfacePeer H props nw) s).drv (typesPart props nw
          ((bs.foldl (newIfacePeer H props nw) s).obj nw).refCnt ((bs.foldl (newIfacePeer H props nw) s).obj nw) +
          (ownedBy props (bs.foldl (newIfacePeer H props nw) s) bs + m)) := by
  intro bs
  induction bs with
  | nil =>
    intro s m _ _ _ _ hfresh _ hd
    exact ⟨fun _ _ _ => rfl, fun _ h => absurd h List.not_mem_nil, hfresh, fun b => by simp, hd⟩
  | cons b bs ih =>
    intro s m hnd hnw hloc hnot hfresh hnew hd
    obtain ⟨hb, hbs⟩ := List.nodup_cons.1 hnd
    rw [List.mem_cons, not_or] at hnw
    obtain ⟨hlb, hlbs⟩ := List.forall_mem_cons.1 hloc
    obtain ⟨hnb, hnbs⟩ := List.forall_mem_cons.1 hnot
    obtain ⟨hwb, hwbs⟩ := List.forall_mem_cons.1 hnew
    rw [ownedBy_cons, add_assoc] at hd
    have hc : (s.obj nw).clientInfo = [] := by rw [hfresh.eq]
    obtain ⟨hframe, hgb, hgn, hgc, hd'⟩ := newIfacePeer_holds (H := H) (Ne.symm hnw.1) hlb hnb hhdr hc
      (hfresh.refCnt_nonneg _) hd
    have hsame : ∀ x ∈ bs, (newIfacePeer H props nw s b).obj x = s.obj x := fun x hx =>
      hframe x (fun heq => hnw.2 (heq ▸ hx)) fun heq => hb (heq ▸ hx)
    obtain ⟨hframe', hgrown, hfresh', hids, hd''⟩ := ih (s := newIfacePeer H props nw s b)
      (m := owned props b ((newIfacePeer H props nw s b).obj b) + m) hbs hnw.2 (fun x hx => hsame x hx ▸ hlbs x hx)
      (fun x hx => hsame x hx ▸ hnbs x hx) (hfresh.grown hgn hgc hwb)
      (fun x hx => by
        rw [hgn.peerIds, List.mem_cons, not_or]
        exact ⟨fun heq => hb (heq ▸ hx), hwbs x hx⟩)
      (hd'.of_eq (by
        rw [ownedBy_congr _ s hsame]
        abel))
    have hbobj := hframe' b (Ne.symm hnw.1) hb
    rw [List.foldl_cons]
    refine ⟨fun x hx hxb => ?_, List.forall_mem_cons.2 ⟨?_, fun x hx => ?_⟩, hfresh', fun x => ?_, hd''.of_eq ?_⟩
    · rw [List.mem_cons, not_or] at hxb
      rw [hframe' x hx hxb.2, hframe x hx hxb.1]
    · rw [hbobj]
      exact hgb
    · rw [← hsame x hx]
      exact hgrown x hx
    · rw [hids, hgn.peerIds, List.mem_cons, List.mem_cons, or_left_comm, or_assoc]
    · rw [ownedBy_cons, hbobj]
      abel

theorem foldl_newIfacePeer_mIface (nw : LanId) (bs : List LanId) (s : LanToLan) :
    (bs.foldl (newIfacePeer H props nw) s).mIface = s.mIface := by
  induction bs generalizing s with
  | nil => rfl
  | cons b bs ih => rw [List.foldl_cons, ih]; rfl

/-- A new interface, `f₀`, once it has its peers `bs` and the filter rules for their clients. -/
structure Joined (props : LanId → LanProps) (nw : LanId) (f₀ : LanIface) (bs : List LanId) (s s' : LanToLan) : Prop where
  mIface : s'.mIface = s.mIface
  frame : ∀ x, x ≠ nw → x ∉ bs → s'.obj x = s.obj x
  grown : ∀ b ∈ bs, Grown props b (s.obj b) (s'.obj b) nw
  eq : s'.obj nw = { f₀ with
    refCnt := (s'.obj nw).refCnt, hdrProcCtxInter := (s'.obj nw).hdrProcCtxInter, peerIfaceInfo := (s'.obj nw).peerIfaceInfo
    clientInfo := [] }
  nodup : (s'.obj nw).peerIds.Nodup
  refCnt : ∀ t, (s'.obj nw).refCnt t = ((s'.obj nw).peerIds.countP fun b => (props b).hdrL2Type = t : Nat)
  ids : ∀ b, b ∈ (s'.obj nw).peerIds ↔ b ∈ bs
  named : Named props nw (s'.obj nw)
  flt : ∀ b ∈ bs, FltFor ((s'.obj nw).fltOf b) (s.obj b).macs

/-- The rules of the new interface for the clients of its peers. -/
theorem joined_addAllInterFltRule {s : LanToLan} {nw : LanId} {bs : List LanId} {ip : IpIndex}
    (hhdr : (props nw).hdrL2Type = .ethernetII ∨ (props nw).hdrL2Type = .ieee8023) (hnd : bs.Nodup) (hnw : nw ∉ bs)
    (hloc : ∀ b ∈ bs, Local props b (s.obj b)) (hnot : ∀ b ∈ bs, nw ∉ (s.obj b).peerIds)
    (hobj : s.obj nw = withIp (new props nw) ip) {m : Installed} (hd : Holds s.drv (ownedBy props s bs + m)) :
    Joined props nw (s.obj nw) bs s ((bs.foldl (newIfacePeer H props nw) s).addAllInterFltRule H nw ip) ∧
      Holds ((bs.foldl (newIfacePeer H props nw) s).addAllInterFltRule H nw ip).drv
        (fltPart props nw (((bs.foldl (newIfacePeer H props nw) s).addAllInterFltRule H nw ip).obj nw) +
          (typesPart props nw (((bs.foldl (newIfacePeer H props nw) s).addAllInterFltRule H nw ip).obj nw).refCnt
            (((bs.foldl (newIfacePeer H props nw) s).addAllInterFltRule H nw ip).obj nw) +
            (ownedBy props ((bs.foldl (newIfacePeer H props nw) s).addAllInterFltRule H nw ip) bs + m))) := by
  have hfresh : Fresh props nw (s.obj nw) (s.obj nw) := by
    rw [hobj]
    exact ⟨rfl, List.nodup_nil, fun _ => rfl, fun _ h => absurd h List.not_mem_nil⟩
  have hempty : (s.obj nw).peerIds = [] := by rw [hobj]; rfl
  have htypes : typesPart props nw (s.obj nw).refCnt (s.obj nw) = 0 := by
    rw [hobj]
    rfl
  obtain ⟨hframe, hgrown, hfresh', hids, hd'⟩ := newIfacePeer_foldl (H := H) hhdr bs hnd hnw hloc hnot hfresh
    (fun b _ => by rw [hempty]; exact List.not_mem_nil) (hd.of_eq (by rw [htypes, zero_add]))
  have hne : ∀ b ∈ bs, b ≠ nw := fun b hb heq => hnw (heq ▸ hb)
  have hasg : ((bs.foldl (newIfacePeer H props nw) s).obj nw).assigned = (withIp (new props nw) ip).assigned := by
    rw [hfresh'.eq, hobj]
    rfl
  have hflt : ∀ p ∈ ((bs.foldl (newIfacePeer H props nw) s).obj nw).peerIfaceInfo, p.fltRule = [] := fun p hp => by
    rw [hfresh'.peer p hp]
    rfl
  have hnamed : Named props nw ((bs.foldl (newIfacePeer H props nw) s).obj nw) := fun p hp => by
    rw [hfresh'.peer p hp]
    exact ⟨rfl, rfl⟩
  have hsum : (((bs.foldl (newIfacePeer H props nw) s).obj nw).peerIfaceInfo.map fun p =>
      fltOwn nw (fun _ _ => false) (rtTblName (props nw).hdrL2Type (props p.peer).hdrL2Type) p.fltRule).sum = 0 := by
    refine List.sum_eq_zero fun x hx => ?_
    obtain ⟨p, hp, rfl⟩ := List.mem_map.1 hx
    rw [hflt p hp]
    rfl
  obtain ⟨hnow, hother⟩ := withIp_assigned (new props nw) ip
  obtain ⟨ps, d, heach, hpids, hpnamed, hpflt, hd''⟩ := interFlt_holds (H := H)
    (f := (bs.foldl (newIfacePeer H props nw) s).obj nw) (fun _ => false)
    (fun b => ((bs.foldl (newIfacePeer H props nw) s).obj b).clientInfo.map (·.macAddr)) rfl
    (fun i hi => by
      rw [hasg, ← hother i hi]
      cases i <;> rfl)
    (hasg ▸ hnow) hfresh'.nodup hnamed (fun b hb => by
      have hb := (hids b).1 hb
      rw [hempty, or_iff_left List.not_mem_nil] at hb
      have := (hgrown b hb).macs
      simp only [macs] at this
      rw [this]
      exact (hloc b hb).clientsNodup)
    (fun p hp => by
      rw [hflt p hp]
      exact ⟨List.nodup_nil, fun _ h => absurd h List.not_mem_nil, fun _ _ _ _ => rfl⟩)
    (hd'.of_eq (by rw [hsum, zero_add]))
  have heq : (bs.foldl (newIfacePeer H props nw) s).addAllInterFltRule H nw ip =
      (bs.foldl (newIfacePeer H props nw) s).setObj nw
        ({ (bs.foldl (newIfacePeer H props nw) s).obj nw with peerIfaceInfo := ps }, d) := by
    rw [addAllInterFltRule]
    simp only [heach]
  rw [heq]
  have hmem : ∀ b, b ∈ (({ (bs.foldl (newIfacePeer H props nw) s).obj nw with peerIfaceInfo := ps } : LanIface)).peerIds ↔
      b ∈ bs := fun b => by
    rw [peerIds, hpids, hids, hempty, or_iff_left List.not_mem_nil]
  have hpnd : (({ (bs.foldl (newIfacePeer H props nw) s).obj nw with peerIfaceInfo := ps } : LanIface)).peerIds.Nodup := by
    rw [peerIds, hpids]
    exact hfresh'.nodup
  refine ⟨⟨foldl_newIfacePeer_mIface nw bs s, fun x hx hxb => ?_, fun b hb => ?_, ?_, ?_, fun t => ?_, fun b => ?_, ?_,
    fun b hb => ?_⟩, ?_⟩
  · rw [setObj_of_ne _ hx, hframe x hx hxb]
  · rw [setObj_of_ne _ (hne b hb)]
    exact hgrown b hb
  · rw [setObj_self]
    conv_lhs => rw [hfresh'.eq]
  · rw [setObj_self]
    exact hpnd
  · rw [setObj_self, peerIds, hpids]
    exact hfresh'.refCnt t
  · rw [setObj_self]
    exact hmem b
  · rw [setObj_self]
    exact hpnamed
  · rw [setObj_self]
    obtain ⟨p, hp, rfl⟩ := List.mem_map.1 ((hmem b).2 hb)
    rw [fltOf_of_mem hpnd hp, ← (hgrown p.peer hb).macs]
    exact hpflt p hp
  · rw [setObj_self, setObj_drv, ownedBy_congr _ _ fun b hb => setObj_of_ne _ (hne b hb) _]
    exact hd''

/-- The new interface by itself, once its intra-interface fields are set. -/
theorem local_joined {s s' : LanToLan} {nw : LanId} {bs : List LanId} {ip : IpIndex}
    (hhdr : (props nw).hdrL2Type = .ethernetII ∨ (props nw).hdrL2Type = .ieee8023) (hnw : nw ∉ bs)
    (hbs : ∀ b ∈ bs, (props b).hdrL2Type = .ethernetII ∨ (props b).hdrL2Type = .ieee8023)
    (hj : Joined props nw (withIp (new props nw) ip) bs s s') {i : PeerIfaceInfo} {h : Nat}
    (hi : (new props nw).supportIntra = true → i = ⟨nw, rtTblNameIntra, rtTblNameIntra, []⟩) :
    Local props nw { s'.obj nw with intraInfo := i, hdrProcCtxIntra := h } where
  hdr := hhdr
  assigned := by
    rw [hj.eq]
    have := PerIp.get_set_self (new props nw).isIpAddrAssigned ip true
    cases ip with
    | v4 => exact .inl this
    | v6 => exact .inr this
  supportInter := by
    rw [hj.eq]
    rfl
  supportIntra := by
    rw [hj.eq]
    rfl
  peersNodup := hj.nodup
  notSelf := fun hm => hnw ((hj.ids nw).1 hm)
  peersHdr := fun b hb => hbs b ((hj.ids b).1 hb)
  named := hj.named
  refCnt := hj.refCnt
  clientsNodup := by
    rw [hj.eq]
    exact List.nodup_nil
  counted := by
    rw [hj.eq]
    exact fun _ h => absurd h List.not_mem_nil
  intraPeer := by
    rw [hj.eq]
    intro hs
    rw [hi hs]
  intraNamed := by
    rw [hj.eq]
    intro hs
    rw [hi hs]
    exact ⟨rfl, rfl⟩
  intraFlt := by
    rw [hj.eq]
    intro hs
    rw [hi hs]
    exact ⟨List.nodup_nil, fun _ => Iff.rfl⟩
  intraCounted := by
    rw [hj.eq]
    exact fun _ _ h => absurd h List.not_mem_nil

/-- A new interface joins the others. -/
theorem Inv.join {s s' : LanToLan} (h : Inv props s) {nw : LanId} (hnw : nw ∉ s.mIface) {bs rest : List LanId} {ip : IpIndex}
    (hperm : s.mIface.Perm (bs ++ rest)) (hdisj : ∀ x ∈ rest, x ∉ bs)
    (hbs : ∀ b, b ∈ bs ↔ b ∈ s.mIface ∧ (new props nw).supportInter = true ∧ (s.obj b).supportInter = true)
    (hhdr : (props nw).hdrL2Type = .ethernetII ∨ (props nw).hdrL2Type = .ieee8023)
    (hj : Joined props nw (withIp (new props nw) ip) bs
      { s with mIface := nw :: s.mIface, obj := update s.obj nw (withIp (new props nw) ip) } s')
    {i : PeerIfaceInfo} {k : Nat}
    (hi : (new props nw).supportIntra = true → i = ⟨nw, rtTblNameIntra, rtTblNameIntra, []⟩) {d : BridgeDrv}
    (hd : Holds d (owned props nw { s'.obj nw with intraInfo := i, hdrProcCtxIntra := k } +
      (ownedBy props s' bs + ownedBy props s rest))) :
    Inv props (s'.setObj nw ({ s'.obj nw with intraInfo := i, hdrProcCtxIntra := k }, d)) := by
  have hmem : ∀ b ∈ bs, b ∈ s.mIface := fun b hb => ((hbs b).1 hb).1
  have hnwbs : nw ∉ bs := fun hb => hnw (hmem nw hb)
  have hne : ∀ x ∈ s.mIface, x ≠ nw := fun x hx heq => hnw (heq ▸ hx)
  have hloc := local_joined (h := k) hhdr hnwbs (fun b hb => (h.loc b (hmem b hb)).hdr) hj hi
  have hobj : ∀ x ∈ s.mIface,
      x ∈ bs ∧ Grown props x (s.obj x) ((s'.setObj nw ({ s'.obj nw with intraInfo := i, hdrProcCtxIntra := k }, d)).obj x) nw ∨
      x ∉ bs ∧ (s'.setObj nw ({ s'.obj nw with intraInfo := i, hdrProcCtxIntra := k }, d)).obj x = s.obj x := fun x hx => by
    rw [setObj_of_ne _ (hne x hx)]
    by_cases hxb : x ∈ bs
    · have := hj.grown x hxb
      simp only [Function.update_of_ne (hne x hx)] at this
      exact .inl ⟨hxb, this⟩
    · have := hj.frame x (hne x hx) hxb
      simp only [Function.update_of_ne (hne x hx)] at this
      exact .inr ⟨hxb, this⟩
  have hsame : ∀ x ∈ s.mIface,
      ((s'.setObj nw ({ s'.obj nw with intraInfo := i, hdrProcCtxIntra := k }, d)).obj x).supportInter =
        (s.obj x).supportInter ∧
      ((s'.setObj nw ({ s'.obj nw with intraInfo := i, hdrProcCtxIntra := k }, d)).obj x).macs = (s.obj x).macs :=
    fun x hx => by
      obtain ⟨-, hg⟩ | ⟨-, ho⟩ := hobj x hx
      · exact ⟨hg.supportInter, hg.macs⟩
      · rw [ho]
        exact ⟨rfl, rfl⟩
  have hsupnw : ((s'.setObj nw ({ s'.obj nw with intraInfo := i, hdrProcCtxIntra := k }, d)).obj nw).supportInter =
      (new props nw).supportInter := by
    rw [setObj_self]
    exact hloc.supportInter
  have hmI : (s'.setObj nw ({ s'.obj nw with intraInfo := i, hdrProcCtxIntra := k }, d)).mIface = nw :: s.mIface := hj.mIface
  have hnotpeer : ∀ x ∈ s.mIface, nw ∉ (s.obj x).peerIds := fun x hx hm => hnw (h.symm hx hm).1
  refine ⟨?_, fun x hx => ?_, fun x hx b => ?_, fun x hx b hb => ?_, ?_⟩
  · rw [hmI]
    exact List.nodup_cons.2 ⟨hnw, h.nodup⟩
  · rw [hmI] at hx
    cases List.mem_cons.1 hx with
    | inl hx =>
      rw [hx, setObj_self]
      exact hloc
    | inr hx =>
      obtain ⟨-, hg⟩ | ⟨-, ho⟩ := hobj x hx
      · exact hg.toLocal (h.loc x hx) (hnotpeer x hx) (Ne.symm (hne x hx)) hhdr
      · exact ho ▸ h.loc x hx
  · rw [hmI] at hx ⊢
    cases List.mem_cons.1 hx with
    | inl hx =>
      subst hx
      rw [hsupnw, setObj_self]
      refine (hj.ids b).trans ((hbs b).trans ⟨fun ⟨hb, hs, hsb⟩ => ?_, fun ⟨hb, hbx, hs, hsb⟩ => ?_⟩)
      · exact ⟨List.mem_cons_of_mem _ hb, hne b hb, hs, (hsame b hb).1.trans hsb⟩
      · have hb := (List.mem_cons.1 hb).resolve_left hbx
        exact ⟨hb, hs, (hsame b hb).1.symm.trans hsb⟩
    | inr hxm =>
      rw [(hsame x hxm).1]
      by_cases hbn : b = nw
      · subst hbn
        rw [hsupnw]
        obtain ⟨hxb, hg⟩ | ⟨hxb, ho⟩ := hobj x hxm
        · rw [hg.peerIds]
          obtain ⟨-, hs, hsx⟩ := (hbs x).1 hxb
          exact iff_of_true (List.mem_cons_self ..) ⟨List.mem_cons_self .., Ne.symm (hne x hxm), hsx, hs⟩
        · rw [ho]
          exact iff_of_false (hnotpeer x hxm) fun ⟨_, _, hsx, hs⟩ => hxb ((hbs x).2 ⟨hxm, hs, hsx⟩)
      · have hids : b ∈ ((s'.setObj nw ({ s'.obj nw with intraInfo := i, hdrProcCtxIntra := k }, d)).obj x).peerIds ↔
            b ∈ (s.obj x).peerIds := by
          obtain ⟨-, hg⟩ | ⟨-, ho⟩ := hobj x hxm
          · rw [hg.peerIds, List.mem_cons, or_iff_right hbn]
          · rw [ho]
        rw [hids, h.peers x hxm b, List.mem_cons, or_iff_right hbn]
        refine ⟨fun ⟨hb, hbx, hs, hsb⟩ => ⟨hb, hbx, hs, ?_⟩, fun ⟨hb, hbx, hs, hsb⟩ => ⟨hb, hbx, hs, ?_⟩⟩
        · rw [(hsame b hb).1]
          exact hsb
        · rwa [(hsame b hb).1] at hsb
  · rw [hmI] at hx
    cases List.mem_cons.1 hx with
    | inl he =>
      subst he
      rw [setObj_self] at hb ⊢
      have hbb := (hj.ids b).1 hb
      have := hj.flt b hbb
      simp only [Function.update_of_ne (hne b (hmem b hbb))] at this
      rw [(hsame b (hmem b hbb)).2]
      exact this
    | inr hxm =>
      by_cases hbn : b = nw
      · subst hbn
        obtain ⟨-, hg⟩ | ⟨-, ho⟩ := hobj x hxm
        · have hmacs : ((s'.setObj b ({ s'.obj b with intraInfo := i, hdrProcCtxIntra := k }, d)).obj b).macs = [] := by
            rw [setObj_self, hj.eq]
            rfl
          rw [hg.fltOf_self, hmacs]
          exact ⟨List.nodup_nil, fun _ => Iff.rfl⟩
        · rw [ho] at hb
          exact absurd hb (hnotpeer x hxm)
      · have hold : b ∈ (s.obj x).peerIds ∧ ((s'.setObj nw ({ s'.obj nw with intraInfo := i, hdrProcCtxIntra := k }, d)).obj
            x).fltOf b = (s.obj x).fltOf b := by
          obtain ⟨-, hg⟩ | ⟨-, ho⟩ := hobj x hxm
          · rw [hg.peerIds, List.mem_cons, or_iff_right hbn] at hb
            exact ⟨hb, hg.fltOf_of_ne hbn⟩
          · rw [ho] at hb ⊢
            exact ⟨hb, rfl⟩
        rw [hold.2, (hsame b (h.symm hxm hold.1).1).2]
        exact h.flt x hxm b hold.1
  · have hrest : ∀ x ∈ rest, (s'.setObj nw ({ s'.obj nw with intraInfo := i, hdrProcCtxIntra := k }, d)).obj x = s.obj x :=
      fun x hx => by
        have hxm : x ∈ s.mIface := hperm.mem_iff.2 (List.mem_append_right _ hx)
        obtain ⟨hxb, -⟩ | ⟨-, ho⟩ := hobj x hxm
        · exact absurd hxb (hdisj x hx)
        · exact ho
    rw [hmI, ownedBy_cons, ownedBy_perm hperm, ownedBy_append, ownedBy_congr _ s hrest, setObj_self, setObj_drv,
      ownedBy_congr _ s' fun b hb => setObj_of_ne s' (hne b (hmem b hb)) _]
    exact hd

/-- The peers of a new interface, and their filter rules on it. -/
theorem newIface_peers {s : LanToLan} (h : Inv props s) {nw : LanId} (hnw : nw ∉ s.mIface) (ip : IpIndex)
    (hhdr : (props nw).hdrL2Type = .ethernetII ∨ (props nw).hdrL2Type = .ieee8023) {s₁ : LanToLan}
    (hs₁ : s₁ = { s with mIface := nw :: s.mIface, obj := update s.obj nw (withIp (new props nw) ip) }) :
    ∃ s₂ bs rest, (if (withIp (new props nw) ip).supportInter then
        ((s.mIface.filter fun b => (s₁.obj b).supportInter).foldl (newIfacePeer H props nw) s₁).addAllInterFltRule H nw ip
      else s₁) = s₂ ∧ Joined props nw (withIp (new props nw) ip) bs s₁ s₂ ∧ s.mIface.Perm (bs ++ rest) ∧ (∀ x ∈ rest, x ∉ bs) ∧
      (∀ b, b ∈ bs ↔ b ∈ s.mIface ∧ (new props nw).supportInter = true ∧ (s.obj b).supportInter = true) ∧
      Holds s₂.drv (fltPart props nw (s₂.obj nw) + (typesPart props nw (s₂.obj nw).refCnt (s₂.obj nw) +
        (ownedBy props s₂ bs + ownedBy props s rest))) := by
  have hobj : s₁.obj nw = withIp (new props nw) ip := by
    rw [hs₁]
    exact Function.update_self ..
  have hne : ∀ x ∈ s.mIface, x ≠ nw := fun x hx heq => hnw (heq ▸ hx)
  have hother : ∀ x ∈ s.mIface, s₁.obj x = s.obj x := fun x hx => by
    rw [hs₁]
    exact Function.update_of_ne (hne x hx) ..
  have hdrv : s₁.drv = s.drv := by rw [hs₁]
  by_cases hsup : (new props nw).supportInter = true
  · have hbs : ∀ b, b ∈ s.mIface.filter (fun b => (s₁.obj b).supportInter) ↔
        b ∈ s.mIface ∧ (new props nw).supportInter = true ∧ (s.obj b).supportInter = true := fun b => by
      rw [List.mem_filter]
      refine and_congr_right fun hb => ?_
      rw [hother b hb]
      exact (and_iff_right hsup).symm
    have hmem : ∀ b ∈ s.mIface.filter (fun b => (s₁.obj b).supportInter), b ∈ s.mIface := fun b hb => ((hbs b).1 hb).1
    have hperm := List.filter_append_perm (fun b => (s₁.obj b).supportInter) s.mIface
    have hd : Holds s₁.drv (ownedBy props s₁ (s.mIface.filter fun b => (s₁.obj b).supportInter) +
        ownedBy props s (s.mIface.filter fun b => !(s₁.obj b).supportInter)) := by
      rw [hdrv, ownedBy_congr s₁ s fun b hb => hother b (hmem b hb), ← ownedBy_append, ownedBy_perm hperm]
      exact h.holds
    obtain ⟨hj, hd'⟩ := joined_addAllInterFltRule (H := H) hhdr (h.nodup.filter _) (fun hb => hnw (hmem nw hb))
      (fun b hb => hother b (hmem b hb) ▸ h.loc b (hmem b hb))
      (fun b hb => by
        rw [hother b (hmem b hb)]
        exact fun hm => hnw (h.symm (hmem b hb) hm).1) hobj hd
    rw [hobj] at hj
    refine ⟨_, _, _, if_pos hsup, hj, hperm.symm, fun x hx hxb => ?_, hbs, hd'⟩
    have h1 := (List.mem_filter.1 hx).2
    rw [(List.mem_filter.1 hxb).2] at h1
    exact absurd h1 (by decide)
  · have hzero : typesPart props nw (withIp (new props nw) ip).refCnt (withIp (new props nw) ip) = 0 := rfl
    refine ⟨s₁, [], s.mIface, if_neg hsup, ?_, .refl _, fun x _ => List.not_mem_nil, fun b => ?_, ?_⟩
    · refine ⟨rfl, fun _ _ _ => rfl, fun _ hb => absurd hb List.not_mem_nil, ?_, ?_, ?_, ?_, ?_,
        fun _ hb => absurd hb List.not_mem_nil⟩
      · rw [hobj]
        rfl
      · rw [hobj]
        exact List.nodup_nil
      · rw [hobj]
        exact fun _ => rfl
      · rw [hobj]
        exact fun _ => Iff.rfl
      · rw [hobj]
        exact fun _ h => absurd h List.not_mem_nil
    · exact iff_of_false List.not_mem_nil fun hb => hsup hb.2.1
    · rw [hobj, hzero, hdrv]
      refine h.holds.of_eq ?_
      have : fltPart props nw (withIp (new props nw) ip) = 0 := rfl
      rw [this, zero_add, zero_add]
      exact (zero_add _).symm

theorem owned_withIntra {nw : LanId} {f : LanIface} (hsi : f.supportIntra = true) (hc : f.clientInfo = []) (k : Nat) :
    owned props nw { f with intraInfo := ⟨nw, rtTblNameIntra, rtTblNameIntra, []⟩, hdrProcCtxIntra := k } =
      {(k, .hdrProcCtx nw (props nw).hdrL2Type)} + (fltPart props nw f + typesPart props nw f.refCnt f) := by
  have hintra : intraPart props nw { f with intraInfo := ⟨nw, rtTblNameIntra, rtTblNameIntra, []⟩, hdrProcCtxIntra := k } =
      {(k, .hdrProcCtx nw (props nw).hdrL2Type)} := by
    rw [intraPart, if_pos hsi]
    simp [fltOwn, hc]
  rw [owned, hintra, add_comm]
  rfl

theorem setObj_obj (s : LanToLan) (a : LanId) : s.setObj a (s.obj a, s.drv) = s := by
  simp [setObj]

theorem handleClientAdd_inv {s : LanToLan} (h : Inv props s) (iface : LanId) (mac : MacAddr) (stack : ClientInfo) :
    Inv props (s.handleClientAdd H props iface mac stack) := by
  simp only [handleClientAdd]
  split
  next ha => exact ifaceClientAdd_inv h ha mac stack
  next =>
    split
    · exact ⟨h.nodup, h.loc, h.peers, h.flt, h.holds⟩
    · exact h

theorem handleClientAdd_foldl (stack : MacAddr → ClientInfo) (l : List (LanId × MacAddr)) :
    ∀ {s : LanToLan}, Inv props s → Inv props (l.foldl (fun s e => s.handleClientAdd H props e.1 e.2 (stack e.2)) s) := by
  induction l with
  | nil => exact fun h => h
  | cons e l ih => exact fun h => ih (handleClientAdd_inv h e.1 e.2 (stack e.2))

theorem handleCachedClientAddEvent_inv {s : LanToLan} (h : Inv props s) (iface : LanId) (stack : MacAddr → ClientInfo) :
    Inv props (s.handleCachedClientAddEvent H props iface stack) := by
  have h' := handleClientAdd_foldl (H := H) stack (s.cachedClientAddEvent.filter (·.1 = iface)) h
  exact ⟨h'.nodup, h'.loc, h'.peers, h'.flt, h'.holds⟩

/-- `handle_iface_up`. -/
theorem handleIfaceUp_inv {s : LanToLan} (h : Inv props s) (nw : LanId) (ip : IpIndex) (stack : MacAddr → ClientInfo) :
    Inv props (s.handleIfaceUp H props nw ip stack) := by
  by_cases hnw : nw ∈ s.mIface
  · exact handleIfaceUp_known h hnw ip stack
  simp only [handleIfaceUp, if_neg hnw]
  split
  next => exact h
  next =>
  split
  next => exact h
  next =>
  split
  next => exact h
  next hno =>
  have hhdr : (props nw).hdrL2Type = .ethernetII ∨ (props nw).hdrL2Type = .ieee8023 := by
    rw [not_or] at hno
    cases ht : (props nw).hdrL2Type with
    | none => exact absurd ht hno.1
    | ethernetII => exact .inl rfl
    | ieee8023 => exact .inr rfl
    | max => exact absurd ht hno.2
  refine handleCachedClientAddEvent_inv ?_ nw stack
  obtain ⟨s₂, bs, rest, hs₂, hj, hperm, hdisj, hbs, hd⟩ := newIface_peers (H := H) h hnw ip hhdr rfl
  have hfinal : Inv props (if (new props nw).supportIntra then
      s₂.setObj nw ((s₂.obj nw).handleIntraInterfaceInfo H props nw s₂.drv) else s₂) := by
    by_cases hsi : (new props nw).supportIntra = true
    · have hi : (new props nw).supportIntra = true →
          { (s₂.obj nw).intraInfo with peer := nw, rtTblNameForRt := rtTblNameIntra, rtTblNameForFlt := rtTblNameIntra } =
            (⟨nw, rtTblNameIntra, rtTblNameIntra, []⟩ : PeerIfaceInfo) := fun _ => by
        rw [hj.eq]
        rfl
      rw [if_pos hsi]
      refine h.join hnw hperm hdisj hbs hhdr hj hi ((hd.add (H := H) (.hdrProcCtx nw (props nw).hdrL2Type)).of_eq ?_)
      rw [hi hsi]
      have hsi₂ : (s₂.obj nw).supportIntra = true := by
        rw [hj.eq]
        exact hsi
      have hc : (s₂.obj nw).clientInfo = [] := by rw [hj.eq]
      refine Eq.trans ?_ (congrArg (· + _) (owned_withIntra hsi₂ hc _).symm)
      exact ((add_assoc _ _ _).trans (congrArg _ (add_assoc _ _ _))).symm
    · rw [if_neg hsi]
      have hjoin := h.join hnw hperm hdisj hbs hhdr hj (i := (s₂.obj nw).intraInfo) (k := (s₂.obj nw).hdrProcCtxIntra)
        (fun hi => absurd hi hsi) (d := s₂.drv) (hd.of_eq (by
          have hsi₂ : ¬(s₂.obj nw).supportIntra = true := by
            rw [hj.eq]
            exact hsi
          rw [owned, intraPart, if_neg hsi₂, add_zero, add_assoc]))
      rw [← setObj_obj s₂ nw]
      exact hjoin
  subst hs₂
  exact hfinal

end LanToLan
end HiaeCommon
