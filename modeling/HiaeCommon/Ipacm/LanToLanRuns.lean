/-
The events of the LAN-to-LAN controller, one by one: each keeps the invariant
that ties the interfaces to each other and to what is installed.
-/
import HiaeCommon.Ipacm.LanToLanIface

namespace HiaeCommon

open Function (update)
open Lib (Handles Ledger)
open Lib.Ledger (Holds series)
open LanIface

/-- A list with one element and some others in front. -/
theorem exists_perm_front {l ps : List LanId} {a : LanId} (hnd : l.Nodup) (ha : a ∈ l) (hps : ps.Nodup) (hnot : a ∉ ps)
    (hsub : ∀ x ∈ ps, x ∈ l) : ∃ rest, l.Perm (a :: (ps ++ rest)) ∧ ∀ x ∈ rest, x ∈ l ∧ x ≠ a ∧ x ∉ ps := by
  have hrest : ∀ x ∈ (l.erase a).filter (· ∉ ps), x ∈ l ∧ x ≠ a ∧ x ∉ ps := by
    intro x hx
    obtain ⟨hx, hxp⟩ := List.mem_filter.1 hx
    exact ⟨List.mem_of_mem_erase hx, fun heq => hnd.not_mem_erase (heq ▸ hx), by simpa using hxp⟩
  refine ⟨_, ?_, hrest⟩
  refine (List.perm_ext_iff_of_nodup hnd ?_).2 fun x => ?_
  · refine List.nodup_cons.2 ⟨?_, List.nodup_append.2 ⟨hps, (hnd.erase a).filter _, ?_⟩⟩
    · rw [List.mem_append, not_or]
      exact ⟨hnot, fun h => (hrest a h).2.1 rfl⟩
    · intro x hx y hy heq
      exact (hrest y hy).2.2 (heq ▸ hx)
  · rw [List.mem_cons, List.mem_append]
    refine ⟨fun hx => ?_, fun hx => ?_⟩
    · by_cases hxa : x = a
      · exact .inl hxa
      · by_cases hxp : x ∈ ps
        · exact .inr (.inl hxp)
        · exact .inr (.inr (List.mem_filter.2 ⟨(List.mem_erase_of_ne hxa).2 hx, by simpa using hxp⟩))
    · rcases hx with rfl | hx | hx
      · exact ha
      · exact hsub x hx
      · exact (hrest x hx).1

namespace LanToLan

variable {H : Handles} {props : LanId → LanProps}

/-- What the interfaces `l` have installed. -/
def ownedBy (props : LanId → LanProps) (s : LanToLan) (l : List LanId) : Installed :=
  (l.map fun a => owned props a (s.obj a)).sum

theorem ownedBy_perm {s : LanToLan} {l l' : List LanId} (h : l.Perm l') : ownedBy props s l = ownedBy props s l' :=
  (h.map _).sum_eq

theorem ownedBy_congr (s s' : LanToLan) {l : List LanId} (h : ∀ x ∈ l, s.obj x = s'.obj x) :
    ownedBy props s l = ownedBy props s' l := by
  unfold ownedBy
  congr 1
  exact List.map_congr_left fun x hx => by rw [h x hx]

@[simp] theorem ownedBy_cons (s : LanToLan) (a : LanId) (l : List LanId) :
    ownedBy props s (a :: l) = owned props a (s.obj a) + ownedBy props s l := by
  simp [ownedBy]

@[simp] theorem ownedBy_append (s : LanToLan) (l l' : List LanId) :
    ownedBy props s (l ++ l') = ownedBy props s l + ownedBy props s l' := by
  simp [ownedBy]

/-- The interfaces are each other's peers, keep a list for the clients of each peer, and what they
own is what is installed. -/
structure Inv (props : LanId → LanProps) (s : LanToLan) : Prop where
  nodup : s.mIface.Nodup
  loc : ∀ a ∈ s.mIface, Local props a (s.obj a)
  peers : ∀ a ∈ s.mIface, ∀ b, b ∈ (s.obj a).peerIds ↔
    b ∈ s.mIface ∧ b ≠ a ∧ (s.obj a).supportInter = true ∧ (s.obj b).supportInter = true
  flt : ∀ a ∈ s.mIface, ∀ b ∈ (s.obj a).peerIds, FltFor ((s.obj a).fltOf b) (s.obj b).macs
  holds : Holds s.drv (ownedBy props s s.mIface)

theorem Inv.symm {s : LanToLan} (h : Inv props s) {a b : LanId} (ha : a ∈ s.mIface) (hb : b ∈ (s.obj a).peerIds) :
    b ∈ s.mIface ∧ b ≠ a ∧ a ∈ (s.obj b).peerIds := by
  obtain ⟨hbm, hne, hia, hib⟩ := (h.peers a ha b).1 hb
  exact ⟨hbm, hne, (h.peers b hbm a).2 ⟨ha, Ne.symm hne, hib, hia⟩⟩

theorem inv_init : Inv props init where
  nodup := List.nodup_nil
  loc := fun _ h => absurd h (by simp [init])
  peers := fun _ h => absurd h (by simp [init])
  flt := fun _ h => absurd h (by simp [init])
  holds := Holds.empty

@[simp] theorem setObj_mIface (s : LanToLan) (a : LanId) (f : LanIface × BridgeDrv) : (s.setObj a f).mIface = s.mIface := rfl
@[simp] theorem setObj_drv (s : LanToLan) (a : LanId) (f : LanIface × BridgeDrv) : (s.setObj a f).drv = f.2 := rfl
@[simp] theorem setObj_self (s : LanToLan) (a : LanId) (f : LanIface × BridgeDrv) : (s.setObj a f).obj a = f.1 :=
  Function.update_self ..
theorem setObj_of_ne (s : LanToLan) {a b : LanId} (h : b ≠ a) (f : LanIface × BridgeDrv) : (s.setObj a f).obj b = s.obj b :=
  Function.update_of_ne h ..

theorem setObj_setObj (s : LanToLan) (a : LanId) (f g : LanIface × BridgeDrv) : (s.setObj a f).setObj a g = s.setObj a g := by
  simp [setObj]

/-! ## A client comes -/

theorem clientTypes_eq {this : LanId} {f : LanIface} {t : HdrL2Type} (ht : t = .ethernetII ∨ t = .ieee8023)
    (P : HdrL2Type → Bool) (c : ClientInfo) :
    clientTypes props this f P c = (if P t then clientRt props this f t c else 0) +
      if P (otherType t) then clientRt props this f (otherType t) c else 0 := by
  cases ht with
  | inl h => subst h; rfl
  | inr h =>
    subst h
    exact add_comm _ _

/-- The list of types seen, with one more. -/
theorem clientTypes_flag {this : LanId} {f : LanIface} {t : HdrL2Type} (ht : t = .ethernetII ∨ t = .ieee8023)
    {flag : List HdrL2Type} (hnew : t ∉ flag) (c : ClientInfo) (hdls : RtRuleInfo) :
    clientTypes props this f (fun t' => decide (t' ∈ t :: flag))
      { c with interIfaceRtRuleHdl := update c.interIfaceRtRuleHdl t hdls } =
    clientRt props this f t { c with interIfaceRtRuleHdl := update c.interIfaceRtRuleHdl t hdls } +
      clientTypes props this f (fun t' => decide (t' ∈ flag)) c := by
  have hne := otherType_ne ht
  have hother : clientRt props this f (otherType t) { c with interIfaceRtRuleHdl := update c.interIfaceRtRuleHdl t hdls } =
      clientRt props this f (otherType t) c := by
    simp only [clientRt, Function.update_of_ne hne]
  rw [clientTypes_eq ht, clientTypes_eq ht, hother]
  simp [hnew, hne]

/-- The loops over the peers `ps` change their lists of filter rules for the clients of `this`. -/
structure FltSet (this : LanId) (ps : List LanId) (ms : List MacAddr) (s s' : LanToLan) : Prop where
  mIface : s'.mIface = s.mIface
  frame : ∀ x ∉ ps, s'.obj x = s.obj x
  peer : ∀ b ∈ ps, ∃ l, s'.obj b = (s.obj b).setFlt this l ∧ FltFor l ms

theorem FltSet.perm {this : LanId} {ps : List LanId} {ms ms' : List MacAddr} {s s' : LanToLan} (h : FltSet this ps ms s s')
    (hp : ms.Perm ms') : FltSet this ps ms' s s' where
  mIface := h.mIface
  frame := h.frame
  peer := fun b hb => by
    obtain ⟨l, hobj, hl⟩ := h.peer b hb
    exact ⟨l, hobj, hl.perm hp⟩

/-- What is needed of the peers `ps` of `this`, whose clients are `ms`. -/
structure PeersFit (props : LanId → LanProps) (this : LanId) (ps : List LanId) (ms : List MacAddr) (s : LanToLan) : Prop where
  nodup : ps.Nodup
  notSelf : this ∉ ps
  loc : ∀ b ∈ ps, Local props b (s.obj b)
  mem : ∀ b ∈ ps, this ∈ (s.obj b).peerIds
  flt : ∀ b ∈ ps, FltFor ((s.obj b).fltOf this) ms

theorem PeersFit.tail {this b : LanId} {ps : List LanId} {ms : List MacAddr} {s s' : LanToLan}
    (h : PeersFit props this (b :: ps) ms s) (hs : ∀ x ∈ ps, s'.obj x = s.obj x) : PeersFit props this ps ms s' where
  nodup := (List.nodup_cons.1 h.nodup).2
  notSelf := fun hm => h.notSelf (List.mem_cons_of_mem b hm)
  loc := fun x hx => hs x hx ▸ h.loc x (List.mem_cons_of_mem b hx)
  mem := fun x hx => hs x hx ▸ h.mem x (List.mem_cons_of_mem b hx)
  flt := fun x hx => hs x hx ▸ h.flt x (List.mem_cons_of_mem b hx)

theorem FltSet.cons {this b : LanId} {ps : List LanId} {ms : List MacAddr} {s s' : LanToLan} {l : List FltRuleInfo}
    {d : BridgeDrv} (hb : b ∉ ps) (hl : FltFor l ms)
    (h : FltSet this ps ms (s.setObj b ((s.obj b).setFlt this l, d)) s') : FltSet this (b :: ps) ms s s' where
  mIface := h.mIface
  frame := by
    intro x hx
    rw [List.mem_cons, not_or] at hx
    rw [h.frame x hx.2, setObj_of_ne s hx.1]
  peer := by
    refine List.forall_mem_cons.2 ⟨⟨l, ?_, hl⟩, fun x hx => ?_⟩
    · rw [h.frame b hb, setObj_self]
    · have hne : x ≠ b := fun heq => hb (heq ▸ hx)
      obtain ⟨l', hobj, hl'⟩ := h.peer x hx
      exact ⟨l', by rw [hobj, setObj_of_ne s hne], hl'⟩

/-- The routing rules of a new client, for a type that is seen for the first time or again. -/
theorem clientAddPeer_rt {this : LanId} {f : LanIface} {p : PeerIfaceInfo} {c : ClientInfo} {flag : List HdrL2Type}
    {d : BridgeDrv} {m : Installed} (hne : p.peer ≠ this)
    (ht : (props p.peer).hdrL2Type = .ethernetII ∨ (props p.peer).hdrL2Type = .ieee8023)
    (hname : p.rtTblNameForRt = rtTblName (props p.peer).hdrL2Type (props this).hdrL2Type)
    (hcount : ∀ t ∈ flag, Counted props this (c.interIfaceRtRuleHdl t))
    (hd : Holds d (clientTypes props this f (fun t => decide (t ∈ flag)) c + m)) :
    ∃ c' d', (if (props p.peer).hdrL2Type ∈ flag then (c, d) else f.addClientRtRule H props this p c d) = (c', d') ∧
      c'.macAddr = c.macAddr ∧
      (∀ t ∈ (props p.peer).hdrL2Type :: flag, Counted props this (c'.interIfaceRtRuleHdl t)) ∧
      Holds d' (clientTypes props this f (fun t => decide (t ∈ (props p.peer).hdrL2Type :: flag)) c' + m) := by
  by_cases hseen : (props p.peer).hdrL2Type ∈ flag
  · have hflag : ∀ t, t ∈ (props p.peer).hdrL2Type :: flag ↔ t ∈ flag := fun t => by
      rw [List.mem_cons]
      exact ⟨fun h => h.elim (fun h => h ▸ hseen) id, .inr⟩
    refine ⟨c, d, if_pos hseen, rfl, fun t h => hcount t ((hflag t).1 h), ?_⟩
    simp only [hflag]
    exact hd
  · obtain ⟨hdls, hnew, he, hh⟩ := addClientRtRule_inter (H := H) (f := f) (c := c) hne hname d
    refine ⟨(f.addClientRtRule H props this p c d).1, (f.addClientRtRule H props this p c d).2, if_neg hseen, ?_, ?_, ?_⟩
    · rw [he]
    · intro t h
      rw [he]
      by_cases heq : t = (props p.peer).hdrL2Type
      · simpa [heq] using hnew
      · simpa [heq] using hcount t ((List.mem_cons.1 h).resolve_left heq)
    · have hh := hh _ hd
      rw [he] at hh ⊢
      rw [clientTypes_flag ht hseen, add_assoc]
      exact hh

/-- The loop over the peers for a new client. -/
theorem clientAddPeer_foldl {this : LanId} {mac : MacAddr} {ms : List MacAddr} (hmac : mac ∉ ms) :
    ∀ (ps : List PeerIfaceInfo) (flag : List HdrL2Type) {s : LanToLan} {c : ClientInfo} {m : Installed},
      PeersFit props this (ps.map (·.peer)) ms s →
      (∀ p ∈ ps, p.rtTblNameForRt = rtTblName (props p.peer).hdrL2Type (props this).hdrL2Type) →
      (∀ t ∈ flag, Counted props this (c.interIfaceRtRuleHdl t)) →
      Holds s.drv (clientTypes props this (s.obj this) (fun t => decide (t ∈ flag)) c +
        (ownedBy props s (ps.map (·.peer)) + m)) →
      ∃ s' c' flag', ps.foldl (clientAddPeer H props this mac) (s, c, flag) = (s', c', flag') ∧
        FltSet this (ps.map (·.peer)) (mac :: ms) s s' ∧ c'.macAddr = c.macAddr ∧
        (∀ t, t ∈ flag' ↔ t ∈ flag ∨ ∃ p ∈ ps, (props p.peer).hdrL2Type = t) ∧
        (∀ t ∈ flag', Counted props this (c'.interIfaceRtRuleHdl t)) ∧
        Holds s'.drv (clientTypes props this (s.obj this) (fun t => decide (t ∈ flag')) c' +
          (ownedBy props s' (ps.map (·.peer)) + m)) := by
  intro ps
  induction ps with
  | nil =>
    intro flag s c m _ _ hcount hd
    exact ⟨s, c, flag, rfl, ⟨rfl, fun _ _ => rfl, by simp⟩, rfl, by simp, hcount, hd⟩
  | cons p ps ih =>
    intro flag s c m hfit hname hcount hd
    have hb : p.peer ∉ ps.map (·.peer) := (List.nodup_cons.1 hfit.nodup).1
    have hne : this ≠ p.peer := fun h => hfit.notSelf (h ▸ List.mem_cons_self ..)
    have hloc := hfit.loc p.peer (List.mem_cons_self ..)
    obtain ⟨c₁, d₁, hrt, hmac₁, hcount₁, hd₁⟩ := clientAddPeer_rt (H := H) (Ne.symm hne) hloc.hdr
      (hname p (List.mem_cons_self ..)) hcount hd
    rw [List.map_cons, ownedBy_cons] at hd₁
    obtain ⟨l, hobj, hl, hd₂⟩ := addOneClientFltRule_holds (H := H) hloc (hfit.mem p.peer (List.mem_cons_self ..))
      (hfit.flt p.peer (List.mem_cons_self ..)) hmac (hd₁.of_eq (by rw [add_left_comm, add_assoc]))
    have hstep : clientAddPeer H props this mac (s, c, flag) p =
        (s.setObj p.peer ((s.obj p.peer).setFlt this l, ((s.obj p.peer).addOneClientFltRule H p.peer this mac d₁).2),
          c₁, (props p.peer).hdrL2Type :: flag) := by
      simp only [clientAddPeer, hrt, ← hobj]
    have hrest : ∀ x ∈ ps.map (·.peer), x ≠ p.peer := fun x hx heq => hb (heq ▸ hx)
    obtain ⟨s', c', flag', hfold, hset, hmac', hflag', hcount', hd'⟩ := ih _
      (s := s.setObj p.peer ((s.obj p.peer).setFlt this l, ((s.obj p.peer).addOneClientFltRule H p.peer this mac d₁).2))
      (m := owned props p.peer ((s.obj p.peer).setFlt this l) + m)
      (hfit.tail fun x hx => setObj_of_ne s (hrest x hx) _) (fun q hq => hname q (List.mem_cons_of_mem p hq)) hcount₁ (by
        rw [setObj_of_ne s hne, setObj_drv, ownedBy_congr _ s fun x hx => setObj_of_ne s (hrest x hx) _]
        exact hd₂.of_eq (by abel))
    refine ⟨s', c', flag', ?_, hset.cons hb hl, hmac'.trans hmac₁, fun t => ?_, hcount', ?_⟩
    · rw [List.foldl_cons, hstep, hfold]
    · rw [hflag', List.mem_cons, List.exists_mem_cons_iff, or_assoc, or_left_comm, eq_comm (a := t)]
    · rw [setObj_of_ne s hne] at hd'
      rw [List.map_cons, ownedBy_cons, hset.frame p.peer hb, setObj_self]
      exact hd'.of_eq (by abel)

/-- The peers of an interface are fit for the loops. -/
theorem Inv.peersFit {s : LanToLan} (h : Inv props s) {this : LanId} (ha : this ∈ s.mIface) :
    PeersFit props this (s.obj this).peerIds (s.obj this).macs s where
  nodup := (h.loc this ha).peersNodup
  notSelf := (h.loc this ha).notSelf
  loc := fun _ hb => h.loc _ (h.symm ha hb).1
  mem := fun _ hb => (h.symm ha hb).2.2
  flt := fun b hb => h.flt b (h.symm ha hb).1 this (h.symm ha hb).2.2

/-- What an event about the clients or the addresses of `this` may exchange. -/
theorem Inv.exchange {s : LanToLan} (h : Inv props s) {this : LanId} (ha : this ∈ s.mIface) :
    ∃ m, Holds s.drv (owned props this (s.obj this) + (ownedBy props s (s.obj this).peerIds + m)) ∧
      ∀ (s' : LanToLan) (f : LanIface) (d : BridgeDrv), FltSet this (s.obj this).peerIds f.macs s s' →
        Local props this f → f.peerIds = (s.obj this).peerIds →
        (∀ b ∈ (s.obj this).peerIds, FltFor (f.fltOf b) (s.obj b).macs) →
        Holds d (owned props this f + (ownedBy props s' (s.obj this).peerIds + m)) → Inv props (s'.setObj this (f, d)) := by
  have hself := (h.loc this ha).notSelf
  obtain ⟨rest, hperm, hrest⟩ := exists_perm_front h.nodup ha (h.loc this ha).peersNodup hself
    fun b hb => (h.symm ha hb).1
  have hsplit : ∀ s', ownedBy props s' s.mIface =
      owned props this (s'.obj this) + (ownedBy props s' (s.obj this).peerIds + ownedBy props s' rest) := fun s' => by
    rw [ownedBy_perm hperm, ownedBy_cons, ownedBy_append]
  refine ⟨ownedBy props s rest, hsplit s ▸ h.holds, fun s' f d hset hf hpeers hfor hd => ?_⟩
  -- an interface is `this`, one of its peers, or untouched
  have hobj : ∀ x, x ≠ this → ∃ l, (s'.setObj this (f, d)).obj x = (s.obj x).setFlt this l ∧
      (x ∈ (s.obj this).peerIds → FltFor l f.macs) ∨
      (s'.setObj this (f, d)).obj x = s.obj x ∧ x ∉ (s.obj this).peerIds := fun x hx => by
    rw [setObj_of_ne s' hx]
    by_cases hmem : x ∈ (s.obj this).peerIds
    · obtain ⟨l, hl, hfor⟩ := hset.peer x hmem
      exact ⟨l, .inl ⟨hl, fun _ => hfor⟩⟩
    · exact ⟨[], .inr ⟨hset.frame x hmem, hmem⟩⟩
  have hids : ∀ x, ((s'.setObj this (f, d)).obj x).peerIds = (s.obj x).peerIds := fun x => by
    by_cases hx : x = this
    · rw [hx, setObj_self, hpeers]
    · obtain ⟨l, h | h⟩ := hobj x hx
      · rw [h.1, peerIds_setFlt]
      · rw [h.1]
  have hsup : ∀ x, ((s'.setObj this (f, d)).obj x).supportInter = (s.obj x).supportInter := fun x => by
    by_cases hx : x = this
    · rw [hx, setObj_self, hf.supportInter, (h.loc this ha).supportInter]
    · obtain ⟨l, h | h⟩ := hobj x hx
      · rw [h.1]
        rfl
      · rw [h.1]
  have hmacs : ∀ x, x ≠ this → ((s'.setObj this (f, d)).obj x).macs = (s.obj x).macs := fun x hx => by
    obtain ⟨l, h | h⟩ := hobj x hx
    · rw [h.1]
      rfl
    · rw [h.1]
  have hmIface : (s'.setObj this (f, d)).mIface = s.mIface := hset.mIface
  refine ⟨?_, fun x hx => ?_, fun x hx b => ?_, fun x hx b hb => ?_, ?_⟩
  · rw [hmIface]
    exact h.nodup
  · rw [hmIface] at hx
    by_cases he : x = this
    · rw [he, setObj_self]
      exact hf
    · obtain ⟨l, ho | ho⟩ := hobj x he
      · rw [ho.1]
        exact (h.loc x hx).setFlt this l
      · rw [ho.1]
        exact h.loc x hx
  · rw [hmIface] at hx ⊢
    rw [hids, hsup, hsup]
    exact h.peers x hx b
  · rw [hmIface] at hx
    rw [hids] at hb
    have hold := h.flt x hx b hb
    by_cases he : x = this
    · subst he
      rw [setObj_self, hmacs b fun heq => hself (heq ▸ hb)]
      exact hfor b hb
    · by_cases hbt : b = this
      · subst hbt
        have hmem : x ∈ (s.obj b).peerIds := (h.symm hx hb).2.2
        obtain ⟨l, ho | ho⟩ := hobj x he
        · rw [ho.1, setObj_self, fltOf_setFlt_self (h.loc x hx).peersNodup hb]
          exact ho.2 hmem
        · exact absurd hmem ho.2
      · rw [hmacs b hbt]
        obtain ⟨l, ho | ho⟩ := hobj x he
        · rw [ho.1, fltOf_setFlt_of_ne _ hbt]
          exact hold
        · rw [ho.1]
          exact hold
  · have hps' : ownedBy props (s'.setObj this (f, d)) (s.obj this).peerIds = ownedBy props s' (s.obj this).peerIds :=
      ownedBy_congr _ _ fun x hx => setObj_of_ne s' (fun heq : x = this => hself (heq ▸ hx)) _
    have hrest' : ownedBy props (s'.setObj this (f, d)) rest = ownedBy props s rest :=
      ownedBy_congr _ _ fun x hx => (setObj_of_ne s' (hrest x hx).2.1 _).trans (hset.frame x (hrest x hx).2.2)
    rw [hmIface, hsplit, setObj_self, hps', hrest']
    exact hd

theorem Inv.noPeers {s : LanToLan} (h : Inv props s) {this : LanId} (ha : this ∈ s.mIface)
    (hsup : (s.obj this).supportInter = false) : (s.obj this).peerIfaceInfo = [] := by
  refine List.eq_nil_iff_forall_not_mem.2 fun p hp => ?_
  have := ((h.peers this ha p.peer).1 (List.mem_map_of_mem hp)).2.2.1
  rw [hsup] at this
  exact Bool.false_ne_true this

/-- `handle_client_add`. -/
theorem ifaceClientAdd_inv {s : LanToLan} (h : Inv props s) {this : LanId} (ha : this ∈ s.mIface) (mac : MacAddr)
    (stack : ClientInfo) : Inv props (s.ifaceClientAdd H props this mac stack) := by
  have hf := h.loc this ha
  simp only [ifaceClientAdd]
  split
  next => exact h
  next hnew =>
  split
  next => exact h
  next =>
  have hmac : mac ∉ (s.obj this).macs := by
    simpa [macs, List.any_eq_true] using hnew
  have hloop : (if (s.obj this).supportInter then (s.obj this).peerIfaceInfo.foldl (clientAddPeer H props this mac)
      (s, { stack with macAddr := mac }, []) else (s, { stack with macAddr := mac }, [])) =
      (s.obj this).peerIfaceInfo.foldl (clientAddPeer H props this mac) (s, { stack with macAddr := mac }, []) := by
    cases hsup : (s.obj this).supportInter with
    | true => rfl
    | false =>
      rw [h.noPeers ha hsup]
      rfl
  obtain ⟨m, hd, hinv⟩ := h.exchange ha
  obtain ⟨s', c, flag, hfold, hset, hcmac, hflag, hcount, hd'⟩ := clientAddPeer_foldl (H := H) hmac
    (s.obj this).peerIfaceInfo [] (s := s) (c := { stack with macAddr := mac })
    (m := owned props this (s.obj this) + m) (h.peersFit ha) (fun p hp => (hf.named p hp).2) (by simp)
    (hd.of_eq (by rw [add_left_comm]; simp [clientTypes]; rfl))
  have hthis : s'.obj this = s.obj this := hset.frame this hf.notSelf
  have hcounted : ∀ b ∈ (s.obj this).peerIds, Counted props this (c.interIfaceRtRuleHdl (props b).hdrL2Type) := by
    intro b hb
    obtain ⟨p, hp, rfl⟩ := List.mem_map.1 hb
    exact hcount _ ((hflag _).2 (.inr ⟨p, hp, rfl⟩))
  -- the types seen are those that have a peer
  have htypes : (fun t => decide (t ∈ flag)) = fun t => decide (0 < (s.obj this).refCnt t) := by
    funext t
    rw [decide_eq_decide, hflag, hf.refCnt_pos]
    simp [peerIds]
  rw [htypes] at hd'
  have hset' : FltSet this (s.obj this).peerIds (c.macAddr :: (s.obj this).macs) s s' := by
    rw [hcmac]
    exact hset
  replace hmac : c.macAddr ∉ (s.obj this).macs := by
    rw [hcmac]
    exact hmac
  have hnd : (c.macAddr :: (s.obj this).macs).Nodup := List.nodup_cons.2 ⟨hmac, hf.clientsNodup⟩
  rw [hloop, hfold]
  simp only [hthis]
  by_cases hsi : (s.obj this).supportIntra = true
  · obtain ⟨hdls, l, d₁, d₂, hrt, hflt, hic, hl, hd₂⟩ := addClientIntra_holds (H := H) hf hsi hmac
      (hd'.of_eq (by rw [add_left_comm (ownedBy _ _ _)]))
    have hflt' : (s.obj this).addClientFltRules H this mac (s.obj this).intraInfo d₁ =
        ({ (s.obj this).intraInfo with fltRule := l }, d₂) := by
      rw [← hflt, hcmac]
    rw [if_pos hsi]
    simp only [hrt, hflt']
    exact hinv s' ((s.obj this).setClients ({ c with intraIfaceRtRuleHdl := hdls } :: (s.obj this).clientInfo) l) _ hset'
      (hf.setClients hnd (List.forall_mem_cons.2 ⟨hcounted, hf.counted⟩) (fun _ => hl)
        fun hi => List.forall_mem_cons.2 ⟨hic, hf.intraCounted hi⟩) rfl (h.flt this ha) hd₂
  · rw [if_neg hsi]
    refine hinv s' ((s.obj this).setClients (c :: (s.obj this).clientInfo) (s.obj this).intraInfo.fltRule) _ hset'
      (hf.setClients hnd (List.forall_mem_cons.2 ⟨hcounted, hf.counted⟩) (fun hi => absurd hi hsi) fun hi => absurd hi hsi)
      rfl (h.flt this ha) (hd'.of_eq ?_)
    rw [owned_setClients_cons, if_neg hsi, zero_add, add_assoc, add_left_comm (ownedBy _ _ _)]
    rfl

/-! ## A client goes -/

/-- The list of types seen, with one more whose rules are deleted. -/
theorem clientTypes_reset {this : LanId} {f : LanIface} {t : HdrL2Type} (ht : t = .ethernetII ∨ t = .ieee8023)
    {P : HdrL2Type → Bool} (hP : P t = true) {flag : List HdrL2Type} (hnew : t ∉ flag) (c : ClientInfo) :
    clientTypes props this f (fun t' => P t' && decide (t' ∉ flag)) c =
      clientRt props this f t c + clientTypes props this f (fun t' => P t' && decide (t' ∉ t :: flag)) (resetRt t c) := by
  have hne := otherType_ne ht
  rw [clientTypes_eq ht, clientTypes_eq ht, clientRt_reset hne]
  simp [hnew, hne, hP]

/-- The routing rules of a client that goes, for a type that is seen for the first time or again. -/
theorem clientDelPeer_rt {this : LanId} {f : LanIface} {p : PeerIfaceInfo} {c : ClientInfo} {P : HdrL2Type → Bool}
    {flag : List HdrL2Type} {d : BridgeDrv} {m : Installed} (hne : p.peer ≠ this)
    (ht : (props p.peer).hdrL2Type = .ethernetII ∨ (props p.peer).hdrL2Type = .ieee8023)
    (hP : P (props p.peer).hdrL2Type = true)
    (hd : Holds d (clientTypes props this f (fun t => P t && decide (t ∉ flag)) c + m)) :
    ∃ c' d', (if (props p.peer).hdrL2Type ∈ flag then (c, d) else delClientRtRule props this p c d) = (c', d') ∧
      c'.macAddr = c.macAddr ∧ c'.intraIfaceRtRuleHdl = c.intraIfaceRtRuleHdl ∧
      Holds d' (clientTypes props this f (fun t => P t && decide (t ∉ (props p.peer).hdrL2Type :: flag)) c' + m) := by
  by_cases hseen : (props p.peer).hdrL2Type ∈ flag
  · have hflag : ∀ t, t ∈ (props p.peer).hdrL2Type :: flag ↔ t ∈ flag := fun t => by
      rw [List.mem_cons]
      exact ⟨fun h => h.elim (fun h => h ▸ hseen) id, .inr⟩
    refine ⟨c, d, if_pos hseen, rfl, rfl, ?_⟩
    simp only [hflag]
    exact hd
  · rw [clientTypes_reset ht hP hseen, add_assoc] at hd
    refine ⟨resetRt (props p.peer).hdrL2Type c, _, ?_, rfl, rfl, delClientRtRule_inter hne hd⟩
    rw [if_neg hseen, ← delClientRtRule_reset hne d]

/-- The loop over the peers for a client that goes. -/
theorem clientDelPeer_foldl {this : LanId} {ms : List MacAddr} (hms : ms.Nodup) {P : HdrL2Type → Bool} :
    ∀ (ps : List PeerIfaceInfo) (flag : List HdrL2Type) {s : LanToLan} {c : ClientInfo} {m : Installed},
      PeersFit props this (ps.map (·.peer)) ms s → (∀ p ∈ ps, P (props p.peer).hdrL2Type = true) →
      Holds s.drv (clientTypes props this (s.obj this) (fun t => P t && decide (t ∉ flag)) c +
        (ownedBy props s (ps.map (·.peer)) + m)) →
      ∃ s' c' flag', ps.foldl (clientDelPeer props this) (s, c, flag) = (s', c', flag') ∧
        FltSet this (ps.map (·.peer)) (ms.erase c.macAddr) s s' ∧ c'.macAddr = c.macAddr ∧
        c'.intraIfaceRtRuleHdl = c.intraIfaceRtRuleHdl ∧
        (∀ t, t ∈ flag' ↔ t ∈ flag ∨ ∃ p ∈ ps, (props p.peer).hdrL2Type = t) ∧
        Holds s'.drv (clientTypes props this (s.obj this) (fun t => P t && decide (t ∉ flag')) c' +
          (ownedBy props s' (ps.map (·.peer)) + m)) := by
  intro ps
  induction ps with
  | nil =>
    intro flag s c m _ _ hd
    exact ⟨s, c, flag, rfl, ⟨rfl, fun _ _ => rfl, by simp⟩, rfl, rfl, by simp, hd⟩
  | cons p ps ih =>
    intro flag s c m hfit hP hd
    have hb : p.peer ∉ ps.map (·.peer) := (List.nodup_cons.1 hfit.nodup).1
    have hne : this ≠ p.peer := fun h => hfit.notSelf (h ▸ List.mem_cons_self ..)
    have hloc := hfit.loc p.peer (List.mem_cons_self ..)
    rw [List.map_cons, ownedBy_cons] at hd
    obtain ⟨l, hobj, hl, hd₁⟩ := delOneClientFltRule_holds hloc c.macAddr
      (hfit.mem p.peer (List.mem_cons_self ..)) hms (hfit.flt p.peer (List.mem_cons_self ..))
      (hd.of_eq (by rw [add_left_comm, add_assoc]))
    have hd₁' : Holds ((s.obj p.peer).delOneClientFltRule this c.macAddr s.drv).2
        (clientTypes props this (s.obj this) (fun t => P t && decide (t ∉ flag)) c +
          (ownedBy props s (ps.map (·.peer)) + (owned props p.peer ((s.obj p.peer).setFlt this l) + m))) :=
      hd₁.of_eq (by abel)
    obtain ⟨c₁, d₁, hrt, hmac₁, hintra₁, hd₂⟩ := clientDelPeer_rt (Ne.symm hne) hloc.hdr (hP p (List.mem_cons_self ..)) hd₁'
    have hstep : clientDelPeer props this (s, c, flag) p =
        (s.setObj p.peer ((s.obj p.peer).setFlt this l, d₁), c₁, (props p.peer).hdrL2Type :: flag) := by
      simp only [clientDelPeer, hrt, ← hobj]
    have hrest : ∀ x ∈ ps.map (·.peer), x ≠ p.peer := fun x hx heq => hb (heq ▸ hx)
    obtain ⟨s', c', flag', hfold, hset, hmac', hintra', hflag', hd'⟩ := ih _
      (s := s.setObj p.peer ((s.obj p.peer).setFlt this l, d₁)) (c := c₁)
      (m := owned props p.peer ((s.obj p.peer).setFlt this l) + m)
      (hfit.tail fun x hx => setObj_of_ne s (hrest x hx) _) (fun q hq => hP q (List.mem_cons_of_mem p hq)) (by
        rw [setObj_of_ne s hne, setObj_drv, ownedBy_congr _ s fun x hx => setObj_of_ne s (hrest x hx) _]
        exact hd₂)
    rw [hmac₁] at hset
    refine ⟨s', c', flag', ?_, hset.cons hb hl, hmac'.trans hmac₁, hintra'.trans hintra₁, fun t => ?_, ?_⟩
    · rw [List.foldl_cons, hstep, hfold]
    · rw [hflag', List.mem_cons, List.exists_mem_cons_iff, or_assoc, or_left_comm, eq_comm (a := t)]
    · rw [setObj_of_ne s hne] at hd'
      rw [List.map_cons, ownedBy_cons, hset.frame p.peer hb, setObj_self]
      exact hd'.of_eq (by abel)

/-- `handle_client_del`. -/
theorem ifaceClientDel_inv {s : LanToLan} (h : Inv props s) {this : LanId} (ha : this ∈ s.mIface) (mac : MacAddr) :
    Inv props (s.ifaceClientDel props this mac) := by
  have hf := h.loc this ha
  simp only [ifaceClientDel]
  split
  next => exact h
  next c hfind =>
  have hc := List.mem_of_find?_eq_some hfind
  have hcm : c.macAddr = mac := by simpa using List.find?_some hfind
  have hloop : (if (s.obj this).supportInter then (s.obj this).peerIfaceInfo.foldl (clientDelPeer props this) (s, c, [])
      else (s, c, [])) = (s.obj this).peerIfaceInfo.foldl (clientDelPeer props this) (s, c, []) := by
    cases hsup : (s.obj this).supportInter with
    | true => rfl
    | false =>
      rw [h.noPeers ha hsup]
      rfl
  obtain ⟨-, l₁, l₂, hl, hl₁⟩ := List.find?_eq_some_iff_append.1 hfind
  have herase : (s.obj this).clientInfo.eraseP (fun c => decide (c.macAddr = mac)) = l₁ ++ l₂ := by
    rw [hl, List.eraseP_append_right _ (by simpa using hl₁), List.eraseP_cons_of_pos (by simpa using hcm)]
  have hperm : (s.obj this).clientInfo.Perm (c :: (l₁ ++ l₂)) := by
    rw [hl]
    exact List.perm_middle
  have hsub : ∀ c' ∈ l₁ ++ l₂, c' ∈ (s.obj this).clientInfo := fun c' h => hperm.mem_iff.2 (List.mem_cons_of_mem c h)
  -- the clients that stay
  have hmacs : ((l₁ ++ l₂).map (·.macAddr)).Perm ((s.obj this).macs.erase c.macAddr) := by
    have := (hperm.map (·.macAddr)).erase c.macAddr
    rw [List.map_cons, List.erase_cons_head] at this
    exact this.symm
  have hnd : ((l₁ ++ l₂).map (·.macAddr)).Nodup := hmacs.nodup_iff.2 (hf.clientsNodup.erase _)
  have hloc : ∀ l, ((s.obj this).supportIntra = true → FltFor l ((l₁ ++ l₂).map (·.macAddr))) →
      Local props this ((s.obj this).setClients (l₁ ++ l₂) l) := fun l hl =>
    hf.setClients hnd (fun c' h => hf.counted c' (hsub c' h)) hl fun hi c' h => hf.intraCounted hi c' (hsub c' h)
  obtain ⟨m, hd, hinv⟩ := h.exchange ha
  have hown : owned props this (s.obj this) = clientTypes props this (s.obj this) (fun t => 0 < (s.obj this).refCnt t) c +
      ((if (s.obj this).supportIntra then clientIntra props this (s.obj this) c else 0) +
        owned props this ((s.obj this).setClients (l₁ ++ l₂) (s.obj this).intraInfo.fltRule)) :=
    (owned_setClients_perm (s.obj this) hperm (s.obj this).intraInfo.fltRule).trans (owned_setClients_cons ..)
  rw [hown, peerIds] at hd
  obtain ⟨s', c', flag, hfold, hset, hcmac, hcintra, hflag, hd'⟩ := clientDelPeer_foldl hf.clientsNodup
    (P := fun t => 0 < (s.obj this).refCnt t) (s.obj this).peerIfaceInfo [] (s := s) (c := c)
    (m := (if (s.obj this).supportIntra then clientIntra props this (s.obj this) c else 0) +
      (owned props this ((s.obj this).setClients (l₁ ++ l₂) (s.obj this).intraInfo.fltRule) + m)) (h.peersFit ha)
    (fun p hp => by
      rw [decide_eq_true_iff, hf.refCnt_pos]
      exact ⟨p.peer, List.mem_map_of_mem hp, rfl⟩) (hd.of_eq (by
      simp only [List.not_mem_nil, not_false_eq_true, decide_true, Bool.and_true]
      exact (add_assoc _ _ _).trans (congrArg _ (by abel))))
  have hthis : s'.obj this = s.obj this := hset.frame this hf.notSelf
  have hset' := hset.perm hmacs.symm
  -- no type is left
  have hnone : clientTypes props this (s.obj this) (fun t => decide (0 < (s.obj this).refCnt t) && decide (t ∉ flag)) c' = 0 := by
    have : (fun t => decide (0 < (s.obj this).refCnt t) && decide (t ∉ flag)) = fun _ => false := by
      funext t
      rw [Bool.and_eq_false_iff, decide_eq_false_iff_not, decide_eq_false_iff_not, not_not, hflag, hf.refCnt_pos]
      by_cases hb : ∃ b ∈ (s.obj this).peerIds, (props b).hdrL2Type = t
      · exact .inr (.inr (by simpa [peerIds] using hb))
      · exact .inl hb
    rw [this]
    rfl
  have hintra : clientIntra props this (s.obj this) c = clientIntra props this (s.obj this) c' := by
    simp only [clientIntra, hcmac, hcintra]
  rw [hnone, zero_add, hintra] at hd'
  rw [hloop, hfold]
  simp only [hthis, herase]
  by_cases hsi : (s.obj this).supportIntra = true
  · rw [if_pos hsi, add_left_comm, add_left_comm (ownedBy _ _ _)] at hd'
    obtain ⟨l, d₁, hdel, hl, hd₂⟩ := delClientIntra_holds hf hsi mac hd'
    rw [if_pos hsi]
    simp only [hdel]
    rw [← hcm] at hl
    exact hinv s' ((s.obj this).setClients (l₁ ++ l₂) l) _ hset' (hloc l fun _ => hl.perm hmacs.symm) rfl
      (h.flt this ha) hd₂
  · rw [if_neg hsi, zero_add, add_left_comm] at hd'
    rw [if_neg hsi]
    exact hinv s' ((s.obj this).setClients (l₁ ++ l₂) (s.obj this).intraInfo.fltRule) _ hset'
      (hloc _ fun hi => absurd hi hsi) rfl (h.flt this ha) hd'

/-! ## An interface goes down -/

/-- The interface that goes down, with the peers that are left. -/
def withPeers (s : LanToLan) (this : LanId) (ps : List PeerIfaceInfo) : LanIface :=
  { s.obj this with peerIfaceInfo := ps }

/-- One round of the loop takes the two interfaces out of each other. -/
theorem downPeer_holds {s : LanToLan} {this : LanId} {p : PeerIfaceInfo} {ps : List PeerIfaceInfo} {m : Installed}
    (hf : Local props this (s.withPeers this (p :: ps))) (hg : Local props p.peer (s.obj p.peer))
    (hmem : this ∈ (s.obj p.peer).peerIds)
    (hd : Holds s.drv (owned props this (s.withPeers this (p :: ps)) + (owned props p.peer (s.obj p.peer) + m))) :
    (downPeer props this s p).mIface = s.mIface ∧
      (∀ x, x ≠ this → x ≠ p.peer → (downPeer props this s p).obj x = s.obj x) ∧
      (downPeer props this s p).obj p.peer = (s.obj p.peer).shrunk props this ∧
      (downPeer props this s p).withPeers this ps = (s.withPeers this (p :: ps)).shrunk props p.peer ∧
      Holds (downPeer props this s p).drv (owned props this ((downPeer props this s p).withPeers this ps) +
        (owned props p.peer ((downPeer props this s p).obj p.peer) + m)) := by
  have hb : p.peer ∈ (s.withPeers this (p :: ps)).peerIds := List.mem_cons_self ..
  have hne : p.peer ≠ this := fun h => hf.notSelf (h ▸ hb)
  obtain ⟨l₁, q, l₂, hl, hqt, hl₁, -, hqf, -⟩ := exists_peer hg.peersNodup hmem
  have hfind : ((s.obj p.peer).addRefCnt (props this).hdrL2Type (-1)).peerIfaceInfo.find? (fun q => decide (q.peer = this)) =
      some q :=
    List.find?_eq_some_iff_append.2 ⟨by simpa using hqt, l₁, l₂, hl, by simpa using hl₁⟩
  have hpf : (s.withPeers this (p :: ps)).fltOf p.peer = p.fltRule := by simp [fltOf, withPeers]
  obtain ⟨rf, hf₁, hf₂⟩ := owned_shrunk hf hb
  obtain ⟨rg, hg₁, hg₂⟩ := owned_shrunk hg hmem
  rw [hf₁, hg₁, hpf, ← hqf, add_assoc] at hd
  have hd₁ := clearAllFltRule_holds hd
  have hd₂ := clearAllFltRule_holds (f := s.obj p.peer) (hd₁.of_eq (by
    rw [add_left_comm, add_assoc]))
  have hd₃ := release_holds q (f := s.obj p.peer) (by rw [hqt]; exact Ne.symm hne) (by rw [hqt]) hf.hdr
    ((hg.refCnt_pos _).2 ⟨this, hmem, rfl⟩) (hd₂.of_eq (add_assoc _ _ _))
  have hd₄ := release_holds p (f := s.obj this) (m := rf + (owned props p.peer ((s.obj p.peer).shrunk props this) + m))
    hne rfl hg.hdr ((hf.refCnt_pos _).2 ⟨p.peer, hb, rfl⟩) (hd₃.of_eq (by
      have htypes : typesPart props this (s.withPeers this (p :: ps)).refCnt (s.withPeers this (p :: ps)) =
          typesPart props this (s.obj this).refCnt (s.obj this) := rfl
      rw [hg₂, htypes]
      abel))
  have hcg := clearAllRtRule_eq props q (f := (s.obj p.peer).addRefCnt (props this).hdrL2Type (-1))
    (by rw [hqt]; exact Ne.symm hne) (by rw [hqt])
  have hcf := clearAllRtRule_eq props p (f := (s.obj this).addRefCnt (props p.peer).hdrL2Type (-1)) hne rfl
  have hobj : (downPeer props this s p).obj this =
      { (s.withPeers this (p :: ps)).shrunk props p.peer with peerIfaceInfo := (s.obj this).peerIfaceInfo } := by
    simp only [downPeer, hfind, setObj_self, hcf]
    rfl
  have hpeer : (downPeer props this s p).obj p.peer = (s.obj p.peer).shrunk props this := by
    simp only [downPeer, hfind, setObj_of_ne _ hne, setObj_self, hcg]
    rfl
  have hshr : (downPeer props this s p).withPeers this ps = (s.withPeers this (p :: ps)).shrunk props p.peer := by
    rw [withPeers, hobj]
    simp [shrunk, withPeers]
  refine ⟨rfl, fun x hx hxp => ?_, hpeer, hshr, ?_⟩
  · simp only [downPeer, hfind, setObj_of_ne _ hx, setObj_of_ne _ hxp]
  · rw [hshr, hpeer, hf₂, add_assoc]
    simp only [downPeer, hfind, setObj_drv, hcf, hcg]
    exact hd₄

/-- The loop over the peers of the interface that goes down. -/
theorem downPeer_foldl {this : LanId} :
    ∀ (ps : List PeerIfaceInfo) {s : LanToLan} {m : Installed}, Local props this (s.withPeers this ps) →
      (∀ p ∈ ps, Local props p.peer (s.obj p.peer)) → (∀ p ∈ ps, this ∈ (s.obj p.peer).peerIds) →
      Holds s.drv (owned props this (s.withPeers this ps) + (ownedBy props s (ps.map (·.peer)) + m)) →
      (ps.foldl (downPeer props this) s).mIface = s.mIface ∧
        (∀ x, x ≠ this → x ∉ ps.map (·.peer) → (ps.foldl (downPeer props this) s).obj x = s.obj x) ∧
        (∀ p ∈ ps, (ps.foldl (downPeer props this) s).obj p.peer = (s.obj p.peer).shrunk props this) ∧
        Local props this ((ps.foldl (downPeer props this) s).withPeers this []) ∧
        Holds (ps.foldl (downPeer props this) s).drv (owned props this ((ps.foldl (downPeer props this) s).withPeers this []) +
          (ownedBy props (ps.foldl (downPeer props this) s) (ps.map (·.peer)) + m)) := by
  intro ps
  induction ps with
  | nil =>
    intro s m hf _ _ hd
    exact ⟨rfl, fun _ _ _ => rfl, fun _ h => absurd h List.not_mem_nil, hf, hd⟩
  | cons p ps ih =>
    intro s m hf hloc hmem hd
    obtain ⟨hp, hps⟩ := List.forall_mem_cons.1 hloc
    obtain ⟨hpm, hpsm⟩ := List.forall_mem_cons.1 hmem
    have hb : p.peer ∈ (s.withPeers this (p :: ps)).peerIds := List.mem_cons_self ..
    have hnot : p.peer ∉ ps.map (·.peer) := (List.nodup_cons.1 hf.peersNodup).1
    have hself : ∀ q ∈ ps, q.peer ≠ this := fun q hq heq =>
      hf.notSelf (heq ▸ List.mem_cons_of_mem _ (List.mem_map_of_mem hq))
    have hne : ∀ q ∈ ps, q.peer ≠ p.peer := fun q hq heq => hnot (heq ▸ List.mem_map_of_mem hq)
    rw [List.map_cons, ownedBy_cons, add_assoc] at hd
    obtain ⟨hmI, hframe, hpeer, hshr, hd'⟩ := downPeer_holds hf hp hpm hd
    have hsame : ∀ q ∈ ps, (downPeer props this s p).obj q.peer = s.obj q.peer := fun q hq =>
      hframe _ (hself q hq) (hne q hq)
    obtain ⟨hmI', hframe', hpeers', hloc', hd''⟩ := ih (s := downPeer props this s p)
      (m := owned props p.peer ((downPeer props this s p).obj p.peer) + m) (hshr ▸ shrunk_local hf hb)
      (fun q hq => hsame q hq ▸ hps q hq) (fun q hq => hsame q hq ▸ hpsm q hq) (hd'.of_eq (by
        rw [ownedBy_congr (downPeer props this s p) s fun x hx => by
          obtain ⟨q, hq, rfl⟩ := List.mem_map.1 hx
          exact hsame q hq]
        abel))
    rw [List.foldl_cons]
    have hpself : p.peer ≠ this := fun heq => hf.notSelf (heq ▸ hb)
    have hpobj := hframe' p.peer hpself hnot
    refine ⟨hmI'.trans hmI, fun x hx hxp => ?_, List.forall_mem_cons.2 ⟨hpobj.trans hpeer, fun q hq => ?_⟩, hloc', ?_⟩
    · rw [List.map_cons, List.mem_cons, not_or] at hxp
      rw [hframe' x hx hxp.2, hframe x hx hxp.1]
    · rw [hpeers' q hq, hsame q hq]
    · rw [List.map_cons, ownedBy_cons, hpobj]
      exact hd''.of_eq (by abel)

/-- What is left when the interface `this` is taken out of all its peers. -/
structure Down (props : LanId → LanProps) (this : LanId) (s s' : LanToLan) : Prop where
  mIface : s'.mIface = s.mIface
  other : ∀ x, x ≠ this → x ∉ (s.obj this).peerIds → s'.obj x = s.obj x
  peer : ∀ x ∈ (s.obj this).peerIds, s'.obj x = (s.obj x).shrunk props this

/-- The interface is gone, and what the others own is what is installed. -/
theorem Inv.remove {s s' : LanToLan} (h : Inv props s) {this : LanId} (ha : this ∈ s.mIface) (hdown : Down props this s s')
    (hd : ∀ m, Holds s.drv (owned props this (s.obj this) + (ownedBy props s (s.obj this).peerIds + m)) →
      Holds s'.drv (ownedBy props s' (s.obj this).peerIds + m)) :
    Inv props { s' with mIface := s'.mIface.erase this } := by
  have hobj : ∀ x, x ∈ s.mIface → x ≠ this → this ∈ (s.obj x).peerIds ∧ s'.obj x = (s.obj x).shrunk props this ∨
      this ∉ (s.obj x).peerIds ∧ s'.obj x = s.obj x := fun x hx hne => by
    by_cases hmem : x ∈ (s.obj this).peerIds
    · exact .inl ⟨(h.symm ha hmem).2.2, hdown.peer x hmem⟩
    · exact .inr ⟨fun hm => hmem (h.symm hx hm).2.2, hdown.other x hne hmem⟩
  have hids : ∀ x, x ∈ s.mIface → x ≠ this → ∀ b, b ∈ (s'.obj x).peerIds ↔ b ∈ (s.obj x).peerIds ∧ b ≠ this :=
    fun x hx hne b => by
      obtain ⟨hmem, ho⟩ | ⟨hmem, ho⟩ := hobj x hx hne
      · rw [ho, shrunk_peerIds, (h.loc x hx).peersNodup.mem_erase_iff, and_comm]
      · rw [ho]
        exact ⟨fun hb => ⟨hb, fun heq => hmem (heq ▸ hb)⟩, fun hb => hb.1⟩
  have hsame : ∀ x, x ∈ s.mIface → x ≠ this → (s'.obj x).supportInter = (s.obj x).supportInter ∧
      (s'.obj x).macs = (s.obj x).macs := fun x hx hne => by
    obtain ⟨-, ho⟩ | ⟨-, ho⟩ := hobj x hx hne
    · rw [ho]
      exact ⟨rfl, shrunk_macs _ _⟩
    · rw [ho]
      exact ⟨rfl, rfl⟩
  have hmem : ∀ x, x ∈ s'.mIface.erase this ↔ x ≠ this ∧ x ∈ s.mIface := fun x => by
    rw [hdown.mIface, h.nodup.mem_erase_iff]
  refine ⟨?_, fun x hx => ?_, fun x hx b => ?_, fun x hx b hb => ?_, ?_⟩
  · rw [hdown.mIface]
    exact h.nodup.erase this
  · obtain ⟨hne, hx⟩ := (hmem x).1 hx
    obtain ⟨hm, ho⟩ | ⟨-, ho⟩ := hobj x hx hne
    · exact ho ▸ shrunk_local (h.loc x hx) hm
    · exact ho ▸ h.loc x hx
  · obtain ⟨hne, hx⟩ := (hmem x).1 hx
    simp only [hids x hx hne b, h.peers x hx b, (hsame x hx hne).1, hmem]
    refine ⟨fun ⟨⟨hb, hbx, hi, hib⟩, hbt⟩ => ⟨⟨hbt, hb⟩, hbx, hi, ?_⟩, fun ⟨⟨hbt, hb⟩, hbx, hi, hib⟩ => ⟨⟨hb, hbx, hi, ?_⟩, hbt⟩⟩
    · rw [(hsame b hb hbt).1]
      exact hib
    · rwa [(hsame b hb hbt).1] at hib
  · obtain ⟨hne, hx⟩ := (hmem x).1 hx
    obtain ⟨hb, hbt⟩ := (hids x hx hne b).1 hb
    have hflt : (s'.obj x).fltOf b = (s.obj x).fltOf b := by
      obtain ⟨-, ho⟩ | ⟨-, ho⟩ := hobj x hx hne
      · rw [ho, shrunk_fltOf hbt]
      · rw [ho]
    rw [hflt, (hsame b (h.symm hx hb).1 hbt).2]
    exact h.flt x hx b hb
  · obtain ⟨rest, hperm, hrest⟩ := exists_perm_front h.nodup ha (h.loc this ha).peersNodup (h.loc this ha).notSelf
      fun b hb => (h.symm ha hb).1
    have hperm' : (s'.mIface.erase this).Perm ((s.obj this).peerIds ++ rest) := by
      rw [hdown.mIface]
      have := hperm.erase this
      rwa [List.erase_cons_head] at this
    have hsame' : ownedBy props s' rest = ownedBy props s rest :=
      ownedBy_congr _ _ fun x hx => hdown.other x (hrest x hx).2.1 (hrest x hx).2.2
    have hold := h.holds
    rw [ownedBy_perm hperm, ownedBy_cons, ownedBy_append] at hold
    have hall : ownedBy props { s' with mIface := s'.mIface.erase this } (s'.mIface.erase this) =
        ownedBy props s' (s.obj this).peerIds + ownedBy props s rest := by
      rw [← hsame', ← ownedBy_append, ← ownedBy_perm hperm']
      rfl
    rw [hall]
    exact hd _ hold

/-- The part of `handle_down_event` behind the loop. -/
theorem ifaceDown_intra {s₁ : LanToLan} {this : LanId} {ps : List LanId} {m : Installed}
    (hf : Local props this (s₁.obj this)) (hp : (s₁.obj this).peerIds = [])
    (hd : Holds s₁.drv (owned props this (s₁.obj this) + (ownedBy props s₁ ps + m))) :
    ∃ f d, (if (s₁.obj this).supportIntra then
        s₁.setObj this ({ ((s₁.obj this).clearAllRtRule props this (s₁.obj this).intraInfo
            ((s₁.obj this).clearAllFltRule (s₁.obj this).intraInfo.fltRule s₁.drv)).1 with
          clientInfo := []
          intraInfo := { ((s₁.obj this).clearAllRtRule props this (s₁.obj this).intraInfo
            ((s₁.obj this).clearAllFltRule (s₁.obj this).intraInfo.fltRule s₁.drv)).1.intraInfo with fltRule := [] } },
          ((s₁.obj this).clearAllRtRule props this (s₁.obj this).intraInfo
            ((s₁.obj this).clearAllFltRule (s₁.obj this).intraInfo.fltRule s₁.drv)).2.del
            ((s₁.obj this).clearAllRtRule props this (s₁.obj this).intraInfo
              ((s₁.obj this).clearAllFltRule (s₁.obj this).intraInfo.fltRule s₁.drv)).1.hdrProcCtxIntra)
      else s₁.setObj this ({ s₁.obj this with clientInfo := [] }, s₁.drv)) = s₁.setObj this (f, d) ∧
      Holds d (ownedBy props s₁ ps + m) := by
  by_cases hsi : (s₁.obj this).supportIntra = true
  · rw [if_pos hsi]
    exact ⟨_, _, rfl, clearIntra_holds hf hp hsi hd⟩
  · rw [if_neg hsi]
    refine ⟨_, _, rfl, ?_⟩
    rw [owned_noPeers hf hp, intraPart, if_neg hsi, zero_add] at hd
    exact hd

/-- `handle_down_event`. -/
theorem ifaceDown_holds {s : LanToLan} (h : Inv props s) {this : LanId} (ha : this ∈ s.mIface) {m : Installed}
    (hd : Holds s.drv (owned props this (s.obj this) + (ownedBy props s (s.obj this).peerIds + m))) :
    Down props this s (s.ifaceDown props this) ∧
      Holds (s.ifaceDown props this).drv (ownedBy props (s.ifaceDown props this) (s.obj this).peerIds + m) := by
  have hf := h.loc this ha
  have hnot := hf.notSelf
  have hne : ∀ x ∈ (s.obj this).peerIds, x ≠ this := fun x hx heq => hnot (heq ▸ hx)
  -- the loop over the peers
  obtain ⟨s₁, hs₁, hdown, hf₁, hp₁, hd₁⟩ : ∃ s₁, (if (s.obj this).supportInter then
      ((s.obj this).peerIfaceInfo.foldl (downPeer props this) s).setObj this
        ({ ((s.obj this).peerIfaceInfo.foldl (downPeer props this) s).obj this with peerIfaceInfo := [] },
          ((s.obj this).peerIfaceInfo.foldl (downPeer props this) s).drv) else s) = s₁ ∧
      Down props this s s₁ ∧ Local props this (s₁.obj this) ∧ (s₁.obj this).peerIds = [] ∧
      Holds s₁.drv (owned props this (s₁.obj this) + (ownedBy props s₁ (s.obj this).peerIds + m)) := by
    by_cases hsup : (s.obj this).supportInter = true
    · obtain ⟨hmI, hother, hpeer, hloc, hd'⟩ := downPeer_foldl (s.obj this).peerIfaceInfo hf
        (fun p hp => h.loc _ (h.symm ha (List.mem_map_of_mem hp)).1)
        (fun p hp => (h.symm ha (List.mem_map_of_mem hp)).2.2) hd
      refine ⟨_, if_pos hsup, ⟨hmI, fun x hx hxp => ?_, fun x hx => ?_⟩, ?_, ?_, ?_⟩
      · rw [setObj_of_ne _ hx, hother x hx hxp]
      · obtain ⟨p, hp, rfl⟩ := List.mem_map.1 hx
        rw [setObj_of_ne _ (hne p.peer hx), hpeer p hp]
      · rw [setObj_self]
        exact hloc
      · rw [setObj_self]
        rfl
      · rw [setObj_self, ownedBy_congr _ _ fun x hx => setObj_of_ne _ (hne x hx) _]
        exact hd'
    · have hnil := h.noPeers ha (Bool.eq_false_iff.2 hsup)
      have hids : (s.obj this).peerIds = [] := by rw [peerIds, hnil]; rfl
      refine ⟨s, if_neg hsup, ⟨rfl, fun _ _ _ => rfl, fun x hx => ?_⟩, hf, hids, hd⟩
      rw [hids] at hx
      exact absurd hx List.not_mem_nil
  obtain ⟨f, d, hs₂, hd₂⟩ := ifaceDown_intra hf₁ hp₁ hd₁
  have heq : s.ifaceDown props this = s₁.setObj this (f, d) := by
    rw [← hs₂, ← hs₁]
    rfl
  rw [heq]
  refine ⟨⟨hdown.mIface, fun x hx hxp => ?_, fun x hx => ?_⟩, ?_⟩
  · rw [setObj_of_ne _ hx, hdown.other x hx hxp]
  · rw [setObj_of_ne _ (hne x hx), hdown.peer x hx]
  · rw [ownedBy_congr _ _ fun x hx => setObj_of_ne s₁ (hne x hx) _]
    exact hd₂

/-- `handle_iface_down`. -/
theorem handleIfaceDown_inv {s : LanToLan} (h : Inv props s) (this : LanId) : Inv props (s.handleIfaceDown props this) := by
  simp only [handleIfaceDown]
  split
  next ha =>
    obtain ⟨m, hd, -⟩ := h.exchange ha
    exact h.remove ha (ifaceDown_holds h ha hd).1 fun m hd => (ifaceDown_holds h ha hd).2
  next => exact ⟨h.nodup, h.loc, h.peers, h.flt, h.holds⟩

end LanToLan
end HiaeCommon
