/-
What an interface of the LAN-to-LAN controller owns of the driver, and what
each function of `IPACM_LanToLan_Iface` exchanges for it: it keeps exactly what
it holds installed, whatever else is installed beside it.
-/
import HiaeCommon.Ipacm.LanToLan

namespace HiaeCommon

open Function (update)
open Lib (Handles Ledger)
open Lib.Ledger (Holds series)

namespace LanIface

variable {H : Handles} {props : LanId → LanProps} {this : LanId}

/-- A collection of installed rules, with their handles. -/
abbrev Installed := Multiset (Nat × EthBridgeRule)

/-! ## Routing rules -/

/-- The routing rules of a client for one header type. -/
def rtOwn (this : LanId) (mac : MacAddr) (t : HdrL2Type) (tbl : PerIp String) (ctx : Nat) (hdls : RtRuleInfo) : Installed :=
  series (fun i => .rt this mac .v4 t tbl.v4 ctx i) hdls.v4 + series (fun i => .rt this mac .v6 t tbl.v6 ctx i) hdls.v6

/-- As many handles as the interface has rules for a client. -/
def Counted (props : LanId → LanProps) (this : LanId) (hdls : RtRuleInfo) : Prop :=
  hdls.v4.length = (props this).rtRuleCount.v4 ∧ hdls.v6.length = (props this).rtRuleCount.v6

theorem ethBridgeAddRtRule_counted (mac : MacAddr) (t : HdrL2Type) (tbl : PerIp String) (ctx : Nat) (d : BridgeDrv) :
    Counted props this (ethBridgeAddRtRule H props this mac t tbl ctx d).1 :=
  ⟨Ledger.addN_length _ _ _ _, Ledger.addN_length _ _ _ _⟩

theorem ethBridgeAddRtRule_holds {d : BridgeDrv} {m : Installed} (h : Holds d m) (mac : MacAddr) (t : HdrL2Type)
    (tbl : PerIp String) (ctx : Nat) :
    Holds (ethBridgeAddRtRule H props this mac t tbl ctx d).2
      (rtOwn this mac t tbl ctx (ethBridgeAddRtRule H props this mac t tbl ctx d).1 + m) := by
  have h4 := h.addN (H := H) (fun i => .rt this mac .v4 t tbl.v4 ctx i) (props this).rtRuleCount.v4
  have h6 := h4.addN (H := H) (fun i => .rt this mac .v6 t tbl.v6 ctx i) (props this).rtRuleCount.v6
  refine h6.of_eq ?_
  rw [add_left_comm, ← add_assoc]
  rfl

theorem ethBridgeDelRtRule_holds {d : BridgeDrv} {m : Installed} {mac : MacAddr} {t : HdrL2Type} {tbl : PerIp String}
    {ctx : Nat} {hdls : RtRuleInfo} (h : Holds d (rtOwn this mac t tbl ctx hdls + m)) :
    Holds (ethBridgeDelRtRule hdls d) m :=
  Holds.delAll _ (Holds.delAll _ (h.of_eq (add_assoc _ _ _)))

/-! ## Filter rules -/

/-- The filter rules of a client entry, for the families `asg`. -/
def entryOwn (this : LanId) (asg : IpIndex → Bool) (tbl : PerIp String) (e : FltRuleInfo) : Installed :=
  (if asg .v4 then {(e.fltRuleHdl.v4, .flt this e.pClient .v4 tbl.v4)} else 0) +
    if asg .v6 then {(e.fltRuleHdl.v6, .flt this e.pClient .v6 tbl.v6)} else 0

/-- The filter rules of a list, `q` telling for which client and family there is one. -/
def fltOwn (this : LanId) (q : MacAddr → IpIndex → Bool) (tbl : PerIp String) (l : List FltRuleInfo) : Installed :=
  (l.map fun e => entryOwn this (q e.pClient) tbl e).sum

def fltClients (l : List FltRuleInfo) : List MacAddr := l.map (·.pClient)

theorem fltOwn_congr {q q' : MacAddr → IpIndex → Bool} {tbl : PerIp String} {l : List FltRuleInfo}
    (h : ∀ m ∈ fltClients l, q m = q' m) : fltOwn this q tbl l = fltOwn this q' tbl l := by
  unfold fltOwn
  congr 1
  exact List.map_congr_left fun e he => by rw [h _ (List.mem_map_of_mem he)]

/-- The families with an address. -/
def assigned (f : LanIface) : IpIndex → Bool := f.isIpAddrAssigned.get

theorem ethBridgeDelFltRule_holds {f : LanIface} {e : FltRuleInfo} {tbl : PerIp String} {d : BridgeDrv} {m : Installed}
    (h : Holds d (entryOwn this f.assigned tbl e + m)) : Holds (f.ethBridgeDelFltRule e d) m := by
  simp only [entryOwn, assigned, PerIp.get] at h
  simp only [ethBridgeDelFltRule]
  cases h4 : f.isIpAddrAssigned.v4 <;> cases h6 : f.isIpAddrAssigned.v6 <;>
    simp only [h4, h6, if_true, if_false, Bool.false_eq_true, zero_add, add_zero, add_assoc] at h ⊢
  · exact h
  · exact h.del
  · exact h.del
  · exact h.del.del

theorem clearAllFltRule_holds {f : LanIface} {tbl : PerIp String} {l : List FltRuleInfo} :
    ∀ {d : BridgeDrv} {m : Installed}, Holds d (fltOwn this (fun _ => f.assigned) tbl l + m) →
      Holds (f.clearAllFltRule l d) m := by
  induction l with
  | nil => intro d m h; simpa [fltOwn, clearAllFltRule] using h
  | cons e l ih =>
    intro d m h
    simp only [fltOwn, List.map_cons, List.sum_cons, add_assoc] at h
    exact ih (ethBridgeDelFltRule_holds h)

theorem setFltRule_clients (mac : MacAddr) (ip : IpIndex) (hdl : Nat) (l : List FltRuleInfo) :
    fltClients (setFltRule mac ip hdl l) = fltClients l := by
  induction l with
  | nil => rfl
  | cons e l ih =>
    simp only [setFltRule]
    split
    · rfl
    · simp only [fltClients, List.map_cons] at ih ⊢
      rw [ih]

/-- The rules wanted so far, and one more. -/
def want (q : MacAddr → IpIndex → Bool) (mac : MacAddr) (ip : IpIndex) (m : MacAddr) (i : IpIndex) : Bool :=
  if m = mac ∧ i = ip then true else q m i

theorem entryOwn_set (this : LanId) (q : MacAddr → IpIndex → Bool) (tbl : PerIp String) (e : FltRuleInfo) {ip : IpIndex}
    (hq : q e.pClient ip = false) (hdl : Nat) :
    entryOwn this (want q e.pClient ip e.pClient) tbl { e with fltRuleHdl := e.fltRuleHdl.set ip hdl } =
      {(hdl, .flt this e.pClient ip (tbl.get ip))} + entryOwn this (q e.pClient) tbl e := by
  cases ip with
  | v4 => simp [entryOwn, want, PerIp.set, PerIp.get, hq]
  | v6 => simp [entryOwn, want, PerIp.set, PerIp.get, hq, add_comm]

theorem setFltRule_own {q : MacAddr → IpIndex → Bool} {tbl : PerIp String} {mac : MacAddr} {ip : IpIndex}
    {l : List FltRuleInfo} (hq : q mac ip = false) (hmem : mac ∈ fltClients l) (hnd : (fltClients l).Nodup) (hdl : Nat) :
    fltOwn this (want q mac ip) tbl (setFltRule mac ip hdl l) =
      {(hdl, .flt this mac ip (tbl.get ip))} + fltOwn this q tbl l := by
  induction l with
  | nil => simp [fltClients] at hmem
  | cons e l ih =>
    simp only [fltClients, List.map_cons, List.mem_cons, List.nodup_cons] at hmem hnd
    by_cases he : e.pClient = mac
    · subst he
      have hrest : fltOwn this (want q e.pClient ip) tbl l = fltOwn this q tbl l := fltOwn_congr fun m hm => by
        funext i
        have : m ≠ e.pClient := fun heq => hnd.1 (heq ▸ hm)
        simp [want, this]
      simp only [fltOwn] at hrest
      simp only [setFltRule, if_pos, fltOwn, List.map_cons, List.sum_cons, hrest]
      rw [entryOwn_set this q tbl e hq, add_assoc]
    · have hmem' : mac ∈ fltClients l := hmem.resolve_left (fun h => he h.symm)
      have := ih hmem' hnd.2
      simp only [fltOwn] at this
      simp only [setFltRule, if_neg he, fltOwn, List.map_cons, List.sum_cons, this]
      have hq' : want q mac ip e.pClient = q e.pClient := by
        funext i
        simp [want, he]
      rw [hq', add_left_comm]

/-- `add_client_flt_rule` installs the one rule, and enters the client if it is not yet there. -/
theorem addClientFltRule_holds {q : MacAddr → IpIndex → Bool} (peer : PeerIfaceInfo) (mac : MacAddr) (ip : IpIndex)
    {d : BridgeDrv} {m : Installed} (hnd : (fltClients peer.fltRule).Nodup) (hq : q mac ip = false)
    (hnew : mac ∉ fltClients peer.fltRule → ∀ i, q mac i = false)
    (h : Holds d (fltOwn this q peer.rtTblNameForFlt peer.fltRule + m)) :
    ∃ l, (addClientFltRule H this peer mac ip d).1 = { peer with fltRule := l } ∧ (fltClients l).Nodup ∧
      (∀ m, m ∈ fltClients l ↔ m ∈ fltClients peer.fltRule ∨ m = mac) ∧
      Holds (addClientFltRule H this peer mac ip d).2 (fltOwn this (want q mac ip) peer.rtTblNameForFlt l + m) := by
  have hadd := h.add (H := H) (.flt this mac ip (peer.rtTblNameForFlt.get ip))
  have hany : (peer.fltRule.any fun e => e.pClient = mac) = true ↔ mac ∈ fltClients peer.fltRule := by
    simp [fltClients, List.any_eq_true]
  by_cases hmem : mac ∈ fltClients peer.fltRule
  · refine ⟨setFltRule mac ip (d.add H (.flt this mac ip (peer.rtTblNameForFlt.get ip))).1 peer.fltRule, ?_, ?_, ?_, ?_⟩
    · simp only [addClientFltRule, if_pos (hany.2 hmem)]
    · rwa [setFltRule_clients]
    · intro m
      rw [setFltRule_clients]
      exact ⟨.inl, fun h => h.elim id fun h => h ▸ hmem⟩
    · simp only [addClientFltRule, if_pos (hany.2 hmem)]
      rw [setFltRule_own hq hmem hnd]
      exact hadd.of_eq (add_assoc _ _ _).symm
  · refine ⟨⟨mac, (⟨0, 0⟩ : PerIp Nat).set ip (d.add H (.flt this mac ip (peer.rtTblNameForFlt.get ip))).1⟩ ::
      peer.fltRule, ?_, ?_, ?_, ?_⟩
    · simp only [addClientFltRule, if_neg (mt hany.1 hmem)]
    · simpa [fltClients] using ⟨by simpa [fltClients] using hmem, by simpa [fltClients] using hnd⟩
    · intro m
      simp only [fltClients, List.map_cons, List.mem_cons]
      exact Or.comm
    · simp only [addClientFltRule, if_neg (mt hany.1 hmem)]
      have hrest : fltOwn this (want q mac ip) peer.rtTblNameForFlt peer.fltRule =
          fltOwn this q peer.rtTblNameForFlt peer.fltRule := fltOwn_congr fun m hm => by
        funext i
        have : m ≠ mac := fun heq => hmem (heq ▸ hm)
        simp [want, this]
      have hfirst := entryOwn_set this q peer.rtTblNameForFlt ⟨mac, ⟨0, 0⟩⟩ hq
        (d.add H (.flt this mac ip (peer.rtTblNameForFlt.get ip))).1
      have hzero : entryOwn this (q mac) peer.rtTblNameForFlt ⟨mac, ⟨0, 0⟩⟩ = 0 := by
        simp [entryOwn, hnew hmem]
      rw [hzero, add_zero] at hfirst
      simp only [fltOwn] at hrest h hadd ⊢
      rw [List.map_cons, List.sum_cons, hrest, hfirst]
      exact hadd.of_eq (add_assoc _ _ _).symm

/-- The two calls enter a client that is not yet there, with the rules of all assigned families. -/
theorem addClientFltRules_holds {f : LanIface} {peer : PeerIfaceInfo} {mac : MacAddr} {d : BridgeDrv} {m : Installed}
    (hasg : f.isIpAddrAssigned.v4 = true ∨ f.isIpAddrAssigned.v6 = true) (hnd : (fltClients peer.fltRule).Nodup)
    (hnew : mac ∉ fltClients peer.fltRule)
    (h : Holds d (fltOwn this (fun _ => f.assigned) peer.rtTblNameForFlt peer.fltRule + m)) :
    ∃ l, (f.addClientFltRules H this mac peer d).1 = { peer with fltRule := l } ∧ (fltClients l).Nodup ∧
      (∀ m, m ∈ fltClients l ↔ m ∈ fltClients peer.fltRule ∨ m = mac) ∧
      Holds (f.addClientFltRules H this mac peer d).2 (fltOwn this (fun _ => f.assigned) peer.rtTblNameForFlt l + m) := by
  -- the client has no rule at first
  let q : MacAddr → IpIndex → Bool := fun m i => if m = mac then false else f.assigned i
  have hq0 : fltOwn this (fun _ => f.assigned) peer.rtTblNameForFlt peer.fltRule =
      fltOwn this q peer.rtTblNameForFlt peer.fltRule := fltOwn_congr fun m hm => by
    funext i
    have : m ≠ mac := fun heq => hnew (heq ▸ hm)
    simp [q, this]
  have hqm : ∀ i, q mac i = false := fun i => by simp [q]
  rw [hq0] at h
  have hfin : ∀ (q' : MacAddr → IpIndex → Bool) (l : List FltRuleInfo), (∀ m i, m ≠ mac → q' m i = f.assigned i) →
      (∀ i, q' mac i = f.assigned i) →
      fltOwn this q' peer.rtTblNameForFlt l = fltOwn this (fun _ => f.assigned) peer.rtTblNameForFlt l :=
    fun q' l hne he => fltOwn_congr fun m _ => by
      funext i
      by_cases hm : m = mac
      · rw [hm, he]
      · rw [hne m i hm]
  simp only [addClientFltRules]
  cases h4 : f.isIpAddrAssigned.v4 with
  | false =>
    have h6 : f.isIpAddrAssigned.v6 = true := by simpa [h4] using hasg
    obtain ⟨l, hl, hlnd, hlm, hld⟩ := addClientFltRule_holds (H := H) peer mac .v6 hnd (hqm _) (fun _ => hqm) h
    refine ⟨l, ?_, hlnd, hlm, ?_⟩
    · simp only [h6, if_true, Bool.false_eq_true, if_false, hl]
    · simp only [h6, if_true, Bool.false_eq_true, if_false]
      rw [hfin _ l (fun m i hm => by simp [want, hm, q])
        (fun i => by cases i <;> simp [want, q, assigned, PerIp.get, h4, h6])] at hld
      exact hld
  | true =>
    obtain ⟨l, hl, hlnd, hlm, hld⟩ := addClientFltRule_holds (H := H) peer mac .v4 hnd (hqm _) (fun _ => hqm) h
    cases h6 : f.isIpAddrAssigned.v6 with
    | false =>
      refine ⟨l, ?_, hlnd, hlm, ?_⟩
      · simp only [if_true, Bool.false_eq_true, if_false, hl]
      · simp only [if_true, Bool.false_eq_true, if_false]
        rw [hfin _ l (fun m i hm => by simp [want, hm, q])
          (fun i => by cases i <;> simp [want, q, assigned, PerIp.get, h4, h6])] at hld
        exact hld
    | true =>
      have hin : mac ∈ fltClients l := (hlm mac).2 (.inr rfl)
      have hq6 : want q mac .v4 mac .v6 = false := by simp [want, q]
      obtain ⟨l', hl', hlnd', hlm', hld'⟩ :=
        addClientFltRule_holds (H := H) { peer with fltRule := l } mac .v6 hlnd hq6 (fun h => absurd hin h) hld
      refine ⟨l', ?_, hlnd', ?_, ?_⟩
      · simp only [if_true, hl, hl']
      · intro m
        rw [hlm', hlm]
        exact ⟨fun h => h.elim id .inr, .inl⟩
      · simp only [if_true, hl]
        rw [hfin _ l' (fun m i hm => by simp [want, hm, q])
          (fun i => by cases i <;> simp [want, q, assigned, PerIp.get, h4, h6])] at hld'
        exact hld'

/-- The loops over clients install one rule for each. -/
theorem addAllClientFltRule_holds {ip : IpIndex} (macs : List MacAddr) :
    ∀ {q : MacAddr → IpIndex → Bool} (peer : PeerIfaceInfo) {d : BridgeDrv} {m : Installed}, macs.Nodup →
      (fltClients peer.fltRule).Nodup → (∀ mac ∈ macs, q mac ip = false) →
      (∀ mac ∈ macs, mac ∉ fltClients peer.fltRule → ∀ i, q mac i = false) →
      Holds d (fltOwn this q peer.rtTblNameForFlt peer.fltRule + m) →
      ∃ l, (addAllClientFltRule H this ip macs peer d).1 = { peer with fltRule := l } ∧ (fltClients l).Nodup ∧
        (∀ m, m ∈ fltClients l ↔ m ∈ fltClients peer.fltRule ∨ m ∈ macs) ∧
        Holds (addAllClientFltRule H this ip macs peer d).2
          (fltOwn this (fun m i => q m i || (decide (m ∈ macs) && decide (i = ip))) peer.rtTblNameForFlt l + m) := by
  induction macs with
  | nil =>
    intro q peer d m _ hnd _ _ h
    exact ⟨peer.fltRule, rfl, hnd, fun m => by simp, by simpa [addAllClientFltRule] using h⟩
  | cons mac macs ih =>
    intro q peer d m hmacs hnd hq hnew h
    obtain ⟨hnot, hmacs⟩ := List.nodup_cons.1 hmacs
    obtain ⟨l, hl, hlnd, hlm, hld⟩ := addClientFltRule_holds (H := H) peer mac ip hnd (hq mac (by simp)) (hnew mac (by simp)) h
    have hne : ∀ m ∈ macs, m ≠ mac := fun m hm heq => hnot (heq ▸ hm)
    obtain ⟨l', hl', hlnd', hlm', hld'⟩ := ih (q := want q mac ip) { peer with fltRule := l } hmacs hlnd
      (fun m hm => by simp only [want, hne m hm, false_and, if_false]; exact hq m (by simp [hm]))
      (fun m hm hml i => by
        simp only [want, hne m hm, false_and, if_false]
        exact hnew m (by simp [hm]) (fun h => hml ((hlm m).2 (.inl h))) i) hld
    refine ⟨l', ?_, hlnd', ?_, ?_⟩
    · simp only [addAllClientFltRule, hl, hl']
    · intro m
      rw [hlm', hlm, List.mem_cons, or_assoc]
    · simp only [addAllClientFltRule, hl]
      refine hld'.of_eq ?_
      congr 1
      refine fltOwn_congr fun m _ => ?_
      funext i
      by_cases hm : m = mac
      · subst hm
        by_cases hi : i = ip <;> simp [want, hi, hnot]
      · simp [want, hm]

/-- With one family more, each client has its rules for all of them. `asg` are the families before. -/
theorem addAllClientFltRule_family {f : LanIface} {ip : IpIndex} (asg : IpIndex → Bool) {macs : List MacAddr}
    (peer : PeerIfaceInfo) {d : BridgeDrv} {m : Installed} (hip : asg ip = false)
    (hother : ∀ i, i ≠ ip → asg i = f.assigned i) (hnow : f.assigned ip = true) (hmacs : macs.Nodup)
    (hnd : (fltClients peer.fltRule).Nodup) (hsub : ∀ m ∈ fltClients peer.fltRule, m ∈ macs)
    (hnew : ∀ mac ∈ macs, mac ∉ fltClients peer.fltRule → ∀ i, asg i = false)
    (h : Holds d (fltOwn this (fun _ => asg) peer.rtTblNameForFlt peer.fltRule + m)) :
    ∃ l, (addAllClientFltRule H this ip macs peer d).1 = { peer with fltRule := l } ∧ (fltClients l).Nodup ∧
      (∀ m, m ∈ fltClients l ↔ m ∈ macs) ∧
      Holds (addAllClientFltRule H this ip macs peer d).2 (fltOwn this (fun _ => f.assigned) peer.rtTblNameForFlt l + m) := by
  obtain ⟨l, hl, hlnd, hlm, hld⟩ := addAllClientFltRule_holds (H := H) (q := fun _ => asg) macs peer hmacs hnd
    (fun _ _ => hip) hnew h
  have hmem : ∀ m, m ∈ fltClients l ↔ m ∈ macs := fun m => by
    rw [hlm]
    exact ⟨fun h => h.elim (hsub m) id, .inr⟩
  refine ⟨l, hl, hlnd, hmem, hld.of_eq ?_⟩
  congr 1
  refine fltOwn_congr fun m hm => ?_
  funext i
  by_cases hi : i = ip
  · simp [hi, hip, hnow, (hmem m).1 hm]
  · simp [hi, hother i hi]

/-- `del_client_flt_rule` removes the entry of the client and its rules. -/
theorem eraseFltRule_holds {f : LanIface} (mac : MacAddr) {tbl : PerIp String} {l : List FltRuleInfo} :
    ∀ {d : BridgeDrv} {m : Installed}, Holds d (fltOwn this (fun _ => f.assigned) tbl l + m) →
      fltClients (f.eraseFltRule mac l d).1 = (fltClients l).erase mac ∧
      Holds (f.eraseFltRule mac l d).2 (fltOwn this (fun _ => f.assigned) tbl (f.eraseFltRule mac l d).1 + m) := by
  induction l with
  | nil => intro d m h; exact ⟨rfl, h⟩
  | cons e l ih =>
    intro d m h
    simp only [fltOwn, List.map_cons, List.sum_cons, add_assoc] at h
    by_cases he : e.pClient = mac
    · simp only [eraseFltRule, if_pos he]
      refine ⟨?_, ethBridgeDelFltRule_holds h⟩
      simp only [fltClients, List.map_cons]
      rw [← he, List.erase_cons_head]
    · obtain ⟨hc, hd⟩ := ih (h.of_eq (add_left_comm _ _ _))
      simp only [eraseFltRule, if_neg he]
      refine ⟨?_, ?_⟩
      · simp only [fltClients, List.map_cons] at hc ⊢
        rw [hc, List.erase_cons_tail (by simpa using he)]
      · simp only [fltOwn, List.map_cons, List.sum_cons] at hd ⊢
        exact hd.of_eq (by rw [add_left_comm, add_assoc])

/-! ## The peers of an interface -/

def peerIds (f : LanIface) : List LanId := f.peerIfaceInfo.map (·.peer)

/-- The filter rules kept for the clients of a peer. -/
def fltOf (f : LanIface) (b : LanId) : List FltRuleInfo :=
  ((f.peerIfaceInfo.find? fun p => p.peer = b).map (·.fltRule)).getD []

def setFlt (f : LanIface) (b : LanId) (l : List FltRuleInfo) : LanIface :=
  { f with peerIfaceInfo := f.peerIfaceInfo.map fun p => if p.peer = b then { p with fltRule := l } else p }

/-- The MAC addresses of the clients. -/
def macs (f : LanIface) : List MacAddr := f.clientInfo.map (·.macAddr)

@[simp] theorem peerIds_setFlt (f : LanIface) (b : LanId) (l : List FltRuleInfo) : (f.setFlt b l).peerIds = f.peerIds := by
  simp only [peerIds, setFlt, List.map_map]
  refine List.map_congr_left fun p _ => ?_
  simp only [Function.comp_apply]
  split <;> rfl

theorem fltOf_setFlt_of_ne (f : LanIface) {b b' : LanId} (h : b' ≠ b) (l : List FltRuleInfo) :
    (f.setFlt b l).fltOf b' = f.fltOf b' := by
  simp only [fltOf, setFlt]
  induction f.peerIfaceInfo with
  | nil => rfl
  | cons p ps ih =>
    by_cases hp : p.peer = b'
    · have hne : p.peer ≠ b := fun heq => h (hp ▸ heq)
      simp [hp, h]
    · by_cases hb : p.peer = b
      · simpa [hb, Ne.symm h, List.find?_cons] using ih
      · simpa [hb, hp, List.find?_cons] using ih

/-- The entry of a peer, in its place. -/
theorem exists_peer {f : LanIface} {b : LanId} (hnd : f.peerIds.Nodup) (hb : b ∈ f.peerIds) :
    ∃ l₁ p l₂, f.peerIfaceInfo = l₁ ++ p :: l₂ ∧ p.peer = b ∧ (∀ x ∈ l₁, x.peer ≠ b) ∧ (∀ x ∈ l₂, x.peer ≠ b) ∧
      p.fltRule = f.fltOf b ∧
      ∀ l, (f.setFlt b l).peerIfaceInfo = l₁ ++ { p with fltRule := l } :: l₂ := by
  obtain ⟨p, hp, rfl⟩ := List.mem_map.1 hb
  obtain ⟨l₁, l₂, hl⟩ := List.append_of_mem hp
  rw [peerIds, hl, List.map_append, List.map_cons, List.nodup_append] at hnd
  obtain ⟨-, h2, hdisj⟩ := hnd
  have h₁ : ∀ x ∈ l₁, x.peer ≠ p.peer := fun x hx => hdisj _ (List.mem_map_of_mem hx) _ (by simp)
  have h₂ : ∀ x ∈ l₂, x.peer ≠ p.peer := fun x hx heq => (List.nodup_cons.1 h2).1 (heq ▸ List.mem_map_of_mem hx)
  refine ⟨l₁, p, l₂, hl, rfl, h₁, h₂, ?_, fun l => ?_⟩
  · have : l₁.find? (fun x => decide (x.peer = p.peer)) = none :=
      List.find?_eq_none.2 fun x hx => by simpa using h₁ x hx
    simp [fltOf, hl, List.find?_append, this]
  · have e₁ : l₁.map (fun x => if x.peer = p.peer then { x with fltRule := l } else x) = l₁ := by
      conv_rhs => rw [← List.map_id l₁]
      exact List.map_congr_left fun x hx => if_neg (h₁ x hx)
    have e₂ : l₂.map (fun x => if x.peer = p.peer then { x with fltRule := l } else x) = l₂ := by
      conv_rhs => rw [← List.map_id l₂]
      exact List.map_congr_left fun x hx => if_neg (h₂ x hx)
    simp only [setFlt, hl, List.map_append, List.map_cons, if_true, e₁, e₂]

theorem fltOf_of_mem {f : LanIface} (hnd : f.peerIds.Nodup) {p : PeerIfaceInfo} (hp : p ∈ f.peerIfaceInfo) :
    f.fltOf p.peer = p.fltRule := by
  obtain ⟨l₁, q, l₂, hl, hq, h₁, h₂, hflt, -⟩ := exists_peer hnd (List.mem_map_of_mem hp)
  rw [← hflt]
  rw [hl] at hp
  cases List.mem_append.1 hp with
  | inl h => exact absurd rfl (h₁ p h)
  | inr h =>
    cases List.mem_cons.1 h with
    | inl h => rw [h]
    | inr h => exact absurd rfl (h₂ p h)

theorem fltOf_setFlt_self {f : LanIface} {b : LanId} (hnd : f.peerIds.Nodup) (hb : b ∈ f.peerIds) (l : List FltRuleInfo) :
    (f.setFlt b l).fltOf b = l := by
  obtain ⟨l₁, p, l₂, -, hp, -, -, -, hset⟩ := exists_peer hnd hb
  have := fltOf_of_mem (f := f.setFlt b l) (by simpa using hnd) (p := { p with fltRule := l })
    (by rw [hset]; simp)
  rwa [hp] at this

/-- The loop over the peers that stops at `b` changes the entry of `b`. -/
theorem first_peer {f : LanIface} {b : LanId} (hnd : f.peerIds.Nodup) (hb : b ∈ f.peerIds) :
    ∃ p ∈ f.peerIfaceInfo, p.peer = b ∧ p.fltRule = f.fltOf b ∧
      ∀ (g : PeerIfaceInfo → BridgeDrv → PeerIfaceInfo × BridgeDrv) (d : BridgeDrv) (l : List FltRuleInfo),
        (g p d).1 = { p with fltRule := l } →
        d.first (fun p => decide (p.peer = b)) g f.peerIfaceInfo = ((f.setFlt b l).peerIfaceInfo, (g p d).2) := by
  obtain ⟨l₁, p, l₂, hl, hp, h₁, -, hflt, hset⟩ := exists_peer hnd hb
  refine ⟨p, by rw [hl]; simp, hp, hflt, fun g d l hg => ?_⟩
  rw [hl, Ledger.first_append (by simpa using h₁) (by simpa using hp), hset, hg]

/-! ## What an interface owns -/

section Owned

variable (props this)

/-- The names in the entries are those of the two header types. -/
def Named (f : LanIface) : Prop :=
  ∀ p ∈ f.peerIfaceInfo, p.rtTblNameForFlt = rtTblName (props this).hdrL2Type (props p.peer).hdrL2Type ∧
    p.rtTblNameForRt = rtTblName (props p.peer).hdrL2Type (props this).hdrL2Type

/-- The filter rules for the clients of the peers. -/
def fltPart (f : LanIface) : Installed :=
  (f.peerIds.map fun b =>
    fltOwn this (fun _ => f.assigned) (rtTblName (props this).hdrL2Type (props b).hdrL2Type) (f.fltOf b)).sum

/-- The routing rules of a client for the header type `t` of a peer. -/
def clientRt (f : LanIface) (t : HdrL2Type) (c : ClientInfo) : Installed :=
  rtOwn this c.macAddr t (rtTblName t (props this).hdrL2Type) (f.hdrProcCtxInter t) (c.interIfaceRtRuleHdl t)

/-- The header processing context for a type, and the routing rules of the clients for it. -/
def typePart (f : LanIface) (t : HdrL2Type) : Installed :=
  {(f.hdrProcCtxInter t, .hdrProcCtx this t)} + (f.clientInfo.map (clientRt props this f t)).sum

/-- Those of the types that `r` counts. -/
def typesPart (r : HdrL2Type → Int) (f : LanIface) : Installed :=
  (if 0 < r .ethernetII then typePart props this f .ethernetII else 0) +
    if 0 < r .ieee8023 then typePart props this f .ieee8023 else 0

/-- The intra-interface routing rules of a client. -/
def clientIntra (f : LanIface) (c : ClientInfo) : Installed :=
  rtOwn this c.macAddr (props this).hdrL2Type rtTblNameIntra f.hdrProcCtxIntra c.intraIfaceRtRuleHdl

/-- What is installed for intra-interface traffic. -/
def intraPart (f : LanIface) : Installed :=
  if f.supportIntra then
    {(f.hdrProcCtxIntra, .hdrProcCtx this (props this).hdrL2Type)} +
      fltOwn this (fun _ => f.assigned) rtTblNameIntra f.intraInfo.fltRule +
      (f.clientInfo.map (clientIntra props this f)).sum
  else 0

/-- All that the interface has installed. -/
def owned (f : LanIface) : Installed :=
  fltPart props this f + typesPart props this f.refCnt f + intraPart props this f

end Owned

/-- The list of filter rules of one peer can be exchanged. -/
theorem fltPart_split (props : LanId → LanProps) (this : LanId) {f : LanIface} {b : LanId} (hnd : f.peerIds.Nodup) (hb : b ∈ f.peerIds) :
    ∃ rest, ∀ l, fltPart props this (f.setFlt b l) =
      fltOwn this (fun _ => f.assigned) (rtTblName (props this).hdrL2Type (props b).hdrL2Type) l + rest := by
  obtain ⟨l₁, l₂, hl⟩ := List.append_of_mem hb
  have hperm : f.peerIds.Perm (b :: (l₁ ++ l₂)) := by
    rw [hl]
    exact List.perm_middle
  have hnot : b ∉ l₁ ++ l₂ := (List.nodup_cons.1 (hperm.nodup_iff.1 hnd)).1
  refine ⟨((l₁ ++ l₂).map fun b' =>
    fltOwn this (fun _ => f.assigned) (rtTblName (props this).hdrL2Type (props b').hdrL2Type) (f.fltOf b')).sum, fun l => ?_⟩
  rw [fltPart, peerIds_setFlt, (hperm.map _).sum_eq, List.map_cons, List.sum_cons, fltOf_setFlt_self hnd hb]
  congr 2
  refine List.map_congr_left fun b' hb' => ?_
  have hne : b' ≠ b := fun heq => hnot (heq ▸ hb')
  rw [fltOf_setFlt_of_ne f hne]
  rfl

theorem setFlt_fltOf {f : LanIface} {b : LanId} (hnd : f.peerIds.Nodup) (hb : b ∈ f.peerIds) :
    f.setFlt b (f.fltOf b) = f := by
  obtain ⟨l₁, p, l₂, hl, -, -, -, hflt, hset⟩ := exists_peer hnd hb
  have := hset (f.fltOf b)
  rw [← hflt, ← hl] at this
  rw [← hflt]
  cases f
  simp only [setFlt] at this ⊢
  simp [this]

end LanIface
end HiaeCommon
