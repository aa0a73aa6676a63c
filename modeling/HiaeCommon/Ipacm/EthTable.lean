/-
The Ethernet client table of an `IPACM_Lan`, over whole runs with every driver
call succeeding: who is in it, how many they are, and that what was obtained
from the driver for them is either listed or has been deleted once. Unlike the
WLAN table it needs no condition on the events: `handle_eth_hdr_init` looks the
client up first, and the removal copies every field of a record.
-/
import HiaeCommon.Ipacm.ClientOthers
import HiaeCommon.Lib.Run

namespace HiaeCommon

open Outside (AllSucceed)

variable {D : IpaDriver}

/-- A table nobody is in yet. -/
def ClientTable.empty : ClientTable Unit := ⟨0, fun _ => { own := () }⟩

theorem ClientTable.empty_inOrder (max : Nat) (tx : List TxProp) : ClientTable.empty.InOrder max tx :=
  ⟨Nat.zero_le _, fun _ _ hi => absurd hi (Nat.not_lt_zero _), fun _ => ⟨fun h => (nomatch h), fun h => nomatch h⟩⟩

/-- The record behind those in use is written. -/
theorem ClientTable.set_free {σ : Type} {tx : List TxProp} {max : Nat} {t : ClientTable σ} {s u : Multiset Nat} {o : Outside}
    (h : t.InOrder max tx) (hh : t.Held tx s u o) {c : Client σ} (hc : c.HeadersBacked tx) :
    (t.set t.num c).InOrder max tx ∧ (t.set t.num c).Held tx s u o := by
  have hslot : ∀ k, k < t.num → (t.set t.num c).slot k = t.slot k := fun k hk => set_slot_ne _ (Nat.ne_of_lt hk) _
  refine ⟨⟨h.num_le, fun i j hi hj hm => ?_, fun i => ?_⟩, Outside.Keeps.of_eq hh ?_ ?_⟩
  · rw [hslot i hi, hslot j hj] at hm
    exact h.distinct i j hi hj hm
  · by_cases hi : i = t.num
    · rw [hi, set_slot_self]
      exact hc
    · rw [set_slot_ne _ hi]
      exact h.backed i
  · exact congrArg (· + s) (Finset.sum_congr rfl fun k hk => by rw [hslot k (Finset.mem_range.1 hk)])
  · exact congrArg (· + u) (Finset.sum_congr rfl fun k hk => by rw [hslot k (Finset.mem_range.1 hk)])

namespace EthLan

variable {l : EthLan} {s u : Multiset Nat} {o : Outside}

/-- One header of a new client. -/
theorem addHeader_adds (hD : AllSucceed D) (l : EthLan) (ip : IpType) (set : Client Unit → Nat → Client Unit) (macAddr : MacAddr) :
    Client.AddsHeader l.txProp id ip set (l.addHeader D ip set macAddr) := by
  intro c o s u h
  unfold addHeader
  cases hf : l.txProp.find? fun t => t.ip = ip with
  | none => exact .inr ⟨fun t ht => by simpa using List.find?_eq_none.1 hf t ht, by dsimp only⟩
  | some t =>
    obtain ⟨o₁, hcopy, h1⟩ := Outside.copyHeader_keeps hD h
    obtain ⟨k, o₂, hadd, h2⟩ := Outside.addHeader_keeps hD h1 ⟨ip, t.hdrName, l.hdrAttribs t.hdrName macAddr, l.headerNameCount⟩
    refine .inl ⟨⟨t, List.mem_of_find?_eq_some hf, by simpa using List.find?_some hf⟩, k, o₂, ?_, h2⟩
    simp only [hcopy, hadd, id]

/-- The table in order, and the driver holding what it lists. -/
structure Ok (l : EthLan) (s u : Multiset Nat) (o : Outside) : Prop where
  inOrder : l.ethClient.InOrder ipaMaxNumEthClients l.txProp
  held : l.ethClient.Held l.txProp s u o

theorem handleEthHdrInit_ok (hD : AllSucceed D) (macAddr : MacAddr) (h : l.Ok s u o) :
    (l.handleEthHdrInit D macAddr o).2.1.Ok s u (l.handleEthHdrInit D macAddr o).2.2 := by
  unfold handleEthHdrInit
  dsimp only
  cases hidx : l.ethClient.index macAddr with
  | some i => exact h
  | none =>
    by_cases hroom : l.ethClient.num ≥ ipaMaxNumEthClients
    · rw [if_pos hroom]
      exact h
    rw [if_neg hroom]
    have hb : ({ l.ethClient.slot l.ethClient.num with mac := macAddr } : Client Unit).HeadersBacked l.txProp :=
      ⟨(h.inOrder.backed _).hdr4, (h.inOrder.backed _).hdr6⟩
    by_cases htx : l.txProp = []
    · rw [if_pos htx]
      obtain ⟨h1, h2⟩ := ClientTable.set_free h.inOrder h.held hb
      exact ⟨h1, h2⟩
    · rw [if_neg htx]
      obtain ⟨c₁, o₁, c₂, o₂, h4, h6, hmac, hf, hk⟩ := Client.newHeaders_keeps (addHeader_adds hD l .v4 Client.withHdrV4 macAddr)
        (addHeader_adds hD l .v6 Client.withHdrV6 macAddr) (fun _ => rfl) hb h.held
      rw [h4]
      dsimp only
      rw [h6]
      refine ⟨h.inOrder.push (Nat.lt_of_not_le hroom) (fun i hi heq => ?_) ⟨hf.hdr4, hf.hdr6⟩, ClientTable.held_push (hk.of_eq ?_ rfl)⟩
      · rw [hmac] at heq
        exact ClientTable.index_none.1 hidx i hi (heq.trans (ite_self _))
      · show _ = ((c₂.routesOff.rtHdls l.txProp : List Nat) : Multiset Nat) + _
        rw [Client.rtHdls_routesOff, Multiset.coe_nil, zero_add]

theorem handleEthClientIpaddr_ok (hD : AllSucceed D) (data : EventDataAll) (h : l.Ok s u o) :
    (l.handleEthClientIpaddr D data o).2.1.Ok s u (l.handleEthClientIpaddr D data o).2.2 := by
  have hc := ClientTable.clientIpaddr_conserves hD l.ipv6Prefix data h.held
  exact ⟨h.inOrder.conserves hc, hc.held⟩

theorem handleEthClientRouteRule_ok (hD : AllSucceed D) (macAddr : MacAddr) (iptype : IpType) (h : l.Ok s u o) :
    (l.handleEthClientRouteRule D macAddr iptype o).2.1.Ok s u (l.handleEthClientRouteRule D macAddr iptype o).2.2.1 := by
  unfold handleEthClientRouteRule
  split
  · exact h
  split
  · exact h
  next i hi =>
    have hc := ClientTable.addRules_conserves hD l.rules iptype h.held (ClientTable.index_some hi).1
    exact ⟨h.inOrder.conserves hc, hc.held⟩

/-- **A client's removal** keeps the table in order and leaves the others' records. -/
theorem handleEthClientDownEvt_ok (hD : AllSucceed D) (macAddr : MacAddr) (h : l.Ok s u o) :
    (l.handleEthClientDownEvt D macAddr o).2.1.Ok s u (l.handleEthClientDownEvt D macAddr o).2.2.1 ∧
      l.ethClient.LeavesOthers l.txProp macAddr (l.handleEthClientDownEvt D macAddr o).2.1.ethClient := by
  unfold handleEthClientDownEvt EthClients.handleEthClientDownEvt
  cases hidx : l.ethClient.index macAddr with
  | none =>
    simp only [ClientTable.clientDown_none hidx]
    exact ⟨h, ClientTable.LeavesOthers.refl _⟩
  | some i =>
    obtain ⟨c, o', hr, hown, hc, hh⟩ := ClientTable.clientDown_deletes hD hidx h.held
    simp only [hr]
    exact ⟨⟨h.inOrder.removed (ClientTable.index_some hidx).1 hc, hh⟩, h.inOrder.distinct.leavesOthers hidx hown fun _ _ _ => rfl⟩

end EthLan

namespace EthSys

variable {sys : EthSys} {s u : Multiset Nat}

/-- **One event** keeps the table in order, and accounts for what it obtained. -/
theorem step_ok (hD : AllSucceed D) (e : EthEvt) (h : sys.lan.Ok s u sys.outside) : (sys.step D e).lan.Ok s u (sys.step D e).outside := by
  cases e with
  | clientAdd macAddr => exact EthLan.handleEthHdrInit_ok hD macAddr h
  | clientAddr data => exact EthLan.handleEthClientIpaddr_ok hD data h
  | routeAdd macAddr iptype => exact EthLan.handleEthClientRouteRule_ok hD macAddr iptype h
  | clientDel macAddr => exact (EthLan.handleEthClientDownEvt_ok hD macAddr h).1

theorem run_ok (hD : AllSucceed D) (es : List EthEvt) (h : sys.lan.Ok s u sys.outside) :
    (sys.run D es).lan.Ok s u (sys.run D es).outside := by
  induction es generalizing sys with
  | nil => exact h
  | cons e es ih => exact ih (step_ok hD e h)

/-- An interface with one property. -/
def sample : EthSys where
  lan :=
    { txProp := sampleTx, rmName := .usbCons, ethClient := .empty, ipv6Prefix := 0, appsLanCons := 17,
      eth2Ofst := fun _ => (true, 0), bridgeMac := none, headerNameCount := 0 }

/-- Two clients come and one of them goes. -/
def sampleEvents : List EthEvt := [.clientAdd 1, .clientAdd 2, .clientAddr ⟨.v4, 0, 7, 0, 2⟩, .routeAdd 2 .v4, .clientDel 1]

end EthSys
end HiaeCommon
