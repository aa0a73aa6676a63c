/-
The client tables of all access points, over whole runs with every driver call
succeeding: who is in them, how many they are, and that what was obtained from
the driver for them is either listed or has been deleted once.

Two steps break this. `handle_wlan_client_init_ex` does not look whether the
client is there already, and the removal of a client leaves `power_save_set` of
the records behind it where it is. The runs are those without such a step:
`Meets` says that a client that is added is new, and that from the client that
is removed on, the records agree about power save.
-/
import HiaeCommon.Ipacm.ClientOthers
import HiaeCommon.Ipacm.WlanEvents

namespace HiaeCommon

open Outside (AllSucceed)

variable {D : IpaDriver} {tx : List TxProp}

namespace Wlan

variable {w : Wlan}

/-- What holds of an access point's table. -/
structure Ok (w : Wlan) : Prop where
  num_le : w.wlanClient.num ≤ ipaMaxNumWifiClients
  distinct : w.wlanClient.Distinct
  flags : ∀ i, FlagsOk w.txProp (w.wlanClient.slot i)

theorem Ok.inOrder (h : w.Ok) : w.wlanClient.InOrder ipaMaxNumWifiClients w.txProp :=
  ⟨h.num_le, h.distinct, fun i => ⟨(h.flags i).hdr4, (h.flags i).hdr6⟩⟩

theorem ok_of_inOrder (h : w.wlanClient.InOrder ipaMaxNumWifiClients w.txProp) : w.Ok :=
  ⟨h.num_le, h.distinct, fun i => ⟨(h.backed i).hdr4, (h.backed i).hdr6⟩⟩

theorem Ok.conserves {w' : Wlan} {s u : Multiset Nat} {o' : Outside} (h : w.Ok) (hc : Conserves s u w w' o') : w'.Ok := by
  refine ok_of_inOrder ?_
  rw [hc.tx]
  have hheld : w'.wlanClient.Held w'.txProp s u o' := hc.held
  rw [hc.tx] at hheld
  exact h.inOrder.conserves ⟨hc.num, hc.mac, hc.hdr4, hc.hdr6, hheld⟩

/-- What a live access point counts for. -/
def liveNum (w : Wlan) : Int := if w.isActive then w.wlanClient.num else 0

def liveRt (w : Wlan) : Multiset Nat := if w.isActive then w.wlanClient.rtHdls w.txProp else 0

def liveHdr (w : Wlan) : Multiset Nat := if w.isActive then w.wlanClient.hdrHdls else 0

/-- The event keeps the MACs distinct, and the flags of those that stay. -/
def Meets (w : Wlan) (total : Int) : WlanEvt → Prop
  | .clientAddEx attribs => w.isActive = true → w.Adds total → ∀ i < w.wlanClient.num, (w.wlanClient.slot i).mac ≠ w.addedMac attribs
  | .clientDel mac => w.isActive = true → ∀ i, w.wlanClient.index mac = some i → ∀ k, i ≤ k → k + 1 < w.wlanClient.num →
      (w.wlanClient.slot k).own.powerSaveSet = (w.wlanClient.slot (k + 1)).own.powerSaveSet
  | _ => True

/-- The outcome of an event at an access point. -/
structure After (s u : Multiset Nat) (w : Wlan) (total : Int) (r : Wlan × Int × Outside) : Prop where
  ok : r.1.isActive = true → r.1.Ok
  held : r.2.2.Keeps (r.1.liveRt + s) (r.1.liveHdr + u)
  total : r.2.1 = total - w.liveNum + r.1.liveNum

theorem Conserves.counts {s u : Multiset Nat} {w' : Wlan} {o' : Outside} (h : Conserves s u w w' o') (hok : w.Ok) (hact : w.isActive = true)
    (total : Int) : (w'.isActive = true → w'.Ok) ∧ total = total - w.liveNum + w'.liveNum := by
  refine ⟨fun _ => hok.conserves h, ?_⟩
  simp only [liveNum, h.active, hact, if_true, h.num]
  omega

theorem ok_push (hok : w.Ok) {attribs : List WlanHdrAttribVal} {total : Int} (hadd : w.Adds total)
    (hnew : ∀ i < w.wlanClient.num, (w.wlanClient.slot i).mac ≠ w.addedMac attribs) {c : Client WlanOwn}
    (hmac : c.mac = w.addedMac attribs) (hflags : FlagsOk w.txProp c) (n : Nat) :
    ({ w with
      wlanClient := { w.wlanClient.set w.wlanClient.num (freshRecord c) with num := w.wlanClient.num + 1 }
      headerNameCount := n } : Wlan).Ok :=
  ok_of_inOrder (hok.inOrder.push (c := freshRecord c) hadd.1 (fun i hi heq => hnew i hi (heq.trans hmac)) ⟨hflags.hdr4, hflags.hdr6⟩)

theorem ok_removed (hok : w.Ok) {i : Nat} (hi : i < w.wlanClient.num) {c : Client WlanOwn}
    (hc : c.ipv4HeaderSet = false ∧ c.ipv6HeaderSet = false) :
    ({ w with wlanClient := { (w.wlanClient.set i c).compact w.txProp i with num := w.wlanClient.num - 1 } } : Wlan).Ok :=
  ok_of_inOrder (hok.inOrder.removed hi hc)

theorem FlagsOk.backed {c : Client WlanOwn} (h : FlagsOk tx c) : c.HeadersBacked tx := ⟨h.hdr4, h.hdr6⟩

theorem flagsOk_of_backed {c : Client WlanOwn} (h : c.HeadersBacked tx) : FlagsOk tx c := ⟨h.hdr4, h.hdr6⟩

/-- What an event leaves with the driver is what the records list. -/
structure Lists (s u : Multiset Nat) (r : Wlan × Int × Outside) : Prop where
  flags : r.1.isActive = true → ∀ i, FlagsOk r.1.txProp (r.1.wlanClient.slot i)
  held : r.2.2.Keeps (r.1.liveRt + s) (r.1.liveHdr + u)

theorem Conserves.lists {s u : Multiset Nat} {w' : Wlan} {o' : Outside} (h : Conserves s u w w' o')
    (hflags : ∀ i, FlagsOk w.txProp (w.wlanClient.slot i)) (hact : w.isActive = true) (total : Int) : Lists s u (w', total, o') where
  flags _ i := by
    dsimp only
    rw [h.tx]
    exact ⟨fun h4 => (hflags i).hdr4 (h.hdr4 i ▸ h4), fun h6 => (hflags i).hdr6 (h.hdr6 i ▸ h6)⟩
  held := by
    simp only [liveRt, liveHdr, h.active, hact, if_true]
    exact h.held

/-- **One event at an access point** accounts for what it obtained, whoever is in the table. -/
theorem eventCallback_lists (hD : AllSucceed D) (e : WlanEvt) (total : Int) {s u : Multiset Nat} {o : Outside}
    (hflags : w.isActive = true → ∀ i, FlagsOk w.txProp (w.wlanClient.slot i)) (h : o.Keeps (w.liveRt + s) (w.liveHdr + u)) :
    Lists s u (w.eventCallback D e total o) := by
  unfold eventCallback
  rcases Bool.eq_false_or_eq_true w.isActive with hact | hact
  · rw [if_neg (by simp [hact])]
    have hflags := hflags hact
    have hheld : w.Held s u o := by
      simp only [liveRt, liveHdr, hact, if_true] at h
      exact h
    cases e with
    | clientAdd mac => exact (Conserves.refl hheld).lists hflags hact total
    | clientAddEx attribs =>
      by_cases hadd : w.Adds total
      · obtain ⟨c, o', hr, -, hc, hh⟩ := @handleWlanClientInitEx_adds _ _ _ _ _ hD attribs _ hadd (hflags _) hheld
        simp only [hr]
        refine ⟨fun _ i => flagsOk_of_backed (ClientTable.backed_push (fun i => (hflags i).backed) (c := freshRecord c) ⟨hc.hdr4, hc.hdr6⟩ i), ?_⟩
        simp only [liveRt, liveHdr, hact, if_true]
        exact hh
      · simp only [handleWlanClientInitEx_refuses hadd]
        exact (Conserves.refl hheld).lists hflags hact total
    | clientDel mac =>
      simp only [handleWlanClientDownEvt]
      cases hidx : w.wlanClient.index mac with
      | none =>
        simp only [ClientTable.clientDown_none hidx]
        exact (Conserves.refl hheld).lists hflags hact total
      | some i =>
        obtain ⟨c, o', hr, -, hc, hh⟩ := ClientTable.clientDown_deletes hD hidx hheld
        simp only [hr]
        refine ⟨fun _ k => flagsOk_of_backed (ClientTable.backed_removed (fun i => (hflags i).backed) hc k), ?_⟩
        simp only [liveRt, liveHdr, hact, if_true]
        exact hh
    | clientPowerSave mac => exact (handleWlanClientPwrsave_conserves hD mac hheld).lists hflags hact total
    | clientRecover mac => exact (clientRecover_conserves hD mac hheld).lists hflags hact total
    | neighClientIpAddrAdd data natIface => exact (neighClientIpAddrAdd_conserves hD data natIface hheld).lists hflags hact total
    | wanUpV6Tether prefix6 =>
      have hc : Conserves s u w { w with ipv6Prefix := prefix6 } o := ⟨rfl, rfl, rfl, fun _ => rfl, fun _ => rfl, fun _ => rfl, hheld⟩
      exact hc.lists hflags hact total
    | wanDownV6Tether => exact (handleWlanClientResetRtV6_conserves hD hheld).lists hflags hact total
    | linkDown => exact ⟨fun h => absurd h Bool.false_ne_true, (handleDownEvt_keeps hD hheld).of_eq (zero_add s).symm (zero_add u).symm⟩
  · rw [if_pos hact]
    exact ⟨hflags, h⟩

/-- **One event at an access point** keeps its table, and accounts for what it obtained. -/
theorem eventCallback_after (hD : AllSucceed D) {e : WlanEvt} {total : Int} {s u : Multiset Nat} {o : Outside} (hm : w.Meets total e)
    (hok : w.isActive = true → w.Ok) (h : o.Keeps (w.liveRt + s) (w.liveHdr + u)) :
    After s u w total (w.eventCallback D e total o) := by
  have hlists := eventCallback_lists hD e total (fun hact => (hok hact).flags) h
  suffices hcounts : ((w.eventCallback D e total o).1.isActive = true → (w.eventCallback D e total o).1.Ok) ∧
      (w.eventCallback D e total o).2.1 = total - w.liveNum + (w.eventCallback D e total o).1.liveNum from
    ⟨hcounts.1, hlists.held, hcounts.2⟩
  unfold eventCallback
  rcases Bool.eq_false_or_eq_true w.isActive with hact | hact
  · rw [if_neg (by simp [hact])]
    have hok := hok hact
    have hheld : w.Held s u o := by
      simp only [liveRt, liveHdr, hact, if_true] at h
      exact h
    cases e with
    | clientAdd mac => exact (Conserves.refl hheld).counts hok hact total
    | clientAddEx attribs =>
      by_cases hadd : w.Adds total
      · obtain ⟨c, o', hr, hmac, hflags, -⟩ := @handleWlanClientInitEx_adds _ _ _ _ _ hD attribs _ hadd (hok.flags _) hheld
        simp only [hr]
        refine ⟨fun _ => ok_push hok hadd (hm hact hadd) hmac hflags _, ?_⟩
        simp only [liveNum, hact, if_true]
        omega
      · simp only [handleWlanClientInitEx_refuses hadd]
        exact (Conserves.refl hheld).counts hok hact total
    | clientDel mac =>
      simp only [handleWlanClientDownEvt]
      cases hidx : w.wlanClient.index mac with
      | none =>
        simp only [ClientTable.clientDown_none hidx]
        exact (Conserves.refl hheld).counts hok hact total
      | some i =>
        obtain ⟨c, o', hr, -, hc, -⟩ := ClientTable.clientDown_deletes hD hidx hheld
        have hlt := (ClientTable.index_some hidx).1
        simp only [hr]
        refine ⟨fun _ => ok_removed hok hlt hc, ?_⟩
        simp only [liveNum, hact, if_true]
        omega
    | clientPowerSave mac => exact (handleWlanClientPwrsave_conserves hD mac hheld).counts hok hact total
    | clientRecover mac => exact (clientRecover_conserves hD mac hheld).counts hok hact total
    | neighClientIpAddrAdd data natIface => exact (neighClientIpAddrAdd_conserves hD data natIface hheld).counts hok hact total
    | wanUpV6Tether prefix6 =>
      have hc : Conserves s u w { w with ipv6Prefix := prefix6 } o := ⟨rfl, rfl, rfl, fun _ => rfl, fun _ => rfl, fun _ => rfl, hheld⟩
      exact hc.counts hok hact total
    | wanDownV6Tether => exact (handleWlanClientResetRtV6_conserves hD hheld).counts hok hact total
    | linkDown =>
      refine ⟨fun h => absurd h Bool.false_ne_true, ?_⟩
      simp only [liveNum, hact, if_true]
      exact (add_zero _).symm
  · rw [if_pos hact]
    refine ⟨hok, ?_⟩
    dsimp only
    omega

/-- **A client's removal leaves the others' records.** -/
theorem clientDel_leavesOthers (hD : AllSucceed D) {mac : MacAddr} {total : Int} {s u : Multiset Nat} {o : Outside}
    (hm : w.Meets total (.clientDel mac)) (hok : w.Ok) (hact : w.isActive = true) (h : o.Keeps (w.liveRt + s) (w.liveHdr + u)) :
    w.wlanClient.LeavesOthers w.txProp mac (w.eventCallback D (.clientDel mac) total o).1.wlanClient := by
  have hheld : w.Held s u o := by
    simp only [liveRt, liveHdr, hact, if_true] at h
    exact h
  rw [eventCallback, if_neg (by simp [hact])]
  simp only [handleWlanClientDownEvt]
  cases hidx : w.wlanClient.index mac with
  | none =>
    simp only [ClientTable.clientDown_none hidx]
    exact ClientTable.LeavesOthers.refl _
  | some i =>
    obtain ⟨c, o', hr, hown, -, -⟩ := ClientTable.clientDown_deletes hD hidx hheld
    simp only [hr]
    refine hok.distinct.leavesOthers hidx hown fun k hik hk => ?_
    have := hm hact i hidx k hik hk
    rcases hk1 : (w.wlanClient.slot k).own with ⟨b⟩
    rcases hk2 : (w.wlanClient.slot (k + 1)).own with ⟨b'⟩
    rw [hk1, hk2] at this
    rw [show b = b' from this]

end Wlan

/-- What a list's elements count for, but for one. -/
theorem sum_map_set {α M : Type} [AddCommMonoid M] (f : α → M) {l : List α} {i : Nat} {a : α} (h : l[i]? = some a) :
    ∃ rest, (l.map f).sum = f a + rest ∧ ∀ b, ((l.set i b).map f).sum = f b + rest := by
  induction l generalizing i with
  | nil => cases h
  | cons x l ih =>
    cases i with
    | zero =>
      cases h
      exact ⟨(l.map f).sum, rfl, fun _ => rfl⟩
    | succ i =>
      obtain ⟨rest, h1, h2⟩ := ih (i := i) h
      refine ⟨f x + rest, ?_, fun b => ?_⟩
      · rw [List.map_cons, List.sum_cons, h1, add_left_comm]
      · rw [List.set_cons_succ, List.map_cons, List.sum_cons, h2, add_left_comm]

namespace WlanSys

/-- The step keeps the MACs distinct, and the flags of those that stay. -/
def Meets (s : WlanSys) : WlanSysEvt → Prop
  | .newAp _ _ _ => True
  | .ap i e => ∀ w, s.aps[i]? = some w → w.Meets s.totalNumWifiClients e

/-- The tables of the live access points, what they share, and what the driver holds for them: exactly what
the records list, each handle once, and no deletion has missed. -/
structure TableOk (s : WlanSys) : Prop where
  ok : ∀ w ∈ s.aps, w.isActive = true → w.Ok
  total : s.totalNumWifiClients = (s.aps.map Wlan.liveNum).sum
  held : s.outside.Keeps (s.aps.map Wlan.liveRt).sum (s.aps.map Wlan.liveHdr).sum

theorem init_tableOk : ({} : WlanSys).TableOk where
  ok _ h := nomatch h
  total := rfl
  held := ⟨.empty, .empty, Multiset.notMem_zero _, Multiset.notMem_zero _⟩

/-- **One step** keeps the tables in order. -/
theorem step_tableOk (hD : AllSucceed D) {s : WlanSys} {e : WlanSysEvt} (hm : s.Meets e) (h : s.TableOk) : (s.step D e).TableOk := by
  cases e with
  | newAp txProp excpPipe isMccMode =>
    have hok : ({ txProp, excpPipe, isMccMode } : Wlan).Ok :=
      ⟨Nat.zero_le _, fun _ _ hi => absurd hi (Nat.not_lt_zero _), fun _ => ⟨fun h => (nomatch h), fun h => nomatch h⟩⟩
    refine ⟨fun w hw _ => ?_, ?_, h.held.of_eq ?_ ?_⟩
    · cases List.mem_append.1 hw with
      | inl hw => exact h.ok w hw ‹_›
      | inr hw =>
        cases List.mem_singleton.1 hw
        exact hok
    · rw [step, List.map_append, List.sum_append, ← h.total]
      exact (add_zero _).symm
    · rw [step, List.map_append, List.sum_append]
      exact (add_zero _).symm
    · rw [step, List.map_append, List.sum_append]
      exact (add_zero _).symm
  | ap i e =>
    cases hw : s.aps[i]? with
    | none => simpa only [step, hw] using h
    | some w =>
      obtain ⟨rn, hn, hn'⟩ := sum_map_set Wlan.liveNum hw
      obtain ⟨rr, hr, hr'⟩ := sum_map_set Wlan.liveRt hw
      obtain ⟨rh, hh, hh'⟩ := sum_map_set Wlan.liveHdr hw
      have hafter := Wlan.eventCallback_after hD (hm w hw) (h.ok w (List.mem_of_getElem? hw)) (h.held.of_eq hr hh)
      simp only [step, hw]
      refine ⟨fun w' hw' hact => ?_, ?_, hafter.held.of_eq (hr' _).symm (hh' _).symm⟩
      · cases List.mem_or_eq_of_mem_set hw' with
        | inl hmem => exact h.ok w' hmem hact
        | inr heq =>
          cases heq
          exact hafter.ok hact
      · have htotal := h.total
        rw [hn] at htotal
        refine Eq.trans hafter.total ?_
        rw [hn']
        omega

/-- A run each of whose steps meets the condition. -/
abbrev MeetingRun (D : IpaDriver) : WlanSys → List WlanSysEvt → WlanSys → Prop :=
  Lib.Run fun s e t => s.Meets e ∧ t = s.step D e

theorem run_tableOk (hD : AllSucceed D) {es : List WlanSysEvt} {s : WlanSys} (h : MeetingRun D {} es s) : s.TableOk :=
  h.invariant TableOk (fun _ _ _ ⟨hm, ht⟩ hs => ht ▸ step_tableOk hD hm hs) init_tableOk

theorem sampleDriver_succeeds : AllSucceed (sampleDriver []) := fun _ => rfl

/-- One client comes and goes. -/
def sampleEvents : List WlanSysEvt :=
  [.newAp sampleTx 1 false, .ap 0 (.clientAddEx [.macAddr 1 0]), .ap 0 (.clientDel 1)]

theorem sample_meetingRun : MeetingRun (sampleDriver []) {} sampleEvents (run (sampleDriver []) sampleEvents) := by
  refine .cons ⟨trivial, rfl⟩ (.cons ⟨?_, rfl⟩ (.cons ⟨?_, rfl⟩ (.nil _)))
  · intro w hw _ _ i hi
    cases hw
    exact absurd hi (Nat.not_lt_zero i)
  · intro w hw _ i _ k _ hk
    cases hw
    exact absurd hk (show ¬ k + 1 < 1 by omega)

end WlanSys
end HiaeCommon
