/-
What an access point tells the conntrack listener and `NatApp` at an event
(`ipacm/src/IPACM_Wlan.cpp`): that an address came or went, and that a client
sleeps or is awake again. It depends on the client's record alone, not on what
the driver does.
-/
import HiaeCommon.Ipacm.WlanEvents

namespace HiaeCommon

open Lib (untilFailure)

variable {D : IpaDriver} {tx : List TxProp}

namespace Outside

theorem told_call {α : Type} {act : Outside → α × Outside} (h : ∀ o, (act o).2.told = o.told) (o : Outside) :
    (o.call D act).2.told = o.told := by
  unfold call
  dsimp only
  split
  · rfl
  · exact h _

@[simp] theorem told_addRoutingRule (r : RtRule) (o : Outside) : (o.addRoutingRule D r).2.told = o.told := told_call (fun _ => rfl) o

@[simp] theorem told_addHeader (r : HdrEntry) (o : Outside) : (o.addHeader D r).2.told = o.told := told_call (fun _ => rfl) o

@[simp] theorem told_copyHeader (o : Outside) : (o.copyHeader D).2.told = o.told := told_call (fun _ => rfl) o

@[simp] theorem told_deleteRoutingHdl (h : Nat) (o : Outside) : (o.deleteRoutingHdl D h).2.told = o.told := by
  unfold deleteRoutingHdl
  split
  · rfl
  · exact told_call (fun _ => rfl) o

@[simp] theorem told_deleteHeaderHdl (h : Nat) (o : Outside) : (o.deleteHeaderHdl D h).2.told = o.told := by
  unfold deleteHeaderHdl
  split
  · rfl
  · exact @told_call D Unit (fun o => ((), { o with hdr := o.hdr.del h })) (fun _ => rfl) o

@[simp] theorem told_deleteRoutingHdls (hs : List Nat) (o : Outside) : (o.deleteRoutingHdls D hs).told = o.told := by
  induction hs generalizing o with
  | nil => rfl
  | cons h hs ih => rw [deleteRoutingHdls_cons, ih, told_deleteRoutingHdl]

@[simp] theorem told_tell (e : ListenerEvt) (o : Outside) : (o.tell e).told = o.told ++ [e] := rfl

end Outside

namespace Client

variable {σ : Type}

theorem told_deleteHeader (set : Bool) (h : Nat) (cleared c : Client σ) (o : Outside) :
    (deleteHeader D set h cleared c o).2.2.told = o.told := by
  unfold deleteHeader
  split
  · dsimp only
    split <;> exact Outside.told_deleteHeaderHdl h o
  · rfl

theorem told_clean (D : IpaDriver) (tx : List TxProp) (c : Client σ) (o : Outside) : (c.clean D tx o).2.2.told = o.told := by
  refine Lib.untilFailure_keeps (fun p : Client σ × Outside => p.2.told = o.told) (fun f hf p hp => ?_) rfl
  rcases p with ⟨c', o'⟩
  simp only [List.mem_cons, List.not_mem_nil, or_false] at hf
  rcases hf with rfl | rfl | rfl | rfl
  · rw [deleteRtRules_v4]
    exact (Outside.told_deleteRoutingHdls _ o').trans hp
  · rw [deleteRtRules_v6]
    exact (Outside.told_deleteRoutingHdls _ o').trans hp
  · exact (told_deleteHeader ..).trans hp
  · exact (told_deleteHeader ..).trans hp

variable {R : ClientRules}

theorem told_addRuleV4 (t : TxProp) (i : Nat) (p : Client σ × Outside) : (addRuleV4 D R t i p).2.2.told = p.2.told := by
  rcases p with ⟨c, o⟩
  have h := Outside.told_addRoutingRule (D := D) (R.v4 t i c.hdrHdlV4 c.v4Addr) o
  rcases hr : o.addRoutingRule D (R.v4 t i c.hdrHdlV4 c.v4Addr) with ⟨_ | k, o'⟩ <;>
  · rw [hr] at h
    simp only [addRuleV4, hr]
    exact h

theorem told_addRulesV6 (t : TxProp) (i n : Nat) (p : Client σ × Outside) : (addRulesV6 D R t i n p).2.2.told = p.2.told := by
  rcases p with ⟨c, o⟩
  have h := Outside.told_addRoutingRule (D := D) (R.v6 t i c.hdrHdlV6 (c.v6Addr n)) o
  rcases hr : o.addRoutingRule D (R.v6 t i c.hdrHdlV6 (c.v6Addr n)) with ⟨_ | k, o'⟩
  · rw [hr] at h
    simp only [addRulesV6, hr]
    exact h
  · have h' := Outside.told_addRoutingRule (D := D) (R.v6Wan t i c.hdrHdlV6 (c.v6Addr n)) o'
    rw [hr] at h
    rcases hr' : o'.addRoutingRule D (R.v6Wan t i c.hdrHdlV6 (c.v6Addr n)) with ⟨_ | k', o''⟩ <;>
    · rw [hr'] at h'
      simp only [addRulesV6, hr, setRtHdl, hr']
      exact h'.trans h

theorem told_addRules (iptype : IpType) (p : Client σ × Outside) : (addRules D R tx iptype p).2.2.told = p.2.told := by
  rcases p with ⟨c, o⟩
  have h4 := Lib.untilFailure_keeps (f := fun (p : TxProp × Nat) (s : Client σ × Outside) =>
      if p.1.ip = .v4 then addRuleV4 D R p.1 p.2 s else (true, s)) (l := tx.zipIdx) (fun s => s.2.told = o.told)
    (fun p _ s hs => by
      split
      · exact (told_addRuleV4 ..).trans hs
      · exact hs) (s := (c, o)) rfl
  have h6 := Lib.untilFailure_keeps (f := fun (p : TxProp × Nat) (s : Client σ × Outside) =>
      if p.1.ip = .v6 then
        untilFailure (addRulesV6 D R p.1 p.2) (List.range' c.routeRuleSetV6 (c.ipv6Set - c.routeRuleSetV6)) s
      else (true, s)) (l := tx.zipIdx) (fun s => s.2.told = o.told)
    (fun p _ s hs => by
      split
      · exact Lib.untilFailure_keeps (fun s : Client σ × Outside => s.2.told = o.told) (fun n _ s hs => (told_addRulesV6 ..).trans hs) hs
      · exact hs) (s := (c, o)) rfl
  unfold addRules
  dsimp only
  split
  · split
    next heq => exact (congrArg (·.2.2.told) heq).symm.trans h4
    next heq => exact (congrArg (·.2.2.told) heq).symm.trans h4
  split
  · split
    next heq => exact (congrArg (·.2.2.told) heq).symm.trans h6
    next heq => exact (congrArg (·.2.2.told) heq).symm.trans h6
  · rfl

/-- A client's address goes. -/
def goodbye (c : Client σ) : List ListenerEvt := if c.ipv4Set then [.neighIpAddrDel c.v4Addr] else []

theorem told_goodbye (c : Client σ) (o : Outside) : (if c.ipv4Set then o.tell (.neighIpAddrDel c.v4Addr) else o).told = o.told ++ c.goodbye := by
  unfold goodbye
  split
  · rfl
  · exact (List.append_nil _).symm

end Client

theorem ClientTable.told_clientDown {σ : Type} (D : IpaDriver) (tx : List TxProp) (t : ClientTable σ) (mac : MacAddr) (o : Outside) :
    (t.clientDown D tx mac o).2.2.told = o.told ++ match t.index mac with
      | none => []
      | some i => (t.slot i).goodbye := by
  unfold clientDown
  cases hidx : t.index mac with
  | none => exact (List.append_nil _).symm
  | some i =>
    dsimp only
    have h := Client.told_clean D tx (t.slot i) (if (t.slot i).ipv4Set then o.tell (.neighIpAddrDel (t.slot i).v4Addr) else o)
    rw [Client.told_goodbye] at h
    split
    next heq => exact (congrArg (·.2.2.told) heq).symm.trans h
    next heq => exact (congrArg (·.2.2.told) heq).symm.trans h

namespace Wlan

/-- What an access point tells at an event. -/
def tells (w : Wlan) (e : WlanEvt) : List ListenerEvt :=
  if w.isActive = false then []
  else
    match e with
    | .clientDel mac =>
      match w.wlanClient.index mac with
      | none => []
      | some i => (w.wlanClient.slot i).goodbye
    | .clientPowerSave mac =>
      match w.wlanClient.index mac with
      | none => []
      | some i =>
        let c := w.wlanClient.slot i
        if c.own.powerSaveSet = false ∧ c.ipv4Set = true then [.natCall (.updatePwrSaveIf c.v4Addr)] else []
    | .clientRecover mac =>
      match w.wlanClient.index mac with
      | none => []
      | some i =>
        let c := w.wlanClient.slot i
        if c.own.powerSaveSet = true ∧ c.ipv4Set = true then [.natCall (.resetPwrSaveIf c.v4Addr)] else []
    | .neighClientIpAddrAdd data natIface =>
      match w.wlanClient.index data.macAddr with
      | none => []
      | some i =>
        let c := w.wlanClient.slot i
        if data.iptype = .v4 ∧ data.ipv4Addr ≠ 0 ∧ (c.ipv4Set = true → data.ipv4Addr ≠ c.v4Addr) then
          c.goodbye ++ [.neighIpAddrAdd ⟨data.ipv4Addr, true, natIface⟩]
        else []
    | .linkDown => (List.range w.wlanClient.num).flatMap fun i => (w.wlanClient.slot i).goodbye
    | .clientAdd _ | .clientAddEx _ | .wanUpV6Tether _ | .wanDownV6Tether => []

theorem told_addHeader (w : Wlan) (ip : IpType) (set : Client WlanOwn → Nat → Client WlanOwn) (attribs : List WlanHdrAttribVal)
    (p : Client WlanOwn × Outside) : (w.addHeader D ip set attribs p).2.2.told = p.2.told := by
  rcases p with ⟨c, o⟩
  cases hf : w.txProp.find? fun t => t.ip = ip with
  | none => simp only [addHeader, hf]
  | some t =>
    have h1 := Outside.told_copyHeader (D := D) o
    rcases hr : o.copyHeader D with ⟨_ | _, o'⟩
    · rw [hr] at h1
      simp only [addHeader, hf, hr]
      exact h1
    · have h2 := Outside.told_addHeader (D := D) ⟨ip, t.hdrName, attribs, w.headerNameCount⟩ o'
      rw [hr] at h1
      rcases hr' : o'.addHeader D ⟨ip, t.hdrName, attribs, w.headerNameCount⟩ with ⟨_ | k, o''⟩ <;>
      · rw [hr'] at h2
        simp only [addHeader, hf, hr, hr']
        exact h2.trans h1

theorem told_handleWlanClientInitEx (w : Wlan) (attribs : List WlanHdrAttribVal) (total : Int) (o : Outside) :
    (w.handleWlanClientInitEx D attribs total o).2.2.2.told = o.told := by
  unfold handleWlanClientInitEx
  dsimp only
  split
  · rfl
  split
  · rfl
  split
  next heq => exact (congrArg (·.2.2.told) heq).symm.trans (told_addHeader ..)
  next heq =>
    have h4 := (congrArg (·.2.2.told) heq).symm.trans (told_addHeader (D := D) ..)
    split
    next heq' => exact (congrArg (·.2.2.told) heq').symm.trans ((told_addHeader ..).trans h4)
    next heq' => exact (congrArg (·.2.2.told) heq').symm.trans ((told_addHeader ..).trans h4)

theorem told_handleWlanClientRouteRule (w : Wlan) (macAddr : MacAddr) (iptype : IpType) (o : Outside) :
    (w.handleWlanClientRouteRule D macAddr iptype o).2.2.told = o.told := by
  unfold handleWlanClientRouteRule
  split
  · rfl
  split
  · rfl
  · split
    · rfl
    · rw [addRules_eq]
      exact Client.told_addRules ..

theorem told_handleWlanClientPwrsave (w : Wlan) (hact : w.isActive = true) (macAddr : MacAddr) (o : Outside) :
    (w.handleWlanClientPwrsave D macAddr o).2.told = o.told ++ w.tells (.clientPowerSave macAddr) := by
  rw [tells, if_neg (by simp [hact])]
  unfold handleWlanClientPwrsave
  dsimp only
  cases hidx : w.wlanClient.index macAddr with
  | none => exact (List.append_nil _).symm
  | some i =>
    dsimp only
    cases hps : (w.wlanClient.slot i).own.powerSaveSet with
    | true => simp
    | false =>
      rw [if_neg Bool.false_ne_true, Client.deleteRtRules_v4]
      dsimp only
      rw [Client.deleteRtRules_v6]
      dsimp only
      rw [Outside.told_deleteRoutingHdls, Outside.told_deleteRoutingHdls]
      cases (w.wlanClient.slot i).ipv4Set <;> simp

theorem told_clientRecover (w : Wlan) (hact : w.isActive = true) (macAddr : MacAddr) (o : Outside) :
    (w.clientRecover D macAddr o).2.told = o.told ++ w.tells (.clientRecover macAddr) := by
  rw [tells, if_neg (by simp [hact])]
  unfold clientRecover
  dsimp only
  cases hidx : w.wlanClient.index macAddr with
  | none => exact (List.append_nil _).symm
  | some i =>
    dsimp only
    cases hps : (w.wlanClient.slot i).own.powerSaveSet with
    | false => simp
    | true =>
      rw [if_neg (by simp)]
      cases h4 : (w.wlanClient.slot i).ipv4Set with
      | true =>
        rw [if_pos rfl]
        dsimp only
        split
        · exact (told_handleWlanClientRouteRule ..).trans (congrArg (· ++ _) (told_handleWlanClientRouteRule ..))
        · exact congrArg (· ++ _) (told_handleWlanClientRouteRule ..)
      | false =>
        rw [if_neg Bool.false_ne_true]
        dsimp only
        split
        · simp [told_handleWlanClientRouteRule]
        · simp

theorem handleWlanClientIpaddr_v6 (w : Wlan) {data : EventDataAll} (h4 : data.iptype ≠ .v4) (o : Outside) :
    (w.handleWlanClientIpaddr D data o).2.2 = o := by
  unfold handleWlanClientIpaddr
  split
  · rfl
  · dsimp only
    rw [if_neg h4]
    repeat' split
    all_goals rfl

theorem told_neighClientIpAddrAdd (w : Wlan) (hact : w.isActive = true) (data : EventDataAll) (natIface : Option Bool) (o : Outside) :
    (w.neighClientIpAddrAdd D data natIface o).2.told = o.told ++ w.tells (.neighClientIpAddrAdd data natIface) := by
  rw [tells, if_neg (by simp [hact])]
  dsimp only
  by_cases h4 : data.iptype = .v4
  · unfold neighClientIpAddrAdd handleWlanClientIpaddr
    cases hidx : w.wlanClient.index data.macAddr with
    | none => exact (List.append_nil _).symm
    | some i =>
      dsimp only
      rw [if_pos h4]
      by_cases h0 : data.ipv4Addr ≠ 0
      · rw [if_pos h0]
        cases hset : (w.wlanClient.slot i).ipv4Set with
        | false =>
          rw [if_pos rfl, if_pos ⟨h4, h0, fun h => nomatch h⟩]
          simp [h4, told_handleWlanClientRouteRule, Client.goodbye, hset]
        | true =>
          rw [if_neg (by simp)]
          by_cases heq : data.ipv4Addr = (w.wlanClient.slot i).v4Addr
          · simp [heq]
          · rw [if_neg heq, Client.deleteRtRules_v4, if_pos ⟨h4, h0, fun _ => heq⟩]
            simp [h4, told_handleWlanClientRouteRule, Client.goodbye, hset]
      · rw [if_neg h0, if_neg fun h => h0 h.2.1, List.append_nil]
  · have hnone : (match w.wlanClient.index data.macAddr with
        | none => []
        | some i =>
          if data.iptype = .v4 ∧ data.ipv4Addr ≠ 0 ∧
              ((w.wlanClient.slot i).ipv4Set = true → data.ipv4Addr ≠ (w.wlanClient.slot i).v4Addr) then
            (w.wlanClient.slot i).goodbye ++ [ListenerEvt.neighIpAddrAdd ⟨data.ipv4Addr, true, natIface⟩]
          else []) = [] := by
      split
      · rfl
      · exact if_neg fun h => h4 h.1
    rw [hnone, List.append_nil]
    have h := handleWlanClientIpaddr_v6 (D := D) w h4 o
    unfold neighClientIpAddrAdd
    rcases hr : w.handleWlanClientIpaddr D data o with ⟨ok, w', o'⟩
    rw [hr] at h
    cases ok with
    | false => exact congrArg Outside.told h
    | true =>
      dsimp only
      rw [if_neg h4]
      exact (told_handleWlanClientRouteRule ..).trans (congrArg Outside.told h)

theorem told_handleWlanClientResetRtV6 (w : Wlan) (o : Outside) : (w.handleWlanClientResetRtV6 D o).2.told = o.told :=
  Lib.untilFailure_keeps (fun p : ClientTable WlanOwn × Outside => p.2.told = o.told) (fun i _ p hp => by
    rw [Client.deleteRtRules_v6]
    exact (Outside.told_deleteRoutingHdls _ _).trans hp) (s := (w.wlanClient, o)) rfl

theorem told_downClient (w : Wlan) (c : Client WlanOwn) (o : Outside) : (w.downClient D c o).told = o.told ++ c.goodbye := by
  unfold downClient
  dsimp only
  rw [Client.deleteRtRules_v4]
  dsimp only
  rw [Client.deleteRtRules_v6]
  dsimp only
  have h := (Outside.told_deleteRoutingHdls (D := D) (({ c with routeRuleSetV4 := false } : Client WlanOwn).rtHdlsV6 w.txProp) _).trans
    ((Outside.told_deleteRoutingHdls (D := D) (c.rtHdlsV4 w.txProp) _).trans (Client.told_goodbye c o))
  have hdel : ∀ (b : Bool) (k : Nat) (o : Outside), (if b then (o.deleteHeaderHdl D k).2 else o).told = o.told := fun b k o => by
    split
    · exact Outside.told_deleteHeaderHdl k o
    · rfl
  exact (hdel _ _ _).trans ((hdel _ _ _).trans h)

theorem told_handleDownEvt (w : Wlan) (o : Outside) :
    (w.handleDownEvt D o).2.told = o.told ++ (List.range w.wlanClient.num).flatMap fun i => (w.wlanClient.slot i).goodbye := by
  unfold handleDownEvt
  dsimp only
  generalize List.range w.wlanClient.num = is
  induction is generalizing o with
  | nil => exact (List.append_nil _).symm
  | cons i is ih => rw [List.foldl_cons, ih, told_downClient, List.flatMap_cons, List.append_assoc]

/-- **What an event makes an access point say**, whatever the driver does. -/
theorem told_eventCallback (w : Wlan) (e : WlanEvt) (total : Int) (o : Outside) :
    (w.eventCallback D e total o).2.2.told = o.told ++ w.tells e := by
  unfold eventCallback
  rcases Bool.eq_false_or_eq_true w.isActive with hact | hact
  · rw [if_neg (by simp [hact])]
    have hnone : ∀ {e}, (w.tells e = []) → o.told = o.told ++ w.tells e := fun h => by rw [h, List.append_nil]
    cases e with
    | clientAdd mac => exact hnone (by simp [tells])
    | clientAddEx attribs => exact (told_handleWlanClientInitEx ..).trans (hnone (by simp [tells]))
    | clientDel mac =>
      rw [tells, if_neg (by simp [hact])]
      refine Eq.trans ?_ (ClientTable.told_clientDown D w.txProp w.wlanClient mac o)
      simp only [handleWlanClientDownEvt]
      rcases w.wlanClient.clientDown D w.txProp mac o with ⟨_ | _ | _, t, o'⟩ <;> rfl
    | clientPowerSave mac => exact told_handleWlanClientPwrsave w hact mac o
    | clientRecover mac => exact told_clientRecover w hact mac o
    | neighClientIpAddrAdd data natIface => exact told_neighClientIpAddrAdd w hact data natIface o
    | wanUpV6Tether prefix6 => exact hnone (by simp [tells])
    | wanDownV6Tether => exact (told_handleWlanClientResetRtV6 w o).trans (hnone (by simp [tells]))
    | linkDown =>
      unfold tells
      rw [if_neg (by simp [hact])]
      exact told_handleDownEvt w o
  · unfold tells
    rw [if_pos hact, if_pos hact, List.append_nil]

end Wlan
end HiaeCommon
