/-
The events of an access point while every driver call succeeds: what a handler
does to its table, and to what the driver holds for it.
-/
import HiaeCommon.Ipacm.ClientsHeld
import HiaeCommon.Lib.Run

namespace HiaeCommon

open Lib (Ledger untilFailure)
open Outside (AllSucceed)

variable {D : IpaDriver} {tx : List TxProp}

namespace Wlan

variable {w : Wlan} {o : Outside} {s u : Multiset Nat}

/-- The driver holds what an access point's records list, and beside it `s` and `u`. -/
def Held (w : Wlan) (s u : Multiset Nat) (o : Outside) : Prop := w.wlanClient.Held w.txProp s u o

/-- A handler that adds and removes nobody: the records stay those of the same clients, with their
headers, and the driver holds what they list. -/
structure Conserves (s u : Multiset Nat) (w w' : Wlan) (o' : Outside) : Prop where
  tx : w'.txProp = w.txProp
  active : w'.isActive = w.isActive
  num : w'.wlanClient.num = w.wlanClient.num
  mac : ∀ i, (w'.wlanClient.slot i).mac = (w.wlanClient.slot i).mac
  hdr4 : ∀ i, (w'.wlanClient.slot i).ipv4HeaderSet = (w.wlanClient.slot i).ipv4HeaderSet
  hdr6 : ∀ i, (w'.wlanClient.slot i).ipv6HeaderSet = (w.wlanClient.slot i).ipv6HeaderSet
  held : w'.Held s u o'

theorem Conserves.refl (h : w.Held s u o) : Conserves s u w w o := ⟨rfl, rfl, rfl, fun _ => rfl, fun _ => rfl, fun _ => rfl, h⟩

theorem Conserves.trans {w₁ w₂ w₃ : Wlan} {o₂ o₃ : Outside} (h : Conserves s u w₁ w₂ o₂) (h' : Conserves s u w₂ w₃ o₃) :
    Conserves s u w₁ w₃ o₃ :=
  ⟨h'.tx.trans h.tx, h'.active.trans h.active, h'.num.trans h.num, fun i => (h'.mac i).trans (h.mac i),
    fun i => (h'.hdr4 i).trans (h.hdr4 i), fun i => (h'.hdr6 i).trans (h.hdr6 i), h'.held⟩

theorem Conserves.tell {w' : Wlan} {o' : Outside} (h : Conserves s u w w' o') (e : ListenerEvt) : Conserves s u w w' (o'.tell e) :=
  { h with held := Outside.Keeps.tell h.held e }

/-- A handler that only touches the table. -/
theorem Conserves.of_table {t' : ClientTable WlanOwn} {o' : Outside} (h : w.wlanClient.Conserves w.txProp s u t' o') :
    Conserves s u w { w with wlanClient := t' } o' :=
  ⟨rfl, rfl, h.num, h.mac, h.hdr4, h.hdr6, h.held⟩

/-- One record changes, and what the driver holds with it. -/
theorem conserves_set (h : w.Held s u o) {i : Nat} (hi : i < w.wlanClient.num) {c : Client WlanOwn} {o' : Outside}
    (hmac : c.mac = (w.wlanClient.slot i).mac) (h4 : c.ipv4HeaderSet = (w.wlanClient.slot i).ipv4HeaderSet)
    (h6 : c.ipv6HeaderSet = (w.wlanClient.slot i).ipv6HeaderSet)
    (hheld : ∀ s u, (w.wlanClient.slot i).Held w.txProp s u o → c.Held w.txProp s u o') :
    Conserves s u w { w with wlanClient := w.wlanClient.set i c } o' :=
  .of_table (ClientTable.conserves_set h hi hmac h4 h6 hheld)

/-- The rules of a client of an access point: to the pipe of the mode, but to the exception pipe in the IPv6 table of the LAN. -/
def rules (w : Wlan) : ClientRules where
  v4 t txIndex hdrHdl addr := ⟨.lanV4, w.dstPipe t, some txIndex, hdrHdl, addr.setWidth 128⟩
  v6 _ _ _ addr := ⟨.v6, w.excpPipe, none, 0, addr⟩
  v6Wan t txIndex hdrHdl addr := ⟨.wanV6, w.dstPipe t, some txIndex, hdrHdl, addr⟩

theorem addRuleV4_eq (w : Wlan) (t : TxProp) (i : Nat) : w.addRuleV4 D t i = Client.addRuleV4 D w.rules t i := by
  funext ⟨c, o⟩
  rcases hr : o.addRoutingRule D ⟨.lanV4, w.dstPipe t, some i, c.hdrHdlV4, c.v4Addr.setWidth 128⟩ with ⟨_ | h, o'⟩ <;>
    simp only [addRuleV4, Client.addRuleV4, rules, hr]

theorem addRulesV6_eq (w : Wlan) (t : TxProp) (i : Nat) : w.addRulesV6 D t i = Client.addRulesV6 D w.rules t i := by
  funext n ⟨c, o⟩
  rcases hr : o.addRoutingRule D ⟨.v6, w.excpPipe, none, 0, c.v6Addr n⟩ with ⟨_ | h, o'⟩
  · simp only [addRulesV6, Client.addRulesV6, rules, hr]
  · rcases hr' : o'.addRoutingRule D ⟨.wanV6, w.dstPipe t, some i, c.hdrHdlV6, c.v6Addr n⟩ with ⟨_ | h', o''⟩ <;>
      simp only [addRulesV6, Client.addRulesV6, rules, hr, Client.setRtHdl, hr']

theorem addRules_eq (w : Wlan) (iptype : IpType) : w.addRules D iptype = Client.addRules D w.rules w.txProp iptype := by
  funext ⟨c, o⟩
  unfold addRules Client.addRules
  simp only [addRuleV4_eq, addRulesV6_eq]
  split
  · generalize (fun (p : TxProp × Nat) (s : Client WlanOwn × Outside) =>
      if p.1.ip = .v4 then Client.addRuleV4 D w.rules p.1 p.2 s else (true, s)) = f
    rcases untilFailure f w.txProp.zipIdx (c, o) with ⟨_ | _, c', o'⟩ <;> rfl
  split
  · generalize (fun (p : TxProp × Nat) (s : Client WlanOwn × Outside) => if p.1.ip = .v6 then
      untilFailure (Client.addRulesV6 D w.rules p.1 p.2) (List.range' c.routeRuleSetV6 (c.ipv6Set - c.routeRuleSetV6)) s
      else (true, s)) = f
    rcases untilFailure f w.txProp.zipIdx (c, o) with ⟨_ | _, c', o'⟩ <;> rfl
  · rfl

theorem handleWlanClientIpaddr_eq (w : Wlan) (data : EventDataAll) (o : Outside) : w.handleWlanClientIpaddr D data o =
    ((w.wlanClient.clientIpaddr D w.txProp w.ipv6Prefix data o).1,
      { w with wlanClient := (w.wlanClient.clientIpaddr D w.txProp w.ipv6Prefix data o).2.1 },
      (w.wlanClient.clientIpaddr D w.txProp w.ipv6Prefix data o).2.2) := by
  unfold handleWlanClientIpaddr ClientTable.clientIpaddr
  cases w.wlanClient.index data.macAddr with
  | none => rfl
  | some i =>
    dsimp only
    repeat' split
    all_goals rfl

theorem handleWlanClientIpaddr_conserves (hD : AllSucceed D) (data : EventDataAll) (h : w.Held s u o) :
    Conserves s u w (w.handleWlanClientIpaddr D data o).2.1 (w.handleWlanClientIpaddr D data o).2.2 := by
  rw [handleWlanClientIpaddr_eq]
  exact .of_table (ClientTable.clientIpaddr_conserves hD w.ipv6Prefix data h)

theorem handleWlanClientRouteRule_conserves (hD : AllSucceed D) (macAddr : MacAddr) (iptype : IpType) (h : w.Held s u o) :
    Conserves s u w (w.handleWlanClientRouteRule D macAddr iptype o).2.1 (w.handleWlanClientRouteRule D macAddr iptype o).2.2 := by
  unfold handleWlanClientRouteRule
  split
  · exact .refl h
  split
  · exact .refl h
  next i hi =>
    split
    · exact .refl h
    · rw [addRules_eq]
      exact .of_table (ClientTable.addRules_conserves hD w.rules iptype h (ClientTable.index_some hi).1)

theorem handleWlanClientPwrsave_conserves (hD : AllSucceed D) (macAddr : MacAddr) (h : w.Held s u o) :
    Conserves s u w (w.handleWlanClientPwrsave D macAddr o).1 (w.handleWlanClientPwrsave D macAddr o).2 := by
  unfold handleWlanClientPwrsave
  split
  · exact .refl h
  next i hi =>
    have hlt := (ClientTable.index_some hi).1
    dsimp only
    split
    · exact .refl h
    · rw [Client.deleteRtRules_v4]
      dsimp only
      rw [Client.deleteRtRules_v6]
      exact conserves_set h hlt rfl rfl rfl fun s u h =>
        Client.Held.deleteRtRules_v6 hD (Client.Held.deleteRtRules_v4 hD (h.tell_if _ _))

theorem clientRecover_conserves (hD : AllSucceed D) (macAddr : MacAddr) (h : w.Held s u o) :
    Conserves s u w (w.clientRecover D macAddr o).1 (w.clientRecover D macAddr o).2 := by
  unfold clientRecover
  split
  · exact .refl h
  next i hi =>
    have hlt := (ClientTable.index_some hi).1
    dsimp only
    split
    · exact .refl h
    · have h1 : Conserves s u w { w with wlanClient := w.wlanClient.set i { w.wlanClient.slot i with own := ⟨false⟩ } } o :=
        conserves_set h hlt rfl rfl rfl fun _ _ h => h
      by_cases h4 : (w.wlanClient.slot i).ipv4Set = true
      · have h2 := (handleWlanClientRouteRule_conserves hD macAddr .v4 h1.held).tell
          (.natCall (.resetPwrSaveIf (w.wlanClient.slot i).v4Addr))
        rw [if_pos h4]
        split
        · exact h1.trans (h2.trans (handleWlanClientRouteRule_conserves hD macAddr .v6 h2.held))
        · exact h1.trans h2
      · rw [if_neg h4]
        split
        · exact h1.trans (handleWlanClientRouteRule_conserves hD macAddr .v6 h1.held)
        · exact h1

theorem neighClientIpAddrAdd_conserves (hD : AllSucceed D) (data : EventDataAll) (natIface : Option Bool) (h : w.Held s u o) :
    Conserves s u w (w.neighClientIpAddrAdd D data natIface o).1 (w.neighClientIpAddrAdd D data natIface o).2 := by
  have h1 := handleWlanClientIpaddr_conserves hD data h
  unfold neighClientIpAddrAdd
  rcases hr : w.handleWlanClientIpaddr D data o with ⟨ok, w', o'⟩
  rw [hr] at h1
  cases ok with
  | false => exact h1
  | true =>
    have h2 := handleWlanClientRouteRule_conserves hD data.macAddr data.iptype h1.held
    dsimp only
    split
    · exact h1.trans (h2.tell _)
    · exact h1.trans h2

theorem handleWlanClientResetRtV6_conserves (hD : AllSucceed D) (h : w.Held s u o) :
    Conserves s u w (w.handleWlanClientResetRtV6 D o).1 (w.handleWlanClientResetRtV6 D o).2 := by
  refine (Lib.untilFailure_inv (fun p => Conserves s u w { w with wlanClient := p.1 } p.2) (fun i hi p hp => ?_)
    (s := (w.wlanClient, o)) (.refl h)).2
  rw [Client.deleteRtRules_v6]
  refine ⟨rfl, hp.trans (conserves_set (w := { w with wlanClient := p.1 }) hp.held ?_ rfl rfl rfl fun s u h =>
    Client.Held.deleteRtRules_v6 hD h)⟩
  rw [hp.num]
  exact List.mem_range.1 hi

/-! ## Clients come and go -/

/-- One header of a new client. -/
theorem addHeader_adds (hD : AllSucceed D) (w : Wlan) (ip : IpType) (set : Client WlanOwn → Nat → Client WlanOwn)
    (attribs : List WlanHdrAttribVal) : Client.AddsHeader w.txProp (lastMac attribs) ip set (w.addHeader D ip set attribs) := by
  intro c o s u h
  unfold addHeader
  cases hf : w.txProp.find? fun t => t.ip = ip with
  | none => exact .inr ⟨fun t ht => by simpa using List.find?_eq_none.1 hf t ht, by dsimp only⟩
  | some t =>
    obtain ⟨o₁, hcopy, h1⟩ := Outside.copyHeader_keeps hD h
    obtain ⟨k, o₂, hadd, h2⟩ := Outside.addHeader_keeps hD h1 ⟨ip, t.hdrName, attribs, w.headerNameCount⟩
    refine .inl ⟨⟨t, List.mem_of_find?_eq_some hf, by simpa using List.find?_some hf⟩, k, o₂, ?_, h2⟩
    simp only [hcopy, hadd]

theorem lastMac_append (l : List WlanHdrAttribVal) (a : WlanHdrAttribVal) (mac : MacAddr) :
    lastMac (l ++ [a]) mac = match a with | .macAddr m _ => m | _ => lastMac l mac := by
  rw [lastMac, List.foldl_append]
  cases a <;> rfl

theorem lastMac_idem (attribs : List WlanHdrAttribVal) (mac : MacAddr) : lastMac attribs (lastMac attribs mac) = lastMac attribs mac := by
  induction attribs using List.reverseRecOn generalizing mac with
  | nil => rfl
  | append_singleton l a ih =>
    cases a with
    | macAddr m n => simp only [lastMac_append]
    | staId id n => simp only [lastMac_append, ih]
    | other => simp only [lastMac_append, ih]

/-- The MAC the next record gets: without a property of either family, it keeps the one that was there. -/
def addedMac (w : Wlan) (attribs : List WlanHdrAttribVal) : MacAddr :=
  if w.txProp.any fun t => t.ip = .v4 ∨ t.ip = .v6 then lastMac attribs (w.wlanClient.slot w.wlanClient.num).mac
  else (w.wlanClient.slot w.wlanClient.num).mac

/-- There is room for another client, and there are properties to set it up with. -/
def Adds (w : Wlan) (total : Int) : Prop := w.wlanClient.num < ipaMaxNumWifiClients ∧ total < ipaMaxNumWifiClients ∧ w.txProp ≠ []

/-- A header flag is only set where there is a property for the header. -/
structure FlagsOk (tx : List TxProp) (c : Client WlanOwn) : Prop where
  hdr4 : c.ipv4HeaderSet = true → ∃ t ∈ tx, t.ip = .v4
  hdr6 : c.ipv6HeaderSet = true → ∃ t ∈ tx, t.ip = .v6

/-- A new record once its headers are there. -/
def freshRecord (c : Client WlanOwn) : Client WlanOwn :=
  { c with routeRuleSetV4 := false, routeRuleSetV6 := 0, ipv4Set := false, ipv6Set := 0, own := { powerSaveSet := false } }

theorem rtHdls_freshRecord (c : Client WlanOwn) : (freshRecord c).rtHdls tx = [] := Client.rtHdls_routesOff c

/-- **A client is added**: its record, and what the driver holds for it. -/
theorem handleWlanClientInitEx_adds (hD : AllSucceed D) {attribs : List WlanHdrAttribVal} {total : Int} (hadd : w.Adds total)
    (hflags : FlagsOk w.txProp (w.wlanClient.slot w.wlanClient.num)) (h : w.Held s u o) :
    ∃ c o', w.handleWlanClientInitEx D attribs total o =
        (true, { w with
          wlanClient := { w.wlanClient.set w.wlanClient.num (freshRecord c) with num := w.wlanClient.num + 1 },
          headerNameCount := w.headerNameCount + 1 }, total + 1, o') ∧
      c.mac = w.addedMac attribs ∧ FlagsOk w.txProp c ∧
      ({ w.wlanClient.set w.wlanClient.num (freshRecord c) with num := w.wlanClient.num + 1 } : ClientTable WlanOwn).Held w.txProp s u o' := by
  obtain ⟨c₁, o₁, c₂, o₂, h4, h6, hmac, hf, hk⟩ := Client.newHeaders_keeps (addHeader_adds hD w .v4 Client.withHdrV4 attribs)
    (addHeader_adds hD w .v6 Client.withHdrV6 attribs) (lastMac_idem attribs) ⟨hflags.hdr4, hflags.hdr6⟩ h
  refine ⟨c₂, o₂, ?_, hmac, ⟨hf.hdr4, hf.hdr6⟩, ?_⟩
  · unfold handleWlanClientInitEx
    dsimp only
    rw [if_neg (by have := hadd.1; have := hadd.2.1; omega), if_neg hadd.2.2]
    rw [h4]
    dsimp only
    rw [h6]
    rfl
  · refine ClientTable.held_push ?_
    rw [rtHdls_freshRecord, Multiset.coe_nil, zero_add]
    exact hk

/-- Without room, or without properties, nothing happens. -/
theorem handleWlanClientInitEx_refuses {attribs : List WlanHdrAttribVal} {total : Int} (hadd : ¬ w.Adds total) :
    (w.handleWlanClientInitEx D attribs total o).2 = (w, total, o) := by
  unfold handleWlanClientInitEx
  dsimp only
  split
  · rfl
  next h =>
    rw [if_pos]
    by_contra hne
    exact hadd ⟨by omega, by omega, hne⟩

/-- What the link's going down deletes of one client. -/
theorem downClient_keeps (hD : AllSucceed D) {c : Client WlanOwn} (h : c.Held w.txProp s u o) : (w.downClient D c o).Keeps s u := by
  unfold downClient
  dsimp only
  rw [Client.deleteRtRules_v4]
  dsimp only
  rw [Client.deleteRtRules_v6]
  dsimp only
  have h1 := Client.Held.deleteRtRules_v6 hD (Client.Held.deleteRtRules_v4 hD
    (Outside.Keeps.tell_if h (c.ipv4Set = true) (.neighIpAddrDel c.v4Addr)))
  have h2 : Outside.Keeps _ s (c.hdrHdls + u) := Outside.Keeps.of_eq h1 (by
    rw [Client.rtHdls_v6Off, Client.coe_rtHdlsV4, if_neg Bool.false_ne_true, zero_add]) rfl
  rw [Client.hdrHdls, ← Multiset.coe_add, add_assoc] at h2
  have h3 : ∀ {b : Bool} {k : Nat} {s u : Multiset Nat} {o : Outside},
      o.Keeps s (((if b then [k] else [] : List Nat) : Multiset Nat) + u) → (if b then (o.deleteHeaderHdl D k).2 else o).Keeps s u := by
    intro b k s u o hk
    cases b with
    | true => exact Outside.Keeps.deleteHeaderHdl hD hk
    | false => exact hk.of_eq rfl (zero_add u)
  exact h3 (h3 h2)

theorem handleDownEvt_keeps (hD : AllSucceed D) (h : w.Held s u o) : (w.handleDownEvt D o).2.Keeps s u := by
  have hstep : ∀ (f : Client WlanOwn → Multiset Nat) (s : Multiset Nat) n, n < w.wlanClient.num →
      w.wlanClient.sumFrom f n + s = f (w.wlanClient.slot n) + (w.wlanClient.sumFrom f (n + 1) + s) := fun f s n hn => by
    rw [ClientTable.sumFrom, Finset.sum_eq_sum_Ico_succ_bot hn, add_assoc]
    rfl
  have hend : ∀ (f : Client WlanOwn → Multiset Nat) (s : Multiset Nat), w.wlanClient.sumFrom f w.wlanClient.num + s = s := fun f s => by
    rw [ClientTable.sumFrom, Finset.Ico_self, Finset.sum_empty, zero_add]
  -- the clients from `n` on are still there
  have hloop := Lib.forRange_inv 
    (fun n o => o.Keeps (w.wlanClient.sumFrom (fun c => c.rtHdls w.txProp) n + s) (w.wlanClient.sumFrom (fun c => c.hdrHdls) n + u))
    (s := o) (n := w.wlanClient.num)
    (h.of_eq (congrArg (· + s) (by rw [ClientTable.rtHdls, Finset.range_eq_Ico, ClientTable.sumFrom]))
      (congrArg (· + u) (by rw [ClientTable.hdrHdls, Finset.range_eq_Ico, ClientTable.sumFrom])))
    (fun n o hn hk => downClient_keeps hD (hk.of_eq (hstep _ s n hn) (hstep _ u n hn)))
  exact hloop.of_eq (hend _ s) (hend _ u)

end Wlan
end HiaeCommon
