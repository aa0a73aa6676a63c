/-
`IPACM_Wlan` and its clients (`ipacm/src/IPACM_Wlan.cpp`): what the access
points' instances do at the events about clients, and at those that reach every
client of an access point.

The removal of a client moves the records behind it by copying their fields.
`power_save_set` is not among the fields copied.
-/
import HiaeCommon.Ipacm.ClientTable

namespace HiaeCommon

open Lib (Ledger untilFailure)

/-- What `ipa_wlan_client` has beside the fields of `ipa_eth_client`. -/
structure WlanOwn where
  powerSaveSet : Bool := false
  deriving DecidableEq, Repr

/-- An `IPACM_Wlan`. -/
structure Wlan where
  txProp : List TxProp
  excpPipe : Nat
  isMccMode : Bool
  isActive : Bool := true
  ipv6Prefix : BitVec 64 := 0
  headerNameCount : Nat := 0
  wlanClient : ClientTable WlanOwn := ⟨0, fun _ => { own := {} }⟩

/-- The events about clients, and those that reach all of them. `clientAdd` is the event without
attributes; `natIface` is what `CheckNatIface` will find of the interface. -/
inductive WlanEvt
  | clientAdd (mac : MacAddr)
  | clientAddEx (attribs : List WlanHdrAttribVal)
  | clientDel (mac : MacAddr)
  | clientPowerSave (mac : MacAddr)
  | clientRecover (mac : MacAddr)
  | neighClientIpAddrAdd (data : EventDataAll) (natIface : Option Bool)
  | wanUpV6Tether (prefix6 : BitVec 64)
  | wanDownV6Tether
  | linkDown
  deriving DecidableEq, Repr

namespace Wlan

variable (D : IpaDriver)

/-- The last MAC address among the attributes, or what was there. -/
def lastMac (attribs : List WlanHdrAttribVal) (mac : MacAddr) : MacAddr :=
  attribs.foldl (fun mac a => match a with | .macAddr m _ => m | _ => mac) mac

/-- One loop of `handle_wlan_client_init_ex`: the header of a family, from the first tx property that has
it. `none` is a failure. The MAC of an attribute goes into the record. -/
def addHeader (ip : IpType) (set : Client WlanOwn → Nat → Client WlanOwn) (attribs : List WlanHdrAttribVal) (w : Wlan) :
    Client WlanOwn × Outside → Option Unit × Client WlanOwn × Outside
  | (c, o) =>
    match w.txProp.find? fun t => t.ip = ip with
    | none => (some (), c, o)
    | some t =>
      let (r, o) := o.copyHeader D
      match r with
      | none => (none, c, o)
      | some _ =>
        let c := { c with mac := lastMac attribs c.mac }
        let (h, o) := o.addHeader D ⟨ip, t.hdrName, attribs, w.headerNameCount⟩
        match h with
        | none => (none, c, o)
        | some h => (some (), set c h, o)

/-- `handle_wlan_client_init_ex`, with `total_num_wifi_clients`. -/
def handleWlanClientInitEx (w : Wlan) (attribs : List WlanHdrAttribVal) (total : Int) (o : Outside) : Bool × Wlan × Int × Outside :=
  let num := w.wlanClient.num
  if num ≥ ipaMaxNumWifiClients ∨ total ≥ ipaMaxNumWifiClients then (false, w, total, o)
  else if w.txProp = [] then (true, w, total, o)
  else
    match w.addHeader D .v4 (fun c h => { c with hdrHdlV4 := h, ipv4HeaderSet := true }) attribs (w.wlanClient.slot num, o) with
    | (none, c, o) => (false, { w with wlanClient := w.wlanClient.set num c }, total, o)
    | (some _, c, o) =>
      match w.addHeader D .v6 (fun c h => { c with hdrHdlV6 := h, ipv6HeaderSet := true }) attribs (c, o) with
      | (none, c, o) => (false, { w with wlanClient := w.wlanClient.set num c }, total, o)
      | (some _, c, o) =>
        let c := { c with
          routeRuleSetV4 := false, routeRuleSetV6 := 0, ipv4Set := false, ipv6Set := 0, own := { powerSaveSet := false } }
        (true, { w with
            wlanClient := { w.wlanClient.set num c with num := num + 1 }, headerNameCount := w.headerNameCount + 1 }, total + 1, o)

/-- The first two words of an address. -/
def prefixOf (addr : BitVec 128) : BitVec 64 := addr.extractLsb' 64 64

/-- The address has the link-local prefix under its mask. -/
def isLinkLocal (addr : BitVec 128) : Bool := addr.extractLsb' 96 32 &&& 0xFFC00000 == 0xFE800000 &&& 0xFFC00000

/-- `handle_wlan_client_ipaddr`. -/
def handleWlanClientIpaddr (w : Wlan) (data : EventDataAll) (o : Outside) : Bool × Wlan × Outside :=
  match w.wlanClient.index data.macAddr with
  | none => (false, w, o)
  | some i =>
    let c := w.wlanClient.slot i
    if data.iptype = .v4 then
      if data.ipv4Addr ≠ 0 then
        if c.ipv4Set = false then
          (true, { w with wlanClient := w.wlanClient.set i { c with v4Addr := data.ipv4Addr, ipv4Set := true } }, o)
        else if data.ipv4Addr = c.v4Addr then (false, w, o)
        else
          let (_, c, o) := Client.deleteRtRules D w.txProp .v4 (c, o.tell (.neighIpAddrDel c.v4Addr))
          (true, { w with wlanClient := w.wlanClient.set i { c with routeRuleSetV4 := false, v4Addr := data.ipv4Addr } }, o)
      else (false, w, o)
    else if data.ipv6Addr ≠ 0 then
      if isLinkLocal data.ipv6Addr = false ∧ w.ipv6Prefix ≠ prefixOf data.ipv6Addr then (false, w, o)
      else if c.ipv6Set < ipv6NumAddr then
        if (List.range c.ipv6Set).any fun n => data.ipv6Addr = c.v6Addr n then (false, w, o)
        else
          let v6Addr := fun n => if n = c.ipv6Set then data.ipv6Addr else c.v6Addr n
          (true, { w with wlanClient := w.wlanClient.set i { c with v6Addr, ipv6Set := c.ipv6Set + 1 } }, o)
      else (false, w, o)
    else (true, w, o)

/-- The pipe of a tx property, which depends on the concurrency mode. -/
def dstPipe (w : Wlan) (t : TxProp) : Nat := if w.isMccMode then t.altDstPipe else t.dstPipe

/-- The rule of a tx property for an IPv4 client. -/
def addRuleV4 (w : Wlan) (t : TxProp) (txIndex : Nat) : Client WlanOwn × Outside → Bool × Client WlanOwn × Outside
  | (c, o) =>
    match o.addRoutingRule D ⟨.lanV4, w.dstPipe t, some txIndex, c.hdrHdlV4, c.v4Addr.setWidth 128⟩ with
    | (none, o) => (false, c, o)
    | (some h, o) => (true, c.setRtHdl txIndex fun r => { r with rtRuleHdlV4 := h }, o)

/-- The two rules of a tx property for the `n`-th IPv6 address of a client. -/
def addRulesV6 (w : Wlan) (t : TxProp) (txIndex n : Nat) : Client WlanOwn × Outside → Bool × Client WlanOwn × Outside
  | (c, o) =>
    match o.addRoutingRule D ⟨.v6, w.excpPipe, none, 0, c.v6Addr n⟩ with
    | (none, o) => (false, c, o)
    | (some h, o) =>
      let c := c.setRtHdl txIndex fun r => { r with rtRuleHdlV6 := fun k => if k = n then h else r.rtRuleHdlV6 k }
      match o.addRoutingRule D ⟨.wanV6, w.dstPipe t, some txIndex, c.hdrHdlV6, c.v6Addr n⟩ with
      | (none, o) => (false, c, o)
      | (some h, o) =>
        (true, c.setRtHdl txIndex fun r => { r with rtRuleHdlV6Wan := fun k => if k = n then h else r.rtRuleHdlV6Wan k }, o)

/-- The rules of a client, once it is clear that they are to be added. -/
def addRules (w : Wlan) (iptype : IpType) : Client WlanOwn × Outside → Bool × Client WlanOwn × Outside
  | (c, o) =>
    if iptype = .v4 ∧ c.routeRuleSetV4 = false ∧ c.ipv4Set = true then
      match untilFailure (fun p s => if p.1.ip = .v4 then w.addRuleV4 D p.1 p.2 s else (true, s)) w.txProp.zipIdx (c, o) with
      | (false, c, o) => (false, c, o)
      | (true, c, o) => (true, { c with routeRuleSetV4 := true }, o)
    else if iptype = .v6 ∧ c.routeRuleSetV6 < c.ipv6Set then
      match untilFailure (fun p s =>
        if p.1.ip = .v6 then
          untilFailure (w.addRulesV6 D p.1 p.2) (List.range' c.routeRuleSetV6 (c.ipv6Set - c.routeRuleSetV6)) s
        else (true, s)) w.txProp.zipIdx (c, o) with
      | (false, c, o) => (false, c, o)
      | (true, c, o) => (true, { c with routeRuleSetV6 := c.ipv6Set }, o)
    else (true, c, o)

/-- `handle_wlan_client_route_rule`. -/
def handleWlanClientRouteRule (w : Wlan) (macAddr : MacAddr) (iptype : IpType) (o : Outside) : Bool × Wlan × Outside :=
  if w.txProp = [] then (true, w, o)
  else
    match w.wlanClient.index macAddr with
    | none => (true, w, o)
    | some i =>
      if (w.wlanClient.slot i).own.powerSaveSet then (true, w, o)
      else
        let (ok, c, o) := w.addRules D iptype (w.wlanClient.slot i, o)
        (ok, { w with wlanClient := w.wlanClient.set i c }, o)

/-- `handle_wlan_client_pwrsave`. -/
def handleWlanClientPwrsave (w : Wlan) (macAddr : MacAddr) (o : Outside) : Wlan × Outside :=
  match w.wlanClient.index macAddr with
  | none => (w, o)
  | some i =>
    let c := w.wlanClient.slot i
    if c.own.powerSaveSet then (w, o)
    else
      let o := if c.ipv4Set then o.tell (.natCall (.updatePwrSaveIf c.v4Addr)) else o
      let (_, c, o) := Client.deleteRtRules D w.txProp .v4 (c, o)
      let (_, c, o) := Client.deleteRtRules D w.txProp .v6 (c, o)
      ({ w with wlanClient := w.wlanClient.set i { c with own := { powerSaveSet := true } } }, o)

/-- `IPA_WLAN_CLIENT_RECOVER_EVENT`. -/
def clientRecover (w : Wlan) (macAddr : MacAddr) (o : Outside) : Wlan × Outside :=
  match w.wlanClient.index macAddr with
  | none => (w, o)
  | some i =>
    let c := w.wlanClient.slot i
    if c.own.powerSaveSet = false then (w, o)
    else
      let w := { w with wlanClient := w.wlanClient.set i { c with own := { powerSaveSet := false } } }
      let (w, o) :=
        if c.ipv4Set then
          let (_, w, o) := w.handleWlanClientRouteRule D macAddr .v4 o
          (w, o.tell (.natCall (.resetPwrSaveIf c.v4Addr)))
        else (w, o)
      if c.ipv6Set ≠ 0 then
        let (_, w, o) := w.handleWlanClientRouteRule D macAddr .v6 o
        (w, o)
      else (w, o)

/-- `handle_wlan_client_down_evt`, with `total_num_wifi_clients`. -/
def handleWlanClientDownEvt (w : Wlan) (macAddr : MacAddr) (total : Int) (o : Outside) : Bool × Wlan × Int × Outside :=
  match w.wlanClient.clientDown D w.txProp macAddr o with
  | (.notAttached, _, o) => (true, w, total, o)
  | (.failed, t, o) => (false, { w with wlanClient := t }, total, o)
  | (.deleted, t, o) => (true, { w with wlanClient := t }, total - 1, o)

/-- `IPA_NEIGH_CLIENT_IP_ADDR_ADD_EVENT`. -/
def neighClientIpAddrAdd (w : Wlan) (data : EventDataAll) (natIface : Option Bool) (o : Outside) : Wlan × Outside :=
  match w.handleWlanClientIpaddr D data o with
  | (false, w, o) => (w, o)
  | (true, w, o) =>
    let (_, w, o) := w.handleWlanClientRouteRule D data.macAddr data.iptype o
    (w, if data.iptype = .v4 then o.tell (.neighIpAddrAdd ⟨data.ipv4Addr, true, natIface⟩) else o)

/-- `handle_wlan_client_reset_rt(IPA_IP_v6)`. -/
def handleWlanClientResetRtV6 (w : Wlan) (o : Outside) : Wlan × Outside :=
  let (_, t, o) := untilFailure (fun i s =>
    match Client.deleteRtRules D w.txProp .v6 (s.1.slot i, s.2) with
    | (false, c, o) => (false, s.1.set i c, o)
    | (true, c, o) => (true, s.1.set i { c with ipv6Set := 0 }, o)) (List.range w.wlanClient.num) (w.wlanClient, o)
  ({ w with wlanClient := t }, o)

/-- What `handle_down_evt` does for each client, whatever fails. -/
def downClient (w : Wlan) (c : Client WlanOwn) (o : Outside) : Outside :=
  let o := if c.ipv4Set then o.tell (.neighIpAddrDel c.v4Addr) else o
  let (_, c, o) := Client.deleteRtRules D w.txProp .v4 (c, o)
  let (_, c, o) := Client.deleteRtRules D w.txProp .v6 (c, o)
  let o := if c.ipv4HeaderSet then (o.deleteHeaderHdl D c.hdrHdlV4).2 else o
  if c.ipv6HeaderSet then (o.deleteHeaderHdl D c.hdrHdlV6).2 else o

/-- `handle_down_evt`, as far as clients go: their records are freed. -/
def handleDownEvt (w : Wlan) (o : Outside) : Wlan × Outside :=
  ({ w with isActive := false },
    (List.range w.wlanClient.num).foldl (fun o i => w.downClient D (w.wlanClient.slot i) o) o)

/-- `event_callback`, with `total_num_wifi_clients`. -/
def eventCallback (w : Wlan) (e : WlanEvt) (total : Int) (o : Outside) : Wlan × Int × Outside :=
  if w.isActive = false then (w, total, o)
  else
    match e with
    | .clientAdd _ => (w, total, o)
    | .clientAddEx attribs => (w.handleWlanClientInitEx D attribs total o).2
    | .clientDel mac => (w.handleWlanClientDownEvt D mac total o).2
    | .clientPowerSave mac => let (w, o) := w.handleWlanClientPwrsave D mac o; (w, total, o)
    | .clientRecover mac => let (w, o) := w.clientRecover D mac o; (w, total, o)
    | .neighClientIpAddrAdd data natIface => let (w, o) := w.neighClientIpAddrAdd D data natIface o; (w, total, o)
    | .wanUpV6Tether prefix6 => ({ w with ipv6Prefix := prefix6 }, total, o)
    | .wanDownV6Tether => let (w, o) := w.handleWlanClientResetRtV6 D o; (w, total, o)
    | .linkDown => let (w', o) := w.handleDownEvt D o; (w', total - w.wlanClient.num, o)

end Wlan

/-- The access points there have been, and what they share. -/
structure WlanSys where
  aps : List Wlan := []
  totalNumWifiClients : Int := 0
  outside : Outside := {}

/-- A new access point, or an event at one of those there are. -/
inductive WlanSysEvt
  | newAp (txProp : List TxProp) (excpPipe : Nat) (isMccMode : Bool)
  | ap (i : Nat) (e : WlanEvt)
  deriving DecidableEq, Repr

namespace WlanSys

def step (D : IpaDriver) (s : WlanSys) : WlanSysEvt → WlanSys
  | .newAp txProp excpPipe isMccMode => { s with aps := s.aps ++ [{ txProp, excpPipe, isMccMode }] }
  | .ap i e =>
    match s.aps[i]? with
    | none => s
    | some w =>
      let (w, total, o) := w.eventCallback D e s.totalNumWifiClients s.outside
      { aps := s.aps.set i w, totalNumWifiClients := total, outside := o }

def run (D : IpaDriver) (es : List WlanSysEvt) : WlanSys := es.foldl (step D) {}

end WlanSys
end HiaeCommon
