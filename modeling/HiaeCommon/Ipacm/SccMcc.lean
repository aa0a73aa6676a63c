/-
The switch between the concurrency modes of the WLAN (`ipacm/src/IPACM_Wlan.cpp`,
`ipacm/src/IPACM_Wan.cpp`, `IPACM_Routing::ModifyRoutingRule`): the routing rules
that are installed for the clients of an access point, and of the STA backhaul,
are given the pipe of the new mode. `isMCC_Mode` has its new value by then.

The loop of `IPACM_Wlan` over the IPv6 addresses of a client runs from the number
of those whose rules are installed, as the loop of the installer does; the one of
`IPACM_Wan` runs from zero.
-/
import HiaeCommon.Ipacm.ClientSetup
import HiaeCommon.Ipacm.RmDepend
import HiaeCommon.Lib.LedgerEdits

namespace HiaeCommon

open Lib (untilFailure)

/-- `ipa_rt_rule_mdfy`, without the handle. The rule stays in its table. -/
structure RtRuleMdfy where
  dst : Nat
  attrib : Option Nat
  hdrHdl : Nat
  dstAddr : BitVec 128
  deriving DecidableEq, Repr

def RtRuleMdfy.apply (m : RtRuleMdfy) (r : RtRule) : RtRule := ⟨r.tbl, m.dst, m.attrib, m.hdrHdl, m.dstAddr⟩

namespace Outside

variable (D : IpaDriver)

/-- `ModifyRoutingRule`, of one rule. -/
def modifyRoutingRule (rtRuleHdl : Nat) (m : RtRuleMdfy) (o : Outside) : Bool × Outside :=
  let (r, o) := call D (fun o => ((), { o with rt := o.rt.modify rtRuleHdl m.apply })) o
  (r.isSome, o)

/-- `IPACM_Routing::Commit`. -/
def commitRouting (o : Outside) : Bool × Outside :=
  let (r, o) := call D (fun o => ((), o)) o
  (r.isSome, o)

end Outside

namespace Wlan

variable (D : IpaDriver) (w : Wlan)

/-- A rule of a client is changed, and that one was is noted. -/
def switchRule (rtRuleHdl : Nat) (m : RtRuleMdfy) : Bool × Outside → Bool × Bool × Outside
  | (isAdded, o) =>
    match o.modifyRoutingRule D rtRuleHdl m with
    | (false, o) => (false, isAdded, o)
    | (true, o) => (true, true, o)

/-- The IPv4 rules of a client. -/
def switchClientV4 (c : Client WlanOwn) (s : Bool × Outside) : Bool × Bool × Outside :=
  if c.own.powerSaveSet = true ∨ c.routeRuleSetV4 = false then (true, s)
  else untilFailure (fun p s =>
    if p.1.ip = .v4 then
      switchRule D (c.rtHdl p.2).rtRuleHdlV4 ⟨w.dstPipe p.1, some p.2, c.hdrHdlV4, c.v4Addr.setWidth 128⟩ s
    else (true, s)) w.txProp.zipIdx s

/-- The IPv6 rules of a client. -/
def switchClientV6 (c : Client WlanOwn) (s : Bool × Outside) : Bool × Bool × Outside :=
  if c.own.powerSaveSet = true ∨ c.routeRuleSetV6 < c.ipv6Set then (true, s)
  else untilFailure (fun p s =>
    if p.1.ip = .v6 then
      untilFailure (fun n s =>
        switchRule D ((c.rtHdl p.2).rtRuleHdlV6Wan n) ⟨w.dstPipe p.1, some p.2, c.hdrHdlV6, c.v6Addr n⟩ s)
        (List.range' c.routeRuleSetV6 (c.ipv6Set - c.routeRuleSetV6)) s
    else (true, s)) w.txProp.zipIdx s

/-- `IPACM_Wlan::handle_SCC_MCC_switch`. A failure leaves what was changed uncommitted. -/
def handleSccMccSwitch (iptype : IpType) (o : Outside) : Outside :=
  if w.txProp = [] then o
  else
    let clients := List.range w.wlanClient.num
    let (ok, isAdded, o) := match iptype with
      | .v4 => untilFailure (fun i s => w.switchClientV4 D (w.wlanClient.slot i) s) clients (false, o)
      | .v6 => untilFailure (fun i s => w.switchClientV6 D (w.wlanClient.slot i) s) clients (false, o)
      | .max => (true, false, o)
    if ok = true ∧ isAdded = true then (o.commitRouting D).2 else o

end Wlan

/-- What the rules of its clients need of an `IPACM_Wan` in STA mode. `rmName` is the entry of
`ipa_client_rm_map_tbl` for the pipe of its first tx property. -/
structure WanClients where
  txProp : List TxProp
  excpPipe : Nat
  rmName : RmResourceName
  isMccMode : Bool
  isDefaultGateway : Bool
  wanClient : ClientTable Unit

namespace WanClients

variable (D : IpaDriver) (v : WanClients)

def dstPipe (t : TxProp) : Nat := if v.isMccMode then t.altDstPipe else t.dstPipe

/-- The rules of a client of the backhaul: to the pipe of the mode, but to the exception pipe in the IPv6 table of the WAN. -/
def rules : ClientRules where
  v4 t txIndex hdrHdl addr := ⟨.wanV4, v.dstPipe t, some txIndex, hdrHdl, addr.setWidth 128⟩
  v6 t _ hdrHdl addr := ⟨.v6, v.dstPipe t, none, hdrHdl, addr⟩
  v6Wan _ txIndex _ addr := ⟨.wanV6, v.excpPipe, some txIndex, 0, addr⟩

/-- `IPACM_Wan::handle_wan_client_route_rule`, with the dependency it asks for. -/
def handleWanClientRouteRule (macAddr : MacAddr) (iptype : IpType) (o : Outside) : Bool × WanClients × Outside × List RmCall :=
  if v.txProp = [] then (true, v, o, [])
  else
    match v.wanClient.index macAddr with
    | none => (true, v, o, [])
    | some i =>
      let (ok, c, o) := Client.addRules D v.rules v.txProp iptype (v.wanClient.slot i, o)
      (ok, { v with wanClient := v.wanClient.set i c }, o,
        if (v.wanClient.slot i).rulesDue iptype then [.addRmDepend v.rmName false] else [])

/-- The IPv4 rules of a client. -/
def switchClientV4 (c : Client Unit) (o : Outside) : Bool × Outside :=
  if c.routeRuleSetV4 = false ∨ c.ipv4Set = false then (true, o)
  else untilFailure (fun p o =>
    if p.1.ip = .v4 then
      o.modifyRoutingRule D (c.rtHdl p.2).rtRuleHdlV4 ⟨v.dstPipe p.1, some p.2, c.hdrHdlV4, c.v4Addr.setWidth 128⟩
    else (true, o)) v.txProp.zipIdx o

/-- The rules of a client in the IPv6 table of the WAN. -/
def switchClientV6 (iptype : IpType) (c : Client Unit) (o : Outside) : Bool × Outside :=
  if c.routeRuleSetV6 = 0 then (true, o)
  else untilFailure (fun p o =>
    if p.1.ip = iptype then
      untilFailure (fun n o =>
        o.modifyRoutingRule D ((c.rtHdl p.2).rtRuleHdlV6Wan n) ⟨v.dstPipe p.1, some p.2, c.hdrHdlV6, c.v6Addr n⟩)
        (List.range c.routeRuleSetV6) o
    else (true, o)) v.txProp.zipIdx o

/-- `IPACM_Wan::handle_wan_client_SCC_MCC_switch`. The mode it is told goes unused. -/
def handleWanClientSccMccSwitch (_isSccMode : Bool) (iptype : IpType) (o : Outside) : Outside :=
  if v.txProp = [] ∨ v.isDefaultGateway = false then o
  else
    (untilFailure (fun i o =>
      if iptype = .v4 then v.switchClientV4 D (v.wanClient.slot i) o else v.switchClientV6 D iptype (v.wanClient.slot i) o)
      (List.range v.wanClient.num) o).2

end WanClients
end HiaeCommon
