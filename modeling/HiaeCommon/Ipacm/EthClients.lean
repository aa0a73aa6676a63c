/-
The Ethernet clients of `IPACM_Lan` (`ipacm/src/IPACM_Lan.cpp`): one comes, with
the headers it is given, has addresses and rules for them, and goes.
-/
import HiaeCommon.Ipacm.ClientSetup
import HiaeCommon.Ipacm.RmDepend

namespace HiaeCommon

/-- `IPA_MAX_NUM_ETH_CLIENTS`. -/
def ipaMaxNumEthClients : Nat := 15

/-- What the removal of a client uses of an `IPACM_Lan`. `rmName` is the entry of
`ipa_client_rm_map_tbl` for the pipe of its first tx property. -/
structure EthClients where
  txProp : List TxProp
  rmName : RmResourceName
  ethClient : ClientTable Unit

/-- `IPACM_Lan::handle_eth_client_down_evt`: whether it returns `IPACM_SUCCESS`, what it leaves, and
the dependency it withdraws with the last client. -/
def EthClients.handleEthClientDownEvt (D : IpaDriver) (l : EthClients) (macAddr : MacAddr) (o : Outside) :
    Bool × EthClients × Outside × List RmCall :=
  match l.ethClient.clientDown D l.txProp macAddr o with
  | (.notAttached, _, o) => (true, l, o, [])
  | (.failed, t, o) => (false, { l with ethClient := t }, o, [])
  | (.deleted, t, o) => (true, { l with ethClient := t }, o, if t.num = 0 ∧ l.txProp ≠ [] then [.delRmDepend l.rmName] else [])

/-- What the handlers of the clients use of an `IPACM_Lan` beyond that. `eth2Ofst` is what `CopyHeader` tells of a
partial header: whether the offset of the Ethernet addresses is valid, and the offset; `bridgeMac` is the MAC of the
bridge if the device is in bridge mode, and `appsLanCons` is `IPA_CLIENT_APPS_LAN_CONS`. -/
structure EthLan extends EthClients where
  ipv6Prefix : BitVec 64
  appsLanCons : Nat
  eth2Ofst : String → Bool × Nat
  bridgeMac : Option MacAddr
  headerNameCount : Nat

namespace EthLan

variable (D : IpaDriver)

/-- The MACs written over the partial header of a tx property. -/
def hdrAttribs (l : EthLan) (hdrName : String) (macAddr : MacAddr) : List WlanHdrAttribVal :=
  (if (l.eth2Ofst hdrName).1 then [.macAddr macAddr (l.eth2Ofst hdrName).2] else []) ++
    (match l.bridgeMac with | some m => [.macAddr m ((l.eth2Ofst hdrName).2 + 6)] | none => [])

/-- One loop of `handle_eth_hdr_init`: the header of a family, from the first tx property that has it. `none` is a
failure. -/
def addHeader (ip : IpType) (set : Client Unit → Nat → Client Unit) (macAddr : MacAddr) (l : EthLan) :
    Client Unit × Outside → Option Unit × Client Unit × Outside
  | (c, o) =>
    match l.txProp.find? fun t => t.ip = ip with
    | none => (some (), c, o)
    | some t =>
      match o.copyHeader D with
      | (none, o) => (none, c, o)
      | (some _, o) =>
        match o.addHeader D ⟨ip, t.hdrName, l.hdrAttribs t.hdrName macAddr, l.headerNameCount⟩ with
        | (none, o) => (none, c, o)
        | (some h, o) => (some (), set c h, o)

/-- `handle_eth_hdr_init`. -/
def handleEthHdrInit (l : EthLan) (macAddr : MacAddr) (o : Outside) : Bool × EthLan × Outside :=
  let num := l.ethClient.num
  match l.ethClient.index macAddr with
  | some _ => (false, l, o)
  | none =>
    if num ≥ ipaMaxNumEthClients then (false, l, o)
    else
      let c := { l.ethClient.slot num with mac := macAddr }
      if l.txProp = [] then (true, { l with ethClient := l.ethClient.set num c }, o)
      else
        match l.addHeader D .v4 (fun c h => { c with hdrHdlV4 := h, ipv4HeaderSet := true }) macAddr (c, o) with
        | (none, c, o) => (false, { l with ethClient := l.ethClient.set num c }, o)
        | (some _, c, o) =>
          match l.addHeader D .v6 (fun c h => { c with hdrHdlV6 := h, ipv6HeaderSet := true }) macAddr (c, o) with
          | (none, c, o) => (false, { l with ethClient := l.ethClient.set num c }, o)
          | (some _, c, o) =>
            let c := { c with routeRuleSetV4 := false, routeRuleSetV6 := 0, ipv4Set := false, ipv6Set := 0 }
            (true, { l with
              ethClient := { l.ethClient.set num c with num := num + 1 }, headerNameCount := l.headerNameCount + 1 }, o)

/-- `handle_eth_client_ipaddr`. -/
def handleEthClientIpaddr (l : EthLan) (data : EventDataAll) (o : Outside) : Bool × EthLan × Outside :=
  let (ok, t, o) := l.ethClient.clientIpaddr D l.txProp l.ipv6Prefix data o
  (ok, { l with ethClient := t }, o)

/-- The rules of an Ethernet client: to the client's pipe, but to the host in the IPv6 table of the LAN. -/
def rules (l : EthLan) : ClientRules where
  v4 t txIndex hdrHdl addr := ⟨.lanV4, t.dstPipe, some txIndex, hdrHdl, addr.setWidth 128⟩
  v6 _ _ _ addr := ⟨.v6, l.appsLanCons, none, 0, addr⟩
  v6Wan t txIndex hdrHdl addr := ⟨.wanV6, t.dstPipe, some txIndex, hdrHdl, addr⟩

/-- `handle_eth_client_route_rule`, with the dependency it asks for. -/
def handleEthClientRouteRule (l : EthLan) (macAddr : MacAddr) (iptype : IpType) (o : Outside) :
    Bool × EthLan × Outside × List RmCall :=
  if l.txProp = [] then (true, l, o, [])
  else
    match l.ethClient.index macAddr with
    | none => (true, l, o, [])
    | some i =>
      let (ok, c, o) := Client.addRules D l.rules l.txProp iptype (l.ethClient.slot i, o)
      (ok, { l with ethClient := l.ethClient.set i c }, o,
        if (l.ethClient.slot i).rulesDue iptype then [.addRmDepend l.rmName false] else [])

/-- `handle_eth_client_down_evt`. -/
def handleEthClientDownEvt (l : EthLan) (macAddr : MacAddr) (o : Outside) : Bool × EthLan × Outside × List RmCall :=
  let (ok, c, o, rm) := l.toEthClients.handleEthClientDownEvt D macAddr o
  (ok, { l with toEthClients := c }, o, rm)

end EthLan

/-- The events about Ethernet clients. -/
inductive EthEvt
  | clientAdd (macAddr : MacAddr)
  | clientAddr (data : EventDataAll)
  | routeAdd (macAddr : MacAddr) (iptype : IpType)
  | clientDel (macAddr : MacAddr)
  deriving DecidableEq, Repr

/-- An interface, the driver, and the RM dependencies asked for and withdrawn. -/
structure EthSys where
  lan : EthLan
  outside : Outside := {}
  rmCalls : List RmCall := []

namespace EthSys

def step (D : IpaDriver) (s : EthSys) : EthEvt → EthSys
  | .clientAdd macAddr =>
    let (_, lan, outside) := s.lan.handleEthHdrInit D macAddr s.outside
    { s with lan, outside }
  | .clientAddr data =>
    let (_, lan, outside) := s.lan.handleEthClientIpaddr D data s.outside
    { s with lan, outside }
  | .routeAdd macAddr iptype =>
    let (_, lan, outside, rm) := s.lan.handleEthClientRouteRule D macAddr iptype s.outside
    { lan, outside, rmCalls := s.rmCalls ++ rm }
  | .clientDel macAddr =>
    let (_, lan, outside, rm) := s.lan.handleEthClientDownEvt D macAddr s.outside
    { lan, outside, rmCalls := s.rmCalls ++ rm }

def run (D : IpaDriver) (s : EthSys) (es : List EthEvt) : EthSys := es.foldl (step D) s

end EthSys
end HiaeCommon
