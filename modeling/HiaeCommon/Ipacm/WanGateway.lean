/-
The default gateway among the instances of `IPACM_Wan` (`ipacm/src/IPACM_Wan.cpp`):
each is told of every upstream and default route that comes or goes, takes the
one that is its own, and lets go of what it has when another's comes.

With every driver call succeeding the handlers read nothing back of the rules,
headers and dependencies they ask for, so these are left out, and so are the
results of the handlers, which no caller looks at.
-/
import HiaeCommon.Lib.Announced
import HiaeCommon.Ipacm.ClientTable
import HiaeCommon.Ipacm.IfaceManager
import HiaeCommon.Ipacm.Lan

namespace HiaeCommon

/-- What the code is built with: `FEATURE_IPA_ANDROID`, and `IPA_WAN_MSG_IPv6_ADDR_GW_LEN`, with which the data of an
upstream event names the gateway. -/
structure WanBuild where
  featureIpaAndroid : Bool
  wanMsgAddrGw : Bool
  deriving DecidableEq, Repr

/-- `IPA_MAX_IFACE_ENTRIES`, the length of the two tether arrays. -/
def ipaMaxIfaceEntries : Nat := 20

/-- `IPACM_Wan`. `txProp` is whether there are tx properties, and `extMuxIds` the `mux_id` of each extended property:
none where the query gave none. -/
structure Wan where
  ipaIfNum : Nat
  devName : String
  mIsStaMode : WanIfaceType
  ifModeBridge : Bool
  txProp : Bool
  extMuxIds : List (BitVec 8)
  ipType : IfaceIpType
  wanV4Addr : BitVec 32
  ipv6Prefix : BitVec 64
  isXlat : Bool
  wanClient : ClientTable Unit
  wanV4AddrGw : BitVec 32 := 0
  wanV4AddrGwSet : Bool := false
  wanV6AddrGw : BitVec 128 := 0
  wanV6AddrGwSet : Bool := false
  headerSetV4 : Bool := false
  headerSetV6 : Bool := false
  headerPartialDefaultWanV4 : Bool := false
  headerPartialDefaultWanV6 : Bool := false
  hdrHdlStaV4 : Nat := 0
  hdrHdlStaV6 : Nat := 0
  extRouterMacAddr : MacAddr := 0
  isDefaultGateway : Bool := false
  activeV4 : Bool := false
  activeV6 : Bool := false

/-- The events an instance posts, with `ipacm_event_iface_up` or `ipacm_event_iface_up_tehter`. -/
inductive WanPosted
  | wanUp (ifname : String) (ipv4Addr : BitVec 32) (isSta : Bool) (xlatMuxId : BitVec 8)
  | wanUpV6 (ifname : String) (ipv6Prefix : BitVec 64) (isSta : Bool)
  | wanDown (ipv4Addr : BitVec 32) (isSta : Bool)
  | wanDownV6 (ipv6Prefix : BitVec 64) (isSta : Bool)
  | wanUpTether (ifIndexTether : Option Nat) (isSta : Bool)
  | wanUpV6Tether (ifIndexTether : Option Nat) (isSta : Bool) (ipv6Prefix : BitVec 64)
  | wanDownTether (ifIndexTether : Option Nat) (isSta : Bool)
  | wanDownV6Tether (ifIndexTether : Option Nat) (isSta : Bool)
  deriving DecidableEq, Repr

/-- The static members, the QMAP id of `IPACM_Config`, and what has been posted, the latest last. The two tether arrays
are given as far as they are in use; `outOfBounds` is set when an entry is written behind the end of one. -/
structure WanShared where
  wanUp : Bool := false
  wanUpV6 : Bool := false
  xlatMuxId : BitVec 8 := 0
  wanUpDevName : String := ""
  backhaulIsStaMode : Bool := false
  backhaulIsWanBridge : Bool := false
  backhaulIpv6Prefix : BitVec 64 := 0
  qmapId : BitVec 8 := 0
  ipaIfNumTetherV4 : List (Option Nat) := []
  ipaIfNumTetherV6 : List (Option Nat) := []
  posted : List WanPosted := []
  outOfBounds : Bool := false
  deriving DecidableEq, Repr

/-- `PostEvt`. -/
def WanShared.postEvt (sh : WanShared) (m : WanPosted) : WanShared := { sh with posted := sh.posted ++ [m] }

/-- `ipacm_event_data_iptype`, with what `iface_ipa_index_query` finds for its two interfaces. -/
structure UpstreamRoute where
  iptype : IpType
  ipaIfIndex : Option Nat
  ipaIfIndexTether : Option Nat
  ipv4AddrGw : BitVec 32 := 0
  ipv6AddrGw : BitVec 128 := 0
  deriving DecidableEq, Repr

/-- What the route events read of `ipacm_event_data_addr`. -/
structure RouteAddr where
  iptype : IpType
  ipaIfIndex : Option Nat
  ipv4AddrGw : BitVec 32 := 0
  ipv4Addr : BitVec 32 := 0
  ipv4AddrMask : BitVec 32 := 0
  ipv6Addr : BitVec 128 := 0
  ipv6AddrGw : BitVec 128 := 0
  deriving DecidableEq, Repr

/-- `IPA_WAN_UPSTREAM_ROUTE_ADD_EVENT`, `IPA_WAN_UPSTREAM_ROUTE_DEL_EVENT`, `IPA_ROUTE_ADD_EVENT`, `IPA_ROUTE_DEL_EVENT`. -/
inductive WanRouteEvt
  | upstreamRouteAdd (data : UpstreamRoute)
  | upstreamRouteDel (data : UpstreamRoute)
  | routeAdd (data : RouteAddr)
  | routeDel (data : RouteAddr)
  deriving DecidableEq, Repr

namespace Wan

/-- `m_is_sta_mode != Q6_WAN`. -/
def isSta (w : Wan) : Bool := w.mIsStaMode != .q6Wan

/-- `get_wan_client_index_ipv4`. -/
def getWanClientIndexIpv4 (w : Wan) (ipv4Addr : BitVec 32) : Option Nat :=
  (List.range w.wanClient.num).find? fun cnt => (w.wanClient.slot cnt).ipv4Set && ipv4Addr == (w.wanClient.slot cnt).v4Addr

/-- `get_wan_client_index_ipv6`. -/
def getWanClientIndexIpv6 (w : Wan) (ipv6Addr : BitVec 128) : Option Nat :=
  (List.range w.wanClient.num).find? fun cnt =>
    (List.range (w.wanClient.slot cnt).ipv6Set).any fun v6Num => ipv6Addr == (w.wanClient.slot cnt).v6Addr v6Num

/-- The part of `handle_route_add_evt` behind its checks. -/
def defaultRouteUp (iptype : IpType) : Wan × WanShared → Wan × WanShared
  | (w, sh) =>
    if iptype = .v4 then
      let xlatMuxId := if w.isXlat && w.mIsStaMode == .q6Wan then w.extMuxIds.headD 0 else 0
      ({ w with activeV4 := true },
        { sh with wanUp := true, wanUpDevName := w.devName, xlatMuxId }.postEvt (.wanUp w.devName w.wanV4Addr w.isSta xlatMuxId))
    else
      ({ w with activeV6 := true },
        { sh with backhaulIpv6Prefix := w.ipv6Prefix, wanUpV6 := true, wanUpDevName := w.devName }.postEvt
          (.wanUpV6 w.devName w.ipv6Prefix w.isSta))

/-- `handle_route_add_evt`. -/
def handleRouteAddEvt (iptype : IpType) : Wan × WanShared → Wan × WanShared
  | (w, sh) =>
    if w.txProp = false then (w, sh)
    else
      let w := { w with isDefaultGateway := true }
      let sh := { sh with backhaulIsWanBridge := w.ifModeBridge, backhaulIsStaMode := w.isSta }
      if w.isSta then
        if iptype = .v4 ∧ w.headerSetV4 = false then ({ w with headerPartialDefaultWanV4 := true }, sh)
        else if iptype = .v6 ∧ w.headerSetV6 = false then ({ w with headerPartialDefaultWanV6 := true }, sh)
        else defaultRouteUp iptype (w, sh)
      else
        match w.extMuxIds with
        | [] => (w, sh)
        | muxId :: _ => defaultRouteUp iptype (w, { sh with qmapId := muxId })

/-- What `handle_route_del_evt` and `handle_route_del_evt_ex` have in common: all but the rules they delete. -/
def defaultRouteDown (iptype : IpType) : Wan × WanShared → Wan × WanShared
  | (w, sh) =>
    if w.txProp = false then (w, sh)
    else if iptype = .v4 ∧ w.activeV4 = true then
      let sh := { sh.postEvt (.wanDown w.wanV4Addr w.isSta) with wanUp := false }
      ({ w with isDefaultGateway := false, activeV4 := false }, if sh.wanUpV6 then sh else { sh with wanUpDevName := "" })
    else if iptype = .v6 ∧ w.activeV6 = true then
      let sh := { sh.postEvt (.wanDownV6 w.ipv6Prefix w.isSta) with wanUpV6 := false }
      ({ w with isDefaultGateway := false, activeV6 := false }, if sh.wanUp then sh else { sh with wanUpDevName := "" })
    else ({ w with isDefaultGateway := false }, sh)

/-- `handle_route_del_evt`, for a station. -/
def handleRouteDelEvt (iptype : IpType) : Wan × WanShared → Wan × WanShared := defaultRouteDown iptype

/-- `handle_route_del_evt_ex`, for the modem. -/
def handleRouteDelEvtEx (iptype : IpType) : Wan × WanShared → Wan × WanShared := defaultRouteDown iptype

/-- The end of a route in `event_callback`. -/
def cleanRoute (iptype : IpType) (p : Wan × WanShared) : Wan × WanShared :=
  if p.1.mIsStaMode = .q6Wan then handleRouteDelEvtEx iptype p else handleRouteDelEvt iptype p

/-- `post_wan_up_tether_evt`. -/
def postWanUpTetherEvt (iptype : IpType) (ipaIfNumTether : Option Nat) : Wan × WanShared → Wan × WanShared
  | (w, sh) =>
    if iptype = .v4 then
      let sh := if sh.ipaIfNumTetherV4.length < ipaMaxIfaceEntries
        then { sh with ipaIfNumTetherV4 := sh.ipaIfNumTetherV4 ++ [ipaIfNumTether] } else { sh with outOfBounds := true }
      (w, sh.postEvt (.wanUpTether ipaIfNumTether w.isSta))
    else
      let sh := if sh.ipaIfNumTetherV6.length < ipaMaxIfaceEntries
        then { sh with ipaIfNumTetherV6 := sh.ipaIfNumTetherV6 ++ [ipaIfNumTether] } else { sh with outOfBounds := true }
      (w, sh.postEvt (.wanUpV6Tether ipaIfNumTether w.isSta w.ipv6Prefix))

/-- `post_wan_down_tether_evt`. -/
def postWanDownTetherEvt (iptype : IpType) (ipaIfNumTether : Option Nat) (w : Wan) (sh : WanShared) : WanShared :=
  if iptype = .v4 then
    if sh.ipaIfNumTetherV4.contains ipaIfNumTether then
      { sh with ipaIfNumTetherV4 := sh.ipaIfNumTetherV4.erase ipaIfNumTether }.postEvt (.wanDownTether ipaIfNumTether w.isSta)
    else sh
  else
    if sh.ipaIfNumTetherV6.contains ipaIfNumTether then
      { sh with ipaIfNumTetherV6 := sh.ipaIfNumTetherV6.erase ipaIfNumTether }.postEvt (.wanDownV6Tether ipaIfNumTether w.isSta)
    else sh

/-- The header a neighbour with the address of the IPv4 gateway gives, and whether all of it is there. -/
def staHeaderV4 (w : Wan) : Wan × Bool :=
  if w.wanV4AddrGwSet then
    match w.getWanClientIndexIpv4 w.wanV4AddrGw with
    | none => (w, false)
    | some index =>
      let c := w.wanClient.slot index
      if c.ipv4HeaderSet = false then (w, false)
      else
        let w := { w with hdrHdlStaV4 := c.hdrHdlV4, headerSetV4 := true, extRouterMacAddr := c.mac }
        if c.ipv6HeaderSet then ({ w with hdrHdlStaV6 := c.hdrHdlV6, headerSetV6 := true }, true) else (w, false)
  else (w, true)

/-- The same for the IPv6 gateway. -/
def staHeaderV6 (w : Wan) : Wan × Bool :=
  if w.wanV6AddrGwSet then
    match w.getWanClientIndexIpv6 w.wanV6AddrGw with
    | none => (w, false)
    | some index =>
      let c := w.wanClient.slot index
      if c.ipv6HeaderSet = false then (w, false)
      else
        let w := { w with hdrHdlStaV6 := c.hdrHdlV6, headerSetV6 := true, extRouterMacAddr := c.mac }
        if c.ipv4HeaderSet then ({ w with hdrHdlStaV4 := c.hdrHdlV4, headerSetV4 := true }, true) else (w, false)
  else (w, true)

/-- The headers of `handle_sta_header_add_evt`, and whether it gets to the routes that wait for them. -/
def staHeader (w : Wan) : Wan × Bool :=
  if w.headerSetV4 || w.headerSetV6 then (w, false)
  else
    let (w, ok) := w.staHeaderV4
    if ok then w.staHeaderV6 else (w, false)

/-- `handle_sta_header_add_evt`. -/
def handleStaHeaderAddEvt : Wan × WanShared → Wan × WanShared
  | (w, sh) =>
    let (w, ok) := w.staHeader
    if ok then
      let (w, sh) := if w.headerPartialDefaultWanV4 then handleRouteAddEvt .v4 (w, sh) else (w, sh)
      if w.headerPartialDefaultWanV6 then handleRouteAddEvt .v6 (w, sh) else (w, sh)
    else (w, sh)

def gatewayV4 (w : Wan) (gw : BitVec 32) : Wan := { w with wanV4AddrGw := gw, wanV4AddrGwSet := true }

def gatewayV6 (w : Wan) (gw : BitVec 128) : Wan := { w with wanV6AddrGw := gw, wanV6AddrGwSet := true }

/-- `ip_type == IPA_IP_v4 || ip_type == IPA_IP_MAX`, and the same for IPv6. -/
def hasIp (w : Wan) : IpType → Bool
  | .v4 => w.ipType == .v4 || w.ipType == .max
  | _ => w.ipType == .v6 || w.ipType == .max

/-- `event_callback`, for an upstream route that is added. -/
def upstreamRouteAdd (b : WanBuild) (data : UpstreamRoute) : Wan × WanShared → Wan × WanShared
  | (w, sh) =>
    if data.ipaIfIndex = some w.ipaIfNum then
      if data.iptype = .v4 ∧ w.hasIp .v4 = true then
        let p :=
          if w.activeV4 = false then
            handleRouteAddEvt .v4
              (if b.wanMsgAddrGw then handleStaHeaderAddEvt (w.gatewayV4 data.ipv4AddrGw, sh) else (w, sh))
          else (w, sh)
        if b.featureIpaAndroid then postWanUpTetherEvt .v4 data.ipaIfIndexTether p else p
      else if data.iptype = .v6 ∧ w.hasIp .v6 = true then
        if w.ipv6Prefix = 0 then (w, sh)
        else
          let p :=
            if w.activeV6 = false then
              handleRouteAddEvt .v6
                (if b.wanMsgAddrGw then handleStaHeaderAddEvt (w.gatewayV6 data.ipv6AddrGw, sh) else (w, sh))
            else (w, sh)
          if b.featureIpaAndroid then postWanUpTetherEvt .v6 data.ipaIfIndexTether p else p
      else (w, sh)
    else if data.iptype = .v4 ∧ w.activeV4 = true then cleanRoute .v4 ({ w with wanV4AddrGwSet := false }, sh)
    else if data.iptype = .v6 ∧ w.activeV6 = true then cleanRoute .v6 (w, sh)
    else (w, sh)

/-- `event_callback`, for an upstream route that is deleted. -/
def upstreamRouteDel (b : WanBuild) (data : UpstreamRoute) : Wan × WanShared → Wan × WanShared
  | (w, sh) =>
    if data.ipaIfIndex = some w.ipaIfNum then
      if data.iptype = .v4 ∧ w.activeV4 = true then
        let w := { w with wanV4AddrGwSet := false }
        let sh := if b.featureIpaAndroid then postWanDownTetherEvt .v4 data.ipaIfIndexTether w sh else sh
        if b.featureIpaAndroid ∧ sh.ipaIfNumTetherV4 ≠ [] then (w, sh) else cleanRoute .v4 (w, sh)
      else if data.iptype = .v6 ∧ w.activeV6 = true then
        let sh := if b.featureIpaAndroid then postWanDownTetherEvt .v6 data.ipaIfIndexTether w sh else sh
        if b.featureIpaAndroid ∧ sh.ipaIfNumTetherV6 ≠ [] then (w, sh) else cleanRoute .v6 (w, sh)
      else (w, sh)
    else (w, sh)

end Wan

/-- The test for a default route: no address and, for IPv4, no mask. -/
def RouteAddr.isDefault (data : RouteAddr) : IpType → Bool
  | .v4 => data.iptype == .v4 && data.ipv4Addr == 0 && data.ipv4AddrMask == 0
  | _ => data.iptype == .v6 && data.ipv6Addr == 0

namespace Wan

/-- `event_callback`, for a route that is added. -/
def routeAdd (data : RouteAddr) : Wan × WanShared → Wan × WanShared
  | (w, sh) =>
    if data.ipaIfIndex = some w.ipaIfNum then
      if data.isDefault .v4 = true ∧ w.activeV4 = false ∧ w.hasIp .v4 = true then
        let (w, sh) := handleRouteAddEvt .v4 (handleStaHeaderAddEvt (w.gatewayV4 data.ipv4AddrGw, sh))
        if w.isXlat = true ∧ w.mIsStaMode = .q6Wan ∧ w.activeV6 = false then handleRouteAddEvt .v6 (w, sh) else (w, sh)
      else if data.isDefault .v6 = true ∧ w.activeV6 = false ∧ w.hasIp .v6 = true then
        if w.ipv6Prefix = 0 then (w, sh)
        else handleRouteAddEvt .v6 (handleStaHeaderAddEvt (w.gatewayV6 data.ipv6AddrGw, sh))
      else (w, sh)
    else if data.isDefault .v4 = true ∧ w.activeV4 = true then cleanRoute .v4 ({ w with wanV4AddrGwSet := false }, sh)
    else if data.isDefault .v6 = true ∧ w.activeV6 = true then cleanRoute .v6 (w, sh)
    else (w, sh)

/-- `event_callback`, for a route that is deleted. -/
def routeDel (data : RouteAddr) : Wan × WanShared → Wan × WanShared
  | (w, sh) =>
    if data.ipaIfIndex = some w.ipaIfNum then
      if data.isDefault .v4 = true ∧ w.activeV4 = true then
        let w := { w with wanV4AddrGwSet := false }
        if w.mIsStaMode = .q6Wan then
          let (w, sh) := handleRouteDelEvtEx .v4 (w, sh)
          if w.isXlat = true ∧ w.activeV6 = true then handleRouteDelEvtEx .v6 (w, sh) else (w, sh)
        else handleRouteDelEvt .v4 (w, sh)
      else if data.isDefault .v6 = true ∧ w.activeV6 = true then cleanRoute .v6 (w, sh)
      else (w, sh)
    else (w, sh)

/-- `event_callback`, for the four route events. -/
def eventCallback (b : WanBuild) (e : WanRouteEvt) (w : Wan) (sh : WanShared) : Wan × WanShared :=
  match e with
  | .upstreamRouteAdd data => upstreamRouteAdd b data (w, sh)
  | .upstreamRouteDel data => upstreamRouteDel b data (w, sh)
  | .routeAdd data => routeAdd data (w, sh)
  | .routeDel data => routeDel data (w, sh)

end Wan

end HiaeCommon
