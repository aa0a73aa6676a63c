/-
An `IPACM_Wan` in STA mode (`ipacm/src/IPACM_Wan.cpp`) that is told of its
upstream routes and of its neighbours, with the default routing rules and the
firewall it installs.

A route is taken once the header of its gateway is there, and waits for it
until then: `handle_sta_header_add_evt` looks for the gateways among the clients
and takes the routes that wait. The driver grants what it is asked for; the
clients' own routing rules, the dependencies and the conntrack listener are left
out, as none of this is read here.
-/
import HiaeCommon.Ipacm.HeaderNames
import HiaeCommon.Ipacm.WanGatewayCalls

namespace HiaeCommon

/-- Where a default routing rule leads: to a pipe, or to `IPA_CLIENT_APPS_LAN_CONS`. -/
inductive DftDst
  | pipe (n : Nat)
  | appsLanCons
  deriving DecidableEq, Repr

/-- Its header: that of the router, or the dummy ethernet header of the IPv6 RX path. -/
inductive DftHdr
  | sta (hdrHdl : Nat)
  | dummyRx
  deriving DecidableEq, Repr

/-- A default routing rule: it matches every address of its table's family. `attrib` is the tx property whose attributes
it starts from. -/
structure DftRtRule where
  tbl : RtTbl
  dst : DftDst
  attrib : Option Nat
  hdr : DftHdr
  deriving DecidableEq, Repr

def RtTbl.family : RtTbl → IpFamily
  | .lanV4 | .wanV4 => .v4
  | .v6 | .wanV6 => .v6

/-- The instance, what it shares with others, its tx properties and its own IPv6 addresses; and what it has asked the
driver for: the default routing rules, and the families `config_dft_firewall_rules` was called for. -/
structure StaBackhaul where
  wan : Wan
  sh : WanShared
  txProps : List TxProp
  isMccMode : Bool
  ipv6Addr : List (BitVec 128)
  rules : List DftRtRule := []
  firewall : List IpFamily := []

namespace StaBackhaul

variable (s : StaBackhaul)

/-- There is a tx property of the family. -/
def hasTx (g : IpFamily) : Bool := s.txProps.any fun t => t.ip == g.iptype

def dstPipe (t : TxProp) : Nat := if s.isMccMode then t.altDstPipe else t.dstPipe

/-- The header of the router, `hdr_hdl_sta_v4` or `hdr_hdl_sta_v6`. -/
def hdrHdlSta : IpFamily → Nat
  | .v4 => s.wan.hdrHdlStaV4
  | .v6 => s.wan.hdrHdlStaV6

/-- The rules of `handle_route_add_evt`: one for each tx property of the family and, for IPv6, the one for all in the
table of the WAN. -/
def dftRules (g : IpFamily) : List DftRtRule :=
  (s.txProps.zipIdx.filter fun p => p.1.ip == g.iptype).map (fun p =>
    { tbl := match g with | .v4 => .wanV4 | .v6 => .v6
      dst := .pipe (s.dstPipe p.1)
      attrib := some p.2
      hdr := .sta (s.hdrHdlSta g) }) ++
  match g with
  | .v4 => []
  | .v6 => [⟨.wanV6, .appsLanCons, none, .dummyRx⟩]

/-- `handle_route_add_evt`: the rules, where it gets to them. -/
def handleRouteAddEvt (g : IpFamily) : StaBackhaul :=
  let p := Wan.handleRouteAddEvt g.iptype (s.wan, s.sh)
  if s.wan.txProp = false ∨ s.wan.headerSet g = false then { s with wan := p.1, sh := p.2 }
  else { s with wan := p.1, sh := p.2, rules := s.rules ++ s.dftRules g, firewall := s.firewall ++ [g] }

/-- The routes that wait for a header, at the end of `handle_sta_header_add_evt`. -/
def pendingRoutes : StaBackhaul :=
  let s := if s.wan.headerPartialDefaultWanV4 then s.handleRouteAddEvt .v4 else s
  if s.wan.headerPartialDefaultWanV6 then s.handleRouteAddEvt .v6 else s

/-- `handle_sta_header_add_evt`. -/
def handleStaHeaderAddEvt : StaBackhaul :=
  let s' := { s with wan := s.wan.staHeader.1 }
  if s.wan.staHeader.2 then s'.pendingRoutes else s'

/-- The gateway an upstream event names. -/
def noteGateway (g : IpFamily) (data : UpstreamRoute) : StaBackhaul :=
  match g with
  | .v4 => { s with wan := s.wan.gatewayV4 data.ipv4AddrGw }
  | .v6 => { s with wan := s.wan.gatewayV6 data.ipv6AddrGw }

/-- A route of a family in `event_callback`, and the tethered interface it is for. -/
def ownRoute (b : WanBuild) (g : IpFamily) (data : UpstreamRoute) : StaBackhaul :=
  let s :=
    if s.wan.active g = false then
      (if b.wanMsgAddrGw then (s.noteGateway g data).handleStaHeaderAddEvt else s).handleRouteAddEvt g
    else s
  if b.featureIpaAndroid then { s with sh := (Wan.postWanUpTetherEvt g.iptype data.ipaIfIndexTether (s.wan, s.sh)).2 } else s

/-- `event_callback`, for an upstream route of the instance's own that is added. -/
def upstreamRouteAdd (b : WanBuild) (data : UpstreamRoute) : StaBackhaul :=
  if data.iptype = .v4 ∧ s.wan.hasIp .v4 = true then s.ownRoute b .v4 data
  else if data.iptype = .v6 ∧ s.wan.hasIp .v6 = true then
    if s.wan.ipv6Prefix = 0 then s else s.ownRoute b .v6 data
  else s

/-- `handle_wan_hdr_init`, with the handles the driver gives the headers it is asked for. -/
def handleWanHdrInit (mac : MacAddr) (hdlV4 hdlV6 : Nat) : ClientTable Unit :=
  let t := s.wan.wanClient
  match t.index mac with
  | some _ => t
  | none =>
    if ipaMaxNumWanClients ≤ t.num then t
    else
      let c := { t.slot t.num with mac }
      if s.wan.txProp = false then t.set t.num c
      else
        let c := if s.hasTx .v4 then { c with hdrHdlV4 := hdlV4, ipv4HeaderSet := true } else c
        let c := if s.hasTx .v6 then { c with hdrHdlV6 := hdlV6, ipv6HeaderSet := true } else c
        { t.set t.num { c with routeRuleSetV4 := false, routeRuleSetV6 := 0, ipv4Set := false, ipv6Set := 0 } with num := t.num + 1 }

end StaBackhaul

/-- `handle_wan_client_ipaddr`. -/
def handleWanClientIpaddr (data : EventDataAll) (t : ClientTable Unit) : Bool × ClientTable Unit :=
  match t.index data.macAddr with
  | none => (false, t)
  | some i =>
    let c := t.slot i
    if data.iptype = .v4 then
      if data.ipv4Addr = 0 then (false, t)
      else if c.ipv4Set = false then (true, t.set i { c with v4Addr := data.ipv4Addr, ipv4Set := true })
      else if data.ipv4Addr = c.v4Addr then (false, t)
      else (true, t.set i { c with routeRuleSetV4 := false, v4Addr := data.ipv4Addr })
    else if data.ipv6Addr = 0 then (true, t)
    else if c.ipv6Set < ipv6NumAddr then
      if (List.range c.ipv6Set).any fun n => data.ipv6Addr == c.v6Addr n then (false, t)
      else (true, t.set i { c with v6Addr := fun n => if n = c.ipv6Set then data.ipv6Addr else c.v6Addr n, ipv6Set := c.ipv6Set + 1 })
    else (false, t)

namespace StaBackhaul

variable (s : StaBackhaul)

/-- The neighbour is the instance itself. -/
def isOwnAddr (data : EventDataAll) : Bool :=
  s.wan.mIsStaMode == .wlanWan &&
    (data.iptype == .v4 && data.ipv4Addr == s.wan.wanV4Addr || data.iptype == .v6 && s.ipv6Addr.contains data.ipv6Addr)

/-- The clients after the neighbour was told of, and whether `event_callback` goes on. -/
def neighClients (data : EventDataAll) (hdlV4 hdlV6 : Nat) : Bool × ClientTable Unit :=
  if s.isOwnAddr data then (false, s.wan.wanClient)
  else if data.macAddr = 0 then (false, s.wan.wanClient)
  else handleWanClientIpaddr data (s.handleWanHdrInit data.macAddr hdlV4 hdlV6)

def withClients (t : ClientTable Unit) : StaBackhaul := { s with wan := { s.wan with wanClient := t } }

/-- `event_callback`, for `IPA_NEIGH_CLIENT_IP_ADDR_ADD_EVENT` on the instance's interface. -/
def neighClientIpAddrAdd (data : EventDataAll) (hdlV4 hdlV6 : Nat) : StaBackhaul :=
  let p := s.neighClients data hdlV4 hdlV6
  if p.1 then (s.withClients p.2).handleStaHeaderAddEvt else s.withClients p.2

end StaBackhaul

/-- The events, all of them on the instance's interface. -/
inductive StaEvt
  | upstreamRouteAdd (data : UpstreamRoute)
  | neighClientIpAddrAdd (data : EventDataAll) (hdlV4 hdlV6 : Nat)
  deriving DecidableEq, Repr

/-- `event_callback`. -/
def StaBackhaul.eventCallback (b : WanBuild) (s : StaBackhaul) : StaEvt → StaBackhaul
  | .upstreamRouteAdd data => s.upstreamRouteAdd b data
  | .neighClientIpAddrAdd data hdlV4 hdlV6 => s.neighClientIpAddrAdd data hdlV4 hdlV6

namespace StaBackhaul

/-! ## The instance among the others -/

/-- The instance as the others see it, without what it has asked the driver for. -/
def seen (s : StaBackhaul) : Wan × WanShared := (s.wan, s.sh)

theorem handleRouteAddEvt_seen (s : StaBackhaul) (g : IpFamily) :
    (s.handleRouteAddEvt g).seen = Wan.handleRouteAddEvt g.iptype s.seen := by
  unfold handleRouteAddEvt
  dsimp only
  split <;> rfl

theorem pendingRoutes_seen (s : StaBackhaul) : s.pendingRoutes.seen =
    let p := if s.wan.headerPartialDefaultWanV4 then Wan.handleRouteAddEvt .v4 s.seen else s.seen
    if p.1.headerPartialDefaultWanV6 then Wan.handleRouteAddEvt .v6 p else p := by
  have hv6 : ∀ t : StaBackhaul, (if t.wan.headerPartialDefaultWanV6 then t.handleRouteAddEvt .v6 else t).seen =
      if t.seen.1.headerPartialDefaultWanV6 then Wan.handleRouteAddEvt .v6 t.seen else t.seen := fun t => by
    rw [apply_ite seen, handleRouteAddEvt_seen]
    rfl
  have hv4 : (if s.wan.headerPartialDefaultWanV4 then s.handleRouteAddEvt .v4 else s).seen =
      if s.wan.headerPartialDefaultWanV4 then Wan.handleRouteAddEvt .v4 s.seen else s.seen := by
    rw [apply_ite seen, handleRouteAddEvt_seen]
    rfl
  unfold pendingRoutes
  dsimp only
  rw [hv6, hv4]

theorem handleStaHeaderAddEvt_seen (s : StaBackhaul) : s.handleStaHeaderAddEvt.seen = Wan.handleStaHeaderAddEvt s.seen := by
  unfold handleStaHeaderAddEvt Wan.handleStaHeaderAddEvt seen
  dsimp only
  cases s.wan.staHeader.2 with
  | true => exact pendingRoutes_seen { s with wan := s.wan.staHeader.1 }
  | false => rfl

theorem ownRoute_seen (s : StaBackhaul) (b : WanBuild) (g : IpFamily) (data : UpstreamRoute) : (s.ownRoute b g data).seen =
    let p :=
      if s.wan.active g = false then
        Wan.handleRouteAddEvt g.iptype
          (if b.wanMsgAddrGw then Wan.handleStaHeaderAddEvt (s.noteGateway g data).seen else s.seen)
      else s.seen
    if b.featureIpaAndroid then Wan.postWanUpTetherEvt g.iptype data.ipaIfIndexTether p else p := by
  have htether : ∀ t : StaBackhaul,
      { t with sh := (Wan.postWanUpTetherEvt g.iptype data.ipaIfIndexTether (t.wan, t.sh)).2 : StaBackhaul }.seen =
        Wan.postWanUpTetherEvt g.iptype data.ipaIfIndexTether t.seen :=
    fun t => Prod.ext (Wan.postWanUpTetherEvt_stays g g data.ipaIfIndexTether t.seen).2.symm rfl
  unfold ownRoute
  dsimp only
  rw [apply_ite seen, htether, apply_ite seen, handleRouteAddEvt_seen, apply_ite seen, handleStaHeaderAddEvt_seen]

/-- **A route of its own** does to the instance what it does to one among others. -/
theorem upstreamRouteAdd_seen (s : StaBackhaul) (b : WanBuild) {data : UpstreamRoute} (h : data.ipaIfIndex = some s.wan.ipaIfNum) :
    (s.upstreamRouteAdd b data).seen = Wan.eventCallback b (.upstreamRouteAdd data) s.wan s.sh := by
  have hcall : Wan.eventCallback b (.upstreamRouteAdd data) s.wan s.sh = Wan.upstreamRouteAdd b data (s.wan, s.sh) := rfl
  rw [hcall]
  unfold upstreamRouteAdd Wan.upstreamRouteAdd
  dsimp only
  rw [if_pos h, apply_ite seen, apply_ite seen, apply_ite seen, ownRoute_seen, ownRoute_seen]
  rfl

end StaBackhaul

end HiaeCommon
