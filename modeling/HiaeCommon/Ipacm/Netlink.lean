/-
The netlink decoder (`ipacm/src/IPACM_Netlink.cpp`): from the bytes of one
`recvmsg` to the events posted.

The buffer is read by offset, the bytes behind the received ones included:
nothing stops the decoders there. The build is the one of `Android.mk`, with
`FEATURE_IPA_ANDROID`; the host is little endian, and `malloc` succeeds. A
field of an event that is `none` was left as `malloc` gave it. Of the decoded
attributes those only printed or never read (`param_mask` outside a route,
`type`, `link_event`) are left out.
-/
import HiaeCommon.Ipacm.Defs
import HiaeCommon.Ipacm.EvtDispatcher
import Mathlib.Data.Fintype.Pi

namespace HiaeCommon

open Function (update)

/-- Bytes by offset. -/
abbrev Bytes := Nat → BitVec 8

namespace Bytes

def u16 (b : Bytes) (p : Nat) : BitVec 16 := b (p + 1) ++ b p

def u32 (b : Bytes) (p : Nat) : BitVec 32 := b (p + 3) ++ b (p + 2) ++ b (p + 1) ++ b p

end Bytes

/-- `ntohl`. -/
def ntohl (x : BitVec 32) : BitVec 32 :=
  x.extractLsb' 0 8 ++ x.extractLsb' 8 8 ++ x.extractLsb' 16 8 ++ x.extractLsb' 24 8

/-! ## Constants of `linux/netlink.h`, `linux/rtnetlink.h` and their kin -/

def rtmNewlink : BitVec 16 := 16
def rtmDellink : BitVec 16 := 17
def rtmNewaddr : BitVec 16 := 20
def rtmNewroute : BitVec 16 := 24
def rtmDelroute : BitVec 16 := 25
def rtmNewneigh : BitVec 16 := 28
def rtmDelneigh : BitVec 16 := 29

def afInet : BitVec 8 := 2
def afBridge : BitVec 8 := 7
def afInet6 : BitVec 8 := 10

def iffUp : BitVec 32 := 0x1
def iffRunning : BitVec 32 := 0x40
def iffLowerUp : BitVec 32 := 0x10000

def ifaAddress : BitVec 16 := 1
def ndaDst : BitVec 16 := 1
def ndaLladdr : BitVec 16 := 2
def nudPermanent : BitVec 16 := 0x80

def rtaDst : BitVec 16 := 1
def rtaSrc : BitVec 16 := 2
def rtaIif : BitVec 16 := 3
def rtaOif : BitVec 16 := 4
def rtaGateway : BitVec 16 := 5
def rtaPriority : BitVec 16 := 6

def rtnUnicast : BitVec 8 := 1
def rtprotKernel : BitVec 8 := 2
def rtprotBoot : BitVec 8 := 3
def rtprotRa : BitVec 8 := 9
def rtScopeUniverse : BitVec 8 := 0
def rtTableMain : BitVec 8 := 254

def ipaRtaParamDst : BitVec 32 := 0x1
def ipaRtaParamSrc : BitVec 32 := 0x2
def ipaRtaParamGateway : BitVec 32 := 0x4
def ipaRtaParamIif : BitVec 32 := 0x8
def ipaRtaParamOif : BitVec 32 := 0x10
def ipaRtaParamPriority : BitVec 32 := 0x80

/-- `IPA_NL_MSG_MAX_LEN`: a longer datagram is refused as truncated. -/
def ipaNlMsgMaxLen : Nat := 2048

/-! ## Messages and attributes in the buffer -/

/-- `NLMSG_ALIGN` and `RTA_ALIGN`, on `unsigned`. -/
def nlmsgAlign (len : Nat) : Nat := (len + 3) / 4 * 4 % 2 ^ 32

/-- `len -= n` on an `unsigned`. -/
def lenSub (len n : Nat) : Nat := (len + 2 ^ 32 - n) % 2 ^ 32

/-- `sizeof(struct nlmsghdr)`, `sizeof(struct rtattr)`. -/
def nlmsghdrSize : Nat := 16
def rtattrSize : Nat := 4

def nlmsgLen (b : Bytes) (nlh : Nat) : Nat := (b.u32 nlh).toNat
def nlmsgType (b : Bytes) (nlh : Nat) : BitVec 16 := b.u16 (nlh + 4)

/-- `NLMSG_OK`. -/
def nlmsgOk (b : Bytes) (nlh len : Nat) : Prop :=
  nlmsghdrSize ≤ len ∧ nlmsghdrSize ≤ nlmsgLen b nlh ∧ nlmsgLen b nlh ≤ len

def rtaLen (b : Bytes) (rtah : Nat) : Nat := (b.u16 rtah).toNat
def rtaType (b : Bytes) (rtah : Nat) : BitVec 16 := b.u16 (rtah + 2)

/-- `RTA_OK`. -/
def rtaOk (b : Bytes) (rtah len : Nat) : Prop :=
  rtattrSize ≤ len ∧ rtattrSize ≤ rtaLen b rtah ∧ rtaLen b rtah ≤ len

instance (b : Bytes) (nlh len : Nat) : Decidable (nlmsgOk b nlh len) :=
  inferInstanceAs (Decidable (_ ∧ _ ∧ _))

instance (b : Bytes) (rtah len : Nat) : Decidable (rtaOk b rtah len) :=
  inferInstanceAs (Decidable (_ ∧ _ ∧ _))

/-- `while (RTA_OK(rtah, buflen)) { switch …; rtah = RTA_NEXT(rtah, buflen); }`.
`take` is the switch, on the attribute's type and the offset of its data. -/
def attrLoop {α : Type} (b : Bytes) (take : BitVec 16 → Nat → α → α) : Nat → Nat → Nat → α → Option α
  | 0, _, _, _ => none
  | fuel + 1, rtah, buflen, a =>
    if rtaOk b rtah buflen then
      attrLoop b take fuel (rtah + nlmsgAlign (rtaLen b rtah)) (lenSub buflen (nlmsgAlign (rtaLen b rtah)))
        (take (rtaType b rtah) (rtah + rtattrSize) a)
    else some a

/-! ## What is decoded -/

/-- `struct ifinfomsg`. -/
structure IfInfoMsg where
  ifiFamily : BitVec 8 := 0
  ifiIndex : BitVec 32 := 0
  ifiFlags : BitVec 32 := 0
  ifiChange : BitVec 32 := 0

/-- `struct ifaddrmsg`. -/
structure IfAddrMsg where
  ifaFamily : BitVec 8 := 0
  ifaIndex : BitVec 32 := 0

/-- `struct ndmsg`. -/
structure NdMsg where
  ndmFamily : BitVec 8 := 0
  ndmIfindex : BitVec 32 := 0
  ndmState : BitVec 16 := 0

/-- `struct rtmsg`. -/
structure RtMsg where
  rtmFamily : BitVec 8 := 0
  rtmDstLen : BitVec 8 := 0
  rtmTable : BitVec 8 := 0
  rtmProtocol : BitVec 8 := 0
  rtmScope : BitVec 8 := 0
  rtmType : BitVec 8 := 0

/-- `struct sockaddr_storage`: the family and `__data`. -/
structure SockaddrStorage where
  ssFamily : BitVec 8 := 0
  data : Bytes := fun _ => 0

/-- `ipa_nl_addr_info_t`. -/
structure IpaNlAddrInfo where
  metainfo : IfAddrMsg := {}
  prefixAddr : SockaddrStorage := {}

/-- `ipa_nl_neigh_info_t`. -/
structure IpaNlNeighInfo where
  metainfo : NdMsg := {}
  localAddr : SockaddrStorage := {}
  lladdrHwaddr : Bytes := fun _ => 0

/-- `ipa_nl_route_info_t`. -/
structure IpaNlRouteInfo where
  metainfo : RtMsg := {}
  paramMask : BitVec 32 := 0
  dstAddr : SockaddrStorage := {}
  srcAddr : SockaddrStorage := {}
  gatewayAddr : SockaddrStorage := {}
  iifIndex : BitVec 32 := 0
  oifIndex : BitVec 32 := 0
  priority : BitVec 32 := 0

/-- `ipa_nl_msg_t`, as `ipa_nl_recv_msg` clears it. -/
structure IpaNlMsg where
  nlLinkInfo : IfInfoMsg := {}
  nlAddrInfo : IpaNlAddrInfo := {}
  nlNeighInfo : IpaNlNeighInfo := {}
  nlRouteInfo : IpaNlRouteInfo := {}

/-- `IPACM_NL_COPY_ADDR`: the 126 bytes of `__data`, however long the attribute is. -/
def copyAddr (b : Bytes) (family : BitVec 8) (p : Nat) (a : SockaddrStorage) : SockaddrStorage :=
  ⟨family, fun i => if i < 126 then b (p + i) else a.data i⟩

/-- `NLMSG_DATA(nlh)` with `nlh` at the start of the buffer. -/
def nlmsgData : Nat := nlmsghdrSize

/-- `ipa_nl_decode_rtm_link`. -/
def ipaNlDecodeRtmLink (b : Bytes) : IfInfoMsg where
  ifiFamily := b nlmsgData
  ifiIndex := b.u32 (nlmsgData + 4)
  ifiFlags := b.u32 (nlmsgData + 8)
  ifiChange := b.u32 (nlmsgData + 12)

/-- The attributes of `ipa_nl_decode_rtm_addr`. -/
def takeAddr (b : Bytes) (type : BitVec 16) (p : Nat) (info : IpaNlAddrInfo) : IpaNlAddrInfo :=
  if type = ifaAddress then
    { info with prefixAddr := copyAddr b info.metainfo.ifaFamily p info.prefixAddr }
  else info

/-- `ipa_nl_decode_rtm_addr`; an `ifaddrmsg` takes eight bytes. -/
def ipaNlDecodeRtmAddr (b : Bytes) (buflen : Nat) (info : IpaNlAddrInfo) : Option IpaNlAddrInfo :=
  attrLoop b (takeAddr b) (buflen + 1) (nlmsgData + 8) (lenSub buflen nlmsghdrSize)
    { info with metainfo := { ifaFamily := b nlmsgData, ifaIndex := b.u32 (nlmsgData + 4) } }

/-- The attributes of `ipa_nl_decode_rtm_neigh`; `sa_data` has 14 bytes. -/
def takeNeigh (b : Bytes) (type : BitVec 16) (p : Nat) (info : IpaNlNeighInfo) : IpaNlNeighInfo :=
  if type = ndaDst then
    { info with localAddr := copyAddr b info.metainfo.ndmFamily p info.localAddr }
  else if type = ndaLladdr then
    { info with lladdrHwaddr := fun i => if i < 14 then b (p + i) else info.lladdrHwaddr i }
  else info

/-- `ipa_nl_decode_rtm_neigh`; an `ndmsg` takes twelve bytes. -/
def ipaNlDecodeRtmNeigh (b : Bytes) (buflen : Nat) (info : IpaNlNeighInfo) : Option IpaNlNeighInfo :=
  attrLoop b (takeNeigh b) (buflen + 1) (nlmsgData + 12) (lenSub buflen nlmsghdrSize)
    { info with
      metainfo :=
        { ndmFamily := b nlmsgData, ndmIfindex := b.u32 (nlmsgData + 4), ndmState := b.u16 (nlmsgData + 8) } }

/-- The attributes of `ipa_nl_decode_rtm_route`. -/
def takeRoute (b : Bytes) (type : BitVec 16) (p : Nat) (info : IpaNlRouteInfo) : IpaNlRouteInfo :=
  if type = rtaDst then
    { info with
      dstAddr := copyAddr b info.metainfo.rtmFamily p info.dstAddr
      paramMask := info.paramMask ||| ipaRtaParamDst }
  else if type = rtaSrc then
    { info with
      srcAddr := copyAddr b info.metainfo.rtmFamily p info.srcAddr
      paramMask := info.paramMask ||| ipaRtaParamSrc }
  else if type = rtaGateway then
    { info with
      gatewayAddr := copyAddr b info.metainfo.rtmFamily p info.gatewayAddr
      paramMask := info.paramMask ||| ipaRtaParamGateway }
  else if type = rtaIif then
    { info with iifIndex := b.u32 p, paramMask := info.paramMask ||| ipaRtaParamIif }
  else if type = rtaOif then
    { info with oifIndex := b.u32 p, paramMask := info.paramMask ||| ipaRtaParamOif }
  else if type = rtaPriority then
    { info with priority := b.u32 p, paramMask := info.paramMask ||| ipaRtaParamPriority }
  else info

/-- `ipa_nl_decode_rtm_route`; an `rtmsg` takes twelve bytes. -/
def ipaNlDecodeRtmRoute (b : Bytes) (buflen : Nat) (info : IpaNlRouteInfo) : Option IpaNlRouteInfo :=
  attrLoop b (takeRoute b) (buflen + 1) (nlmsgData + 12) (lenSub buflen nlmsghdrSize)
    { info with
      metainfo :=
        { rtmFamily := b nlmsgData, rtmDstLen := b (nlmsgData + 1), rtmTable := b (nlmsgData + 4),
          rtmProtocol := b (nlmsgData + 5), rtmScope := b (nlmsgData + 6), rtmType := b (nlmsgData + 7) }
      paramMask := 0 }

/-! ## The events -/

/-- `ipacm_event_data_addr`. The words of the IPv6 mask are written one by one. -/
structure EventDataAddr where
  iptype : IpType
  ifIndex : Int
  ipv4AddrGw : Option (BitVec 32) := none
  ipv4Addr : Option (BitVec 32) := none
  ipv4AddrMask : Option (BitVec 32) := none
  ipv6Addr : Option (BitVec 128) := none
  ipv6AddrMask : Fin 4 → Option (BitVec 32) := fun _ => none
  ipv6AddrGw : Option (BitVec 128) := none
  deriving DecidableEq

/-- `evt_data`. -/
inductive NlEventData
  | fid (ifIndex : Int)
  | addr (data : EventDataAddr)
  | all (data : EventDataAll)
  deriving DecidableEq

/-- `ipacm_cmd_q_data`, as posted. -/
structure NlEvent where
  event : IpaCmEventId
  evtData : NlEventData
  deriving DecidableEq

/-- `if_index` of the data. -/
def NlEventData.ifIndex : NlEventData → Int
  | .fid i => i
  | .addr d => d.ifIndex
  | .all d => d.ifIndex

namespace SockaddrStorage

/-- `IPACM_EVENT_COPY_ADDR_v4`. -/
def v4 (a : SockaddrStorage) : BitVec 32 := a.data.u32 0

/-- Word `i` of `IPACM_EVENT_COPY_ADDR_v6`, in host order. -/
def v6Word (a : SockaddrStorage) (i : Nat) : BitVec 32 := ntohl (a.data.u32 (4 * i))

/-- The four words. -/
def v6 (a : SockaddrStorage) : BitVec 128 := a.v6Word 0 ++ a.v6Word 1 ++ a.v6Word 2 ++ a.v6Word 3

/-- The four words, into a mask. -/
def v6Mask (a : SockaddrStorage) (i : Fin 4) : Option (BitVec 32) := some (a.v6Word i)

end SockaddrStorage

/-- `mask_v6`: a prefix length it does not list leaves `*mask` as it is. -/
def maskV6 (index : Nat) (mask : Option (BitVec 32)) : Option (BitVec 32) :=
  match index with
  | 0 => some 0x00000000
  | 4 => some 0xf0000000
  | 8 => some 0xff000000
  | 12 => some 0xfff00000
  | 16 => some 0xffff0000
  | 20 => some 0xfffff000
  | 24 => some 0xffffff00
  | 28 => some 0xfffffff0
  | 32 => some 0xffffffff
  | _ => mask

/-- The loop over `mask_index`. `short` is the word the last branch writes: the one at
`mask_index` when a route is added, the first one when it is deleted. -/
def maskLoop (short : Fin 4 → Fin 4) (dstLen : Nat) : Fin 4 → Option (BitVec 32) :=
  let fill := fun (v, mask) (i : Fin 4) =>
    if 32 ≤ v then (v - 32, update mask i (maskV6 32 (mask i)))
    else (0, update mask (short i) (maskV6 v (mask (short i))))
  fun i => (((List.finRange 4).foldl fill (dstLen, fun _ => none)).2 i).map ntohl

/-- `IPACM_SUCCESS`, `IPACM_FAILURE`. -/
inductive NlStatus
  | success | failure
  deriving DecidableEq

/-- What a `case` does: the events it posts, and whether it ends in a `return`. -/
structure Case where
  posted : List NlEvent := []
  ret : Option NlStatus := none

namespace Case

/-- One statement after the other. -/
def andThen (c d : Case) : Case :=
  match c.ret with
  | some s => ⟨c.posted, some s⟩
  | none => ⟨c.posted ++ d.posted, d.ret⟩

/-- `PostEvt`. -/
def post (event : IpaCmEventId) (data : NlEventData) : Case := ⟨[⟨event, data⟩], none⟩

/-- `ipa_get_if_name` and the `return` when it fails. -/
def named (ifName : BitVec 32 → Bool) (index : BitVec 32) (c : Case) : Case :=
  if ifName index then c else ⟨[], some .failure⟩

end Case

/-! ## The cases of `ipa_nl_decode_nlmsg` -/

section Cases

-- whether `SIOCGIFNAME` knows the index
variable (ifName : BitVec 32 → Bool)

/-- `RTM_NEWLINK`. -/
def newLink (info : IfInfoMsg) : Case :=
  let fid := NlEventData.fid info.ifiIndex.toInt
  if info.ifiFamily = afBridge then ⟨[], some .success⟩
  else
    (if iffUp &&& info.ifiChange ≠ 0 then
      Case.named ifName info.ifiIndex
        (Case.post (if info.ifiFlags &&& iffUp ≠ 0 then .linkUp else .linkDown) fid)
    else {}).andThen
    (if info.ifiFlags &&& iffRunning ≠ 0 ∧ info.ifiFlags &&& iffLowerUp ≠ 0 then
      Case.named ifName info.ifiIndex (Case.post .usbLinkUp fid)
    else if info.ifiFlags &&& iffLowerUp = 0 then
      Case.named ifName info.ifiIndex (Case.post .linkDown fid)
    else {})

/-- `RTM_DELLINK`. -/
def delLink (info : IfInfoMsg) : Case :=
  if info.ifiFamily = afBridge then ⟨[], some .success⟩
  else Case.named ifName info.ifiIndex (Case.post .linkDown (.fid info.ifiIndex.toInt))

/-- `RTM_NEWADDR`: an unknown index is only reported. -/
def newAddr (info : IpaNlAddrInfo) : Case :=
  let ifIndex := info.metainfo.ifaIndex.toInt
  if info.prefixAddr.ssFamily = afInet6 then
    Case.post .addrAdd (.addr { iptype := .v6, ifIndex, ipv6Addr := some info.prefixAddr.v6 })
  else
    Case.post .addrAdd (.addr { iptype := .v4, ifIndex, ipv4Addr := some (ntohl info.prefixAddr.v4) })

/-- The locals of `ipa_nl_decode_nlmsg` that live from one message to the next. -/
structure NlLocals where
  ifIpv4Addr : BitVec 32 := 0
  ifIpipv4AddrMask : BitVec 32 := 0
  ifIpv4AddrGw : BitVec 32 := 0

/-- The test of a default or unicast route. -/
def RtMsg.isMainRoute (m : RtMsg) : Prop :=
  m.rtmType = rtnUnicast ∧ (m.rtmProtocol = rtprotBoot ∨ m.rtmProtocol = rtprotRa) ∧
    m.rtmScope = rtScopeUniverse ∧ m.rtmTable = rtTableMain

/-- The test of the IPv6 routing table. -/
def RtMsg.isKernelV6 (m : RtMsg) : Prop :=
  m.rtmFamily = afInet6 ∧ m.rtmType = rtnUnicast ∧ m.rtmProtocol = rtprotKernel ∧ m.rtmTable = rtTableMain

instance (m : RtMsg) : Decidable m.isMainRoute := inferInstanceAs (Decidable (_ ∧ _ ∧ _ ∧ _))
instance (m : RtMsg) : Decidable m.isKernelV6 := inferInstanceAs (Decidable (_ ∧ _ ∧ _ ∧ _))

/-- The event of an IPv6 default route. -/
def v6Default (info : IpaNlRouteInfo) : EventDataAddr where
  iptype := .v6
  ifIndex := info.oifIndex.toInt
  ipv6Addr := some info.dstAddr.v6
  ipv6AddrMask := info.dstAddr.v6Mask
  ipv6AddrGw := some info.gatewayAddr.v6

/-- `RTM_NEWROUTE`, the main table. -/
def newMainRoute (info : IpaNlRouteInfo) (l : NlLocals) : Case × NlLocals :=
  let ifIndex := info.oifIndex.toInt
  if ifName info.oifIndex then
    if info.paramMask &&& ipaRtaParamDst ≠ 0 then
      let l := { l with ifIpv4Addr := info.dstAddr.v4 }
      (Case.post .routeAdd (.addr
        { iptype := .v4, ifIndex, ipv4Addr := some (ntohl l.ifIpv4Addr),
          ipv4AddrMask := some (ntohl l.ifIpipv4AddrMask) }), l)
    else if info.metainfo.rtmFamily = afInet6 then
      (Case.post .routeAdd (.addr (v6Default info)), l)
    else
      let l : NlLocals := ⟨info.dstAddr.v4, info.dstAddr.v4, info.gatewayAddr.v4⟩
      (Case.post .routeAdd (.addr
        { iptype := .v4, ifIndex, ipv4Addr := some (ntohl l.ifIpv4Addr),
          ipv4AddrGw := some (ntohl l.ifIpv4AddrGw), ipv4AddrMask := some (ntohl l.ifIpipv4AddrMask) }), l)
  else (⟨[], some .failure⟩, l)

/-- `RTM_NEWROUTE`, the IPv6 routing table. -/
def newKernelRoute (info : IpaNlRouteInfo) : Case :=
  let ifIndex := info.oifIndex.toInt
  Case.named ifName info.oifIndex
    ((if info.paramMask &&& ipaRtaParamDst ≠ 0 then
      Case.post .routeAdd (.addr
        { iptype := .v6, ifIndex, ipv6Addr := some info.dstAddr.v6,
          ipv6AddrMask := maskLoop id info.metainfo.rtmDstLen.toNat })
    else {}).andThen
    (if info.paramMask &&& ipaRtaParamGateway ≠ 0 then
      Case.post .routeAdd (.addr
        { iptype := .v6, ifIndex, ipv6Addr := some info.dstAddr.v6, ipv6AddrMask := info.dstAddr.v6Mask })
    else {}))

/-- `RTM_NEWROUTE`. -/
def newRoute (info : IpaNlRouteInfo) (l : NlLocals) : Case × NlLocals :=
  let (c, l) := if info.metainfo.isMainRoute then newMainRoute ifName info l else ({}, l)
  (c.andThen (if info.metainfo.isKernelV6 then newKernelRoute ifName info else {}), l)

/-- `RTM_DELROUTE`, the main table. -/
def delMainRoute (info : IpaNlRouteInfo) (l : NlLocals) : Case × NlLocals :=
  let ifIndex := info.oifIndex.toInt
  if ifName info.oifIndex then
    if info.paramMask &&& ipaRtaParamDst ≠ 0 then
      let l := { l with ifIpv4Addr := info.dstAddr.v4, ifIpipv4AddrMask := ntohl 0xffffffff }
      (Case.post .routeDel (.addr
        { iptype := .v4, ifIndex, ipv4Addr := some (ntohl l.ifIpv4Addr),
          ipv4AddrMask := some (ntohl l.ifIpipv4AddrMask) }), l)
    else if info.metainfo.rtmFamily = afInet6 then
      (Case.post .routeDel (.addr (v6Default info)), l)
    else
      (Case.post .routeDel (.addr
        { iptype := .v4, ifIndex, ipv4Addr := some (ntohl info.dstAddr.v4),
          ipv4AddrMask := some (ntohl info.dstAddr.v4) }), l)
  else (⟨[], some .failure⟩, l)

/-- `RTM_DELROUTE`, the IPv6 routing table. -/
def delKernelRoute (info : IpaNlRouteInfo) : Case :=
  Case.named ifName info.oifIndex
    (if info.paramMask &&& ipaRtaParamDst ≠ 0 then
      Case.post .routeDel (.addr
        { iptype := .v6, ifIndex := info.oifIndex.toInt, ipv6Addr := some info.dstAddr.v6,
          ipv6AddrMask := maskLoop (fun _ => 0) info.metainfo.rtmDstLen.toNat })
    else {})

/-- `RTM_DELROUTE`. -/
def delRoute (info : IpaNlRouteInfo) (l : NlLocals) : Case × NlLocals :=
  let (c, l) := if info.metainfo.isMainRoute then delMainRoute ifName info l else ({}, l)
  (c.andThen (if info.metainfo.isKernelV6 then delKernelRoute ifName info else {}), l)

/-- The data of a neighbour event. -/
def neighData (info : IpaNlNeighInfo) : EventDataAll where
  iptype := if info.localAddr.ssFamily = afInet6 then .v6 else if info.localAddr.ssFamily = afInet then .v4 else .v6
  ifIndex := info.metainfo.ndmIfindex.toInt
  ipv4Addr :=
    if info.localAddr.ssFamily = afInet6 then 0
    else if info.localAddr.ssFamily = afInet then ntohl info.localAddr.v4
    else 0
  ipv6Addr := if info.localAddr.ssFamily = afInet6 then info.localAddr.v6 else 0
  macAddr :=
    info.lladdrHwaddr 0 ++ info.lladdrHwaddr 1 ++ info.lladdrHwaddr 2 ++ info.lladdrHwaddr 3 ++
      info.lladdrHwaddr 4 ++ info.lladdrHwaddr 5

/-- `RTM_NEWNEIGH`. -/
def newNeigh (info : IpaNlNeighInfo) : Case :=
  Case.named ifName info.metainfo.ndmIfindex
    (Case.post
      (if info.metainfo.ndmFamily = afBridge ∧ info.metainfo.ndmState = nudPermanent then .bridgeLinkUp
      else .newNeigh)
      (.all (neighData info)))

/-- `RTM_DELNEIGH`. -/
def delNeigh (info : IpaNlNeighInfo) : Case :=
  Case.named ifName info.metainfo.ndmIfindex (Case.post .delNeigh (.all (neighData info)))

/-- `*msg_ptr` and the locals. -/
structure NlState where
  msg : IpaNlMsg := {}
  locals : NlLocals := {}

/-- The `switch` on `nlmsg_type`. The decoders are handed `buffer`, not `nlh`. -/
def decodeCase (b : Bytes) (type : BitVec 16) (buflen : Nat) (s : NlState) : Option (Case × NlState) :=
  if type = rtmNewlink then
    let info := ipaNlDecodeRtmLink b
    some (newLink ifName info, { s with msg.nlLinkInfo := info })
  else if type = rtmDellink then
    let info := ipaNlDecodeRtmLink b
    some (delLink ifName info, { s with msg.nlLinkInfo := info })
  else if type = rtmNewaddr then do
    let info ← ipaNlDecodeRtmAddr b buflen s.msg.nlAddrInfo
    return (newAddr info, { s with msg.nlAddrInfo := info })
  else if type = rtmNewroute then do
    let info ← ipaNlDecodeRtmRoute b buflen s.msg.nlRouteInfo
    let (c, l) := newRoute ifName info s.locals
    return (c, { s with msg.nlRouteInfo := info, locals := l })
  else if type = rtmDelroute then do
    let info ← ipaNlDecodeRtmRoute b buflen s.msg.nlRouteInfo
    let (c, l) := delRoute ifName info s.locals
    return (c, { s with msg.nlRouteInfo := info, locals := l })
  else if type = rtmNewneigh then do
    let info ← ipaNlDecodeRtmNeigh b buflen s.msg.nlNeighInfo
    return (newNeigh ifName info, { s with msg.nlNeighInfo := info })
  else if type = rtmDelneigh then do
    let info ← ipaNlDecodeRtmNeigh b buflen s.msg.nlNeighInfo
    return (delNeigh ifName info, { s with msg.nlNeighInfo := info })
  else some ({}, s)

/-- `while (NLMSG_OK(nlh, buflen))`: what is posted, and the status returned. -/
def nlmsgLoop (b : Bytes) : Nat → Nat → Nat → NlState → Option (List NlEvent × NlStatus)
  | 0, _, _, _ => none
  | fuel + 1, nlh, buflen, s =>
    if nlmsgOk b nlh buflen then do
      let (c, s) ← decodeCase ifName b (nlmsgType b nlh) buflen s
      match c.ret with
      | some r => return (c.posted, r)
      | none =>
        let n := nlmsgAlign (nlmsgLen b nlh)
        let (evs, r) ← nlmsgLoop b fuel (nlh + n) (lenSub buflen n) s
        return (c.posted ++ evs, r)
    else some ([], .success)

/-- `ipa_nl_decode_nlmsg`, on a cleared `*msg_ptr`. -/
def ipaNlDecodeNlmsg (b : Bytes) (buflen : Nat) : Option (List NlEvent × NlStatus) :=
  nlmsgLoop ifName b (buflen + 1) 0 buflen {}

end Cases

end HiaeCommon
