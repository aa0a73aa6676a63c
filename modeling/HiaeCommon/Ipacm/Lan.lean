/-
The interface level of `IPACM_Lan`, which `IPACM_Wlan` shares
(`ipacm/src/IPACM_Lan.cpp`, `ipacm/src/IPACM_Wlan.cpp`, and of
`ipacm/src/IPACM_Iface.cpp` `init_fl_rule`, `config_ip_type` and the software
routing): the filter rules an interface has for itself, from its addresses and
from the WAN interfaces' messages.

What the handlers read of `IPACM_Wan` and `IPACM_Config` is in `LanShared`. The
build is the Android one, with `FEATURE_IPA_V3`.
-/
import HiaeCommon.Ipacm.Filtering

namespace HiaeCommon

open Lib (Ledger untilFailure)

/-- `ipa_ioc_ext_intf_prop`, as far as the uplink rules are made from it. -/
structure ExtProp where
  eqAttrib : RuleEq
  rtTblIdx : BitVec 32
  isXlatRule : Bool
  ruleId : BitVec 16
  isRuleHashable : Bool
  deriving DecidableEq, Repr

/-- `ipa_ioc_rx_intf_prop`: the pipe, and of `attrib` the metadata, if `IPA_FLT_META_DATA` is in its mask. -/
structure RxProp where
  srcPipe : Nat
  metaData : Option (BitVec 32 × BitVec 32)
  deriving DecidableEq, Repr

/-- `rx_prop`, which has a first property. -/
structure RxProps where
  rx : RxProp
  others : List RxProp
  deriving DecidableEq, Repr

/-- The categories of the interfaces that are `IPACM_Lan`s. -/
inductive LanCate
  | lanIf | ethIf | oduIf | wlanIf
  deriving DecidableEq, Repr

/-- What an interface is made with. `appsLanCons` is the pipe to the host and `pipes` the number of producer pipes. -/
structure LanConf where
  ipaIfNum : Nat
  ipaIfCate : LanCate
  rxProp : Option RxProps
  wlanApIndex : Nat
  appsLanCons : Nat
  pipes : Nat

/-- What the handlers read of `IPACM_Wan` and `IPACM_Config`. -/
structure LanShared where
  wanUp : Bool
  wanUpV6 : Bool
  ipaIfNumTetherV4 : List Nat
  ipaIfNumTetherV6 : List Nat
  xlatMuxId : BitVec 8
  backhaulIsStaMode : Bool
  backhaulIsWanBridge : Bool
  backhaulIpv6Prefix : BitVec 64
  extPropV4 : List ExtProp
  extPropV6 : List ExtProp
  qmapId : BitVec 8
  ipaSwRtEnable : Bool
  ipacmOduEnable : Bool
  ipacmOduRouterMode : Bool

namespace LanShared

/-- `IPACM_Wan::isWanUP`. -/
def isWanUP (sh : LanShared) (ipaIfNumTether : Nat) : Bool := sh.ipaIfNumTetherV4.contains ipaIfNumTether && sh.wanUp

/-- `IPACM_Wan::isWanUP_V6`. -/
def isWanUPV6 (sh : LanShared) (ipaIfNumTether : Nat) : Bool := sh.ipaIfNumTetherV6.contains ipaIfNumTether && sh.wanUpV6

/-- `IPACM_Wan::getXlat_Mux_Id`, whose type is `bool`. -/
def getXlatMuxId (sh : LanShared) : Bool := sh.xlatMuxId != 0

/-- `IPACM_Config::GetExtProp`. -/
def getExtProp (sh : LanShared) : IpType → List ExtProp
  | .v4 => sh.extPropV4
  | _ => sh.extPropV6

end LanShared

/-- `ip_type`. -/
inductive IfaceIpType
  | null | v4 | v6 | max
  deriving DecidableEq, Repr

/-- The uplink rules of a family: `modem_ul_v4_set`, `num_wan_ul_fl_rule_v4` and `wan_ul_fl_rule_hdl_v4`, or those of v6. -/
structure UplinkRules where
  modemUlSet : Bool := false
  numWanUlFlRule : Nat := 0
  wanUlFlRuleHdl : Nat → Nat := fun _ => 0

/-- The interface level of an `IPACM_Lan`, as its constructor leaves it. -/
structure Lan where
  isActive : Bool := true
  ipType : IfaceIpType := .null
  ifIpv4Subnet : BitVec 32 := 0
  numDftRtV6 : Nat := 0
  ipv6Addr : Nat → BitVec 128 := fun _ => 0
  ipv6Prefix : BitVec 64 := 0
  dftRtRuleHdl : Nat → Nat := fun _ => 0
  dftV4flRuleHdl : Nat → Nat := fun _ => 0
  dftV6flRuleHdl : Nat → Nat := fun _ => 0
  ipv4IcmpFltRuleHdl : Nat := 0
  ipv6IcmpFltRuleHdl : Nat := 0
  ipv6PrefixFltRuleHdl : Nat := 0
  privateFlRuleHdl : Nat → Nat := fun _ => 0
  lanWanFlRuleHdl : Nat := 0
  softwareroutingAct : Bool := false
  softwareRoutingFlRuleHdl : Nat × Nat := (0, 0)
  ulV4 : UplinkRules := {}
  ulV6 : UplinkRules := {}

/-- What an interface reads of `ipacm_event_data_addr`; `ipaIfIndex` is what `iface_ipa_index_query` finds for its
`if_index`. Those who post the event name one of the two families. -/
structure LanAddr where
  iptype : IpType
  ipaIfIndex : Option Nat
  ipv4Addr : BitVec 32
  ipv6Addr : BitVec 128
  family : iptype ≠ .max
  deriving DecidableEq, Repr

/-- The events an interface's own rules depend on. An index is `ipa_if_num`'s kind. -/
inductive LanEvt
  | addrAdd (data : LanAddr)
  | privateSubnetChange (ifIndex : Nat)
  | wanUpTether (ifIndexTether : Nat) (isSta : Bool)
  | wanUpV6Tether (ifIndexTether : Nat) (isSta : Bool) (ipv6Prefix : BitVec 64)
  | wanDownTether (ifIndexTether : Nat) (isSta : Bool)
  | wanDownV6Tether (ifIndexTether : Nat) (isSta : Bool)
  | swRoutingEnable
  | swRoutingDisable
  | linkDown (ifIndex : Option Nat)
  deriving DecidableEq, Repr

/-- `MAX_WAN_UL_FILTER_RULES`. -/
def maxWanUlFilterRules : Nat := 25

/-- `MAX_DEFAULT_v4_ROUTE_RULES`, `MAX_DEFAULT_v6_ROUTE_RULES`. -/
def maxDefaultV4RouteRules : Nat := 1

def maxDefaultV6RouteRules : Nat := 2

/-- `IPV4_DEFAULT_FILTERTING_RULES`, `IPV6_DEFAULT_FILTERTING_RULES`. -/
def ipv4DefaultFiltertingRules : Nat := 3

def ipv6DefaultFiltertingRules : Nat := 6

/-! ## The rules -/

/-- The rules of `init_fl_rule` for IPv4: fragments, multicast and broadcast. -/
def dftV4Rules : List (Bool × FltRule) := [
  (false, { action := .passToException, retainHdr := true, attrib := [.fragment] }),
  (true, { action := .passToException, retainHdr := true, hashable := true, attrib := [.dstAddrV4 0xE0000000 0xF0000000] }),
  (true, { action := .passToException, retainHdr := true, hashable := true, attrib := [.dstAddrV4 0xFFFFFFFF 0xFFFFFFFF] })]

/-- A word that is the first of an address. -/
def firstWord (w : BitVec 32) : BitVec 128 := w.setWidth 128 <<< 96

/-- A rule of `init_fl_rule` about a TCP flag. -/
def tcpCtrlRule (rx : RxProp) (shift : Nat) : FltRule :=
  let eq : RuleEq := match rx.metaData with
    | none => {}
    | some (metaData, metaDataMask) =>
      { ruleEqBitmap := 1 <<< 14, metadataMeq32Present := 1, metadataMeq32 := ⟨0, metaDataMask, metaData⟩ }
  { action := .passToException, retainHdr := true, fromRx := false, eqAttribType := true
    eqAttrib := { eq with
      ruleEqBitmap := eq.ruleEqBitmap ||| 1 <<< 1 ||| 1 <<< 8
      protocolEq := some 6
      ihlOffsetMeq32 := [⟨12, 1 <<< shift, 1 <<< shift⟩] } }

/-- The rules of `init_fl_rule` for IPv6: multicast, link-scoped and reserved addresses, and TCP FIN, SYN and RST. -/
def dftV6Rules (rx : RxProp) : List (Bool × FltRule) :=
  let dst addr mask : FltRule :=
    { action := .passToException, retainHdr := true, hashable := true, attrib := [.dstAddrV6 (firstWord addr) (firstWord mask)] }
  [(true, dst 0xFF000000 0xFF000000), (true, dst 0xFE800000 0xFFC00000), (true, dst 0xFEC00000 0xFFC00000),
    (true, tcpCtrlRule rx 16), (true, tcpCtrlRule rx 17), (true, tcpCtrlRule rx 18)]

def ipv4IcmpRule : FltRule := { action := .passToException, retainHdr := true, hashable := true, attrib := [.protocol 1] }

def ipv6IcmpRule : FltRule := { action := .passToException, retainHdr := true, attrib := [.nextHdr 58] }

def ipv6PrefixRule (ipv6Prefix : BitVec 64) : FltRule :=
  { action := .passToException, retainHdr := true, hashable := true
    attrib := [.dstAddrV6 (ipv6Prefix.setWidth 128 <<< 64) ((BitVec.allOnes 64).setWidth 128 <<< 64)] }

def swRoutingRule : FltRule := { action := .passToException, hashable := true }

/-- The source and destination of a rule no packet of the LAN matches. -/
def dummyAttrib : List FltCond := [.srcAddrV4 0xFFFFFFFF 0xFFFFFFFF, .dstAddrV4 0xFFFFFFFF 0xFFFFFFFF]

/-- The rule of `add_dummy_private_subnet_flt_rule`. -/
def addedDummyRule : FltRule := { action := .passToException, hashable := true, attrib := dummyAttrib }

/-- The rule of `reset_to_dummy_flt_rule`. -/
def dummyRule : FltRule := { action := .passToException, fromRx := false, attrib := dummyAttrib }

/-- The rule of `handle_private_subnet_android`. -/
def privateSubnetRule (subnetAddr subnetMask : BitVec 32) : FltRule :=
  { action := .passToRouting, retainHdr := true, rtTbl := some .defaultV4, attrib := [.dstAddrV4 subnetAddr subnetMask] }

/-- The rule of `handle_wan_up`. -/
def lanWanRule (sh : LanShared) : IpType → FltRule
  | .v4 =>
    { action := if sh.backhaulIsWanBridge then .passToRouting else .passToSrcNat
      hashable := true, rtTbl := some .wanV4, attrib := [.dstAddrV4 0 0] }
  | _ => { action := .passToRouting, hashable := true, rtTbl := some .v6, attrib := [.dstAddrV6 0 0] }

/-- `eq_attrib` of an uplink rule. -/
def uplinkEqAttrib (rx : RxProp) (iptype : IpType) (xlatMuxId : BitVec 8) (prop : ExtProp) : RuleEq :=
  let eq := prop.eqAttrib
  let eq := if iptype = .v4 ∧ prop.isXlatRule = true ∧ xlatMuxId ≠ 0 then
    { eq with metadataMeq32Present := 1, metadataMeq32 := ⟨0, 0x00FF0000, (xlatMuxId.setWidth 32 &&& 0xFF) <<< 16⟩ } else eq
  match rx.metaData with
  | none => eq
  | some (metaData, metaDataMask) => { eq with
    ruleEqBitmap := eq.ruleEqBitmap ||| 1 <<< 9
    metadataMeq32Present := 1
    metadataMeq32 := ⟨0, eq.metadataMeq32.mask ||| metaDataMask, eq.metadataMeq32.value ||| metaData⟩ }

/-- A rule of `handle_uplink_filter_rule`. -/
def uplinkRule (rx : RxProp) (iptype : IpType) (action : FltAction) (xlatMuxId : BitVec 8) (prop : ExtProp) : FltRule :=
  { action, hashable := prop.isRuleHashable, rtTblIdx := prop.rtTblIdx, ruleId := prop.ruleId, fromRx := false
    eqAttribType := true, eqAttrib := uplinkEqAttrib rx iptype xlatMuxId prop }

/-- The action of the uplink rules. -/
def uplinkAction (cate : LanCate) (sh : LanShared) : IpType → FltAction
  | .v4 => if cate = .oduIf ∧ sh.backhaulIsWanBridge = true then .passToRouting else .passToSrcNat
  | _ => .passToRouting

/-- The handles of the rules that were installed, into an array; the others leave it as it is. -/
def recordHdls (hs : List (Option Nat)) (hdl : Nat → Nat) : Nat → Nat := fun i =>
  match hs[i]? with
  | some (some h) => h
  | _ => hdl i

namespace Lan

variable (D : LanDriver) (cfg : LanConf) (sh : LanShared)

/-- `IPACM_Iface::config_ip_type`. -/
def configIpType (f : Lan) (iptype : IpType) : Lan :=
  { f with ipType :=
      if iptype = .v4 then
        match f.ipType with
        | .v4 | .max => f.ipType
        | .v6 => .max
        | .null => .v4
      else
        match f.ipType with
        | .v6 | .max => f.ipType
        | .v4 => .max
        | .null => .v6 }

/-- `iptype != ip_type`. -/
def differs (f : Lan) (iptype : IpType) : Bool :=
  match iptype, f.ipType with
  | .v4, .v4 | .v6, .v6 | .max, .max => false
  | _, _ => true

def ul (f : Lan) : IpType → UplinkRules
  | .v4 => f.ulV4
  | _ => f.ulV6

def setUl (f : Lan) (iptype : IpType) (u : UplinkRules) : Lan :=
  match iptype with
  | .v4 => { f with ulV4 := u }
  | _ => { f with ulV6 := u }

/-- One rule at the rear, whose handle goes into a field. -/
def addOne (use : FltUse) (ip : IpType) (rule : FltRule) (set : Nat → Lan) (f : Lan) (rx : RxProps) (o : LanOut) :
    Bool × Lan × LanOut :=
  match o.addFilteringRule D cfg.ipaIfNum rx.rx.srcPipe use ip [(true, rule)] with
  | (none, o) => (false, f, o)
  | (some hs, o) => (true, set ((hs.headD none).getD noFltHdl), o.addFltRuleCount cfg.pipes rx.rx.srcPipe ip 1)

/-- `IPACM_Iface::init_fl_rule`. -/
def initFlRule (iptype : IpType) (f : Lan) (o : LanOut) : Lan × LanOut :=
  match cfg.rxProp with
  | none => (f, o)
  | some rx =>
    if iptype = .v4 then
      match o.addFilteringRule D cfg.ipaIfNum rx.rx.srcPipe .dft .v4 dftV4Rules with
      | (none, o) => (f, o)
      | (some hs, o) => ({ f with dftV4flRuleHdl := recordHdls hs f.dftV4flRuleHdl },
          o.addFltRuleCount cfg.pipes rx.rx.srcPipe .v4 ipv4DefaultFiltertingRules)
    else
      match o.addFilteringRule D cfg.ipaIfNum rx.rx.srcPipe .dft .v6 (dftV6Rules rx.rx) with
      | (none, o) => (f, o)
      | (some hs, o) => ({ f with dftV6flRuleHdl := recordHdls hs f.dftV6flRuleHdl },
          o.addFltRuleCount cfg.pipes rx.rx.srcPipe .v6 ipv6DefaultFiltertingRules)

/-- `install_ipv4_icmp_flt_rule`. -/
def installIpv4IcmpFltRule (f : Lan) (o : LanOut) : Lan × LanOut :=
  match cfg.rxProp with
  | none => (f, o)
  | some rx => (f.addOne D cfg .icmp .v4 ipv4IcmpRule (fun h => { f with ipv4IcmpFltRuleHdl := h }) rx o).2

/-- `install_ipv6_icmp_flt_rule`. -/
def installIpv6IcmpFltRule (f : Lan) (o : LanOut) : Lan × LanOut :=
  match cfg.rxProp with
  | none => (f, o)
  | some rx => (f.addOne D cfg .icmp .v6 ipv6IcmpRule (fun h => { f with ipv6IcmpFltRuleHdl := h }) rx o).2

/-- `install_ipv6_prefix_flt_rule`. -/
def installIpv6PrefixFltRule (ipv6Prefix : BitVec 64) (f : Lan) (o : LanOut) : Lan × LanOut :=
  match cfg.rxProp with
  | none => (f, o)
  | some rx => (f.addOne D cfg .ipv6Prefix .v6 (ipv6PrefixRule ipv6Prefix) (fun h => { f with ipv6PrefixFltRuleHdl := h }) rx o).2

/-- The pipe's count goes down. The pipe is read through `rx_prop`. -/
def decreaseFltRuleCount (iptype : IpType) (decrement : Nat) (o : LanOut) : LanOut :=
  match cfg.rxProp with
  | none => { o with crashed := true }
  | some rx => o.addFltRuleCount cfg.pipes rx.rx.srcPipe iptype (-decrement)

/-- `delete_ipv6_prefix_flt_rule`. -/
def deleteIpv6PrefixFltRule (f : Lan) (o : LanOut) : LanOut :=
  let (ok, o) := o.deleteFilteringHdls D .ipv6Prefix .v6 [f.ipv6PrefixFltRuleHdl]
  if ok then decreaseFltRuleCount cfg .v6 1 o else o

/-- `handle_software_routing_enable`. -/
def handleSoftwareRoutingEnable (f : Lan) (o : LanOut) : Lan × LanOut :=
  if f.softwareroutingAct then (f, o)
  else
    match cfg.rxProp with
    | none => (f, o)
    | some rx =>
      match o.addFilteringRule D cfg.ipaIfNum rx.rx.srcPipe .softwareRouting .v4 [(false, swRoutingRule)] with
      | (some [some h], o) =>
        let f := { f with softwareRoutingFlRuleHdl := (h, f.softwareRoutingFlRuleHdl.2) }
        let o := o.addFltRuleCount cfg.pipes rx.rx.srcPipe .v4 1
        match o.addFilteringRule D cfg.ipaIfNum rx.rx.srcPipe .softwareRouting .v6 [(false, swRoutingRule)] with
        | (some [some h], o) => ({ f with
            softwareRoutingFlRuleHdl := (f.softwareRoutingFlRuleHdl.1, h), softwareroutingAct := true },
            o.addFltRuleCount cfg.pipes rx.rx.srcPipe .v6 1)
        | (_, o) => (f, o)
      | (_, o) => (f, o)

/-- `handle_software_routing_disable`. -/
def handleSoftwareRoutingDisable (f : Lan) (o : LanOut) : Lan × LanOut :=
  if cfg.rxProp = none ∨ f.softwareroutingAct = false then (f, o)
  else
    match o.deleteFilteringHdls D .softwareRouting .v4 [f.softwareRoutingFlRuleHdl.1] with
    | (false, o) => (f, o)
    | (true, o) =>
      match (decreaseFltRuleCount cfg .v4 1 o).deleteFilteringHdls D .softwareRouting .v6 [f.softwareRoutingFlRuleHdl.2] with
      | (false, o) => (f, o)
      | (true, o) => ({ f with softwareroutingAct := false }, decreaseFltRuleCount cfg .v6 1 o)

/-! ## The WAN interfaces' messages -/

/-- `handle_wan_up`. -/
def handleWanUp (ipType : IpType) (f : Lan) (o : LanOut) : Bool × Lan × LanOut :=
  match cfg.rxProp with
  | none => (true, f, o)
  | some rx =>
    match ipType with
    | .v4 =>
      if D.fails (.getRtTbl .wanV4) then (false, f, o)
      else f.addOne D cfg .lanWan .v4 (lanWanRule sh .v4) (fun h => { f with lanWanFlRuleHdl := h }) rx o
    | .v6 =>
      if D.fails (.getRtTbl .v6) then (false, f, o)
      else f.addOne D cfg .lanWan .v6 (lanWanRule sh .v6)
        (fun h => { f with dftV6flRuleHdl := fun i => if i = ipv6DefaultFiltertingRules then h else f.dftV6flRuleHdl i }) rx o
    | .max => (true, f, o)

/-- `handle_uplink_filter_rule`. The look at `ipv4_frag_eq_present` comes before the equations are copied, so every rule
goes to the rear. -/
def handleUplinkFilterRule (prop : List ExtProp) (iptype : IpType) (xlatMuxId : BitVec 8) (f : Lan) (o : LanOut) :
    Bool × Lan × LanOut :=
  match cfg.rxProp with
  | none => (true, f, o)
  | some rx =>
    if prop = [] then (true, f, o)
    else if prop.length > maxWanUlFilterRules then (false, f, o)
    else if iptype = .max then (false, f, o)
    else if D.fails (.sendRuleIndex iptype) then (false, f, o)
    else
      let o := o.notify ⟨rx.rx.srcPipe, prop.map ExtProp.ruleId, sh.qmapId⟩
      let rules := prop.map fun p => (true, uplinkRule rx.rx iptype (uplinkAction cfg.ipaIfCate sh iptype) xlatMuxId p)
      match o.addFilteringRule D cfg.ipaIfNum rx.rx.srcPipe .wanUl iptype rules with
      | (none, o) => (false, f, o)
      | (some hs, o) =>
        let u := f.ul iptype
        let u := { u with
          wanUlFlRuleHdl := fun i =>
            if u.numWanUlFlRule ≤ i ∧ i < u.numWanUlFlRule + hs.length then ((hs[i - u.numWanUlFlRule]?).getD none).getD noFltHdl
            else u.wanUlFlRuleHdl i
          numWanUlFlRule := u.numWanUlFlRule + hs.length }
        (true, f.setUl iptype u, o.addFltRuleCount cfg.pipes rx.rx.srcPipe iptype hs.length)

/-- The calls with the mux id, one for each rx property. -/
def writeQmapid (iptype : IpType) : Bool :=
  match cfg.rxProp with
  | none => true
  | some rx => (List.range (rx.others.length + 1)).all fun cnt => !D.fails (.writeQmapid iptype cnt)

/-- The uplink rules are installed, and the flag is set whatever comes of it. -/
def installUplink (extProp : List ExtProp) (iptype : IpType) (xlatMuxId : BitVec 8) (f : Lan) (o : LanOut) :
    Bool × Lan × LanOut :=
  let (ret, f, o) := f.handleUplinkFilterRule D cfg sh extProp iptype xlatMuxId o
  (ret, f.setUl iptype { f.ul iptype with modemUlSet := true }, o)

/-- `handle_wan_up_ex`. -/
def handleWanUpEx (extProp : List ExtProp) (iptype : IpType) (xlatMuxId : BitVec 8) (f : Lan) (o : LanOut) :
    Bool × Lan × LanOut :=
  if writeQmapid D cfg iptype = false then (false, f, o)
  else if f.numDftRtV6 = 1 ∧ iptype = .v6 ∧ f.ulV6.modemUlSet = false then f.installUplink D cfg sh extProp iptype xlatMuxId o
  else if iptype = .v4 ∧ f.ulV4.modemUlSet = false then f.installUplink D cfg sh extProp iptype xlatMuxId o
  else (true, f, o)

/-- The modem's part of `handle_wan_down` and `handle_wan_down_v6`. -/
def wanDownModem (iptype : IpType) (f : Lan) (o : LanOut) : Bool × Lan × LanOut :=
  let u := f.ul iptype
  if u.numWanUlFlRule > maxWanUlFilterRules then (false, f, o)
  else
    match o.deleteFilteringHdls D .wanUl iptype ((List.range u.numWanUlFlRule).map u.wanUlFlRuleHdl) with
    | (false, o) => (false, f, o)
    | (true, o) =>
      let o := decreaseFltRuleCount cfg iptype u.numWanUlFlRule o
      let f := f.setUl iptype { modemUlSet := false, numWanUlFlRule := 0, wanUlFlRuleHdl := fun _ => 0 }
      if D.fails (.sendRuleIndex iptype) then (false, f, o)
      else (true, f, o.notify ⟨(cfg.rxProp.map fun rx => rx.rx.srcPipe).getD 0, [], sh.qmapId⟩)

/-- The other part, with the handle of the rule of `handle_wan_up`. -/
def wanDownSta (iptype : IpType) (hdl : Nat) (f : Lan) (o : LanOut) : Bool × Lan × LanOut :=
  match o.deleteFilteringHdls D .lanWan iptype [hdl] with
  | (false, o) => (false, f, o)
  | (true, o) => (true, f, decreaseFltRuleCount cfg iptype 1 o)

/-- `handle_wan_down`. -/
def handleWanDown (isStaMode : Bool) (f : Lan) (o : LanOut) : Bool × Lan × LanOut :=
  if isStaMode = false then f.wanDownModem D cfg sh .v4 o else f.wanDownSta D cfg .v4 f.lanWanFlRuleHdl o

/-- `handle_wan_down_v6`. -/
def handleWanDownV6 (isStaMode : Bool) (f : Lan) (o : LanOut) : Bool × Lan × LanOut :=
  let o := f.deleteIpv6PrefixFltRule D cfg o
  let f := { f with ipv6Prefix := 0 }
  if isStaMode = false then
    if f.ulV6.numWanUlFlRule = 0 then (false, f, o) else f.wanDownModem D cfg sh .v6 o
  else f.wanDownSta D cfg .v6 (f.dftV6flRuleHdl ipv6DefaultFiltertingRules) o

/-! ## The private subnets -/

/-- `add_dummy_private_subnet_flt_rule`: at the first rule that was refused it stops recording. -/
def addDummyPrivateSubnetFltRule (iptype : IpType) (f : Lan) (o : LanOut) : Lan × LanOut :=
  match cfg.rxProp with
  | none => (f, o)
  | some rx =>
    if iptype = .v4 then
      match o.addFilteringRule D cfg.ipaIfNum rx.rx.srcPipe .privateSubnet .v4
          (List.replicate ipaMaxPrivateSubnetEntries (true, addedDummyRule)) with
      | (none, o) => (f, o)
      | (some hs, o) => ({ f with privateFlRuleHdl := recordHdls (hs.takeWhile Option.isSome) f.privateFlRuleHdl },
          o.addFltRuleCount cfg.pipes rx.rx.srcPipe .v4 ipaMaxPrivateSubnetEntries)
    else (f, o)

/-- `handle_private_subnet_android`. -/
def handlePrivateSubnetAndroid (iptype : IpType) (f : Lan) (o : LanOut) : LanOut :=
  if cfg.rxProp = none ∨ iptype = .v6 then o
  else
    let o := (List.range ipaMaxPrivateSubnetEntries).foldl
      (fun o i => (o.modifyFilteringRule D (.resetFlt i) [(f.privateFlRuleHdl i, dummyRule)]).2) o
    if D.fails (.getRtTbl .defaultV4) then o
    else
      let t := o.privateSubnet
      (o.modifyFilteringRule D .modifyFlt ((List.range t.num).map fun i =>
        (f.privateFlRuleHdl i, privateSubnetRule (t.subnetAddr i) (t.subnetMask i)))).2

/-! ## Addresses -/

/-- The routing rule of an address. -/
def addrRtRule (tbl : RtTbl) (addr : BitVec 128) : RtRule := ⟨tbl, cfg.appsLanCons, none, 0, addr⟩

/-- What `handle_addr_evt` does for the IPv4 address beside its routing rule. -/
def setUpV4 (f : Lan) (o : LanOut) : Lan × LanOut :=
  let (f, o) := f.initFlRule D cfg .v4 o
  let (f, o) := f.installIpv4IcmpFltRule D cfg o
  (f, o.post (.ethBridgeIfaceUp cfg.ipaIfNum .v4))

/-- What it does for the first IPv6 address. -/
def setUpV6 (f : Lan) (o : LanOut) : Lan × LanOut :=
  let (f, o) := f.installIpv6IcmpFltRule D cfg o
  f.initFlRule D cfg .v6 (o.post (.ethBridgeIfaceUp cfg.ipaIfNum .v6))

/-- The address is one of those the interface has. -/
def hasIpv6Addr (f : Lan) (addr : BitVec 128) : Bool := (List.range f.numDftRtV6).any fun n => f.ipv6Addr n = addr

def setDftRtRuleHdl (f : Lan) (k h : Nat) : Lan := { f with dftRtRuleHdl := fun i => if i = k then h else f.dftRtRuleHdl i }

/-- `handle_addr_evt` for IPv4. -/
def handleAddrEvtV4 (data : LanAddr) (f : Lan) (o : LanOut) : Bool × Lan × LanOut :=
  let f := { f with ifIpv4Subnet := (data.ipv4Addr >>> 8) <<< 8 }
  let o := o.addPrivateSubnet f.ifIpv4Subnet cfg.ipaIfNum
  let f := f.configIpType .v4
  match o.addRoutingRule D (addrRtRule cfg .lanV4 (data.ipv4Addr.setWidth 128)) with
  | (none, o) => (false, f, o)
  | (some h, o) => (true, (f.setDftRtRuleHdl 0 h).setUpV4 D cfg o)

/-- The routing rules of an IPv6 address the interface does not have, and what follows. -/
def addIpv6Addr (addr : BitVec 128) (f : Lan) (o : LanOut) : Bool × Lan × LanOut :=
  let k := maxDefaultV4RouteRules + 2 * f.numDftRtV6
  let f := { f with ipv6Addr := fun n => if n = f.numDftRtV6 then addr else f.ipv6Addr n }
  match o.addRoutingRule D (addrRtRule cfg .v6 addr) with
  | (none, o) => (false, f, o)
  | (some h, o) =>
    let f := f.setDftRtRuleHdl k h
    match o.addRoutingRule D (addrRtRule cfg .wanV6 addr) with
    | (none, o) => (false, f, o)
    | (some h, o) =>
      let f := f.setDftRtRuleHdl (k + 1) h
      let (f, o) := if f.numDftRtV6 = 0 then f.setUpV6 D cfg o else (f, o)
      (true, { f with numDftRtV6 := f.numDftRtV6 + 1 }, o)

/-- `handle_addr_evt`. -/
def handleAddrEvt (data : LanAddr) (f : Lan) (o : LanOut) : Bool × Lan × LanOut :=
  if data.iptype = .v4 then f.handleAddrEvtV4 D cfg data o
  else
    let f := f.configIpType data.iptype
    if f.hasIpv6Addr data.ipv6Addr then (false, f, o) else f.addIpv6Addr D cfg data.ipv6Addr o

/-- An address is set up if its family has none, or is IPv6 and has one. -/
def acceptsAddr (f : Lan) (data : LanAddr) : Bool :=
  (f.differs data.iptype && f.ipType != .max) || (data.iptype == .v6 && f.numDftRtV6 != maxDefaultV6RouteRules)

/-- The address handler's look at the WAN interfaces. -/
def checkWanUp (iptype : IpType) (f : Lan) (o : LanOut) : Lan × LanOut :=
  let (f, o) :=
    if sh.isWanUP cfg.ipaIfNum = true ∧ (iptype = .v4 ∨ iptype = .max) then
      if sh.backhaulIsStaMode = false then
        (f.handleWanUpEx D cfg sh (sh.getExtProp .v4) .v4 (if sh.getXlatMuxId then 1 else 0) o).2
      else (f.handleWanUp D cfg sh .v4 o).2
    else (f, o)
  if sh.isWanUPV6 cfg.ipaIfNum = true ∧ (iptype = .v6 ∨ iptype = .max) ∧ f.numDftRtV6 = 1 then
    let (f, o) := ({ f with ipv6Prefix := sh.backhaulIpv6Prefix }).installIpv6PrefixFltRule D cfg sh.backhaulIpv6Prefix o
    if sh.backhaulIsStaMode = false then (f.handleWanUpEx D cfg sh (sh.getExtProp .v6) .v6 0 o).2
    else (f.handleWanUp D cfg sh .v6 o).2
  else (f, o)

/-- The rules of an address; `false` if `handle_addr_evt` fails. -/
def addrRules (data : LanAddr) (f : Lan) (o : LanOut) : Bool × Lan × LanOut :=
  match f.handleAddrEvt D cfg data o with
  | (false, f, o) => (false, f, o)
  | (true, f, o) =>
    let (f, o) := f.addDummyPrivateSubnetFltRule D cfg data.iptype o
    (true, f, f.handlePrivateSubnetAndroid D cfg data.iptype o)

/-- What both classes do with an address they set up. -/
def setUpAddr (data : LanAddr) (f : Lan) (o : LanOut) : Bool × Lan × LanOut :=
  match f.addrRules D cfg data o with
  | (false, f, o) => (false, f, o)
  | (true, f, o) => (true, f.checkWanUp D cfg sh data.iptype o)

/-- The address is no address. -/
def invalidAddr (data : LanAddr) : Bool :=
  (data.iptype == .v4 && data.ipv4Addr == 0) || (data.iptype == .v6 && data.ipv6Addr == 0)

/-- `IPA_ADDR_ADD_EVENT` of `IPACM_Lan::event_callback`. In bridge mode an ODU does not set up its addresses. -/
def lanAddrAdd (data : LanAddr) (f : Lan) (o : LanOut) : Lan × LanOut :=
  if invalidAddr data ∨ data.ipaIfIndex ≠ some cfg.ipaIfNum then (f, o)
  else if sh.ipacmOduEnable = true ∧ sh.ipacmOduRouterMode = false ∧ cfg.ipaIfCate = .oduIf then
    let f := if data.iptype = .v6 ∧ f.numDftRtV6 = 0 then { f with numDftRtV6 := f.numDftRtV6 + 1 } else f
    let (f, o) := f.addDummyPrivateSubnetFltRule D cfg data.iptype o
    (f, f.handlePrivateSubnetAndroid D cfg data.iptype o)
  else
    let (ok, f, o) :=
      if f.acceptsAddr data then
        let (ok, f, o) := f.setUpAddr D cfg sh data o
        (ok, f, if ok ∧ data.iptype = .v4 then o.post (.handleLanUp data.ipv4Addr (o.privateSubnet.subnetMask 0)) else o)
      else (true, f, o)
    if ok = true ∧ sh.ipaSwRtEnable = true then f.handleSoftwareRoutingEnable D cfg o else (f, o)

/-- `IPA_ADDR_ADD_EVENT` of `IPACM_Wlan::event_callback`. -/
def wlanAddrAdd (data : LanAddr) (f : Lan) (o : LanOut) : Lan × LanOut :=
  if invalidAddr data ∨ data.ipaIfIndex ≠ some cfg.ipaIfNum ∨ f.acceptsAddr data = false then (f, o)
  else
    let o := if data.iptype = .v4 then o.post (.handleWlanUp data.ipv4Addr (o.privateSubnet.subnetMask 0)) else o
    match f.setUpAddr D cfg sh data o with
    | (false, f, o) => (f, o)
    | (true, f, o) => if sh.ipaSwRtEnable then f.handleSoftwareRoutingEnable D cfg o else (f, o)

/-! ## The other events -/

/-- The interface has an address of the family. -/
def hasFamily (f : Lan) : IpType → Bool
  | .v4 => f.ipType == .v4 || f.ipType == .max
  | _ => f.ipType == .v6 || f.ipType == .max

/-- `IPA_HANDLE_WAN_UP_TETHER`. The message has no mux id. -/
def wanUpTether (isSta : Bool) (f : Lan) (o : LanOut) : Lan × LanOut :=
  if f.hasFamily .v4 then
    if isSta = false then (f.handleWanUpEx D cfg sh (sh.getExtProp .v4) .v4 0 o).2 else (f.handleWanUp D cfg sh .v4 o).2
  else (f, o)

/-- `IPA_HANDLE_WAN_UP_V6_TETHER`. -/
def wanUpV6Tether (isSta : Bool) (ipv6Prefix : BitVec 64) (f : Lan) (o : LanOut) : Lan × LanOut :=
  if f.hasFamily .v6 then
    let (f, o) := ({ f with ipv6Prefix := ipv6Prefix }).installIpv6PrefixFltRule D cfg ipv6Prefix o
    if isSta = false then (f.handleWanUpEx D cfg sh (sh.getExtProp .v6) .v6 0 o).2 else (f.handleWanUp D cfg sh .v6 o).2
  else (f, o)

/-- `IPA_HANDLE_WAN_DOWN_TETHER`. -/
def wanDownTether (isSta : Bool) (f : Lan) (o : LanOut) : Lan × LanOut :=
  if cfg.ipaIfCate = .wlanIf ∧ (isSta = false ∧ cfg.wlanApIndex > 0 ∨ cfg.rxProp = none) then (f, o)
  else if f.hasFamily .v4 then (f.handleWanDown D cfg sh isSta o).2
  else (f, o)

/-- `IPA_HANDLE_WAN_DOWN_V6_TETHER`, beside the clients. -/
def wanDownV6Tether (isSta : Bool) (f : Lan) (o : LanOut) : Lan × LanOut :=
  if cfg.ipaIfCate = .wlanIf ∧ cfg.rxProp = none then (f, o)
  else if f.hasFamily .v6 then (f.handleWanDownV6 D cfg sh isSta o).2
  else (f, o)

/-- The rules of `handle_down_evt` up to the first deletion that fails. -/
def deleteFltRules (f : Lan) (o : LanOut) : Bool × LanOut :=
  if cfg.rxProp = none then (true, o)
  else
    untilFailure (fun (use, ip, hdls) o =>
      match o.deleteFilteringHdls D use ip hdls with
      | (false, o) => (false, o)
      | (true, o) => (true, decreaseFltRuleCount cfg ip hdls.length o))
      ((if f.ipType ≠ .v6 then [
          (.icmp, .v4, [f.ipv4IcmpFltRuleHdl]),
          (.dft, .v4, (List.range ipv4DefaultFiltertingRules).map f.dftV4flRuleHdl),
          (.privateSubnet, .v4, (List.range ipaMaxPrivateSubnetEntries).map f.privateFlRuleHdl)] else []) ++
        if f.ipType ≠ .v4 then [
          (.icmp, .v6, [f.ipv6IcmpFltRuleHdl]),
          (.dft, .v6, (List.range ipv6DefaultFiltertingRules).map f.dftV6flRuleHdl)] else []) o

/-- The routing rules of the addresses. -/
def deleteRtRules (f : Lan) (o : LanOut) : LanOut :=
  let o := if f.ipType ≠ .v6 then o.deleteRoutingHdl D .v4 0 (f.dftRtRuleHdl 0) else o
  if f.ipType ≠ .v4 then
    (List.range (2 * f.numDftRtV6)).foldl
      (fun o i => o.deleteRoutingHdl D .v6 i (f.dftRtRuleHdl (maxDefaultV4RouteRules + i))) o
  else o

/-- `handle_down_evt` before its label `fail`, where there is an address. -/
def deleteIfaceRules (f : Lan) (o : LanOut) : Lan × LanOut :=
  let (f, o) := if sh.isWanUP cfg.ipaIfNum = true ∧ cfg.rxProp ≠ none then
    (f.handleWanDown D cfg sh sh.backhaulIsStaMode o).2 else (f, o)
  let (f, o) := if sh.isWanUPV6 cfg.ipaIfNum = true ∧ cfg.rxProp ≠ none then
    (f.handleWanDownV6 D cfg sh sh.backhaulIsStaMode o).2 else (f, o)
  match f.deleteFltRules D cfg o with
  | (false, o) => (f, o)
  | (true, o) =>
    let o := (f.deleteRtRules D o).post (.ethBridgeIfaceDown cfg.ipaIfNum)
    (f, if f.ipType ≠ .v6 then o.delPrivateSubnet f.ifIpv4Subnet cfg.ipaIfNum else o)

/-- `handle_down_evt`, beside the clients, the headers of an ODU and the producer dependencies. -/
def handleDownEvt (f : Lan) (o : LanOut) : Lan × LanOut :=
  let (f, o) := if f.ipType = .null then (f, o) else f.deleteIfaceRules D cfg sh o
  let (f, o) := if f.softwareroutingAct = true ∧ cfg.rxProp ≠ none then f.handleSoftwareRoutingDisable D cfg o else (f, o)
  ({ f with isActive := false }, o.post (.lanDeleteSelf cfg.ipaIfNum))

/-- `event_callback`. -/
def eventCallback (evt : LanEvt) (f : Lan) (o : LanOut) : Lan × LanOut :=
  if f.isActive = false then (f, o)
  else
    match evt with
    | .addrAdd data => if cfg.ipaIfCate = .wlanIf then f.wlanAddrAdd D cfg sh data o else f.lanAddrAdd D cfg sh data o
    | .privateSubnetChange ifIndex => if ifIndex = cfg.ipaIfNum then (f, o) else (f, f.handlePrivateSubnetAndroid D cfg .v4 o)
    | .wanUpTether i isSta => if i = cfg.ipaIfNum then f.wanUpTether D cfg sh isSta o else (f, o)
    | .wanUpV6Tether i isSta p => if i = cfg.ipaIfNum then f.wanUpV6Tether D cfg sh isSta p o else (f, o)
    | .wanDownTether i isSta => if i = cfg.ipaIfNum then f.wanDownTether D cfg sh isSta o else (f, o)
    | .wanDownV6Tether i isSta => if i = cfg.ipaIfNum then f.wanDownV6Tether D cfg sh isSta o else (f, o)
    | .swRoutingEnable => f.handleSoftwareRoutingEnable D cfg o
    | .swRoutingDisable => f.handleSoftwareRoutingDisable D cfg o
    | .linkDown ifIndex => if ifIndex = some cfg.ipaIfNum then f.handleDownEvt D cfg sh o else (f, o)

end Lan

/-- The events an interface registers for (`create_iface_instance`). -/
def LanCate.registers (cate : LanCate) : LanEvt → Bool
  | .privateSubnetChange _ | .wanUpTether .. | .wanUpV6Tether .. | .wanDownTether .. | .wanDownV6Tether .. =>
    cate == .lanIf || cate == .wlanIf
  | _ => true

end HiaeCommon
