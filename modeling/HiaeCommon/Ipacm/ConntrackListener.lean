/-
`IPACM_ConntrackListener` (`ipacm/src/IPACM_ConntrackListener.cpp`): what the
neighbour, WAN and conntrack events make of the NAT cache.

A conntrack message is what the listener reads of a `nf_conntrack` object, in
host order. The answer of `CheckNatIface` (the kernel's name of the interface,
looked up in the configuration) comes with the neighbour event. Threads,
filters, and `CT_OPT`, which no build file defines, are left out.
-/
import HiaeCommon.Ipacm.NatApp

namespace HiaeCommon

/-- `MAX_IFACE_ADDRESS`. -/
def maxIfaceAddress : Nat := 50
/-- `MAX_STA_CLNT_IFACES`. -/
def maxStaClntIfaces : Nat := 10
/-- `STA_CLNT_SUBNET_MASK`. -/
def staClntSubnetMask : BitVec 32 := 0xFFFFFF00

/-- `IPS_SRC_NAT` and `IPS_DST_NAT`, bits of `ATTR_STATUS`. -/
def ipsSrcNat : BitVec 32 := 0x10
def ipsDstNat : BitVec 32 := 0x20

/-- `TCP_CONNTRACK_ESTABLISHED` and `TCP_CONNTRACK_FIN_WAIT`. -/
def tcpConntrackEstablished : BitVec 8 := 3
def tcpConntrackFinWait : BitVec 8 := 4

/-- `nf_conntrack_msg_type`. -/
inductive NfConntrackMsgType
  | new | update | destroy
  deriving DecidableEq, Repr

/-- The attributes of a connection. -/
structure NfConntrack where
  status : BitVec 32
  origL4proto : BitVec 8
  replL4proto : BitVec 8
  origIpv4Src : BitVec 32
  origIpv4Dst : BitVec 32
  origPortSrc : BitVec 16
  origPortDst : BitVec 16
  replIpv4Src : BitVec 32
  replPortSrc : BitVec 16
  replPortDst : BitVec 16
  deriving DecidableEq, Repr

/-- `ipacm_ct_evt_data`. `tag` is ghost: it becomes the `origin` of an entry
made from this message. -/
structure CtMsg where
  ct : NfConntrack
  tcpState : BitVec 8
  type : NfConntrackMsgType
  tag : Option Nat
  deriving DecidableEq, Repr

/-- What `AddIface` reads of the configuration and of `IPACM_Wan`. -/
structure ListenerConfig where
  ipPassthroughMode : Bool
  wanIp : BitVec 32
  privateSubnetTable : List (BitVec 32 × BitVec 32)
  deriving DecidableEq, Repr

/-- `isPrivateSubnet`. -/
def ListenerConfig.isPrivateSubnet (cfg : ListenerConfig) (ipAddr : BitVec 32) : Bool :=
  cfg.privateSubnetTable.any fun (subnetAddr, subnetMask) => subnetAddr == subnetMask &&& ipAddr

/-- The listener and the `NatApp` it drives. -/
structure ConntrackListener (δ : Type) where
  cfg : ListenerConfig
  wanUp : Bool
  isStaMode : Bool
  wanIpaddr : BitVec 32
  staClntCnt : Int
  natIfaceIpv4Addr : List (BitVec 32)
  nonnatIfaceIpv4Addr : List (BitVec 32)
  staClntIpv4Addr : List (BitVec 32)
  nat : NatApp δ

/-- `ipacm_event_data_all`, as far as it is read; `natIface` is what
`CheckNatIface` finds of the interface index, `none` if it fails on the way. -/
structure NeighData where
  ipv4Addr : BitVec 32
  isV4 : Bool
  natIface : Option Bool
  deriving DecidableEq, Repr

namespace ConntrackListener

variable {δ : Type} (env : NatEnv δ)

/-- The constructor, which leaves `isStaMode` and `wan_ipaddr` as the allocator hands them out. -/
def init (cfg : ListenerConfig) (isStaMode : Bool) (wanIpaddr : BitVec 32) (nat : NatApp δ) : ConntrackListener δ where
  cfg
  wanUp := false
  isStaMode
  wanIpaddr
  staClntCnt := 0
  natIfaceIpv4Addr := List.replicate maxIfaceAddress 0
  nonnatIfaceIpv4Addr := List.replicate maxIfaceAddress 0
  staClntIpv4Addr := List.replicate maxStaClntIfaces 0
  nat

/-- A call of `nat_inst`. -/
def call (l : ConntrackListener δ) (op : NatOp) : ConntrackListener δ := { l with nat := l.nat.step env op }

/-! ## Neighbours -/

/-- `CheckNatIface`: `none` is `IPACM_FAILURE`. -/
def checkNatIface (data : NeighData) : Option Bool :=
  if data.ipv4Addr = 0 ∨ data.isV4 = false then none else data.natIface

def handleNonNatIPAddr (data : NeighData) (addOp : Bool) (l : ConntrackListener δ) : ConntrackListener δ :=
  if l.isStaMode then l
  else if addOp then
    if checkNatIface data = some false then
      match l.nonnatIfaceIpv4Addr.findIdx? (· == 0) with
      | none => l
      | some cnt =>
        { l with nonnatIfaceIpv4Addr := l.nonnatIfaceIpv4Addr.set cnt data.ipv4Addr }.call env
          (.flushTempEntries data.ipv4Addr true true)
    else l
  else
    match l.nonnatIfaceIpv4Addr.findIdx? (· == data.ipv4Addr) with
    | none => l
    | some cnt =>
      ({ l with nonnatIfaceIpv4Addr := l.nonnatIfaceIpv4Addr.set cnt 0 }.call env
        (.flushTempEntries data.ipv4Addr false false)).call env (.delEntriesOnClntDiscon data.ipv4Addr)

def handleNeighIpAddrAddEvt (data : NeighData) (l : ConntrackListener δ) : ConntrackListener δ :=
  if checkNatIface data = some true then
    -- a duplicate address is left where it is, written or not
    match l.natIfaceIpv4Addr.findIdx? fun a => a == data.ipv4Addr || a == 0 with
    | none => l
    | some j =>
      ({ l with natIfaceIpv4Addr := l.natIfaceIpv4Addr.set j data.ipv4Addr }.call env
        (.resetPwrSaveIf data.ipv4Addr)).call env (.flushTempEntries data.ipv4Addr true false)
  else l

/-- A body of `HandleNeighIpAddrDelEvt`'s loop. -/
def handleNeighIpAddrDelEvtBody (ipv4Addr : BitVec 32) (l : ConntrackListener δ) (cnt : Nat) : ConntrackListener δ :=
  if l.natIfaceIpv4Addr.getD cnt 0 = ipv4Addr then
    ({ l with natIfaceIpv4Addr := l.natIfaceIpv4Addr.set cnt 0 }.call env
      (.flushTempEntries ipv4Addr false false)).call env (.delEntriesOnClntDiscon ipv4Addr)
  else l

def handleNeighIpAddrDelEvt (ipv4Addr : BitVec 32) (l : ConntrackListener δ) : ConntrackListener δ :=
  if ipv4Addr = 0 then l
  else (List.range maxIfaceAddress).foldl (handleNeighIpAddrDelEvtBody env ipv4Addr) l

def handleSTAClientAddEvt (clntIpAddr : BitVec 32) (l : ConntrackListener δ) : ConntrackListener δ :=
  if l.staClntCnt ≥ maxStaClntIfaces then l
  else
    let l := match l.staClntIpv4Addr.findIdx? fun a => (a != 0 && a == clntIpAddr) || a == 0 with
      | none => l
      | some cnt =>
        if l.staClntIpv4Addr.getD cnt 0 ≠ 0 then l
        else { l with staClntIpv4Addr := l.staClntIpv4Addr.set cnt clntIpAddr, staClntCnt := l.staClntCnt + 1 }
    l.call env (.flushTempEntries clntIpAddr true false)

def handleSTAClientDelEvt (clntIpAddr : BitVec 32) (l : ConntrackListener δ) : ConntrackListener δ :=
  let l := match l.staClntIpv4Addr.findIdx? fun a => a != 0 && a == clntIpAddr with
    | none => l
    | some cnt =>
      { { l with staClntIpv4Addr := l.staClntIpv4Addr.set cnt 0 }.call env (.delEntriesOnSTAClntDiscon clntIpAddr) with
        staClntCnt := l.staClntCnt - 1 }
  l.call env (.flushTempEntries clntIpAddr false false)

/-! ## WAN -/

def triggerWANUp (ipv4Addr : BitVec 32) (isSta : Bool) (l : ConntrackListener δ) : ConntrackListener δ :=
  if ipv4Addr = 0 then l
  else { l with wanUp := true, isStaMode := isSta, wanIpaddr := ipv4Addr }.call env (.addTable ipv4Addr)

def triggerWANDown (wanAddr : BitVec 32) (l : ConntrackListener δ) : ConntrackListener δ :=
  { l with wanUp := false }.call env (.deleteTable wanAddr)

/-! ## Conntrack messages -/

/-- `PopulateTCPorUDPEntry`, with the fields `ProcessTCPorUDPMsg` sets around it. -/
def populateTCPorUDPEntry (ct : NfConntrack) (status : BitVec 32) (publicIp : BitVec 32) (tag : Option Nat) :
    NatTableEntry :=
  if status = ipsDstNat then
    { protocol := ct.replL4proto, publicIp, origin := tag
      dstNat := true
      targetIp := ct.origIpv4Src
      targetPort := ct.origPortSrc
      publicPort := ct.origPortDst
      privateIp := ct.replIpv4Src
      privatePort := ct.replPortSrc }
  else
    { protocol := ct.replL4proto, publicIp, origin := tag
      dstNat := false
      targetIp := ct.origIpv4Dst
      targetPort := ct.origPortDst
      publicPort := ct.replPortDst
      privateIp := ct.origIpv4Src
      privatePort := ct.origPortSrc }

/-- The direction `ProcessTCPorUDPMsg` settles on: the flag of the message,
else which side is the WAN address. -/
def natStatus (l : ConntrackListener δ) (ct : NfConntrack) : Option (BitVec 32) :=
  if ipsDstNat &&& ct.status ≠ 0 then some ipsDstNat
  else if ipsSrcNat &&& ct.status ≠ 0 then some ipsSrcNat
  else if ct.origIpv4Src = 0 ∨ ct.origIpv4Dst = 0 then none
  else if ct.origIpv4Src = l.wanIpaddr then some ipsSrcNat
  else if ct.origIpv4Dst = l.wanIpaddr then some ipsDstNat
  else none

/-- The pass-through test of `AddIface`. -/
def isPassthrough (l : ConntrackListener δ) (rule : NatTableEntry) : Bool :=
  l.cfg.ipPassthroughMode && rule.privateIp == l.cfg.wanIp

/-- An address of `ifaces` is an end of the connection. -/
def onIface (ifaces : List (BitVec 32)) (rule : NatTableEntry) : Bool :=
  ifaces.any fun a => a != 0 && (rule.privateIp == a || rule.targetIp == a)

/-- An end of the connection is in a private subnet. -/
def isPrivate (l : ConntrackListener δ) (rule : NatTableEntry) : Bool :=
  l.cfg.isPrivateSubnet rule.privateIp || l.cfg.isPrivateSubnet rule.targetIp

/-- `AddIface`: the rule as it leaves it and `isTempEntry`, or `none` for `false`. -/
def addIface (l : ConntrackListener δ) (rule : NatTableEntry) : Option (NatTableEntry × Bool) :=
  if l.isPassthrough rule then some (rule, false)
  else if onIface l.natIfaceIpv4Addr rule then some (rule, false)
  else if !l.isStaMode && onIface l.nonnatIfaceIpv4Addr rule then
    some ({ rule with privateIp := rule.publicIp, privatePort := rule.publicPort }, false)
  else if l.isPrivate rule then some (rule, true)
  else none

def checkSTAClient (l : ConntrackListener δ) (rule : NatTableEntry) (isTempEntry : Bool) : Bool :=
  if l.isStaMode = false ∨ l.staClntCnt = 0 then isTempEntry
  else if l.staClntIpv4Addr.getD 0 0 &&& staClntSubnetMask ≠ rule.targetIp &&& staClntSubnetMask then isTempEntry
  else if (l.staClntIpv4Addr.take l.staClntCnt.toNat).any (· == rule.targetIp) then isTempEntry
  else true

/-- The rule `ProcessTCPorUDPMsg` hands on, and `isTempEntry`; `none` where it ignores the message. -/
def natEntry (l : ConntrackListener δ) (m : CtMsg) : Option (NatTableEntry × Bool) := do
  let status ← l.natStatus m.ct
  let rule := populateTCPorUDPEntry m.ct status l.wanIpaddr m.tag
  let (rule, isTempEntry) ←
    if rule.privateIp ≠ l.wanIpaddr then l.addIface rule
    else if l.isStaMode then none
    else some ({ rule with privatePort := rule.publicPort }, false)
  return (rule, l.checkSTAClient rule isTempEntry)

/-- The three ways a new connection is stored. -/
def addNatEntry (rule : NatTableEntry) (isTempEntry : Bool) (l : ConntrackListener δ) : ConntrackListener δ :=
  if !l.wanUp then l.call env (.cacheEntry rule)
  else if isTempEntry then l.call env (.addTempEntry rule)
  else l.call env (.addEntry rule)

def deleteNatEntry (rule : NatTableEntry) (l : ConntrackListener δ) : ConntrackListener δ :=
  (l.call env (.deleteEntry rule)).call env (.deleteTempEntry rule)

def addORDeleteNatEntry (rule : NatTableEntry) (isTempEntry : Bool) (m : CtMsg) (l : ConntrackListener δ) :
    ConntrackListener δ :=
  if rule.protocol = ipprotoTcp then
    if m.tcpState = tcpConntrackEstablished then l.addNatEntry env rule isTempEntry
    else if m.tcpState = tcpConntrackFinWait ∨ m.type = .destroy then l.deleteNatEntry env rule
    else l
  else if rule.protocol = ipprotoUdp then
    if m.type = .new then l.addNatEntry env rule isTempEntry
    else if m.type = .destroy then l.deleteNatEntry env rule
    else l
  else l

/-- `ProcessCTMessage` and `ProcessTCPorUDPMsg`. -/
def processCTMessage (m : CtMsg) (l : ConntrackListener δ) : ConntrackListener δ :=
  if m.ct.origL4proto ≠ ipprotoUdp ∧ m.ct.origL4proto ≠ ipprotoTcp then l
  else match l.natEntry m with
    | none => l
    | some (rule, isTempEntry) => l.addORDeleteNatEntry env rule isTempEntry m

end ConntrackListener

/-- What reaches the listener and the object it shares with others: the
events, the neighbours of the NATed interfaces, calls of `NatApp` by other
components, and changes of what `AddIface` reads of the configuration. -/
inductive ListenerEvt
  | ctMessage (m : CtMsg)
  | wanUp (ipv4Addr : BitVec 32) (isSta : Bool)
  | wanDown (wanAddr : BitVec 32)
  | neighClientIpAddrAdd (data : NeighData)
  | neighClientIpAddrDel (data : NeighData)
  | neighIpAddrAdd (data : NeighData)
  | neighIpAddrDel (ipv4Addr : BitVec 32)
  | staClientAdd (clntIpAddr : BitVec 32)
  | staClientDel (clntIpAddr : BitVec 32)
  | natCall (op : NatOp)
  | config (cfg : ListenerConfig)
  deriving DecidableEq, Repr

/-- `event_callback`, and the public entry points beside it. -/
def ConntrackListener.step {δ : Type} (env : NatEnv δ) (l : ConntrackListener δ) : ListenerEvt → ConntrackListener δ
  | .ctMessage m => l.processCTMessage env m
  | .wanUp ipv4Addr isSta => if l.wanUp then l else l.triggerWANUp env ipv4Addr isSta
  | .wanDown wanAddr => if l.wanUp then l.triggerWANDown env wanAddr else l
  | .neighClientIpAddrAdd data => l.handleNonNatIPAddr env data true
  | .neighClientIpAddrDel data => l.handleNonNatIPAddr env data false
  | .neighIpAddrAdd data => l.handleNeighIpAddrAddEvt env data
  | .neighIpAddrDel ipv4Addr => l.handleNeighIpAddrDelEvt env ipv4Addr
  | .staClientAdd clntIpAddr => l.handleSTAClientAddEvt env clntIpAddr
  | .staClientDel clntIpAddr => l.handleSTAClientDelEvt env clntIpAddr
  | .natCall op => l.call env op
  | .config cfg => { l with cfg }

def ConntrackListener.run {δ : Type} (env : NatEnv δ) (l : ConntrackListener δ) (es : List ListenerEvt) :
    ConntrackListener δ :=
  es.foldl (ConntrackListener.step env) l

end HiaeCommon
