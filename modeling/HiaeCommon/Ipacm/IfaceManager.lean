/-
The listeners and the events they are called with (`IPACM_IfaceManager.cpp`,
the constructors, destructors and callbacks of `IPACM_Lan`, `IPACM_Wlan` and
`IPACM_Wan`), as far as they create and delete instances. `new` and `malloc`
find memory; an object is known by the number of its `new`.
-/
import HiaeCommon.Ipacm.EvtDispatcher

namespace HiaeCommon

open Function (update)

/-- `ipacm_iface_type`. -/
inductive IfaceType
  | lanIf | wlanIf | wanIf | virtualIf | ethIf | embmsIf | oduIf | unknownIf
  deriving DecidableEq, Repr

/-- `ipacm_wan_iface_type`. -/
inductive WanIfaceType
  | q6Wan | wlanWan | ecmWan
  deriving DecidableEq, Repr

/-- `IPACM_Config`: the category of each interface and the ODU switches. -/
structure IfaceConfig where
  ifCat : Nat → IfaceType
  ipacmOduEnable : Bool
  ipacmOduRouterMode : Bool
  ipacmOduEmbmsEnable : Bool

/-- `ipacm_cmd_q_data` as a callback reads it: an event, the interface its data names (none that is supported, or
its index in the interface table), and the configuration `Init` would read. -/
structure EvtData where
  event : IpaCmEventId
  ifIndex : Option Nat
  config : IfaceConfig

/-- A listener, with what its callback looks at. -/
inductive Listener
  | neighbor
  | ifaceManager
  | lanToLan
  | conntrackListener
  | lan (ipaIfNum : Nat) (ipaIfCate : IfaceType) (isActive : Bool)
  | wlan (ipaIfNum : Nat) (isActive : Bool)
  | wan (ipaIfNum : Nat) (ipaIfCate : IfaceType) (staMode : WanIfaceType)
  deriving DecidableEq, Repr

/-- The listeners the program starts with. -/
inductive MainListener
  | neighbor | ifaceManager | lanToLan | conntrackListener
  deriving DecidableEq, Repr

/-- The daemon: the dispatcher, the objects that are alive, and the statics. -/
structure Ipacm where
  dispatcher : EvtDispatcher
  objs : Nat → Option Listener
  newObj : Nat
  /-- the list of `IPACM_IfaceManager`: interface and instance -/
  instances : List (Nat × Nat)
  cfg : IfaceConfig
  oduUp : Bool
  numWlanApIface : Int

/-! ## Registrations -/

section Registrations
open IpaCmEventId

/-- What the constructor of a listener of the program registers for. -/
def MainListener.events : MainListener → List IpaCmEventId
  | .neighbor => [wlanClientAddEx, newNeigh, delNeigh]
  | .ifaceManager => [cfgChange, linkUp, wlanApLinkUp, wlanStaLinkUp, usbLinkUp, wanEmbmsLinkUp]
  | .lanToLan => [ethBridgeIfaceUp, ethBridgeIfaceDown, ethBridgeClientAdd, ethBridgeClientDel,
      ethBridgeWlanSccMccSwitch]
  | .conntrackListener => [handleWanUp, handleWanDown, processCtMessage, processCtMessageV6, handleWlanUp,
      handleLanUp, neighClientIpAddrAdd, neighClientIpAddrDel]

/-- The registrations of `create_iface_instance`, by the case of its `switch`. -/
def lanEvents : List IpaCmEventId :=
  [addrAdd, neighClientIpAddrAdd, neighClientIpAddrDel, swRoutingEnable, swRoutingDisable, handleWanUpTether,
    handleWanUpV6Tether, handleWanDownTether, handleWanDownV6Tether, cfgChange, privateSubnetChange,
    tetheringStatsUpdate, cradleWanModeSwitch, linkDown, lanDeleteSelf]

def ethEvents : List IpaCmEventId :=
  [addrAdd, neighClientIpAddrAdd, swRoutingEnable, swRoutingDisable, handleWanUp, handleWanUpV6, handleWanDown,
    handleWanDownV6, cradleWanModeSwitch, linkDown, lanDeleteSelf]

def oduRouterEvents : List IpaCmEventId :=
  [addrAdd, neighClientIpAddrAdd, neighClientIpAddrDel, swRoutingEnable, swRoutingDisable, handleWanUp,
    handleWanUpV6, handleWanDown, handleWanDownV6, cradleWanModeSwitch, linkDown, lanDeleteSelf]

def oduBridgeEvents : List IpaCmEventId :=
  [addrAdd, neighClientIpAddrAdd, swRoutingEnable, swRoutingDisable, linkDown, lanDeleteSelf]

def wlanEvents : List IpaCmEventId :=
  [addrAdd, routeDel, wlanClientAdd, wlanClientAddEx, wlanClientDel, wlanClientPowerSave, wlanClientRecover,
    neighClientIpAddrAdd, swRoutingEnable, swRoutingDisable, handleWanUpTether, handleWanUpV6Tether,
    handleWanDownTether, handleWanDownV6Tether, privateSubnetChange, cradleWanModeSwitch, wlanLinkDown,
    tetheringStatsUpdate, lanDeleteSelf]

def wanEvents (staMode : WanIfaceType) : List IpaCmEventId :=
  [addrAdd, wanUpstreamRouteAdd, wanUpstreamRouteDel] ++ (if staMode = .q6Wan then [networkStatsUpdate] else []) ++
    [firewallChange, neighClientIpAddrAdd, swRoutingEnable, swRoutingDisable, cfgChange, wanXlatConnect] ++
    (if staMode = .wlanWan then [wlanLinkDown] else [linkDown])

def embmsEvents : List IpaCmEventId := [linkDown]

end Registrations

/-! ## Instances -/

namespace Ipacm

/-- The program as it starts, with the configuration it reads. -/
def init (cfg : IfaceConfig) : Ipacm := ⟨.init, fun _ => none, 0, [], cfg, false, 0⟩

/-- The category of an interface set in `iface_table`. -/
def setIfCat (s : Ipacm) (i : Nat) (cat : IfaceType) : Ipacm :=
  { s with cfg := { s.cfg with ifCat := update s.cfg.ifCat i cat } }

/-- Calls of `registr`, one after the other. -/
def registrAll (s : Ipacm) (obj : Nat) : List IpaCmEventId → Option Ipacm
  | [] => some s
  | event :: events => do
    let d ← s.dispatcher.registr event obj
    registrAll { s with dispatcher := d } obj events

/-- An object as its constructor leaves it, and its number. -/
def alloc (s : Ipacm) (l : Listener) : Ipacm × Nat :=
  ({ s with objs := update s.objs s.newObj (some l), newObj := s.newObj + 1 }, s.newObj)

/-- `delete this`: both deregistrations of the destructor, and the memory. -/
def delete (s : Ipacm) (obj : Nat) : Option Ipacm := do
  let d ← s.dispatcher.deregistr obj
  return { s with dispatcher := d, instances := s.instances.filter fun p => p.2 ≠ obj, objs := update s.objs obj none }

/-- `new` of a listener of the program. -/
def construct (s : Ipacm) (m : MainListener) : Option Ipacm :=
  let (s, obj) := s.alloc (match m with
    | .neighbor => .neighbor
    | .ifaceManager => .ifaceManager
    | .lanToLan => .lanToLan
    | .conntrackListener => .conntrackListener)
  s.registrAll obj m.events

/-- `new IPACM_Lan`. -/
def newLan (s : Ipacm) (i : Nat) : Ipacm × Nat :=
  let (s, obj) := s.alloc (.lan i (s.cfg.ifCat i) true)
  if s.cfg.ifCat i = .oduIf ∧ s.oduUp = false then
    ({ s with cfg := { s.cfg with ipacmOduEnable := true }, oduUp := true }, obj)
  else (s, obj)

/-- `new IPACM_Wlan`; with a wrong `wlan_ap_index` its constructor deletes the object, and
the pointer is returned all the same. -/
def newWlan (s : Ipacm) (i : Nat) : Option (Ipacm × Nat) :=
  let (s, obj) := s.alloc (.wlan i true)
  if s.numWlanApIface < 0 ∨ 1 < s.numWlanApIface then do
    let s ← s.delete obj
    return (s, obj)
  else some ({ s with numWlanApIface := s.numWlanApIface + 1 }, obj)

/-- `new IPACM_Wan`. -/
def newWan (s : Ipacm) (i : Nat) (staMode : WanIfaceType) : Ipacm × Nat := s.alloc (.wan i (s.cfg.ifCat i) staMode)

/-- The registrations of a new instance, and `registr` of the interface manager. -/
def openInstance (s : Ipacm) (i obj : Nat) (events : List IpaCmEventId) : Option Ipacm := do
  let s ← s.registrAll obj events
  return { s with instances := s.instances ++ [(i, obj)] }

/-- `SearchInstance`. -/
def searchInstance (s : Ipacm) (i : Nat) : Bool := s.instances.any fun p => p.1 == i

/-- `create_iface_instance`. -/
def createIfaceInstance (s : Ipacm) (i : Nat) (staMode : WanIfaceType) : Option Ipacm :=
  if s.searchInstance i then some s
  else match s.cfg.ifCat i with
    | .lanIf => let (s, lan) := s.newLan i; s.openInstance i lan lanEvents
    | .ethIf => let (s, eth) := s.newLan i; s.openInstance i eth ethEvents
    | .oduIf =>
      if s.cfg.ipacmOduRouterMode then let (s, odu) := s.newLan i; s.openInstance i odu oduRouterEvents
      else let (s, odu) := s.newLan i; s.openInstance i odu oduBridgeEvents
    | .wlanIf => do
      let (s, wl) ← s.newWlan i
      s.openInstance i wl wlanEvents
    | .wanIf =>
      if s.cfg.ipacmOduEnable = false ∨ s.cfg.ipacmOduRouterMode = true then
        let (s, w) := s.newWan i staMode
        s.openInstance i w (wanEvents staMode)
      else some s
    | .embmsIf => let (s, embms) := s.newWan i staMode; s.openInstance i embms embmsEvents
    | .virtualIf | .unknownIf => some s

/-! ## Callbacks -/

/-- `IPACM_IfaceManager::event_callback`. -/
def ifaceManagerCallback (s : Ipacm) (data : EvtData) : Option Ipacm :=
  match data.event, data.ifIndex with
  | .cfgChange, _ => some { s with cfg := data.config }
  | .linkUp, some i => if s.cfg.ifCat i = .wanIf then s.createIfaceInstance i .q6Wan else some s
  | .usbLinkUp, some i =>
    if s.cfg.ifCat i = .wanIf then s.createIfaceInstance i .ecmWan else s.createIfaceInstance i .q6Wan
  | .wlanApLinkUp, some i =>
    if s.cfg.ifCat i = .unknownIf then (s.setIfCat i .wlanIf).createIfaceInstance i .q6Wan else some s
  | .wlanStaLinkUp, some i =>
    if s.cfg.ifCat i = .unknownIf then (s.setIfCat i .wanIf).createIfaceInstance i .wlanWan else some s
  | .wanEmbmsLinkUp, some i =>
    if s.cfg.ipacmOduEnable = true ∧ s.cfg.ipacmOduEmbmsEnable = true ∧ s.cfg.ifCat i = .wanIf then
      (s.setIfCat i .embmsIf).createIfaceInstance i .q6Wan
    else some s
  | _, _ => some s

/-- `IPACM_Lan::event_callback`. -/
def lanCallback (s : Ipacm) (obj ipaIfNum : Nat) (ipaIfCate : IfaceType) (isActive : Bool) (data : EvtData) :
    Option Ipacm :=
  let inactive := { s with objs := update s.objs obj (some (.lan ipaIfNum ipaIfCate false)) }
  match data.event with
  | .linkDown => if isActive ∧ data.ifIndex = some ipaIfNum then some inactive else some s
  | .cfgChange => if isActive ∧ s.cfg.ifCat ipaIfNum ≠ ipaIfCate then some inactive else some s
  | .lanDeleteSelf => if data.ifIndex = some ipaIfNum then s.delete obj else some s
  | _ => some s

/-- `IPACM_Wlan::event_callback`. -/
def wlanCallback (s : Ipacm) (obj ipaIfNum : Nat) (isActive : Bool) (data : EvtData) : Option Ipacm :=
  match data.event with
  | .wlanLinkDown =>
    if isActive ∧ data.ifIndex = some ipaIfNum then
      some ({ s with objs := update s.objs obj (some (.wlan ipaIfNum false)) }.setIfCat ipaIfNum .unknownIf)
    else some s
  | .lanDeleteSelf =>
    if data.ifIndex = some ipaIfNum then { s with numWlanApIface := s.numWlanApIface - 1 }.delete obj else some s
  | _ => some s

/-- `IPACM_Wan::event_callback`. -/
def wanCallback (s : Ipacm) (obj ipaIfNum : Nat) (ipaIfCate : IfaceType) (staMode : WanIfaceType) (data : EvtData) :
    Option Ipacm :=
  match data.event with
  | .wlanLinkDown =>
    if staMode = .wlanWan ∧ data.ifIndex = some ipaIfNum then (s.setIfCat ipaIfNum .unknownIf).delete obj else some s
  | .cfgChange => if s.cfg.ifCat ipaIfNum ≠ ipaIfCate ∧ staMode = .ecmWan then s.delete obj else some s
  | .linkDown =>
    if data.ifIndex = some ipaIfNum ∧ (staMode = .q6Wan ∨ staMode = .ecmWan) then s.delete obj else some s
  | _ => some s

/-- `obj->event_callback`; there is none to call once the object is freed. -/
def eventCallback (s : Ipacm) (obj : Nat) (data : EvtData) : Option Ipacm := do
  match ← s.objs obj with
  | .neighbor | .lanToLan | .conntrackListener => some s
  | .ifaceManager => s.ifaceManagerCallback data
  | .lan ipaIfNum ipaIfCate isActive => s.lanCallback obj ipaIfNum ipaIfCate isActive data
  | .wlan ipaIfNum isActive => s.wlanCallback obj ipaIfNum isActive data
  | .wan ipaIfNum ipaIfCate staMode => s.wanCallback obj ipaIfNum ipaIfCate staMode data

end Ipacm

/-! ## The loop of `ProcessEvt` -/

/-- `ProcessEvt` under way: its event and `tmp`. Ghost: the listeners called so far, and
those registered for the event when it began. -/
structure EvtWalk where
  data : EvtData
  tmp : Nat
  called : List Nat
  began : List Nat

/-- The daemon between two rounds of the loop, or between two events. -/
structure Daemon where
  ipacm : Ipacm
  walk : Option EvtWalk

/-- What the daemon does: a listener of the program is constructed, `ProcessEvt` is
entered, goes a round, or returns. -/
inductive Move
  | construct (m : MainListener)
  | dispatch (data : EvtData)
  | visit
  | finish

/-- The nodes from `p` on, in order. -/
def EvtDispatcher.regs (d : EvtDispatcher) : Nat → Nat → List EvtDispatcher.Reg
  | 0, _ => []
  | fuel + 1, p =>
    if p = 0 then []
    else match d.nodes p with
      | none => []
      | some n => ⟨p, n.event, n.obj⟩ :: d.regs fuel n.next

/-- The listeners registered for an event. -/
def EvtDispatcher.listeners (d : EvtDispatcher) (event : IpaCmEventId) : List Nat :=
  ((d.regs d.brk d.head).filter fun r => r.event = event).map EvtDispatcher.Reg.obj

/-- A round of the loop. The node is copied first, so that its `next` is the one from
before the callback. -/
def EvtWalk.visit (w : EvtWalk) (s : Ipacm) : Option (Ipacm × EvtWalk) := do
  let tmp1 ← s.dispatcher.nodes w.tmp
  if w.data.event = tmp1.event then
    let s ← s.eventCallback tmp1.obj w.data
    return (s, { w with tmp := tmp1.next, called := w.called ++ [tmp1.obj] })
  else return (s, { w with tmp := tmp1.next })

/-- A move, where the daemon is at it. -/
def Daemon.move (m : Daemon) : Move → Option Daemon
  | .construct k => match m.walk with
    | none => (m.ipacm.construct k).map fun s => ⟨s, none⟩
    | some _ => none
  | .dispatch data => match m.walk with
    | none => some ⟨m.ipacm, some ⟨data, m.ipacm.dispatcher.head, [], m.ipacm.dispatcher.listeners data.event⟩⟩
    | some _ => none
  | .visit => match m.walk with
    | none => none
    | some w => if w.tmp = 0 then none else (w.visit m.ipacm).map fun (s, w) => ⟨s, some w⟩
  | .finish => match m.walk with
    | none => none
    | some w => if w.tmp = 0 then some ⟨m.ipacm, none⟩ else none

end HiaeCommon
