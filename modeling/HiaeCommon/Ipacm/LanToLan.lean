/-
The LAN-to-LAN controller (`ipacm/src/IPACM_LanToLan.cpp`) and what it installs
through `IPACM_Lan` (`eth_bridge_*` of `IPACM_Lan.cpp`). Every driver call
succeeds.

An interface is known by its `IPACM_Lan` pointer, a client by its MAC address:
`m_client_info` holds one node for each, and a `client_info` pointer is only
compared. A `client_info` starts with what the stack held. The event that
switches a WLAN interface between its pipes changes rules in place, by handle,
and is left out.
-/
import HiaeCommon.Ipacm.Defs
import HiaeCommon.Lib.Ledger
import Mathlib.Logic.Function.Basic

namespace HiaeCommon

open Function (update)
open Lib (Handles Ledger)

/-- `ipa_hdr_l2_type`. -/
inductive HdrL2Type
  | none | ethernetII | ieee8023 | max
  deriving DecidableEq, Repr

/-- `ipa_l2_hdr_type[]`. -/
def ipaL2HdrType : HdrL2Type → String
  | .none => "NONE"
  | .ethernetII => "ETH_II"
  | .ieee8023 => "802_3"
  | .max => "L2_MAX"

/-- The index of an array of size `IPA_IP_MAX`. -/
inductive IpIndex
  | v4 | v6
  deriving DecidableEq, Repr

/-- An array of size `IPA_IP_MAX`. -/
structure PerIp (α : Type) where
  v4 : α
  v6 : α
  deriving DecidableEq, Repr

namespace PerIp

variable {α : Type}

def get (p : PerIp α) : IpIndex → α
  | .v4 => p.v4
  | .v6 => p.v6

def set (p : PerIp α) : IpIndex → α → PerIp α
  | .v4, a => { p with v4 := a }
  | .v6, a => { p with v6 := a }

@[simp] theorem get_set_self (p : PerIp α) (ip : IpIndex) (a : α) : (p.set ip a).get ip = a := by
  cases ip <;> rfl

theorem get_set_of_ne (p : PerIp α) {ip ip' : IpIndex} (h : ip' ≠ ip) (a : α) : (p.set ip a).get ip' = p.get ip' := by
  cases ip <;> cases ip' <;> first | rfl | exact absurd rfl h

end PerIp

/-- A pointer to an `IPACM_Lan`. -/
abbrev LanId := Nat

/-- What the controller reads of an `IPACM_Lan`: `tx_prop->tx[0].hdr_l2_type`, whether both
properties are there, its category, and `each_client_rt_rule_count[]`. -/
structure LanProps where
  hdrL2Type : HdrL2Type
  hasProps : Bool
  wlan : Bool
  guestAp : Bool
  rtRuleCount : PerIp Nat

/-- What is installed: a header processing context, the `i`-th routing rule of a client, a
filter rule for a client. -/
inductive EthBridgeRule
  | hdrProcCtx (iface : LanId) (peerType : HdrL2Type)
  | rt (iface : LanId) (mac : MacAddr) (ip : IpIndex) (peerType : HdrL2Type) (table : String) (hdrProcCtx i : Nat)
  | flt (iface : LanId) (mac : MacAddr) (ip : IpIndex) (table : String)
  deriving DecidableEq, Repr

/-- The driver. -/
abbrev BridgeDrv := Ledger EthBridgeRule

/-- `MAX_NUM_IFACE`, `MAX_NUM_CLIENT`, `MAX_NUM_CACHED_CLIENT_ADD_EVENT`. -/
def maxNumIface : Nat := 10
def maxNumClient : Nat := 16
def maxNumCachedClientAddEvent : Nat := 10

/-- `rt_rule_info`: the handles, of each family. -/
abbrev RtRuleInfo := PerIp (List Nat)

/-- `client_info`. -/
structure ClientInfo where
  macAddr : MacAddr
  interIfaceRtRuleHdl : HdrL2Type → RtRuleInfo
  intraIfaceRtRuleHdl : RtRuleInfo

/-- `flt_rule_info`. -/
structure FltRuleInfo where
  pClient : MacAddr
  fltRuleHdl : PerIp Nat
  deriving DecidableEq, Repr

/-- `peer_iface_info`. -/
structure PeerIfaceInfo where
  peer : LanId
  rtTblNameForRt : PerIp String
  rtTblNameForFlt : PerIp String
  fltRule : List FltRuleInfo
  deriving DecidableEq, Repr

/-- `IPACM_LanToLan_Iface`. -/
structure LanIface where
  isIpAddrAssigned : PerIp Bool := ⟨false, false⟩
  supportInter : Bool := true
  supportIntra : Bool := false
  refCnt : HdrL2Type → Int := fun _ => 0
  hdrProcCtxInter : HdrL2Type → Nat := fun _ => 0
  hdrProcCtxIntra : Nat := 0
  clientInfo : List ClientInfo := []
  peerIfaceInfo : List PeerIfaceInfo := []
  intraInfo : PeerIfaceInfo := ⟨0, ⟨"", ""⟩, ⟨"", ""⟩, []⟩

/-- `eth_v4_%s_to_%s`, `eth_v6_%s_to_%s`. -/
def rtTblName (a b : HdrL2Type) : PerIp String :=
  ⟨"eth_v4_" ++ ipaL2HdrType a ++ "_to_" ++ ipaL2HdrType b, "eth_v6_" ++ ipaL2HdrType a ++ "_to_" ++ ipaL2HdrType b⟩

def rtTblNameIntra : PerIp String := ⟨"eth_v4_intra_interface", "eth_v6_intra_interface"⟩

namespace LanIface

-- the driver's choice of handles, the interfaces there are, and the interface itself
variable (H : Handles) (props : LanId → LanProps) (this : LanId)

/-- The constructor. -/
def new : LanIface where
  supportInter := !((props this).wlan && (props this).guestAp)
  supportIntra := (props this).wlan

/-! ## The rules of one client -/

/-- `eth_bridge_add_rt_rule`, for both families. -/
def ethBridgeAddRtRule (mac : MacAddr) (peerType : HdrL2Type) (tbl : PerIp String) (ctx : Nat) (d : BridgeDrv) :
    RtRuleInfo × BridgeDrv :=
  let (v4, d) := d.addN H (fun i => .rt this mac .v4 peerType tbl.v4 ctx i) (props this).rtRuleCount.v4
  let (v6, d) := d.addN H (fun i => .rt this mac .v6 peerType tbl.v6 ctx i) (props this).rtRuleCount.v6
  (⟨v4, v6⟩, d)

/-- `add_client_rt_rule`. -/
def addClientRtRule (f : LanIface) (peer : PeerIfaceInfo) (c : ClientInfo) (d : BridgeDrv) : ClientInfo × BridgeDrv :=
  let t := (props peer.peer).hdrL2Type
  if peer.peer ≠ this then
    let (hdls, d) := ethBridgeAddRtRule H props this c.macAddr t peer.rtTblNameForRt (f.hdrProcCtxInter t) d
    ({ c with interIfaceRtRuleHdl := update c.interIfaceRtRuleHdl t hdls }, d)
  else
    let (hdls, d) := ethBridgeAddRtRule H props this c.macAddr t peer.rtTblNameForRt f.hdrProcCtxIntra d
    ({ c with intraIfaceRtRuleHdl := hdls }, d)

/-- `eth_bridge_del_rt_rule` of all handles. -/
def ethBridgeDelRtRule (hdls : RtRuleInfo) (d : BridgeDrv) : BridgeDrv := (d.delAll hdls.v4).delAll hdls.v6

/-- `del_client_rt_rule`. -/
def delClientRtRule (peer : PeerIfaceInfo) (c : ClientInfo) (d : BridgeDrv) : ClientInfo × BridgeDrv :=
  let t := (props peer.peer).hdrL2Type
  if peer.peer ≠ this then
    ({ c with interIfaceRtRuleHdl := update c.interIfaceRtRuleHdl t ⟨[], []⟩ },
      ethBridgeDelRtRule (c.interIfaceRtRuleHdl t) d)
  else ({ c with intraIfaceRtRuleHdl := ⟨[], []⟩ }, ethBridgeDelRtRule c.intraIfaceRtRuleHdl d)

/-- The new handle of a client in the list of filter rules. -/
def setFltRule (mac : MacAddr) (ip : IpIndex) (hdl : Nat) : List FltRuleInfo → List FltRuleInfo
  | [] => []
  | e :: l =>
    if e.pClient = mac then { e with fltRuleHdl := e.fltRuleHdl.set ip hdl } :: l else e :: setFltRule mac ip hdl l

/-- `add_client_flt_rule`. -/
def addClientFltRule (peer : PeerIfaceInfo) (mac : MacAddr) (ip : IpIndex) (d : BridgeDrv) : PeerIfaceInfo × BridgeDrv :=
  let (hdl, d) := d.add H (.flt this mac ip (peer.rtTblNameForFlt.get ip))
  if peer.fltRule.any fun e => e.pClient = mac then
    ({ peer with fltRule := setFltRule mac ip hdl peer.fltRule }, d)
  else ({ peer with fltRule := ⟨mac, (⟨0, 0⟩ : PerIp Nat).set ip hdl⟩ :: peer.fltRule }, d)

/-- The two calls under `m_is_ip_addr_assigned`. -/
def addClientFltRules (f : LanIface) (mac : MacAddr) (peer : PeerIfaceInfo) (d : BridgeDrv) : PeerIfaceInfo × BridgeDrv :=
  let (peer, d) := if f.isIpAddrAssigned.v4 then addClientFltRule H this peer mac .v4 d else (peer, d)
  if f.isIpAddrAssigned.v6 then addClientFltRule H this peer mac .v6 d else (peer, d)

/-- `eth_bridge_del_flt_rule`, for the families with an address. -/
def ethBridgeDelFltRule (f : LanIface) (e : FltRuleInfo) (d : BridgeDrv) : BridgeDrv :=
  let d := if f.isIpAddrAssigned.v4 then d.del e.fltRuleHdl.v4 else d
  if f.isIpAddrAssigned.v6 then d.del e.fltRuleHdl.v6 else d

/-- The loop of `del_client_flt_rule`. -/
def eraseFltRule (f : LanIface) (mac : MacAddr) : List FltRuleInfo → BridgeDrv → List FltRuleInfo × BridgeDrv
  | [], d => ([], d)
  | e :: l, d =>
    if e.pClient = mac then (l, f.ethBridgeDelFltRule e d)
    else
      let (l, d) := f.eraseFltRule mac l d
      (e :: l, d)

/-- `del_client_flt_rule`. -/
def delClientFltRule (f : LanIface) (mac : MacAddr) (peer : PeerIfaceInfo) (d : BridgeDrv) : PeerIfaceInfo × BridgeDrv :=
  let (l, d) := f.eraseFltRule mac peer.fltRule d
  ({ peer with fltRule := l }, d)

/-! ## The rules of one interface -/

/-- `add_all_inter_interface_client_flt_rule` or the intra-interface one, for the clients `macs`. -/
def addAllClientFltRule (ip : IpIndex) : List MacAddr → PeerIfaceInfo → BridgeDrv → PeerIfaceInfo × BridgeDrv
  | [], peer, d => (peer, d)
  | mac :: macs, peer, d =>
    let (peer, d) := addClientFltRule H this peer mac ip d
    addAllClientFltRule ip macs peer d

/-- `add_one_client_flt_rule`. -/
def addOneClientFltRule (f : LanIface) (peer : LanId) (mac : MacAddr) (d : BridgeDrv) : LanIface × BridgeDrv :=
  let (l, d) := d.first (fun p => p.peer = peer) (f.addClientFltRules H this mac) f.peerIfaceInfo
  ({ f with peerIfaceInfo := l }, d)

/-- `del_one_client_flt_rule`. -/
def delOneClientFltRule (f : LanIface) (peer : LanId) (mac : MacAddr) (d : BridgeDrv) : LanIface × BridgeDrv :=
  let (l, d) := d.first (fun p => p.peer = peer) (f.delClientFltRule mac) f.peerIfaceInfo
  ({ f with peerIfaceInfo := l }, d)

/-- `clear_all_flt_rule_for_one_peer_iface`: the driver; the list is then empty. -/
def clearAllFltRule (f : LanIface) (l : List FltRuleInfo) (d : BridgeDrv) : BridgeDrv :=
  l.foldl (fun d e => f.ethBridgeDelFltRule e d) d

/-- `clear_all_rt_rule_for_one_peer_iface`. -/
def clearAllRtRule (f : LanIface) (peer : PeerIfaceInfo) (d : BridgeDrv) : LanIface × BridgeDrv :=
  if f.refCnt (props peer.peer).hdrL2Type = 0 then
    let (l, d) := d.each (delClientRtRule props this peer) f.clientInfo
    ({ f with clientInfo := l }, d)
  else (f, d)

/-- `add_hdr_proc_ctx`. -/
def addHdrProcCtx (f : LanIface) (t : HdrL2Type) (d : BridgeDrv) : LanIface × BridgeDrv :=
  if f.refCnt t = 1 then
    let (hdl, d) := d.add H (.hdrProcCtx this t)
    ({ f with hdrProcCtxInter := update f.hdrProcCtxInter t hdl }, d)
  else (f, d)

/-- `del_hdr_proc_ctx`. -/
def delHdrProcCtx (f : LanIface) (t : HdrL2Type) (d : BridgeDrv) : BridgeDrv :=
  if f.refCnt t = 0 then d.del (f.hdrProcCtxInter t) else d

/-- `increment_ref_cnt_peer_l2_hdr_type`, `decrement_ref_cnt_peer_l2_hdr_type`. -/
def addRefCnt (f : LanIface) (t : HdrL2Type) (n : Int) : LanIface :=
  { f with refCnt := update f.refCnt t (f.refCnt t + n) }

/-- `IPACM_LanToLan_Iface::handle_new_iface_up`. -/
def handleNewIfaceUp (f : LanIface) (forFlt forRt : PerIp String) (peer : LanId) (d : BridgeDrv) : LanIface × BridgeDrv :=
  let t := (props peer).hdrL2Type
  let (f, d) := (f.addRefCnt t 1).addHdrProcCtx H this t d
  ({ f with peerIfaceInfo := ⟨peer, forRt, forFlt, []⟩ :: f.peerIfaceInfo }, d)

/-- `add_client_rt_rule_for_new_iface`. -/
def addClientRtRuleForNewIface (f : LanIface) (d : BridgeDrv) : LanIface × BridgeDrv :=
  match f.peerIfaceInfo with
  | [] => (f, d)
  | peer :: _ =>
    if f.refCnt (props peer.peer).hdrL2Type = 1 then
      let (l, d) := d.each (f.addClientRtRule H props this peer) f.clientInfo
      ({ f with clientInfo := l }, d)
    else (f, d)

/-- `handle_intra_interface_info`. -/
def handleIntraInterfaceInfo (f : LanIface) (d : BridgeDrv) : LanIface × BridgeDrv :=
  let (hdl, d) := d.add H (.hdrProcCtx this (props this).hdrL2Type)
  ({ f with
    intraInfo := { f.intraInfo with peer := this, rtTblNameForRt := rtTblNameIntra, rtTblNameForFlt := rtTblNameIntra }
    hdrProcCtxIntra := hdl }, d)

end LanIface

/-! ## The controller -/

/-- `IPACM_LanToLan`: the list of interfaces, the objects in it, the cached events, and the
driver. -/
structure LanToLan where
  mIface : List LanId
  obj : LanId → LanIface
  cachedClientAddEvent : List (LanId × MacAddr)
  drv : BridgeDrv

/-- The events. `stack` is what a new `client_info` holds. -/
inductive EthBridgeEvt
  | ifaceUp (iface : LanId) (ip : IpIndex) (stack : MacAddr → ClientInfo)
  | ifaceDown (iface : LanId)
  | clientAdd (iface : LanId) (mac : MacAddr) (stack : ClientInfo)
  | clientDel (iface : LanId) (mac : MacAddr)

namespace LanToLan

section Handlers

variable (H : Handles) (props : LanId → LanProps)

def init : LanToLan := ⟨[], fun _ => {}, [], Ledger.empty⟩

def setObj (s : LanToLan) (a : LanId) (f : LanIface × BridgeDrv) : LanToLan :=
  { s with obj := update s.obj a f.1, drv := f.2 }

/-- One round of the loop of `handle_client_add` over the peers: `flag` lists the header types
that were seen, `c` is the client in front, which nothing else reads meanwhile. -/
def clientAddPeer (this : LanId) (mac : MacAddr) (acc : LanToLan × ClientInfo × List HdrL2Type) (p : PeerIfaceInfo) :
    LanToLan × ClientInfo × List HdrL2Type :=
  let (s, c, flag) := acc
  let t := (props p.peer).hdrL2Type
  let (c, d) := if t ∈ flag then (c, s.drv) else (s.obj this).addClientRtRule H props this p c s.drv
  (s.setObj p.peer ((s.obj p.peer).addOneClientFltRule H p.peer this mac d), c, t :: flag)

/-- `IPACM_LanToLan_Iface::handle_client_add`. -/
def ifaceClientAdd (s : LanToLan) (this : LanId) (mac : MacAddr) (stack : ClientInfo) : LanToLan :=
  let f := s.obj this
  if f.clientInfo.any fun c => c.macAddr = mac then s
  else if f.clientInfo.length = maxNumClient then s
  else
    let c := { stack with macAddr := mac }
    let (s, c, _) := if f.supportInter then f.peerIfaceInfo.foldl (clientAddPeer H props this mac) (s, c, []) else (s, c, [])
    let f := s.obj this
    if f.supportIntra then
      let (c, d) := f.addClientRtRule H props this f.intraInfo c s.drv
      let (intra, d) := f.addClientFltRules H this mac f.intraInfo d
      s.setObj this ({ f with clientInfo := c :: f.clientInfo, intraInfo := intra }, d)
    else s.setObj this ({ f with clientInfo := c :: f.clientInfo }, s.drv)

/-- One round of the loop of `handle_client_del`; `c` is the client that goes. -/
def clientDelPeer (this : LanId) (acc : LanToLan × ClientInfo × List HdrL2Type) (p : PeerIfaceInfo) :
    LanToLan × ClientInfo × List HdrL2Type :=
  let (s, c, flag) := acc
  let t := (props p.peer).hdrL2Type
  let (f, d) := (s.obj p.peer).delOneClientFltRule this c.macAddr s.drv
  let (c, d) := if t ∈ flag then (c, d) else LanIface.delClientRtRule props this p c d
  (s.setObj p.peer (f, d), c, t :: flag)

/-- `IPACM_LanToLan_Iface::handle_client_del`. -/
def ifaceClientDel (s : LanToLan) (this : LanId) (mac : MacAddr) : LanToLan :=
  let f := s.obj this
  match f.clientInfo.find? fun c => c.macAddr = mac with
  | none => s
  | some c =>
    let (s, c, _) := if f.supportInter then f.peerIfaceInfo.foldl (clientDelPeer props this) (s, c, []) else (s, c, [])
    let f := s.obj this
    let clients := f.clientInfo.eraseP fun c => c.macAddr = mac
    if f.supportIntra then
      let (intra, d) := f.delClientFltRule mac f.intraInfo s.drv
      let (_, d) := LanIface.delClientRtRule props this f.intraInfo c d
      s.setObj this ({ f with clientInfo := clients, intraInfo := intra }, d)
    else s.setObj this ({ f with clientInfo := clients }, s.drv)

/-- One round of the loop of `handle_down_event` over the peers. The own entries are cleared as a
list behind the loop, and nothing reads them meanwhile. -/
def downPeer (this : LanId) (s : LanToLan) (p : PeerIfaceInfo) : LanToLan :=
  let own := (props this).hdrL2Type
  let t := (props p.peer).hdrL2Type
  let f := (s.obj this).addRefCnt t (-1)
  let g := (s.obj p.peer).addRefCnt own (-1)
  let d := f.clearAllFltRule p.fltRule s.drv
  let (g, d) :=
    match g.peerIfaceInfo.find? fun q => q.peer = this with
    | none => (g, d)
    | some q =>
      let d := g.clearAllFltRule q.fltRule d
      let (g, d) := g.clearAllRtRule props p.peer q d
      let g := { g with peerIfaceInfo := g.peerIfaceInfo.eraseP fun q => q.peer = this }
      (g, g.delHdrProcCtx own d)
  let (f, d) := f.clearAllRtRule props this p d
  (s.setObj p.peer (g, d)).setObj this (f, f.delHdrProcCtx t d)

/-- `handle_down_event`. -/
def ifaceDown (s : LanToLan) (this : LanId) : LanToLan :=
  let f := s.obj this
  let s :=
    if f.supportInter then
      let s := f.peerIfaceInfo.foldl (downPeer props this) s
      s.setObj this ({ s.obj this with peerIfaceInfo := [] }, s.drv)
    else s
  let f := s.obj this
  if f.supportIntra then
    let d := f.clearAllFltRule f.intraInfo.fltRule s.drv
    let (f, d) := f.clearAllRtRule props this f.intraInfo d
    let d := d.del f.hdrProcCtxIntra
    s.setObj this ({ f with intraInfo := { f.intraInfo with fltRule := [] }, clientInfo := [] }, d)
  else s.setObj this ({ f with clientInfo := [] }, s.drv)

/-- `IPACM_LanToLan::handle_new_iface_up`, and the routing rules of the clients on the existing
interface. -/
def newIfacePeer (nw : LanId) (s : LanToLan) (exist : LanId) : LanToLan :=
  let forFlt := rtTblName (props exist).hdrL2Type (props nw).hdrL2Type
  let forRt := rtTblName (props nw).hdrL2Type (props exist).hdrL2Type
  let s := s.setObj exist ((s.obj exist).handleNewIfaceUp H props exist forFlt forRt nw s.drv)
  let s := s.setObj nw ((s.obj nw).handleNewIfaceUp H props nw forRt forFlt exist s.drv)
  s.setObj exist ((s.obj exist).addClientRtRuleForNewIface H props exist s.drv)

/-- The filter rules of one family for the clients of all peers. -/
def addAllInterFltRule (s : LanToLan) (this : LanId) (ip : IpIndex) : LanToLan :=
  let f := s.obj this
  let (l, d) := s.drv.each
    (fun p => LanIface.addAllClientFltRule H this ip ((s.obj p.peer).clientInfo.map (·.macAddr)) p) f.peerIfaceInfo
  s.setObj this ({ f with peerIfaceInfo := l }, d)

/-- `handle_client_add`. -/
def handleClientAdd (s : LanToLan) (iface : LanId) (mac : MacAddr) (stack : ClientInfo) : LanToLan :=
  if iface ∈ s.mIface then s.ifaceClientAdd H props iface mac stack
  else if s.cachedClientAddEvent.length < maxNumCachedClientAddEvent then
    { s with cachedClientAddEvent := (iface, mac) :: s.cachedClientAddEvent }
  else s

/-- `handle_cached_client_add_event`. -/
def handleCachedClientAddEvent (s : LanToLan) (iface : LanId) (stack : MacAddr → ClientInfo) : LanToLan :=
  let s' := (s.cachedClientAddEvent.filter (·.1 = iface)).foldl
    (fun s e => s.handleClientAdd H props e.1 e.2 (stack e.2)) s
  { s' with cachedClientAddEvent := s'.cachedClientAddEvent.filter (·.1 ≠ iface) }

/-- `handle_iface_up`. -/
def handleIfaceUp (s : LanToLan) (iface : LanId) (ip : IpIndex) (stack : MacAddr → ClientInfo) : LanToLan :=
  if iface ∈ s.mIface then
    let f := s.obj iface
    if f.isIpAddrAssigned.get ip then s
    else
      let s := s.setObj iface ({ f with isIpAddrAssigned := f.isIpAddrAssigned.set ip true }, s.drv)
      let s := if f.supportInter then s.addAllInterFltRule H iface ip else s
      if f.supportIntra then
        let f := s.obj iface
        let (intra, d) := LanIface.addAllClientFltRule H iface ip (f.clientInfo.map (·.macAddr)) f.intraInfo s.drv
        s.setObj iface ({ f with intraInfo := intra }, d)
      else s
  else if s.mIface.length = maxNumIface then s
  else if (props iface).hasProps = false then s
  else if (props iface).hdrL2Type = .none ∨ (props iface).hdrL2Type = .max then s
  else
    let f := LanIface.new props iface
    let f := { f with isIpAddrAssigned := f.isIpAddrAssigned.set ip true }
    let others := s.mIface
    let s := { s with mIface := iface :: s.mIface, obj := update s.obj iface f }
    let s :=
      if f.supportInter then
        let peers := others.filter fun b => (s.obj b).supportInter
        (peers.foldl (newIfacePeer H props iface) s).addAllInterFltRule H iface ip
      else s
    let s :=
      if f.supportIntra then s.setObj iface ((s.obj iface).handleIntraInterfaceInfo H props iface s.drv) else s
    s.handleCachedClientAddEvent H props iface stack

/-- `handle_iface_down`. -/
def handleIfaceDown (s : LanToLan) (iface : LanId) : LanToLan :=
  if iface ∈ s.mIface then
    let s := s.ifaceDown props iface
    { s with mIface := s.mIface.erase iface }
  else { s with cachedClientAddEvent := s.cachedClientAddEvent.filter (·.1 ≠ iface) }

/-- `handle_client_del`. -/
def handleClientDel (s : LanToLan) (iface : LanId) (mac : MacAddr) : LanToLan :=
  if iface ∈ s.mIface then s.ifaceClientDel props iface mac else s

/-- `event_callback`. -/
def step (s : LanToLan) : EthBridgeEvt → LanToLan
  | .ifaceUp iface ip stack => s.handleIfaceUp H props iface ip stack
  | .ifaceDown iface => s.handleIfaceDown props iface
  | .clientAdd iface mac stack => s.handleClientAdd H props iface mac stack
  | .clientDel iface mac => s.handleClientDel props iface mac

/-- The state after the events, in order. -/
def run (events : List EthBridgeEvt) : LanToLan := events.foldl (step H props) init

end Handlers

end LanToLan
end HiaeCommon
