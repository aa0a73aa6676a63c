/-
`IPACM_Neighbor` (`ipacm/src/IPACM_Neighbor.cpp`): the cache of the clients
seen so far, by MAC address, and the events it posts about them.

An access outside `neighbor_client[]` is undefined behaviour: the handler is
`none` there. The interface table of `IPACM_Config` and the allocator are the
handler's environment, free to answer otherwise at every event; what the
second query of the index is for, a debug message, is left out.
-/
import HiaeCommon.Ipacm.Defs

namespace HiaeCommon

/-- `IPA_MAX_NUM_NEIGHBOR_CLIENTS`. -/
def ipaMaxNumNeighborClients : Nat := 100
/-- `IPV4_ADDR_LINKLOCAL` and its mask. -/
def ipv4AddrLinklocal : BitVec 32 := 0xA9FE0000
def ipv4AddrLinklocalMask : BitVec 32 := 0xFFFF0000

/-- `ipa_neighbor_client`. -/
structure IpaNeighborClient where
  macAddr : MacAddr := 0
  ifaceIndex : Int := 0
  v4Addr : BitVec 32 := 0
  ipaIfNum : Int := 0
  deriving DecidableEq, Repr

/-- The events the handler posts. -/
inductive NeighClientEvt
  | ipAddrAdd | ipAddrDel
  deriving DecidableEq, Repr

/-- `IPACM_Neighbor`, and what it has posted. -/
structure Neighbor where
  numNeighborClient : Nat
  circularIndex : Nat
  neighborClient : List IpaNeighborClient
  posted : List (NeighClientEvt × EventDataAll)
  deriving DecidableEq, Repr

/-- What the handler asks of others: `iface_ipa_index_query` (`none` for
`IPACM_FAILURE`), whether an entry of `iface_table` is the bridge, and the
block `malloc` hands out, whatever it holds. -/
structure NeighborEnv where
  ifaceIpaIndexQuery : Int → Option Nat
  isBridge : Nat → Bool
  malloc : Option EventDataAll

/-- An attribute of `ipacm_event_data_wlan_ex`. -/
inductive WlanHdrAttrib
  | macAddr (mac : MacAddr)
  | other
  deriving DecidableEq, Repr

/-- The events registered for. `stack` is what `client_mac_addr` holds before
an attribute is copied there. -/
inductive NeighborEvt
  | wlanClientAddEx (ifIndex : Int) (attribs : List WlanHdrAttrib) (stack : MacAddr)
  | newNeigh (data : EventDataAll)
  | delNeigh (data : EventDataAll)
  deriving DecidableEq, Repr

namespace Neighbor

/-- The constructor. -/
def init : Neighbor where
  numNeighborClient := 0
  circularIndex := 0
  neighborClient := List.replicate ipaMaxNumNeighborClients {}
  posted := []

/-! ## The table -/

/-- The search loop from index `i` on, `k` entries long: where the MAC address is. -/
def findClient (s : Neighbor) (mac : MacAddr) : Nat → Nat → Option (Option Nat)
  | _, 0 => some none
  | i, k + 1 => do
    let c ← s.neighborClient[i]?
    if c.macAddr = mac then some (some i) else s.findClient mac (i + 1) k

/-- Assignments to fields of `neighbor_client[i]`. -/
def modify (s : Neighbor) (i : Nat) (f : IpaNeighborClient → IpaNeighborClient) : Option Neighbor := do
  let c ← s.neighborClient[i]?
  return { s with neighborClient := s.neighborClient.set i (f c) }

/-- The loop that closes the gap at `i`, `k` bodies long. -/
def closeGap (s : Neighbor) : Nat → Nat → Option Neighbor
  | _, 0 => some s
  | i, k + 1 => do
    let c ← s.neighborClient[i + 1]?
    let t ← s.modify i fun _ => c
    t.closeGap (i + 1) k

/-- The entry `i` is cleared and the ones behind it move up. -/
def removeClient (s : Neighbor) (i : Nat) : Option Neighbor := do
  let s ← s.modify i fun _ => {}
  let s ← s.closeGap i (s.numNeighborClient - 1 - i)
  return { s with numNeighborClient := s.numNeighborClient - 1 }

/-- A client not found is appended, or, once the table is full, written over
the entry at `circular_index`, which is then advanced. -/
def cacheClient (s : Neighbor) (data : EventDataAll) (ipaIf : Nat) (v4Addr : BitVec 32) : Option Neighbor :=
  let c : IpaNeighborClient := { macAddr := data.macAddr, ifaceIndex := data.ifIndex, ipaIfNum := ipaIf }
  if s.numNeighborClient < ipaMaxNumNeighborClients then do
    let t ← s.modify s.numNeighborClient fun _ => { c with v4Addr }
    return { t with numNeighborClient := t.numNeighborClient + 1 }
  else do
    let t ← s.modify s.circularIndex fun _ => c
    return { t with circularIndex := t.circularIndex + 1 }

/-- `PostEvt` of a copy of `data`. -/
def post (s : Neighbor) (event : NeighClientEvt) (data : EventDataAll) : Neighbor :=
  { s with posted := s.posted ++ [(event, data)] }

/-! ## The handlers -/

/-- A block filled with the cached address of a client. -/
def cachedV4 (block : EventDataAll) (c : IpaNeighborClient) : EventDataAll :=
  { block with iptype := .v4, ifIndex := c.ifaceIndex, ipv4Addr := c.v4Addr, macAddr := c.macAddr }

/-- `IPA_WLAN_CLIENT_ADD_EVENT_EX`. -/
def handleWlanClientAddEx (s : Neighbor) (env : NeighborEnv) (ifIndex : Int) (attribs : List WlanHdrAttrib)
    (stack : MacAddr) : Option Neighbor :=
  match env.ifaceIpaIndexQuery ifIndex with
  | none => some s
  | some ipaIf => do
    -- the last MAC address among the attributes
    let mac := attribs.foldl (fun mac a => match a with | .macAddr m => m | .other => mac) stack
    match ← s.findClient mac 0 s.numNeighborClient with
    | none => return s
    | some i =>
      if env.isBridge ipaIf then return s
      else do
        let s ← s.modify i fun c => { c with ifaceIndex := ifIndex }
        let c ← s.neighborClient[i]?
        if c.ipaIfNum ≠ ipaIf then return s
        else if c.v4Addr = 0 then return s
        else match env.malloc with
          | none => return s
          | some block => return s.post .ipAddrAdd (cachedV4 block c)

/-- A neighbour of the bridge: the event is passed on under the interface the
client is cached for. -/
def handleBridgeNeigh (s : Neighbor) (env : NeighborEnv) (event : NeighClientEvt) (data : EventDataAll)
    (f : IpaNeighborClient → IpaNeighborClient) : Option Neighbor := do
  match ← s.findClient data.macAddr 0 s.numNeighborClient with
  | none => return s
  | some i =>
    let s ← s.modify i f
    let c ← s.neighborClient[i]?
    match env.malloc with
    | none => return s
    | some _ => return s.post event { data with ifIndex := c.ifaceIndex }

/-- A new neighbour with an IPv4 address updates its entry or gets one. -/
def cacheV4 (s : Neighbor) (data : EventDataAll) (ipaIf : Nat) : Option Neighbor := do
  match ← s.findClient data.macAddr 0 s.numNeighborClient with
  | some i => s.modify i fun c => { c with ifaceIndex := data.ifIndex, ipaIfNum := ipaIf, v4Addr := data.ipv4Addr }
  | none => s.cacheClient data ipaIf data.ipv4Addr

/-- A lost neighbour with an IPv4 address leaves the table. -/
def uncacheV4 (s : Neighbor) (data : EventDataAll) : Option Neighbor := do
  match ← s.findClient data.macAddr 0 s.numNeighborClient with
  | some i => s.removeClient i
  | none => return s

/-- A neighbour event with an IPv4 address. -/
def handleV4Neigh (s : Neighbor) (env : NeighborEnv) (event : NeighClientEvt) (data : EventDataAll) (ipaIf : Nat) :
    Option Neighbor :=
  if data.ipv4Addr = 0 then some s
  else if data.ipv4Addr &&& ipv4AddrLinklocalMask = ipv4AddrLinklocal then some s
  else if env.isBridge ipaIf then s.handleBridgeNeigh env event data fun c => { c with v4Addr := data.ipv4Addr }
  else do
    let s ← match event with
      | .ipAddrAdd => s.cacheV4 data ipaIf
      | .ipAddrDel => s.uncacheV4 data
    match env.malloc with
    | none => return s
    | some _ => return s.post event data

/-- A known client reported without an address: its cached IPv4 address is
posted, and on a lost neighbour it leaves the table, unless the allocation
failed in between. -/
def handleKnownNeigh (s : Neighbor) (env : NeighborEnv) (event : NeighClientEvt) (data : EventDataAll) (ipaIf i : Nat) :
    Option Neighbor := do
  let drop (s : Neighbor) : Option Neighbor := if event = .ipAddrDel then s.removeClient i else some s
  if env.isBridge ipaIf then drop s
  else do
    let s ← s.modify i fun c => { c with ifaceIndex := data.ifIndex }
    let c ← s.neighborClient[i]?
    if c.v4Addr = 0 then drop s
    else match env.malloc with
      | none => return s
      | some block => drop (s.post event (cachedV4 block c))

/-- A neighbour event without an address. -/
def handleNoAddrNeigh (s : Neighbor) (env : NeighborEnv) (event : NeighClientEvt) (data : EventDataAll) (ipaIf : Nat) :
    Option Neighbor := do
  match ← s.findClient data.macAddr 0 s.numNeighborClient with
  | some i => s.handleKnownNeigh env event data ipaIf i
  | none => if event = .ipAddrAdd ∧ env.isBridge ipaIf = false then s.cacheClient data ipaIf 0 else return s

/-- A neighbour event that is not IPv4. -/
def handleV6Neigh (s : Neighbor) (env : NeighborEnv) (event : NeighClientEvt) (data : EventDataAll) (ipaIf : Nat) :
    Option Neighbor :=
  if data.ipv6Addr ≠ 0 then
    if env.isBridge ipaIf then s.handleBridgeNeigh env event data id
    else match env.malloc with
      | none => some s
      | some _ => some (s.post event data)
  else s.handleNoAddrNeigh env event data ipaIf

/-- `IPA_NEW_NEIGH_EVENT` and `IPA_DEL_NEIGH_EVENT`. -/
def handleNeigh (s : Neighbor) (env : NeighborEnv) (event : NeighClientEvt) (data : EventDataAll) : Option Neighbor :=
  match env.ifaceIpaIndexQuery data.ifIndex with
  | none => some s
  | some ipaIf =>
    if data.iptype = .v4 then s.handleV4Neigh env event data ipaIf else s.handleV6Neigh env event data ipaIf

/-- `event_callback`. -/
def eventCallback (s : Neighbor) (env : NeighborEnv) : NeighborEvt → Option Neighbor
  | .wlanClientAddEx ifIndex attribs stack => s.handleWlanClientAddEx env ifIndex attribs stack
  | .newNeigh data => s.handleNeigh env .ipAddrAdd data
  | .delNeigh data => s.handleNeigh env .ipAddrDel data

/-- A run: the events in order, each met by the environment of its moment. -/
def run (s : Neighbor) (es : List (NeighborEnv × NeighborEvt)) : Option Neighbor :=
  es.foldlM (fun s e => s.eventCallback e.1 e.2) s

end Neighbor
end HiaeCommon
