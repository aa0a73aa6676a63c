/-
`NatApp` (`ipacm/src/IPACM_Conntrack_NATApp.cpp`): the cache of NATed
connections kept above the NAT driver.

The cache is a fixed array `Init` allocates; a C loop over it is a fold of
its body over the slot numbers, in order, so what a driver call answers for
one slot is seen by the next. Everything the object calls (the NAT driver,
libnetfilter_conntrack, two files under `/proc`) is a parameter `NatEnv`
over a state `δ` of its own: it may answer anything at any call.
-/
import HiaeCommon.Ipanat.NatDrv

namespace HiaeCommon

/-- `IPA_MAX_NUM_WIFI_CLIENTS`. -/
def ipaMaxNumWifiClients : Nat := 32
/-- `MAX_TEMP_ENTRIES`. -/
def maxTempEntries : Nat := 25

/-- `nat_table_entry`. `origin` is ghost: the connection whose conntrack
message asked for the entry. It travels with the record (a `memset` clears
it) and no code reads it. -/
structure NatTableEntry where
  privateIp : BitVec 32 := 0
  privatePort : BitVec 16 := 0
  targetIp : BitVec 32 := 0
  targetPort : BitVec 16 := 0
  publicIp : BitVec 32 := 0
  publicPort : BitVec 16 := 0
  protocol : BitVec 8 := 0
  timestamp : BitVec 32 := 0
  dstNat : Bool := false
  enabled : Bool := false
  ruleHdl : BitVec 32 := 0
  origin : Option Nat := none
  deriving DecidableEq, Repr

namespace NatTableEntry

/-- What `memset(&cache[cnt], 0, …)` leaves. -/
def zero : NatTableEntry := {}

/-- The five fields every look-up compares. -/
structure Tuple where
  privateIp : BitVec 32
  targetIp : BitVec 32
  privatePort : BitVec 16
  targetPort : BitVec 16
  protocol : BitVec 8
  deriving DecidableEq, Repr

def tuple (e : NatTableEntry) : Tuple :=
  ⟨e.privateIp, e.targetIp, e.privatePort, e.targetPort, e.protocol⟩

/-- The tuple of a free slot. -/
def Tuple.blank : Tuple := ⟨0, 0, 0, 0, 0⟩

/-- No field of the tuple is zero. -/
def Tuple.Full (t : Tuple) : Prop :=
  t.privateIp ≠ 0 ∧ t.targetIp ≠ 0 ∧ t.privatePort ≠ 0 ∧ t.targetPort ≠ 0 ∧ t.protocol ≠ 0

instance (t : Tuple) : Decidable t.Full := inferInstanceAs (Decidable (_ ∧ _))

/-- The free-slot test of `AddEntry` and `CacheEntry`. -/
def isBlank (e : NatTableEntry) : Bool := e.tuple == .blank

/-- The rule an entry stands for, as handed to the driver. -/
def natRule (e : NatTableEntry) : IpaNatIpv4Rule where
  targetIp := e.targetIp
  privateIp := e.privateIp
  targetPort := e.targetPort
  privatePort := e.privatePort
  publicPort := e.publicPort
  protocol := e.protocol

end NatTableEntry

/-- `ipacm_alg`. -/
structure IpacmAlg where
  protocol : BitVec 8
  port : BitVec 16
  deriving DecidableEq, Repr

/-- What `UpdateCTUdpTs` sets on the conntrack object it sends. -/
structure CtAttrs where
  l4proto : BitVec 8
  timeout : BitVec 32
  ipv4Src : BitVec 32
  portSrc : BitVec 16
  ipv4Dst : BitVec 32
  portDst : BitVec 16
  deriving DecidableEq, Repr

/-- How the conntrack update of `UpdateCTUdpTs` ends: no handle or no object
to send, `nfct_query` fails, or it succeeds. -/
inductive CtUpdate
  | unavailable | failed | updated
  deriving DecidableEq, Repr

/-- The calls `NatApp` makes, over a state `δ` of whatever answers them.
`none` and `false` are a failing call. A failing add leaves the handle it was
given a pointer to as it was or clears it; the handle is then zero already
(`addEntry`) or cleared with its slot (`restoreSlot`). -/
structure NatEnv (δ : Type) where
  addIpv4Tbl : δ → BitVec 32 → BitVec 16 → δ × Option (BitVec 32)
  delIpv4Tbl : δ → BitVec 32 → δ × Bool
  addIpv4Rule : δ → BitVec 32 → IpaNatIpv4Rule → δ × Option (BitVec 32)
  delIpv4Rule : δ → BitVec 32 → BitVec 32 → δ × Bool
  queryTimestamp : δ → BitVec 32 → BitVec 32 → δ × Option (BitVec 32)
  ctUpdate : δ → CtAttrs → δ × CtUpdate
  /-- `fopen` and `fscanf` of the UDP and of the TCP time-out file. -/
  readUdpTimeout : δ → δ × Option (Option (BitVec 32))
  readTcpTimeout : δ → δ × Option (Option (BitVec 32))

/-- The `NatApp` object. `maxEntries` is the length of `cache`, which `Init`
allocates and nothing changes. `drv` is the state behind `NatEnv`. -/
structure NatApp (δ : Type) where
  cache : List NatTableEntry
  temp : List NatTableEntry
  pubIpAddr : BitVec 32
  pubIpAddrPre : BitVec 32
  natTableHdl : BitVec 32
  curCnt : Int
  algPorts : List IpacmAlg
  tcpTimeout : BitVec 32
  udpTimeout : BitVec 32
  pwrSaveIfs : List (BitVec 32)
  drv : δ

namespace NatApp

open NatTableEntry (zero)

variable {δ : Type} (env : NatEnv δ)

/-- The constructor and `Init`. The constructor leaves `pub_ip_addr_pre`, the
two time-outs and `PwrSaveIfs` as the allocator hands them out. -/
def init (maxEntries : Nat) (algPorts : List IpacmAlg) (pubIpAddrPre tcpTimeout udpTimeout : BitVec 32)
    (pwrSaveIfs : List (BitVec 32)) (drv : δ) : NatApp δ where
  cache := List.replicate maxEntries zero
  temp := List.replicate maxTempEntries zero
  pubIpAddr := 0
  pubIpAddrPre
  natTableHdl := 0
  curCnt := 0
  algPorts
  tcpTimeout
  udpTimeout
  pwrSaveIfs
  drv

def maxEntries (s : NatApp δ) : Nat := s.cache.length

/-- `cache[cnt]`. -/
def slot (s : NatApp δ) (cnt : Nat) : NatTableEntry := s.cache.getD cnt zero

/-- An assignment to `cache[cnt]`. -/
def setSlot (s : NatApp δ) (cnt : Nat) (e : NatTableEntry) : NatApp δ :=
  { s with cache := s.cache.set cnt e }

/-- `memset(&cache[cnt], 0, sizeof(cache[cnt])); curCnt--;`. -/
def clearSlot (s : NatApp δ) (cnt : Nat) : NatApp δ :=
  { s with cache := s.cache.set cnt zero, curCnt := s.curCnt - 1 }

/-- A loop `for(cnt = 0; cnt < max_entries; cnt++)` over the cache. -/
def forEachSlot (body : NatApp δ → Nat → NatApp δ) (s : NatApp δ) : NatApp δ :=
  (List.range s.maxEntries).foldl body s

def isAlgPort (s : NatApp δ) (proto : BitVec 8) (port : BitVec 16) : Bool :=
  s.algPorts.any fun a => proto == a.protocol && port == a.port

def isPwrSaveIf (s : NatApp δ) (ipAddr : BitVec 32) : Bool :=
  s.pwrSaveIfs.any fun p => p != 0 && ipAddr == p

def chkForDup (s : NatApp δ) (rule : NatTableEntry) : Bool :=
  s.cache.any fun e => e.tuple == rule.tuple

/-- The first free slot. -/
def freeSlot (s : NatApp δ) : Option Nat := s.cache.findIdx? (·.isBlank)

/-- The first slot holding `rule`'s tuple. -/
def findSlot (s : NatApp δ) (rule : NatTableEntry) : Option Nat :=
  s.cache.findIdx? fun e => e.tuple == rule.tuple

/-- Put the rule of slot `cnt` into the hardware: `AddTable` and
`ResetPwrSaveIf` do it alike, and both drop the slot when the driver refuses. -/
def restoreSlot (s : NatApp δ) (cnt : Nat) : NatApp δ :=
  match env.addIpv4Rule s.drv s.natTableHdl (s.slot cnt).natRule with
  | (drv, none) => { s with drv }.clearSlot cnt
  | (drv, some ruleHdl) => { s with drv }.setSlot cnt { s.slot cnt with ruleHdl, enabled := true }

/-- A body of `AddTable`'s loop. -/
def addTableBody (s : NatApp δ) (cnt : Nat) : NatApp δ :=
  if (s.slot cnt).privateIp ≠ 0 then s.restoreSlot env cnt else s

def addTable (pubIp : BitVec 32) (s : NatApp δ) : NatApp δ × Int :=
  match env.addIpv4Tbl s.drv pubIp (BitVec.ofNat 16 s.maxEntries) with
  | (drv, none) =>
    -- the driver clears `*tbl_hdl` before anything can fail, except that it
    -- refuses a table of no entries before it touches it
    let hdl := if BitVec.ofNat 16 s.maxEntries = 0 then s.natTableHdl else 0
    ({ s with drv, natTableHdl := hdl }, -1)
  | (drv, some hdl) =>
    let s := { s with drv, natTableHdl := hdl }
    let s := if pubIp = s.pubIpAddrPre then s.forEachSlot (addTableBody env) else s
    ({ s with pubIpAddr := pubIp }, 0)

/-- A body of `Reset`'s loop. -/
def resetBody (s : NatApp δ) (cnt : Nat) : NatApp δ :=
  s.setSlot cnt { s.slot cnt with enabled := false }

def reset (s : NatApp δ) : NatApp δ :=
  { s with natTableHdl := 0, pubIpAddr := 0 }.forEachSlot resetBody

def deleteTable (pubIp : BitVec 32) (s : NatApp δ) : NatApp δ × Int :=
  if s.natTableHdl = 0 then (s, -1)
  else if s.pubIpAddr ≠ pubIp then (s, -1)
  else match env.delIpv4Tbl s.drv s.natTableHdl with
    | (drv, false) => ({ s with drv }, -1)
    | (drv, true) => ({ s with drv, pubIpAddrPre := s.pubIpAddr }.reset, 0)

/-- The driver call of `DeleteEntry`: its failure is only logged. -/
def delRule (s : NatApp δ) (cnt : Nat) : NatApp δ :=
  if (s.slot cnt).enabled then
    { s with drv := (env.delIpv4Rule s.drv s.natTableHdl (s.slot cnt).ruleHdl).1 }
  else s

def deleteEntry (rule : NatTableEntry) (s : NatApp δ) : NatApp δ × Int :=
  match s.findSlot rule with
  | none => (s, 0)
  | some cnt => ((s.delRule env cnt).clearSlot cnt, 0)

/-- The record `AddEntry` writes over slot `e`: `public_ip` is not assigned. -/
def addedEntry (e rule : NatTableEntry) (enabled : Bool) (ruleHdl : BitVec 32) : NatTableEntry :=
  { e with
    enabled, ruleHdl
    privateIp := rule.privateIp
    targetIp := rule.targetIp
    targetPort := rule.targetPort
    privatePort := rule.privatePort
    protocol := rule.protocol
    timestamp := 0
    publicPort := rule.publicPort
    dstNat := rule.dstNat
    origin := rule.origin }

/-- Store `e` in slot `cnt` as one more entry. -/
def fillSlot (s : NatApp δ) (cnt : Nat) (e : NatTableEntry) : NatApp δ :=
  { s with cache := s.cache.set cnt e, curCnt := s.curCnt + 1 }

def addEntry (rule : NatTableEntry) (s : NatApp δ) : NatApp δ × Int :=
  if s.natTableHdl = 0 then (s, -1)
  else if s.isAlgPort rule.protocol rule.privatePort || s.isAlgPort rule.protocol rule.targetPort then
    (s, -1)
  else if ¬ rule.tuple.Full then (s, 0)
  else if s.chkForDup rule then (s, -1)
  else match s.freeSlot with
    | none => (s, -1)
    | some cnt =>
      if s.isPwrSaveIf rule.privateIp || s.isPwrSaveIf rule.targetIp then
        (s.fillSlot cnt (addedEntry (s.slot cnt) rule false 0), 0)
      else match env.addIpv4Rule s.drv s.natTableHdl rule.natRule with
        | (drv, none) => ({ s with drv }, -1)
        | (drv, some ruleHdl) =>
          ({ s with drv }.fillSlot cnt (addedEntry (s.slot cnt) rule true ruleHdl), 0)

/-- The record `CacheEntry` writes. -/
def cachedEntry (rule : NatTableEntry) : NatTableEntry :=
  { rule with enabled := false, ruleHdl := 0, timestamp := 0 }

def cacheEntry (rule : NatTableEntry) (s : NatApp δ) : NatApp δ :=
  if ¬ rule.tuple.Full then s
  else if s.chkForDup rule then s
  else match s.freeSlot with
    | none => s
    | some cnt => s.fillSlot cnt (cachedEntry rule)

/-! ## Time stamps -/

/-- `Read_TcpUdp_Timeout`: the TCP file is not opened when the UDP one cannot be. -/
def readTcpUdpTimeout (s : NatApp δ) : NatApp δ :=
  match env.readUdpTimeout s.drv with
  | (drv, none) => { s with drv }
  | (drv, some udp) =>
    let s := { s with drv, udpTimeout := udp.getD s.udpTimeout }
    match env.readTcpTimeout s.drv with
    | (drv, none) => { s with drv }
    | (drv, some tcp) => { s with drv, tcpTimeout := tcp.getD s.tcpTimeout }

/-- The attributes `UpdateCTUdpTs` sends for `rule`. -/
def ctAttrs (s : NatApp δ) (rule : NatTableEntry) : CtAttrs :=
  let timeout := if rule.protocol = ipprotoUdp then s.udpTimeout else s.tcpTimeout
  if rule.dstNat then
    ⟨rule.protocol, timeout, rule.targetIp, rule.targetPort, s.pubIpAddr, rule.publicPort⟩
  else
    ⟨rule.protocol, timeout, rule.privateIp, rule.privatePort, rule.targetIp, rule.targetPort⟩

/-- `UpdateCTUdpTs` on `&cache[cnt]`. -/
def updateCTUdpTs (cnt : Nat) (newTs : BitVec 32) (s : NatApp δ) : NatApp δ :=
  match env.ctUpdate s.drv (s.ctAttrs (s.slot cnt)) with
  | (drv, .unavailable) => { s with drv }
  | (drv, .failed) => (deleteEntry env (s.slot cnt) { s with drv }).1
  | (drv, .updated) => { s with drv }.setSlot cnt { s.slot cnt with timestamp := newTs }

/-- A body of `UpdateUDPTimeStamp`'s loop; the flag is its `read_to`. -/
def updateUDPTimeStampBody (s : NatApp δ × Bool) (cnt : Nat) : NatApp δ × Bool :=
  let (s, readTo) := s
  if (s.slot cnt).enabled && (s.slot cnt).privateIp != (s.slot cnt).publicIp then
    match env.queryTimestamp s.drv s.natTableHdl (s.slot cnt).ruleHdl with
    | (drv, none) => ({ s with drv }, readTo)
    | (drv, some ts) =>
      let s := { s with drv }
      if (s.slot cnt).timestamp = ts then (s, readTo)
      else
        let s := if readTo then s else s.readTcpUdpTimeout env
        (s.updateCTUdpTs env cnt ts, true)
  else (s, readTo)

def updateUDPTimeStamp (s : NatApp δ) : NatApp δ :=
  ((List.range s.maxEntries).foldl (updateUDPTimeStampBody env) (s, false)).1

/-! ## Power save -/

/-- A body of `UpdatePwrSaveIf`'s loop over the cache. -/
def updatePwrSaveIfBody (clientLanIp : BitVec 32) (s : NatApp δ) (cnt : Nat) : NatApp δ :=
  if (s.slot cnt).privateIp = clientLanIp ∧ (s.slot cnt).enabled then
    match env.delIpv4Rule s.drv s.natTableHdl (s.slot cnt).ruleHdl with
    | (drv, false) => { s with drv }
    | (drv, true) => { s with drv }.setSlot cnt { s.slot cnt with enabled := false, ruleHdl := 0 }
  else s

/-- Enter an address in the first free slot of `PwrSaveIfs`, if there is one. -/
def listPwrSaveIf (clientLanIp : BitVec 32) (s : NatApp δ) : NatApp δ :=
  match s.pwrSaveIfs.findIdx? (· == 0) with
  | none => s
  | some cnt => { s with pwrSaveIfs := s.pwrSaveIfs.set cnt clientLanIp }

def updatePwrSaveIf (clientLanIp : BitVec 32) (s : NatApp δ) : NatApp δ × Int :=
  if clientLanIp = 0 then (s, -1)
  else if s.pwrSaveIfs.any (· == clientLanIp) then (s, 0)
  else ((s.listPwrSaveIf clientLanIp).forEachSlot (updatePwrSaveIfBody env clientLanIp), 0)

/-- Clear the first slot of `PwrSaveIfs` that holds an address. -/
def unlistPwrSaveIf (clientLanIp : BitVec 32) (s : NatApp δ) : NatApp δ :=
  match s.pwrSaveIfs.findIdx? (· == clientLanIp) with
  | none => s
  | some cnt => { s with pwrSaveIfs := s.pwrSaveIfs.set cnt 0 }

/-- A body of `ResetPwrSaveIf`'s loop over the cache. -/
def resetPwrSaveIfBody (clientLanIp : BitVec 32) (s : NatApp δ) (cnt : Nat) : NatApp δ :=
  if (s.slot cnt).privateIp = clientLanIp ∧ (s.slot cnt).enabled = false then s.restoreSlot env cnt
  else s

def resetPwrSaveIf (clientLanIp : BitVec 32) (s : NatApp δ) : NatApp δ × Int :=
  if clientLanIp = 0 then (s, -1)
  else ((s.unlistPwrSaveIf clientLanIp).forEachSlot (resetPwrSaveIfBody env clientLanIp), -1)

/-! ## Temporary entries -/

def getTableHdl (inIpAddr : BitVec 32) (s : NatApp δ) : BitVec 32 :=
  if inIpAddr = s.pubIpAddr then s.natTableHdl else -1

def addTempEntry (newEntry : NatTableEntry) (s : NatApp δ) : NatApp δ :=
  if s.isAlgPort newEntry.protocol newEntry.privatePort ||
      s.isAlgPort newEntry.protocol newEntry.targetPort then s
  else if s.chkForDup newEntry then s
  else if s.temp.any fun e => e.tuple == newEntry.tuple then s
  else match s.temp.findIdx? fun e => e.privateIp == 0 && e.targetIp == 0 with
    | none => s
    | some cnt => { s with temp := s.temp.set cnt newEntry }

def deleteTempEntry (entry : NatTableEntry) (s : NatApp δ) : NatApp δ :=
  match s.temp.findIdx? fun e => e.tuple == entry.tuple with
  | none => s
  | some cnt => { s with temp := s.temp.set cnt zero }

/-- The dummy rule of a connection outside the NATed interfaces: the public
address and port stand in for the private ones. -/
def dummyEntry (e : NatTableEntry) : NatTableEntry :=
  { e with privateIp := e.publicIp, privatePort := e.publicPort }

/-- A body of `FlushTempEntries`'s loop. -/
def flushTempEntriesBody (ipAddr : BitVec 32) (isAdd isDummy : Bool) (s : NatApp δ) (cnt : Nat) :
    NatApp δ :=
  let e := s.temp.getD cnt zero
  if e.privateIp = ipAddr ∨ e.targetIp = ipAddr then
    if isAdd && e.publicIp == s.pubIpAddr then
      -- the slot is rewritten before the call that may fail
      let e := if isDummy then dummyEntry e else e
      let s := { s with temp := s.temp.set cnt e }
      let (s, ret) := s.addEntry env e
      if ret ≠ 0 then s else { s with temp := s.temp.set cnt zero }
    else { s with temp := s.temp.set cnt zero }
  else s

def flushTempEntries (ipAddr : BitVec 32) (isAdd isDummy : Bool) (s : NatApp δ) : NatApp δ :=
  (List.range maxTempEntries).foldl (flushTempEntriesBody env ipAddr isAdd isDummy) s

/-! ## Clients that leave -/

/-- A body of `DelEntriesOnClntDiscon`'s loop over the cache. -/
def delEntriesOnClntDisconBody (ipAddr : BitVec 32) (s : NatApp δ) (cnt : Nat) : NatApp δ :=
  if (s.slot cnt).privateIp = ipAddr ∧ (s.slot cnt).enabled then
    match env.delIpv4Rule s.drv s.natTableHdl (s.slot cnt).ruleHdl with
    | (drv, false) => { s with drv }
    | (drv, true) => { s with drv }.setSlot cnt { s.slot cnt with enabled := false }
  else s

def delEntriesOnClntDiscon (ipAddr : BitVec 32) (s : NatApp δ) : NatApp δ × Int :=
  if ipAddr = 0 then (s, -1)
  else ((s.unlistPwrSaveIf ipAddr).forEachSlot (delEntriesOnClntDisconBody env ipAddr), 0)

/-- A body of `DelEntriesOnSTAClntDiscon`'s loop. -/
def delEntriesOnSTAClntDisconBody (ipAddr : BitVec 32) (s : NatApp δ) (cnt : Nat) : NatApp δ :=
  if (s.slot cnt).targetIp = ipAddr then
    if (s.slot cnt).enabled then
      match env.delIpv4Rule s.drv s.natTableHdl (s.slot cnt).ruleHdl with
      | (drv, false) => { s with drv }
      | (drv, true) => { s with drv }.clearSlot cnt
    else s.clearSlot cnt
  else s

def delEntriesOnSTAClntDiscon (ipAddr : BitVec 32) (s : NatApp δ) : NatApp δ × Int :=
  if ipAddr = 0 then (s, -1)
  else (s.forEachSlot (delEntriesOnSTAClntDisconBody env ipAddr), 0)

end NatApp

/-! ## Operations -/

/-- The calls into the object. -/
inductive NatOp
  | addTable (pubIp : BitVec 32)
  | deleteTable (pubIp : BitVec 32)
  | addEntry (rule : NatTableEntry)
  | cacheEntry (rule : NatTableEntry)
  | deleteEntry (rule : NatTableEntry)
  | updateUDPTimeStamp
  | updatePwrSaveIf (clientLanIp : BitVec 32)
  | resetPwrSaveIf (clientLanIp : BitVec 32)
  | addTempEntry (newEntry : NatTableEntry)
  | deleteTempEntry (entry : NatTableEntry)
  | flushTempEntries (ipAddr : BitVec 32) (isAdd isDummy : Bool)
  | delEntriesOnClntDiscon (ipAddr : BitVec 32)
  | delEntriesOnSTAClntDiscon (ipAddr : BitVec 32)
  deriving DecidableEq, Repr

/-- One call; a return value no caller looks at is dropped. -/
def NatApp.step {δ : Type} (env : NatEnv δ) (s : NatApp δ) : NatOp → NatApp δ
  | .addTable pubIp => (s.addTable env pubIp).1
  | .deleteTable pubIp => (s.deleteTable env pubIp).1
  | .addEntry rule => (s.addEntry env rule).1
  | .cacheEntry rule => s.cacheEntry rule
  | .deleteEntry rule => (s.deleteEntry env rule).1
  | .updateUDPTimeStamp => s.updateUDPTimeStamp env
  | .updatePwrSaveIf ip => (s.updatePwrSaveIf env ip).1
  | .resetPwrSaveIf ip => (s.resetPwrSaveIf env ip).1
  | .addTempEntry e => s.addTempEntry e
  | .deleteTempEntry e => s.deleteTempEntry e
  | .flushTempEntries ip isAdd isDummy => s.flushTempEntries env ip isAdd isDummy
  | .delEntriesOnClntDiscon ip => (s.delEntriesOnClntDiscon env ip).1
  | .delEntriesOnSTAClntDiscon ip => (s.delEntriesOnSTAClntDiscon env ip).1

/-- A run of calls from `s`. -/
def NatApp.run {δ : Type} (env : NatEnv δ) (s : NatApp δ) (ops : List NatOp) : NatApp δ :=
  ops.foldl (NatApp.step env) s

end HiaeCommon
