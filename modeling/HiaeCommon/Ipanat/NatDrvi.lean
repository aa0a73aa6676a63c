/-
The NAT driver (`ipanat/src/ipa_nat_drvi.c`): adding a rule to a table and
deleting one. A call ends `Stuck`, or with the table after it and what it
returns. The system calls it makes are parameters: `AddCalls`, `DelCalls`.
-/
import HiaeCommon.Ipanat.NatTable

namespace HiaeCommon

open Function (update)

/-! ## Hashes and checksums -/

/-- `dst_hash`, the base slot a rule belongs to; `size` is `table_entries - 1`. -/
def dstHash (trgtIp : BitVec 32) (trgtPort publicPort : BitVec 16) (proto : BitVec 8) (size : BitVec 16) : BitVec 16 :=
  let hash := trgtIp.setWidth 16 ^^^ (trgtIp >>> 16).setWidth 16 ^^^ trgtPort ^^^ publicPort ^^^ proto.setWidth 16
  let hash := hash &&& size
  if hash = 0 then size else hash

/-- `src_hash`, the base slot of its index entry. -/
def srcHash (privIp : BitVec 32) (privPort : BitVec 16) (trgtIp : BitVec 32) (trgtPort : BitVec 16)
    (proto : BitVec 8) (size : BitVec 16) : BitVec 16 :=
  let hash := privIp.setWidth 16 ^^^ (privIp >>> 16).setWidth 16 ^^^ privPort ^^^
    trgtIp.setWidth 16 ^^^ (trgtIp >>> 16).setWidth 16 ^^^ trgtPort ^^^ proto.setWidth 16
  let hash := hash &&& size
  if hash = 0 then size else hash

/-- The carry of a sum is added back in. -/
def foldCarry (cksum : Nat) : Nat := if cksum / 2 ^ 16 ≠ 0 then cksum % 2 ^ 16 + 1 else cksum

/-- `ipa_nati_calc_ip_cksum`. -/
def calcIpCksum (pubIpAddr privIpAddr : BitVec 32) : BitVec 16 :=
  let cksum := foldCarry (pubIpAddr.toNat % 2 ^ 16 + pubIpAddr.toNat / 2 ^ 16)
  let privIpAddr := ~~~privIpAddr
  let cksum := foldCarry (cksum + privIpAddr.toNat % 2 ^ 16)
  let cksum := foldCarry (cksum + privIpAddr.toNat / 2 ^ 16)
  BitVec.ofNat 16 cksum

/-- `ipa_nati_calc_tcp_udp_cksum`. -/
def calcTcpUdpCksum (pubIpAddr : BitVec 32) (pubPort : BitVec 16) (privIpAddr : BitVec 32)
    (privPort : BitVec 16) : BitVec 16 :=
  let cksum := foldCarry (pubIpAddr.toNat % 2 ^ 16 + pubIpAddr.toNat / 2 ^ 16)
  let cksum := foldCarry (cksum + pubPort.toNat)
  let privIpAddr := ~~~privIpAddr
  let cksum := foldCarry (cksum + privIpAddr.toNat % 2 ^ 16)
  let cksum := foldCarry (cksum + privIpAddr.toNat / 2 ^ 16)
  let privPort := ~~~privPort
  let cksum := foldCarry (cksum + privPort.toNat)
  BitVec.ofNat 16 cksum

/-- How posting one DMA ends. -/
inductive DmaOutcome
  | noMem | ioError | done
  deriving DecidableEq, Repr

/-- The system calls of `ipa_nati_add_ipv4_rule`: the DMA that links the rule,
the one that links its index entry, and the one that enables it. -/
structure AddCalls where
  linkRule : DmaOutcome := .done
  linkIndex : DmaOutcome := .done
  enable : DmaOutcome := .done
  deriving DecidableEq, Repr

/-- The system calls of `ipa_nati_del_ipv4_rule`: the mutex, the memory of the
DMA list and of `ReorderCmds`, and the `ioctl`. `false` is a failure. -/
structure DelCalls where
  lock : Bool := true
  cmdMem : Bool := true
  reorderMem : Bool := true
  ioctl : Bool := true
  unlock : Bool := true
  deriving DecidableEq, Repr

namespace Ip4TableCache

variable (s : Ip4TableCache)

/-- The `size` handed to the hashes. -/
def hashSize : BitVec 16 := BitVec.ofNat 16 (sub16 s.tableEntries 1)

/-- The base slot of a rule, and of its index entry. -/
def dstSlot (r : IpaNatIpv4Rule) : Nat :=
  (dstHash r.targetIp r.targetPort r.publicPort r.protocol s.hashSize).toNat

def srcSlot (r : IpaNatIpv4Rule) : Nat :=
  (srcHash r.privateIp r.privatePort r.targetIp r.targetPort r.protocol s.hashSize).toNat

/-! ## Adding a rule -/

/-- `ipa_nati_expn_tbl_free_entry`. -/
def expnTblFreeEntry : Nat :=
  ((List.range' 1 (s.expnTableEntries - 1)).find? fun cnt => !(s.rules (s.tableEntries + cnt)).enable).getD 0

/-- `ipa_nati_index_expn_get_free_entry`. -/
def indexExpnGetFreeEntry : Nat :=
  ((List.range' 1 (s.expnTableEntries - 1)).find? fun cnt => (s.index (s.tableEntries + cnt)).tblEntry == 0).getD 0

/-- The `while` loop that looks for the end of a chain: the last slot, or
`none` where a slot is its own successor. `read` is `next_index` of an
expansion entry. There are fewer slots than rounds: a loop that takes them all
never ends. -/
def lastEntry (read : Nat → Except Stuck Nat) : Nat → Nat → Nat → Except Stuck (Option Nat)
  | 0, _, _ => .error .diverges
  | rounds + 1, prev, nxtIndx =>
    if nxtIndx = ipaNatInvalidNatEntry then .ok (some prev) else do
      let nxt ← read (sub16 nxtIndx s.tableEntries)
      if nxtIndx = nxt then .ok none else lastEntry read rounds nxtIndx nxt

/-- `next_index` of an entry of the expansion table, and of the index expansion table. -/
def readNext (i : Nat) : Except Stuck Nat := (·.nextIndex) <$> s.ruleAt (s.tableEntries + i)
def readIndexNext (i : Nat) : Except Stuck Nat := (·.nextIndex) <$> s.indexAt (s.tableEntries + i)

/-- The last slot of the chain of the base slot `head`, whose `next_index` is `nxtIndx`. -/
def chainEnd (read : Nat → Except Stuck Nat) (head nxtIndx : Nat) : Except Stuck (Option Nat) :=
  if nxtIndx = ipaNatInvalidNatEntry then .ok (some head) else s.lastEntry read (2 ^ 16) 0 nxtIndx

/-- The record `ipa_nati_generate_tbl_rule` fills in before it looks for a slot. -/
def swRule (clntRule : IpaNatIpv4Rule) : NatRule where
  privateIp := clntRule.privateIp
  privatePort := clntRule.privatePort
  protocol := clntRule.protocol
  publicPort := clntRule.publicPort
  targetIp := clntRule.targetIp
  targetPort := clntRule.targetPort
  ipChksum := calcIpCksum s.publicAddr clntRule.privateIp
  tcpUdpChksum :=
    if clntRule.protocol = ipprotoTcp ∨ clntRule.protocol = ipprotoUdp then
      calcTcpUdpCksum s.publicAddr clntRule.publicPort clntRule.privateIp clntRule.privatePort
    else 0

/-- `ipa_nati_generate_tbl_rule`: the record and its slot, 0 if there is none. -/
def generateTblRule (clntRule : IpaNatIpv4Rule) : Except Stuck (NatRule × Nat) := do
  let swRule := s.swRule clntRule
  let newEntry := s.dstSlot clntRule
  let head ← s.ruleAt newEntry
  -- no collision
  if !head.enable then return (swRule, newEntry)
  let prev ← s.chainEnd s.readNext newEntry head.nextIndex
  match prev with
  | none => return (swRule, ipaNatInvalidNatEntry)
  | some prev =>
    let swRule := { swRule with prevIndex := prev }
    let newEntry := s.expnTblFreeEntry
    if newEntry = ipaNatInvalidNatEntry then return (swRule, ipaNatInvalidNatEntry)
    return (swRule, u16 (newEntry + s.tableEntries))

/-- `ipa_nati_generate_index_rule`. -/
def generateIndexRule (clntRule : IpaNatIpv4Rule) (swRule : IndxTblSwRule) : Except Stuck (IndxTblSwRule × Nat) := do
  let newEntry := s.srcSlot clntRule
  let head ← s.indexAt newEntry
  if head.tblEntry = 0 then return ({ swRule with prevIndex := 0 }, newEntry)
  let prev ← s.chainEnd s.readIndexNext newEntry head.nextIndex
  match prev with
  | none => return (swRule, ipaNatInvalidNatEntry)
  | some prev =>
    let swRule := { swRule with prevIndex := prev }
    let newEntry := s.indexExpnGetFreeEntry
    if newEntry = ipaNatInvalidNatEntry then return (swRule, ipaNatInvalidNatEntry)
    let newEntry := u16 (newEntry + s.tableEntries)
    if prev = newEntry then return (swRule, ipaNatInvalidNatEntry)
    return (swRule, newEntry)

/-- `prev_index` of an index entry in the expansion table is kept in `index_expn_table_meta`. -/
def notePrevIndex (indxTblEntry prevIndex : Nat) : Except Stuck Ip4TableCache :=
  if indxTblEntry ≥ s.tableEntries then s.writeMeta (sub16 indxTblEntry s.tableEntries) prevIndex else .ok s

/-- `ipa_nati_generate_rule`: both records and their slots. -/
def generateRule (clntRule : IpaNatIpv4Rule) :
    Except Stuck (Ip4TableCache × Except Errno (NatRule × IndxTblSwRule × Nat × Nat)) := do
  let (rule, tblEntry) ← s.generateTblRule clntRule
  if tblEntry = ipaNatInvalidNatEntry then return (s, .error .einval)
  let (indexSwRule, indxTblEntry) ← s.generateIndexRule clntRule { tblEntry := tblEntry }
  if indxTblEntry = ipaNatInvalidNatEntry then return (s, .error .einval)
  let rule := { rule with indxTblEntry := indxTblEntry }
  let s ← s.notePrevIndex indxTblEntry indexSwRule.prevIndex
  return (s, .ok (rule, indexSwRule, tblEntry, indxTblEntry))

/-- `ipa_nati_write_next_index`. A failure is logged and no more. -/
def writeNextIndex (tblType : NatTableType) (value offset : Nat) (call : DmaOutcome) : Except Stuck Ip4TableCache :=
  match call with
  | .noMem | .ioError => .ok s
  | .done => s.dmaOne ⟨tblType, value, offset⟩

/-- The table a slot is in, of a base table and its expansion table, and its entry number there. -/
def tblOf (base expn : NatTableType) (i : Nat) : NatTableType × Nat :=
  if i < s.tableEntries then (base, i) else (expn, sub16 i s.tableEntries)

/-- `ipa_nati_copy_ipv4_rule_to_hw`. -/
def copyIpv4RuleToHw (rule : NatRule) (entry : Nat) (call : DmaOutcome) : Except Stuck Ip4TableCache := do
  let s ← s.writeRule entry rule
  let prevEntry := rule.prevIndex
  if prevEntry = ipaNatInvalidNatEntry then return s
  let prev := s.tblOf .baseTbl .expnTbl prevEntry
  let offset := s.getEntryOffset prev.2 + ipaNatRuleNextFieldOffset
  s.writeNextIndex prev.1 entry offset call

/-- `ipa_nati_copy_ipv4_index_rule_to_hw`, whose `offset` is a `uint16_t`. -/
def copyIpv4IndexRuleToHw (indxSwRule : IndxTblSwRule) (entry : Nat) (call : DmaOutcome) :
    Except Stuck Ip4TableCache := do
  let s ← s.writeIndex entry ⟨indxSwRule.tblEntry, indxSwRule.nextIndex⟩
  let prevEntry := indxSwRule.prevIndex
  if prevEntry = ipaNatInvalidNatEntry then return s
  let prev := s.tblOf .indxTbl .indexExpnTbl prevEntry
  let offset := u16 (s.getIndexEntryOffset prev.2)
  let offset := u16 (offset + ipaNatIndexRuleNextFieldOffset)
  s.writeNextIndex prev.1 entry offset call

/-- `ipa_nati_post_ipv4_dma_cmd`, which enables the rule. -/
def postIpv4DmaCmd (entry : Nat) (call : DmaOutcome) : Except Stuck (Ip4TableCache × Except Errno Unit) :=
  match call with
  | .noMem => .ok (s, .error .enomem)
  | .ioError => .ok (s, .error .eio)
  | .done => do
    let cmd : DmaOne :=
      if entry < s.tableEntries then
        ⟨.baseTbl, ipaNatFlagEnableBitMask, ipaNatTableEntrySize * entry + ipaNatRuleFlagFieldOffset⟩
      else
        ⟨.expnTbl, ipaNatFlagEnableBitMask, ipaNatTableEntrySize * sub16 entry s.tableEntries +
          ipaNatRuleFlagFieldOffset + s.tblAddrOffset⟩
    let s ← s.dmaOne cmd
    return (s, .ok ())

/-- The entry of `rule_id_array` for a slot: the entry number shifted by one, and the table in bit 0. -/
def ruleId (tblEntry : Nat) : Nat :=
  if tblEntry ≥ s.tableEntries then u16 (2 * sub16 tblEntry s.tableEntries) + 1 else u16 (2 * tblEntry)

/-- The counter of its table goes up with a rule; nothing brings it down. -/
def countRule (tblEntry : Nat) : Ip4TableCache :=
  if tblEntry ≥ s.tableEntries then { s with curExpnTblCnt := u16 (s.curExpnTblCnt + 1) }
  else { s with curTblCnt := u16 (s.curTblCnt + 1) }

/-- `ipa_nati_make_rule_hdl`: the handle, 0 if there is none. -/
def makeRuleHdl (tblEntry : Nat) : Ip4TableCache × Nat :=
  match (List.range s.slots).find? fun cnt => s.ruleIdArray cnt == ipaNatInvalidNatEntry with
  | some cnt => ((s.countRule tblEntry).setRuleId cnt (s.ruleId tblEntry), u16 (cnt + 1))
  | none => (s.countRule tblEntry, 0)

/-- `ipa_nati_add_ipv4_rule`. -/
def addIpv4Rule (clntRule : IpaNatIpv4Rule) (calls : AddCalls) : Except Stuck (Ip4TableCache × Except Errno Nat) := do
  let (s, gen) ← s.generateRule clntRule
  match gen with
  | .error _ => return (s, .error .einval)
  | .ok (swRule, indexSwRule, newEntry, newIndexTblEntry) =>
    let s ← s.copyIpv4RuleToHw swRule newEntry calls.linkRule
    let s ← s.copyIpv4IndexRuleToHw indexSwRule newIndexTblEntry calls.linkIndex
    let (s, posted) ← s.postIpv4DmaCmd newEntry calls.enable
    match posted with
    | .error _ => return (s, .error .eio)
    | .ok () =>
      let (s, ruleHdl) := s.makeRuleHdl newEntry
      if ruleHdl = 0 then return (s, .error .einval)
      return (s, .ok ruleHdl)

/-! ## Deleting a rule -/

/-- `ipa_nati_parse_ipv4_rule_hdl`: the table and the entry, 0 if the handle has none. -/
def parseIpv4RuleHdl (ruleHdl : Nat) : Except Stuck (Bool × Nat) :=
  if ruleHdl ≥ s.slots then .ok (false, ipaNatInvalidNatEntry)
  -- `rule_id_array[-1]`
  else if ruleHdl = 0 then .error .outOfBounds
  else do
    let ruleId ← s.ruleIdAt (ruleHdl - 1)
    return (ruleId % 2 == 1, ruleId / 2)

/-- `ipa_nati_find_rule_pos`. -/
def findRulePos (expnTbl : Bool) (tblEntry : Nat) : Except Stuck DelType := do
  let rule ← s.ruleAt (s.slot expnTbl tblEntry)
  if expnTbl then
    return if rule.nextIndex = ipaNatInvalidNatEntry then .last else .middle
  else
    return if rule.nextIndex = ipaNatInvalidNatEntry then .onlyOne else .head

/-- `ipa_nati_find_index_rule_pos`. -/
def findIndexRulePos (tblEntry : Nat) : Except Stuck DelType :=
  if tblEntry ≥ s.tableEntries then do
    let e ← s.indexAt (s.tableEntries + sub16 tblEntry s.tableEntries)
    return if e.nextIndex = ipaNatInvalidNatEntry then .last else .middle
  else do
    let e ← s.indexAt tblEntry
    return if e.nextIndex = ipaNatInvalidNatEntry then .onlyOne else .head

/-- The command that writes `data` to `next_index` of the slot `prevEntry`. -/
def linkCmd (prevEntry data : Nat) : DmaOne :=
  if prevEntry ≥ s.tableEntries then
    ⟨.expnTbl, data, s.getEntryOffset (sub16 prevEntry s.tableEntries) + ipaNatRuleNextFieldOffset⟩
  else ⟨.baseTbl, data, s.getEntryOffset prevEntry + ipaNatRuleNextFieldOffset⟩

/-- The same in the index table. -/
def indexLinkCmd (prevEntry data : Nat) : DmaOne :=
  if prevEntry ≥ s.tableEntries then
    ⟨.indexExpnTbl, data, s.getIndexEntryOffset (sub16 prevEntry s.tableEntries) + ipaNatIndexRuleNextFieldOffset⟩
  else ⟨.indxTbl, data, s.getIndexEntryOffset prevEntry + ipaNatIndexRuleNextFieldOffset⟩

/-- `ipa_nati_post_del_dma_cmd`, "Base Table rule Deletion". -/
def delRuleCmd (curTblEntry : Nat) (rule : NatRule) : DelType → DmaOne
  | .onlyOne => ⟨.baseTbl, ipaNatFlagDisableBitMask, s.getEntryOffset curTblEntry + ipaNatRuleFlagFieldOffset⟩
  | .head => ⟨.baseTbl, ipaNatInvalidProtoFieldValue, s.getEntryOffset curTblEntry + ipaNatRuleProtoFieldOffset⟩
  | .middle => s.linkCmd rule.prevIndex rule.nextIndex
  | .last => s.linkCmd rule.prevIndex ipaNatInvalidNatEntry

/-- `ipa_nati_post_del_dma_cmd`, "Index Table rule Deletion"; `indxTblEntry` is a slot number. -/
def delIndexCmds (indxTblEntry : Nat) : DelType → Except Stuck (List DmaOne)
  | .onlyOne => .ok [⟨.indxTbl, ipaNatInvalidNatEntry,
      s.getIndexEntryOffset indxTblEntry + ipaNatIndexRuleNatIndexFieldOffset⟩]
  -- the next entry moves up
  | .head => do
    let cur ← s.indexAt indxTblEntry
    let next ← s.indexAt (s.tableEntries + sub16 cur.nextIndex s.tableEntries)
    return [⟨.indxTbl, next.tblEntry, s.getIndexEntryOffset indxTblEntry + ipaNatIndexRuleNatIndexFieldOffset⟩,
      ⟨.indxTbl, next.nextIndex, s.getIndexEntryOffset indxTblEntry + ipaNatIndexRuleNextFieldOffset⟩]
  | .middle => do
    let prevEntry ← s.metaAt (sub16 indxTblEntry s.tableEntries)
    let cur ← s.indexAt (s.tableEntries + sub16 indxTblEntry s.tableEntries)
    return [s.indexLinkCmd prevEntry cur.nextIndex]
  | .last => do
    let prevEntry ← s.metaAt (sub16 indxTblEntry s.tableEntries)
    return [s.indexLinkCmd prevEntry ipaNatInvalidNatEntry]

/-- `ReorderCmds`: the index commands first, unless its `malloc` fails. -/
def reorderCmds (cmds : List DmaOne) (mem : Bool) : List DmaOne :=
  let indxTblStart :=
    (cmds.findIdx? fun d => d.baseAddr == .indxTbl || d.baseAddr == .indexExpnTbl).getD 0
  if indxTblStart = 0 || !mem then cmds else cmds.drop indxTblStart ++ cmds.take indxTblStart

/-- `ipa_nati_post_del_dma_cmd` after the `ioctl`: the rule behind one in the
middle of a chain is told of the rule before. -/
def delUpdatePrev (cur : Nat) (rulePos : DelType) : Except Stuck Ip4TableCache :=
  if rulePos = .middle then do
    let rule ← s.ruleAt cur
    let nextEntry := sub16 rule.nextIndex s.tableEntries
    let next ← s.ruleAt (s.tableEntries + nextEntry)
    s.writeRule (s.tableEntries + nextEntry) (next.updatePrevIndex rule.prevIndex)
  else .ok s

/-- The record is cleared, unless it stays as a dead head. -/
def delClearRule (cur : Nat) (rulePos : DelType) : Except Stuck Ip4TableCache :=
  if rulePos = .head then .ok s else s.writeRule cur .zero

/-- The index entry behind the one that moved up is told of the base entry. -/
def delUpdateNextMeta (indxTblEntry nextIndex : Nat) : Except Stuck Ip4TableCache :=
  if nextIndex ≠ 0 ∧ nextIndex ≥ s.tableEntries then s.writeMeta (sub16 nextIndex s.tableEntries) indxTblEntry
  else .ok s

/-- The head of an index chain: the entry behind it, which moved up, is
cleared, and its rule is told where its index entry is now. `indxNextEntry` is
that entry of the expansion table. -/
def delIndexHead (indxTblEntry indxNextEntry : Nat) : Except Stuck Ip4TableCache := do
  let next ← s.indexAt (s.tableEntries + indxNextEntry)
  let s ← s.delUpdateNextMeta indxTblEntry next.nextIndex
  let s ← s.writeIndex (s.tableEntries + indxNextEntry) {}
  let cur ← s.indexAt indxTblEntry
  let tableEntry :=
    if cur.tblEntry ≥ s.tableEntries then s.tableEntries + sub16 cur.tblEntry s.tableEntries else cur.tblEntry
  let rule ← s.ruleAt tableEntry
  s.writeRule tableEntry (rule.updateIndxTblEntry indxTblEntry)

/-- The entry behind one in the middle of an index chain is told of the entry before. -/
def delMoveMeta (entry : Nat) (indxRulePos : DelType) : Except Stuck Ip4TableCache :=
  if indxRulePos = .middle then do
    let cur ← s.indexAt (s.tableEntries + entry)
    let nextEntry := if cur.nextIndex ≥ s.tableEntries then sub16 cur.nextIndex s.tableEntries else cur.nextIndex
    let prev ← s.metaAt entry
    let s ← s.writeMeta nextEntry prev
    s.writeMeta entry ipaNatInvalidNatEntry
  else .ok s

/-- `ipa_nati_post_del_dma_cmd` after the `ioctl`: the index entry. -/
def delIndexUpdate (indxTblEntry indxNextEntry : Nat) (indxRulePos : DelType) : Except Stuck Ip4TableCache :=
  if indxRulePos = .head then s.delIndexHead indxTblEntry indxNextEntry
  else do
    let entry := sub16 indxTblEntry s.tableEntries
    let s ← s.delMoveMeta entry indxRulePos
    s.writeIndex (if indxTblEntry ≥ s.tableEntries then s.tableEntries + entry else indxTblEntry) {}

/-- The entry of the expansion table behind the head of an index chain. -/
def indxNextEntry (indxTblEntry : Nat) (indxRulePos : DelType) : Except Stuck Nat :=
  if indxRulePos = .head then (fun e => sub16 e.nextIndex s.tableEntries) <$> s.indexAt indxTblEntry else .ok 0

/-- `ipa_nati_post_del_dma_cmd`. -/
def postDelDmaCmd (curTblEntry : Nat) (expnTbl : Bool) (rulePos : DelType) (calls : DelCalls) :
    Except Stuck (Ip4TableCache × Except Errno Unit) := do
  if !calls.cmdMem then return (s, .error .enomem)
  let cur := s.slot expnTbl curTblEntry
  let rule ← s.ruleAt cur
  if !rule.enable then return (s, .error .einval)
  let ruleCmd := s.delRuleCmd curTblEntry rule rulePos
  let indxRulePos ← s.findIndexRulePos rule.indxTblEntry
  let indexCmds ← s.delIndexCmds rule.indxTblEntry indxRulePos
  let indxNextEntry ← s.indxNextEntry rule.indxTblEntry indxRulePos
  if !calls.ioctl then return (s, .error .eio)
  let s ← s.dma (reorderCmds (ruleCmd :: indexCmds) calls.reorderMem)
  let s ← s.delUpdatePrev cur rulePos
  let s ← s.delClearRule cur rulePos
  let s ← s.delIndexUpdate rule.indxTblEntry indxNextEntry indxRulePos
  return (s, .ok ())

/-- The body of the loop of `ipa_nati_del_dead_ipv4_head_nodes`. -/
def delDeadHead (cnt : Nat) : Ip4TableCache :=
  if (s.rules cnt).protocol = ipaNatInvalidProtoFieldCmp ∧ (s.rules cnt).nextIndex = ipaNatInvalidNatEntry then
    s.setRule cnt .zero
  else s

/-- `ipa_nati_del_dead_ipv4_head_nodes`. -/
def delDeadIpv4HeadNodes : Ip4TableCache := (List.range s.tableEntries).foldl delDeadHead s

/-- `ipa_nati_del_ipv4_rule`. The handle is parsed by its low 16 bits and cleared by all 32. -/
def delIpv4Rule (ruleHdl : Nat) (calls : DelCalls) : Except Stuck (Ip4TableCache × Except Errno Unit) := do
  let (expnTbl, tblEntry) ← s.parseIpv4RuleHdl (u16 ruleHdl)
  if tblEntry = ipaNatInvalidNatEntry then return (s, .error .einval)
  if !calls.lock then return (s, .error .mutex)
  if !s.valid then return (s, .error .einval)
  let rulePos ← s.findRulePos expnTbl tblEntry
  let (s, posted) ← s.postDelDmaCmd tblEntry expnTbl rulePos calls
  match posted with
  | .error _ => return (s, .error .einval)
  | .ok () =>
    let s := s.delDeadIpv4HeadNodes
    let s ← s.writeRuleId (ruleHdl - 1) ipaNatInvalidNatEntry
    if !calls.unlock then return (s, .error .mutex)
    return (s, .ok ())

end Ip4TableCache
end HiaeCommon
