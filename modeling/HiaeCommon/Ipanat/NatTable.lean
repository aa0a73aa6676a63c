/-
The IPv4 NAT table of the driver (`ipanat/src/ipa_nat_drvi.c`): the records
the hardware reads, the driver's private arrays next to them, and every way
a byte of the shared part is read or written.

A slot number runs through a base table and its expansion table, which
follows it in memory: slot `i` is base entry `i` if `i < tableEntries`, else
expansion entry `i - tableEntries`; `next_index`, `prev_index`,
`indx_tbl_entry` and `tbl_entry` hold slot numbers. A `uint16_t` is a `Nat`
with its wrap-around written out; what no code computes with stays a `BitVec`.
-/
import HiaeCommon.Ipanat.NatDrv
import Mathlib.Algebra.Group.Nat.Defs
import Mathlib.Logic.Function.Basic

namespace HiaeCommon

open Function (update)

/-- `IPA_NAT_TABLE_ENTRY_SIZE` and `IPA_NAT_INDEX_TABLE_ENTRY_SIZE`. -/
def ipaNatTableEntrySize : Nat := 32
def ipaNatIndexTableEntrySize : Nat := 4
/-- The field offsets the driver writes at. -/
def ipaNatRuleFlagFieldOffset : Nat := 18
def ipaNatRuleNextFieldOffset : Nat := 8
def ipaNatRuleProtoFieldOffset : Nat := 22
def ipaNatIndexRuleNextFieldOffset : Nat := 2
def ipaNatIndexRuleNatIndexFieldOffset : Nat := 0
/-- The values it writes there. -/
def ipaNatFlagEnableBitMask : Nat := 0x8000
def ipaNatFlagDisableBitMask : Nat := 0x0000
def ipaNatInvalidProtoFieldValue : Nat := 0xFF00
def ipaNatInvalidProtoFieldCmp : BitVec 8 := 0xFF
/-- `IPA_NAT_INVALID_NAT_ENTRY`. -/
def ipaNatInvalidNatEntry : Nat := 0

/-- The value of a `uint16_t` assigned `n`. -/
def u16 (n : Nat) : Nat := n % 2 ^ 16

/-- `a -= b` on `uint16_t`. -/
def sub16 (a b : Nat) : Nat := u16 (a + 2 ^ 16 - b)

theorem u16_of_lt {n : Nat} (h : n < 2 ^ 16) : u16 n = n := Nat.mod_eq_of_lt h

theorem sub16_of_le {a b : Nat} (hb : b ≤ a) (ha : a < 2 ^ 16) : sub16 a b = a - b := by
  unfold sub16 u16
  omega

/-! ## Records -/

/-- `ipa_nat_rule`, by the fields of `ipa_nat_sw_rule`. -/
structure NatRule where
  privateIp : BitVec 32 := 0
  targetIp : BitVec 32 := 0
  nextIndex : Nat := 0
  publicPort : BitVec 16 := 0
  privatePort : BitVec 16 := 0
  targetPort : BitVec 16 := 0
  ipChksum : BitVec 16 := 0
  rsvd1 : BitVec 14 := 0
  redirect : Bool := false
  enable : Bool := false
  timeStamp : BitVec 24 := 0
  protocol : BitVec 8 := 0
  prevIndex : Nat := 0
  indxTblEntry : Nat := 0
  rsvd2 : BitVec 16 := 0
  tcpUdpChksum : BitVec 16 := 0
  deriving DecidableEq, Repr

namespace NatRule

/-- What `memset(&tbl_ptr[entry], 0, …)` leaves. -/
def zero : NatRule := {}

/-- The low, or the high, half of a 32-bit field is overwritten. -/
def setLow (w : BitVec 32) (data : Nat) : BitVec 32 := (w &&& 0xFFFF0000#32) ||| BitVec.ofNat 32 (data % 2 ^ 16)
def setHigh (w : BitVec 32) (data : Nat) : BitVec 32 :=
  (w &&& 0x0000FFFF#32) ||| BitVec.ofNat 32 (data % 2 ^ 16) <<< 16

/-- Sixteen bits written at half-word `half` of the record, byte offset `2 * half`. -/
def write16 (r : NatRule) (half data : Nat) : NatRule :=
  match half with
  | 0 => { r with privateIp := setLow r.privateIp data }
  | 1 => { r with privateIp := setHigh r.privateIp data }
  | 2 => { r with targetIp := setLow r.targetIp data }
  | 3 => { r with targetIp := setHigh r.targetIp data }
  | 4 => { r with nextIndex := u16 data }
  | 5 => { r with publicPort := BitVec.ofNat 16 data }
  | 6 => { r with privatePort := BitVec.ofNat 16 data }
  | 7 => { r with targetPort := BitVec.ofNat 16 data }
  | 8 => { r with ipChksum := BitVec.ofNat 16 data }
  | 9 => { r with rsvd1 := BitVec.ofNat 14 data, redirect := data.testBit 14, enable := data.testBit 15 }
  | 10 => { r with timeStamp := (r.timeStamp &&& 0xFF0000#24) ||| BitVec.ofNat 24 (data % 2 ^ 16) }
  -- the high byte of the time stamp and the protocol
  | 11 => { r with
      timeStamp := (r.timeStamp &&& 0x00FFFF#24) ||| BitVec.ofNat 24 (data % 2 ^ 8) <<< 16
      protocol := BitVec.ofNat 8 (data / 2 ^ 8) }
  | 12 => { r with prevIndex := u16 data }
  | 13 => { r with indxTblEntry := u16 data }
  | 14 => { r with rsvd2 := BitVec.ofNat 16 data }
  | _ => { r with tcpUdpChksum := BitVec.ofNat 16 data }

/-- `UpdateSwSpecParams` with `IPA_NAT_SW_PARAM_PREV_INDX_BYTE`. -/
def updatePrevIndex (r : NatRule) (value : Nat) : NatRule := { r with prevIndex := u16 value }

/-- `UpdateSwSpecParams` with `IPA_NAT_SW_PARAM_INDX_TBL_ENTRY_BYTE`. -/
def updateIndxTblEntry (r : NatRule) (value : Nat) : NatRule := { r with indxTblEntry := u16 value }

/-- The client rule a record stands for. -/
def clntRule (r : NatRule) : IpaNatIpv4Rule where
  targetIp := r.targetIp
  privateIp := r.privateIp
  targetPort := r.targetPort
  privatePort := r.privatePort
  publicPort := r.publicPort
  protocol := r.protocol

end NatRule

/-- `ipa_nat_indx_tbl_rule`, by the fields of `ipa_nat_sw_indx_tbl_rule`. -/
structure IndxTblRule where
  tblEntry : Nat := 0
  nextIndex : Nat := 0
  deriving DecidableEq, Repr

/-- Sixteen bits written at byte offset `2 * half` of an index entry. -/
def IndxTblRule.write16 (e : IndxTblRule) (half data : Nat) : IndxTblRule :=
  match half with
  | 0 => { e with tblEntry := u16 data }
  | _ => { e with nextIndex := u16 data }

/-- `ipa_nat_indx_tbl_sw_rule`. -/
structure IndxTblSwRule where
  tblEntry : Nat := 0
  nextIndex : Nat := 0
  prevIndex : Nat := 0
  deriving DecidableEq, Repr

/-- `nat_table_type`. -/
inductive NatTableType
  | baseTbl | expnTbl | indxTbl | indexExpnTbl
  deriving DecidableEq, Repr

/-- `del_type`. -/
inductive DelType
  | onlyOne | head | middle | last
  deriving DecidableEq, Repr

/-- `ipa_ioc_nat_dma_one`; `table_index` is the index of the one table there is. -/
structure DmaOne where
  baseAddr : NatTableType
  data : Nat
  offset : Nat
  deriving DecidableEq, Repr

/-- What the hardware reads. -/
structure SharedTables where
  rules : Nat → NatRule
  index : Nat → IndxTblRule

/-- `ipa_nat_ip4_table_cache` with the memory its pointers lead to. `trace` is
ghost: the shared tables after each write to them, the latest first. -/
structure Ip4TableCache where
  valid : Bool
  publicAddr : BitVec 32
  tblAddrOffset : Nat
  tableEntries : Nat
  expnTableEntries : Nat
  rules : Nat → NatRule
  index : Nat → IndxTblRule
  indexExpnTableMeta : Nat → Nat
  ruleIdArray : Nat → Nat
  curTblCnt : Nat
  curExpnTblCnt : Nat
  trace : List SharedTables

/-- An access outside the table it is meant for, or a loop that does not end. -/
inductive Stuck
  | outOfBounds | diverges
  deriving DecidableEq, Repr

/-- `-EINVAL`, `-EIO`, `-ENOMEM`, and the `-1` of a mutex. -/
inductive Errno
  | einval | eio | enomem | mutex
  deriving DecidableEq, Repr

namespace Ip4TableCache

variable (s : Ip4TableCache)

/-! ## Memory -/

/-- The slots there are. -/
def slots : Nat := s.tableEntries + s.expnTableEntries

/-- Slot number of an entry of the base or of the expansion table. -/
def slot (expnTbl : Bool) (entry : Nat) : Nat := if expnTbl then s.tableEntries + entry else entry

/-- A read of a rule. A base entry number past the base table reads on in the
expansion table. -/
def ruleAt (i : Nat) : Except Stuck NatRule := if i < s.slots then .ok (s.rules i) else .error .outOfBounds

def indexAt (i : Nat) : Except Stuck IndxTblRule := if i < s.slots then .ok (s.index i) else .error .outOfBounds

def metaAt (i : Nat) : Except Stuck Nat :=
  if i < s.expnTableEntries then .ok (s.indexExpnTableMeta i) else .error .outOfBounds

def ruleIdAt (i : Nat) : Except Stuck Nat := if i < s.slots then .ok (s.ruleIdArray i) else .error .outOfBounds

/-- The shared tables as they are now. -/
def shared : SharedTables := ⟨s.rules, s.index⟩

/-- One write to a rule, and to an index entry. -/
def setRule (i : Nat) (r : NatRule) : Ip4TableCache :=
  { s with rules := update s.rules i r, trace := ⟨update s.rules i r, s.index⟩ :: s.trace }

def setIndex (i : Nat) (e : IndxTblRule) : Ip4TableCache :=
  { s with index := update s.index i e, trace := ⟨s.rules, update s.index i e⟩ :: s.trace }

def setMeta (i v : Nat) : Ip4TableCache := { s with indexExpnTableMeta := update s.indexExpnTableMeta i v }

def setRuleId (i v : Nat) : Ip4TableCache := { s with ruleIdArray := update s.ruleIdArray i v }

/-- The same with the bound checked. -/
def writeRule (i : Nat) (r : NatRule) : Except Stuck Ip4TableCache :=
  if i < s.slots then .ok (s.setRule i r) else .error .outOfBounds

def writeIndex (i : Nat) (e : IndxTblRule) : Except Stuck Ip4TableCache :=
  if i < s.slots then .ok (s.setIndex i e) else .error .outOfBounds

def writeMeta (i v : Nat) : Except Stuck Ip4TableCache :=
  if i < s.expnTableEntries then .ok (s.setMeta i v) else .error .outOfBounds

def writeRuleId (i v : Nat) : Except Stuck Ip4TableCache :=
  if i < s.slots then .ok (s.setRuleId i v) else .error .outOfBounds

/-! ## DMA -/

/-- The slot an entry of the table `baseAddr` has, if the table has it. -/
def dmaSlot (baseAddr : NatTableType) (entry : Nat) : Except Stuck Nat :=
  match baseAddr with
  | .baseTbl | .indxTbl => if entry < s.tableEntries then .ok entry else .error .outOfBounds
  | .expnTbl | .indexExpnTbl =>
    if entry < s.expnTableEntries then .ok (s.tableEntries + entry) else .error .outOfBounds

/-- One entry of an `IPA_IOC_NAT_DMA` list: `data` goes to byte `offset` of the table. -/
def dmaOne (d : DmaOne) : Except Stuck Ip4TableCache :=
  match d.baseAddr with
  | .baseTbl | .expnTbl => do
    let i ← s.dmaSlot d.baseAddr (d.offset / ipaNatTableEntrySize)
    return s.setRule i ((s.rules i).write16 (d.offset % ipaNatTableEntrySize / 2) d.data)
  | .indxTbl | .indexExpnTbl => do
    let i ← s.dmaSlot d.baseAddr (d.offset / ipaNatIndexTableEntrySize)
    return s.setIndex i ((s.index i).write16 (d.offset % ipaNatIndexTableEntrySize / 2) d.data)

/-- The whole list, in order. -/
def dma (s : Ip4TableCache) : List DmaOne → Except Stuck Ip4TableCache
  | [] => .ok s
  | d :: ds => do
    let s ← s.dmaOne d
    s.dma ds

/-- `ipa_nati_get_entry_offset`. -/
def getEntryOffset (tblEntry : Nat) : Nat := ipaNatTableEntrySize * tblEntry + s.tblAddrOffset

/-- `ipa_nati_get_index_entry_offset`. -/
def getIndexEntryOffset (indxTblEntry : Nat) : Nat := ipaNatIndexTableEntrySize * indxTblEntry + s.tblAddrOffset

end Ip4TableCache
end HiaeCommon
