/-
The layout of the NAT records (`ipanat/inc/ipa_nat_drvi.h`): `ipa_nat_sw_rule`,
whose bytes are copied into an `ipa_nat_rule`, the accessors that cut the fields
out of its words again (`ipanat/src/ipa_nat_drvi.c`), and the sixteen bits a DMA
command overwrites at a byte offset.

Bit-fields are allocated from the lowest bit on and bytes are little-endian.
`NAT_DUMP` is defined.
-/
import HiaeCommon.Ipanat.NatTable
import HiaeCommon.Lib.BitFields

namespace HiaeCommon

open Lib (byteAt putBits getLsbD_putBits byteAt_putBits extract_append_high extract_append_low extract_append_zero extract_full)

/-! ## The records -/

/-- `ipa_nat_sw_rule`. -/
structure IpaNatSwRule where
  privateIp : BitVec 32
  targetIp : BitVec 32
  nextIndex : BitVec 16
  publicPort : BitVec 16
  privatePort : BitVec 16
  targetPort : BitVec 16
  ipChksum : BitVec 16
  rsvd1 : BitVec 14
  redirect : BitVec 1
  enable : BitVec 1
  timeStamp : BitVec 24
  protocol : BitVec 8
  prevIndex : BitVec 16
  indxTblEntry : BitVec 16
  rsvd2 : BitVec 16
  tcpUdpChksum : BitVec 16
  deriving DecidableEq, Repr

/-- `ipa_nat_rule`. -/
structure IpaNatRule where
  privateIp : BitVec 32
  targetIp : BitVec 32
  nxtIndxPubPort : BitVec 32
  privatePort : BitVec 16
  targetPort : BitVec 16
  ipCksmEnbl : BitVec 32
  tsProto : BitVec 32
  swSpecParams : BitVec 32
  rsvd2 : BitVec 16
  tcpUdpChksum : BitVec 16
  deriving DecidableEq, Repr

/-- `ipa_nat_sw_indx_tbl_rule`. -/
structure IpaNatSwIndxTblRule where
  tblEntry : BitVec 16
  nextIndex : BitVec 16
  deriving DecidableEq, Repr

/-- `ipa_nat_indx_tbl_rule`. -/
structure IpaNatIndxTblRule where
  tblEntryNxtIndx : BitVec 32
  deriving DecidableEq, Repr

/-- `ipa_nat_rule_field_type`. -/
inductive IpaNatRuleFieldType
  | nextIndexField | publicPortFiled | privatePortField | targetPortField | ipChksumField | enableField | timeStampField
  | protocolField | tcpUdpChksumField | swSpecParamPrevIndexField | swSpecParamIndxTblEntryField | indxTblTblEntryField
  | indxTblNextIndexFiled
  deriving DecidableEq, Repr

def IpaNatSwRule.bits (r : IpaNatSwRule) : BitVec 256 :=
  r.tcpUdpChksum ++ r.rsvd2 ++ r.indxTblEntry ++ r.prevIndex ++ r.protocol ++ r.timeStamp ++ r.enable ++ r.redirect ++ r.rsvd1 ++
    r.ipChksum ++ r.targetPort ++ r.privatePort ++ r.publicPort ++ r.nextIndex ++ r.targetIp ++ r.privateIp

def IpaNatRule.bits (h : IpaNatRule) : BitVec 256 :=
  h.tcpUdpChksum ++ h.rsvd2 ++ h.swSpecParams ++ h.tsProto ++ h.ipCksmEnbl ++ h.targetPort ++ h.privatePort ++ h.nxtIndxPubPort ++
    h.targetIp ++ h.privateIp

/-- The record these bits are. -/
def IpaNatRule.ofBits (b : BitVec 256) : IpaNatRule where
  privateIp := b.extractLsb' 0 32
  targetIp := b.extractLsb' 32 32
  nxtIndxPubPort := b.extractLsb' 64 32
  privatePort := b.extractLsb' 96 16
  targetPort := b.extractLsb' 112 16
  ipCksmEnbl := b.extractLsb' 128 32
  tsProto := b.extractLsb' 160 32
  swSpecParams := b.extractLsb' 192 32
  rsvd2 := b.extractLsb' 224 16
  tcpUdpChksum := b.extractLsb' 240 16

def IpaNatSwIndxTblRule.bits (e : IpaNatSwIndxTblRule) : BitVec 32 := e.nextIndex ++ e.tblEntry

/-- `memcpy` of a record into the table. -/
def IpaNatSwRule.copy (r : IpaNatSwRule) : IpaNatRule := .ofBits r.bits

def IpaNatSwIndxTblRule.copy (e : IpaNatSwIndxTblRule) : IpaNatIndxTblRule := ⟨e.bits⟩

/-! ## The accessors -/

/-- `Read8BitFieldValue`. -/
def read8BitFieldValue (param : BitVec 32) : IpaNatRuleFieldType → BitVec 8
  | .protocolField => param.extractLsb' 24 8
  | _ => 0

/-- `Read16BitFieldValue`. -/
def read16BitFieldValue (param : BitVec 32) : IpaNatRuleFieldType → BitVec 16
  | .nextIndexField => param.extractLsb' 0 16
  | .publicPortFiled => param.extractLsb' 16 16
  | .enableField => (param.extractLsb' 31 1).setWidth 16
  | .swSpecParamPrevIndexField => param.extractLsb' 0 16
  | .swSpecParamIndxTblEntryField => param.extractLsb' 16 16
  | .indxTblTblEntryField => param.extractLsb' 0 16
  | .indxTblNextIndexFiled => param.extractLsb' 16 16
  | .ipChksumField => param.extractLsb' 0 16
  | _ => 0

/-- `Read32BitFieldValue`. -/
def read32BitFieldValue (param : BitVec 32) : IpaNatRuleFieldType → BitVec 32
  | .timeStampField => (param.extractLsb' 0 24).setWidth 32
  | _ => 0

/-- `IPA_NAT_SW_PARAM_PREV_INDX_BYTE` and `IPA_NAT_SW_PARAM_INDX_TBL_ENTRY_BYTE`. -/
def ipaNatSwParamPrevIndxByte : BitVec 8 := 0
def ipaNatSwParamIndxTblEntryByte : BitVec 8 := 1

/-- `UpdateSwSpecParams`. -/
def IpaNatRule.updateSwSpecParams (rule : IpaNatRule) (paramType : BitVec 8) (value : BitVec 32) : IpaNatRule :=
  let temp := rule.swSpecParams
  if ipaNatSwParamIndxTblEntryByte = paramType then
    { rule with swSpecParams := (temp &&& 0x0000FFFF#32) ||| (value <<< 16) }
  else { rule with swSpecParams := (temp &&& 0xFFFF0000#32) ||| value }

/-- A DMA command writes `data` at a byte offset of a record. -/
def IpaNatRule.dmaWrite (h : IpaNatRule) (off : Nat) (data : BitVec 16) : IpaNatRule := .ofBits (putBits (8 * off) data h.bits)

def IpaNatIndxTblRule.dmaWrite (h : IpaNatIndxTblRule) (off : Nat) (data : BitVec 16) : IpaNatIndxTblRule :=
  ⟨putBits (8 * off) data h.tblEntryNxtIndx⟩

/-! ## The two descriptions -/

section Layout

variable {b : BitVec 256} {h : IpaNatRule} {r : IpaNatSwRule}

theorem bits_ofBits (b : BitVec 256) : (IpaNatRule.ofBits b).bits = b := by
  apply BitVec.eq_of_getLsbD_eq
  intro i hi
  simp only [IpaNatRule.bits, IpaNatRule.ofBits, BitVec.getLsbD_append, BitVec.getLsbD_extractLsb']
  grind

/-- The copy has the bytes of the record. -/
theorem copy_bits (r : IpaNatSwRule) : r.copy.bits = r.bits := bits_ofBits r.bits

theorem ofBits_bits (h : IpaNatRule) : IpaNatRule.ofBits h.bits = h := by
  obtain ⟨f0, f1, f2, f3, f4, f5, f6, f7, f8, f9⟩ := h
  simp only [IpaNatRule.bits, IpaNatRule.ofBits, IpaNatRule.mk.injEq]
  refine ⟨?_, ?_, ?_, ?_, ?_, ?_, ?_, ?_, ?_, ?_⟩ <;>
  · apply BitVec.eq_of_getLsbD_eq
    intro i hi
    simp only [BitVec.getLsbD_append, BitVec.getLsbD_extractLsb']
    grind

/-- Records with the same bits are the same. -/
theorem IpaNatRule.bits_injective {h h' : IpaNatRule} (he : h.bits = h'.bits) : h = h' := by
  rw [← ofBits_bits h, he, ofBits_bits]

/-- **The words of a copy**, by the fields they are made of. -/
theorem copy_eq (r : IpaNatSwRule) : r.copy = {
    privateIp := r.privateIp
    targetIp := r.targetIp
    nxtIndxPubPort := r.publicPort ++ r.nextIndex
    privatePort := r.privatePort
    targetPort := r.targetPort
    ipCksmEnbl := r.enable ++ r.redirect ++ r.rsvd1 ++ r.ipChksum
    tsProto := r.protocol ++ r.timeStamp
    swSpecParams := r.indxTblEntry ++ r.prevIndex
    rsvd2 := r.rsvd2
    tcpUdpChksum := r.tcpUdpChksum } := by
  apply IpaNatRule.bits_injective
  rw [copy_bits]
  apply BitVec.eq_of_getLsbD_eq
  intro i hi
  simp only [IpaNatRule.bits, IpaNatSwRule.bits, BitVec.getLsbD_append]
  rcases (by omega : i < 128 ∨ (128 ≤ i ∧ i < 160) ∨ 160 ≤ i) with h | h | h <;> grind

/-! ## The writes -/

theorem dmaWrite_copy {r' : IpaNatSwRule} {off : Nat} {data : BitVec 16} (he : r'.bits = putBits (8 * off) data r.bits) :
    r.copy.dmaWrite off data = r'.copy := by
  rw [IpaNatRule.dmaWrite, copy_bits, ← he]
  rfl

/-- A link sets `next_index`. -/
theorem bits_putNext (r : IpaNatSwRule) (data : BitVec 16) :
    ({ r with nextIndex := data } : IpaNatSwRule).bits = putBits (8 * ipaNatRuleNextFieldOffset) data r.bits := by
  apply BitVec.eq_of_getLsbD_eq
  intro i hi
  rw [getLsbD_putBits hi]
  simp only [IpaNatSwRule.bits, BitVec.getLsbD_append, ipaNatRuleNextFieldOffset]
  grind

/-- The flags are `rsvd1`, `redirect` and `enable`. -/
theorem bits_putFlags (r : IpaNatSwRule) (data : BitVec 16) :
    ({ r with rsvd1 := data.extractLsb' 0 14, redirect := data.extractLsb' 14 1, enable := data.extractLsb' 15 1 } :
      IpaNatSwRule).bits = putBits (8 * ipaNatRuleFlagFieldOffset) data r.bits := by
  apply BitVec.eq_of_getLsbD_eq
  intro i hi
  rw [getLsbD_putBits hi]
  simp only [IpaNatSwRule.bits, BitVec.getLsbD_append, BitVec.getLsbD_extractLsb', ipaNatRuleFlagFieldOffset]
  -- the one-bit fields are bits 158 and 159
  rcases (by omega : i < 144 ∨ (144 ≤ i ∧ i < 158) ∨ i = 158 ∨ i = 159 ∨ (160 ≤ i ∧ i < 192) ∨ 192 ≤ i) with
    h | h | rfl | rfl | h | h
  · grind
  · grind
  · simp
  · simp
  · grind
  · grind

/-- The write of the protocol overwrites the high byte of the time stamp too. -/
theorem bits_putProto (r : IpaNatSwRule) (data : BitVec 16) :
    ({ r with timeStamp := data.extractLsb' 0 8 ++ r.timeStamp.extractLsb' 0 16, protocol := data.extractLsb' 8 8 } :
      IpaNatSwRule).bits = putBits (8 * ipaNatRuleProtoFieldOffset) data r.bits := by
  apply BitVec.eq_of_getLsbD_eq
  intro i hi
  rw [getLsbD_putBits hi]
  simp only [IpaNatSwRule.bits, BitVec.getLsbD_append, BitVec.getLsbD_extractLsb', ipaNatRuleProtoFieldOffset]
  rcases (by omega : i < 144 ∨ (144 ≤ i ∧ i < 176) ∨ (176 ≤ i ∧ i < 192) ∨ 192 ≤ i) with h | h | h | h <;> grind

end Layout

/-! ## The accessors of a copy -/

/-- What the accessors return from the words of a copy. -/
structure AccessorsAgree (r : IpaNatSwRule) (h : IpaNatRule) : Prop where
  nextIndex : read16BitFieldValue h.nxtIndxPubPort .nextIndexField = r.nextIndex
  publicPort : read16BitFieldValue h.nxtIndxPubPort .publicPortFiled = r.publicPort
  ipChksum : read16BitFieldValue h.ipCksmEnbl .ipChksumField = r.ipChksum
  enable : read16BitFieldValue h.ipCksmEnbl .enableField = r.enable.setWidth 16
  timeStamp : read32BitFieldValue h.tsProto .timeStampField = r.timeStamp.setWidth 32
  protocol : read8BitFieldValue h.tsProto .protocolField = r.protocol
  prevIndex : read16BitFieldValue h.swSpecParams .swSpecParamPrevIndexField = r.prevIndex
  indxTblEntry : read16BitFieldValue h.swSpecParams .swSpecParamIndxTblEntryField = r.indxTblEntry
  rest : h.privateIp = r.privateIp ∧ h.targetIp = r.targetIp ∧ h.privatePort = r.privatePort ∧ h.targetPort = r.targetPort ∧
    h.rsvd2 = r.rsvd2 ∧ h.tcpUdpChksum = r.tcpUdpChksum

theorem accessorsAgree (r : IpaNatSwRule) : AccessorsAgree r r.copy := by
  rw [copy_eq]
  refine ⟨?_, ?_, ?_, ?_, ?_, ?_, ?_, ?_, rfl, rfl, rfl, rfl, rfl, rfl⟩
  · exact extract_append_zero _ _
  · exact (extract_append_high _ _ (by decide)).trans (extract_full _)
  · exact extract_append_zero _ _
  · refine congrArg (BitVec.setWidth 16) ?_
    have h1 : (r.enable ++ r.redirect ++ r.rsvd1 ++ r.ipChksum).extractLsb' 31 1 =
        (r.enable ++ r.redirect ++ r.rsvd1).extractLsb' 15 1 := extract_append_high _ _ (by decide)
    have h2 : (r.enable ++ r.redirect ++ r.rsvd1).extractLsb' 15 1 = (r.enable ++ r.redirect).extractLsb' 1 1 :=
      extract_append_high _ _ (by decide)
    have h3 : (r.enable ++ r.redirect).extractLsb' 1 1 = r.enable.extractLsb' 0 1 := extract_append_high _ _ (by decide)
    exact h1.trans (h2.trans (h3.trans (extract_full _)))
  · exact congrArg (BitVec.setWidth 32) (extract_append_zero _ _)
  · exact (extract_append_high _ _ (by decide)).trans (extract_full _)
  · exact extract_append_zero _ _
  · exact (extract_append_high _ _ (by decide)).trans (extract_full _)

/-- The index record. -/
theorem indexAccessors (e : IpaNatSwIndxTblRule) :
    read16BitFieldValue e.copy.tblEntryNxtIndx .indxTblTblEntryField = e.tblEntry ∧
      read16BitFieldValue e.copy.tblEntryNxtIndx .indxTblNextIndexFiled = e.nextIndex :=
  ⟨extract_append_zero _ _, (extract_append_high _ _ (by decide)).trans (extract_full _)⟩

theorem indexWrites (e : IpaNatSwIndxTblRule) (data : BitVec 16) :
    e.copy.dmaWrite ipaNatIndexRuleNatIndexFieldOffset data = ({ e with tblEntry := data } : IpaNatSwIndxTblRule).copy ∧
      e.copy.dmaWrite ipaNatIndexRuleNextFieldOffset data = ({ e with nextIndex := data } : IpaNatSwIndxTblRule).copy := by
  refine ⟨congrArg IpaNatIndxTblRule.mk ?_, congrArg IpaNatIndxTblRule.mk ?_⟩ <;>
  · apply BitVec.eq_of_getLsbD_eq
    intro i hi
    rw [getLsbD_putBits hi]
    simp only [IpaNatSwIndxTblRule.copy, IpaNatSwIndxTblRule.bits, BitVec.getLsbD_append, ipaNatIndexRuleNatIndexFieldOffset,
      ipaNatIndexRuleNextFieldOffset]
    grind

/-- One half of `sw_spec_params` is replaced, if the value fits it. -/
theorem updateSwSpecParams_copy (r : IpaNatSwRule) (value : BitVec 16) :
    r.copy.updateSwSpecParams ipaNatSwParamPrevIndxByte (value.setWidth 32) = ({ r with prevIndex := value } : IpaNatSwRule).copy ∧
    r.copy.updateSwSpecParams ipaNatSwParamIndxTblEntryByte (value.setWidth 32) =
      ({ r with indxTblEntry := value } : IpaNatSwRule).copy := by
  have hlow : ((r.indxTblEntry ++ r.prevIndex) &&& 0xFFFF0000#32) ||| value.setWidth 32 = r.indxTblEntry ++ value := by
    apply BitVec.eq_of_getLsbD_eq
    intro i hi
    have hmask : (0xFFFF0000#32).getLsbD i = decide (16 ≤ i) := by
      revert i
      decide
    simp only [BitVec.getLsbD_or, BitVec.getLsbD_and, BitVec.getLsbD_append, BitVec.getLsbD_setWidth, hmask]
    grind
  have hhigh : ((r.indxTblEntry ++ r.prevIndex) &&& 0x0000FFFF#32) ||| (value.setWidth 32 <<< 16) = value ++ r.prevIndex := by
    apply BitVec.eq_of_getLsbD_eq
    intro i hi
    have hmask : (0x0000FFFF#32).getLsbD i = decide (i < 16) := by
      revert i
      decide
    simp only [BitVec.getLsbD_or, BitVec.getLsbD_and, BitVec.getLsbD_append, BitVec.getLsbD_shiftLeft, BitVec.getLsbD_setWidth, hmask]
    grind
  simp only [copy_eq]
  exact ⟨congrArg (fun w => IpaNatRule.mk _ _ _ _ _ _ _ w _ _) hlow, congrArg (fun w => IpaNatRule.mk _ _ _ _ _ _ _ w _ _) hhigh⟩

/-! ## Layout and accessors -/

/-- **The layout and the accessors agree.** The copy has the bytes of the record, each accessor returns the field it is
asked for, an update of `sw_spec_params` by a `uint16_t` changes its own half, and each sixteen bits the driver posts
change the field they are meant for. The protocol shares its half-word with the high byte of the time stamp, which is
overwritten with it. -/
theorem ruleLayout (r : IpaNatSwRule) (e : IpaNatSwIndxTblRule) (value : BitVec 16) :
    (∀ i < ipaNatTableEntrySize, byteAt r.copy.bits i = byteAt r.bits i) ∧ AccessorsAgree r r.copy ∧
    (r.copy.updateSwSpecParams ipaNatSwParamPrevIndxByte (value.setWidth 32) = ({ r with prevIndex := value } : IpaNatSwRule).copy ∧
      r.copy.updateSwSpecParams ipaNatSwParamIndxTblEntryByte (value.setWidth 32) =
        ({ r with indxTblEntry := value } : IpaNatSwRule).copy) ∧
    r.copy.dmaWrite ipaNatRuleNextFieldOffset value = ({ r with nextIndex := value } : IpaNatSwRule).copy ∧
    (r.copy.dmaWrite ipaNatRuleFlagFieldOffset (.ofNat 16 ipaNatFlagEnableBitMask) =
        ({ r with rsvd1 := 0, redirect := 0, enable := 1 } : IpaNatSwRule).copy ∧
      r.copy.dmaWrite ipaNatRuleFlagFieldOffset (.ofNat 16 ipaNatFlagDisableBitMask) =
        ({ r with rsvd1 := 0, redirect := 0, enable := 0 } : IpaNatSwRule).copy) ∧
    r.copy.dmaWrite ipaNatRuleProtoFieldOffset (.ofNat 16 ipaNatInvalidProtoFieldValue) =
      ({ r with timeStamp := 0#8 ++ r.timeStamp.extractLsb' 0 16, protocol := ipaNatInvalidProtoFieldCmp } : IpaNatSwRule).copy ∧
    (read16BitFieldValue e.copy.tblEntryNxtIndx .indxTblTblEntryField = e.tblEntry ∧
      read16BitFieldValue e.copy.tblEntryNxtIndx .indxTblNextIndexFiled = e.nextIndex) ∧
    e.copy.dmaWrite ipaNatIndexRuleNatIndexFieldOffset value = ({ e with tblEntry := value } : IpaNatSwIndxTblRule).copy ∧
    e.copy.dmaWrite ipaNatIndexRuleNextFieldOffset value = ({ e with nextIndex := value } : IpaNatSwIndxTblRule).copy := by
  refine ⟨fun i _ => congrArg (byteAt · i) (copy_bits r), accessorsAgree r, updateSwSpecParams_copy r value,
    dmaWrite_copy (bits_putNext r value), ⟨?_, ?_⟩, ?_, indexAccessors e, indexWrites e value⟩
  · exact dmaWrite_copy (bits_putFlags r (.ofNat 16 ipaNatFlagEnableBitMask))
  · exact dmaWrite_copy (bits_putFlags r (.ofNat 16 ipaNatFlagDisableBitMask))
  · exact dmaWrite_copy (bits_putProto r (.ofNat 16 ipaNatInvalidProtoFieldValue))

/-- A rule between two addresses of a private and the public network, learned some time ago. -/
def sampleSwRule : IpaNatSwRule where
  privateIp := 0xC0A80102
  targetIp := 0x08080808
  nextIndex := 0
  publicPort := 40000
  privatePort := 5000
  targetPort := 53
  ipChksum := 0
  rsvd1 := 0
  redirect := 0
  enable := 1
  timeStamp := 0x123456
  protocol := 17
  prevIndex := 3
  indxTblEntry := 7
  rsvd2 := 0
  tcpUdpChksum := 0

/-- The ports and the checksum the hardware record keeps in fields of their own have no accessor; the write of the
protocol alone would keep the time stamp; and a value over sixteen bits runs into the other half. -/
theorem not_ruleLayout :
    (∀ w ∈ [sampleSwRule.copy.nxtIndxPubPort, sampleSwRule.copy.ipCksmEnbl, sampleSwRule.copy.tsProto,
        sampleSwRule.copy.swSpecParams], read16BitFieldValue w .privatePortField ≠ sampleSwRule.privatePort) ∧
    (sampleSwRule.copy.dmaWrite ipaNatRuleProtoFieldOffset (.ofNat 16 ipaNatInvalidProtoFieldValue) ≠
        ({ sampleSwRule with protocol := ipaNatInvalidProtoFieldCmp } : IpaNatSwRule).copy ∧
      read32BitFieldValue (sampleSwRule.copy.dmaWrite ipaNatRuleProtoFieldOffset (.ofNat 16 ipaNatInvalidProtoFieldValue)).tsProto
        .timeStampField = 0x3456) ∧
    read16BitFieldValue (sampleSwRule.copy.updateSwSpecParams ipaNatSwParamPrevIndxByte 0x80005).swSpecParams
      .swSpecParamIndxTblEntryField ≠ sampleSwRule.indxTblEntry := by
  have hwrite := dmaWrite_copy (bits_putProto sampleSwRule (.ofNat 16 ipaNatInvalidProtoFieldValue))
  have hstamp : read32BitFieldValue (sampleSwRule.copy.dmaWrite ipaNatRuleProtoFieldOffset
      (.ofNat 16 ipaNatInvalidProtoFieldValue)).tsProto .timeStampField = 0x3456 := by
    rw [hwrite, (accessorsAgree _).timeStamp]
    decide
  refine ⟨fun w _ => ?_, ⟨fun he => ?_, hstamp⟩, ?_⟩
  · show (0 : BitVec 16) ≠ sampleSwRule.privatePort
    decide
  · rw [he, (accessorsAgree _).timeStamp] at hstamp
    exact absurd hstamp (by decide)
  · rw [copy_eq]
    decide

/-! ## The records of the table model

`NatRule` keeps the fields of `ipa_nat_sw_rule`, so what it says about a write
is what the bytes of the record say. -/

/-- The record a table entry is. -/
def NatRule.sw (r : NatRule) : IpaNatSwRule where
  privateIp := r.privateIp
  targetIp := r.targetIp
  nextIndex := .ofNat 16 r.nextIndex
  publicPort := r.publicPort
  privatePort := r.privatePort
  targetPort := r.targetPort
  ipChksum := r.ipChksum
  rsvd1 := r.rsvd1
  redirect := .ofBool r.redirect
  enable := .ofBool r.enable
  timeStamp := r.timeStamp
  protocol := r.protocol
  prevIndex := .ofNat 16 r.prevIndex
  indxTblEntry := .ofNat 16 r.indxTblEntry
  rsvd2 := r.rsvd2
  tcpUdpChksum := r.tcpUdpChksum

def IndxTblRule.sw (e : IndxTblRule) : IpaNatSwIndxTblRule := ⟨.ofNat 16 e.tblEntry, .ofNat 16 e.nextIndex⟩

theorem ofNat_u16 (n : Nat) : BitVec.ofNat 16 (u16 n) = BitVec.ofNat 16 n := by
  apply BitVec.eq_of_toNat_eq
  simp [u16]

/-- A rule's write at the three offsets the driver writes at. -/
theorem NatRule.write16_sw (r : NatRule) (data : Nat) :
    (r.write16 (ipaNatRuleNextFieldOffset / 2) data).sw.copy = r.sw.copy.dmaWrite ipaNatRuleNextFieldOffset (.ofNat 16 data) ∧
    (r.write16 (ipaNatRuleFlagFieldOffset / 2) data).sw.copy = r.sw.copy.dmaWrite ipaNatRuleFlagFieldOffset (.ofNat 16 data) ∧
    (r.write16 (ipaNatRuleProtoFieldOffset / 2) data).sw.copy = r.sw.copy.dmaWrite ipaNatRuleProtoFieldOffset (.ofNat 16 data) := by
  refine ⟨?_, ?_, ?_⟩
  · rw [dmaWrite_copy (bits_putNext r.sw (.ofNat 16 data))]
    refine congrArg IpaNatSwRule.copy ?_
    simp only [ipaNatRuleNextFieldOffset, NatRule.write16, NatRule.sw, ofNat_u16]
  · rw [dmaWrite_copy (bits_putFlags r.sw (.ofNat 16 data))]
    refine congrArg IpaNatSwRule.copy ?_
    have h14 : BitVec.ofNat 14 data = (BitVec.ofNat 16 data).extractLsb' 0 14 := by
      apply BitVec.eq_of_getLsbD_eq
      intro i hi
      simp only [BitVec.getLsbD_extractLsb', BitVec.getLsbD_ofNat]
      grind
    have hbit : ∀ k < 16, BitVec.ofBool (data.testBit k) = (BitVec.ofNat 16 data).extractLsb' k 1 := by
      intro k hk
      apply BitVec.eq_of_getLsbD_eq
      intro i hi
      obtain rfl : i = 0 := by omega
      simp only [BitVec.getLsbD_ofBool, BitVec.getLsbD_extractLsb', BitVec.getLsbD_ofNat]
      grind
    simp only [ipaNatRuleFlagFieldOffset, NatRule.write16, NatRule.sw, h14, hbit 14 (by decide), hbit 15 (by decide)]
  · rw [dmaWrite_copy (bits_putProto r.sw (.ofNat 16 data))]
    refine congrArg IpaNatSwRule.copy ?_
    have hts : (r.timeStamp &&& 0x00FFFF#24) ||| BitVec.ofNat 24 (data % 2 ^ 8) <<< 16 =
        (BitVec.ofNat 16 data).extractLsb' 0 8 ++ r.timeStamp.extractLsb' 0 16 := by
      apply BitVec.eq_of_getLsbD_eq
      intro i hi
      have hmask : (0x00FFFF#24).getLsbD i = decide (i < 16) := by
        revert i
        decide
      simp only [BitVec.getLsbD_or, BitVec.getLsbD_and, BitVec.getLsbD_append, BitVec.getLsbD_shiftLeft,
        BitVec.getLsbD_extractLsb', BitVec.getLsbD_ofNat, Nat.testBit_mod_two_pow, hmask]
      grind
    have hproto : BitVec.ofNat 8 (data / 2 ^ 8) = (BitVec.ofNat 16 data).extractLsb' 8 8 := by
      apply BitVec.eq_of_getLsbD_eq
      intro i hi
      simp only [BitVec.getLsbD_extractLsb', BitVec.getLsbD_ofNat, Nat.testBit_div_two_pow]
      grind
    simp only [ipaNatRuleProtoFieldOffset, NatRule.write16, NatRule.sw, hts, hproto]

/-- An index entry's write, and the two halves of `sw_spec_params`. -/
theorem IndxTblRule.write16_sw (e : IndxTblRule) (data : Nat) :
    (e.write16 (ipaNatIndexRuleNatIndexFieldOffset / 2) data).sw.copy =
      e.sw.copy.dmaWrite ipaNatIndexRuleNatIndexFieldOffset (.ofNat 16 data) ∧
    (e.write16 (ipaNatIndexRuleNextFieldOffset / 2) data).sw.copy =
      e.sw.copy.dmaWrite ipaNatIndexRuleNextFieldOffset (.ofNat 16 data) := by
  rw [(indexWrites e.sw (.ofNat 16 data)).1, (indexWrites e.sw (.ofNat 16 data)).2]
  refine ⟨congrArg IpaNatSwIndxTblRule.copy ?_, congrArg IpaNatSwIndxTblRule.copy ?_⟩
  · exact congrArg (IpaNatSwIndxTblRule.mk · _) (ofNat_u16 data)
  · exact congrArg (IpaNatSwIndxTblRule.mk _) (ofNat_u16 data)

theorem NatRule.updateIndex_sw (r : NatRule) (value : Nat) (hv : value < 2 ^ 16) :
    (r.updatePrevIndex value).sw.copy = r.sw.copy.updateSwSpecParams ipaNatSwParamPrevIndxByte (.ofNat 32 value) ∧
    (r.updateIndxTblEntry value).sw.copy = r.sw.copy.updateSwSpecParams ipaNatSwParamIndxTblEntryByte (.ofNat 32 value) := by
  have hw : BitVec.ofNat 32 value = (BitVec.ofNat 16 value).setWidth 32 := by
    apply BitVec.eq_of_toNat_eq
    simp
    omega
  rw [hw, (updateSwSpecParams_copy r.sw (.ofNat 16 value)).1, (updateSwSpecParams_copy r.sw (.ofNat 16 value)).2]
  refine ⟨congrArg IpaNatSwRule.copy ?_, congrArg IpaNatSwRule.copy ?_⟩ <;>
    simp only [NatRule.updatePrevIndex, NatRule.updateIndxTblEntry, NatRule.sw, ofNat_u16]

end HiaeCommon
