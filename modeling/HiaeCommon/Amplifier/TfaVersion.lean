/-
The version check of a patch against the memory of the DSP.

The word that was read has gone through a decoder that extends its sign, and the
check value has not, so two equal words compare as different where their top bit
is set; and a read that fails leaves what the variable held before
(`checksVersion_iff`).
-/
import HiaeCommon.Amplifier.TfaMemory
import HiaeCommon.Amplifier.TfaPatch

namespace HiaeCommon.Tfa

/-- The header is for every revision, or for that of the chip. -/
def RevisionOk (t : TfaT) (checkRev : Byte) : Prop :=
  checkRev = 0xff ∨ checkRev = (t.rev &&& 0xff).setWidth 8

instance (t : TfaT) (checkRev : Byte) : Decidable (RevisionOk t checkRev) :=
  inferInstanceAs (Decidable (_ ∨ _))

variable {dev : Device} {t : TfaT} {bus : Bus}

def Accepts (dev : Device) (t : TfaT) (val : BitVec 32) (patchHeader : List Byte) (bus : Bus) : Prop :=
  ∃ bus', tfaCheckIcRomVersion dev t val patchHeader bus = .returns (true, bus')

def Rejects (dev : Device) (t : TfaT) (val : BitVec 32) (patchHeader : List Byte) (bus : Bus) : Prop :=
  ∃ bus', tfaCheckIcRomVersion dev t val patchHeader bus = .returns (false, bus')

/-- The read of the word the header names, once the system is found stable. -/
def checkRead (dev : Device) (t : TfaT) (addr : BitVec 16) (bus : Bus) : Ends (Int × Option (List (BitVec 32)) × Bus) :=
  tfaReadMem dev (some t) addr 1 (tfaDspSystemStable dev (some t) bus).2

/-- What is expected of the check of a header with the address `a1 a0` and the
value `v2 v1 v0`. -/
structure ChecksVersion (dev : Device) (t : TfaT) (val : BitVec 32) (checkRev a1 a0 v2 v1 v0 : Byte) (bus : Bus) : Prop where
  word : ∀ words bus' (d d' : Dsp), dev.Succeeds → checkRead dev t (bytesReg a1 a0) bus = .returns (0, some words, bus') →
    d.Follows (tfaDspSystemStable dev (some t) bus).2 bus' d' →
      (Accepts dev t val [checkRev, a1, a0, v2, v1, v0] bus ↔
        RevisionOk t checkRev ∧ d.mem dmemXmem (bytesReg a1 a0) = bytesWord v2 v1 v0)
  failed : ∀ rc bus', checkRead dev t (bytesReg a1 a0) bus = .returns (rc, none, bus') →
    Rejects dev t val [checkRev, a1, a0, v2, v1, v0] bus

theorem toNat_bytesWord (b0 b1 b2 : Byte) : (bytesWord b0 b1 b2).toNat = b0.toNat * 65536 + b1.toNat * 256 + b2.toNat := by
  have h1 := b1.isLt
  have h2 := b2.isLt
  have happ : (bytesWord b0 b1 b2).toNat = ((b0 ++ b1) ++ b2).toNat := rfl
  rw [happ, BitVec.toNat_append, BitVec.toNat_append, ← Nat.shiftLeft_add_eq_or_of_lt h1, ← Nat.shiftLeft_add_eq_or_of_lt h2,
    Nat.shiftLeft_eq, Nat.shiftLeft_eq]
  omega

/-- The word the decoder makes of a memory word is that word with its sign. -/
theorem toInt_decoded (w : BitVec 24) :
    (bytes2word (w.extractLsb' 16 8) (w.extractLsb' 8 8) (w.extractLsb' 0 8)).toInt = signed24 w.toNat := by
  rw [toInt_bytes2word, toNat_word24, ← toNat_bytesWord, bytesWord_wordBytes]

theorem toNat_checkVal (v2 v1 v0 : Byte) :
    ((v2.setWidth 32 <<< 16) + (v1.setWidth 32 <<< 8) + v0.setWidth 32 : BitVec 32).toNat = (bytesWord v2 v1 v0).toNat := by
  have h2 := v2.isLt
  have h1 := v1.isLt
  have h0 := v0.isLt
  rw [toNat_bytesWord]
  simp only [BitVec.toNat_add, BitVec.toNat_shiftLeft, BitVec.toNat_setWidth, Nat.shiftLeft_eq]
  omega

/-- The comparison of the check: equal words, and the top bit clear. -/
theorem decoded_eq_checkVal_iff (w : BitVec 24) (v2 v1 v0 : Byte) :
    bytes2word (w.extractLsb' 16 8) (w.extractLsb' 8 8) (w.extractLsb' 0 8) =
        (v2.setWidth 32 <<< 16) + (v1.setWidth 32 <<< 8) + v0.setWidth 32 ↔
      w = bytesWord v2 v1 v0 ∧ (bytesWord v2 v1 v0).msb = false := by
  have hw := w.isLt
  have hc := (bytesWord v2 v1 v0).isLt
  have hval := toNat_checkVal v2 v1 v0
  have hint := toInt_decoded w
  unfold signed24 at hint
  rw [← BitVec.toInt_inj, hint, toInt_of_lt (by omega), hval, ← BitVec.toNat_inj, BitVec.msb_eq_false_iff_two_mul_lt]
  split <;> omega

theorem checkAddr_eq (a1 a0 : Byte) : (a1.setWidth 16 <<< 8 : BitVec 16) + a0.setWidth 16 = bytesReg a1 a0 := by
  have h1 := a1.isLt
  have h0 := a0.isLt
  have hhi : (a1.setWidth 16 <<< 8 : BitVec 16).toNat = a1.toNat <<< 8 := by
    simp only [BitVec.toNat_shiftLeft, BitVec.toNat_setWidth, Nat.shiftLeft_eq]
    omega
  have hlo : (a0.setWidth 16 : BitVec 16).toNat = a0.toNat := by
    rw [BitVec.toNat_setWidth]
    omega
  apply BitVec.eq_of_toNat_eq
  unfold bytesReg
  rw [BitVec.toNat_or, BitVec.toNat_add, hhi, hlo, ← Nat.shiftLeft_add_eq_or_of_lt h0, Nat.shiftLeft_eq]
  omega

/-- The check of a header that names an address, in a stable system. -/
theorem tfaCheckIcRomVersion_eq (hstable : (tfaDspSystemStable dev (some t) bus).1 = true) (val : BitVec 32)
    {checkRev a1 a0 v2 v1 v0 : Byte} (haddr : bytesReg a1 a0 ≠ 0xffff) :
    tfaCheckIcRomVersion dev t val [checkRev, a1, a0, v2, v1, v0] bus =
      if RevisionOk t checkRev then
        (checkRead dev t (bytesReg a1 a0) bus).andThen fun r =>
          .returns (decide (((r.2.1.getD []).head?).getD val = (v2.setWidth 32 <<< 16) + (v1.setWidth 32 <<< 8) + v0.setWidth 32), r.2.2)
      else .returns (false, bus) := by
  unfold tfaCheckIcRomVersion checkRead
  simp only [checkAddr_eq, haddr, hstable, ne_eq, not_false_eq_true, if_true]
  by_cases hrev : RevisionOk t checkRev
  · rw [if_pos hrev, if_neg]
    unfold RevisionOk at hrev
    tauto
  · rw [if_neg hrev, if_pos]
    unfold RevisionOk at hrev
    tauto

theorem accepts_iff (hstable : (tfaDspSystemStable dev (some t) bus).1 = true) {val : BitVec 32}
    {checkRev a1 a0 v2 v1 v0 : Byte} (haddr : bytesReg a1 a0 ≠ 0xffff) (hdev : dev.Succeeds) {words : List (BitVec 32)}
    {bus' : Bus} {d d' : Dsp} (hread : checkRead dev t (bytesReg a1 a0) bus = .returns (0, some words, bus'))
    (hd : d.Follows (tfaDspSystemStable dev (some t) bus).2 bus' d') :
    Accepts dev t val [checkRev, a1, a0, v2, v1, v0] bus ↔
      RevisionOk t checkRev ∧ d.mem dmemXmem (bytesReg a1 a0) = bytesWord v2 v1 v0 ∧ (bytesWord v2 v1 v0).msb = false := by
  have ht : noDevice (some t) = false := by
    by_contra hno
    rw [Bool.not_eq_false] at hno
    unfold tfaDspSystemStable tfaReadReg tfa9895ReadReg at hstable
    rw [hno] at hstable
    cases hstable
  obtain ⟨bytes, bus'', hread', -, hbytes⟩ := tfaReadMem_dsp hdev ht (bytesReg a1 a0) 1 (tfaDspSystemStable dev (some t) bus).2
  unfold checkRead at hread
  rw [hread'] at hread
  cases hread
  obtain ⟨hflat, -⟩ := hbytes d d' hd
  have hone : d.words dmemXmem (bytesReg a1 a0) 1 = [d.mem dmemXmem (bytesReg a1 a0)] := by
    change [d.mem dmemXmem (bytesReg a1 a0 + 0#16)] = _
    rw [BitVec.add_zero]
  rw [hone] at hflat
  subst hflat
  unfold Accepts
  rw [tfaCheckIcRomVersion_eq hstable val haddr, checkRead, hread', Ends.andThen_returns]
  have hhead : (bytes2data ([d.mem dmemXmem (bytesReg a1 a0)].flatMap wordBytes)).head? =
      some (bytes2word ((d.mem dmemXmem (bytesReg a1 a0)).extractLsb' 16 8) ((d.mem dmemXmem (bytesReg a1 a0)).extractLsb' 8 8)
        ((d.mem dmemXmem (bytesReg a1 a0)).extractLsb' 0 8)) := rfl
  simp only [Option.getD_some, hhead, decoded_eq_checkVal_iff]
  by_cases hrev : RevisionOk t checkRev
  · simp [hrev]
  · simp [hrev]

/-- After a read that fails, the check compares what the variable held. -/
theorem rejects_iff (hstable : (tfaDspSystemStable dev (some t) bus).1 = true) {val : BitVec 32}
    {checkRev a1 a0 v2 v1 v0 : Byte} (haddr : bytesReg a1 a0 ≠ 0xffff) {rc : Int} {bus' : Bus}
    (hread : checkRead dev t (bytesReg a1 a0) bus = .returns (rc, none, bus')) :
    Rejects dev t val [checkRev, a1, a0, v2, v1, v0] bus ↔
      ¬ (RevisionOk t checkRev ∧ val = (bytesWord v2 v1 v0).setWidth 32) := by
  have hval : (v2.setWidth 32 <<< 16 : BitVec 32) + (v1.setWidth 32 <<< 8) + v0.setWidth 32 = (bytesWord v2 v1 v0).setWidth 32 := by
    have hc := (bytesWord v2 v1 v0).isLt
    apply BitVec.eq_of_toNat_eq
    rw [toNat_checkVal, BitVec.toNat_setWidth]
    omega
  unfold Rejects
  rw [tfaCheckIcRomVersion_eq hstable val haddr, hread, Ends.andThen_returns, hval]
  by_cases hrev : RevisionOk t checkRev
  · simp only [hrev, if_true, Option.getD_none, List.head?_nil, Ends.returns.injEq, Prod.mk.injEq, exists_and_left,
      exists_eq', and_true, true_and]
    exact decide_eq_false_iff_not
  · simp [hrev]

/-- **The check is right exactly for headers whose check value has its top bit
clear**, or that are not for this chip or this memory, and where the read fails
only as long as the variable does not hold the check value. -/
theorem checksVersion_iff (hstable : (tfaDspSystemStable dev (some t) bus).1 = true) (val : BitVec 32)
    {a1 a0 : Byte} (checkRev v2 v1 v0 : Byte) (haddr : bytesReg a1 a0 ≠ 0xffff) :
    ChecksVersion dev t val checkRev a1 a0 v2 v1 v0 bus ↔
      (∀ words bus' (d d' : Dsp), dev.Succeeds → checkRead dev t (bytesReg a1 a0) bus = .returns (0, some words, bus') →
        d.Follows (tfaDspSystemStable dev (some t) bus).2 bus' d' →
        ¬ (RevisionOk t checkRev ∧ d.mem dmemXmem (bytesReg a1 a0) = bytesWord v2 v1 v0 ∧ (bytesWord v2 v1 v0).msb = true)) ∧
      ∀ rc bus', checkRead dev t (bytesReg a1 a0) bus = .returns (rc, none, bus') →
        ¬ (RevisionOk t checkRev ∧ val = (bytesWord v2 v1 v0).setWidth 32) := by
  constructor
  · intro h
    refine ⟨?_, fun rc bus' hread => (rejects_iff hstable haddr hread).1 (h.failed rc bus' hread)⟩
    rintro words bus' d d' hdev hread hd ⟨hrev, hword, hmsb⟩
    have hclear := ((accepts_iff hstable haddr hdev hread hd).1 ((h.word words bus' d d' hdev hread hd).2 ⟨hrev, hword⟩)).2.2
    rw [hmsb] at hclear
    cases hclear
  · rintro ⟨hword, hfailed⟩
    refine ⟨fun words bus' d d' hdev hread hd => ?_, fun rc bus' hread => (rejects_iff hstable haddr hread).2 (hfailed rc bus' hread)⟩
    rw [accepts_iff hstable haddr hdev hread hd]
    have hnot := hword words bus' d d' hdev hread hd
    constructor
    · exact fun h => ⟨h.1, h.2.1⟩
    · rintro ⟨hrev, heq⟩
      refine ⟨hrev, heq, ?_⟩
      by_contra hmsb
      exact hnot ⟨hrev, heq, Bool.not_eq_false _ ▸ hmsb⟩

/-- The system is stable, XMEM selected, and the word that is read 0x800001. -/
def topBitDevice : Device where
  answer := fun n => .done fun i =>
    match n, i with
    | 1, 0 => 0x80#8
    | 1, _ => 0x40#8
    | 3, 0 => 0#8
    | 3, _ => 2#8
    | 6, 0 => 0x80#8
    | 6, 1 => 0#8
    | 6, _ => 1#8
    | _, _ => 0#8
  bufferLen := 255
  room := maxI2cLength_le

theorem checksVersion_iff_topBit :
    (tfaDspSystemStable topBitDevice (some openTfa) []).1 = true ∧ bytesReg 0x12 0x34 ≠ 0xffff ∧
      (ChecksVersion topBitDevice openTfa 0 0xff 0x12 0x34 0x80 0 1 [] ↔
        (∀ words bus' (d d' : Dsp), topBitDevice.Succeeds →
          checkRead topBitDevice openTfa (bytesReg 0x12 0x34) [] = .returns (0, some words, bus') →
          d.Follows (tfaDspSystemStable topBitDevice (some openTfa) []).2 bus' d' →
          ¬ (RevisionOk openTfa 0xff ∧ d.mem dmemXmem (bytesReg 0x12 0x34) = bytesWord 0x80 0 1 ∧ (bytesWord 0x80 0 1).msb = true)) ∧
        ∀ rc bus', checkRead topBitDevice openTfa (bytesReg 0x12 0x34) [] = .returns (rc, none, bus') →
          ¬ (RevisionOk openTfa 0xff ∧ 0 = (bytesWord 0x80 0 1).setWidth 32)) :=
  ⟨by decide +kernel, by decide, checksVersion_iff (by decide +kernel) 0 0xff 0x80 0 1 (by decide)⟩

/-- The transfers of the read, after the two of the status register. -/
def checkTransfers : Bus :=
  [.write [0x70] true, .read 2 (some [0, 2]), .write [0x71, 0x12, 0x34, 0] true, .write [0x72] true, .read 3 (some [0x80, 0, 1])]

/-- The word in memory is the check value, and the header is refused. -/
theorem not_checksVersion_topBit : ¬ ∀ (dev : Device) (t : TfaT) (val : BitVec 32) (checkRev a1 a0 v2 v1 v0 : Byte) (bus : Bus),
    (tfaDspSystemStable dev (some t) bus).1 = true → bytesReg a1 a0 ≠ 0xffff → ChecksVersion dev t val checkRev a1 a0 v2 v1 v0 bus := by
  intro h
  have hstable : (tfaDspSystemStable topBitDevice (some openTfa) []).1 = true := by decide +kernel
  have hread : checkRead topBitDevice openTfa (bytesReg 0x12 0x34) [] =
      .returns (0, some [0xff800001], (tfaDspSystemStable topBitDevice (some openTfa) []).2 ++ checkTransfers) := by decide +kernel
  have hsome : ((sampleDsp fun _ _ => 0x800001).follow checkTransfers).isSome = true := by decide +kernel
  obtain ⟨d', hd'⟩ := Option.isSome_iff_exists.1 hsome
  have hfollows : (sampleDsp fun _ _ => 0x800001).Follows (tfaDspSystemStable topBitDevice (some openTfa) []).2
      ((tfaDspSystemStable topBitDevice (some openTfa) []).2 ++ checkTransfers) d' := Dsp.follows_append.2 hd'
  have hchecks := (checksVersion_iff hstable 0 0xff 0x80 0 1 (by decide)).1
    (h topBitDevice openTfa 0 0xff 0x12 0x34 0x80 0 1 [] hstable (by decide))
  exact hchecks.1 _ _ _ d' (fun _ => ⟨_, rfl⟩) hread hfollows ⟨.inl rfl, by decide, by decide⟩

end HiaeCommon.Tfa
