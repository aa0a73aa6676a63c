/-
The bit fields of tfa.c, in a cached register value and in the registers of the
chip.

A field that stays within its register is a part of a bit string, so setting it
is `Lib.putBits` and reading it cuts that part out (`bfSetBfValue_eq`,
`bfGetBfValue_eq`). `tfa_set_bf` and `tfa_get_bf` compute the mask a second time,
on `int`s; they do the same to the register they read (`bit_fields`).
-/
import HiaeCommon.Lib.BitFields
import HiaeCommon.Amplifier.TfaDsp
import Mathlib.Logic.Function.Basic

namespace HiaeCommon.Tfa

open Lib (putBits)

/-! ## The registers of the chip -/

/-- The registers, and the one that the last byte sent alone names. -/
structure Chip where
  regs : Byte → BitVec 16
  selected : Byte

/-- A register as it is sent and received: the high byte first. -/
def regBytes (v : BitVec 16) : List Byte :=
  [((0xff00 &&& v) >>> 8).setWidth 8, (0x00ff &&& v).setWidth 8]

/-- The register two received bytes are. -/
def bytesReg (hi lo : Byte) : BitVec 16 :=
  hi.setWidth 16 <<< 8 ||| lo.setWidth 16

/-- What a transfer that succeeds does to the registers. There is no next state
where the bytes that were read are not those of the register. -/
def Chip.step (c : Chip) : Transfer → Option Chip
  | .write [reg] true => some { c with selected := reg }
  | .write (reg :: hi :: lo :: _) true => some { c with regs := Function.update c.regs reg (bytesReg hi lo) }
  | .read 2 (some bytes) => if bytes = regBytes (c.regs c.selected) then some c else none
  | _ => none

def Chip.follow : Chip → List Transfer → Option Chip
  | c, [] => some c
  | c, tr :: trs => (c.step tr).bind fun c => c.follow trs

/-- The transfers of a call are those the registers answer: they were `c`, and
are `c'` then. -/
def Chip.Follows (c : Chip) (bus bus' : Bus) (c' : Chip) : Prop :=
  ∃ trs, bus' = bus ++ trs ∧ c.follow trs = some c'

/-! ## Fields -/

/-- The field stays within its register. -/
def InRegister (bf : BitVec 16) : Prop :=
  bfPos bf + bfLen bf < 16

/-- A value for the field: `bfLen` is one less than its length. -/
def FitsField (bf v : BitVec 16) : Prop :=
  v.toNat < 2 ^ (bfLen bf + 1)

def InField (bf : BitVec 16) (i : Nat) : Prop :=
  bfPos bf ≤ i ∧ i ≤ bfPos bf + bfLen bf

instance (bf : BitVec 16) (i : Nat) : Decidable (InField bf i) :=
  inferInstanceAs (Decidable (_ ∧ _))

/-- The fields share no bit of a register. -/
def SameBits (bf bf' : BitVec 16) : Prop :=
  ∃ i, InField bf i ∧ InField bf' i

/-- A field of the registers is set. -/
def setField (bf v : BitVec 16) (regs : Byte → BitVec 16) : Byte → BitVec 16 :=
  Function.update regs (bfAddr bf) (bfSetBfValue bf v (regs (bfAddr bf)))

/-- The steps of `tfa_set_bf` on the value it read: each one is made on `int`s and
then cut to 16 bits. -/
def tfaSetBfReg (bf val oldVal : BitVec 16) : BitVec 16 :=
  let mask : BitVec 16 := (((1 <<< (bfLen bf + 1)) - 1 : BitVec 32) <<< bfPos bf).setWidth 16
  let regVal : BitVec 16 := (oldVal.setWidth 32 &&& ~~~(mask.setWidth 32 : BitVec 32)).setWidth 16
  ((regVal.setWidth 32 : BitVec 32) ||| (val.setWidth 32 <<< bfPos bf)).setWidth 16

/-- The steps of `tfa_get_bf` on the value it read. -/
def tfaGetBfReg (bf regVal : BitVec 16) : BitVec 16 :=
  let mask : BitVec 16 := (((1 <<< (bfLen bf + 1)) - 1 : BitVec 32) <<< bfPos bf).setWidth 16
  let regVal : BitVec 16 := ((regVal.setWidth 32 : BitVec 32) &&& mask.setWidth 32).setWidth 16
  ((regVal.setWidth 32 : BitVec 32) >>> bfPos bf).setWidth 16

variable {bf bf' v v' : BitVec 16}

theorem toNat_ones {k : Nat} (hk : k < 32) : (((1 : BitVec 32) <<< k) - 1).toNat = 2 ^ k - 1 := by
  have hlt : 2 ^ k < 2 ^ 32 := Nat.pow_lt_pow_right (by decide) hk
  have hone : (1 : BitVec 32).toNat = 1 := rfl
  have hshift : ((1 : BitVec 32) <<< k).toNat = 2 ^ k := by
    rw [BitVec.toNat_shiftLeft, hone, Nat.shiftLeft_eq, Nat.one_mul, Nat.mod_eq_of_lt hlt]
  have hpos := Nat.two_pow_pos k
  rw [BitVec.toNat_sub, hshift, hone]
  omega

theorem bfLen_lt (bf : BitVec 16) : bfLen bf < 16 := by
  have hle : (bf &&& 0x0f).toNat ≤ 15 := by
    rw [BitVec.toNat_and]
    exact Nat.and_le_right
  unfold bfLen
  omega

/-- The mask has the bits of the field. -/
theorem getLsbD_bfMask {i : Nat} (hi : i < 16) : (bfMask bf).getLsbD i = decide (InField bf i) := by
  have hlen := bfLen_lt bf
  have hones (j : Nat) : (((1 : BitVec 32) <<< (bfLen bf + 1)) - 1).getLsbD j = decide (j < bfLen bf + 1) := by
    rw [← BitVec.testBit_toNat, toNat_ones (by omega), Nat.testBit_two_pow_sub_one]
  unfold bfMask InField
  rw [BitVec.getLsbD_setWidth, BitVec.getLsbD_shiftLeft, hones]
  grind

/-- A value of the field has no bit above it. -/
theorem FitsField.getLsbD (h : FitsField bf v) {i : Nat} (hi : bfLen bf < i) : v.getLsbD i = false := by
  have hpow : 2 ^ (bfLen bf + 1) ≤ 2 ^ i := Nat.pow_le_pow_right (by decide) hi
  rw [← BitVec.testBit_toNat]
  exact Nat.testBit_lt_two_pow (Nat.lt_of_lt_of_le h hpow)

/-- Setting a field overwrites its bits. -/
theorem bfSetBfValue_eq (hv : FitsField bf v) (regVal : BitVec 16) :
    bfSetBfValue bf v regVal = putBits (bfPos bf) (v.setWidth (bfLen bf + 1)) regVal := by
  apply BitVec.eq_of_getLsbD_eq
  intro i hi
  rw [Lib.getLsbD_putBits hi]
  unfold bfSetBfValue
  rw [BitVec.getLsbD_or, BitVec.getLsbD_and, BitVec.getLsbD_not, getLsbD_bfMask hi, BitVec.getLsbD_shiftLeft, BitVec.getLsbD_setWidth]
  have hhigh (h : bfPos bf + bfLen bf < i) : v.getLsbD (i - bfPos bf) = false := hv.getLsbD (by omega)
  unfold InField
  grind

/-- Reading a field cuts its bits out. -/
theorem bfGetBfValue_eq (bf regVal : BitVec 16) :
    bfGetBfValue bf regVal = (regVal.extractLsb' (bfPos bf) (bfLen bf + 1)).setWidth 16 := by
  apply BitVec.eq_of_getLsbD_eq
  intro i hi
  unfold bfGetBfValue
  rw [BitVec.getLsbD_ushiftRight, BitVec.getLsbD_and, BitVec.getLsbD_setWidth, BitVec.getLsbD_extractLsb']
  by_cases hin : bfPos bf + i < 16
  · rw [getLsbD_bfMask hin]
    unfold InField
    grind
  · rw [BitVec.getLsbD_of_ge _ _ (by omega)]
    grind

/-- The value that was set is read. -/
theorem bfGetBfValue_bfSetBfValue (hbf : InRegister bf) (hv : FitsField bf v) (regVal : BitVec 16) :
    bfGetBfValue bf (bfSetBfValue bf v regVal) = v := by
  rw [bfGetBfValue_eq, bfSetBfValue_eq hv, Lib.extractLsb'_putBits _ _ (by unfold InRegister at hbf; omega)]
  apply BitVec.eq_of_toNat_eq
  rw [BitVec.toNat_setWidth, BitVec.toNat_setWidth, Nat.mod_eq_of_lt hv, Nat.mod_eq_of_lt v.isLt]

/-- The bits outside the field stay. -/
theorem getLsbD_bfSetBfValue (hv : FitsField bf v) (regVal : BitVec 16) {i : Nat} (hi : i < 16)
    (hout : ¬ InField bf i) : (bfSetBfValue bf v regVal).getLsbD i = regVal.getLsbD i := by
  unfold InField at hout
  rw [bfSetBfValue_eq hv, Lib.getLsbD_putBits hi, if_neg (by omega)]

theorem bfSetBfValue_bfSetBfValue (hv : FitsField bf v) (regVal : BitVec 16) :
    bfSetBfValue bf v (bfSetBfValue bf v regVal) = bfSetBfValue bf v regVal := by
  rw [bfSetBfValue_eq hv, bfSetBfValue_eq hv, Lib.putBits_putBits]

theorem bfSetBfValue_comm (hv : FitsField bf v) (hv' : FitsField bf' v') (h : ¬ SameBits bf bf') (regVal : BitVec 16) :
    bfSetBfValue bf v (bfSetBfValue bf' v' regVal) = bfSetBfValue bf' v' (bfSetBfValue bf v regVal) := by
  have hapart : bfPos bf + (bfLen bf + 1) ≤ bfPos bf' ∨ bfPos bf' + (bfLen bf' + 1) ≤ bfPos bf := by
    by_contra hlap
    apply h
    -- the higher of the two positions is in both fields
    refine ⟨max (bfPos bf) (bfPos bf'), ?_, ?_⟩
    · unfold InField
      omega
    · unfold InField
      omega
  rw [bfSetBfValue_eq hv, bfSetBfValue_eq hv', bfSetBfValue_eq hv, bfSetBfValue_eq hv', Lib.putBits_comm _ _ _ hapart]

/-! ## The second implementation -/

theorem tfaSetBfReg_eq (bf val oldVal : BitVec 16) : tfaSetBfReg bf val oldVal = bfSetBfValue bf val oldVal := by
  apply BitVec.eq_of_getLsbD_eq
  intro i hi
  unfold tfaSetBfReg bfSetBfValue
  change (BitVec.setWidth 16 (BitVec.setWidth 32 (BitVec.setWidth 16 (oldVal.setWidth 32 &&& ~~~(bfMask bf).setWidth 32)) |||
    val.setWidth 32 <<< bfPos bf)).getLsbD i = _
  simp only [BitVec.getLsbD_setWidth, BitVec.getLsbD_or, BitVec.getLsbD_and, BitVec.getLsbD_not, BitVec.getLsbD_shiftLeft]
  grind

theorem tfaGetBfReg_eq (bf regVal : BitVec 16) : tfaGetBfReg bf regVal = bfGetBfValue bf regVal := by
  apply BitVec.eq_of_getLsbD_eq
  intro i hi
  unfold tfaGetBfReg bfGetBfValue
  change (BitVec.setWidth 16 (BitVec.setWidth 32 (BitVec.setWidth 16 (regVal.setWidth 32 &&& (bfMask bf).setWidth 32)) >>>
    bfPos bf)).getLsbD i = _
  simp only [BitVec.getLsbD_setWidth, BitVec.getLsbD_and, BitVec.getLsbD_ushiftRight]
  grind

/-! ## The registers under the driver's calls -/

theorem bytesReg_regBytes (v : BitVec 16) : bytesReg (((0xff00 &&& v) >>> 8).setWidth 8) ((0x00ff &&& v).setWidth 8) = v := by
  have hhi (i : Nat) : (0xff00 : BitVec 16).getLsbD i = decide (8 ≤ i ∧ i < 16) := by
    by_cases hi : i < 16
    · revert i
      decide
    · rw [BitVec.getLsbD_of_ge _ _ (by omega)]
      grind
  have hlo (i : Nat) : (0x00ff : BitVec 16).getLsbD i = decide (i < 8) := by
    by_cases hi : i < 16
    · revert i
      decide
    · rw [BitVec.getLsbD_of_ge _ _ (by omega)]
      grind
  apply BitVec.eq_of_getLsbD_eq
  intro i hi
  unfold bytesReg
  simp only [BitVec.getLsbD_or, BitVec.getLsbD_shiftLeft, BitVec.getLsbD_setWidth, BitVec.getLsbD_ushiftRight, BitVec.getLsbD_and, hhi, hlo]
  grind

variable {dev : Device} {t : Option TfaT} {c c' : Chip}

theorem Chip.follow_append (c : Chip) (trs trs' : List Transfer) :
    c.follow (trs ++ trs') = (c.follow trs).bind fun c => c.follow trs' := by
  induction trs generalizing c with
  | nil => rfl
  | cons tr trs ih =>
    rw [List.cons_append, follow, follow]
    cases c.step tr with
    | none => rfl
    | some c' => exact ih c'

theorem Chip.follows_append {bus : Bus} {trs : List Transfer} : c.Follows bus (bus ++ trs) c' ↔ c.follow trs = some c' := by
  constructor
  · rintro ⟨trs', heq, h⟩
    rwa [List.append_cancel_left heq]
  · exact fun h => ⟨trs, rfl, h⟩

theorem tfa9895WriteReg_succeeds (hdev : dev.Succeeds) (ht : noDevice t = false) (reg : Byte) (val : BitVec 16) (bus : Bus) :
    tfa9895WriteReg dev t reg val bus = (0, bus ++ [.write (reg :: regBytes val ++ [0]) true]) := by
  unfold tfa9895WriteReg
  rw [if_neg (by rw [ht]; decide), writeConfig_succeeds hdev]
  rfl

theorem tfa9895ReadReg_succeeds (hdev : dev.Succeeds) (ht : noDevice t = false) (reg : Byte) (bus : Bus) :
    ∃ hi lo, tfa9895ReadReg dev t reg bus =
      (0, some (bytesReg hi lo), bus ++ [.write [reg] true, .read 2 (some [hi, lo])]) := by
  obtain ⟨bytes, hlen, hread⟩ := readConfig_succeeds hdev 2 (bus ++ [.write [reg] true])
  obtain ⟨hi, lo, rfl⟩ := List.length_eq_two.1 hlen
  refine ⟨hi, lo, ?_⟩
  unfold tfa9895ReadReg
  rw [if_neg (by rw [ht]; decide)]
  simp only [writeConfig_succeeds hdev, hread, ne_eq, not_true_eq_false, if_false, List.append_assoc]
  rfl

/-- What a register is read as. -/
theorem Chip.follow_read {reg hi lo : Byte} {trs : List Transfer}
    (h : c.follow (.write [reg] true :: .read 2 (some [hi, lo]) :: trs) = some c') :
    bytesReg hi lo = c.regs reg ∧ Chip.follow { c with selected := reg } trs = some c' := by
  simp only [follow, step, Option.bind_some] at h
  split at h
  next heq =>
    simp only [regBytes, List.cons.injEq, and_true] at heq
    exact ⟨by rw [heq.1, heq.2, bytesReg_regBytes], h⟩
  next => cases h

theorem tfaSetBf_follows (hdev : dev.Succeeds) (ht : noDevice t = false) (bf v : BitVec 16) (force : Bool) (bus : Bus)
    (h : c.Follows bus (tfaSetBf dev t bf v force bus).2 c') :
    (tfaSetBf dev t bf v force bus).1 = 0 ∧ c'.regs = setField bf v c.regs := by
  obtain ⟨hi, lo, hread⟩ := tfa9895ReadReg_succeeds hdev ht (bfAddr bf) bus
  unfold tfaSetBf at h ⊢
  simp only [hread, tfa9895WriteReg_succeeds hdev ht] at h ⊢
  split at h
  next hwrite =>
    simp only [List.append_assoc, Chip.follows_append, List.cons_append, List.nil_append] at h
    obtain ⟨hreg, h⟩ := Chip.follow_read h
    simp only [Chip.follow, regBytes, Chip.step, List.cons_append, Option.bind_some, bytesReg_regBytes, Option.some.injEq] at h
    rw [if_pos hwrite, ← h, hreg]
    exact ⟨rfl, rfl⟩
  next hwrite =>
    simp only [Chip.follows_append] at h
    obtain ⟨hreg, h⟩ := Chip.follow_read h
    cases h
    rw [if_neg hwrite]
    -- the register already has the value, and is not written
    have hsame : bfSetBfValue bf v (c.regs (bfAddr bf)) = c.regs (bfAddr bf) := by
      rw [not_or, not_not] at hwrite
      rw [← hreg]
      exact hwrite.2.symm
    exact ⟨rfl, by rw [setField, hsame, Function.update_eq_self]⟩

theorem tfaGetBf_follows (hdev : dev.Succeeds) (ht : noDevice t = false) (bf : BitVec 16) (bus : Bus)
    (h : c.Follows bus (tfaGetBf dev t bf bus).2.2 c') :
    (tfaGetBf dev t bf bus).1 = 0 ∧ (tfaGetBf dev t bf bus).2.1 = some (bfGetBfValue bf (c.regs (bfAddr bf))) ∧
      c'.regs = c.regs := by
  obtain ⟨hi, lo, hread⟩ := tfa9895ReadReg_succeeds hdev ht (bfAddr bf) bus
  unfold tfaGetBf at h ⊢
  simp only [hread, Chip.follows_append] at h ⊢
  obtain ⟨hreg, h⟩ := Chip.follow_read h
  cases h
  exact ⟨trivial, by rw [hreg], rfl⟩

/-- The two calls make the steps of their own. -/
theorem tfaSetBf_reg (dev : Device) (t : Option TfaT) (bf val : BitVec 16) (force : Bool) (bus : Bus) :
    tfaSetBf dev t bf val force bus =
      match tfa9895ReadReg dev t (bfAddr bf) bus with
      | (rc, none, bus) => (rc, bus)
      | (_, some oldVal, bus) =>
        if force ∨ oldVal ≠ tfaSetBfReg bf val oldVal then tfa9895WriteReg dev t (bfAddr bf) (tfaSetBfReg bf val oldVal) bus
        else (0, bus) := by
  simp only [tfaSetBfReg_eq]
  rfl

/-- Fields of two registers, or with no bit in common. -/
theorem setField_comm (hv : FitsField bf v) (hv' : FitsField bf' v') (h : bfAddr bf ≠ bfAddr bf' ∨ ¬ SameBits bf bf')
    (regs : Byte → BitVec 16) : setField bf v (setField bf' v' regs) = setField bf' v' (setField bf v regs) := by
  unfold setField
  by_cases haddr : bfAddr bf = bfAddr bf'
  · rw [← haddr, Function.update_self, Function.update_self, Function.update_idem, Function.update_idem,
      bfSetBfValue_comm hv hv' (h.resolve_left (not_not.2 haddr))]
  · rw [Function.update_of_ne haddr, Function.update_of_ne (Ne.symm haddr), Function.update_comm haddr]

theorem tfaGetBf_reg (dev : Device) (t : Option TfaT) (bf : BitVec 16) (bus : Bus) :
    tfaGetBf dev t bf bus =
      match tfa9895ReadReg dev t (bfAddr bf) bus with
      | (rc, none, bus) => (rc, none, bus)
      | (_, some regVal, bus) => (0, some (tfaGetBfReg bf regVal), bus) := by
  simp only [tfaGetBfReg_eq]
  rfl

/-- What is expected of the operations on a field, of the cached register
`regVal` and of a chip that answers every call. -/
structure FieldOps (bf v regVal : BitVec 16) : Prop where
  get_set : bfGetBfValue bf (bfSetBfValue bf v regVal) = v
  outside : ∀ i < 16, ¬ InField bf i → (bfSetBfValue bf v regVal).getLsbD i = regVal.getLsbD i
  twice : bfSetBfValue bf v (bfSetBfValue bf v regVal) = bfSetBfValue bf v regVal
  comm : ∀ bf' v', InRegister bf' → FitsField bf' v' → ¬ SameBits bf bf' →
    bfSetBfValue bf v (bfSetBfValue bf' v' regVal) = bfSetBfValue bf' v' (bfSetBfValue bf v regVal)
  /-- the arithmetic of the device operations is that of the cached ones -/
  set_reg : tfaSetBfReg bf v regVal = bfSetBfValue bf v regVal
  get_reg : tfaGetBfReg bf regVal = bfGetBfValue bf regVal
  /-- on the chip, the register of the field changes as the cached one, and no other -/
  set_device : ∀ (dev : Device) (t : Option TfaT) (c c' : Chip) (force : Bool) (bus : Bus),
    dev.Succeeds → noDevice t = false → c.regs (bfAddr bf) = regVal → c.Follows bus (tfaSetBf dev t bf v force bus).2 c' →
      (tfaSetBf dev t bf v force bus).1 = 0 ∧ c'.regs = Function.update c.regs (bfAddr bf) (bfSetBfValue bf v regVal)
  get_device : ∀ (dev : Device) (t : Option TfaT) (c c' : Chip) (bus : Bus),
    dev.Succeeds → noDevice t = false → c.regs (bfAddr bf) = regVal → c.Follows bus (tfaGetBf dev t bf bus).2.2 c' →
      (tfaGetBf dev t bf bus).1 = 0 ∧ (tfaGetBf dev t bf bus).2.1 = some (bfGetBfValue bf regVal) ∧ c'.regs = c.regs
  /-- so fields of two registers, or with no bit in common, commute there too -/
  comm_device : ∀ bf' v' regs, InRegister bf' → FitsField bf' v' → bfAddr bf ≠ bfAddr bf' ∨ ¬ SameBits bf bf' →
    setField bf v (setField bf' v' regs) = setField bf' v' (setField bf v regs)

/-- **The operations on the fields of the amplifier keep to their field**, and
the two implementations agree. -/
theorem bit_fields (hbf : InRegister bf) (hv : FitsField bf v) (regVal : BitVec 16) : FieldOps bf v regVal where
  get_set := bfGetBfValue_bfSetBfValue hbf hv regVal
  outside := fun _ hi hout => getLsbD_bfSetBfValue hv regVal hi hout
  twice := bfSetBfValue_bfSetBfValue hv regVal
  comm := fun _ _ _ hv' h => bfSetBfValue_comm hv hv' h regVal
  set_reg := tfaSetBfReg_eq bf v regVal
  get_reg := tfaGetBfReg_eq bf regVal
  set_device := by
    intro dev t c c' force bus hdev ht hreg h
    obtain ⟨hrc, hregs⟩ := tfaSetBf_follows hdev ht bf v force bus h
    exact ⟨hrc, by rw [hregs, setField, hreg]⟩
  get_device := by
    intro dev t c c' bus hdev ht hreg h
    rw [← hreg]
    exact tfaGetBf_follows hdev ht bf bus h
  comm_device := fun _ _ regs _ hv' h => setField_comm hv hv' h regs

theorem bit_fields_dmem : (InRegister bfDmem ∧ FitsField bfDmem dmemXmem) ∧ FieldOps bfDmem dmemXmem 0x19 :=
  ⟨⟨by unfold InRegister; decide, by unfold FitsField; decide⟩,
    bit_fields (by unfold InRegister; decide) (by unfold FitsField; decide) 0x19⟩

end HiaeCommon.Tfa
