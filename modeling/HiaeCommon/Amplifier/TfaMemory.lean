/-
The memory of the DSP behind the registers of the chip: `MADD` is the address,
and each word that goes through the data port moves it on by one.

`tfa_dsp_msg_read_id` sets the address of the parameters, and then has
`tfa_read_mem` set it to 0x72, which is the number of the port. What it returns
is right only where the memory there has the same words (`readId_iff`).
-/
import HiaeCommon.Amplifier.TfaFields

namespace HiaeCommon.Tfa

/-! ## The memory -/

/-- The register the words of the memory are sent to and received from. -/
def dataPort : Byte := 0x72

/-- The registers, and the four memories that `DMEM` selects from. -/
structure Dsp where
  chip : Chip
  mem : BitVec 16 → BitVec 16 → BitVec 24

namespace Dsp

def dmem (d : Dsp) : BitVec 16 := bfGetBfValue bfDmem (d.chip.regs (bfAddr bfDmem))

def madd (d : Dsp) : BitVec 16 := d.chip.regs (bfAddr bfMadd)

def withChip (d : Dsp) (c : Chip) : Dsp := { d with chip := c }

def setReg (d : Dsp) (reg : Byte) (val : BitVec 16) : Dsp :=
  d.withChip ⟨Function.update d.chip.regs reg val, d.chip.selected⟩

def select (d : Dsp) (reg : Byte) : Dsp := d.withChip ⟨d.chip.regs, reg⟩

/-- `n` words went through the port. -/
def advance (d : Dsp) (n : Nat) : Dsp := d.setReg (bfAddr bfMadd) (d.madd + BitVec.ofNat 16 n)

/-- The words from `addr` on. -/
def words (d : Dsp) (bank addr : BitVec 16) (n : Nat) : List (BitVec 24) :=
  (List.range n).map fun i => d.mem bank (addr + BitVec.ofNat 16 i)

end Dsp

/-- A word as it is sent and received. -/
def wordBytes (w : BitVec 24) : List Byte :=
  [w.extractLsb' 16 8, w.extractLsb' 8 8, w.extractLsb' 0 8]

def bytesWord (b0 b1 b2 : Byte) : BitVec 24 := b0 ++ b1 ++ b2

/-- One word of one memory. -/
def putWord (bank addr : BitVec 16) (w : BitVec 24) (mem : BitVec 16 → BitVec 16 → BitVec 24) :
    BitVec 16 → BitVec 16 → BitVec 24 :=
  Function.update mem bank (Function.update (mem bank) addr w)

/-- The words sent to the port. There is no next state for a part of one. -/
def Dsp.store : Dsp → List Byte → Option Dsp
  | d, [] => some d
  | d, b0 :: b1 :: b2 :: bytes =>
    Dsp.store ({ d with mem := putWord d.dmem d.madd (bytesWord b0 b1 b2) d.mem }.advance 1) bytes
  | _, _ => none

/-- The words received from the port. -/
def Dsp.load (d : Dsp) (size : Nat) (bytes : List Byte) : Option Dsp :=
  if size % 3 = 0 ∧ bytes = (d.words d.dmem d.madd (size / 3)).flatMap wordBytes then some (d.advance (size / 3)) else none

/-- What a transfer that succeeds does. Where it is not for the port, it is for
a register. -/
def Dsp.step (d : Dsp) (tr : Transfer) : Option Dsp :=
  match tr with
  | .write (reg :: b :: bytes) true =>
    if reg = dataPort then d.store (b :: bytes) else (d.chip.step tr).map d.withChip
  | .read size (some bytes) =>
    if d.chip.selected = dataPort then d.load size bytes else (d.chip.step tr).map d.withChip
  | _ => (d.chip.step tr).map d.withChip

def Dsp.follow : Dsp → List Transfer → Option Dsp
  | d, [] => some d
  | d, tr :: trs => (d.step tr).bind fun d => d.follow trs

/-- The transfers of a call are those the DSP answers: its state was `d`, and is
`d'` then. -/
def Dsp.Follows (d : Dsp) (bus bus' : Bus) (d' : Dsp) : Prop :=
  ∃ trs, bus' = bus ++ trs ∧ d.follow trs = some d'

variable {d d' : Dsp} {trs : List Transfer} {bus : Bus}

@[simp] theorem Dsp.withChip_mem (d : Dsp) (c : Chip) : (d.withChip c).mem = d.mem := rfl
@[simp] theorem Dsp.withChip_chip (d : Dsp) (c : Chip) : (d.withChip c).chip = c := rfl
@[simp] theorem Dsp.setReg_mem (d : Dsp) (reg : Byte) (val : BitVec 16) : (d.setReg reg val).mem = d.mem := rfl
@[simp] theorem Dsp.select_mem (d : Dsp) (reg : Byte) : (d.select reg).mem = d.mem := rfl
@[simp] theorem Dsp.setReg_regs (d : Dsp) (reg : Byte) (val : BitVec 16) :
    (d.setReg reg val).chip.regs = Function.update d.chip.regs reg val := rfl
@[simp] theorem Dsp.select_regs (d : Dsp) (reg : Byte) : (d.select reg).chip.regs = d.chip.regs := rfl
@[simp] theorem Dsp.select_selected (d : Dsp) (reg : Byte) : (d.select reg).chip.selected = reg := rfl
@[simp] theorem Dsp.advance_mem (d : Dsp) (n : Nat) : (d.advance n).mem = d.mem := rfl
@[simp] theorem Dsp.advance_selected (d : Dsp) (n : Nat) : (d.advance n).chip.selected = d.chip.selected := rfl

/-- The address is set. -/
@[simp] theorem Dsp.setMadd_dmem (d : Dsp) (addr : BitVec 16) : (d.setReg (bfAddr bfMadd) addr).dmem = d.dmem := by
  rw [dmem, setReg_regs, Function.update_of_ne (by decide), dmem]

@[simp] theorem Dsp.setMadd_madd (d : Dsp) (addr : BitVec 16) : (d.setReg (bfAddr bfMadd) addr).madd = addr := by
  rw [madd, setReg_regs, Function.update_self]

@[simp] theorem Dsp.setDmem_dmem (d : Dsp) (val : BitVec 16) : (d.setReg (bfAddr bfDmem) val).dmem = bfGetBfValue bfDmem val := by
  rw [dmem, setReg_regs, Function.update_self]

@[simp] theorem Dsp.advance_dmem (d : Dsp) (n : Nat) : (d.advance n).dmem = d.dmem := setMadd_dmem d _

@[simp] theorem Dsp.advance_madd (d : Dsp) (n : Nat) : (d.advance n).madd = d.madd + BitVec.ofNat 16 n := setMadd_madd d _

/-- A value of `DMEM` set in any register value. -/
theorem get_dmemXmem (val : BitVec 16) : bfGetBfValue bfDmem (bfSetBfValue bfDmem dmemXmem val) = dmemXmem :=
  bfGetBfValue_bfSetBfValue (by unfold InRegister; decide) (by unfold FitsField; decide) val

theorem bytesWord_wordBytes (w : BitVec 24) : bytesWord (w.extractLsb' 16 8) (w.extractLsb' 8 8) (w.extractLsb' 0 8) = w := by
  apply BitVec.eq_of_getLsbD_eq
  intro i hi
  unfold bytesWord
  simp only [BitVec.getLsbD_append, BitVec.getLsbD_extractLsb']
  grind

theorem wordBytes_injective : Function.Injective wordBytes := by
  intro w w' h
  simp only [wordBytes, List.cons.injEq, and_true] at h
  rw [← bytesWord_wordBytes w, ← bytesWord_wordBytes w', h.1, h.2.1, h.2.2]

/-- The bytes determine the words. -/
theorem flatMap_wordBytes_injective {ws ws' : List (BitVec 24)} (h : ws.flatMap wordBytes = ws'.flatMap wordBytes) : ws = ws' := by
  induction ws generalizing ws' with
  | nil =>
    cases ws' with
    | nil => rfl
    | cons w' ws' => simp [wordBytes] at h
  | cons w ws ih =>
    cases ws' with
    | nil => simp [wordBytes] at h
    | cons w' ws' =>
      obtain ⟨hw, hws⟩ := List.append_inj (by simpa using h) (show (wordBytes w).length = (wordBytes w').length from rfl)
      rw [wordBytes_injective hw, ih hws]

theorem length_flatMap_wordBytes (ws : List (BitVec 24)) : (ws.flatMap wordBytes).length = 3 * ws.length := by
  induction ws with
  | nil => rfl
  | cons w ws ih =>
    rw [List.flatMap_cons, List.length_append, ih, List.length_cons]
    simp only [wordBytes, List.length_cons, List.length_nil]
    omega

theorem Dsp.words_add (d : Dsp) (bank addr : BitVec 16) (m n : Nat) :
    d.words bank addr (m + n) = d.words bank addr m ++ d.words bank (addr + BitVec.ofNat 16 m) n := by
  unfold words
  rw [List.range_add, List.map_append, List.map_map]
  congr 2
  funext i
  rw [Function.comp, BitVec.ofNat_add, BitVec.add_assoc]

/-! ## Calls -/

theorem Dsp.follow_append (d : Dsp) (trs trs' : List Transfer) :
    d.follow (trs ++ trs') = (d.follow trs).bind fun d => d.follow trs' := by
  induction trs generalizing d with
  | nil => rfl
  | cons tr trs ih =>
    rw [List.cons_append, follow, follow]
    cases d.step tr with
    | none => rfl
    | some d' => exact ih d'

theorem Dsp.follows_append : d.Follows bus (bus ++ trs) d' ↔ d.follow trs = some d' := by
  constructor
  · rintro ⟨trs', heq, h⟩
    rwa [List.append_cancel_left heq]
  · exact fun h => ⟨trs, rfl, h⟩

theorem Dsp.follow_select (d : Dsp) (reg : Byte) (trs : List Transfer) :
    d.follow (.write [reg] true :: trs) = (d.select reg).follow trs := rfl

theorem Dsp.follow_writeReg {reg : Byte} (hreg : reg ≠ dataPort) (val : BitVec 16) (trs : List Transfer) (d : Dsp) :
    d.follow (.write (reg :: regBytes val ++ [0]) true :: trs) = (d.setReg reg val).follow trs := by
  simp only [follow, regBytes, List.cons_append, step, if_neg hreg, Chip.step, bytesReg_regBytes, Option.map_some, Option.bind_some]
  rfl

/-- A word is written where the address is. -/
theorem Dsp.follow_word (b0 b1 b2 : Byte) (trs : List Transfer) (d : Dsp) :
    d.follow (.write [dataPort, b0, b1, b2] true :: trs) =
      Dsp.follow ({ d with mem := putWord d.dmem d.madd (bytesWord b0 b1 b2) d.mem }.advance 1) trs := by
  rw [follow, step, if_pos rfl, store, store, Option.bind_some]

/-- The words that come from the port in pieces. -/
theorem Dsp.follow_reads (cs : List (List Byte)) {d d' : Dsp} (hsel : d.chip.selected = dataPort)
    (h : d.follow (cs.map fun c => .read c.length (some c)) = some d') :
    cs.flatten = (d.words d.dmem d.madd (cs.flatten.length / 3)).flatMap wordBytes ∧ d'.mem = d.mem := by
  induction cs generalizing d with
  | nil =>
    cases h
    exact ⟨rfl, rfl⟩
  | cons c cs ih =>
    simp only [List.map_cons, follow, step, if_pos hsel, load] at h
    split at h
    next hc =>
      obtain ⟨hmod, hbytes⟩ := hc
      obtain ⟨hflat, hmem⟩ := ih (d := d.advance (c.length / 3)) (by rw [advance_selected, hsel]) h
      have hlen : (c.length + cs.flatten.length) / 3 = c.length / 3 + cs.flatten.length / 3 := by omega
      refine ⟨?_, by rw [hmem, advance_mem]⟩
      rw [List.flatten_cons, List.length_append, hlen, words_add, List.flatMap_append, ← hbytes]
      rw [advance_dmem, advance_madd] at hflat
      exact congrArg (c ++ ·) hflat
    next => cases h

/-- The transfer names the port. -/
def Transfer.AtPort : Transfer → Prop
  | .write (reg :: _) _ => reg = dataPort
  | _ => False

/-- Transfers that do not name the port are those of the registers. -/
theorem Dsp.follow_chip (trs : List Transfer) {d : Dsp} (hsel : d.chip.selected ≠ dataPort) (hplain : ∀ tr ∈ trs, ¬ tr.AtPort)
    (h : d.follow trs = some d') : d.chip.follow trs = some d'.chip ∧ d'.mem = d.mem := by
  induction trs generalizing d with
  | nil =>
    cases h
    exact ⟨rfl, rfl⟩
  | cons tr trs ih =>
    obtain ⟨htr, hplain⟩ := List.forall_mem_cons.1 hplain
    have hstep : d.step tr = (d.chip.step tr).map d.withChip := by
      unfold step
      split
      next => exact if_neg htr
      next => exact if_neg hsel
      next => rfl
    rw [follow, hstep] at h
    rw [Chip.follow]
    cases hc : d.chip.step tr with
    | none =>
      rw [hc] at h
      cases h
    | some c =>
      rw [hc] at h
      have hsel' : c.selected ≠ dataPort := by
        unfold Chip.step at hc
        split at hc
        next =>
          cases hc
          exact htr
        next =>
          cases hc
          exact hsel
        next =>
          split at hc
          · cases hc
            exact hsel
          · cases hc
        next => cases hc
      obtain ⟨hfollow, hmem⟩ := ih (d := d.withChip c) hsel' hplain h
      exact ⟨hfollow, hmem⟩

/-- A run is cut where a call ends. -/
theorem Dsp.Follows.split {bus' bus'' : Bus} (h : d.Follows bus bus'' d') (h1 : bus <+: bus') (h2 : bus' <+: bus'') :
    ∃ e, d.Follows bus bus' e ∧ e.Follows bus' bus'' d' := by
  obtain ⟨trs, rfl⟩ := h1
  obtain ⟨trs', rfl⟩ := h2
  rw [List.append_assoc, follows_append, follow_append] at h
  cases he : d.follow trs with
  | none =>
    rw [he] at h
    cases h
  | some e =>
    rw [he] at h
    exact ⟨e, follows_append.2 he, follows_append.2 h⟩

variable {dev : Device} {t : Option TfaT} {bf v : BitVec 16}

/-- The register of the field is named, and then the port is not. -/
theorem tfaSetBf_transfers (hdev : dev.Succeeds) (ht : noDevice t = false) (hbf : bfAddr bf ≠ dataPort) (v : BitVec 16) (force : Bool)
    (bus : Bus) : ∃ trs, (tfaSetBf dev t bf v force bus).2 = bus ++ .write [bfAddr bf] true :: trs ∧ ∀ tr ∈ trs, ¬ tr.AtPort := by
  obtain ⟨hi, lo, hread⟩ := tfa9895ReadReg_succeeds hdev ht (bfAddr bf) bus
  unfold tfaSetBf
  simp only [hread, tfa9895WriteReg_succeeds hdev ht]
  split
  next =>
    refine ⟨[.read 2 (some [hi, lo]), .write (bfAddr bf :: regBytes (bfSetBfValue bf v (bytesReg hi lo)) ++ [0]) true], by simp,
      fun tr htr => ?_⟩
    simp only [List.mem_cons, List.not_mem_nil, or_false] at htr
    rcases htr with rfl | rfl
    · exact id
    · exact hbf
  next =>
    refine ⟨_, rfl, fun tr htr => ?_⟩
    simp only [List.mem_cons, List.not_mem_nil, or_false] at htr
    subst htr
    exact id

theorem tfaSetBf_dsp (hdev : dev.Succeeds) (ht : noDevice t = false) (hbf : bfAddr bf ≠ dataPort) (v : BitVec 16) (force : Bool)
    (bus : Bus) (h : d.Follows bus (tfaSetBf dev t bf v force bus).2 d') :
    d'.mem = d.mem ∧ d'.chip.regs = setField bf v d.chip.regs := by
  obtain ⟨trs, hbus, hplain⟩ := tfaSetBf_transfers hdev ht hbf v force bus
  have hchip (hc : d.chip.Follows bus (tfaSetBf dev t bf v force bus).2 d'.chip) := tfaSetBf_follows hdev ht bf v force bus hc
  rw [hbus] at h hchip
  rw [Dsp.follows_append, Dsp.follow_select] at h
  obtain ⟨hfollow, hmem⟩ := Dsp.follow_chip trs (d := d.select (bfAddr bf)) hbf hplain h
  exact ⟨hmem, (hchip (Chip.follows_append.2 hfollow)).2⟩

theorem tfaWriteReg_dsp (hdev : dev.Succeeds) (ht : noDevice t = false) (hbf : bfAddr bf ≠ dataPort) (v : BitVec 16) (bus : Bus)
    (h : d.Follows bus (tfaWriteReg dev t bf v bus).2 d') : d' = d.setReg (bfAddr bf) v := by
  unfold tfaWriteReg at h
  rw [tfa9895WriteReg_succeeds hdev ht, Dsp.follows_append, Dsp.follow_writeReg hbf] at h
  cases h
  rfl

theorem prefix_tfaSetBf (hdev : dev.Succeeds) (ht : noDevice t = false) (hbf : bfAddr bf ≠ dataPort) (v : BitVec 16) (force : Bool)
    (bus : Bus) : bus <+: (tfaSetBf dev t bf v force bus).2 := by
  obtain ⟨trs, hbus, -⟩ := tfaSetBf_transfers hdev ht hbf v force bus
  exact ⟨_, hbus.symm⟩

theorem prefix_tfaWriteReg (hdev : dev.Succeeds) (ht : noDevice t = false) (bf v : BitVec 16) (bus : Bus) :
    bus <+: (tfaWriteReg dev t bf v bus).2 := by
  unfold tfaWriteReg
  rw [tfa9895WriteReg_succeeds hdev ht]
  exact List.prefix_append _ _

/-! ## The words a read returns -/

/-- A read of the port in whole words. -/
theorem tfa9895ReadData_dsp (hdev : dev.Succeeds) (ht : noDevice t = false) (numWords : Nat) (bus : Bus) :
    ∃ bytes bus', tfa9895ReadData dev t 0x72 (numWords * 3) 3 bus = .returns (0, bytes, bus') ∧ bus <+: bus' ∧
      ∀ d d' : Dsp, d.Follows bus bus' d' →
        bytes = (d.words d.dmem d.madd numWords).flatMap wordBytes ∧ d'.mem = d.mem := by
  obtain ⟨cs, bytes, hcs, hlen, heq⟩ := tfa9895ReadData_chunked hdev ht (show 1 ≤ 3 by decide) (show 3 ≤ maxI2cLength by decide)
    0x72 (numWords * 3) bus
  refine ⟨bytes, _, heq, List.prefix_append _ _, fun d d' h => ?_⟩
  have haddr : low8 0x72 = dataPort := by decide
  rw [haddr, Dsp.follows_append, Dsp.follow_select] at h
  obtain ⟨hflat, hmem⟩ := Dsp.follow_reads cs (d := d.select dataPort) rfl h
  rw [hcs.flatten, hlen, Nat.mul_div_cancel _ (by decide)] at hflat
  exact ⟨hflat, hmem⟩

theorem tfaReadMem_dsp (hdev : dev.Succeeds) (ht : noDevice t = false) (startAddr : BitVec 16) (numWords : Nat) (bus : Bus) :
    ∃ bytes bus', tfaReadMem dev t startAddr numWords bus = .returns (0, some (bytes2data bytes), bus') ∧ bus <+: bus' ∧
      ∀ d d' : Dsp, d.Follows bus bus' d' →
        bytes = (d.words dmemXmem startAddr numWords).flatMap wordBytes ∧ d'.mem = d.mem := by
  have hdmem : bfAddr bfDmem ≠ dataPort := by decide
  have hmadd : bfAddr bfMadd ≠ dataPort := by decide
  have hset := prefix_tfaSetBf hdev ht hdmem dmemXmem false bus
  have hwrite := prefix_tfaWriteReg hdev ht bfMadd startAddr (tfaSetBf dev t bfDmem dmemXmem false bus).2
  obtain ⟨bytes, bus', hread, hpre, hbytes⟩ := tfa9895ReadData_dsp hdev ht numWords
    (tfaWriteReg dev t bfMadd startAddr (tfaSetBf dev t bfDmem dmemXmem false bus).2).2
  refine ⟨bytes, bus', ?_, hset.trans (hwrite.trans hpre), fun d d' h => ?_⟩
  · unfold tfaReadMem
    simp only [hread, Ends.andThen_returns, ne_eq, not_true_eq_false, if_false]
  · obtain ⟨d1, h1, h⟩ := h.split hset (hwrite.trans hpre)
    obtain ⟨d2, h2, h⟩ := h.split hwrite hpre
    obtain ⟨hmem1, hregs1⟩ := tfaSetBf_dsp hdev ht hdmem dmemXmem false bus h1
    have hd2 := tfaWriteReg_dsp hdev ht hmadd startAddr _ h2
    obtain ⟨hflat, hmem⟩ := hbytes d2 d' h
    subst hd2
    have hxmem : d1.dmem = dmemXmem := by
      rw [Dsp.dmem, hregs1, setField, Function.update_self, get_dmemXmem]
    rw [Dsp.setMadd_dmem, Dsp.setMadd_madd, hxmem, Dsp.words, Dsp.setReg_mem, hmem1] at hflat
    exact ⟨hflat, by rw [hmem, Dsp.setReg_mem, hmem1]⟩

/-! ## The read of the parameters -/

/-- Whatever the DSP does by itself, the transfer leaves the memory alone. -/
def Transfer.KeepsMemory (tr : Transfer) : Prop :=
  ∀ d d' : Dsp, d.step tr = some d' → d'.mem = d.mem

/-- No transfer of the call writes to the memory. -/
def Quiet (bus bus' : Bus) : Prop :=
  ∃ trs, bus' = bus ++ trs ∧ ∀ tr ∈ trs, tr.KeepsMemory

theorem keepsMemory_read (size : Nat) (bytes : Option (List Byte)) : (Transfer.read size bytes).KeepsMemory := by
  intro d d' h
  cases bytes with
  | none =>
    obtain ⟨c, -, rfl⟩ := Option.map_eq_some_iff.1 h
    rfl
  | some bytes =>
    by_cases hsel : d.chip.selected = dataPort
    · simp only [Dsp.step, if_pos hsel, Dsp.load] at h
      split at h
      · cases h
        exact Dsp.advance_mem _ _
      · cases h
    · simp only [Dsp.step, if_neg hsel] at h
      obtain ⟨c, -, rfl⟩ := Option.map_eq_some_iff.1 h
      rfl

theorem keepsMemory_select (reg : Byte) : (Transfer.write [reg] true).KeepsMemory := by
  intro d d' h
  cases h
  rfl

theorem keepsMemory_writeReg {reg : Byte} (hreg : reg ≠ dataPort) (bytes : List Byte) :
    (Transfer.write (reg :: bytes) true).KeepsMemory := by
  intro d d' h
  cases bytes with
  | nil => exact keepsMemory_select reg d d' h
  | cons b bytes =>
    rw [Dsp.step, if_neg hreg] at h
    obtain ⟨c, -, rfl⟩ := Option.map_eq_some_iff.1 h
    rfl

theorem Quiet.refl (bus : Bus) : Quiet bus bus :=
  ⟨[], (List.append_nil bus).symm, fun _ h => absurd h List.not_mem_nil⟩

theorem Quiet.trans {bus bus' bus'' : Bus} (h : Quiet bus bus') (h' : Quiet bus' bus'') : Quiet bus bus'' := by
  obtain ⟨trs, rfl, hk⟩ := h
  obtain ⟨trs', rfl, hk'⟩ := h'
  refine ⟨trs ++ trs', List.append_assoc _ _ _, fun tr htr => ?_⟩
  rcases List.mem_append.1 htr with htr | htr
  · exact hk tr htr
  · exact hk' tr htr

theorem quiet_tfaWriteReg (hdev : dev.Succeeds) (ht : noDevice t = false) (hbf : bfAddr bf ≠ dataPort) (v : BitVec 16) (bus : Bus) :
    Quiet bus (tfaWriteReg dev t bf v bus).2 := by
  unfold tfaWriteReg
  rw [tfa9895WriteReg_succeeds hdev ht]
  exact ⟨_, rfl, fun tr htr => by rw [List.mem_singleton.1 htr]; exact keepsMemory_writeReg hbf _⟩

/-- A register is named, and what it holds is read. -/
theorem quiet_named (bus : Bus) (reg : Byte) (size : Nat) (bytes : Option (List Byte)) :
    Quiet bus (bus ++ [.write [reg] true, .read size bytes]) := by
  refine ⟨_, rfl, fun tr htr => ?_⟩
  simp only [List.mem_cons, List.not_mem_nil, or_false] at htr
  rcases htr with rfl | rfl
  · exact keepsMemory_select reg
  · exact keepsMemory_read size bytes

theorem quiet_tfaGetBf (hdev : dev.Succeeds) (ht : noDevice t = false) (bf : BitVec 16) (bus : Bus) :
    Quiet bus (tfaGetBf dev t bf bus).2.2 := by
  obtain ⟨hi, lo, hread⟩ := tfa9895ReadReg_succeeds hdev ht (bfAddr bf) bus
  unfold tfaGetBf
  rw [hread]
  exact quiet_named bus (bfAddr bf) 2 _

theorem quiet_readWord (hdev : dev.Succeeds) (ht : noDevice t = false) (bus : Bus) : Quiet bus (readWord dev t bus).2.2 := by
  obtain ⟨c, -, hread⟩ := readConfig_succeeds hdev 3 (bus ++ [.write [0x72] true])
  unfold readWord
  rw [if_neg (by rw [ht]; decide)]
  simp only [writeConfig_succeeds hdev, hread, ne_eq, not_true_eq_false, if_false, List.append_assoc]
  exact quiet_named bus 0x72 3 _

theorem quiet_pollOf (hdev : dev.Succeeds) (ht : noDevice t = false) (cfStatus : BitVec 16) (bus : Bus) :
    Quiet bus (pollOf dev t cfStatus bus).bus := by
  have hack := quiet_tfaGetBf hdev ht bfAck bus
  unfold pollOf
  dsimp only
  split
  · have hdmem := quiet_tfaWriteReg hdev ht (show bfAddr bfDmem ≠ dataPort by decide) (bfSetBfValue bfDmem dmemXmem 0)
      (tfaGetBf dev t bfAck bus).2.2
    have hmadd := quiet_tfaWriteReg hdev ht (show bfAddr bfMadd ≠ dataPort by decide) 0x0
      (tfaWriteReg dev t bfDmem (bfSetBfValue bfDmem dmemXmem 0) (tfaGetBf dev t bfAck bus).2.2).2
    exact ((hack.trans hdmem).trans hmadd).trans (quiet_readWord hdev ht _)
  · exact hack

theorem quiet_pollState (hdev : dev.Succeeds) (ht : noDevice t = false) (stack : Stack) (sent : Bus) (i : Nat) :
    Quiet sent (pollState dev stack t sent i).2 := by
  induction i with
  | zero => exact Quiet.refl sent
  | succ i ih => exact ih.trans (quiet_pollOf hdev ht _ _)

/-- The poll that ends the loop is the only one that is the first. -/
theorem FirstTaken.eq {stack : Stack} {sent : Bus} {i j : Nat} (hi : FirstTaken dev stack t sent i)
    (hj : FirstTaken dev stack t sent j) : i = j := by
  rcases Nat.lt_trichotomy i j with hlt | heq | hlt
  · exact absurd hi.2.1 (hj.2.2 i hlt)
  · exact heq
  · exact absurd hj.2.1 (hi.2.2 j hlt)

/-- The word that names the message. -/
def idWord (moduleId paramId : Byte) : BitVec 24 := bytesWord 0 (moduleId + 128) paramId

/-- The request puts the word that names the message at address 1, and nothing else. -/
theorem readRequest_dsp (hdev : dev.Succeeds) (ht : noDevice t = false) {moduleId paramId : Byte} {sent : Bus}
    (hreq : readRequest dev t moduleId paramId bus = .returns sent) (h : d.Follows bus sent d') :
    d'.mem = putWord dmemXmem 1 (idWord moduleId paramId) d.mem := by
  have hdmem : bfAddr bfDmem ≠ dataPort := by decide
  have hmadd : bfAddr bfMadd ≠ dataPort := by decide
  have hcfint : bfAddr bfCfint ≠ dataPort := by decide
  obtain ⟨cs, hcs, hwrite⟩ := tfa9895WriteData_chunked hdev ht (show 1 ≤ 3 by decide) (show 3 ≤ maxI2cLength by decide) 0x72
    [0, moduleId + 128, paramId] (tfaWriteReg dev t bfMadd 0x1 (tfaWriteReg dev t bfDmem (bfSetBfValue bfDmem dmemXmem 0) bus).2).2
  obtain rfl := hcs.eq_singleton (by decide) (show 3 ≤ _ by decide)
  have haddr : low8 0x72 = dataPort := by decide
  unfold readRequest msgId at hreq
  simp only [List.length_cons, List.length_nil, Nat.zero_add, Nat.reduceAdd] at hwrite
  simp only [hwrite, Ends.andThen_returns, Ends.returns.injEq, List.map_cons, List.map_nil] at hreq
  subst hreq
  unfold msgNotify tfaWriteReg at h
  simp only [tfa9895WriteReg_succeeds hdev ht, List.append_assoc, Dsp.follows_append, List.singleton_append] at h
  rw [haddr, List.cons_append, Dsp.follow_writeReg hdmem, List.cons_append, Dsp.follow_writeReg hmadd, List.nil_append, Dsp.follow_word,
    Dsp.follow_writeReg hcfint] at h
  cases h
  simp only [Dsp.setReg_mem, Dsp.advance_mem, Dsp.setMadd_dmem, Dsp.setMadd_madd, Dsp.setDmem_dmem, get_dmemXmem]
  rfl

/-- What is expected of a message that was read. The transfers up to `sent` are
the request, those up to `polled` the polls, and after them the memory is that of
`d`. -/
structure ReadsParameters (moduleId paramId : Byte) (len : Nat) (bus sent polled : Bus) (data : List Byte) (d d' : Dsp) : Prop where
  /-- the parameters are behind the status word and the one that names the message -/
  data : data = (d.words dmemXmem 0x2 (len / 3)).flatMap wordBytes
  kept : d'.mem = d.mem
  request : ∀ e e' : Dsp, e.Follows bus sent e' → e'.mem = putWord dmemXmem 0x1 (idWord moduleId paramId) e.mem
  polls : Quiet sent polled

/-- The words the message is answered with are those at 0x72. -/
theorem readParameters_dsp (hdev : dev.Succeeds) (ht : noDevice t = false) (len : Nat) (bus : Bus) :
    ∃ bytes bus', readParameters dev t len bus = .returns (0, some (bytes2data bytes), bus') ∧
      ∀ d d' : Dsp, d.Follows bus bus' d' →
        bytes = (d.words dmemXmem 0x72 (len / 3)).flatMap wordBytes ∧ d'.mem = d.mem := by
  have hmadd : bfAddr bfMadd ≠ dataPort := by decide
  have hwrite := prefix_tfaWriteReg hdev ht bfMadd 0x2 bus
  obtain ⟨bytes, bus', hread, hpre, hbytes⟩ := tfaReadMem_dsp hdev ht 0x72 (len / 3) (tfaWriteReg dev t bfMadd 0x2 bus).2
  refine ⟨bytes, bus', hread, fun d d' h => ?_⟩
  obtain ⟨d1, h1, h⟩ := h.split hwrite hpre
  obtain ⟨hflat, hmem⟩ := hbytes d1 d' h
  -- the address that was set here is set again in the read
  obtain rfl := tfaWriteReg_dsp hdev ht hmadd 0x2 bus h1
  exact ⟨hflat, hmem⟩

theorem words_eq_iff (d : Dsp) (bank addr addr' : BitVec 16) (n : Nat) :
    d.words bank addr n = d.words bank addr' n ↔
      ∀ i < n, d.mem bank (addr + BitVec.ofNat 16 i) = d.mem bank (addr' + BitVec.ofNat 16 i) := by
  unfold Dsp.words
  rw [List.map_inj_left]
  simp only [List.mem_range]

/-- **A message that is read gives the parameters exactly when the memory has the
same words from 0x72 on as from 2 on**, as many as are asked for. -/
theorem readId_iff (hdev : dev.Succeeds) (ht : noDevice t = false) {stack : Stack} {moduleId paramId : Byte} {len i : Nat}
    {bus sent bus' : Bus} {data : List Byte} {d d' : Dsp} (hreq : readRequest dev t moduleId paramId bus = .returns sent)
    (hi : FirstTaken dev stack t sent i)
    (hret : tfaDspMsgReadId dev stack t moduleId paramId len bus = .returns (0, some data, bus'))
    (hd : d.Follows (pollAt dev stack t sent i).bus bus' d') :
    ReadsParameters moduleId paramId len bus sent (pollAt dev stack t sent i).bus data d d' ↔
      ∀ k < len / 3, d.mem dmemXmem (0x72 + BitVec.ofNat 16 k) = d.mem dmemXmem (0x2 + BitVec.ofNat 16 k) := by
  obtain ⟨bytes, bus'', hread, hbytes⟩ := readParameters_dsp hdev ht len (pollAt dev stack t sent i).bus
  have hstatus : tfaDspMsgStatus dev stack t 100 sent = .returns (true, (pollAt dev stack t sent i).bus) := by
    rcases tfaDspMsgStatus_ends dev stack t sent with ⟨j, hj, heq⟩ | ⟨hnone, -⟩
    · rw [hi.eq hj, heq]
    · exact absurd hi.2.1 (hnone i hi.1)
  unfold tfaDspMsgReadId at hret
  simp only [hreq, hstatus, hread, Ends.andThen_returns, if_true] at hret
  obtain ⟨b, hb⟩ := data2bytes_bytes2data bytes
  simp only [hb, Ends.returns.injEq, Prod.mk.injEq, Option.some.injEq, true_and] at hret
  obtain ⟨rfl, rfl⟩ := hret
  obtain ⟨hflat, hmem⟩ := hbytes d d' hd
  have hwhole : bytes.length % 3 = 0 := by
    rw [hflat, length_flatMap_wordBytes]
    exact Nat.mul_mod_right _ _
  rw [encode_decode hwhole, Option.some.injEq] at hb
  rw [← words_eq_iff]
  constructor
  · intro h
    rw [hflat] at hb
    exact flatMap_wordBytes_injective (hb.trans h.data)
  · intro h
    exact
      { data := by rw [← hb, hflat, h]
        kept := hmem
        request := fun e e' he => readRequest_dsp hdev ht hreq he
        polls := (quiet_pollState hdev ht stack sent i).trans (quiet_pollOf hdev ht _ _) }

/-- It acknowledges the first poll, and answers 7 to the read of the memory. -/
def sevenDevice : Device where
  answer := fun n => .done fun i =>
    match n, i with
    | 5, 0 => 1#8
    | 12, 1 => 2#8
    | 15, 2 => 7#8
    | _, _ => 0#8
  bufferLen := 255
  room := maxI2cLength_le

/-- After the poll: the memory XMEM is selected, and the port was read. -/
def sampleDsp (mem : BitVec 16 → BitVec 16 → BitVec 24) : Dsp where
  chip := { regs := fun reg => if reg = 0x70 then 2#16 else 0#16, selected := 0x72 }
  mem := mem

/-- The transfers of the request, the poll, and the read of one word. -/
def readTransfers : Bus :=
  [.write [0x70, 0, 2, 0] true, .write [0x71, 0, 1, 0] true, .write [0x72, 0, 129, 6] true, .write [0x70, 1, 0x12, 0] true]

def pollTransfers : Bus :=
  [.write [0x73] true, .read 2 (some [1, 0]), .write [0x70, 0, 2, 0] true, .write [0x71, 0, 0, 0] true, .write [0x72] true,
    .read 3 (some [0, 0, 0])]

def wordTransfers : Bus :=
  [.write [0x71, 0, 2, 0] true, .write [0x70] true, .read 2 (some [0, 2]), .write [0x71, 0, 0x72, 0] true, .write [0x72] true,
    .read 3 (some [0, 0, 7])]

theorem firstTaken_seven : FirstTaken sevenDevice zeroStack (some openTfa) readTransfers 0 :=
  ⟨by decide, ⟨by decide, .inr (.inr (by decide))⟩, fun j hj => absurd hj (Nat.not_lt_zero j)⟩

theorem readId_seven :
    tfaDspMsgReadId sevenDevice zeroStack (some openTfa) 1 6 3 [] =
      .returns (0, some [0, 0, 7], readTransfers ++ pollTransfers ++ wordTransfers) := by
  decide +kernel

theorem sampleDsp_follows (mem : BitVec 16 → BitVec 16 → BitVec 24) (h : ((sampleDsp mem).follow wordTransfers).isSome = true) :
    ∃ d', (sampleDsp mem).Follows (pollAt sevenDevice zeroStack (some openTfa) readTransfers 0).bus
      (readTransfers ++ pollTransfers ++ wordTransfers) d' := by
  have hpolled : (pollAt sevenDevice zeroStack (some openTfa) readTransfers 0).bus = readTransfers ++ pollTransfers := by decide +kernel
  obtain ⟨d', hd'⟩ := Option.isSome_iff_exists.1 h
  rw [hpolled]
  exact ⟨d', wordTransfers, rfl, hd'⟩

/-- Every word of the memory is 7. -/
theorem readId_iff_sevens :
    sevenDevice.Succeeds ∧ noDevice (some openTfa) = false ∧
      readRequest sevenDevice (some openTfa) 1 6 [] = .returns readTransfers ∧
      FirstTaken sevenDevice zeroStack (some openTfa) readTransfers 0 ∧
      ∃ d', (sampleDsp fun _ _ => 7).Follows (pollAt sevenDevice zeroStack (some openTfa) readTransfers 0).bus
          (readTransfers ++ pollTransfers ++ wordTransfers) d' ∧
        (ReadsParameters 1 6 3 [] readTransfers (pollAt sevenDevice zeroStack (some openTfa) readTransfers 0).bus [0, 0, 7]
            (sampleDsp fun _ _ => 7) d' ↔
          ∀ k < 3 / 3, (sampleDsp fun _ _ => 7).mem dmemXmem (0x72 + BitVec.ofNat 16 k) =
            (sampleDsp fun _ _ => 7).mem dmemXmem (0x2 + BitVec.ofNat 16 k)) := by
  have hdev : sevenDevice.Succeeds := fun _ => ⟨_, rfl⟩
  have hreq : readRequest sevenDevice (some openTfa) 1 6 [] = .returns readTransfers := by decide +kernel
  obtain ⟨d', hd'⟩ := sampleDsp_follows (fun _ _ => 7) (by decide +kernel)
  exact ⟨hdev, rfl, hreq, firstTaken_seven, d', hd', readId_iff hdev rfl hreq firstTaken_seven readId_seven hd'⟩

/-- The parameter is 0, and what is returned is the word at 0x72. -/
theorem not_readsParameters : ¬ ∀ (dev : Device) (t : Option TfaT) (stack : Stack) (moduleId paramId : Byte) (len i : Nat)
    (bus sent bus' : Bus) (data : List Byte) (d d' : Dsp), dev.Succeeds → noDevice t = false → len % 3 = 0 →
    readRequest dev t moduleId paramId bus = .returns sent → FirstTaken dev stack t sent i →
    tfaDspMsgReadId dev stack t moduleId paramId len bus = .returns (0, some data, bus') →
    d.Follows (pollAt dev stack t sent i).bus bus' d' →
      ReadsParameters moduleId paramId len bus sent (pollAt dev stack t sent i).bus data d d' := by
  intro h
  obtain ⟨d', hd'⟩ := sampleDsp_follows (fun _ addr => if addr = 0x72 then 7 else 0) (by decide +kernel)
  have hdata := (h sevenDevice (some openTfa) zeroStack 1 6 3 0 [] readTransfers _ [0, 0, 7] _ d' (fun _ => ⟨_, rfl⟩) rfl rfl
    (by decide +kernel) firstTaken_seven readId_seven hd').data
  exact absurd hdata (by decide +kernel)

end HiaeCommon.Tfa
