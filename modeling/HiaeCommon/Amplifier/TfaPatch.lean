/-
The patch loader of tfa.c: six bytes of header, checked against the chip, and
then records of a register address and what to write there.

`tfa_dsp_patch` reads the header and the sizes without asking whether they are
there, copies a record into a buffer of 254 bytes whatever its size, and sends
one byte more than the record has (`patch_sound_iff`).
-/
import HiaeCommon.Lib.Records
import HiaeCommon.Amplifier.TfaDsp

namespace HiaeCommon.Tfa

open Lib (records encodeRecords le16)

variable (dev : Device)

/-! ## The header -/

def patchHeaderLength : Nat := 6

def tfaDspSystemStable (t : Option TfaT) (bus : Bus) : Bool × Bus :=
  match tfaReadReg dev t bfArefs bus with
  | (_, none, bus) => (false, bus)
  | (_, some status, bus) => (bfGetBfValue bfArefs status ≠ 0 ∧ bfGetBfValue bfClks status ≠ 0, bus)

/-- `patchHeader` is what lies at the pointer. `val` is what the variable of
that name holds where the memory cannot be read. -/
def tfaCheckIcRomVersion (t : TfaT) (val : BitVec 32) (patchHeader : List Byte) (bus : Bus) : Ends (Bool × Bus) :=
  match patchHeader with
  | [] => .undefined
  | checkRev :: header =>
    if checkRev ≠ 0xff ∧ checkRev ≠ (t.rev &&& 0xff).setWidth 8 then .returns (false, bus)
    else
      match header with
      | h1 :: h2 :: h3 :: h4 :: h5 :: _ =>
        let checkAddr : BitVec 16 := (h1.setWidth 16 <<< 8) + h2.setWidth 16
        let checkVal : BitVec 32 := (h3.setWidth 32 <<< 16) + (h4.setWidth 32 <<< 8) + h5.setWidth 32
        if checkAddr ≠ 0xffff then
          let s := tfaDspSystemStable dev (some t) bus
          if s.1 then
            (tfaReadMem dev (some t) checkAddr 1 s.2).andThen fun r =>
              -- the result of the read is not looked at
              let val := ((r.2.1.getD []).head?).getD val
              .returns (val = checkVal, r.2.2)
          else .returns (false, s.2)
        else if checkVal ≠ 0xffffff ∧ checkVal ≠ 0 then
          let revId : BitVec 16 := (h5.setWidth 16 <<< 8) ||| checkRev.setWidth 16
          .returns (revId = t.rev, bus)
        else .returns (true, bus)
      | _ => .undefined

/-! ## The records -/

/-- `size_t` is unsigned. -/
def sizeT (n : Int) : Nat := (n % 2 ^ 64).toNat

/-- `unsigned`. -/
def uint (n : Nat) : Nat := n % 2 ^ 32

/-- The loop of `tfa_dsp_patch`. `buffer` keeps what earlier records left in it. -/
def patchLoop (t : TfaT) (patchData : List Byte) (patchDataLen : Nat) : Nat → List Byte → Nat → Bus → Ends (Int × Bus)
  | 0, _, _, _ => .runsOn
  | fuel + 1, buffer, index, bus =>
    if index < patchDataLen then
      match patchData[index]?, patchData[uint (index + 1)]? with
      | some lo, some hi =>
        let size := (lo.setWidth 16 ||| (hi.setWidth 16 <<< 8) : BitVec 16).toNat
        let index := uint (index + 2)
        if patchDataLen < uint (index + size) then .returns (-einval, bus)
        -- memcpy from the file into buffer
        else if patchData.length < index + size ∨ maxI2cLength < size then .undefined
        else
          let buffer := (patchData.drop index).take size ++ buffer.drop size
          (tfa9895WriteData dev (some t) ((buffer.getD 0 0).setWidth 32) (buffer.drop 1) size 1 bus).andThen fun r =>
            patchLoop t patchData patchDataLen fuel buffer (uint (index + size)) r.2
      | _, _ => .undefined
    else .returns (0, bus)

/-- `val` is what the local variable of the version check holds before it is
written. -/
def tfaDspPatch (t : TfaT) (val : BitVec 32) (patchBuf : List Byte) (bus : Bus) : Ends (Int × Bus) :=
  (tfaCheckIcRomVersion dev t val patchBuf bus).andThen fun r =>
    if r.1 then
      patchLoop dev t (patchBuf.drop patchHeaderLength) (sizeT (patchBuf.length - patchHeaderLength)) (patchBuf.length + 1)
        (List.replicate maxI2cLength 0) 0 r.2
    else .returns (-einval, r.2)

/-! ## What is sent -/

/-- A record of this size goes through the transfer buffer, `n` being the
transfers before it: one of 254 bytes only where the device refuses the first of
its two transfers. -/
def Fits (n size : Nat) : Prop :=
  size < maxI2cLength ∨ size = maxI2cLength ∧ ∃ errno, dev.answer n = .failed errno

/-- The records fit, one after the other. -/
def AllFit (n : Nat) (rs : List (List Byte)) : Prop :=
  ∀ k r, rs[k]? = some r → Fits dev (n + k) r.length

/-- The one transfer of a record: it has a byte of the buffer more than the
record, unless the record fills the buffer. -/
def Sent (r : List Byte) (tr : Transfer) : Prop :=
  if r.length < maxI2cLength then ∃ b ok, tr = .write (r ++ [b]) ok else tr = .write r false

variable {dev} {t : TfaT}

theorem size_eq_le16 (lo hi : Byte) : (lo.setWidth 16 ||| (hi.setWidth 16 <<< 8) : BitVec 16).toNat = le16 lo hi := by
  have h1 := lo.isLt
  have h2 := hi.isLt
  have hlo : (lo.setWidth 16 : BitVec 16).toNat = lo.toNat := by
    rw [BitVec.toNat_setWidth]
    omega
  have hhi : (hi.setWidth 16 <<< 8 : BitVec 16).toNat = hi.toNat <<< 8 := by
    rw [BitVec.toNat_shiftLeft, BitVec.toNat_setWidth, Nat.shiftLeft_eq, Nat.shiftLeft_eq]
    omega
  rw [BitVec.toNat_or, hlo, hhi, Nat.or_comm, ← Nat.shiftLeft_add_eq_or_of_lt h1, Nat.shiftLeft_eq, le16]
  omega

theorem allFit_nil (n : Nat) : AllFit dev n [] := by
  intro k r h
  simp at h

theorem allFit_cons (n : Nat) (r : List Byte) (rs : List (List Byte)) :
    AllFit dev n (r :: rs) ↔ Fits dev n r.length ∧ AllFit dev (n + 1) rs := by
  constructor
  · intro h
    refine ⟨h 0 r rfl, fun k r' hk => ?_⟩
    have := h (k + 1) r' (by simpa using hk)
    rwa [← Nat.add_assoc, Nat.add_right_comm] at this
  · rintro ⟨hr, hrs⟩ k r' hk
    cases k with
    | zero =>
      obtain rfl : r = r' := by simpa using hk
      exact hr
    | succ k =>
      have := hrs k r' (by simpa using hk)
      rwa [Nat.add_right_comm, Nat.add_assoc] at this

theorem low8_setWidth (b : Byte) : low8 (b.setWidth 32) = b := by
  revert b
  decide

/-- What the transfer of a record begins with. -/
theorem take_buffer {buffer : List Byte} (hne : buffer ≠ []) (n : Nat) :
    low8 ((buffer.getD 0 0).setWidth 32) :: (buffer.drop 1).take n = buffer.take (n + 1) := by
  rw [low8_setWidth]
  cases buffer with
  | nil => exact absurd rfl hne
  | cons b buffer => rfl

/-- A record of up to 253 bytes takes one transfer, and one of 254 a second one
for which the buffer has nothing left. -/
theorem writeRecord_eq (ht : noDevice (some t) = false) {buffer r : List Byte} (hb : buffer.length = maxI2cLength)
    (hr : r.length ≤ maxI2cLength) (bus : Bus) :
    tfa9895WriteData dev (some t) (((r ++ buffer.drop r.length).getD 0 0).setWidth 32) ((r ++ buffer.drop r.length).drop 1) r.length 1 bus =
      let w := writeConfig dev ((r ++ buffer.drop r.length).take (min r.length 253 + 1)) bus
      if w.1 ≠ 0 ∨ r.length < maxI2cLength then .returns w else .undefined := by
  have hroom := dev.room
  have hmax : maxI2cLength = 254 := rfl
  have hchunk : roundDown maxI2cLength 1 = 254 := rfl
  have hlen : (r ++ buffer.drop r.length).length = 254 := by
    rw [List.length_append, List.length_drop]
    omega
  have hne : r ++ buffer.drop r.length ≠ [] := List.ne_nil_of_length_pos (by omega)
  unfold tfa9895WriteData
  rw [if_neg (by rw [ht]; decide), hchunk, writeLoop]
  simp only [Nat.sub_zero, Nat.zero_add, List.drop_zero, take_buffer hne, OfNat.ofNat_ne_zero, if_false, Nat.reduceSub]
  rw [if_neg (by rw [List.length_drop]; omega)]
  by_cases hrc : (writeConfig dev ((r ++ buffer.drop r.length).take (min r.length 253 + 1)) bus).1 = 0
  · rw [if_neg (not_not.2 hrc)]
    by_cases hsize : r.length < maxI2cLength
    · rw [if_neg (by omega), if_pos (.inr hsize), ← hrc]
    · -- the second transfer would take a byte behind the buffer
      rw [if_pos (by omega), if_neg (by simp [hrc, hsize])]
      obtain ⟨n, hn⟩ : ∃ n, r.length = n + 1 := ⟨r.length - 1, by omega⟩
      rw [hn, writeLoop]
      simp only [OfNat.ofNat_ne_zero, if_false, Nat.reduceSub]
      rw [if_pos (by rw [List.length_drop]; simp only [← hn]; omega)]
  · rw [if_pos hrc, if_pos (.inl hrc)]

theorem writeRecord_fits (ht : noDevice (some t) = false) {buffer r : List Byte} (hb : buffer.length = maxI2cLength)
    (hr : r.length ≤ maxI2cLength) (bus : Bus) (hfit : Fits dev bus.length r.length) :
    ∃ tr rc, Sent r tr ∧
      tfa9895WriteData dev (some t) (((r ++ buffer.drop r.length).getD 0 0).setWidth 32) ((r ++ buffer.drop r.length).drop 1) r.length 1 bus =
        .returns (rc, bus ++ [tr]) := by
  have hmax : maxI2cLength = 254 := rfl
  rw [writeRecord_eq ht hb hr]
  rcases hfit with hsize | ⟨hsize, errno, herr⟩
  · have hmin : min r.length 253 = r.length := Nat.min_eq_left (by omega)
    obtain ⟨ok, hbus⟩ := writeConfig_bus dev ((r ++ buffer.drop r.length).take (r.length + 1)) bus
    obtain ⟨b, rest, hrest⟩ : ∃ b rest, buffer.drop r.length = b :: rest :=
      List.exists_cons_of_ne_nil (List.ne_nil_of_length_pos (by rw [List.length_drop]; omega))
    have htake : (r ++ buffer.drop r.length).take (r.length + 1) = r ++ [b] := by
      rw [hrest, List.take_length_add_append]
      rfl
    rw [htake] at hbus
    simp only [hmin, htake, hsize, or_true, if_true]
    exact ⟨.write (r ++ [b]) ok, _, by rw [Sent, if_pos hsize]; exact ⟨b, ok, rfl⟩, by rw [← hbus]⟩
  · have htake : (r ++ buffer.drop r.length).take (min r.length 253 + 1) = r := by
      rw [show min r.length 253 + 1 = r.length by omega, List.take_left]
    have hfail : writeConfig dev r bus = (-(errno.val : Int), bus ++ [.write r false]) := by simp only [writeConfig, herr]
    have hpos := errno.pos
    rw [htake, hfail]
    refine ⟨.write r false, -(errno.val : Int), by rw [Sent, if_neg (by omega)], ?_⟩
    rw [if_pos (.inl (show -(errno.val : Int) ≠ 0 by omega))]

theorem writeRecord_overrun (ht : noDevice (some t) = false) {buffer r : List Byte} (hb : buffer.length = maxI2cLength)
    (hr : r.length ≤ maxI2cLength) (bus : Bus) (hfit : ¬ Fits dev bus.length r.length) :
    tfa9895WriteData dev (some t) (((r ++ buffer.drop r.length).getD 0 0).setWidth 32) ((r ++ buffer.drop r.length).drop 1) r.length 1 bus =
      .undefined := by
  rw [writeRecord_eq ht hb hr]
  unfold Fits at hfit
  have hsize : ¬ r.length < maxI2cLength := fun h => hfit (.inl h)
  have hok : ¬ ∃ errno, dev.answer bus.length = .failed errno := fun h => hfit (.inr ⟨by omega, h⟩)
  rw [if_neg]
  rintro (hrc | h)
  · unfold writeConfig at hrc
    split at hrc
    next errno he => exact hok ⟨errno, he⟩
    next => exact hrc rfl
  · exact hsize h

/-- How the loop ends, from what records there are and whether they fit. -/
theorem patchLoop_ends (dev : Device) (ht : noDevice (some t) = false) {patchData : List Byte} (hlen : patchData.length < 2 ^ 31) :
    ∀ (fuel : Nat) (buffer : List Byte) (index : Nat) (bus : Bus), buffer.length = maxI2cLength → index ≤ patchData.length →
      patchData.length - index < fuel →
      (AllFit dev bus.length (records (patchData.drop index)).1 → (records (patchData.drop index)).2 ≠ .cutSize →
        ∃ news, List.Forall₂ Sent (records (patchData.drop index)).1 news ∧
          patchLoop dev t patchData patchData.length fuel buffer index bus =
            .returns (if (records (patchData.drop index)).2 = .complete then 0 else -einval, bus ++ news)) ∧
      (¬ AllFit dev bus.length (records (patchData.drop index)).1 ∨ (records (patchData.drop index)).2 = .cutSize →
        patchLoop dev t patchData patchData.length fuel buffer index bus = .undefined) := by
  intro fuel
  induction fuel with
  | zero => intro buffer index bus _ _ hf; omega
  | succ fuel ih =>
    intro buffer index bus hb hi hf
    have hmax : maxI2cLength = 254 := rfl
    unfold patchLoop
    have hdrop := List.length_drop (i := index) (l := patchData)
    have hget (k : Nat) : (patchData.drop index)[k]? = patchData[index + k]? := List.getElem?_drop
    match hrest : patchData.drop index with
    | [] =>
      rw [hrest, List.length_nil] at hdrop
      rw [if_neg (by omega), records]
      exact ⟨fun _ _ => ⟨[], .nil, by simp⟩, fun h => by simp [allFit_nil] at h⟩
    | [lo] =>
      rw [hrest, List.length_singleton] at hdrop
      have hnone : patchData[uint (index + 1)]? = none := by
        rw [List.getElem?_eq_none_iff, uint, Nat.mod_eq_of_lt (by omega)]
        omega
      rw [if_pos (by omega), hnone, records]
      refine ⟨fun _ h => absurd rfl h, fun _ => ?_⟩
      split
      next heq => cases heq
      next => rfl
    | lo :: hi :: rest =>
      rw [hrest, List.length_cons, List.length_cons] at hdrop
      have hlo : patchData[index]? = some lo := by
        have := hget 0
        rwa [hrest, Nat.add_zero, eq_comm] at this
      have hhi : patchData[uint (index + 1)]? = some hi := by
        have := hget 1
        rw [uint, Nat.mod_eq_of_lt (by omega)]
        rwa [hrest, eq_comm] at this
      have hdata : patchData.drop (index + 2) = rest := by
        rw [← List.drop_drop, hrest]
        rfl
      have hsize := Lib.le16_lt lo hi
      have hindex : uint (index + 2) = index + 2 := Nat.mod_eq_of_lt (by omega)
      have hnext : uint (index + 2 + le16 lo hi) = index + 2 + le16 lo hi := Nat.mod_eq_of_lt (by omega)
      rw [if_pos (by omega), hlo, hhi]
      simp only [size_eq_le16, hindex, hnext, hdata]
      rw [records]
      by_cases hcut : rest.length < le16 lo hi
      · rw [if_pos hcut, if_pos (show patchData.length < index + 2 + le16 lo hi by omega)]
        exact ⟨fun _ _ => ⟨[], .nil, by simp⟩, fun h => by simp [allFit_nil] at h⟩
      · rw [if_neg hcut, if_neg (show ¬ patchData.length < index + 2 + le16 lo hi by omega)]
        have hrlen : (rest.take (le16 lo hi)).length = le16 lo hi := by
          rw [List.length_take]
          omega
        simp only [allFit_cons, hrlen]
        by_cases hbig : maxI2cLength < le16 lo hi
        · rw [if_pos (.inr hbig)]
          have hnot : ¬ Fits dev bus.length (le16 lo hi) := by
            rintro (h | ⟨h, -⟩) <;> omega
          exact ⟨fun h => absurd h.1 hnot, fun _ => rfl⟩
        · rw [if_neg (by omega)]
          by_cases hfit : Fits dev bus.length (le16 lo hi)
          · obtain ⟨tr, rc, hsent, hw⟩ := writeRecord_fits ht hb (r := rest.take (le16 lo hi)) (by omega) bus (by rwa [hrlen])
            rw [hrlen] at hw
            rw [hw, Ends.andThen_returns]
            have hlen' : (rest.take (le16 lo hi) ++ buffer.drop (le16 lo hi)).length = maxI2cLength := by
              rw [List.length_append, hrlen, List.length_drop]
              omega
            have hrec := ih (rest.take (le16 lo hi) ++ buffer.drop (le16 lo hi)) (index + 2 + le16 lo hi) (bus ++ [tr])
              hlen' (by omega) (by omega)
            rw [← List.drop_drop, hdata, List.length_append, List.length_singleton] at hrec
            refine ⟨fun h hend => ?_, fun h => hrec.2 ?_⟩
            · obtain ⟨news, hnews, heq⟩ := hrec.1 h.2 hend
              exact ⟨tr :: news, .cons hsent hnews, by rw [heq, List.append_assoc]; rfl⟩
            · exact h.imp_left fun hn hall => hn ⟨hfit, hall⟩
          · have hw := writeRecord_overrun ht hb (r := rest.take (le16 lo hi)) (by omega) bus (by rwa [hrlen])
            rw [hrlen] at hw
            rw [hw]
            exact ⟨fun h => absurd h.1 hfit, fun _ => rfl⟩

/-! ## When the loader does what the file says -/

variable (dev) in
/-- The header lies in the file and passes the check, which leaves the bus as `bus'`. -/
def HeaderPasses (t : TfaT) (val : BitVec 32) (patchBuf : List Byte) (bus bus' : Bus) : Prop :=
  patchHeaderLength ≤ patchBuf.length ∧ tfaCheckIcRomVersion dev t val patchBuf bus = .returns (true, bus')

/-- The data is a sequence of records that fit the transfer buffer. -/
def WellFormed (patchData : List Byte) (rs : List (List Byte)) : Prop :=
  patchData = encodeRecords rs ∧ ∀ r ∈ rs, 1 ≤ r.length ∧ r.length ≤ maxI2cLength

variable (dev) in
/-- The loader returns without an access outside its buffers. If the header
passes and the data is well formed, it returns 0 and each record is one transfer
of its address and the rest of it. For any other file it returns an error. -/
def PatchSound (t : TfaT) (val : BitVec 32) (patchBuf : List Byte) (bus : Bus) : Prop :=
  ∃ rc bus', tfaDspPatch dev t val patchBuf bus = .returns (rc, bus') ∧
    (∀ bus1 rs, HeaderPasses dev t val patchBuf bus bus1 → WellFormed (patchBuf.drop patchHeaderLength) rs →
      rc = 0 ∧ ∃ news, bus' = bus1 ++ news ∧ List.Forall₂ (fun r tr => ∃ ok, tr = .write r ok) rs news) ∧
    ((¬ ∃ bus1 rs, HeaderPasses dev t val patchBuf bus bus1 ∧ WellFormed (patchBuf.drop patchHeaderLength) rs) → rc ≠ 0)

variable (dev) in
/-- The header is refused before a byte is read that the file does not have; or
it passes, and the data ends inside a record and the records before fit, or each
record fills the buffer and the device refuses it. -/
def PatchHolds (t : TfaT) (val : BitVec 32) (patchBuf : List Byte) (bus : Bus) : Prop :=
  (∃ bus1, tfaCheckIcRomVersion dev t val patchBuf bus = .returns (false, bus1)) ∨
    ∃ bus1, HeaderPasses dev t val patchBuf bus bus1 ∧
      ((records (patchBuf.drop patchHeaderLength)).2 = .cutRecord ∧
          AllFit dev bus1.length (records (patchBuf.drop patchHeaderLength)).1 ∨
        (records (patchBuf.drop patchHeaderLength)).2 = .complete ∧
          ∀ k r, (records (patchBuf.drop patchHeaderLength)).1[k]? = some r →
            r.length = maxI2cLength ∧ ∃ errno, dev.answer (bus1.length + k) = .failed errno)

/-- A check that passes has read the whole header. -/
theorem length_of_checked {val : BitVec 32} {patchBuf : List Byte} {bus bus1 : Bus}
    (h : tfaCheckIcRomVersion dev t val patchBuf bus = .returns (true, bus1)) : patchHeaderLength ≤ patchBuf.length := by
  unfold tfaCheckIcRomVersion at h
  split at h
  · cases h
  next checkRev header =>
    split at h
    · cases h
    split at h
    · simp only [patchHeaderLength, List.length_cons]
      omega
    · cases h

theorem tfaDspPatch_ends {val : BitVec 32} {patchBuf : List Byte} {bus bus1 : Bus} (hlen : patchBuf.length < 2 ^ 31)
    (ht : noDevice (some t) = false) (h : tfaCheckIcRomVersion dev t val patchBuf bus = .returns (true, bus1)) :
    (AllFit dev bus1.length (records (patchBuf.drop patchHeaderLength)).1 →
      (records (patchBuf.drop patchHeaderLength)).2 ≠ .cutSize →
        ∃ news, List.Forall₂ Sent (records (patchBuf.drop patchHeaderLength)).1 news ∧
          tfaDspPatch dev t val patchBuf bus =
            .returns (if (records (patchBuf.drop patchHeaderLength)).2 = .complete then 0 else -einval, bus1 ++ news)) ∧
      (¬ AllFit dev bus1.length (records (patchBuf.drop patchHeaderLength)).1 ∨
          (records (patchBuf.drop patchHeaderLength)).2 = .cutSize →
        tfaDspPatch dev t val patchBuf bus = .undefined) := by
  have hhead := length_of_checked h
  have hsix : patchHeaderLength = 6 := rfl
  have hsize : sizeT (patchBuf.length - patchHeaderLength) = (patchBuf.drop patchHeaderLength).length := by
    rw [List.length_drop, sizeT]
    omega
  unfold tfaDspPatch
  rw [h, Ends.andThen_returns, if_pos rfl, hsize]
  have hdata : (patchBuf.drop patchHeaderLength).length < 2 ^ 31 := by
    rw [List.length_drop]
    omega
  have hends := patchLoop_ends dev ht hdata (patchBuf.length + 1) (List.replicate maxI2cLength 0) 0 bus1 List.length_replicate (Nat.zero_le _)
    (by rw [List.length_drop]; omega)
  rwa [List.drop_zero] at hends

theorem records_of_wellFormed {patchData : List Byte} {rs : List (List Byte)} (h : WellFormed patchData rs) :
    records patchData = (rs, .complete) := by
  have hmax : maxI2cLength = 254 := rfl
  rw [h.1]
  exact Lib.records_encodeRecords fun r hr => by have := (h.2 r hr).2; omega

/-- A transfer of a record with nothing added is one of a record that fills the
buffer. -/
theorem Sent.full {r : List Byte} {tr : Transfer} (h : Sent r tr) (hw : ∃ ok, tr = .write r ok) : ¬ r.length < maxI2cLength := by
  intro hlt
  obtain ⟨ok, rfl⟩ := hw
  rw [Sent, if_pos hlt] at h
  obtain ⟨b, ok', heq⟩ := h
  have hlen := congrArg List.length (Transfer.write.inj heq).1
  simp at hlen

theorem PatchHolds.sound {val : BitVec 32} {patchBuf : List Byte} {bus : Bus} (hlen : patchBuf.length < 2 ^ 31)
    (ht : noDevice (some t) = false) (h : PatchHolds dev t val patchBuf bus) : PatchSound dev t val patchBuf bus := by
  have heinval : (-einval : Int) ≠ 0 := by decide
  rcases h with ⟨bus1, hcheck⟩ | ⟨bus1, ⟨-, hcheck⟩, hdata⟩
  · refine ⟨-einval, bus1, by rw [tfaDspPatch, hcheck]; rfl, ?_, fun _ => heinval⟩
    rintro bus2 rs ⟨-, hpass⟩ -
    rw [hcheck] at hpass
    cases hpass
  · obtain ⟨hends, -⟩ := tfaDspPatch_ends hlen ht hcheck
    rcases hdata with ⟨hcut, hfit⟩ | ⟨hcomp, hfull⟩
    · obtain ⟨news, -, heq⟩ := hends hfit (by rw [hcut]; decide)
      rw [hcut] at heq
      refine ⟨-einval, _, heq, ?_, fun _ => heinval⟩
      intro bus2 rs _ hwf
      rw [records_of_wellFormed hwf] at hcut
      cases hcut
    · have hfit : AllFit dev bus1.length (records (patchBuf.drop patchHeaderLength)).1 := fun k r hk => .inr (hfull k r hk)
      obtain ⟨news, hsent, heq⟩ := hends hfit (by rw [hcomp]; decide)
      rw [hcomp, if_pos rfl] at heq
      have hexact : List.Forall₂ (fun r tr => ∃ ok, tr = Transfer.write r ok) (records (patchBuf.drop patchHeaderLength)).1 news := by
        refine List.forall₂_iff_get.2 ⟨hsent.length_eq, fun k h1 h2 => ?_⟩
        have hk := (List.forall₂_iff_get.1 hsent).2 k h1 h2
        have hlen := (hfull k _ (List.getElem?_eq_getElem h1)).1
        rw [Sent, if_neg (by rw [List.get_eq_getElem, hlen]; omega)] at hk
        exact ⟨false, hk⟩
      refine ⟨0, _, heq, ?_, fun hno => absurd ?_ hno⟩
      · rintro bus2 rs ⟨-, hpass⟩ hwf
        rw [hcheck] at hpass
        cases hpass
        rw [records_of_wellFormed hwf] at hexact
        exact ⟨rfl, news, rfl, hexact⟩
      · refine ⟨bus1, _, ⟨length_of_checked hcheck, hcheck⟩, (Lib.encodeRecords_records _ hcomp).symm, fun r hr => ?_⟩
        obtain ⟨k, hk⟩ := List.mem_iff_getElem?.1 hr
        have hlen := (hfull k r hk).1
        rw [hlen]
        decide

theorem PatchSound.holds {val : BitVec 32} {patchBuf : List Byte} {bus : Bus} (hlen : patchBuf.length < 2 ^ 31)
    (ht : noDevice (some t) = false) (h : PatchSound dev t val patchBuf bus) : PatchHolds dev t val patchBuf bus := by
  obtain ⟨rc, bus', hret, hwf, hother⟩ := h
  cases hcheck : tfaCheckIcRomVersion dev t val patchBuf bus with
  | undefined =>
    rw [tfaDspPatch, hcheck] at hret
    cases hret
  | runsOn =>
    rw [tfaDspPatch, hcheck] at hret
    cases hret
  | returns r =>
    obtain ⟨_ | _, bus1⟩ := r
    · exact .inl ⟨bus1, hcheck⟩
    refine .inr ⟨bus1, ⟨length_of_checked hcheck, hcheck⟩, ?_⟩
    obtain ⟨hends, hundef⟩ := tfaDspPatch_ends hlen ht hcheck
    have hdef : ¬ (¬ AllFit dev bus1.length (records (patchBuf.drop patchHeaderLength)).1 ∨
        (records (patchBuf.drop patchHeaderLength)).2 = .cutSize) := by
      intro hbad
      rw [hundef hbad] at hret
      cases hret
    rw [not_or, not_not] at hdef
    obtain ⟨hfit, hnocut⟩ := hdef
    obtain ⟨news, hsent, heq⟩ := hends hfit hnocut
    rw [heq, Ends.returns.injEq, Prod.mk.injEq] at hret
    obtain ⟨hrc, hbus⟩ := hret
    cases hend : (records (patchBuf.drop patchHeaderLength)).2 with
    | cutSize => exact absurd hend hnocut
    | cutRecord => exact .inl ⟨rfl, hfit⟩
    | complete =>
      rw [hend, if_pos rfl] at hrc
      -- without an error the data is well formed, and each transfer is the record alone
      have hgood : ∃ bus1 rs, HeaderPasses dev t val patchBuf bus bus1 ∧ WellFormed (patchBuf.drop patchHeaderLength) rs := by
        by_contra hno
        exact hother hno hrc.symm
      obtain ⟨bus2, rs, hpass, hrs⟩ := hgood
      obtain ⟨-, news', hbus', hexact⟩ := hwf bus2 rs hpass hrs
      have hsame := hpass.2
      rw [hcheck, Ends.returns.injEq, Prod.mk.injEq] at hsame
      obtain ⟨-, rfl⟩ := hsame
      rw [← hbus, List.append_cancel_left_eq] at hbus'
      subst hbus'
      rw [records_of_wellFormed hrs] at hsent hfit ⊢
      refine .inr ⟨rfl, fun k r hk => ?_⟩
      obtain ⟨hk', rfl⟩ := List.getElem?_eq_some_iff.1 hk
      have hnews : k < news.length := by
        rw [← hsent.length_eq]
        exact hk'
      have hfull := ((List.forall₂_iff_get.1 hsent).2 k hk' hnews).full ((List.forall₂_iff_get.1 hexact).2 k hk' hnews)
      exact (hfit k _ hk).resolve_left hfull

/-- **The loader does what the file says exactly when the header is refused in
time, the data ends inside a record after records that fit, or each record fills
the buffer and is refused by the device.** A record of any other size goes out
with a byte too many. -/
theorem patch_sound_iff {val : BitVec 32} {patchBuf : List Byte} {bus : Bus} (hlen : patchBuf.length < 2 ^ 31)
    (ht : noDevice (some t) = false) : PatchSound dev t val patchBuf bus ↔ PatchHolds dev t val patchBuf bus :=
  ⟨fun h => h.holds hlen ht, fun h => h.sound hlen ht⟩

/-- For any chip: write 0xab to register 5. -/
def smallPatch : List Byte := [0xff, 0xff, 0xff, 0, 0, 0, 2, 0, 0x05, 0xab]

theorem patch_sound_iff_small : (smallPatch.length < 2 ^ 31 ∧ noDevice (some openTfa) = false) ∧
    (PatchSound zeroDevice openTfa 0 smallPatch [] ↔ PatchHolds zeroDevice openTfa 0 smallPatch []) :=
  ⟨⟨by decide, rfl⟩, patch_sound_iff (by decide) rfl⟩

/-- The one record goes out with a byte of the empty buffer behind it. -/
theorem not_patchSound_small : ¬ PatchSound zeroDevice openTfa 0 smallPatch [] := by
  intro h
  have hcheck : tfaCheckIcRomVersion zeroDevice openTfa 0 smallPatch [] = .returns (true, []) := rfl
  have hrecords : records (smallPatch.drop patchHeaderLength) = ([[0x05, 0xab]], .complete) :=
    records_of_wellFormed ⟨rfl, by decide⟩
  rcases h.holds (by decide) rfl with ⟨bus1, hno⟩ | ⟨bus1, -, hdata⟩
  · rw [hcheck] at hno
    cases hno
  · rw [hrecords] at hdata
    rcases hdata with ⟨hend, -⟩ | ⟨-, hfull⟩
    · cases hend
    · exact absurd (hfull 0 [0x05, 0xab] rfl).1 (by decide)

end HiaeCommon.Tfa
