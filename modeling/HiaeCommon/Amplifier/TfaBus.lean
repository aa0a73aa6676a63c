/-
The I2C bus of the amplifier as tfa.c drives it: one register at a time, or a
buffer in chunks.

`tfa9895WriteData` rounds its chunk down to the alignment and then takes one
byte of it for the address, so a long message is cut inside a word unless the
alignment is 1 (`chunked_transfers_iff`).
-/
import HiaeCommon.Lib.Chunks
import Mathlib.Data.BitVec

namespace HiaeCommon.Tfa

open Lib (Chunked)

abbrev Byte := BitVec 8

/-! ## The device -/

/-- What `errno` says after a failed call. -/
structure Errno where
  val : Nat
  pos : 0 < val
  deriving DecidableEq, Repr

def enodev : Nat := 19
def ebusy : Nat := 16
def einval : Nat := 22

/-- How the kernel ends one `ioctl`, and the buffer a read leaves. -/
inductive Answer where
  | failed (errno : Errno)
  | done (buffer : Nat → Byte)

def maxI2cLength : Nat := 254

theorem maxI2cLength_le : maxI2cLength ≤ 255 := Nat.le_succ 254

/-- The device answers the calls one after the other, whatever they are. -/
structure Device where
  answer : Nat → Answer
  /-- `sizeof(cmd_buf.buffer)`. -/
  bufferLen : Nat
  room : maxI2cLength ≤ bufferLen

/-- `TFA9895_WRITE_CONFIG` with the bytes sent, `TFA9895_READ_CONFIG` with the
bytes received. -/
inductive Transfer where
  | write (buffer : List Byte) (ok : Bool)
  | read (size : Nat) (buffer : Option (List Byte))
  deriving DecidableEq, Repr

/-- The transfers so far. -/
abbrev Bus := List Transfer

/-- `struct tfa_t`, as far as the bus and the patch loader read it. -/
structure TfaT where
  fd : Int
  rev : BitVec 16
  deriving DecidableEq, Repr

/-- How a call ends: it returns, it does what C leaves undefined (an access
outside a buffer), or it has not come to an end within the fuel. -/
inductive Ends (α : Type) where
  | returns (a : α)
  | undefined
  | runsOn
  deriving DecidableEq, Repr

def Ends.andThen {α β : Type} (r : Ends α) (f : α → Ends β) : Ends β :=
  match r with
  | .returns a => f a
  | .undefined => .undefined
  | .runsOn => .runsOn

@[simp] theorem Ends.andThen_returns {α β : Type} (a : α) (f : α → Ends β) : (Ends.returns a).andThen f = f a := rfl

variable (dev : Device)

def writeConfig (buffer : List Byte) (bus : Bus) : Int × Bus :=
  match dev.answer bus.length with
  | .failed errno => (-errno.val, bus ++ [.write buffer false])
  | .done _ => (0, bus ++ [.write buffer true])

def readConfig (size : Nat) (bus : Bus) : Int × List Byte × Bus :=
  match dev.answer bus.length with
  | .failed errno => (-errno.val, [], bus ++ [.read size none])
  | .done buffer => (0, (List.range size).map buffer, bus ++ [.read size (some ((List.range size).map buffer))])

/-- The two checks each transfer begins with. -/
def noDevice : Option TfaT → Bool
  | none => true
  | some t => t.fd < 0

/-- `0xFF & addr`. -/
def low8 (addr : BitVec 32) : Byte := (0xFF &&& addr).setWidth 8

/-- `ROUND_DOWN`. -/
def roundDown (a n : Nat) : Nat := a / n * n

/-! ## Registers -/

def tfa9895WriteReg (t : Option TfaT) (reg : Byte) (val : BitVec 16) (bus : Bus) : Int × Bus :=
  if noDevice t then (-enodev, bus)
  else writeConfig dev [reg, ((0xff00 &&& val) >>> 8).setWidth 8, (0x00ff &&& val).setWidth 8, 0] bus

/-- The value is there only where both calls succeed. -/
def tfa9895ReadReg (t : Option TfaT) (reg : Byte) (bus : Bus) : Int × Option (BitVec 16) × Bus :=
  if noDevice t then (-enodev, none, bus)
  else
    let r := writeConfig dev [reg] bus
    if r.1 ≠ 0 then (r.1, none, r.2)
    else
      let s := readConfig dev 2 r.2
      if s.1 ≠ 0 then (s.1, none, s.2.2)
      else (0, some ((s.2.1.getD 0 0).setWidth 16 <<< 8 ||| (s.2.1.getD 1 0).setWidth 16), s.2.2)

/-! ## Buffers -/

/-- The loop of `tfa9895_write_data`. -/
def writeLoop (addr : BitVec 32) (buf : List Byte) (len chunkSize : Nat) : Nat → Nat → Bus → Ends (Int × Bus)
  | 0, _, _ => .runsOn
  | fuel + 1, bytesWritten, bus =>
    -- with a chunk of 0 the `size_t` wraps, and the rest goes out at once
    let toWrite := if chunkSize = 0 then len - bytesWritten else min (len - bytesWritten) (chunkSize - 1)
    if dev.bufferLen < toWrite + 1 ∨ buf.length < bytesWritten + toWrite then .undefined
    else
      let r := writeConfig dev (low8 addr :: (buf.drop bytesWritten).take toWrite) bus
      if r.1 ≠ 0 then .returns r
      else if bytesWritten + toWrite < len then writeLoop addr buf len chunkSize fuel (bytesWritten + toWrite) r.2
      else .returns (0, r.2)

/-- `buf` is what lies at the pointer, `len` the length the caller names. -/
def tfa9895WriteData (t : Option TfaT) (addr : BitVec 32) (buf : List Byte) (len alignment : Nat) (bus : Bus) :
    Ends (Int × Bus) :=
  if noDevice t then .returns (-enodev, bus)
  else writeLoop dev addr buf len (roundDown maxI2cLength alignment) (len + 1) 0 bus

/-- The loop of `tfa9895_read_data`, with the bytes that are in `buf` so far. -/
def readLoop (len chunkSize : Nat) : Nat → List Byte → Bus → Ends (Int × List Byte × Bus)
  | 0, _, _ => .runsOn
  | fuel + 1, buf, bus =>
    let size := min (len - buf.length) chunkSize
    let r := readConfig dev size bus
    if r.1 ≠ 0 then .returns (r.1, buf, r.2.2)
    else if (buf ++ r.2.1).length < len then readLoop len chunkSize fuel (buf ++ r.2.1) r.2.2
    else .returns (0, buf ++ r.2.1, r.2.2)

/-- The bytes are those the call has written to the caller's buffer of `len`. -/
def tfa9895ReadData (t : Option TfaT) (addr : BitVec 32) (len alignment : Nat) (bus : Bus) :
    Ends (Int × List Byte × Bus) :=
  if noDevice t then .returns (-enodev, [], bus)
  else
    let r := writeConfig dev [low8 addr] bus
    if r.1 ≠ 0 then .returns (r.1, [], r.2)
    else readLoop dev len (roundDown maxI2cLength alignment) (len + 1) [] r.2

/-! ## Chunks -/

/-- Every call the device answers succeeds. -/
def Device.Succeeds : Prop :=
  ∀ n, ∃ buffer, dev.answer n = .done buffer

variable {dev} {t : Option TfaT} {addr : BitVec 32} {buf : List Byte} {len alignment chunkSize : Nat}

theorem writeConfig_succeeds (hdev : dev.Succeeds) (buffer : List Byte) (bus : Bus) :
    writeConfig dev buffer bus = (0, bus ++ [.write buffer true]) := by
  obtain ⟨b, hb⟩ := hdev bus.length
  simp only [writeConfig, hb]

theorem readConfig_succeeds (hdev : dev.Succeeds) (size : Nat) (bus : Bus) :
    ∃ c, c.length = size ∧ readConfig dev size bus = (0, c, bus ++ [.read size (some c)]) := by
  obtain ⟨b, hb⟩ := hdev bus.length
  exact ⟨(List.range size).map b, by simp, by simp only [readConfig, hb]⟩

/-- Whatever fails, a write comes to an end. -/
theorem writeLoop_returns (hc : 2 ≤ chunkSize) (hmax : chunkSize ≤ maxI2cLength) (hb : len ≤ buf.length) :
    ∀ (fuel bytesWritten : Nat) (bus : Bus), bytesWritten ≤ len → len - bytesWritten < fuel →
      ∃ r, writeLoop dev addr buf len chunkSize fuel bytesWritten bus = .returns r := by
  intro fuel
  induction fuel with
  | zero => intro w bus _ hf; omega
  | succ fuel ih =>
    intro w bus hw hf
    have hroom := dev.room
    unfold writeLoop
    simp only [show chunkSize ≠ 0 by omega, if_false]
    rw [if_neg (by omega)]
    split
    · exact ⟨_, rfl⟩
    split
    · exact ih _ _ (by omega) (by omega)
    · exact ⟨_, rfl⟩

theorem length_readConfig (size : Nat) (bus : Bus) (h : (readConfig dev size bus).1 = 0) :
    (readConfig dev size bus).2.1.length = size := by
  unfold readConfig at h ⊢
  split at h
  next errno _ =>
    have := errno.pos
    simp only at h
    omega
  next => simp

/-- A read that fits one chunk is one transfer. -/
theorem readLoop_single (h : len ≤ chunkSize) (fuel : Nat) (bus : Bus) :
    readLoop dev len chunkSize (fuel + 1) [] bus = .returns (readConfig dev len bus) := by
  unfold readLoop
  simp only [List.length_nil, Nat.sub_zero, Nat.min_eq_left h, List.nil_append]
  by_cases hrc : (readConfig dev len bus).1 = 0
  · have hlen := length_readConfig len bus hrc
    simp only [hrc, ne_eq, not_true_eq_false, if_false, hlen, Nat.lt_irrefl]
    rw [← hrc]
  · have hnil : (readConfig dev len bus).2.1 = [] := by
      unfold readConfig at hrc ⊢
      split
      · rfl
      next hb => exact absurd (by rw [hb]) hrc
    simp only [hrc, ne_eq, not_false_eq_true, if_true]
    rw [← hnil]

theorem readLoop_returns (hc : 1 ≤ chunkSize) :
    ∀ (fuel : Nat) (buf : List Byte) (bus : Bus), buf.length ≤ len → len - buf.length < fuel →
      ∃ r, readLoop dev len chunkSize fuel buf bus = .returns r := by
  intro fuel
  induction fuel with
  | zero => intro buf bus _ hf; omega
  | succ fuel ih =>
    intro buf bus hb hf
    unfold readLoop
    by_cases hrc : (readConfig dev (min (len - buf.length) chunkSize) bus).1 = 0
    · have hlen := length_readConfig _ _ hrc
      simp only [hrc, ne_eq, not_true_eq_false, if_false, List.length_append, hlen]
      split
      · exact ih _ _ (by rw [List.length_append]; omega) (by rw [List.length_append]; omega)
      · exact ⟨_, rfl⟩
    · exact ⟨_, if_pos hrc⟩

/-- Each payload has one byte less than the chunk. -/
theorem writeLoop_chunked (hdev : dev.Succeeds) (hc : 2 ≤ chunkSize) (hmax : chunkSize ≤ maxI2cLength) :
    ∀ (fuel bytesWritten : Nat) (bus : Bus), bytesWritten ≤ buf.length → buf.length - bytesWritten < fuel →
      ∃ cs, Chunked (chunkSize - 1) (buf.drop bytesWritten) cs ∧
        writeLoop dev addr buf buf.length chunkSize fuel bytesWritten bus =
          .returns (0, bus ++ cs.map fun c => .write (low8 addr :: c) true) := by
  intro fuel
  induction fuel with
  | zero => intro w bus _ hf; omega
  | succ fuel ih =>
    intro w bus hw hf
    have hroom := dev.room
    unfold writeLoop
    simp only [show chunkSize ≠ 0 by omega, if_false, writeConfig_succeeds hdev, ne_eq, not_true_eq_false]
    rw [if_neg (by omega)]
    by_cases hlast : buf.length - w ≤ chunkSize - 1
    · rw [Nat.min_eq_left hlast, if_neg (by omega)]
      have htake : (buf.drop w).take (buf.length - w) = buf.drop w := List.take_of_length_le (by simp)
      rw [htake]
      exact ⟨[buf.drop w], .last (by simpa using hlast), rfl⟩
    · rw [Nat.min_eq_right (by omega), if_pos (by omega)]
      obtain ⟨cs, hcs, heq⟩ := ih (w + (chunkSize - 1)) (bus ++ [.write (low8 addr :: (buf.drop w).take (chunkSize - 1)) true])
        (by omega) (by omega)
      have hlen : ((buf.drop w).take (chunkSize - 1)).length = chunkSize - 1 := by
        rw [List.length_take, List.length_drop]
        omega
      have hcons := hcs.cons hlen (by omega) (List.ne_nil_of_length_pos (by rw [List.length_drop]; omega))
      rw [← List.drop_drop, List.take_append_drop] at hcons
      refine ⟨(buf.drop w).take (chunkSize - 1) :: cs, hcons, ?_⟩
      rw [heq, List.map_cons, List.append_assoc]
      rfl

/-- The chunks of a read have the full size. -/
theorem readLoop_chunked (hdev : dev.Succeeds) (hc : 1 ≤ chunkSize) (len : Nat) :
    ∀ (fuel : Nat) (buf : List Byte) (bus : Bus), buf.length ≤ len → len - buf.length < fuel →
      ∃ cs l, Chunked chunkSize l cs ∧ buf.length + l.length = len ∧
        readLoop dev len chunkSize fuel buf bus =
          .returns (0, buf ++ l, bus ++ cs.map fun c => .read c.length (some c)) := by
  intro fuel
  induction fuel with
  | zero => intro buf bus _ hf; omega
  | succ fuel ih =>
    intro buf bus hb hf
    obtain ⟨c, hlen, hread⟩ := readConfig_succeeds hdev (min (len - buf.length) chunkSize) bus
    unfold readLoop
    simp only [hread, ne_eq, not_true_eq_false, if_false, List.length_append, hlen]
    by_cases hlast : len - buf.length ≤ chunkSize
    · rw [Nat.min_eq_left hlast, if_neg (by omega)]
      rw [Nat.min_eq_left hlast] at hlen
      exact ⟨[c], c, .last (by omega), by omega, by rw [← hlen]; rfl⟩
    · rw [Nat.min_eq_right (by omega), if_pos (by omega)]
      rw [Nat.min_eq_right (by omega)] at hlen
      obtain ⟨cs, l, hcs, hl, heq⟩ := ih (buf ++ c) (bus ++ [.read chunkSize (some c)])
        (by rw [List.length_append]; omega) (by rw [List.length_append]; omega)
      rw [List.length_append] at hl
      have hl' : l ≠ [] := List.ne_nil_of_length_pos (by omega)
      refine ⟨c :: cs, c ++ l, hcs.cons hlen hc hl', by rw [List.length_append]; omega, ?_⟩
      rw [heq, List.map_cons, hlen, List.append_assoc, List.append_assoc]
      rfl

theorem roundDown_le (a n : Nat) : roundDown a n ≤ a :=
  Nat.div_mul_le_self a n

theorem lt_roundDown {a n : Nat} (h : 1 ≤ n) (hn : n ≤ a) : a < 2 * roundDown a n := by
  have hdiv : 1 ≤ a / n := (Nat.one_le_div_iff h).2 hn
  have hmod := Nat.mod_lt a h
  have hadd := Nat.div_add_mod' a n
  have hle : n ≤ a / n * n := Nat.le_mul_of_pos_left n hdiv
  unfold roundDown
  omega

theorem tfa9895WriteData_returns (dev : Device) (t : Option TfaT) (addr : BitVec 32) (h1 : 1 ≤ alignment)
    (hn : alignment ≤ maxI2cLength) (hb : len ≤ buf.length) (bus : Bus) :
    ∃ r, tfa9895WriteData dev t addr buf len alignment bus = .returns r := by
  have hlow := lt_roundDown h1 hn
  have hmax : maxI2cLength = 254 := rfl
  unfold tfa9895WriteData
  split
  · exact ⟨_, rfl⟩
  · exact writeLoop_returns (by omega) (roundDown_le _ _) hb _ 0 bus (Nat.zero_le _) (by omega)

theorem tfa9895ReadData_returns (dev : Device) (t : Option TfaT) (addr : BitVec 32) (len : Nat) (h1 : 1 ≤ alignment)
    (hn : alignment ≤ maxI2cLength) (bus : Bus) :
    ∃ r, tfa9895ReadData dev t addr len alignment bus = .returns r := by
  have hlow := lt_roundDown h1 hn
  have hmax : maxI2cLength = 254 := rfl
  unfold tfa9895ReadData
  dsimp only
  split
  · exact ⟨_, rfl⟩
  split
  · exact ⟨_, rfl⟩
  · exact readLoop_returns (by omega) _ [] _ (Nat.zero_le _) (by simp)

/-- The write of a whole buffer: it returns, the payloads are the buffer in
order, each transaction fits, and no payload but the last ends inside a word. -/
def WritesWords (dev : Device) (t : Option TfaT) (addr : BitVec 32) (buf : List Byte) (alignment : Nat) (bus : Bus) : Prop :=
  ∃ payloads : List (List Byte),
    tfa9895WriteData dev t addr buf buf.length alignment bus =
      .returns (0, bus ++ payloads.map fun p => .write (low8 addr :: p) true) ∧
    payloads.flatten = buf ∧ (∀ p ∈ payloads, p.length + 1 ≤ maxI2cLength) ∧ ∀ p ∈ payloads.dropLast, p.length % alignment = 0

/-- The read of `len` bytes: the address, then the payloads. -/
def ReadsWords (dev : Device) (t : Option TfaT) (addr : BitVec 32) (len alignment : Nat) (bus : Bus) : Prop :=
  ∃ (payloads : List (List Byte)) (buf : List Byte),
    tfa9895ReadData dev t addr len alignment bus =
      .returns (0, buf, bus ++ .write [low8 addr] true :: payloads.map fun p => .read p.length (some p)) ∧
    payloads.flatten = buf ∧ buf.length = len ∧ (∀ p ∈ payloads, p.length ≤ maxI2cLength) ∧
      ∀ p ∈ payloads.dropLast, p.length % alignment = 0

theorem tfa9895WriteData_chunked (hdev : dev.Succeeds) (ht : noDevice t = false) (h1 : 1 ≤ alignment)
    (hn : alignment ≤ maxI2cLength) (addr : BitVec 32) (buf : List Byte) (bus : Bus) :
    ∃ cs, Chunked (roundDown maxI2cLength alignment - 1) buf cs ∧
      tfa9895WriteData dev t addr buf buf.length alignment bus =
        .returns (0, bus ++ cs.map fun c => .write (low8 addr :: c) true) := by
  have hlow := lt_roundDown h1 hn
  have hmax : maxI2cLength = 254 := rfl
  unfold tfa9895WriteData
  rw [if_neg (by rw [ht]; decide)]
  exact writeLoop_chunked hdev (by omega) (roundDown_le _ _) _ 0 bus (Nat.zero_le _) (by omega)

theorem tfa9895ReadData_chunked (hdev : dev.Succeeds) (ht : noDevice t = false) (h1 : 1 ≤ alignment)
    (hn : alignment ≤ maxI2cLength) (addr : BitVec 32) (len : Nat) (bus : Bus) :
    ∃ cs l, Chunked (roundDown maxI2cLength alignment) l cs ∧ l.length = len ∧
      tfa9895ReadData dev t addr len alignment bus =
        .returns (0, l, bus ++ .write [low8 addr] true :: cs.map fun c => .read c.length (some c)) := by
  have hlow := lt_roundDown h1 hn
  have hmax : maxI2cLength = 254 := rfl
  unfold tfa9895ReadData
  simp only [ht, Bool.false_eq_true, if_false, writeConfig_succeeds hdev, ne_eq, not_true_eq_false]
  obtain ⟨cs, l, hcs, hl, heq⟩ := readLoop_chunked hdev (show 1 ≤ roundDown maxI2cLength alignment by omega)
    len (len + 1) [] (bus ++ [.write [low8 addr] true]) (Nat.zero_le _) (by simp)
  refine ⟨cs, l, hcs, by simpa using hl, ?_⟩
  rw [heq, List.append_assoc]
  rfl

theorem readsWords (hdev : dev.Succeeds) (ht : noDevice t = false) (h1 : 1 ≤ alignment)
    (hn : alignment ≤ maxI2cLength) (addr : BitVec 32) (len : Nat) (bus : Bus) : ReadsWords dev t addr len alignment bus := by
  obtain ⟨cs, l, hcs, hl, heq⟩ := tfa9895ReadData_chunked hdev ht h1 hn addr len bus
  refine ⟨cs, l, heq, hcs.flatten, hl, fun p hp => (hcs.le p hp).trans (roundDown_le _ _), fun p hp => ?_⟩
  rw [hcs.full p hp]
  exact Nat.mul_mod_left _ _

/-- One less than a chunk is a whole number of words only where the words are bytes. -/
theorem roundDown_pred_mod (h1 : 1 ≤ alignment) (hn : alignment ≤ maxI2cLength) :
    (roundDown maxI2cLength alignment - 1) % alignment = 0 ↔ alignment = 1 := by
  constructor
  · intro h
    have hlow := lt_roundDown h1 hn
    have hmax : maxI2cLength = 254 := rfl
    have hpred : alignment ∣ roundDown maxI2cLength alignment - 1 := Nat.dvd_of_mod_eq_zero h
    have hdvd : alignment ∣ roundDown maxI2cLength alignment := Nat.dvd_mul_left _ _
    have hone := Nat.dvd_sub hdvd hpred
    rw [Nat.sub_sub_self (by omega)] at hone
    exact Nat.dvd_one.1 hone
  · rintro rfl
    exact Nat.mod_one _

theorem writesWords_iff (hdev : dev.Succeeds) (ht : noDevice t = false) (h1 : 1 ≤ alignment)
    (hn : alignment ≤ maxI2cLength) (addr : BitVec 32) (buf : List Byte) (bus : Bus) :
    WritesWords dev t addr buf alignment bus ↔ alignment = 1 ∨ buf.length < roundDown maxI2cLength alignment := by
  have hlow := lt_roundDown h1 hn
  have hle := roundDown_le maxI2cLength alignment
  have hmax : maxI2cLength = 254 := rfl
  obtain ⟨cs, hcs, heq⟩ := tfa9895WriteData_chunked hdev ht h1 hn addr buf bus
  constructor
  · rintro ⟨ps, hps, -, -, hfull⟩
    rw [heq] at hps
    -- the transfers determine the payloads
    have hmap : cs.map (fun c => Transfer.write (low8 addr :: c) true) = ps.map fun p => .write (low8 addr :: p) true := by
      simpa using hps
    have hinj : Function.Injective fun c : List Byte => Transfer.write (low8 addr :: c) true := by
      intro c d hcd
      simpa using hcd
    obtain rfl := List.map_injective_iff.2 hinj hmap
    by_cases hlen : buf.length < roundDown maxI2cLength alignment
    · exact .inr hlen
    · obtain ⟨c, hc, hcl⟩ := hcs.exists_full (by omega)
      have hmod := hfull c hc
      rw [hcl] at hmod
      exact .inl ((roundDown_pred_mod h1 hn).1 hmod)
  · intro h
    have hle' (p : List Byte) (hp : p ∈ cs) : p.length + 1 ≤ maxI2cLength := by
      have := hcs.le p hp
      omega
    refine ⟨cs, heq, hcs.flatten, hle', fun p hp => ?_⟩
    rcases h with rfl | hlen
    · exact Nat.mod_one _
    · rw [hcs.dropLast_eq_nil (by omega) (by omega)] at hp
      cases hp

/-- **Both directions carry a buffer in whole words exactly when the words are
bytes or the write is short enough for one chunk.** -/
theorem chunked_transfers_iff (hdev : dev.Succeeds) (ht : noDevice t = false) (h1 : 1 ≤ alignment)
    (hn : alignment ≤ maxI2cLength) (addr : BitVec 32) (buf : List Byte) (bus : Bus) :
    WritesWords dev t addr buf alignment bus ∧ ReadsWords dev t addr buf.length alignment bus ↔
      alignment = 1 ∨ buf.length < roundDown maxI2cLength alignment := by
  rw [← writesWords_iff hdev ht h1 hn addr buf bus]
  exact and_iff_left (readsWords hdev ht h1 hn addr buf.length bus)

/-- A device whose calls all succeed, and whose registers and memory are 0. -/
def zeroDevice : Device where
  answer := fun _ => .done fun _ => 0
  bufferLen := 255
  room := maxI2cLength_le

theorem zeroDevice_succeeds : zeroDevice.Succeeds := fun _ => ⟨_, rfl⟩

def openTfa : TfaT where
  fd := 3
  rev := 0x12

theorem chunked_transfers_iff_id :
    (zeroDevice.Succeeds ∧ noDevice (some openTfa) = false ∧ 1 ≤ 3 ∧ 3 ≤ maxI2cLength) ∧
      (WritesWords zeroDevice (some openTfa) 0x72 [0, 129, 6] 3 [] ∧ ReadsWords zeroDevice (some openTfa) 0x72 3 3 [] ↔
        3 = 1 ∨ 3 < roundDown maxI2cLength 3) :=
  ⟨⟨zeroDevice_succeeds, rfl, by decide, by decide⟩,
    chunked_transfers_iff zeroDevice_succeeds rfl (by decide) (by decide) 0x72 [0, 129, 6] []⟩

/-- Of 84 words, two bytes of the last one go out with the first 83 and one byte
alone. -/
theorem not_chunked_transfers : ¬ ∀ (addr : BitVec 32) (alignment : Nat) (buf : List Byte),
    1 ≤ alignment → alignment ≤ maxI2cLength → buf ≠ [] →
      WritesWords zeroDevice (some openTfa) addr buf alignment [] ∧ ReadsWords zeroDevice (some openTfa) addr buf.length alignment [] := by
  intro h
  have hlen : (List.replicate 252 (0 : Byte)).length = 252 := List.length_replicate
  have hwords := (h 0x72 3 (List.replicate 252 0) (by decide) (by decide) (List.ne_nil_of_length_pos (by omega))).1
  rw [writesWords_iff zeroDevice_succeeds rfl (by decide) (by decide), hlen] at hwords
  exact absurd hwords (by decide)

end HiaeCommon.Tfa
