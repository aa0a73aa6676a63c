/-
The DSP of the amplifier: the bit fields of its registers, its memory, and the
messages of tfa.c with their acknowledgement.

`tfa_dsp_msg_status` drops the result of its bus accesses, and
`tfa_dsp_check_rpc_status` compares only the last byte of the status word with
0, so a poll can be taken for an acknowledgement that is none
(`msg_acknowledged_iff`).
-/
import HiaeCommon.Amplifier.TfaBus
import HiaeCommon.Amplifier.TfaWords

namespace HiaeCommon.Tfa

variable (dev : Device)

/-! ## Bit fields -/

/-- Clocks stable flag. -/
def bfClks : BitVec 16 := 0x0060
/-- References are enabled by manager. -/
def bfArefs : BitVec 16 := 0x00f0
/-- Target memory for access. -/
def bfDmem : BitVec 16 := 0x7011
/-- Interrupt CoolFlux DSP. -/
def bfCfint : BitVec 16 := 0x7040
/-- Firmware event request rpc command. -/
def bfReqcmd : BitVec 16 := 0x7080
/-- memory-address to be accessed. -/
def bfMadd : BitVec 16 := 0x710f
/-- acknowledge of requests (8 channels). -/
def bfAck : BitVec 16 := 0x7387

/-- `TFA9887_DMEM_XMEM`. -/
def dmemXmem : BitVec 16 := 1

/-- Bits 0..3 of a field are its length. -/
def bfLen (bf : BitVec 16) : Nat := (bf &&& 0x0f).toNat

/-- Bits 4..7 are its position. -/
def bfPos (bf : BitVec 16) : Nat := ((bf >>> 4) &&& 0x0f).toNat

/-- Bits 8..15 are its register. -/
def bfAddr (bf : BitVec 16) : Byte := ((bf >>> 8) &&& 0xff).setWidth 8

def bfMask (bf : BitVec 16) : BitVec 16 :=
  ((((1 : BitVec 32) <<< (bfLen bf + 1)) - 1) <<< bfPos bf).setWidth 16

def bfSetBfValue (bf bfVal regVal : BitVec 16) : BitVec 16 :=
  (regVal &&& ~~~bfMask bf) ||| (bfVal <<< bfPos bf)

def bfGetBfValue (bf regVal : BitVec 16) : BitVec 16 :=
  (regVal &&& bfMask bf) >>> bfPos bf

def tfaSetBf (t : Option TfaT) (bf val : BitVec 16) (force : Bool) (bus : Bus) : Int × Bus :=
  match tfa9895ReadReg dev t (bfAddr bf) bus with
  | (rc, none, bus) => (rc, bus)
  | (_, some oldVal, bus) =>
    let regVal := bfSetBfValue bf val oldVal
    if force ∨ oldVal ≠ regVal then tfa9895WriteReg dev t (bfAddr bf) regVal bus else (0, bus)

/-- The value is there only where the register could be read. -/
def tfaGetBf (t : Option TfaT) (bf : BitVec 16) (bus : Bus) : Int × Option (BitVec 16) × Bus :=
  match tfa9895ReadReg dev t (bfAddr bf) bus with
  | (rc, none, bus) => (rc, none, bus)
  | (_, some regVal, bus) => (0, some (bfGetBfValue bf regVal), bus)

def tfaWriteReg (t : Option TfaT) (bf val : BitVec 16) (bus : Bus) : Int × Bus :=
  tfa9895WriteReg dev t (bfAddr bf) val bus

def tfaReadReg (t : Option TfaT) (bf : BitVec 16) (bus : Bus) : Int × Option (BitVec 16) × Bus :=
  tfa9895ReadReg dev t (bfAddr bf) bus

/-! ## Memory -/

/-- The words are there only where the read succeeds. -/
def tfaReadMem (t : Option TfaT) (startAddr : BitVec 16) (numWords : Nat) (bus : Bus) :
    Ends (Int × Option (List (BitVec 32)) × Bus) :=
  -- the results of these two accesses are not looked at
  let bus := (tfaSetBf dev t bfDmem dmemXmem false bus).2
  let bus := (tfaWriteReg dev t bfMadd startAddr bus).2
  (tfa9895ReadData dev t 0x72 (numWords * 3) 3 bus).andThen fun r =>
    if r.1 ≠ 0 then .returns (r.1, none, r.2.2)
    else .returns (0, some (bytes2data r.2.1), r.2.2)

/-! ## Messages -/

/-- What the local variables hold before anything is written to them:
`cf_status` of `tfa_dsp_msg_status`, and `mem` of `tfa_dsp_check_rpc_status` at
each try. -/
structure Stack where
  cfStatus : BitVec 16
  mem : Nat → Nat → Byte

/-- `mem` after a read that wrote `bytes` to it. -/
def filled (mem : Nat → Byte) (bytes : List Byte) (i : Nat) : Byte :=
  bytes.getD i (mem i)

/-- What `tfa_dsp_check_rpc_status` returns. The comparison binds tighter than
the `|`. -/
def rpcStatusOk (mem : Nat → Byte) : Bool :=
  ((mem 0).setWidth 32 <<< 16) ||| ((mem 1).setWidth 32 <<< 8) |||
    (if (mem 2).setWidth 32 <<< 0 = (0 : BitVec 32) then 1 else 0) ≠ (0 : BitVec 32)

def tfaDspCheckRpcStatus (mem : Nat → Byte) (t : Option TfaT) (bus : Bus) : Ends (Bool × Bus) :=
  let cfCtrl := bfSetBfValue bfDmem dmemXmem 0
  let bus := (tfaWriteReg dev t bfDmem cfCtrl bus).2
  -- Status => 0x0
  let bus := (tfaWriteReg dev t bfMadd 0x0 bus).2
  (tfa9895ReadData dev t 0x72 3 1 bus).andThen fun r => .returns (rpcStatusOk (filled mem r.2.1), r.2.2)

/-- The loop of `tfa_dsp_msg_status`, with the number of tries that are left. -/
def msgStatusLoop (stack : Stack) (t : Option TfaT) (tries : Nat) : Nat → BitVec 16 → Bus → Ends (Bool × Bus)
  | 0, _, bus => .returns (false, bus)
  | left + 1, cfStatus, bus =>
    let a := tfaGetBf dev t bfAck bus
    let cfStatus := a.2.1.getD cfStatus
    if cfStatus &&& 0x1 ≠ 0 then
      (tfaDspCheckRpcStatus dev (stack.mem tries) t a.2.2).andThen fun r =>
        if r.1 then .returns r else msgStatusLoop stack t (tries + 1) left cfStatus r.2
    else msgStatusLoop stack t (tries + 1) left cfStatus a.2.2

def tfaDspMsgStatus (stack : Stack) (t : Option TfaT) (retries : Nat) (bus : Bus) : Ends (Bool × Bus) :=
  msgStatusLoop dev stack t 0 retries stack.cfStatus bus

/-- How both messages begin: the memory is selected and the message named. -/
def msgId (t : Option TfaT) (moduleId paramId : Byte) (bus : Bus) : Ends Bus :=
  let cfCtrl := bfSetBfValue bfDmem dmemXmem 0
  let bus := (tfaWriteReg dev t bfDmem cfCtrl bus).2
  -- IDs => 0x1
  let bus := (tfaWriteReg dev t bfMadd 0x1 bus).2
  (tfa9895WriteData dev t 0x72 [0, moduleId + 128, paramId] 3 3 bus).andThen fun r => .returns r.2

/-- The DSP is told of the message. -/
def msgNotify (t : Option TfaT) (bus : Bus) : Bus :=
  let cfCtrl := bfSetBfValue bfDmem dmemXmem 0
  let cfCtrl := bfSetBfValue bfReqcmd 1 cfCtrl
  let cfCtrl := bfSetBfValue bfCfint 1 cfCtrl
  (tfaWriteReg dev t bfCfint cfCtrl bus).2

/-- `tfa_dsp_msg_read_id` up to the polls. -/
def readRequest (t : Option TfaT) (moduleId paramId : Byte) (bus : Bus) : Ends Bus :=
  (msgId dev t moduleId paramId bus).andThen fun bus => .returns (msgNotify dev t bus)

/-- `tfa_dsp_msg_write_id` up to the polls. -/
def writeRequest (t : Option TfaT) (moduleId paramId : Byte) (data : List Byte) (bus : Bus) : Ends Bus :=
  (msgId dev t moduleId paramId bus).andThen fun bus =>
    (tfa9895WriteData dev t 0x72 data data.length 3 bus).andThen fun r => .returns (msgNotify dev t r.2)

/-- The parameters a message is answered with. -/
def readParameters (t : Option TfaT) (len : Nat) (bus : Bus) : Ends (Int × Option (List (BitVec 32)) × Bus) :=
  -- Parameters => 0x2
  let bus := (tfaWriteReg dev t bfMadd 0x2 bus).2
  tfaReadMem dev t 0x72 (len / 3) bus

/-- The data is there only where the call succeeds. -/
def tfaDspMsgReadId (stack : Stack) (t : Option TfaT) (moduleId paramId : Byte) (len : Nat) (bus : Bus) :
    Ends (Int × Option (List Byte) × Bus) :=
  (readRequest dev t moduleId paramId bus).andThen fun bus =>
    (tfaDspMsgStatus dev stack t 100 bus).andThen fun r =>
      if r.1 then
        (readParameters dev t len r.2).andThen fun w =>
          match w.2.1 with
          | none => .returns (w.1, none, w.2.2)
          | some words =>
            match data2bytes words with
            | none => .undefined
            | some data => .returns (0, some data, w.2.2)
      else .returns (-ebusy, none, r.2)

def tfaDspMsgWriteId (stack : Stack) (t : Option TfaT) (moduleId paramId : Byte) (data : List Byte) (bus : Bus) :
    Ends (Int × Bus) :=
  (writeRequest dev t moduleId paramId data bus).andThen fun bus =>
    (tfaDspMsgStatus dev stack t 100 bus).andThen fun r =>
      if r.1 then .returns (0, r.2) else .returns (-ebusy, r.2)

/-! ## What a poll meets -/

/-- The read of the three bytes of the status word. -/
def readWord (t : Option TfaT) (bus : Bus) : Int × List Byte × Bus :=
  if noDevice t then (-enodev, [], bus)
  else
    let r := writeConfig dev [0x72] bus
    if r.1 ≠ 0 then (r.1, [], r.2) else readConfig dev 3 r.2

/-- What the device gives a poll: the field ACK and the status word, as far as
they could be read, and the transfers. -/
structure Poll where
  ack : Option (BitVec 16)
  word : List Byte
  bus : Bus

/-- The poll that begins with this `cf_status` at this point. -/
def pollOf (t : Option TfaT) (cfStatus : BitVec 16) (bus : Bus) : Poll :=
  let a := tfaGetBf dev t bfAck bus
  if a.2.1.getD cfStatus &&& 0x1 ≠ 0 then
    let bus := (tfaWriteReg dev t bfDmem (bfSetBfValue bfDmem dmemXmem 0) a.2.2).2
    let w := readWord dev t (tfaWriteReg dev t bfMadd 0x0 bus).2
    ⟨a.2.1, w.2.1, w.2.2⟩
  else ⟨a.2.1, [], a.2.2⟩

/-- `cf_status` and the transfers before poll `i`, if no poll ends the loop
before it. `sent` are the transfers before the first one. -/
def pollState (stack : Stack) (t : Option TfaT) (sent : Bus) : Nat → BitVec 16 × Bus
  | 0 => (stack.cfStatus, sent)
  | i + 1 =>
    let s := pollState stack t sent i
    let p := pollOf dev t s.1 s.2
    (p.ack.getD s.1, p.bus)

def pollAt (stack : Stack) (t : Option TfaT) (sent : Bus) (i : Nat) : Poll :=
  let s := pollState dev stack t sent i
  pollOf dev t s.1 s.2

/-- The last value `cf_status` got has the ACK bit, and of the three bytes in
`mem` one of the first two is not 0 or the last one is. -/
def Taken (stack : Stack) (t : Option TfaT) (sent : Bus) (i : Nat) : Prop :=
  let p := pollAt dev stack t sent i
  let mem := filled (stack.mem i) p.word
  p.ack.getD (pollState dev stack t sent i).1 &&& 0x1 ≠ 0 ∧ (mem 0 ≠ 0 ∨ mem 1 ≠ 0 ∨ mem 2 = 0)

/-- The first poll of the hundred that ends the loop. -/
def FirstTaken (stack : Stack) (t : Option TfaT) (sent : Bus) (i : Nat) : Prop :=
  i < 100 ∧ Taken dev stack t sent i ∧ ∀ j < i, ¬ Taken dev stack t sent j

/-- The transfers of a poll that reads the register of the ACK bit as `hi` and
`lo` and then 0 as the status word. -/
def goodPoll (hi lo : Byte) : List Transfer :=
  [.write [0x73] true, .read 2 (some [hi, lo]), .write [0x70, 0, 2, 0] true, .write [0x71, 0, 0, 0] true,
    .write [0x72] true, .read 3 (some [0, 0, 0])]

/-- The device acknowledges in this poll: it gives the ACK bit as set, and then
0 in all 24 bits of the status word. -/
def Genuine (stack : Stack) (t : Option TfaT) (sent : Bus) (i : Nat) : Prop :=
  ∃ hi lo, hi.getLsbD 0 = true ∧
    (pollAt dev stack t sent i).bus = (pollState dev stack t sent i).2 ++ goodPoll hi lo

/-- Some poll that takes place within the retries is an acknowledgement. -/
def Acknowledged (stack : Stack) (t : Option TfaT) (sent : Bus) : Prop :=
  ∃ i < 100, (∀ j < i, ¬ Taken dev stack t sent j) ∧ Genuine dev stack t sent i

/-- `tfa_dsp_msg_write_id` returns, and 0 only for a message that was acknowledged. -/
def WriteIdSound (stack : Stack) (t : Option TfaT) (moduleId paramId : Byte) (data : List Byte) (bus : Bus) : Prop :=
  ∃ sent rc bus', writeRequest dev t moduleId paramId data bus = .returns sent ∧
    tfaDspMsgWriteId dev stack t moduleId paramId data bus = .returns (rc, bus') ∧
    (rc = 0 → Acknowledged dev stack t sent)

/-- `tfa_dsp_msg_read_id` returns, and 0 only for a message that was acknowledged. -/
def ReadIdSound (stack : Stack) (t : Option TfaT) (moduleId paramId : Byte) (len : Nat) (bus : Bus) : Prop :=
  ∃ sent rc data bus', readRequest dev t moduleId paramId bus = .returns sent ∧
    tfaDspMsgReadId dev stack t moduleId paramId len bus = .returns (rc, data, bus') ∧
    (rc = 0 → Acknowledged dev stack t sent)

variable {dev} {stack : Stack} {t : Option TfaT}

theorem shift_byte_eq_zero (b : Byte) {k : Nat} (hk : k ≤ 24) : b.setWidth 32 <<< k = (0 : BitVec 32) ↔ b = 0 := by
  have hb := b.isLt
  have hpow : 2 ^ k ≤ 2 ^ 24 := Nat.pow_le_pow_right (by decide) hk
  have hle : b.toNat * 2 ^ k ≤ 255 * 2 ^ 24 := Nat.mul_le_mul (by omega) hpow
  rw [← BitVec.toNat_inj, ← BitVec.toNat_inj, BitVec.toNat_shiftLeft, BitVec.toNat_setWidth, Nat.shiftLeft_eq]
  rw [Nat.mod_eq_of_lt (show b.toNat < 2 ^ 32 by omega), Nat.mod_eq_of_lt (by omega)]
  change b.toNat * 2 ^ k = 0 ↔ b.toNat = 0
  rw [Nat.mul_eq_zero]
  exact or_iff_left (Nat.two_pow_pos k).ne'

theorem rpcStatusOk_iff (mem : Nat → Byte) : rpcStatusOk mem = true ↔ mem 0 ≠ 0 ∨ mem 1 ≠ 0 ∨ mem 2 = 0 := by
  unfold rpcStatusOk
  have hor (x y : BitVec 32) : x ||| y = 0 ↔ x = 0 ∧ y = 0 := BitVec.or_eq_zero_iff
  rw [decide_eq_true_iff, ne_eq, hor, hor, shift_byte_eq_zero _ (by decide),
    shift_byte_eq_zero _ (by decide)]
  simp only [shift_byte_eq_zero _ (Nat.zero_le 24)]
  by_cases h2 : mem 2 = 0
  · simp [h2]
  · simp only [h2, if_false, and_true, or_false]
    exact not_and_or

theorem tfa9895ReadData_word (t : Option TfaT) (bus : Bus) : tfa9895ReadData dev t 0x72 3 1 bus = .returns (readWord dev t bus) := by
  have haddr : low8 0x72 = 0x72 := by decide
  have hchunk : 3 ≤ roundDown maxI2cLength 1 := by decide
  unfold tfa9895ReadData readWord
  rw [haddr]
  split
  · rfl
  · simp only [readLoop_single hchunk]
    split <;> rfl

/-! ## The polls of one message -/

variable {sent : Bus} {i : Nat}

theorem msgStatusLoop_succ (tries left : Nat) :
    msgStatusLoop dev stack t tries (left + 1) (pollState dev stack t sent tries).1 (pollState dev stack t sent tries).2 =
      open Classical in
      if Taken dev stack t sent tries then .returns (true, (pollAt dev stack t sent tries).bus)
      else msgStatusLoop dev stack t (tries + 1) left (pollState dev stack t sent (tries + 1)).1
        (pollState dev stack t sent (tries + 1)).2 := by
  rw [msgStatusLoop]
  unfold Taken pollAt
  simp only [pollState]
  generalize pollState dev stack t sent tries = s
  obtain ⟨cf, bus⟩ := s
  unfold pollOf
  dsimp only
  by_cases hack : (tfaGetBf dev t bfAck bus).2.1.getD cf &&& 0x1 = 0
  · simp only [hack, ne_eq, not_true_eq_false, if_false, false_and]
  · simp only [hack, ne_eq, not_false_eq_true, if_true, true_and, tfaDspCheckRpcStatus, tfa9895ReadData_word,
      Ends.andThen_returns, ← rpcStatusOk_iff]
    generalize readWord dev t _ = w
    by_cases hok : rpcStatusOk (filled (stack.mem tries) w.2.1) = true
    · simp only [hok, if_true]
    · simp only [hok, if_false, Bool.false_eq_true]

/-- The loop ends with the first poll that is taken. -/
theorem msgStatusLoop_ends (dev : Device) (stack : Stack) (t : Option TfaT) (sent : Bus) (left : Nat) : ∀ tries,
    (∃ i, tries ≤ i ∧ i < tries + left ∧ Taken dev stack t sent i ∧ (∀ j, tries ≤ j → j < i → ¬ Taken dev stack t sent j) ∧
      msgStatusLoop dev stack t tries left (pollState dev stack t sent tries).1 (pollState dev stack t sent tries).2 =
        .returns (true, (pollAt dev stack t sent i).bus)) ∨
    (∀ j, tries ≤ j → j < tries + left → ¬ Taken dev stack t sent j) ∧ ∃ bus,
      msgStatusLoop dev stack t tries left (pollState dev stack t sent tries).1 (pollState dev stack t sent tries).2 =
        .returns (false, bus) := by
  induction left with
  | zero => exact fun tries => .inr ⟨fun j h1 h2 => by omega, _, rfl⟩
  | succ left ih =>
    intro tries
    rw [msgStatusLoop_succ]
    by_cases htaken : Taken dev stack t sent tries
    · exact .inl ⟨tries, Nat.le_refl _, by omega, htaken, fun j h1 h2 => by omega, if_pos htaken⟩
    · rw [if_neg htaken]
      have hskip (j : Nat) (hj : tries ≤ j) (h : tries + 1 ≤ j → ¬ Taken dev stack t sent j) : ¬ Taken dev stack t sent j := by
        rcases Nat.eq_or_lt_of_le hj with rfl | hlt
        · exact htaken
        · exact h hlt
      rcases ih (tries + 1) with ⟨i, hi, hlt, hti, hmin, heq⟩ | ⟨hnone, heq⟩
      · exact .inl ⟨i, by omega, by omega, hti, fun j h1 h2 => hskip j h1 fun h => hmin j h h2, heq⟩
      · exact .inr ⟨fun j h1 h2 => hskip j h1 fun h => hnone j h (by omega), heq⟩

theorem tfaDspMsgStatus_ends (dev : Device) (stack : Stack) (t : Option TfaT) (sent : Bus) :
    (∃ i, FirstTaken dev stack t sent i ∧ tfaDspMsgStatus dev stack t 100 sent = .returns (true, (pollAt dev stack t sent i).bus)) ∨
      (∀ i < 100, ¬ Taken dev stack t sent i) ∧ ∃ bus, tfaDspMsgStatus dev stack t 100 sent = .returns (false, bus) := by
  rcases msgStatusLoop_ends dev stack t sent 100 0 with
    ⟨i, -, hlt, htaken, hmin, heq⟩ | ⟨hnone, heq⟩
  · exact .inl ⟨i, ⟨by omega, htaken, fun j hj => hmin j (Nat.zero_le _) hj⟩, heq⟩
  · exact .inr ⟨fun i hi => hnone i (Nat.zero_le _) (by omega), heq⟩

/-! ## What a poll puts on the bus -/

theorem writeConfig_bus (dev : Device) (buffer : List Byte) (bus : Bus) :
    ∃ ok, (writeConfig dev buffer bus).2 = bus ++ [.write buffer ok] := by
  unfold writeConfig
  split
  · exact ⟨_, rfl⟩
  · exact ⟨_, rfl⟩

theorem tfaWriteReg_bus (dev : Device) (t : Option TfaT) (bf val : BitVec 16) (bus : Bus) :
    ∃ news, news.length ≤ 1 ∧ (tfaWriteReg dev t bf val bus).2 = bus ++ news := by
  unfold tfaWriteReg tfa9895WriteReg
  split
  · exact ⟨[], by simp, by simp⟩
  · obtain ⟨ok, h⟩ := writeConfig_bus dev _ bus
    exact ⟨_, by simp, h⟩

/-- A read after the byte that names what to read. -/
theorem readConfig_bus (dev : Device) (size : Nat) (bus : Bus) :
    ∃ r, (readConfig dev size bus).2.2 = bus ++ [.read size r] ∧ (readConfig dev size bus).2.1 = r.getD [] := by
  unfold readConfig
  split
  · exact ⟨none, rfl, rfl⟩
  · exact ⟨some _, rfl, rfl⟩

theorem tfaGetBf_bus (dev : Device) (t : Option TfaT) (bf : BitVec 16) (bus : Bus) :
    ∃ news, news.length ≤ 2 ∧ (tfaGetBf dev t bf bus).2.2 = bus ++ news := by
  have hread : ∃ news, news.length ≤ 2 ∧ (tfa9895ReadReg dev t (bfAddr bf) bus).2.2 = bus ++ news := by
    unfold tfa9895ReadReg
    split
    · exact ⟨[], by simp, by simp⟩
    dsimp only
    obtain ⟨ok, hw⟩ := writeConfig_bus dev [bfAddr bf] bus
    split
    · exact ⟨[.write [bfAddr bf] ok], by simp, hw⟩
    · obtain ⟨r, hbus, -⟩ := readConfig_bus dev 2 (writeConfig dev [bfAddr bf] bus).2
      have hboth : (readConfig dev 2 (writeConfig dev [bfAddr bf] bus).2).2.2 = bus ++ [.write [bfAddr bf] ok, .read 2 r] := by
        rw [hbus, hw, List.append_assoc]
        rfl
      split
      · exact ⟨_, by simp, hboth⟩
      · exact ⟨_, by simp, hboth⟩
  obtain ⟨news, hlen, hbus⟩ := hread
  refine ⟨news, hlen, ?_⟩
  unfold tfaGetBf
  split
  next heq => rwa [heq] at hbus
  next heq => rwa [heq] at hbus

theorem readWord_bus (dev : Device) (t : Option TfaT) (bus : Bus) :
    ∃ news, news.length ≤ 2 ∧ (readWord dev t bus).2.2 = bus ++ news ∧
      ∀ w, news = [.write [0x72] true, .read 3 (some w)] → (readWord dev t bus).2.1 = w := by
  unfold readWord
  split
  · exact ⟨[], by simp, by simp, by simp⟩
  dsimp only
  obtain ⟨ok, hw⟩ := writeConfig_bus dev [0x72] bus
  split
  · exact ⟨[.write [0x72] ok], by simp, hw, by simp⟩
  · obtain ⟨r, hbus, hword⟩ := readConfig_bus dev 3 (writeConfig dev [0x72] bus).2
    refine ⟨[.write [0x72] ok, .read 3 r], by simp, ?_, fun w hnews => ?_⟩
    · rw [hbus, hw, List.append_assoc]
      rfl
    · simp only [List.cons.injEq, Transfer.read.injEq, and_true, true_and] at hnews
      rw [hword, hnews.2]
      rfl

/-- An acknowledgement ends the loop. -/
theorem Genuine.taken (h : Genuine dev stack t sent i) : Taken dev stack t sent i := by
  obtain ⟨hi, lo, -, hbus⟩ := h
  unfold Taken
  unfold pollAt at hbus ⊢
  generalize pollState dev stack t sent i = s at hbus ⊢
  obtain ⟨cf, bus⟩ := s
  unfold pollOf at hbus ⊢
  obtain ⟨n1, hl1, h1⟩ := tfaGetBf_bus dev t bfAck bus
  dsimp only at hbus ⊢
  by_cases hack : (tfaGetBf dev t bfAck bus).2.1.getD cf &&& 0x1 = 0
  · -- without the ACK bit the poll ends after two transfers
    simp only [hack, ne_eq, not_true_eq_false, if_false, h1, List.append_cancel_left_eq] at hbus
    have hsix : (goodPoll hi lo).length = 6 := rfl
    rw [hbus] at hl1
    omega
  · simp only [hack, ne_eq, not_false_eq_true, if_true, true_and, h1] at hbus ⊢
    obtain ⟨n2, hl2, h2⟩ := tfaWriteReg_bus dev t bfDmem (bfSetBfValue bfDmem dmemXmem 0) (bus ++ n1)
    rw [h2] at hbus ⊢
    obtain ⟨n3, hl3, h3⟩ := tfaWriteReg_bus dev t bfMadd 0x0 (bus ++ n1 ++ n2)
    rw [h3] at hbus ⊢
    obtain ⟨n4, hl4, h4, hword⟩ := readWord_bus dev t (bus ++ n1 ++ n2 ++ n3)
    rw [h4] at hbus
    -- six transfers: the last two are those of the status word
    simp only [List.append_assoc, List.append_cancel_left_eq] at hbus
    have hlen := congrArg List.length hbus
    simp only [List.length_append, goodPoll, List.length_cons, List.length_nil] at hlen
    have hn4 : n4 = [.write [0x72] true, .read 3 (some [0, 0, 0])] := by
      have hdrop := congrArg (List.drop 4) hbus
      rw [← List.append_assoc, ← List.append_assoc, List.drop_left' (by simp only [List.length_append]; omega)] at hdrop
      exact hdrop
    rw [hword _ hn4]
    exact .inr (.inr rfl)

/-! ## When a result of 0 can be trusted -/

theorem FirstTaken.genuine (h : FirstTaken dev stack t sent i) (hack : Acknowledged dev stack t sent) : Genuine dev stack t sent i := by
  obtain ⟨-, htaken, hmin⟩ := h
  obtain ⟨k, -, hbefore, hgen⟩ := hack
  rcases Nat.lt_trichotomy i k with hlt | rfl | hlt
  · exact absurd htaken (hbefore i hlt)
  · exact hgen
  · exact absurd hgen.taken (hmin k hlt)

theorem FirstTaken.acknowledged (h : FirstTaken dev stack t sent i) (hgen : Genuine dev stack t sent i) :
    Acknowledged dev stack t sent :=
  ⟨i, h.1, h.2.2, hgen⟩

theorem msgId_returns (dev : Device) (t : Option TfaT) (moduleId paramId : Byte) (bus : Bus) :
    ∃ bus', msgId dev t moduleId paramId bus = .returns bus' := by
  have hlen : 3 ≤ [0, moduleId + 128, paramId].length := by simp
  unfold msgId
  dsimp only
  obtain ⟨r, hr⟩ := tfa9895WriteData_returns dev t 0x72 (show 1 ≤ 3 by decide) (show 3 ≤ 254 by decide) hlen _
  exact ⟨r.2, by rw [hr, Ends.andThen_returns]⟩

theorem readRequest_returns (dev : Device) (t : Option TfaT) (moduleId paramId : Byte) (bus : Bus) :
    ∃ sent, readRequest dev t moduleId paramId bus = .returns sent := by
  obtain ⟨bus', hid⟩ := msgId_returns dev t moduleId paramId bus
  exact ⟨_, by rw [readRequest, hid, Ends.andThen_returns]⟩

theorem writeRequest_returns (dev : Device) (t : Option TfaT) (moduleId paramId : Byte) (data : List Byte) (bus : Bus) :
    ∃ sent, writeRequest dev t moduleId paramId data bus = .returns sent := by
  obtain ⟨bus', hid⟩ := msgId_returns dev t moduleId paramId bus
  obtain ⟨r, hr⟩ := tfa9895WriteData_returns dev t 0x72 (show 1 ≤ 3 by decide) (show 3 ≤ 254 by decide) (Nat.le_refl data.length) bus'
  exact ⟨_, by rw [writeRequest, hid, Ends.andThen_returns, hr, Ends.andThen_returns]⟩

/-- A bus access of the read of the parameters fails. -/
def ParametersFail (dev : Device) (t : Option TfaT) (len : Nat) (bus : Bus) : Prop :=
  ∃ rc bus', rc ≠ 0 ∧ readParameters dev t len bus = .returns (rc, none, bus')

theorem readParameters_ends (dev : Device) (t : Option TfaT) (len : Nat) (bus : Bus) :
    ParametersFail dev t len bus ∨ ∃ bytes bus', readParameters dev t len bus = .returns (0, some (bytes2data bytes), bus') := by
  unfold ParametersFail readParameters tfaReadMem
  dsimp only
  obtain ⟨r, hr⟩ := tfa9895ReadData_returns dev t 0x72 (len / 3 * 3) (show 1 ≤ 3 by decide) (show 3 ≤ 254 by decide)
    (tfaWriteReg dev t bfMadd 0x72 (tfaSetBf dev t bfDmem dmemXmem false (tfaWriteReg dev t bfMadd 0x2 bus).2).2).2
  rw [hr, Ends.andThen_returns]
  by_cases hrc : r.1 = 0
  · exact .inr ⟨r.2.1, r.2.2, by simp only [hrc, ne_eq, not_true_eq_false, if_false]⟩
  · exact .inl ⟨r.1, r.2.2, hrc, by simp only [hrc, ne_eq, not_false_eq_true, if_true]⟩

theorem writeIdSound_iff (dev : Device) (stack : Stack) (t : Option TfaT) (moduleId paramId : Byte) (data : List Byte) (bus : Bus) :
    WriteIdSound dev stack t moduleId paramId data bus ↔
      ∀ sent i, writeRequest dev t moduleId paramId data bus = .returns sent → FirstTaken dev stack t sent i → Genuine dev stack t sent i := by
  obtain ⟨sent, hsent⟩ := writeRequest_returns dev t moduleId paramId data bus
  unfold WriteIdSound tfaDspMsgWriteId
  simp only [hsent, Ends.returns.injEq, Ends.andThen_returns]
  rcases tfaDspMsgStatus_ends dev stack t sent with ⟨i, hfirst, heq⟩ | ⟨hnone, bus', heq⟩
  · rw [heq, Ends.andThen_returns]
    constructor
    · rintro ⟨_, rc, bus', rfl, hret, hack⟩ _ k rfl hk
      have hrc : rc = 0 := by
        simp only [if_true, Ends.returns.injEq, Prod.mk.injEq] at hret
        exact hret.1.symm
      exact hk.genuine (hack hrc)
    · intro h
      exact ⟨sent, 0, _, rfl, rfl, fun _ => hfirst.acknowledged (h sent i rfl hfirst)⟩
  · rw [heq, Ends.andThen_returns]
    constructor
    · rintro - _ k rfl hk
      exact absurd hk.2.1 (hnone k hk.1)
    · intro _
      exact ⟨sent, -ebusy, bus', rfl, rfl, fun h => absurd h (by decide)⟩

theorem readIdSound_iff (dev : Device) (stack : Stack) (t : Option TfaT) (moduleId paramId : Byte) (len : Nat) (bus : Bus) :
    ReadIdSound dev stack t moduleId paramId len bus ↔
      ∀ sent i, readRequest dev t moduleId paramId bus = .returns sent → FirstTaken dev stack t sent i →
        Genuine dev stack t sent i ∨ ParametersFail dev t len (pollAt dev stack t sent i).bus := by
  obtain ⟨sent, hsent⟩ := readRequest_returns dev t moduleId paramId bus
  unfold ReadIdSound tfaDspMsgReadId
  simp only [hsent, Ends.returns.injEq, Ends.andThen_returns]
  rcases tfaDspMsgStatus_ends dev stack t sent with ⟨i, hfirst, heq⟩ | ⟨hnone, bus', heq⟩
  · rw [heq, Ends.andThen_returns]
    -- the poll that ends the loop is the only one that is the first
    have hsame (k : Nat) (hk : FirstTaken dev stack t sent k) : k = i := by
      rcases Nat.lt_trichotomy k i with hlt | rfl | hlt
      · exact absurd hk.2.1 (hfirst.2.2 k hlt)
      · rfl
      · exact absurd hfirst.2.1 (hk.2.2 i hlt)
    rcases readParameters_ends dev t len (pollAt dev stack t sent i).bus with hfail | ⟨bytes, bus', hpar⟩
    · constructor
      · rintro - _ k rfl hk
        rw [hsame k hk]
        exact .inr hfail
      · intro _
        obtain ⟨rc, bus', hrc, hpar⟩ := hfail
        exact ⟨sent, rc, none, bus', rfl, by simp only [if_true, hpar, Ends.andThen_returns], fun h => absurd h hrc⟩
    · obtain ⟨b, hb⟩ := data2bytes_bytes2data bytes
      have hnot : ¬ ParametersFail dev t len (pollAt dev stack t sent i).bus := by
        rintro ⟨rc, bus'', hrc, hret⟩
        rw [hpar] at hret
        cases hret
      simp only [if_true, hpar, Ends.andThen_returns, hb]
      constructor
      · rintro ⟨_, rc, data, bus'', rfl, hret, hack⟩ _ k rfl hk
        simp only [Ends.returns.injEq, Prod.mk.injEq] at hret
        exact .inl (hk.genuine (hack hret.1.symm))
      · intro h
        refine ⟨sent, 0, some b, bus', rfl, rfl, fun _ => ?_⟩
        exact hfirst.acknowledged ((h sent i rfl hfirst).resolve_right hnot)
  · rw [heq, Ends.andThen_returns]
    constructor
    · rintro - _ k rfl hk
      exact absurd hk.2.1 (hnone k hk.1)
    · intro _
      exact ⟨sent, -ebusy, none, bus', rfl, rfl, fun h => absurd h (by decide)⟩

/-- **A message reports 0 only for an acknowledgement exactly when the first poll
that ends the loop is one**, or, for a read, when the parameters cannot be read
either. -/
theorem msg_acknowledged_iff (dev : Device) (stack : Stack) (t : Option TfaT) (moduleId paramId : Byte) (data : List Byte)
    (len : Nat) (bus : Bus) :
    (WriteIdSound dev stack t moduleId paramId data bus ↔
      ∀ sent i, writeRequest dev t moduleId paramId data bus = .returns sent → FirstTaken dev stack t sent i →
        Genuine dev stack t sent i) ∧
    (ReadIdSound dev stack t moduleId paramId len bus ↔
      ∀ sent i, readRequest dev t moduleId paramId bus = .returns sent → FirstTaken dev stack t sent i →
        Genuine dev stack t sent i ∨ ParametersFail dev t len (pollAt dev stack t sent i).bus) :=
  ⟨writeIdSound_iff dev stack t moduleId paramId data bus, readIdSound_iff dev stack t moduleId paramId len bus⟩

/-- Every read gives a 1 and then zeros: the ACK bit, and the status 0x010000. -/
def highStatusDevice : Device where
  answer := fun _ => .done fun
    | 0 => 1#8
    | _ + 1 => 0#8
  bufferLen := 255
  room := maxI2cLength_le

def zeroStack : Stack where
  cfStatus := 0
  mem := fun _ _ => 0

/-- What `tfa_dsp_msg_write_id(t, 1, 6, {0, 0, 0}, 3)` sends before it polls. -/
def sentModel : Bus :=
  [.write [0x70, 0, 2, 0] true, .write [0x71, 0, 1, 0] true, .write [0x72, 0, 129, 6] true, .write [0x72, 0, 0, 0] true,
    .write [0x70, 1, 0x12, 0] true]

/-- The status word is not 0, and the message is reported as acknowledged. -/
theorem not_writeIdSound_highStatus : ¬ WriteIdSound highStatusDevice zeroStack (some openTfa) 1 6 [0, 0, 0] [] := by
  rw [writeIdSound_iff]
  intro h
  have hfirst : FirstTaken highStatusDevice zeroStack (some openTfa) sentModel 0 :=
    ⟨by decide, ⟨by decide, .inl (by decide)⟩, fun j hj => absurd hj (Nat.not_lt_zero j)⟩
  obtain ⟨hi, lo, -, hbus⟩ := h sentModel 0 rfl hfirst
  have hlast : (pollAt highStatusDevice zeroStack (some openTfa) sentModel 0).bus.getLast? = some (.read 3 (some [1, 0, 0])) := rfl
  have hgood : (sentModel ++ goodPoll hi lo).getLast? = some (.read 3 (some [0, 0, 0])) := rfl
  rw [hbus] at hlast
  exact absurd (hlast.symm.trans hgood) (by decide)

end HiaeCommon.Tfa
