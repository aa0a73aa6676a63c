/-
The 24-bit words of the DSP: `bytes2data` and `data2bytes` of tfa.c.

The encoder negates a negative value, and the negation of the least `int`
overflows; everything else survives the way there and back
(`word_codec_iff`).
-/
import Mathlib.Data.BitVec

namespace HiaeCommon.Tfa

/-! ## The two functions -/

/-- Three bytes, the first one highest. -/
def word24 (b0 b1 b2 : BitVec 8) : BitVec 32 :=
  (b0.setWidth 32 <<< 16) ||| (b1.setWidth 32 <<< 8) ||| b2.setWidth 32

/-- The body of the loop of `bytes2data`. -/
def bytes2word (b0 b1 b2 : BitVec 8) : BitVec 32 :=
  let d := word24 b0 b1 b2
  -- sign bit was set
  if b0 &&& 0x80 ≠ 0 then -((1 <<< 24) - d) else d

def bytes2data : List (BitVec 8) → List (BitVec 32)
  | b0 :: b1 :: b2 :: bytes => bytes2word b0 b1 b2 :: bytes2data bytes
  | _ => []

def leastInt : BitVec 32 := 0x80000000

/-- The minus of an `int`. It overflows at the least one, and C leaves
undefined what happens then. -/
def negInt (x : BitVec 32) : Option (BitVec 32) :=
  if x = leastInt then none else some (-x)

/-- `MIN` of two `int`s. -/
def minInt (a b : BitVec 32) : BitVec 32 :=
  if a.toInt < b.toInt then a else b

def bytes24 (d : BitVec 32) : List (BitVec 8) :=
  [((d >>> 16) &&& 0xff).setWidth 8, ((d >>> 8) &&& 0xff).setWidth 8, (d &&& 0xff).setWidth 8]

/-- The body of the loop of `data2bytes`. -/
def word2bytes (x : BitVec 32) : Option (List (BitVec 8)) :=
  if 0 ≤ x.toInt then some (bytes24 (minInt x ((1 <<< 23) - 1)))
  else (negInt x).map fun n => bytes24 ((1 <<< 24) - minInt n (1 <<< 23))

def data2bytes : List (BitVec 32) → Option (List (BitVec 8))
  | [] => some []
  | x :: data =>
    match word2bytes x with
    | none => none
    | some b => (data2bytes data).map (b ++ ·)

/-! ## One word -/

/-- The signed 24-bit range. -/
def clamp24 (x : Int) : Int :=
  max (-2 ^ 23) (min x (2 ^ 23 - 1))

theorem toNat_word24 (b0 b1 b2 : BitVec 8) :
    (word24 b0 b1 b2).toNat = b0.toNat * 65536 + b1.toNat * 256 + b2.toNat := by
  have h0 := b0.isLt
  have h1 := b1.isLt
  have h2 := b2.isLt
  have hhi : (b0.setWidth 32 <<< 16 : BitVec 32).toNat = b0.toNat <<< 16 := by
    simp only [BitVec.toNat_shiftLeft, BitVec.toNat_setWidth, Nat.shiftLeft_eq]
    omega
  have hmid : (b1.setWidth 32 <<< 8 : BitVec 32).toNat = b1.toNat <<< 8 := by
    simp only [BitVec.toNat_shiftLeft, BitVec.toNat_setWidth, Nat.shiftLeft_eq]
    omega
  have hlo : (b2.setWidth 32 : BitVec 32).toNat = b2.toNat := by
    simp only [BitVec.toNat_setWidth]
    omega
  unfold word24
  rw [BitVec.toNat_or, BitVec.toNat_or, hhi, hmid, hlo, ← Nat.shiftLeft_add_eq_or_of_lt (by rw [Nat.shiftLeft_eq]; omega)]
  have heq : b0.toNat <<< 16 + b1.toNat <<< 8 = (b0.toNat * 256 + b1.toNat) <<< 8 := by
    simp only [Nat.shiftLeft_eq]
    omega
  rw [heq, ← Nat.shiftLeft_add_eq_or_of_lt (by omega), Nat.shiftLeft_eq]
  omega

theorem toNat_low8 (d : BitVec 32) : ((d &&& 0xff).setWidth 8 : BitVec 8).toNat = d.toNat % 256 := by
  have hmask : d.toNat &&& 255 = d.toNat % 256 := Nat.and_two_pow_sub_one_eq_mod d.toNat 8
  rw [BitVec.toNat_setWidth, BitVec.toNat_and]
  change (d.toNat &&& 255) % 256 = _
  rw [hmask, Nat.mod_mod]

theorem bytes24_word24 (b0 b1 b2 : BitVec 8) : bytes24 (word24 b0 b1 b2) = [b0, b1, b2] := by
  have h0 := b0.isLt
  have h1 := b1.isLt
  have h2 := b2.isLt
  have hd := toNat_word24 b0 b1 b2
  unfold bytes24
  simp only [List.cons.injEq, and_true]
  refine ⟨?_, ?_, ?_⟩
  all_goals
    apply BitVec.eq_of_toNat_eq
    simp only [toNat_low8, BitVec.toNat_ushiftRight, Nat.shiftRight_eq_div_pow, hd]
    omega

theorem sign_bit : ∀ b : BitVec 8, b &&& 0x80 ≠ 0 ↔ 128 ≤ b.toNat := by
  decide

/-- A number below 2^24, read as a signed one. -/
def signed24 (n : Nat) : Int :=
  if n < 2 ^ 23 then n else n - 2 ^ 24

theorem toInt_of_lt {d : BitVec 32} (h : d.toNat < 2 ^ 31) : d.toInt = d.toNat :=
  BitVec.toInt_eq_toNat_of_lt (by omega)

/-- What the decoder subtracts from 2^24. -/
theorem toNat_sub_word {d : BitVec 32} (h : d.toNat ≤ 2 ^ 24) : ((1 <<< 24 : BitVec 32) - d).toNat = 2 ^ 24 - d.toNat := by
  have htop : (1 <<< 24 : BitVec 32).toNat = 2 ^ 24 := by decide
  rw [BitVec.toNat_sub, htop]
  omega

theorem toInt_neg_word {d : BitVec 32} (h : d.toNat ≤ 2 ^ 24) : (-d).toInt = -d.toNat := by
  rw [BitVec.toInt_neg_of_ne_intMin, toInt_of_lt (by omega)]
  intro he
  rw [he] at h
  exact absurd h (by decide)

/-- The decoder reads three bytes as a signed number. -/
theorem toInt_bytes2word (b0 b1 b2 : BitVec 8) :
    (bytes2word b0 b1 b2).toInt = signed24 (word24 b0 b1 b2).toNat := by
  have h0 := b0.isLt
  have h1 := b1.isLt
  have h2 := b2.isLt
  have hd := toNat_word24 b0 b1 b2
  unfold bytes2word signed24
  simp only [sign_bit]
  by_cases hs : 128 ≤ b0.toNat
  · have hsub := toNat_sub_word (d := word24 b0 b1 b2) (by omega)
    rw [if_pos hs, if_neg (by omega), toInt_neg_word (by omega), hsub]
    omega
  · rw [if_neg hs, if_pos (by omega), toInt_of_lt (by omega)]

theorem toInt_minInt (a b : BitVec 32) : (minInt a b).toInt = min a.toInt b.toInt := by
  unfold minInt
  split <;> omega

/-- A word below 2^24 comes back as the signed number its low bits are. -/
theorem bytes2data_bytes24 {d : BitVec 32} (h : d.toNat < 2 ^ 24) (bytes : List (BitVec 8)) :
    ∃ x, bytes2data (bytes24 d ++ bytes) = x :: bytes2data bytes ∧ x.toInt = signed24 d.toNat := by
  refine ⟨_, rfl, ?_⟩
  rw [toInt_bytes2word]
  have hd : (word24 (((d >>> 16) &&& 0xff).setWidth 8) (((d >>> 8) &&& 0xff).setWidth 8) ((d &&& 0xff).setWidth 8)).toNat = d.toNat := by
    simp only [toNat_word24, toNat_low8, BitVec.toNat_ushiftRight, Nat.shiftRight_eq_div_pow]
    omega
  rw [hd]

/-- The word the encoder cuts into bytes, where it gets to one. -/
theorem word2bytes_eq {x : BitVec 32} (h : x ≠ leastInt) :
    ∃ d, word2bytes x = some (bytes24 d) ∧ d.toNat < 2 ^ 24 ∧
      clamp24 x.toInt = signed24 d.toNat := by
  unfold word2bytes
  by_cases hx : 0 ≤ x.toInt
  · refine ⟨_, if_pos hx, ?_⟩
    have hmin := toInt_minInt x ((1 <<< 23) - 1)
    have hlim : ((1 <<< 23) - 1 : BitVec 32).toInt = 2 ^ 23 - 1 := by decide
    rw [hlim] at hmin
    have htoInt := BitVec.toInt_eq_toNat_cond (minInt x ((1 <<< 23) - 1))
    have hlt := (minInt x ((1 <<< 23) - 1)).isLt
    unfold clamp24 signed24
    split at htoInt <;> split <;> omega
  · have hneg : negInt x = some (-x) := if_neg h
    rw [if_neg hx, hneg]
    refine ⟨_, rfl, ?_⟩
    have hmin := toInt_minInt (-x) (1 <<< 23)
    have hlim : (1 <<< 23 : BitVec 32).toInt = 2 ^ 23 := by decide
    rw [hlim, BitVec.toInt_neg_of_ne_intMin h] at hmin
    have htoInt := BitVec.toInt_eq_toNat_cond (minInt (-x) (1 <<< 23))
    have hlt := (minInt (-x) (1 <<< 23)).isLt
    have hle : (minInt (-x) (1 <<< 23)).toNat ≤ 2 ^ 24 := by
      split at htoInt <;> omega
    rw [toNat_sub_word hle]
    unfold clamp24 signed24
    split at htoInt <;> split <;> omega

/-! ## Lists of words -/

/-- What the list decodes to once it is encoded, as the format has it. -/
def DecodesClamped (data : List (BitVec 32)) : Prop :=
  ∃ bytes, data2bytes data = some bytes ∧ (bytes2data bytes).map BitVec.toInt = data.map fun x => clamp24 x.toInt

theorem data2bytes_decodes {data : List (BitVec 32)} (h : ∀ x ∈ data, x ≠ leastInt) : DecodesClamped data := by
  induction data with
  | nil => exact ⟨[], rfl, rfl⟩
  | cons x data ih =>
    obtain ⟨bytes, henc, hdec⟩ := ih fun y hy => h y (List.mem_cons_of_mem x hy)
    obtain ⟨d, hword, hd, hclamp⟩ := word2bytes_eq (h x List.mem_cons_self)
    obtain ⟨y, hy, hyd⟩ := bytes2data_bytes24 hd bytes
    refine ⟨bytes24 d ++ bytes, ?_, ?_⟩
    · rw [data2bytes, hword, henc]
      rfl
    · rw [hy, List.map_cons, hdec, List.map_cons, hyd, hclamp]

theorem data2bytes_least {data : List (BitVec 32)} (h : leastInt ∈ data) : data2bytes data = none := by
  induction data with
  | nil => cases h
  | cons x data ih =>
    by_cases hx : x = leastInt
    · subst hx
      rfl
    · have hmem : leastInt ∈ data := by
        rcases List.mem_cons.1 h with he | hmem
        · exact absurd he.symm hx
        · exact hmem
      rw [data2bytes, ih hmem]
      split <;> rfl

/-- What the decoder makes of three bytes, the encoder takes apart again. -/
theorem word2bytes_bytes2word (b0 b1 b2 : BitVec 8) : word2bytes (bytes2word b0 b1 b2) = some [b0, b1, b2] := by
  have h0 := b0.isLt
  have h1 := b1.isLt
  have h2 := b2.isLt
  have hd := toNat_word24 b0 b1 b2
  have hx := toInt_bytes2word b0 b1 b2
  rw [← bytes24_word24 b0 b1 b2]
  unfold signed24 at hx
  unfold word2bytes
  by_cases hs : (word24 b0 b1 b2).toNat < 2 ^ 23
  · rw [if_pos hs] at hx
    have hw : bytes2word b0 b1 b2 = word24 b0 b1 b2 := BitVec.eq_of_toInt_eq (by rw [hx, toInt_of_lt (by omega)])
    have hmin : minInt (word24 b0 b1 b2) ((1 <<< 23) - 1) = word24 b0 b1 b2 := by
      have hlim : ((1 <<< 23) - 1 : BitVec 32).toInt = 2 ^ 23 - 1 := by decide
      apply BitVec.eq_of_toInt_eq
      rw [toInt_minInt, hlim, toInt_of_lt (by omega)]
      omega
    rw [if_pos (by omega), hw, hmin]
  · rw [if_neg hs] at hx
    have hsub := toNat_sub_word (d := word24 b0 b1 b2) (by omega)
    have hneg : -bytes2word b0 b1 b2 = (1 <<< 24) - word24 b0 b1 b2 := by
      unfold bytes2word
      rw [if_pos ((sign_bit b0).2 (by omega)), BitVec.neg_neg]
    have hmin : minInt ((1 <<< 24) - word24 b0 b1 b2) (1 <<< 23) = (1 <<< 24) - word24 b0 b1 b2 := by
      have hlim : (1 <<< 23 : BitVec 32).toInt = 2 ^ 23 := by decide
      apply BitVec.eq_of_toInt_eq
      rw [toInt_minInt, hlim, toInt_of_lt (by omega)]
      omega
    have hleast : bytes2word b0 b1 b2 ≠ leastInt := by
      intro he
      rw [he] at hx
      have hval : leastInt.toInt = -2 ^ 31 := by decide
      omega
    have hself : (1 <<< 24) - ((1 <<< 24) - word24 b0 b1 b2) = word24 b0 b1 b2 := by
      apply BitVec.eq_of_toNat_eq
      rw [toNat_sub_word (by omega), hsub]
      omega
    rw [if_neg (by omega), negInt, if_neg hleast, Option.map_some, hneg, hmin, hself]

/-- Whatever the decoder gives, the encoder takes. -/
theorem data2bytes_bytes2data (bytes : List (BitVec 8)) : ∃ b, data2bytes (bytes2data bytes) = some b := by
  induction bytes using bytes2data.induct with
  | case1 b0 b1 b2 bytes ih =>
    obtain ⟨b, hb⟩ := ih
    refine ⟨[b0, b1, b2] ++ b, ?_⟩
    rw [bytes2data, data2bytes, word2bytes_bytes2word, hb]
    rfl
  | case2 bytes hshort =>
    refine ⟨[], ?_⟩
    rw [bytes2data.eq_2 bytes hshort]
    rfl

/-- Strings of whole words, there and back. -/
theorem encode_decode {bytes : List (BitVec 8)} (h : bytes.length % 3 = 0) : data2bytes (bytes2data bytes) = some bytes := by
  induction bytes using bytes2data.induct with
  | case1 b0 b1 b2 bytes ih =>
    have hlen : bytes.length % 3 = 0 := by simpa [Nat.add_assoc] using h
    rw [bytes2data, data2bytes, word2bytes_bytes2word, ih hlen]
    rfl
  | case2 bytes hshort =>
    match bytes, hshort, h with
    | [], _, _ => rfl
    | [_], _, h => simp at h
    | [_, _], _, h => simp at h
    | _ :: _ :: _ :: _, hshort, _ => exact absurd rfl (hshort _ _ _ _)

/-- **A list of words comes back clamped to 24 bits exactly when the least `int`
is not in it**, and every string of whole words comes back as it is. -/
theorem word_codec_iff (data : List (BitVec 32)) :
    (DecodesClamped data ∧ ∀ bytes : List (BitVec 8), bytes.length % 3 = 0 → data2bytes (bytes2data bytes) = some bytes) ↔
      ∀ x ∈ data, x ≠ leastInt := by
  constructor
  · rintro ⟨⟨bytes, henc, -⟩, -⟩ x hx rfl
    rw [data2bytes_least hx] at henc
    cases henc
  · intro h
    exact ⟨data2bytes_decodes h, fun bytes hlen => encode_decode hlen⟩

/-- The negation of the least `int` overflows, and no bytes are defined for it. -/
theorem not_decodesClamped_least : ¬ ∀ data, DecodesClamped data := by
  intro h
  obtain ⟨bytes, henc, -⟩ := h [leastInt]
  cases henc

end HiaeCommon.Tfa
