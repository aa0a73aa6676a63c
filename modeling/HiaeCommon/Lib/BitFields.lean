/-
Records as bit strings. A packed record is the concatenation of its fields, the
first one lowest; a part of it is cut out (`BitVec.extractLsb'`) or overwritten
(`putBits`), and it lies in memory byte by byte (`byteAt`).
-/
import Mathlib.Data.BitVec

namespace HiaeCommon.Lib

variable {m n w : Nat}

/-- The bits from `off` on are overwritten. -/
def putBits (off : Nat) (v : BitVec w) (b : BitVec n) : BitVec n :=
  (b &&& ~~~((BitVec.allOnes w).setWidth n <<< off)) ||| (v.setWidth n <<< off)

/-- A byte of a record in memory, the lowest first. -/
def byteAt (b : BitVec n) (i : Nat) : BitVec 8 := b.extractLsb' (8 * i) 8

theorem getLsbD_putBits {off : Nat} {v : BitVec w} {b : BitVec n} {i : Nat} (hi : i < n) :
    (putBits off v b).getLsbD i = if off ≤ i ∧ i < off + w then v.getLsbD (i - off) else b.getLsbD i := by
  unfold putBits
  simp only [BitVec.getLsbD_or, BitVec.getLsbD_and, BitVec.getLsbD_not, BitVec.getLsbD_shiftLeft, BitVec.getLsbD_setWidth,
    BitVec.getLsbD_allOnes]
  grind

/-- What was written is there. -/
theorem extractLsb'_putBits {off : Nat} (v : BitVec w) (b : BitVec n) (h : off + w ≤ n) :
    (putBits off v b).extractLsb' off w = v := by
  apply BitVec.eq_of_getLsbD_eq
  intro i hi
  simp only [BitVec.getLsbD_extractLsb', hi, decide_true, Bool.true_and]
  rw [getLsbD_putBits (by omega), if_pos (by omega), Nat.add_sub_cancel_left]

/-- The last value written to a field stays. -/
theorem putBits_putBits (off : Nat) (v v' : BitVec w) (b : BitVec n) :
    putBits off v (putBits off v' b) = putBits off v b := by
  apply BitVec.eq_of_getLsbD_eq
  intro i hi
  simp only [getLsbD_putBits hi]
  grind

/-- Fields that share no bit are written in either order. -/
theorem putBits_comm {off off' w' : Nat} (v : BitVec w) (v' : BitVec w') (b : BitVec n)
    (h : off + w ≤ off' ∨ off' + w' ≤ off) :
    putBits off v (putBits off' v' b) = putBits off' v' (putBits off v b) := by
  apply BitVec.eq_of_getLsbD_eq
  intro i hi
  simp only [getLsbD_putBits hi]
  grind

/-- A field above the low one is cut out of the rest. -/
theorem extract_append_high {off : Nat} (hi : BitVec m) (lo : BitVec n) (h : n ≤ off) :
    (hi ++ lo).extractLsb' off w = hi.extractLsb' (off - n) w := by
  apply BitVec.eq_of_getLsbD_eq
  intro i hi'
  simp only [BitVec.getLsbD_extractLsb', BitVec.getLsbD_append, hi', decide_true, Bool.true_and]
  rw [if_neg (by omega), show off + i - n = off - n + i by omega]

theorem extract_append_low {off : Nat} (hi : BitVec m) (lo : BitVec n) (h : off + w ≤ n) :
    (hi ++ lo).extractLsb' off w = lo.extractLsb' off w := by
  apply BitVec.eq_of_getLsbD_eq
  intro i hi'
  simp only [BitVec.getLsbD_extractLsb', BitVec.getLsbD_append, hi', decide_true, Bool.true_and]
  rw [if_pos (by omega)]

theorem extract_full (b : BitVec n) : b.extractLsb' 0 n = b := by
  apply BitVec.eq_of_getLsbD_eq
  intro i hi
  simp [hi]

/-- The low field. -/
theorem extract_append_zero (hi : BitVec m) (lo : BitVec n) : (hi ++ lo).extractLsb' 0 n = lo := by
  rw [extract_append_low hi lo (by omega), extract_full]

/-- Sixteen bits written at a byte offset are two bytes, and the others stay. -/
theorem byteAt_putBits {off i : Nat} {v : BitVec 16} {b : BitVec (8 * m)} (ho : off + 1 < m) (hi : i < m) :
    byteAt (putBits (8 * off) v b) i =
      if i = off then v.extractLsb' 0 8 else if i = off + 1 then v.extractLsb' 8 8 else byteAt b i := by
  apply BitVec.eq_of_getLsbD_eq
  intro j hj
  have hbit : (putBits (8 * off) v b).getLsbD (8 * i + j) = _ := getLsbD_putBits (by omega)
  simp only [byteAt, BitVec.getLsbD_extractLsb', hj, decide_true, Bool.true_and, hbit]
  by_cases h0 : i = off
  · subst h0
    rw [if_pos (by omega), if_pos rfl, BitVec.getLsbD_extractLsb', decide_eq_true hj, Bool.true_and,
      show 8 * i + j - 8 * i = 0 + j by omega]
  · rw [if_neg h0]
    by_cases h1 : i = off + 1
    · subst h1
      rw [if_pos (by omega), if_pos rfl, BitVec.getLsbD_extractLsb', decide_eq_true hj, Bool.true_and,
        show 8 * (off + 1) + j - 8 * off = 8 + j by omega]
    · rw [if_neg (by omega), if_neg h1, BitVec.getLsbD_extractLsb', decide_eq_true hj, Bool.true_and]

end HiaeCommon.Lib
