/-
Masks of leading ones, and what a comparison under one says.
-/
import Mathlib.Data.BitVec

namespace HiaeCommon.Lib

/-- `n` ones and then zeros, on `w` bits; all ones from `w` on. -/
def leadingOnes (w n : Nat) : BitVec w := BitVec.allOnes w <<< (w - n)

theorem leadingOnes_of_le {w n : Nat} (h : w ≤ n) : leadingOnes w n = BitVec.allOnes w := by
  rw [leadingOnes, Nat.sub_eq_zero_of_le h, BitVec.shiftLeft_zero]

theorem getMsbD_leadingOnes (w n i : Nat) : (leadingOnes w n).getMsbD i = decide (i < w ∧ i < n) := by
  rw [leadingOnes, BitVec.getMsbD_shiftLeft, BitVec.getMsbD_allOnes]
  exact decide_eq_decide.2 (by omega)

/-- Under the mask, words are the same that begin the same. -/
theorem and_leadingOnes_eq_iff {w n : Nat} {x y : BitVec w} :
    x &&& leadingOnes w n = y &&& leadingOnes w n ↔ ∀ i < w, i < n → x.getMsbD i = y.getMsbD i := by
  constructor
  · intro h i hw hn
    have := congrArg (fun z => z.getMsbD i) h
    simpa [BitVec.getMsbD_and, getMsbD_leadingOnes, hw, hn] using this
  · intro h
    refine BitVec.eq_of_getMsbD_eq fun i hw => ?_
    rw [BitVec.getMsbD_and, BitVec.getMsbD_and, getMsbD_leadingOnes]
    by_cases hn : i < n
    · rw [h i hw hn]
    · simp [hn]

/-- A bit of `x` turned over. -/
theorem exists_flip {w n : Nat} (h : n < w) (x : BitVec w) :
    ∃ y : BitVec w, ∀ i, y.getMsbD i = x.getMsbD i ↔ i ≠ n := by
  refine ⟨x ^^^ BitVec.twoPow w (w - 1 - n), fun i => ?_⟩
  have hbit : (BitVec.twoPow w (w - 1 - n)).getMsbD i = decide (i = n) := by
    rw [BitVec.getMsbD_twoPow, ← Bool.decide_and]
    exact decide_eq_decide.2 (by omega)
  rw [BitVec.getMsbD_xor, hbit]
  by_cases hi : i = n
  · simp [hi]
  · simp [hi]

end HiaeCommon.Lib
