/-
One's-complement arithmetic on sixteen bits: the carry out of the top goes
back in at the bottom, a number is taken away by adding its complement, and
there are two zeros. It is arithmetic modulo 65535, and the Internet checksum
is made of it.
-/
import Mathlib.Data.Int.ModEq

namespace HiaeCommon.Lib

/-- The carry out of sixteen bits goes back in. -/
def endAround (n : Nat) : Nat := n % 2 ^ 16 + n / 2 ^ 16

/-- The sum of two words. -/
def onesAdd (a b : BitVec 16) : BitVec 16 := BitVec.ofNat 16 (endAround (a.toNat + b.toNat))

/-- The sum of words. -/
def onesSum (ws : List (BitVec 16)) : BitVec 16 := ws.foldr onesAdd 0

/-- The words, of which one is the checksum, sum up to the zero of all ones. -/
def ChecksumRight (ws : List (BitVec 16)) : Prop := onesSum ws = BitVec.allOnes 16

instance (ws : List (BitVec 16)) : Decidable (ChecksumRight ws) := inferInstanceAs (Decidable (_ = _))

/-- The checksum field after the words' sum went up by `delta`: the field is the complement of a sum. -/
def checksumAdd (cksum delta : BitVec 16) : BitVec 16 := ~~~ (onesAdd (~~~ cksum) delta)

section

variable {a b c : BitVec 16} {ws : List (BitVec 16)}

theorem endAround_lt {n : Nat} (h : n ≤ 2 * (2 ^ 16 - 1)) : endAround n < 2 ^ 16 := by
  unfold endAround
  omega

theorem endAround_modEq (n : Nat) : endAround n ≡ n [MOD 65535] := by
  unfold endAround Nat.ModEq
  omega

/-- No carry is lost. -/
theorem onesAdd_toNat (a b : BitVec 16) : (onesAdd a b).toNat = endAround (a.toNat + b.toNat) := by
  have ha := a.isLt
  have hb := b.isLt
  rw [onesAdd, BitVec.toNat_ofNat, Nat.mod_eq_of_lt (endAround_lt (by omega))]

theorem onesAdd_modEq (a b : BitVec 16) : (onesAdd a b).toNat ≡ a.toNat + b.toNat [MOD 65535] := by
  rw [onesAdd_toNat]
  exact endAround_modEq _

/-- A sum is the zero of all zeros only where both its words are. -/
theorem onesAdd_eq_zero : (onesAdd a b).toNat = 0 ↔ a.toNat = 0 ∧ b.toNat = 0 := by
  rw [onesAdd_toNat, endAround]
  omega

theorem compl_toNat (a : BitVec 16) : (~~~ a).toNat = 65535 - a.toNat := BitVec.toNat_not

theorem onesSum_cons (w : BitVec 16) (ws : List (BitVec 16)) : onesSum (w :: ws) = onesAdd w (onesSum ws) := rfl

theorem onesSum_modEq (ws : List (BitVec 16)) : (onesSum ws).toNat ≡ (ws.map BitVec.toNat).sum [MOD 65535] := by
  induction ws with
  | nil => rfl
  | cons w ws ih =>
    rw [onesSum_cons, List.map_cons, List.sum_cons]
    exact (onesAdd_modEq w (onesSum ws)).trans (Nat.ModEq.add_left _ ih)

theorem onesSum_eq_zero : (onesSum ws).toNat = 0 ↔ ∀ w ∈ ws, w.toNat = 0 := by
  induction ws with
  | nil => simp [onesSum]
  | cons w ws ih => rw [onesSum_cons, onesAdd_eq_zero, ih, List.forall_mem_cons]

/-- The words sum up to a zero, and it is not that of all zeros. -/
theorem checksumRight_iff : ChecksumRight ws ↔ (ws.map BitVec.toNat).sum ≡ 0 [MOD 65535] ∧ ∃ w ∈ ws, w.toNat ≠ 0 := by
  have hlt := (onesSum ws).isLt
  have hmod := onesSum_modEq ws
  have hzero : (∃ w ∈ ws, w.toNat ≠ 0) ↔ (onesSum ws).toNat ≠ 0 := by
    rw [Ne, onesSum_eq_zero]
    push Not
    rfl
  rw [hzero, ChecksumRight, ← BitVec.toNat_inj, BitVec.toNat_allOnes]
  constructor
  · intro h
    rw [h] at hmod
    exact ⟨hmod.symm, by omega⟩
  · rintro ⟨hsum, hne⟩
    have hdvd : (onesSum ws).toNat % 65535 = 0 := hmod.trans hsum
    omega

/-- The field, as a number modulo 65535, goes down by what the sum went up. -/
theorem checksumAdd_modEq (cksum delta : BitVec 16) :
    (checksumAdd cksum delta).toNat + delta.toNat ≡ cksum.toNat [MOD 65535] := by
  have hc := cksum.isLt
  have hlt := (onesAdd (~~~ cksum) delta).isLt
  have hsum := onesAdd_modEq (~~~ cksum) delta
  have hcompl := compl_toNat cksum
  have hfield : (checksumAdd cksum delta).toNat = 65535 - (onesAdd (~~~ cksum) delta).toNat := compl_toNat _
  unfold Nat.ModEq at hsum ⊢
  omega

/-- **Words are replaced.** A right checksum is right again after the difference of the words was added to it, if the words
that stay are not all zero. -/
theorem ChecksumRight.replace {cksum delta : BitVec 16} {l l' ws ws' : List (BitVec 16)}
    (hl : l.Perm (cksum :: ws)) (hl' : l'.Perm (checksumAdd cksum delta :: ws'))
    (hdelta : delta.toNat + (ws.map BitVec.toNat).sum ≡ (ws'.map BitVec.toNat).sum [MOD 65535])
    (hne : ∃ w ∈ ws', w.toNat ≠ 0) (h : ChecksumRight l) : ChecksumRight l' := by
  rw [checksumRight_iff, (hl.map BitVec.toNat).sum_nat, List.map_cons, List.sum_cons] at h
  rw [checksumRight_iff, (hl'.map BitVec.toNat).sum_nat, List.map_cons, List.sum_cons]
  have hfield := checksumAdd_modEq cksum delta
  obtain ⟨w, hw, hw0⟩ := hne
  refine ⟨?_, w, hl'.mem_iff.2 (List.mem_cons_of_mem _ hw), hw0⟩
  calc (checksumAdd cksum delta).toNat + (ws'.map BitVec.toNat).sum
      ≡ (checksumAdd cksum delta).toNat + (delta.toNat + (ws.map BitVec.toNat).sum) [MOD 65535] :=
        Nat.ModEq.add_left _ hdelta.symm
    _ = (checksumAdd cksum delta).toNat + delta.toNat + (ws.map BitVec.toNat).sum := by omega
    _ ≡ cksum.toNat + (ws.map BitVec.toNat).sum [MOD 65535] := Nat.ModEq.add_right _ hfield
    _ ≡ 0 [MOD 65535] := h.1

end

end HiaeCommon.Lib
