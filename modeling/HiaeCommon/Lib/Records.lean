/-
Records with a size before them: two bytes, the low one first, and then as many
bytes as they say.
-/
import Mathlib.Data.BitVec

namespace HiaeCommon.Lib

/-- How a string of records ends: after a whole record, inside a size, or inside
a record. -/
inductive RecordsEnd where
  | complete
  | cutSize
  | cutRecord
  deriving DecidableEq, Repr

def le16 (lo hi : BitVec 8) : Nat := lo.toNat + 256 * hi.toNat

/-- The whole records at the beginning, and how the rest ends. -/
def records : List (BitVec 8) → List (List (BitVec 8)) × RecordsEnd
  | [] => ([], .complete)
  | [_] => ([], .cutSize)
  | lo :: hi :: rest =>
    if rest.length < le16 lo hi then ([], .cutRecord)
    else
      let r := records (rest.drop (le16 lo hi))
      (rest.take (le16 lo hi) :: r.1, r.2)
  termination_by bytes => bytes.length
  decreasing_by
    rw [List.length_drop, List.length_cons, List.length_cons]
    exact Nat.lt_succ_of_le (Nat.le_succ_of_le (Nat.sub_le _ _))

def encodeRecord (r : List (BitVec 8)) : List (BitVec 8) :=
  BitVec.ofNat 8 r.length :: BitVec.ofNat 8 (r.length / 256) :: r

def encodeRecords (rs : List (List (BitVec 8))) : List (BitVec 8) :=
  rs.flatMap encodeRecord

theorem le16_lt (lo hi : BitVec 8) : le16 lo hi < 65536 := by
  have h1 := lo.isLt
  have h2 := hi.isLt
  unfold le16
  omega

theorem le16_ofNat {n : Nat} (h : n < 65536) : le16 (BitVec.ofNat 8 n) (BitVec.ofNat 8 (n / 256)) = n := by
  unfold le16
  rw [BitVec.toNat_ofNat, BitVec.toNat_ofNat]
  omega

theorem ofNat_le16 (lo hi : BitVec 8) : BitVec.ofNat 8 (le16 lo hi) = lo ∧ BitVec.ofNat 8 (le16 lo hi / 256) = hi := by
  have h1 := lo.isLt
  have h2 := hi.isLt
  constructor
  · apply BitVec.eq_of_toNat_eq
    rw [BitVec.toNat_ofNat, le16]
    omega
  · apply BitVec.eq_of_toNat_eq
    rw [BitVec.toNat_ofNat, le16]
    omega

/-- What is encoded is read back. -/
theorem records_encodeRecords {rs : List (List (BitVec 8))} (h : ∀ r ∈ rs, r.length < 65536) :
    records (encodeRecords rs) = (rs, .complete) := by
  induction rs with
  | nil => simp [encodeRecords, records]
  | cons r rs ih =>
    have hr : le16 (BitVec.ofNat 8 r.length) (BitVec.ofNat 8 (r.length / 256)) = r.length := le16_ofNat (h r (by simp))
    have hrest := ih fun r' hr' => h r' (by simp [hr'])
    have heq : encodeRecords (r :: rs) =
        BitVec.ofNat 8 r.length :: BitVec.ofNat 8 (r.length / 256) :: (r ++ encodeRecords rs) := rfl
    rw [heq, records, hr, if_neg (by simp), List.take_left, List.drop_left, hrest]

/-- Bytes that are whole records are the encoding of these. -/
theorem encodeRecords_records (bytes : List (BitVec 8)) (h : (records bytes).2 = .complete) :
    encodeRecords (records bytes).1 = bytes := by
  induction bytes using records.induct with
  | case1 => simp [records, encodeRecords]
  | case2 b => simp [records] at h
  | case3 lo hi rest hlt => simp [records, hlt] at h
  | case4 lo hi rest hlt ih =>
    rw [records, if_neg hlt] at h ⊢
    have hlen : (rest.take (le16 lo hi)).length = le16 lo hi := by
      rw [List.length_take]
      omega
    obtain ⟨hlo, hhi⟩ := ofNat_le16 lo hi
    change encodeRecord (rest.take (le16 lo hi)) ++ encodeRecords (records (rest.drop (le16 lo hi))).1 = _
    rw [ih h, encodeRecord, hlen, hlo, hhi, List.cons_append, List.cons_append, List.take_append_drop]

end HiaeCommon.Lib
