/-
Arrays of slots, of which those that hold `0` are free: how often a value
stands in one after a slot is filled, freed, or freed wherever it holds a
value, and where a search for a value or a free slot ends.
-/
import Mathlib.Algebra.Group.Defs
import Mathlib.Data.List.Basic
import Mathlib.Data.List.TakeWhile

namespace HiaeCommon.Lib.Slots

variable {α : Type*} [DecidableEq α] [Zero α] {l : List α} {i : Nat} {a b : α}

theorem count_fill (hi : i < l.length) (h0 : l[i] = 0) (hb : b ≠ 0) :
    (l.set i a).count b = l.count b + if a = b then 1 else 0 := by
  rw [List.count_set hi, h0]
  simp [Ne.symm hb]

theorem count_free (hi : i < l.length) (ha : l[i] = a) (hb : b ≠ 0) :
    (l.set i 0).count b = l.count b - if a = b then 1 else 0 := by
  rw [List.count_set hi, ha]
  simp [Ne.symm hb]

/-- `a` freed wherever it stands. -/
def freeAll (a : α) (l : List α) : List α := l.map fun x => if x = a then 0 else x

theorem count_freeAll (hb : b ≠ 0) : (freeAll a l).count b = if a = b then 0 else l.count b := by
  induction l with
  | nil => simp [freeAll]
  | cons x l ih =>
    rw [freeAll, List.map_cons, List.count_cons, ← freeAll, ih, List.count_cons]
    by_cases hx : x = a
    · subst hx
      by_cases hxb : x = b
      · subst hxb
        simp [Ne.symm hb]
      · simp [hxb, Ne.symm hb]
    · by_cases hab : a = b
      · subst hab
        simp [hx]
      · simp [hx, hab]


/-- A loop that frees `a` slot by slot, in front of slot `i` so far: what it finds there, and what it makes of it. -/
theorem freeAll_step (hi : i < l.length) :
    (freeAll a (l.take i) ++ l.drop i).getD i 0 = l[i] ∧
      (if l[i] = a then (freeAll a (l.take i) ++ l.drop i).set i 0 else freeAll a (l.take i) ++ l.drop i) =
        freeAll a (l.take (i + 1)) ++ l.drop (i + 1) := by
  have hlen : (freeAll a (l.take i)).length = i := by
    rw [freeAll, List.length_map, List.length_take, Nat.min_eq_left (Nat.le_of_lt hi)]
  have hdrop : l.drop i = l[i] :: l.drop (i + 1) := List.drop_eq_getElem_cons hi
  have htake : freeAll a (l.take (i + 1)) = freeAll a (l.take i) ++ [if l[i] = a then 0 else l[i]] := by
    rw [freeAll, ← List.take_append_getElem hi, List.map_append]
    rfl
  constructor
  · rw [List.getD_eq_getElem?_getD, List.getElem?_append_right (Nat.le_of_eq hlen), hlen, Nat.sub_self, hdrop]
    rfl
  · rw [htake, hdrop, List.append_assoc, List.set_append_right i _ (Nat.le_of_eq hlen), hlen, Nat.sub_self]
    by_cases ha : l[i] = a
    · rw [if_pos ha, if_pos ha]
      rfl
    · rw [if_neg ha, if_neg ha]
      rfl

@[simp] theorem length_freeAll : (freeAll a l).length = l.length := List.length_map _

/-- With no slot free every value stands in front of the free ones. -/
theorem mem_front (h0 : 0 ∉ l) (ha : a ∈ l) : a ∈ l.takeWhile (· ≠ 0) := by
  have hall : ∀ x ∈ l, decide (x ≠ 0) = true := fun x hx => decide_eq_true fun hx0 => h0 (by rwa [← hx0])
  rwa [List.takeWhile_eq_self_iff.2 hall]

/-- A search for `a` or a free slot ends at `a` where `a` stands in front of the free ones. -/
theorem find_front (h : a ∈ l.takeWhile (· ≠ 0)) (hf : l.findIdx? (fun x => x == a || x == 0) = some i) : l[i]? = some a := by
  induction l generalizing i with
  | nil => cases hf
  | cons x l ih =>
    have hx0 : x ≠ 0 := by
      rintro rfl
      simp at h
    by_cases hxa : x = a
    · subst hxa
      rw [List.findIdx?_cons, if_pos (by simp)] at hf
      cases hf
      rfl
    · rw [List.findIdx?_cons, if_neg (by simp [hxa, hx0])] at hf
      obtain ⟨k, hk, rfl⟩ := Option.map_eq_some_iff.1 hf
      rw [List.takeWhile_cons_of_pos (by simpa using hx0)] at h
      exact ih ((List.mem_cons.1 h).resolve_left (Ne.symm hxa)) hk

/-- Else it ends at a free slot. -/
theorem find_free (h : a ∉ l.takeWhile (· ≠ 0)) (hf : l.findIdx? (fun x => x == a || x == 0) = some i) (hi : i < l.length) :
    l[i] = 0 := by
  induction l generalizing i with
  | nil => cases hf
  | cons x l ih =>
    by_cases hx0 : x = 0
    · rw [List.findIdx?_cons, if_pos (by simp [hx0])] at hf
      cases hf
      exact hx0
    · rw [List.takeWhile_cons_of_pos (by simpa using hx0), List.mem_cons, not_or] at h
      rw [List.findIdx?_cons, if_neg (by simp [Ne.symm h.1, hx0])] at hf
      obtain ⟨k, hk, rfl⟩ := Option.map_eq_some_iff.1 hf
      exact ih h.2 hk (Nat.lt_of_succ_lt_succ hi)

end HiaeCommon.Lib.Slots
