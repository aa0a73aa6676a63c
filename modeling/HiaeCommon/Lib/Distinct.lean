/-
Families of lists whose entries all differ, within a list and across the
lists: they stay so when entries go, and exactly when they do not come twice.
-/
import Mathlib.Data.List.Nodup
import Mathlib.Logic.Function.Basic

namespace HiaeCommon.Lib

variable {ι α β : Type*} {l l' : ι → List α}

/-- No entry stands twice in the family. -/
structure AllDistinct (l : ι → List α) : Prop where
  nodup : ∀ i, (l i).Nodup
  disjoint : ∀ i j, i ≠ j → (l i).Disjoint (l j)

theorem AllDistinct.sublist (h : AllDistinct l) (hsub : ∀ i, (l' i).Sublist (l i)) : AllDistinct l' where
  nodup i := (h.nodup i).sublist (hsub i)
  disjoint i j hij _ hi hj := h.disjoint i j hij ((hsub i).subset hi) ((hsub j).subset hj)

/-- Entries added to a list stand in the family once exactly when they differ from each other and from all that is there. -/
theorem AllDistinct.update_append_iff [DecidableEq ι] (h : AllDistinct l) {i : ι} {new : List α} :
    AllDistinct (Function.update l i (l i ++ new)) ↔ new.Nodup ∧ ∀ j, new.Disjoint (l j) := by
  constructor
  · intro h'
    have hself : (l i ++ new).Nodup := by simpa using h'.nodup i
    refine ⟨hself.of_append_right, fun j a hnew hj => ?_⟩
    by_cases hji : j = i
    · subst hji
      exact (List.nodup_append.1 hself).2.2 a hj a hnew rfl
    · have hdis := h'.disjoint i j (Ne.symm hji)
      rw [Function.update_self, Function.update_of_ne hji] at hdis
      exact hdis (List.mem_append_right _ hnew) hj
  · rintro ⟨hnd, hdis⟩
    have hadd : ∀ j, j ≠ i → (l i ++ new).Disjoint (l j) := fun j hji =>
      List.disjoint_append_left.2 ⟨h.disjoint i j (Ne.symm hji), hdis j⟩
    refine ⟨fun j => ?_, fun j k hjk => ?_⟩
    · by_cases hji : j = i
      · subst hji
        rw [Function.update_self]
        exact (h.nodup j).append hnd (List.disjoint_symm (hdis j))
      · rw [Function.update_of_ne hji]
        exact h.nodup j
    · by_cases hji : j = i
      · subst hji
        rw [Function.update_self, Function.update_of_ne (Ne.symm hjk)]
        exact hadd k (Ne.symm hjk)
      by_cases hki : k = i
      · subst hki
        rw [Function.update_self, Function.update_of_ne hji]
        exact List.disjoint_symm (hadd j hji)
      · rw [Function.update_of_ne hji, Function.update_of_ne hki]
        exact h.disjoint j k hjk

/-- Where one item of a list gives less, the list does. -/
theorem flatMap_set_sublist {f : β → List α} {b b' : β} (hb : (f b').Sublist (f b)) {bs : List β} {k : Nat} (hk : bs[k]? = some b) :
    ((bs.set k b').flatMap f).Sublist (bs.flatMap f) := by
  induction bs generalizing k with
  | nil => cases hk
  | cons x bs ih =>
    cases k with
    | zero =>
      cases hk
      exact hb.append (List.Sublist.refl _)
    | succ k => exact (List.Sublist.refl _).append (ih hk)

end HiaeCommon.Lib
