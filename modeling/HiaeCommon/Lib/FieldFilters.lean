/-
Filters on records: a predicate for each field. And folds, seen through one
part of what they build.
-/
import Mathlib.Data.List.Basic
import Mathlib.Logic.Function.Basic

namespace HiaeCommon.Lib

section Fields

variable {ι : Type} [DecidableEq ι] {α : ι → Type} {A B : (i : ι) → α i → Prop}

/-- Where every field of the one filter lets something pass, two filters pass the same records
exactly when they do so field by field. -/
theorem fieldFilters_iff (hB : ∀ i, ∃ x, B i x) :
    (∀ r : (i : ι) → α i, (∀ i, A i (r i)) ↔ ∀ i, B i (r i)) ↔ ∀ i x, A i x ↔ B i x := by
  constructor
  · intro h i x
    choose w hw using hB
    have hAw : ∀ j, A j (w j) := (h w).2 hw
    have hswap : ∀ {C : (i : ι) → α i → Prop}, (∀ j, C j (w j)) → ((∀ j, C j (Function.update w i x j)) ↔ C i x) := by
      intro C hC
      constructor
      · intro hall
        simpa using hall i
      · intro hx j
        by_cases hj : j = i
        · subst hj
          simpa using hx
        · simpa [Function.update_of_ne hj] using hC j
    rw [← hswap hAw, ← hswap hw]
    exact h _
  · intro h r
    exact forall_congr' fun i => h i (r i)

end Fields

section Parts

variable {σ τ κ : Type}

/-- A part of a fold is a fold over the elements that matter to it. -/
theorem foldl_part {step : σ → κ → σ} {part : σ → τ} {stepPart : τ → κ → τ} {matters : κ → Bool}
    (hstep : ∀ s k, stepPart (part s) k = part (step s k)) (hid : ∀ t k, matters k = false → stepPart t k = t)
    (l : List κ) (s : σ) : part (l.foldl step s) = (l.filter matters).foldl stepPart (part s) := by
  rw [← List.foldl_hom part hstep, List.foldl_filter]
  congr 1
  funext t k
  cases hk : matters k with
  | true => rfl
  | false => exact hid t k hk

/-- Two things in some order. -/
theorem perm_pair_iff {a b : κ} {l : List κ} : l.Perm [a, b] ↔ l = [a, b] ∨ l = [b, a] := by
  constructor
  · intro h
    match l, h.length_eq with
    | [x, y], _ =>
      have hx : x ∈ [a, b] := h.subset (by simp)
      rcases List.mem_pair.1 hx with rfl | rfl
      · have := List.perm_singleton.1 ((List.perm_cons x).1 h)
        exact .inl (by rw [this])
      · have := List.perm_singleton.1 ((List.perm_cons x).1 (h.trans (List.Perm.swap x a [])))
        exact .inr (by rw [this])
  · rintro (rfl | rfl)
    · exact .refl _
    · exact .swap _ _ _

end Parts

end HiaeCommon.Lib
