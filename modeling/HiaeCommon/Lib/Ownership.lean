/-
Ownership of keyed resources, over any owners and any keys: `own i` is the
resource owner `i` holds, `live` the resources that exist. `Exact` says the two
agree: what is owned exists, nothing has two owners, nothing is without one.
-/
import Mathlib.Logic.Function.Basic
import Mathlib.Tactic.TypeStar

namespace HiaeCommon.Lib

open Function (update)

variable {ι κ β : Type*}

structure Exact (own : ι → Option (κ × β)) (live : κ → Option β) : Prop where
  live_of_own : ∀ i k b, own i = some (k, b) → live k = some b
  inj : ∀ i j k b c, own i = some (k, b) → own j = some (k, c) → i = j
  own_of_live : ∀ k b, live k = some b → ∃ i, own i = some (k, b)

namespace Exact

variable {own : ι → Option (κ × β)} {live : κ → Option β}

theorem empty : Exact (fun _ : ι => none) (fun _ : κ => (none : Option β)) :=
  ⟨fun _ _ _ h => (nomatch h), fun _ _ _ _ _ h => (nomatch h), fun _ _ h => (nomatch h)⟩

variable [DecidableEq ι] [DecidableEq κ]

/-- A new resource, handed to an owner of none. -/
theorem alloc (h : Exact own live) {i : ι} {k : κ} (b : β) (hi : own i = none) (hk : live k = none) :
    Exact (update own i (some (k, b))) (update live k (some b)) := by
  -- nobody held `k` before
  have fresh : ∀ j c, own j ≠ some (k, c) := fun j c hj => by
    have := h.live_of_own j k c hj
    simp [hk] at this
  constructor
  · intro j k' b' hj
    by_cases hji : j = i
    · subst hji
      simp only [Function.update_self, Option.some.injEq, Prod.mk.injEq] at hj
      obtain ⟨rfl, rfl⟩ := hj
      exact Function.update_self ..
    · rw [Function.update_of_ne hji] at hj
      have hkk : k' ≠ k := fun heq => fresh j b' (heq ▸ hj)
      rw [Function.update_of_ne hkk]
      exact h.live_of_own j k' b' hj
  · intro j j' k' b' c' hj hj'
    by_cases hji : j = i <;> by_cases hji' : j' = i
    · rw [hji, hji']
    · subst hji
      simp only [Function.update_self, Option.some.injEq, Prod.mk.injEq] at hj
      rw [Function.update_of_ne hji', ← hj.1] at hj'
      exact absurd hj' (fresh j' c')
    · subst hji'
      simp only [Function.update_self, Option.some.injEq, Prod.mk.injEq] at hj'
      rw [Function.update_of_ne hji, ← hj'.1] at hj
      exact absurd hj (fresh j b')
    · rw [Function.update_of_ne hji] at hj
      rw [Function.update_of_ne hji'] at hj'
      exact h.inj j j' k' b' c' hj hj'
  · intro k' b' hk'
    by_cases hkk : k' = k
    · subst hkk
      rw [Function.update_self, Option.some.injEq] at hk'
      exact ⟨i, by rw [Function.update_self, hk']⟩
    · rw [Function.update_of_ne hkk] at hk'
      obtain ⟨j, hj⟩ := h.own_of_live k' b' hk'
      have hji : j ≠ i := fun heq => by simp [heq, hi] at hj
      exact ⟨j, by rw [Function.update_of_ne hji]; exact hj⟩

/-- An owner gives its resource up, and the resource goes. -/
theorem free (h : Exact own live) {i : ι} {k : κ} {b : β} (hi : own i = some (k, b)) :
    Exact (update own i none) (update live k none) := by
  have mine : ∀ j c, j ≠ i → own j ≠ some (k, c) := fun j c hji hj => hji (h.inj j i k c b hj hi)
  constructor
  · intro j k' b' hj
    by_cases hji : j = i
    · subst hji
      simp at hj
    · rw [Function.update_of_ne hji] at hj
      have hkk : k' ≠ k := fun heq => mine j b' hji (heq ▸ hj)
      rw [Function.update_of_ne hkk]
      exact h.live_of_own j k' b' hj
  · intro j j' k' b' c' hj hj'
    by_cases hji : j = i
    · subst hji
      simp at hj
    by_cases hji' : j' = i
    · subst hji'
      simp at hj'
    rw [Function.update_of_ne hji] at hj
    rw [Function.update_of_ne hji'] at hj'
    exact h.inj j j' k' b' c' hj hj'
  · intro k' b' hk'
    by_cases hkk : k' = k
    · subst hkk
      simp at hk'
    · rw [Function.update_of_ne hkk] at hk'
      obtain ⟨j, hj⟩ := h.own_of_live k' b' hk'
      have hji : j ≠ i := fun heq => by
        rw [heq, hi, Option.some.injEq, Prod.mk.injEq] at hj
        exact hkk hj.1.symm
      exact ⟨j, by rw [Function.update_of_ne hji]; exact hj⟩

end Exact
end HiaeCommon.Lib
