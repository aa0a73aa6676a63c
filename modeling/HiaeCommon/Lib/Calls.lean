/-
Calls that report success or failure, made one after the other: `untilFailure`
is the loop that leaves at the first failure. A loop over loops of this kind is
one loop over the concatenation.
-/
import Mathlib.Data.List.Basic

namespace HiaeCommon.Lib

variable {α β σ : Type}

/-- The calls of `f` on the elements, up to the first that fails. -/
def untilFailure (f : α → σ → Bool × σ) : List α → σ → Bool × σ
  | [], s => (true, s)
  | a :: l, s => if (f a s).1 then untilFailure f l (f a s).2 else (false, (f a s).2)

theorem untilFailure_cons_ok {f : α → σ → Bool × σ} {a : α} {s s' : σ} (h : f a s = (true, s')) (l : List α) :
    untilFailure f (a :: l) s = untilFailure f l s' := by
  rw [untilFailure, h]
  rfl

theorem untilFailure_cons_fail {f : α → σ → Bool × σ} {a : α} {s s' : σ} (h : f a s = (false, s')) (l : List α) :
    untilFailure f (a :: l) s = (false, s') := by
  rw [untilFailure, h]
  rfl

theorem untilFailure_append (f : α → σ → Bool × σ) (l₁ l₂ : List α) (s : σ) :
    untilFailure f (l₁ ++ l₂) s =
      if (untilFailure f l₁ s).1 then untilFailure f l₂ (untilFailure f l₁ s).2 else (false, (untilFailure f l₁ s).2) := by
  induction l₁ generalizing s with
  | nil => rfl
  | cons a l₁ ih =>
    rw [List.cons_append, untilFailure, untilFailure]
    cases (f a s).1 with
    | true => exact ih _
    | false => rfl

/-- A loop whose body is itself such a loop. -/
theorem untilFailure_flatMap {f : α → σ → Bool × σ} {g : β → σ → Bool × σ} {e : α → List β} {l : List α}
    (h : ∀ a ∈ l, ∀ s, f a s = untilFailure g (e a) s) (s : σ) : untilFailure f l s = untilFailure g (l.flatMap e) s := by
  induction l generalizing s with
  | nil => rfl
  | cons a l ih =>
    rw [List.flatMap_cons, untilFailure_append, untilFailure, h a (by simp)]
    cases (untilFailure g (e a) s).1 with
    | true => exact ih (fun a' ha' => h a' (by simp [ha'])) _
    | false => rfl

/-- The rule of a loop none of whose calls fails. -/
theorem untilFailure_inv {f : α → σ → Bool × σ} {l : List α} (I : σ → Prop)
    (hf : ∀ a ∈ l, ∀ s, I s → (f a s).1 = true ∧ I (f a s).2) {s : σ} (h : I s) :
    (untilFailure f l s).1 = true ∧ I (untilFailure f l s).2 := by
  induction l generalizing s with
  | nil => exact ⟨rfl, h⟩
  | cons a l ih =>
    obtain ⟨h1, h2⟩ := hf a (by simp) s h
    rw [untilFailure, if_pos h1]
    exact ih (fun a' ha' => hf a' (by simp [ha'])) h2

/-- What every call keeps, the loop keeps, however it ends. -/
theorem untilFailure_keeps {f : α → σ → Bool × σ} {l : List α} (I : σ → Prop) (hf : ∀ a ∈ l, ∀ s, I s → I (f a s).2) {s : σ}
    (h : I s) : I (untilFailure f l s).2 := by
  induction l generalizing s with
  | nil => exact h
  | cons a l ih =>
    have h' := hf a (by simp) s h
    rw [untilFailure]
    cases (f a s).1 with
    | true => exact ih (fun a' ha' => hf a' (by simp [ha'])) h'
    | false => exact h'

theorem untilFailure_map (f : β → σ → Bool × σ) (g : α → β) (l : List α) (s : σ) :
    untilFailure (fun a => f (g a)) l s = untilFailure f (l.map g) s := by
  induction l generalizing s with
  | nil => rfl
  | cons a l ih =>
    rw [List.map_cons, untilFailure, untilFailure]
    cases (f (g a) s).1 with
    | true => exact ih _
    | false => rfl

/-- The rule of a loop none of whose calls fails and each of which does something of its own: `R l s t` says what the
things in `l`, one after the other, make of `s`. -/
theorem untilFailure_logs {f : α → σ → Bool × σ} {e : α → List β} {l : List α} (R : List β → σ → σ → Prop) (hnil : ∀ s, R [] s s)
    (happ : ∀ {l₁ l₂ s t u}, R l₁ s t → R l₂ t u → R (l₁ ++ l₂) s u) (hf : ∀ a ∈ l, ∀ s, ∃ t, f a s = (true, t) ∧ R (e a) s t) (s : σ) :
    ∃ t, untilFailure f l s = (true, t) ∧ R (l.flatMap e) s t := by
  induction l generalizing s with
  | nil => exact ⟨s, rfl, hnil s⟩
  | cons a l ih =>
    obtain ⟨t, h1, h2⟩ := hf a (by simp) s
    obtain ⟨u, h3, h4⟩ := ih (fun a' ha' => hf a' (by simp [ha'])) t
    exact ⟨u, (untilFailure_cons_ok h1 l).trans h3, happ h2 h4⟩

/-- The rule of a loop each of whose calls establishes something of its own, and keeps what the others established. -/
theorem untilFailure_each {f : α → σ → Bool × σ} {l : List α} (I : σ → Prop) (Q : α → σ → Prop)
    (hf : ∀ a ∈ l, ∀ s, I s → (f a s).1 = true ∧ I (f a s).2 ∧ Q a (f a s).2 ∧ ∀ b ∈ l, b ≠ a → Q b s → Q b (f a s).2) {s : σ} (h : I s) :
    (untilFailure f l s).1 = true ∧ I (untilFailure f l s).2 ∧ ∀ a ∈ l, Q a (untilFailure f l s).2 := by
  suffices ∀ l' ⊆ l, ∀ s, I s → (untilFailure f l' s).1 = true ∧ I (untilFailure f l' s).2 ∧
      ∀ a ∈ l, a ∈ l' ∨ Q a s → Q a (untilFailure f l' s).2 by
    obtain ⟨h1, h2, h3⟩ := this l (fun _ ha => ha) s h
    exact ⟨h1, h2, fun a ha => h3 a ha (.inl ha)⟩
  intro l' hsub
  induction l' with
  | nil => exact fun s h => ⟨rfl, h, fun a _ hq => hq.resolve_left List.not_mem_nil⟩
  | cons a l' ih =>
    intro s h
    obtain ⟨h1, h2, h3, h4⟩ := hf a (hsub List.mem_cons_self) s h
    obtain ⟨g1, g2, g3⟩ := ih (fun b hb => hsub (List.mem_cons_of_mem _ hb)) _ h2
    rw [untilFailure, if_pos h1]
    refine ⟨g1, g2, fun b hb hq => g3 b hb ?_⟩
    by_cases hba : b = a
    · exact .inr (hba ▸ h3)
    · rcases hq with hq | hq
      · exact .inl (List.mem_of_ne_of_mem hba hq)
      · exact .inr (h4 b hb hba hq)

end HiaeCommon.Lib
