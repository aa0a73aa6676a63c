/-
Steps that go on, stop early or go wrong, one after the other, and what they
use up. A sequence none of whose steps stops early goes right exactly when what
is in use and what the steps cost together stay within the limit.
-/
import Mathlib.Algebra.Order.BigOperators.Group.List
import Mathlib.Algebra.Order.Monoid.Unbundled.Pow

namespace HiaeCommon.Lib

variable {φ σ κ : Type*}

/-- What a step makes of a state: it goes wrong, or says whether to go on. -/
abbrev Step (φ σ : Type*) := σ → Except φ (Bool × σ)

namespace Step

/-- `g` after `f`, if `f` goes on. -/
def andThen (f g : Step φ σ) : Step φ σ := fun s =>
  match f s with
  | .error e => .error e
  | .ok (false, s) => .ok (false, s)
  | .ok (true, s) => g s

def all : List (Step φ σ) → Step φ σ
  | [] => fun s => .ok (true, s)
  | f :: fs => f.andThen (all fs)

theorem andThen_ok {f : Step φ σ} {s s' : σ} (h : f s = .ok (true, s')) (g : Step φ σ) : f.andThen g s = g s' := by
  rw [andThen, h]

theorem ok_of_andThen {f g : Step φ σ} {s : σ} {r : Bool × σ} (h : f.andThen g s = .ok r) :
    (∃ s', f s = .ok (false, s') ∧ r = (false, s')) ∨ ∃ s', f s = .ok (true, s') ∧ g s' = .ok r := by
  rw [andThen] at h
  split at h
  · cases h
  · next s' hs' =>
    cases h
    exact .inl ⟨s', hs', rfl⟩
  · next s' hs' => exact .inr ⟨s', hs', h⟩

theorem andThen_assoc (f g h : Step φ σ) : (f.andThen g).andThen h = f.andThen (g.andThen h) := by
  funext s
  simp only [andThen]
  rcases f s with e | ⟨b, s'⟩
  · rfl
  · cases b <;> rfl

theorem all_append (l₁ l₂ : List (Step φ σ)) : all (l₁ ++ l₂) = (all l₁).andThen (all l₂) := by
  induction l₁ with
  | nil => rfl
  | cons f l₁ ih => rw [List.cons_append, all, all, ih, andThen_assoc]

theorem all_singleton (f : Step φ σ) : all [f] = f := by
  funext s
  simp only [all, andThen]
  rcases f s with e | ⟨b, s'⟩
  · rfl
  · cases b <;> rfl

/-! ## What steps do -/

/-- What the step makes of a state wherever it goes right: it goes on then. -/
def Does (f : Step φ σ) (effect : σ → σ) : Prop := ∀ s r, f s = .ok r → r = (true, effect s)

namespace Does

variable {α : Type*} {f g : Step φ σ} {e₁ e₂ : σ → σ}

theorem andThen (hf : Does f e₁) (hg : Does g e₂) : Does (f.andThen g) (e₂ ∘ e₁) := by
  intro s r h
  rcases ok_of_andThen h with ⟨t, ht, -⟩ | ⟨t, ht, h⟩
  · cases hf _ _ ht
  · cases hf _ _ ht
    exact hg _ _ h

theorem nil : Does (all [] : Step φ σ) id := by
  intro s r h
  cases h
  rfl

theorem singleton (hf : Does f e₁) : Does (all [f]) e₁ := by rwa [all_singleton]

theorem append {l₁ l₂ : List (Step φ σ)} (h₁ : Does (all l₁) e₁) (h₂ : Does (all l₂) e₂) :
    Does (all (l₁ ++ l₂)) (e₂ ∘ e₁) := by
  rw [all_append]
  exact h₁.andThen h₂

theorem map (as : List α) {step : α → Step φ σ} {effect : σ → α → σ} (h : ∀ a, Does (step a) (effect · a)) :
    Does (all (as.map step)) fun s => as.foldl effect s := by
  induction as with
  | nil => exact nil
  | cons a as ih => exact (h a).andThen ih

end Does

/-! ## What steps use up -/

variable {use : σ → κ} {limit c d : κ} {f g : Step φ σ}

/-- The step goes on if it does not go wrong, and has cost that much then. -/
def Pays [Add κ] (use : σ → κ) (c : κ) (f : Step φ σ) : Prop :=
  ∀ s b s', f s = .ok (b, s') → b = true ∧ use s' = use s + c

/-- The step goes wrong where it would leave the limit. -/
def Keeps [LE κ] (use : σ → κ) (limit : κ) (f : Step φ σ) : Prop :=
  ∀ s b s', use s ≤ limit → f s = .ok (b, s') → use s' ≤ limit

/-- Where the cost is within the limit the step does not go wrong, and has cost that much if it goes on. -/
def Costs [Add κ] [LE κ] (use : σ → κ) (limit c : κ) (f : Step φ σ) : Prop :=
  ∀ s, use s + c ≤ limit → ∃ b s', f s = .ok (b, s') ∧ (b = true → use s' = use s + c)

/-- Where a step that pays comes first, what holds after the second one holds. -/
theorem Pays.ends [Add κ] {P : σ → Prop} (hf : Pays use c f) (hg : ∀ s b s', g s = .ok (b, s') → P s') {s : σ} {b : Bool}
    {s' : σ} (h : f.andThen g s = .ok (b, s')) : P s' := by
  rcases ok_of_andThen h with ⟨t, ht, -⟩ | ⟨t, -, h⟩
  · cases (hf _ _ _ ht).1
  · exact hg _ _ _ h

theorem Pays.andThen [AddSemigroup κ] (hf : Pays use c f) (hg : Pays use d g) : Pays use (c + d) (f.andThen g) := by
  intro s b s' h
  rcases ok_of_andThen h with ⟨t, ht, -⟩ | ⟨t, ht, h⟩
  · cases (hf _ _ _ ht).1
  · obtain ⟨hb, huse⟩ := hg _ _ _ h
    exact ⟨hb, by rw [huse, (hf _ _ _ ht).2, add_assoc]⟩

theorem Keeps.andThen [LE κ] (hf : Keeps use limit f) (hg : Keeps use limit g) : Keeps use limit (f.andThen g) := by
  intro s b s' hs h
  rcases ok_of_andThen h with ⟨t, ht, hr⟩ | ⟨t, ht, h⟩
  · cases hr
    exact hf _ _ _ hs ht
  · exact hg _ _ _ (hf _ _ _ hs ht) h

theorem Costs.andThen [AddCommMonoid κ] [PartialOrder κ] [IsOrderedAddMonoid κ] (hf : Costs use limit c f)
    (hg : Costs use limit d g) (hd : 0 ≤ d) : Costs use limit (c + d) (f.andThen g) := by
  intro s hs
  rw [← add_assoc] at hs
  obtain ⟨b, t, ht, huse⟩ := hf s (le_trans (le_add_of_nonneg_right hd) hs)
  cases b with
  | false => exact ⟨false, t, by rw [Step.andThen, ht], by simp⟩
  | true =>
    rw [andThen_ok ht, ← add_assoc, ← huse rfl]
    rw [← huse rfl] at hs
    exact hg t hs

/-! ## Steps under choices -/

section Budgeted

variable {δ α : Type*} [AddCommMonoid κ] [PartialOrder κ]
variable {good : δ} {f g : δ → Step φ σ}

/-- Under every choice the step costs `c`, and under the good one it does not stop. -/
structure Budgeted (use : σ → κ) (limit : κ) (good : δ) (c : κ) (f : δ → Step φ σ) : Prop where
  nonneg : 0 ≤ c
  costs : ∀ D, Costs use limit c (f D)
  pays : Pays use c (f good)
  keeps : Keeps use limit (f good)

namespace Budgeted

/-- **The rule for an exact condition**: the step goes right under every choice exactly when its cost is within the
limit. -/
theorem ok_iff_of_ends (h : Budgeted use limit good c f) {s : σ}
    (hends : ∀ b s', f good s = .ok (b, s') → use s' ≤ limit) : (∀ D, ∃ r, f D s = .ok r) ↔ use s + c ≤ limit := by
  constructor
  · intro hok
    obtain ⟨⟨b, s'⟩, hr⟩ := hok good
    rw [← (h.pays s b s' hr).2]
    exact hends b s' hr
  · intro hle D
    obtain ⟨b, s', hr, -⟩ := h.costs D s hle
    exact ⟨_, hr⟩

/-- Within the limit a step that goes right ends there. -/
theorem ok_iff (h : Budgeted use limit good c f) {s : σ} (hs : use s ≤ limit) :
    (∀ D, ∃ r, f D s = .ok r) ↔ use s + c ≤ limit :=
  h.ok_iff_of_ends fun b s' => h.keeps s b s' hs

/-- The good choice needs the room. -/
theorem le_of_ok (h : Budgeted use limit good c f) {s s' : σ} {b : Bool} (hs : use s ≤ limit) (hok : f good s = .ok (b, s')) :
    use s + c ≤ limit := by
  rw [← (h.pays s b s' hok).2]
  exact h.keeps s b s' hs hok

theorem of_eq (h : Budgeted use limit good c f) (hc : c = d) : Budgeted use limit good d f := hc ▸ h

/-- A step that stops under some choices, and otherwise goes on within the limit or goes wrong beyond it. -/
theorem of_cases (stops : δ → Prop) (hgood : ¬stops good) (hc : 0 ≤ c)
    (h : ∀ D s, (stops D ∧ ∃ s', f D s = .ok (false, s')) ∨
      (∃ s', f D s = .ok (true, s') ∧ use s' = use s + c ∧ (use s ≤ limit → use s' ≤ limit)) ∨
      (∃ e, f D s = .error e) ∧ ¬use s + c ≤ limit) : Budgeted use limit good c f where
  nonneg := hc
  costs D s hle := by
    rcases h D s with ⟨-, s', hs'⟩ | ⟨s', hs', huse, -⟩ | ⟨-, hno⟩
    · exact ⟨false, s', hs', by simp⟩
    · exact ⟨true, s', hs', fun _ => huse⟩
    · exact absurd hle hno
  pays s b s' hs' := by
    rcases h good s with ⟨hstop, -⟩ | ⟨t, ht, huse, -⟩ | ⟨⟨e, he⟩, -⟩
    · exact absurd hstop hgood
    · rw [ht] at hs'
      cases hs'
      exact ⟨rfl, huse⟩
    · rw [he] at hs'
      cases hs'
  keeps s b s' hle hs' := by
    rcases h good s with ⟨hstop, -⟩ | ⟨t, ht, -, hkeep⟩ | ⟨⟨e, he⟩, -⟩
    · exact absurd hstop hgood
    · rw [ht] at hs'
      cases hs'
      exact hkeep hle
    · rw [he] at hs'
      cases hs'

theorem nil : Budgeted use limit good 0 fun _ : δ => (all [] : Step φ σ) where
  nonneg := le_refl 0
  costs _ s _ := ⟨true, s, rfl, fun _ => (add_zero _).symm⟩
  pays s b s' h := by
    cases h
    exact ⟨rfl, (add_zero _).symm⟩
  keeps s b s' hs h := by
    cases h
    exact hs

theorem singleton (hf : Budgeted use limit good c f) : Budgeted use limit good c fun D => all [f D] := by
  simpa only [all_singleton] using hf

variable [IsOrderedAddMonoid κ]

theorem andThen (hf : Budgeted use limit good c f) (hg : Budgeted use limit good d g) :
    Budgeted use limit good (c + d) fun D => (f D).andThen (g D) where
  nonneg := add_nonneg hf.nonneg hg.nonneg
  costs D := (hf.costs D).andThen (hg.costs D) hg.nonneg
  pays := hf.pays.andThen hg.pays
  keeps := hf.keeps.andThen hg.keeps

theorem cons {l : δ → List (Step φ σ)} (hf : Budgeted use limit good c f)
    (hl : Budgeted use limit good d fun D => all (l D)) : Budgeted use limit good (c + d) fun D => all (f D :: l D) :=
  hf.andThen hl

theorem append {l₁ l₂ : δ → List (Step φ σ)} (h₁ : Budgeted use limit good c fun D => all (l₁ D))
    (h₂ : Budgeted use limit good d fun D => all (l₂ D)) :
    Budgeted use limit good (c + d) fun D => all (l₁ D ++ l₂ D) := by
  simp only [all_append]
  exact h₁.andThen h₂

/-- Groups of steps, each with its cost. -/
theorem flatMap (as : List α) (steps : α → δ → List (Step φ σ)) (cost : α → κ)
    (h : ∀ a ∈ as, Budgeted use limit good (cost a) fun D => all (steps a D)) :
    Budgeted use limit good (as.map cost).sum fun D => all (as.flatMap fun a => steps a D) := by
  induction as with
  | nil => exact nil
  | cons a as ih =>
    simp only [List.flatMap_cons, List.map_cons, List.sum_cons]
    exact (h a List.mem_cons_self).append (ih fun a ha => h a (List.mem_cons_of_mem _ ha))

/-- Steps of one cost. -/
theorem map (as : List α) (step : α → δ → Step φ σ) (h : ∀ a ∈ as, Budgeted use limit good c (step a)) :
    Budgeted use limit good (as.length • c) fun D => all (as.map fun a => step a D) := by
  have hone := flatMap as (fun a D => [step a D]) (fun _ => c) fun a ha => (h a ha).singleton
  rw [List.map_const', List.sum_replicate] at hone
  simpa only [List.map_eq_flatMap] using hone

end Budgeted

end Budgeted

end Step

end HiaeCommon.Lib
