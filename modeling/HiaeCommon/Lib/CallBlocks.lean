/-
Calls that may go wrong, made by events: each event makes a block of calls, and
which one depends on the events before it. The rules are those of triples:
what holds between the blocks is kept by each of them, and what holds on the
way holds along the whole run.
-/
import Mathlib.Tactic.TypeStar

namespace HiaeCommon.Lib

variable {σ κ φ ε α : Type*} {exec : σ → κ → Except φ σ} {C : σ → κ → Prop} {P : σ → Prop}

/-- The calls go right, and every state on the way has `P`. -/
def Along (exec : σ → κ → Except φ σ) (P : σ → Prop) : σ → List κ → Prop
  | s, [] => P s
  | s, c :: cs => P s ∧ ∃ t, exec s c = .ok t ∧ Along exec P t cs

/-- Each call finds the state as `C` asks. -/
def Meets (exec : σ → κ → Except φ σ) (C : σ → κ → Prop) : σ → List κ → Prop
  | _, [] => True
  | s, c :: cs => C s c ∧ ∀ t, exec s c = .ok t → Meets exec C t cs

/-- The calls end in a state. -/
def Reaches (exec : σ → κ → Except φ σ) : σ → List κ → σ → Prop
  | s, [], t => s = t
  | s, c :: cs, t => ∃ u, exec s c = .ok u ∧ Reaches exec u cs t

/-- The calls of events. What an event makes of `a` is what the next one finds. -/
def callsOf (calls : α → ε → List κ) (next : α → ε → α) : α → List ε → List κ
  | _, [] => []
  | a, e :: es => calls a e ++ callsOf calls next (next a e) es

theorem Along.append {s : σ} {l₁ l₂ : List κ} (h₁ : Along exec P s l₁) (h₂ : ∀ t, Reaches exec s l₁ t → Along exec P t l₂) :
    Along exec P s (l₁ ++ l₂) := by
  induction l₁ generalizing s with
  | nil => exact h₂ s rfl
  | cons c l₁ ih =>
    obtain ⟨hP, t, ht, h⟩ := h₁
    exact ⟨hP, t, ht, ih h fun u hu => h₂ u ⟨t, ht, hu⟩⟩

theorem Along.head {s : σ} {cs : List κ} (h : Along exec P s cs) : P s := by
  cases cs with
  | nil => exact h
  | cons c cs => exact h.1

theorem Along.last {s : σ} {cs : List κ} (h : Along exec P s cs) : ∃ t, cs.foldlM exec s = .ok t ∧ P t := by
  induction cs generalizing s with
  | nil => exact ⟨s, rfl, h⟩
  | cons c cs ih =>
    obtain ⟨-, t, ht, h⟩ := h
    obtain ⟨u, hu, hP⟩ := ih h
    exact ⟨u, by rw [List.foldlM_cons, ht]; exact hu, hP⟩

theorem Along.of_append {s : σ} {l₁ l₂ : List κ} (h : Along exec P s (l₁ ++ l₂)) :
    Along exec P s l₁ ∧ ∀ t, Reaches exec s l₁ t → Along exec P t l₂ := by
  induction l₁ generalizing s with
  | nil => exact ⟨h.head, fun t ht => ht ▸ h⟩
  | cons c l₁ ih =>
    obtain ⟨hs, t, ht, h⟩ := h
    refine ⟨⟨hs, t, ht, (ih h).1⟩, ?_⟩
    rintro u ⟨t', ht', hu⟩
    rw [ht, Except.ok.injEq] at ht'
    subst ht'
    exact (ih h).2 u hu

theorem Meets.append {s : σ} {l₁ l₂ : List κ} (h₁ : Meets exec C s l₁) (h₂ : ∀ t, Reaches exec s l₁ t → Meets exec C t l₂) :
    Meets exec C s (l₁ ++ l₂) := by
  induction l₁ generalizing s with
  | nil => exact h₂ s rfl
  | cons c l₁ ih => exact ⟨h₁.1, fun t ht => ih (h₁.2 t ht) fun u hu => h₂ u ⟨t, ht, hu⟩⟩

theorem Meets.of_append {s : σ} {l₁ l₂ : List κ} (h : Meets exec C s (l₁ ++ l₂)) :
    Meets exec C s l₁ ∧ ∀ t, Reaches exec s l₁ t → Meets exec C t l₂ := by
  induction l₁ generalizing s with
  | nil => exact ⟨trivial, fun t ht => ht ▸ h⟩
  | cons c l₁ ih =>
    refine ⟨⟨h.1, fun t ht => (ih (h.2 t ht)).1⟩, ?_⟩
    rintro u ⟨t, ht, hu⟩
    exact (ih (h.2 t ht)).2 u hu

theorem Reaches.of_append {s u : σ} {l₁ l₂ : List κ} (h : Reaches exec s (l₁ ++ l₂) u) :
    ∃ t, Reaches exec s l₁ t ∧ Reaches exec t l₂ u := by
  induction l₁ generalizing s with
  | nil => exact ⟨s, rfl, h⟩
  | cons c l₁ ih =>
    obtain ⟨t, ht, h⟩ := h
    obtain ⟨v, hv, hu⟩ := ih h
    exact ⟨v, ⟨t, ht, hv⟩, hu⟩

/-- A triple: from `A` the calls lead to `B` if each finds the state as `C` asks, and the states on the way have `P`. -/
def Block (exec : σ → κ → Except φ σ) (C : σ → κ → Prop) (P A : σ → Prop) (cs : List κ) (B : σ → Prop) : Prop :=
  ∀ s, A s → Meets exec C s cs → Along exec P s cs ∧ ∀ t, Reaches exec s cs t → B t

namespace Block

variable {A B M : σ → Prop} {c : κ} {cs l₁ l₂ : List κ}

theorem nil (hP : ∀ s, A s → P s) : Block exec C P A [] A := fun s hs _ => ⟨hP s hs, fun _ ht => ht ▸ hs⟩

theorem append (h₁ : Block exec C P A l₁ M) (h₂ : Block exec C P M l₂ B) : Block exec C P A (l₁ ++ l₂) B := by
  intro s hs hC
  obtain ⟨hC₁, hC₂⟩ := hC.of_append
  obtain ⟨hal, hM⟩ := h₁ s hs hC₁
  refine ⟨hal.append fun t ht => (h₂ t (hM t ht) (hC₂ t ht)).1, fun u hu => ?_⟩
  obtain ⟨t, ht, hu⟩ := hu.of_append
  exact (h₂ t (hM t ht) (hC₂ t ht)).2 u hu

/-- One call, and then the others. -/
theorem cons (hP : ∀ s, A s → P s) (hc : ∀ s, A s → C s c → ∃ t, exec s c = .ok t ∧ M t) (h : Block exec C P M cs B) :
    Block exec C P A (c :: cs) B := by
  intro s hs hC
  obtain ⟨t, ht, hM⟩ := hc s hs hC.1
  obtain ⟨hal, hB⟩ := h t hM (hC.2 t ht)
  refine ⟨⟨hP s hs, t, ht, hal⟩, ?_⟩
  rintro u ⟨t', ht', hu⟩
  rw [ht, Except.ok.injEq] at ht'
  subst ht'
  exact hB u hu

/-- What every call keeps. -/
theorem of_inv (hP : ∀ s, A s → P s) (hc : ∀ s c, A s → C s c → ∃ t, exec s c = .ok t ∧ A t) (cs : List κ) :
    Block exec C P A cs A := by
  induction cs with
  | nil => exact nil hP
  | cons c cs ih => exact cons hP (fun s hs => hc s c hs) ih

end Block

/-- From `A` the calls have `P` on the way only if each finds the state as `C` asks. -/
def Needs (exec : σ → κ → Except φ σ) (C : σ → κ → Prop) (P A : σ → Prop) (cs : List κ) : Prop :=
  ∀ s, A s → Along exec P s cs → Meets exec C s cs

namespace Needs

variable {A M : σ → Prop} {c : κ} {cs l₁ l₂ : List κ}

theorem nil : Needs exec C P A [] := fun _ _ _ => trivial

theorem append (h₁ : Needs exec C P A l₁) (hb : Block exec C P A l₁ M) (h₂ : Needs exec C P M l₂) :
    Needs exec C P A (l₁ ++ l₂) := by
  intro s hs hal
  obtain ⟨hal₁, hal₂⟩ := hal.of_append
  have hC := h₁ s hs hal₁
  exact hC.append fun t ht => h₂ t ((hb s hs hC).2 t ht) (hal₂ t ht)

/-- A call that needs it, and then the others. -/
theorem cons (hneed : ∀ s, A s → Along exec P s (c :: cs) → C s c)
    (hc : ∀ s, A s → C s c → ∃ t, exec s c = .ok t ∧ M t) (h : Needs exec C P M cs) : Needs exec C P A (c :: cs) := by
  intro s hs hal
  have hC := hneed s hs hal
  refine ⟨hC, fun t ht => ?_⟩
  obtain ⟨u, hu, hM⟩ := hc s hs hC
  obtain ⟨-, v, hv, hal⟩ := hal
  rw [ht, Except.ok.injEq] at hu hv
  subst hu hv
  exact h _ hM hal

end Needs

/-- **The rule for runs of events**: what the block of every event keeps is there all along. -/
theorem along_of_blocks {calls : α → ε → List κ} {next : α → ε → α} {I : α → σ → Prop} (hP : ∀ a s, I a s → P s)
    (hblock : ∀ a e, Block exec C P (I a) (calls a e) (I (next a e))) {a : α} {s : σ} (hs : I a s) {es : List ε}
    (hC : Meets exec C s (callsOf calls next a es)) : Along exec P s (callsOf calls next a es) := by
  induction es generalizing a s with
  | nil => exact hP a s hs
  | cons e es ih =>
    obtain ⟨hC₁, hC₂⟩ := hC.of_append
    obtain ⟨hal, hB⟩ := hblock a e s hs hC₁
    exact hal.append fun t ht => ih (hB t ht) (hC₂ t ht)

/-- **The rule for an exact condition** of the calls of events. -/
theorem along_iff_of_blocks {calls : α → ε → List κ} {next : α → ε → α} {I : α → σ → Prop} (hP : ∀ a s, I a s → P s)
    (hblock : ∀ a e, Block exec C P (I a) (calls a e) (I (next a e))) (hneed : ∀ a e, Needs exec C P (I a) (calls a e))
    {a : α} {s : σ} (hs : I a s) (es : List ε) :
    Along exec P s (callsOf calls next a es) ↔ Meets exec C s (callsOf calls next a es) := by
  refine ⟨fun hal => ?_, along_of_blocks hP hblock hs⟩
  induction es generalizing a s with
  | nil => trivial
  | cons e es ih =>
    obtain ⟨hal₁, hal₂⟩ := hal.of_append
    have hC := hneed a e s hs hal₁
    exact hC.append fun t ht => ih ((hblock a e s hs hC).2 t ht) (hal₂ t ht)

end HiaeCommon.Lib
