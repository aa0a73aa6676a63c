/-
Loops and runs, over any state and any event type: a C `for` loop as a fold
over its counter with the rule for its invariant, the runs of a labelled
transition system with the rules for an invariant of every state they reach,
and what the latest event about a fact says of it.
-/
import Mathlib.Tactic.TypeStar

namespace HiaeCommon.Lib

variable {σ ε : Type*}

/-- **The loop rule.** `I i` holds when the body is entered with counter `i`:
`I 0` at the start, each body takes `I i` to `I (i + 1)`, so `I n` at the end. -/
theorem forRange_inv {body : σ → Nat → σ} (I : Nat → σ → Prop) {n : Nat} {s : σ} (h0 : I 0 s)
    (hbody : ∀ i t, i < n → I i t → I (i + 1) (body t i)) : I n ((List.range n).foldl body s) := by
  induction n with
  | zero => exact h0
  | succ n ih =>
    rw [List.range_succ, List.foldl_append]
    exact hbody n _ (Nat.lt_succ_self n) (ih fun i t hi => hbody i t (Nat.lt_succ_of_lt hi))

/-- The loop rule for an invariant that does not mention the counter. -/
theorem forRange_inv' {body : σ → Nat → σ} (I : σ → Prop) {n : Nat} {s : σ} (h0 : I s)
    (hbody : ∀ i t, i < n → I t → I (body t i)) : I ((List.range n).foldl body s) :=
  forRange_inv (fun _ => I) h0 hbody

/-- A run of `R`: the events taken, in order, and the state they end in. -/
inductive Run (R : σ → ε → σ → Prop) : σ → List ε → σ → Prop
  | nil (s) : Run R s [] s
  | cons {s e t es u} : R s e t → Run R t es u → Run R s (e :: es) u

/-- **The run rule.** What every step keeps holds at the end of every run. -/
theorem Run.invariant {R : σ → ε → σ → Prop} (I : σ → Prop) (hstep : ∀ s e t, R s e t → I s → I t)
    {s es t} (h : Run R s es t) (hs : I s) : I t := by
  induction h with
  | nil => exact hs
  | cons hr _ ih => exact ih (hstep _ _ _ hr hs)

/-- The run rule for an invariant of the events so far and the state they end in. -/
theorem Run.history {R : σ → ε → σ → Prop} (J : List ε → σ → Prop) (hstep : ∀ es s e t, R s e t → J es s → J (es ++ [e]) t)
    {s es t} (h : Run R s es t) (hs : J [] s) : J es t := by
  suffices hpre : ∀ pre, J pre s → J (pre ++ es) t from hpre [] hs
  clear hs
  induction h with
  | nil => exact fun pre hs => by rwa [List.append_nil]
  | cons hr _ ih => exact fun pre hs => by simpa using ih _ (hstep pre _ _ _ hr hs)

/-- Each event finds the state as `C` asks. -/
def EachStep (step : σ → ε → σ) (C : σ → ε → Prop) : σ → List ε → Prop
  | _, [] => True
  | s, e :: es => C s e ∧ EachStep step C (step s e) es

/-- What a step keeps where it meets the condition holds all along a run of such steps. -/
theorem EachStep.history {step : σ → ε → σ} {C : σ → ε → Prop} {I : List ε → σ → Prop}
    (hkeep : ∀ es s e, I es s → C s e → I (es ++ [e]) (step s e)) {s : σ} {es : List ε} (h : EachStep step C s es) (hs : I [] s)
    {pre : List ε} (hpre : pre <+: es) : I pre (pre.foldl step s) := by
  suffices hpast : ∀ past s, EachStep step C s es → I past s → I (past ++ pre) (pre.foldl step s) from hpast [] s h hs
  clear h hs
  induction es generalizing pre with
  | nil =>
    intro past s _ hs
    rwa [List.prefix_nil.1 hpre, List.append_nil]
  | cons e es ih =>
    rintro past s ⟨hC, hrest⟩ hs
    cases pre with
    | nil => rwa [List.append_nil]
    | cons e' pre =>
      obtain ⟨rfl, hpre'⟩ := List.cons_prefix_cons.1 hpre
      have hend := ih hpre' (past ++ [e']) (step s e') hrest (hkeep past s e' hs hC)
      rwa [List.append_assoc] at hend

theorem EachStep.and {step : σ → ε → σ} {C D : σ → ε → Prop} {s : σ} {es : List ε} (hC : EachStep step C s es)
    (hD : EachStep step D s es) : EachStep step (fun s e => C s e ∧ D s e) s es := by
  induction es generalizing s with
  | nil => trivial
  | cons e es ih => exact ⟨⟨hC.1, hD.1⟩, ih hC.2 hD.2⟩

/-- **The rule for an exact condition** of runs whose steps meet a premise: where a step keeps the invariant if it meets
the condition, and breaks the property if it does not, the property holds all along a run exactly when each step meets
the condition. -/
theorem eachStep_iff_of {step : σ → ε → σ} {P C : σ → ε → Prop} {I J : List ε → σ → Prop} (hI : ∀ es s, I es s → J es s)
    (hkeep : ∀ es s e, I es s → P s e → C s e → I (es ++ [e]) (step s e))
    (hneed : ∀ es s e, I es s → P s e → J (es ++ [e]) (step s e) → C s e) {s : σ} (hs : I [] s) {es : List ε}
    (hP : EachStep step P s es) : (∀ pre, pre <+: es → J pre (pre.foldl step s)) ↔ EachStep step C s es := by
  refine ⟨fun hall => ?_, fun h pre hpre => hI _ _ ((hP.and h).history (fun es s e hi hc => hkeep es s e hi hc.1 hc.2) hs hpre)⟩
  suffices hpast : ∀ past s, I past s → EachStep step P s es → (∀ pre, pre <+: es → J (past ++ pre) (pre.foldl step s)) →
    EachStep step C s es from hpast [] s hs hP hall
  clear hs hall hP
  induction es with
  | nil => exact fun _ _ _ _ _ => trivial
  | cons e es ih =>
    rintro past s h ⟨hPs, hPrest⟩ hall
    have hC : C s e := hneed past s e h hPs (hall [e] (List.prefix_append [e] es))
    refine ⟨hC, ih (past ++ [e]) (step s e) (hkeep past s e h hPs hC) hPrest fun pre hp => ?_⟩
    rw [List.append_assoc]
    exact hall (e :: pre) (List.prefix_cons_inj e |>.2 hp)

theorem eachStep_always (step : σ → ε → σ) (s : σ) (es : List ε) : EachStep step (fun _ _ => True) s es := by
  induction es generalizing s with
  | nil => trivial
  | cons e es ih => exact ⟨trivial, ih _⟩

/-- The rule for runs of any steps. -/
theorem eachStep_iff {step : σ → ε → σ} {C : σ → ε → Prop} {I J : List ε → σ → Prop} (hI : ∀ es s, I es s → J es s)
    (hkeep : ∀ es s e, I es s → C s e → I (es ++ [e]) (step s e))
    (hneed : ∀ es s e, I es s → J (es ++ [e]) (step s e) → C s e) {s : σ} (hs : I [] s) (es : List ε) :
    (∀ pre, pre <+: es → J pre (pre.foldl step s)) ↔ EachStep step C s es :=
  eachStep_iff_of hI (fun es s e hi _ hc => hkeep es s e hi hc) (fun es s e hi _ hj => hneed es s e hi hj) hs
    (eachStep_always step s es)

/-- What the last event that says anything about a fact says; it does not hold at the start. -/
def latest (tells : ε → Option Bool) (es : List ε) : Bool := es.foldl (fun b e => (tells e).getD b) false

@[simp] theorem latest_nil (tells : ε → Option Bool) : latest tells [] = false := rfl

@[simp] theorem latest_concat (tells : ε → Option Bool) (es : List ε) (e : ε) :
    latest tells (es ++ [e]) = (tells e).getD (latest tells es) := by
  rw [latest, List.foldl_append]
  rfl

end HiaeCommon.Lib
