/-
Members that are called in turn on one shared state. At most one of them is to
hold something; a shared flag says whether one does, and the last announcement
names the one that does, or nobody. What a round keeps of this, and when a
round in which one of them takes hold of it does.
-/
import Mathlib.Data.List.Basic
import Mathlib.Tactic.TypeStar

namespace HiaeCommon.Lib

variable {α σ γ : Type*}

/-- Every member is called in turn, and the next finds the shared state as the last has left it. -/
def inTurn (f : α → σ → α × σ) : List α → σ → List α × σ
  | [], s => ([], s)
  | a :: l, s => ((f a s).1 :: (inTurn f l (f a s).2).1, (inTurn f l (f a s).2).2)

/-- What tells who holds it: a member's own mark and its name, the shared flag and the last announcement. -/
structure Announcing (α σ γ : Type*) where
  holds : α → Bool
  name : α → γ
  flag : σ → Bool
  told : σ → Option γ

namespace Announcing

variable (R : Announcing α σ γ)

/-- The name told last is that of the one member that holds it, and the flag is set if there is one. -/
structure Agrees (l : List α) (s : σ) : Prop where
  held : (l.filter R.holds).map R.name = (R.told s).toList
  flag : R.flag s = (R.told s).isSome

/-- A call after which nothing has changed. -/
structure Stays (a : α) (s : σ) (p : α × σ) : Prop where
  holds : R.holds p.1 = R.holds a
  name : R.name p.1 = R.name a
  told : R.told p.2 = R.told s
  flag : R.flag p.2 = R.flag s

/-- A call in which the holder lets go. -/
structure Leaves (a : α) (p : α × σ) : Prop where
  held : R.holds a = true
  holds : R.holds p.1 = false
  told : R.told p.2 = none
  flag : R.flag p.2 = false

/-- A call in which the member takes hold. -/
structure Takes (a : α) (p : α × σ) : Prop where
  holds : R.holds p.1 = true
  name : R.name p.1 = R.name a
  told : R.told p.2 = some (R.name a)
  flag : R.flag p.2 = true

/-- A call after which the member does not hold it. -/
structure Clears (a : α) (s : σ) (p : α × σ) : Prop where
  leaves : R.holds a = true → R.Leaves a p
  stays : R.holds a = false → R.Stays a s p

variable {R} {f : α → σ → α × σ} {l l₁ l₂ : List α} {a : α} {s : σ}

theorem inTurn_append (f : α → σ → α × σ) (l₁ l₂ : List α) (s : σ) : inTurn f (l₁ ++ l₂) s =
    ((inTurn f l₁ s).1 ++ (inTurn f l₂ (inTurn f l₁ s).2).1, (inTurn f l₂ (inTurn f l₁ s).2).2) := by
  induction l₁ generalizing s with
  | nil => rfl
  | cons a l₁ ih =>
    rw [List.cons_append, inTurn, ih]
    rfl

theorem inTurn_map {κ : Type*} (k : α → κ) (hf : ∀ a s, k (f a s).1 = k a) (l : List α) (s : σ) :
    (inTurn f l s).1.map k = l.map k := by
  induction l generalizing s with
  | nil => rfl
  | cons a l ih => rw [inTurn, List.map_cons, List.map_cons, hf, ih]

theorem inTurn_forall {P : α → Prop} (hf : ∀ a ∈ l, ∀ s, P (f a s).1) : ∀ b ∈ (inTurn f l s).1, P b := by
  induction l generalizing s with
  | nil => exact fun b hb => absurd hb List.not_mem_nil
  | cons a l ih =>
    intro b hb
    rcases List.mem_cons.1 hb with rfl | hb
    · exact hf a List.mem_cons_self s
    · exact ih (fun c hc => hf c (List.mem_cons_of_mem _ hc)) b hb

theorem inTurn_rel {Q : σ → σ → Prop} (hrefl : ∀ s, Q s s) (htrans : ∀ s t u, Q s t → Q t u → Q s u)
    (hf : ∀ a ∈ l, ∀ s, Q s (f a s).2) : Q s (inTurn f l s).2 := by
  induction l generalizing s with
  | nil => exact hrefl s
  | cons a l ih => exact htrans _ _ _ (hf a List.mem_cons_self s) (ih fun c hc => hf c (List.mem_cons_of_mem _ hc))

/-- Everybody after a round is somebody after a call, -/
theorem mem_inTurn {b : α} (h : b ∈ (inTurn f l s).1) : ∃ a ∈ l, ∃ t, b = (f a t).1 := by
  induction l generalizing s with
  | nil => exact absurd h List.not_mem_nil
  | cons a l ih =>
    rcases List.mem_cons.1 h with rfl | h
    · exact ⟨a, List.mem_cons_self, s, rfl⟩
    · obtain ⟨a', ha, t, he⟩ := ih h
      exact ⟨a', List.mem_cons_of_mem _ ha, t, he⟩

/-- and everybody has been called. -/
theorem inTurn_mem (h : a ∈ l) : ∃ t, (f a t).1 ∈ (inTurn f l s).1 := by
  induction l generalizing s with
  | nil => exact absurd h List.not_mem_nil
  | cons a' l ih =>
    rcases List.mem_cons.1 h with rfl | h
    · exact ⟨s, List.mem_cons_self⟩
    · obtain ⟨t, ht⟩ := @ih (f a' s).2 h
      exact ⟨t, List.mem_cons_of_mem _ ht⟩

/-! ## Calls one after the other -/

theorem Stays.trans {p q : α × σ} (h : R.Stays a s p) (h' : R.Stays p.1 p.2 q) : R.Stays a s q :=
  ⟨h'.holds.trans h.holds, h'.name.trans h.name, h'.told.trans h.told, h'.flag.trans h.flag⟩

theorem Stays.takes {p q : α × σ} (h : R.Stays a s p) (h' : R.Takes p.1 q) : R.Takes a q :=
  ⟨h'.holds, h'.name.trans h.name, by rw [h'.told, h.name], h'.flag⟩

theorem Takes.stays {p q : α × σ} (h : R.Takes a p) (h' : R.Stays p.1 p.2 q) : R.Takes a q :=
  ⟨h'.holds.trans h.holds, h'.name.trans h.name, h'.told.trans h.told, h'.flag.trans h.flag⟩

theorem Stays.leaves {p q : α × σ} (h : R.Stays a s p) (h' : R.Leaves p.1 q) : R.Leaves a q :=
  ⟨h.holds.symm.trans h'.held, h'.holds, h'.told, h'.flag⟩

theorem Leaves.stays {p q : α × σ} (h : R.Leaves a p) (h' : R.Stays p.1 p.2 q) : R.Leaves a q :=
  ⟨h.held, h'.holds.trans h.holds, h'.told.trans h.told, h'.flag.trans h.flag⟩

/-! ## Rounds -/

/-- A round in which everybody stays. -/
theorem inTurn_stays (hf : ∀ a ∈ l, ∀ s, R.Stays a s (f a s)) :
    ((inTurn f l s).1.filter R.holds).map R.name = (l.filter R.holds).map R.name ∧
      R.told (inTurn f l s).2 = R.told s ∧ R.flag (inTurn f l s).2 = R.flag s := by
  induction l generalizing s with
  | nil => exact ⟨rfl, rfl, rfl⟩
  | cons a l ih =>
    have ha := hf a List.mem_cons_self s
    obtain ⟨hl, ht, hg⟩ := @ih (f a s).2 fun b hb => hf b (List.mem_cons_of_mem _ hb)
    refine ⟨?_, ht.trans ha.told, hg.trans ha.flag⟩
    rw [inTurn, List.filter_cons, List.filter_cons, ha.holds]
    split
    · rw [List.map_cons, List.map_cons, hl, ha.name]
    · exact hl

/-- A round in which everybody lets go of it. -/
theorem inTurn_clears (hf : ∀ a ∈ l, ∀ s, R.Clears a s (f a s)) :
    (inTurn f l s).1.filter R.holds = [] ∧ R.told (inTurn f l s).2 = (if l.any R.holds then none else R.told s) ∧
      R.flag (inTurn f l s).2 = (if l.any R.holds then false else R.flag s) := by
  induction l generalizing s with
  | nil => exact ⟨rfl, rfl, rfl⟩
  | cons a l ih =>
    have ha := hf a List.mem_cons_self s
    obtain ⟨hl, ht, hg⟩ := @ih (f a s).2 fun b hb => hf b (List.mem_cons_of_mem _ hb)
    rw [inTurn, List.filter_cons, List.any_cons, ht, hg]
    cases hh : R.holds a with
    | true =>
      have h := ha.leaves hh
      rw [h.holds, h.told, h.flag]
      simp [hl]
    | false =>
      have h := ha.stays hh
      rw [h.holds, hh, h.told, h.flag]
      simp [hl]

theorem none_holds_iff : (∀ a ∈ l, R.holds a = false) ↔ l.filter R.holds = [] := by
  simp only [List.filter_eq_nil_iff, Bool.not_eq_true]

/-- Behind the one that holds it nobody does. -/
theorem Agrees.behind (h : R.Agrees (a :: l) s) (ha : R.holds a = true) : ∀ b ∈ l, R.holds b = false := by
  have hlen := congrArg List.length h.held
  rw [List.length_map, List.filter_cons_of_pos ha, List.length_cons] at hlen
  have hle : (R.told s).toList.length ≤ 1 := by cases R.told s <;> simp
  exact none_holds_iff.2 (List.eq_nil_of_length_eq_zero (by omega))

/-- **A round without a taker** keeps the agreement. -/
theorem Agrees.keep (h : R.Agrees l s) (hf : ∀ a ∈ l, ∀ s, R.Stays a s (f a s) ∨ R.Leaves a (f a s)) :
    R.Agrees (inTurn f l s).1 (inTurn f l s).2 := by
  induction l generalizing s with
  | nil => exact h
  | cons a l ih =>
    have hrest : ∀ b ∈ l, ∀ s, R.Stays b s (f b s) ∨ R.Leaves b (f b s) := fun b hb => hf b (List.mem_cons_of_mem _ hb)
    cases hh : R.holds a with
    | true =>
      -- nobody behind the holder has anything to let go
      have hidle : ∀ b ∈ l, ∀ s, R.Stays b s (f b s) := fun b hb s => by
        refine (hrest b hb s).resolve_right fun hl => ?_
        have hb := h.behind hh b hb
        rw [hl.held] at hb
        exact Bool.noConfusion hb
      obtain ⟨hl, ht, hg⟩ := inTurn_stays (s := (f a s).2) hidle
      have hheld := h.held
      rw [List.filter_cons_of_pos hh, List.map_cons] at hheld
      obtain ⟨g, hg'⟩ : ∃ g, R.told s = some g := by
        cases ht : R.told s with
        | none =>
          rw [ht] at hheld
          exact absurd hheld (List.cons_ne_nil _ _)
        | some g => exact ⟨g, rfl⟩
      rw [hg', Option.toList_some, List.cons.injEq] at hheld
      refine ⟨?_, ?_⟩
      · rw [inTurn, List.filter_cons, ht]
        rcases hf a List.mem_cons_self s with ha | ha
        · rw [ha.holds, if_pos hh, List.map_cons, hl, ha.name, ha.told, hg', hheld.1, hheld.2]
          rfl
        · rw [ha.holds, if_neg Bool.false_ne_true, hl, ha.told, hheld.2]
          rfl
      · rw [inTurn, ht, hg]
        rcases hf a List.mem_cons_self s with ha | ha
        · rw [ha.flag, ha.told, h.flag]
        · rw [ha.flag, ha.told]
          rfl
    | false =>
      have ha : R.Stays a s (f a s) := (hf a List.mem_cons_self s).resolve_right fun hl => by
        rw [hl.held] at hh
        exact Bool.noConfusion hh
      have hheld := h.held
      rw [List.filter_cons_of_neg (by rw [hh]; exact Bool.false_ne_true)] at hheld
      obtain ⟨hl, hg⟩ := @ih (f a s).2 ⟨by rw [ha.told]; exact hheld, by rw [ha.flag, ha.told]; exact h.flag⟩ hrest
      refine ⟨?_, hg⟩
      rw [inTurn, List.filter_cons_of_neg (by rw [ha.holds, hh]; exact Bool.false_ne_true)]
      exact hl

/-- **A round with a taker**, in which the others let go: it agrees exactly when nobody behind the taker had to. -/
theorem agrees_take_clears (hf : ∀ b ∈ l₁ ++ l₂, ∀ s, R.Clears b s (f b s)) (ha : ∀ s, R.Takes a (f a s)) :
    R.Agrees (inTurn f (l₁ ++ a :: l₂) s).1 (inTurn f (l₁ ++ a :: l₂) s).2 ↔ ∀ b ∈ l₂, R.holds b = false := by
  obtain ⟨h₁, -, -⟩ := inTurn_clears (s := s) fun b hb => hf b (List.mem_append_left _ hb)
  have ha := ha (inTurn f l₁ s).2
  obtain ⟨h₂, ht, hg⟩ := inTurn_clears (s := (f a (inTurn f l₁ s).2).2) fun b hb => hf b (List.mem_append_right _ hb)
  rw [inTurn_append, inTurn]
  constructor
  · rintro ⟨hheld, -⟩ b hb
    rw [Bool.eq_false_iff]
    intro hh
    have hany : l₂.any R.holds = true := List.any_eq_true.2 ⟨b, hb, hh⟩
    rw [ht, if_pos hany, List.filter_append, List.filter_cons_of_pos ha.holds, h₁] at hheld
    exact absurd hheld (List.cons_ne_nil _ _)
  · intro hnone
    have hany : ¬ l₂.any R.holds = true := fun h => by
      obtain ⟨b, hb, hh⟩ := List.any_eq_true.1 h
      rw [hnone b hb] at hh
      exact Bool.noConfusion hh
    rw [if_neg hany] at ht hg
    refine ⟨?_, by rw [ht, hg, ha.told, ha.flag]; rfl⟩
    rw [ht, ha.told, List.filter_append, List.filter_cons_of_pos ha.holds, h₁, h₂, List.nil_append, List.map_cons, ha.name]
    rfl

/-- **A round with a taker**, in which the others stay: it agrees exactly when none of them holds it. -/
theorem agrees_take_stays (hf : ∀ b ∈ l₁ ++ l₂, ∀ s, R.Stays b s (f b s)) (ha : ∀ s, R.Takes a (f a s)) :
    R.Agrees (inTurn f (l₁ ++ a :: l₂) s).1 (inTurn f (l₁ ++ a :: l₂) s).2 ↔ ∀ b ∈ l₁ ++ l₂, R.holds b = false := by
  obtain ⟨h₁, -, -⟩ := inTurn_stays (s := s) fun b hb => hf b (List.mem_append_left _ hb)
  have ha := ha (inTurn f l₁ s).2
  obtain ⟨h₂, ht, hg⟩ := inTurn_stays (s := (f a (inTurn f l₁ s).2).2) fun b hb => hf b (List.mem_append_right _ hb)
  have hnames : ((inTurn f (l₁ ++ a :: l₂) s).1.filter R.holds).map R.name =
      (l₁.filter R.holds).map R.name ++ R.name a :: (l₂.filter R.holds).map R.name := by
    rw [inTurn_append, inTurn, List.filter_append, List.filter_cons_of_pos ha.holds, List.map_append, List.map_cons, h₁, h₂, ha.name]
  have htold : R.told (inTurn f (l₁ ++ a :: l₂) s).2 = some (R.name a) := by
    rw [inTurn_append, inTurn]
    exact ht.trans ha.told
  have hflag : R.flag (inTurn f (l₁ ++ a :: l₂) s).2 = true := by
    rw [inTurn_append, inTurn]
    exact hg.trans ha.flag
  rw [none_holds_iff]
  constructor
  · rintro ⟨hheld, -⟩
    rw [hnames, htold] at hheld
    have hlen := congrArg List.length hheld
    rw [List.length_append, List.length_cons, List.length_map, List.length_map, Option.toList_some, List.length_singleton] at hlen
    refine List.eq_nil_of_length_eq_zero ?_
    rw [List.filter_append, List.length_append]
    omega
  · intro h
    rw [List.filter_append, List.append_eq_nil_iff] at h
    refine ⟨?_, by rw [htold, hflag]; rfl⟩
    rw [hnames, htold, h.1, h.2]
    rfl

/-- The agreement, one part at a time. -/
theorem agrees_iff : R.Agrees l s ↔ (l.filter R.holds).length ≤ 1 ∧ (R.flag s = true ↔ ∃ a ∈ l, R.holds a = true) ∧
    (∀ g, R.told s = some g → ∃ a ∈ l, R.holds a = true ∧ R.name a = g) ∧ (R.told s = none → ∀ a ∈ l, R.holds a = false) := by
  have hmem : ∀ a, a ∈ l.filter R.holds ↔ a ∈ l ∧ R.holds a = true := fun a => List.mem_filter
  constructor
  · rintro ⟨hheld, hflag⟩
    rw [none_holds_iff, hflag]
    cases ht : R.told s with
    | none =>
      rw [ht] at hheld
      have hf : l.filter R.holds = [] := List.map_eq_nil_iff.1 hheld
      have hno : ¬ ∃ a ∈ l, R.holds a = true := fun ⟨a, ha, hh⟩ => by
        have := (hmem a).2 ⟨ha, hh⟩
        rw [hf] at this
        exact List.not_mem_nil this
      exact ⟨by rw [hf]; exact Nat.zero_le _, iff_of_false Bool.false_ne_true hno, fun g hg => (nomatch hg), fun _ => hf⟩
    | some g =>
      rw [ht] at hheld
      obtain ⟨a, hf, hn⟩ : ∃ a, l.filter R.holds = [a] ∧ R.name a = g := List.map_eq_singleton_iff.1 hheld
      have ha := (hmem a).1 (by rw [hf]; exact List.mem_singleton_self a)
      refine ⟨by rw [hf]; exact Nat.le_refl 1, iff_of_true rfl ⟨a, ha⟩, fun g' hg => ⟨a, ha.1, ha.2, ?_⟩, fun hn => (nomatch hn)⟩
      rw [hn]
      exact Option.some.inj hg
  · rintro ⟨hle, hflag, hsome, hnone⟩
    cases ht : R.told s with
    | none =>
      have hf := none_holds_iff.1 (hnone ht)
      have hno : ¬ ∃ a ∈ l, R.holds a = true := fun ⟨a, ha, hh⟩ => by
        rw [hnone ht a ha] at hh
        exact Bool.noConfusion hh
      refine ⟨by rw [hf, ht]; rfl, ?_⟩
      rw [ht, Option.isSome_none, Bool.eq_false_iff]
      exact mt hflag.1 hno
    | some g =>
      obtain ⟨a, ha, hh, hn⟩ := hsome g ht
      obtain ⟨b, hf⟩ := List.length_eq_one_iff.1 (Nat.le_antisymm hle (List.length_pos_of_mem ((hmem a).2 ⟨ha, hh⟩)))
      have hab : a = b := List.mem_singleton.1 (by rw [← hf]; exact (hmem a).2 ⟨ha, hh⟩)
      refine ⟨by rw [hf, ht, ← hab, ← hn]; rfl, ?_⟩
      rw [ht, Option.isSome_some]
      exact hflag.2 ⟨a, ha, hh⟩

/-- The holder is one. -/
theorem Agrees.unique (h : R.Agrees l s) {b : α} (ha : a ∈ l) (hb : b ∈ l) (hha : R.holds a = true) (hhb : R.holds b = true) :
    a = b := by
  have hle := (agrees_iff.1 h).1
  have ha := List.mem_filter.2 ⟨ha, hha⟩
  have hb := List.mem_filter.2 ⟨hb, hhb⟩
  obtain ⟨c, hc⟩ := List.length_eq_one_iff.1 (Nat.le_antisymm hle (List.length_pos_of_mem ha))
  rw [hc] at ha hb
  exact (List.mem_singleton.1 ha).trans (List.mem_singleton.1 hb).symm

end Announcing

end HiaeCommon.Lib
