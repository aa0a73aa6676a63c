/-
Chains of slots: every slot has a `next` field naming its successor, `null`
ends a chain, and a `prev` field may lead back. A table of chains (`Chains`)
has one for each base slot; the other slots in use each lie on exactly one.

The two edits are `append` and `unlink`. Their hypotheses speak about the
fields after the edit and not about the writes that made it, so several
writes, in any order and with others between them, are one edit.
-/
import Mathlib.Logic.Function.Basic
import Mathlib.Data.List.Nodup

namespace HiaeCommon.Lib

open Function (update)

variable {α : Type*} {null : α} {next next' prev prev' : α → α} {a b : α} {c c' l r : List α}

/-- From `a`, `next` leads through the slots of `c`, in order, and ends. -/
def Linked (null : α) (next : α → α) : α → List α → Prop
  | a, [] => next a = null
  | a, b :: c => b ≠ null ∧ next a = b ∧ Linked null next b c

/-- Along `c`, entered from `a`, `prev` is the slot before. -/
def BackLinked (prev : α → α) : α → List α → Prop
  | _, [] => True
  | a, b :: c => prev b = a ∧ BackLinked prev b c

/-- The last slot of `c` entered from `a`: `a` itself if there is none. -/
def lastFrom : α → List α → α
  | a, [] => a
  | _, b :: c => lastFrom b c

theorem lastFrom_mem (a : α) (c : List α) : lastFrom a c ∈ a :: c := by
  induction c generalizing a with
  | nil => simp [lastFrom]
  | cons b c ih => exact List.mem_cons_of_mem _ (ih b)

@[simp] theorem lastFrom_concat (a e : α) (c : List α) : lastFrom a (c ++ [e]) = e := by
  induction c generalizing a with
  | nil => rfl
  | cons b c ih => exact ih b

namespace Linked

theorem congr (h : Linked null next a c) (hsame : ∀ x ∈ a :: c, next' x = next x) :
    Linked null next' a c := by
  induction c generalizing a with
  | nil =>
    rw [Linked, hsame a (by simp)]
    exact h
  | cons b c ih =>
    obtain ⟨hb, hab, hc⟩ := h
    refine ⟨hb, by rw [hsame a (by simp), hab], ih hc fun x hx => hsame x ?_⟩
    exact List.mem_cons_of_mem _ hx

/-- A walk has one course. -/
theorem unique (h : Linked null next a c) (h' : Linked null next a c') : c = c' := by
  induction c generalizing a c' with
  | nil =>
    cases c' with
    | nil => rfl
    | cons b c' => exact absurd (h'.2.1.symm.trans h) h'.1
  | cons b c ih =>
    cases c' with
    | nil => exact absurd (h.2.1.symm.trans h') h.1
    | cons b' c' =>
      obtain rfl : b = b' := h.2.1.symm.trans h'.2.1
      rw [ih h.2.2 h'.2.2]

/-- From a slot on the way the walk goes on as before. -/
theorem suffix (h : Linked null next a (l ++ b :: r)) : Linked null next b r := by
  induction l generalizing a with
  | nil => exact h.2.2
  | cons x l ih => exact ih h.2.2

theorem ne_null (h : Linked null next a c) : ∀ x ∈ c, x ≠ null := by
  induction c generalizing a with
  | nil => simp
  | cons b c ih =>
    intro x hx
    rcases List.mem_cons.1 hx with rfl | hx
    · exact h.1
    · exact ih h.2.2 x hx

/-- **A walk that ends does not cycle.** -/
theorem nodup (h : Linked null next a c) : (a :: c).Nodup := by
  induction c generalizing a with
  | nil => simp
  | cons b c ih =>
    refine List.nodup_cons.2 ⟨fun ha => ?_, ih h.2.2⟩
    -- were `a` on the way, its walk would be a proper part of itself
    obtain ⟨l, r, hlr⟩ := List.append_of_mem ha
    have hr : Linked null next a r := suffix (hlr ▸ h)
    have hlen : (b :: c).length = r.length := congrArg List.length (h.unique hr)
    rw [hlr] at hlen
    simp at hlen
    omega

theorem next_eq_null_iff (h : Linked null next a c) : next a = null ↔ c = [] := by
  cases c with
  | nil => exact ⟨fun _ => rfl, fun _ => h⟩
  | cons b c => exact ⟨fun ha => absurd (h.2.1.symm.trans ha) h.1, fun hc => (nomatch hc)⟩

theorem next_last (h : Linked null next a c) : next (lastFrom a c) = null := by
  induction c generalizing a with
  | nil => exact h
  | cons b c ih => exact ih h.2.2

theorem next_lastFrom (h : Linked null next a (l ++ r)) : next (lastFrom a l) = r.headD null := by
  induction l generalizing a with
  | nil =>
    cases r with
    | nil => exact h
    | cons b r => exact h.2.1
  | cons b l ih => exact ih h.2.2

/-- What `next` yields on a chain is the end or on the chain. -/
theorem next_mem (h : Linked null next a c) : ∀ x ∈ a :: c, next x = null ∨ next x ∈ c := by
  induction c generalizing a with
  | nil =>
    intro x hx
    rw [List.mem_singleton.1 hx]
    exact .inl h
  | cons b c ih =>
    intro x hx
    rcases List.mem_cons.1 hx with rfl | hx
    · exact .inr (by rw [h.2.1]; simp)
    · exact (ih h.2.2 x hx).imp_right (List.mem_cons_of_mem _)

theorem append {e : α} (h : Linked null next a c) (he : e ≠ null) (hlast : next' (lastFrom a c) = e)
    (hend : next' e = null) (hsame : ∀ x ∈ a :: c, x ≠ lastFrom a c → next' x = next x) :
    Linked null next' a (c ++ [e]) := by
  induction c generalizing a with
  | nil => exact ⟨he, hlast, hend⟩
  | cons b c ih =>
    have hnd := h.nodup
    obtain ⟨hb, hab, hc⟩ := h
    have hne : a ≠ lastFrom b c := by
      intro heq
      refine (List.nodup_cons.1 hnd).1 ?_
      rw [heq]
      exact lastFrom_mem b c
    refine ⟨hb, by rw [hsame a (by simp) hne, hab], ih hc hlast fun x hx => hsame x ?_⟩
    exact List.mem_cons_of_mem _ hx

theorem unlink {x : α} (h : Linked null next a (l ++ x :: r)) (hlast : next' (lastFrom a l) = next x)
    (hsame : ∀ y ∈ a :: (l ++ r), y ≠ lastFrom a l → next' y = next y) : Linked null next' a (l ++ r) := by
  induction l generalizing a with
  | nil =>
    have hnd := h.nodup
    obtain ⟨-, -, hr⟩ := h
    have hrest : ∀ y ∈ r, next' y = next y := fun y hy =>
      hsame y (List.mem_cons_of_mem _ hy) fun heq => (List.nodup_cons.1 hnd).1 (by
        rw [show y = a from heq] at hy
        exact List.mem_cons_of_mem _ hy)
    cases r with
    | nil => exact hlast.trans hr
    | cons n r =>
      obtain ⟨hn, hxn, hr⟩ := hr
      exact ⟨hn, hlast.trans hxn, hr.congr hrest⟩
  | cons b l ih =>
    have hnd := h.nodup
    obtain ⟨hb, hab, hc⟩ := h
    have hne : a ≠ lastFrom b l := by
      intro heq
      refine (List.nodup_cons.1 hnd).1 ?_
      rw [heq]
      rcases List.mem_cons.1 (lastFrom_mem b l) with h | h <;> simp [h]
    refine ⟨hb, by rw [hsame a (by simp) hne, hab], ih hc hlast fun y hy => hsame y ?_⟩
    exact List.mem_cons_of_mem _ hy

end Linked

namespace BackLinked

theorem congr (h : BackLinked prev a c) (hsame : ∀ x ∈ c, prev' x = prev x) : BackLinked prev' a c := by
  induction c generalizing a with
  | nil => trivial
  | cons b c ih =>
    refine ⟨by rw [hsame b (by simp), h.1], ih h.2 fun x hx => hsame x ?_⟩
    exact List.mem_cons_of_mem _ hx

theorem prev_eq {x : α} (h : BackLinked prev a (l ++ x :: r)) : prev x = lastFrom a l := by
  induction l generalizing a with
  | nil => exact h.1
  | cons b l ih => exact ih h.2

/-- `prev` undoes `next`. -/
theorem prev_next (h : BackLinked prev a c) (hl : Linked null next a c) :
    ∀ x ∈ a :: c, next x ≠ null → prev (next x) = x := by
  induction c generalizing a with
  | nil =>
    intro x hx hne
    rw [List.mem_singleton.1 hx] at hne
    exact absurd hl hne
  | cons b c ih =>
    intro x hx hne
    rcases List.mem_cons.1 hx with rfl | hx
    · rw [hl.2.1]
      exact h.1
    · exact ih h.2 hl.2.2 x hx hne

theorem append {e : α} (h : BackLinked prev a c) (he : prev' e = lastFrom a c)
    (hsame : ∀ x ∈ c, prev' x = prev x) : BackLinked prev' a (c ++ [e]) := by
  induction c generalizing a with
  | nil => exact ⟨he, trivial⟩
  | cons b c ih =>
    refine ⟨by rw [hsame b (by simp), h.1], ih h.2 he fun x hx => hsame x ?_⟩
    exact List.mem_cons_of_mem _ hx

theorem unlink {x : α} (h : BackLinked prev a (l ++ x :: r)) (hnd : (l ++ x :: r).Nodup)
    (hnext : ∀ n, r.head? = some n → prev' n = lastFrom a l)
    (hsame : ∀ y ∈ l ++ r, r.head? ≠ some y → prev' y = prev y) : BackLinked prev' a (l ++ r) := by
  induction l generalizing a with
  | nil =>
    cases r with
    | nil => trivial
    | cons n r =>
      refine ⟨hnext n rfl, h.2.2.congr fun y hy => hsame y (List.mem_cons_of_mem _ hy) fun heq => ?_⟩
      obtain rfl : n = y := by simpa using heq
      exact (List.nodup_cons.1 (List.nodup_cons.1 hnd).2).1 hy
  | cons b l ih =>
    have hnd' := List.nodup_cons.1 hnd
    have hb : r.head? ≠ some b := fun heq => hnd'.1 (by simp [List.mem_of_mem_head? heq])
    refine ⟨by rw [hsame b (by simp) hb, h.1], ih h.2 hnd'.2 hnext fun y hy => hsame y ?_⟩
    exact List.mem_cons_of_mem _ hy

end BackLinked

/-- One chain for each base slot; every other slot in use is on exactly one. -/
structure Chains (null : α) (base used : α → Prop) (next prev : α → α) (chain : α → List α) : Prop where
  linked : ∀ b, base b → Linked null next b (chain b)
  back : ∀ b, base b → BackLinked prev b (chain b)
  used_of_mem : ∀ b, base b → ∀ x ∈ chain b, used x ∧ ¬ base x
  disjoint : ∀ b b', base b → base b' → ∀ x, x ∈ chain b → x ∈ chain b' → b = b'
  mem_of_used : ∀ x, used x → ∃ b, base b ∧ x ∈ chain b

namespace Chains

variable {base used used' : α → Prop} {chain : α → List α}

theorem congr (h : Chains null base used next prev chain) (hused : ∀ x, used' x ↔ used x)
    (hnext : ∀ x, base x ∨ used x → next' x = next x) (hprev : ∀ x, used x → prev' x = prev x) :
    Chains null base used' next' prev' chain := by
  have hmem : ∀ b, base b → ∀ x ∈ b :: chain b, base x ∨ used x := fun b hb x hx => by
    rcases List.mem_cons.1 hx with rfl | hx
    · exact .inl hb
    · exact .inr (h.used_of_mem b hb x hx).1
  constructor
  · exact fun b hb => (h.linked b hb).congr fun x hx => hnext x (hmem b hb x hx)
  · exact fun b hb => (h.back b hb).congr fun x hx => hprev x (h.used_of_mem b hb x hx).1
  · intro b hb x hx
    obtain ⟨hu, hnb⟩ := h.used_of_mem b hb x hx
    exact ⟨(hused x).2 hu, hnb⟩
  · exact h.disjoint
  · exact fun x hx => h.mem_of_used x ((hused x).1 hx)

/-- A slot on one chain is on no other, and no base slot is on any. -/
theorem not_mem (h : Chains null base used next prev chain) {b b' : α} (hb : base b) (hb' : base b')
    (hne : b' ≠ b) {x : α} (hx : x ∈ b :: chain b) : x ∉ b' :: chain b' := by
  intro hx'
  rcases List.mem_cons.1 hx with rfl | hxc <;> rcases List.mem_cons.1 hx' with rfl | hxc'
  · exact hne rfl
  · exact (h.used_of_mem b' hb' _ hxc').2 hb
  · exact (h.used_of_mem b hb _ hxc).2 hb'
  · exact hne (h.disjoint b' b hb' hb _ hxc' hxc)

/-! ### Around a slot -/

section Around

variable {x : α}

theorem prev_eq (h : Chains null base used next prev chain) (hb : base b) (hc : chain b = l ++ x :: r) :
    prev x = lastFrom b l := by
  have hback := h.back b hb
  rw [hc] at hback
  exact hback.prev_eq

/-- The slot before is another one, the base slot or on the chain. -/
theorem before (h : Chains null base used next prev chain) (hb : base b) (hc : chain b = l ++ x :: r) :
    lastFrom b l ≠ x ∧ lastFrom b l ∈ b :: chain b := by
  have hnd := (h.linked b hb).nodup
  have hmem := lastFrom_mem b l
  rw [hc, ← List.cons_append] at hnd
  constructor
  · intro heq
    exact (List.nodup_append'.1 hnd).2.2 (heq ▸ hmem) (by simp)
  · rw [hc, ← List.cons_append]
    exact List.mem_append_left _ hmem

/-- The slot behind, if there is one, is on the chain too, and neither of the two. -/
theorem behind (h : Chains null base used next prev chain) (hb : base b) (hc : chain b = l ++ x :: r)
    (hne : next x ≠ null) : next x ∈ chain b ∧ next x ≠ x ∧ next x ≠ lastFrom b l := by
  have hl := h.linked b hb
  rw [hc] at hl
  have hn := (hl.suffix.next_mem x (by simp)).resolve_left hne
  have hdis := List.nodup_append'.1 (show ((b :: l) ++ x :: r).Nodup from hl.nodup)
  refine ⟨?_, ?_, ?_⟩
  · rw [hc]
    simp [hn]
  · intro heq
    exact (List.nodup_cons.1 hdis.2.1).1 (heq ▸ hn)
  · intro heq
    exact hdis.2.2 (heq ▸ lastFrom_mem b l) (List.mem_cons_of_mem _ hn)

/-- What is on the chains once `x` is off its own. -/
theorem mem_unlink [DecidableEq α] (h : Chains null base used next prev chain) (hb : base b)
    (hc : chain b = l ++ x :: r) {b' y : α} (hb' : base b') :
    y ∈ update chain b (l ++ r) b' ↔ y ∈ chain b' ∧ y ≠ x := by
  have hx : x ∈ chain b := by simp [hc]
  by_cases hbb : b' = b
  · subst hbb
    have hnd := (List.nodup_cons.1 (h.linked b' hb).nodup).2
    rw [hc, List.nodup_middle] at hnd
    have hnot := (List.nodup_cons.1 hnd).1
    rw [Function.update_self, hc]
    simp only [List.mem_append, List.mem_cons] at hnot ⊢
    constructor
    · intro hy
      refine ⟨hy.imp_right .inr, ?_⟩
      rintro rfl
      exact hnot hy
    · rintro ⟨hy | hy | hy, hne⟩
      · exact .inl hy
      · exact absurd hy hne
      · exact .inr hy
  · rw [Function.update_of_ne hbb]
    refine ⟨fun hy => ⟨hy, ?_⟩, fun hy => hy.1⟩
    rintro rfl
    exact hbb (h.disjoint b' b hb' hb y hy hx)

end Around

section Edits

variable [DecidableEq α]

/-- **Append.** A fresh slot `e` goes behind the last of `b`'s chain. -/
theorem append (h : Chains null base used next prev chain) {b e : α} (hb : base b) (he : ¬ used e)
    (hbase : ¬ base e) (hnull : e ≠ null)
    (hlast : next' (lastFrom b (chain b)) = e) (hend : next' e = null)
    (hnext : ∀ x, base x ∨ used x → x ≠ lastFrom b (chain b) → next' x = next x)
    (hback : prev' e = lastFrom b (chain b)) (hprev : ∀ x, used x → prev' x = prev x)
    (hused : ∀ x, used' x ↔ used x ∨ x = e) :
    Chains null base used' next' prev' (update chain b (chain b ++ [e])) := by
  have hmem : ∀ b, base b → ∀ x ∈ b :: chain b, base x ∨ used x := fun b hb x hx => by
    rcases List.mem_cons.1 hx with rfl | hx
    · exact .inl hb
    · exact .inr (h.used_of_mem b hb x hx).1
  have hnotin : ∀ b', base b' → e ∉ chain b' := fun b' hb' hx => he (h.used_of_mem b' hb' e hx).1
  -- the new chain of a base slot, member by member
  have hmem' : ∀ b', base b' → ∀ x, x ∈ update chain b (chain b ++ [e]) b' ↔ x ∈ chain b' ∨ b' = b ∧ x = e := by
    intro b' _ x
    by_cases hbb : b' = b
    · subst hbb
      simp
    · simp [hbb]
  constructor
  · intro b' hb'
    by_cases hbb : b' = b
    · subst hbb
      rw [Function.update_self]
      exact (h.linked b' hb').append hnull hlast hend fun x hx hne => hnext x (hmem b' hb' x hx) hne
    · rw [Function.update_of_ne hbb]
      refine (h.linked b' hb').congr fun x hx => hnext x (hmem b' hb' x hx) fun heq => ?_
      exact h.not_mem hb hb' hbb (heq ▸ lastFrom_mem b (chain b)) hx
  · intro b' hb'
    by_cases hbb : b' = b
    · subst hbb
      rw [Function.update_self]
      exact (h.back b' hb').append hback fun x hx => hprev x (h.used_of_mem b' hb' x hx).1
    · rw [Function.update_of_ne hbb]
      exact (h.back b' hb').congr fun x hx => hprev x (h.used_of_mem b' hb' x hx).1
  · intro b' hb' x hx
    rcases (hmem' b' hb' x).1 hx with hx | ⟨-, rfl⟩
    · obtain ⟨hu, hnb⟩ := h.used_of_mem b' hb' x hx
      exact ⟨(hused x).2 (.inl hu), hnb⟩
    · exact ⟨(hused x).2 (.inr rfl), hbase⟩
  · intro b₁ b₂ h₁ h₂ x hx₁ hx₂
    rcases (hmem' b₁ h₁ x).1 hx₁ with hx₁ | ⟨rfl, rfl⟩ <;> rcases (hmem' b₂ h₂ x).1 hx₂ with hx₂ | ⟨hb₂, hxe⟩
    · exact h.disjoint b₁ b₂ h₁ h₂ x hx₁ hx₂
    · exact absurd (hxe ▸ hx₁) (hnotin b₁ h₁)
    · exact absurd hx₂ (hnotin b₂ h₂)
    · exact hb₂.symm
  · intro x hx
    rcases (hused x).1 hx with hx | rfl
    · obtain ⟨b', hb', hm⟩ := h.mem_of_used x hx
      exact ⟨b', hb', (hmem' b' hb' x).2 (.inl hm)⟩
    · exact ⟨b, hb, (hmem' b hb x).2 (.inr ⟨rfl, rfl⟩)⟩

/-- **Unlink.** A slot `x` of `b`'s chain is taken out; the slot before it takes over its `next`. -/
theorem unlink (h : Chains null base used next prev chain) {b x : α} (hb : base b)
    (hc : chain b = l ++ x :: r) (hlast : next' (lastFrom b l) = next x)
    (hnext : ∀ y, base y ∨ used y → y ≠ lastFrom b l → y ≠ x → next' y = next y)
    (hback : next x ≠ null → prev' (next x) = lastFrom b l)
    (hprev : ∀ y, used y → y ≠ next x → y ≠ x → prev' y = prev y)
    (hused : ∀ y, used' y ↔ used y ∧ y ≠ x) :
    Chains null base used' next' prev' (update chain b (l ++ r)) := by
  have hl := h.linked b hb
  have hnd := hl.nodup
  have hbk := h.back b hb
  rw [hc] at hl hnd hbk
  have hnd' : (l ++ x :: r).Nodup := (List.nodup_cons.1 hnd).2
  have hx : x ∈ chain b := by simp [hc]
  obtain ⟨hxu, hxb⟩ := h.used_of_mem b hb x hx
  have hxnot : x ∉ b :: (l ++ r) := by
    intro hm
    rcases List.mem_cons.1 hm with rfl | hm
    · exact hxb hb
    · rw [List.nodup_middle] at hnd'
      exact (List.nodup_cons.1 hnd').1 hm
  have hsub : ∀ y ∈ l ++ r, y ∈ chain b := fun y hy => by
    rw [hc]
    rcases List.mem_append.1 hy with hy | hy <;> simp [hy]
  have hin : ∀ y ∈ b :: (l ++ r), base y ∨ used y := fun y hy => by
    rcases List.mem_cons.1 hy with rfl | hy
    · exact .inl hb
    · exact .inr (h.used_of_mem b hb y (hsub y hy)).1
  -- the slot behind `x`
  have hhead : ∀ n, r.head? = some n → next x = n ∧ n ≠ null := by
    intro n hn
    have hxr := hl.suffix
    cases r with
    | nil => simp at hn
    | cons m r =>
      obtain rfl : m = n := by simpa using hn
      exact ⟨hxr.2.1, hxr.1⟩
  have hlastmem : lastFrom b l ∈ b :: chain b := by
    have := lastFrom_mem b l
    rw [hc]
    rcases List.mem_cons.1 this with h' | h' <;> simp only [h', List.mem_cons, List.mem_append, true_or, or_true]
  constructor
  · intro b' hb'
    by_cases hbb : b' = b
    · subst hbb
      rw [Function.update_self]
      refine hl.unlink hlast fun y hy hne => hnext y (hin y hy) hne fun heq => hxnot (heq ▸ hy)
    · rw [Function.update_of_ne hbb]
      refine (h.linked b' hb').congr fun y hy => hnext y ?_ ?_ ?_
      · rcases List.mem_cons.1 hy with rfl | hy
        · exact .inl hb'
        · exact .inr (h.used_of_mem b' hb' y hy).1
      · exact fun heq => h.not_mem hb hb' hbb (heq ▸ hlastmem) hy
      · exact fun heq => h.not_mem hb hb' hbb (List.mem_cons_of_mem _ hx) (heq ▸ hy)
  · intro b' hb'
    by_cases hbb : b' = b
    · subst hbb
      rw [Function.update_self]
      refine hbk.unlink hnd' ?_ ?_
      · intro n hn
        obtain ⟨hxn, hne⟩ := hhead n hn
        rw [← hxn]
        exact hback (by rw [hxn]; exact hne)
      · intro y hy hny
        refine hprev y (h.used_of_mem b' hb' y (hsub y hy)).1 (fun heq => hny ?_) fun heq => hxnot ?_
        · cases r with
          | nil =>
            have hyn : y ≠ null := (h.linked b' hb').ne_null y (hsub y hy)
            exact absurd (heq.trans hl.suffix) hyn
          | cons m r =>
            rw [heq, (hhead m rfl).1]
            rfl
        · rw [← heq]
          exact List.mem_cons_of_mem _ hy
    · rw [Function.update_of_ne hbb]
      refine (h.back b' hb').congr fun y hy => hprev y (h.used_of_mem b' hb' y hy).1 ?_ ?_
      · intro heq
        -- the slot behind `x` is on the chain of `b`
        rcases hl.next_mem x (by simp) with hnull | hm
        · exact (h.linked b' hb').ne_null y hy (heq.trans hnull)
        · exact hbb (h.disjoint b' b hb' hb y hy (by rw [hc, heq]; exact hm))
      · exact fun heq => hbb (h.disjoint b' b hb' hb x (heq ▸ hy) hx)
  · intro b' hb' y hy
    by_cases hbb : b' = b
    · subst hbb
      rw [Function.update_self] at hy
      obtain ⟨hu, hnb⟩ := h.used_of_mem b' hb' y (hsub y hy)
      exact ⟨(hused y).2 ⟨hu, fun heq => hxnot (heq ▸ List.mem_cons_of_mem _ hy)⟩, hnb⟩
    · rw [Function.update_of_ne hbb] at hy
      obtain ⟨hu, hnb⟩ := h.used_of_mem b' hb' y hy
      exact ⟨(hused y).2 ⟨hu, fun heq => hbb (h.disjoint b' b hb' hb x (heq ▸ hy) hx)⟩, hnb⟩
  · intro b₁ b₂ h₁ h₂ y hy₁ hy₂
    have hany : ∀ b', y ∈ update chain b (l ++ r) b' → y ∈ chain b' := fun b' hy => by
      by_cases hbb : b' = b
      · subst hbb
        rw [Function.update_self] at hy
        exact hsub y hy
      · rwa [Function.update_of_ne hbb] at hy
    exact h.disjoint b₁ b₂ h₁ h₂ y (hany b₁ hy₁) (hany b₂ hy₂)
  · intro y hy
    obtain ⟨hu, hne⟩ := (hused y).1 hy
    obtain ⟨b', hb', hm⟩ := h.mem_of_used y hu
    refine ⟨b', hb', ?_⟩
    by_cases hbb : b' = b
    · subst hbb
      rw [Function.update_self]
      rw [hc] at hm
      simp only [List.mem_append, List.mem_cons] at hm ⊢
      rcases hm with hm | hm | hm
      · exact .inl hm
      · exact absurd hm hne
      · exact .inr hm
    · rwa [Function.update_of_ne hbb]

end Edits
end Chains
end HiaeCommon.Lib
