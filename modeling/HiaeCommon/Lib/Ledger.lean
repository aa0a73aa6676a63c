/-
A driver that hands out handles for what it installs, seen from its client:
the ledger of what is installed, under any choice of handles that are not in
use, and the rules that relate it to what the client holds. `Holds d m` says
that exactly `m` is installed; what a step does not touch is a summand of `m`
that stays.
-/
import Mathlib.Algebra.BigOperators.Group.List.Basic
import Mathlib.Algebra.Order.Group.Multiset
import Mathlib.Data.List.Forall2
import Mathlib.Data.List.Nodup

namespace HiaeCommon.Lib

/-- A choice of a handle that is not in use. -/
structure Handles where
  pick : List Nat → Nat
  fresh : ∀ used, pick used ∉ used

/-- The next number. -/
def Handles.next : Handles where
  pick used := used.foldr max 0 + 1
  fresh used hm := by
    have hle : ∀ l : List Nat, ∀ h ∈ l, h ≤ l.foldr max 0 := fun l => by
      induction l with
      | nil => simp
      | cons x l ih =>
        intro h hm
        cases List.mem_cons.1 hm with
        | inl hx => exact hx ▸ Nat.le_max_left _ _
        | inr hl => exact Nat.le_trans (ih h hl) (Nat.le_max_right _ _)
    exact absurd (hle used _ hm) (by omega)

theorem Handles.next_ne_zero (used : List Nat) : Handles.next.pick used ≠ 0 := Nat.succ_ne_zero _

/-- What is installed, by handle, and the deletions of handles that were not in use. -/
structure Ledger (ρ : Type) where
  live : List (Nat × ρ)
  misses : Nat

namespace Ledger

variable {ρ α β : Type}

def empty : Ledger ρ := ⟨[], 0⟩

def used (d : Ledger ρ) : List Nat := d.live.map Prod.fst

/-- The driver installs `r`, and returns its handle. -/
def add (H : Handles) (r : ρ) (d : Ledger ρ) : Nat × Ledger ρ :=
  (H.pick d.used, { d with live := (H.pick d.used, r) :: d.live })

/-- The driver removes what has the handle `h`. -/
def del (h : Nat) (d : Ledger ρ) : Ledger ρ :=
  if h ∈ d.used then { d with live := d.live.filter fun x => x.1 ≠ h }
  else { d with misses := d.misses + 1 }

/-- `n` installations, one after the other. -/
def addN (H : Handles) (r : Nat → ρ) : Nat → Ledger ρ → List Nat × Ledger ρ
  | 0, d => ([], d)
  | n + 1, d =>
    let (hs, d) := addN H r n d
    let (h, d) := d.add H (r n)
    (hs ++ [h], d)

/-- The deletion of several handles. -/
def delAll (hs : List Nat) (d : Ledger ρ) : Ledger ρ := hs.foldl (fun d h => d.del h) d

/-- A loop over a list whose body may change the element. -/
def each (f : α → Ledger ρ → β × Ledger ρ) : List α → Ledger ρ → List β × Ledger ρ
  | [], d => ([], d)
  | a :: l, d =>
    let (b, d) := f a d
    let (l, d) := each f l d
    (b :: l, d)

/-- A loop that stops at the first element with `q`, whose body may change it. -/
def first (q : α → Bool) (f : α → Ledger ρ → α × Ledger ρ) : List α → Ledger ρ → List α × Ledger ρ
  | [], d => ([], d)
  | a :: l, d =>
    if q a then
      let (a, d) := f a d
      (a :: l, d)
    else
      let (l, d) := first q f l d
      (a :: l, d)

/-- Exactly `m` is installed, each under a handle of its own, and no deletion missed. -/
structure Holds (d : Ledger ρ) (m : Multiset (Nat × ρ)) : Prop where
  live : (d.live : Multiset (Nat × ρ)) = m
  nodup : d.used.Nodup
  misses : d.misses = 0

/-- The installed rules with handles `hs`, of a series `r`. -/
def series (r : Nat → ρ) (hs : List Nat) : Multiset (Nat × ρ) := (hs.zipIdx.map fun x => (x.1, r x.2) : List _)

theorem series_nil (r : Nat → ρ) : series r [] = 0 := rfl

theorem series_append_singleton (r : Nat → ρ) (hs : List Nat) (h : Nat) :
    series r (hs ++ [h]) = {(h, r hs.length)} + series r hs := by
  simp only [series, List.zipIdx_append, List.map_append, ← Multiset.coe_add]
  rw [add_comm]
  simp

@[simp] theorem addN_length (H : Handles) (r : Nat → ρ) (n : Nat) (d : Ledger ρ) : (d.addN H r n).1.length = n := by
  induction n with
  | zero => rfl
  | succ n ih => simp [addN, ih]

namespace Holds

variable {H : Handles} {d : Ledger ρ} {m : Multiset (Nat × ρ)}

theorem empty : Holds (Ledger.empty : Ledger ρ) 0 := ⟨rfl, List.nodup_nil, rfl⟩

theorem of_eq {m' : Multiset (Nat × ρ)} (h : Holds d m) (he : m = m') : Holds d m' := he ▸ h

theorem add (h : Holds d m) (r : ρ) : Holds (d.add H r).2 ({((d.add H r).1, r)} + m) := by
  refine ⟨?_, ?_, h.misses⟩
  · rw [← h.live]
    rfl
  · exact List.nodup_cons.2 ⟨H.fresh _, h.nodup⟩

theorem del {k : Nat} {r : ρ} (h : Holds d ({(k, r)} + m)) : Holds (d.del k) m := by
  have hmem : (k, r) ∈ d.live := by
    rw [← Multiset.mem_coe, h.live]
    simp
  have hk : k ∈ d.used := List.mem_map_of_mem hmem
  obtain ⟨l₁, l₂, hl⟩ := List.append_of_mem hmem
  have hnd := h.nodup
  rw [Ledger.used, hl, List.map_append, List.map_cons, List.nodup_middle, List.nodup_cons] at hnd
  obtain ⟨hnot, hnd⟩ := hnd
  -- the handle stands for this one entry
  have hfilter : d.live.filter (fun x => decide (x.1 ≠ k)) = l₁ ++ l₂ := by
    rw [hl, List.filter_append, List.filter_cons_of_neg (by simp), ← List.filter_append]
    refine List.filter_eq_self.2 fun x hx => ?_
    have : x.1 ≠ k := fun he => hnot (by rw [← List.map_append, ← he]; exact List.mem_map.2 ⟨x, hx, rfl⟩)
    simpa using this
  rw [Ledger.del, if_pos hk, hfilter]
  refine ⟨?_, by rw [Ledger.used, List.map_append]; exact hnd, h.misses⟩
  have hlive := h.live
  rw [hl] at hlive
  have hperm : ((l₁ ++ (k, r) :: l₂ : List _) : Multiset (Nat × ρ)) = {(k, r)} + ((l₁ ++ l₂ : List _) : Multiset _) :=
    Multiset.coe_eq_coe.2 List.perm_middle
  rw [hperm] at hlive
  exact add_left_cancel hlive

/-- What was added is what has a handle that was not in use. -/
theorem filter_added {d' : Ledger ρ} {m' : Multiset (Nat × ρ)} (h : Holds d m) (h' : Holds d' (m' + m)) :
    (d'.live : Multiset (Nat × ρ)).filter (fun x => x.1 ∉ d.used) = m' := by
  have hused : ∀ x ∈ m, x.1 ∈ d.used := by
    intro x hx
    rw [← h.live, Multiset.mem_coe] at hx
    exact List.mem_map_of_mem hx
  have hnew : ∀ x ∈ m', x.1 ∉ d.used := by
    intro x hx hmem
    obtain ⟨y, hy, hyx⟩ := List.mem_map.1 hmem
    have hnd : ((m' + m).map Prod.fst).Nodup := by
      rw [← h'.live, Multiset.map_coe]
      exact Multiset.coe_nodup.2 h'.nodup
    rw [Multiset.map_add, Multiset.nodup_add] at hnd
    rw [← Multiset.mem_coe, h.live] at hy
    exact Multiset.disjoint_left.1 hnd.2.2 (Multiset.mem_map_of_mem _ hx) (hyx ▸ Multiset.mem_map_of_mem _ hy)
  rw [h'.live, Multiset.filter_add, Multiset.filter_eq_self.2 hnew,
    Multiset.filter_eq_nil.2 fun x hx => not_not.2 (hused x hx), add_zero]

theorem addN (r : Nat → ρ) (n : Nat) (h : Holds d m) :
    Holds (d.addN H r n).2 (series r (d.addN H r n).1 + m) := by
  induction n with
  | zero => simpa [Ledger.addN, series_nil] using h
  | succ n ih =>
    simp only [Ledger.addN, series_append_singleton, addN_length, add_assoc]
    exact ih.add (r n)

theorem delAll (r : Nat → ρ) : ∀ {hs : List Nat} {d : Ledger ρ}, Holds d (series r hs + m) → Holds (d.delAll hs) m := by
  suffices ∀ (hs : List Nat) (k : Nat) (d : Ledger ρ),
      Holds d ((((hs.zipIdx k).map fun x => (x.1, r x.2) : List _) : Multiset (Nat × ρ)) + m) → Holds (d.delAll hs) m from
    fun {hs d} => this hs 0 d
  intro hs
  induction hs with
  | nil => intro k d h; simpa [Ledger.delAll] using h
  | cons x hs ih =>
    intro k d h
    refine ih (k + 1) _ (del (r := r k) (h.of_eq ?_))
    rw [List.zipIdx_cons, List.map_cons, ← Multiset.cons_coe, Multiset.cons_add, Multiset.singleton_add]

/-- The rule of the loop: what its body exchanges for one element, it exchanges for all, and what it
makes of one element holds of each. -/
theorem each_rel {f : α → Ledger ρ → β × Ledger ρ} (R : α → β → Prop) {p : α → Multiset (Nat × ρ)}
    {q : β → Multiset (Nat × ρ)} {l : List α}
    (hf : ∀ a ∈ l, ∀ d m, Holds d (p a + m) → R a (f a d).1 ∧ Holds (f a d).2 (q (f a d).1 + m)) :
    ∀ {d m}, Holds d ((l.map p).sum + m) →
      List.Forall₂ R l (d.each f l).1 ∧ Holds (d.each f l).2 (((d.each f l).1.map q).sum + m) := by
  induction l with
  | nil => intro d m h; exact ⟨.nil, by simpa [Ledger.each] using h⟩
  | cons a l ih =>
    intro d m h
    simp only [List.map_cons, List.sum_cons, add_assoc] at h
    obtain ⟨hr, h1⟩ := hf a (by simp) d _ h
    obtain ⟨hrs, h2⟩ := ih (fun a' ha' => hf a' (by simp [ha'])) (h1.of_eq (add_left_comm _ _ _))
    refine ⟨.cons hr hrs, ?_⟩
    simp only [Ledger.each, List.map_cons, List.sum_cons]
    exact h2.of_eq (by rw [add_left_comm, ← add_assoc])

theorem each {f : α → Ledger ρ → β × Ledger ρ} {p : α → Multiset (Nat × ρ)} {q : β → Multiset (Nat × ρ)}
    {l : List α} (hf : ∀ a ∈ l, ∀ d m, Holds d (p a + m) → Holds (f a d).2 (q (f a d).1 + m)) {d : Ledger ρ}
    {m : Multiset (Nat × ρ)} (h : Holds d ((l.map p).sum + m)) : Holds (d.each f l).2 (((d.each f l).1.map q).sum + m) :=
  (each_rel (fun _ _ => True) (fun a ha d m h => ⟨trivial, hf a ha d m h⟩) h).2

end Holds

/-- The handles in use are exactly `s`, each of them once, and no deletion missed. -/
structure Keeps (d : Ledger ρ) (s : Multiset Nat) : Prop where
  used : (d.used : Multiset Nat) = s
  nodup : d.used.Nodup
  misses : d.misses = 0

namespace Keeps

variable {H : Handles} {d : Ledger ρ} {s : Multiset Nat}

theorem holds (h : Keeps d s) : Holds d d.live := ⟨rfl, h.nodup, h.misses⟩

theorem of_holds {m : Multiset (Nat × ρ)} (h : Holds d m) : Keeps d (m.map Prod.fst) := by
  refine ⟨?_, h.nodup, h.misses⟩
  rw [← h.live]
  rfl

theorem of_eq {s' : Multiset Nat} (h : Keeps d s) (he : s = s') : Keeps d s' := he ▸ h

theorem mem (h : Keeps d s) {k : Nat} : k ∈ d.used ↔ k ∈ s := by rw [← h.used, Multiset.mem_coe]

theorem multiset_nodup (h : Keeps d s) : s.Nodup := by
  rw [← h.used]
  exact h.nodup

theorem empty : Keeps (Ledger.empty : Ledger ρ) 0 := of_holds Holds.empty

theorem add (h : Keeps d s) (r : ρ) : Keeps (d.add H r).2 ({(d.add H r).1} + s) := by
  refine (of_holds (h.holds.add r)).of_eq ?_
  rw [Multiset.map_add, Multiset.map_singleton, ← h.used]
  rfl

theorem del {k : Nat} (h : Keeps d ({k} + s)) : Keeps (d.del k) s := by
  have hk : k ∈ d.used := h.mem.2 (by simp)
  obtain ⟨⟨k', r⟩, hmem, hk'⟩ := List.mem_map.1 hk
  cases hk'
  obtain ⟨m, hm⟩ := Multiset.exists_cons_of_mem (Multiset.mem_coe.2 hmem)
  have hd := of_holds (Holds.del (r := r) (m := m) (h.holds.of_eq (by rw [hm, Multiset.singleton_add])))
  refine hd.of_eq ?_
  have hused : (d.used : Multiset Nat) = {k'} + m.map Prod.fst := by
    rw [Ledger.used, ← Multiset.map_coe, hm, Multiset.map_cons, Multiset.singleton_add]
  exact add_left_cancel (hused.symm.trans h.used)

end Keeps

/-- The loop stops at the element that splits the list. -/
theorem first_append {q : α → Bool} {f : α → Ledger ρ → α × Ledger ρ} {l₁ l₂ : List α} {a : α} (h₁ : ∀ x ∈ l₁, q x = false)
    (ha : q a = true) (d : Ledger ρ) : d.first q f (l₁ ++ a :: l₂) = (l₁ ++ (f a d).1 :: l₂, (f a d).2) := by
  induction l₁ with
  | nil => simp [first, ha]
  | cons x l₁ ih =>
    rw [List.cons_append, first, if_neg (by simp [h₁ x (by simp)]), ih fun x' hx' => h₁ x' (by simp [hx'])]
    rfl

/-- What the elements become, one by one. -/
theorem each_map {f : α → Ledger ρ → β × Ledger ρ} {γ : Type} (g : α → γ) (g' : β → γ) (l : List α) :
    ∀ {d : Ledger ρ}, (∀ a ∈ l, ∀ d, g' (f a d).1 = g a) → (d.each f l).1.map g' = l.map g := by
  induction l with
  | nil => intro d _; rfl
  | cons a l ih =>
    intro d hf
    simp only [each, List.map_cons, hf a (by simp), ih fun a' ha' => hf a' (by simp [ha'])]

/-- Each element that came out of the loop is related to one that went in. -/
theorem exists_of_forall₂ {R : α → β → Prop} {l : List α} {l' : List β} (h : List.Forall₂ R l l') {b : β} (hb : b ∈ l') :
    ∃ a ∈ l, R a b := by
  induction h with
  | nil => exact absurd hb List.not_mem_nil
  | cons hr _ ih =>
    cases List.mem_cons.1 hb with
    | inl h => exact ⟨_, List.mem_cons_self .., h ▸ hr⟩
    | inr h =>
      obtain ⟨a, ha, hr⟩ := ih h
      exact ⟨a, List.mem_cons_of_mem _ ha, hr⟩

theorem map_of_forall₂ {R : α → β → Prop} {γ : Type} (g : α → γ) (g' : β → γ) (hg : ∀ a b, R a b → g' b = g a) {l : List α}
    {l' : List β} (h : List.Forall₂ R l l') : l'.map g' = l.map g := by
  induction h with
  | nil => rfl
  | cons hr _ ih => rw [List.map_cons, List.map_cons, hg _ _ hr, ih]

theorem each_mem {f : α → Ledger ρ → β × Ledger ρ} {b : β} (l : List α) :
    ∀ {d : Ledger ρ}, b ∈ (d.each f l).1 → ∃ a ∈ l, ∃ d, b = (f a d).1 := by
  induction l with
  | nil => intro d h; simp [each] at h
  | cons a l ih =>
    intro d h
    simp only [each, List.mem_cons] at h
    cases h with
    | inl h => exact ⟨a, by simp, d, h⟩
    | inr h =>
      obtain ⟨a', ha', d', hb⟩ := ih h
      exact ⟨a', by simp [ha'], d', hb⟩

end Ledger
end HiaeCommon.Lib
