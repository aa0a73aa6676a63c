/-
Calls that create and delete keyed resources, replayed over the set of those
that exist: a log replays when nothing is created twice or deleted when absent.
Logs that touch disjoint keys do not meet, so a family of owners can be
replayed owner by owner.
-/
import Mathlib.Data.Finset.Insert
import Mathlib.Data.List.Pairwise
import Mathlib.Data.Finset.Erase
import Mathlib.Tactic.TypeStar

namespace HiaeCommon.Lib

/-- A call about the resource `k`. -/
inductive Call (κ : Type*)
  | create (k : κ)
  | delete (k : κ)
  deriving DecidableEq, Repr

namespace Call

variable {κ α : Type*}

def key : Call κ → κ
  | create k => k
  | delete k => k

variable [DecidableEq κ]

/-- A call on the set of resources that exist; `none` if it is not in order. -/
def apply (K : Finset κ) : Call κ → Option (Finset κ)
  | create k => if k ∈ K then none else some (insert k K)
  | delete k => if k ∈ K then some (K.erase k) else none

/-- A log of calls, in order. -/
def replay (K : Finset κ) (l : List (Call κ)) : Option (Finset κ) := l.foldlM apply K

@[simp] theorem replay_nil (K : Finset κ) : replay K [] = some K := rfl

theorem replay_cons (K : Finset κ) (c : Call κ) (l : List (Call κ)) :
    replay K (c :: l) = (apply K c).bind fun K' => replay K' l := rfl

theorem replay_append (K : Finset κ) (l m : List (Call κ)) :
    replay K (l ++ m) = (replay K l).bind fun K' => replay K' m := by
  simp [replay, List.foldlM_append]

theorem apply_create {K : Finset κ} {k : κ} (h : k ∉ K) : apply K (create k) = some (insert k K) := if_neg h

theorem apply_delete {K : Finset κ} {k : κ} (h : k ∈ K) : apply K (delete k) = some (K.erase k) := if_pos h

theorem apply_frame {K K' : Finset κ} {c : Call κ} (h : apply K c = some K') {k : κ} (hk : k ≠ c.key) :
    k ∈ K' ↔ k ∈ K := by
  cases c with
  | create k' =>
    simp only [apply] at h
    split_ifs at h
    obtain rfl := Option.some.inj h
    simp only [Finset.mem_insert, or_iff_right_iff_imp]
    exact fun heq => absurd heq hk
  | delete k' =>
    simp only [apply] at h
    split_ifs at h
    obtain rfl := Option.some.inj h
    simp only [Finset.mem_erase, and_iff_right_iff_imp]
    exact fun _ => hk

/-- A log says nothing about the keys it does not mention. -/
theorem replay_frame {K K' : Finset κ} {l : List (Call κ)} (h : replay K l = some K') {k : κ}
    (hk : ∀ c ∈ l, k ≠ c.key) : k ∈ K' ↔ k ∈ K := by
  induction l generalizing K with
  | nil =>
    obtain rfl := Option.some.inj h
    exact Iff.rfl
  | cons c l ih =>
    rw [replay_cons] at h
    obtain ⟨K₁, hc, hl⟩ := Option.bind_eq_some_iff.mp h
    rw [ih hl fun c' hc' => hk c' (List.mem_cons_of_mem c hc')]
    exact apply_frame hc (hk c List.mem_cons_self)

/-- Of the keys in `keys`, exactly those of `held` exist. -/
def Holds (keys : Set κ) (held : Set κ) (K : Finset κ) : Prop := ∀ k ∈ keys, k ∈ K ↔ k ∈ held

variable {keys held held' : α → Set κ} {calls : α → List (Call κ)} {l : List α}

/-- What the logs of a list of owners with keys of their own do, each to its own keys. -/
structure OwnKeys (keys : α → Set κ) (calls : α → List (Call κ)) (l : List α) : Prop where
  own : ∀ a ∈ l, ∀ c ∈ calls a, c.key ∈ keys a
  disjoint : l.Pairwise fun a b => ∀ k, k ∈ keys a → k ∉ keys b

omit [DecidableEq κ] in
theorem OwnKeys.tail {a : α} (h : OwnKeys keys calls (a :: l)) : OwnKeys keys calls l :=
  ⟨fun b hb => h.own b (List.mem_cons_of_mem a hb), (List.pairwise_cons.mp h.disjoint).2⟩

/-- The others leave the keys of the first alone. -/
theorem OwnKeys.frame_tail {a : α} (h : OwnKeys keys calls (a :: l)) {K K' : Finset κ}
    (hr : replay K (l.flatMap calls) = some K') {k : κ} (hk : k ∈ keys a) : k ∈ K' ↔ k ∈ K := by
  refine replay_frame hr fun c hc heq => ?_
  obtain ⟨b, hb, hcb⟩ := List.mem_flatMap.mp hc
  have hkb := h.own b (List.mem_cons_of_mem a hb) c hcb
  exact (List.pairwise_cons.mp h.disjoint).1 b hb k hk (heq ▸ hkb)

/-- The first leaves the keys of the others alone. -/
theorem OwnKeys.frame_head {a : α} (h : OwnKeys keys calls (a :: l)) {K K' : Finset κ}
    (hr : replay K (calls a) = some K') {b : α} (hb : b ∈ l) {k : κ} (hk : k ∈ keys b) : k ∈ K' ↔ k ∈ K := by
  refine replay_frame hr fun c hc heq => ?_
  have hka := h.own a List.mem_cons_self c hc
  exact (List.pairwise_cons.mp h.disjoint).1 b hb k (heq ▸ hka) hk

/-- **Owners one by one**: the log of all owners replays, to what each of them
should hold, exactly when each owner's own log does. -/
theorem OwnKeys.replay_iff (h : OwnKeys keys calls l) {ok : α → Prop}
    (hown : ∀ a ∈ l, ∀ K, Holds (keys a) (held a) K →
      ((∃ K', replay K (calls a) = some K' ∧ Holds (keys a) (held' a) K') ↔ ok a))
    {K : Finset κ} (hK : ∀ a ∈ l, Holds (keys a) (held a) K) :
    (∃ K', replay K (l.flatMap calls) = some K' ∧ ∀ a ∈ l, Holds (keys a) (held' a) K') ↔ ∀ a ∈ l, ok a := by
  induction l generalizing K with
  | nil =>
    simp only [List.not_mem_nil, false_implies, implies_true, and_true, iff_true]
    exact ⟨K, rfl⟩
  | cons a l ih =>
    have hhead := hown a List.mem_cons_self K (hK a List.mem_cons_self)
    have htail := fun {K : Finset κ} => ih h.tail (fun b hb => hown b (List.mem_cons_of_mem a hb)) (K := K)
    -- the first owner's log moves only its own keys
    have hmid : ∀ {K₁}, replay K (calls a) = some K₁ → ∀ b ∈ l, Holds (keys b) (held b) K₁ := by
      intro K₁ h₁ b hb k hk
      rw [h.frame_head h₁ hb hk]
      exact hK b (List.mem_cons_of_mem a hb) k hk
    simp only [List.flatMap_cons, replay_append, List.forall_mem_cons]
    constructor
    · rintro ⟨K', hr, ha, hl⟩
      obtain ⟨K₁, h₁, h₂⟩ := Option.bind_eq_some_iff.mp hr
      refine ⟨hhead.mp ⟨K₁, h₁, fun k hk => ?_⟩, (htail (hmid h₁)).mp ⟨K', h₂, hl⟩⟩
      rw [← h.frame_tail h₂ hk]
      exact ha k hk
    · rintro ⟨ha, hl⟩
      obtain ⟨K₁, h₁, hK₁⟩ := hhead.mpr ha
      obtain ⟨K', h₂, hK'⟩ := (htail (hmid h₁)).mpr hl
      refine ⟨K', by rw [h₁]; exact h₂, fun k hk => ?_, hK'⟩
      rw [h.frame_tail h₂ hk]
      exact hK₁ k hk

/-- What exists is what the owners hold. -/
def Held (held : α → Set κ) (l : List α) (K : Finset κ) : Prop := ∀ k, k ∈ K ↔ ∃ a ∈ l, k ∈ held a

omit [DecidableEq κ] in
theorem OwnKeys.holds (h : OwnKeys keys calls l) (hsub : ∀ a ∈ l, held a ⊆ keys a) {K : Finset κ} (hK : Held held l K) :
    ∀ a ∈ l, Holds (keys a) (held a) K := by
  intro a ha k hk
  rw [hK k]
  constructor
  · rintro ⟨b, hb, hkb⟩
    by_cases hab : a = b
    · exact hab ▸ hkb
    · have : Std.Symm fun a b => ∀ k, k ∈ keys a → k ∉ keys b := ⟨fun a b hab k hb ha => hab k ha hb⟩
      exact absurd (hsub b hb hkb) (h.disjoint.forall ha hb hab k hk)
  · exact fun hka => ⟨a, ha, hka⟩

/-- **A step of all owners**: what exists is still what they hold exactly when
every owner's own log is in order. -/
theorem OwnKeys.held_iff (h : OwnKeys keys calls l) {ok : α → Prop} (hsub : ∀ a ∈ l, held a ⊆ keys a)
    (hsub' : ∀ a ∈ l, held' a ⊆ keys a)
    (hown : ∀ a ∈ l, ∀ K, Holds (keys a) (held a) K →
      ((∃ K', replay K (calls a) = some K' ∧ Holds (keys a) (held' a) K') ↔ ok a))
    {K : Finset κ} (hK : Held held l K) :
    (∃ K', replay K (l.flatMap calls) = some K' ∧ Held held' l K') ↔ ∀ a ∈ l, ok a := by
  rw [← h.replay_iff hown (h.holds hsub hK)]
  refine exists_congr fun K' => and_congr_right fun hr => ⟨fun hK' => h.holds hsub' hK', fun hK' k => ?_⟩
  constructor
  · intro hk
    by_contra hno
    -- a key nobody holds afterwards and nobody may touch was there before
    by_cases hkeys : ∃ a ∈ l, k ∈ keys a
    · obtain ⟨a, ha, hka⟩ := hkeys
      exact hno ⟨a, ha, (hK' a ha k hka).mp hk⟩
    · have hframe : k ∈ K' ↔ k ∈ K := replay_frame hr fun c hc heq => by
        obtain ⟨b, hb, hcb⟩ := List.mem_flatMap.mp hc
        exact hkeys ⟨b, hb, heq ▸ h.own b hb c hcb⟩
      obtain ⟨a, ha, hka⟩ := (hK k).mp (hframe.mp hk)
      exact hkeys ⟨a, ha, hsub a ha hka⟩
  · rintro ⟨a, ha, hka⟩
    exact (hK' a ha k (hsub' a ha hka)).mpr hka

end Call
end HiaeCommon.Lib
