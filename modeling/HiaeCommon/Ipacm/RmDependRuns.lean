/-
The kernel's dependencies over a run of `AddRmDepend` and `DelRmDepend`.

An entry is set up with the `rx_bypass_ipa` of that moment and taken down with
the one of a later moment; a second add of the producer may have changed it in
between. And the shared consumer is kept only while exactly one default route
is left. So the agreement survives a delete exactly when no entry it takes down
has changed its flag, and when it is not one of `Q6_CONS` with three or more
adds outstanding (`InStep`).
-/
import HiaeCommon.Ipacm.RmDepend

namespace HiaeCommon

open Lib (Call)
open Lib.Call (replay Holds Held OwnKeys)


namespace RmClient

/-- The dependencies an entry may touch. -/
def keys (e : RmClient) : Set RmDependency := {d | d = e.dep1 ∨ d = e.dep2}

/-- The dependencies an entry should have in the kernel. -/
def held (e : RmClient) : Set RmDependency :=
  {d | e.rmSet = true ∧ (d = e.dep2 ∨ e.setUpBypass = false ∧ d = e.dep1)}

theorem held_subset_keys (e : RmClient) : e.held ⊆ e.keys := by
  rintro d ⟨-, hd | ⟨-, hd⟩⟩
  · exact .inr hd
  · exact .inl hd

/-- What the table's names keep apart. -/
structure Distinct (e : RmClient) : Prop where
  ends : e.producerRm1 ≠ e.consumerRm1
  deps : e.dep1 ≠ e.dep2

/-- The kernel has the dependencies of an entry that it should have. -/
structure Agrees (K : Finset RmDependency) (e : RmClient) : Prop where
  dep1 : e.dep1 ∈ K ↔ e.rmSet = true ∧ e.setUpBypass = false
  dep2 : e.dep2 ∈ K ↔ e.rmSet = true

theorem holds_iff {e : RmClient} (hd : e.Distinct) {K : Finset RmDependency} :
    Holds e.keys e.held K ↔ Agrees K e := by
  have hne := hd.deps
  constructor
  · intro h
    refine ⟨(h e.dep1 (.inl rfl)).trans ?_, (h e.dep2 (.inr rfl)).trans ?_⟩
    · simp [held, hne]
    · simp [held]
  · intro h d hd
    rcases hd with rfl | rfl
    · rw [h.dep1]
      simp [held, hne]
    · rw [h.dep2]
      simp [held]

/-- Setting up creates what was missing. -/
theorem setUp_replay {e : RmClient} (hd : e.Distinct) {K : Finset RmDependency} (h : Agrees K e) :
    ∃ K', replay K e.setUp.2 = some K' ∧ Agrees K' e.setUp.1 := by
  have hne := hd.deps
  have h1 := h.dep1
  have h2 := h.dep2
  unfold setUp
  split_ifs with hup
  · simp only [Bool.and_eq_true, Bool.not_eq_true'] at hup
    simp only [hup.2, Bool.false_eq_true, false_and, iff_false] at h1 h2
    cases hb : e.rxBypassIpa with
    | true =>
      refine ⟨insert e.dep2 K, ?_, ⟨?_, ?_⟩⟩
      · simp [deps, hb, Call.replay_cons, Call.apply_create h2]
      · simp only [Bool.true_eq_false, and_false, iff_false]
        show e.dep1 ∉ insert e.dep2 K
        simp [hne, h1]
      · show e.dep2 ∈ insert e.dep2 K ↔ true = true
        simp
    | false =>
      have h2' : e.dep2 ∉ insert e.dep1 K := by simp [hne.symm, h2]
      refine ⟨insert e.dep2 (insert e.dep1 K), ?_, ⟨?_, ?_⟩⟩
      · simp [deps, hb, Call.replay_cons, Call.apply_create h1, Call.apply_create h2']
      · show e.dep1 ∈ insert e.dep2 (insert e.dep1 K) ↔ _
        simp
      · show e.dep2 ∈ insert e.dep2 (insert e.dep1 K) ↔ _
        simp
  · exact ⟨K, rfl, h⟩

/-- Taking down deletes what is there exactly when the flag is the one the entry was set up with. -/
theorem takeDown_replay_iff {e : RmClient} (hd : e.Distinct) {K : Finset RmDependency} (h : Agrees K e) :
    (∃ K', replay K e.takeDown.2 = some K' ∧ Agrees K' e.takeDown.1) ↔
      (e.rmSet = true → e.rxBypassIpa = e.setUpBypass) := by
  have hne := hd.deps
  have h1 := h.dep1
  have h2 := h.dep2
  have hagree : ∀ K', Agrees K' { e with rmSet := false } ↔ e.dep1 ∉ K' ∧ e.dep2 ∉ K' := by
    intro K'
    constructor
    · intro hK'
      exact ⟨fun hk => absurd (hK'.dep1.mp hk).1 (by simp), fun hk => absurd (hK'.dep2.mp hk) (by simp)⟩
    · intro hK'
      exact ⟨⟨fun hk => absurd hk hK'.1, fun hk => absurd hk.1 (by simp)⟩,
        ⟨fun hk => absurd hk hK'.2, fun hk => absurd hk (by simp)⟩⟩
  unfold takeDown
  split_ifs with hset
  · simp only [hset, true_and, forall_const, iff_true] at h1 h2 ⊢
    simp only [hagree]
    cases hb : e.rxBypassIpa with
    | true =>
      -- only the second is deleted
      have hr : replay K (e.deps.map .delete) = some (K.erase e.dep2) := by
        simp [deps, hb, Call.replay_cons, Call.apply_delete h2]
      have hkept : e.dep1 ∉ K.erase e.dep2 ↔ e.setUpBypass = true := by
        simp only [Finset.mem_erase, h1, ne_eq, hne, not_false_eq_true, true_and, Bool.not_eq_false]
      simp only [hr, Option.some.injEq, exists_eq_left', hkept, Finset.notMem_erase, not_false_eq_true, and_true]
      exact eq_comm
    | false =>
      by_cases hs : e.setUpBypass = false
      · have h1' : e.dep1 ∈ K := h1.mpr hs
        have h2' : e.dep2 ∈ K.erase e.dep1 := Finset.mem_erase.mpr ⟨hne.symm, h2⟩
        have hr : replay K (e.deps.map .delete) = some ((K.erase e.dep1).erase e.dep2) := by
          simp [deps, hb, Call.replay_cons, Call.apply_delete h1', Call.apply_delete h2']
        simp [hr, hs]
      · -- the first is deleted when absent
        have h1' : e.dep1 ∉ K := fun hk => hs (h1.mp hk)
        have hr : replay K (e.deps.map .delete) = none := by
          simp [deps, hb, Call.replay_cons, Call.apply, h1']
        simp [hr, Ne.symm hs]
  · exact iff_of_true ⟨K, rfl, h⟩ fun hs => absurd hs hset

/-! ## A call on one entry -/

/-- The names of an entry, which no call changes. -/
def names (e : RmClient) : RmDependency × RmDependency := (e.dep1, e.dep2)

@[simp] theorem names_setUp (e : RmClient) : e.setUp.1.names = e.names := by
  unfold setUp; split <;> rfl

@[simp] theorem names_takeDown (e : RmClient) : e.takeDown.1.names = e.names := by
  unfold takeDown; split <;> rfl

theorem key_setUp {e : RmClient} {c : Call RmDependency} (hc : c ∈ e.setUp.2) : c.key ∈ e.keys := by
  simp only [setUp, deps] at hc
  split_ifs at hc <;> simp at hc
  · subst hc; exact .inr rfl
  · rcases hc with rfl | rfl
    · exact .inl rfl
    · exact .inr rfl

theorem key_takeDown {e : RmClient} {c : Call RmDependency} (hc : c ∈ e.takeDown.2) : c.key ∈ e.keys := by
  simp only [takeDown, deps] at hc
  split_ifs at hc <;> simp at hc
  · subst hc; exact .inr rfl
  · rcases hc with rfl | rfl
    · exact .inl rfl
    · exact .inr rfl

/-- An entry is set up exactly while its producer and its consumer are up. -/
def Up (e : RmClient) : Prop := e.rmSet = (e.producer1Up && e.consumer1Up)

theorem up_setUp {e : RmClient} (h : e.rmSet = true → e.producer1Up = true ∧ e.consumer1Up = true) : e.setUp.1.Up := by
  cases hp : e.producer1Up <;> cases hc : e.consumer1Up <;> cases hr : e.rmSet <;> simp_all [setUp, Up]

@[simp] theorem rmSet_takeDown (e : RmClient) : e.takeDown.1.rmSet = false := by
  unfold takeDown
  split_ifs with h
  · rfl
  · simpa using h

section Call

variable {e : RmClient} (rm1 : RmResourceName)

/-- What `AddRmDepend` does is one of three things. -/
theorem addRm_cases (hd : e.Distinct) (b : Bool) :
    (rm1 = e.producerRm1 ∧ addRm rm1 b e = setUp { e with producer1Up := true, rxBypassIpa := b }) ∨
      (rm1 = e.consumerRm1 ∧ addRm rm1 b e = setUp { e with consumer1Up := true }) ∨
      (rm1 ≠ e.producerRm1 ∧ rm1 ≠ e.consumerRm1 ∧ addRm rm1 b e = (e, [])) := by
  by_cases hp : rm1 = e.producerRm1
  · left
    have hc : rm1 ≠ ({ e with producer1Up := true, rxBypassIpa := b } : RmClient).setUp.1.consumerRm1 := by
      have hsame := congrArg (fun n => n.1.2) (names_setUp { e with producer1Up := true, rxBypassIpa := b })
      simp only [names, dep1] at hsame
      rw [hsame, hp]
      exact hd.ends
    refine ⟨hp, ?_⟩
    simp only [addRm, if_pos hp, if_neg hc, List.append_nil]
  · right
    by_cases hc : rm1 = e.consumerRm1
    · left
      refine ⟨hc, ?_⟩
      simp only [addRm, if_neg hp, if_pos hc, List.nil_append]
    · right
      refine ⟨hp, hc, ?_⟩
      simp only [addRm, if_neg hp, if_neg hc, List.append_nil]

/-- The entry is not left alone by the shared-consumer check. -/
def Reached (e : RmClient) (ipaRmA2Check : BitVec 32) : Prop :=
  rm1 = e.producerRm1 ∨ rm1 = e.consumerRm1 ∧ ¬ (e.consumerRm1 = .q6Cons ∧ ipaRmA2Check = 1)

/-- What `DelRmDepend` does is one of three things. -/
theorem delRm_cases (hd : e.Distinct) (a : BitVec 32) :
    (rm1 = e.producerRm1 ∧
        delRm rm1 a e = ({ e.takeDown.1 with producer1Up := false, rxBypassIpa := false }, e.takeDown.2)) ∨
      (rm1 = e.consumerRm1 ∧ ¬ (e.consumerRm1 = .q6Cons ∧ a = 1) ∧
        delRm rm1 a e = ({ e.takeDown.1 with consumer1Up := false }, e.takeDown.2)) ∨
      (¬ Reached rm1 e a ∧ delRm rm1 a e = (e, [])) := by
  by_cases hp : rm1 = e.producerRm1
  · left
    have hc : rm1 ≠ e.takeDown.1.consumerRm1 := by
      have hsame := congrArg (fun n => n.1.2) (names_takeDown e)
      simp only [names, dep1] at hsame
      rw [hsame, hp]
      exact hd.ends
    refine ⟨hp, ?_⟩
    simp only [delRm, if_pos hp, if_neg hc]
  · right
    by_cases hc : rm1 = e.consumerRm1
    · by_cases hq : e.consumerRm1 = .q6Cons ∧ a = 1
      · right
        refine ⟨fun hr => hr.elim hp fun h => h.2 hq, ?_⟩
        simp only [delRm, if_neg hp, if_pos hc, if_pos hq]
      · left
        refine ⟨hc, hq, ?_⟩
        simp only [delRm, if_neg hp, if_pos hc, if_neg hq, List.nil_append]
    · right
      refine ⟨fun hr => hr.elim hp fun h => hc h.1, ?_⟩
      simp only [delRm, if_neg hp, if_neg hc]

variable {rm1} {K : Finset RmDependency}

theorem addRm_replay (hd : e.Distinct) (h : Agrees K e) (b : Bool) :
    ∃ K', replay K (addRm rm1 b e).2 = some K' ∧ Agrees K' (addRm rm1 b e).1 := by
  obtain ⟨-, he⟩ | ⟨-, he⟩ | ⟨-, -, he⟩ := addRm_cases rm1 hd b
  · rw [he]
    exact setUp_replay (e := { e with producer1Up := true, rxBypassIpa := b }) ⟨hd.ends, hd.deps⟩ ⟨h.dep1, h.dep2⟩
  · rw [he]
    exact setUp_replay (e := { e with consumer1Up := true }) ⟨hd.ends, hd.deps⟩ ⟨h.dep1, h.dep2⟩
  · rw [he]
    exact ⟨K, rfl, h⟩

/-- The entry is taken down by `DelRmDepend`. -/
def TakenDown (rm1 : RmResourceName) (ipaRmA2Check : BitVec 32) (e : RmClient) : Prop :=
  e.rmSet = true ∧ Reached rm1 e ipaRmA2Check

theorem delRm_replay_iff (hd : e.Distinct) (h : Agrees K e) (a : BitVec 32) :
    (∃ K', replay K (delRm rm1 a e).2 = some K' ∧ Agrees K' (delRm rm1 a e).1) ↔
      (TakenDown rm1 a e → e.rxBypassIpa = e.setUpBypass) := by
  have hdown := takeDown_replay_iff hd h
  obtain ⟨hp, he⟩ | ⟨hc, hq, he⟩ | ⟨hr, he⟩ := delRm_cases rm1 hd a
  · rw [he]
    refine Iff.trans ?_ (hdown.trans ?_)
    · exact exists_congr fun K' => and_congr_right fun _ =>
        ⟨fun hK => ⟨hK.dep1, hK.dep2⟩, fun hK => ⟨hK.dep1, hK.dep2⟩⟩
    · exact ⟨fun hb ht => hb ht.1, fun hb hset => hb ⟨hset, .inl hp⟩⟩
  · rw [he]
    refine Iff.trans ?_ (hdown.trans ?_)
    · exact exists_congr fun K' => and_congr_right fun _ =>
        ⟨fun hK => ⟨hK.dep1, hK.dep2⟩, fun hK => ⟨hK.dep1, hK.dep2⟩⟩
    · exact ⟨fun hb ht => hb ht.1, fun hb hset => hb ⟨hset, .inr ⟨hc, hq⟩⟩⟩
  · rw [he]
    exact iff_of_true ⟨K, rfl, h⟩ fun ht => absurd ht.2 hr

theorem names_addRm (hd : e.Distinct) (b : Bool) : (addRm rm1 b e).1.names = e.names := by
  obtain ⟨-, he⟩ | ⟨-, he⟩ | ⟨-, -, he⟩ := addRm_cases rm1 hd b
  · rw [he, names_setUp]; rfl
  · rw [he, names_setUp]; rfl
  · rw [he]

theorem names_delRm (hd : e.Distinct) (a : BitVec 32) : (delRm rm1 a e).1.names = e.names := by
  obtain ⟨-, he⟩ | ⟨-, -, he⟩ | ⟨-, he⟩ := delRm_cases rm1 hd a
  · rw [he]; exact names_takeDown e
  · rw [he]; exact names_takeDown e
  · rw [he]

theorem key_addRm (hd : e.Distinct) (b : Bool) {c : Call RmDependency} (hc : c ∈ (addRm rm1 b e).2) : c.key ∈ e.keys := by
  obtain ⟨-, he⟩ | ⟨-, he⟩ | ⟨-, -, he⟩ := addRm_cases rm1 hd b
  · rw [he] at hc; exact key_setUp (e := { e with producer1Up := true, rxBypassIpa := b }) hc
  · rw [he] at hc; exact key_setUp (e := { e with consumer1Up := true }) hc
  · simp [he] at hc

theorem key_delRm (hd : e.Distinct) (a : BitVec 32) {c : Call RmDependency} (hc : c ∈ (delRm rm1 a e).2) :
    c.key ∈ e.keys := by
  obtain ⟨-, he⟩ | ⟨-, -, he⟩ | ⟨-, he⟩ := delRm_cases rm1 hd a
  · rw [he] at hc; exact key_takeDown hc
  · rw [he] at hc; exact key_takeDown hc
  · simp [he] at hc

theorem up_addRm (hd : e.Distinct) (h : e.Up) (b : Bool) : (addRm rm1 b e).1.Up := by
  simp only [Up] at h
  obtain ⟨-, he⟩ | ⟨-, he⟩ | ⟨-, -, he⟩ := addRm_cases rm1 hd b
  · rw [he]
    exact up_setUp fun hset => by simp_all
  · rw [he]
    exact up_setUp fun hset => by simp_all
  · rw [he]
    exact h

theorem up_delRm (hd : e.Distinct) (h : e.Up) (a : BitVec 32) : (delRm rm1 a e).1.Up := by
  obtain ⟨-, he⟩ | ⟨-, -, he⟩ | ⟨-, he⟩ := delRm_cases rm1 hd a
  · simp [he, Up]
  · simp [he, Up]
  · rw [he]
    exact h

@[simp] theorem consumer1Up_setUp (e : RmClient) : e.setUp.1.consumer1Up = e.consumer1Up := by
  unfold setUp; split <;> rfl

@[simp] theorem consumer1Up_takeDown (e : RmClient) : e.takeDown.1.consumer1Up = e.consumer1Up := by
  unfold takeDown; split <;> rfl

theorem consumer1Up_addRm (hd : e.Distinct) (b : Bool) (h : rm1 = e.consumerRm1 ∨ e.consumer1Up = true) :
    (addRm rm1 b e).1.consumer1Up = true := by
  obtain ⟨hp, he⟩ | ⟨-, he⟩ | ⟨-, hc, he⟩ := addRm_cases rm1 hd b
  · rw [he, consumer1Up_setUp]
    exact h.resolve_left fun hc => hd.ends (hp.symm.trans hc)
  · rw [he, consumer1Up_setUp]
  · rw [he]
    exact h.resolve_left hc

theorem consumer1Up_delRm (hd : e.Distinct) (a : BitVec 32) :
    (delRm rm1 a e).1.consumer1Up = true ↔
      e.consumer1Up = true ∧ (rm1 = e.consumerRm1 → e.consumerRm1 = .q6Cons ∧ a = 1) := by
  obtain ⟨hp, he⟩ | ⟨hc, hq, he⟩ | ⟨hr, he⟩ := delRm_cases rm1 hd a
  · have hc : rm1 ≠ e.consumerRm1 := fun hc => hd.ends (hp.symm.trans hc)
    simp [he, hc]
  · rw [he]
    exact iff_of_false (by simp) fun h => hq (h.2 hc)
  · have hr' : rm1 = e.consumerRm1 → e.consumerRm1 = .q6Cons ∧ a = 1 := fun hc => by
      by_contra hq
      exact hr (.inr ⟨hc, hq⟩)
    rw [he]
    exact (and_iff_left hr').symm

end Call

end RmClient

/-- What a call adds to the count of default routes. -/
def RmCall.weight : RmCall → Int
  | .addRmDepend rm1 _ => if rm1 = .q6Cons then 1 else 0
  | .delRmDepend rm1 => if rm1 = .q6Cons then -1 else 0

/-- By how many the adds of `Q6_CONS` outnumber its deletes. -/
def outstanding (calls : List RmCall) : Int := (calls.map RmCall.weight).sum

namespace RmConfig

open RmClient

/-- **The agreement with the kernel**, after calls that leave `n` adds of
`Q6_CONS` outstanding: nothing was created twice or deleted when absent, the
dependencies that exist are those of the entries with `rm_set`, `rm_set` says
that both ends are up, and the shared consumer is up while adds are outstanding. -/
structure Sound (s : RmConfig) (n : Int) : Prop where
  kernel : ∃ K, replay ∅ s.ioctls = some K ∧ Held held s.ipaRmTbl K
  up : ∀ e ∈ s.ipaRmTbl, e.rmSet = true ↔ e.producer1Up = true ∧ e.consumer1Up = true
  shared : 0 < n → ∀ e ∈ s.ipaRmTbl, e.consumerRm1 = .q6Cons → e.consumer1Up = true

/-- The table still has the names `Init` gave it. -/
def SameNames (s : RmConfig) : Prop := s.ipaRmTbl.map names = rmTable.map names

/-- `DelRmDepend` is called in step with what was added: no entry it takes down
has another `rx_bypass_ipa` than it was set up with, and of several outstanding
default routes there are two. -/
def InStep (s : RmConfig) (n : Int) : RmCall → Prop
  | .addRmDepend _ _ => True
  | .delRmDepend rm1 =>
    (∀ e ∈ s.ipaRmTbl, TakenDown rm1 (s.ipaRmA2Check - 1) e → e.rxBypassIpa = e.setUpBypass) ∧
      (rm1 = .q6Cons → 1 < n → s.ipaRmA2Check = 2)

theorem init_sound : Sound init 0 := by
  refine ⟨⟨∅, rfl, fun d => ?_⟩, by decide, by decide⟩
  have hset : ∀ e ∈ rmTable, e.rmSet = false := by decide
  simp only [Finset.notMem_empty, false_iff, not_exists, not_and]
  intro e he hd
  have hset' := hset e he
  rw [hd.1] at hset'
  cases hset'

theorem SameNames.distinct {s : RmConfig} (h : s.SameNames) : ∀ e ∈ s.ipaRmTbl, e.Distinct := by
  have htable : ∀ n ∈ rmTable.map names, n.1.1 ≠ n.1.2 ∧ n.1 ≠ n.2 := by decide
  intro e he
  have hn := htable e.names (h ▸ List.mem_map_of_mem he)
  exact ⟨hn.1, hn.2⟩

theorem SameNames.disjoint {s : RmConfig} (h : s.SameNames) :
    s.ipaRmTbl.Pairwise fun e e' => ∀ d, d ∈ e.keys → d ∉ e'.keys := by
  have htable : (rmTable.map names).Pairwise fun m n => (m.1 ≠ n.1 ∧ m.1 ≠ n.2) ∧ m.2 ≠ n.1 ∧ m.2 ≠ n.2 := by decide
  rw [← h, List.pairwise_map] at htable
  refine htable.imp fun {e e'} hne d hd hd' => ?_
  rcases hd with rfl | rfl <;> rcases hd' with hd' | hd'
  · exact hne.1.1 hd'
  · exact hne.1.2 hd'
  · exact hne.2.1 hd'
  · exact hne.2.2 hd'

/-- A loop over the table keeps the kernel in step exactly when it is in order at every entry. -/
theorem kernel_forEach_iff {s : RmConfig} (hn : s.SameNames) {f : RmClient → RmClient × List (Call RmDependency)}
    (hnames : ∀ e ∈ s.ipaRmTbl, (f e).1.names = e.names) (hkey : ∀ e ∈ s.ipaRmTbl, ∀ c ∈ (f e).2, c.key ∈ e.keys)
    {ok : RmClient → Prop}
    (hown : ∀ e ∈ s.ipaRmTbl, ∀ K, Agrees K e → ((∃ K', replay K (f e).2 = some K' ∧ Agrees K' (f e).1) ↔ ok e))
    (hs : ∃ K, replay ∅ s.ioctls = some K ∧ Held held s.ipaRmTbl K) :
    (∃ K, replay ∅ (s.forEach f).ioctls = some K ∧ Held held (s.forEach f).ipaRmTbl K) ↔ ∀ e ∈ s.ipaRmTbl, ok e := by
  have hd := hn.distinct
  have hkeys : ∀ e ∈ s.ipaRmTbl, (f e).1.keys = e.keys := fun e he => by
    have h := hnames e he
    simp only [names, Prod.mk.injEq] at h
    simp only [keys, h.1, h.2]
  have hd' : ∀ e ∈ s.ipaRmTbl, (f e).1.Distinct := fun e he => by
    have h := hnames e he
    simp only [names, Prod.mk.injEq] at h
    exact ⟨by simpa [dep1, (Prod.mk.inj h.1).1, (Prod.mk.inj h.1).2] using (hd e he).ends, by
      rw [h.1, h.2]; exact (hd e he).deps⟩
  obtain ⟨K, hK, hheld⟩ := hs
  have hmap : ∀ K', Held held (s.forEach f).ipaRmTbl K' ↔ Held (fun e => (f e).1.held) s.ipaRmTbl K' := by
    intro K'
    simp [Held, forEach]
  have howned : OwnKeys keys (fun e => (f e).2) s.ipaRmTbl := ⟨hkey, hn.disjoint⟩
  have hsub : ∀ e ∈ s.ipaRmTbl, (f e).1.held ⊆ e.keys := fun e he => hkeys e he ▸ (f e).1.held_subset_keys
  have hown' : ∀ e ∈ s.ipaRmTbl, ∀ K, Holds e.keys e.held K →
      ((∃ K', replay K (f e).2 = some K' ∧ Holds e.keys (f e).1.held K') ↔ ok e) := by
    intro e he K hK
    rw [← hown e he K ((holds_iff (hd e he)).mp hK)]
    refine exists_congr fun K' => and_congr_right fun _ => ?_
    rw [← holds_iff (hd' e he), hkeys e he]
  rw [← howned.held_iff (fun e _ => e.held_subset_keys) hsub hown' hheld]
  refine exists_congr fun K' => and_congr ?_ (hmap K')
  rw [forEach, Call.replay_append, hK, Option.bind_some]

/-- The count matters for the shared consumer only. -/
theorem delRm_other {rm1 : RmResourceName} (h : rm1 ≠ .q6Cons) (a b : BitVec 32) : delRm rm1 a = delRm rm1 b := by
  have hite : ∀ (e : RmClient) (x y : RmClient × List (Call RmDependency)),
      (if rm1 = e.consumerRm1 then if e.consumerRm1 = .q6Cons ∧ a = 1 then x else y else x) =
        if rm1 = e.consumerRm1 then if e.consumerRm1 = .q6Cons ∧ b = 1 then x else y else x := by
    intro e x y
    by_cases hc : rm1 = e.consumerRm1
    · have hq : e.consumerRm1 ≠ .q6Cons := hc ▸ h
      simp [hq]
    · simp [hc]
  funext e
  unfold delRm
  generalize (if rm1 = e.producerRm1 then _ else _ : RmClient × List (Call RmDependency)) = p
  obtain ⟨e, l⟩ := p
  exact hite e _ _

/-- A call is a loop over the table, but for the count. -/
theorem step_addRmDepend (s : RmConfig) (rm1 : RmResourceName) (b : Bool) :
    ∃ a, s.step (.addRmDepend rm1 b) = { s.forEach (addRm rm1 b) with ipaRmA2Check := a } := by
  simp only [step, addRmDepend]
  split
  · exact ⟨_, rfl⟩
  · exact ⟨_, rfl⟩

theorem step_delRmDepend (s : RmConfig) (rm1 : RmResourceName) :
    ∃ a, s.step (.delRmDepend rm1) = { s.forEach (delRm rm1 (s.ipaRmA2Check - 1)) with ipaRmA2Check := a } := by
  simp only [step, delRmDepend]
  split
  · exact ⟨_, rfl⟩
  next h =>
    rw [delRm_other h s.ipaRmA2Check (s.ipaRmA2Check - 1)]
    exact ⟨_, rfl⟩

theorem Sound.congr {s : RmConfig} {n : Int} {a : BitVec 32} : Sound { s with ipaRmA2Check := a } n ↔ Sound s n :=
  ⟨fun h => ⟨h.kernel, h.up, h.shared⟩, fun h => ⟨h.kernel, h.up, h.shared⟩⟩

theorem sameNames_step {s : RmConfig} (hn : s.SameNames) (c : RmCall) : (s.step c).SameNames := by
  have hd := hn.distinct
  cases c with
  | addRmDepend rm1 b =>
    obtain ⟨a, ha⟩ := step_addRmDepend s rm1 b
    rw [ha, SameNames, ← hn]
    simp only [forEach, List.map_map]
    exact List.map_congr_left fun e he => names_addRm (hd e he) b
  | delRmDepend rm1 =>
    obtain ⟨a, ha⟩ := step_delRmDepend s rm1
    rw [ha, SameNames, ← hn]
    simp only [forEach, List.map_map]
    exact List.map_congr_left fun e he => names_delRm (hd e he) _

/-- An entry of the shared consumer is in the table. -/
theorem SameNames.shared {s : RmConfig} (hn : s.SameNames) : ∃ e ∈ s.ipaRmTbl, e.consumerRm1 = .q6Cons := by
  have hmem : ((.wlanProd, .q6Cons), (.q6Prod, .wlanCons)) ∈ rmTable.map names := by decide
  rw [← hn] at hmem
  obtain ⟨e, he, hq⟩ := List.mem_map.mp hmem
  simp only [names, dep1, Prod.mk.injEq] at hq
  exact ⟨e, he, hq.1.2⟩

theorem up_iff {e : RmClient} : e.Up ↔ (e.rmSet = true ↔ e.producer1Up = true ∧ e.consumer1Up = true) := by
  cases hr : e.rmSet <;> cases hp : e.producer1Up <;> cases hc : e.consumer1Up <;> simp [RmClient.Up, hr, hp, hc]

theorem Sound.addRmDepend {s : RmConfig} {n : Int} (h : Sound s n) (hn : s.SameNames) (rm1 : RmResourceName) (b : Bool) :
    Sound (s.step (.addRmDepend rm1 b)) (n + (RmCall.addRmDepend rm1 b).weight) := by
  have hd := hn.distinct
  obtain ⟨a, ha⟩ := step_addRmDepend s rm1 b
  rw [ha, Sound.congr]
  refine ⟨?_, ?_, ?_⟩
  · have hown : ∀ e ∈ s.ipaRmTbl, ∀ K, Agrees K e →
        ((∃ K', replay K (addRm rm1 b e).2 = some K' ∧ Agrees K' (addRm rm1 b e).1) ↔ True) :=
      fun e he K hK => iff_of_true (addRm_replay (hd e he) hK b) trivial
    exact (kernel_forEach_iff hn (fun e he => names_addRm (hd e he) b) (fun e he c hc => key_addRm (hd e he) b hc)
      hown h.kernel).mpr fun _ _ => trivial
  · intro e' he'
    obtain ⟨e, he, rfl⟩ := List.mem_map.mp he'
    exact up_iff.mp (up_addRm (hd e he) (up_iff.mpr (h.up e he)) b)
  · intro hpos e' he' hq
    obtain ⟨e, he, rfl⟩ := List.mem_map.mp he'
    have hnames : (addRm rm1 b e).1.names = e.names := names_addRm (hd e he) b
    simp only [names, dep1, Prod.mk.injEq] at hnames
    rw [hnames.1.2] at hq
    refine consumer1Up_addRm (hd e he) b ?_
    by_cases hrm : rm1 = .q6Cons
    · exact .inl (hrm.trans hq.symm)
    · simp only [RmCall.weight, if_neg hrm, Int.add_zero] at hpos
      exact .inr (h.shared hpos e he hq)

/-- **A delete keeps the agreement exactly when it is in step.** -/
theorem Sound.delRmDepend_iff {s : RmConfig} {n : Int} (h : Sound s n) (hn : s.SameNames) (rm1 : RmResourceName) :
    Sound (s.step (.delRmDepend rm1)) (n + (RmCall.delRmDepend rm1).weight) ↔ InStep s n (.delRmDepend rm1) := by
  have hd := hn.distinct
  obtain ⟨a, ha⟩ := step_delRmDepend s rm1
  have hnames : ∀ e ∈ s.ipaRmTbl, (delRm rm1 (s.ipaRmA2Check - 1) e).1.names = e.names := fun e he =>
    names_delRm (hd e he) _
  have hkernel := kernel_forEach_iff hn hnames
    (fun e he c hc => key_delRm (hd e he) _ hc) (fun e he K hK => delRm_replay_iff (hd e he) hK _) h.kernel
  have hq6 : ∀ e ∈ s.ipaRmTbl, (delRm rm1 (s.ipaRmA2Check - 1) e).1.consumerRm1 = e.consumerRm1 := fun e he => by
    have h := hnames e he
    simp only [names, dep1, Prod.mk.injEq] at h
    exact h.1.2
  have htwo : s.ipaRmA2Check - 1 = 1 ↔ s.ipaRmA2Check = 2 := by
    rw [sub_eq_iff_eq_add]
    rfl
  rw [ha, Sound.congr]
  constructor
  · intro h'
    refine ⟨hkernel.mp h'.kernel, fun hrm hpos => ?_⟩
    obtain ⟨e, he, hq⟩ := hn.shared
    have hup := h'.shared (by simp only [RmCall.weight, if_pos hrm]; omega) _ (List.mem_map_of_mem he)
      ((hq6 e he).trans hq)
    rw [consumer1Up_delRm (hd e he)] at hup
    exact htwo.mp (hup.2 (hrm.trans hq.symm)).2
  · intro hstep
    refine ⟨hkernel.mpr hstep.1, ?_, ?_⟩
    · intro e' he'
      obtain ⟨e, he, rfl⟩ := List.mem_map.mp he'
      exact up_iff.mp (up_delRm (hd e he) (up_iff.mpr (h.up e he)) _)
    · intro hpos e' he' hq
      obtain ⟨e, he, rfl⟩ := List.mem_map.mp he'
      rw [hq6 e he] at hq
      rw [consumer1Up_delRm (hd e he)]
      by_cases hrm : rm1 = .q6Cons
      · simp only [RmCall.weight, if_pos hrm] at hpos
        exact ⟨h.shared (by omega) e he hq, fun _ => ⟨hq, htwo.mpr (hstep.2 hrm (by omega))⟩⟩
      · simp only [RmCall.weight, if_neg hrm, Int.add_zero] at hpos
        exact ⟨h.shared hpos e he hq, fun hc => absurd (hc.trans hq) hrm⟩

/-! ## Runs -/

theorem run_concat (s : RmConfig) (calls : List RmCall) (c : RmCall) : s.run (calls ++ [c]) = (s.run calls).step c := by
  simp [run]

theorem outstanding_concat (calls : List RmCall) (c : RmCall) : outstanding (calls ++ [c]) = outstanding calls + c.weight := by
  simp [outstanding]

theorem sameNames_run (calls : List RmCall) : (init.run calls).SameNames := by
  induction calls using List.reverseRecOn with
  | nil => rfl
  | append_singleton calls c ih =>
    rw [run_concat]
    exact sameNames_step ih c

/-- The count is the number of outstanding adds, as an `int` keeps it. -/
theorem ipaRmA2Check_run (calls : List RmCall) : (init.run calls).ipaRmA2Check = BitVec.ofInt 32 (outstanding calls) := by
  induction calls using List.reverseRecOn with
  | nil => rfl
  | append_singleton calls c ih =>
    rw [run_concat, outstanding_concat, BitVec.ofInt_add, ← ih]
    cases c with
    | addRmDepend rm1 b =>
      simp only [step, addRmDepend, RmCall.weight]
      split <;> simp [forEach]
    | delRmDepend rm1 =>
      simp only [step, delRmDepend, RmCall.weight]
      split
      · simp [forEach, sub_eq_add_neg]
      · simp [forEach]

/-- **The kernel's dependencies over a run**: the agreement holds after every
call exactly when every delete is in step with what was added. -/
theorem rm_depend_run (calls : List RmCall) :
    (∀ before after, calls = before ++ after → Sound (init.run before) (outstanding before)) ↔
      ∀ before c after, calls = before ++ c :: after → InStep (init.run before) (outstanding before) c := by
  constructor
  · intro h before c after hcalls
    have hs := h before (c :: after) hcalls
    have ht := h (before ++ [c]) after (by simpa using hcalls)
    rw [run_concat, outstanding_concat] at ht
    cases c with
    | addRmDepend rm1 b => trivial
    | delRmDepend rm1 => exact (hs.delRmDepend_iff (sameNames_run before) rm1).mp ht
  · intro h before
    induction before using List.reverseRecOn with
    | nil => exact fun _ _ => init_sound
    | append_singleton before c ih =>
      intro after hcalls
      have hs := ih (c :: after) (by simpa using hcalls)
      have hc := h before c after (by simpa using hcalls)
      rw [run_concat, outstanding_concat]
      cases c with
      | addRmDepend rm1 b => exact hs.addRmDepend (sameNames_run before) rm1 b
      | delRmDepend rm1 => exact (hs.delRmDepend_iff (sameNames_run before) rm1).mpr hc

/-- WLAN is set up with its rx property, brought up again without, and taken
down: the first dependency of its entry stays in the kernel. -/
def bypassedCalls : List RmCall :=
  [.addRmDepend .wlanProd false, .addRmDepend .q6Cons false, .addRmDepend .wlanProd true, .delRmDepend .wlanProd]

/-- Three default routes, of which one goes: the shared consumer is marked down. -/
def thirdRouteCalls : List RmCall :=
  [.addRmDepend .q6Cons false, .addRmDepend .q6Cons false, .addRmDepend .q6Cons false, .delRmDepend .q6Cons]

theorem rm_depend_out_of_step :
    ¬ Sound (init.run bypassedCalls) (outstanding bypassedCalls) ∧
      ¬ Sound (init.run thirdRouteCalls) (outstanding thirdRouteCalls) := by
  constructor
  · rintro ⟨⟨K, hK, hheld⟩, -, -⟩
    have hreplay : replay ∅ (init.run bypassedCalls).ioctls = some {(.wlanProd, .q6Cons)} := by decide +kernel
    obtain rfl := Option.some.inj (hK.symm.trans hreplay)
    obtain ⟨e, he, hd⟩ := (hheld (.wlanProd, .q6Cons)).mp (Finset.mem_singleton_self _)
    have hnone : ∀ e ∈ (init.run bypassedCalls).ipaRmTbl, e.rmSet = false := by decide +kernel
    exact absurd hd.1 (by simp [hnone e he])
  · rintro ⟨-, -, hshared⟩
    have hup : ∀ e ∈ (init.run thirdRouteCalls).ipaRmTbl, e.consumerRm1 = .q6Cons → e.consumer1Up = true :=
      hshared (by decide)
    exact absurd hup (by decide +kernel)

end RmConfig
end HiaeCommon
