/-
What the deletions of a client's rules and headers do to the driver, whichever
of the calls fail: `deleteRoutingHdl` reports success in any case, so the flags
go and the handles whose deletion failed stay behind.
-/
import HiaeCommon.Ipacm.ClientTable

namespace HiaeCommon

open Lib (Ledger untilFailure untilFailure_flatMap)

variable {D : IpaDriver}

namespace Outside

theorem deleteRoutingHdl_fst (h : Nat) (o : Outside) : (o.deleteRoutingHdl D h).1 = true := by
  unfold deleteRoutingHdl
  split <;> rfl

/-- Routing rules, one after the other. -/
def deleteRoutingHdls (D : IpaDriver) (hs : List Nat) (o : Outside) : Outside :=
  hs.foldl (fun o h => (o.deleteRoutingHdl D h).2) o

theorem deleteRoutingHdls_cons (h : Nat) (hs : List Nat) (o : Outside) :
    o.deleteRoutingHdls D (h :: hs) = (o.deleteRoutingHdl D h).2.deleteRoutingHdls D hs := rfl

theorem untilFailure_deleteRoutingHdl (hs : List Nat) (o : Outside) :
    untilFailure (Outside.deleteRoutingHdl D) hs o = (true, o.deleteRoutingHdls D hs) := by
  induction hs generalizing o with
  | nil => rfl
  | cons h hs ih =>
    rw [untilFailure, if_pos (deleteRoutingHdl_fst h o), ih]
    rfl

/-- A deletion that is called for and its outcome. -/
theorem deleteRoutingHdl_keeps {h : Nat} {s : Multiset Nat} {o : Outside} (hk : o.rt.Keeps ({h} + s)) (h0 : h ≠ 0) :
    (if D.fails o.calls then (o.deleteRoutingHdl D h).2.rt.Keeps ({h} + s) else (o.deleteRoutingHdl D h).2.rt.Keeps s) ∧
      (o.deleteRoutingHdl D h).2.hdr = o.hdr ∧ (o.deleteRoutingHdl D h).2.calls = o.calls + 1 := by
  rw [deleteRoutingHdl, if_neg h0, call]
  cases D.fails o.calls with
  | true => exact ⟨hk, rfl, rfl⟩
  | false => exact ⟨hk.del, rfl, rfl⟩

/-- **Of a series of deletions, the handles whose call failed are left**, and those only. -/
theorem deleteRoutingHdls_keeps {hs : List Nat} (h0 : 0 ∉ hs) {s : Multiset Nat} {o : Outside} (hk : o.rt.Keeps (hs + s)) :
    ∃ left : Multiset Nat, left ≤ hs ∧ (o.deleteRoutingHdls D hs).rt.Keeps (left + s) ∧
      (o.deleteRoutingHdls D hs).hdr = o.hdr ∧ (o.deleteRoutingHdls D hs).calls = o.calls + hs.length ∧
      (left = 0 ↔ ∀ k < hs.length, D.fails (o.calls + k) = false) := by
  induction hs generalizing s o with
  | nil => exact ⟨0, le_refl _, hk, rfl, rfl, fun _ k hk => absurd hk (Nat.not_lt_zero _), fun _ => rfl⟩
  | cons h hs ih =>
    rw [List.mem_cons, not_or] at h0
    rw [← Multiset.cons_coe, ← Multiset.singleton_add, add_assoc] at hk
    obtain ⟨h1, h2, h3⟩ := deleteRoutingHdl_keeps (D := D) hk (Ne.symm h0.1)
    rw [deleteRoutingHdls_cons]
    by_cases hf : D.fails o.calls = true
    · rw [if_pos hf, add_left_comm] at h1
      obtain ⟨left, h4, h5, h6, h7, -⟩ := ih h0.2 h1
      refine ⟨{h} + left, ?_, h5.of_eq (by rw [add_left_comm, add_assoc]), h6.trans h2, ?_, ?_⟩
      · rw [← Multiset.cons_coe, ← Multiset.singleton_add]
        exact (add_le_add_iff_left {h}).2 h4
      · rw [h7, h3, List.length_cons]
        omega
      · simp only [Multiset.singleton_add, Multiset.cons_ne_zero, false_iff]
        intro hall
        have := hall 0 (by simp)
        rw [Nat.add_zero, hf] at this
        cases this
    · rw [if_neg hf] at h1
      obtain ⟨left, h4, h5, h6, h7, h8⟩ := ih h0.2 h1
      refine ⟨left, le_trans h4 (Multiset.coe_le.2 (List.sublist_cons_self h hs).subperm), h5, h6.trans h2, ?_,
        h8.trans ⟨fun hall k hk => ?_, fun hall k hk => ?_⟩⟩
      · rw [h7, h3, List.length_cons]
        omega
      · cases k with
        | zero => simpa using hf
        | succ k =>
          have := hall k (by simpa using hk)
          rwa [h3, Nat.add_assoc, Nat.add_comm 1] at this
      · rw [h3, Nat.add_assoc, Nat.add_comm 1]
        exact hall (k + 1) (by simpa using hk)

/-- A header's deletion and its outcome. -/
theorem deleteHeaderHdl_keeps {h : Nat} {u : Multiset Nat} {o : Outside} (hk : o.hdr.Keeps ({h} + u)) (h0 : h ≠ 0) :
    (o.deleteHeaderHdl D h).2.rt = o.rt ∧
      if D.fails o.calls then (o.deleteHeaderHdl D h).1 = false ∧ (o.deleteHeaderHdl D h).2.hdr.Keeps ({h} + u)
      else (o.deleteHeaderHdl D h).1 = true ∧ (o.deleteHeaderHdl D h).2.hdr.Keeps u := by
  rw [deleteHeaderHdl, if_neg h0, call]
  cases D.fails o.calls with
  | true => exact ⟨rfl, rfl, hk⟩
  | false => exact ⟨rfl, rfl, hk.del⟩

end Outside

namespace Client

variable {σ : Type} {tx : List TxProp}

/-- The record once its rules are gone, as far as the code sees. -/
def routesOff (c : Client σ) : Client σ := { c with routeRuleSetV4 := false, routeRuleSetV6 := 0 }

theorem deleteRtRules_v4 (c : Client σ) (o : Outside) :
    deleteRtRules D tx .v4 (c, o) = (true, { c with routeRuleSetV4 := false }, o.deleteRoutingHdls D (c.rtHdlsV4 tx)) := by
  have hloop := fun f => untilFailure_flatMap (g := Outside.deleteRoutingHdl D) (f := f) (l := tx.zipIdx)
    (e := fun p => if p.1.ip = .v4 ∧ c.routeRuleSetV4 = true then [(c.rtHdl p.2).rtRuleHdlV4] else [])
  simp only [deleteRtRules]
  rw [hloop _ (fun p _ o => ?_), ← rtHdlsV4, Outside.untilFailure_deleteRoutingHdl]
  · rfl
  · split
    · rw [untilFailure, if_pos (Outside.deleteRoutingHdl_fst _ _), untilFailure, ← Outside.deleteRoutingHdl_fst (D := D) _ o]
    · rfl

theorem deleteRtRules_v6 (c : Client σ) (o : Outside) :
    deleteRtRules D tx .v6 (c, o) = (true, { c with routeRuleSetV6 := 0 }, o.deleteRoutingHdls D (c.rtHdlsV6 tx)) := by
  have hloop := fun f => untilFailure_flatMap (g := Outside.deleteRoutingHdl D) (f := f) (l := tx.zipIdx)
    (e := fun p => if p.1.ip = .v6 ∧ c.routeRuleSetV6 ≠ 0 then
      (List.range c.routeRuleSetV6).flatMap fun n => [(c.rtHdl p.2).rtRuleHdlV6 n, (c.rtHdl p.2).rtRuleHdlV6Wan n] else [])
  simp only [deleteRtRules]
  rw [hloop _ (fun p _ o => ?_), ← rtHdlsV6, Outside.untilFailure_deleteRoutingHdl]
  · rfl
  · split
    · refine untilFailure_flatMap (fun n _ o => ?_) o
      rw [untilFailure, if_pos (Outside.deleteRoutingHdl_fst _ _), if_pos (Outside.deleteRoutingHdl_fst _ _), untilFailure,
        if_pos (Outside.deleteRoutingHdl_fst _ _), untilFailure,
        ← Outside.deleteRoutingHdl_fst (D := D) _ (o.deleteRoutingHdl D ((c.rtHdl p.2).rtRuleHdlV6 n)).2]
    · rfl

/-- The rules are done with, whatever the driver answered; the headers decide the outcome. -/
theorem clean_eq (c : Client σ) (o : Outside) :
    c.clean D tx o = untilFailure (fun f s => f s) [deleteHeaderV4 D, deleteHeaderV6 D]
      (c.routesOff, o.deleteRoutingHdls D (c.rtHdls tx)) := by
  rw [clean, untilFailure, deleteRtRules_v4, if_pos rfl, untilFailure, deleteRtRules_v6, if_pos rfl, rtHdls,
    Outside.deleteRoutingHdls, Outside.deleteRoutingHdls, Outside.deleteRoutingHdls, List.foldl_append]
  rfl

@[simp] theorem rtHdls_routesOff (c : Client σ) : c.routesOff.rtHdls tx = [] := by
  simp [rtHdls, rtHdlsV4, rtHdlsV6, routesOff]

/-- One header's deletion: it is gone from the driver and from the record, or from neither. -/
structure HeaderStep (D : IpaDriver) (u : Multiset Nat) (cleared c : Client σ) (o : Outside) (r : Bool × Client σ × Outside) :
    Prop where
  rt : r.2.2.rt = o.rt
  keeps : r.2.2.hdr.Keeps (r.2.1.hdrHdls + u)
  res : r.1 = true ∧ r.2.1 = cleared ∨ r.1 = false ∧ r.2.1 = c ∧ ∃ n, D.fails n = true

theorem deleteHeader_step {set : Bool} {h : Nat} {cleared c : Client σ} {o : Outside} {u : Multiset Nat}
    (hset : set = true → (c.hdrHdls : Multiset Nat) = {h} + cleared.hdrHdls) (hoff : set = false → cleared = c)
    (hk : o.hdr.Keeps (c.hdrHdls + u)) (h0 : 0 ∉ c.hdrHdls) : HeaderStep D u cleared c o (deleteHeader D set h cleared c o) := by
  cases set with
  | false => exact ⟨rfl, hk, .inl ⟨rfl, (hoff rfl).symm⟩⟩
  | true =>
    have hs := hset rfl
    have hne : h ≠ 0 := fun he => h0 (by rw [← Multiset.mem_coe, hs, he]; simp)
    obtain ⟨h1, h2⟩ := Outside.deleteHeaderHdl_keeps (D := D) (hk.of_eq (by rw [hs, add_assoc])) hne
    simp only [deleteHeader, if_true]
    cases hf : D.fails o.calls with
    | true =>
      rw [hf, if_pos rfl] at h2
      rw [h2.1, if_neg Bool.false_ne_true]
      exact ⟨h1, h2.2.of_eq (by rw [hs, add_assoc]), .inr ⟨rfl, rfl, _, hf⟩⟩
    | false =>
      rw [hf, if_neg Bool.false_ne_true] at h2
      rw [h2.1, if_pos rfl]
      exact ⟨h1, h2.2, .inl ⟨rfl, rfl⟩⟩

/-- The record with some of its header flags cleared. -/
def headersSet (v4 v6 : Bool) (c : Client σ) : Client σ := { c with ipv4HeaderSet := v4, ipv6HeaderSet := v6 }

theorem deleteHeaderV4_step {c : Client σ} {o : Outside} {u : Multiset Nat} (hk : o.hdr.Keeps (c.hdrHdls + u)) (h0 : 0 ∉ c.hdrHdls) :
    HeaderStep D u (c.headersSet false c.ipv6HeaderSet) c o (deleteHeaderV4 D (c, o)) :=
  deleteHeader_step (fun hs => by rw [hdrHdls, if_pos hs, List.singleton_append, ← Multiset.cons_coe]; rfl)
    (fun hs => by rw [headersSet, ← hs]) hk h0

theorem deleteHeaderV6_step {c : Client σ} {o : Outside} {u : Multiset Nat} (hk : o.hdr.Keeps (c.hdrHdls + u)) (h0 : 0 ∉ c.hdrHdls) :
    HeaderStep D u (c.headersSet c.ipv4HeaderSet false) c o (deleteHeaderV6 D (c, o)) :=
  deleteHeader_step
    (fun hs => by
      rw [hdrHdls, if_pos hs, ← Multiset.coe_add, Multiset.coe_singleton, add_comm]
      exact congrArg (fun l : List Nat => {c.hdrHdlV6} + (l : Multiset Nat)) (List.append_nil _).symm)
    (fun hs => by rw [headersSet, ← hs]) hk h0

/-- What is left of the headers after the deletions. -/
structure HeadersLeft (D : IpaDriver) (u : Multiset Nat) (c : Client σ) (o : Outside) (r : Bool × Client σ × Outside) : Prop where
  rt : r.2.2.rt = o.rt
  keeps : r.2.2.hdr.Keeps (r.2.1.hdrHdls + u)
  res : r.1 = true ∧ r.2.1 = c.headersSet false false ∨
    r.1 = false ∧ (∃ v4, (v4 = true → c.ipv4HeaderSet = true) ∧ r.2.1 = c.headersSet v4 c.ipv6HeaderSet) ∧ ∃ n, D.fails n = true

theorem deleteHeaders_left {c : Client σ} {o : Outside} {u : Multiset Nat} (hk : o.hdr.Keeps (c.hdrHdls + u)) (h0 : 0 ∉ c.hdrHdls) :
    HeadersLeft D u c o (untilFailure (fun f s => f s) [deleteHeaderV4 D, deleteHeaderV6 D] (c, o)) := by
  obtain ⟨hrt, hkeep, hres⟩ := deleteHeaderV4_step (D := D) hk h0
  rcases hr : deleteHeaderV4 D (c, o) with ⟨ok, c₁, o₁⟩
  rw [hr] at hrt hkeep hres
  rw [untilFailure, hr]
  cases hres with
  | inr hres =>
    obtain ⟨rfl, rfl, hf⟩ := hres
    exact ⟨hrt, hkeep, .inr ⟨rfl, ⟨_, id, rfl⟩, hf⟩⟩
  | inl hres =>
    obtain ⟨rfl, rfl⟩ := hres
    have h0' : 0 ∉ (c.headersSet false c.ipv6HeaderSet).hdrHdls := by
      intro hm
      simp only [headersSet, hdrHdls, Bool.false_eq_true, if_false, List.nil_append] at hm
      exact h0 (List.mem_append_right _ hm)
    obtain ⟨hrt2, hkeep2, hres2⟩ := deleteHeaderV6_step (D := D) hkeep h0'
    rcases hr2 : deleteHeaderV6 D (c.headersSet false c.ipv6HeaderSet, o₁) with ⟨ok, c₂, o₂⟩
    rw [hr2] at hrt2 hkeep2 hres2
    rw [if_pos rfl, untilFailure, hr2]
    cases hres2 with
    | inr hres =>
      obtain ⟨rfl, rfl, hf⟩ := hres
      exact ⟨hrt2.trans hrt, hkeep2, .inr ⟨rfl, ⟨false, fun h => absurd h Bool.false_ne_true, rfl⟩, hf⟩⟩
    | inl hres =>
      obtain ⟨rfl, rfl⟩ := hres
      exact ⟨hrt2.trans hrt, hkeep2, .inl ⟨rfl, rfl⟩⟩

end Client
end HiaeCommon
