/-
The records of clients while every driver call succeeds: what each operation
does to one record, to a table of them, and to what the driver holds for them.
`Held c s u` says that the driver holds what `c` lists, and beside it `s` and `u`.
-/
import HiaeCommon.Ipacm.ClientDown
import Mathlib.Data.List.Sigma
import Mathlib.Tactic.Abel

namespace HiaeCommon

open Lib (Ledger untilFailure)

variable {σ : Type} {D : IpaDriver} {tx : List TxProp}

/-- Exactly `s` and `u` are in the driver, and no deletion missed. -/
structure Outside.Keeps (o : Outside) (s u : Multiset Nat) : Prop where
  rt : o.rt.Keeps s
  hdr : o.hdr.Keeps u
  rt_ne_zero : 0 ∉ s
  hdr_ne_zero : 0 ∉ u

namespace Outside

variable {o : Outside} {s u : Multiset Nat}

theorem Keeps.of_eq {s' u' : Multiset Nat} (h : o.Keeps s u) (hs : s = s') (hu : u = u') : o.Keeps s' u' := hs ▸ hu ▸ h

theorem Keeps.tell (h : o.Keeps s u) (e : ListenerEvt) : (o.tell e).Keeps s u := ⟨h.rt, h.hdr, h.rt_ne_zero, h.hdr_ne_zero⟩

theorem Keeps.tell_if (h : o.Keeps s u) (p : Prop) [Decidable p] (e : ListenerEvt) : (if p then o.tell e else o).Keeps s u := by
  split
  · exact h.tell e
  · exact h

/-- Every call succeeds. -/
def AllSucceed (D : IpaDriver) : Prop := ∀ n, D.fails n = false

theorem call_succeeds (hD : AllSucceed D) {α : Type} (act : Outside → α × Outside) (o : Outside) :
    o.call D act = (some (act { o with calls := o.calls + 1 }).1, (act { o with calls := o.calls + 1 }).2) := by
  rw [call, hD o.calls, if_neg Bool.false_ne_true]

theorem addRoutingRule_keeps (hD : AllSucceed D) (h : o.Keeps s u) (r : RtRule) :
    ∃ k o', o.addRoutingRule D r = (some k, o') ∧ o'.Keeps ({k} + s) u := by
  refine ⟨_, _, call_succeeds hD _ o, h.rt.add r, h.hdr, ?_, h.hdr_ne_zero⟩
  rw [Multiset.mem_add, Multiset.mem_singleton, not_or]
  exact ⟨Ne.symm (D.ne_zero _), h.rt_ne_zero⟩

theorem addHeader_keeps (hD : AllSucceed D) (h : o.Keeps s u) (r : HdrEntry) :
    ∃ k o', o.addHeader D r = (some k, o') ∧ o'.Keeps s ({k} + u) := by
  refine ⟨_, _, call_succeeds hD _ o, h.rt, h.hdr.add r, h.rt_ne_zero, ?_⟩
  rw [Multiset.mem_add, Multiset.mem_singleton, not_or]
  exact ⟨Ne.symm (D.ne_zero _), h.hdr_ne_zero⟩

theorem copyHeader_keeps (hD : AllSucceed D) (h : o.Keeps s u) : ∃ o', o.copyHeader D = (some (), o') ∧ o'.Keeps s u :=
  ⟨_, call_succeeds hD _ o, h.rt, h.hdr, h.rt_ne_zero, h.hdr_ne_zero⟩

theorem Keeps.deleteRoutingHdls (hD : AllSucceed D) {hs : List Nat} (h : o.Keeps (hs + s) u) :
    (o.deleteRoutingHdls D hs).Keeps s u := by
  have h0 := h.rt_ne_zero
  rw [Multiset.mem_add, not_or] at h0
  obtain ⟨left, -, h1, h2, -, h3⟩ := deleteRoutingHdls_keeps (D := D) h0.1 h.rt
  have hl := h3.2 fun k _ => hD _
  exact ⟨h1.of_eq (by rw [hl, zero_add]), h2 ▸ h.hdr, h0.2, h.hdr_ne_zero⟩

theorem Keeps.deleteHeaderHdl (hD : AllSucceed D) {k : Nat} (h : o.Keeps s ({k} + u)) : (o.deleteHeaderHdl D k).2.Keeps s u := by
  have h0 := h.hdr_ne_zero
  rw [Multiset.mem_add, Multiset.mem_singleton, not_or] at h0
  obtain ⟨h1, h2⟩ := deleteHeaderHdl_keeps (D := D) h.hdr (Ne.symm h0.1)
  rw [hD, if_neg Bool.false_ne_true] at h2
  exact ⟨h1 ▸ h.rt, h2.2, h.rt_ne_zero, h0.2⟩

end Outside

open Outside (AllSucceed)

namespace Client

/-- The driver holds what the record lists, and beside it `s` and `u`. -/
def Held (tx : List TxProp) (c : Client σ) (s u : Multiset Nat) (o : Outside) : Prop := o.Keeps (c.rtHdls tx + s) (c.hdrHdls + u)

variable {c : Client σ} {s u : Multiset Nat} {o : Outside}

theorem rtHdls_v4Off (c : Client σ) : ({ c with routeRuleSetV4 := false } : Client σ).rtHdls tx = c.rtHdlsV6 tx := by
  have : ({ c with routeRuleSetV4 := false } : Client σ).rtHdlsV4 tx = [] := by simp [rtHdlsV4]
  rw [rtHdls, this]
  rfl

theorem rtHdls_v6Off (c : Client σ) : ({ c with routeRuleSetV6 := 0 } : Client σ).rtHdls tx = c.rtHdlsV4 tx := by
  have : ({ c with routeRuleSetV6 := 0 } : Client σ).rtHdlsV6 tx = [] := by simp [rtHdlsV6]
  rw [rtHdls, this, List.append_nil]
  rfl

theorem Held.deleteRtRules_v4 (hD : AllSucceed D) (h : Held tx c s u o) :
    Held tx { c with routeRuleSetV4 := false } s u (o.deleteRoutingHdls D (c.rtHdlsV4 tx)) := by
  unfold Held at h ⊢
  rw [rtHdls_v4Off]
  rw [rtHdls, ← Multiset.coe_add, add_assoc] at h
  exact h.deleteRoutingHdls hD

theorem Held.deleteRtRules_v6 (hD : AllSucceed D) (h : Held tx c s u o) :
    Held tx { c with routeRuleSetV6 := 0 } s u (o.deleteRoutingHdls D (c.rtHdlsV6 tx)) := by
  unfold Held at h ⊢
  rw [rtHdls_v6Off]
  rw [rtHdls, ← Multiset.coe_add, add_comm (c.rtHdlsV4 tx : Multiset Nat), add_assoc] at h
  exact h.deleteRoutingHdls hD

/-- The deletions of a client that goes. -/
theorem Held.clean (hD : AllSucceed D) (h : Held tx c s u o) :
    (c.clean D tx o).1 = true ∧ (c.clean D tx o).2.1 = c.routesOff.headersSet false false ∧ (c.clean D tx o).2.2.Keeps s u := by
  have h0 := h.rt_ne_zero
  have h0' := h.hdr_ne_zero
  rw [Multiset.mem_add, not_or] at h0 h0'
  obtain ⟨left, -, h1, h2, h3, h4⟩ := clean_left (D := D) h.rt h.hdr h0.1 h0'.1
  rw [h2.2 fun k _ => hD _, zero_add] at h1
  cases h4 with
  | inl h4 =>
    rw [h4.2] at h3
    exact ⟨h4.1, h4.2, h1, h3.of_eq (zero_add u), h0.2, h0'.2⟩
  | inr h4 =>
    obtain ⟨-, -, n, hn⟩ := h4
    rw [hD n] at hn
    cases hn

end Client

/-! ## Rules added -/

/-- **The rule of a loop that installs**: each step installs what its key then reads, and leaves what the
other keys read. -/
theorem install_keeps {κ C : Type} (u : Multiset Nat) (keys : List κ) (reads : κ → C → Multiset Nat) (P : C → Prop)
    (f : κ → C × Outside → Bool × C × Outside)
    (hstep : ∀ k ∈ keys, ∀ c o s, P c → o.Keeps s u → (f k (c, o)).1 = true ∧ P (f k (c, o)).2.1 ∧
      (f k (c, o)).2.2.Keeps (reads k (f k (c, o)).2.1 + s) u ∧ ∀ k' ∈ keys, k' ≠ k → reads k' (f k (c, o)).2.1 = reads k' c)
    {l : List κ} (hl : l.Nodup) (hsub : ∀ k ∈ l, k ∈ keys) :
    ∀ {c : C} {o : Outside} {s : Multiset Nat}, P c → o.Keeps s u → (untilFailure f l (c, o)).1 = true ∧
      P (untilFailure f l (c, o)).2.1 ∧
      (untilFailure f l (c, o)).2.2.Keeps ((l.map fun k => reads k (untilFailure f l (c, o)).2.1).sum + s) u ∧
      ∀ k' ∈ keys, k' ∉ l → reads k' (untilFailure f l (c, o)).2.1 = reads k' c := by
  induction l with
  | nil =>
    intro c o s hP h
    exact ⟨rfl, hP, h.of_eq (by simp [untilFailure]) rfl, fun _ _ _ => rfl⟩
  | cons k l ih =>
    intro c o s hP h
    obtain ⟨hk, hl⟩ := List.nodup_cons.1 hl
    obtain ⟨h1, h2, h3, h4⟩ := hstep k (hsub k (by simp)) c o s hP h
    obtain ⟨g1, g2, g3, g4⟩ := ih hl (fun k' hk' => hsub k' (by simp [hk'])) h2 h3
    rw [untilFailure, if_pos h1]
    refine ⟨g1, g2, g3.of_eq ?_ rfl, fun k' hk' hn => ?_⟩
    · rw [List.map_cons, List.sum_cons, g4 k (hsub k (by simp)) hk, add_left_comm, add_assoc]
    · rw [List.mem_cons, not_or] at hn
      rw [g4 k' hk' hn.2, h4 k' hk' hn.1]

theorem zipIdx_snd_inj {α : Type} {l : List α} {p q : α × Nat} (hp : p ∈ l.zipIdx) (hq : q ∈ l.zipIdx) (h : p.2 = q.2) : p = q := by
  have hp' := List.mem_zipIdx_iff_getElem?.1 hp
  have hq' := List.mem_zipIdx_iff_getElem?.1 hq
  rw [h, hq'] at hp'
  exact Prod.ext (Option.some.inj hp').symm h

theorem coe_flatMap {α : Type} (l : List α) (f : α → List Nat) :
    (l.flatMap f : Multiset Nat) = (l.map fun a => (f a : Multiset Nat)).sum := by
  induction l with
  | nil => rfl
  | cons a l ih => rw [List.flatMap_cons, ← Multiset.coe_add, ih, List.map_cons, List.sum_cons]

namespace Client

/-- The handles of a tx property for the IPv4 address, and for an IPv6 address. -/
def readV4 (p : TxProp × Nat) (c : Client σ) : Multiset Nat := if p.1.ip = .v4 then {(c.rtHdl p.2).rtRuleHdlV4} else 0

def readV6 (k : (TxProp × Nat) × Nat) (c : Client σ) : Multiset Nat :=
  {(c.rtHdl k.1.2).rtRuleHdlV6 k.2} + {(c.rtHdl k.1.2).rtRuleHdlV6Wan k.2}

theorem coe_rtHdlsV4 (c : Client σ) : (c.rtHdlsV4 tx : Multiset Nat) =
    if c.routeRuleSetV4 then (tx.zipIdx.map fun p => readV4 p c).sum else 0 := by
  rw [rtHdlsV4, coe_flatMap]
  cases c.routeRuleSetV4 with
  | true =>
    refine congrArg List.sum (List.map_congr_left fun p _ => ?_)
    simp only [readV4, and_true]
    split <;> rfl
  | false => simp

theorem coe_rtHdlsV6 (c : Client σ) : (c.rtHdlsV6 tx : Multiset Nat) = (tx.zipIdx.map fun p =>
    if p.1.ip = .v6 then ((List.range c.routeRuleSetV6).map fun n => readV6 (p, n) c).sum else 0).sum := by
  rw [rtHdlsV6, coe_flatMap]
  refine congrArg List.sum (List.map_congr_left fun p _ => ?_)
  by_cases h6 : p.1.ip = .v6
  · by_cases h0 : c.routeRuleSetV6 = 0
    · simp [h0]
    · rw [if_pos ⟨h6, h0⟩, if_pos h6, coe_flatMap]
      rfl
  · rw [if_neg fun h => h6 h.1, if_neg h6]
    rfl

variable {R : ClientRules} {c : Client σ} {s u : Multiset Nat} {o : Outside}

/-- The loop over the tx properties adds the rules of the IPv4 address. -/
theorem addRulesV4_keeps (hD : AllSucceed D) (R : ClientRules) (tx : List TxProp) (c₀ : Client σ) (h : o.Keeps s u) :
    ∃ r o', untilFailure (fun p s => if p.1.ip = .v4 then addRuleV4 D R p.1 p.2 s else (true, s)) tx.zipIdx (c₀, o) =
        (true, { c₀ with rtHdl := r }, o') ∧
      (∀ i, (r i).rtRuleHdlV6 = (c₀.rtHdl i).rtRuleHdlV6 ∧ (r i).rtRuleHdlV6Wan = (c₀.rtHdl i).rtRuleHdlV6Wan) ∧
      o'.Keeps ((tx.zipIdx.map fun p => readV4 p { c₀ with rtHdl := r }).sum + s) u := by
  have hloop := install_keeps u tx.zipIdx readV4
    (fun c : Client σ => ∃ r, c = { c₀ with rtHdl := r } ∧
      ∀ i, (r i).rtRuleHdlV6 = (c₀.rtHdl i).rtRuleHdlV6 ∧ (r i).rtRuleHdlV6Wan = (c₀.rtHdl i).rtRuleHdlV6Wan)
    (fun p s => if p.1.ip = .v4 then addRuleV4 D R p.1 p.2 s else (true, s)) (fun p hp c o s hP hk => ?_)
    (List.nodup_zipIdx_map_snd tx).of_map (fun p hp => hp) (c := c₀) (o := o) (s := s) ⟨c₀.rtHdl, rfl, fun _ => ⟨rfl, rfl⟩⟩ h
  · obtain ⟨h1, ⟨r, h2, h3⟩, h4, -⟩ := hloop
    rcases hr : untilFailure (fun p s => if p.1.ip = .v4 then addRuleV4 D R p.1 p.2 s else (true, s)) tx.zipIdx (c₀, o)
      with ⟨ok, c, o'⟩
    rw [hr] at h1 h2 h4
    cases h1
    cases h2
    exact ⟨r, o', hr, h3, h4⟩
  · obtain ⟨r, rfl, hr⟩ := hP
    by_cases h4 : p.1.ip = .v4
    · obtain ⟨k, o', hadd, hk'⟩ := Outside.addRoutingRule_keeps hD hk
        (R.v4 p.1 p.2 c₀.hdrHdlV4 c₀.v4Addr)
      simp only [if_pos h4, addRuleV4, hadd]
      refine ⟨trivial, ⟨_, rfl, fun i => ?_⟩, ?_, fun q hq hne => ?_⟩
      · dsimp only [setRtHdl]
        split
        · exact hr i
        · exact hr i
      · simpa only [readV4, if_pos h4, setRtHdl, if_true] using hk'
      · have : q.2 ≠ p.2 := fun heq => hne (zipIdx_snd_inj hq hp heq)
        simp only [readV4, setRtHdl, if_neg this]
    · simp only [if_neg h4]
      exact ⟨trivial, ⟨r, rfl, hr⟩, hk.of_eq (by simp [readV4, h4]) rfl, fun _ _ _ => trivial⟩

/-- The keys of the loops over the tx properties and the addresses that are not set up. -/
def keysV6 (tx : List TxProp) (ns : List Nat) : List ((TxProp × Nat) × Nat) :=
  tx.zipIdx.flatMap fun p => if p.1.ip = .v6 then ns.map fun n => (p, n) else []

theorem mem_keysV6 {ns : List Nat} {k : (TxProp × Nat) × Nat} :
    k ∈ keysV6 tx ns ↔ k.1 ∈ tx.zipIdx ∧ k.1.1.ip = .v6 ∧ k.2 ∈ ns := by
  simp only [keysV6, List.mem_flatMap]
  constructor
  · rintro ⟨p, hp, hk⟩
    split at hk
    next h6 =>
      obtain ⟨n, hn, rfl⟩ := List.mem_map.1 hk
      exact ⟨hp, h6, hn⟩
    · cases hk
  · rintro ⟨hp, h6, hn⟩
    exact ⟨k.1, hp, by rw [if_pos h6]; exact List.mem_map.2 ⟨k.2, hn, rfl⟩⟩

theorem keysV6_nodup {ns : List Nat} (hns : ns.Nodup) : (keysV6 tx ns).Nodup := by
  rw [keysV6, List.nodup_flatMap]
  refine ⟨fun p _ => ?_, (List.Nodup.of_map _ (List.nodup_zipIdx_map_snd tx)).imp fun {p q} hne => ?_⟩
  · split
    · exact hns.map fun n m h => by cases h; rfl
    · exact List.nodup_nil
  · intro k hp hq
    have h1 : k.1 = p := by
      dsimp only at hp
      split at hp
      · obtain ⟨n, -, rfl⟩ := List.mem_map.1 hp
        rfl
      · cases hp
    have h2 : k.1 = q := by
      dsimp only at hq
      split at hq
      · obtain ⟨n, -, rfl⟩ := List.mem_map.1 hq
        rfl
      · cases hq
    exact hne (h1.symm.trans h2)

theorem keysV6_sum (ns : List Nat) (c : Client σ) : ((keysV6 tx ns).map fun k => readV6 k c).sum =
    (tx.zipIdx.map fun p => if p.1.ip = .v6 then (ns.map fun n => readV6 (p, n) c).sum else 0).sum := by
  rw [keysV6]
  induction tx.zipIdx with
  | nil => rfl
  | cons p l ih =>
    rw [List.flatMap_cons, List.map_append, List.sum_append, ih, List.map_cons, List.sum_cons]
    split
    · rw [List.map_map]
      rfl
    · rfl

/-- The two loops add the two rules of each address that is not set up. -/
theorem addRulesV6_keeps (hD : AllSucceed D) (R : ClientRules) (tx : List TxProp) (c₀ : Client σ) {ns : List Nat} (hns : ns.Nodup)
    (hge : ∀ n ∈ ns, c₀.routeRuleSetV6 ≤ n) (h : o.Keeps s u) :
    ∃ r o', untilFailure (fun p s => if p.1.ip = .v6 then untilFailure (addRulesV6 D R p.1 p.2) ns s else (true, s))
        tx.zipIdx (c₀, o) = (true, { c₀ with rtHdl := r }, o') ∧
      (∀ i, (r i).rtRuleHdlV4 = (c₀.rtHdl i).rtRuleHdlV4 ∧ ∀ n < c₀.routeRuleSetV6,
        (r i).rtRuleHdlV6 n = (c₀.rtHdl i).rtRuleHdlV6 n ∧ (r i).rtRuleHdlV6Wan n = (c₀.rtHdl i).rtRuleHdlV6Wan n) ∧
      o'.Keeps (((keysV6 tx ns).map fun k => readV6 k { c₀ with rtHdl := r }).sum + s) u := by
  have hflat := Lib.untilFailure_flatMap (f := fun p s => if p.1.ip = .v6 then untilFailure (addRulesV6 D R p.1 p.2) ns s else (true, s))
    (g := fun k s => addRulesV6 D R k.1.1 k.1.2 k.2 s) (e := fun p => if p.1.ip = .v6 then ns.map fun n => (p, n) else [])
    (l := tx.zipIdx) (fun p _ s => by
      split
      · exact Lib.untilFailure_map (fun k s => addRulesV6 D R k.1.1 k.1.2 k.2 s) (fun n => (p, n)) ns s
      · rfl) (c₀, o)
  have hloop := install_keeps u (keysV6 tx ns) readV6
    (fun c : Client σ => ∃ r, c = { c₀ with rtHdl := r } ∧ ∀ i, (r i).rtRuleHdlV4 = (c₀.rtHdl i).rtRuleHdlV4 ∧
      ∀ n < c₀.routeRuleSetV6,
        (r i).rtRuleHdlV6 n = (c₀.rtHdl i).rtRuleHdlV6 n ∧ (r i).rtRuleHdlV6Wan n = (c₀.rtHdl i).rtRuleHdlV6Wan n)
    (fun k s => addRulesV6 D R k.1.1 k.1.2 k.2 s) (fun k hk c o s hP hkeep => ?_) (keysV6_nodup hns) (fun k hk => hk)
    (c := c₀) (o := o) (s := s) ⟨c₀.rtHdl, rfl, fun _ => ⟨rfl, fun _ _ => ⟨rfl, rfl⟩⟩⟩ h
  · rw [hflat]
    obtain ⟨h1, ⟨r, h2, h3⟩, h4, -⟩ := hloop
    rcases hr : untilFailure (fun k s => addRulesV6 D R k.1.1 k.1.2 k.2 s) (keysV6 tx ns) (c₀, o) with ⟨ok, c, o'⟩
    rw [hr] at h1 h2 h4
    cases h1
    cases h2
    exact ⟨r, o', hr, h3, h4⟩
  · obtain ⟨r, rfl, hr⟩ := hP
    have hge := hge k.2 (mem_keysV6.1 hk).2.2
    obtain ⟨k1, o1, hadd1, hk1⟩ := Outside.addRoutingRule_keeps hD hkeep (R.v6 k.1.1 k.1.2 c₀.hdrHdlV6 (c₀.v6Addr k.2))
    obtain ⟨k2, o2, hadd2, hk2⟩ := Outside.addRoutingRule_keeps hD hk1
      (R.v6Wan k.1.1 k.1.2 c₀.hdrHdlV6 (c₀.v6Addr k.2))
    simp only [addRulesV6, hadd1, setRtHdl, hadd2]
    refine ⟨trivial, ⟨_, rfl, fun i => ?_⟩, ?_, fun q hq hne => ?_⟩
    · split
      · refine ⟨(hr i).1, fun n hn => ?_⟩
        dsimp only
        rw [if_neg (show n ≠ k.2 by omega), if_neg (show n ≠ k.2 by omega)]
        exact (hr i).2 n hn
      · exact hr i
    · simp only [readV6, if_true]
      exact hk2.of_eq (by rw [add_left_comm, add_assoc]) rfl
    · by_cases h2 : q.1.2 = k.1.2
      · have hn : q.2 ≠ k.2 := fun heq =>
          hne (Prod.ext (zipIdx_snd_inj (mem_keysV6.1 hq).1 (mem_keysV6.1 hk).1 h2) heq)
        simp only [readV6, if_pos h2, if_neg hn]
      · simp only [readV6, if_neg h2]

/-- **A client's rules are added**: what it then lists is in the driver. -/
theorem addRules_held (hD : AllSucceed D) (iptype : IpType) (h : Held tx c s u o) :
    ∃ a b r o', addRules D R tx iptype (c, o) = (true, { c with routeRuleSetV4 := a, routeRuleSetV6 := b, rtHdl := r }, o') ∧
      Held tx { c with routeRuleSetV4 := a, routeRuleSetV6 := b, rtHdl := r } s u o' := by
  unfold addRules
  by_cases h4 : iptype = .v4 ∧ c.routeRuleSetV4 = false ∧ c.ipv4Set = true
  · obtain ⟨r, o', hr, hsame, hk⟩ := addRulesV4_keeps hD R tx c h
    refine ⟨true, c.routeRuleSetV6, r, o', by simp only [if_pos h4, hr], hk.of_eq ?_ rfl⟩
    have h4' : (rtHdlsV4 tx { c with routeRuleSetV4 := true, rtHdl := r } : Multiset Nat) =
        (tx.zipIdx.map fun p => readV4 p { c with rtHdl := r }).sum := by
      rw [coe_rtHdlsV4, if_pos rfl]
      rfl
    have h4'' : (c.rtHdlsV4 tx : Multiset Nat) = 0 := by rw [coe_rtHdlsV4, h4.2.1, if_neg Bool.false_ne_true]
    have h6' : (rtHdlsV6 tx { c with routeRuleSetV4 := true, rtHdl := r } : Multiset Nat) = c.rtHdlsV6 tx := by
      simp only [coe_rtHdlsV6, readV6, hsame]
    rw [rtHdls, rtHdls, ← Multiset.coe_add, ← Multiset.coe_add, h4', h4'', h6', zero_add, add_assoc]
  by_cases h6 : iptype = .v6 ∧ c.routeRuleSetV6 < c.ipv6Set
  · obtain ⟨r, o', hr, hsame, hk⟩ := addRulesV6_keeps hD R tx c
      (List.nodup_range' (n := c.ipv6Set - c.routeRuleSetV6) 1) (fun n hn => (List.mem_range'_1.1 hn).1) h
    refine ⟨c.routeRuleSetV4, c.ipv6Set, r, o', by simp only [if_neg h4, if_pos h6, hr], hk.of_eq ?_ rfl⟩
    have h4' : (rtHdlsV4 tx { c with routeRuleSetV6 := c.ipv6Set, rtHdl := r } : Multiset Nat) = c.rtHdlsV4 tx := by
      simp only [coe_rtHdlsV4, readV4, hsame]
    have h6' : (rtHdlsV6 tx { c with routeRuleSetV6 := c.ipv6Set, rtHdl := r } : Multiset Nat) =
        ((keysV6 tx (List.range' c.routeRuleSetV6 (c.ipv6Set - c.routeRuleSetV6))).map fun k => readV6 k { c with rtHdl := r }).sum +
          c.rtHdlsV6 tx := by
      have hrange : List.range c.ipv6Set =
          List.range c.routeRuleSetV6 ++ List.range' c.routeRuleSetV6 (c.ipv6Set - c.routeRuleSetV6) := by
        have := List.range'_append_1 (s := 0) (m := c.routeRuleSetV6) (n := c.ipv6Set - c.routeRuleSetV6)
        rw [Nat.zero_add, Nat.add_sub_cancel' (Nat.le_of_lt h6.2)] at this
        rw [List.range_eq_range', List.range_eq_range', this]
      rw [keysV6_sum, coe_rtHdlsV6, coe_rtHdlsV6, ← List.sum_map_add]
      refine congrArg List.sum (List.map_congr_left fun p _ => ?_)
      split
      · dsimp only
        rw [hrange, List.map_append, List.sum_append, add_comm]
        refine congrArg₂ (· + ·) rfl (congrArg List.sum (List.map_congr_left fun n hn => ?_))
        have := (hsame p.2).2 n (List.mem_range.1 hn)
        simp only [readV6, this]
      · exact (add_zero 0).symm
    rw [rtHdls, rtHdls, ← Multiset.coe_add, ← Multiset.coe_add, h4', h6']
    abel
  · exact ⟨c.routeRuleSetV4, c.routeRuleSetV6, c.rtHdl, o, by simp only [if_neg h4, if_neg h6], h⟩

end Client

namespace ClientTable

variable {σ : Type} {t : ClientTable σ} {s u : Multiset Nat} {o : Outside}

/-- The driver holds what the records in use list, and beside it `s` and `u`. -/
def Held (tx : List TxProp) (t : ClientTable σ) (s u : Multiset Nat) (o : Outside) : Prop :=
  o.Keeps (t.rtHdls tx + s) (t.hdrHdls + u)

/-- What the records in use list, but for one. -/
def rtHdlsBut (tx : List TxProp) (t : ClientTable σ) (i : Nat) : Multiset Nat :=
  ∑ k ∈ (Finset.range t.num).erase i, ((t.slot k).rtHdls tx : Multiset Nat)

def hdrHdlsBut (t : ClientTable σ) (i : Nat) : Multiset Nat :=
  ∑ k ∈ (Finset.range t.num).erase i, ((t.slot k).hdrHdls : Multiset Nat)

/-- What the records in use from `n` on list. -/
def sumFrom (f : Client σ → Multiset Nat) (t : ClientTable σ) (n : Nat) : Multiset Nat := ∑ k ∈ Finset.Ico n t.num, f (t.slot k)

theorem Held.slot (h : t.Held tx s u o) {i : Nat} (hi : i < t.num) :
    (t.slot i).Held tx (t.rtHdlsBut tx i + s) (t.hdrHdlsBut i + u) o :=
  Outside.Keeps.of_eq h (by rw [rtHdls_split t hi, add_assoc]; rfl) (by rw [hdrHdls_split t hi, add_assoc]; rfl)

theorem rtHdlsBut_set (t : ClientTable σ) (i : Nat) (c : Client σ) : (t.set i c).rtHdlsBut tx i = t.rtHdlsBut tx i :=
  Finset.sum_congr rfl fun k hk => by rw [set_slot_ne t (Finset.ne_of_mem_erase hk)]

theorem hdrHdlsBut_set (t : ClientTable σ) (i : Nat) (c : Client σ) : (t.set i c).hdrHdlsBut i = t.hdrHdlsBut i :=
  Finset.sum_congr rfl fun k hk => by rw [set_slot_ne t (Finset.ne_of_mem_erase hk)]

/-- A record in use changes, and what the driver holds with it. -/
theorem held_set {i : Nat} (hi : i < t.num) {c : Client σ} (h : c.Held tx (t.rtHdlsBut tx i + s) (t.hdrHdlsBut i + u) o) :
    (t.set i c).Held tx s u o := by
  refine Outside.Keeps.of_eq h ?_ ?_
  · rw [rtHdls_split (t.set i c) hi, add_assoc, set_slot_self, ← rtHdlsBut_set t i c]
    rfl
  · rw [hdrHdls_split (t.set i c) hi, add_assoc, set_slot_self, ← hdrHdlsBut_set t i c]
    rfl

theorem sum_push {M : Type} [AddCommMonoid M] (f : Client σ → M) (t : ClientTable σ) (c : Client σ) :
    ∑ k ∈ Finset.range (t.num + 1), f ((t.set t.num c).slot k) = f c + ∑ k ∈ Finset.range t.num, f (t.slot k) := by
  rw [Finset.sum_range_succ, set_slot_self, add_comm]
  refine congrArg (f c + ·) (Finset.sum_congr rfl fun k hk => ?_)
  rw [set_slot_ne t (Nat.ne_of_lt (Finset.mem_range.1 hk))]

/-- A record joins those in use. -/
theorem held_push {c : Client σ} (h : o.Keeps (c.rtHdls tx + (t.rtHdls tx + s)) (c.hdrHdls + (t.hdrHdls + u))) :
    ({ t.set t.num c with num := t.num + 1 } : ClientTable σ).Held tx s u o := by
  have hrt := sum_push (fun c : Client σ => (c.rtHdls tx : Multiset Nat)) t c
  have hhdr := sum_push (fun c : Client σ => (c.hdrHdls : Multiset Nat)) t c
  exact h.of_eq ((add_assoc _ _ _).symm.trans (congrArg (· + s) hrt.symm)) ((add_assoc _ _ _).symm.trans (congrArg (· + u) hhdr.symm))

/-! ## The gap is closed -/

theorem compact_num (t : ClientTable σ) (i : Nat) : (t.compact tx i).num = t.num := by
  have : ∀ (l : List Nat) (t : ClientTable σ), (l.foldl (fun t k => t.set k ((t.slot k).copyFrom tx (t.slot (k + 1)))) t).num = t.num := by
    intro l
    induction l with
    | nil => exact fun _ => rfl
    | cons k l ih => exact fun t => ih _
  exact this _ t

theorem compact_slot (t : ClientTable σ) (i k : Nat) : (t.compact tx i).slot k =
    if i ≤ k ∧ k + 1 < t.num then (t.slot k).copyFrom tx (t.slot (k + 1)) else t.slot k := by
  have hloop : ∀ n, ((List.range' i n).foldl (fun t k => t.set k ((t.slot k).copyFrom tx (t.slot (k + 1)))) t).slot = fun k =>
      if i ≤ k ∧ k < i + n then (t.slot k).copyFrom tx (t.slot (k + 1)) else t.slot k := by
    intro n
    induction n with
    | zero =>
      funext k
      rw [if_neg (by omega)]
      rfl
    | succ n ih =>
      funext k
      rw [List.range'_1_concat, List.foldl_append, List.foldl_cons, List.foldl_nil]
      by_cases hk : k = i + n
      · subst hk
        rw [set_slot_self, ih, if_pos (by omega)]
        dsimp only
        rw [if_neg (by omega), if_neg (by omega)]
      · rw [set_slot_ne _ hk, ih]
        exact if_congr (by omega) rfl rfl
  rw [compact, hloop]
  exact if_congr (by omega) rfl rfl

theorem rtHdls_copyFrom (c n : Client σ) : (c.copyFrom tx n).rtHdls tx = n.rtHdls tx := by
  have hlt : ∀ p ∈ tx.zipIdx, p.2 < tx.length := fun p hp => (List.getElem?_eq_some_iff.1 (List.mem_zipIdx_iff_getElem?.1 hp)).1
  rw [Client.rtHdls, Client.rtHdls]
  congr 1
  · refine List.flatMap_congr fun p hp => ?_
    simp only [Client.copyFrom, if_pos (hlt p hp)]
  · refine List.flatMap_congr fun p hp => ?_
    simp only [Client.copyFrom, if_pos (hlt p hp)]
    split
    · refine List.flatMap_congr fun n hn => ?_
      rw [if_pos (List.mem_range.1 hn), if_pos (List.mem_range.1 hn)]
    · rfl

theorem sum_skip {M : Type} [AddCommMonoid M] (g : Nat → M) {n i : Nat} (hi : i ≤ n) :
    g i + ∑ k ∈ Finset.range n, g (if i ≤ k then k + 1 else k) = ∑ k ∈ Finset.range (n + 1), g k := by
  induction n with
  | zero =>
    have : i = 0 := by omega
    simp [this]
  | succ n ih =>
    by_cases hin : i = n + 1
    · subst hin
      rw [Finset.sum_range_succ g, add_comm]
      refine congrArg (· + _) (Finset.sum_congr rfl fun k hk => ?_)
      rw [if_neg (by have := Finset.mem_range.1 hk; omega)]
    · rw [Finset.sum_range_succ, ← add_assoc, ih (by omega), if_pos (show i ≤ n by omega), Finset.sum_range_succ g (n + 1)]

/-- The records behind the gap move up; what they list is what they listed. -/
theorem sum_compact {M : Type} [AddCancelCommMonoid M] (f : Client σ → M) (hf : ∀ c n : Client σ, f (c.copyFrom tx n) = f n)
    (t : ClientTable σ) {i : Nat} (hi : i < t.num) (c : Client σ) :
    ∑ k ∈ Finset.range (t.num - 1), f (((t.set i c).compact tx i).slot k) = ∑ k ∈ (Finset.range t.num).erase i, f (t.slot k) := by
  have hsplit := Finset.add_sum_erase (Finset.range t.num) (fun k => f (t.slot k)) (Finset.mem_range.2 hi)
  have hskip := sum_skip (fun k => f (t.slot k)) (n := t.num - 1) (i := i) (by omega)
  rw [show t.num - 1 + 1 = t.num by omega, ← hsplit] at hskip
  refine Eq.trans (Finset.sum_congr rfl fun k hk => ?_) (add_left_cancel hskip)
  have hk := Finset.mem_range.1 hk
  rw [compact_slot, set_num]
  by_cases hik : i ≤ k
  · rw [if_pos ⟨hik, by omega⟩, if_pos hik, hf, set_slot_ne t (by omega)]
  · rw [if_neg fun h => hik h.1, if_neg hik, set_slot_ne t (by omega)]

/-- **A client is removed**: its record is closed over, and the driver holds what the others list. -/
theorem clientDown_deletes (hD : AllSucceed D) {mac : MacAddr} {i : Nat} (hi : t.index mac = some i) (h : t.Held tx s u o) :
    ∃ c o', t.clientDown D tx mac o = (.deleted, { (t.set i c).compact tx i with num := t.num - 1 }, o') ∧
      c.own = (t.slot i).own ∧ (c.ipv4HeaderSet = false ∧ c.ipv6HeaderSet = false) ∧
      ({ (t.set i c).compact tx i with num := t.num - 1 } : ClientTable σ).Held tx s u o' := by
  have hlt := (index_some hi).1
  have hk := (h.slot hlt).tell_if ((t.slot i).ipv4Set = true) (.neighIpAddrDel (t.slot i).v4Addr)
  obtain ⟨h1, h2, h3⟩ := Client.Held.clean hD hk
  rcases hr : (t.slot i).clean D tx (if (t.slot i).ipv4Set then o.tell (.neighIpAddrDel (t.slot i).v4Addr) else o) with ⟨ok, c, o'⟩
  rw [hr] at h1 h2 h3
  cases h1
  cases h2
  refine ⟨((t.slot i).routesOff.headersSet false false).resetFlags, o', ?_, rfl, ⟨rfl, rfl⟩, h3.of_eq ?_ ?_⟩
  · simp only [clientDown, hi, hr]
    rw [compact_num, set_num]
    rfl
  · refine congrArg (· + s) (sum_compact (fun c : Client σ => (c.rtHdls tx : Multiset Nat)) (fun c n => ?_) t hlt _).symm
    rw [rtHdls_copyFrom]
  · exact congrArg (· + u) (sum_compact (fun c : Client σ => (c.hdrHdls : Multiset Nat)) (fun _ _ => rfl) t hlt _).symm

/-! ## Operations on a table -/

/-- An operation that adds and removes nobody: the records stay those of the same clients, with their
headers, and the driver holds what they list. -/
structure Conserves (tx : List TxProp) (s u : Multiset Nat) (t t' : ClientTable σ) (o' : Outside) : Prop where
  num : t'.num = t.num
  mac : ∀ i, (t'.slot i).mac = (t.slot i).mac
  hdr4 : ∀ i, (t'.slot i).ipv4HeaderSet = (t.slot i).ipv4HeaderSet
  hdr6 : ∀ i, (t'.slot i).ipv6HeaderSet = (t.slot i).ipv6HeaderSet
  held : t'.Held tx s u o'

theorem Conserves.refl (h : t.Held tx s u o) : Conserves tx s u t t o := ⟨rfl, fun _ => rfl, fun _ => rfl, fun _ => rfl, h⟩

/-- One record changes, and what the driver holds with it. -/
theorem conserves_set (h : t.Held tx s u o) {i : Nat} (hi : i < t.num) {c : Client σ} {o' : Outside} (hmac : c.mac = (t.slot i).mac)
    (h4 : c.ipv4HeaderSet = (t.slot i).ipv4HeaderSet) (h6 : c.ipv6HeaderSet = (t.slot i).ipv6HeaderSet)
    (hheld : ∀ s u, (t.slot i).Held tx s u o → c.Held tx s u o') : Conserves tx s u t (t.set i c) o' := by
  have hslot : ∀ {α : Type} (f : Client σ → α), f c = f (t.slot i) → ∀ k, f ((t.set i c).slot k) = f (t.slot k) := fun f hf k => by
    by_cases hk : k = i
    · rw [hk, set_slot_self, hf]
    · rw [set_slot_ne _ hk]
  exact ⟨rfl, hslot (·.mac) hmac, hslot (·.ipv4HeaderSet) h4, hslot (·.ipv6HeaderSet) h6, held_set hi (hheld _ _ (Held.slot h hi))⟩

theorem clientIpaddr_conserves (hD : AllSucceed D) (ipv6Prefix : BitVec 64) (data : EventDataAll) (h : t.Held tx s u o) :
    Conserves tx s u t (t.clientIpaddr D tx ipv6Prefix data o).2.1 (t.clientIpaddr D tx ipv6Prefix data o).2.2 := by
  unfold clientIpaddr
  split
  · exact .refl h
  next i hi =>
    have hlt := (index_some hi).1
    dsimp only
    split
    · split
      · split
        · exact conserves_set h hlt rfl rfl rfl fun s u h => h
        · split
          · exact .refl h
          · rw [Client.deleteRtRules_v4]
            exact conserves_set h hlt rfl rfl rfl fun s u h => Client.Held.deleteRtRules_v4 hD (h.tell _)
      · exact .refl h
    · split
      · split
        · exact .refl h
        · split
          · split
            · exact .refl h
            · exact conserves_set h hlt rfl rfl rfl fun s u h => h
          · exact .refl h
      · exact .refl h

theorem addRules_conserves (hD : AllSucceed D) (R : ClientRules) (iptype : IpType) (h : t.Held tx s u o) {i : Nat} (hi : i < t.num) :
    Conserves tx s u t (t.set i (Client.addRules D R tx iptype (t.slot i, o)).2.1) (Client.addRules D R tx iptype (t.slot i, o)).2.2 := by
  obtain ⟨a, b, r, o', hadd, -⟩ := Client.addRules_held (R := R) hD iptype (Held.slot h hi)
  rw [hadd]
  -- whatever else is in the driver, the outcome is this one
  refine conserves_set h hi rfl rfl rfl fun s' u' h' => ?_
  obtain ⟨a', b', r', o'', hadd', hheld'⟩ := Client.addRules_held (R := R) hD iptype h'
  rw [hadd] at hadd'
  cases hadd'
  exact hheld'

end ClientTable

/-! ## The headers of a new client -/

namespace Client

/-- A header flag is only set where there is a property for the header. -/
structure HeadersBacked (tx : List TxProp) (c : Client σ) : Prop where
  hdr4 : c.ipv4HeaderSet = true → ∃ t ∈ tx, t.ip = .v4
  hdr6 : c.ipv6HeaderSet = true → ∃ t ∈ tx, t.ip = .v6

/-- There is a property of either family. -/
def anyIp (tx : List TxProp) : Bool := tx.any fun t => t.ip = .v4 ∨ t.ip = .v6

theorem anyIp_of {t : TxProp} (ht : t ∈ tx) (h : t.ip = .v4 ∨ t.ip = .v6) : anyIp tx = true :=
  List.any_eq_true.2 ⟨t, ht, by simpa using h⟩

theorem anyIp_false (h4 : ∀ t ∈ tx, t.ip ≠ .v4) (h6 : ∀ t ∈ tx, t.ip ≠ .v6) : anyIp tx = false :=
  List.any_eq_false.2 fun t ht => by simp [h4 t ht, h6 t ht]

/-- How the header of a family is added to a record: not without a property for it, and with one `set` records the
handle, beside what `m` makes of the MAC. -/
def AddsHeader (tx : List TxProp) (m : MacAddr → MacAddr) (ip : IpType) (set : Client σ → Nat → Client σ)
    (add : Client σ × Outside → Option Unit × Client σ × Outside) : Prop :=
  ∀ (c : Client σ) (o : Outside) (s u : Multiset Nat), o.Keeps s u →
    (∃ t ∈ tx, t.ip = ip) ∧ (∃ k o', add (c, o) = (some (), set { c with mac := m c.mac } k, o') ∧ o'.Keeps s ({k} + u)) ∨
      (∀ t ∈ tx, t.ip ≠ ip) ∧ add (c, o) = (some (), c, o)

/-- The record with a header of either family. -/
abbrev withHdrV4 (c : Client σ) (h : Nat) : Client σ := { c with hdrHdlV4 := h, ipv4HeaderSet := true }

abbrev withHdrV6 (c : Client σ) (h : Nat) : Client σ := { c with hdrHdlV6 := h, ipv6HeaderSet := true }

variable {m : MacAddr → MacAddr} {s u : Multiset Nat} {o : Outside}
  {add4 add6 : Client σ × Outside → Option Unit × Client σ × Outside}

theorem off_of_none {ip : IpType} {b : Bool} (hb : b = true → ∃ t ∈ tx, t.ip = ip) (hno : ∀ t ∈ tx, t.ip ≠ ip) : b = false := by
  by_contra hne
  obtain ⟨t, ht, hip⟩ := hb (by simpa using hne)
  exact hno t ht hip

/-- **The headers of a new client**: its record lists them, and its MAC is the new one if there was one to be added. -/
theorem newHeaders_keeps (h4 : AddsHeader tx m .v4 withHdrV4 add4) (h6 : AddsHeader tx m .v6 withHdrV6 add6)
    (hm : ∀ a, m (m a) = m a) {c : Client σ} (hb : c.HeadersBacked tx) (h : o.Keeps s u) :
    ∃ c₁ o₁ c₂ o₂, add4 (c, o) = (some (), c₁, o₁) ∧ add6 (c₁, o₁) = (some (), c₂, o₂) ∧
      c₂.mac = (if anyIp tx then m c.mac else c.mac) ∧ c₂.HeadersBacked tx ∧ o₂.Keeps s (c₂.hdrHdls + u) := by
  rcases h4 c o s u h with ⟨⟨t4, ht4, hip4⟩, k4, o₁, he4, hk4⟩ | ⟨hno4, he4⟩
  · have hany := anyIp_of ht4 (.inl hip4)
    rcases h6 (withHdrV4 { c with mac := m c.mac } k4) o₁ s _ hk4 with ⟨hex6, k6, o₂, he6, hk6⟩ | ⟨hno6, he6⟩
    · refine ⟨_, _, _, _, he4, he6, ?_, ⟨fun _ => ⟨t4, ht4, hip4⟩, fun _ => hex6⟩, hk6.of_eq rfl ?_⟩
      · rw [if_pos hany]
        exact hm c.mac
      · simp only [hdrHdls, if_true, List.singleton_append, ← Multiset.cons_coe, ← Multiset.singleton_add, Multiset.coe_nil]
        abel
    · have hoff := off_of_none hb.hdr6 hno6
      refine ⟨_, _, _, _, he4, he6, (if_pos hany).symm, ⟨fun _ => ⟨t4, ht4, hip4⟩, hb.hdr6⟩, hk4.of_eq rfl ?_⟩
      simp only [hdrHdls, hoff, if_true, Bool.false_eq_true, if_false, List.append_nil, Multiset.coe_singleton]
  · have hoff := off_of_none hb.hdr4 hno4
    rcases h6 c o s u h with ⟨⟨t6, ht6, hip6⟩, k6, o₂, he6, hk6⟩ | ⟨hno6, he6⟩
    · refine ⟨_, _, _, _, he4, he6, (if_pos (anyIp_of ht6 (.inr hip6))).symm, ⟨hb.hdr4, fun _ => ⟨t6, ht6, hip6⟩⟩, hk6.of_eq rfl ?_⟩
      simp only [hdrHdls, hoff, if_true, Bool.false_eq_true, if_false, List.nil_append, Multiset.coe_singleton]
    · refine ⟨_, _, _, _, he4, he6, ?_, hb, h.of_eq rfl ?_⟩
      · rw [anyIp_false hno4 hno6, if_neg Bool.false_ne_true]
      · simp only [hdrHdls, hoff, off_of_none hb.hdr6 hno6, Bool.false_eq_true, if_false, List.append_nil, Multiset.coe_nil, zero_add]

end Client
end HiaeCommon
