/-
The places of a client's record that hold the handle of a routing rule, and what
the installer leaves there: every one that is set names an installed rule, which
is the one `ClientRules` gives for it.
-/
import HiaeCommon.Ipacm.ClientsHeld
import HiaeCommon.Lib.LedgerEdits

namespace HiaeCommon

open Lib (Ledger untilFailure)
open Outside (AllSucceed)

/-- The handle of a rule of a tx property: for the IPv4 address, or for an IPv6 address in the table of the LAN or of the WAN. -/
inductive RuleSlot
  | v4 (p : TxProp × Nat)
  | v6 (p : TxProp × Nat) (n : Nat)
  | v6Wan (p : TxProp × Nat) (n : Nat)
  deriving DecidableEq, Repr

variable {σ : Type} {D : IpaDriver} {R : ClientRules} {tx : List TxProp} {o : Outside}

namespace Client

def hdl (c : Client σ) : RuleSlot → Nat
  | .v4 p => (c.rtHdl p.2).rtRuleHdlV4
  | .v6 p n => (c.rtHdl p.2).rtRuleHdlV6 n
  | .v6Wan p n => (c.rtHdl p.2).rtRuleHdlV6Wan n

/-- The slots that are set. -/
def slots (tx : List TxProp) (c : Client σ) : List RuleSlot :=
  (tx.zipIdx.flatMap fun p => if p.1.ip = .v4 ∧ c.routeRuleSetV4 = true then [.v4 p] else []) ++
    tx.zipIdx.flatMap fun p => if p.1.ip = .v6 ∧ c.routeRuleSetV6 ≠ 0 then
      (List.range c.routeRuleSetV6).flatMap fun n => [.v6 p n, .v6Wan p n] else []

theorem map_hdl_slots (c : Client σ) : (c.slots tx).map c.hdl = c.rtHdls tx := by
  rw [slots, List.map_append, List.map_flatMap, List.map_flatMap, rtHdls]
  congr 1
  · refine List.flatMap_congr fun p _ => ?_
    split <;> rfl
  · refine List.flatMap_congr fun p _ => ?_
    split
    · rw [List.map_flatMap]
      rfl
    · rfl

/-- What it takes for a slot to be set. -/
def IsSet (tx : List TxProp) (c : Client σ) : RuleSlot → Prop
  | .v4 p => p ∈ tx.zipIdx ∧ p.1.ip = .v4 ∧ c.routeRuleSetV4 = true
  | .v6 p n => p ∈ tx.zipIdx ∧ p.1.ip = .v6 ∧ n < c.routeRuleSetV6
  | .v6Wan p n => p ∈ tx.zipIdx ∧ p.1.ip = .v6 ∧ n < c.routeRuleSetV6

theorem mem_slots {c : Client σ} {x : RuleSlot} : x ∈ c.slots tx ↔ c.IsSet tx x := by
  have h4 : (x ∈ tx.zipIdx.flatMap fun p => if p.1.ip = .v4 ∧ c.routeRuleSetV4 = true then [.v4 p] else []) ↔
      ∃ p ∈ tx.zipIdx, (p.1.ip = .v4 ∧ c.routeRuleSetV4 = true) ∧ x = .v4 p := by
    rw [List.mem_flatMap]
    refine exists_congr fun p => and_congr_right fun _ => ?_
    split
    next h => simp [h]
    next h => simp [h]
  have h6 : (x ∈ tx.zipIdx.flatMap fun p => if p.1.ip = .v6 ∧ c.routeRuleSetV6 ≠ 0 then
      (List.range c.routeRuleSetV6).flatMap fun n => [RuleSlot.v6 p n, .v6Wan p n] else []) ↔
      ∃ p ∈ tx.zipIdx, p.1.ip = .v6 ∧ ∃ n < c.routeRuleSetV6, x = .v6 p n ∨ x = .v6Wan p n := by
    rw [List.mem_flatMap]
    refine exists_congr fun p => and_congr_right fun _ => ?_
    split
    next h => simp [h.1]
    next h =>
      refine ⟨fun hm => absurd hm List.not_mem_nil, fun ⟨h1, n, hn, _⟩ => absurd ⟨h1, by omega⟩ h⟩
  rw [slots, List.mem_append, h4, h6]
  cases x with
  | v4 p => simp [IsSet, -Prod.exists, ← and_assoc]
  | v6 p n => simp [IsSet, -Prod.exists, ← and_assoc]
  | v6Wan p n => simp [IsSet, -Prod.exists, ← and_assoc]

end Client

/-- The rule of a slot. -/
def ClientRules.rule (R : ClientRules) (c : Client σ) : RuleSlot → RtRule
  | .v4 p => R.v4 p.1 p.2 c.hdrHdlV4 c.v4Addr
  | .v6 p n => R.v6 p.1 p.2 c.hdrHdlV6 (c.v6Addr n)
  | .v6Wan p n => R.v6Wan p.1 p.2 c.hdrHdlV6 (c.v6Addr n)

/-! ## What the installer leaves -/

theorem Outside.addRoutingRule_installs (hD : AllSucceed D) (hnd : o.rt.used.Nodup) (r : RtRule) :
    ∃ h o', o.addRoutingRule D r = (some h, o') ∧ o'.rt.live = (h, r) :: o.rt.live ∧ o'.rt.used.Nodup :=
  ⟨_, _, call_succeeds hD _ o, rfl, List.nodup_cons.2 ⟨D.handles.fresh _, hnd⟩⟩

namespace Client

/-- Everything installed in `o` is, and under a handle of its own. -/
structure Extends (o o' : Outside) : Prop where
  nodup : o'.rt.used.Nodup
  sub : ∀ e ∈ o.rt.live, e ∈ o'.rt.live

theorem addRules_v4_installs (hD : AllSucceed D) (R : ClientRules) (tx : List TxProp) {c : Client σ} (hoff : c.routeRuleSetV4 = false)
    (hnd : o.rt.used.Nodup) :
    ∃ b r o', addRules D R tx .v4 (c, o) = (true, { c with routeRuleSetV4 := b, rtHdl := r }, o') ∧ Extends o o' ∧
      (∀ i, (r i).rtRuleHdlV6 = (c.rtHdl i).rtRuleHdlV6 ∧ (r i).rtRuleHdlV6Wan = (c.rtHdl i).rtRuleHdlV6Wan) ∧
      (c.ipv4Set = true → ∀ p ∈ tx.zipIdx, p.1.ip = .v4 → ((r p.2).rtRuleHdlV4, R.v4 p.1 p.2 c.hdrHdlV4 c.v4Addr) ∈ o'.rt.live) := by
  unfold addRules
  dsimp only
  by_cases h4 : c.ipv4Set = true
  · rw [if_pos ⟨rfl, hoff, h4⟩]
    have hloop := Lib.untilFailure_each (f := fun p s => if p.1.ip = .v4 then addRuleV4 D R p.1 p.2 s else (true, s)) (l := tx.zipIdx)
      (fun s : Client σ × Outside => ∃ r, s.1 = { c with rtHdl := r } ∧ Extends o s.2 ∧
        ∀ i, (r i).rtRuleHdlV6 = (c.rtHdl i).rtRuleHdlV6 ∧ (r i).rtRuleHdlV6Wan = (c.rtHdl i).rtRuleHdlV6Wan)
      (fun p s => p.1.ip = .v4 → ((s.1.rtHdl p.2).rtRuleHdlV4, R.v4 p.1 p.2 c.hdrHdlV4 c.v4Addr) ∈ s.2.rt.live)
      (fun p hp s hs => ?_) (s := (c, o)) ⟨c.rtHdl, rfl, ⟨hnd, fun _ h => h⟩, fun _ => ⟨rfl, rfl⟩⟩
    · obtain ⟨h1, ⟨r, h2, h3, h5⟩, h6⟩ := hloop
      rcases hr : untilFailure (fun p s => if p.1.ip = .v4 then addRuleV4 D R p.1 p.2 s else (true, s)) tx.zipIdx (c, o)
        with ⟨ok, c', o'⟩
      rw [hr] at h1 h2 h3 h6
      cases h1
      cases h2
      exact ⟨true, r, o', by simp only [hr], h3, h5, fun _ => h6⟩
    · rcases s with ⟨c', o₁⟩
      obtain ⟨r, rfl, hext, hsame⟩ := hs
      by_cases hp4 : p.1.ip = .v4
      · obtain ⟨h, o₂, hadd, hlive, hnd'⟩ := Outside.addRoutingRule_installs hD hext.nodup (R.v4 p.1 p.2 c.hdrHdlV4 c.v4Addr)
        simp only [if_pos hp4, addRuleV4, hadd]
        refine ⟨trivial, ⟨_, rfl, ⟨hnd', fun e he => hlive ▸ List.mem_cons_of_mem _ (hext.sub e he)⟩, fun i => ?_⟩, fun _ => ?_,
          fun q hq hne hQ hq4 => ?_⟩
        · dsimp only [setRtHdl]
          split
          · exact hsame i
          · exact hsame i
        · simp [setRtHdl, hlive]
        · have : q.2 ≠ p.2 := fun he => hne (zipIdx_snd_inj hq hp he)
          simp only [setRtHdl, if_neg this, hlive]
          exact List.mem_cons_of_mem _ (hQ hq4)
      · simp only [if_neg hp4]
        exact ⟨trivial, ⟨r, rfl, hext, hsame⟩, fun h => absurd h hp4, fun q _ _ hQ => hQ⟩
  · rw [if_neg fun h => h4 h.2.2, if_neg (by simp)]
    exact ⟨c.routeRuleSetV4, c.rtHdl, o, rfl, ⟨hnd, fun _ h => h⟩, fun _ => ⟨rfl, rfl⟩, fun h => absurd h h4⟩

theorem addRules_v6_installs (hD : AllSucceed D) (R : ClientRules) (tx : List TxProp) {c : Client σ} (hoff : c.routeRuleSetV6 = 0)
    (hnd : o.rt.used.Nodup) :
    ∃ b r o', addRules D R tx .v6 (c, o) = (true, { c with routeRuleSetV6 := b, rtHdl := r }, o') ∧ Extends o o' ∧
      (∀ i, (r i).rtRuleHdlV4 = (c.rtHdl i).rtRuleHdlV4) ∧
      ∀ p ∈ tx.zipIdx, p.1.ip = .v6 → ∀ n < c.ipv6Set, ((r p.2).rtRuleHdlV6 n, R.v6 p.1 p.2 c.hdrHdlV6 (c.v6Addr n)) ∈ o'.rt.live ∧
        ((r p.2).rtRuleHdlV6Wan n, R.v6Wan p.1 p.2 c.hdrHdlV6 (c.v6Addr n)) ∈ o'.rt.live := by
  unfold addRules
  dsimp only
  rw [if_neg fun h => nomatch h.1]
  by_cases h6 : 0 < c.ipv6Set
  · rw [if_pos ⟨rfl, by omega⟩, hoff, Nat.sub_zero, ← List.range_eq_range']
    have hflat := Lib.untilFailure_flatMap (g := fun k s => addRulesV6 D R k.1.1 k.1.2 k.2 s)
      (f := fun p s => if p.1.ip = .v6 then untilFailure (addRulesV6 D R p.1 p.2) (List.range c.ipv6Set) s else (true, s))
      (e := fun p => if p.1.ip = .v6 then (List.range c.ipv6Set).map fun n => (p, n) else []) (l := tx.zipIdx)
      (fun p _ s => by
        split
        · exact Lib.untilFailure_map (fun k s => addRulesV6 D R k.1.1 k.1.2 k.2 s) (fun n => (p, n)) (List.range c.ipv6Set) s
        · rfl) (c, o)
    have hloop := Lib.untilFailure_each (f := fun k s => addRulesV6 D R k.1.1 k.1.2 k.2 s) (l := keysV6 tx (List.range c.ipv6Set))
      (fun s : Client σ × Outside => ∃ r, s.1 = { c with rtHdl := r } ∧ Extends o s.2 ∧
        ∀ i, (r i).rtRuleHdlV4 = (c.rtHdl i).rtRuleHdlV4)
      (fun k s => ((s.1.rtHdl k.1.2).rtRuleHdlV6 k.2, R.v6 k.1.1 k.1.2 c.hdrHdlV6 (c.v6Addr k.2)) ∈ s.2.rt.live ∧
        ((s.1.rtHdl k.1.2).rtRuleHdlV6Wan k.2, R.v6Wan k.1.1 k.1.2 c.hdrHdlV6 (c.v6Addr k.2)) ∈ s.2.rt.live)
      (fun k hk s hs => ?_) (s := (c, o)) ⟨c.rtHdl, rfl, ⟨hnd, fun _ h => h⟩, fun _ => rfl⟩
    · obtain ⟨h1, ⟨r, h2, h3, h5⟩, h6⟩ := hloop
      rcases hr : untilFailure (fun k s => addRulesV6 D R k.1.1 k.1.2 k.2 s) (keysV6 tx (List.range c.ipv6Set)) (c, o)
        with ⟨ok, c', o'⟩
      rw [hr] at h1 h2 h3 h6
      cases h1
      cases h2
      refine ⟨c.ipv6Set, r, o', ?_, h3, h5, fun p hp hp6 n hn => h6 (p, n) (mem_keysV6.2 ⟨hp, hp6, List.mem_range.2 hn⟩)⟩
      rw [keysV6] at hr
      simp only [hflat, hr]
    · rcases s with ⟨c', o₁⟩
      obtain ⟨r, rfl, hext, hsame⟩ := hs
      obtain ⟨h, o₂, hadd, hlive, hnd'⟩ := Outside.addRoutingRule_installs hD hext.nodup
        (R.v6 k.1.1 k.1.2 c.hdrHdlV6 (c.v6Addr k.2))
      obtain ⟨h', o₃, hadd', hlive', hnd''⟩ := Outside.addRoutingRule_installs hD hnd'
        (R.v6Wan k.1.1 k.1.2 c.hdrHdlV6 (c.v6Addr k.2))
      have hsub : ∀ e ∈ o₁.rt.live, e ∈ o₃.rt.live := fun e he =>
        hlive' ▸ List.mem_cons_of_mem _ (hlive ▸ List.mem_cons_of_mem _ he)
      simp only [addRulesV6, hadd, setRtHdl, hadd']
      refine ⟨trivial, ⟨_, rfl, ⟨hnd'', fun e he => hsub e (hext.sub e he)⟩, fun i => ?_⟩, ?_, fun q hq hne hQ => ?_⟩
      · split
        · exact hsame i
        · exact hsame i
      · simp [hlive', hlive]
      · by_cases h2 : q.1.2 = k.1.2
        · have hn : q.2 ≠ k.2 := fun he =>
            hne (Prod.ext (zipIdx_snd_inj (mem_keysV6.1 hq).1 (mem_keysV6.1 hk).1 h2) he)
          simp only [if_pos h2, if_neg hn]
          exact ⟨hsub _ hQ.1, hsub _ hQ.2⟩
        · simp only [if_neg h2]
          exact ⟨hsub _ hQ.1, hsub _ hQ.2⟩
  · rw [if_neg fun h => by omega]
    exact ⟨c.routeRuleSetV6, c.rtHdl, o, rfl, ⟨hnd, fun _ h => h⟩, fun _ => rfl, fun p _ _ n hn => absurd hn (by omega)⟩

/-- The address of every rule that is set is known. -/
structure AddrsKnown (c : Client σ) : Prop where
  v4 : c.routeRuleSetV4 = true → c.ipv4Set = true
  v6 : c.routeRuleSetV6 ≤ c.ipv6Set

/-- **A client installed afresh** has, under the handle of each slot that was set, the rule that `ClientRules` gives. -/
theorem addRules_afresh (hD : AllSucceed D) (R : ClientRules) (tx : List TxProp) {c : Client σ} (hc : c.AddrsKnown)
    (hnd : o.rt.used.Nodup) :
    ∃ c₁ o₁ c₂ o₂, addRules D R tx .v4 (c.routesOff, o) = (true, c₁, o₁) ∧ addRules D R tx .v6 (c₁, o₁) = (true, c₂, o₂) ∧
      c₁.mac = c.mac ∧ c₁.own = c.own ∧ ∀ x, c.IsSet tx x → o₂.rt.lookup (c₂.hdl x) = some (R.rule c x) := by
  obtain ⟨b, r, o₁, h1, hext1, hsame1, hin1⟩ := addRules_v4_installs hD R tx (c := c.routesOff) rfl hnd
  obtain ⟨b', r', o₂, h2, hext2, hsame2, hin2⟩ := addRules_v6_installs hD R tx
    (c := { c.routesOff with routeRuleSetV4 := b, rtHdl := r }) rfl hext1.nodup
  refine ⟨_, _, _, _, h1, h2, rfl, rfl, fun x hx => Ledger.lookup_of_mem hext2.nodup ?_⟩
  cases x with
  | v4 p =>
    have := hext2.sub _ (hin1 (hc.v4 hx.2.2) p hx.1 hx.2.1)
    rwa [← hsame2] at this
  | v6 p n => exact (hin2 p hx.1 hx.2.1 n (Nat.lt_of_lt_of_le hx.2.2 hc.v6)).1
  | v6Wan p n => exact (hin2 p hx.1 hx.2.1 n (Nat.lt_of_lt_of_le hx.2.2 hc.v6)).2

end Client
end HiaeCommon
