/-
`IPACM_Lan::handle_del_ipv6_addr`: an IPv6 address of a client goes, with its
rules. The loop over the tx properties holds the loop that moves the addresses
down and counts them, and ends it with the position behind the last address:
right for one IPv6 property, and for no other number of them.
-/
import HiaeCommon.Ipacm.EthTable

namespace HiaeCommon

open Function (update)
open Lib (Ledger untilFailure untilFailure_append untilFailure_inv)
open Outside (AllSucceed)

variable {D : IpaDriver}

namespace EthLan

section Model

variable (D : IpaDriver)

/-- The inner loop, from `numV6` up to `ipv6Set`. -/
def moveV6 (txIndex numV6 ipv6Set : Nat) (c : Client Unit) : Client Unit :=
  (List.range' numV6 (ipv6Set - numV6)).foldl (fun c n =>
    { c with v6Addr := update c.v6Addr n (c.v6Addr (n + 1)) }.setRtHdl txIndex fun r =>
      { r with
        rtRuleHdlV6 := update r.rtRuleHdlV6 n (r.rtRuleHdlV6 (n + 1))
        rtRuleHdlV6Wan := update r.rtRuleHdlV6Wan n (r.rtRuleHdlV6Wan (n + 1)) }) c

/-- A body of the loop over the tx properties, with the position it goes on from. -/
def delV6Rules (t : TxProp) (txIndex : Nat) :
    (Client Unit × Nat) × Outside → Bool × (Client Unit × Nat) × Outside
  | ((c, numV6), o) =>
    if t.ip = .v6 ∧ c.routeRuleSetV6 ≠ 0 then
      match o.deleteRoutingHdl D ((c.rtHdl txIndex).rtRuleHdlV6 numV6) with
      | (false, o) => (false, (c, numV6), o)
      | (true, o) =>
        match o.deleteRoutingHdl D ((c.rtHdl txIndex).rtRuleHdlV6Wan numV6) with
        | (false, o) => (false, (c, numV6), o)
        | (true, o) =>
          let c := { c with ipv6Set := c.ipv6Set - 1, routeRuleSetV6 := c.routeRuleSetV6 - 1 }
          (true, (moveV6 txIndex numV6 c.ipv6Set c, max numV6 c.ipv6Set), o)
    else (true, (c, numV6), o)

/-- Where the client has the address. -/
def findV6 (c : Client Unit) (ipv6Addr : BitVec 128) : Option Nat := (List.range c.ipv6Set).find? fun n => ipv6Addr = c.v6Addr n

/-- `handle_del_ipv6_addr`. -/
def handleDelIpv6Addr (l : EthLan) (data : EventDataAll) (o : Outside) : Bool × EthLan × Outside :=
  match l.ethClient.index data.macAddr with
  | none => (false, l, o)
  | some i =>
    if data.iptype = .v6 then
      let c := l.ethClient.slot i
      -- a loop that finds nothing ends behind the last address
      let numV6 := if data.ipv6Addr ≠ 0 then (findV6 c data.ipv6Addr).getD c.ipv6Set else 0
      if numV6 = ipv6NumAddr then (false, l, o)
      else
        match untilFailure (fun p => delV6Rules D p.1 p.2) l.txProp.zipIdx ((c, numV6), o) with
        | (ok, (c, _), o) => (ok, { l with ethClient := l.ethClient.set i c }, o)
    else (true, l, o)

end Model

/-- The handles of the `n`-th address of a client. -/
def v6HdlsAt (tx : List TxProp) (c : Client Unit) (n : Nat) : List Nat :=
  tx.zipIdx.flatMap fun p => if p.1.ip = .v6 then [(c.rtHdl p.2).rtRuleHdlV6 n, (c.rtHdl p.2).rtRuleHdlV6Wan n] else []

/-- Counting without `n`. -/
def but (n k : Nat) : Nat := if k < n then k else k + 1

/-- The `n`-th address is gone from the record and its rules from the driver; the others have the handles they had. -/
structure AddrGone (tx : List TxProp) (n : Nat) (c c' : Client Unit) (o o' : Outside) : Prop where
  ipv6Set : c'.ipv6Set = c.ipv6Set - 1
  routeRuleSetV6 : c'.routeRuleSetV6 = c.routeRuleSetV6 - 1
  v6Addr : ∀ k < c.ipv6Set - 1, c'.v6Addr k = c.v6Addr (but n k)
  rtHdl : ∀ p ∈ tx.zipIdx, p.1.ip = .v6 → ∀ k < c.ipv6Set - 1,
    (c'.rtHdl p.2).rtRuleHdlV6 k = (c.rtHdl p.2).rtRuleHdlV6 (but n k) ∧
      (c'.rtHdl p.2).rtRuleHdlV6Wan k = (c.rtHdl p.2).rtRuleHdlV6Wan (but n k)
  rtHdlV4 : ∀ j, (c'.rtHdl j).rtRuleHdlV4 = (c.rtHdl j).rtRuleHdlV4
  rest : c' = { c with
    ipv6Set := c'.ipv6Set, routeRuleSetV6 := c'.routeRuleSetV6, v6Addr := c'.v6Addr, rtHdl := c'.rtHdl }
  rt : (o.rt.used : Multiset Nat) = v6HdlsAt tx c n + o'.rt.used
  misses : o'.rt.misses = o.rt.misses
  hdr : o'.hdr = o.hdr

/-- What the deletion of an address of the client in the slot `i` is to do: take the address away, or fail and leave all
as it is. -/
def DeletesAddr (l : EthLan) (i : Nat) (data : EventDataAll) (o : Outside) (r : Bool × EthLan × Outside) : Prop :=
  match findV6 (l.ethClient.slot i) data.ipv6Addr with
  | some n => r.1 = true ∧ ∃ c, r.2.1 = { l with ethClient := l.ethClient.set i c } ∧
      AddrGone l.txProp n (l.ethClient.slot i) c o r.2.2
  | none => r = (false, l, o)

/-! ## The loops -/

variable {c : Client Unit} {o : Outside} {tx : List TxProp}

/-- A row without its entries from `n` on, up to `n + q`. -/
def skip {α : Type} (n q : Nat) (f : Nat → α) (k : Nat) : α := if n ≤ k ∧ k < n + q then f (k + 1) else f k

theorem update_skip {α : Type} (n q : Nat) (f : Nat → α) :
    update (skip n q f) (n + q) (skip n q f (n + q + 1)) = skip n (q + 1) f := by
  funext k
  by_cases hk : k = n + q
  · subst hk
    rw [Function.update_self, skip, skip, if_neg (by omega), if_pos (by omega)]
  · rw [Function.update_of_ne hk, skip, skip]
    exact if_congr (by omega) rfl rfl

theorem skip_but {α : Type} {n q : Nat} (f : Nat → α) {k : Nat} (hk : k < n + q) : skip n q f k = f (but n k) := by
  rw [skip, but]
  by_cases hkn : k < n
  · rw [if_pos hkn, if_neg (by omega)]
  · rw [if_neg hkn, if_pos (by omega)]

/-- The inner loop moves the addresses and the handles of one property. -/
theorem moveV6_eq (txIndex numV6 ipv6Set : Nat) (c : Client Unit) : moveV6 txIndex numV6 ipv6Set c =
    { c with v6Addr := skip numV6 (ipv6Set - numV6) c.v6Addr }.setRtHdl txIndex fun r =>
      { r with
        rtRuleHdlV6 := skip numV6 (ipv6Set - numV6) r.rtRuleHdlV6
        rtRuleHdlV6Wan := skip numV6 (ipv6Set - numV6) r.rtRuleHdlV6Wan } := by
  rw [moveV6]
  induction ipv6Set - numV6 with
  | zero =>
    have hskip : ∀ {α : Type} (f : Nat → α), skip numV6 0 f = f := fun f => funext fun k => if_neg (by omega)
    simp only [hskip, Client.setRtHdl, ite_self]
    rfl
  | succ q ih =>
    rw [List.range'_1_concat, List.foldl_append, ih, List.foldl_cons, List.foldl_nil]
    simp only [Client.setRtHdl, update_skip]
    congr 1
    funext j
    by_cases hj : j = txIndex
    · simp only [hj, if_true, update_skip]
    · simp only [if_neg hj]

/-- A property of another family is passed over. -/
theorem delV6Rules_other {t : TxProp} (ht : t.ip ≠ .v6) (txIndex : Nat) (s : (Client Unit × Nat) × Outside) :
    delV6Rules D t txIndex s = (true, s) := if_neg fun h => ht h.1

theorem delV6Rules_v6 {t : TxProp} (ht : t.ip = .v6) (txIndex numV6 : Nat) (hc : c.routeRuleSetV6 ≠ 0) :
    delV6Rules D t txIndex ((c, numV6), o) = (true,
      (moveV6 txIndex numV6 (c.ipv6Set - 1) { c with ipv6Set := c.ipv6Set - 1, routeRuleSetV6 := c.routeRuleSetV6 - 1 },
        max numV6 (c.ipv6Set - 1)),
      o.deleteRoutingHdls D [(c.rtHdl txIndex).rtRuleHdlV6 numV6, (c.rtHdl txIndex).rtRuleHdlV6Wan numV6]) := by
  have hfst := fun h o => Outside.deleteRoutingHdl_fst (D := D) h o
  rw [delV6Rules, if_pos ⟨ht, hc⟩]
  have hpair : ∀ (h : Nat) (o : Outside), o.deleteRoutingHdl D h = (true, (o.deleteRoutingHdl D h).2) := fun h o => Prod.ext (hfst h o) rfl
  rw [hpair]
  dsimp only
  rw [hpair]
  rfl

/-- No property fails. -/
theorem delV6Rules_fst (t : TxProp) (txIndex : Nat) (s : (Client Unit × Nat) × Outside) : (delV6Rules D t txIndex s).1 = true := by
  obtain ⟨⟨c, numV6⟩, o⟩ := s
  by_cases h : t.ip = .v6 ∧ c.routeRuleSetV6 ≠ 0
  · rw [delV6Rules_v6 h.1 txIndex numV6 h.2]
  · rw [delV6Rules, if_neg h]

/-- The loop over the properties ends without a failure. -/
theorem delV6Loop_inv (I : (Client Unit × Nat) × Outside → Prop)
    (hI : ∀ p ∈ tx.zipIdx, ∀ s, I s → I (delV6Rules D p.1 p.2 s).2) {s : (Client Unit × Nat) × Outside} (hs : I s) :
    ∃ s', untilFailure (fun p => delV6Rules D p.1 p.2) tx.zipIdx s = (true, s') ∧ I s' := by
  obtain ⟨h1, h2⟩ := untilFailure_inv (f := fun p => delV6Rules D p.1 p.2) I (fun p hp s hs => ⟨delV6Rules_fst _ _ _, hI p hp s hs⟩) hs
  exact ⟨_, Prod.ext h1 rfl, h2⟩

/-- Without an IPv6 property it does nothing. -/
theorem delV6Loop_other {l : List (TxProp × Nat)} (hl : ∀ q ∈ l, q.1.ip ≠ .v6) (s : (Client Unit × Nat) × Outside) :
    untilFailure (fun p => delV6Rules D p.1 p.2) l s = (true, s) := by
  obtain ⟨h1, h2⟩ := untilFailure_inv (f := fun p => delV6Rules D p.1 p.2) (l := l) (fun s' => s' = s)
    (fun q hq s' hs' => by rw [delV6Rules_other (hl q hq)]; exact ⟨rfl, hs'⟩) rfl
  exact Prod.ext h1 h2

/-- A deletion takes at most one handle out. -/
theorem deleteRoutingHdl_length (hD : AllSucceed D) (h : Nat) (ho : o.rt.used.Nodup) :
    (o.deleteRoutingHdl D h).2.rt.used.Nodup ∧ o.rt.used.length ≤ (o.deleteRoutingHdl D h).2.rt.used.length + 1 := by
  unfold Outside.deleteRoutingHdl
  split
  · exact ⟨ho, Nat.le_succ _⟩
  rw [Outside.call_succeeds hD]
  show (o.rt.del h).used.Nodup ∧ o.rt.used.length ≤ (o.rt.del h).used.length + 1
  rw [Ledger.del]
  split
  next hm =>
    have hused : (⟨o.rt.live.filter fun x => x.1 ≠ h, o.rt.misses⟩ : Ledger RtRule).used = o.rt.used.erase h := by
      rw [ho.erase_eq_filter, Ledger.used, Ledger.used, List.filter_map]
      exact congrArg _ (List.filter_congr fun x _ => by rw [Bool.eq_iff_iff]; simp)
    rw [hused, List.length_erase_of_mem hm]
    exact ⟨ho.erase h, by omega⟩
  · exact ⟨ho, Nat.le_succ _⟩

/-- Each time an address is counted off, two handles go, at most. -/
structure CountedOff (c : Client Unit) (o : Outside) (s : (Client Unit × Nat) × Outside) : Prop where
  le : s.1.1.routeRuleSetV6 ≤ c.routeRuleSetV6
  nodup : s.2.rt.used.Nodup
  length : o.rt.used.length ≤ s.2.rt.used.length + 2 * (c.routeRuleSetV6 - s.1.1.routeRuleSetV6)

theorem CountedOff.step (hD : AllSucceed D) {s : (Client Unit × Nat) × Outside} (h : CountedOff c o s) (t : TxProp) (txIndex : Nat) :
    CountedOff c o (delV6Rules D t txIndex s).2 := by
  obtain ⟨⟨c', numV6⟩, o'⟩ := s
  by_cases hdue : t.ip = .v6 ∧ c'.routeRuleSetV6 ≠ 0
  · obtain ⟨hle, hnd, hlen⟩ := h
    dsimp only at hle hnd hlen
    have hpos := hdue.2
    obtain ⟨hnd₁, hlen₁⟩ := deleteRoutingHdl_length hD ((c'.rtHdl txIndex).rtRuleHdlV6 numV6) hnd
    obtain ⟨hnd₂, hlen₂⟩ := deleteRoutingHdl_length hD ((c'.rtHdl txIndex).rtRuleHdlV6Wan numV6) hnd₁
    rw [delV6Rules_v6 hdue.1 txIndex numV6 hdue.2, moveV6_eq]
    refine ⟨?_, hnd₂, ?_⟩
    · show c'.routeRuleSetV6 - 1 ≤ c.routeRuleSetV6
      omega
    · show _ ≤ _ + 2 * (c.routeRuleSetV6 - (c'.routeRuleSetV6 - 1))
      simp only [Outside.deleteRoutingHdls, List.foldl_cons, List.foldl_nil]
      omega
  · rwa [delV6Rules, if_neg hdue]

/-! ## One IPv6 property -/

/-- The number of IPv6 properties. -/
def numV6Props (tx : List TxProp) : Nat := tx.countP fun t => t.ip = .v6

theorem length_v6HdlsAt (tx : List TxProp) (c : Client Unit) (n : Nat) : (v6HdlsAt tx c n).length = 2 * numV6Props tx := by
  have hcount : numV6Props tx = tx.zipIdx.countP fun p => p.1.ip = .v6 := by
    conv_lhs => rw [numV6Props, ← List.zipIdx_map_fst 0 tx, List.countP_map]
    rfl
  rw [hcount, v6HdlsAt]
  induction tx.zipIdx with
  | nil => rfl
  | cons p l ih =>
    rw [List.flatMap_cons, List.length_append, ih, List.countP_cons]
    by_cases hp : p.1.ip = .v6
    · simp only [hp, if_true, decide_true, List.length_cons, List.length_nil]
      omega
    · simp [hp]

/-- One IPv6 property, between others. -/
theorem one_v6Prop (h : numV6Props tx = 1) : ∃ l₁ p l₂, tx.zipIdx = l₁ ++ p :: l₂ ∧ p.1.ip = .v6 ∧
    ∀ q, q ∈ l₁ ∨ q ∈ l₂ → q.1.ip ≠ .v6 := by
  have hcount : tx.zipIdx.countP (fun p => p.1.ip = .v6) = 1 := by
    rw [← h, numV6Props]
    conv_rhs => rw [← List.zipIdx_map_fst 0 tx, List.countP_map]
    rfl
  rw [List.countP_eq_length_filter, List.length_eq_one_iff] at hcount
  obtain ⟨p, hp⟩ := hcount
  obtain ⟨l₁, l₂, hl, h₁, hp6, h₂⟩ := List.filter_eq_cons_iff.1 hp
  refine ⟨l₁, p, l₂, hl, by simpa using hp6, fun q hq => ?_⟩
  rcases hq with hq | hq
  · simpa using h₁ q hq
  · simpa using List.filter_eq_nil_iff.1 h₂ q hq

/-- The handles of one address among those of the record. -/
theorem v6Hdls_split {p : TxProp × Nat} {l₁ l₂ : List (TxProp × Nat)} (htx : tx.zipIdx = l₁ ++ p :: l₂) (hp : p.1.ip = .v6)
    {n : Nat} (hn : n < c.routeRuleSetV6) : ∃ rest : Multiset Nat, (c.rtHdlsV6 tx : Multiset Nat) =
      {(c.rtHdl p.2).rtRuleHdlV6 n} + ({(c.rtHdl p.2).rtRuleHdlV6Wan n} + rest) := by
  obtain ⟨a, b, hab⟩ := List.append_of_mem (List.mem_range.2 hn)
  have hne : c.routeRuleSetV6 ≠ 0 := Nat.ne_of_gt (Nat.zero_lt_of_lt hn)
  rw [Client.rtHdlsV6, htx, List.flatMap_append, List.flatMap_cons, if_pos ⟨hp, hne⟩, hab, List.flatMap_append, List.flatMap_cons]
  simp only [← Multiset.coe_add, List.cons_append, List.nil_append, ← Multiset.cons_coe, ← Multiset.singleton_add]
  generalize ((List.flatMap _ l₁ : List Nat) : Multiset Nat) = m₁
  generalize ((List.flatMap _ a : List Nat) : Multiset Nat) = m₂
  generalize ((List.flatMap _ b : List Nat) : Multiset Nat) = m₃
  generalize ((List.flatMap _ l₂ : List Nat) : Multiset Nat) = m₄
  exact ⟨m₁ + m₂ + m₃ + m₄, by abel⟩

/-- The loop, for one IPv6 property. -/
theorem delV6Loop_one (hD : AllSucceed D) (hone : numV6Props tx = 1) {n : Nat} (hn : n < c.routeRuleSetV6)
    (hset : c.routeRuleSetV6 = c.ipv6Set) {s : Multiset Nat} (hk : o.rt.Keeps (c.rtHdlsV6 tx + s)) (h0 : 0 ∉ c.rtHdlsV6 tx) :
    ∃ c' m o', untilFailure (fun p => delV6Rules D p.1 p.2) tx.zipIdx ((c, n), o) = (true, (c', m), o') ∧
      AddrGone tx n c c' o o' := by
  obtain ⟨l₁, p, l₂, htx, hp, hother⟩ := one_v6Prop hone
  have hpos : c.routeRuleSetV6 ≠ 0 := Nat.ne_of_gt (Nat.zero_lt_of_lt hn)
  obtain ⟨rest, hrest⟩ := v6Hdls_split htx hp hn
  have hk₁ : o.rt.Keeps ({(c.rtHdl p.2).rtRuleHdlV6 n} + ({(c.rtHdl p.2).rtRuleHdlV6Wan n} + (rest + s))) :=
    hk.of_eq (by rw [hrest, add_assoc, add_assoc])
  have hmem : ∀ k ∈ ({(c.rtHdl p.2).rtRuleHdlV6 n} + ({(c.rtHdl p.2).rtRuleHdlV6Wan n} + rest) : Multiset Nat), k ≠ 0 :=
    fun k hk he => h0 (by rw [← Multiset.mem_coe, hrest, ← he]; exact hk)
  obtain ⟨hd₁, hh₁, -⟩ := Outside.deleteRoutingHdl_keeps (D := D) hk₁ (hmem _ (by simp))
  rw [hD, if_neg Bool.false_ne_true] at hd₁
  obtain ⟨hd₂, hh₂, -⟩ := Outside.deleteRoutingHdl_keeps (D := D) hd₁ (hmem _ (by simp))
  rw [hD, if_neg Bool.false_ne_true] at hd₂
  have hlater : ∀ s : (Client Unit × Nat) × Outside, untilFailure (fun p => delV6Rules D p.1 p.2) (p :: l₂) s =
      (true, (delV6Rules D p.1 p.2 s).2) := fun s => by
    rw [untilFailure, if_pos (delV6Rules_fst _ _ _)]
    exact delV6Loop_other (fun q hq => hother q (.inr hq)) _
  have hloop : untilFailure (fun p => delV6Rules D p.1 p.2) tx.zipIdx ((c, n), o) = (true, (delV6Rules D p.1 p.2 ((c, n), o)).2) := by
    rw [htx, untilFailure_append, delV6Loop_other fun q hq => hother q (.inl hq)]
    exact hlater _
  rw [delV6Rules_v6 hp p.2 n hpos, moveV6_eq] at hloop
  refine ⟨_, _, _, hloop, rfl, rfl, fun k hk => skip_but _ (by omega), fun q hq hq6 k hk => ?_, fun j => ?_, rfl, ?_, ?_, ?_⟩
  · have hqp : q = p := by
      rw [htx, List.mem_append, List.mem_cons] at hq
      by_contra hne
      rcases hq with hq | hq | hq
      · exact hother q (.inl hq) hq6
      · exact hne hq
      · exact hother q (.inr hq) hq6
    subst hqp
    simp only [Client.setRtHdl, if_true]
    exact ⟨skip_but _ (by omega), skip_but _ (by omega)⟩
  · simp only [Client.setRtHdl]
    split <;> rfl
  · have hat : v6HdlsAt tx c n = [(c.rtHdl p.2).rtRuleHdlV6 n, (c.rtHdl p.2).rtRuleHdlV6Wan n] := by
      have hnil : ∀ l : List (TxProp × Nat), (∀ q ∈ l, q.1.ip ≠ .v6) → (l.flatMap fun p =>
          if p.1.ip = .v6 then [(c.rtHdl p.2).rtRuleHdlV6 n, (c.rtHdl p.2).rtRuleHdlV6Wan n] else []) = [] := fun l hl =>
        List.flatMap_eq_nil_iff.2 fun q hq => if_neg (hl q hq)
      rw [v6HdlsAt, htx, List.flatMap_append, List.flatMap_cons, hnil l₁ fun q hq => hother q (.inl hq),
        hnil l₂ fun q hq => hother q (.inr hq), if_pos hp]
      rfl
    rw [hat, hk₁.used]
    show _ = _ + ((((o.deleteRoutingHdl D _).2.deleteRoutingHdl D _).2.rt.used : List Nat) : Multiset Nat)
    rw [hd₂.used]
    simp only [← Multiset.cons_coe, Multiset.coe_nil, ← Multiset.singleton_add, add_zero, add_assoc]
  · exact hd₂.misses.trans hk.misses.symm
  · exact hh₂.trans hh₁

/-- **An IPv6 address of a client is deleted** as it is to be exactly if the client has it and there is one IPv6 property, or
the client does not have it and has as many as it may. -/
theorem del_ipv6_addr_iff (hD : AllSucceed D) {l : EthLan} {data : EventDataAll} {i : Nat}
    (hi : l.ethClient.index data.macAddr = some i) (h6 : data.iptype = .v6) (ha : data.ipv6Addr ≠ 0)
    (hset : (l.ethClient.slot i).routeRuleSetV6 = (l.ethClient.slot i).ipv6Set)
    (hle : (l.ethClient.slot i).ipv6Set ≤ ipv6NumAddr) {s : Multiset Nat}
    (hk : o.rt.Keeps ((l.ethClient.slot i).rtHdlsV6 l.txProp + s)) (h0 : 0 ∉ (l.ethClient.slot i).rtHdlsV6 l.txProp) :
    DeletesAddr l i data o (l.handleDelIpv6Addr D data o) ↔
      ((∃ n < (l.ethClient.slot i).ipv6Set, data.ipv6Addr = (l.ethClient.slot i).v6Addr n) → numV6Props l.txProp = 1) ∧
      ((∀ n < (l.ethClient.slot i).ipv6Set, data.ipv6Addr ≠ (l.ethClient.slot i).v6Addr n) →
        (l.ethClient.slot i).ipv6Set = ipv6NumAddr) := by
  generalize hc : l.ethClient.slot i = c at hset hle hk h0
  rw [DeletesAddr, handleDelIpv6Addr, hi]
  dsimp only
  rw [if_pos h6, if_pos ha, hc]
  cases hf : findV6 c data.ipv6Addr with
  | none =>
    have hno : ∀ n < c.ipv6Set, data.ipv6Addr ≠ c.v6Addr n := fun n hn => by
      simpa using List.find?_eq_none.1 hf n (List.mem_range.2 hn)
    rw [Option.getD_none]
    by_cases hfull : c.ipv6Set = ipv6NumAddr
    · rw [if_pos hfull]
      exact iff_of_true rfl ⟨fun ⟨n, hn, he⟩ => absurd he (hno n hn), fun _ => hfull⟩
    · rw [if_neg hfull]
      obtain ⟨s', hs', -⟩ := @delV6Loop_inv D l.txProp (fun _ => True) (fun _ _ _ _ => trivial) ((c, c.ipv6Set), o) trivial
      rw [hs']
      exact iff_of_false (fun h => Bool.false_ne_true (congrArg Prod.fst h).symm) fun h => hfull (h.2 hno)
  | some n =>
    have hn : n < c.ipv6Set := List.mem_range.1 (List.mem_of_find?_eq_some hf)
    have hat : data.ipv6Addr = c.v6Addr n := by simpa using List.find?_some hf
    rw [Option.getD_some, if_neg (by omega)]
    constructor
    · intro h
      refine ⟨fun _ => ?_, fun hno => absurd hat (hno n hn)⟩
      obtain ⟨⟨⟨c', m⟩, o'⟩, hloop, hcount⟩ := @delV6Loop_inv D l.txProp (CountedOff c o) (fun p _ s hs => hs.step hD p.1 p.2)
        ((c, n), o) ⟨Nat.le_refl _, hk.nodup, Nat.le_add_right _ _⟩
      rw [hloop] at h
      obtain ⟨-, c'', hl, hgone⟩ := h
      have hcc : c' = c'' := by
        have := congrArg (fun l : EthLan => l.ethClient.slot i) hl
        simpa using this
      subst hcc
      have hused := congrArg Multiset.card hgone.rt
      rw [Multiset.card_add, Multiset.coe_card, Multiset.coe_card, Multiset.coe_card, length_v6HdlsAt] at hused
      have hlen := hcount.length
      have hdrop := hgone.routeRuleSetV6
      dsimp only at hlen hdrop hused
      have hle1 : numV6Props l.txProp ≤ 1 := by omega
      by_contra hne
      -- without a property nothing is counted off
      have hzero : numV6Props l.txProp = 0 := by omega
      have hnone : ∀ q ∈ l.txProp.zipIdx, q.1.ip ≠ .v6 := fun q hq => by
        simpa using List.countP_eq_zero.1 hzero q.1 (List.fst_mem_of_mem_zipIdx hq)
      rw [delV6Loop_other hnone] at hloop
      cases hloop
      omega
    · rintro ⟨hone, -⟩
      obtain ⟨c', m, o', hloop, hgone⟩ := delV6Loop_one hD (hone ⟨n, hn, hat⟩) (hset ▸ hn) hset hk h0
      rw [hloop]
      exact ⟨rfl, c', rfl, hgone⟩

/-- A client with so many addresses, and two rules for each property and address. -/
def sampleV6 (props addrs : Nat) : EthLan where
  txProp := List.replicate props ⟨.v6, 4, 5, "eth0_ipv6"⟩
  rmName := .usbCons
  ethClient := ⟨1, fun _ =>
    { mac := 1, v6Addr := fun n => BitVec.ofNat 128 (7 + n), routeRuleSetV6 := addrs, ipv6Set := addrs, own := ()
      rtHdl := fun j => { rtRuleHdlV6 := fun n => 10 * (j + 1) + 2 * n, rtRuleHdlV6Wan := fun n => 10 * (j + 1) + 2 * n + 1 } }⟩
  ipv6Prefix := 0
  appsLanCons := 17
  eth2Ofst := fun _ => (true, 0)
  bridgeMac := none
  headerNameCount := 1

/-- The rules, under their handles. -/
def sampleV6Rules (hdls : List Nat) : Outside where
  rt := ⟨hdls.map fun h => (h, ⟨.v6, 4, none, 0, 7⟩), 0⟩

theorem del_ipv6_addr_iff_sample : DeletesAddr (sampleV6 1 2) 0 ⟨.v6, 3, 0, 7, 1⟩ (sampleV6Rules [10, 11, 12, 13])
    ((sampleV6 1 2).handleDelIpv6Addr (sampleDriver []) ⟨.v6, 3, 0, 7, 1⟩ (sampleV6Rules [10, 11, 12, 13])) :=
  (@del_ipv6_addr_iff (sampleDriver []) (sampleV6Rules [10, 11, 12, 13]) (fun _ => rfl) (sampleV6 1 2) ⟨.v6, 3, 0, 7, 1⟩ 0 (by decide) rfl
    (by decide) rfl (by decide) 0 ⟨by decide, by decide, rfl⟩ (by decide)).2 ⟨fun _ => by decide, fun h => absurd rfl (h 0 (by decide))⟩

/-- With two IPv6 properties both addresses are counted off, and an address the client does not have is deleted with success. -/
theorem not_del_ipv6_addr_sample :
    ¬ DeletesAddr (sampleV6 2 2) 0 ⟨.v6, 3, 0, 7, 1⟩ (sampleV6Rules [10, 11, 12, 13, 20, 21, 22, 23])
      ((sampleV6 2 2).handleDelIpv6Addr (sampleDriver []) ⟨.v6, 3, 0, 7, 1⟩ (sampleV6Rules [10, 11, 12, 13, 20, 21, 22, 23])) ∧
    ¬ DeletesAddr (sampleV6 1 1) 0 ⟨.v6, 3, 0, 9, 1⟩ (sampleV6Rules [10, 11])
      ((sampleV6 1 1).handleDelIpv6Addr (sampleDriver []) ⟨.v6, 3, 0, 9, 1⟩ (sampleV6Rules [10, 11])) := by
  constructor
  · rintro ⟨-, c, hl, hgone⟩
    have hleft := congrArg (fun l : EthLan => (l.ethClient.slot 0).ipv6Set) hl
    exact absurd (hgone.ipv6Set.symm.trans hleft.symm) (by decide)
  · intro h
    exact absurd (congrArg Prod.fst h) (by decide)

end EthLan
end HiaeCommon
