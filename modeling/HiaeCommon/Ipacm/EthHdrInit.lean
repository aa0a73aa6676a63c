/-
What a call of `handle_eth_hdr_init` leaves behind, whichever of its calls of
the driver fails. It asks for the IPv4 header first and for the IPv6 header
then, and where the second fails nothing takes the first back.
-/
import HiaeCommon.Ipacm.EthTable

namespace HiaeCommon

open Lib (untilFailure_keeps)

variable {D : IpaDriver}

/-! ## Header flags -/

namespace Client

variable {σ : Type} {tx : List TxProp} {c : Client σ} {o : Outside}

/-- The rules of a client are none of its headers. -/
theorem addRules_backed (R : ClientRules) (tx' : List TxProp) (iptype : IpType) (h : c.HeadersBacked tx) :
    (addRules D R tx' iptype (c, o)).2.1.HeadersBacked tx := by
  have h4 : ∀ (p : TxProp × Nat) (s : Client σ × Outside), s.1.HeadersBacked tx → (addRuleV4 D R p.1 p.2 s).2.1.HeadersBacked tx := by
    rintro p ⟨c, o⟩ h
    unfold addRuleV4
    dsimp only
    split
    · exact h
    · exact ⟨h.hdr4, h.hdr6⟩
  have h6 : ∀ (p : TxProp × Nat) (n : Nat) (s : Client σ × Outside), s.1.HeadersBacked tx →
      (addRulesV6 D R p.1 p.2 n s).2.1.HeadersBacked tx := by
    rintro p n ⟨c, o⟩ h
    unfold addRulesV6
    dsimp only
    split
    · exact h
    split
    · exact ⟨h.hdr4, h.hdr6⟩
    · exact ⟨h.hdr4, h.hdr6⟩
  have hloop4 := untilFailure_keeps (f := fun p s => if p.1.ip = .v4 then addRuleV4 D R p.1 p.2 s else (true, s))
    (l := tx'.zipIdx) (s := (c, o)) (fun s => s.1.HeadersBacked tx) (fun p _ s hs => by
      split
      · exact h4 p s hs
      · exact hs) h
  have hloop6 := untilFailure_keeps (f := fun p s =>
      if p.1.ip = .v6 then
        Lib.untilFailure (addRulesV6 D R p.1 p.2) (List.range' c.routeRuleSetV6 (c.ipv6Set - c.routeRuleSetV6)) s
      else (true, s))
    (l := tx'.zipIdx) (s := (c, o)) (fun s => s.1.HeadersBacked tx) (fun p _ s hs => by
      split
      · exact untilFailure_keeps (fun s => s.1.HeadersBacked tx) (fun n _ s hs => h6 p n s hs) hs
      · exact hs) h
  unfold addRules
  dsimp only
  split
  · split
    next heq => rwa [heq] at hloop4
    next heq =>
      rw [heq] at hloop4
      exact ⟨hloop4.hdr4, hloop4.hdr6⟩
  split
  · split
    next heq => rwa [heq] at hloop6
    next heq =>
      rw [heq] at hloop6
      exact ⟨hloop6.hdr4, hloop6.hdr6⟩
  · exact h

/-- A header's deletion takes a flag back or leaves it. -/
theorem clean_backed (tx' : List TxProp) (h : c.HeadersBacked tx) : (c.clean D tx' o).2.1.HeadersBacked tx := by
  rw [clean_eq]
  refine untilFailure_keeps (fun s : Client σ × Outside => s.1.HeadersBacked tx) ?_ ⟨h.hdr4, h.hdr6⟩
  rintro f hf ⟨c, o⟩ hc
  have hc : c.HeadersBacked tx := hc
  have hdel : ∀ (set : Bool) (hdl : Nat) (cleared : Client σ), cleared.HeadersBacked tx →
      (deleteHeader D set hdl cleared c o).2.1.HeadersBacked tx := by
    intro set hdl cleared hcl
    unfold deleteHeader
    split
    · dsimp only
      split
      · exact hcl
      · exact hc
    · exact hc
  simp only [List.mem_cons, List.not_mem_nil, or_false] at hf
  rcases hf with rfl | rfl
  · exact hdel _ _ _ ⟨fun h => absurd h Bool.false_ne_true, hc.hdr6⟩
  · exact hdel _ _ _ ⟨hc.hdr4, fun h => absurd h Bool.false_ne_true⟩

end Client

namespace ClientTable

variable {σ : Type} {tx : List TxProp} {t : ClientTable σ} {o : Outside}

/-- No header without a property for it. -/
def Backed (tx : List TxProp) (t : ClientTable σ) : Prop := ∀ i, (t.slot i).HeadersBacked tx

theorem Backed.set (h : t.Backed tx) (i : Nat) {c : Client σ} (hc : c.HeadersBacked tx) : (t.set i c).Backed tx := by
  intro k
  by_cases hk : k = i
  · rw [hk, set_slot_self]
    exact hc
  · rw [set_slot_ne _ hk]
    exact h k

theorem Backed.clientIpaddr (h : t.Backed tx) (ipv6Prefix : BitVec 64) (data : EventDataAll) :
    (t.clientIpaddr D tx ipv6Prefix data o).2.1.Backed tx := by
  have hsame : ∀ i (c : Client σ), c.ipv4HeaderSet = (t.slot i).ipv4HeaderSet → c.ipv6HeaderSet = (t.slot i).ipv6HeaderSet →
      (t.set i c).Backed tx := fun i c h4 h6 => h.set i ⟨fun hc => (h i).hdr4 (h4 ▸ hc), fun hc => (h i).hdr6 (h6 ▸ hc)⟩
  unfold ClientTable.clientIpaddr
  split
  · exact h
  next i hi =>
    dsimp only
    rw [Client.deleteRtRules_v4]
    split_ifs <;> first | exact h | exact hsame i _ rfl rfl

theorem Backed.clientDown (h : t.Backed tx) (mac : MacAddr) : (t.clientDown D tx mac o).2.1.Backed tx := by
  unfold ClientTable.clientDown
  split
  · exact h
  next i hi =>
    dsimp only
    generalize (if (t.slot i).ipv4Set = true then o.tell (.neighIpAddrDel (t.slot i).v4Addr) else o) = o'
    have hclean := Client.clean_backed (D := D) (o := o') tx (h i)
    split
    next heq =>
      rw [heq] at hclean
      exact h.set i hclean
    next c _ heq =>
      have hset : (t.set i c.resetFlags).Backed tx :=
        h.set i ⟨fun hc => absurd hc Bool.false_ne_true, fun hc => absurd hc Bool.false_ne_true⟩
      intro k
      dsimp only
      rw [compact_slot]
      split
      · exact ⟨(hset (k + 1)).hdr4, (hset (k + 1)).hdr6⟩
      · exact hset k

end ClientTable

/-! ## The call -/

namespace EthLan

variable {l : EthLan} {macAddr : MacAddr} {c : Client Unit} {o : Outside}

/-- There is a property for a header of the family. -/
def HasProp (l : EthLan) (ip : IpType) : Prop := ∃ t ∈ l.txProp, t.ip = ip

/-- How the loop for a header ends: there is none, one of its two calls fails, or the header is installed. -/
theorem addHeader_cases (ip : IpType) (set : Client Unit → Nat → Client Unit) :
    ¬ l.HasProp ip ∧ l.addHeader D ip set macAddr (c, o) = (some (), c, o) ∨
    l.HasProp ip ∧ (D.fails o.calls = true ∨ D.fails (o.calls + 1) = true) ∧
      (∃ o', l.addHeader D ip set macAddr (c, o) = (none, c, o') ∧ o'.hdr.live = o.hdr.live) ∨
    l.HasProp ip ∧ ¬ (D.fails o.calls = true ∨ D.fails (o.calls + 1) = true) ∧
      ∃ h r o', l.addHeader D ip set macAddr (c, o) = (some (), set c h, o') ∧ o'.hdr.live = (h, r) :: o.hdr.live ∧
        o'.calls = o.calls + 2 := by
  unfold addHeader
  cases hf : l.txProp.find? fun t => t.ip = ip with
  | none =>
    refine .inl ⟨fun ⟨t, ht, hip⟩ => ?_, by dsimp only⟩
    simpa [hip] using List.find?_eq_none.1 hf t ht
  | some t =>
    have hprop : l.HasProp ip := ⟨t, List.mem_of_find?_eq_some hf, by simpa using List.find?_some hf⟩
    cases hcopy : D.fails o.calls with
    | true => exact .inr (.inl ⟨hprop, .inl rfl, { o with calls := o.calls + 1 }, by simp [Outside.copyHeader, Outside.call, hcopy], rfl⟩)
    | false =>
      cases hadd : D.fails (o.calls + 1) with
      | true =>
        exact .inr (.inl ⟨hprop, .inr rfl, { o with calls := o.calls + 1 + 1 },
          by simp [Outside.copyHeader, Outside.addHeader, Outside.call, hcopy, hadd], rfl⟩)
      | false =>
        exact .inr (.inr ⟨hprop, by simp, _, _, _,
          by simp [Outside.copyHeader, Outside.addHeader, Outside.call, hcopy, hadd]; exact ⟨rfl, rfl⟩, rfl, rfl⟩)

/-- What a call leaves: where it fails the headers there were and the clients there were, where it succeeds the new client
and, installed in front of the others, the headers its record names. Without properties there is no header and no client. -/
structure LeavesHeaders (l : EthLan) (o : Outside) (macAddr : MacAddr) (r : Bool × EthLan × Outside) : Prop where
  others : ∀ i < l.ethClient.num, r.2.1.ethClient.slot i = l.ethClient.slot i
  failed : r.1 = false → r.2.2.hdr.live = o.hdr.live ∧ r.2.1.ethClient.num = l.ethClient.num ∧
    r.2.1.headerNameCount = l.headerNameCount
  done : r.1 = true → ∃ new, r.2.2.hdr.live = new ++ o.hdr.live ∧
    if l.txProp = [] then new = []
    else r.2.1.ethClient.num = l.ethClient.num + 1 ∧ (r.2.1.ethClient.slot l.ethClient.num).mac = macAddr ∧
      (new.map Prod.fst).Perm (r.2.1.ethClient.slot l.ethClient.num).hdrHdls

/-- The IPv4 header of a new client is installed, and the query or the installation of its IPv6 header fails. -/
def FailsBehindV4 (D : IpaDriver) (l : EthLan) (o : Outside) (macAddr : MacAddr) : Prop :=
  l.ethClient.index macAddr = none ∧ l.ethClient.num < ipaMaxNumEthClients ∧ l.HasProp .v4 ∧ l.HasProp .v6 ∧
    ¬ (D.fails o.calls = true ∨ D.fails (o.calls + 1) = true) ∧
    (D.fails (o.calls + 2) = true ∨ D.fails (o.calls + 3) = true)

theorem slot_set_free (l : EthLan) (c : Client Unit) (i : Nat) (hi : i < l.ethClient.num) :
    (l.ethClient.set l.ethClient.num c).slot i = l.ethClient.slot i := ClientTable.set_slot_ne _ (Nat.ne_of_lt hi) _

/-- A failure leaves the record behind those in use written, and what it installed so far. -/
theorem failed_leaves_iff (l : EthLan) (c : Client Unit) {o' : Outside} {n : List (Nat × HdrEntry)}
    (hl : o'.hdr.live = n ++ o.hdr.live) :
    LeavesHeaders l o macAddr (false, { l with ethClient := l.ethClient.set l.ethClient.num c }, o') ↔ n = [] := by
  constructor
  · intro h
    have hlive := (h.failed rfl).1
    rw [hl] at hlive
    exact List.append_left_eq_self.1 hlive
  · rintro rfl
    exact ⟨slot_set_free l _, fun _ => ⟨hl, rfl, rfl⟩, fun h => absurd h Bool.false_ne_true⟩

/-- The end of the call. -/
theorem done_leaves (htx : l.txProp ≠ []) (hc : c.mac = macAddr) {o' : Outside} {n : List (Nat × HdrEntry)}
    (hl : o'.hdr.live = n ++ o.hdr.live) (hnew : (n.map Prod.fst).Perm c.hdrHdls) :
    LeavesHeaders l o macAddr (true, { l with
      ethClient := { l.ethClient.set l.ethClient.num
        { c with routeRuleSetV4 := false, routeRuleSetV6 := 0, ipv4Set := false, ipv6Set := 0 } with num := l.ethClient.num + 1 }
      headerNameCount := l.headerNameCount + 1 }, o') := by
  refine ⟨slot_set_free l _, fun h => absurd h.symm Bool.false_ne_true, fun _ => ⟨n, hl, ?_⟩⟩
  rw [if_neg htx]
  refine ⟨rfl, ?_, ?_⟩
  · rw [ClientTable.set_slot_self]
    exact hc
  · rw [ClientTable.set_slot_self]
    exact hnew

theorem handleEthHdrInit_leaves_iff (hb : (l.ethClient.slot l.ethClient.num).HeadersBacked l.txProp) (macAddr : MacAddr) (o : Outside) :
    LeavesHeaders l o macAddr (l.handleEthHdrInit D macAddr o) ↔ ¬ FailsBehindV4 D l o macAddr := by
  unfold handleEthHdrInit
  dsimp only
  cases hidx : l.ethClient.index macAddr with
  | some i =>
    refine iff_of_true ⟨fun _ _ => rfl, fun _ => ⟨rfl, rfl, rfl⟩, fun h => absurd h Bool.false_ne_true⟩ fun hf => ?_
    rw [FailsBehindV4, hidx] at hf
    cases hf.1
  | none =>
    by_cases hroom : l.ethClient.num ≥ ipaMaxNumEthClients
    · rw [if_pos hroom]
      exact iff_of_true ⟨fun _ _ => rfl, fun _ => ⟨rfl, rfl, rfl⟩, fun h => absurd h Bool.false_ne_true⟩
        fun hf => absurd hroom (Nat.not_le.2 hf.2.1)
    rw [if_neg hroom]
    by_cases htx : l.txProp = []
    · rw [if_pos htx]
      refine iff_of_true ⟨slot_set_free l _, fun h => absurd h.symm Bool.false_ne_true, fun _ => ⟨[], rfl, by rw [if_pos htx]⟩⟩
        fun hf => ?_
      obtain ⟨t, ht, -⟩ := hf.2.2.1
      rw [htx] at ht
      cases ht
    rw [if_neg htx]
    have hb : ({ l.ethClient.slot l.ethClient.num with mac := macAddr } : Client Unit).HeadersBacked l.txProp := ⟨hb.hdr4, hb.hdr6⟩
    have hmac : ({ l.ethClient.slot l.ethClient.num with mac := macAddr } : Client Unit).mac = macAddr := rfl
    generalize ({ l.ethClient.slot l.ethClient.num with mac := macAddr } : Client Unit) = c at hb hmac ⊢
    have hoff4 : ¬ l.HasProp .v4 → c.ipv4HeaderSet = false := fun hno => Bool.eq_false_iff.2 fun h => hno (hb.hdr4 h)
    have hoff6 : ¬ l.HasProp .v6 → c.ipv6HeaderSet = false := fun hno => Bool.eq_false_iff.2 fun h => hno (hb.hdr6 h)
    rcases @addHeader_cases D l macAddr c o .v4 Client.withHdrV4 with
      ⟨hno4, he4⟩ | ⟨hp4, hf4, o₁, he4, hl4⟩ | ⟨hp4, hok4, h4, r4, o₁, he4, hl4, hcalls⟩
    · -- only an IPv6 header is due
      have hok : ¬ FailsBehindV4 D l o macAddr := fun hf => hno4 hf.2.2.1
      rw [he4]
      dsimp only
      rcases @addHeader_cases D l macAddr c o .v6 Client.withHdrV6 with
        ⟨hno6, he6⟩ | ⟨hp6, hf6, o₂, he6, hl6⟩ | ⟨hp6, hok6, h6, r6, o₂, he6, hl6, -⟩
      · rw [he6]
        refine iff_of_true (@done_leaves l macAddr c o htx hmac o [] rfl ?_) hok
        simp [Client.hdrHdls, hoff4 hno4, hoff6 hno6]
      · rw [he6]
        exact iff_of_true ((@failed_leaves_iff macAddr o l c o₂ [] hl6).2 rfl) hok
      · rw [he6]
        refine iff_of_true (@done_leaves l macAddr (Client.withHdrV6 c h6) o htx hmac o₂ [(h6, r6)] hl6 ?_) hok
        simp [Client.hdrHdls, hoff4 hno4]
    · rw [he4]
      exact iff_of_true ((@failed_leaves_iff macAddr o l c o₁ [] hl4).2 rfl) fun hf => hf.2.2.2.2.1 hf4
    · -- the IPv4 header is installed
      rw [he4]
      dsimp only
      rcases @addHeader_cases D l macAddr (Client.withHdrV4 c h4) o₁ .v6 Client.withHdrV6 with
        ⟨hno6, he6⟩ | ⟨hp6, hf6, o₂, he6, hl6⟩ | ⟨hp6, hok6, h6, r6, o₂, he6, hl6, -⟩
      · rw [he6]
        refine iff_of_true (@done_leaves l macAddr (Client.withHdrV4 c h4) o htx hmac o₁ [(h4, r4)] hl4 ?_) fun hf => hno6 hf.2.2.2.1
        simp [Client.hdrHdls, hoff6 hno6]
      · rw [he6]
        rw [hl4] at hl6
        rw [hcalls] at hf6
        refine iff_of_false (fun h => ?_) fun hf => hf ⟨hidx, Nat.lt_of_not_le hroom, hp4, hp6, hok4, hf6⟩
        exact List.cons_ne_nil _ _ ((@failed_leaves_iff macAddr o l _ o₂ [(h4, r4)] hl6).1 h)
      · rw [he6]
        rw [hcalls] at hok6
        rw [hl4] at hl6
        refine iff_of_true (@done_leaves l macAddr (Client.withHdrV6 (Client.withHdrV4 c h4) h6) o htx hmac o₂ [(h6, r6), (h4, r4)] hl6 ?_)
          fun hf => hok6 hf.2.2.2.2.2
        simp only [Client.hdrHdls, if_true]
        exact List.Perm.swap ..

/-! ## Runs -/

/-- The properties are those there were, and no header is without one. -/
structure Backed (tx : List TxProp) (l : EthLan) : Prop where
  txProp : l.txProp = tx
  backed : l.ethClient.Backed tx

variable {tx : List TxProp}

theorem addHeader_backed (hl : l.txProp = tx) (hc : c.HeadersBacked tx) {ip : IpType} {set : Client Unit → Nat → Client Unit}
    (hset : (∃ t ∈ tx, t.ip = ip) → ∀ h, (set c h).HeadersBacked tx) {x : Option Unit} {c' : Client Unit} {o' : Outside}
    (he : l.addHeader D ip set macAddr (c, o) = (x, c', o')) : c'.HeadersBacked tx := by
  rcases @addHeader_cases D l macAddr c o ip set with ⟨-, he'⟩ | ⟨-, -, o₁, he', -⟩ | ⟨hp, -, h, r, o₁, he', -⟩
  · cases he.symm.trans he'
    exact hc
  · cases he.symm.trans he'
    exact hc
  · cases he.symm.trans he'
    exact hset (hl ▸ hp) h

theorem Backed.handleEthHdrInit (hb : l.Backed tx) (macAddr : MacAddr) (o : Outside) :
    (l.handleEthHdrInit D macAddr o).2.1.Backed tx := by
  have hset : ∀ (c : Client Unit), c.HeadersBacked tx → Backed tx { l with ethClient := l.ethClient.set l.ethClient.num c } :=
    fun c hc => ⟨hb.txProp, hb.backed.set _ hc⟩
  have hnew : ({ l.ethClient.slot l.ethClient.num with mac := macAddr } : Client Unit).HeadersBacked tx :=
    ⟨(hb.backed _).hdr4, (hb.backed _).hdr6⟩
  unfold EthLan.handleEthHdrInit
  dsimp only
  split
  · exact hb
  split
  · exact hb
  split
  · exact hset _ hnew
  split
  next he4 => exact hset _ (addHeader_backed hb.txProp hnew (fun hp _ => ⟨fun _ => hp, hnew.hdr6⟩) he4)
  next he4 =>
    have h4 := addHeader_backed hb.txProp hnew (fun hp _ => ⟨fun _ => hp, hnew.hdr6⟩) he4
    split
    next he6 => exact hset _ (addHeader_backed hb.txProp h4 (fun hp _ => ⟨h4.hdr4, fun _ => hp⟩) he6)
    next he6 =>
      have h6 := addHeader_backed hb.txProp h4 (fun hp _ => ⟨h4.hdr4, fun _ => hp⟩) he6
      exact ⟨hb.txProp, hb.backed.set _ ⟨h6.hdr4, h6.hdr6⟩⟩

end EthLan

namespace EthSys

variable {tx : List TxProp} {sys : EthSys}

theorem step_backed (e : EthEvt) (h : sys.lan.Backed tx) : (sys.step D e).lan.Backed tx := by
  cases e with
  | clientAdd macAddr => exact h.handleEthHdrInit macAddr sys.outside
  | clientAddr data => exact ⟨h.txProp, by
      have hb := h.backed
      rw [← h.txProp] at hb ⊢
      exact hb.clientIpaddr sys.lan.ipv6Prefix data⟩
  | routeAdd macAddr iptype =>
    show (sys.lan.handleEthClientRouteRule D macAddr iptype sys.outside).2.1.Backed tx
    unfold EthLan.handleEthClientRouteRule
    split
    · exact h
    split
    · exact h
    · exact ⟨h.txProp, h.backed.set _ (Client.addRules_backed _ _ _ (h.backed _))⟩
  | clientDel macAddr =>
    have hdown : (sys.lan.ethClient.clientDown D sys.lan.txProp macAddr sys.outside).2.1.Backed tx := by
      have hb := h.backed
      rw [← h.txProp] at hb ⊢
      exact hb.clientDown macAddr
    show (sys.lan.handleEthClientDownEvt D macAddr sys.outside).2.1.Backed tx
    unfold EthLan.handleEthClientDownEvt EthClients.handleEthClientDownEvt
    split
    next heq =>
      split at heq
      · cases heq
        exact h
      next he =>
        cases heq
        rw [he] at hdown
        exact ⟨h.txProp, hdown⟩
      next he =>
        cases heq
        rw [he] at hdown
        exact ⟨h.txProp, hdown⟩

theorem run_backed (es : List EthEvt) (h : sys.lan.Backed tx) : (sys.run D es).lan.Backed tx := by
  induction es generalizing sys with
  | nil => exact h
  | cons e es ih => exact ih (step_backed e h)

/-- **A new client's headers**, after any events and under any driver, at an interface that began without clients: a call
that fails leaves the headers and the clients there were, and one that succeeds a client whose record names the headers it
installed, exactly if it does not fail behind the IPv4 header. -/
theorem eth_hdr_init_iff (hl : sys.lan.ethClient = .empty) (es : List EthEvt) (macAddr : MacAddr) :
    EthLan.LeavesHeaders (sys.run D es).lan (sys.run D es).outside macAddr
        ((sys.run D es).lan.handleEthHdrInit D macAddr (sys.run D es).outside) ↔
      ¬ EthLan.FailsBehindV4 D (sys.run D es).lan (sys.run D es).outside macAddr := by
  have hinit : sys.lan.Backed sys.lan.txProp := by
    refine ⟨rfl, fun i => ?_⟩
    rw [hl]
    exact ⟨fun h => absurd h Bool.false_ne_true, fun h => absurd h Bool.false_ne_true⟩
  have h : (sys.run D es).lan.Backed sys.lan.txProp := run_backed es hinit
  have hslot := h.backed (sys.run D es).lan.ethClient.num
  rw [← h.txProp] at hslot
  exact EthLan.handleEthHdrInit_leaves_iff hslot macAddr _

/-- An interface with a property of either family. -/
def sampleBoth : EthSys where
  lan := { sample.lan with txProp := [⟨.v4, 4, 5, "eth0_ipv4"⟩, ⟨.v6, 4, 5, "eth0_ipv6"⟩] }

theorem eth_hdr_init_iff_sample : EthLan.LeavesHeaders (sampleBoth.run (sampleDriver []) [.clientAdd 2]).lan
    (sampleBoth.run (sampleDriver []) [.clientAdd 2]).outside 1
    ((sampleBoth.run (sampleDriver []) [.clientAdd 2]).lan.handleEthHdrInit (sampleDriver []) 1
      (sampleBoth.run (sampleDriver []) [.clientAdd 2]).outside) :=
  (eth_hdr_init_iff rfl [.clientAdd 2] 1).2 fun h => absurd h.2.2.2.2.2 (by decide)

/-- The IPv6 header is refused, and the IPv4 header stays. -/
theorem not_eth_hdr_init_sample : ¬ EthLan.LeavesHeaders sampleBoth.lan {} 1 (sampleBoth.lan.handleEthHdrInit (sampleDriver [3]) 1 {}) :=
  fun h => absurd (h.failed (by decide)).1 (by decide)

end EthSys
end HiaeCommon
