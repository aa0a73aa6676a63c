/-
The STA clients of `IPACM_ConntrackListener`, and what `CheckSTAClient` makes
of them. A deletion leaves a hole in the array, while the look-up goes through
the first `StaClntCnt` slots and takes the subnet from the first: it is right
as long as the clients fill the front of the array, in the order they came in,
and they do where only the last of them is deleted.
-/
import HiaeCommon.Ipacm.IfaceAddrs
import Mathlib.Data.List.Nodup

namespace HiaeCommon

open Lib (EachStep)

namespace ConntrackListener

variable {δ : Type} {env : NatEnv δ} {es : List ListenerEvt} {e : ListenerEvt} {l : ConntrackListener δ}

/-- The clients registered after an event, in the order they were: `0.0.0.0` is no client's address. -/
def registers (regs : List (BitVec 32)) : ListenerEvt → List (BitVec 32)
  | .staClientAdd a => if a = 0 ∨ regs.contains a then regs else regs ++ [a]
  | .staClientDel a => regs.erase a
  | _ => regs

def registered (es : List ListenerEvt) : List (BitVec 32) := es.foldl registers []

@[simp] theorem registered_concat (es : List ListenerEvt) (e : ListenerEvt) :
    registered (es ++ [e]) = registers (registered es) e := by
  rw [registered, List.foldl_append]
  rfl

/-- The target is in the STA subnet, the one of the clients: of the first of them. -/
def InStaSubnet (regs : List (BitVec 32)) (target : BitVec 32) : Prop :=
  ∃ c, regs.head? = some c ∧ c &&& staClntSubnetMask = target &&& staClntSubnetMask

/-- The count is that of the clients registered, and a connection is marked as temporary exactly when its target
is of their subnet and is none of them. -/
structure StaFollows (es : List ListenerEvt) (l : ConntrackListener δ) : Prop where
  count : l.staClntCnt = (registered es).length
  distinct : (registered es).Nodup
  check : ∀ rule isTempEntry, l.checkSTAClient rule isTempEntry = true ↔ isTempEntry = true ∨
    l.isStaMode = true ∧ registered es ≠ [] ∧ InStaSubnet (registered es) rule.targetIp ∧ rule.targetIp ∉ registered es

/-- When the clients go on filling the front of the array: one that comes has room, one that goes is the last. -/
def Fronted (l : ConntrackListener δ) : ListenerEvt → Prop
  | .staClientAdd a => a ≠ 0 ∧ (a ∈ l.staClntIpv4Addr ∨ l.staClntCnt < maxStaClntIfaces)
  | .staClientDel a => a ≠ 0 → a ∈ l.staClntIpv4Addr → l.staClntIpv4Addr.getD (l.staClntCnt.toNat - 1) 0 = a
  | _ => True

/-- The clients fill the front of the array. -/
structure Front (regs : List (BitVec 32)) (l : ConntrackListener δ) : Prop where
  slots : l.staClntIpv4Addr = regs ++ List.replicate (maxStaClntIfaces - regs.length) 0
  count : l.staClntCnt = regs.length
  nodup : regs.Nodup
  ne_zero : 0 ∉ regs
  length_le : regs.length ≤ maxStaClntIfaces

namespace Front

variable {regs : List (BitVec 32)} {a : BitVec 32}

theorem init_front (cfg : ListenerConfig) (sta : Bool) (wan : BitVec 32) (nat : NatApp δ) : Front [] (init cfg sta wan nat) :=
  ⟨rfl, rfl, .nil, List.not_mem_nil, Nat.zero_le _⟩

theorem mem_iff (h : Front regs l) (ha : a ≠ 0) : a ∈ l.staClntIpv4Addr ↔ a ∈ regs := by
  rw [h.slots, List.mem_append]
  exact or_iff_left fun hm => ha (List.eq_of_mem_replicate hm)

/-- Such a list is looked up and counted right. -/
theorem follows (h : Front (registered es) l) : StaFollows es l := by
  refine ⟨h.count, h.nodup, fun rule temp => ?_⟩
  have hcnt : l.staClntCnt.toNat = (registered es).length := by rw [h.count, Int.toNat_natCast]
  unfold checkSTAClient
  cases hr : registered es with
  | nil =>
    rw [if_pos (.inr (by rw [h.count, hr]; rfl))]
    simp
  | cons c regs =>
    have hhead : l.staClntIpv4Addr.getD 0 0 = c := by
      rw [h.slots, hr]
      rfl
    have htake : l.staClntIpv4Addr.take l.staClntCnt.toNat = c :: regs := by
      rw [hcnt, h.slots, List.take_left', hr]
      rfl
    have hne : l.staClntCnt ≠ 0 := by
      rw [h.count, hr]
      simp
      omega
    have hsub : InStaSubnet (c :: regs) rule.targetIp ↔ c &&& staClntSubnetMask = rule.targetIp &&& staClntSubnetMask :=
      ⟨fun ⟨c', hc, h⟩ => by cases hc; exact h, fun h => ⟨c, rfl, h⟩⟩
    have hany : (c :: regs).any (· == rule.targetIp) = true ↔ rule.targetIp ∈ c :: regs := by
      rw [List.any_eq_true]
      constructor
      · rintro ⟨x, hx, he⟩
        rwa [← eq_of_beq he]
      · exact fun hm => ⟨_, hm, beq_self_eq_true _⟩
    rw [hhead, htake, hsub]
    split
    next hsta =>
      rw [hsta.resolve_right hne]
      simp
    split
    next hs =>
      refine (or_iff_left fun hh => ?_).symm
      exact hs hh.2.2.1
    split
    next hm =>
      refine (or_iff_left fun hh => ?_).symm
      exact hh.2.2.2 (hany.1 hm)
    next hsta hs hm =>
      refine iff_of_true rfl (.inr ⟨?_, List.cons_ne_nil _ _, not_not.1 hs, fun hin => hm (hany.2 hin)⟩)
      simpa using fun hf => hsta (.inl hf)

/-- The last of the clients goes. -/
theorem erase_last {last : BitVec 32} (h : Front (regs ++ [last]) l) :
    l.staClntIpv4Addr.set regs.length 0 = regs ++ List.replicate (maxStaClntIfaces - regs.length) 0 := by
  have hle := h.length_le
  rw [List.length_append, List.length_singleton] at hle
  rw [h.slots, List.append_assoc, List.set_append_right _ _ (Nat.le_refl _), Nat.sub_self, List.length_append,
    List.length_singleton]
  show regs ++ (0 :: List.replicate _ 0) = _
  rw [← List.replicate_succ, show maxStaClntIfaces - (regs.length + 1) + 1 = maxStaClntIfaces - regs.length by omega]

/-- One more comes. -/
theorem push (h : Front regs l) (hroom : regs.length < maxStaClntIfaces) :
    l.staClntIpv4Addr.set regs.length a = (regs ++ [a]) ++ List.replicate (maxStaClntIfaces - (regs ++ [a]).length) 0 := by
  rw [h.slots, List.set_append_right _ _ (Nat.le_refl _), Nat.sub_self, List.append_assoc, List.length_append,
    List.length_singleton, show maxStaClntIfaces - regs.length = maxStaClntIfaces - (regs.length + 1) + 1 by omega,
    List.replicate_succ]
  rfl

theorem ne_zero_of_mem (h : Front regs l) {x : BitVec 32} (hx : x ∈ regs) : x ≠ 0 := fun h0 => h.ne_zero (h0 ▸ hx)

/-- A client that is there already is found in front of the free slots. -/
theorem find_known (h : Front regs l) (ha : a ∈ regs) {cnt : Nat}
    (hf : (l.staClntIpv4Addr.findIdx? fun x => (x != 0 && x == a) || x == 0) = some cnt) : l.staClntIpv4Addr.getD cnt 0 = a := by
  have hpred : (fun x : BitVec 32 => (x != 0 && x == a) || x == 0) = fun x => x == a || x == 0 := by
    funext x
    rw [bne]
    cases x == 0 <;> cases x == a <;> rfl
  rw [hpred] at hf
  have hfront : a ∈ l.staClntIpv4Addr.takeWhile (· ≠ 0) := by
    rw [h.slots, List.takeWhile_append_of_pos fun x hx => decide_eq_true (h.ne_zero_of_mem hx)]
    exact List.mem_append_left _ ha
  rw [List.getD_eq_getElem?_getD, Lib.Slots.find_front hfront hf]
  rfl

/-- A new one is given the slot behind the others. -/
theorem find_new (h : Front regs l) (ha : a ∉ regs) (hroom : regs.length < maxStaClntIfaces) :
    (l.staClntIpv4Addr.findIdx? fun x => (x != 0 && x == a) || x == 0) = some regs.length := by
  have hno : (regs.findIdx? fun x => (x != 0 && x == a) || x == 0) = none := by
    refine List.findIdx?_eq_none_iff.2 fun x hx => ?_
    have hxa : x ≠ a := fun he => ha (he ▸ hx)
    have hx0 := h.ne_zero_of_mem hx
    rw [beq_eq_false_iff_ne.2 hxa, beq_eq_false_iff_ne.2 hx0, Bool.and_false]
    rfl
  rw [h.slots, List.findIdx?_append, hno, Option.none_or,
    show maxStaClntIfaces - regs.length = maxStaClntIfaces - regs.length - 1 + 1 by omega, List.replicate_succ, List.findIdx?_cons,
    if_pos (by simp), Option.map_some, Nat.zero_add]

/-- Nothing comes of a client that is there already. -/
theorem handleSTAClientAddEvt_known (h : Front regs l) (ha : a ∈ regs) : ∃ nat, l.handleSTAClientAddEvt env a = { l with nat } := by
  unfold handleSTAClientAddEvt
  split
  · exact ⟨l.nat, rfl⟩
  split
  · exact ⟨_, rfl⟩
  next cnt hf =>
    rw [if_pos (by rw [h.find_known ha hf]; exact h.ne_zero_of_mem ha)]
    exact ⟨_, rfl⟩

/-- A new one is registered and counted. -/
theorem handleSTAClientAddEvt_new (h : Front regs l) (ha : a ∉ regs) (hroom : regs.length < maxStaClntIfaces) :
    ∃ nat, l.handleSTAClientAddEvt env a =
      { l with nat, staClntIpv4Addr := l.staClntIpv4Addr.set regs.length a, staClntCnt := l.staClntCnt + 1 } := by
  have hzero : l.staClntIpv4Addr.getD regs.length 0 = 0 := by
    rw [h.slots, List.getD_eq_getElem?_getD, List.getElem?_append_right (Nat.le_refl _), Nat.sub_self]
    cases maxStaClntIfaces - regs.length <;> rfl
  unfold handleSTAClientAddEvt
  rw [if_neg (by rw [h.count]; omega), h.find_new ha hroom]
  dsimp only
  rw [if_neg (not_not.2 hzero)]
  exact ⟨_, rfl⟩

theorem add (h : Front regs l) (hf : Fronted l (.staClientAdd a)) :
    Front (registers regs (.staClientAdd a)) (l.handleSTAClientAddEvt env a) := by
  obtain ⟨h0, hroom⟩ := hf
  rw [h.mem_iff h0, h.count] at hroom
  rw [registers]
  by_cases ha : a ∈ regs
  · obtain ⟨nat, hn⟩ := @handleSTAClientAddEvt_known δ env l regs a h ha
    rw [if_pos (.inr (List.contains_iff_mem.2 ha)), hn]
    exact ⟨h.slots, h.count, h.nodup, h.ne_zero, h.length_le⟩
  · have hlen : regs.length < maxStaClntIfaces := by have := hroom.resolve_left ha; omega
    obtain ⟨nat, hn⟩ := @handleSTAClientAddEvt_new δ env l regs a h ha hlen
    rw [if_neg (not_or.2 ⟨h0, fun hc => ha (List.contains_iff_mem.1 hc)⟩), hn]
    refine ⟨h.push hlen, ?_, ?_, ?_, ?_⟩
    · show l.staClntCnt + 1 = _
      rw [h.count, List.length_append]
      rfl
    · rw [← List.concat_eq_append]
      exact h.nodup.concat ha
    · rw [List.mem_append, List.mem_singleton]
      exact fun hm => hm.elim h.ne_zero fun he => h0 he.symm
    · rw [List.length_append]
      exact hlen

theorem handleSTAClientDelEvt_other (h : Front regs l) (ha : a ∉ regs) : ∃ nat, l.handleSTAClientDelEvt env a = { l with nat } := by
  have hno : (l.staClntIpv4Addr.findIdx? fun x => x != 0 && x == a) = none := by
    refine List.findIdx?_eq_none_iff.2 fun x hx => ?_
    by_cases hxa : x = a
    · by_cases hx0 : x = 0
      · simp [hx0]
      · exact absurd ((h.mem_iff hx0).1 hx) (hxa ▸ ha)
    · rw [beq_eq_false_iff_ne.2 hxa, Bool.and_false]
  unfold handleSTAClientDelEvt
  rw [hno]
  exact ⟨_, rfl⟩

/-- The last client goes. -/
theorem handleSTAClientDelEvt_last (h : Front (regs ++ [a]) l) : ∃ nat, l.handleSTAClientDelEvt env a =
    { l with nat, staClntIpv4Addr := l.staClntIpv4Addr.set regs.length 0, staClntCnt := l.staClntCnt - 1 } := by
  have ha : a ∉ regs := fun hm => List.disjoint_of_nodup_append h.nodup hm (List.mem_singleton_self _)
  have h0 : a ≠ 0 := h.ne_zero_of_mem (List.mem_append_right _ (List.mem_singleton_self a))
  have hfind : (l.staClntIpv4Addr.findIdx? fun x => x != 0 && x == a) = some regs.length := by
    have hno : (regs.findIdx? fun x => x != 0 && x == a) = none := by
      refine List.findIdx?_eq_none_iff.2 fun x hx => ?_
      have hxa : x ≠ a := fun he => ha (he ▸ hx)
      rw [beq_eq_false_iff_ne.2 hxa, Bool.and_false]
    rw [h.slots, List.append_assoc, List.findIdx?_append, hno, Option.none_or, List.singleton_append, List.findIdx?_cons,
      if_pos (by simpa using h0), Option.map_some, Nat.zero_add]
  unfold handleSTAClientDelEvt
  rw [hfind]
  exact ⟨_, rfl⟩

theorem del (h : Front regs l) (hf : Fronted l (.staClientDel a)) :
    Front (registers regs (.staClientDel a)) (l.handleSTAClientDelEvt env a) := by
  rw [registers]
  by_cases ha : a ∈ regs
  · have h0 := h.ne_zero_of_mem ha
    have hlast := hf h0 ((h.mem_iff h0).2 ha)
    obtain rfl | ⟨init, x, rfl⟩ := List.eq_nil_or_concat' regs
    · cases ha
    have hx : x = a := by
      rw [h.count, Int.toNat_natCast, List.length_append, List.length_singleton, Nat.add_sub_cancel, h.slots, List.append_assoc,
        List.getD_eq_getElem?_getD, List.getElem?_append_right (Nat.le_refl _), Nat.sub_self] at hlast
      exact hlast
    subst hx
    have hnew : x ∉ init := fun hm => List.disjoint_of_nodup_append h.nodup hm (List.mem_singleton_self x)
    obtain ⟨nat, hn⟩ := @handleSTAClientDelEvt_last δ env l init x h
    have hlen := h.length_le
    rw [List.length_append, List.length_singleton] at hlen
    rw [hn, List.erase_append_right _ hnew, List.erase_cons_head, List.append_nil]
    refine ⟨h.erase_last, ?_, h.nodup.of_append_left, fun hm => h.ne_zero (List.mem_append_left _ hm), Nat.le_of_succ_le hlen⟩
    show l.staClntCnt - 1 = _
    rw [h.count, List.length_append, List.length_singleton]
    omega
  · obtain ⟨nat, hn⟩ := @handleSTAClientDelEvt_other δ env l regs a h ha
    rw [hn, List.erase_of_not_mem ha]
    exact ⟨h.slots, h.count, h.nodup, h.ne_zero, h.length_le⟩

end Front

/-! ## Runs -/

@[simp] theorem call_staClntIpv4Addr (l : ConntrackListener δ) (op : NatOp) : (l.call env op).staClntIpv4Addr = l.staClntIpv4Addr := rfl

@[simp] theorem call_staClntCnt (l : ConntrackListener δ) (op : NatOp) : (l.call env op).staClntCnt = l.staClntCnt := rfl

/-- The clients are as they were. -/
def SameClients (l t : ConntrackListener δ) : Prop := t.staClntIpv4Addr = l.staClntIpv4Addr ∧ t.staClntCnt = l.staClntCnt

theorem handleNonNatIPAddr_same (data : NeighData) (add : Bool) (l : ConntrackListener δ) :
    SameClients l (l.handleNonNatIPAddr env data add) := by
  unfold handleNonNatIPAddr
  split
  · exact ⟨rfl, rfl⟩
  split
  · split
    · split <;> exact ⟨rfl, rfl⟩
    · exact ⟨rfl, rfl⟩
  · split <;> exact ⟨rfl, rfl⟩

theorem handleNeighIpAddrAddEvt_same (data : NeighData) (l : ConntrackListener δ) :
    SameClients l (l.handleNeighIpAddrAddEvt env data) := by
  unfold handleNeighIpAddrAddEvt
  split
  · split <;> exact ⟨rfl, rfl⟩
  · exact ⟨rfl, rfl⟩

theorem handleNeighIpAddrDelEvt_same (ipv4Addr : BitVec 32) (l : ConntrackListener δ) :
    SameClients l (l.handleNeighIpAddrDelEvt env ipv4Addr) := by
  unfold handleNeighIpAddrDelEvt
  split
  · exact ⟨rfl, rfl⟩
  refine Lib.forRange_inv' (SameClients l) ⟨rfl, rfl⟩ fun cnt t _ ht => ?_
  unfold handleNeighIpAddrDelEvtBody
  split
  · exact ht
  · exact ht

/-- The two events the clients are for; any other leaves them. -/
theorem step_clients (e : ListenerEvt) (l : ConntrackListener δ) :
    (∃ a, e = .staClientAdd a) ∨ (∃ a, e = .staClientDel a) ∨ (∀ regs, registers regs e = regs) ∧ SameClients l (l.step env e) := by
  cases e with
  | staClientAdd a => exact .inl ⟨a, rfl⟩
  | staClientDel a => exact .inr (.inl ⟨a, rfl⟩)
  | ctMessage m =>
    obtain ⟨nat, hm⟩ := @processCTMessage_eq δ env m l
    exact .inr (.inr ⟨fun _ => rfl, by rw [step, hm]; exact ⟨rfl, rfl⟩⟩)
  | wanUp ip sta =>
    refine .inr (.inr ⟨fun _ => rfl, ?_⟩)
    rw [step, triggerWANUp]
    split_ifs <;> exact ⟨rfl, rfl⟩
  | wanDown ip =>
    refine .inr (.inr ⟨fun _ => rfl, ?_⟩)
    rw [step, triggerWANDown]
    split_ifs <;> exact ⟨rfl, rfl⟩
  | neighClientIpAddrAdd data => exact .inr (.inr ⟨fun _ => rfl, handleNonNatIPAddr_same ..⟩)
  | neighClientIpAddrDel data => exact .inr (.inr ⟨fun _ => rfl, handleNonNatIPAddr_same ..⟩)
  | neighIpAddrAdd data => exact .inr (.inr ⟨fun _ => rfl, handleNeighIpAddrAddEvt_same ..⟩)
  | neighIpAddrDel ip => exact .inr (.inr ⟨fun _ => rfl, handleNeighIpAddrDelEvt_same ..⟩)
  | natCall op => exact .inr (.inr ⟨fun _ => rfl, rfl, rfl⟩)
  | config cfg => exact .inr (.inr ⟨fun _ => rfl, rfl, rfl⟩)

/-- **One event** keeps the clients in front. -/
theorem step_front (h : Front (registered es) l) (hf : Fronted l e) : Front (registered (es ++ [e])) (l.step env e) := by
  rw [registered_concat]
  rcases @step_clients δ env e l with ⟨a, rfl⟩ | ⟨a, rfl⟩ | ⟨hregs, hsame⟩
  · rw [step]
    exact h.add hf
  · rw [step]
    exact h.del hf
  · rw [hregs]
    exact ⟨hsame.1.trans h.slots, hsame.2.trans h.count, h.nodup, h.ne_zero, h.length_le⟩

/-- **The clients are counted and looked up right** in every state of a run in which each that comes has room, and each
that goes is the last of them. -/
theorem sta_clients_run (env : NatEnv δ) (cfg : ListenerConfig) (sta : Bool) (wan : BitVec 32) (nat : NatApp δ)
    (es : List ListenerEvt) (hes : EachStep (ConntrackListener.step env) Fronted (init cfg sta wan nat) es) (pre : List ListenerEvt)
    (hpre : pre <+: es) : StaFollows pre ((init cfg sta wan nat).run env pre) :=
  have h : Front (registered pre) ((init cfg sta wan nat).run env pre) :=
    hes.history (I := fun es l => Front (registered es) l) (fun _ _ _ => step_front) (Front.init_front cfg sta wan nat) hpre
  h.follows

/-- Two clients come, and one goes. -/
def staEvents (gone : BitVec 32) : List ListenerEvt :=
  [.wanUp 0x0A000001 true, .staClientAdd 0xC0A8E102, .staClientAdd 0xC0A8E103, .staClientDel gone]

/-- The client that came last goes. -/
theorem sta_clients_run_sample : StaFollows (staEvents 0xC0A8E103) (sampleListener.run NatApp.acceptingEnv (staEvents 0xC0A8E103)) := by
  have hes : EachStep (ConntrackListener.step NatApp.acceptingEnv) Fronted sampleListener (staEvents 0xC0A8E103) :=
    ⟨trivial, ⟨by decide, .inr (by decide)⟩, ⟨by decide, .inr (by decide +kernel)⟩, fun _ _ => by decide +kernel, trivial⟩
  exact sta_clients_run _ _ _ _ _ _ hes _ (List.prefix_refl _)

/-- The client that came first goes: the other is no longer known, and neither is the subnet. -/
theorem not_sta_clients_sample :
    ¬ StaFollows (staEvents 0xC0A8E102) (sampleListener.run NatApp.acceptingEnv (staEvents 0xC0A8E102)) := by
  intro h
  have hcheck := (h.check { targetIp := 0xC0A8E104 } false).2
    (.inr ⟨by decide +kernel, by decide, ⟨0xC0A8E103, by decide, by decide⟩, by decide⟩)
  exact absurd hcheck (by decide +kernel)

end ConntrackListener
end HiaeCommon
