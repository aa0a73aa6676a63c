/-
The addresses `IPACM_ConntrackListener` keeps of the clients of NATed and of
other interfaces. Both arrays have holes where addresses were deleted. The
list of the other interfaces takes an address as often as it is added and
gives it up once for each deletion; the one of the NATed interfaces looks for
a duplicate only up to the first hole. `Listed` is when an event finds its
list such that neither matters.
-/
import HiaeCommon.Ipacm.ConntrackListener
import HiaeCommon.Ipacm.ConnectionClose
import HiaeCommon.Lib.Run
import HiaeCommon.Lib.Slots
import Mathlib.Data.BitVec

namespace HiaeCommon

open Lib (Run latest latest_concat)
open Lib.Slots (freeAll)

namespace ConntrackListener

variable {δ : Type} {env : NatEnv δ}

/-! ## What the events leave alone -/

@[simp] theorem call_natIfaceIpv4Addr (l : ConntrackListener δ) (op : NatOp) :
    (l.call env op).natIfaceIpv4Addr = l.natIfaceIpv4Addr := rfl

@[simp] theorem call_nonnatIfaceIpv4Addr (l : ConntrackListener δ) (op : NatOp) :
    (l.call env op).nonnatIfaceIpv4Addr = l.nonnatIfaceIpv4Addr := rfl

theorem addNatEntry_eq (rule : NatTableEntry) (temp : Bool) (l : ConntrackListener δ) :
    ∃ nat, l.addNatEntry env rule temp = { l with nat } := by
  unfold addNatEntry
  split
  · exact ⟨_, rfl⟩
  · split <;> exact ⟨_, rfl⟩

/-- A conntrack message is for the cache. -/
theorem processCTMessage_eq (m : CtMsg) (l : ConntrackListener δ) : ∃ nat, l.processCTMessage env m = { l with nat } := by
  have hdel : ∀ rule, ∃ nat, l.deleteNatEntry env rule = { l with nat } := fun rule => ⟨_, rfl⟩
  unfold processCTMessage
  split
  · exact ⟨_, rfl⟩
  split
  · exact ⟨_, rfl⟩
  unfold addORDeleteNatEntry
  split_ifs <;> first | exact addNatEntry_eq .. | exact hdel _ | exact ⟨_, rfl⟩

/-! ## The lists -/

/-- What an event says of an address of the other interfaces: added, deleted, or nothing. -/
def nonnatSays (a : BitVec 32) : ListenerEvt → Option Bool
  | .neighClientIpAddrAdd data => if checkNatIface data = some false ∧ data.ipv4Addr = a then some true else none
  | .neighClientIpAddrDel data => if data.ipv4Addr = a then some false else none
  | _ => none

/-- What it says of an address of the NATed interfaces. -/
def natSays (a : BitVec 32) : ListenerEvt → Option Bool
  | .neighIpAddrAdd data => if checkNatIface data = some true ∧ data.ipv4Addr = a then some true else none
  | .neighIpAddrDel ipv4Addr => if ipv4Addr = a then some false else none
  | _ => none

/-- When an event does to the lists what it says. -/
def Listed (l : ConntrackListener δ) : ListenerEvt → Prop
  | .neighClientIpAddrAdd data => checkNatIface data = some false →
      if data.ipv4Addr ∈ l.nonnatIfaceIpv4Addr then l.isStaMode = true ∨ 0 ∉ l.nonnatIfaceIpv4Addr
      else l.isStaMode = false ∧ 0 ∈ l.nonnatIfaceIpv4Addr
  | .neighClientIpAddrDel data => data.ipv4Addr ≠ 0 → data.ipv4Addr ∈ l.nonnatIfaceIpv4Addr → l.isStaMode = false
  | .neighIpAddrAdd data => checkNatIface data = some true →
      data.ipv4Addr ∈ l.natIfaceIpv4Addr.takeWhile (· ≠ 0) ∨ data.ipv4Addr ∉ l.natIfaceIpv4Addr ∧ 0 ∈ l.natIfaceIpv4Addr
  | _ => True

theorem checkNatIface_ne_zero {data : NeighData} {b : Bool} (h : checkNatIface data = some b) : data.ipv4Addr ≠ 0 := by
  intro h0
  rw [checkNatIface, if_pos (.inl h0)] at h
  cases h

variable {es : List ListenerEvt} {e : ListenerEvt} {l t : ConntrackListener δ} {data : NeighData} {a : BitVec 32}

theorem handleNonNatIPAddr_add (ha : a ≠ 0) : (l.handleNonNatIPAddr env data true).natIfaceIpv4Addr = l.natIfaceIpv4Addr ∧
    (l.handleNonNatIPAddr env data true).nonnatIfaceIpv4Addr.count a = l.nonnatIfaceIpv4Addr.count a +
      if checkNatIface data = some false ∧ l.isStaMode = false ∧ 0 ∈ l.nonnatIfaceIpv4Addr ∧ data.ipv4Addr = a then 1 else 0 := by
  unfold handleNonNatIPAddr
  split
  next hsta => exact ⟨rfl, by simp [hsta]⟩
  next hsta =>
    rw [if_pos rfl]
    by_cases hc : checkNatIface data = some false
    · rw [if_pos hc]
      cases hf : l.nonnatIfaceIpv4Addr.findIdx? (· == 0) with
      | none =>
        have hfull : 0 ∉ l.nonnatIfaceIpv4Addr := fun h0 => by
          have := List.findIdx?_eq_none_iff.1 hf 0 h0
          simp at this
        exact ⟨rfl, by rw [if_neg fun hh => hfull hh.2.2.1, Nat.add_zero]⟩
      | some cnt =>
        obtain ⟨hlt, h0, -⟩ := List.findIdx?_eq_some_iff_getElem.1 hf
        have h0 : l.nonnatIfaceIpv4Addr[cnt] = 0 := by simpa using h0
        have hfree : 0 ∈ l.nonnatIfaceIpv4Addr := h0 ▸ List.getElem_mem hlt
        refine ⟨rfl, (Lib.Slots.count_fill hlt h0 ha).trans ?_⟩
        simp only [hc, hsta, hfree, true_and]
    · rw [if_neg hc]
      exact ⟨rfl, by simp [hc]⟩

theorem handleNonNatIPAddr_del (ha : a ≠ 0) : (l.handleNonNatIPAddr env data false).natIfaceIpv4Addr = l.natIfaceIpv4Addr ∧
    (l.handleNonNatIPAddr env data false).nonnatIfaceIpv4Addr.count a = l.nonnatIfaceIpv4Addr.count a -
      if l.isStaMode = false ∧ data.ipv4Addr = a then 1 else 0 := by
  unfold handleNonNatIPAddr
  split
  next hsta => exact ⟨rfl, by simp [hsta]⟩
  next hsta =>
    rw [if_neg Bool.false_ne_true]
    cases hf : l.nonnatIfaceIpv4Addr.findIdx? (· == data.ipv4Addr) with
    | none =>
      refine ⟨rfl, ?_⟩
      by_cases hda : data.ipv4Addr = a
      · have hno : a ∉ l.nonnatIfaceIpv4Addr := fun hm => by
          have := List.findIdx?_eq_none_iff.1 hf a hm
          simp [hda] at this
        simp [List.count_eq_zero_of_not_mem hno]
      · simp [hda]
    | some cnt =>
      obtain ⟨hlt, hat, -⟩ := List.findIdx?_eq_some_iff_getElem.1 hf
      refine ⟨rfl, (Lib.Slots.count_free hlt (by simpa using hat) ha).trans ?_⟩
      simp [hsta]

theorem handleNeighIpAddrAddEvt_count (ha : a ≠ 0) :
    (l.handleNeighIpAddrAddEvt env data).nonnatIfaceIpv4Addr = l.nonnatIfaceIpv4Addr ∧
    (l.handleNeighIpAddrAddEvt env data).natIfaceIpv4Addr.length = l.natIfaceIpv4Addr.length ∧
    (l.handleNeighIpAddrAddEvt env data).natIfaceIpv4Addr.count a = l.natIfaceIpv4Addr.count a +
      if checkNatIface data = some true ∧ data.ipv4Addr ∉ l.natIfaceIpv4Addr.takeWhile (· ≠ 0) ∧ 0 ∈ l.natIfaceIpv4Addr ∧
        data.ipv4Addr = a then 1 else 0 := by
  unfold handleNeighIpAddrAddEvt
  by_cases hc : checkNatIface data = some true
  · rw [if_pos hc]
    cases hf : l.natIfaceIpv4Addr.findIdx? fun a => a == data.ipv4Addr || a == 0 with
    | none =>
      have hfull : 0 ∉ l.natIfaceIpv4Addr := fun h0 => by
        have := List.findIdx?_eq_none_iff.1 hf 0 h0
        simp at this
      exact ⟨rfl, rfl, by rw [if_neg fun hh => hfull hh.2.2.1, Nat.add_zero]⟩
    | some j =>
      refine ⟨rfl, List.length_set, ?_⟩
      obtain ⟨hlt, hat, -⟩ := List.findIdx?_eq_some_iff_getElem.1 hf
      by_cases hfront : data.ipv4Addr ∈ l.natIfaceIpv4Addr.takeWhile (· ≠ 0)
      · -- the search ends at the address: the list is as it was
        obtain ⟨_, hj⟩ := List.getElem?_eq_some_iff.1 (Lib.Slots.find_front hfront hf)
        have hset : l.natIfaceIpv4Addr.set j data.ipv4Addr = l.natIfaceIpv4Addr := hj ▸ List.set_getElem_self hlt
        rw [if_neg fun hh => hh.2.1 hfront]
        exact congrArg (List.count a) hset
      · have hj : l.natIfaceIpv4Addr[j] = 0 := Lib.Slots.find_free hfront hf hlt
        refine (Lib.Slots.count_fill hlt hj ha).trans ?_
        have hfree : 0 ∈ l.natIfaceIpv4Addr := hj ▸ List.getElem_mem hlt
        simp only [hc, hfront, hfree, not_false_eq_true, true_and]
  · rw [if_neg hc]
    exact ⟨rfl, rfl, by simp [hc]⟩

/-- The loop frees every slot the address stands in. -/
theorem handleNeighIpAddrDelEvt_eq {ipv4Addr : BitVec 32} (h0 : ipv4Addr ≠ 0) (hlen : l.natIfaceIpv4Addr.length = maxIfaceAddress) :
    ∃ nat, l.handleNeighIpAddrDelEvt env ipv4Addr = { l with nat, natIfaceIpv4Addr := freeAll ipv4Addr l.natIfaceIpv4Addr } := by
  let I (i : Nat) (t : ConntrackListener δ) : Prop :=
    ∃ nat, t = { l with nat, natIfaceIpv4Addr := freeAll ipv4Addr (l.natIfaceIpv4Addr.take i) ++ l.natIfaceIpv4Addr.drop i }
  have hloop : I maxIfaceAddress ((List.range maxIfaceAddress).foldl (handleNeighIpAddrDelEvtBody env ipv4Addr) l) := by
    refine Lib.forRange_inv I ⟨l.nat, by simp [freeAll]⟩ ?_
    rintro i _ hi ⟨nat, rfl⟩
    have hi' : i < l.natIfaceIpv4Addr.length := hlen ▸ hi
    obtain ⟨hat, hset⟩ := Lib.Slots.freeAll_step (a := ipv4Addr) hi'
    unfold handleNeighIpAddrDelEvtBody
    dsimp only
    rw [hat]
    by_cases ha : l.natIfaceIpv4Addr[i] = ipv4Addr
    · rw [if_pos ha] at hset ⊢
      exact ⟨_, by rw [← hset]; rfl⟩
    · rw [if_neg ha] at hset ⊢
      exact ⟨nat, by rw [← hset]⟩
  obtain ⟨nat, hn⟩ := hloop
  rw [List.take_of_length_le (Nat.le_of_eq hlen), List.drop_of_length_le (Nat.le_of_eq hlen), List.append_nil] at hn
  exact ⟨nat, by rw [handleNeighIpAddrDelEvt, if_neg h0, hn]⟩

/-! ## Runs -/

/-- The addresses of the two lists are those added last, once each. -/
structure Lists (es : List ListenerEvt) (l : ConntrackListener δ) : Prop where
  nonnat : ∀ a, a ≠ 0 → l.nonnatIfaceIpv4Addr.count a = (latest (nonnatSays a) es).toNat
  nat : ∀ a, a ≠ 0 → l.natIfaceIpv4Addr.count a = (latest (natSays a) es).toNat

theorem init_lists (cfg : ListenerConfig) (sta : Bool) (wan : BitVec 32) (nat : NatApp δ) : Lists [] (init cfg sta wan nat) := by
  have h : ∀ a : BitVec 32, a ≠ 0 → (List.replicate maxIfaceAddress (0 : BitVec 32)).count a = 0 := fun a ha => by
    rw [List.count_replicate, if_neg (by simpa using Ne.symm ha)]
  exact ⟨h, h⟩

namespace Lists

/-- An event that says nothing of either list and leaves them. -/
theorem other (h : Lists es l) (hn : ∀ a, nonnatSays a e = none) (hs : ∀ a, natSays a e = none)
    (h1 : t.nonnatIfaceIpv4Addr = l.nonnatIfaceIpv4Addr) (h2 : t.natIfaceIpv4Addr = l.natIfaceIpv4Addr) : Lists (es ++ [e]) t := by
  refine ⟨fun a ha => ?_, fun a ha => ?_⟩
  · rw [h1, latest_concat, hn]
    exact h.nonnat a ha
  · rw [h2, latest_concat, hs]
    exact h.nat a ha

/-- An address stands in a list once or not at all. -/
theorem mem_nonnat (h : Lists es l) (ha : a ≠ 0) : a ∈ l.nonnatIfaceIpv4Addr ↔ latest (nonnatSays a) es = true := by
  rw [← List.count_pos_iff, h.nonnat a ha]
  cases latest (nonnatSays a) es <;> simp

theorem mem_nat (h : Lists es l) (ha : a ≠ 0) : a ∈ l.natIfaceIpv4Addr ↔ latest (natSays a) es = true := by
  rw [← List.count_pos_iff, h.nat a ha]
  cases latest (natSays a) es <;> simp

/-- An address of the other interfaces is added. -/
theorem addNonnat_iff (h : Lists es l) : Lists (es ++ [.neighClientIpAddrAdd data]) (l.handleNonNatIPAddr env data true) ↔
    Listed l (.neighClientIpAddrAdd data) := by
  by_cases hc : checkNatIface data = some false
  swap
  · have hsame : l.handleNonNatIPAddr env data true = l := by simp [handleNonNatIPAddr, hc]
    rw [hsame]
    exact iff_of_true (h.other (fun a => if_neg fun hh => hc hh.1) (fun a => rfl) rfl rfl) fun hc' => absurd hc' hc
  have h0 := checkNatIface_ne_zero hc
  have hmem := h.mem_nonnat h0
  have hone : Listed l (.neighClientIpAddrAdd data) ↔
      (l.handleNonNatIPAddr env data true).nonnatIfaceIpv4Addr.count data.ipv4Addr = 1 := by
    rw [(handleNonNatIPAddr_add h0).2, h.nonnat _ h0]
    simp only [Listed, hc, forall_const, true_and, and_true]
    cases hl : latest (nonnatSays data.ipv4Addr) es <;> rw [hl] at hmem <;> cases l.isStaMode <;> simp [hmem]
  rw [hone]
  constructor
  · intro h'
    rw [h'.nonnat _ h0, latest_concat, nonnatSays, if_pos ⟨hc, rfl⟩]
    rfl
  · intro h1
    refine ⟨fun a ha => ?_, fun a ha => ?_⟩
    · rw [latest_concat]
      by_cases hda : data.ipv4Addr = a
      · rw [← hda, h1, nonnatSays, if_pos ⟨hc, rfl⟩]
        rfl
      · rw [(handleNonNatIPAddr_add ha).2, if_neg fun hh => hda hh.2.2.2, nonnatSays, if_neg fun hh => hda hh.2]
        exact h.nonnat a ha
    · rw [(handleNonNatIPAddr_add ha).1, latest_concat]
      exact h.nat a ha

/-- One is deleted: the first slot it stands in, which is the only one. -/
theorem delNonnat_iff (h : Lists es l) : Lists (es ++ [.neighClientIpAddrDel data]) (l.handleNonNatIPAddr env data false) ↔
    Listed l (.neighClientIpAddrDel data) := by
  have hgone : Listed l (.neighClientIpAddrDel data) ↔
      (data.ipv4Addr ≠ 0 → (l.handleNonNatIPAddr env data false).nonnatIfaceIpv4Addr.count data.ipv4Addr = 0) := by
    refine forall_congr' fun h0 => ?_
    rw [(handleNonNatIPAddr_del h0).2, h.mem_nonnat h0, h.nonnat _ h0]
    cases latest (nonnatSays data.ipv4Addr) es <;> cases l.isStaMode <;> simp
  rw [hgone]
  constructor
  · intro h' h0
    rw [h'.nonnat _ h0, latest_concat, nonnatSays, if_pos rfl]
    rfl
  · intro hz
    refine ⟨fun a ha => ?_, fun a ha => ?_⟩
    · rw [latest_concat]
      by_cases hda : data.ipv4Addr = a
      · rw [nonnatSays, if_pos hda, ← hda, hz (hda ▸ ha)]
        rfl
      · rw [(handleNonNatIPAddr_del ha).2, if_neg fun hh => hda hh.2, nonnatSays, if_neg hda]
        exact h.nonnat a ha
    · rw [(handleNonNatIPAddr_del ha).1, latest_concat]
      exact h.nat a ha

/-- An address of the NATed interfaces is added, or found in front of the first hole. -/
theorem addNat_iff (h : Lists es l) : Lists (es ++ [.neighIpAddrAdd data]) (l.handleNeighIpAddrAddEvt env data) ↔
    Listed l (.neighIpAddrAdd data) := by
  by_cases hc : checkNatIface data = some true
  swap
  · have hsame : l.handleNeighIpAddrAddEvt env data = l := by simp [handleNeighIpAddrAddEvt, hc]
    rw [hsame]
    exact iff_of_true (h.other (fun a => rfl) (fun a => if_neg fun hh => hc hh.1) rfl rfl) fun hc' => absurd hc' hc
  have h0 := checkNatIface_ne_zero hc
  have hmem := h.mem_nat h0
  have hone : Listed l (.neighIpAddrAdd data) ↔
      (l.handleNeighIpAddrAddEvt env data).natIfaceIpv4Addr.count data.ipv4Addr = 1 := by
    rw [(handleNeighIpAddrAddEvt_count h0).2.2, h.nat _ h0]
    by_cases hfront : data.ipv4Addr ∈ l.natIfaceIpv4Addr.takeWhile (· ≠ 0)
    · have hlast := hmem.1 (List.takeWhile_subset _ hfront)
      rw [hlast, if_neg fun hh => hh.2.1 hfront]
      exact iff_of_true (fun _ => .inl hfront) rfl
    · have hcond : Listed l (.neighIpAddrAdd data) ↔ data.ipv4Addr ∉ l.natIfaceIpv4Addr ∧ 0 ∈ l.natIfaceIpv4Addr :=
        ⟨fun hl => (hl hc).resolve_left hfront, fun hl _ => .inr hl⟩
      rw [hcond]
      simp only [hc, hfront, not_false_eq_true, true_and, and_true, hmem]
      cases hl : latest (natSays data.ipv4Addr) es with
      | false => simp
      | true =>
        -- behind a hole the address is written once more
        have hfree : 0 ∈ l.natIfaceIpv4Addr := by
          by_contra hno
          exact hfront (Lib.Slots.mem_front hno (hmem.2 hl))
        rw [if_pos hfree]
        simp
  rw [hone]
  constructor
  · intro h'
    rw [h'.nat _ h0, latest_concat, natSays, if_pos ⟨hc, rfl⟩]
    rfl
  · intro h1
    refine ⟨fun a ha => ?_, fun a ha => ?_⟩
    · rw [(handleNeighIpAddrAddEvt_count ha).1, latest_concat]
      exact h.nonnat a ha
    · rw [latest_concat]
      by_cases hda : data.ipv4Addr = a
      · rw [← hda, h1, natSays, if_pos ⟨hc, rfl⟩]
        rfl
      · rw [(handleNeighIpAddrAddEvt_count ha).2.2, if_neg fun hh => hda hh.2.2.2, natSays, if_neg fun hh => hda hh.2]
        exact h.nat a ha

/-- One is deleted. -/
theorem delNat (h : Lists es l) (hlen : l.natIfaceIpv4Addr.length = maxIfaceAddress) (ipv4Addr : BitVec 32) :
    Lists (es ++ [.neighIpAddrDel ipv4Addr]) (l.handleNeighIpAddrDelEvt env ipv4Addr) := by
  by_cases h0 : ipv4Addr = 0
  · rw [handleNeighIpAddrDelEvt, if_pos h0]
    refine ⟨fun a ha => ?_, fun a ha => ?_⟩
    · rw [latest_concat]
      exact h.nonnat a ha
    · rw [latest_concat, natSays, if_neg fun hh => ha (hh.symm.trans h0)]
      exact h.nat a ha
  · obtain ⟨nat, hn⟩ := @handleNeighIpAddrDelEvt_eq δ env l ipv4Addr h0 hlen
    rw [hn]
    refine ⟨fun a ha => ?_, fun a ha => ?_⟩
    · rw [latest_concat]
      exact h.nonnat a ha
    · refine (Lib.Slots.count_freeAll ha).trans ?_
      rw [latest_concat, natSays]
      by_cases hda : ipv4Addr = a
      · rw [if_pos hda, if_pos hda]
        rfl
      · rw [if_neg hda, if_neg hda]
        exact h.nat a ha

end Lists

/-- The four events the lists are for; any other leaves them. -/
theorem step_cases (e : ListenerEvt) (l : ConntrackListener δ) :
    (∃ data, e = .neighClientIpAddrAdd data) ∨ (∃ data, e = .neighClientIpAddrDel data) ∨ (∃ data, e = .neighIpAddrAdd data) ∨
      (∃ ip, e = .neighIpAddrDel ip) ∨
      (∀ a, nonnatSays a e = none) ∧ (∀ a, natSays a e = none) ∧ Listed l e ∧
        (l.step env e).nonnatIfaceIpv4Addr = l.nonnatIfaceIpv4Addr ∧ (l.step env e).natIfaceIpv4Addr = l.natIfaceIpv4Addr := by
  cases e with
  | neighClientIpAddrAdd data => exact .inl ⟨data, rfl⟩
  | neighClientIpAddrDel data => exact .inr (.inl ⟨data, rfl⟩)
  | neighIpAddrAdd data => exact .inr (.inr (.inl ⟨data, rfl⟩))
  | neighIpAddrDel ip => exact .inr (.inr (.inr (.inl ⟨ip, rfl⟩)))
  | ctMessage m =>
    obtain ⟨nat, hm⟩ := @processCTMessage_eq δ env m l
    exact .inr (.inr (.inr (.inr ⟨fun _ => rfl, fun _ => rfl, trivial, by rw [step, hm], by rw [step, hm]⟩)))
  | natCall op => exact .inr (.inr (.inr (.inr ⟨fun _ => rfl, fun _ => rfl, trivial, rfl, rfl⟩)))
  | config cfg => exact .inr (.inr (.inr (.inr ⟨fun _ => rfl, fun _ => rfl, trivial, rfl, rfl⟩)))
  | wanUp ip sta =>
    refine .inr (.inr (.inr (.inr ⟨fun _ => rfl, fun _ => rfl, trivial, ?_⟩)))
    simp only [step, triggerWANUp]
    split_ifs <;> exact ⟨rfl, rfl⟩
  | wanDown ip =>
    refine .inr (.inr (.inr (.inr ⟨fun _ => rfl, fun _ => rfl, trivial, ?_⟩)))
    simp only [step, triggerWANDown]
    split_ifs <;> exact ⟨rfl, rfl⟩
  | staClientAdd ip =>
    refine .inr (.inr (.inr (.inr ⟨fun _ => rfl, fun _ => rfl, trivial, ?_⟩)))
    simp only [step, handleSTAClientAddEvt]
    split
    · exact ⟨rfl, rfl⟩
    rw [call_natIfaceIpv4Addr, call_nonnatIfaceIpv4Addr]
    split
    · exact ⟨rfl, rfl⟩
    · split <;> exact ⟨rfl, rfl⟩
  | staClientDel ip =>
    refine .inr (.inr (.inr (.inr ⟨fun _ => rfl, fun _ => rfl, trivial, ?_⟩)))
    simp only [step, handleSTAClientDelEvt, call_natIfaceIpv4Addr, call_nonnatIfaceIpv4Addr]
    split <;> exact ⟨rfl, rfl⟩

/-- **One event** leaves the lists right exactly when it finds them so. -/
theorem step_lists_iff (h : Lists es l) (hlen : l.natIfaceIpv4Addr.length = maxIfaceAddress) (e : ListenerEvt) :
    Lists (es ++ [e]) (l.step env e) ↔ Listed l e := by
  rcases @step_cases δ env e l with ⟨data, rfl⟩ | ⟨data, rfl⟩ | ⟨data, rfl⟩ | ⟨ip, rfl⟩ | ⟨hn, hs, hl, h1, h2⟩
  · rw [step]
    exact h.addNonnat_iff
  · rw [step]
    exact h.delNonnat_iff
  · rw [step]
    exact h.addNat_iff
  · exact iff_of_true (h.delNat hlen ip) trivial
  · exact iff_of_true (h.other hn hs h1 h2) hl

theorem step_length (hlen : l.natIfaceIpv4Addr.length = maxIfaceAddress) (e : ListenerEvt) :
    (l.step env e).natIfaceIpv4Addr.length = maxIfaceAddress := by
  have h1 : (1 : BitVec 32) ≠ 0 := by decide
  rcases @step_cases δ env e l with ⟨data, rfl⟩ | ⟨data, rfl⟩ | ⟨data, rfl⟩ | ⟨ip, rfl⟩ | ⟨-, -, -, -, h2⟩
  · rw [step, (handleNonNatIPAddr_add h1).1]
    exact hlen
  · rw [step, (handleNonNatIPAddr_del h1).1]
    exact hlen
  · rw [step, (handleNeighIpAddrAddEvt_count h1).2.1]
    exact hlen
  · by_cases h0 : ip = 0
    · rw [step, handleNeighIpAddrDelEvt, if_pos h0]
      exact hlen
    · obtain ⟨nat, hn⟩ := @handleNeighIpAddrDelEvt_eq δ env l ip h0 hlen
      rw [step, hn]
      exact Lib.Slots.length_freeAll.trans hlen
  · rw [h2]
    exact hlen

/-- **The two lists follow the events** all along a run exactly when each event finds its list such that it does what it
says: an added address stands nowhere yet and there is room for it, or it stands where the search ends. -/
theorem iface_addrs_iff (env : NatEnv δ) (cfg : ListenerConfig) (sta : Bool) (wan : BitVec 32) (nat : NatApp δ)
    (es : List ListenerEvt) :
    (∀ pre, pre <+: es → Lists pre ((init cfg sta wan nat).run env pre)) ↔
      Lib.EachStep (ConntrackListener.step env) Listed (init cfg sta wan nat) es := by
  let I (es : List ListenerEvt) (l : ConntrackListener δ) : Prop := Lists es l ∧ l.natIfaceIpv4Addr.length = maxIfaceAddress
  have hinit : I [] (init cfg sta wan nat) := ⟨init_lists cfg sta wan nat, List.length_replicate⟩
  exact Lib.eachStep_iff (fun _ _ h => h.1) (fun _ _ e h hl => ⟨(step_lists_iff h.1 h.2 e).2 hl, step_length h.2 e⟩)
    (fun _ _ e h hl => (step_lists_iff h.1 h.2 e).1 hl) hinit es

/-- An address added twice outlives its deletion, and one behind a hole is added again. -/
theorem not_iface_addrs_sample :
    (¬ Lists [.neighClientIpAddrAdd ⟨10, true, some false⟩, .neighClientIpAddrAdd ⟨10, true, some false⟩,
        .neighClientIpAddrDel ⟨10, true, none⟩]
      (sampleListener.run NatApp.acceptingEnv [.neighClientIpAddrAdd ⟨10, true, some false⟩,
        .neighClientIpAddrAdd ⟨10, true, some false⟩, .neighClientIpAddrDel ⟨10, true, none⟩])) ∧
    ¬ Lists [.neighIpAddrAdd ⟨11, true, some true⟩, .neighIpAddrAdd ⟨12, true, some true⟩, .neighIpAddrDel 11,
        .neighIpAddrAdd ⟨12, true, some true⟩]
      (sampleListener.run NatApp.acceptingEnv [.neighIpAddrAdd ⟨11, true, some true⟩, .neighIpAddrAdd ⟨12, true, some true⟩,
        .neighIpAddrDel 11, .neighIpAddrAdd ⟨12, true, some true⟩]) := by
  constructor
  · intro h
    exact absurd (h.nonnat 10 (by decide)) (by decide +kernel)
  · intro h
    exact absurd (h.nat 12 (by decide)) (by decide +kernel)

end ConntrackListener
end HiaeCommon
