/-
What the events of the conntrack listener call `NatApp` for
(`ipacm/src/IPACM_ConntrackListener.cpp`): `Calls` lists the calls an event may
make of the state it finds, so that what these calls keep, the event keeps
(`step_nat`).
-/
import HiaeCommon.Ipacm.ConntrackListener
import HiaeCommon.Lib.Run

namespace HiaeCommon

/-- A call about one connection. -/
def NatOp.IsEntry : NatOp → Prop
  | .addEntry _ | .cacheEntry _ | .deleteEntry _ | .addTempEntry _ | .deleteTempEntry _ => True
  | _ => False

namespace ConntrackListener

variable {δ : Type} {env : NatEnv δ}

/-- An event that finds the listener as `l` may make the call `op`. -/
def Calls (l : ConntrackListener δ) (op : NatOp) : ListenerEvt → Prop
  | .ctMessage _ => op.IsEntry
  | .wanUp ip _ => l.wanUp = false ∧ op = .addTable ip
  | .wanDown ip => op = .deleteTable ip
  | .neighClientIpAddrAdd data => op = .flushTempEntries data.ipv4Addr true true
  | .neighClientIpAddrDel data => l.isStaMode = false ∧ data.ipv4Addr ∈ l.nonnatIfaceIpv4Addr ∧
      (op = .flushTempEntries data.ipv4Addr false false ∨ op = .delEntriesOnClntDiscon data.ipv4Addr)
  | .neighIpAddrAdd data => checkNatIface data = some true ∧ (data.ipv4Addr ∈ l.natIfaceIpv4Addr ∨ 0 ∈ l.natIfaceIpv4Addr) ∧
      (op = .resetPwrSaveIf data.ipv4Addr ∨ op = .flushTempEntries data.ipv4Addr true false)
  | .neighIpAddrDel ip => ip ≠ 0 ∧ ip ∈ l.natIfaceIpv4Addr ∧
      (op = .flushTempEntries ip false false ∨ op = .delEntriesOnClntDiscon ip)
  | .staClientAdd ip => op = .flushTempEntries ip true false
  | .staClientDel ip => op = .flushTempEntries ip false false ∨ op = .delEntriesOnSTAClntDiscon ip
  | .natCall op' => op = op'
  | .config _ => False

variable {l : ConntrackListener δ} {I : NatApp δ → Prop}

theorem mem_of_findIdx? {xs : List (BitVec 32)} {p : BitVec 32 → Bool} {i : Nat} (h : xs.findIdx? p = some i) : ∃ a ∈ xs, p a = true := by
  obtain ⟨hlt, hp, -⟩ := List.findIdx?_eq_some_iff_getElem.mp h
  exact ⟨_, List.getElem_mem hlt, hp⟩

theorem call_nat {t : ConntrackListener δ} {op : NatOp} {e : ListenerEvt} (h : ∀ op s, l.Calls op e → I s → I (s.step env op))
    (hop : l.Calls op e) (ht : I t.nat) : I (t.call env op).nat := h op t.nat hop ht

theorem handleNonNatIPAddr_nat (data : NeighData) (addOp : Bool) (h0 : I l.nat)
    (h : ∀ op s, l.Calls op (if addOp then .neighClientIpAddrAdd data else .neighClientIpAddrDel data) → I s → I (s.step env op)) :
    I (l.handleNonNatIPAddr env data addOp).nat := by
  unfold handleNonNatIPAddr
  split
  · exact h0
  next hsta =>
    have hsta : l.isStaMode = false := by simpa using hsta
    cases addOp with
    | true =>
      rw [if_pos rfl]
      split
      · split
        · exact h0
        · exact call_nat h rfl h0
      · exact h0
    | false =>
      rw [if_neg Bool.false_ne_true]
      split
      · exact h0
      next hf =>
        obtain ⟨a, ha, heq⟩ := mem_of_findIdx? hf
        have heq : a = data.ipv4Addr := by simpa using heq
        exact call_nat h ⟨hsta, heq ▸ ha, .inr rfl⟩ (call_nat h ⟨hsta, heq ▸ ha, .inl rfl⟩ h0)

theorem handleNeighIpAddrAddEvt_nat (data : NeighData) (h0 : I l.nat)
    (h : ∀ op s, l.Calls op (.neighIpAddrAdd data) → I s → I (s.step env op)) : I (l.handleNeighIpAddrAddEvt env data).nat := by
  unfold handleNeighIpAddrAddEvt
  split
  next hif =>
    split
    · exact h0
    next hf =>
      obtain ⟨a, ha, heq⟩ := mem_of_findIdx? hf
      have hroom : data.ipv4Addr ∈ l.natIfaceIpv4Addr ∨ 0 ∈ l.natIfaceIpv4Addr := by
        simp only [Bool.or_eq_true, beq_iff_eq] at heq
        rcases heq with rfl | rfl
        · exact .inl ha
        · exact .inr ha
      exact call_nat h ⟨hif, hroom, .inr rfl⟩ (call_nat h ⟨hif, hroom, .inl rfl⟩ h0)
  · exact h0

theorem handleNeighIpAddrDelEvt_nat (ip : BitVec 32) (h0 : I l.nat)
    (h : ∀ op s, l.Calls op (.neighIpAddrDel ip) → I s → I (s.step env op)) : I (l.handleNeighIpAddrDelEvt env ip).nat := by
  unfold handleNeighIpAddrDelEvt
  split
  · exact h0
  next hip =>
    -- the loop only takes addresses off the list
    refine (Lib.forRange_inv' (fun t : ConntrackListener δ => I t.nat ∧ (ip ∈ t.natIfaceIpv4Addr → ip ∈ l.natIfaceIpv4Addr))
      ⟨h0, id⟩ fun i t _ ⟨ht, hmem⟩ => ?_).1
    unfold handleNeighIpAddrDelEvtBody
    split
    next heq =>
      have hin : ip ∈ l.natIfaceIpv4Addr := hmem (by
        rw [List.getD_eq_getElem?_getD] at heq
        cases hi : t.natIfaceIpv4Addr[i]? with
        | none =>
          rw [hi] at heq
          exact absurd heq.symm hip
        | some a =>
          rw [hi] at heq
          exact heq ▸ List.mem_of_getElem? hi)
      exact ⟨call_nat h ⟨hip, hin, .inr rfl⟩ (call_nat h ⟨hip, hin, .inl rfl⟩ ht), fun _ => hin⟩
    · exact ⟨ht, hmem⟩

theorem handleSTAClientAddEvt_nat (ip : BitVec 32) (h0 : I l.nat) (h : ∀ op s, l.Calls op (.staClientAdd ip) → I s → I (s.step env op)) :
    I (l.handleSTAClientAddEvt env ip).nat := by
  unfold handleSTAClientAddEvt
  split
  · exact h0
  · refine call_nat h rfl ?_
    split
    · exact h0
    · split <;> exact h0

theorem handleSTAClientDelEvt_nat (ip : BitVec 32) (h0 : I l.nat) (h : ∀ op s, l.Calls op (.staClientDel ip) → I s → I (s.step env op)) :
    I (l.handleSTAClientDelEvt env ip).nat := by
  refine call_nat h (.inl rfl) ?_
  split
  · exact h0
  next cnt _ =>
    have hset : I ({ l with staClntIpv4Addr := l.staClntIpv4Addr.set cnt 0 } : ConntrackListener δ).nat := h0
    exact h (.delEntriesOnSTAClntDiscon ip) _ (.inr rfl) hset

theorem processCTMessage_nat (m : CtMsg) (h0 : I l.nat) (h : ∀ op s, l.Calls op (.ctMessage m) → I s → I (s.step env op)) :
    I (l.processCTMessage env m).nat := by
  have hentry : ∀ {t : ConntrackListener δ} (op : NatOp), op.IsEntry → I t.nat → I (t.call env op).nat := fun op hop ht =>
    call_nat h (e := .ctMessage m) hop ht
  have hadd : ∀ rule temp, I (l.addNatEntry env rule temp).nat := fun rule temp => by
    unfold addNatEntry
    split
    · exact hentry _ trivial h0
    · split <;> exact hentry _ trivial h0
  have hdel : ∀ rule, I (l.deleteNatEntry env rule).nat := fun rule => hentry _ trivial (hentry _ trivial h0)
  unfold processCTMessage
  split
  · exact h0
  split
  · exact h0
  unfold addORDeleteNatEntry
  repeat' split
  all_goals first | exact hadd .. | exact hdel _ | exact h0

/-- **The rule of an event**: what the calls it may make keep, it keeps. -/
theorem step_nat (e : ListenerEvt) (h0 : I l.nat) (h : ∀ op s, l.Calls op e → I s → I (s.step env op)) : I (l.step env e).nat := by
  cases e with
  | ctMessage m => exact processCTMessage_nat m h0 h
  | wanUp ip sta =>
    simp only [step, triggerWANUp]
    split
    · exact h0
    next hup =>
      split
      · exact h0
      · exact h _ _ ⟨by simpa using hup, rfl⟩ h0
  | wanDown ip =>
    simp only [step, triggerWANDown]
    split
    · exact h _ _ rfl h0
    · exact h0
  | neighClientIpAddrAdd data => exact handleNonNatIPAddr_nat data true h0 h
  | neighClientIpAddrDel data => exact handleNonNatIPAddr_nat data false h0 h
  | neighIpAddrAdd data => exact handleNeighIpAddrAddEvt_nat data h0 h
  | neighIpAddrDel ip => exact handleNeighIpAddrDelEvt_nat ip h0 h
  | staClientAdd ip => exact handleSTAClientAddEvt_nat ip h0 h
  | staClientDel ip => exact handleSTAClientDelEvt_nat ip h0 h
  | natCall op => exact h _ _ rfl h0
  | config cfg => exact h0

end ConntrackListener
end HiaeCommon
