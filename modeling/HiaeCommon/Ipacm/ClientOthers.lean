/-
What the removal of a client leaves of the others: `LeavesOthers` says that each
of them has the record it had, wherever it is now.
-/
import HiaeCommon.Ipacm.ClientsHeld

namespace HiaeCommon

variable {tx : List TxProp}

/-- Two copies of one client's record: all that is set is the same. -/
structure Client.SameRecord {σ : Type} (tx : List TxProp) (c c' : Client σ) : Prop where
  mac : c'.mac = c.mac
  hdrHdl : c'.hdrHdlV4 = c.hdrHdlV4 ∧ c'.hdrHdlV6 = c.hdrHdlV6
  headerSet : c'.ipv4HeaderSet = c.ipv4HeaderSet ∧ c'.ipv6HeaderSet = c.ipv6HeaderSet
  ipSet : c'.ipv4Set = c.ipv4Set ∧ c'.ipv6Set = c.ipv6Set
  routeRuleSet : c'.routeRuleSetV4 = c.routeRuleSetV4 ∧ c'.routeRuleSetV6 = c.routeRuleSetV6
  v4Addr : c'.v4Addr = c.v4Addr
  v6Addr : ∀ n < c.ipv6Set, c'.v6Addr n = c.v6Addr n
  rtHdlV4 : ∀ i < tx.length, (c'.rtHdl i).rtRuleHdlV4 = (c.rtHdl i).rtRuleHdlV4
  rtHdlV6 : ∀ i < tx.length, ∀ n < c.routeRuleSetV6, (c'.rtHdl i).rtRuleHdlV6 n = (c.rtHdl i).rtRuleHdlV6 n ∧
    (c'.rtHdl i).rtRuleHdlV6Wan n = (c.rtHdl i).rtRuleHdlV6Wan n
  own : c'.own = c.own

theorem Client.SameRecord.refl {σ : Type} (c : Client σ) : c.SameRecord tx c :=
  ⟨rfl, ⟨rfl, rfl⟩, ⟨rfl, rfl⟩, ⟨rfl, rfl⟩, ⟨rfl, rfl⟩, rfl, fun _ _ => rfl, fun _ _ => rfl, fun _ _ _ _ => ⟨rfl, rfl⟩, rfl⟩

/-- A record that moves up is complete, but for what is kept beyond the common fields. -/
theorem Client.copyFrom_same {σ : Type} {c n : Client σ} (h : c.own = n.own) : n.SameRecord tx (c.copyFrom tx n) :=
  ⟨rfl, ⟨rfl, rfl⟩, ⟨rfl, rfl⟩, ⟨rfl, rfl⟩, ⟨rfl, rfl⟩, rfl, fun _ hk => if_pos hk, fun _ hi => by simp only [copyFrom, if_pos hi],
    fun _ hi _ hk => by simp only [copyFrom, if_pos hi, if_pos hk, and_self], h⟩

namespace ClientTable

variable {σ : Type}

/-- Every other client has the record it had. -/
def LeavesOthers (tx : List TxProp) (mac : MacAddr) (t t' : ClientTable σ) : Prop :=
  ∀ mac' ≠ mac, (t'.index mac' = none ↔ t.index mac' = none) ∧
    ∀ i i', t.index mac' = some i → t'.index mac' = some i' → (t.slot i).SameRecord tx (t'.slot i')

theorem LeavesOthers.refl {mac : MacAddr} (t : ClientTable σ) : t.LeavesOthers tx mac t := by
  intro mac' _
  refine ⟨Iff.rfl, fun i i' hi hi' => ?_⟩
  rw [hi, Option.some.injEq] at hi'
  rw [← hi']
  exact Client.SameRecord.refl _

/-- No two records in use have one MAC. -/
def Distinct (t : ClientTable σ) : Prop := ∀ i j, i < t.num → j < t.num → (t.slot i).mac = (t.slot j).mac → i = j

theorem index_none {t : ClientTable σ} {mac : MacAddr} : t.index mac = none ↔ ∀ i < t.num, (t.slot i).mac ≠ mac := by
  simp only [index, List.find?_eq_none, List.mem_range, decide_eq_true_eq, ne_eq]

theorem Distinct.index {t : ClientTable σ} (h : t.Distinct) {i : Nat} (hi : i < t.num) : t.index (t.slot i).mac = some i := by
  cases hidx : t.index (t.slot i).mac with
  | none => exact absurd rfl (index_none.1 hidx i hi)
  | some j =>
    obtain ⟨hj, hm⟩ := index_some hidx
    rw [h j i hj hi hm]

/-- Where the records are once one of them is gone. -/
theorem removed_slot (t : ClientTable σ) {i : Nat} (c : Client σ) {k : Nat} (hk : k < t.num - 1) (hi : i < t.num) :
    ((t.set i c).compact tx i).slot k =
      if i ≤ k then ((t.set i c).slot k).copyFrom tx (t.slot (k + 1)) else t.slot k := by
  rw [compact_slot, set_num]
  by_cases hik : i ≤ k
  · rw [if_pos ⟨hik, by omega⟩, if_pos hik, set_slot_ne t (show k + 1 ≠ i by omega)]
  · rw [if_neg fun h => hik h.1, if_neg hik, set_slot_ne t (show k ≠ i by omega)]

theorem Distinct.removed {t : ClientTable σ} (h : t.Distinct) {i : Nat} (hi : i < t.num) (c : Client σ) :
    ({ (t.set i c).compact tx i with num := t.num - 1 } : ClientTable σ).Distinct := by
  have hmac : ∀ k, k < t.num - 1 → (((t.set i c).compact tx i).slot k).mac = (t.slot (if i ≤ k then k + 1 else k)).mac :=
    fun k hk => by
      rw [removed_slot t c hk hi]
      split <;> rfl
  intro k l hk hl heq
  have hk : k < t.num - 1 := hk
  have hl : l < t.num - 1 := hl
  have heq := (hmac k hk).symm.trans (heq.trans (hmac l hl))
  split at heq <;> split at heq <;> have := h _ _ (by omega) (by omega) heq <;> omega

/-- **Removing one client leaves the others' records**, where the records from it on agree about what is
not copied. -/
theorem Distinct.leavesOthers {t : ClientTable σ} (h : t.Distinct) {mac : MacAddr} {i : Nat} (hi : t.index mac = some i)
    {c : Client σ} (hc : c.own = (t.slot i).own) (hown : ∀ k, i ≤ k → k + 1 < t.num → (t.slot k).own = (t.slot (k + 1)).own) :
    LeavesOthers tx mac t { (t.set i c).compact tx i with num := t.num - 1 } := by
  obtain ⟨hlt, hmaci⟩ := index_some hi
  have hdist := @Distinct.removed tx _ _ h _ hlt c
  -- where each of the others goes
  have hmove : ∀ k, k < t.num → k ≠ i → ∃ k' < t.num - 1, (t.slot k).SameRecord tx (((t.set i c).compact tx i).slot k') := by
    intro k hk hne
    by_cases hik : i < k
    · refine ⟨k - 1, by omega, ?_⟩
      rw [removed_slot t c (by omega) hlt, if_pos (by omega), show k - 1 + 1 = k by omega]
      refine Client.copyFrom_same ?_
      have := hown (k - 1) (by omega) (by omega)
      rw [show k - 1 + 1 = k by omega] at this
      by_cases hki : k - 1 = i
      · rw [hki, set_slot_self, hc, ← hki, this]
      · rw [set_slot_ne t hki, this]
    · refine ⟨k, by omega, ?_⟩
      rw [removed_slot t c (by omega) hlt, if_neg (by omega)]
      exact Client.SameRecord.refl _
  -- and where each of them came from
  have hback : ∀ k', k' < t.num - 1 → ∃ k < t.num, (((t.set i c).compact tx i).slot k').mac = (t.slot k).mac := by
    intro k' hk'
    rw [removed_slot t c hk' hlt]
    split
    · exact ⟨k' + 1, by omega, rfl⟩
    · exact ⟨k', by omega, rfl⟩
  intro mac' hne
  constructor
  · rw [index_none, index_none]
    constructor
    · intro hn k hk heq
      have hki : k ≠ i := fun he => hne (by rw [← heq, he, hmaci])
      obtain ⟨k', hk', hsame⟩ := hmove k hk hki
      exact hn k' hk' (hsame.mac.trans heq)
    · intro hn k' hk' heq
      obtain ⟨k, hk, hm⟩ := hback k' hk'
      exact hn k hk (hm.symm.trans heq)
  · intro k k' hk hk'
    obtain ⟨hklt, hkm⟩ := index_some hk
    obtain ⟨hk'lt, hk'm⟩ := index_some hk'
    have hki : k ≠ i := fun he => hne (by rw [← hkm, he, hmaci])
    obtain ⟨k'', hk'', hsame⟩ := hmove k hklt hki
    have : k'' = k' := hdist k'' k' hk'' hk'lt (hsame.mac.trans (hkm.trans hk'm.symm))
    rw [← this]
    exact hsame

/-- A table in order: at most `max` clients, no MAC twice, no header without a property for it. -/
structure InOrder (max : Nat) (tx : List TxProp) (t : ClientTable σ) : Prop where
  num_le : t.num ≤ max
  distinct : t.Distinct
  backed : ∀ i, (t.slot i).HeadersBacked tx

variable {max : Nat} {t : ClientTable σ}

theorem InOrder.conserves (h : t.InOrder max tx) {s u : Multiset Nat} {t' : ClientTable σ} {o' : Outside}
    (hc : Conserves tx s u t t' o') : t'.InOrder max tx := by
  refine ⟨hc.num ▸ h.num_le, fun i j hi hj hm => ?_, fun i => ⟨fun h4 => ?_, fun h6 => ?_⟩⟩
  · rw [hc.num] at hi hj
    rw [hc.mac, hc.mac] at hm
    exact h.distinct i j hi hj hm
  · exact (h.backed i).hdr4 (hc.hdr4 i ▸ h4)
  · exact (h.backed i).hdr6 (hc.hdr6 i ▸ h6)

theorem backed_push (h : ∀ i, (t.slot i).HeadersBacked tx) {c : Client σ} (hc : c.HeadersBacked tx) (i : Nat) :
    ((t.set t.num c).slot i).HeadersBacked tx := by
  by_cases hin : i = t.num
  · rw [hin, set_slot_self]
    exact hc
  · rw [set_slot_ne _ hin]
    exact h i

/-- A client without headers goes. -/
theorem backed_removed (h : ∀ i, (t.slot i).HeadersBacked tx) {i : Nat} {c : Client σ}
    (hc : c.ipv4HeaderSet = false ∧ c.ipv6HeaderSet = false) (k : Nat) : (((t.set i c).compact tx i).slot k).HeadersBacked tx := by
  have hset : ∀ k, ((t.set i c).slot k).HeadersBacked tx := fun k => by
    by_cases hk : k = i
    · rw [hk, set_slot_self]
      exact ⟨fun h => absurd h (by simp [hc.1]), fun h => absurd h (by simp [hc.2])⟩
    · rw [set_slot_ne _ hk]
      exact h k
  rw [compact_slot]
  split
  · exact ⟨(hset (k + 1)).hdr4, (hset (k + 1)).hdr6⟩
  · exact hset k

/-- A new client joins. -/
theorem InOrder.push (h : t.InOrder max tx) (hroom : t.num < max) {c : Client σ} (hnew : ∀ i < t.num, (t.slot i).mac ≠ c.mac)
    (hc : c.HeadersBacked tx) : ({ t.set t.num c with num := t.num + 1 } : ClientTable σ).InOrder max tx := by
  have hslot : ∀ k, k < t.num → (t.set t.num c).slot k = t.slot k := fun k hk => set_slot_ne _ (by omega) _
  refine ⟨hroom, fun i j hi hj hm => ?_, backed_push h.backed hc⟩
  have hi : i < t.num + 1 := hi
  have hj : j < t.num + 1 := hj
  dsimp only at hm
  by_cases hin : i = t.num
  · by_cases hjn : j = t.num
    · omega
    · rw [hin, set_slot_self, hslot j (by omega)] at hm
      exact absurd hm.symm (hnew j (by omega))
  · by_cases hjn : j = t.num
    · rw [hjn, set_slot_self, hslot i (by omega)] at hm
      exact absurd hm (hnew i (by omega))
    · rw [hslot i (by omega), hslot j (by omega)] at hm
      exact h.distinct i j (by omega) (by omega) hm

/-- A client without headers goes, and the gap is closed. -/
theorem InOrder.removed (h : t.InOrder max tx) {i : Nat} (hi : i < t.num) {c : Client σ}
    (hc : c.ipv4HeaderSet = false ∧ c.ipv6HeaderSet = false) :
    ({ (t.set i c).compact tx i with num := t.num - 1 } : ClientTable σ).InOrder max tx :=
  ⟨Nat.le_trans (Nat.sub_le _ _) h.num_le, h.distinct.removed hi c, backed_removed h.backed hc⟩

end ClientTable
end HiaeCommon
