/-
What `ipa_nati_add_ipv4_rule` writes, step by step. Each function is read once
here: where it returns, its result is given as the writes that lead to it
(`TblPlace`, `IndexPlace`, `addWrites`), and no later proof unfolds it.
-/
import HiaeCommon.Ipanat.NatSession

namespace HiaeCommon

open Function (update)

namespace Stuck

variable {β γ : Type}

theorem bind_eq_ok {x : Except Stuck β} {f : β → Except Stuck γ} {c : γ} :
    x >>= f = .ok c ↔ ∃ b, x = .ok b ∧ f b = .ok c := by
  cases x with
  | error e => exact ⟨fun h => (nomatch h), fun ⟨_, h, _⟩ => (nomatch h)⟩
  | ok b => exact ⟨fun h => ⟨b, rfl, h⟩, fun ⟨_, h, h'⟩ => by cases h; exact h'⟩

theorem ite_eq_ok {p : Prop} [Decidable p] {b c : β} :
    (if p then .ok b else .error .outOfBounds : Except Stuck β) = .ok c ↔ p ∧ b = c := by
  by_cases hp : p <;> simp [hp]

@[simp] theorem ok_bind (b : β) (f : β → Except Stuck γ) : (.ok b : Except Stuck β) >>= f = f b := rfl

@[simp] theorem pure_eq_ok (b : β) : (pure b : Except Stuck β) = .ok b := rfl

end Stuck

namespace NatRule

/-- What the writes of the driver leave of a record. -/
def link (r : NatRule) (next : Nat) : NatRule := { r with nextIndex := u16 next }
def enabled (r : NatRule) : NatRule := { r with rsvd1 := 0, redirect := false, enable := true }
def disabled (r : NatRule) : NatRule := { r with rsvd1 := 0, redirect := false, enable := false }
def killed (r : NatRule) : NatRule :=
  { r with timeStamp := r.timeStamp &&& 0x00FFFF#24, protocol := ipaNatInvalidProtoFieldCmp }

theorem write16_next (r : NatRule) (data : Nat) : r.write16 4 data = r.link data := rfl
theorem write16_kill (r : NatRule) : r.write16 11 ipaNatInvalidProtoFieldValue = r.killed := by
  unfold write16 killed
  simp [ipaNatInvalidProtoFieldValue, ipaNatInvalidProtoFieldCmp]

end NatRule

namespace IndxTblRule

def link (e : IndxTblRule) (next : Nat) : IndxTblRule := { e with nextIndex := u16 next }
def point (e : IndxTblRule) (entry : Nat) : IndxTblRule := { e with tblEntry := u16 entry }

theorem write16_next (e : IndxTblRule) (data : Nat) : e.write16 1 data = e.link data := rfl

end IndxTblRule

namespace Ip4TableCache

variable {s t : Ip4TableCache} {prev : Nat}

/-! ## Setters -/

section
variable (s) (i v : Nat) (r : NatRule) (e : IndxTblRule)

@[simp] theorem tableEntries_setRule : (s.setRule i r).tableEntries = s.tableEntries := rfl
@[simp] theorem expnTableEntries_setRule : (s.setRule i r).expnTableEntries = s.expnTableEntries := rfl
@[simp] theorem slots_setRule : (s.setRule i r).slots = s.slots := rfl
@[simp] theorem tblAddrOffset_setRule : (s.setRule i r).tblAddrOffset = s.tblAddrOffset := rfl
@[simp] theorem rules_setRule : (s.setRule i r).rules = update s.rules i r := rfl
@[simp] theorem index_setRule : (s.setRule i r).index = s.index := rfl
@[simp] theorem meta_setRule : (s.setRule i r).indexExpnTableMeta = s.indexExpnTableMeta := rfl
@[simp] theorem ruleIdArray_setRule : (s.setRule i r).ruleIdArray = s.ruleIdArray := rfl
@[simp] theorem trace_setRule : (s.setRule i r).trace = (s.setRule i r).shared :: s.trace := rfl

@[simp] theorem tableEntries_setIndex : (s.setIndex i e).tableEntries = s.tableEntries := rfl
@[simp] theorem expnTableEntries_setIndex : (s.setIndex i e).expnTableEntries = s.expnTableEntries := rfl
@[simp] theorem slots_setIndex : (s.setIndex i e).slots = s.slots := rfl
@[simp] theorem tblAddrOffset_setIndex : (s.setIndex i e).tblAddrOffset = s.tblAddrOffset := rfl
@[simp] theorem rules_setIndex : (s.setIndex i e).rules = s.rules := rfl
@[simp] theorem index_setIndex : (s.setIndex i e).index = update s.index i e := rfl
@[simp] theorem meta_setIndex : (s.setIndex i e).indexExpnTableMeta = s.indexExpnTableMeta := rfl
@[simp] theorem ruleIdArray_setIndex : (s.setIndex i e).ruleIdArray = s.ruleIdArray := rfl
@[simp] theorem trace_setIndex : (s.setIndex i e).trace = (s.setIndex i e).shared :: s.trace := rfl

@[simp] theorem tableEntries_setMeta : (s.setMeta i v).tableEntries = s.tableEntries := rfl
@[simp] theorem expnTableEntries_setMeta : (s.setMeta i v).expnTableEntries = s.expnTableEntries := rfl
@[simp] theorem slots_setMeta : (s.setMeta i v).slots = s.slots := rfl
@[simp] theorem tblAddrOffset_setMeta : (s.setMeta i v).tblAddrOffset = s.tblAddrOffset := rfl
@[simp] theorem rules_setMeta : (s.setMeta i v).rules = s.rules := rfl
@[simp] theorem index_setMeta : (s.setMeta i v).index = s.index := rfl
@[simp] theorem meta_setMeta : (s.setMeta i v).indexExpnTableMeta = update s.indexExpnTableMeta i v := rfl
@[simp] theorem ruleIdArray_setMeta : (s.setMeta i v).ruleIdArray = s.ruleIdArray := rfl
@[simp] theorem trace_setMeta : (s.setMeta i v).trace = s.trace := rfl

@[simp] theorem rules_setRuleId : (s.setRuleId i v).rules = s.rules := rfl
@[simp] theorem index_setRuleId : (s.setRuleId i v).index = s.index := rfl
@[simp] theorem meta_setRuleId : (s.setRuleId i v).indexExpnTableMeta = s.indexExpnTableMeta := rfl
@[simp] theorem ruleIdArray_setRuleId : (s.setRuleId i v).ruleIdArray = update s.ruleIdArray i v := rfl
@[simp] theorem trace_setRuleId : (s.setRuleId i v).trace = s.trace := rfl

end

/-- What creation fixes. -/
structure Sized (s : Ip4TableCache) : Prop where
  valid : s.valid = true
  offset : s.tblAddrOffset = 0
  table_le : s.tableEntries ≤ 2 ^ 15
  expn_le : s.expnTableEntries ≤ 2 ^ 14
  two_le : s.tableEntries = 0 ∨ 2 ≤ s.tableEntries

/-- No call changes what creation fixed. -/
structure SameTable (s t : Ip4TableCache) : Prop where
  valid : t.valid = s.valid
  publicAddr : t.publicAddr = s.publicAddr
  tblAddrOffset : t.tblAddrOffset = s.tblAddrOffset
  tableEntries : t.tableEntries = s.tableEntries
  expnTableEntries : t.expnTableEntries = s.expnTableEntries

namespace SameTable

theorem refl (s : Ip4TableCache) : SameTable s s := ⟨rfl, rfl, rfl, rfl, rfl⟩

theorem trans {u : Ip4TableCache} (h : SameTable s t) (h' : SameTable t u) : SameTable s u :=
  ⟨h'.1.trans h.1, h'.2.trans h.2, h'.3.trans h.3, h'.4.trans h.4, h'.5.trans h.5⟩

theorem slots (h : SameTable s t) : t.slots = s.slots := by
  unfold Ip4TableCache.slots
  rw [h.tableEntries, h.expnTableEntries]

theorem hashSize (h : SameTable s t) : t.hashSize = s.hashSize := by
  unfold Ip4TableCache.hashSize
  rw [h.tableEntries]

theorem dstSlot (h : SameTable s t) (r : IpaNatIpv4Rule) : t.dstSlot r = s.dstSlot r := by
  unfold Ip4TableCache.dstSlot
  rw [h.hashSize]

theorem srcSlot (h : SameTable s t) (r : IpaNatIpv4Rule) : t.srcSlot r = s.srcSlot r := by
  unfold Ip4TableCache.srcSlot
  rw [h.hashSize]

theorem sized (h : SameTable s t) (hs : s.Sized) : t.Sized := by
  obtain ⟨h1, h2, h3, h4, h5⟩ := hs
  constructor
  · rw [h.valid, h1]
  · rw [h.tblAddrOffset, h2]
  · rw [h.tableEntries]
    exact h3
  · rw [h.expnTableEntries]
    exact h4
  · rw [h.tableEntries]
    exact h5

end SameTable

theorem Sized.slots_lt (h : s.Sized) : s.slots < 2 ^ 16 := by
  have := h.table_le
  have := h.expn_le
  unfold slots
  omega

/-- A hash with its zero replaced, masked by the number of the last entry. -/
theorem maskedHash_range (hash size : BitVec 16) (h : size.toNat ≠ 0) :
    (if hash &&& size = 0 then size else hash &&& size).toNat ≠ 0 ∧
      (if hash &&& size = 0 then size else hash &&& size).toNat ≤ size.toNat := by
  split
  · exact ⟨h, Nat.le_refl _⟩
  · rename_i hnz
    refine ⟨fun h0 => hnz (BitVec.eq_of_toNat_eq h0), ?_⟩
    rw [BitVec.toNat_and]
    exact Nat.and_le_right

theorem Sized.hashSize_eq (h : s.Sized) (hne : s.tableEntries ≠ 0) : s.hashSize.toNat = s.tableEntries - 1 := by
  have hle := h.table_le
  unfold hashSize
  rw [sub16_of_le (by omega) (by omega), BitVec.toNat_ofNat, Nat.mod_eq_of_lt (by omega)]

/-- **The hash never reaches entry 0** and stays in the base table, if there is one. -/
theorem Sized.dstSlot_range (h : s.Sized) (hne : s.tableEntries ≠ 0) (r : IpaNatIpv4Rule) :
    s.dstSlot r ≠ 0 ∧ s.dstSlot r < s.tableEntries := by
  have hsize := h.hashSize_eq hne
  have h2 : 2 ≤ s.tableEntries := h.two_le.resolve_left hne
  obtain ⟨hnz, hle⟩ := maskedHash_range (r.targetIp.setWidth 16 ^^^ (r.targetIp >>> 16).setWidth 16 ^^^
    r.targetPort ^^^ r.publicPort ^^^ r.protocol.setWidth 16) s.hashSize (by omega)
  exact ⟨hnz, show _ < _ from Nat.lt_of_le_of_lt hle (by omega)⟩

theorem Sized.srcSlot_range (h : s.Sized) (hne : s.tableEntries ≠ 0) (r : IpaNatIpv4Rule) :
    s.srcSlot r ≠ 0 ∧ s.srcSlot r < s.tableEntries := by
  have hsize := h.hashSize_eq hne
  have h2 : 2 ≤ s.tableEntries := h.two_le.resolve_left hne
  obtain ⟨hnz, hle⟩ := maskedHash_range (r.privateIp.setWidth 16 ^^^ (r.privateIp >>> 16).setWidth 16 ^^^
    r.privatePort ^^^ r.targetIp.setWidth 16 ^^^ (r.targetIp >>> 16).setWidth 16 ^^^ r.targetPort ^^^
    r.protocol.setWidth 16) s.hashSize (by omega)
  exact ⟨hnz, show _ < _ from Nat.lt_of_le_of_lt hle (by omega)⟩

/-! ## Commands -/

/-- The slot a `prev_index` leads to, and the one its index link is written to:
the offset of an index link has sixteen bits, four bytes an entry. -/
def linkSlot (s : Ip4TableCache) (prev : Nat) : Nat :=
  if prev < s.tableEntries then prev else s.tableEntries + sub16 prev s.tableEntries

def indexLinkSlot (s : Ip4TableCache) (prev : Nat) : Nat :=
  if prev < s.tableEntries then prev % 2 ^ 14 else s.tableEntries + sub16 prev s.tableEntries % 2 ^ 14

theorem linkSlot_eq (h : prev < 2 ^ 16) : s.linkSlot prev = prev := by
  unfold linkSlot
  split
  · rfl
  · rw [sub16_of_le (by omega) h]
    omega

theorem indexLinkSlot_eq (h : prev < 2 ^ 14 ∨ s.tableEntries ≤ prev ∧ prev < s.tableEntries + 2 ^ 14)
    (hs : s.Sized) : s.indexLinkSlot prev = prev := by
  have := hs.table_le
  unfold indexLinkSlot
  split
  · omega
  · rw [sub16_of_le (by omega) (by omega)]
    omega

/-- The slot a `next_index` leads to: an expansion slot. -/
def expnSlot (s : Ip4TableCache) (next : Nat) : Nat := s.tableEntries + sub16 next s.tableEntries

/-- `next_index` of the slot before is set, if there is one. -/
def linkRule (s : Ip4TableCache) (prev entry : Nat) : Ip4TableCache :=
  if prev = 0 then s else s.setRule (s.linkSlot prev) ((s.rules (s.linkSlot prev)).link entry)

def linkIndex (s : Ip4TableCache) (prev entry : Nat) : Ip4TableCache :=
  if prev = 0 then s else s.setIndex (s.indexLinkSlot prev) ((s.index (s.indexLinkSlot prev)).link entry)

theorem dmaOne_rule {tbl : NatTableType} (htbl : tbl = .baseTbl ∨ tbl = .expnTbl) (data entry off : Nat)
    (hoff : off < 32) : s.dmaOne ⟨tbl, data, ipaNatTableEntrySize * entry + off⟩ =
      (s.dmaSlot tbl entry >>= fun i => .ok (s.setRule i ((s.rules i).write16 (off / 2) data))) := by
  have hdiv : (ipaNatTableEntrySize * entry + off) / ipaNatTableEntrySize = entry := by
    unfold ipaNatTableEntrySize
    omega
  have hmod : (ipaNatTableEntrySize * entry + off) % ipaNatTableEntrySize = off := by
    unfold ipaNatTableEntrySize
    omega
  obtain rfl | rfl := htbl <;> simp only [dmaOne, hdiv, hmod, Stuck.pure_eq_ok]

theorem dmaOne_index {tbl : NatTableType} (htbl : tbl = .indxTbl ∨ tbl = .indexExpnTbl) (data entry off : Nat)
    (hoff : off < 4) : s.dmaOne ⟨tbl, data, ipaNatIndexTableEntrySize * entry + off⟩ =
      (s.dmaSlot tbl entry >>= fun i => .ok (s.setIndex i ((s.index i).write16 (off / 2) data))) := by
  have hdiv : (ipaNatIndexTableEntrySize * entry + off) / ipaNatIndexTableEntrySize = entry := by
    unfold ipaNatIndexTableEntrySize
    omega
  have hmod : (ipaNatIndexTableEntrySize * entry + off) % ipaNatIndexTableEntrySize = off := by
    unfold ipaNatIndexTableEntrySize
    omega
  obtain rfl | rfl := htbl <;> simp only [dmaOne, hdiv, hmod, Stuck.pure_eq_ok]

theorem getEntryOffset_eq (hs : s.Sized) (entry : Nat) :
    s.getEntryOffset entry = ipaNatTableEntrySize * entry := by
  unfold getEntryOffset
  rw [hs.offset, Nat.add_zero]

theorem getIndexEntryOffset_eq (hs : s.Sized) (entry : Nat) :
    s.getIndexEntryOffset entry = ipaNatIndexTableEntrySize * entry := by
  unfold getIndexEntryOffset
  rw [hs.offset, Nat.add_zero]

/-- **The link command of a deletion** writes `next_index` of the slot before. -/
theorem dmaOne_linkCmd (hs : s.Sized) (t : Ip4TableCache) (hst : SameTable s t) (prev data : Nat) :
    t.dmaOne (s.linkCmd prev data) = if s.linkSlot prev < s.slots then
      .ok (t.setRule (s.linkSlot prev) ((t.rules (s.linkSlot prev)).link data)) else .error .outOfBounds := by
  unfold linkCmd linkSlot slots
  simp only [getEntryOffset_eq hs]
  by_cases hp : prev < s.tableEntries
  · rw [if_neg (by omega), if_pos hp, dmaOne_rule (.inl rfl) _ _ _ (by decide), dmaSlot, hst.tableEntries, if_pos hp,
      if_pos (by omega)]
    rfl
  · rw [if_pos (by omega), if_neg hp, dmaOne_rule (.inr rfl) _ _ _ (by decide), dmaSlot, hst.tableEntries,
      hst.expnTableEntries]
    by_cases he : sub16 prev s.tableEntries < s.expnTableEntries
    · rw [if_pos he, if_pos (by omega)]
      rfl
    · rw [if_neg he, if_neg (by omega)]
      rfl

theorem dmaOne_indexLinkCmd (hs : s.Sized) (t : Ip4TableCache) (hst : SameTable s t) (prev data : Nat) :
    t.dmaOne (s.indexLinkCmd prev data) = if s.linkSlot prev < s.slots then
      .ok (t.setIndex (s.linkSlot prev) ((t.index (s.linkSlot prev)).link data)) else .error .outOfBounds := by
  unfold indexLinkCmd linkSlot slots
  simp only [getIndexEntryOffset_eq hs]
  by_cases hp : prev < s.tableEntries
  · rw [if_neg (by omega), if_pos hp, dmaOne_index (.inl rfl) _ _ _ (by decide), dmaSlot, hst.tableEntries, if_pos hp,
      if_pos (by omega)]
    rfl
  · rw [if_pos (by omega), if_neg hp, dmaOne_index (.inr rfl) _ _ _ (by decide), dmaSlot, hst.tableEntries,
      hst.expnTableEntries]
    by_cases he : sub16 prev s.tableEntries < s.expnTableEntries
    · rw [if_pos he, if_pos (by omega)]
      rfl
    · rw [if_neg he, if_neg (by omega)]
      rfl

/-! ## Adding a rule -/

/-- **The slot the generator finds for a rule**: its free base slot, or a free
expansion slot behind the last of its chain. -/
inductive TblPlace (s : Ip4TableCache) (r : IpaNatIpv4Rule) : NatRule → Nat → Prop
  | base : s.dstSlot r < s.slots → (s.rules (s.dstSlot r)).enable = false →
      TblPlace s r (s.swRule r) (s.dstSlot r)
  | expn {prev : Nat} : s.dstSlot r < s.slots → (s.rules (s.dstSlot r)).enable = true →
      s.chainEnd s.readNext (s.dstSlot r) (s.rules (s.dstSlot r)).nextIndex = .ok (some prev) → s.expnTblFreeEntry ≠ 0 →
      TblPlace s r { s.swRule r with prevIndex := prev } (u16 (s.expnTblFreeEntry + s.tableEntries))

/-- The slot it finds for the index entry of the rule in slot `entry`. -/
inductive IndexPlace (s : Ip4TableCache) (r : IpaNatIpv4Rule) (entry : Nat) : IndxTblSwRule → Nat → Prop
  | base : s.srcSlot r < s.slots → (s.index (s.srcSlot r)).tblEntry = 0 →
      IndexPlace s r entry { tblEntry := entry } (s.srcSlot r)
  | expn {prev : Nat} : s.srcSlot r < s.slots → (s.index (s.srcSlot r)).tblEntry ≠ 0 →
      s.chainEnd s.readIndexNext (s.srcSlot r) (s.index (s.srcSlot r)).nextIndex = .ok (some prev) → s.indexExpnGetFreeEntry ≠ 0 →
      prev ≠ u16 (s.indexExpnGetFreeEntry + s.tableEntries) →
      IndexPlace s r entry { tblEntry := entry, prevIndex := prev } (u16 (s.indexExpnGetFreeEntry + s.tableEntries))

theorem ruleAt_ok {i : Nat} {r : NatRule} : s.ruleAt i = .ok r ↔ i < s.slots ∧ s.rules i = r := Stuck.ite_eq_ok
theorem indexAt_ok {i : Nat} {e : IndxTblRule} : s.indexAt i = .ok e ↔ i < s.slots ∧ s.index i = e :=
  Stuck.ite_eq_ok
theorem metaAt_ok {i v : Nat} : s.metaAt i = .ok v ↔ i < s.expnTableEntries ∧ s.indexExpnTableMeta i = v :=
  Stuck.ite_eq_ok

theorem generateTblRule_ok {r : IpaNatIpv4Rule} {rule : NatRule} {entry : Nat}
    (h : s.generateTblRule r = .ok (rule, entry)) (he : entry ≠ 0) : TblPlace s r rule entry := by
  simp only [generateTblRule, Stuck.bind_eq_ok, ruleAt_ok] at h
  obtain ⟨head, ⟨hlt, rfl⟩, h⟩ := h
  split at h
  · rename_i hen
    cases h
    exact .base hlt (by simpa using hen)
  rename_i hen
  obtain ⟨prev?, hprev, h⟩ := Stuck.bind_eq_ok.1 h
  cases prev? with
  | none =>
    cases h
    exact absurd rfl he
  | some prev =>
    simp only at h
    split at h
    · cases h
      exact absurd rfl he
    · rename_i hfree
      cases h
      exact .expn hlt (by simpa using hen) hprev hfree

theorem generateIndexRule_ok {r : IpaNatIpv4Rule} {entry ientry : Nat} {irule : IndxTblSwRule}
    (h : s.generateIndexRule r { tblEntry := entry } = .ok (irule, ientry)) (he : ientry ≠ 0) :
    IndexPlace s r entry irule ientry := by
  simp only [generateIndexRule, Stuck.bind_eq_ok, indexAt_ok] at h
  obtain ⟨head, ⟨hlt, rfl⟩, h⟩ := h
  split at h
  · rename_i hen
    cases h
    exact .base hlt hen
  rename_i hen
  obtain ⟨prev?, hprev, h⟩ := Stuck.bind_eq_ok.1 h
  cases prev? with
  | none =>
    cases h
    exact absurd rfl he
  | some prev =>
    simp only at h
    split at h
    · cases h
      exact absurd rfl he
    rename_i hfree
    split at h
    · cases h
      exact absurd rfl he
    · rename_i hne
      cases h
      exact .expn hlt hen hprev hfree hne

/-- The table after `ipa_nati_generate_rule`: the place before an expansion entry is noted. -/
def noteMeta (s : Ip4TableCache) (ientry prev : Nat) : Ip4TableCache :=
  if ientry ≥ s.tableEntries then s.setMeta (sub16 ientry s.tableEntries) prev else s

theorem generateRule_ok {r : IpaNatIpv4Rule} {gen : Except Errno (NatRule × IndxTblSwRule × Nat × Nat)}
    (h : s.generateRule r = .ok (t, gen)) : (∃ e, gen = .error e ∧ t = s) ∨
      ∃ rule entry irule ientry, gen = .ok ({ rule with indxTblEntry := ientry }, irule, entry, ientry) ∧
        entry ≠ 0 ∧ ientry ≠ 0 ∧ TblPlace s r rule entry ∧ IndexPlace s r entry irule ientry ∧
        (s.tableEntries ≤ ientry → sub16 ientry s.tableEntries < s.expnTableEntries) ∧
        t = s.noteMeta ientry irule.prevIndex := by
  simp only [generateRule, Stuck.bind_eq_ok] at h
  obtain ⟨⟨rule, entry⟩, hrule, h⟩ := h
  simp only at h
  split at h
  · cases h
    exact .inl ⟨_, rfl, rfl⟩
  rename_i he
  obtain ⟨⟨irule, ientry⟩, hirule, h⟩ := Stuck.bind_eq_ok.1 h
  simp only at h
  split at h
  · cases h
    exact .inl ⟨_, rfl, rfl⟩
  rename_i hie
  obtain ⟨u, hu, h⟩ := Stuck.bind_eq_ok.1 h
  cases h
  refine .inr ⟨rule, entry, irule, ientry, rfl, he, hie, generateTblRule_ok hrule he, generateIndexRule_ok hirule hie, ?_⟩
  unfold notePrevIndex at hu
  unfold noteMeta
  by_cases hge : ientry ≥ s.tableEntries
  · rw [if_pos hge, writeMeta, Stuck.ite_eq_ok] at hu
    rw [if_pos hge]
    exact ⟨fun _ => hu.1, hu.2.symm⟩
  · rw [if_neg hge] at hu ⊢
    cases hu
    exact ⟨fun h => absurd h hge, rfl⟩

theorem copyIpv4RuleToHw_eq (hs : s.Sized) (rule : NatRule) (entry : Nat) :
    s.copyIpv4RuleToHw rule entry .done = if entry < s.slots ∧ (rule.prevIndex = 0 ∨ s.linkSlot rule.prevIndex < s.slots)
      then .ok ((s.setRule entry rule).linkRule rule.prevIndex entry) else .error .outOfBounds := by
  unfold copyIpv4RuleToHw writeRule linkRule
  by_cases he : entry < s.slots
  rotate_left
  · rw [if_neg he, if_neg fun h => he h.1]
    rfl
  rw [if_pos he, Stuck.ok_bind]
  by_cases hp0 : rule.prevIndex = 0
  · rw [if_pos (show entry < s.slots ∧ _ from ⟨he, .inl hp0⟩), if_pos hp0]
    simp only [hp0]
    rfl
  have hoff : ∀ k, (s.setRule entry rule).getEntryOffset k = ipaNatTableEntrySize * k := fun k => by
    unfold getEntryOffset
    rw [tblAddrOffset_setRule, hs.offset, Nat.add_zero]
  simp only [hp0, if_false, ipaNatInvalidNatEntry, writeNextIndex, hoff, he, true_and, false_or]
  unfold tblOf linkSlot
  rw [tableEntries_setRule]
  by_cases hp : rule.prevIndex < s.tableEntries
  · rw [if_pos hp, if_pos hp, dmaOne_rule (.inl rfl) _ _ _ (by decide), dmaSlot, tableEntries_setRule, if_pos hp, if_pos]
    · rfl
    · unfold slots
      omega
  · rw [if_neg hp, if_neg hp, dmaOne_rule (.inr rfl) _ _ _ (by decide), dmaSlot, expnTableEntries_setRule]
    unfold slots
    by_cases hk : sub16 rule.prevIndex s.tableEntries < s.expnTableEntries
    · rw [if_pos hk, if_pos (by omega)]
      rfl
    · rw [if_neg hk, if_neg (by omega)]
      rfl

theorem copyIpv4IndexRuleToHw_eq (hs : s.Sized) (irule : IndxTblSwRule) (entry : Nat) :
    s.copyIpv4IndexRuleToHw irule entry .done =
      if entry < s.slots ∧ (irule.prevIndex = 0 ∨ s.indexLinkSlot irule.prevIndex < s.slots)
      then .ok ((s.setIndex entry ⟨irule.tblEntry, irule.nextIndex⟩).linkIndex irule.prevIndex entry)
      else .error .outOfBounds := by
  unfold copyIpv4IndexRuleToHw writeIndex linkIndex
  by_cases he : entry < s.slots
  rotate_left
  · rw [if_neg he, if_neg fun h => he h.1]
    rfl
  rw [if_pos he, Stuck.ok_bind]
  by_cases hp0 : irule.prevIndex = 0
  · rw [if_pos (show entry < s.slots ∧ _ from ⟨he, .inl hp0⟩), if_pos hp0]
    simp only [hp0]
    rfl
  -- sixteen bits of offset hold the entry number modulo 2^14
  have hoff : ∀ k, u16 (u16 ((s.setIndex entry ⟨irule.tblEntry, irule.nextIndex⟩).getIndexEntryOffset k) +
      ipaNatIndexRuleNextFieldOffset) = ipaNatIndexTableEntrySize * (k % 2 ^ 14) + 2 := by
    intro k
    unfold getIndexEntryOffset ipaNatIndexRuleNextFieldOffset ipaNatIndexTableEntrySize u16
    rw [tblAddrOffset_setIndex, hs.offset]
    omega
  simp only [hp0, if_false, ipaNatInvalidNatEntry, writeNextIndex, hoff, he, true_and, false_or]
  unfold tblOf indexLinkSlot
  rw [tableEntries_setIndex]
  by_cases hp : irule.prevIndex < s.tableEntries
  · have hlt : irule.prevIndex % 2 ^ 14 < s.tableEntries := Nat.lt_of_le_of_lt (Nat.mod_le _ _) hp
    rw [if_pos hp, if_pos hp, dmaOne_index (.inl rfl) _ _ _ (by decide), dmaSlot, tableEntries_setIndex, if_pos hlt, if_pos]
    · rfl
    · unfold slots
      omega
  · rw [if_neg hp, if_neg hp, dmaOne_index (.inr rfl) _ _ _ (by decide), dmaSlot, expnTableEntries_setIndex]
    unfold slots
    by_cases hk : sub16 irule.prevIndex s.tableEntries % 2 ^ 14 < s.expnTableEntries
    · rw [if_pos hk, if_pos (by omega)]
      rfl
    · rw [if_neg hk, if_neg (by omega)]
      rfl

theorem postIpv4DmaCmd_eq (hs : s.Sized) (entry : Nat) :
    s.postIpv4DmaCmd entry .done = if s.linkSlot entry < s.slots then
      .ok (s.setRule (s.linkSlot entry) (s.rules (s.linkSlot entry)).enabled, .ok ()) else .error .outOfBounds := by
  unfold postIpv4DmaCmd linkSlot slots
  simp only [hs.offset, Nat.add_zero]
  by_cases he : entry < s.tableEntries
  · rw [if_pos he, if_pos he, dmaOne_rule (.inl rfl) _ _ _ (by decide), dmaSlot, if_pos he, if_pos (by omega)]
    rfl
  · rw [if_neg he, if_neg he, dmaOne_rule (.inr rfl) _ _ _ (by decide), dmaSlot]
    by_cases hk : sub16 entry s.tableEntries < s.expnTableEntries
    · rw [if_pos hk, if_pos (by omega)]
      rfl
    · rw [if_neg hk, if_neg (by omega)]
      rfl

namespace SameTable

theorem setRule (s : Ip4TableCache) (i : Nat) (r : NatRule) : SameTable s (s.setRule i r) := ⟨rfl, rfl, rfl, rfl, rfl⟩
theorem setIndex (s : Ip4TableCache) (i : Nat) (e : IndxTblRule) : SameTable s (s.setIndex i e) :=
  ⟨rfl, rfl, rfl, rfl, rfl⟩
theorem setMeta (s : Ip4TableCache) (i v : Nat) : SameTable s (s.setMeta i v) := ⟨rfl, rfl, rfl, rfl, rfl⟩
theorem setRuleId (s : Ip4TableCache) (i v : Nat) : SameTable s (s.setRuleId i v) := ⟨rfl, rfl, rfl, rfl, rfl⟩

theorem linkRule (s : Ip4TableCache) (prev entry : Nat) : SameTable s (s.linkRule prev entry) := by
  unfold Ip4TableCache.linkRule
  split
  · exact .refl s
  · exact .setRule ..

theorem linkIndex (s : Ip4TableCache) (prev entry : Nat) : SameTable s (s.linkIndex prev entry) := by
  unfold Ip4TableCache.linkIndex
  split
  · exact .refl s
  · exact .setIndex ..

theorem noteMeta (s : Ip4TableCache) (ientry prev : Nat) : SameTable s (s.noteMeta ientry prev) := by
  unfold Ip4TableCache.noteMeta
  split
  · exact .setMeta ..
  · exact .refl s

theorem countRule (s : Ip4TableCache) (entry : Nat) : SameTable s (s.countRule entry) := by
  unfold Ip4TableCache.countRule
  split
  · exact ⟨rfl, rfl, rfl, rfl, rfl⟩
  · exact ⟨rfl, rfl, rfl, rfl, rfl⟩

theorem makeRuleHdl (s : Ip4TableCache) (entry : Nat) : SameTable s (s.makeRuleHdl entry).1 := by
  unfold Ip4TableCache.makeRuleHdl
  split
  · exact (countRule s entry).trans (.setRuleId ..)
  · exact countRule s entry

theorem linkSlot (h : SameTable s t) (prev : Nat) : t.linkSlot prev = s.linkSlot prev := by
  unfold Ip4TableCache.linkSlot
  rw [h.tableEntries]

end SameTable

section
variable (s) (entry : Nat)

@[simp] theorem rules_countRule : (s.countRule entry).rules = s.rules := by
  unfold countRule
  split <;> rfl

@[simp] theorem index_countRule : (s.countRule entry).index = s.index := by
  unfold countRule
  split <;> rfl

@[simp] theorem meta_countRule : (s.countRule entry).indexExpnTableMeta = s.indexExpnTableMeta := by
  unfold countRule
  split <;> rfl

@[simp] theorem ruleIdArray_countRule : (s.countRule entry).ruleIdArray = s.ruleIdArray := by
  unfold countRule
  split <;> rfl

@[simp] theorem trace_countRule : (s.countRule entry).trace = s.trace := by
  unfold countRule
  split <;> rfl

@[simp] theorem rules_makeRuleHdl : (s.makeRuleHdl entry).1.rules = s.rules := by
  unfold makeRuleHdl
  split <;> simp

@[simp] theorem index_makeRuleHdl : (s.makeRuleHdl entry).1.index = s.index := by
  unfold makeRuleHdl
  split <;> simp

@[simp] theorem meta_makeRuleHdl : (s.makeRuleHdl entry).1.indexExpnTableMeta = s.indexExpnTableMeta := by
  unfold makeRuleHdl
  split <;> simp

@[simp] theorem trace_makeRuleHdl : (s.makeRuleHdl entry).1.trace = s.trace := by
  unfold makeRuleHdl
  split <;> simp

end

/-- The first free place of the handle array is taken. -/
theorem makeRuleHdl_of_free {cnt : Nat} (entry : Nat) (hc : cnt < s.slots) (h0 : s.ruleIdArray cnt = 0)
    (hfirst : ∀ k < cnt, s.ruleIdArray k ≠ 0) : (s.makeRuleHdl entry).2 = u16 (cnt + 1) ∧
      (s.makeRuleHdl entry).1.ruleIdArray = update s.ruleIdArray cnt (s.ruleId entry) := by
  have hfind : ((List.range s.slots).find? fun cnt => s.ruleIdArray cnt == ipaNatInvalidNatEntry) = some cnt := by
    rw [List.find?_range_eq_some]
    exact ⟨by simp [h0, ipaNatInvalidNatEntry], List.mem_range.2 hc,
      fun k hk => by simpa [ipaNatInvalidNatEntry] using hfirst k hk⟩
  unfold makeRuleHdl
  rw [hfind]
  exact ⟨rfl, by simp⟩

/-- The writes of an addition, in order. -/
def addWrites (s : Ip4TableCache) (rule : NatRule) (irule : IndxTblSwRule) (entry ientry : Nat) : Ip4TableCache :=
  let s := (s.setRule entry rule).linkRule rule.prevIndex entry
  let s := (s.setIndex ientry ⟨irule.tblEntry, irule.nextIndex⟩).linkIndex irule.prevIndex ientry
  s.setRule (s.linkSlot entry) (s.rules (s.linkSlot entry)).enabled

theorem SameTable.addWrites (s : Ip4TableCache) (rule : NatRule) (irule : IndxTblSwRule) (entry ientry : Nat) :
    SameTable s (s.addWrites rule irule entry ientry) :=
  ((((SameTable.setRule s entry rule).trans (.linkRule ..)).trans (.setIndex ..)).trans (.linkIndex ..)).trans
    (.setRule ..)

@[simp] theorem ruleIdArray_linkRule (s : Ip4TableCache) (prev entry : Nat) :
    (s.linkRule prev entry).ruleIdArray = s.ruleIdArray := by
  unfold linkRule
  split <;> rfl

@[simp] theorem ruleIdArray_linkIndex (s : Ip4TableCache) (prev entry : Nat) :
    (s.linkIndex prev entry).ruleIdArray = s.ruleIdArray := by
  unfold linkIndex
  split <;> rfl

@[simp] theorem ruleIdArray_noteMeta (s : Ip4TableCache) (ientry prev : Nat) :
    (s.noteMeta ientry prev).ruleIdArray = s.ruleIdArray := by
  unfold noteMeta
  split <;> rfl

@[simp] theorem ruleIdArray_addWrites (s : Ip4TableCache) (rule : NatRule) (irule : IndxTblSwRule) (entry ientry : Nat) :
    (s.addWrites rule irule entry ientry).ruleIdArray = s.ruleIdArray := by
  simp [addWrites]

/-- The slots of an addition are slots of the table. -/
structure AddFits (s : Ip4TableCache) (rule : NatRule) (irule : IndxTblSwRule) (entry ientry : Nat) : Prop where
  entry_lt : entry < s.slots
  prev_lt : rule.prevIndex = 0 ∨ s.linkSlot rule.prevIndex < s.slots
  ientry_lt : ientry < s.slots
  iprev_lt : irule.prevIndex = 0 ∨ s.indexLinkSlot irule.prevIndex < s.slots

/-- What an addition returns once the rule is in the tables. -/
def hdlRet (ruleHdl : Nat) : Except Errno Nat := if ruleHdl = 0 then .error .einval else .ok ruleHdl

/-- **An addition whose generator found its slots** writes them if the table has them. -/
theorem addIpv4Rule_of_generate (hs : s.Sized) {r : IpaNatIpv4Rule} {u : Ip4TableCache} {rule : NatRule}
    {irule : IndxTblSwRule} {entry ientry : Nat}
    (hg : s.generateRule r = .ok (u, .ok (rule, irule, entry, ientry))) (hu : SameTable s u) :
    (AddFits s rule irule entry ientry → s.addIpv4Rule r {} =
      .ok (((u.addWrites rule irule entry ientry).makeRuleHdl entry).1,
        hdlRet ((u.addWrites rule irule entry ientry).makeRuleHdl entry).2)) ∧
    ∀ x, s.addIpv4Rule r {} = .ok x → AddFits s rule irule entry ientry := by
  have hus := hu.sized hs
  have hslots := hu.slots
  have hlink := hu.linkSlot
  have hilink : u.indexLinkSlot irule.prevIndex = s.indexLinkSlot irule.prevIndex := by
    unfold indexLinkSlot
    rw [hu.tableEntries]
  -- the table after the rule, and after the index entry
  have h1 := (SameTable.setRule u entry rule).trans (.linkRule _ rule.prevIndex entry)
  have h2 := (h1.trans (.setIndex _ ientry ⟨irule.tblEntry, irule.nextIndex⟩)).trans (.linkIndex _ irule.prevIndex ientry)
  have hslots1 := h1.slots
  have hslots2 := h2.slots
  have hlink2 := h2.linkSlot entry
  have hilink1 : ((u.setRule entry rule).linkRule rule.prevIndex entry).indexLinkSlot irule.prevIndex =
      u.indexLinkSlot irule.prevIndex := by
    unfold indexLinkSlot
    rw [h1.tableEntries]
  have hentry : entry < s.slots → s.linkSlot entry < s.slots := fun h => by
    have := hs.slots_lt
    rwa [linkSlot_eq (by omega)]
  unfold addIpv4Rule
  rw [hg]
  simp only [Stuck.ok_bind]
  rw [copyIpv4RuleToHw_eq hus]
  by_cases hrule : entry < u.slots ∧ (rule.prevIndex = 0 ∨ u.linkSlot rule.prevIndex < u.slots)
  rotate_left
  · rw [if_neg hrule]
    rw [hslots, hlink] at hrule
    exact ⟨fun hf => absurd ⟨hf.entry_lt, hf.prev_lt⟩ hrule, fun x hx => (nomatch hx)⟩
  rw [if_pos hrule, Stuck.ok_bind, copyIpv4IndexRuleToHw_eq (h1.sized hus), hslots1, hilink1, hilink, hslots]
  rw [hslots, hlink] at hrule
  by_cases hindex : ientry < s.slots ∧ (irule.prevIndex = 0 ∨ s.indexLinkSlot irule.prevIndex < s.slots)
  rotate_left
  · rw [if_neg hindex]
    exact ⟨fun hf => absurd ⟨hf.ientry_lt, hf.iprev_lt⟩ hindex, fun x hx => (nomatch hx)⟩
  rw [if_pos hindex, Stuck.ok_bind, postIpv4DmaCmd_eq (h2.sized hus), hslots2, hlink2, hlink, hslots,
    if_pos (hentry hrule.1), Stuck.ok_bind]
  refine ⟨fun _ => ?_, fun _ _ => ⟨hrule.1, hrule.2, hindex.1, hindex.2⟩⟩
  have hw : (((u.setRule entry rule).linkRule rule.prevIndex entry).setIndex ientry ⟨irule.tblEntry, irule.nextIndex⟩
      |>.linkIndex irule.prevIndex ientry).linkSlot entry = s.linkSlot entry := hlink2.trans (hlink entry)
  unfold addWrites hdlRet
  simp only [hw]
  split
  · rfl
  · rfl

/-- The table with a rule and its index entry in it. -/
def written (s : Ip4TableCache) (rule : NatRule) (irule : IndxTblSwRule) (entry ientry : Nat) : Ip4TableCache :=
  (s.noteMeta ientry irule.prevIndex).addWrites { rule with indxTblEntry := ientry } irule entry ientry

/-- The table after an addition, and the handle. -/
def added (s : Ip4TableCache) (rule : NatRule) (irule : IndxTblSwRule) (entry ientry : Nat) : Ip4TableCache × Nat :=
  (s.written rule irule entry ientry).makeRuleHdl entry

theorem SameTable.written (s : Ip4TableCache) (rule : NatRule) (irule : IndxTblSwRule) (entry ientry : Nat) :
    SameTable s (s.written rule irule entry ientry) := (SameTable.noteMeta ..).trans (.addWrites ..)

theorem SameTable.added (s : Ip4TableCache) (rule : NatRule) (irule : IndxTblSwRule) (entry ientry : Nat) :
    SameTable s (s.added rule irule entry ientry).1 := (SameTable.written ..).trans (.makeRuleHdl ..)

theorem ruleIdArray_written (s : Ip4TableCache) (rule : NatRule) (irule : IndxTblSwRule) (entry ientry : Nat) :
    (s.written rule irule entry ientry).ruleIdArray = s.ruleIdArray := by
  unfold Ip4TableCache.written
  rw [ruleIdArray_addWrites, ruleIdArray_noteMeta]

/-- **An addition that returns** found no slots and changes nothing, or has made its writes. -/
theorem addIpv4Rule_ok (hs : s.Sized) {r : IpaNatIpv4Rule} {ret : Except Errno Nat}
    (h : s.addIpv4Rule r {} = .ok (t, ret)) :
    ((∃ e, s.generateRule r = .ok (s, .error e)) ∧ ret = .error .einval ∧ t = s) ∨
      ∃ rule entry irule ientry, entry ≠ 0 ∧ ientry ≠ 0 ∧ TblPlace s r rule entry ∧ IndexPlace s r entry irule ientry ∧
        AddFits s rule irule entry ientry ∧ t = (s.added rule irule entry ientry).1 ∧
        ret = hdlRet (s.added rule irule entry ientry).2 := by
  obtain ⟨⟨u, gen⟩, hgen, hrest⟩ := Stuck.bind_eq_ok.1 h
  obtain ⟨e, rfl, rfl⟩ | ⟨rule, entry, irule, ientry, rfl, he, hie, htbl, hindex, -, rfl⟩ := generateRule_ok hgen
  · cases hrest
    exact .inl ⟨⟨e, hgen⟩, rfl, rfl⟩
  · obtain ⟨hof, hfrom⟩ := addIpv4Rule_of_generate hs hgen (.noteMeta ..)
    have hfits := hfrom _ h
    rw [hof hfits, Except.ok.injEq, Prod.mk.injEq] at h
    exact .inr ⟨rule, entry, irule, ientry, he, hie, htbl, hindex, ⟨hfits.1, hfits.2, hfits.3, hfits.4⟩, h.1.symm, h.2.symm⟩

/-- A free entry of the expansion table is one. -/
theorem expnTblFreeEntry_spec (h : s.expnTblFreeEntry ≠ 0) : s.expnTblFreeEntry < s.expnTableEntries ∧
    (s.rules (s.tableEntries + s.expnTblFreeEntry)).enable = false := by
  unfold expnTblFreeEntry at h ⊢
  cases hf : (List.range' 1 (s.expnTableEntries - 1)).find? fun cnt => !(s.rules (s.tableEntries + cnt)).enable with
  | none =>
    rw [hf] at h
    exact absurd rfl h
  | some f =>
    have hmem := List.mem_of_find?_eq_some hf
    have hp := List.find?_some hf
    rw [List.mem_range'_1] at hmem
    exact ⟨show f < s.expnTableEntries by omega, by simpa using hp⟩

theorem indexExpnGetFreeEntry_spec (h : s.indexExpnGetFreeEntry ≠ 0) :
    s.indexExpnGetFreeEntry < s.expnTableEntries ∧
      (s.index (s.tableEntries + s.indexExpnGetFreeEntry)).tblEntry = 0 := by
  unfold indexExpnGetFreeEntry at h ⊢
  cases hf : (List.range' 1 (s.expnTableEntries - 1)).find? fun cnt => (s.index (s.tableEntries + cnt)).tblEntry == 0 with
  | none =>
    rw [hf] at h
    exact absurd rfl h
  | some f =>
    have hmem := List.mem_of_find?_eq_some hf
    have hp := List.find?_some hf
    rw [List.mem_range'_1] at hmem
    exact ⟨show f < s.expnTableEntries by omega, by simpa using hp⟩

/-- What holds of the slot in either table. -/
theorem TblPlace.spec (hs : s.Sized) {r : IpaNatIpv4Rule} {rule : NatRule} {entry : Nat} (h : TblPlace s r rule entry)
    (he : entry ≠ 0) : entry ≠ s.tableEntries ∧ (s.rules entry).enable = false ∧ rule.clntRule = r ∧
      rule.enable = false ∧ rule.nextIndex = 0 := by
  cases h with
  | base hlt hen =>
    refine ⟨fun heq => ?_, hen, rfl, rfl, rfl⟩
    have := hs.dstSlot_range (by rw [← heq]; exact he) r
    omega
  | @expn prev hlt hen hend hfree =>
    obtain ⟨hflt, hfen⟩ := expnTblFreeEntry_spec hfree
    have hslots := hs.slots_lt
    unfold slots at hslots
    rw [u16_of_lt (by omega), Nat.add_comm]
    exact ⟨by omega, hfen, rfl, rfl, rfl⟩

end Ip4TableCache
end HiaeCommon
