/-
The sizes of a table and what is computed from them (`ipanat/src/ipa_nat_drvi.c`):
the rounding of `ipa_nati_alloc_table`, the range of the hashes, and the
offsets the DMA commands address a field at.
-/
import HiaeCommon.Ipanat.NatWrites
import Mathlib.Data.List.Forall2

namespace HiaeCommon

/-! ## The sizes -/

/-- The share of the base table, and that of the expansion table. -/
def baseShare (numberOfEntries : BitVec 16) : Nat := numberOfEntries.toNat * 4 / 5

def expnShare (numberOfEntries : BitVec 16) : Nat := numberOfEntries.toNat / 5

/-- Both hashes stay between 1 and the last entry, whatever they are of. -/
def HashesInRange (tableEntries : Nat) : Prop :=
  let size := BitVec.ofNat 16 (sub16 tableEntries 1)
  (∀ trgtIp trgtPort publicPort proto, 1 ≤ (dstHash trgtIp trgtPort publicPort proto size).toNat ∧
    (dstHash trgtIp trgtPort publicPort proto size).toNat < tableEntries) ∧
  ∀ privIp privPort trgtIp trgtPort proto, 1 ≤ (srcHash privIp privPort trgtIp trgtPort proto size).toNat ∧
    (srcHash privIp privPort trgtIp trgtPort proto size).toNat < tableEntries

/-- Sizes a table can work with. -/
structure SizesSound (numberOfEntries : BitVec 16) (tableEntries expnTableEntries : Nat) : Prop where
  pow : ∃ k, tableEntries = 2 ^ k
  two_le : 2 ≤ tableEntries
  share : baseShare numberOfEntries ≤ tableEntries
  even : expnTableEntries % 2 = 0
  nonzero : expnTableEntries ≠ 0
  hashes : HashesInRange tableEntries

/-- The least power of two from 2 on that is not below the number. -/
theorem getNearest2Power_spec {num : Nat} (h0 : num ≠ 0) (hle : num ≤ 2 ^ 15) :
    ∃ k, getNearest2Power num = some (2 ^ k) ∧ num ≤ 2 ^ k ∧ 1 ≤ k ∧ ∀ j, 1 ≤ j → num ≤ 2 ^ j → k ≤ j := by
  unfold getNearest2Power
  rw [if_neg h0]
  by_cases h1 : num = 1
  · rw [if_pos h1]
    exact ⟨1, rfl, by omega, Nat.le_refl _, fun _ hj _ => hj⟩
  rw [if_neg h1]
  have hloop : getNearest2PowerLoop num 16 (num / 2 ^ 0) (2 ^ 0) = _ := getNearest2PowerLoop_eq (by omega) (by omega) rfl
  rw [Nat.pow_zero, Nat.div_one] at hloop
  rw [hloop]
  have hlo : 2 ^ num.log2 ≤ num := Nat.log2_self_le h0
  have hhi : num < 2 ^ (num.log2 + 1) := (Nat.log2_lt h0).1 (Nat.lt_succ_self _)
  split
  · rename_i heq
    refine ⟨num.log2, by rw [← heq], Nat.le_of_eq heq, ?_, fun j _ hj => ?_⟩
    · by_contra hlt
      rw [show num.log2 = 0 by omega] at heq
      exact h1 heq
    · exact (Nat.pow_le_pow_iff_right (by decide)).1 (Nat.le_trans hlo hj)
  · rename_i hne
    have hlog : num.log2 < 15 := by
      by_contra hge
      have hpow : 2 ^ 15 ≤ 2 ^ num.log2 := Nat.pow_le_pow_right (by decide) (by omega)
      omega
    have hpow : 2 ^ (num.log2 + 1) ≤ 2 ^ 15 := Nat.pow_le_pow_right (by decide) (by omega)
    refine ⟨num.log2 + 1, by rw [u16_of_lt (by omega)], Nat.le_of_lt hhi, by omega, fun j _ hj => ?_⟩
    by_contra hlt
    have hpow : 2 ^ j ≤ 2 ^ num.log2 := Nat.pow_le_pow_right (by decide) (by omega)
    omega

theorem getNearestEven_spec (num : Nat) (h : num < 2 ^ 15) : getNearestEven num % 2 = 0 ∧ getNearestEven num ≠ 0 := by
  unfold getNearestEven
  split
  · exact ⟨rfl, by decide⟩
  · split
    · rw [u16_of_lt (by omega)]
      omega
    · omega

theorem hashesInRange {t : Nat} (h2 : 2 ≤ t) (hle : t ≤ 2 ^ 15) : HashesInRange t := by
  have hsize : (BitVec.ofNat 16 (sub16 t 1)).toNat = t - 1 := by
    rw [sub16_of_le (by omega) (by omega), BitVec.toNat_ofNat, Nat.mod_eq_of_lt (by omega)]
  have hrange : ∀ hash : BitVec 16, 1 ≤ (if hash &&& BitVec.ofNat 16 (sub16 t 1) = 0 then BitVec.ofNat 16 (sub16 t 1)
      else hash &&& BitVec.ofNat 16 (sub16 t 1)).toNat ∧ (if hash &&& BitVec.ofNat 16 (sub16 t 1) = 0 then
        BitVec.ofNat 16 (sub16 t 1) else hash &&& BitVec.ofNat 16 (sub16 t 1)).toNat < t := by
    intro hash
    obtain ⟨hnz, hmax⟩ := Ip4TableCache.maskedHash_range hash (BitVec.ofNat 16 (sub16 t 1)) (by omega)
    exact ⟨Nat.one_le_iff_ne_zero.2 hnz, by omega⟩
  exact ⟨fun _ _ _ _ => hrange _, fun _ _ _ _ _ => hrange _⟩

theorem allocTable_eq (n : BitVec 16) : allocTable n =
    (getNearest2Power (if baseShare n = 0 then 1 else baseShare n)).map fun t => (t, getNearestEven (expnShare n)) := by
  unfold allocTable baseShare expnShare
  dsimp only
  cases getNearest2Power (if n.toNat * 4 / 5 = 0 then 1 else n.toNat * 4 / 5) <;> rfl

/-- **The sizes of a table** are sound, and the hashes in its range, for every number of entries up to 40961; beyond, the base
table has wrapped to nothing. -/
theorem allocTable_sound_iff (n : BitVec 16) (hn : n ≠ 0) :
    (∃ t e, allocTable n = some (t, e) ∧ SizesSound n t e) ↔ n.toNat ≤ 40961 := by
  constructor
  · rintro ⟨t, e, h, hs⟩
    have h2 := hs.two_le
    rcases allocTable_range h with h | h <;> omega
  · intro hle
    have hlt := n.isLt
    have h0 : n.toNat ≠ 0 := fun h => hn (BitVec.eq_of_toNat_eq h)
    have hnum : (if baseShare n = 0 then 1 else baseShare n) ≠ 0 ∧ (if baseShare n = 0 then 1 else baseShare n) ≤ 2 ^ 15 ∧
        baseShare n ≤ if baseShare n = 0 then 1 else baseShare n := by
      unfold baseShare
      split <;> omega
    obtain ⟨hne, hmax, hshare⟩ := hnum
    obtain ⟨k, hpow, hk, hk1, -⟩ := getNearest2Power_spec hne hmax
    have halloc : allocTable n = some (2 ^ k, getNearestEven (expnShare n)) := by
      rw [allocTable_eq, hpow]
      rfl
    have hrange := allocTable_range halloc
    have h2 : 2 ≤ 2 ^ k := Nat.le_self_pow (by omega) 2
    obtain ⟨heven, hexpn⟩ := getNearestEven_spec (expnShare n) (by unfold expnShare; omega)
    exact ⟨2 ^ k, _, halloc, ⟨k, rfl⟩, h2, Nat.le_trans hshare hk, heven, hexpn, hashesInRange h2 (by omega)⟩

/-- A table of a hundred entries: 128 and 20. -/
theorem allocTable_sound_iff_sample : ∃ t e, allocTable 100 = some (t, e) ∧ SizesSound 100 t e :=
  (allocTable_sound_iff 100 (by decide)).2 (by decide)

/-- One of 40962 has no base table. -/
theorem not_allocTable_sound : (40962 : BitVec 16) ≠ 0 ∧ allocTable 40962 = some (0, 8192) ∧
    ¬ ∃ t e, allocTable 40962 = some (t, e) ∧ SizesSound 40962 t e := by
  have halloc : allocTable 40962 = some (0, 8192) := by decide
  refine ⟨by decide, halloc, ?_⟩
  rintro ⟨t, e, h, hs⟩
  rw [halloc] at h
  cases h
  exact absurd hs.two_le (by decide)

/-! ## The offsets -/

namespace DmaOne

/-- The command writes at a byte of a table. -/
def At (d : DmaOne) (byte : NatTableType × Nat) : Prop := d.baseAddr = byte.1 ∧ d.offset = byte.2

end DmaOne

namespace Ip4TableCache

variable (s : Ip4TableCache)

/-- Where a field of a slot is: the table, and the byte in it. -/
def ruleByte (i field : Nat) : NatTableType × Nat :=
  if i < s.tableEntries then (.baseTbl, ipaNatTableEntrySize * i + field)
  else (.expnTbl, ipaNatTableEntrySize * (i - s.tableEntries) + field)

def indexByte (i field : Nat) : NatTableType × Nat :=
  if i < s.tableEntries then (.indxTbl, ipaNatIndexTableEntrySize * i + field)
  else (.indexExpnTbl, ipaNatIndexTableEntrySize * (i - s.tableEntries) + field)

/-- The command of `ipa_nati_copy_ipv4_rule_to_hw`. -/
def copyRuleCmd (prevEntry entry : Nat) : DmaOne :=
  let prev := s.tblOf .baseTbl .expnTbl prevEntry
  ⟨prev.1, entry, s.getEntryOffset prev.2 + ipaNatRuleNextFieldOffset⟩

/-- The command of `ipa_nati_copy_ipv4_index_rule_to_hw`. -/
def copyIndexRuleCmd (prevEntry entry : Nat) : DmaOne :=
  let prev := s.tblOf .indxTbl .indexExpnTbl prevEntry
  ⟨prev.1, entry, u16 (u16 (s.getIndexEntryOffset prev.2) + ipaNatIndexRuleNextFieldOffset)⟩

theorem copyIpv4RuleToHw_cmd (rule : NatRule) (entry : Nat) : s.copyIpv4RuleToHw rule entry .done = (do
    let t ← s.writeRule entry rule
    if rule.prevIndex = ipaNatInvalidNatEntry then return t else t.dmaOne (t.copyRuleCmd rule.prevIndex entry)) := rfl

theorem copyIpv4IndexRuleToHw_cmd (rule : IndxTblSwRule) (entry : Nat) : s.copyIpv4IndexRuleToHw rule entry .done = (do
    let t ← s.writeIndex entry ⟨rule.tblEntry, rule.nextIndex⟩
    if rule.prevIndex = ipaNatInvalidNatEntry then return t else t.dmaOne (t.copyIndexRuleCmd rule.prevIndex entry)) := rfl

/-- What the rule's command of a deletion is meant for: a slot, and the field in it. -/
def delRuleTarget (curTblEntry : Nat) (rule : NatRule) : DelType → Nat × Nat
  | .onlyOne => (curTblEntry, ipaNatRuleFlagFieldOffset)
  | .head => (curTblEntry, ipaNatRuleProtoFieldOffset)
  | .middle | .last => (rule.prevIndex, ipaNatRuleNextFieldOffset)

/-- What the index entry's commands are meant for. -/
def delIndexTargets (indxTblEntry : Nat) : DelType → List (Nat × Nat)
  | .onlyOne => [(indxTblEntry, ipaNatIndexRuleNatIndexFieldOffset)]
  | .head => [(indxTblEntry, ipaNatIndexRuleNatIndexFieldOffset), (indxTblEntry, ipaNatIndexRuleNextFieldOffset)]
  | .middle | .last => [(s.indexExpnTableMeta (indxTblEntry - s.tableEntries), ipaNatIndexRuleNextFieldOffset)]

/-- Every command of an addition and of a deletion writes where it is meant to. A rule that is alone or a head is in the base
table. -/
structure OffsetsRight : Prop where
  copyRule : ∀ prev < s.slots, ∀ entry, (s.copyRuleCmd prev entry).At (s.ruleByte prev ipaNatRuleNextFieldOffset)
  copyIndexRule : ∀ prev < s.slots, ∀ entry, (s.copyIndexRuleCmd prev entry).At (s.indexByte prev ipaNatIndexRuleNextFieldOffset)
  delRule : ∀ cur rule pos, (pos = .onlyOne ∨ pos = .head → cur < s.tableEntries) → (delRuleTarget cur rule pos).1 < s.slots →
    (s.delRuleCmd cur rule pos).At (s.ruleByte (delRuleTarget cur rule pos).1 (delRuleTarget cur rule pos).2)
  delIndex : ∀ i < s.slots, ∀ pos cmds, s.findIndexRulePos i = .ok pos → s.delIndexCmds i pos = .ok cmds →
    (∀ t ∈ s.delIndexTargets i pos, t.1 < s.slots) →
    List.Forall₂ (fun d t => d.At (s.indexByte t.1 t.2)) cmds (s.delIndexTargets i pos)

variable {s}

/-! ### Where a write lands -/

/-- A byte of a record leads back to the record, and to the byte in it. -/
theorem div_mod_byte {size field : Nat} (hf : field < size) (i : Nat) :
    (size * i + field) / size = i ∧ (size * i + field) % size = field := by
  have hpos : 0 < size := by omega
  rw [Nat.mul_add_div hpos, Nat.mul_add_mod, Nat.div_eq_of_lt hf, Nat.mod_eq_of_lt hf]
  exact ⟨rfl, rfl⟩

theorem dmaOne_ruleByte {d : DmaOne} {i field : Nat} (h : d.At (s.ruleByte i field)) (hi : i < s.slots)
    (hf : field < ipaNatTableEntrySize) : s.dmaOne d = .ok (s.setRule i ((s.rules i).write16 (field / 2) d.data)) := by
  obtain ⟨tbl, data, off⟩ := d
  obtain ⟨rfl, rfl⟩ := h
  unfold slots at hi
  unfold ruleByte
  by_cases hlt : i < s.tableEntries
  · obtain ⟨hdiv, hmod⟩ := div_mod_byte hf i
    rw [if_pos hlt]
    simp only [dmaOne, hdiv, hmod, dmaSlot, if_pos hlt]
    rfl
  · obtain ⟨hdiv, hmod⟩ := div_mod_byte hf (i - s.tableEntries)
    have hexpn : i - s.tableEntries < s.expnTableEntries := by omega
    have hslot : s.tableEntries + (i - s.tableEntries) = i := by omega
    rw [if_neg hlt]
    simp only [dmaOne, hdiv, hmod, dmaSlot, if_pos hexpn, hslot]
    rfl

theorem dmaOne_indexByte {d : DmaOne} {i field : Nat} (h : d.At (s.indexByte i field)) (hi : i < s.slots)
    (hf : field < ipaNatIndexTableEntrySize) : s.dmaOne d = .ok (s.setIndex i ((s.index i).write16 (field / 2) d.data)) := by
  obtain ⟨tbl, data, off⟩ := d
  obtain ⟨rfl, rfl⟩ := h
  unfold slots at hi
  unfold indexByte
  by_cases hlt : i < s.tableEntries
  · obtain ⟨hdiv, hmod⟩ := div_mod_byte hf i
    rw [if_pos hlt]
    simp only [dmaOne, hdiv, hmod, dmaSlot, if_pos hlt]
    rfl
  · obtain ⟨hdiv, hmod⟩ := div_mod_byte hf (i - s.tableEntries)
    have hexpn : i - s.tableEntries < s.expnTableEntries := by omega
    have hslot : s.tableEntries + (i - s.tableEntries) = i := by omega
    rw [if_neg hlt]
    simp only [dmaOne, hdiv, hmod, dmaSlot, if_pos hexpn, hslot]
    rfl

/-! ### The offsets of a table -/

/-- The sizes of a table whose offsets are right: `mem.offset` is 0, and an offset into the index table fits sixteen bits. -/
structure OffsetsFit (s : Ip4TableCache) : Prop where
  offset : s.tblAddrOffset = 0
  index_le : s.tableEntries ≤ 2 ^ 14
  expn_le : s.expnTableEntries ≤ 2 ^ 14

namespace OffsetsFit

variable (h : s.OffsetsFit)
include h

theorem sub16_eq {i : Nat} (hi : i < s.slots) (hge : s.tableEntries ≤ i) : sub16 i s.tableEntries = i - s.tableEntries := by
  have h1 := h.index_le
  have h2 := h.expn_le
  unfold slots at hi
  exact sub16_of_le hge (by omega)

theorem linkCmd_at {prev : Nat} (hp : prev < s.slots) (data : Nat) :
    (s.linkCmd prev data).At (s.ruleByte prev ipaNatRuleNextFieldOffset) := by
  have hoff := h.offset
  unfold linkCmd ruleByte
  by_cases hge : s.tableEntries ≤ prev
  · rw [if_pos hge, if_neg (by omega), h.sub16_eq hp hge]
    exact ⟨rfl, by simp only [getEntryOffset, hoff, Nat.add_zero]⟩
  · rw [if_neg hge, if_pos (by omega)]
    exact ⟨rfl, by simp only [getEntryOffset, hoff, Nat.add_zero]⟩

theorem indexLinkCmd_at {prev : Nat} (hp : prev < s.slots) (data : Nat) :
    (s.indexLinkCmd prev data).At (s.indexByte prev ipaNatIndexRuleNextFieldOffset) := by
  have hoff := h.offset
  unfold indexLinkCmd indexByte
  by_cases hge : s.tableEntries ≤ prev
  · rw [if_pos hge, if_neg (by omega), h.sub16_eq hp hge]
    exact ⟨rfl, by simp only [getIndexEntryOffset, hoff, Nat.add_zero]⟩
  · rw [if_neg hge, if_pos (by omega)]
    exact ⟨rfl, by simp only [getIndexEntryOffset, hoff, Nat.add_zero]⟩

theorem copyRuleCmd_at {prev : Nat} (hp : prev < s.slots) (entry : Nat) :
    (s.copyRuleCmd prev entry).At (s.ruleByte prev ipaNatRuleNextFieldOffset) := by
  have hoff := h.offset
  unfold copyRuleCmd tblOf ruleByte
  by_cases hlt : prev < s.tableEntries
  · rw [if_pos hlt, if_pos hlt]
    exact ⟨rfl, by simp only [getEntryOffset, hoff, Nat.add_zero]⟩
  · rw [if_neg hlt, if_neg hlt, h.sub16_eq hp (by omega)]
    exact ⟨rfl, by simp only [getEntryOffset, hoff, Nat.add_zero]⟩

/-- The `uint16_t` offset holds the byte of every entry. -/
theorem copyIndexRuleCmd_at {prev : Nat} (hp : prev < s.slots) (entry : Nat) :
    (s.copyIndexRuleCmd prev entry).At (s.indexByte prev ipaNatIndexRuleNextFieldOffset) := by
  have hoff := h.offset
  have h1 := h.index_le
  have h2 := h.expn_le
  have hu : ∀ e < 2 ^ 14, u16 (u16 (s.getIndexEntryOffset e) + ipaNatIndexRuleNextFieldOffset) =
      ipaNatIndexTableEntrySize * e + ipaNatIndexRuleNextFieldOffset := by
    intro e he
    simp only [getIndexEntryOffset, hoff, Nat.add_zero, ipaNatIndexTableEntrySize, ipaNatIndexRuleNextFieldOffset]
    rw [u16_of_lt (n := 4 * e) (by omega), u16_of_lt (by omega)]
  unfold copyIndexRuleCmd tblOf indexByte
  by_cases hlt : prev < s.tableEntries
  · rw [if_pos hlt, if_pos hlt]
    exact ⟨rfl, hu prev (by omega)⟩
  · rw [if_neg hlt, if_neg hlt, h.sub16_eq hp (by omega)]
    unfold slots at hp
    exact ⟨rfl, hu (prev - s.tableEntries) (by omega)⟩

theorem delRuleCmd_at {cur : Nat} {rule : NatRule} {pos : DelType} (hcur : pos = .onlyOne ∨ pos = .head → cur < s.tableEntries)
    (ht : (delRuleTarget cur rule pos).1 < s.slots) :
    (s.delRuleCmd cur rule pos).At (s.ruleByte (delRuleTarget cur rule pos).1 (delRuleTarget cur rule pos).2) := by
  have hoff := h.offset
  have hbase : ∀ field, cur < s.tableEntries → s.ruleByte cur field = (.baseTbl, s.getEntryOffset cur + field) := by
    intro field hlt
    simp only [ruleByte, if_pos hlt, getEntryOffset, hoff, Nat.add_zero]
  cases pos with
  | onlyOne =>
    have hb := hbase ipaNatRuleFlagFieldOffset (hcur (.inl rfl))
    simp only [delRuleTarget, hb]
    exact ⟨rfl, rfl⟩
  | head =>
    have hb := hbase ipaNatRuleProtoFieldOffset (hcur (.inr rfl))
    simp only [delRuleTarget, hb]
    exact ⟨rfl, rfl⟩
  | middle => exact h.linkCmd_at ht _
  | last => exact h.linkCmd_at ht _

theorem delIndexCmds_at {i : Nat} (hi : i < s.slots) {pos : DelType} {cmds : List DmaOne} (hpos : s.findIndexRulePos i = .ok pos)
    (hc : s.delIndexCmds i pos = .ok cmds) (ht : ∀ t ∈ s.delIndexTargets i pos, t.1 < s.slots) :
    List.Forall₂ (fun d t => d.At (s.indexByte t.1 t.2)) cmds (s.delIndexTargets i pos) := by
  have hoff := h.offset
  have hbase : ∀ field, i < s.tableEntries → s.indexByte i field = (.indxTbl, s.getIndexEntryOffset i + field) := by
    intro field hlt
    simp only [indexByte, if_pos hlt, getIndexEntryOffset, hoff, Nat.add_zero]
  -- the position tells which table the entry is in
  have hwhere : pos = .onlyOne ∨ pos = .head ↔ i < s.tableEntries := by
    unfold findIndexRulePos at hpos
    split at hpos
    · rename_i hge
      obtain ⟨e, -, hp⟩ := Stuck.bind_eq_ok.1 hpos
      have hp := Except.ok.inj hp
      refine iff_of_false ?_ (by omega)
      rw [← hp]
      split <;> simp
    · rename_i hlt
      obtain ⟨e, -, hp⟩ := Stuck.bind_eq_ok.1 hpos
      have hp := Except.ok.inj hp
      refine iff_of_true ?_ (by omega)
      rw [← hp]
      split <;> simp
  have hmeta : ∀ {v}, s.tableEntries ≤ i → s.metaAt (sub16 i s.tableEntries) = .ok v → v = s.indexExpnTableMeta (i - s.tableEntries) := by
    intro v hge hv
    rw [h.sub16_eq hi hge] at hv
    exact (metaAt_ok.1 hv).2.symm
  cases pos with
  | onlyOne =>
    have hlt := hwhere.1 (.inl rfl)
    cases hc
    exact .cons (by rw [hbase _ hlt]; exact ⟨rfl, rfl⟩) .nil
  | head =>
    have hlt := hwhere.1 (.inr rfl)
    obtain ⟨cur, -, hc⟩ := Stuck.bind_eq_ok.1 hc
    obtain ⟨next, -, hc⟩ := Stuck.bind_eq_ok.1 hc
    cases hc
    exact .cons (by rw [hbase _ hlt]; exact ⟨rfl, rfl⟩) (.cons (by rw [hbase _ hlt]; exact ⟨rfl, rfl⟩) .nil)
  | middle =>
    have hge : s.tableEntries ≤ i := by
      by_contra hlt
      rcases hwhere.2 (by omega) with hp | hp <;> cases hp
    obtain ⟨prev, hp, hc⟩ := Stuck.bind_eq_ok.1 hc
    obtain ⟨cur, -, hc⟩ := Stuck.bind_eq_ok.1 hc
    cases hc
    obtain rfl := hmeta hge hp
    exact .cons (h.indexLinkCmd_at (ht _ (List.mem_singleton.2 rfl)) _) .nil
  | last =>
    have hge : s.tableEntries ≤ i := by
      by_contra hlt
      rcases hwhere.2 (by omega) with hp | hp <;> cases hp
    obtain ⟨prev, hp, hc⟩ := Stuck.bind_eq_ok.1 hc
    cases hc
    obtain rfl := hmeta hge hp
    exact .cons (h.indexLinkCmd_at (ht _ (List.mem_singleton.2 rfl)) _) .nil

theorem offsetsRight : s.OffsetsRight :=
  ⟨fun _ hp entry => h.copyRuleCmd_at hp entry, fun _ hp entry => h.copyIndexRuleCmd_at hp entry,
    fun _ _ _ hcur ht => h.delRuleCmd_at hcur ht, fun _ hi _ _ hpos hc ht => h.delIndexCmds_at hi hpos hc ht⟩

end OffsetsFit

theorem OffsetsRight.fits (h : s.OffsetsRight) (hslots : 0 < s.slots) :
    s.tblAddrOffset = 0 ∧ s.tableEntries ≤ 2 ^ 14 := by
  have hoff : s.tblAddrOffset = 0 := by
    -- the first slot's link
    have hat := (h.copyRule 0 hslots 0).2
    unfold copyRuleCmd tblOf ruleByte at hat
    by_cases h0 : 0 < s.tableEntries
    · rw [if_pos h0, if_pos h0] at hat
      simp only [getEntryOffset] at hat
      omega
    · rw [if_neg h0, if_neg h0, show s.tableEntries = 0 by omega] at hat
      simp only [getEntryOffset, show sub16 0 0 = 0 by decide] at hat
      omega
  refine ⟨hoff, ?_⟩
  by_contra hlt
  -- the link of index entry 2^14
  have hat := (h.copyIndexRule (2 ^ 14) (by unfold slots; omega) 0).2
  unfold copyIndexRuleCmd tblOf indexByte at hat
  rw [if_pos (by omega), if_pos (by omega)] at hat
  simp only [getIndexEntryOffset, hoff] at hat
  exact absurd hat (by decide)

end Ip4TableCache

/-! ### Every table -/

theorem allocTable_le_iff {n : BitVec 16} {t e : Nat} (h : allocTable n = some (t, e)) (hn : n ≠ 0) :
    t ≤ 2 ^ 14 ↔ n.toNat ≤ 20481 ∨ 40961 < n.toNat := by
  have hrange := allocTable_range h
  have hlt := n.isLt
  have h0 : n.toNat ≠ 0 := fun h => hn (BitVec.eq_of_toNat_eq h)
  by_cases hle : n.toNat ≤ 40961
  · have hnum : (if baseShare n = 0 then 1 else baseShare n) ≠ 0 ∧ (if baseShare n = 0 then 1 else baseShare n) ≤ 2 ^ 15 := by
      unfold baseShare
      split <;> omega
    obtain ⟨k, hpow, hk, -, hleast⟩ := getNearest2Power_spec hnum.1 hnum.2
    rw [allocTable_eq, hpow] at h
    cases h
    constructor
    · intro ht
      have hshare := Nat.le_trans hk ht
      unfold baseShare at hshare
      left
      split at hshare <;> omega
    · intro hn
      refine Nat.pow_le_pow_right (by decide) (hleast 14 (by decide) ?_)
      unfold baseShare
      split <;> omega
  · omega

open Ip4TableCache in
/-- **The offsets of a table's commands** are those of the fields they are meant for, in every state of the table, exactly where
`mem.offset` is 0 and the offset of the last index entry fits sixteen bits; and a command with such an offset writes to the
record it is meant for and to no other. -/
theorem dma_offsets_iff (pub : BitVec 32) (n : BitVec 16) (hn : n ≠ 0) (memOffset : BitVec 32) (tbl : Ip4TableCache)
    (h : natiAddIpv4Tbl pub n memOffset.toNat = some tbl) :
    (∀ s, SameTable tbl s → s.OffsetsRight ∧
      (∀ d i field, d.At (s.ruleByte i field) → i < s.slots → field < ipaNatTableEntrySize →
        s.dmaOne d = .ok (s.setRule i ((s.rules i).write16 (field / 2) d.data))) ∧
      ∀ d i field, d.At (s.indexByte i field) → i < s.slots → field < ipaNatIndexTableEntrySize →
        s.dmaOne d = .ok (s.setIndex i ((s.index i).write16 (field / 2) d.data))) ↔
    memOffset = 0 ∧ (n.toNat ≤ 20481 ∨ 40961 < n.toNat) := by
  obtain ⟨t, e, halloc, rfl⟩ := natiAddIpv4Tbl_eq_some.1 h
  have hle := allocTable_le_iff halloc hn
  have he : 0 < e ∧ e ≤ 2 ^ 14 := by
    rcases allocTable_range halloc with hr | hr <;> omega
  constructor
  · intro hall
    have hslots : 0 < (created pub memOffset.toNat t e).slots := Nat.add_pos_right t he.1
    obtain ⟨hoff, ht⟩ := (hall _ (.refl _)).1.fits hslots
    exact ⟨BitVec.eq_of_toNat_eq hoff, hle.1 ht⟩
  · rintro ⟨rfl, hn⟩ s hs
    have hfit : s.OffsetsFit := by
      refine ⟨hs.tblAddrOffset, ?_, ?_⟩
      · rw [hs.tableEntries]
        exact hle.2 hn
      · rw [hs.expnTableEntries]
        exact he.2
    exact ⟨hfit.offsetsRight, fun d i field hat hi hf => dmaOne_ruleByte hat hi hf, fun d i field hat hi hf => dmaOne_indexByte hat hi hf⟩

/-- A table of a hundred entries. -/
theorem dma_offsets_iff_sample : (Ip4TableCache.created 1 0 128 20).OffsetsRight :=
  ((dma_offsets_iff 1 100 (by decide) 0 (.created 1 0 128 20)
    (natiAddIpv4Tbl_eq_some.2 ⟨128, 20, by decide, rfl⟩)).2 ⟨rfl, by decide⟩ _ (.refl _)).1

/-- A table of 40961 entries: the link of index entry 16384 goes to entry 0. -/
theorem not_dma_offsets : natiAddIpv4Tbl 1 40961 0 = some (.created 1 0 32768 8192) ∧
    (Ip4TableCache.created 1 0 32768 8192).copyIndexRuleCmd 16384 5 = ⟨.indxTbl, 5, 2⟩ ∧
    ¬ (Ip4TableCache.created 1 0 32768 8192).OffsetsRight := by
  have hcmd : (Ip4TableCache.created 1 0 32768 8192).copyIndexRuleCmd 16384 5 = ⟨.indxTbl, 5, 2⟩ := by decide
  refine ⟨natiAddIpv4Tbl_eq_some.2 ⟨32768, 8192, by decide, rfl⟩, hcmd, fun h => ?_⟩
  have hat := (h.copyIndexRule 16384 (by decide) 5).2
  rw [hcmd] at hat
  exact absurd hat (by decide)

end HiaeCommon
