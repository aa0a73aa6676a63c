/-
What `ipa_nati_del_ipv4_rule` writes, step by step: the commands of the DMA
list as writes to the tables (`delRuleWrite`, `delIndexWrite`), the writes
after it (`movePrev`, `clearRule`, `dropIndex`), and the call as a whole.
-/
import HiaeCommon.Ipanat.NatWrites

namespace HiaeCommon

open Function (update)

/-- A command on the index tables. -/
def DmaOne.OnIndex (d : DmaOne) : Prop := d.baseAddr = .indxTbl ∨ d.baseAddr = .indexExpnTbl

namespace Ip4TableCache

variable {s t : Ip4TableCache}

/-- The position of a slot in its chain. -/
def chainPos (expn : Bool) (next : Nat) : DelType :=
  match expn, decide (next = 0) with
  | true, true => .last
  | true, false => .middle
  | false, true => .onlyOne
  | false, false => .head

theorem findRulePos_eq (expn : Bool) (entry : Nat) : s.findRulePos expn entry =
    if s.slot expn entry < s.slots then .ok (chainPos expn (s.rules (s.slot expn entry)).nextIndex)
    else .error .outOfBounds := by
  unfold findRulePos ruleAt
  by_cases hlt : s.slot expn entry < s.slots
  · rw [if_pos hlt, if_pos hlt, Stuck.ok_bind]
    by_cases h0 : (s.rules (s.slot expn entry)).nextIndex = 0 <;> cases expn <;> simp [chainPos, h0, ipaNatInvalidNatEntry]
  · rw [if_neg hlt, if_neg hlt]
    rfl

theorem findIndexRulePos_eq (i : Nat) : s.findIndexRulePos i =
    if s.linkSlot i < s.slots then .ok (chainPos (decide (s.tableEntries ≤ i)) (s.index (s.linkSlot i)).nextIndex)
    else .error .outOfBounds := by
  unfold findIndexRulePos indexAt linkSlot
  by_cases hi : i < s.tableEntries
  · have hlt : i < s.slots := by
      unfold slots
      omega
    rw [if_neg (by omega), if_pos hi, if_pos hlt, if_pos hlt, Stuck.ok_bind, decide_eq_false (by omega)]
    by_cases h0 : (s.index i).nextIndex = 0 <;> simp [chainPos, h0, ipaNatInvalidNatEntry]
  · rw [if_pos (by omega), if_neg hi, decide_eq_true (by omega)]
    by_cases hlt : s.tableEntries + sub16 i s.tableEntries < s.slots
    · rw [if_pos hlt, if_pos hlt, Stuck.ok_bind]
      by_cases h0 : (s.index (s.tableEntries + sub16 i s.tableEntries)).nextIndex = 0 <;>
        simp [chainPos, h0, ipaNatInvalidNatEntry]
    · rw [if_neg hlt, if_neg hlt]
      rfl

/-- What the rule command of a deletion writes: in which slot, and what it
makes of the record there. `rule` is the record deleted. -/
def delSlot (s : Ip4TableCache) (cur : Nat) (rule : NatRule) : DelType → Nat
  | .onlyOne | .head => cur
  | .middle | .last => s.linkSlot rule.prevIndex

def delRecord (rule : NatRule) : DelType → NatRule → NatRule
  | .onlyOne, r => r.disabled
  | .head, r => r.killed
  | .middle, r => r.link rule.nextIndex
  | .last, r => r.link 0

/-- The rule command, as a write to `t`. -/
def delRuleWrite (s : Ip4TableCache) (cur : Nat) (rule : NatRule) (pos : DelType) (t : Ip4TableCache) : Ip4TableCache :=
  t.setRule (s.delSlot cur rule pos) (delRecord rule pos (t.rules (s.delSlot cur rule pos)))

theorem dmaOne_delRuleCmd (hs : s.Sized) (hst : SameTable s t) {expn : Bool} {entry next : Nat} (rule : NatRule) :
    t.dmaOne (s.delRuleCmd entry rule (chainPos expn next)) =
      if (expn = false → entry < s.tableEntries) ∧
        s.delSlot (s.slot expn entry) rule (chainPos expn next) < s.slots then
        .ok (s.delRuleWrite (s.slot expn entry) rule (chainPos expn next) t) else .error .outOfBounds := by
  cases expn with
  | true =>
    by_cases h0 : next = 0 <;>
      simpa [chainPos, h0, delRuleCmd, delSlot, delRuleWrite, delRecord, ipaNatInvalidNatEntry]
        using dmaOne_linkCmd hs t hst _ _
  | false =>
    have hslot : entry < s.tableEntries → entry < s.slots := fun h => by
      unfold slots
      omega
    by_cases h0 : next = 0 <;>
      simp only [chainPos, h0, decide_true, decide_false, delRuleCmd, delSlot, delRuleWrite, delRecord,
        getEntryOffset_eq hs, slot, Bool.false_eq_true, if_false, forall_const]
    · -- the only one
      rw [dmaOne_rule (.inl rfl) _ _ _ (by decide), dmaSlot, hst.tableEntries]
      by_cases hlt : entry < s.tableEntries
      · rw [if_pos hlt, if_pos ⟨hlt, hslot hlt⟩]
        rfl
      · rw [if_neg hlt, if_neg fun h => hlt h.1]
        rfl
    · -- the head
      rw [dmaOne_rule (.inl rfl) _ _ _ (by decide), dmaSlot, hst.tableEntries]
      by_cases hlt : entry < s.tableEntries
      · rw [if_pos hlt, if_pos ⟨hlt, hslot hlt⟩]
        exact congrArg _ (congrArg _ (NatRule.write16_kill _))
      · rw [if_neg hlt, if_neg fun h => hlt h.1]
        rfl

/-- The index commands, as writes to `t`: `i` is the slot of the index entry. -/
def delIndexWrite (s : Ip4TableCache) (i : Nat) (pos : DelType) (t : Ip4TableCache) : Ip4TableCache :=
  match pos with
  | .onlyOne => t.setIndex i ((t.index i).point 0)
  | .head =>
    let next := s.index (s.tableEntries + sub16 (s.index i).nextIndex s.tableEntries)
    let t := t.setIndex i ((t.index i).point next.tblEntry)
    t.setIndex i ((t.index i).link next.nextIndex)
  | .middle =>
    let prev := s.linkSlot (s.indexExpnTableMeta (sub16 i s.tableEntries))
    t.setIndex prev ((t.index prev).link (s.index (s.linkSlot i)).nextIndex)
  | .last =>
    let prev := s.linkSlot (s.indexExpnTableMeta (sub16 i s.tableEntries))
    t.setIndex prev ((t.index prev).link 0)

/-- The index slots a deletion reads and writes are slots of the table. -/
def DelIndexFits (s : Ip4TableCache) (i : Nat) : DelType → Prop
  | .onlyOne => True
  | .head => s.tableEntries + sub16 (s.index i).nextIndex s.tableEntries < s.slots
  | .middle | .last => sub16 i s.tableEntries < s.expnTableEntries ∧
      s.linkSlot (s.indexExpnTableMeta (sub16 i s.tableEntries)) < s.slots

theorem SameTable.delRuleWrite (s : Ip4TableCache) (cur : Nat) (rule : NatRule) (pos : DelType) (t : Ip4TableCache) :
    SameTable t (s.delRuleWrite cur rule pos t) := .setRule ..

theorem SameTable.delIndexWrite (s : Ip4TableCache) (i : Nat) (pos : DelType) (t : Ip4TableCache) :
    SameTable t (s.delIndexWrite i pos t) := by
  cases pos with
  | onlyOne => exact .setIndex ..
  | head => exact (SameTable.setIndex ..).trans (.setIndex ..)
  | middle => exact .setIndex ..
  | last => exact .setIndex ..

theorem indexLinkCmd_onIndex (prev data : Nat) : DmaOne.OnIndex (s.indexLinkCmd prev data) := by
  unfold indexLinkCmd
  split
  · exact .inr rfl
  · exact .inl rfl

theorem dma_one (d : DmaOne) : s.dma [d] = s.dmaOne d := by
  show (s.dmaOne d >>= fun s => .ok s) = s.dmaOne d
  cases s.dmaOne d <;> rfl

theorem dma_append (ds es : List DmaOne) : s.dma (ds ++ es) = (s.dma ds >>= fun t => t.dma es) := by
  induction ds generalizing s with
  | nil => rfl
  | cons d ds ih =>
    show (s.dmaOne d >>= fun s => s.dma (ds ++ es)) = ((s.dmaOne d >>= fun s => s.dma ds) >>= fun t => t.dma es)
    cases s.dmaOne d with
    | error e => rfl
    | ok t => exact ih

/-- **The index commands** come out where the table has their slots, and then do
`delIndexWrite`. -/
theorem delIndexCmds_ok (hs : s.Sized) {i : Nat} (next : Nat) (hi : s.linkSlot i < s.slots) :
    (s.DelIndexFits i (chainPos (decide (s.tableEntries ≤ i)) next) →
      ∃ d ds, s.delIndexCmds i (chainPos (decide (s.tableEntries ≤ i)) next) = .ok (d :: ds) ∧
        (∀ e ∈ d :: ds, e.OnIndex) ∧ ∀ t, SameTable s t →
          t.dma (d :: ds) = .ok (s.delIndexWrite i (chainPos (decide (s.tableEntries ≤ i)) next) t)) ∧
    ∀ ds, s.delIndexCmds i (chainPos (decide (s.tableEntries ≤ i)) next) = .ok ds →
      (∃ d ds', ds = d :: ds' ∧ ∀ e ∈ d :: ds', e.OnIndex) ∧ ∀ t u, SameTable s t → t.dma ds = .ok u →
        s.DelIndexFits i (chainPos (decide (s.tableEntries ≤ i)) next) := by
  -- the command that writes `data` at offset `off` of the base entry `i`
  have hbase : ∀ t off data, SameTable s t → i < s.tableEntries → off < 4 →
      t.dmaOne ⟨.indxTbl, data, s.getIndexEntryOffset i + off⟩ =
        .ok (t.setIndex i ((t.index i).write16 (off / 2) data)) := by
    intro t off data hst hlt hoff
    rw [getIndexEntryOffset_eq hs, dmaOne_index (.inl rfl) _ _ _ hoff, dmaSlot, hst.tableEntries, if_pos hlt]
    rfl
  by_cases hlt : i < s.tableEntries
  · have hlink : s.linkSlot i = i := if_pos hlt
    rw [decide_eq_false (by omega)]
    rw [hlink] at hi
    by_cases h0 : next = 0 <;> simp only [chainPos, h0, decide_true, decide_false]
    · -- the only one
      refine ⟨fun _ => ⟨_, _, rfl, fun e he => ?_, fun t hst => ?_⟩, fun ds hds => ⟨?_, fun _ _ _ _ => trivial⟩⟩
      · rw [List.mem_singleton.1 he]
        exact .inl rfl
      · rw [dma_one, hbase t _ _ hst hlt (by decide)]
        rfl
      · cases hds
        refine ⟨_, _, rfl, fun e he => ?_⟩
        rw [List.mem_singleton.1 he]
        exact .inl rfl
    · -- the head
      have hcmds : s.delIndexCmds i .head = if s.tableEntries + sub16 (s.index i).nextIndex s.tableEntries < s.slots then
          .ok [⟨.indxTbl, (s.index (s.tableEntries + sub16 (s.index i).nextIndex s.tableEntries)).tblEntry,
              s.getIndexEntryOffset i + ipaNatIndexRuleNatIndexFieldOffset⟩,
            ⟨.indxTbl, (s.index (s.tableEntries + sub16 (s.index i).nextIndex s.tableEntries)).nextIndex,
              s.getIndexEntryOffset i + ipaNatIndexRuleNextFieldOffset⟩] else .error .outOfBounds := by
        have hread : s.indexAt i = .ok (s.index i) := if_pos hi
        rw [delIndexCmds, hread, Stuck.ok_bind]
        unfold indexAt
        split <;> rfl
      rw [hcmds]
      constructor
      · intro hf
        rw [if_pos (show s.tableEntries + sub16 (s.index i).nextIndex s.tableEntries < s.slots from hf)]
        refine ⟨_, _, rfl, fun e he => ?_, fun t hst => ?_⟩
        · rcases List.mem_cons.1 he with rfl | he
          · exact .inl rfl
          · rw [List.mem_singleton.1 he]
            exact .inl rfl
        · have h1 := hbase t ipaNatIndexRuleNatIndexFieldOffset
            (s.index (s.tableEntries + sub16 (s.index i).nextIndex s.tableEntries)).tblEntry hst hlt (by decide)
          rw [dma, h1, Stuck.ok_bind, dma_one, hbase _ _ _ (hst.trans (.setIndex ..)) hlt (by decide)]
          rfl
      · intro ds hds
        rw [Stuck.ite_eq_ok] at hds
        obtain ⟨hf, rfl⟩ := hds
        refine ⟨⟨_, _, rfl, fun e he => ?_⟩, fun _ _ _ _ => hf⟩
        rcases List.mem_cons.1 he with rfl | he
        · exact .inl rfl
        · rw [List.mem_singleton.1 he]
          exact .inl rfl
  · have hlink : s.linkSlot i = s.tableEntries + sub16 i s.tableEntries := if_neg hlt
    rw [decide_eq_true (by omega)]
    have hread : s.indexAt (s.tableEntries + sub16 i s.tableEntries) = .ok (s.index (s.linkSlot i)) := by
      unfold indexAt
      rw [← hlink, if_pos hi]
    by_cases h0 : next = 0 <;> simp only [chainPos, h0, decide_true, decide_false]
    · -- the last
      have hcmds : s.delIndexCmds i .last = if sub16 i s.tableEntries < s.expnTableEntries then
          .ok [s.indexLinkCmd (s.indexExpnTableMeta (sub16 i s.tableEntries)) 0] else .error .outOfBounds := by
        simp only [delIndexCmds, metaAt]
        split <;> rfl
      rw [hcmds]
      constructor
      · intro hf
        rw [if_pos hf.1]
        refine ⟨_, _, rfl, fun e he => ?_, fun t hst => ?_⟩
        · rw [List.mem_singleton.1 he]
          exact indexLinkCmd_onIndex _ _
        · rw [dma_one, dmaOne_indexLinkCmd hs t hst, if_pos hf.2]
          rfl
      · intro ds hds
        rw [Stuck.ite_eq_ok] at hds
        obtain ⟨hk, rfl⟩ := hds
        refine ⟨⟨_, _, rfl, fun e he => ?_⟩, fun t u hst hu => ?_⟩
        · rw [List.mem_singleton.1 he]
          exact indexLinkCmd_onIndex _ _
        · rw [dma_one, dmaOne_indexLinkCmd hs t hst, Stuck.ite_eq_ok] at hu
          exact ⟨hk, hu.1⟩
    · -- in the middle
      have hcmds : s.delIndexCmds i .middle = if sub16 i s.tableEntries < s.expnTableEntries then
          .ok [s.indexLinkCmd (s.indexExpnTableMeta (sub16 i s.tableEntries)) (s.index (s.linkSlot i)).nextIndex]
          else .error .outOfBounds := by
        simp only [delIndexCmds, metaAt, hread]
        split <;> rfl
      rw [hcmds]
      constructor
      · intro hf
        rw [if_pos hf.1]
        refine ⟨_, _, rfl, fun e he => ?_, fun t hst => ?_⟩
        · rw [List.mem_singleton.1 he]
          exact indexLinkCmd_onIndex _ _
        · rw [dma_one, dmaOne_indexLinkCmd hs t hst, if_pos hf.2]
          rfl
      · intro ds hds
        rw [Stuck.ite_eq_ok] at hds
        obtain ⟨hk, rfl⟩ := hds
        refine ⟨⟨_, _, rfl, fun e he => ?_⟩, fun t u hst hu => ?_⟩
        · rw [List.mem_singleton.1 he]
          exact indexLinkCmd_onIndex _ _
        · rw [dma_one, dmaOne_indexLinkCmd hs t hst, Stuck.ite_eq_ok] at hu
          exact ⟨hk, hu.1⟩

/-- The rule command stands first or, after `ReorderCmds`, last. -/
theorem reorderCmds_cases {d e : DmaOne} {es : List DmaOne} (hd : ¬ d.OnIndex) (he : e.OnIndex) (mem : Bool) :
    reorderCmds (d :: e :: es) mem = d :: e :: es ∨ reorderCmds (d :: e :: es) mem = e :: es ++ [d] := by
  have hfind : (d :: e :: es).findIdx? (fun d => d.baseAddr == .indxTbl || d.baseAddr == .indexExpnTbl) = some 1 := by
    have hd' : (d.baseAddr == .indxTbl || d.baseAddr == .indexExpnTbl) = false := by
      simpa [DmaOne.OnIndex] using hd
    have he' : (e.baseAddr == .indxTbl || e.baseAddr == .indexExpnTbl) = true := by
      simpa [DmaOne.OnIndex] using he
    simp [List.findIdx?_cons, hd', he']
  unfold reorderCmds
  rw [hfind]
  cases mem with
  | false => exact .inl rfl
  | true => exact .inr rfl

/-! ### After the DMA -/

/-- The rule behind one in the middle is told of the rule before. -/
def movePrev (u : Ip4TableCache) (cur : Nat) (pos : DelType) : Ip4TableCache :=
  if pos = .middle then
    let next := u.expnSlot (u.rules cur).nextIndex
    u.setRule next ((u.rules next).updatePrevIndex (u.rules cur).prevIndex)
  else u

def clearRule (u : Ip4TableCache) (cur : Nat) (pos : DelType) : Ip4TableCache :=
  if pos = .head then u else u.setRule cur .zero

def moveNextMeta (u : Ip4TableCache) (i next : Nat) : Ip4TableCache :=
  if next ≠ 0 ∧ next ≥ u.tableEntries then u.setMeta (sub16 next u.tableEntries) i else u

/-- The entry `k` behind the head `i` of an index chain is cleared after it moved up. -/
def dropMovedUp (u : Ip4TableCache) (i k : Nat) : Ip4TableCache :=
  let u := (u.moveNextMeta i (u.index (u.tableEntries + k)).nextIndex).setIndex (u.tableEntries + k) {}
  let moved := u.linkSlot (u.index i).tblEntry
  u.setRule moved ((u.rules moved).updateIndxTblEntry i)

def moveMeta (u : Ip4TableCache) (k : Nat) (pos : DelType) : Ip4TableCache :=
  if pos = .middle then
    let next := (u.index (u.tableEntries + k)).nextIndex
    (u.setMeta (if next ≥ u.tableEntries then sub16 next u.tableEntries else next)
      (u.indexExpnTableMeta k)).setMeta k 0
  else u

/-- The index side of a deletion after the DMA. -/
def dropIndex (u : Ip4TableCache) (i k : Nat) (pos : DelType) : Ip4TableCache :=
  if pos = .head then u.dropMovedUp i k
  else (u.moveMeta (sub16 i u.tableEntries) pos).setIndex (u.linkSlot i) {}

namespace SameTable

theorem movePrev (u : Ip4TableCache) (cur : Nat) (pos : DelType) : SameTable u (u.movePrev cur pos) := by
  unfold Ip4TableCache.movePrev
  split
  · exact .setRule ..
  · exact .refl u

theorem clearRule (u : Ip4TableCache) (cur : Nat) (pos : DelType) : SameTable u (u.clearRule cur pos) := by
  unfold Ip4TableCache.clearRule
  split
  · exact .refl u
  · exact .setRule ..

theorem moveNextMeta (u : Ip4TableCache) (i next : Nat) : SameTable u (u.moveNextMeta i next) := by
  unfold Ip4TableCache.moveNextMeta
  split
  · exact .setMeta ..
  · exact .refl u

theorem moveMeta (u : Ip4TableCache) (k : Nat) (pos : DelType) : SameTable u (u.moveMeta k pos) := by
  unfold Ip4TableCache.moveMeta
  split
  · exact (SameTable.setMeta ..).trans (.setMeta ..)
  · exact .refl u

theorem dropIndex (u : Ip4TableCache) (i k : Nat) (pos : DelType) : SameTable u (u.dropIndex i k pos) := by
  unfold Ip4TableCache.dropIndex
  split
  · exact ((SameTable.moveNextMeta ..).trans (.setIndex ..)).trans (.setRule ..)
  · exact (SameTable.moveMeta ..).trans (.setIndex ..)

end SameTable

theorem delUpdatePrev_eq (u : Ip4TableCache) (cur : Nat) (pos : DelType) : u.delUpdatePrev cur pos =
    if pos = .middle → cur < u.slots ∧ u.expnSlot (u.rules cur).nextIndex < u.slots then .ok (u.movePrev cur pos)
    else .error .outOfBounds := by
  unfold delUpdatePrev movePrev ruleAt writeRule expnSlot
  by_cases hpos : pos = .middle
  · rw [if_pos hpos, if_pos hpos]
    by_cases hc : cur < u.slots
    · rw [if_pos hc, Stuck.ok_bind]
      dsimp only
      by_cases hn : u.tableEntries + sub16 (u.rules cur).nextIndex u.tableEntries < u.slots
      · rw [if_pos hn, Stuck.ok_bind, if_pos hn, if_pos fun _ => ⟨hc, hn⟩]
      · rw [if_neg hn, if_neg fun h => hn (h hpos).2]
        rfl
    · rw [if_neg hc, if_neg fun h => hc (h hpos).1]
      rfl
  · rw [if_neg hpos, if_neg hpos, if_pos fun h => absurd h hpos]

theorem delClearRule_eq (u : Ip4TableCache) (cur : Nat) (pos : DelType) : u.delClearRule cur pos =
    if pos ≠ .head → cur < u.slots then .ok (u.clearRule cur pos) else .error .outOfBounds := by
  unfold delClearRule clearRule writeRule
  by_cases hpos : pos = .head
  · simp [hpos]
  · simp [hpos]

/-- The slots `delIndexHead` reads and writes are slots of the table. -/
def DropMovedUpFits (u : Ip4TableCache) (i k : Nat) : Prop :=
  u.tableEntries + k < u.slots ∧
    ((u.index (u.tableEntries + k)).nextIndex ≠ 0 ∧ (u.index (u.tableEntries + k)).nextIndex ≥ u.tableEntries →
      sub16 (u.index (u.tableEntries + k)).nextIndex u.tableEntries < u.expnTableEntries) ∧
    i < u.slots ∧ u.linkSlot (update u.index (u.tableEntries + k) {} i).tblEntry < u.slots

theorem delUpdateNextMeta_eq (u : Ip4TableCache) (i next : Nat) : u.delUpdateNextMeta i next =
    if next ≠ 0 ∧ next ≥ u.tableEntries → sub16 next u.tableEntries < u.expnTableEntries then
      .ok (u.moveNextMeta i next) else .error .outOfBounds := by
  unfold delUpdateNextMeta moveNextMeta writeMeta
  by_cases hn : next ≠ 0 ∧ next ≥ u.tableEntries
  · have himp : (next ≠ 0 ∧ next ≥ u.tableEntries → sub16 next u.tableEntries < u.expnTableEntries) ↔
        sub16 next u.tableEntries < u.expnTableEntries := ⟨fun h => h hn, fun h _ => h⟩
    simp only [if_pos hn, himp]
  · rw [if_neg hn, if_neg hn, if_pos fun h => absurd h hn]

@[simp] theorem rules_moveNextMeta (u : Ip4TableCache) (i next : Nat) : (u.moveNextMeta i next).rules = u.rules := by
  unfold moveNextMeta
  split <;> rfl

@[simp] theorem index_moveNextMeta (u : Ip4TableCache) (i next : Nat) : (u.moveNextMeta i next).index = u.index := by
  unfold moveNextMeta
  split <;> rfl

theorem delIndexHead_ok (u : Ip4TableCache) (i k : Nat) :
    (u.DropMovedUpFits i k → u.delIndexHead i k = .ok (u.dropMovedUp i k)) ∧
      ∀ t, u.delIndexHead i k = .ok t → t = u.dropMovedUp i k := by
  have hsame := SameTable.moveNextMeta u i (u.index (u.tableEntries + k)).nextIndex
  have hsame' := hsame.trans (.setIndex _ (u.tableEntries + k) {})
  have hindex : ((u.moveNextMeta i (u.index (u.tableEntries + k)).nextIndex).setIndex (u.tableEntries + k) {}).index =
      update u.index (u.tableEntries + k) {} := by simp
  have htable : ∀ v : Nat, (if v ≥ ((u.moveNextMeta i (u.index (u.tableEntries + k)).nextIndex).setIndex
        (u.tableEntries + k) {}).tableEntries then ((u.moveNextMeta i (u.index (u.tableEntries + k)).nextIndex).setIndex
        (u.tableEntries + k) {}).tableEntries + sub16 v ((u.moveNextMeta i (u.index (u.tableEntries + k)).nextIndex).setIndex
        (u.tableEntries + k) {}).tableEntries else v) = u.linkSlot v := by
    intro v
    unfold linkSlot
    rw [hsame'.tableEntries]
    by_cases hv : v < u.tableEntries
    · rw [if_neg (by omega), if_pos hv]
    · rw [if_pos (by omega), if_neg hv]
  have hlink := hsame'.linkSlot
  constructor
  · rintro ⟨hk, hm, hi, hx⟩
    unfold delIndexHead dropMovedUp indexAt ruleAt
    simp only [if_pos hk, Stuck.ok_bind, delUpdateNextMeta_eq, if_pos hm, writeIndex, hsame.slots, hsame.tableEntries,
      hsame'.slots, if_pos hi, htable, hindex, hlink, writeRule, if_pos hx]
  · intro t ht
    unfold delIndexHead at ht
    simp only [Stuck.bind_eq_ok, indexAt_ok, delUpdateNextMeta_eq, Stuck.ite_eq_ok] at ht
    obtain ⟨next, ⟨-, rfl⟩, v, ⟨-, rfl⟩, w, hw, cur, ⟨-, rfl⟩, rule, hrule, ht⟩ := ht
    rw [writeIndex, Stuck.ite_eq_ok, hsame.tableEntries] at hw
    obtain ⟨-, rfl⟩ := hw
    rw [htable, ruleAt_ok] at hrule
    obtain ⟨-, rfl⟩ := hrule
    rw [htable, writeRule, Stuck.ite_eq_ok] at ht
    rw [← ht.2]
    unfold dropMovedUp
    simp only [hlink]

/-- The slots `delMoveMeta` reads and writes are slots of the table. -/
def MoveMetaFits (u : Ip4TableCache) (k : Nat) : Prop :=
  u.tableEntries + k < u.slots ∧ k < u.expnTableEntries ∧
    (if (u.index (u.tableEntries + k)).nextIndex ≥ u.tableEntries then
      sub16 (u.index (u.tableEntries + k)).nextIndex u.tableEntries
      else (u.index (u.tableEntries + k)).nextIndex) < u.expnTableEntries

theorem delMoveMeta_ok (u : Ip4TableCache) (k : Nat) (pos : DelType) :
    ((pos = .middle → u.MoveMetaFits k) → u.delMoveMeta k pos = .ok (u.moveMeta k pos)) ∧
      ∀ t, u.delMoveMeta k pos = .ok t → t = u.moveMeta k pos := by
  unfold delMoveMeta moveMeta
  by_cases hpos : pos = .middle
  · simp only [if_pos hpos]
    constructor
    · intro hf
      obtain ⟨hk, hke, hn⟩ := hf hpos
      simp only [indexAt, if_pos hk, Stuck.ok_bind, metaAt, if_pos hke, writeMeta]
      rw [if_pos hn, Stuck.ok_bind, expnTableEntries_setMeta, if_pos hke]
      rfl
    · intro t ht
      simp only [Stuck.bind_eq_ok, indexAt_ok, metaAt_ok, writeMeta, Stuck.ite_eq_ok] at ht
      obtain ⟨cur, ⟨-, rfl⟩, prev, ⟨-, rfl⟩, v, ⟨-, rfl⟩, -, rfl⟩ := ht
      rfl
  · simp only [if_neg hpos]
    exact ⟨fun _ => trivial, fun t ht => by cases ht; rfl⟩

/-- The index slots a deletion touches after the DMA are slots of the table. -/
def DropIndexFits (u : Ip4TableCache) (i k : Nat) (pos : DelType) : Prop :=
  if pos = .head then u.DropMovedUpFits i k
  else (pos = .middle → u.MoveMetaFits (sub16 i u.tableEntries)) ∧ u.linkSlot i < u.slots

theorem delIndexUpdate_ok (u : Ip4TableCache) (i k : Nat) (pos : DelType) :
    (u.DropIndexFits i k pos → u.delIndexUpdate i k pos = .ok (u.dropIndex i k pos)) ∧
      ∀ t, u.delIndexUpdate i k pos = .ok t → t = u.dropIndex i k pos := by
  unfold DropIndexFits delIndexUpdate dropIndex
  by_cases hpos : pos = .head
  · simp only [if_pos hpos]
    exact u.delIndexHead_ok i k
  · simp only [if_neg hpos]
    have hsame := SameTable.moveMeta u (sub16 i u.tableEntries) pos
    have hslot : (if i ≥ (u.moveMeta (sub16 i u.tableEntries) pos).tableEntries then
        (u.moveMeta (sub16 i u.tableEntries) pos).tableEntries + sub16 i u.tableEntries else i) = u.linkSlot i := by
      unfold linkSlot
      rw [hsame.tableEntries]
      by_cases hi : i < u.tableEntries
      · rw [if_neg (by omega), if_pos hi]
      · rw [if_pos (by omega), if_neg hi]
    obtain ⟨hof, hfrom⟩ := u.delMoveMeta_ok (sub16 i u.tableEntries) pos
    constructor
    · rintro ⟨hm, hi⟩
      rw [hof hm, Stuck.ok_bind, hslot, writeIndex, hsame.slots, if_pos hi]
    · intro t ht
      obtain ⟨v, hv, ht⟩ := Stuck.bind_eq_ok.1 ht
      rw [hfrom v hv, hslot, writeIndex, Stuck.ite_eq_ok] at ht
      exact ht.2.symm

/-! ### The call -/

/-- The tables after the DMA: the rule command stands first or last. -/
def delDma (s : Ip4TableCache) (ruleFirst : Bool) (cur : Nat) (rule : NatRule) (pos ipos : DelType) : Ip4TableCache :=
  if ruleFirst then s.delIndexWrite rule.indxTblEntry ipos (s.delRuleWrite cur rule pos s)
  else s.delRuleWrite cur rule pos (s.delIndexWrite rule.indxTblEntry ipos s)

/-- The position of a rule and of its index entry. -/
def rulePos (s : Ip4TableCache) (expn : Bool) (cur : Nat) : DelType := chainPos expn (s.rules cur).nextIndex

def indexPos (s : Ip4TableCache) (i : Nat) : DelType :=
  chainPos (decide (s.tableEntries ≤ i)) (s.index (s.linkSlot i)).nextIndex

/-- The entry behind the head of an index chain, 0 elsewhere. -/
def movedUp (s : Ip4TableCache) (i : Nat) (ipos : DelType) : Nat :=
  if ipos = .head then sub16 (s.index i).nextIndex s.tableEntries else 0

/-- The writes of `ipa_nati_post_del_dma_cmd`, in order. -/
def delWrites (s : Ip4TableCache) (ruleFirst expn : Bool) (cur : Nat) : Ip4TableCache :=
  let rule := s.rules cur
  let i := rule.indxTblEntry
  let u := s.delDma ruleFirst cur rule (s.rulePos expn cur) (s.indexPos i)
  let u := (u.movePrev cur (s.rulePos expn cur)).clearRule cur (s.rulePos expn cur)
  u.dropIndex i (s.movedUp i (s.indexPos i)) (s.indexPos i)

theorem SameTable.delDma (s : Ip4TableCache) (ruleFirst : Bool) (cur : Nat) (rule : NatRule) (pos ipos : DelType) :
    SameTable s (s.delDma ruleFirst cur rule pos ipos) := by
  unfold Ip4TableCache.delDma
  split
  · exact (SameTable.delRuleWrite ..).trans (.delIndexWrite ..)
  · exact (SameTable.delIndexWrite ..).trans (.delRuleWrite ..)

theorem SameTable.delWrites (s : Ip4TableCache) (ruleFirst expn : Bool) (cur : Nat) :
    SameTable s (s.delWrites ruleFirst expn cur) :=
  (((SameTable.delDma ..).trans (.movePrev ..)).trans (.clearRule ..)).trans (.dropIndex ..)

theorem indxNextEntry_eq (i : Nat) (ipos : DelType) : s.indxNextEntry i ipos =
    if ipos = .head → i < s.slots then .ok (s.movedUp i ipos) else .error .outOfBounds := by
  unfold indxNextEntry movedUp indexAt
  by_cases hpos : ipos = .head
  · simp only [hpos, if_true, forall_const]
    split <;> rfl
  · rw [if_neg hpos, if_neg hpos, if_pos fun h => absurd h hpos]

theorem delRuleCmd_not_onIndex (entry : Nat) (rule : NatRule) (pos : DelType) :
    ¬ (s.delRuleCmd entry rule pos).OnIndex := by
  have hlink : ∀ prev data, ¬ (s.linkCmd prev data).OnIndex := by
    intro prev data h
    unfold linkCmd at h
    split at h <;> exact nomatch h
  cases pos with
  | onlyOne => exact fun h => (nomatch h)
  | head => exact fun h => (nomatch h)
  | middle => exact hlink _ _
  | last => exact hlink _ _

/-- **The DMA list of a deletion** ends as `delDma` if the table has its slots. -/
theorem dma_del (hs : s.Sized) {expn : Bool} {entry : Nat} (rule : NatRule) {next inext : Nat} (mem : Bool)
    (hi : s.linkSlot rule.indxTblEntry < s.slots) :
    ((expn = false → entry < s.tableEntries) →
      s.delSlot (s.slot expn entry) rule (chainPos expn next) < s.slots →
      s.DelIndexFits rule.indxTblEntry (chainPos (decide (s.tableEntries ≤ rule.indxTblEntry)) inext) →
      ∃ ds ruleFirst, s.delIndexCmds rule.indxTblEntry (chainPos (decide (s.tableEntries ≤ rule.indxTblEntry)) inext) =
          .ok ds ∧
        s.dma (reorderCmds (s.delRuleCmd entry rule (chainPos expn next) :: ds) mem) = .ok (s.delDma ruleFirst
          (s.slot expn entry) rule (chainPos expn next) (chainPos (decide (s.tableEntries ≤ rule.indxTblEntry)) inext))) ∧
    ∀ ds u, s.delIndexCmds rule.indxTblEntry (chainPos (decide (s.tableEntries ≤ rule.indxTblEntry)) inext) = .ok ds →
      s.dma (reorderCmds (s.delRuleCmd entry rule (chainPos expn next) :: ds) mem) = .ok u →
      (expn = false → entry < s.tableEntries) ∧ s.delSlot (s.slot expn entry) rule (chainPos expn next) < s.slots ∧
      ∃ ruleFirst, u = s.delDma ruleFirst (s.slot expn entry) rule (chainPos expn next)
        (chainPos (decide (s.tableEntries ≤ rule.indxTblEntry)) inext) := by
  obtain ⟨hof, hfrom⟩ := delIndexCmds_ok hs inext hi
  constructor
  · intro hbase hslot hfits
    obtain ⟨d, ds, hds, hon, hdma⟩ := hof hfits
    rcases reorderCmds_cases (delRuleCmd_not_onIndex entry rule (chainPos expn next)) (hon d (by simp)) mem with hr | hr
    · refine ⟨_, true, hds, ?_⟩
      rw [hr, dma, dmaOne_delRuleCmd hs (.refl s) rule, if_pos ⟨hbase, hslot⟩, Stuck.ok_bind,
        hdma _ (.delRuleWrite ..)]
      rfl
    · refine ⟨_, false, hds, ?_⟩
      rw [hr, dma_append, hdma s (.refl s), Stuck.ok_bind, dma_one, dmaOne_delRuleCmd hs (.delIndexWrite ..) rule,
        if_pos ⟨hbase, hslot⟩]
      rfl
  · intro ds u hds hu
    obtain ⟨⟨d, ds', rfl, hon⟩, hfits⟩ := hfrom ds hds
    -- whatever table the index commands ran on, they did what they should
    have hindex : ∀ t v, SameTable s t → t.dma (d :: ds') = .ok v → v = s.delIndexWrite rule.indxTblEntry
        (chainPos (decide (s.tableEntries ≤ rule.indxTblEntry)) inext) t := by
      intro t v hst hv
      obtain ⟨e, es, hes, -, hdma⟩ := hof (hfits t v hst hv)
      rw [hds, Except.ok.injEq] at hes
      rw [hes, hdma t hst, Except.ok.injEq] at hv
      exact hv.symm
    rcases reorderCmds_cases (delRuleCmd_not_onIndex entry rule (chainPos expn next)) (hon d (by simp)) mem with hr | hr
    · rw [hr, dma, dmaOne_delRuleCmd hs (.refl s) rule] at hu
      obtain ⟨v, hv, hu⟩ := Stuck.bind_eq_ok.1 hu
      obtain ⟨⟨hbase, hslot⟩, rfl⟩ := Stuck.ite_eq_ok.1 hv
      exact ⟨hbase, hslot, true, hindex _ _ (.delRuleWrite ..) hu⟩
    · rw [hr, dma_append] at hu
      obtain ⟨v, hv, hu⟩ := Stuck.bind_eq_ok.1 hu
      obtain rfl := hindex s v (.refl s) hv
      rw [dma_one, dmaOne_delRuleCmd hs (.delIndexWrite ..) rule, Stuck.ite_eq_ok] at hu
      exact ⟨hu.1.1, hu.1.2, false, hu.2.symm⟩

/-- The slots the deletion of the rule in `entry` reads and writes are slots of the table. -/
structure DelFits (s : Ip4TableCache) (expn : Bool) (entry : Nat) : Prop where
  base : expn = false → entry < s.tableEntries
  cur_lt : s.slot expn entry < s.slots
  delSlot_lt : s.delSlot (s.slot expn entry) (s.rules (s.slot expn entry)) (s.rulePos expn (s.slot expn entry)) < s.slots
  index_lt : s.linkSlot (s.rules (s.slot expn entry)).indxTblEntry < s.slots
  head_lt : s.indexPos (s.rules (s.slot expn entry)).indxTblEntry = .head →
    (s.rules (s.slot expn entry)).indxTblEntry < s.slots
  index : s.DelIndexFits (s.rules (s.slot expn entry)).indxTblEntry
    (s.indexPos (s.rules (s.slot expn entry)).indxTblEntry)
  next_lt : ∀ ruleFirst u, u = s.delDma ruleFirst (s.slot expn entry) (s.rules (s.slot expn entry))
      (s.rulePos expn (s.slot expn entry)) (s.indexPos (s.rules (s.slot expn entry)).indxTblEntry) →
    (s.rulePos expn (s.slot expn entry) = .middle → u.expnSlot (u.rules (s.slot expn entry)).nextIndex < s.slots) ∧
    ((u.movePrev (s.slot expn entry) (s.rulePos expn (s.slot expn entry))).clearRule (s.slot expn entry)
      (s.rulePos expn (s.slot expn entry))).DropIndexFits (s.rules (s.slot expn entry)).indxTblEntry
      (s.movedUp (s.rules (s.slot expn entry)).indxTblEntry (s.indexPos (s.rules (s.slot expn entry)).indxTblEntry))
      (s.indexPos (s.rules (s.slot expn entry)).indxTblEntry)

theorem postDelDmaCmd_of_fits (hs : s.Sized) {expn : Bool} {entry : Nat} (hf : s.DelFits expn entry) {calls : DelCalls}
    (hmem : calls.cmdMem = true) (hioctl : calls.ioctl = true) (hen : (s.rules (s.slot expn entry)).enable = true) :
    ∃ ruleFirst, s.postDelDmaCmd entry expn (s.rulePos expn (s.slot expn entry)) calls =
      .ok (s.delWrites ruleFirst expn (s.slot expn entry), .ok ()) := by
  obtain ⟨ds, ruleFirst, hds, hdma⟩ := (dma_del hs (s.rules (s.slot expn entry)) calls.reorderMem
    hf.index_lt).1 hf.base hf.delSlot_lt hf.index
  refine ⟨ruleFirst, ?_⟩
  obtain ⟨u, hu⟩ : ∃ u, u = s.delDma ruleFirst (s.slot expn entry) (s.rules (s.slot expn entry))
    (s.rulePos expn (s.slot expn entry)) (s.indexPos (s.rules (s.slot expn entry)).indxTblEntry) := ⟨_, rfl⟩
  obtain ⟨hnext, hdrop⟩ := hf.next_lt ruleFirst u hu
  have hsame : SameTable s u := hu ▸ .delDma ..
  have hsame' := hsame.trans (.movePrev _ (s.slot expn entry) (s.rulePos expn (s.slot expn entry)))
  have hipos : s.findIndexRulePos (s.rules (s.slot expn entry)).indxTblEntry =
      .ok (s.indexPos (s.rules (s.slot expn entry)).indxTblEntry) := by
    rw [findIndexRulePos_eq, if_pos hf.index_lt]
    rfl
  have hds' : s.delIndexCmds (s.rules (s.slot expn entry)).indxTblEntry
      (s.indexPos (s.rules (s.slot expn entry)).indxTblEntry) = .ok ds := hds
  have hdma' : s.dma (reorderCmds (s.delRuleCmd entry (s.rules (s.slot expn entry))
      (s.rulePos expn (s.slot expn entry)) :: ds) calls.reorderMem) = .ok u := hu ▸ hdma
  unfold postDelDmaCmd ruleAt
  simp only [hmem, hioctl, if_pos hf.cur_lt, Stuck.ok_bind, hen, Bool.not_true, Bool.false_eq_true, if_false]
  rw [hipos, Stuck.ok_bind, hds', Stuck.ok_bind, indxNextEntry_eq, if_pos hf.head_lt, Stuck.ok_bind, hdma',
    Stuck.ok_bind, delUpdatePrev_eq, if_pos fun h => ⟨hsame.slots ▸ hf.cur_lt, hsame.slots ▸ hnext h⟩, Stuck.ok_bind,
    delClearRule_eq, if_pos fun _ => hsame'.slots ▸ hf.cur_lt, Stuck.ok_bind, (delIndexUpdate_ok _ _ _ _).1 hdrop, hu]
  rfl

theorem postDelDmaCmd_ok (hs : s.Sized) {expn : Bool} {entry : Nat} {calls : DelCalls} (hmem : calls.cmdMem = true)
    (hioctl : calls.ioctl = true) {ret : Except Errno Unit}
    (h : s.postDelDmaCmd entry expn (s.rulePos expn (s.slot expn entry)) calls = .ok (t, ret)) :
    s.slot expn entry < s.slots ∧
    ((∃ e, ret = .error e ∧ t = s ∧ (s.rules (s.slot expn entry)).enable = false) ∨
      ret = .ok () ∧ (s.rules (s.slot expn entry)).enable = true ∧ (expn = false → entry < s.tableEntries) ∧
        ∃ ruleFirst, t = s.delWrites ruleFirst expn (s.slot expn entry)) := by
  unfold postDelDmaCmd at h
  rw [hmem, hioctl] at h
  simp only [Bool.not_true, Bool.false_eq_true, if_false] at h
  obtain ⟨rule, hrule, h⟩ := Stuck.bind_eq_ok.1 h
  obtain ⟨hcur, rfl⟩ := ruleAt_ok.1 hrule
  refine ⟨hcur, ?_⟩
  by_cases hen : (s.rules (s.slot expn entry)).enable = true
  rotate_left
  · rw [Bool.not_eq_true] at hen
    rw [hen] at h
    cases h
    exact .inl ⟨_, rfl, rfl, hen⟩
  rw [hen] at h
  simp only [Bool.not_true, Bool.false_eq_true, if_false] at h
  obtain ⟨ipos, hipos, h⟩ := Stuck.bind_eq_ok.1 h
  rw [findIndexRulePos_eq, Stuck.ite_eq_ok] at hipos
  obtain ⟨hi, rfl⟩ := hipos
  obtain ⟨ds, hds, h⟩ := Stuck.bind_eq_ok.1 h
  obtain ⟨k, hk, h⟩ := Stuck.bind_eq_ok.1 h
  obtain ⟨u, hu, h⟩ := Stuck.bind_eq_ok.1 h
  obtain ⟨v, hv, h⟩ := Stuck.bind_eq_ok.1 h
  obtain ⟨w, hw, h⟩ := Stuck.bind_eq_ok.1 h
  obtain ⟨x, hx, h⟩ := Stuck.bind_eq_ok.1 h
  obtain ⟨hbase, -, ruleFirst, rfl⟩ := (dma_del hs (s.rules (s.slot expn entry)) _ hi).2 ds u hds hu
  rw [indxNextEntry_eq, Stuck.ite_eq_ok] at hk
  rw [delUpdatePrev_eq, Stuck.ite_eq_ok] at hv
  rw [← hv.2, delClearRule_eq, Stuck.ite_eq_ok] at hw
  obtain rfl := (delIndexUpdate_ok _ _ _ _).2 x hx
  rw [← hw.2, ← hk.2] at h
  cases h
  exact .inr ⟨rfl, hen, hbase, ruleFirst, rfl⟩

/-- The table after a deletion. -/
def deleted (s : Ip4TableCache) (ruleFirst expn : Bool) (entry ruleHdl : Nat) : Ip4TableCache :=
  (s.delWrites ruleFirst expn (s.slot expn entry)).delDeadIpv4HeadNodes.setRuleId (ruleHdl - 1) 0

theorem SameTable.delDeadHead (s : Ip4TableCache) (cnt : Nat) : SameTable s (s.delDeadHead cnt) := by
  unfold Ip4TableCache.delDeadHead
  split
  · exact .setRule ..
  · exact .refl s

theorem SameTable.delDeadIpv4HeadNodes (s : Ip4TableCache) : SameTable s s.delDeadIpv4HeadNodes :=
  Lib.forRange_inv' (SameTable s) (.refl s) fun _ _ _ h => h.trans (.delDeadHead ..)

theorem SameTable.deleted (s : Ip4TableCache) (ruleFirst expn : Bool) (entry ruleHdl : Nat) :
    SameTable s (s.deleted ruleFirst expn entry ruleHdl) :=
  ((SameTable.delWrites ..).trans (.delDeadIpv4HeadNodes ..)).trans (.setRuleId ..)

theorem ruleIdArray_delWrites (s : Ip4TableCache) (ruleFirst expn : Bool) (cur : Nat) :
    (s.delWrites ruleFirst expn cur).ruleIdArray = s.ruleIdArray := by
  have hindex : ∀ u i pos, (s.delIndexWrite i pos u).ruleIdArray = u.ruleIdArray := by
    intro u i pos
    cases pos <;> rfl
  have hdma : ∀ rule pos ipos, (s.delDma ruleFirst cur rule pos ipos).ruleIdArray = s.ruleIdArray := by
    intro rule pos ipos
    unfold delDma
    split
    · rw [hindex]
      rfl
    · exact hindex ..
  have hprev : ∀ (u : Ip4TableCache) pos, (u.movePrev cur pos).ruleIdArray = u.ruleIdArray := by
    intro u pos
    unfold movePrev
    split <;> rfl
  have hclear : ∀ (u : Ip4TableCache) pos, (u.clearRule cur pos).ruleIdArray = u.ruleIdArray := by
    intro u pos
    unfold clearRule
    split <;> rfl
  have hdrop : ∀ (u : Ip4TableCache) i k pos, (u.dropIndex i k pos).ruleIdArray = u.ruleIdArray := by
    intro u i k pos
    unfold dropIndex
    split
    · show (u.moveNextMeta i (u.index (u.tableEntries + k)).nextIndex).ruleIdArray = u.ruleIdArray
      unfold moveNextMeta
      split <;> rfl
    · show (u.moveMeta _ pos).ruleIdArray = u.ruleIdArray
      unfold moveMeta
      split <;> rfl
  unfold delWrites
  rw [hdrop, hclear, hprev, hdma]

theorem ruleIdArray_deleted (s : Ip4TableCache) (ruleFirst expn : Bool) (entry ruleHdl : Nat) :
    (s.deleted ruleFirst expn entry ruleHdl).ruleIdArray = update s.ruleIdArray (ruleHdl - 1) 0 := by
  have hdead : ∀ u : Ip4TableCache, u.delDeadIpv4HeadNodes.ruleIdArray = u.ruleIdArray := fun u =>
    Lib.forRange_inv' (fun v : Ip4TableCache => v.ruleIdArray = u.ruleIdArray) rfl fun i v _ h => by
      unfold delDeadHead
      split
      · exact h
      · exact h
  unfold deleted
  rw [ruleIdArray_setRuleId, hdead, ruleIdArray_delWrites]

theorem parseIpv4RuleHdl_ok {ruleHdl : Nat} {expn : Bool} {entry : Nat}
    (h : s.parseIpv4RuleHdl ruleHdl = .ok (expn, entry)) (he : entry ≠ 0) : ruleHdl ≠ 0 ∧ ruleHdl < s.slots ∧
      expn = (s.ruleIdArray (ruleHdl - 1) % 2 == 1) ∧ entry = s.ruleIdArray (ruleHdl - 1) / 2 := by
  unfold parseIpv4RuleHdl at h
  split at h
  · cases h
    exact absurd rfl he
  rename_i hlt
  split at h
  · cases h
  rename_i h0
  obtain ⟨id, hid, h⟩ := Stuck.bind_eq_ok.1 h
  obtain ⟨-, rfl⟩ := Stuck.ite_eq_ok.1 hid
  cases h
  exact ⟨h0, by omega, rfl, rfl⟩

/-- **A deletion that returns** returns an error and changes nothing, or has made its writes. -/
theorem delIpv4Rule_ok (hs : s.Sized) {ruleHdl : Nat} {calls : DelCalls} (hc : (Call.del ruleHdl calls).Reliable)
    {ret : Except Errno Unit} (h : s.delIpv4Rule ruleHdl calls = .ok (t, ret)) :
    (∃ e, ret = .error e ∧ t = s) ∨ ret = .ok () ∧ ∃ expn entry ruleFirst,
      s.parseIpv4RuleHdl (u16 ruleHdl) = .ok (expn, entry) ∧ entry ≠ 0 ∧ ruleHdl - 1 < s.slots ∧
      s.slot expn entry < s.slots ∧ (s.rules (s.slot expn entry)).enable = true ∧
      (expn = false → entry < s.tableEntries) ∧ t = s.deleted ruleFirst expn entry ruleHdl := by
  obtain ⟨hlock, hmem, hioctl, hunlock⟩ := hc
  unfold delIpv4Rule at h
  obtain ⟨⟨expn, entry⟩, hparse, h⟩ := Stuck.bind_eq_ok.1 h
  simp only [hlock, hs.valid, hunlock, Bool.not_true, Bool.false_eq_true, if_false] at h
  split at h
  · cases h
    exact .inl ⟨_, rfl, rfl⟩
  rename_i he
  obtain ⟨pos, hpos, h⟩ := Stuck.bind_eq_ok.1 h
  rw [findRulePos_eq, Stuck.ite_eq_ok] at hpos
  obtain ⟨hcur, rfl⟩ := hpos
  obtain ⟨⟨u, posted⟩, hu, hret⟩ := Stuck.bind_eq_ok.1 h
  obtain ⟨-, ⟨e, rfl, rfl, -⟩ | ⟨rfl, hen, hbase, ruleFirst, rfl⟩⟩ := postDelDmaCmd_ok hs hmem hioctl hu
  · cases hret
    exact .inl ⟨_, rfl, rfl⟩
  · obtain ⟨v, hv, hret⟩ := Stuck.bind_eq_ok.1 hret
    cases hret
    rw [writeRuleId, Stuck.ite_eq_ok] at hv
    refine .inr ⟨rfl, expn, entry, ruleFirst, hparse, he, ?_, hcur, hen, hbase, hv.2.symm⟩
    have := ((SameTable.delWrites s ruleFirst expn (s.slot expn entry)).trans (.delDeadIpv4HeadNodes _)).slots
    rw [← this]
    exact hv.1

/-- A deletion of an enabled rule whose slots the table has does return. -/
theorem delIpv4Rule_of_fits (hs : s.Sized) {ruleHdl : Nat} {calls : DelCalls} (hc : (Call.del ruleHdl calls).Reliable)
    {expn : Bool} {entry : Nat} (hparse : s.parseIpv4RuleHdl (u16 ruleHdl) = .ok (expn, entry)) (he : entry ≠ 0)
    (hid : ruleHdl - 1 < s.slots) (hf : s.DelFits expn entry) (hen : (s.rules (s.slot expn entry)).enable = true) :
    ∃ ruleFirst, s.delIpv4Rule ruleHdl calls = .ok (s.deleted ruleFirst expn entry ruleHdl, .ok ()) := by
  obtain ⟨hlock, hmem, hioctl, hunlock⟩ := hc
  obtain ⟨ruleFirst, hpost⟩ := postDelDmaCmd_of_fits hs hf hmem hioctl hen
  have hsame := (SameTable.delWrites s ruleFirst expn (s.slot expn entry)).trans (.delDeadIpv4HeadNodes _)
  refine ⟨ruleFirst, ?_⟩
  unfold delIpv4Rule
  rw [hparse, Stuck.ok_bind]
  simp only [hlock, hs.valid, hunlock, Bool.not_true, Bool.false_eq_true, if_false, he, ipaNatInvalidNatEntry]
  have hpos : s.findRulePos expn entry = .ok (s.rulePos expn (s.slot expn entry)) := by
    rw [findRulePos_eq, if_pos hf.cur_lt]
    rfl
  rw [hpos, Stuck.ok_bind, hpost, Stuck.ok_bind]
  simp only [writeRuleId, hsame.slots, if_pos hid]
  rfl

end Ip4TableCache
end HiaeCommon
