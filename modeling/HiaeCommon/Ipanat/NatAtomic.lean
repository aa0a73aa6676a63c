/-
Calls of which a step fails. `ipa_nati_add_ipv4_rule` writes the record and
the index entry before it posts the command that enables the rule, and takes
nothing back when that fails; a link that cannot be posted is only logged.
`ipa_nati_del_ipv4_rule` writes nothing before its one `ioctl`.

The tables an addition leaves are given for every outcome of its system calls
(`placed`), and compared with what the addition needs (`AddApplied`).
-/
import HiaeCommon.Ipanat.NatCallsReturn

namespace HiaeCommon

open Function (update)
open Lib (lastFrom Run)

namespace Ip4TableCache

variable {s t : Ip4TableCache} {chain : Nat → List Nat} {r : IpaNatIpv4Rule} {rule : NatRule} {irule : IndxTblSwRule}
  {entry ientry : Nat}

/-- The four tables a call works on are the same. -/
structure SameTables (s t : Ip4TableCache) : Prop where
  rules : t.rules = s.rules
  index : t.index = s.index
  expnMeta : t.indexExpnTableMeta = s.indexExpnTableMeta
  ruleIds : t.ruleIdArray = s.ruleIdArray

theorem SameTables.refl (s : Ip4TableCache) : SameTables s s := ⟨rfl, rfl, rfl, rfl⟩

/-! ## Adding a rule -/

/-- The record, and the link to it if that is posted. -/
def putRule (s : Ip4TableCache) (rule : NatRule) (entry : Nat) (call : DmaOutcome) : Ip4TableCache :=
  if call = .done then (s.setRule entry rule).linkRule rule.prevIndex entry else s.setRule entry rule

/-- The index entry likewise. -/
def putIndex (s : Ip4TableCache) (irule : IndxTblSwRule) (ientry : Nat) (call : DmaOutcome) : Ip4TableCache :=
  if call = .done then (s.setIndex ientry ⟨irule.tblEntry, irule.nextIndex⟩).linkIndex irule.prevIndex ientry
  else s.setIndex ientry ⟨irule.tblEntry, irule.nextIndex⟩

/-- The tables before the rule is enabled. -/
def placed (s : Ip4TableCache) (rule : NatRule) (irule : IndxTblSwRule) (entry ientry : Nat) (calls : AddCalls) :
    Ip4TableCache := (s.putRule rule entry calls.linkRule).putIndex irule ientry calls.linkIndex

/-- The tables once it is. -/
def placedEnabled (s : Ip4TableCache) (rule : NatRule) (irule : IndxTblSwRule) (entry ientry : Nat) (calls : AddCalls) :
    Ip4TableCache :=
  (s.placed rule irule entry ientry calls).setRule entry ((s.placed rule irule entry ientry calls).rules entry).enabled

theorem SameTable.putRule (s : Ip4TableCache) (rule : NatRule) (entry : Nat) (call : DmaOutcome) :
    SameTable s (s.putRule rule entry call) := by
  unfold Ip4TableCache.putRule
  split
  · exact (SameTable.setRule s entry rule).trans (.linkRule ..)
  · exact .setRule ..

theorem SameTable.putIndex (s : Ip4TableCache) (irule : IndxTblSwRule) (ientry : Nat) (call : DmaOutcome) :
    SameTable s (s.putIndex irule ientry call) := by
  unfold Ip4TableCache.putIndex
  split
  · exact (SameTable.setIndex s ientry ⟨irule.tblEntry, irule.nextIndex⟩).trans (.linkIndex ..)
  · exact .setIndex ..

theorem SameTable.placed (s : Ip4TableCache) (rule : NatRule) (irule : IndxTblSwRule) (entry ientry : Nat)
    (calls : AddCalls) : SameTable s (s.placed rule irule entry ientry calls) :=
  (SameTable.putRule ..).trans (.putIndex ..)

theorem copyIpv4RuleToHw_put (hs : s.Sized) (call : DmaOutcome) (he : entry < s.slots)
    (hp : rule.prevIndex = 0 ∨ s.linkSlot rule.prevIndex < s.slots) :
    s.copyIpv4RuleToHw rule entry call = .ok (s.putRule rule entry call) := by
  unfold putRule
  by_cases hc : call = .done
  · subst hc
    rw [copyIpv4RuleToHw_eq hs, if_pos ⟨he, hp⟩, if_pos rfl]
  · unfold copyIpv4RuleToHw writeRule
    simp only [if_pos he, Stuck.ok_bind, if_neg hc]
    split
    · rfl
    · cases call with
      | noMem | ioError => rfl
      | done => exact absurd rfl hc

theorem copyIpv4IndexRuleToHw_put (hs : s.Sized) (call : DmaOutcome) (he : ientry < s.slots)
    (hp : irule.prevIndex = 0 ∨ s.indexLinkSlot irule.prevIndex < s.slots) :
    s.copyIpv4IndexRuleToHw irule ientry call = .ok (s.putIndex irule ientry call) := by
  unfold putIndex
  by_cases hc : call = .done
  · subst hc
    rw [copyIpv4IndexRuleToHw_eq hs, if_pos ⟨he, hp⟩, if_pos rfl]
  · unfold copyIpv4IndexRuleToHw writeIndex
    simp only [if_pos he, Stuck.ok_bind, if_neg hc]
    split
    · rfl
    · cases call with
      | noMem | ioError => rfl
      | done => exact absurd rfl hc

/-- **An addition whose generator found its slots**, for every outcome of its system calls. -/
theorem addIpv4Rule_placed (hs : s.Sized) {u : Ip4TableCache} (hu : SameTable s u) (hfits : AddFits s rule irule entry ientry)
    (hg : s.generateRule r = .ok (u, .ok (rule, irule, entry, ientry))) (calls : AddCalls) :
    s.addIpv4Rule r calls = .ok (if calls.enable = .done then
      (((u.placedEnabled rule irule entry ientry calls).makeRuleHdl entry).1,
        hdlRet ((u.placedEnabled rule irule entry ientry calls).makeRuleHdl entry).2)
      else (u.placed rule irule entry ientry calls, .error .eio)) := by
  obtain ⟨he, hp, hie, hip⟩ := hfits
  have hv := hu.trans (.putRule u rule entry calls.linkRule)
  have hw := hu.trans (.placed u rule irule entry ientry calls)
  have hilink : (u.putRule rule entry calls.linkRule).indexLinkSlot irule.prevIndex = s.indexLinkSlot irule.prevIndex := by
    unfold indexLinkSlot
    rw [hv.tableEntries]
  have hentry : (u.placed rule irule entry ientry calls).linkSlot entry = entry := by
    have := hs.slots_lt
    exact linkSlot_eq (by omega)
  have hrule := copyIpv4RuleToHw_put (hu.sized hs) calls.linkRule (by rw [hu.slots]; exact he)
    (by rw [hu.slots, hu.linkSlot]; exact hp)
  have hindex := copyIpv4IndexRuleToHw_put (hv.sized hs) calls.linkIndex (by rw [hv.slots]; exact hie)
    (by rw [hv.slots, hilink]; exact hip)
  have hplaced : (u.putRule rule entry calls.linkRule).putIndex irule ientry calls.linkIndex =
      u.placed rule irule entry ientry calls := rfl
  unfold addIpv4Rule
  simp only [hg, Stuck.ok_bind, hrule, hindex, hplaced]
  by_cases hen : calls.enable = .done
  · rw [hen, postIpv4DmaCmd_eq (hw.sized hs), hentry, if_pos (by rw [hw.slots]; exact he), Stuck.ok_bind, if_pos rfl]
    unfold hdlRet placedEnabled
    simp only
    split
    · rfl
    · rfl
  · rw [if_neg hen]
    cases henable : calls.enable with
    | noMem | ioError => rfl
    | done => exact absurd henable hen

/-- What an addition needs written: the record, enabled, and its index entry, each linked from the one before it, the place
of the index entry noted, and the handle. -/
structure AddApplied (s : Ip4TableCache) (rule : NatRule) (irule : IndxTblSwRule) (entry ientry hdl : Nat)
    (t : Ip4TableCache) : Prop where
  record : t.rules entry = rule.enabled
  link : rule.prevIndex ≠ 0 → (t.rules rule.prevIndex).nextIndex = entry
  indexEntry : t.index ientry = ⟨entry, 0⟩
  indexLink : irule.prevIndex ≠ 0 → (t.index irule.prevIndex).nextIndex = ientry
  noted : s.tableEntries ≤ ientry → t.indexExpnTableMeta (ientry - s.tableEntries) = irule.prevIndex
  handle : t.ruleIdArray (hdl - 1) = s.ruleId entry

/-- The slot before that of a new rule: there is none, or it is the end of the rule's chain. -/
theorem TblPlace.prev (h : TblPlace s r rule entry) (hs : s.Sized) (hne : s.tableEntries ≠ 0) (hr : s.RuleLinks chain) :
    ((s.rules (s.dstSlot r)).enable = false ∧ rule.prevIndex = 0) ∨
      ((s.rules (s.dstSlot r)).enable = true ∧ rule.prevIndex ≠ 0 ∧ s.linkSlot rule.prevIndex = rule.prevIndex ∧
        rule.prevIndex ≠ entry ∧ (s.rules rule.prevIndex).nextIndex = 0) := by
  obtain ⟨hb0, hb⟩ := hs.dstSlot_range hne r
  have hslots := hs.slots_lt
  have hslots' : s.slots = s.tableEntries + s.expnTableEntries := rfl
  cases h with
  | base _ hen => exact .inl ⟨hen, rfl⟩
  | @expn prev _ hen hend hfree =>
    obtain ⟨hflt, hfen⟩ := expnTblFreeEntry_spec hfree
    rw [hr.chainEnd_eq hs hb, Except.ok.injEq, Option.some.injEq] at hend
    have hnext := (hr.chains.linked _ hb).next_last
    rw [hend] at hnext
    have hprev : prev ≠ 0 ∧ prev < s.slots ∧ (prev < s.tableEntries ∨ (s.rules prev).enable = true) := by
      rcases List.mem_cons.1 (hend ▸ Lib.lastFrom_mem (s.dstSlot r) (chain (s.dstSlot r)) :
        prev ∈ s.dstSlot r :: chain (s.dstSlot r)) with rfl | hm
      · exact ⟨hb0, by omega, .inl hb⟩
      · have hu := hr.mem_used hb hm
        exact ⟨(hr.chains.linked _ hb).ne_null prev hm, hu.2.1, .inr hu.2.2⟩
    obtain ⟨h0, hlt, hused⟩ := hprev
    refine .inr ⟨hen, h0, linkSlot_eq (show prev < 2 ^ 16 by omega), ?_, hnext⟩
    rw [u16_of_lt (by omega)]
    intro heq
    replace heq : prev = s.expnTblFreeEntry + s.tableEntries := heq
    rcases hused with hbase | hused
    · omega
    · rw [Nat.add_comm, ← heq, hused] at hfen
      cases hfen

/-- The same of the index entry; the link to it goes astray when its offset is cut off. -/
theorem IndexPlace.prev (h : IndexPlace s r entry irule ientry) (hs : s.Sized) (hne : s.tableEntries ≠ 0)
    (hi : s.IndexInv chain) :
    ((s.index (s.srcSlot r)).tblEntry = 0 ∧ irule.prevIndex = 0 ∧ ¬ s.LinkTruncated r) ∨
      ((s.index (s.srcSlot r)).tblEntry ≠ 0 ∧ irule.prevIndex ≠ 0 ∧ (s.indexLinkSlot irule.prevIndex = irule.prevIndex ↔
        ¬ s.LinkTruncated r) ∧ irule.prevIndex ≠ ientry ∧ s.indexLinkSlot irule.prevIndex ≠ ientry ∧
        (s.index irule.prevIndex).nextIndex = 0) := by
  obtain ⟨hb0, hb⟩ := hs.srcSlot_range hne r
  have hslots := hs.slots_lt
  have hslots' : s.slots = s.tableEntries + s.expnTableEntries := rfl
  cases h with
  | base _ h0 => exact .inl ⟨h0, rfl, fun hcut => hcut.2.1 h0⟩
  | @expn prev _ h0 hend hfree hprevne =>
    obtain ⟨hflt, -⟩ := indexExpnGetFreeEntry_spec hfree
    rw [hi.chainEnd_eq hs hb, Except.ok.injEq, Option.some.injEq] at hend
    have hnext := (hi.chains.linked _ hb).next_last
    rw [hend] at hnext
    have hcases : prev = s.srcSlot r ∨ (s.IndexUsed prev ∧ (s.index (s.srcSlot r)).nextIndex ≠ 0) := by
      rcases List.mem_cons.1 (hend ▸ Lib.lastFrom_mem (s.srcSlot r) (chain (s.srcSlot r)) :
        prev ∈ s.srcSlot r :: chain (s.srcSlot r)) with heq | hm
      · exact .inl heq
      · refine .inr ⟨hi.mem_used hb hm, fun hnil => ?_⟩
        rw [(hi.chains.linked _ hb).next_eq_null_iff.1 hnil] at hm
        cases hm
    rcases hcases with rfl | ⟨hu, hlong⟩
    · -- the base entry itself
      have hcut : s.indexLinkSlot (s.srcSlot r) = s.srcSlot r % 2 ^ 14 := if_pos hb
      refine .inr ⟨h0, hb0, ?_, hprevne, ?_, hnext⟩
      · rw [show (IndxTblSwRule.mk entry 0 (s.srcSlot r)).prevIndex = s.srcSlot r from rfl, hcut]
        constructor
        · rintro heq ⟨hge, -, -⟩
          omega
        · intro hcut'
          by_contra hne'
          exact hcut' ⟨by omega, h0, hnext⟩
      · show s.indexLinkSlot (s.srcSlot r) ≠ _
        rw [hcut, u16_of_lt (by omega)]
        omega
    · have hult := hu.2.1
      have huge := hu.1
      have hexpn := hs.expn_le
      have hslot : s.indexLinkSlot prev = prev := indexLinkSlot_eq (.inr (by omega)) hs
      refine .inr ⟨h0, show prev ≠ 0 by omega, ?_, hprevne, ?_, hnext⟩
      · exact ⟨fun _ hcut => hlong hcut.2.2, fun _ => hslot⟩
      · show s.indexLinkSlot prev ≠ _
        rw [hslot]
        exact hprevne

/-! ### The tables an addition leaves -/

theorem rules_putIndex (s : Ip4TableCache) (irule : IndxTblSwRule) (ientry : Nat) (call : DmaOutcome) :
    (s.putIndex irule ientry call).rules = s.rules := by
  unfold putIndex linkIndex
  split
  · split <;> rfl
  · rfl

theorem index_putRule (s : Ip4TableCache) (rule : NatRule) (entry : Nat) (call : DmaOutcome) :
    (s.putRule rule entry call).index = s.index := by
  unfold putRule linkRule
  split
  · split <;> rfl
  · rfl

theorem meta_putRule (s : Ip4TableCache) (rule : NatRule) (entry : Nat) (call : DmaOutcome) :
    (s.putRule rule entry call).indexExpnTableMeta = s.indexExpnTableMeta := by
  unfold putRule linkRule
  split
  · split <;> rfl
  · rfl

theorem meta_putIndex (s : Ip4TableCache) (irule : IndxTblSwRule) (ientry : Nat) (call : DmaOutcome) :
    (s.putIndex irule ientry call).indexExpnTableMeta = s.indexExpnTableMeta := by
  unfold putIndex linkIndex
  split
  · split <;> rfl
  · rfl

theorem ruleIdArray_putRule (s : Ip4TableCache) (rule : NatRule) (entry : Nat) (call : DmaOutcome) :
    (s.putRule rule entry call).ruleIdArray = s.ruleIdArray := by
  unfold putRule
  split
  · rw [ruleIdArray_linkRule, ruleIdArray_setRule]
  · rfl

theorem ruleIdArray_putIndex (s : Ip4TableCache) (irule : IndxTblSwRule) (ientry : Nat) (call : DmaOutcome) :
    (s.putIndex irule ientry call).ruleIdArray = s.ruleIdArray := by
  unfold putIndex
  split
  · rw [ruleIdArray_linkIndex, ruleIdArray_setIndex]
  · rfl

/-- The record is in its slot, and the one before is linked to it if that was posted. -/
theorem rules_putRule (call : DmaOutcome)
    (hprev : rule.prevIndex = 0 ∨ s.linkSlot rule.prevIndex = rule.prevIndex ∧ rule.prevIndex ≠ entry) :
    (s.putRule rule entry call).rules entry = rule ∧ (rule.prevIndex ≠ 0 → (s.putRule rule entry call).rules rule.prevIndex =
      if call = .done then (s.rules rule.prevIndex).link entry else s.rules rule.prevIndex) := by
  have hset : (s.setRule entry rule).rules entry = rule := Function.update_self ..
  unfold putRule linkRule
  by_cases hc : call = .done
  · rw [if_pos hc, if_pos hc]
    by_cases h0 : rule.prevIndex = 0
    · rw [if_pos h0]
      exact ⟨hset, fun h => absurd h0 h⟩
    · obtain ⟨hslot, hne⟩ := hprev.resolve_left h0
      have hslot' : (s.setRule entry rule).linkSlot rule.prevIndex = rule.prevIndex := hslot
      rw [if_neg h0, hslot', rules_setRule, rules_setRule, Function.update_of_ne hne.symm, Function.update_self,
        Function.update_self, Function.update_of_ne hne]
      exact ⟨rfl, fun _ => rfl⟩
  · rw [if_neg hc, if_neg hc]
    refine ⟨hset, fun h0 => ?_⟩
    rw [rules_setRule, Function.update_of_ne (hprev.resolve_left h0).2]

/-- The index entry likewise, if its link goes to the entry before. -/
theorem index_putIndex (call : DmaOutcome)
    (hprev : irule.prevIndex = 0 ∨ irule.prevIndex ≠ ientry ∧ s.indexLinkSlot irule.prevIndex ≠ ientry) :
    (s.putIndex irule ientry call).index ientry = ⟨irule.tblEntry, irule.nextIndex⟩ ∧
    (irule.prevIndex ≠ 0 → (s.putIndex irule ientry call).index irule.prevIndex =
      if call = .done ∧ s.indexLinkSlot irule.prevIndex = irule.prevIndex then (s.index irule.prevIndex).link ientry
      else s.index irule.prevIndex) := by
  have hset : (s.setIndex ientry ⟨irule.tblEntry, irule.nextIndex⟩).index ientry = ⟨irule.tblEntry, irule.nextIndex⟩ :=
    Function.update_self ..
  unfold putIndex linkIndex
  by_cases hc : call = .done
  · rw [if_pos hc]
    by_cases h0 : irule.prevIndex = 0
    · rw [if_pos h0]
      exact ⟨hset, fun h => absurd h0 h⟩
    · obtain ⟨hne, hslotne⟩ := hprev.resolve_left h0
      have hslot : (s.setIndex ientry ⟨irule.tblEntry, irule.nextIndex⟩).indexLinkSlot irule.prevIndex =
          s.indexLinkSlot irule.prevIndex := rfl
      rw [if_neg h0, hslot, index_setIndex, index_setIndex, Function.update_of_ne hslotne.symm, Function.update_self]
      refine ⟨rfl, fun _ => ?_⟩
      by_cases heq : s.indexLinkSlot irule.prevIndex = irule.prevIndex
      · rw [if_pos ⟨hc, heq⟩, heq, Function.update_self, Function.update_of_ne hne]
      · rw [if_neg fun h => heq h.2, Function.update_of_ne (Ne.symm heq), Function.update_of_ne hne]
  · rw [if_neg hc]
    refine ⟨hset, fun h0 => ?_⟩
    rw [if_neg fun h => hc h.1, index_setIndex, Function.update_of_ne (hprev.resolve_left h0).1]

theorem IndexPlace.entry_eq (h : IndexPlace s r entry irule ientry) : irule.tblEntry = entry ∧ irule.nextIndex = 0 := by
  cases h <;> exact ⟨rfl, rfl⟩

theorem IndexPlace.free (h : IndexPlace s r entry irule ientry) (hs : s.Sized) : (s.index ientry).tblEntry = 0 := by
  have hslots := hs.slots_lt
  unfold slots at hslots
  cases h with
  | base _ h0 => exact h0
  | expn _ _ _ hfree _ =>
    obtain ⟨hflt, hfen⟩ := indexExpnGetFreeEntry_spec hfree
    rw [u16_of_lt (by omega), Nat.add_comm]
    exact hfen

/-- An addition that found its slots, in a table whose chains are sound. -/
structure AddReady (s : Ip4TableCache) (r : IpaNatIpv4Rule) (rule : NatRule) (irule : IndxTblSwRule) (entry ientry : Nat) :
    Prop where
  sized : s.Sized
  base : s.tableEntries ≠ 0
  chained : ∃ chain, s.RuleLinks chain
  indexed : ∃ chain, s.IndexInv chain
  entry_ne : entry ≠ 0
  ientry_ne : ientry ≠ 0
  tbl : TblPlace s r rule entry
  index : IndexPlace s r entry irule ientry
  fits : AddFits s rule irule entry ientry

/-- The tables when `ipa_nati_make_rule_hdl` is called. -/
def addTables (s : Ip4TableCache) (rule : NatRule) (irule : IndxTblSwRule) (entry ientry : Nat) (calls : AddCalls) :
    Ip4TableCache :=
  (s.noteMeta ientry irule.prevIndex).placedEnabled { rule with indxTblEntry := ientry } irule entry ientry calls

namespace AddReady

theorem rules (h : AddReady s r rule irule entry ientry) (calls : AddCalls) :
    (s.addTables rule irule entry ientry calls).rules entry = { rule with indxTblEntry := ientry }.enabled ∧
    (rule.prevIndex ≠ 0 → (s.addTables rule irule entry ientry calls).rules rule.prevIndex =
      if calls.linkRule = .done then (s.rules rule.prevIndex).link entry else s.rules rule.prevIndex) := by
  obtain ⟨chain, hr⟩ := h.chained
  have hnote : (s.noteMeta ientry irule.prevIndex).rules = s.rules := by
    unfold noteMeta
    split <;> rfl
  have hprev : rule.prevIndex = 0 ∨ (s.noteMeta ientry irule.prevIndex).linkSlot rule.prevIndex = rule.prevIndex ∧
      rule.prevIndex ≠ entry := by
    rw [(SameTable.noteMeta s ientry irule.prevIndex).linkSlot]
    rcases h.tbl.prev h.sized h.base hr with ⟨-, h0⟩ | ⟨-, -, hslot, hne, -⟩
    · exact .inl h0
    · exact .inr ⟨hslot, hne⟩
  obtain ⟨hrec, hlink⟩ := @rules_putRule _ { rule with indxTblEntry := ientry } _ calls.linkRule hprev
  rw [hnote] at hlink
  show update _ entry _ entry = _ ∧ (_ → update _ entry _ _ = _)
  unfold placed
  rw [rules_putIndex, Function.update_self, hrec]
  refine ⟨rfl, fun h0 => ?_⟩
  rw [Function.update_of_ne (hprev.resolve_left h0).2]
  exact hlink h0

theorem indexes (h : AddReady s r rule irule entry ientry) (calls : AddCalls) :
    (s.addTables rule irule entry ientry calls).index ientry = ⟨entry, 0⟩ ∧
    (irule.prevIndex ≠ 0 → (s.addTables rule irule entry ientry calls).index irule.prevIndex =
      if calls.linkIndex = .done ∧ ¬ s.LinkTruncated r then (s.index irule.prevIndex).link ientry
      else s.index irule.prevIndex) := by
  obtain ⟨chain, hi⟩ := h.indexed
  obtain ⟨v, hv⟩ : ∃ v, v = (s.noteMeta ientry irule.prevIndex).putRule { rule with indxTblEntry := ientry } entry
    calls.linkRule := ⟨_, rfl⟩
  have hsv : SameTable s v := hv ▸ (SameTable.noteMeta s ientry irule.prevIndex).trans (.putRule ..)
  have hindex : v.index = s.index := by
    rw [hv, index_putRule]
    unfold noteMeta
    split <;> rfl
  have hslot : v.indexLinkSlot irule.prevIndex = s.indexLinkSlot irule.prevIndex := by
    unfold indexLinkSlot
    rw [hsv.tableEntries]
  have hcases := h.index.prev h.sized h.base hi
  have hprev : irule.prevIndex = 0 ∨ irule.prevIndex ≠ ientry ∧ v.indexLinkSlot irule.prevIndex ≠ ientry := by
    rw [hslot]
    rcases hcases with ⟨-, h0, -⟩ | ⟨-, -, -, hne, hslotne, -⟩
    · exact .inl h0
    · exact .inr ⟨hne, hslotne⟩
  obtain ⟨hent, hlink⟩ := index_putIndex calls.linkIndex hprev
  obtain ⟨htbl, hnext⟩ := h.index.entry_eq
  rw [htbl, hnext] at hent
  rw [hslot, hindex] at hlink
  have hplaced : (s.addTables rule irule entry ientry calls).index = (v.putIndex irule ientry calls.linkIndex).index := by
    rw [hv]
    rfl
  rw [hplaced]
  refine ⟨hent, fun h0 => ?_⟩
  rw [hlink h0]
  obtain ⟨-, -, hcut, -⟩ := hcases.resolve_left fun hz => h0 hz.2.1
  simp only [hcut]

theorem metas (s : Ip4TableCache) (rule : NatRule) (irule : IndxTblSwRule) (entry ientry : Nat) (calls : AddCalls) :
    (s.addTables rule irule entry ientry calls).indexExpnTableMeta = (s.noteMeta ientry irule.prevIndex).indexExpnTableMeta := by
  show (Ip4TableCache.placed _ _ _ _ _ _).indexExpnTableMeta = _
  unfold placed
  rw [meta_putIndex, meta_putRule]

theorem ruleIds (s : Ip4TableCache) (rule : NatRule) (irule : IndxTblSwRule) (entry ientry : Nat) (calls : AddCalls) :
    (s.addTables rule irule entry ientry calls).ruleIdArray = s.ruleIdArray := by
  show (Ip4TableCache.placed _ _ _ _ _ _).ruleIdArray = _
  unfold placed
  rw [ruleIdArray_putIndex, ruleIdArray_putRule, ruleIdArray_noteMeta]

theorem sameTable (s : Ip4TableCache) (rule : NatRule) (irule : IndxTblSwRule) (entry ientry : Nat) (calls : AddCalls) :
    SameTable s (s.addTables rule irule entry ientry calls) :=
  ((SameTable.noteMeta s ientry irule.prevIndex).trans (.placed ..)).trans (.setRule ..)

/-- Every write the addition needs has been made just when the links it needs were posted and the index link went where it
should. -/
theorem applied_iff (h : AddReady s r rule irule entry ientry) (calls : AddCalls) {k : Nat} (hk : k < s.slots)
    (hk0 : s.ruleIdArray k = 0) (hfirst : ∀ j < k, s.ruleIdArray j ≠ 0) :
    AddApplied s { rule with indxTblEntry := ientry } irule entry ientry (k + 1)
      ((s.addTables rule irule entry ientry calls).makeRuleHdl entry).1 ↔
    ((s.rules (s.dstSlot r)).enable = true → calls.linkRule = .done) ∧
      ((s.index (s.srcSlot r)).tblEntry ≠ 0 → calls.linkIndex = .done) ∧ ¬ s.LinkTruncated r := by
  obtain ⟨chain, hr⟩ := h.chained
  obtain ⟨ichain, hi⟩ := h.indexed
  obtain ⟨hrec, hlink⟩ := h.rules calls
  obtain ⟨hent, hilink⟩ := h.indexes calls
  have hmeta := metas s rule irule entry ientry calls
  have hids := ruleIds s rule irule entry ientry calls
  have hst := sameTable s rule irule entry ientry calls
  have hslots := h.sized.slots_lt
  have hlt := h.fits.entry_lt
  have hilt := h.fits.ientry_lt
  obtain ⟨-, hids'⟩ := makeRuleHdl_of_free entry (s := s.addTables rule irule entry ientry calls) (by rw [hst.slots]; exact hk)
    (by rw [hids]; exact hk0) (by rw [hids]; exact hfirst)
  have hrid : (s.addTables rule irule entry ientry calls).ruleId entry = s.ruleId entry := by
    unfold ruleId
    rw [hst.tableEntries]
  generalize s.addTables rule irule entry ientry calls = w at hrec hlink hent hilink hmeta hids hids' hrid
  have hprev := h.tbl.prev h.sized h.base hr
  have hiprev := h.index.prev h.sized h.base hi
  constructor
  · intro happ
    refine ⟨fun hen => ?_, fun hnz => ?_, fun hcut => ?_⟩
    · -- the end of the chain still has no successor
      obtain ⟨-, h0, -, -, hnext⟩ := hprev.resolve_left fun hf => by simp [hen] at hf
      by_contra hcall
      have hl := happ.link h0
      rw [rules_makeRuleHdl, hlink h0, if_neg hcall, hnext] at hl
      exact h.entry_ne hl.symm
    · obtain ⟨-, h0, -, -, -, hnext⟩ := hiprev.resolve_left fun hz => hnz hz.1
      by_contra hcall
      have hl := happ.indexLink h0
      rw [index_makeRuleHdl, hilink h0, if_neg fun hc => hcall hc.1, hnext] at hl
      exact h.ientry_ne hl.symm
    · obtain ⟨-, h0, -, -, -, hnext⟩ := hiprev.resolve_left fun hz => hz.2.2 hcut
      have hl := happ.indexLink h0
      rw [index_makeRuleHdl, hilink h0, if_neg fun hc => hc.2 hcut, hnext] at hl
      exact h.ientry_ne hl.symm
  · rintro ⟨hcall, hicall, hcut⟩
    constructor
    · rw [rules_makeRuleHdl]
      exact hrec
    · intro h0
      obtain ⟨hen, -⟩ := hprev.resolve_left fun hf => h0 hf.2
      rw [rules_makeRuleHdl, hlink h0, if_pos (hcall hen)]
      exact u16_of_lt (by omega)
    · rw [index_makeRuleHdl]
      exact hent
    · intro h0
      obtain ⟨hnz, -⟩ := hiprev.resolve_left fun hz => h0 hz.2.1
      rw [index_makeRuleHdl, hilink h0, if_pos ⟨hicall hnz, hcut⟩]
      exact u16_of_lt (by omega)
    · intro hge
      rw [meta_makeRuleHdl, hmeta]
      unfold noteMeta
      rw [if_pos hge, sub16_of_le hge (by omega), meta_setMeta, Function.update_self]
    · rw [hids', hrid, Nat.add_sub_cancel, Function.update_self]

/-- Where every link needed is posted, the tables are as if nothing failed. -/
theorem tables_eq (h : AddReady s r rule irule entry ientry) (calls : AddCalls)
    (hrule : (s.rules (s.dstSlot r)).enable = true → calls.linkRule = .done)
    (hindex : (s.index (s.srcSlot r)).tblEntry ≠ 0 → calls.linkIndex = .done) :
    s.addTables rule irule entry ientry calls = s.addTables rule irule entry ientry {} := by
  obtain ⟨chain, hr⟩ := h.chained
  obtain ⟨ichain, hi⟩ := h.indexed
  have hputRule : ∀ u : Ip4TableCache, u.putRule { rule with indxTblEntry := ientry } entry calls.linkRule =
      u.putRule { rule with indxTblEntry := ientry } entry .done := by
    intro u
    rcases h.tbl.prev h.sized h.base hr with ⟨-, h0⟩ | ⟨hen, -⟩
    · unfold putRule linkRule
      simp only [h0]
      split <;> rfl
    · rw [hrule hen]
  have hputIndex : ∀ u : Ip4TableCache, u.putIndex irule ientry calls.linkIndex = u.putIndex irule ientry .done := by
    intro u
    rcases h.index.prev h.sized h.base hi with ⟨-, h0, -⟩ | ⟨hnz, -⟩
    · unfold putIndex linkIndex
      simp only [h0]
      split <;> rfl
    · rw [hindex hnz]
  unfold addTables placedEnabled placed
  rw [hputRule, hputIndex]

/-- **An addition that found its slots**, for every outcome of its system calls. -/
theorem addIpv4Rule_eq (h : AddReady s r rule irule entry ientry) (calls : AddCalls)
    (hg : s.generateRule r = .ok (s.noteMeta ientry irule.prevIndex, .ok ({ rule with indxTblEntry := ientry }, irule, entry,
      ientry))) : (calls.enable = .done → s.addIpv4Rule r calls =
        .ok (((s.addTables rule irule entry ientry calls).makeRuleHdl entry).1,
          hdlRet ((s.addTables rule irule entry ientry calls).makeRuleHdl entry).2)) ∧
      (calls.enable ≠ .done → ∃ t, s.addIpv4Rule r calls = .ok (t, .error .eio) ∧ t.index = (s.addTables rule irule entry ientry
        calls).index) := by
  have hfits : AddFits s { rule with indxTblEntry := ientry } irule entry ientry :=
    ⟨h.fits.entry_lt, h.fits.prev_lt, h.fits.ientry_lt, h.fits.iprev_lt⟩
  have heq := addIpv4Rule_placed h.sized (.noteMeta s ientry irule.prevIndex) hfits hg calls
  constructor
  · intro hen
    rw [heq, if_pos hen]
    rfl
  · intro hen
    rw [heq, if_neg hen]
    exact ⟨_, rfl, rfl⟩

end AddReady

/-! ## Deleting a rule -/

/-- A deletion that gets no memory for its commands, or whose `ioctl` fails, changes nothing. -/
theorem delIpv4Rule_fails {ruleHdl : Nat} {calls : DelCalls} (hlock : calls.lock = true)
    (hfail : ¬ (calls.cmdMem = true ∧ calls.ioctl = true)) {ret : Except Errno Unit}
    (h : s.delIpv4Rule ruleHdl calls = .ok (t, ret)) : t = s ∧ ∃ e, ret = .error e := by
  unfold delIpv4Rule at h
  simp only [Stuck.bind_eq_ok] at h
  obtain ⟨⟨expn, entry⟩, -, h⟩ := h
  simp only [hlock, Bool.not_true, Bool.false_eq_true, if_false] at h
  split at h
  · cases h
    exact ⟨rfl, _, rfl⟩
  split at h
  · cases h
    exact ⟨rfl, _, rfl⟩
  simp only [Stuck.bind_eq_ok] at h
  obtain ⟨pos, -, ⟨u, posted⟩, hpost, h⟩ := h
  have hposted : u = s ∧ ∃ e, posted = .error e := by
    unfold postDelDmaCmd at hpost
    split at hpost
    · cases hpost
      exact ⟨rfl, _, rfl⟩
    next hmem =>
      have hio : calls.ioctl = false := by simpa using fun hc => hfail ⟨by simpa using hmem, hc⟩
      simp only [Stuck.bind_eq_ok, hio, Bool.not_false, if_true] at hpost
      obtain ⟨rule, -, hpost⟩ := hpost
      split at hpost
      · cases hpost
        exact ⟨rfl, _, rfl⟩
      · simp only [Stuck.bind_eq_ok] at hpost
        obtain ⟨-, -, -, -, -, -, hpost⟩ := hpost
        cases hpost
        exact ⟨rfl, _, rfl⟩
  obtain ⟨rfl, e, rfl⟩ := hposted
  cases h
  exact ⟨rfl, _, rfl⟩

end Ip4TableCache
/-- Memory and the `ioctl` may fail; the mutex works. -/
def Call.Locks : Call → Prop
  | add _ _ => True
  | del _ calls => calls.lock = true ∧ calls.unlock = true

instance : (c : Call) → Decidable c.Locks
  | .add _ _ => inferInstanceAs (Decidable True)
  | .del _ _ => inferInstanceAs (Decidable (_ ∧ _))

namespace Session

open Ip4TableCache (SameTables AddApplied AddReady)

variable {s t : Session}

/-- **All or nothing**: a call that fails leaves the four tables as they were, and one that succeeds has made every write
it needs, no failure passed over. -/
def Atomic (s : Session) : Call → Prop
  | .add r calls => ∀ t ret, s.tbl.addIpv4Rule r calls = .ok (t, ret) → match ret with
    | .error _ => SameTables s.tbl t
    | .ok hdl => ∃ u rule irule entry ientry, s.tbl.generateRule r = .ok (u, .ok (rule, irule, entry, ientry)) ∧
        AddApplied s.tbl rule irule entry ientry hdl t
  | .del hdl calls => ∀ t ret, s.tbl.delIpv4Rule hdl calls = .ok (t, ret) → match ret with
    | .error _ => SameTables s.tbl t
    | .ok () => (calls.cmdMem = true ∧ calls.reorderMem = true ∧ calls.ioctl = true) ∧ ∃ ruleFirst expn entry,
        s.slotOf hdl = s.tbl.slot expn entry ∧ t = s.tbl.deleted ruleFirst expn entry hdl

/-- When a call is: an addition that finds its slots can enable the rule, link it and its index entry where there is
something to link them from, and the offset of the index link is not cut off; a deletion that goes through gets the
memory to reorder its commands. -/
def Clean (s : Session) : Call → Prop
  | .add r calls => (∃ u gen, s.tbl.generateRule r = .ok (u, .ok gen)) → calls.enable = .done ∧
      ((s.tbl.rules (s.tbl.dstSlot r)).enable = true → calls.linkRule = .done) ∧
      ((s.tbl.index (s.tbl.srcSlot r)).tblEntry ≠ 0 → calls.linkIndex = .done) ∧ ¬ s.tbl.LinkTruncated r
  | .del hdl calls => s.live hdl ≠ none → calls.cmdMem = true → calls.ioctl = true → calls.reorderMem = true

/-- What the generator found, with the state it found it in. -/
theorem IndexSound.addReady (h : s.IndexSound) {r : IpaNatIpv4Rule} {u : Ip4TableCache}
    {gen : Except Errno (NatRule × IndxTblSwRule × Nat × Nat)} (hg : s.tbl.generateRule r = .ok (u, gen)) :
    (∃ e, gen = .error e ∧ u = s.tbl) ∨ ∃ rule irule entry ientry, u = s.tbl.noteMeta ientry irule.prevIndex ∧
      gen = .ok ({ rule with indxTblEntry := ientry }, irule, entry, ientry) ∧ AddReady s.tbl r rule irule entry ientry := by
  obtain ⟨⟨hh, hne, rchain, hr⟩, ichain, hi⟩ := h
  rcases Ip4TableCache.generateRule_ok hg with herr | ⟨rule, entry, irule, ientry, rfl, he, hie, htbl, hindex, -, rfl⟩
  · exact .inl herr
  · exact .inr ⟨rule, irule, entry, ientry, rfl, rfl, hh.sized, hne, ⟨rchain, hr.toRuleLinks⟩, ⟨ichain, hi⟩, he, hie, htbl,
      hindex, Ip4TableCache.addFits hh.sized hr.toRuleLinks hi hne htbl hindex⟩

/-- There is a first free place of the handle array for the rule. -/
theorem IndexSound.place (h : s.IndexSound) {r : IpaNatIpv4Rule} {rule : NatRule} {irule : IndxTblSwRule}
    {entry ientry : Nat} (hready : AddReady s.tbl r rule irule entry ientry) :
    ∃ k, k < s.tbl.slots ∧ s.tbl.ruleIdArray k = 0 ∧ ∀ j < k, s.tbl.ruleIdArray j ≠ 0 := by
  obtain ⟨-, hen, -⟩ := hready.tbl.spec hready.sized hready.entry_ne
  have hfree : s.tbl.heldAt entry = none := by
    unfold Ip4TableCache.heldAt
    rw [if_pos hready.fits.entry_lt]
    exact NatRule.held_of_disabled hen
  obtain ⟨k, hk, hk0⟩ := h.handles.room hready.entry_ne hready.fits.entry_lt hfree
  have hex : ∃ k, s.tbl.ruleIdArray k = 0 := ⟨k, hk0⟩
  have hle : Nat.find hex ≤ k := Nat.find_min' hex hk0
  exact ⟨Nat.find hex, by omega, Nat.find_spec hex, fun j hj => Nat.find_min hex hj⟩

/-- An addition that finds no slots returns an error and changes nothing. -/
theorem add_noSlot {s : Ip4TableCache} {r : IpaNatIpv4Rule} {calls : AddCalls}
    (hnone : ¬ ∃ u gen, s.generateRule r = .ok (u, .ok gen)) {t : Ip4TableCache} {ret : Except Errno Nat}
    (h : s.addIpv4Rule r calls = .ok (t, ret)) : t = s ∧ ∃ e, ret = .error e := by
  obtain ⟨⟨u, gen⟩, hg, hrest⟩ := Stuck.bind_eq_ok.1 h
  rcases Ip4TableCache.generateRule_ok hg with ⟨e, rfl, rfl⟩ | ⟨_, _, _, _, rfl, -⟩
  · cases hrest
    exact ⟨rfl, _, rfl⟩
  · exact absurd ⟨u, _, hg⟩ hnone

/-- An addition that found its slots and can enable the rule returns a handle. -/
theorem add_returns {s : Ip4TableCache} {r : IpaNatIpv4Rule} {rule : NatRule} {irule : IndxTblSwRule} {entry ientry : Nat}
    (hready : AddReady s r rule irule entry ientry) {calls : AddCalls} (hen : calls.enable = .done)
    (hg : s.generateRule r = .ok (s.noteMeta ientry irule.prevIndex, .ok ({ rule with indxTblEntry := ientry }, irule, entry,
      ientry))) {k : Nat} (hk : k < s.slots) (hk0 : s.ruleIdArray k = 0) (hfirst : ∀ j < k, s.ruleIdArray j ≠ 0) :
    s.addIpv4Rule r calls = .ok (((s.addTables rule irule entry ientry calls).makeRuleHdl entry).1, .ok (k + 1)) := by
  have hids := AddReady.ruleIds s rule irule entry ientry calls
  have hst := AddReady.sameTable s rule irule entry ientry calls
  have hslots := hready.sized.slots_lt
  obtain ⟨hret, -⟩ := Ip4TableCache.makeRuleHdl_of_free entry (s := s.addTables rule irule entry ientry calls)
    (by rw [hst.slots]; exact hk) (by rw [hids]; exact hk0) (by rw [hids]; exact hfirst)
  rw [(hready.addIpv4Rule_eq calls hg).1 hen, hret, u16_of_lt (by omega)]
  rfl

/-- **A call is all or nothing just when it is clean.** -/
theorem IndexSound.atomic_iff (h : s.IndexSound) {c : Call} (hlocks : c.Locks) : s.Atomic c ↔ s.Clean c := by
  cases c with
  | add r calls =>
    by_cases hgen : ∃ u gen, s.tbl.generateRule r = .ok (u, .ok gen)
    · obtain ⟨u, gen, hg⟩ := hgen
      rcases h.addReady hg with ⟨e, hne, -⟩ | ⟨rule, irule, entry, ientry, rfl, hok, hready⟩
      · cases hne
      cases hok
      obtain ⟨k, hk, hk0, hfirst⟩ := h.place hready
      have happ := hready.applied_iff calls hk hk0 hfirst
      constructor
      · intro hatomic _
        by_cases hen : calls.enable = .done
        · obtain ⟨u', rule', irule', entry', ientry', hg', happ'⟩ := hatomic _ _ (add_returns hready hen hg hk hk0 hfirst)
          rw [hg] at hg'
          cases hg'
          exact ⟨hen, happ.mp happ'⟩
        · -- the index entry was free and is not taken back
          obtain ⟨t, hcall, hindex⟩ := (hready.addIpv4Rule_eq calls hg).2 hen
          have hsame : SameTables s.tbl t := hatomic _ _ hcall
          have hfree := hready.index.free hready.sized
          rw [← hsame.index, hindex, (hready.indexes calls).1] at hfree
          exact absurd hfree hready.entry_ne
      · intro hclean t ret hcall
        obtain ⟨hen, hrest⟩ := hclean ⟨_, _, hg⟩
        rw [add_returns hready hen hg hk hk0 hfirst] at hcall
        cases hcall
        exact ⟨_, _, _, _, _, hg, happ.mpr hrest⟩
    · refine ⟨fun _ hsome => absurd hsome hgen, fun _ t ret hcall => ?_⟩
      obtain ⟨rfl, e, rfl⟩ := add_noSlot hgen hcall
      exact .refl _
  | del hdl calls =>
    constructor
    · intro hatomic hlive hmem hio
      have hrel : (Call.del hdl calls).Reliable := ⟨hlocks.1, hmem, hio, hlocks.2⟩
      obtain ⟨t, hcall, hgone⟩ := h.returns hrel ⟨trivial, hlive⟩
      obtain ⟨⟨u, ret⟩, hdel, hcall⟩ := Stuck.bind_eq_ok.1 hcall
      cases ret with
      | error e =>
        cases hcall
        exact absurd (hgone hdl calls rfl) hlive
      | ok _ => exact (hatomic u _ hdel).1.2.1
    · intro hclean t ret hcall
      by_cases hsys : calls.cmdMem = true ∧ calls.ioctl = true
      · have hrel : (Call.del hdl calls).Reliable := ⟨hlocks.1, hsys.1, hsys.2, hlocks.2⟩
        rcases h.handles.delIpv4Rule hrel hcall with
          ⟨e, rfl, rfl⟩ | ⟨rfl, r, expn, entry, ruleFirst, hlive, hslot, -, rfl, -⟩
        · exact .refl _
        · exact ⟨⟨hsys.1, hclean (by rw [hlive]; exact Option.some_ne_none _) hsys.1 hsys.2, hsys.2⟩, ruleFirst, expn, entry,
            hslot, rfl⟩
      · obtain ⟨rfl, e, rfl⟩ := Ip4TableCache.delIpv4Rule_fails hlocks.1 hsys hcall
        exact .refl _

/-- A call with any outcome of its memory and `ioctl`s that is clean, and adds no rule with the protocol of a dead head. -/
def CleanStep (s : Session) (c : Call) (t : Session) : Prop :=
  c.Locks ∧ c.Valid ∧ s.Clean c ∧ s.call c = .ok t

/-- A clean call does what the same call does when nothing fails, or nothing. -/
theorem IndexSound.cleanStep (h : s.IndexSound) {c : Call} (hstep : CleanStep s c t) : t.IndexSound := by
  obtain ⟨hlocks, hvalid, hclean, hcall⟩ := hstep
  cases c with
  | add r calls =>
    by_cases hgen : ∃ u gen, s.tbl.generateRule r = .ok (u, .ok gen)
    · obtain ⟨hen, hrule, hindex, hcut⟩ := hclean hgen
      obtain ⟨u, gen, hg⟩ := hgen
      rcases h.addReady hg with ⟨e, hne, -⟩ | ⟨rule, irule, entry, ientry, rfl, hok, hready⟩
      · cases hne
      cases hok
      obtain ⟨k, hk, hk0, hfirst⟩ := h.place hready
      have hsame : s.tbl.addIpv4Rule r calls = s.tbl.addIpv4Rule r {} := by
        have hall : (AddCalls.mk .done .done .done).enable = .done := rfl
        rw [add_returns hready hen hg hk hk0 hfirst, add_returns hready hall hg hk hk0 hfirst,
          hready.tables_eq calls hrule hindex]
      have hcall' : s.call (.add r {}) = .ok t := by
        rw [← hcall]
        show (s.tbl.addIpv4Rule r {} >>= _) = s.tbl.addIpv4Rule r calls >>= _
        rw [hsame]
      have hstep : Step AdmitsLive s (.add r {}) t := ⟨rfl, ⟨hvalid, trivial⟩, hcall'⟩
      exact h.step hstep hcut
    · obtain ⟨⟨u, ret⟩, hadd, hcall⟩ := Stuck.bind_eq_ok.1 hcall
      obtain ⟨rfl, e, rfl⟩ := add_noSlot hgen hadd
      cases hcall
      exact h
  | del hdl calls =>
    obtain ⟨⟨u, ret⟩, hdel, hcall'⟩ := Stuck.bind_eq_ok.1 hcall
    by_cases hsys : calls.cmdMem = true ∧ calls.ioctl = true
    · have hrel : (Call.del hdl calls).Reliable := ⟨hlocks.1, hsys.1, hsys.2, hlocks.2⟩
      rcases h.handles.delIpv4Rule hrel hdel with ⟨e, rfl, rfl⟩ | ⟨-, r, -, -, -, hlive, -⟩
      · cases hcall'
        exact h
      · exact h.step ⟨hrel, ⟨trivial, by rw [Holds, hlive]; exact Option.some_ne_none _⟩, hcall⟩ trivial
    · obtain ⟨rfl, e, rfl⟩ := Ip4TableCache.delIpv4Rule_fails hlocks.1 hsys hdel
      cases hcall'
      exact h

/-- **Atomic calls.** In every run of clean calls on a table with a base table, whatever fails in them, the next call is
all or nothing just when it is clean. -/
theorem calls_atomic {pub : BitVec 32} {n : BitVec 16} {tbl : Ip4TableCache} (hnew : natiAddIpv4Tbl pub n 0 = some tbl)
    (hn : n.toNat ≤ 40961) {cs : List Call} {s : Session} (hrun : Run CleanStep (fresh tbl) cs s) {c : Call}
    (hlocks : c.Locks) : s.Atomic c ↔ s.Clean c :=
  (hrun.invariant IndexSound (fun _ _ _ hstep hs => hs.cleanStep hstep) (fresh_indexSound hnew hn)).atomic_iff hlocks

/-- One rule in the table. -/
def sampleOne : Session := (fresh sampleTbl).after [.add (sampleRule 1 6) {}]

theorem sampleOne_run : Run CleanStep (fresh sampleTbl) [.add (sampleRule 1 6) {}] sampleOne := by
  have hrel : (Call.add (sampleRule 1 6) {}).Reliable := rfl
  obtain ⟨t, hcall, -⟩ := (fresh_indexSound sampleTbl_new (by decide)).returns hrel ⟨by decide, trivial⟩
  have ht : sampleOne = t := by
    unfold sampleOne after
    rw [hcall]
    rfl
  rw [ht]
  exact .cons ⟨trivial, by decide, fun _ => ⟨rfl, fun _ => rfl, fun _ => rfl, by decide⟩, hcall⟩ (.nil t)

theorem sampleOne_sound : sampleOne.IndexSound :=
  sampleOne_run.invariant IndexSound (fun _ _ _ hstep hs => hs.cleanStep hstep) (fresh_indexSound sampleTbl_new (by decide))

/-- A rule of another base slot goes in without a link, so a link that could not be posted is not missed. -/
theorem calls_atomic_sample : sampleOne.Atomic (.add ⟨4, 2, 0, 5000, 6, 6⟩ { linkRule := .ioError }) := by
  have hlocks : (Call.add ⟨4, 2, 0, 5000, 6, 6⟩ { linkRule := .ioError }).Locks := trivial
  refine (calls_atomic sampleTbl_new (by decide) sampleOne_run hlocks).mpr fun _ => ⟨rfl, fun hen => ?_, fun _ => rfl, by decide +kernel⟩
  exact absurd hen (by decide +kernel)

/-- With one rule in the table a second of the same base slot is added: it is on no chain when its link is not posted,
and success is returned; it stays in the tables when it is not enabled, and an error is returned. A deletion goes
through without the memory of `ReorderCmds`. -/
theorem not_calls_atomic :
    Run CleanStep (fresh sampleTbl) [.add (sampleRule 1 6) {}] sampleOne ∧
      ¬ sampleOne.Atomic (.add (sampleRule 2 6) { linkRule := .ioError }) ∧
      ¬ sampleOne.Atomic (.add (sampleRule 2 6) { enable := .ioError }) ∧ ¬ sampleOne.Atomic (.del 1 { reorderMem := false }) := by
  have hadd : ∀ calls, sampleOne.Atomic (.add (sampleRule 2 6) calls) → sampleOne.Clean (.add (sampleRule 2 6) calls) :=
    fun calls => (sampleOne_sound.atomic_iff (c := .add (sampleRule 2 6) calls) trivial).mp
  have hdel : ∀ calls : DelCalls, calls.lock = true ∧ calls.unlock = true → sampleOne.Atomic (.del 1 calls) →
      sampleOne.Clean (.del 1 calls) :=
    fun calls hc => (sampleOne_sound.atomic_iff (c := .del 1 calls) hc).mp
  have hgen : ∃ u gen, sampleOne.tbl.generateRule (sampleRule 2 6) = .ok (u, .ok gen) := by
    have hok : (match sampleOne.tbl.generateRule (sampleRule 2 6) with
      | .ok (_, .ok _) => true
      | _ => false) = true := by decide +kernel
    split at hok
    next u gen hg => exact ⟨u, gen, hg⟩
    · cases hok
  refine ⟨sampleOne_run, fun h => ?_, fun h => ?_, fun h => ?_⟩
  · have hlink := (hadd _ h hgen).2.1 (by decide +kernel)
    cases hlink
  · have hen := (hadd _ h hgen).1
    cases hen
  · have hmem := hdel _ ⟨rfl, rfl⟩ h (by decide +kernel) rfl rfl
    cases hmem

end Session
end HiaeCommon
