/-
Calls return. Where the chains of both tables are sound the walks of the
generators end, and no call reads or writes a slot the table does not have.
-/
import HiaeCommon.Ipanat.NatChainRuns

namespace HiaeCommon

open Function (update)
open Lib (Linked lastFrom Chains Run)

namespace Ip4TableCache

variable {s t : Ip4TableCache} {chain : Nat → List Nat}

/-! ## Adding a rule -/

/-- **The slot for a rule**: its base slot, or a free one behind the end of its chain. -/
theorem RuleLinks.generateTblRule_eq (h : s.RuleLinks chain) (hs : s.Sized) (hne : s.tableEntries ≠ 0)
    (r : IpaNatIpv4Rule) : s.generateTblRule r = .ok (
      if (s.rules (s.dstSlot r)).enable = false then (s.swRule r, s.dstSlot r)
      else ({ s.swRule r with prevIndex := lastFrom (s.dstSlot r) (chain (s.dstSlot r)) },
        if s.expnTblFreeEntry = 0 then 0 else u16 (s.expnTblFreeEntry + s.tableEntries))) := by
  obtain ⟨-, hb⟩ := hs.dstSlot_range hne r
  have hlt : s.dstSlot r < s.slots := by
    unfold slots
    omega
  unfold generateTblRule ruleAt
  simp only [if_pos hlt, Stuck.ok_bind]
  cases hen : (s.rules (s.dstSlot r)).enable with
  | false => rfl
  | true =>
    simp only [h.chainEnd_eq hs hb, Stuck.ok_bind]
    by_cases h0 : s.expnTblFreeEntry = 0 <;> simp [h0, ipaNatInvalidNatEntry]

/-- **The slot for an index entry**, likewise. -/
theorem IndexInv.generateIndexRule_eq (h : s.IndexInv chain) (hs : s.Sized) (hne : s.tableEntries ≠ 0)
    (r : IpaNatIpv4Rule) (entry : Nat) : s.generateIndexRule r { tblEntry := entry } = .ok (
      if (s.index (s.srcSlot r)).tblEntry = 0 then ({ tblEntry := entry }, s.srcSlot r)
      else ({ tblEntry := entry, prevIndex := lastFrom (s.srcSlot r) (chain (s.srcSlot r)) },
        if s.indexExpnGetFreeEntry = 0 then 0 else u16 (s.indexExpnGetFreeEntry + s.tableEntries))) := by
  obtain ⟨-, hb⟩ := hs.srcSlot_range hne r
  have hslots := hs.slots_lt
  have hlt : s.srcSlot r < s.slots := by
    unfold slots
    omega
  unfold generateIndexRule indexAt
  simp only [if_pos hlt, Stuck.ok_bind]
  by_cases h0 : (s.index (s.srcSlot r)).tblEntry = 0
  · rw [if_pos h0, if_pos h0]
    rfl
  rw [if_neg h0, if_neg h0, h.chainEnd_eq hs hb, Stuck.ok_bind]
  by_cases hf : s.indexExpnGetFreeEntry = 0
  · simp [hf, ipaNatInvalidNatEntry]
  -- the end of a chain is not a free slot
  obtain ⟨hflt, hfen⟩ := indexExpnGetFreeEntry_spec hf
  unfold slots at hslots
  have hprev : lastFrom (s.srcSlot r) (chain (s.srcSlot r)) ≠ u16 (s.indexExpnGetFreeEntry + s.tableEntries) := by
    rw [u16_of_lt (by omega)]
    intro heq
    rcases List.mem_cons.1 (Lib.lastFrom_mem (s.srcSlot r) (chain (s.srcSlot r))) with hm | hm
    · omega
    · rw [heq, Nat.add_comm] at hm
      exact (h.mem_used hb hm).2.2 hfen
  simp [hf, hprev, ipaNatInvalidNatEntry]

/-- The slots found are slots of the table. -/
theorem addFits (hs : s.Sized) {rchain : Nat → List Nat} (hr : s.RuleLinks rchain) (h : s.IndexInv chain)
    (hne : s.tableEntries ≠ 0) {r : IpaNatIpv4Rule} {rule : NatRule} {entry : Nat} {irule : IndxTblSwRule} {ientry : Nat}
    (htbl : TblPlace s r rule entry) (hindex : IndexPlace s r entry irule ientry) :
    AddFits s rule irule entry ientry := by
  obtain ⟨-, hd⟩ := hs.dstSlot_range hne r
  obtain ⟨-, hb⟩ := hs.srcSlot_range hne r
  have hslots := hs.slots_lt
  have hslots' : s.slots = s.tableEntries + s.expnTableEntries := rfl
  have hrule : entry < s.slots ∧ (rule.prevIndex = 0 ∨ s.linkSlot rule.prevIndex < s.slots) := by
    cases htbl with
    | base hlt _ => exact ⟨hlt, .inl rfl⟩
    | @expn prev hlt _ hend hfree =>
      obtain ⟨hflt, -⟩ := expnTblFreeEntry_spec hfree
      rw [hr.chainEnd_eq hs hd, Except.ok.injEq, Option.some.injEq] at hend
      have hprev : prev < s.slots := by
        rcases List.mem_cons.1 (hend ▸ Lib.lastFrom_mem (s.dstSlot r) (rchain (s.dstSlot r)) :
          prev ∈ s.dstSlot r :: rchain (s.dstSlot r)) with hm | hm
        · omega
        · exact (hr.mem_used hd hm).2.1
      rw [u16_of_lt (by omega), linkSlot_eq (show prev < 2 ^ 16 by omega)]
      exact ⟨by omega, .inr hprev⟩
  have hentry : ientry < s.slots ∧ (irule.prevIndex = 0 ∨ s.indexLinkSlot irule.prevIndex < s.slots) := by
    cases hindex with
    | base hlt _ => exact ⟨hlt, .inl rfl⟩
    | @expn prev hlt _ hend hfree _ =>
      obtain ⟨hflt, -⟩ := indexExpnGetFreeEntry_spec hfree
      rw [h.chainEnd_eq hs hb, Except.ok.injEq, Option.some.injEq] at hend
      have hprev : prev < s.slots := by
        rcases List.mem_cons.1 (hend ▸ Lib.lastFrom_mem (s.srcSlot r) (chain (s.srcSlot r)) :
          prev ∈ s.srcSlot r :: chain (s.srcSlot r)) with hm | hm
        · omega
        · exact (h.mem_used hb hm).2.1
      rw [u16_of_lt (by omega)]
      refine ⟨by omega, .inr ?_⟩
      show s.indexLinkSlot prev < s.slots
      unfold indexLinkSlot
      split
      · omega
      · rw [sub16_of_le (by omega) (by omega)]
        omega
  exact ⟨hrule.1, hrule.2, hentry.1, hentry.2⟩

/-- **An addition returns.** -/
theorem addIpv4Rule_returns (hs : s.Sized) {rchain : Nat → List Nat} (hr : s.RuleLinks rchain) (h : s.IndexInv chain)
    (hne : s.tableEntries ≠ 0) (r : IpaNatIpv4Rule) : ∃ x, s.addIpv4Rule r {} = .ok x := by
  have hnone : ∀ e, s.generateRule r = .ok (s, .error e) → ∃ x, s.addIpv4Rule r {} = .ok x := by
    intro e hg
    refine ⟨(s, .error .einval), ?_⟩
    unfold addIpv4Rule
    rw [hg]
    rfl
  obtain ⟨rule, entry, htbl⟩ : ∃ rule entry, s.generateTblRule r = .ok (rule, entry) :=
    ⟨_, _, hr.generateTblRule_eq hs hne r⟩
  by_cases he : entry = 0
  · refine hnone .einval ?_
    simp [generateRule, htbl, he, ipaNatInvalidNatEntry]
  obtain ⟨irule, ientry, hindex⟩ : ∃ irule ientry, s.generateIndexRule r { tblEntry := entry } = .ok (irule, ientry) :=
    ⟨_, _, h.generateIndexRule_eq hs hne r entry⟩
  by_cases hie : ientry = 0
  · refine hnone .einval ?_
    simp [generateRule, htbl, hindex, he, hie, ipaNatInvalidNatEntry]
  have hfits := addFits hs hr h hne (generateTblRule_ok htbl he) (generateIndexRule_ok hindex hie)
  have hnote : s.notePrevIndex ientry irule.prevIndex = .ok (s.noteMeta ientry irule.prevIndex) := by
    unfold notePrevIndex noteMeta writeMeta
    by_cases hge : ientry ≥ s.tableEntries
    · have hslots := hs.slots_lt
      have hlt := hfits.ientry_lt
      unfold slots at hlt hslots
      rw [if_pos hge, if_pos hge, sub16_of_le hge (by omega), if_pos (by omega)]
    · rw [if_neg hge, if_neg hge]
  have hg : s.generateRule r = .ok (s.noteMeta ientry irule.prevIndex,
      .ok ({ rule with indxTblEntry := ientry }, irule, entry, ientry)) := by
    simp [generateRule, htbl, hindex, hnote, he, hie, ipaNatInvalidNatEntry]
  exact ⟨_, (addIpv4Rule_of_generate hs hg (.noteMeta ..)).1 ⟨hfits.1, hfits.2, hfits.3, hfits.4⟩⟩

/-! ## Deleting a rule -/

/-- The slot a rule in the expansion table is linked from. -/
theorem RuleLinks.prev_lt (h : s.RuleLinks chain) {x : Nat} (hx : s.ExpnUsed x) :
    (s.rules x).prevIndex < s.slots ∧ (s.rules x).prevIndex ≠ x ∧
      ((s.rules x).nextIndex ≠ 0 → s.ExpnUsed (s.rules x).nextIndex) := by
  obtain ⟨b, hb, hmem⟩ := h.chains.mem_of_used x hx
  obtain ⟨l, r, hc⟩ := List.append_of_mem hmem
  obtain ⟨hne, hpm⟩ := h.chains.before hb hc
  rw [h.chains.prev_eq hb hc]
  refine ⟨?_, hne, fun h0 => h.mem_used hb (h.chains.behind hb hc h0).1⟩
  rcases List.mem_cons.1 hpm with heq | hm
  · rw [heq]
    unfold slots
    omega
  · exact (h.mem_used hb hm).2.1

/-- The slot an index entry in the expansion table is linked from. -/
theorem IndexInv.prev_lt (h : s.IndexInv chain) {y : Nat} (hy : s.IndexUsed y) :
    s.indexExpnTableMeta (y - s.tableEntries) < s.slots ∧ s.indexExpnTableMeta (y - s.tableEntries) ≠ y ∧
      ((s.index y).nextIndex ≠ 0 → s.IndexUsed (s.index y).nextIndex) := by
  obtain ⟨b, hb, hmem⟩ := h.chains.mem_of_used y hy
  obtain ⟨l, r, hc⟩ := List.append_of_mem hmem
  obtain ⟨hne, hpm⟩ := h.chains.before hb hc
  have hprev : s.indexExpnTableMeta (y - s.tableEntries) = lastFrom b l := h.chains.prev_eq hb hc
  rw [hprev]
  refine ⟨?_, hne, fun h0 => h.mem_used hb (h.chains.behind hb hc h0).1⟩
  rcases List.mem_cons.1 hpm with heq | hm
  · rw [heq]
    unfold slots
    omega
  · exact (h.mem_used hb hm).2.1

/-- The entry behind a base entry. -/
theorem IndexInv.next_used (h : s.IndexInv chain) {b : Nat} (hb : b < s.tableEntries) (h0 : (s.index b).nextIndex ≠ 0) :
    s.IndexUsed (s.index b).nextIndex :=
  h.mem_used hb (((h.chains.linked b hb).next_mem b (by simp)).resolve_left h0)

/-- The index side of a deletion stays in the table, whatever the rule side does. -/
theorem IndexInv.dropIndexFits (h : s.IndexInv chain) (hs : s.Sized) {x : Nat} (hx : s.heldAt x ≠ none)
    {u : Ip4TableCache} (hu : SameTable s u)
    (hindex : u.index = (s.delIndexWrite (s.refs x) (s.indexPos (s.refs x)) s).index) :
    s.DelIndexFits (s.refs x) (s.indexPos (s.refs x)) ∧
      u.DropIndexFits (s.refs x) (s.movedUp (s.refs x) (s.indexPos (s.refs x))) (s.indexPos (s.refs x)) := by
  obtain ⟨c, hcx⟩ := Option.ne_none_iff_exists'.1 hx
  obtain ⟨hx0, hilt, hient⟩ := h.entry x c hcx
  have hslots := hs.slots_lt
  have hslots' : s.slots = s.tableEntries + s.expnTableEntries := rfl
  have hi : s.linkSlot (s.refs x) = s.refs x := linkSlot_eq (by omega)
  have hiu : u.linkSlot (s.refs x) = s.refs x := (hu.linkSlot _).trans hi
  by_cases hge : s.tableEntries ≤ s.refs x
  · -- an entry of the expansion table
    have hused : s.IndexUsed (s.refs x) := ⟨hge, hilt, by rw [hient]; exact hx0⟩
    obtain ⟨hplt, hpne, hnext⟩ := h.prev_lt hused
    have hsub : sub16 (s.refs x) s.tableEntries = s.refs x - s.tableEntries := sub16_of_le hge (by omega)
    have hp : s.linkSlot (s.indexExpnTableMeta (s.refs x - s.tableEntries)) =
        s.indexExpnTableMeta (s.refs x - s.tableEntries) := linkSlot_eq (by omega)
    by_cases h0 : (s.index (s.refs x)).nextIndex = 0
    · have hpos : s.indexPos (s.refs x) = .last := by
        simp [indexPos, hi, h0, chainPos, hge]
      rw [hpos]
      refine ⟨⟨by omega, by rw [hsub, hp]; exact hplt⟩, ?_⟩
      unfold DropIndexFits
      rw [if_neg (by decide), hiu, hu.slots]
      exact ⟨fun hm => absurd hm (by decide), hilt⟩
    · obtain ⟨hnge, hnlt, -⟩ := hnext h0
      have hpos : s.indexPos (s.refs x) = .middle := by
        simp [indexPos, hi, h0, chainPos, hge]
      rw [hpos] at hindex ⊢
      refine ⟨⟨by omega, by rw [hsub, hp]; exact hplt⟩, ?_⟩
      unfold DropIndexFits MoveMetaFits
      have hcur : u.index (s.refs x) = s.index (s.refs x) := by
        rw [hindex]
        simp only [delIndexWrite, hsub, hp, index_setIndex]
        exact Function.update_of_ne hpne.symm ..
      rw [if_neg (by decide), hiu, hu.slots, hu.tableEntries, hu.expnTableEntries, hsub,
        show s.tableEntries + (s.refs x - s.tableEntries) = s.refs x by omega, hcur, if_pos hnge,
        sub16_of_le hnge (by omega)]
      exact ⟨fun _ => ⟨hilt, by omega, by omega⟩, hilt⟩
  · by_cases h0 : (s.index (s.refs x)).nextIndex = 0
    · have hpos : s.indexPos (s.refs x) = .onlyOne := by
        simp [indexPos, hi, h0, chainPos, hge]
      rw [hpos]
      refine ⟨trivial, ?_⟩
      unfold DropIndexFits
      rw [if_neg (by decide), hiu, hu.slots]
      exact ⟨fun hm => absurd hm (by decide), hilt⟩
    · -- the head: the entry behind it, and the one behind that
      obtain ⟨hnge, hnlt, hn0⟩ := h.next_used (by omega) h0
      obtain ⟨-, -, hnext⟩ := h.prev_lt ⟨hnge, hnlt, hn0⟩
      obtain ⟨d, hd, -⟩ := h.points _ hnlt hn0
      have hdlt := (heldAt_eq_some.1 hd).1
      have hpos : s.indexPos (s.refs x) = .head := by
        simp [indexPos, hi, h0, chainPos, hge]
      have hsub : sub16 (s.index (s.refs x)).nextIndex s.tableEntries = (s.index (s.refs x)).nextIndex - s.tableEntries :=
        sub16_of_le hnge (by omega)
      have hadd : s.tableEntries + ((s.index (s.refs x)).nextIndex - s.tableEntries) = (s.index (s.refs x)).nextIndex := by
        omega
      have hnx : s.refs x ≠ (s.index (s.refs x)).nextIndex := by omega
      rw [hpos] at hindex ⊢
      refine ⟨show _ < s.slots by rw [hsub, hadd]; exact hnlt, ?_⟩
      have hun : u.index (s.index (s.refs x)).nextIndex = s.index (s.index (s.refs x)).nextIndex := by
        rw [hindex]
        simp only [delIndexWrite, index_setIndex]
        rw [Function.update_of_ne hnx.symm, Function.update_of_ne hnx.symm]
      have hd16 : (s.index (s.index (s.refs x)).nextIndex).tblEntry < 2 ^ 16 := by omega
      have hui : (u.index (s.refs x)).tblEntry = (s.index (s.index (s.refs x)).nextIndex).tblEntry := by
        rw [hindex]
        simp [delIndexWrite, hsub, hadd, IndxTblRule.point, IndxTblRule.link, u16_of_lt hd16]
      unfold DropIndexFits DropMovedUpFits movedUp
      rw [if_pos rfl, if_pos rfl, hsub, hu.slots, hu.tableEntries, hu.expnTableEntries, hadd, hun,
        Function.update_of_ne hnx, hui, hu.linkSlot, linkSlot_eq hd16]
      refine ⟨hnlt, ?_, hilt, hdlt⟩
      intro hm
      have hmu := (hnext hm.1).2.1
      rw [sub16_of_le hm.2 (by omega)]
      omega

/-- **A deletion stays in the table.** -/
theorem delFits (hs : s.Sized) {rchain : Nat → List Nat} (hr : s.RuleLinks rchain) (h : s.IndexInv chain) {expn : Bool}
    {entry : Nat} (hbase : expn = false → entry < s.tableEntries) (hlt : s.slot expn entry < s.slots)
    (hx : s.heldAt (s.slot expn entry) ≠ none) : s.DelFits expn entry := by
  obtain ⟨c, hcx⟩ := Option.ne_none_iff_exists'.1 hx
  obtain ⟨-, hheld⟩ := heldAt_eq_some.1 hcx
  obtain ⟨hen, -, -⟩ := NatRule.held_eq_some.1 hheld
  obtain ⟨-, hilt, -⟩ := h.entry _ c hcx
  have hslots := hs.slots_lt
  have hused : expn = true → s.ExpnUsed (s.slot expn entry) := by
    rintro rfl
    exact ⟨by simp [slot], hlt, hen⟩
  have hmid : s.rulePos expn (s.slot expn entry) = .middle ∨ s.rulePos expn (s.slot expn entry) = .last →
      expn = true := by
    unfold rulePos
    cases expn with
    | true => exact fun _ => rfl
    | false => cases hn : decide ((s.rules (s.slot false entry)).nextIndex = 0) <;> simp [chainPos, hn]
  have hlink : ∀ y, y < s.slots → s.linkSlot y = y := fun y hy => linkSlot_eq (by omega)
  have hfits := fun u hu hindex => h.dropIndexFits hs hx (u := u) hu hindex
  refine ⟨hbase, hlt, ?_, ?_, fun _ => hilt, (hfits _ (.delIndexWrite ..) rfl).1, ?_⟩
  · cases hpos : s.rulePos expn (s.slot expn entry) with
    | onlyOne => exact hlt
    | head => exact hlt
    | middle =>
      have hp := (hr.prev_lt (hused (hmid (.inl hpos)))).1
      show s.linkSlot _ < s.slots
      rw [hlink _ hp]
      exact hp
    | last =>
      have hp := (hr.prev_lt (hused (hmid (.inr hpos)))).1
      show s.linkSlot _ < s.slots
      rw [hlink _ hp]
      exact hp
  · rw [show (s.rules (s.slot expn entry)).indxTblEntry = s.refs (s.slot expn entry) from rfl, hlink _ hilt]
    exact hilt
  · intro ruleFirst u hu
    have hst : SameTable s u := hu ▸ .delDma ..
    constructor
    · intro hpos
      obtain ⟨hp, hpne, hnext⟩ := hr.prev_lt (hused (hmid (.inl hpos)))
      have hne : (s.rules (s.slot expn entry)).nextIndex ≠ 0 := by
        intro h0
        rw [rulePos, h0] at hpos
        cases expn <;> simp [chainPos] at hpos
      obtain ⟨hnge, hnlt, -⟩ := hnext hne
      have hcur : u.rules (s.slot expn entry) = s.rules (s.slot expn entry) := by
        rw [hu, rules_delDma, hpos]
        show update s.rules (s.linkSlot _) _ _ = _
        rw [hlink _ hp]
        exact Function.update_of_ne hpne.symm ..
      rw [hcur]
      unfold expnSlot
      rw [hst.tableEntries, sub16_of_le hnge (by omega)]
      omega
    · have hst' := (hst.trans (.movePrev u (s.slot expn entry) (s.rulePos expn (s.slot expn entry)))).trans (.clearRule _
        (s.slot expn entry) (s.rulePos expn (s.slot expn entry)))
      refine (hfits _ hst' ?_).2
      rw [(index_clearRule ..).1, hu]
      exact (index_delDma ..).1

end Ip4TableCache

/-- **Calls return.** With both tables chained, an addition or the deletion of
a live rule never leaves the table and never runs on, and the deletion succeeds. -/
theorem Session.IndexSound.returns {s : Session} (h : s.IndexSound) {c : Call} (hrel : c.Reliable)
    (hadm : s.AdmitsLive c) : ∃ t, s.call c = .ok t ∧ ∀ hdl calls, c = .del hdl calls → t.live hdl = none := by
  obtain ⟨⟨hh, hne, rchain, hr⟩, ichain, hi⟩ := h
  cases c with
  | add r calls =>
    obtain rfl : calls = {} := hrel
    obtain ⟨⟨u, ret⟩, hret⟩ := Ip4TableCache.addIpv4Rule_returns hh.sized hr.toRuleLinks hi hne r
    have hcall : ∃ t, s.call (.add r {}) = .ok t := by
      show ∃ t, (s.tbl.addIpv4Rule r {} >>= _) = .ok t
      rw [hret]
      cases ret with
      | ok hdl => exact ⟨_, rfl⟩
      | error e => exact ⟨_, rfl⟩
    obtain ⟨t, ht⟩ := hcall
    exact ⟨t, ht, fun _ _ hc => by cases hc⟩
  | del hdl calls =>
    obtain ⟨r, hl⟩ := Option.ne_none_iff_exists'.1 hadm.2
    obtain ⟨h0, hlt⟩ := hh.range hdl r hl
    have hheld := hh.held hl
    have hid := hh.ruleId hdl r hl
    have hslots := hh.sized.slots_lt
    obtain ⟨x, hx⟩ : ∃ x, x = s.tbl.idSlot (s.tbl.ruleIdArray (hdl - 1)) := ⟨_, rfl⟩
    rw [← hx] at hheld hid
    obtain ⟨hxlt, hxheld⟩ := Ip4TableCache.heldAt_eq_some.1 hheld
    have hxne := hh.entry x r hheld
    obtain ⟨hexpn, hentry⟩ := Ip4TableCache.ruleId_entry hh.sized hxlt
    obtain ⟨expn, hexpn'⟩ : ∃ expn, expn = decide (s.tbl.tableEntries ≤ x) := ⟨_, rfl⟩
    obtain ⟨entry, hentry'⟩ : ∃ entry, entry = if s.tbl.tableEntries ≤ x then x - s.tbl.tableEntries else x := ⟨_, rfl⟩
    have hslot : s.tbl.slot expn entry = x := by
      rw [hexpn', hentry', ← hexpn, ← hentry, ← hid]
      exact hx.symm
    have hparse : s.tbl.parseIpv4RuleHdl (u16 hdl) = .ok (expn, entry) := by
      rw [u16_of_lt (by omega)]
      unfold Ip4TableCache.parseIpv4RuleHdl Ip4TableCache.ruleIdAt
      rw [if_neg (by omega), if_neg h0, if_pos (by omega), Stuck.ok_bind, hid, hexpn, hentry, hexpn', hentry']
      rfl
    have he : entry ≠ 0 := by
      rw [hentry']
      split <;> omega
    have hbase : expn = false → entry < s.tbl.tableEntries := by
      intro hf
      rw [hexpn', decide_eq_false_iff_not] at hf
      rw [hentry', if_neg hf]
      omega
    have hfits := Ip4TableCache.delFits hh.sized hr.toRuleLinks hi hbase (hslot ▸ hxlt) (by rw [hslot, hheld]; simp)
    obtain ⟨ruleFirst, hdel⟩ := Ip4TableCache.delIpv4Rule_of_fits hh.sized hrel hparse he (by omega) hfits
      (by rw [hslot]; exact (NatRule.held_eq_some.1 hxheld).1)
    refine ⟨⟨s.tbl.deleted ruleFirst expn entry hdl, update s.live hdl none⟩, ?_, ?_⟩
    · show (s.tbl.delIpv4Rule hdl calls >>= _) = _
      rw [hdel]
      rfl
    · intro hdl' calls' hc
      cases hc
      exact Function.update_self ..

end HiaeCommon
