/-
The chains of the index table and the cross links. An index entry names the
slot of its rule, and `indx_tbl_entry` of the rule names the index entry back;
the head of a chain that is deleted takes over the entry behind it, and the
rule of that entry has to follow.
-/
import HiaeCommon.Ipanat.NatRuleChains

namespace HiaeCommon

open Function (update)
open Lib (Linked BackLinked lastFrom Chains)

namespace Ip4TableCache

variable {s t : Ip4TableCache} {chain : Nat → List Nat}

/-! ## Cross references -/

/-- `indx_tbl_entry` of the record in each slot. -/
def refs (s : Ip4TableCache) (x : Nat) : Nat := (s.rules x).indxTblEntry

theorem refs_setRule (s : Ip4TableCache) (i : Nat) (r : NatRule) :
    (s.setRule i r).refs = update s.refs i r.indxTblEntry := by
  funext x
  by_cases hx : x = i
  · subst hx
    simp [refs]
  · simp [refs, hx]

theorem refs_setRule_same (s : Ip4TableCache) (i : Nat) (r : NatRule) (h : r.indxTblEntry = (s.rules i).indxTblEntry) :
    (s.setRule i r).refs = s.refs := by
  rw [refs_setRule, h]
  exact Function.update_eq_self i s.refs

@[simp] theorem refs_setIndex (s : Ip4TableCache) (i : Nat) (e : IndxTblRule) : (s.setIndex i e).refs = s.refs := rfl

theorem refs_congr (h : t.rules = s.rules) : t.refs = s.refs := by
  unfold refs
  rw [h]

theorem refs_linkRule (s : Ip4TableCache) (prev entry : Nat) : (s.linkRule prev entry).refs = s.refs := by
  unfold linkRule
  split
  · rfl
  · exact refs_setRule_same _ _ _ rfl

theorem refs_linkIndex (s : Ip4TableCache) (prev entry : Nat) : (s.linkIndex prev entry).refs = s.refs := by
  unfold linkIndex
  split <;> rfl

theorem refs_noteMeta (s : Ip4TableCache) (ientry prev : Nat) : (s.noteMeta ientry prev).refs = s.refs := by
  unfold noteMeta
  split <;> rfl

theorem refs_added (s : Ip4TableCache) (rule : NatRule) (irule : IndxTblSwRule) (entry ientry : Nat) :
    (s.added rule irule entry ientry).1.refs = update s.refs entry ientry := by
  have hen : ∀ (u : Ip4TableCache) x, (u.setRule x (u.rules x).enabled).refs = u.refs :=
    fun u x => refs_setRule_same _ _ _ rfl
  unfold added
  rw [refs_congr (rules_makeRuleHdl ..)]
  unfold written addWrites
  simp only [hen, refs_linkIndex, refs_setIndex, refs_linkRule, refs_setRule, refs_noteMeta]

/-! ## The links -/

/-- A slot of the index expansion table with an entry in it. -/
def IndexUsed (s : Ip4TableCache) (y : Nat) : Prop :=
  s.tableEntries ≤ y ∧ y < s.slots ∧ (s.index y).tblEntry ≠ 0

/-- **The chains of the index table, and the cross links.** -/
structure IndexInv (s : Ip4TableCache) (chain : Nat → List Nat) : Prop where
  chains : Chains 0 (· < s.tableEntries) s.IndexUsed (fun y => (s.index y).nextIndex)
    (fun y => s.indexExpnTableMeta (y - s.tableEntries)) chain
  free : ∀ b < s.tableEntries, (s.index b).tblEntry = 0 → chain b = []
  points : ∀ y < s.slots, (s.index y).tblEntry ≠ 0 → ∃ r, s.heldAt (s.index y).tblEntry = some r ∧
    s.refs (s.index y).tblEntry = y ∧ s.srcSlot r < s.tableEntries ∧ y ∈ s.srcSlot r :: chain (s.srcSlot r)
  entry : ∀ x r, s.heldAt x = some r → x ≠ 0 ∧ s.refs x < s.slots ∧ (s.index (s.refs x)).tblEntry = x

theorem readIndexNext_expn (hs : s.Sized) {y : Nat} (hge : s.tableEntries ≤ y) (hlt : y < s.slots) :
    s.readIndexNext (sub16 y s.tableEntries) = .ok (s.index y).nextIndex := by
  unfold readIndexNext indexAt
  rw [sub16_expn hs hge hlt, if_pos hlt]
  rfl

namespace IndexInv

theorem mem_used (h : s.IndexInv chain) {b y : Nat} (hb : b < s.tableEntries) (hy : y ∈ chain b) : s.IndexUsed y :=
  (h.chains.used_of_mem b hb y hy).1

theorem chainEnd_eq (h : s.IndexInv chain) (hs : s.Sized) {b : Nat} (hb : b < s.tableEntries) :
    s.chainEnd s.readIndexNext b (s.index b).nextIndex = .ok (some (lastFrom b (chain b))) := by
  refine chainEnd_linked hs (fun y => (s.index y).nextIndex) (h.chains.linked b hb) ?_ ?_
  · intro y hy
    exact (h.mem_used hb hy).2.1
  · intro y hy
    have hu := h.mem_used hb hy
    exact readIndexNext_expn hs hu.1 hu.2.1

/-- The base slot an entry hangs on is the hash of its rule. -/
theorem base_eq (h : s.IndexInv chain) {b y : Nat} {r : IpaNatIpv4Rule} (hb : b < s.tableEntries) (hy : y ∈ chain b)
    (hr : s.srcSlot r < s.tableEntries) (hm : y ∈ s.srcSlot r :: chain (s.srcSlot r)) : s.srcSlot r = b := by
  obtain ⟨-, hny⟩ := h.chains.used_of_mem b hb y hy
  rcases List.mem_cons.1 hm with heq | hm
  · exact absurd (heq ▸ hr) hny
  · exact h.chains.disjoint _ _ hr hb y hm hy

end IndexInv

/-! ## Adding an entry -/

/-- The link of a new index entry goes to another slot than the one before it:
the sixteen bits of its offset do not reach the end of its chain. -/
def LinkTruncated (s : Ip4TableCache) (r : IpaNatIpv4Rule) : Prop :=
  2 ^ 14 ≤ s.srcSlot r ∧ (s.index (s.srcSlot r)).tblEntry ≠ 0 ∧ (s.index (s.srcSlot r)).nextIndex = 0

instance (s : Ip4TableCache) (r : IpaNatIpv4Rule) : Decidable (s.LinkTruncated r) :=
  inferInstanceAs (Decidable (_ ∧ _))

theorem index_added (s : Ip4TableCache) (rule : NatRule) (irule : IndxTblSwRule) (entry ientry : Nat) :
    (s.added rule irule entry ientry).1.index =
      ((s.setIndex ientry ⟨irule.tblEntry, irule.nextIndex⟩).linkIndex irule.prevIndex ientry).index := by
  have hnote : (s.noteMeta ientry irule.prevIndex).index = s.index := by
    unfold noteMeta
    split <;> rfl
  have hlink : ∀ (u : Ip4TableCache) p e, (u.linkRule p e).index = u.index := by
    intro u p e
    unfold linkRule
    split <;> rfl
  have hcongr : ∀ u v : Ip4TableCache, u.index = v.index → u.tableEntries = v.tableEntries →
      (u.linkIndex irule.prevIndex ientry).index = (v.linkIndex irule.prevIndex ientry).index := by
    intro u v hi ht
    unfold linkIndex indexLinkSlot
    split <;> simp [hi, ht]
  unfold added written addWrites
  rw [index_makeRuleHdl, index_setRule]
  apply hcongr
  · rw [index_setIndex, index_setIndex, hlink, index_setRule, hnote]
  · exact (((SameTable.noteMeta ..).trans (.setRule ..)).trans (.linkRule ..)).tableEntries

theorem meta_added (s : Ip4TableCache) (rule : NatRule) (irule : IndxTblSwRule) (entry ientry : Nat) :
    (s.added rule irule entry ientry).1.indexExpnTableMeta = (s.noteMeta ientry irule.prevIndex).indexExpnTableMeta := by
  have hlink : ∀ (u : Ip4TableCache) p e, (u.linkRule p e).indexExpnTableMeta = u.indexExpnTableMeta := by
    intro u p e
    unfold linkRule
    split <;> rfl
  have hindex : ∀ (u : Ip4TableCache) p e, (u.linkIndex p e).indexExpnTableMeta = u.indexExpnTableMeta := by
    intro u p e
    unfold linkIndex
    split <;> rfl
  unfold added written addWrites
  rw [meta_makeRuleHdl, meta_setRule, hindex, meta_setIndex, hlink, meta_setRule]

/-- An index entry that goes in: `r` is its rule, in slot `x`. What its
`prev_index` and links are is for the two cases to say. -/
theorem IndexInv.enter (h : s.IndexInv chain) (hst : SameTable s t) {r : IpaNatIpv4Rule} {x y : Nat}
    {chain' : Nat → List Nat} (hx0 : x ≠ 0) (hfree : s.heldAt x = none)
    (hylt : y < s.slots) (hy0 : (s.index y).tblEntry = 0)
    (hchains : Chains 0 (· < t.tableEntries) t.IndexUsed (fun y => (t.index y).nextIndex)
      (fun y => t.indexExpnTableMeta (y - t.tableEntries)) chain')
    (hfree' : ∀ b < s.tableEntries, (t.index b).tblEntry = 0 → chain' b = [])
    (hgrow : ∀ b, chain b ⊆ chain' b) (hsrc : s.srcSlot r < s.tableEntries)
    (hy : y ∈ s.srcSlot r :: chain' (s.srcSlot r)) (hnew : (t.index y).tblEntry = x)
    (hold : ∀ z, z ≠ y → (t.index z).tblEntry = (s.index z).tblEntry) (hrefs : t.refs = update s.refs x y)
    (hheld : t.heldAt = update s.heldAt x (some r)) : t.IndexInv chain' := by
  constructor
  · exact hchains
  · intro b hb
    rw [hst.tableEntries] at hb
    exact hfree' b hb
  · intro z hz hz0
    rw [hst.slots] at hz
    by_cases hzy : z = y
    · subst hzy
      refine ⟨r, ?_, ?_, ?_, ?_⟩
      · rw [hnew, hheld, Function.update_self]
      · rw [hnew, hrefs, Function.update_self]
      · rw [hst.srcSlot, hst.tableEntries]
        exact hsrc
      · rw [hst.srcSlot]
        exact hy
    · rw [hold z hzy] at hz0 ⊢
      obtain ⟨r', hr', href, hlt, hm⟩ := h.points z hz hz0
      have hne : (s.index z).tblEntry ≠ x := by
        intro heq
        rw [heq, hfree] at hr'
        cases hr'
      refine ⟨r', ?_, ?_, ?_, ?_⟩
      · rw [hheld, Function.update_of_ne hne]
        exact hr'
      · rw [hrefs, Function.update_of_ne hne]
        exact href
      · rw [hst.srcSlot, hst.tableEntries]
        exact hlt
      · rw [hst.srcSlot]
        exact List.cons_subset_cons _ (hgrow _) hm
  · intro x' r' hr'
    rw [hst.slots, hrefs]
    rw [hheld] at hr'
    by_cases hxx : x' = x
    · subst hxx
      rw [Function.update_self]
      exact ⟨hx0, hylt, hnew⟩
    · rw [Function.update_of_ne hxx] at hr' ⊢
      obtain ⟨h0, hlt, hent⟩ := h.entry x' r' hr'
      have hne : s.refs x' ≠ y := by
        intro heq
        rw [heq, hy0] at hent
        exact h0 hent.symm
      rw [hold _ hne]
      exact ⟨h0, hlt, hent⟩

/-- **An index entry goes** into its base slot, or behind the last of its chain. -/
theorem IndexInv.add (h : s.IndexInv chain) (hs : s.Sized) (hne : s.tableEntries ≠ 0) {r : IpaNatIpv4Rule}
    (hp : r.protocol ≠ ipaNatInvalidProtoFieldCmp) {rule : NatRule} {entry : Nat} {irule : IndxTblSwRule} {ientry : Nat}
    (htbl : TblPlace s r rule entry) (he : entry ≠ 0) (hlt : entry < s.slots) (hpl : IndexPlace s r entry irule ientry)
    (hlink : ¬ s.LinkTruncated r) :
    ∃ chain', (s.added rule irule entry ientry).1.IndexInv chain' ∧ ∀ b, chain b ⊆ chain' b := by
  obtain ⟨-, hen, hrule, -, -⟩ := htbl.spec hs he
  obtain ⟨hb0, hb⟩ := hs.srcSlot_range hne r
  have hslots := hs.slots_lt
  have hfree : s.heldAt entry = none := by
    unfold heldAt
    rw [if_pos hlt]
    exact NatRule.held_of_disabled hen
  have hproto : rule.protocol ≠ ipaNatInvalidProtoFieldCmp := by
    rw [← hrule] at hp
    exact hp
  have hst := SameTable.added s rule irule entry ientry
  have hrefs := refs_added s rule irule entry ientry
  have hheld := heldAt_update hlt hst (helds_added s rule irule ientry (by omega) hproto)
  have hindex := index_added s rule irule entry ientry
  have hmeta := meta_added s rule irule entry ientry
  rw [hrule] at hheld
  generalize (s.added rule irule entry ientry).1 = t at hst hrefs hheld hindex hmeta ⊢
  cases hpl with
  | base hlt' h0 =>
    have hnil := h.free _ hb h0
    have hnew : t.index (s.srcSlot r) = ⟨entry, 0⟩ := by
      rw [hindex]
      simp [linkIndex]
    have hold : ∀ z, z ≠ s.srcSlot r → t.index z = s.index z := by
      intro z hz
      rw [hindex]
      simp [linkIndex, hz]
    have hmeta' : t.indexExpnTableMeta = s.indexExpnTableMeta := by
      rw [hmeta]
      unfold noteMeta
      rw [if_neg (by omega)]
    have hused : ∀ z, t.IndexUsed z ↔ s.IndexUsed z := by
      intro z
      unfold IndexUsed
      rw [hst.tableEntries, hst.slots]
      by_cases hz : z = s.srcSlot r
      · omega
      · rw [hold z hz]
    refine ⟨chain, h.enter hst he hfree hlt' h0 ?_ ?_ (fun b => List.Subset.refl _) hb (by simp) ?_ ?_ hrefs hheld,
      fun b => List.Subset.refl _⟩
    · rw [hst.tableEntries, hmeta']
      refine h.chains.congr hused ?_ (fun _ _ => rfl)
      intro z _
      by_cases hz : z = s.srcSlot r
      · -- an empty slot has no successor, and neither has the new entry
        subst hz
        rw [hnew]
        exact ((h.chains.linked _ hb).next_eq_null_iff.2 hnil).symm
      · rw [hold z hz]
    · intro b hb' hb0'
      by_cases hbs : b = s.srcSlot r
      · rw [hbs]
        exact hnil
      · rw [hold b hbs] at hb0'
        exact h.free b hb' hb0'
    · rw [hnew]
    · intro z hz
      rw [hold z hz]
  | @expn prev hlt' h0 hend hfreeE hprevne =>
    obtain ⟨hflt, hfen⟩ := indexExpnGetFreeEntry_spec hfreeE
    rw [h.chainEnd_eq hs hb, Except.ok.injEq, Option.some.injEq] at hend
    unfold slots at hslots
    have hy : u16 (s.indexExpnGetFreeEntry + s.tableEntries) = s.tableEntries + s.indexExpnGetFreeEntry := by
      rw [u16_of_lt (by omega), Nat.add_comm]
    rw [hy] at hindex hmeta hrefs hprevne
    obtain ⟨y, hydef⟩ : ∃ y, y = s.tableEntries + s.indexExpnGetFreeEntry := ⟨_, rfl⟩
    rw [← hydef] at hindex hmeta hrefs hprevne hfen
    have hylt : y < s.slots := by
      unfold slots
      omega
    -- the end of the chain, and that its offset is not cut off
    have hlast : prev ≠ 0 ∧ s.indexLinkSlot prev = prev := by
      have hm := Lib.lastFrom_mem (s.srcSlot r) (chain (s.srcSlot r))
      rw [hend] at hm
      rcases List.mem_cons.1 hm with heq | hm
      · refine ⟨by omega, indexLinkSlot_eq (.inl ?_) hs⟩
        have hnext := (h.chains.linked _ hb).next_last
        rw [hend, heq] at hnext
        by_contra hge
        exact hlink ⟨by omega, h0, hnext⟩
      · have hu := h.mem_used hb hm
        have hult := hu.2.1
        have hexpn := hs.expn_le
        unfold slots at hult
        have huge := hu.1
        exact ⟨(h.chains.linked _ hb).ne_null prev hm, indexLinkSlot_eq (.inr (by omega)) hs⟩
    obtain ⟨hp0, hslot⟩ := hlast
    have hslot' : (s.setIndex y ⟨entry, 0⟩).indexLinkSlot prev = prev := hslot
    unfold linkIndex at hindex
    simp only [hp0, if_false, hslot', index_setIndex] at hindex
    rw [Function.update_of_ne hprevne] at hindex
    have hnew : t.index y = ⟨entry, 0⟩ := by
      rw [hindex, Function.update_of_ne hprevne.symm, Function.update_self]
    have hprev : t.index prev = (s.index prev).link y := by
      rw [hindex, Function.update_self]
    have hold : ∀ z, z ≠ y → z ≠ prev → t.index z = s.index z := by
      intro z hzy hzp
      rw [hindex, Function.update_of_ne hzp, Function.update_of_ne hzy]
    have hent : ∀ z, z ≠ y → (t.index z).tblEntry = (s.index z).tblEntry := by
      intro z hzy
      by_cases hzp : z = prev
      · subst hzp
        rw [hprev]
        rfl
      · rw [hold z hzy hzp]
    have hmeta' : ∀ z, t.indexExpnTableMeta z = if z = y - s.tableEntries then prev else s.indexExpnTableMeta z := by
      intro z
      rw [hmeta]
      unfold noteMeta
      rw [if_pos (by omega), sub16_of_le (by omega) (by omega)]
      exact Function.update_apply ..
    have hused : ∀ z, t.IndexUsed z ↔ s.IndexUsed z ∨ z = y := by
      intro z
      unfold IndexUsed
      rw [hst.tableEntries, hst.slots]
      by_cases hz : z = y
      · subst hz
        rw [hnew]
        simp [he, hylt, show s.tableEntries ≤ z by omega]
      · rw [hent z hz]
        simp [hz]
    have hnotused : ¬ s.IndexUsed y := fun hu => hu.2.2 hfen
    have hne : ∀ z, z < s.tableEntries ∨ s.IndexUsed z → z ≠ y := by
      rintro z (hz | hz) rfl
      · omega
      · exact hnotused hz
    have hgrow : ∀ b, chain b ⊆ update chain (s.srcSlot r) (chain (s.srcSlot r) ++ [y]) b := by
      intro b
      by_cases hbs : b = s.srcSlot r
      · subst hbs
        rw [Function.update_self]
        exact List.subset_append_left _ _
      · rw [Function.update_of_ne hbs]
        exact List.Subset.refl _
    refine ⟨_, h.enter hst he hfree hylt hfen ?_ ?_ hgrow hb ?_ ?_ hent hrefs hheld, hgrow⟩
    · rw [hst.tableEntries]
      refine h.chains.append (e := y) hb hnotused (by omega) (by omega) ?_ ?_ ?_ ?_ ?_ hused
      · rw [hend, hprev]
        exact u16_of_lt (by omega)
      · rw [hnew]
      · intro z hz hzl
        rw [hend] at hzl
        rw [hold z (hne z hz) hzl]
      · rw [hmeta', if_pos rfl, hend]
      · intro z hz
        have hzy := hne z (.inr hz)
        have hge := hz.1
        rw [hmeta', if_neg (by omega)]
    · intro b hb' hb0'
      rw [hent b (by omega)] at hb0'
      have hbs : b ≠ s.srcSlot r := by
        rintro rfl
        exact h0 hb0'
      rw [Function.update_of_ne hbs]
      exact h.free b hb' hb0'
    · rw [Function.update_self]
      simp
    · rw [hnew]

/-! ## Deleting an entry -/

/-- The index side of a deletion on its own: `i` is the entry of the rule. -/
def delIndexSide (s : Ip4TableCache) (i : Nat) : Ip4TableCache :=
  (s.delIndexWrite i (s.indexPos i) s).dropIndex i (s.movedUp i (s.indexPos i)) (s.indexPos i)

/-- What the index side after the DMA looks at. -/
theorem dropIndex_congr {u v : Ip4TableCache} (i k : Nat) (pos : DelType) (ht : u.tableEntries = v.tableEntries)
    (hindex : u.index = v.index) (hmeta : u.indexExpnTableMeta = v.indexExpnTableMeta) :
    (u.dropIndex i k pos).index = (v.dropIndex i k pos).index ∧
      (u.dropIndex i k pos).indexExpnTableMeta = (v.dropIndex i k pos).indexExpnTableMeta ∧
      ∀ x, u.refs x = v.refs x → (u.dropIndex i k pos).refs x = (v.dropIndex i k pos).refs x := by
  have hlink : ∀ y, u.linkSlot y = v.linkSlot y := by
    intro y
    unfold linkSlot
    rw [ht]
  unfold dropIndex
  by_cases hpos : pos = .head
  · simp only [if_pos hpos]
    have hmoved : (u.moveNextMeta i (u.index (u.tableEntries + k)).nextIndex).indexExpnTableMeta =
        (v.moveNextMeta i (v.index (v.tableEntries + k)).nextIndex).indexExpnTableMeta := by
      unfold moveNextMeta
      rw [hindex, ht]
      split
      · rw [meta_setMeta, meta_setMeta, hmeta]
      · exact hmeta
    have hl : ∀ (w : Ip4TableCache) y, ((w.moveNextMeta i (w.index (w.tableEntries + k)).nextIndex).setIndex
        (w.tableEntries + k) {}).linkSlot y = w.linkSlot y := fun w y =>
      ((SameTable.moveNextMeta w i _).trans (.setIndex ..)).linkSlot y
    have hrefs : ∀ w : Ip4TableCache, (w.dropMovedUp i k).refs = update w.refs
        (w.linkSlot (update w.index (w.tableEntries + k) {} i).tblEntry) (u16 i) := by
      intro w
      unfold dropMovedUp
      simp only [hl, refs_setRule, refs_setIndex, index_setIndex, index_moveNextMeta]
      rw [refs_congr (rules_moveNextMeta ..)]
      rfl
    refine ⟨?_, ?_, ?_⟩
    · unfold dropMovedUp
      simp only [index_setRule, index_setIndex, index_moveNextMeta, hindex, ht]
    · exact hmoved
    · intro x hx
      rw [hrefs, hrefs, hlink, hindex, ht]
      generalize v.linkSlot _ = m
      by_cases hxm : x = m
      · rw [hxm, Function.update_self, Function.update_self]
      · rw [Function.update_of_ne hxm, Function.update_of_ne hxm, hx]
  · simp only [if_neg hpos]
    unfold moveMeta
    rw [hlink, hindex, ht, hmeta]
    by_cases hmid : pos = .middle
    · simp only [if_pos hmid]
      refine ⟨?_, ?_, fun x hx => hx⟩
      · rw [index_setIndex, index_setIndex, index_setMeta, index_setMeta, index_setMeta, index_setMeta, hindex]
      · rw [meta_setIndex, meta_setIndex, meta_setMeta, meta_setMeta, meta_setMeta, meta_setMeta, hmeta]
    · simp only [if_neg hmid]
      refine ⟨?_, ?_, fun x hx => hx⟩
      · rw [index_setIndex, index_setIndex, hindex]
      · rw [meta_setIndex, meta_setIndex, hmeta]

/-- The order of the commands does not matter to the index, -/
theorem index_delDma (s : Ip4TableCache) (ruleFirst : Bool) (cur : Nat) (rule : NatRule) (pos ipos : DelType) :
    (s.delDma ruleFirst cur rule pos ipos).index = (s.delIndexWrite rule.indxTblEntry ipos s).index ∧
      (s.delDma ruleFirst cur rule pos ipos).indexExpnTableMeta = s.indexExpnTableMeta := by
  unfold delDma delRuleWrite
  cases ruleFirst <;> cases ipos <;> exact ⟨rfl, rfl⟩

/-- nor what follows on the rule side. -/
theorem index_clearRule (u : Ip4TableCache) (cur : Nat) (pos : DelType) :
    ((u.movePrev cur pos).clearRule cur pos).index = u.index ∧
      ((u.movePrev cur pos).clearRule cur pos).indexExpnTableMeta = u.indexExpnTableMeta := by
  unfold clearRule movePrev
  cases pos <;> exact ⟨rfl, rfl⟩

/-- The index and its rules do not see the rule side of a deletion. -/
theorem delWrites_indexSide (s : Ip4TableCache) (ruleFirst expn : Bool) (cur : Nat) :
    (s.delWrites ruleFirst expn cur).index = (s.delIndexSide (s.refs cur)).index ∧
      (s.delWrites ruleFirst expn cur).indexExpnTableMeta = (s.delIndexSide (s.refs cur)).indexExpnTableMeta ∧
      ∀ x, x ≠ cur → (s.delWrites ruleFirst expn cur).refs x = (s.delIndexSide (s.refs cur)).refs x := by
  obtain ⟨u, hu⟩ : ∃ u, u = s.delDma ruleFirst cur (s.rules cur) (s.rulePos expn cur)
    (s.indexPos (s.rules cur).indxTblEntry) := ⟨_, rfl⟩
  have hsame : SameTable s u := hu ▸ .delDma ..
  obtain ⟨hui, hum⟩ : u.index = (s.delIndexWrite (s.refs cur) (s.indexPos (s.refs cur)) s).index ∧
      u.indexExpnTableMeta = s.indexExpnTableMeta := hu ▸ index_delDma ..
  have hmetaI : (s.delIndexWrite (s.refs cur) (s.indexPos (s.refs cur)) s).indexExpnTableMeta = s.indexExpnTableMeta := by
    cases s.indexPos (s.refs cur) <;> rfl
  have hrefs : u.refs = s.refs := by
    rw [refs_congr (hu ▸ rules_delDma ..)]
    refine refs_setRule_same _ _ _ ?_
    cases s.rulePos expn cur <;> rfl
  have hclear : ∀ pos x, x ≠ cur → ((u.movePrev cur pos).clearRule cur pos).refs x = s.refs x := by
    intro pos x hx
    have hmove : (u.movePrev cur pos).refs = u.refs := by
      unfold movePrev
      split
      · exact refs_setRule_same _ _ _ rfl
      · rfl
    rw [← hrefs, ← hmove]
    unfold clearRule
    split
    · rfl
    · rw [refs_setRule, Function.update_of_ne hx]
  obtain ⟨hci, hcm⟩ := index_clearRule u cur (s.rulePos expn cur)
  obtain ⟨h1, h2, h3⟩ := dropIndex_congr (u := (u.movePrev cur (s.rulePos expn cur)).clearRule cur (s.rulePos expn cur))
    (v := s.delIndexWrite (s.refs cur) (s.indexPos (s.refs cur)) s) (s.refs cur)
    (s.movedUp (s.refs cur) (s.indexPos (s.refs cur))) (s.indexPos (s.refs cur))
    (((hsame.trans (.movePrev ..)).trans (.clearRule ..)).tableEntries.trans (SameTable.delIndexWrite ..).tableEntries.symm)
    (hci.trans hui) (hcm.trans (hum.trans hmetaI.symm))
  have hrefsI : (s.delIndexWrite (s.refs cur) (s.indexPos (s.refs cur)) s).refs = s.refs :=
    refs_congr (rules_delIndexWrite ..)
  subst hu
  exact ⟨h1, h2, fun x hx => h3 x (by rw [hrefsI]; exact hclear _ x hx)⟩

/-- The index after the entry `y` behind `p` is out of its chain. `i` is the
entry of the rule deleted: `y` itself, or the head `y` moved up into. -/
structure IndexUnlinked (s : Ip4TableCache) (i y p : Nat) (t : Ip4TableCache) : Prop where
  gone : (t.index y).tblEntry = 0
  entry : ∀ z, z ≠ y → (t.index z).tblEntry = if z = i then (s.index y).tblEntry else (s.index z).tblEntry
  last : (t.index p).nextIndex = (s.index y).nextIndex
  next : ∀ z, z ≠ y → z ≠ p → (t.index z).nextIndex = (s.index z).nextIndex
  back : (s.index y).nextIndex ≠ 0 → t.indexExpnTableMeta ((s.index y).nextIndex - s.tableEntries) = p
  prev : ∀ z, s.tableEntries ≤ z → z ≠ y → z ≠ (s.index y).nextIndex →
    t.indexExpnTableMeta (z - s.tableEntries) = s.indexExpnTableMeta (z - s.tableEntries)
  refs : ∀ x, x ≠ (s.index i).tblEntry → t.refs x = if x = (s.index y).tblEntry then i else s.refs x

/-- An entry in the middle of its chain, or at its end. -/
theorem delIndexSide_expn (hs : s.Sized) {i p : Nat} (hge : s.tableEntries ≤ i) (hlt : i < s.slots)
    (hp : s.indexExpnTableMeta (i - s.tableEntries) = p) (hp16 : p < 2 ^ 16) (hpi : p ≠ i)
    (hn : (s.index i).nextIndex ≠ 0 → s.tableEntries ≤ (s.index i).nextIndex ∧ (s.index i).nextIndex < 2 ^ 16 ∧
      (s.index i).nextIndex ≠ i) : IndexUnlinked s i i p (s.delIndexSide i) := by
  have hslots := hs.slots_lt
  have hsub : sub16 i s.tableEntries = i - s.tableEntries := sub16_of_le hge (by omega)
  have hi : s.linkSlot i = i := linkSlot_eq (by omega)
  have hadd : s.tableEntries + (i - s.tableEntries) = i := by omega
  have hentry : ∀ z n, z ≠ i → (update (update s.index p ((s.index p).link n)) i {} z).tblEntry = (s.index z).tblEntry := by
    intro z n hz
    rw [Function.update_of_ne hz]
    by_cases hzp : z = p
    · subst hzp
      rw [Function.update_self]
      rfl
    · rw [Function.update_of_ne hzp]
  have hnext : ∀ z n, z ≠ i → z ≠ p → (update (update s.index p ((s.index p).link n)) i {} z).nextIndex =
      (s.index z).nextIndex := by
    intro z n hz hzp
    rw [Function.update_of_ne hz, Function.update_of_ne hzp]
  by_cases h0 : (s.index i).nextIndex = 0
  · have hpos : s.indexPos i = .last := by
      simp [indexPos, hi, h0, chainPos, hge]
    have hside : s.delIndexSide i = (s.setIndex p ((s.index p).link 0)).setIndex i {} := by
      unfold delIndexSide
      rw [hpos]
      simp only [dropIndex, delIndexWrite, hsub, hp, linkSlot_eq hp16, moveMeta]
      simp only [reduceCtorEq, if_false]
      rw [show (s.setIndex p ((s.index p).link 0)).linkSlot i = i from hi]
    rw [hside]
    constructor
    · simp
    · intro z hz
      rw [if_neg hz]
      exact hentry z 0 hz
    · rw [h0]
      simp [hpi, IndxTblRule.link, u16]
    · exact fun z hz hzp => hnext z 0 hz hzp
    · exact fun hne => absurd h0 hne
    · exact fun z _ _ _ => rfl
    · intro x hx
      rw [if_neg hx]
      rfl
  · obtain ⟨hnge, hn16, hni⟩ := hn h0
    have hpos : s.indexPos i = .middle := by
      simp [indexPos, hi, h0, chainPos, hge]
    have hcur : update s.index p ((s.index p).link (s.index i).nextIndex) i = s.index i := Function.update_of_ne hpi.symm ..
    have hside : s.delIndexSide i = (((s.setIndex p ((s.index p).link (s.index i).nextIndex)).setMeta
        ((s.index i).nextIndex - s.tableEntries) p).setMeta (i - s.tableEntries) 0).setIndex i {} := by
      unfold delIndexSide
      rw [hpos]
      simp only [dropIndex, delIndexWrite, moveMeta]
      simp only [reduceCtorEq, if_false, if_true, hi, hsub, hp, linkSlot_eq hp16, tableEntries_setIndex, hadd,
        index_setIndex, hcur, meta_setIndex]
      rw [if_pos hnge, sub16_of_le hnge hn16, show (Ip4TableCache.setIndex s p _).linkSlot i = i from hi]
    rw [hside]
    constructor
    · simp
    · intro z hz
      rw [if_neg hz]
      exact hentry z _ hz
    · simp [hpi, IndxTblRule.link, u16_of_lt hn16]
    · exact fun z hz hzp => hnext z _ hz hzp
    · intro _
      simp [show (s.index i).nextIndex - s.tableEntries ≠ i - s.tableEntries by omega]
    · intro z hz hzi hzn
      simp [show z - s.tableEntries ≠ i - s.tableEntries by omega,
        show z - s.tableEntries ≠ (s.index i).nextIndex - s.tableEntries by omega]
    · intro x hx
      rw [if_neg hx]
      rfl

/-- The head of a chain: the entry `n` behind it moves up. -/
theorem delIndexSide_head (hs : s.Sized) {i n : Nat} (hlt : i < s.tableEntries) (hn : (s.index i).nextIndex = n)
    (hn0 : n ≠ 0) (hnge : s.tableEntries ≤ n) (hnlt : n < s.slots) (hent : (s.index n).tblEntry < 2 ^ 16)
    (hm : (s.index n).nextIndex ≠ 0 → s.tableEntries ≤ (s.index n).nextIndex) (hm16 : (s.index n).nextIndex < 2 ^ 16) :
    IndexUnlinked s i n i (s.delIndexSide i) := by
  have hslots := hs.slots_lt
  have hi : s.linkSlot i = i := if_pos hlt
  have hin : i ≠ n := by omega
  have hsub : sub16 n s.tableEntries = n - s.tableEntries := sub16_of_le hnge (by omega)
  have hadd : s.tableEntries + (n - s.tableEntries) = n := by omega
  have hpos : s.indexPos i = .head := by
    simp [indexPos, hi, hn, hn0, chainPos, show ¬ s.tableEntries ≤ i by omega]
  -- the table after the two commands
  obtain ⟨u, hu⟩ : ∃ u, u = s.delIndexWrite i .head s := ⟨_, rfl⟩
  have hindex : u.index = update s.index i (s.index n) := by
    rw [hu]
    simp [delIndexWrite, hn, hsub, hadd, IndxTblRule.point, IndxTblRule.link, u16_of_lt hent, u16_of_lt hm16]
  have hut : u.tableEntries = s.tableEntries := hu ▸ rfl
  have hun : u.index n = s.index n := by
    rw [hindex, Function.update_of_ne hin.symm]
  have hside : s.delIndexSide i = u.dropMovedUp i (n - s.tableEntries) := by
    unfold delIndexSide
    rw [hpos, ← hu]
    simp [dropIndex, movedUp, hn, hsub]
  have hindex' : (s.delIndexSide i).index = update (update s.index i (s.index n)) n {} := by
    rw [hside]
    simp [dropMovedUp, hut, hadd, hindex]
  have hmeta' : (s.delIndexSide i).indexExpnTableMeta = if (s.index n).nextIndex = 0 then s.indexExpnTableMeta
      else update s.indexExpnTableMeta ((s.index n).nextIndex - s.tableEntries) i := by
    have humeta : u.indexExpnTableMeta = s.indexExpnTableMeta := hu ▸ rfl
    rw [hside]
    unfold dropMovedUp moveNextMeta
    simp only [hut, hadd, hun, meta_setRule, meta_setIndex]
    by_cases h0 : (s.index n).nextIndex = 0
    · rw [if_neg fun h => h.1 h0, if_pos h0, humeta]
    · rw [if_pos ⟨h0, hm h0⟩, if_neg h0, meta_setMeta, sub16_of_le (hm h0) hm16, humeta]
  have hrefs' : (s.delIndexSide i).refs = update s.refs (s.index n).tblEntry i := by
    have hl : ((u.moveNextMeta i (s.index n).nextIndex).setIndex n {}).linkSlot (s.index n).tblEntry =
        (s.index n).tblEntry := linkSlot_eq hent
    have hurefs : u.refs = s.refs := hu ▸ rfl
    rw [hside]
    unfold dropMovedUp
    simp only [hut, hadd, hun, index_setIndex, index_moveNextMeta, hindex, Function.update_of_ne hin,
      Function.update_self, hl, refs_setRule, refs_setIndex]
    rw [refs_congr (rules_moveNextMeta ..), hurefs]
    exact congrArg _ (u16_of_lt (by omega))
  constructor
  · rw [hindex', Function.update_self]
  · intro z hz
    rw [hindex', Function.update_of_ne hz, Function.update_apply]
    split <;> rfl
  · rw [hindex', Function.update_of_ne hin, Function.update_self]
  · intro z hz hzi
    rw [hindex', Function.update_of_ne hz, Function.update_of_ne hzi]
  · intro h0
    rw [hmeta', if_neg h0, Function.update_self]
  · intro z hz hzn hznext
    rw [hmeta']
    split
    · rfl
    · rename_i h0
      have := hm h0
      rw [Function.update_of_ne (by omega)]
  · intro x _
    rw [hrefs', Function.update_apply]

/-- **An index entry out of its chain.** `x` is the slot of the rule deleted. -/
theorem IndexInv.unlink (h : s.IndexInv chain) (hst : SameTable s t) {x i b y : Nat} {l r : List Nat}
    (hx : s.heldAt x ≠ none) (hi : s.refs x = i) (hb : b < s.tableEntries) (hc : chain b = l ++ y :: r)
    (hiy : i = y ∨ i = b) (hun : IndexUnlinked s i y (lastFrom b l) t) (hheld : t.heldAt = update s.heldAt x none) :
    t.IndexInv (update chain b (l ++ r)) := by
  obtain ⟨c, hcx⟩ := Option.ne_none_iff_exists'.1 hx
  obtain ⟨-, hilt, hient⟩ := h.entry x c hcx
  rw [hi] at hilt hient
  have hymem : y ∈ chain b := by simp [hc]
  obtain ⟨hyu, hyb⟩ := h.chains.used_of_mem b hb y hymem
  -- what the entry `y` names
  obtain ⟨c', hc', hrefy, hsrc, hsrcm⟩ := h.points y hyu.2.1 hyu.2.2
  have hentry : ∀ z, z ≠ y → z ≠ i → (t.index z).tblEntry = (s.index z).tblEntry := by
    intro z hz hzi
    rw [hun.entry z hz, if_neg hzi]
  have hge : ∀ z, s.tableEntries ≤ z → z ≠ y → z ≠ i := by
    rintro z hz hzy rfl
    rcases hiy with heq | heq
    · exact hzy heq
    · omega
  have hmem : ∀ a < s.tableEntries, ∀ z, z ∈ update chain b (l ++ r) a ↔ z ∈ chain a ∧ z ≠ y :=
    fun a ha z => h.chains.mem_unlink hb hc ha
  have hused : ∀ z, t.IndexUsed z ↔ s.IndexUsed z ∧ z ≠ y := by
    intro z
    unfold IndexUsed
    rw [hst.tableEntries, hst.slots]
    by_cases hzy : z = y
    · subst hzy
      simp [hun.gone]
    · by_cases hzT : s.tableEntries ≤ z
      · rw [hentry z hzy (hge z hzT hzy)]
        simp [hzy]
      · simp [hzT]
  constructor
  · rw [hst.tableEntries]
    refine h.chains.unlink hb hc hun.last (fun z _ hzp hzy => hun.next z hzy hzp) hun.back ?_ hused
    exact fun z hz hzn hzy => hun.prev z hz.1 hzy hzn
  · intro a ha ha0
    rw [hst.tableEntries] at ha
    have hay : a ≠ y := by
      rintro rfl
      exact hyb ha
    rw [hun.entry a hay] at ha0
    split at ha0
    · exact absurd ha0 hyu.2.2
    · have hnil := h.free a ha ha0
      refine List.eq_nil_iff_forall_not_mem.2 fun z hz => ?_
      have := ((hmem a ha z).1 hz).1
      rw [hnil] at this
      cases this
  · intro z hz hz0
    rw [hst.slots] at hz
    have hzy : z ≠ y := by
      rintro rfl
      exact hz0 hun.gone
    rw [hun.entry z hzy] at hz0 ⊢
    by_cases hzi : z = i
    · -- the head: its entry is now the one that moved up
      rw [if_pos hzi]
      have hyi : y ≠ i := fun heq => hzy (hzi.trans heq.symm)
      have hib := hiy.resolve_left (Ne.symm hyi)
      have hne : (s.index y).tblEntry ≠ x := by
        intro heq
        rw [heq, hi] at hrefy
        exact hyi hrefy.symm
      refine ⟨c', ?_, ?_, ?_, ?_⟩
      · rw [hheld, Function.update_of_ne hne]
        exact hc'
      · rw [hun.refs _ (by rw [hient]; exact hne), if_pos rfl, hzi]
      · rw [hst.srcSlot, hst.tableEntries]
        exact hsrc
      · rw [hst.srcSlot, hzi, hib, h.base_eq hb hymem hsrc hsrcm]
        simp
    · rw [if_neg hzi] at hz0 ⊢
      obtain ⟨d, hd, href, hdlt, hdm⟩ := h.points z hz hz0
      have hne : (s.index z).tblEntry ≠ x := by
        intro heq
        rw [heq, hi] at href
        exact hzi href.symm
      refine ⟨d, ?_, ?_, ?_, ?_⟩
      · rw [hheld, Function.update_of_ne hne]
        exact hd
      · rw [hun.refs _ (by rw [hient]; exact hne), if_neg, href]
        intro heq
        rw [heq, hrefy] at href
        exact hzy href.symm
      · rw [hst.srcSlot, hst.tableEntries]
        exact hdlt
      · rw [hst.srcSlot]
        rcases List.mem_cons.1 hdm with heq | hm
        · rw [← heq]
          simp
        · exact List.mem_cons_of_mem _ ((hmem _ hdlt z).2 ⟨hm, hzy⟩)
  · intro x' d hd
    rw [hst.slots]
    rw [hheld] at hd
    have hxx : x' ≠ x := by
      rintro rfl
      rw [Function.update_self] at hd
      cases hd
    rw [Function.update_of_ne hxx] at hd
    obtain ⟨h0, hlt, hent⟩ := h.entry x' d hd
    rw [hun.refs x' (by rw [hient]; exact hxx)]
    by_cases hxy : x' = (s.index y).tblEntry
    · rw [if_pos hxy]
      have hyi : i ≠ y := by
        rintro rfl
        exact hxx (hxy.trans hient)
      refine ⟨h0, hilt, ?_⟩
      rw [hun.entry i hyi, if_pos rfl]
      exact hxy.symm
    · rw [if_neg hxy]
      have hzy : s.refs x' ≠ y := by
        intro heq
        rw [heq] at hent
        exact hxy hent.symm
      have hzi : s.refs x' ≠ i := by
        intro heq
        rw [heq, hient] at hent
        exact hxx hent.symm
      exact ⟨h0, hlt, by rw [hentry _ hzy hzi]; exact hent⟩

/-- A base entry without a chain is cleared. -/
theorem IndexInv.clear (h : s.IndexInv chain) (hst : SameTable s t) {x i : Nat} (hx : s.heldAt x ≠ none)
    (hi : s.refs x = i) (hib : i < s.tableEntries) (h0 : (s.index i).nextIndex = 0)
    (hindex : t.index = update s.index i {}) (hmeta : t.indexExpnTableMeta = s.indexExpnTableMeta)
    (hrefs : ∀ x', x' ≠ x → t.refs x' = s.refs x') (hheld : t.heldAt = update s.heldAt x none) : t.IndexInv chain := by
  obtain ⟨c, hcx⟩ := Option.ne_none_iff_exists'.1 hx
  obtain ⟨-, hilt, hient⟩ := h.entry x c hcx
  rw [hi] at hilt hient
  have hold : ∀ z, z ≠ i → t.index z = s.index z := by
    intro z hz
    rw [hindex, Function.update_of_ne hz]
  have hnil := (h.chains.linked i hib).next_eq_null_iff.1 h0
  have hused : ∀ z, t.IndexUsed z ↔ s.IndexUsed z := by
    intro z
    unfold IndexUsed
    rw [hst.tableEntries, hst.slots]
    by_cases hz : z = i
    · omega
    · rw [hold z hz]
  constructor
  · rw [hst.tableEntries, hmeta]
    refine h.chains.congr hused ?_ (fun _ _ => rfl)
    intro z _
    by_cases hz : z = i
    · rw [hz, h0, hindex, Function.update_self]
    · rw [hold z hz]
  · intro b hb hb0
    rw [hst.tableEntries] at hb
    by_cases hbi : b = i
    · rw [hbi]
      exact hnil
    · rw [hold b hbi] at hb0
      exact h.free b hb hb0
  · intro z hz hz0
    rw [hst.slots] at hz
    have hzi : z ≠ i := by
      rintro rfl
      rw [hindex, Function.update_self] at hz0
      exact hz0 rfl
    rw [hold z hzi] at hz0 ⊢
    obtain ⟨d, hd, href, hdlt, hdm⟩ := h.points z hz hz0
    have hne : (s.index z).tblEntry ≠ x := by
      intro heq
      rw [heq, hi] at href
      exact hzi href.symm
    refine ⟨d, ?_, ?_, ?_, ?_⟩
    · rw [hheld, Function.update_of_ne hne]
      exact hd
    · rw [hrefs _ hne]
      exact href
    · rw [hst.srcSlot, hst.tableEntries]
      exact hdlt
    · rw [hst.srcSlot]
      exact hdm
  · intro x' d hd
    rw [hst.slots]
    rw [hheld] at hd
    have hxx : x' ≠ x := by
      rintro rfl
      rw [Function.update_self] at hd
      cases hd
    rw [Function.update_of_ne hxx] at hd
    obtain ⟨h0', hlt, hent⟩ := h.entry x' d hd
    have hzi : s.refs x' ≠ i := by
      intro heq
      rw [heq, hient] at hent
      exact hxx hent.symm
    rw [hrefs x' hxx]
    exact ⟨h0', hlt, by rw [hold _ hzi]; exact hent⟩

theorem IndexInv.congr (h : s.IndexInv chain) (hst : SameTable s t) (hindex : t.index = s.index)
    (hmeta : t.indexExpnTableMeta = s.indexExpnTableMeta) (hheld : t.heldAt = s.heldAt)
    (hrefs : ∀ x, s.heldAt x ≠ none → t.refs x = s.refs x) : t.IndexInv chain := by
  have hused : ∀ y, t.IndexUsed y ↔ s.IndexUsed y := by
    intro y
    unfold IndexUsed
    rw [hst.tableEntries, hst.slots, hindex]
  constructor
  · rw [hst.tableEntries, hmeta, hindex]
    exact h.chains.congr hused (fun _ _ => rfl) (fun _ _ => rfl)
  · rw [hst.tableEntries, hindex]
    exact h.free
  · intro y hy hy0
    rw [hst.slots] at hy
    rw [hindex] at hy0 ⊢
    obtain ⟨r, hr, href, hlt, hm⟩ := h.points y hy hy0
    rw [hheld, hrefs _ (by rw [hr]; simp)]
    refine ⟨r, hr, href, ?_, ?_⟩
    · rw [hst.srcSlot, hst.tableEntries]
      exact hlt
    · rw [hst.srcSlot]
      exact hm
  · intro x r hr
    rw [hheld] at hr
    rw [hst.slots, hindex, hrefs x (by rw [hr]; simp)]
    exact h.entry x r hr

theorem IndexUnlinked.congr {i y p : Nat} {u : Ip4TableCache} (h : IndexUnlinked s i y p u) (hindex : t.index = u.index)
    (hmeta : t.indexExpnTableMeta = u.indexExpnTableMeta)
    (hrefs : ∀ x, x ≠ (s.index i).tblEntry → t.refs x = u.refs x) : IndexUnlinked s i y p t := by
  obtain ⟨h1, h2, h3, h4, h5, h6, h7⟩ := h
  constructor
  · rw [hindex]
    exact h1
  · rw [hindex]
    exact h2
  · rw [hindex]
    exact h3
  · rw [hindex]
    exact h4
  · rw [hmeta]
    exact h5
  · rw [hmeta]
    exact h6
  · intro x hx
    rw [hrefs x hx]
    exact h7 x hx

/-- What an entry behind `y` is, if there is one. -/
theorem IndexInv.next_range (h : s.IndexInv chain) (hs : s.Sized) {b y : Nat} (hb : b < s.tableEntries)
    (hy : y ∈ b :: chain b) : (s.index y).nextIndex < 2 ^ 16 ∧ ((s.index y).nextIndex ≠ 0 →
      s.tableEntries ≤ (s.index y).nextIndex ∧ (s.index y).nextIndex < s.slots) := by
  have hslots := hs.slots_lt
  rcases (h.chains.linked b hb).next_mem y hy with h0 | hm
  · exact ⟨by omega, fun hne => absurd h0 hne⟩
  · have hu := h.mem_used hb hm
    have := hu.2.1
    exact ⟨by omega, fun _ => ⟨hu.1, hu.2.1⟩⟩

/-- **The index entry of a rule** is a base entry without a chain, or deleting
it takes one entry out of a chain. -/
theorem IndexInv.delIndexSide (h : s.IndexInv chain) (hs : s.Sized) {x : Nat} (hx : s.heldAt x ≠ none) :
    (s.refs x < s.tableEntries ∧ (s.index (s.refs x)).nextIndex = 0) ∨ ∃ b y l r, b < s.tableEntries ∧
      chain b = l ++ y :: r ∧ (s.refs x = y ∨ s.refs x = b) ∧
      IndexUnlinked s (s.refs x) y (lastFrom b l) (s.delIndexSide (s.refs x)) := by
  obtain ⟨c, hcx⟩ := Option.ne_none_iff_exists'.1 hx
  obtain ⟨hx0, hilt, hient⟩ := h.entry x c hcx
  have hslots := hs.slots_lt
  by_cases hib : s.refs x < s.tableEntries
  · by_cases h0 : (s.index (s.refs x)).nextIndex = 0
    · exact .inl ⟨hib, h0⟩
    · -- the head of a chain
      have hl := h.chains.linked _ hib
      cases hc : chain (s.refs x) with
      | nil => exact absurd (hl.next_eq_null_iff.2 hc) h0
      | cons n r =>
        rw [hc] at hl
        have hnm : n ∈ chain (s.refs x) := by simp [hc]
        have hnu := h.mem_used hib hnm
        obtain ⟨hm16, hm⟩ := h.next_range hs hib (List.mem_cons_of_mem _ hnm)
        obtain ⟨d, hd, -⟩ := h.points n hnu.2.1 hnu.2.2
        have hnlt := (heldAt_eq_some.1 hd).1
        refine .inr ⟨s.refs x, n, [], r, hib, hc, .inr rfl, ?_⟩
        exact delIndexSide_head hs hib hl.2.1 hl.1 hnu.1 hnu.2.1 (by omega) (fun hne => (hm hne).1) hm16
  · -- an entry of the expansion table
    obtain ⟨b, hb, hmem⟩ := h.chains.mem_of_used (s.refs x) ⟨by omega, hilt, by rw [hient]; exact hx0⟩
    obtain ⟨l, r, hc⟩ := List.append_of_mem hmem
    obtain ⟨hpne, hpmem⟩ := h.chains.before hb hc
    have hplt : lastFrom b l < s.slots := by
      rcases List.mem_cons.1 hpmem with heq | hm
      · rw [heq]
        unfold slots
        omega
      · exact (h.mem_used hb hm).2.1
    refine .inr ⟨b, s.refs x, l, r, hb, hc, .inl rfl, ?_⟩
    refine delIndexSide_expn hs (by omega) hilt (h.chains.prev_eq hb hc) (by omega) hpne ?_
    intro h0
    obtain ⟨hm16, hm⟩ := h.next_range hs hb (List.mem_cons_of_mem _ hmem)
    exact ⟨(hm h0).1, hm16, (h.chains.behind hb hc h0).2.1⟩

/-- A base entry without a chain, deleted. -/
theorem delIndexSide_onlyOne {i : Nat} (hib : i < s.tableEntries) (h0 : (s.index i).nextIndex = 0) :
    (s.delIndexSide i).index = update s.index i {} ∧
      (s.delIndexSide i).indexExpnTableMeta = s.indexExpnTableMeta ∧ (s.delIndexSide i).refs = s.refs := by
  have hi : s.linkSlot i = i := if_pos hib
  have hpos : s.indexPos i = .onlyOne := by
    simp [indexPos, hi, h0, chainPos, show ¬ s.tableEntries ≤ i by omega]
  have hside : s.delIndexSide i = (s.setIndex i ((s.index i).point 0)).setIndex i {} := by
    unfold delIndexSide
    rw [hpos]
    simp only [dropIndex, delIndexWrite, moveMeta]
    simp only [reduceCtorEq, if_false]
    rw [show (s.setIndex i ((s.index i).point 0)).linkSlot i = i from hi]
  rw [hside]
  refine ⟨?_, rfl, rfl⟩
  rw [index_setIndex, index_setIndex, Function.update_idem]

/-- **What a deletion leaves of the index.** -/
theorem IndexInv.delWrites (h : s.IndexInv chain) (hs : s.Sized) (ruleFirst expn : Bool) {x : Nat} (hlt : x < s.slots)
    (hx : s.heldAt x ≠ none) : ∃ chain', (s.delWrites ruleFirst expn x).IndexInv chain' := by
  obtain ⟨c, hcx⟩ := Option.ne_none_iff_exists'.1 hx
  have hent := (h.entry x c hcx).2.2
  have hst := SameTable.delWrites s ruleFirst expn x
  have hheld := heldAt_update hlt hst (helds_delWrites ruleFirst expn x)
  obtain ⟨hindex, hmeta, hrefs⟩ := delWrites_indexSide s ruleFirst expn x
  generalize s.delWrites ruleFirst expn x = t at hst hheld hindex hmeta hrefs ⊢
  obtain ⟨hib, h0⟩ | ⟨b, y, l, r, hb, hc, hiy, hun⟩ := h.delIndexSide hs hx
  · obtain ⟨hi', hm', hr'⟩ := delIndexSide_onlyOne hib h0
    refine ⟨chain, h.clear hst hx rfl hib h0 (hindex.trans hi') (hmeta.trans hm') ?_ hheld⟩
    intro x' hx'
    rw [hrefs x' hx', hr']
  · refine ⟨_, h.unlink hst hx rfl hb hc hiy (hun.congr hindex hmeta ?_) hheld⟩
    intro x' hx'
    rw [hent] at hx'
    exact hrefs x' hx'

/-- The sweep does not touch the index, nor a rule it holds. -/
theorem IndexInv.delDeadIpv4HeadNodes (h : s.IndexInv chain) : s.delDeadIpv4HeadNodes.IndexInv chain := by
  refine Lib.forRange_inv' (fun u : Ip4TableCache => u.IndexInv chain) h fun k u _ hu => ?_
  have hst := SameTable.delDeadHead u k
  have hheld : (u.delDeadHead k).heldAt = u.heldAt := by
    funext x
    unfold heldAt
    rw [hst.slots, helds_delDeadHead]
  refine hu.congr hst ?_ ?_ hheld ?_
  · unfold delDeadHead
    split <;> rfl
  · unfold delDeadHead
    split <;> rfl
  · intro x hx
    unfold delDeadHead
    split
    · rename_i hd
      have hne : x ≠ k := by
        rintro rfl
        refine hx ?_
        unfold heldAt
        split
        · exact NatRule.held_of_dead hd.1
        · rfl
      rw [refs_setRule, Function.update_of_ne hne]
    · rfl

theorem IndexInv.setRuleId (h : s.IndexInv chain) (i v : Nat) : (s.setRuleId i v).IndexInv chain :=
  h.congr (.setRuleId ..) rfl rfl rfl fun _ _ => rfl

/-- A deletion, as a whole. -/
theorem IndexInv.deleted (h : s.IndexInv chain) (hs : s.Sized) (ruleFirst expn : Bool) (entry ruleHdl : Nat)
    (hlt : s.slot expn entry < s.slots) (hx : s.heldAt (s.slot expn entry) ≠ none) :
    ∃ chain', (s.deleted ruleFirst expn entry ruleHdl).IndexInv chain' := by
  obtain ⟨chain', h'⟩ := h.delWrites hs ruleFirst expn hlt hx
  exact ⟨chain', h'.delDeadIpv4HeadNodes.setRuleId ..⟩

end Ip4TableCache
end HiaeCommon
