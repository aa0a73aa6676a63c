/-
Rule handles. What matters to them of a table is which slots hold a rule
(`helds`): the links between slots, the index and the cross references of
`sw_spec_params` do not. So nothing here depends on the chains being sound.
-/
import HiaeCommon.Ipanat.NatDelWrites
import HiaeCommon.Lib.Ownership
import Mathlib.Data.Finset.Card
import Mathlib.Order.Interval.Finset.Nat

namespace HiaeCommon

open Function (update)
open Lib (Exact Run)

namespace NatRule

/-- What the handles see of a record. -/
def view (r : NatRule) : Bool × IpaNatIpv4Rule := (r.enable, r.clntRule)

/-- The rule a record holds: it is enabled, and no dead head. -/
def held (r : NatRule) : Option IpaNatIpv4Rule :=
  if r.enable = true ∧ r.protocol ≠ ipaNatInvalidProtoFieldCmp then some r.clntRule else none

theorem held_congr {r r' : NatRule} (h : r.view = r'.view) : r.held = r'.held := by
  obtain ⟨hen, hrule⟩ := Prod.mk.inj h
  have hproto : r.protocol = r'.protocol := congrArg IpaNatIpv4Rule.protocol hrule
  simp only [held, hen, hproto, hrule]

theorem held_eq_some {r : NatRule} {c : IpaNatIpv4Rule} :
    r.held = some c ↔ r.enable = true ∧ r.protocol ≠ ipaNatInvalidProtoFieldCmp ∧ r.clntRule = c := by
  unfold held
  split
  · rename_i h
    simp [h.1, h.2]
  · rename_i h
    constructor
    · exact fun h' => (nomatch h')
    · exact fun h' => absurd ⟨h'.1, h'.2.1⟩ h

theorem held_of_disabled {r : NatRule} (h : r.enable = false) : r.held = none := by
  unfold held
  rw [if_neg]
  rintro ⟨hen, -⟩
  rw [h] at hen
  cases hen

theorem held_of_dead {r : NatRule} (h : r.protocol = ipaNatInvalidProtoFieldCmp) : r.held = none := by
  unfold held
  rw [if_neg]
  exact fun h' => h'.2 h

@[simp] theorem view_link (r : NatRule) (next : Nat) : (r.link next).view = r.view := rfl
@[simp] theorem view_updatePrevIndex (r : NatRule) (v : Nat) : (r.updatePrevIndex v).view = r.view := rfl
@[simp] theorem view_updateIndxTblEntry (r : NatRule) (v : Nat) : (r.updateIndxTblEntry v).view = r.view := rfl
@[simp] theorem view_enabled (r : NatRule) : r.enabled.view = (true, r.clntRule) := rfl

end NatRule

namespace Ip4TableCache

variable {s t : Ip4TableCache}

/-- What the handles see of the slots. -/
def views (s : Ip4TableCache) (x : Nat) : Bool × IpaNatIpv4Rule := (s.rules x).view

/-- The rule each slot holds. -/
def helds (s : Ip4TableCache) (x : Nat) : Option IpaNatIpv4Rule := (s.rules x).held

theorem views_setRule (s : Ip4TableCache) (i : Nat) (r : NatRule) : (s.setRule i r).views = update s.views i r.view := by
  funext x
  by_cases hx : x = i
  · subst hx
    simp [views]
  · simp [views, hx]

theorem views_setRule_same (s : Ip4TableCache) (i : Nat) (r : NatRule) (h : r.view = (s.rules i).view) :
    (s.setRule i r).views = s.views := by
  rw [views_setRule, h]
  exact Function.update_eq_self i s.views

theorem helds_congr (h : t.views = s.views) : t.helds = s.helds := by
  funext x
  exact NatRule.held_congr (congrFun h x)

theorem helds_setRule (s : Ip4TableCache) (i : Nat) (r : NatRule) : (s.setRule i r).helds = update s.helds i r.held := by
  funext x
  by_cases hx : x = i
  · subst hx
    simp [helds]
  · simp [helds, hx]

@[simp] theorem views_setIndex (s : Ip4TableCache) (i : Nat) (e : IndxTblRule) : (s.setIndex i e).views = s.views := rfl
@[simp] theorem views_setMeta (s : Ip4TableCache) (i v : Nat) : (s.setMeta i v).views = s.views := rfl

@[simp] theorem views_linkRule (s : Ip4TableCache) (prev entry : Nat) : (s.linkRule prev entry).views = s.views := by
  unfold linkRule
  split
  · rfl
  · exact views_setRule_same _ _ _ rfl

@[simp] theorem views_linkIndex (s : Ip4TableCache) (prev entry : Nat) : (s.linkIndex prev entry).views = s.views := by
  unfold linkIndex
  split <;> rfl

@[simp] theorem views_noteMeta (s : Ip4TableCache) (ientry prev : Nat) : (s.noteMeta ientry prev).views = s.views := by
  unfold noteMeta
  split <;> rfl

@[simp] theorem views_movePrev (s : Ip4TableCache) (cur : Nat) (pos : DelType) : (s.movePrev cur pos).views = s.views := by
  unfold movePrev
  split
  · exact views_setRule_same _ _ _ rfl
  · rfl

theorem views_dropIndex (s : Ip4TableCache) (i k : Nat) (pos : DelType) : (s.dropIndex i k pos).views = s.views := by
  unfold dropIndex
  split
  · have hup : ∀ (u : Ip4TableCache) (x : Nat), (u.setRule x ((u.rules x).updateIndxTblEntry i)).views = u.views :=
      fun u x => views_setRule_same _ _ _ rfl
    refine (hup _ _).trans ?_
    rw [views_setIndex]
    unfold views
    rw [rules_moveNextMeta]
  · rw [views_setIndex]
    unfold moveMeta
    split <;> rfl

theorem views_delIndexWrite (s : Ip4TableCache) (i : Nat) (pos : DelType) (t : Ip4TableCache) :
    (s.delIndexWrite i pos t).views = t.views := by
  cases pos <;> rfl

/-- **An addition** puts its rule into a slot. -/
theorem helds_addWrites (rule : NatRule) {irule : IndxTblSwRule} {entry ientry : Nat} (hentry : entry < 2 ^ 16)
    (hproto : rule.protocol ≠ ipaNatInvalidProtoFieldCmp) :
    (s.addWrites rule irule entry ientry).helds = update s.helds entry (some rule.clntRule) := by
  unfold addWrites
  simp only [linkSlot_eq hentry]
  rw [helds_setRule]
  -- the record in the slot, before it is enabled
  have hview : ((((s.setRule entry rule).linkRule rule.prevIndex entry).setIndex ientry
      ⟨irule.tblEntry, irule.nextIndex⟩).linkIndex irule.prevIndex ientry).views = update s.views entry rule.view := by
    rw [views_linkIndex, views_setIndex, views_linkRule, views_setRule]
  have hrec := congrFun hview entry
  rw [Function.update_self] at hrec
  obtain ⟨-, hrule⟩ := Prod.mk.inj hrec
  have hproto' := congrArg IpaNatIpv4Rule.protocol hrule
  funext x
  by_cases hx : x = entry
  · subst hx
    rw [Function.update_self, Function.update_self, NatRule.held_eq_some]
    exact ⟨rfl, fun h => hproto (hproto'.symm.trans h), hrule⟩
  · rw [Function.update_of_ne hx, Function.update_of_ne hx]
    have := congrFun hview x
    rw [Function.update_of_ne hx] at this
    exact NatRule.held_congr this

theorem helds_written {rule : NatRule} {irule : IndxTblSwRule} {entry ientry : Nat} (hentry : entry < 2 ^ 16)
    (hproto : rule.protocol ≠ ipaNatInvalidProtoFieldCmp) :
    (s.written rule irule entry ientry).helds = update s.helds entry (some rule.clntRule) := by
  have hnote : (s.noteMeta ientry irule.prevIndex).helds = s.helds := helds_congr (views_noteMeta ..)
  unfold written
  refine (helds_addWrites { rule with indxTblEntry := ientry } hentry hproto).trans ?_
  rw [hnote]
  rfl

theorem helds_added (s : Ip4TableCache) (rule : NatRule) (irule : IndxTblSwRule) {entry : Nat} (ientry : Nat)
    (hentry : entry < 2 ^ 16) (hproto : rule.protocol ≠ ipaNatInvalidProtoFieldCmp) :
    (s.added rule irule entry ientry).1.helds = update s.helds entry (some rule.clntRule) := by
  have hviews : (s.added rule irule entry ientry).1.views = (s.written rule irule entry ientry).views := by
    unfold views added
    rw [rules_makeRuleHdl]
  rw [helds_congr hviews, helds_written hentry hproto]

/-- **A deletion** takes the rule out of its slot, and no other. -/
theorem helds_delWrites (ruleFirst expn : Bool) (cur : Nat) :
    (s.delWrites ruleFirst expn cur).helds = update s.helds cur none := by
  unfold delWrites
  rw [helds_congr (views_dropIndex ..)]
  have hdma : ∀ pos ipos, (s.delDma ruleFirst cur (s.rules cur) pos ipos).views =
      update s.views (s.delSlot cur (s.rules cur) pos)
        (delRecord (s.rules cur) pos (s.rules (s.delSlot cur (s.rules cur) pos))).view := by
    intro pos ipos
    unfold delDma
    cases ruleFirst with
    | true => rw [if_pos rfl, views_delIndexWrite, delRuleWrite, views_setRule]
    | false =>
      have hrules : (s.delIndexWrite (s.rules cur).indxTblEntry ipos s).rules = s.rules := by
        cases ipos <;> rfl
      rw [if_neg (by decide), delRuleWrite, views_setRule, views_delIndexWrite, hrules]
  -- a record that is cleared is gone whatever was written before
  have hclear : ∀ u : Ip4TableCache, (∀ x, x ≠ cur → u.views x = s.views x) → (u.setRule cur .zero).helds =
      update s.helds cur none := by
    intro u hu
    funext x
    rw [helds_setRule]
    by_cases hx : x = cur
    · subst hx
      rw [Function.update_self, Function.update_self]
      rfl
    · rw [Function.update_of_ne hx, Function.update_of_ne hx]
      exact NatRule.held_congr (hu x hx)
  unfold clearRule
  cases hpos : s.rulePos expn cur with
  | onlyOne =>
    rw [if_neg (by decide)]
    refine hclear _ fun x hx => ?_
    rw [views_movePrev, hdma]
    exact Function.update_of_ne hx ..
  | head =>
    rw [if_pos rfl, helds_congr (views_movePrev ..)]
    funext x
    have hx' := congrFun (hdma .head (s.indexPos (s.rules cur).indxTblEntry)) x
    by_cases hx : x = cur
    · subst hx
      rw [show s.delSlot x (s.rules x) .head = x from rfl, Function.update_self] at hx'
      rw [Function.update_self]
      exact (NatRule.held_congr hx').trans (NatRule.held_of_dead rfl)
    · rw [show s.delSlot cur (s.rules cur) .head = cur from rfl, Function.update_of_ne hx] at hx'
      rw [Function.update_of_ne hx]
      exact NatRule.held_congr hx'
  | middle =>
    rw [if_neg (by decide)]
    refine hclear _ fun x _ => ?_
    rw [views_movePrev, hdma]
    exact congrFun (Function.update_eq_self _ s.views) x
  | last =>
    rw [if_neg (by decide)]
    refine hclear _ fun x _ => ?_
    rw [views_movePrev, hdma]
    exact congrFun (Function.update_eq_self _ s.views) x

theorem helds_delDeadHead (s : Ip4TableCache) (cnt : Nat) : (s.delDeadHead cnt).helds = s.helds := by
  unfold delDeadHead
  split
  · rename_i h
    rw [helds_setRule, show NatRule.zero.held = none from rfl, ← NatRule.held_of_dead h.1]
    exact Function.update_eq_self cnt s.helds
  · rfl

theorem helds_delDeadIpv4HeadNodes (s : Ip4TableCache) : s.delDeadIpv4HeadNodes.helds = s.helds :=
  Lib.forRange_inv' (fun t : Ip4TableCache => t.helds = s.helds) rfl fun _ _ _ h => (helds_delDeadHead ..).trans h

theorem helds_deleted (ruleFirst expn : Bool) (entry ruleHdl : Nat) :
    (s.deleted ruleFirst expn entry ruleHdl).helds = update s.helds (s.slot expn entry) none := by
  show (s.delWrites ruleFirst expn (s.slot expn entry)).delDeadIpv4HeadNodes.helds = _
  rw [helds_delDeadIpv4HeadNodes, helds_delWrites]

/-! ## Slots and handles -/

/-- The slot an entry of `rule_id_array` names. -/
def idSlot (s : Ip4TableCache) (id : Nat) : Nat := s.slot (id % 2 == 1) (id / 2)

/-- The rule a slot of the table holds. -/
def heldAt (s : Ip4TableCache) (x : Nat) : Option IpaNatIpv4Rule := if x < s.slots then s.helds x else none

theorem heldAt_eq_some {x : Nat} {r : IpaNatIpv4Rule} : s.heldAt x = some r ↔ x < s.slots ∧ s.helds x = some r := by
  unfold heldAt
  by_cases hx : x < s.slots <;> simp [hx]

theorem heldAt_update {x : Nat} {o : Option IpaNatIpv4Rule} (hx : x < s.slots) (hs : SameTable s t)
    (h : t.helds = update s.helds x o) : t.heldAt = update s.heldAt x o := by
  funext y
  unfold heldAt
  rw [hs.slots, h]
  by_cases hy : y = x
  · subst hy
    rw [if_pos hx, Function.update_self, Function.update_self]
  · rw [Function.update_of_ne hy, Function.update_of_ne hy]

/-- **Encoding a slot and decoding it.** -/
theorem idSlot_ruleId (hs : s.Sized) {x : Nat} (hx : x < s.slots) : s.idSlot (s.ruleId x) = x := by
  have ht := hs.table_le
  have he := hs.expn_le
  unfold slots at hx
  unfold idSlot ruleId slot u16
  by_cases hge : x ≥ s.tableEntries
  · rw [if_pos hge, sub16_of_le hge (by omega)]
    have h2 : (2 * (x - s.tableEntries) % 2 ^ 16 + 1) % 2 = 1 := by omega
    have h3 : (2 * (x - s.tableEntries) % 2 ^ 16 + 1) / 2 = x - s.tableEntries := by omega
    rw [h2, h3]
    exact Nat.add_sub_cancel' hge
  · rw [if_neg hge]
    have h2 : 2 * x % 2 ^ 16 % 2 = 0 := by omega
    have h3 : 2 * x % 2 ^ 16 / 2 = x := by omega
    rw [h2, h3]
    rfl

theorem ruleId_ne_zero (hs : s.Sized) {x : Nat} (hx : x ≠ 0) : s.ruleId x ≠ 0 := by
  have ht := hs.table_le
  unfold ruleId u16
  split <;> omega

/-- The entry of a slot that is entry 0 of neither table is not 0. -/
theorem ruleId_entry (hs : s.Sized) {x : Nat} (hx : x < s.slots) :
    (s.ruleId x % 2 == 1) = decide (s.tableEntries ≤ x) ∧
      s.ruleId x / 2 = if s.tableEntries ≤ x then x - s.tableEntries else x := by
  have ht := hs.table_le
  have he := hs.expn_le
  unfold slots at hx
  unfold ruleId u16
  by_cases hge : s.tableEntries ≤ x
  · rw [if_pos hge, if_pos hge, sub16_of_le hge (by omega)]
    constructor
    · rw [decide_eq_true hge, beq_iff_eq]
      omega
    · omega
  · rw [if_neg hge, if_neg hge]
    constructor
    · rw [decide_eq_false hge, beq_eq_false_iff_ne]
      omega
    · omega

end Ip4TableCache

namespace Session

variable {s t : Session}

/-- The slot and the rule of a live handle. -/
def own (s : Session) (h : Nat) : Option (Nat × IpaNatIpv4Rule) :=
  (s.live h).map fun r => (s.tbl.idSlot (s.tbl.ruleIdArray (h - 1)), r)

/-- **The handles account for the slots**: a live handle and the slot with its
rule name each other, and every place of the array in use is one of a live handle. -/
structure Handles (s : Session) : Prop where
  sized : s.tbl.Sized
  exact : Exact s.own s.tbl.heldAt
  range : ∀ h r, s.live h = some r → h ≠ 0 ∧ h < s.tbl.slots
  ruleId : ∀ h r, s.live h = some r →
    s.tbl.ruleIdArray (h - 1) = s.tbl.ruleId (s.tbl.idSlot (s.tbl.ruleIdArray (h - 1)))
  live_of_id : ∀ k, k < s.tbl.slots → s.tbl.ruleIdArray k ≠ 0 → s.live (k + 1) ≠ none
  entry : ∀ x r, s.tbl.heldAt x = some r → x ≠ 0 ∧ x ≠ s.tbl.tableEntries

theorem own_eq_some {h x : Nat} {r : IpaNatIpv4Rule} : s.own h = some (x, r) ↔
    s.live h = some r ∧ s.tbl.idSlot (s.tbl.ruleIdArray (h - 1)) = x := by
  unfold own
  cases s.live h with
  | none => simp
  | some r' =>
    simp only [Option.map_some, Option.some.injEq, Prod.mk.injEq]
    exact And.comm

namespace Handles

theorem held (hh : s.Handles) {h : Nat} {r : IpaNatIpv4Rule} (hl : s.live h = some r) :
    s.tbl.heldAt (s.tbl.idSlot (s.tbl.ruleIdArray (h - 1))) = some r :=
  hh.exact.live_of_own h _ r (own_eq_some.2 ⟨hl, rfl⟩)

/-- **The handle space outlasts the slots**: as long as a slot is free, so is a
place of the array below the last. -/
theorem room (hh : s.Handles) {e : Nat} (he0 : e ≠ 0) (he : e < s.tbl.slots) (hfree : s.tbl.heldAt e = none) :
    ∃ k, k < s.tbl.slots - 1 ∧ s.tbl.ruleIdArray k = 0 := by
  by_contra hnone
  have hused : ∀ k, k < s.tbl.slots - 1 → ∃ r, s.live (k + 1) = some r := by
    intro k hk
    have hid : s.tbl.ruleIdArray k ≠ 0 := fun h0 => hnone ⟨k, hk, h0⟩
    exact Option.ne_none_iff_exists'.1 (hh.live_of_id k (by omega) hid)
  -- the live handles' slots are distinct, and neither 0 nor `e`
  have hcard : (Finset.range (s.tbl.slots - 1)).card ≤ ((Finset.Ico 1 s.tbl.slots).erase e).card := by
    apply Finset.card_le_card_of_injOn fun k => s.tbl.idSlot (s.tbl.ruleIdArray k)
    · intro k hk
      obtain ⟨r, hr⟩ := hused k (Finset.mem_range.1 (Finset.mem_coe.1 hk))
      have hheld := hh.held hr
      rw [Nat.add_sub_cancel] at hheld
      have hlt := (Ip4TableCache.heldAt_eq_some.1 hheld).1
      have hne := hh.entry _ r hheld
      simp only [Finset.coe_erase, Finset.coe_Ico, Set.mem_sdiff, Set.mem_Ico, Set.mem_singleton_iff]
      refine ⟨⟨by omega, hlt⟩, fun heq => ?_⟩
      rw [heq, hfree] at hheld
      cases hheld
    · intro j hj k hk heq
      obtain ⟨r, hr⟩ := hused j (Finset.mem_range.1 (Finset.mem_coe.1 hj))
      obtain ⟨r', hr'⟩ := hused k (Finset.mem_range.1 (Finset.mem_coe.1 hk))
      have hinj := hh.exact.inj (j + 1) (k + 1) _ r r' (own_eq_some.2 ⟨hr, rfl⟩) (own_eq_some.2 ⟨hr', ?_⟩)
      · omega
      · rw [Nat.add_sub_cancel, Nat.add_sub_cancel]
        exact heq.symm
  have hmem : e ∈ Finset.Ico 1 s.tbl.slots := Finset.mem_Ico.2 ⟨by omega, he⟩
  rw [Finset.card_range, Finset.card_erase_of_mem hmem, Nat.card_Ico] at hcard
  omega

/-- The own map after a place of the array changed hands. -/
theorem own_update {h : Nat} (hr : ∀ h r, s.live h = some r → h ≠ 0) (h0 : h ≠ 0) {id : Nat}
    (hs : Ip4TableCache.SameTable s.tbl t.tbl) (hids : t.tbl.ruleIdArray = update s.tbl.ruleIdArray (h - 1) id)
    {o : Option IpaNatIpv4Rule} (hlive : t.live = update s.live h o) :
    t.own = update s.own h (o.map fun r => (s.tbl.idSlot id, r)) := by
  have hslot : ∀ id, t.tbl.idSlot id = s.tbl.idSlot id := fun id => by
    unfold Ip4TableCache.idSlot Ip4TableCache.slot
    rw [hs.tableEntries]
  funext k
  unfold own
  rw [hlive, hids]
  by_cases hk : k = h
  · subst hk
    rw [Function.update_self, Function.update_self, Function.update_self, hslot]
  · rw [Function.update_of_ne hk, Function.update_of_ne hk]
    cases hl : s.live k with
    | none => rfl
    | some r =>
      have hne : k - 1 ≠ h - 1 := by
        have := hr k r hl
        omega
      rw [Function.update_of_ne hne, hslot]

/-- **A rule added** takes a free slot and a free place, and they name each other. -/
theorem add (hh : s.Handles) {e k : Nat} {r : IpaNatIpv4Rule} (he0 : e ≠ 0) (hek : e ≠ s.tbl.tableEntries)
    (he : e < s.tbl.slots) (hfree : s.tbl.heldAt e = none) (hk : k < s.tbl.slots - 1) (hid : s.tbl.ruleIdArray k = 0)
    (hs : Ip4TableCache.SameTable s.tbl t.tbl) (helds : t.tbl.helds = update s.tbl.helds e (some r))
    (hids : t.tbl.ruleIdArray = update s.tbl.ruleIdArray k (s.tbl.ruleId e))
    (hlive : t.live = update s.live (k + 1) (some r)) : s.live (k + 1) = none ∧ t.Handles := by
  have hslots := hs.slots
  have hheld : t.tbl.heldAt = update s.tbl.heldAt e (some r) := Ip4TableCache.heldAt_update he hs helds
  have hrid : ∀ x, t.tbl.ruleId x = s.tbl.ruleId x := fun x => by
    unfold Ip4TableCache.ruleId
    rw [hs.tableEntries]
  have hslot : ∀ id, t.tbl.idSlot id = s.tbl.idSlot id := fun id => by
    unfold Ip4TableCache.idSlot Ip4TableCache.slot
    rw [hs.tableEntries]
  -- a live handle has its place in use
  have hnone : s.live (k + 1) = none := by
    cases hl : s.live (k + 1) with
    | none => rfl
    | some r' =>
      have hid' := hh.ruleId (k + 1) r' hl
      have hne := (hh.entry _ r' (hh.held hl)).1
      rw [Nat.add_sub_cancel, hid] at hid' hne
      exact absurd hid'.symm (Ip4TableCache.ruleId_ne_zero hh.sized hne)
  have hids' : t.tbl.ruleIdArray = update s.tbl.ruleIdArray (k + 1 - 1) (s.tbl.ruleId e) := by
    rw [Nat.add_sub_cancel]
    exact hids
  have hown := own_update (fun h r hl => (hh.range h r hl).1) (Nat.succ_ne_zero k) hs hids' hlive
  rw [Ip4TableCache.idSlot_ruleId hh.sized he] at hown
  have hex := hh.exact.alloc r (show s.own (k + 1) = none by unfold own; rw [hnone]; rfl) hfree
  refine ⟨hnone, ⟨hs.sized hh.sized, ?_, ?_, ?_, ?_, ?_⟩⟩
  · rw [hown, hheld]
    exact hex
  · intro h r' hl
    rw [hslots]
    rw [hlive] at hl
    by_cases hhk : h = k + 1
    · omega
    · rw [Function.update_of_ne hhk] at hl
      exact hh.range h r' hl
  · intro h r' hl
    rw [hslot, hrid, hids]
    rw [hlive] at hl
    by_cases hhk : h = k + 1
    · subst hhk
      rw [Nat.add_sub_cancel, Function.update_self, Ip4TableCache.idSlot_ruleId hh.sized he]
    · rw [Function.update_of_ne hhk] at hl
      have hne : h - 1 ≠ k := by
        have := (hh.range h r' hl).1
        omega
      rw [Function.update_of_ne hne]
      exact hh.ruleId h r' hl
  · intro j hj hne
    rw [hlive]
    by_cases hjk : j = k
    · subst hjk
      rw [Function.update_self]
      exact Option.some_ne_none r
    · rw [hids, Function.update_of_ne hjk] at hne
      rw [Function.update_of_ne (show j + 1 ≠ k + 1 by omega)]
      exact hh.live_of_id j (by omega) hne
  · intro x r' hx
    rw [hs.tableEntries]
    rw [hheld] at hx
    by_cases hxe : x = e
    · subst hxe
      exact ⟨he0, hek⟩
    · rw [Function.update_of_ne hxe] at hx
      exact hh.entry x r' hx

/-- **A rule deleted** frees its slot and its place. -/
theorem delete (hh : s.Handles) {h : Nat} {r : IpaNatIpv4Rule} (hl : s.live h = some r)
    (hs : Ip4TableCache.SameTable s.tbl t.tbl)
    (helds : t.tbl.helds = update s.tbl.helds (s.tbl.idSlot (s.tbl.ruleIdArray (h - 1))) none)
    (hids : t.tbl.ruleIdArray = update s.tbl.ruleIdArray (h - 1) 0) (hlive : t.live = update s.live h none) :
    t.Handles := by
  have hslots := hs.slots
  have hlt := (Ip4TableCache.heldAt_eq_some.1 (hh.held hl)).1
  have hheld : t.tbl.heldAt = update s.tbl.heldAt _ none := Ip4TableCache.heldAt_update hlt hs helds
  have hrid : ∀ x, t.tbl.ruleId x = s.tbl.ruleId x := fun x => by
    unfold Ip4TableCache.ruleId
    rw [hs.tableEntries]
  have hslot : ∀ id, t.tbl.idSlot id = s.tbl.idSlot id := fun id => by
    unfold Ip4TableCache.idSlot Ip4TableCache.slot
    rw [hs.tableEntries]
  have h0 := (hh.range h r hl).1
  have hown := own_update (fun h r hl => (hh.range h r hl).1) h0 hs hids hlive
  have hex := hh.exact.free (own_eq_some.2 ⟨hl, rfl⟩)
  have hne : ∀ h' r', t.live h' = some r' → s.live h' = some r' ∧ h' - 1 ≠ h - 1 := by
    intro h' r' hl'
    rw [hlive] at hl'
    by_cases hhk : h' = h
    · subst hhk
      simp at hl'
    · rw [Function.update_of_ne hhk] at hl'
      have := (hh.range h' r' hl').1
      exact ⟨hl', by omega⟩
  refine ⟨hs.sized hh.sized, ?_, ?_, ?_, ?_, ?_⟩
  · rw [hown, hheld]
    exact hex
  · intro h' r' hl'
    rw [hslots]
    exact hh.range h' r' (hne h' r' hl').1
  · intro h' r' hl'
    rw [hslot, hrid, hids, Function.update_of_ne (hne h' r' hl').2]
    exact hh.ruleId h' r' (hne h' r' hl').1
  · intro j hj hid
    rw [hids] at hid
    by_cases hjk : j = h - 1
    · subst hjk
      simp at hid
    · rw [Function.update_of_ne hjk] at hid
      rw [hlive, Function.update_of_ne (show j + 1 ≠ h by omega)]
      exact hh.live_of_id j (by omega) hid
  · intro x r' hx
    rw [hs.tableEntries]
    rw [hheld] at hx
    by_cases hxe : x = s.tbl.idSlot (s.tbl.ruleIdArray (h - 1))
    · subst hxe
      simp at hx
    · rw [Function.update_of_ne hxe] at hx
      exact hh.entry x r' hx

/-! ## Calls -/

/-- **A call that adds a rule** finds no slots and changes nothing, or returns
a handle of no live rule. -/
theorem addIpv4Rule (hh : s.Handles) {r : IpaNatIpv4Rule} (hp : r.protocol ≠ ipaNatInvalidProtoFieldCmp)
    {u : Ip4TableCache} {ret : Except Errno Nat} (h : s.tbl.addIpv4Rule r {} = .ok (u, ret)) :
    ((∃ e, s.tbl.generateRule r = .ok (s.tbl, .error e)) ∧ ret = .error .einval ∧ u = s.tbl) ∨
      ∃ hdl, ret = .ok hdl ∧ hdl ≠ 0 ∧ hdl < s.tbl.slots ∧ s.live hdl = none ∧
        Handles ⟨u, update s.live hdl (some r)⟩ := by
  obtain hnone | ⟨rule, entry, irule, ientry, he, -, htbl, -, hfits, rfl, rfl⟩ := Ip4TableCache.addIpv4Rule_ok hh.sized h
  · exact .inl hnone
  obtain ⟨hek, hen, hrule, -, -⟩ := htbl.spec hh.sized he
  have hfree : s.tbl.heldAt entry = none := by
    unfold Ip4TableCache.heldAt
    rw [if_pos hfits.entry_lt]
    exact NatRule.held_of_disabled hen
  have hlt := hh.sized.slots_lt
  -- the first free place of the array
  obtain ⟨k, hk, hk0⟩ := hh.room he hfits.entry_lt hfree
  have hex : ∃ k, s.tbl.ruleIdArray k = 0 := ⟨k, hk0⟩
  have hfirst : ∀ j < Nat.find hex, s.tbl.ruleIdArray j ≠ 0 := fun j hj => Nat.find_min hex hj
  have hle : Nat.find hex ≤ k := Nat.find_min' hex hk0
  have hsame := Ip4TableCache.SameTable.written s.tbl rule irule entry ientry
  have hids := Ip4TableCache.ruleIdArray_written s.tbl rule irule entry ientry
  have hspec : ∀ j < Nat.find hex, (s.tbl.written rule irule entry ientry).ruleIdArray j ≠ 0 := by
    rw [hids]
    exact hfirst
  obtain ⟨hret, hids'⟩ := Ip4TableCache.makeRuleHdl_of_free entry (by rw [hsame.slots]; omega)
    (by rw [hids]; exact Nat.find_spec hex) hspec
  rw [u16_of_lt (by omega)] at hret
  have hretok : Ip4TableCache.hdlRet (s.tbl.added rule irule entry ientry).2 = .ok (Nat.find hex + 1) := by
    unfold Ip4TableCache.hdlRet Ip4TableCache.added
    rw [hret, if_neg (Nat.succ_ne_zero _)]
  have hrid : (s.tbl.written rule irule entry ientry).ruleId entry = s.tbl.ruleId entry := by
    unfold Ip4TableCache.ruleId
    rw [hsame.tableEntries]
  rw [hids, hrid] at hids'
  have hhelds : (s.tbl.added rule irule entry ientry).1.helds = update s.tbl.helds entry (some r) := by
    have hproto : rule.protocol ≠ ipaNatInvalidProtoFieldCmp := by
      rw [← hrule] at hp
      exact hp
    rw [Ip4TableCache.helds_added _ _ _ _ (Nat.lt_trans hfits.entry_lt hlt) hproto, hrule]
  obtain ⟨hnone, hadd⟩ := hh.add (t := ⟨(s.tbl.added rule irule entry ientry).1,
    update s.live (Nat.find hex + 1) (some r)⟩) he hek hfits.entry_lt hfree (Nat.lt_of_le_of_lt hle hk)
    (Nat.find_spec hex) (.added ..) hhelds hids' rfl
  exact .inr ⟨_, hretok, Nat.succ_ne_zero _, by omega, hnone, hadd⟩

/-- **A call that deletes a rule** fails and changes nothing, or the handle was live. -/
theorem delIpv4Rule (hh : s.Handles) {ruleHdl : Nat} {calls : DelCalls} (hc : (Call.del ruleHdl calls).Reliable)
    {u : Ip4TableCache} {ret : Except Errno Unit} (h : s.tbl.delIpv4Rule ruleHdl calls = .ok (u, ret)) :
    (∃ e, ret = .error e ∧ u = s.tbl) ∨ ret = .ok () ∧ ∃ r expn entry ruleFirst, s.live ruleHdl = some r ∧
      s.tbl.idSlot (s.tbl.ruleIdArray (ruleHdl - 1)) = s.tbl.slot expn entry ∧
      (expn = false → entry < s.tbl.tableEntries) ∧ u = s.tbl.deleted ruleFirst expn entry ruleHdl ∧
      Handles ⟨u, update s.live ruleHdl none⟩ := by
  obtain herr | ⟨rfl, expn, entry, ruleFirst, hparse, he, hlt, -, -, hbase, rfl⟩ :=
    Ip4TableCache.delIpv4Rule_ok hh.sized hc h
  · exact .inl herr
  obtain ⟨h0, -, hexpn, hentry⟩ := Ip4TableCache.parseIpv4RuleHdl_ok hparse he
  -- a handle the array has room for is its own low half
  have hslots := hh.sized.slots_lt
  have hu16 : u16 ruleHdl = ruleHdl := by
    by_cases hlt' : ruleHdl < 2 ^ 16
    · exact u16_of_lt hlt'
    · have : ruleHdl = 2 ^ 16 := by omega
      rw [this] at h0
      exact absurd rfl h0
  rw [hu16] at h0 hexpn hentry
  have hid : s.tbl.ruleIdArray (ruleHdl - 1) ≠ 0 := fun hz => he (by rw [hentry, hz])
  have hlive := hh.live_of_id (ruleHdl - 1) hlt hid
  rw [show ruleHdl - 1 + 1 = ruleHdl by omega] at hlive
  obtain ⟨r, hr⟩ := Option.ne_none_iff_exists'.1 hlive
  have hslot : s.tbl.idSlot (s.tbl.ruleIdArray (ruleHdl - 1)) = s.tbl.slot expn entry := by
    rw [hexpn, hentry]
    rfl
  refine .inr ⟨rfl, r, expn, entry, ruleFirst, hr, hslot, hbase, rfl, ?_⟩
  refine hh.delete hr (.deleted ..) ?_ (Ip4TableCache.ruleIdArray_deleted ..) rfl
  rw [hslot]
  exact Ip4TableCache.helds_deleted ..

theorem step (hh : s.Handles) {c : Call} (h : Step Admits s c t) : t.Handles := by
  obtain ⟨hrel, hvalid, h⟩ := h
  cases c with
  | add r calls =>
    obtain rfl : calls = {} := hrel
    obtain ⟨⟨u, ret⟩, hcall, h⟩ := Stuck.bind_eq_ok.1 h
    obtain ⟨-, rfl, rfl⟩ | ⟨hdl, rfl, -, -, -, hadd⟩ := hh.addIpv4Rule hvalid hcall
    · cases h
      exact hh
    · cases h
      exact hadd
  | del ruleHdl calls =>
    obtain ⟨⟨u, ret⟩, hcall, h⟩ := Stuck.bind_eq_ok.1 h
    obtain ⟨e, rfl, rfl⟩ | ⟨rfl, r, -, -, -, -, -, -, -, hdel⟩ := hh.delIpv4Rule hrel hcall
    · cases h
      exact hh
    · cases h
      exact hdel

end Handles

/-- A table as created. -/
theorem fresh_sized {pub : BitVec 32} {n : BitVec 16} {tbl : Ip4TableCache} (h : natiAddIpv4Tbl pub n 0 = some tbl) :
    tbl.Sized := by
  obtain ⟨te, ee, hsize, rfl⟩ := natiAddIpv4Tbl_eq_some.1 h
  have hrange := allocTable_range hsize
  constructor
  · rfl
  · rfl
  · show te ≤ 2 ^ 15
    omega
  · show ee ≤ 2 ^ 14
    omega
  · show te = 0 ∨ 2 ≤ te
    omega

theorem fresh_handles {pub : BitVec 32} {n : BitVec 16} {tbl : Ip4TableCache} (h : natiAddIpv4Tbl pub n 0 = some tbl) :
    (fresh tbl).Handles := by
  have hsized := fresh_sized h
  obtain ⟨te, ee, -, rfl⟩ := natiAddIpv4Tbl_eq_some.1 h
  have hheld : ∀ x, (Ip4TableCache.created pub 0 te ee).heldAt x = none := fun x => by
    unfold Ip4TableCache.heldAt
    split <;> rfl
  refine ⟨hsized, ⟨?_, ?_, ?_⟩, ?_, ?_, ?_, ?_⟩
  · exact fun _ _ _ h => (nomatch h)
  · exact fun _ _ _ _ _ h => (nomatch h)
  · exact fun x r hx => (nomatch (hheld x).symm.trans hx)
  · exact fun _ _ h => (nomatch h)
  · exact fun _ _ h => (nomatch h)
  · exact fun _ _ h => absurd rfl h
  · exact fun x r hx => (nomatch (hheld x).symm.trans hx)

/-- What callers may rely on. A handle is never 0 and names the slot of its
rule, `ipa_nati_parse_ipv4_rule_hdl` finds that slot, and a new handle is fresh,
in range, and there whenever a slot is. -/
structure HandlesSound (s : Session) : Prop where
  slot_of_live : ∀ h r, s.live h = some r → h ≠ 0 ∧ ∃ x, x < s.tbl.slots ∧
    (s.tbl.rules x).enable = true ∧ (s.tbl.rules x).clntRule = r ∧ s.tbl.ruleIdArray (h - 1) = s.tbl.ruleId x ∧
    s.tbl.parseIpv4RuleHdl h =
      .ok (decide (s.tbl.tableEntries ≤ x), if s.tbl.tableEntries ≤ x then x - s.tbl.tableEntries else x)
  slots_distinct : ∀ h h' r r', s.live h = some r → s.live h' = some r' → h ≠ h' →
    s.tbl.ruleIdArray (h - 1) ≠ s.tbl.ruleIdArray (h' - 1)
  hdl_new : ∀ r u hdl, r.protocol ≠ ipaNatInvalidProtoFieldCmp → s.tbl.addIpv4Rule r {} = .ok (u, .ok hdl) →
    hdl ≠ 0 ∧ s.live hdl = none ∧ hdl < s.tbl.slots
  hdl_exists : ∀ r u ret v gen, r.protocol ≠ ipaNatInvalidProtoFieldCmp →
    s.tbl.generateRule r = .ok (v, .ok gen) → s.tbl.addIpv4Rule r {} = .ok (u, ret) → ∃ hdl, ret = .ok hdl

theorem Handles.sound (hh : s.Handles) : s.HandlesSound := by
  constructor
  · intro h r hl
    obtain ⟨h0, hlt⟩ := hh.range h r hl
    have hheld := hh.held hl
    have hid := hh.ruleId h r hl
    obtain ⟨x, hx⟩ : ∃ x, x = s.tbl.idSlot (s.tbl.ruleIdArray (h - 1)) := ⟨_, rfl⟩
    rw [← hx] at hheld hid
    obtain ⟨hxlt, hrule⟩ := Ip4TableCache.heldAt_eq_some.1 hheld
    obtain ⟨hen, -, hclnt⟩ := NatRule.held_eq_some.1 hrule
    refine ⟨h0, x, hxlt, hen, hclnt, hid, ?_⟩
    obtain ⟨hexpn, hentry⟩ := Ip4TableCache.ruleId_entry hh.sized hxlt
    unfold Ip4TableCache.parseIpv4RuleHdl Ip4TableCache.ruleIdAt
    rw [if_neg (by omega), if_neg h0, if_pos (by omega), Stuck.ok_bind, hid, hexpn, hentry]
    rfl
  · intro h h' r r' hl hl' hne heq
    refine hne (hh.exact.inj h h' _ r r' (own_eq_some.2 ⟨hl, rfl⟩) (own_eq_some.2 ⟨hl', ?_⟩))
    rw [heq]
  · intro r u hdl hp hadd
    obtain ⟨-, hret, -⟩ | ⟨hdl', hret, h0, hlt, hnone, -⟩ := hh.addIpv4Rule hp hadd
    · cases hret
    · cases hret
      exact ⟨h0, hnone, hlt⟩
  · intro r u ret v gen hp hgen hadd
    obtain ⟨⟨e, hnone⟩, -, -⟩ | ⟨hdl, hret, -⟩ := hh.addIpv4Rule hp hadd
    · rw [hgen] at hnone
      cases hnone
    · exact ⟨hdl, hret⟩

/-- **Rule handles.** In every run of calls on a table of any size, with any
rules and deletions of any handles, the handles are sound. -/
theorem handles_sound {pub : BitVec 32} {n : BitVec 16} {tbl : Ip4TableCache} {cs : List Call} {s : Session}
    (hnew : natiAddIpv4Tbl pub n 0 = some tbl) (hrun : Run (Step Admits) (fresh tbl) cs s) : s.HandlesSound :=
  (hrun.invariant Handles (fun _ _ _ hstep hh => hh.step hstep) (fresh_handles hnew)).sound

/-- The table of ten entries: eight in the base table, two behind it. -/
def sampleTbl : Ip4TableCache := .created 20 0 8 2

/-- Rules of one base slot, 3, by their client. -/
def sampleRule (privateIp : BitVec 32) (protocol : BitVec 8) : IpaNatIpv4Rule :=
  ⟨3, privateIp, 0, 5000, protocol.setWidth 16, protocol⟩

theorem sampleTbl_new : natiAddIpv4Tbl 20 10 0 = some sampleTbl :=
  natiAddIpv4Tbl_eq_some.2 ⟨8, 2, by decide +kernel, rfl⟩

theorem handles_sound_sample :
    ((fresh sampleTbl).after [.add (sampleRule 1 6) {}, .add (sampleRule 2 6) {}, .del 1 {}]).HandlesSound :=
  handles_sound sampleTbl_new (run_after (by decide +kernel))

/-- **A rule with the protocol of a dead head** is wiped by the next deletion,
though its handle stays: here rule 1, when rule 2 of another slot is deleted. -/
theorem handles_dead_protocol :
    ∃ cs s, Run (Step fun _ _ => True) (fresh sampleTbl) cs s ∧ ¬ s.HandlesSound := by
  refine ⟨[.add (sampleRule 1 0xFF) {}, .add ⟨4, 2, 0, 5000, 6, 6⟩ {}, .del 2 {}], _, run_after (by decide +kernel), ?_⟩
  intro h
  obtain ⟨-, x, hx, hen, hrule, -, -⟩ := h.slot_of_live 1 (sampleRule 1 0xFF) (by decide +kernel)
  have hnone : ∀ x < sampleTbl.slots, ¬ ((((fresh sampleTbl).after [.add (sampleRule 1 0xFF) {},
      .add ⟨4, 2, 0, 5000, 6, 6⟩ {}, .del 2 {}]).tbl.rules x).enable = true ∧
      (((fresh sampleTbl).after [.add (sampleRule 1 0xFF) {}, .add ⟨4, 2, 0, 5000, 6, 6⟩ {},
        .del 2 {}]).tbl.rules x).clntRule = sampleRule 1 0xFF) := by decide +kernel
  exact hnone x hx ⟨hen, hrule⟩

end Session
end HiaeCommon
