/-
The chains of the rule table. `RuleLinks` is what every single edit keeps, dead
heads aside; `RuleInv` is what every call keeps. Neither looks at the index
table, so both hold whatever state the index is in.
-/
import HiaeCommon.Ipanat.NatHandles
import HiaeCommon.Lib.Chains

namespace HiaeCommon

open Function (update)
open Lib (Linked BackLinked lastFrom Chains Run)

/-- What the chains see of two records is the same. -/
structure NatRule.SameLinks (r r' : NatRule) : Prop where
  next : r.nextIndex = r'.nextIndex
  prev : r.prevIndex = r'.prevIndex
  view : r.view = r'.view

namespace Ip4TableCache

variable {s t : Ip4TableCache} {chain : Nat → List Nat}

/-! ## Walks -/

/-- A slot of the expansion table with a record in it. -/
def ExpnUsed (s : Ip4TableCache) (x : Nat) : Prop :=
  s.tableEntries ≤ x ∧ x < s.slots ∧ (s.rules x).enable = true

/-- **The walk to the end of a chain** finds it, over any table of records whose
`next_index` is what `read` reads. -/
theorem lastEntry_linked {next : Nat → Nat} {read : Nat → Except Stuck Nat} {a p rounds : Nat} {c : List Nat}
    (hl : Linked 0 next a c) (hread : ∀ x ∈ c, read (sub16 x s.tableEntries) = .ok (next x)) (hp : c = [] → p = a)
    (hr : c.length < rounds) : s.lastEntry read rounds p (next a) = .ok (some (lastFrom a c)) := by
  induction c generalizing a p rounds with
  | nil =>
    cases rounds with
    | zero => simp at hr
    | succ rounds =>
      obtain rfl := hp rfl
      rw [lastEntry, if_pos (show next p = ipaNatInvalidNatEntry from hl)]
      rfl
  | cons b c ih =>
    cases rounds with
    | zero => simp at hr
    | succ rounds =>
      have hnd := hl.nodup
      obtain ⟨hb, hab, hc⟩ := hl
      -- no slot is its own successor
      have hself : b ≠ next b := by
        intro heq
        rcases hc.next_mem b (by simp) with h0 | hm
        · exact hb (heq.trans h0)
        · exact (List.nodup_cons.1 (List.nodup_cons.1 hnd).2).1 (heq ▸ hm)
      rw [lastEntry, hab, if_neg (show ¬ b = ipaNatInvalidNatEntry from hb), hread b (by simp), Stuck.ok_bind, if_neg hself]
      refine ih hc (fun x hx => hread x (List.mem_cons_of_mem _ hx)) (fun _ => rfl) ?_
      simp at hr
      omega

/-- Different slots of the table are no more than there are. -/
theorem length_le_slots {c : List Nat} (hnd : c.Nodup) (hlt : ∀ x ∈ c, x < s.slots) : c.length ≤ s.slots := by
  have hsub : c.toFinset ⊆ Finset.range s.slots := by
    intro x hx
    exact Finset.mem_range.2 (hlt x (List.mem_toFinset.1 hx))
  have hcard := Finset.card_le_card hsub
  rw [List.toFinset_card_of_nodup hnd, Finset.card_range] at hcard
  exact hcard

theorem chainEnd_linked (hs : s.Sized) (next : Nat → Nat) {read : Nat → Except Stuck Nat} {b : Nat} {c : List Nat}
    (hl : Linked 0 next b c) (hlt : ∀ x ∈ c, x < s.slots)
    (hread : ∀ x ∈ c, read (sub16 x s.tableEntries) = .ok (next x)) :
    s.chainEnd read b (next b) = .ok (some (lastFrom b c)) := by
  unfold chainEnd
  by_cases h0 : next b = 0
  · obtain rfl := hl.next_eq_null_iff.1 h0
    rw [if_pos (show next b = ipaNatInvalidNatEntry from h0)]
    rfl
  · have hlen := length_le_slots (List.nodup_cons.1 hl.nodup).2 hlt
    have hslots := hs.slots_lt
    rw [if_neg (show ¬ next b = ipaNatInvalidNatEntry from h0)]
    exact lastEntry_linked hl hread (fun hc => absurd (hl.next_eq_null_iff.2 hc) h0) (by omega)

theorem sub16_expn (hs : s.Sized) {x : Nat} (hge : s.tableEntries ≤ x) (hlt : x < s.slots) :
    s.tableEntries + sub16 x s.tableEntries = x := by
  have hslots := hs.slots_lt
  rw [sub16_of_le hge (by omega)]
  omega

theorem readNext_expn (hs : s.Sized) {x : Nat} (hge : s.tableEntries ≤ x) (hlt : x < s.slots) :
    s.readNext (sub16 x s.tableEntries) = .ok (s.rules x).nextIndex := by
  unfold readNext ruleAt
  rw [sub16_expn hs hge hlt, if_pos hlt]
  rfl

/-! ## The links -/

/-- **The chains of the rule table.** Each base slot has one, an empty slot an
empty one, and a rule is on the chain of its hash. -/
structure RuleLinks (s : Ip4TableCache) (chain : Nat → List Nat) : Prop where
  chains : Chains 0 (· < s.tableEntries) s.ExpnUsed (fun x => (s.rules x).nextIndex) (fun x => (s.rules x).prevIndex) chain
  free : ∀ b < s.tableEntries, (s.rules b).enable = false → chain b = []
  alive : ∀ x, s.ExpnUsed x → (s.rules x).protocol ≠ ipaNatInvalidProtoFieldCmp
  hash : ∀ b < s.tableEntries, ∀ x ∈ b :: chain b, ∀ r, s.helds x = some r → s.dstSlot r = b

/-- The same, and below `k` a dead head has a chain behind it. -/
structure RuleInv (s : Ip4TableCache) (chain : Nat → List Nat) (k : Nat) : Prop extends s.RuleLinks chain where
  dead : ∀ b < k, (s.rules b).enable = true → (s.rules b).protocol = ipaNatInvalidProtoFieldCmp → chain b ≠ []

theorem ExpnUsed.congr (hst : SameTable s t) {x : Nat} (h : (t.rules x).enable = (s.rules x).enable) :
    t.ExpnUsed x ↔ s.ExpnUsed x := by
  unfold ExpnUsed
  rw [hst.tableEntries, hst.slots, h]

theorem view_enable {r r' : NatRule} (h : r.view = r'.view) : r.enable = r'.enable := congrArg Prod.fst h

theorem view_protocol {r r' : NatRule} (h : r.view = r'.view) : r.protocol = r'.protocol :=
  congrArg (fun v => IpaNatIpv4Rule.protocol v.2) h

namespace RuleLinks

theorem mem_used (h : s.RuleLinks chain) {b x : Nat} (hb : b < s.tableEntries) (hx : x ∈ chain b) : s.ExpnUsed x :=
  (h.chains.used_of_mem b hb x hx).1

/-- The end of a chain, as the generator finds it. -/
theorem chainEnd_eq (h : s.RuleLinks chain) (hs : s.Sized) {b : Nat} (hb : b < s.tableEntries) :
    s.chainEnd s.readNext b (s.rules b).nextIndex = .ok (some (lastFrom b (chain b))) := by
  refine chainEnd_linked hs (fun x => (s.rules x).nextIndex) (h.chains.linked b hb) ?_ ?_
  · intro x hx
    exact (h.mem_used hb hx).2.1
  · intro x hx
    have hu := h.mem_used hb hx
    exact readNext_expn hs hu.1 hu.2.1

/-- **An edit of a base record** that keeps its `next_index`. -/
theorem setBase (h : s.RuleLinks chain) (hst : SameTable s t) {b : Nat} (hb : b < s.tableEntries)
    (hsame : ∀ x, x ≠ b → (t.rules x).SameLinks (s.rules x))
    (hnext : (t.rules b).nextIndex = (s.rules b).nextIndex) (hfree : (t.rules b).enable = false → chain b = [])
    (hhash : ∀ r, t.helds b = some r → s.dstSlot r = b) : t.RuleLinks chain := by
  have hused : ∀ x, t.ExpnUsed x ↔ s.ExpnUsed x := by
    intro x
    by_cases hx : x = b
    · subst hx
      unfold ExpnUsed
      rw [hst.tableEntries]
      omega
    · exact ExpnUsed.congr hst (view_enable (hsame x hx).view)
  have hne : ∀ x, s.ExpnUsed x → x ≠ b := by
    intro x hx heq
    have := hx.1
    omega
  constructor
  · rw [hst.tableEntries]
    refine h.chains.congr hused ?_ ?_
    · intro x _
      by_cases hx : x = b
      · subst hx
        exact hnext
      · exact (hsame x hx).next
    · intro x hx
      exact (hsame x (hne x hx)).prev
  · intro x hx hen
    rw [hst.tableEntries] at hx
    by_cases hxb : x = b
    · subst hxb
      exact hfree hen
    · rw [view_enable (hsame x hxb).view] at hen
      exact h.free x hx hen
  · intro x hx
    have hx' := (hused x).1 hx
    rw [view_protocol (hsame x (hne x hx')).view]
    exact h.alive x hx'
  · intro a ha x hx r hr
    rw [hst.tableEntries] at ha
    rw [hst.dstSlot]
    by_cases hxb : x = b
    · subst hxb
      rcases List.mem_cons.1 hx with rfl | hx
      · exact hhash r hr
      · exact absurd hb (h.chains.used_of_mem a ha x hx).2
    · refine h.hash a ha x hx r ?_
      rw [← hr]
      exact (NatRule.held_congr (hsame x hxb).view).symm

/-- **A record taken out** of its chain: the one before it takes over its
`next_index`, the one behind it its `prev_index`. -/
theorem unlink (h : s.RuleLinks chain) (hst : SameTable s t) {b x : Nat} {l r : List Nat} (hb : b < s.tableEntries)
    (hc : chain b = l ++ x :: r) (hgone : (t.rules x).enable = false)
    (hview : ∀ y, y ≠ x → (t.rules y).view = (s.rules y).view)
    (hlast : (t.rules (lastFrom b l)).nextIndex = (s.rules x).nextIndex)
    (hnext : ∀ y, y ≠ x → y ≠ lastFrom b l → (t.rules y).nextIndex = (s.rules y).nextIndex)
    (hback : (s.rules x).nextIndex ≠ 0 → (t.rules (s.rules x).nextIndex).prevIndex = lastFrom b l)
    (hprev : ∀ y, y ≠ x → y ≠ (s.rules x).nextIndex → (t.rules y).prevIndex = (s.rules y).prevIndex) :
    t.RuleLinks (update chain b (l ++ r)) := by
  have hxmem : x ∈ chain b := by simp [hc]
  have hxu := h.mem_used hb hxmem
  have hused : ∀ y, t.ExpnUsed y ↔ s.ExpnUsed y ∧ y ≠ x := by
    intro y
    by_cases hyx : y = x
    · subst hyx
      unfold ExpnUsed
      simp [hgone]
    · rw [ExpnUsed.congr hst (view_enable (hview y hyx))]
      simp [hyx]
  -- a chain gets no slot it did not have
  have hsub : ∀ a, ∀ y ∈ update chain b (l ++ r) a, y ∈ chain a := by
    intro a y hy
    by_cases ha : a = b
    · subst ha
      rw [Function.update_self, List.mem_append] at hy
      rw [hc]
      rcases hy with hy | hy <;> simp [hy]
    · rwa [Function.update_of_ne ha] at hy
  have hbase : ∀ a, a < s.tableEntries → a ≠ x := by
    intro a ha heq
    have := hxu.1
    omega
  constructor
  · rw [hst.tableEntries]
    refine h.chains.unlink hb hc hlast (fun y _ hne hyx => hnext y hyx hne) hback ?_ hused
    exact fun y _ hyn hyx => hprev y hyx hyn
  · intro a ha hen
    rw [hst.tableEntries] at ha
    rw [view_enable (hview a (hbase a ha))] at hen
    have hnil := h.free a ha hen
    refine List.eq_nil_iff_forall_not_mem.2 fun y hy => ?_
    have := hsub a y hy
    rw [hnil] at this
    cases this
  · intro y hy
    obtain ⟨hy, hyx⟩ := (hused y).1 hy
    rw [view_protocol (hview y hyx)]
    exact h.alive y hy
  · intro a ha y hy rule hrule
    rw [hst.tableEntries] at ha
    rw [hst.dstSlot]
    have hyx : y ≠ x := by
      intro heq
      have hnone : t.helds y = none := NatRule.held_of_disabled (heq ▸ hgone)
      rw [hnone] at hrule
      cases hrule
    refine h.hash a ha y ?_ rule ?_
    · rcases List.mem_cons.1 hy with rfl | hy
      · simp
      · exact List.mem_cons_of_mem _ (hsub a y hy)
    · rw [← hrule]
      exact (NatRule.held_congr (hview y hyx)).symm

/-- **A record put behind the last** of a chain, into a slot not in use. -/
theorem append (h : s.RuleLinks chain) (hst : SameTable s t) {b e : Nat} {rule : IpaNatIpv4Rule}
    (hb : b < s.tableEntries) (hbe : (s.rules b).enable = true) (hge : s.tableEntries ≤ e) (hlt : e < s.slots)
    (hfree : (s.rules e).enable = false) (heldsE : t.helds e = some rule) (hrule : s.dstSlot rule = b)
    (hview : ∀ y, y ≠ e → (t.rules y).view = (s.rules y).view)
    (hlast : (t.rules (lastFrom b (chain b))).nextIndex = e) (hend : (t.rules e).nextIndex = 0)
    (hnext : ∀ y, y ≠ e → y ≠ lastFrom b (chain b) → (t.rules y).nextIndex = (s.rules y).nextIndex)
    (hback : (t.rules e).prevIndex = lastFrom b (chain b))
    (hprev : ∀ y, y ≠ e → (t.rules y).prevIndex = (s.rules y).prevIndex) :
    t.RuleLinks (update chain b (chain b ++ [e])) := by
  obtain ⟨hen, hproto, -⟩ := NatRule.held_eq_some.1 heldsE
  have hnotused : ¬ s.ExpnUsed e := by
    intro hu
    rw [hu.2.2] at hfree
    cases hfree
  have hused : ∀ y, t.ExpnUsed y ↔ s.ExpnUsed y ∨ y = e := by
    intro y
    by_cases hye : y = e
    · subst hye
      unfold ExpnUsed
      rw [hst.tableEntries, hst.slots]
      simp [hge, hlt, hen]
    · rw [ExpnUsed.congr hst (view_enable (hview y hye))]
      simp [hye]
  have hmem : ∀ a, ∀ y ∈ update chain b (chain b ++ [e]) a, y ∈ chain a ∨ a = b ∧ y = e := by
    intro a y hy
    by_cases ha : a = b
    · subst ha
      rw [Function.update_self, List.mem_append, List.mem_singleton] at hy
      rcases hy with hy | hy
      · exact .inl hy
      · exact .inr ⟨rfl, hy⟩
    · rw [Function.update_of_ne ha] at hy
      exact .inl hy
  have hbase : ∀ a, a < s.tableEntries → a ≠ e := by omega
  -- a slot on a chain is not the new one
  have hne : ∀ x, x < s.tableEntries ∨ s.ExpnUsed x → x ≠ e := by
    rintro x (hx | hx) rfl
    · omega
    · exact hnotused hx
  constructor
  · rw [hst.tableEntries]
    refine h.chains.append hb hnotused (by omega) (by omega) hlast hend ?_ hback ?_ hused
    · exact fun x hx hxl => hnext x (hne x hx) hxl
    · exact fun x hx => hprev x (hne x (.inr hx))
  · intro a ha hena
    rw [hst.tableEntries] at ha
    rw [view_enable (hview a (hbase a ha))] at hena
    have hab : a ≠ b := by
      rintro rfl
      rw [hbe] at hena
      cases hena
    rw [Function.update_of_ne hab]
    exact h.free a ha hena
  · intro y hy
    rcases (hused y).1 hy with hy | rfl
    · rw [view_protocol (hview y (hne y (.inr hy)))]
      exact h.alive y hy
    · exact hproto
  · intro a ha y hy r hr
    rw [hst.tableEntries] at ha
    rw [hst.dstSlot]
    by_cases hye : y = e
    · subst hye
      rw [heldsE, Option.some.injEq] at hr
      subst hr
      rcases List.mem_cons.1 hy with rfl | hy
      · omega
      · rcases hmem a y hy with hy | ⟨rfl, -⟩
        · exact absurd (h.mem_used ha hy) hnotused
        · exact hrule
    · refine h.hash a ha y ?_ r ?_
      · rcases List.mem_cons.1 hy with rfl | hy
        · simp
        · rcases hmem a y hy with hy | ⟨-, heq⟩
          · exact List.mem_cons_of_mem _ hy
          · exact absurd heq hye
      · rw [← hr]
        exact (NatRule.held_congr (hview y hye)).symm

end RuleLinks

/-! ## Adding a rule -/

/-- **The rule table after an addition**: the record before is linked, and the new one is there, enabled. -/
theorem rules_added (s : Ip4TableCache) (rule : NatRule) (irule : IndxTblSwRule) {entry : Nat} (ientry : Nat)
    (he : entry < 2 ^ 16) (hne : rule.prevIndex = 0 ∨ s.linkSlot rule.prevIndex ≠ entry) :
    (s.added rule irule entry ientry).1.rules =
      update (s.linkRule rule.prevIndex entry).rules entry { rule with indxTblEntry := ientry }.enabled := by
  have hnote : (s.noteMeta ientry irule.prevIndex).rules = s.rules := by
    unfold noteMeta
    split <;> rfl
  have hlink := (SameTable.noteMeta s ientry irule.prevIndex).linkSlot rule.prevIndex
  have hindex : ∀ u : Ip4TableCache, (u.linkIndex irule.prevIndex ientry).rules = u.rules := by
    intro u
    unfold linkIndex
    split <;> rfl
  unfold added written addWrites
  simp only [linkSlot_eq he, rules_makeRuleHdl, rules_setRule, hindex, rules_setIndex]
  unfold linkRule
  by_cases h0 : rule.prevIndex = 0
  · simp [h0, hnote]
  · have hne' := hne.resolve_left h0
    simp only [h0, if_false, rules_setRule, hnote]
    rw [show (Ip4TableCache.setRule _ entry _).linkSlot rule.prevIndex = s.linkSlot rule.prevIndex from hlink,
      Function.update_of_ne hne', Function.update_of_ne hne'.symm, Function.update_self,
      Function.update_comm hne'.symm, Function.update_idem]

/-- A rule goes into its base slot, or behind the last of its chain. -/
theorem RuleInv.add (h : s.RuleInv chain s.tableEntries) (hs : s.Sized) (hne : s.tableEntries ≠ 0)
    {r : IpaNatIpv4Rule} (hp : r.protocol ≠ ipaNatInvalidProtoFieldCmp) {rule : NatRule} {entry : Nat}
    (hpl : TblPlace s r rule entry) (irule : IndxTblSwRule) (ientry : Nat) :
    ∃ chain', (s.added rule irule entry ientry).1.RuleInv chain' s.tableEntries ∧
      ∀ b < s.tableEntries, ∀ x, x ∈ chain' b ↔ x ∈ chain b ∨ x = entry ∧ s.tableEntries ≤ entry ∧ b = s.dstSlot r := by
  obtain ⟨hb0, hb⟩ := hs.dstSlot_range hne r
  have hslots := hs.slots_lt
  cases hpl with
  | base hlt hen =>
    have hb16 : s.dstSlot r < 2 ^ 16 := by omega
    have hrules := rules_added s (s.swRule r) irule ientry hb16 (.inl rfl)
    have hold : ∀ x, x ≠ s.dstSlot r → (s.added (s.swRule r) irule (s.dstSlot r) ientry).1.rules x = s.rules x := by
      intro x hx
      rw [hrules, Function.update_of_ne hx]
      rfl
    have hnew : (s.added (s.swRule r) irule (s.dstSlot r) ientry).1.rules (s.dstSlot r) =
        { s.swRule r with indxTblEntry := ientry }.enabled := by
      rw [hrules, Function.update_self]
    have hnil := h.free _ hb hen
    refine ⟨chain, ⟨h.setBase (.added ..) hb ?_ ?_ ?_ ?_, ?_⟩, ?_⟩
    · intro x hx
      rw [hold x hx]
      exact ⟨rfl, rfl, rfl⟩
    · -- an empty slot has no successor, and neither has the new record
      rw [hnew]
      exact ((h.chains.linked _ hb).next_eq_null_iff.2 hnil).symm
    · exact fun _ => hnil
    · intro rule' hr
      rw [helds_added s (s.swRule r) irule ientry hb16 hp, Function.update_self, Option.some.injEq] at hr
      rw [← hr]
      rfl
    · intro b hb' hen' hproto
      by_cases hbe : b = s.dstSlot r
      · subst hbe
        rw [hnew] at hproto
        exact absurd hproto hp
      · rw [hold b hbe] at hen' hproto
        exact h.dead b hb' hen' hproto
    · intro b _ x
      constructor
      · exact .inl
      · rintro (hx | ⟨-, hge, -⟩)
        · exact hx
        · omega
  | @expn prev hlt hen hend hfree =>
    obtain ⟨hflt, hfen⟩ := expnTblFreeEntry_spec hfree
    rw [h.chainEnd_eq hs hb, Except.ok.injEq, Option.some.injEq] at hend
    unfold slots at hslots
    have he : u16 (s.expnTblFreeEntry + s.tableEntries) = s.tableEntries + s.expnTblFreeEntry := by
      rw [u16_of_lt (by omega), Nat.add_comm]
    rw [he]
    obtain ⟨e, hedef⟩ : ∃ e, e = s.tableEntries + s.expnTblFreeEntry := ⟨_, rfl⟩
    rw [← hedef]
    rw [← hedef] at hfen
    have hlt' : e < s.slots := by
      unfold slots
      omega
    -- the end of the chain is a slot in use
    have hlast : prev ≠ 0 ∧ prev < s.slots ∧ prev ≠ e := by
      have hm := Lib.lastFrom_mem (s.dstSlot r) (chain (s.dstSlot r))
      rw [hend] at hm
      rcases List.mem_cons.1 hm with rfl | hm
      · exact ⟨hb0, hlt, by omega⟩
      · have hu := h.mem_used hb hm
        refine ⟨(h.chains.linked _ hb).ne_null prev hm, hu.2.1, ?_⟩
        rintro rfl
        rw [hu.2.2] at hfen
        cases hfen
    obtain ⟨hp0, hplt, hpe⟩ := hlast
    have hlink : s.linkSlot prev = prev := linkSlot_eq (by unfold slots at hplt; omega)
    have he16 : e < 2 ^ 16 := by omega
    have hrules := rules_added s { s.swRule r with prevIndex := prev } irule ientry he16
      (.inr (by rw [hlink]; exact hpe))
    have hheld := helds_added s { s.swRule r with prevIndex := prev } irule ientry he16 hp
    obtain ⟨t, ht⟩ : ∃ t, t = (s.added { s.swRule r with prevIndex := prev } irule e ientry).1 := ⟨_, rfl⟩
    have hst : SameTable s t := ht ▸ .added ..
    rw [← ht] at hrules hheld
    rw [← ht]
    unfold linkRule at hrules
    rw [if_neg hp0, hlink, rules_setRule] at hrules
    have hnew : t.rules e = { s.swRule r with prevIndex := prev, indxTblEntry := ientry }.enabled := by
      rw [hrules, Function.update_self]
    have hprev : t.rules prev = (s.rules prev).link e := by
      rw [hrules, Function.update_of_ne hpe, Function.update_self]
    have hold : ∀ x, x ≠ e → x ≠ prev → t.rules x = s.rules x := by
      intro x hxe hxp
      rw [hrules, Function.update_of_ne hxe, Function.update_of_ne hxp]
    have hrec : ∀ x, x ≠ e → (t.rules x).view = (s.rules x).view ∧ (t.rules x).prevIndex = (s.rules x).prevIndex := by
      intro x hxe
      by_cases hxp : x = prev
      · subst hxp
        rw [hprev]
        exact ⟨rfl, rfl⟩
      · rw [hold x hxe hxp]
        exact ⟨rfl, rfl⟩
    have hmem : ∀ b < s.tableEntries, ∀ x, x ∈ update chain (s.dstSlot r) (chain (s.dstSlot r) ++ [e]) b ↔
        x ∈ chain b ∨ x = e ∧ s.tableEntries ≤ e ∧ b = s.dstSlot r := by
      intro b _ x
      by_cases hbd : b = s.dstSlot r
      · subst hbd
        rw [Function.update_self, List.mem_append, List.mem_singleton]
        simp [show s.tableEntries ≤ e by omega]
      · rw [Function.update_of_ne hbd]
        simp [hbd]
    refine ⟨_, ⟨h.append (t := t) (e := e) hst hb hen (by omega) hlt' hfen ?_ rfl ?_ ?_ ?_ ?_ ?_ ?_, ?_⟩, hmem⟩
    · rw [hheld, Function.update_self]
      rfl
    · exact fun x hx => (hrec x hx).1
    · rw [hend, hprev]
      exact u16_of_lt he16
    · rw [hnew]
      rfl
    · intro x hxe hxp
      rw [hend] at hxp
      rw [hold x hxe hxp]
    · rw [hnew]
      exact hend.symm
    · exact fun x hx => (hrec x hx).2
    · intro b hb' hen' hproto hnil
      have hbe : b ≠ e := by omega
      rw [view_enable (hrec b hbe).1] at hen'
      rw [view_protocol (hrec b hbe).1] at hproto
      obtain ⟨x, hx⟩ := List.exists_mem_of_ne_nil _ (h.dead b hb' hen' hproto)
      have := (hmem b hb' x).2 (.inl hx)
      rw [hnil] at this
      cases this

/-! ## Deleting a rule -/

theorem sameLinks_dropIndex (u : Ip4TableCache) (i k : Nat) (pos : DelType) (x : Nat) :
    ((u.dropIndex i k pos).rules x).SameLinks (u.rules x) := by
  unfold dropIndex
  split
  · -- the moved entry's rule is told, nothing else
    unfold dropMovedUp
    simp only [rules_setRule, rules_setIndex, rules_moveNextMeta]
    rw [Function.update_apply]
    split
    · rename_i hx
      rw [hx]
      exact ⟨rfl, rfl, rfl⟩
    · exact ⟨rfl, rfl, rfl⟩
  · rw [rules_setIndex]
    unfold moveMeta
    split <;> exact ⟨rfl, rfl, rfl⟩

@[simp] theorem rules_delIndexWrite (s : Ip4TableCache) (i : Nat) (pos : DelType) (t : Ip4TableCache) :
    (s.delIndexWrite i pos t).rules = t.rules := by
  cases pos <;> rfl

theorem rules_delDma (s : Ip4TableCache) (ruleFirst : Bool) (cur : Nat) (rule : NatRule) (pos ipos : DelType) :
    (s.delDma ruleFirst cur rule pos ipos).rules = (s.delRuleWrite cur rule pos s).rules := by
  unfold delDma
  split
  · rw [rules_delIndexWrite]
  · unfold delRuleWrite
    rw [rules_setRule, rules_setRule, rules_delIndexWrite]

/-- **The rule table after a deletion**, before dead heads are looked for: what
the rule's own command and the writes after it leave, the index aside. -/
theorem sameLinks_delWrites (s : Ip4TableCache) (ruleFirst expn : Bool) (cur x : Nat) :
    ((s.delWrites ruleFirst expn cur).rules x).SameLinks ((((s.delRuleWrite cur (s.rules cur) (s.rulePos expn cur) s).movePrev
      cur (s.rulePos expn cur)).clearRule cur (s.rulePos expn cur)).rules x) := by
  have hmove : ∀ u v : Ip4TableCache, u.rules = v.rules → u.tableEntries = v.tableEntries →
      ∀ pos, ((u.movePrev cur pos).clearRule cur pos).rules = ((v.movePrev cur pos).clearRule cur pos).rules := by
    intro u v hr ht pos
    unfold clearRule movePrev expnSlot
    cases pos <;> simp [hr, ht]
  have hrules := hmove _ _ (rules_delDma s ruleFirst cur (s.rules cur) (s.rulePos expn cur)
    (s.indexPos (s.rules cur).indxTblEntry)) (SameTable.delDma ..).tableEntries (s.rulePos expn cur)
  unfold delWrites
  rw [← hrules]
  exact sameLinks_dropIndex ..

/-- The records around one taken out of the expansion table: `p` is before it. -/
structure UnlinkedRules (s : Ip4TableCache) (cur p : Nat) (rules : Nat → NatRule) : Prop where
  gone : (rules cur).enable = false
  view : ∀ y, y ≠ cur → (rules y).view = (s.rules y).view
  last : (rules p).nextIndex = (s.rules cur).nextIndex
  next : ∀ y, y ≠ cur → y ≠ p → (rules y).nextIndex = (s.rules y).nextIndex
  back : (s.rules cur).nextIndex ≠ 0 → (rules (s.rules cur).nextIndex).prevIndex = p
  prev : ∀ y, y ≠ cur → y ≠ (s.rules cur).nextIndex → (rules y).prevIndex = (s.rules y).prevIndex

theorem UnlinkedRules.congr {cur p : Nat} {rules rules' : Nat → NatRule} (h : UnlinkedRules s cur p rules)
    (hsame : ∀ x, (rules' x).SameLinks (rules x)) : UnlinkedRules s cur p rules' := by
  constructor
  · rw [view_enable (hsame cur).view]
    exact h.gone
  · intro y hy
    rw [(hsame y).view]
    exact h.view y hy
  · rw [(hsame p).next]
    exact h.last
  · intro y hy hyp
    rw [(hsame y).next]
    exact h.next y hy hyp
  · intro hne
    rw [(hsame _).prev]
    exact h.back hne
  · intro y hy hyn
    rw [(hsame y).prev]
    exact h.prev y hy hyn

/-- A rule in the middle of its chain, or at its end. -/
theorem unlinkedRules (s : Ip4TableCache) {cur p : Nat} (hp : (s.rules cur).prevIndex = p) (hp16 : p < 2 ^ 16)
    (hpc : p ≠ cur) (hn : (s.rules cur).nextIndex ≠ 0 → s.tableEntries ≤ (s.rules cur).nextIndex ∧
      (s.rules cur).nextIndex < 2 ^ 16 ∧ (s.rules cur).nextIndex ≠ cur ∧ (s.rules cur).nextIndex ≠ p) :
    UnlinkedRules s cur p (((s.delRuleWrite cur (s.rules cur) (s.rulePos true cur) s).movePrev cur
      (s.rulePos true cur)).clearRule cur (s.rulePos true cur)).rules := by
  by_cases h0 : (s.rules cur).nextIndex = 0
  · have hrules : (((s.delRuleWrite cur (s.rules cur) (s.rulePos true cur) s).movePrev cur
        (s.rulePos true cur)).clearRule cur (s.rulePos true cur)).rules =
        update (update s.rules p ((s.rules p).link 0)) cur .zero := by
      simp [rulePos, chainPos, h0, movePrev, clearRule, delRuleWrite, delSlot, delRecord, hp, linkSlot_eq hp16]
    rw [hrules]
    constructor
    · simp [NatRule.zero]
    · intro y hy
      rw [Function.update_of_ne hy]
      by_cases hyp : y = p
      · subst hyp
        simp
      · rw [Function.update_of_ne hyp]
    · rw [Function.update_of_ne hpc, Function.update_self, h0]
      rfl
    · intro y hy hyp
      rw [Function.update_of_ne hy, Function.update_of_ne hyp]
    · exact fun hne => absurd h0 hne
    · intro y hy _
      rw [Function.update_of_ne hy]
      by_cases hyp : y = p
      · subst hyp
        simp [NatRule.link]
      · rw [Function.update_of_ne hyp]
  · obtain ⟨hge, hn16, hnc, hnp⟩ := hn h0
    have hrules : (((s.delRuleWrite cur (s.rules cur) (s.rulePos true cur) s).movePrev cur
        (s.rulePos true cur)).clearRule cur (s.rulePos true cur)).rules =
        update (update (update s.rules p ((s.rules p).link (s.rules cur).nextIndex)) (s.rules cur).nextIndex
          ((s.rules (s.rules cur).nextIndex).updatePrevIndex p)) cur .zero := by
      simp [rulePos, chainPos, h0, movePrev, clearRule, delRuleWrite, delSlot, delRecord, hp, linkSlot_eq hp16, hpc.symm,
        hnp, expnSlot, sub16_of_le hge hn16, Nat.add_sub_cancel' hge]
    rw [hrules]
    constructor
    · simp [NatRule.zero]
    · intro y hy
      rw [Function.update_of_ne hy]
      by_cases hyn : y = (s.rules cur).nextIndex
      · subst hyn
        simp
      · rw [Function.update_of_ne hyn]
        by_cases hyp : y = p
        · subst hyp
          simp
        · rw [Function.update_of_ne hyp]
    · rw [Function.update_of_ne hpc, Function.update_of_ne hnp.symm, Function.update_self]
      exact u16_of_lt hn16
    · intro y hy hyp
      rw [Function.update_of_ne hy]
      by_cases hyn : y = (s.rules cur).nextIndex
      · subst hyn
        simp [NatRule.updatePrevIndex]
      · rw [Function.update_of_ne hyn, Function.update_of_ne hyp]
    · intro _
      rw [Function.update_of_ne hnc, Function.update_self]
      exact u16_of_lt hp16
    · intro y hy hyn
      rw [Function.update_of_ne hy, Function.update_of_ne hyn]
      by_cases hyp : y = p
      · subst hyp
        simp [NatRule.link]
      · rw [Function.update_of_ne hyp]

/-- **What a deletion leaves of the chains**: they lose the slot of the rule. -/
theorem RuleLinks.delWrites (h : s.RuleLinks chain) (hs : s.Sized) (ruleFirst : Bool) {cur : Nat} (hlt : cur < s.slots)
    (hen : (s.rules cur).enable = true) :
    ∃ chain', (s.delWrites ruleFirst (decide (s.tableEntries ≤ cur)) cur).RuleLinks chain' ∧
      ∀ b < s.tableEntries, ∀ x, x ∈ chain' b ↔ x ∈ chain b ∧ x ≠ cur := by
  have hslots := hs.slots_lt
  have hsame := sameLinks_delWrites s ruleFirst (decide (s.tableEntries ≤ cur)) cur
  have hheld := helds_delWrites (s := s) ruleFirst (decide (s.tableEntries ≤ cur)) cur
  have hst := SameTable.delWrites s ruleFirst (decide (s.tableEntries ≤ cur)) cur
  generalize s.delWrites ruleFirst (decide (s.tableEntries ≤ cur)) cur = t at hsame hheld hst ⊢
  have hnone : t.helds cur = none := by
    rw [hheld, Function.update_self]
  by_cases hbase : cur < s.tableEntries
  · -- a base slot: the record goes, or stays as a dead head
    have hkeep : ∀ b < s.tableEntries, ∀ x, x ∈ chain b ↔ x ∈ chain b ∧ x ≠ cur := by
      intro b hb x
      refine ⟨fun hx => ⟨hx, ?_⟩, fun hx => hx.1⟩
      rintro rfl
      exact (h.chains.used_of_mem b hb x hx).2 hbase
    rw [decide_eq_false (by omega)] at hsame
    refine ⟨chain, h.setBase hst hbase ?_ ?_ ?_ ?_, hkeep⟩
    · intro x hx
      have hx' := hsame x
      by_cases h0 : (s.rules cur).nextIndex = 0 <;>
        simpa [rulePos, chainPos, h0, movePrev, clearRule, delRuleWrite, delSlot, hx] using hx'
    · have hx' := (hsame cur).next
      by_cases h0 : (s.rules cur).nextIndex = 0
      · rw [hx', h0]
        simp [rulePos, chainPos, h0, movePrev, clearRule, NatRule.zero]
      · simpa [rulePos, chainPos, h0, movePrev, clearRule, delRuleWrite, delSlot, delRecord, NatRule.killed] using hx'
    · intro hen'
      rw [view_enable (hsame cur).view] at hen'
      by_cases h0 : (s.rules cur).nextIndex = 0
      · exact (h.chains.linked cur hbase).next_eq_null_iff.1 h0
      · have : (s.rules cur).enable = false := by
          simpa [rulePos, chainPos, h0, movePrev, clearRule, delRuleWrite, delSlot, delRecord, NatRule.killed] using hen'
        rw [hen] at this
        cases this
    · intro r hr
      rw [hnone] at hr
      cases hr
  · -- a slot of the expansion table, on some chain
    obtain ⟨b, hb, hmem⟩ := h.chains.mem_of_used cur ⟨by omega, hlt, hen⟩
    obtain ⟨l, r, hc⟩ := List.append_of_mem hmem
    have hprev := h.chains.prev_eq hb hc
    have hmem' : ∀ a < s.tableEntries, ∀ x, x ∈ update chain b (l ++ r) a ↔ x ∈ chain a ∧ x ≠ cur :=
      fun a ha x => h.chains.mem_unlink hb hc ha
    obtain ⟨hpne, hpmem⟩ := h.chains.before hb hc
    have hplt : lastFrom b l < s.slots := by
      rcases List.mem_cons.1 hpmem with heq | hm
      · rw [heq]
        unfold slots
        omega
      · exact (h.mem_used hb hm).2.1
    rw [decide_eq_true (by omega)] at hsame
    have hnext : (s.rules cur).nextIndex ≠ 0 → s.tableEntries ≤ (s.rules cur).nextIndex ∧ (s.rules cur).nextIndex < 2 ^ 16 ∧
        (s.rules cur).nextIndex ≠ cur ∧ (s.rules cur).nextIndex ≠ lastFrom b l := by
      intro h0
      obtain ⟨hn, hnc, hnp⟩ := h.chains.behind hb hc h0
      have hu := h.mem_used hb hn
      have := hu.2.1
      exact ⟨hu.1, by omega, hnc, hnp⟩
    obtain ⟨h1, h2, h3, h4, h5, h6⟩ := (unlinkedRules s hprev (by omega) hpne hnext).congr hsame
    exact ⟨_, h.unlink hst hb hc h1 h2 h3 h4 h5 h6, hmem'⟩

/-- **Dead heads with nothing behind them** are gone after the sweep. -/
theorem RuleLinks.delDeadIpv4HeadNodes (h : s.RuleLinks chain) : s.delDeadIpv4HeadNodes.RuleInv chain s.tableEntries := by
  refine (Lib.forRange_inv (fun k u => SameTable s u ∧ u.RuleInv chain k) ?_ ?_).2
  · exact ⟨.refl s, h, fun b hb => absurd hb (Nat.not_lt_zero b)⟩
  · intro k u hk hu
    obtain ⟨hst, hinv⟩ := hu
    refine ⟨hst.trans (.delDeadHead u k), ?_⟩
    have hk' : k < u.tableEntries := by
      rw [hst.tableEntries]
      exact hk
    unfold delDeadHead
    split
    · rename_i hd
      have hnil := (hinv.chains.linked k hk').next_eq_null_iff.1 hd.2
      refine ⟨hinv.setBase (.setRule u k .zero) hk' ?_ ?_ ?_ ?_, ?_⟩
      · intro x hx
        rw [rules_setRule, Function.update_of_ne hx]
        exact ⟨rfl, rfl, rfl⟩
      · rw [rules_setRule, Function.update_self, hd.2]
        rfl
      · exact fun _ => hnil
      · intro r hr
        rw [helds_setRule, Function.update_self] at hr
        cases hr
      · intro b hb hen hproto
        rw [rules_setRule] at hen hproto
        by_cases hbk : b = k
        · subst hbk
          rw [Function.update_self] at hen
          cases hen
        · rw [Function.update_of_ne hbk] at hen hproto
          exact hinv.dead b (by omega) hen hproto
    · rename_i hd
      refine ⟨hinv.toRuleLinks, fun b hb hen hproto hnil => ?_⟩
      by_cases hbk : b = k
      · subst hbk
        exact hd ⟨hproto, (hinv.chains.linked b hk').next_eq_null_iff.2 hnil⟩
      · exact hinv.dead b (by omega) hen hproto hnil

theorem RuleInv.setRuleId {k : Nat} (h : s.RuleInv chain k) (i v : Nat) : (s.setRuleId i v).RuleInv chain k :=
  ⟨⟨h.chains, h.free, h.alive, h.hash⟩, h.dead⟩

/-- A deletion, as a whole. -/
theorem RuleInv.deleted {k : Nat} (h : s.RuleInv chain k) (hs : s.Sized) (ruleFirst : Bool) {expn : Bool} {entry : Nat}
    (ruleHdl : Nat) (hbase : expn = false → entry < s.tableEntries) (hlt : s.slot expn entry < s.slots)
    (hen : (s.rules (s.slot expn entry)).enable = true) :
    ∃ chain', (s.deleted ruleFirst expn entry ruleHdl).RuleInv chain' s.tableEntries ∧
      ∀ b < s.tableEntries, ∀ x, x ∈ chain' b ↔ x ∈ chain b ∧ x ≠ s.slot expn entry := by
  have hexpn : expn = decide (s.tableEntries ≤ s.slot expn entry) := by
    cases expn with
    | true => simp [slot]
    | false => simpa [slot] using hbase rfl
  obtain ⟨chain', hlinks, hmem⟩ := h.delWrites hs ruleFirst hlt hen
  rw [← hexpn] at hlinks
  refine ⟨chain', ?_, hmem⟩
  have hinv := hlinks.delDeadIpv4HeadNodes
  rw [(SameTable.delWrites s ruleFirst expn (s.slot expn entry)).tableEntries] at hinv
  exact hinv.setRuleId ..

end Ip4TableCache
end HiaeCommon
