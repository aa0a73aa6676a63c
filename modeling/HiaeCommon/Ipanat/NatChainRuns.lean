/-
Runs of calls and the chains. A call that returns has one of three effects
(`Effect`), each keeps the chains of both tables, and so does every run on a
table that has a base table at all: `GetNearest2Power` wraps to 0 above 2^15,
and a table asked for more than 40961 entries is created without one.
-/
import HiaeCommon.Ipanat.NatIndexChains

namespace HiaeCommon

open Function (update)
open Lib (Linked Run)

namespace Session

variable {s t : Session} {chain : Nat → List Nat}

/-! ## Effects -/

/-- The slot a handle names. -/
def slotOf (s : Session) (h : Nat) : Nat := s.tbl.idSlot (s.tbl.ruleIdArray (h - 1))

/-- What a call does that returns: nothing, or it adds a rule to the slots its
generator found, or it takes a live rule out of its slot. -/
inductive Effect (s : Session) : Call → Session → Prop
  | noSlot {r : IpaNatIpv4Rule} {e : Errno} : s.tbl.generateRule r = .ok (s.tbl, .error e) → Effect s (.add r {}) s
  | noRule {hdl : Nat} {calls : DelCalls} : Effect s (.del hdl calls) s
  | added {r : IpaNatIpv4Rule} {hdl : Nat} {rule : NatRule} {entry : Nat} {irule : IndxTblSwRule} {ientry : Nat} :
      entry ≠ 0 → ientry ≠ 0 → s.tbl.TblPlace r rule entry → s.tbl.IndexPlace r entry irule ientry →
      s.tbl.AddFits rule irule entry ientry → s.live hdl = none →
      Effect s (.add r {}) ⟨(s.tbl.added rule irule entry ientry).1, update s.live hdl (some r)⟩
  | deleted {hdl : Nat} {calls : DelCalls} {r : IpaNatIpv4Rule} {expn : Bool} {entry : Nat} {ruleFirst : Bool} :
      s.live hdl = some r → s.slotOf hdl = s.tbl.slot expn entry → (expn = false → entry < s.tbl.tableEntries) →
      Effect s (.del hdl calls) ⟨s.tbl.deleted ruleFirst expn entry hdl, update s.live hdl none⟩

theorem Handles.effect (hh : s.Handles) {c : Call} (h : Step Admits s c t) : s.Effect c t := by
  obtain ⟨hrel, hvalid, h⟩ := h
  cases c with
  | add r calls =>
    obtain rfl : calls = {} := hrel
    obtain ⟨⟨u, ret⟩, hcall, h⟩ := Stuck.bind_eq_ok.1 h
    obtain ⟨⟨e, hgen⟩, rfl, rfl⟩ | ⟨rule, entry, irule, ientry, he, hie, htbl, hindex, hfits, rfl, hret⟩ :=
      Ip4TableCache.addIpv4Rule_ok hh.sized hcall
    · cases h
      exact .noSlot hgen
    · obtain ⟨⟨e, hgen⟩, hret', hsame⟩ | ⟨hdl, rfl, -, -, hnone, -⟩ := hh.addIpv4Rule hvalid hcall
      · rw [hret', hsame] at h
        cases h
        exact .noSlot hgen
      · cases h
        exact .added he hie htbl hindex hfits hnone
  | del hdl calls =>
    obtain ⟨⟨u, ret⟩, hcall, h⟩ := Stuck.bind_eq_ok.1 h
    obtain ⟨e, rfl, rfl⟩ | ⟨rfl, r, expn, entry, ruleFirst, hlive, hslot, hbase, rfl, -⟩ := hh.delIpv4Rule hrel hcall
    · cases h
      exact .noRule
    · cases h
      exact .deleted hlive hslot hbase

theorem Effect.sameTable {c : Call} (h : s.Effect c t) : Ip4TableCache.SameTable s.tbl t.tbl := by
  cases h with
  | noSlot => exact .refl _
  | noRule => exact .refl _
  | added => exact .added ..
  | deleted => exact .deleted ..

/-- A live handle's slot holds its rule. -/
theorem Handles.held_slotOf (hh : s.Handles) {h : Nat} {r : IpaNatIpv4Rule} (hl : s.live h = some r) :
    s.slotOf h < s.tbl.slots ∧ s.tbl.helds (s.slotOf h) = some r := Ip4TableCache.heldAt_eq_some.1 (hh.held hl)

/-- And a slot with a rule is that of one live handle. -/
theorem Handles.handle_of_held (hh : s.Handles) {x : Nat} {r : IpaNatIpv4Rule} (hx : s.tbl.heldAt x = some r) :
    ∃ h, s.live h = some r ∧ s.slotOf h = x ∧ ∀ h' r', s.live h' = some r' → s.slotOf h' = x → h' = h := by
  obtain ⟨h, hown⟩ := hh.exact.own_of_live x r hx
  obtain ⟨hl, hslot⟩ := own_eq_some.1 hown
  refine ⟨h, hl, hslot, ?_⟩
  intro h' r' hl' hslot'
  exact hh.exact.inj h' h x r' r (own_eq_some.2 ⟨hl', hslot'⟩) hown

/-! ## The rule table -/

/-- The rule table of a session is chained, and so are its handles accounted for. -/
structure RuleSound (s : Session) : Prop where
  handles : s.Handles
  base : s.tbl.tableEntries ≠ 0
  chained : ∃ chain, s.tbl.RuleInv chain s.tbl.tableEntries

theorem RuleSound.step (h : s.RuleSound) {c : Call} (hstep : Step AdmitsLive s c t) : t.RuleSound := by
  obtain ⟨hh, hne, chain, hinv⟩ := h
  have hadmits : Step Admits s c t := ⟨hstep.1, hstep.2.1.1, hstep.2.2⟩
  have heffect := hh.effect hadmits
  have hst := heffect.sameTable
  refine ⟨hh.step hadmits, hst.tableEntries ▸ hne, ?_⟩
  rw [hst.tableEntries]
  cases heffect with
  | noSlot => exact ⟨chain, hinv⟩
  | noRule => exact ⟨chain, hinv⟩
  | @added r hdl rule entry irule ientry _ _ htbl _ _ _ =>
    obtain ⟨chain', h', -⟩ := hinv.add hh.sized hne hadmits.2.1 htbl irule ientry
    exact ⟨chain', h'⟩
  | @deleted hdl calls r expn entry ruleFirst hl hslot hbase =>
    obtain ⟨hlt, hheld⟩ := hh.held_slotOf hl
    rw [hslot] at hlt hheld
    obtain ⟨chain', h', -⟩ := hinv.deleted hh.sized ruleFirst hdl hbase hlt (NatRule.held_eq_some.1 hheld).1
    exact ⟨chain', h'⟩

/-- **The chains of the rule table**, in the words of the driver: a walk from a
base slot ends and repeats no slot, what it visits is enabled, `prev_index`
undoes `next_index`, and the slots that hold rules are those of live handles. -/
structure RuleChains (s : Session) (chain : Nat → List Nat) : Prop where
  linked : ∀ b < s.tbl.tableEntries, Linked 0 (fun x => (s.tbl.rules x).nextIndex) b (chain b)
  nodup : ∀ b < s.tbl.tableEntries, (b :: chain b).Nodup
  visited : ∀ b < s.tbl.tableEntries, ∀ x ∈ chain b, s.tbl.tableEntries ≤ x ∧ x < s.tbl.slots ∧
    (s.tbl.rules x).enable = true ∧ (s.tbl.rules x).protocol ≠ ipaNatInvalidProtoFieldCmp
  head_free : ∀ b < s.tbl.tableEntries, (s.tbl.rules b).enable = false → chain b = []
  head_dead : ∀ b < s.tbl.tableEntries, (s.tbl.rules b).enable = true →
    (s.tbl.rules b).protocol = ipaNatInvalidProtoFieldCmp → chain b ≠ []
  prev_next : ∀ b < s.tbl.tableEntries, ∀ x ∈ b :: chain b, (s.tbl.rules x).nextIndex ≠ 0 →
    (s.tbl.rules (s.tbl.rules x).nextIndex).prevIndex = x
  expn : ∀ x, s.tbl.tableEntries ≤ x → x < s.tbl.slots → (s.tbl.rules x).enable = true →
    ∃! b, b < s.tbl.tableEntries ∧ x ∈ chain b
  live : ∀ h r, s.live h = some r → s.tbl.dstSlot r < s.tbl.tableEntries ∧
    s.slotOf h ∈ s.tbl.dstSlot r :: chain (s.tbl.dstSlot r) ∧ (s.tbl.rules (s.slotOf h)).held = some r
  reached : ∀ b < s.tbl.tableEntries, ∀ x ∈ b :: chain b, ∀ r, (s.tbl.rules x).held = some r →
    s.tbl.dstSlot r = b ∧ ∃! h, s.live h = some r ∧ s.slotOf h = x

theorem RuleSound.ruleChains (h : s.RuleSound) : ∃ chain, s.RuleChains chain := by
  obtain ⟨hh, hne, chain, hinv⟩ := h
  refine ⟨chain, ?_⟩
  constructor
  · exact hinv.chains.linked
  · exact fun b hb => (hinv.chains.linked b hb).nodup
  · intro b hb x hx
    have hu := hinv.mem_used hb hx
    exact ⟨hu.1, hu.2.1, hu.2.2, hinv.alive x hu⟩
  · exact hinv.free
  · exact hinv.dead
  · exact fun b hb => (hinv.chains.back b hb).prev_next (hinv.chains.linked b hb)
  · intro x hge hlt hen
    obtain ⟨b, hb, hm⟩ := hinv.chains.mem_of_used x ⟨hge, hlt, hen⟩
    exact ⟨b, ⟨hb, hm⟩, fun b' hb' => hinv.chains.disjoint b' b hb'.1 hb x hb'.2 hm⟩
  · intro hdl r hl
    obtain ⟨hlt, hheld⟩ := hh.held_slotOf hl
    obtain ⟨-, hb⟩ := hh.sized.dstSlot_range hne r
    refine ⟨hb, ?_, hheld⟩
    by_cases hbase : s.slotOf hdl < s.tbl.tableEntries
    · rw [hinv.hash _ hbase _ (by simp) r hheld]
      simp
    · obtain ⟨b, hb', hm⟩ := hinv.chains.mem_of_used (s.slotOf hdl)
        ⟨by omega, hlt, (NatRule.held_eq_some.1 hheld).1⟩
      rw [hinv.hash b hb' _ (List.mem_cons_of_mem _ hm) r hheld]
      exact List.mem_cons_of_mem _ hm
  · intro b hb x hx r hr
    refine ⟨hinv.hash b hb x hx r hr, ?_⟩
    have hlt : x < s.tbl.slots := by
      rcases List.mem_cons.1 hx with rfl | hx
      · unfold Ip4TableCache.slots
        omega
      · exact (hinv.mem_used hb hx).2.1
    obtain ⟨hdl, hl, hslot, huniq⟩ := hh.handle_of_held (Ip4TableCache.heldAt_eq_some.2 ⟨hlt, hr⟩)
    exact ⟨hdl, ⟨hl, hslot⟩, fun h' h'' => huniq h' r h''.1 h''.2⟩

/-- The first state of a table that has a base table. -/
theorem fresh_ruleSound {pub : BitVec 32} {n : BitVec 16} {tbl : Ip4TableCache} (hnew : natiAddIpv4Tbl pub n 0 = some tbl)
    (hn : n.toNat ≤ 40961) : (fresh tbl).RuleSound := by
  have hh := fresh_handles hnew
  obtain ⟨te, ee, hsize, rfl⟩ := natiAddIpv4Tbl_eq_some.1 hnew
  have hrange := allocTable_range hsize
  refine ⟨hh, show te ≠ 0 by omega, fun _ => [], ⟨⟨?_, ?_, ?_, ?_⟩, ?_⟩⟩
  · constructor
    · exact fun _ _ => rfl
    · exact fun _ _ => trivial
    · exact fun _ _ _ hx => (nomatch hx)
    · exact fun _ _ _ _ _ hx => (nomatch hx)
    · exact fun _ hx => (nomatch hx.2.2)
  · exact fun _ _ _ => rfl
  · exact fun _ hx => (nomatch hx.2.2)
  · exact fun _ _ _ _ _ hr => (nomatch hr)
  · exact fun _ _ hen => (nomatch hen)

/-- A rule put into two free slots its hashes lead to. -/
theorem addIpv4Rule_base {tbl : Ip4TableCache} (hs : tbl.Sized) {r : IpaNatIpv4Rule} (hd : tbl.dstSlot r < tbl.slots)
    (hd0 : tbl.dstSlot r ≠ 0) (hfree : (tbl.rules (tbl.dstSlot r)).enable = false) (hi : tbl.srcSlot r < tbl.slots)
    (hi0 : tbl.srcSlot r ≠ 0) (hifree : (tbl.index (tbl.srcSlot r)).tblEntry = 0)
    (hmeta : tbl.tableEntries ≤ tbl.srcSlot r → tbl.srcSlot r - tbl.tableEntries < tbl.expnTableEntries)
    (hid : tbl.ruleIdArray 0 = 0) :
    ∃ u, Ip4TableCache.SameTable tbl u ∧ tbl.addIpv4Rule r {} = .ok (u, .ok 1) := by
  have hslots := hs.slots_lt
  have hgen : tbl.generateTblRule r = .ok (tbl.swRule r, tbl.dstSlot r) := by
    simp [Ip4TableCache.generateTblRule, Ip4TableCache.ruleAt, hd, hfree]
  have hindex : tbl.generateIndexRule r { tblEntry := tbl.dstSlot r } =
      .ok ({ tblEntry := tbl.dstSlot r }, tbl.srcSlot r) := by
    simp [Ip4TableCache.generateIndexRule, Ip4TableCache.indexAt, hi, hifree]
  have hnote : tbl.notePrevIndex (tbl.srcSlot r) 0 = .ok (tbl.noteMeta (tbl.srcSlot r) 0) := by
    unfold Ip4TableCache.notePrevIndex Ip4TableCache.noteMeta Ip4TableCache.writeMeta
    by_cases hge : tbl.srcSlot r ≥ tbl.tableEntries
    · rw [if_pos hge, if_pos hge, sub16_of_le hge (by omega), if_pos (hmeta hge)]
    · rw [if_neg hge, if_neg hge]
  have hrule : tbl.generateRule r = .ok (tbl.noteMeta (tbl.srcSlot r) 0, .ok ({ tbl.swRule r with
      indxTblEntry := tbl.srcSlot r }, { tblEntry := tbl.dstSlot r }, tbl.dstSlot r, tbl.srcSlot r)) := by
    simp [Ip4TableCache.generateRule, hgen, hindex, hnote, hd0, hi0, ipaNatInvalidNatEntry]
  have hsame := Ip4TableCache.SameTable.written tbl (tbl.swRule r) { tblEntry := tbl.dstSlot r } (tbl.dstSlot r) (tbl.srcSlot r)
  have hids := Ip4TableCache.ruleIdArray_written tbl (tbl.swRule r) { tblEntry := tbl.dstSlot r } (tbl.dstSlot r) (tbl.srcSlot r)
  have hpos : 0 < (tbl.written (tbl.swRule r) { tblEntry := tbl.dstSlot r } (tbl.dstSlot r) (tbl.srcSlot r)).slots := by
    rw [hsame.slots]
    omega
  obtain ⟨hhdl, -⟩ := Ip4TableCache.makeRuleHdl_of_free (tbl.dstSlot r) hpos (by rw [hids]; exact hid)
    fun k hk => absurd hk (Nat.not_lt_zero k)
  have hret : Ip4TableCache.hdlRet (tbl.added (tbl.swRule r) { tblEntry := tbl.dstSlot r } (tbl.dstSlot r)
      (tbl.srcSlot r)).2 = .ok 1 := by
    unfold Ip4TableCache.added Ip4TableCache.hdlRet
    rw [hhdl]
    rfl
  refine ⟨(tbl.added (tbl.swRule r) { tblEntry := tbl.dstSlot r } (tbl.dstSlot r) (tbl.srcSlot r)).1, .added .., ?_⟩
  rw [← hret]
  exact (Ip4TableCache.addIpv4Rule_of_generate hs hrule (.noteMeta ..)).1 ⟨hd, .inl rfl, hi, .inl rfl⟩

/-- **Without a base table** a rule goes into the expansion table, where no chain leads to it. -/
theorem wrapped_add {pub : BitVec 32} {n : BitVec 16} {tbl : Ip4TableCache} (hnew : natiAddIpv4Tbl pub n 0 = some tbl)
    (hn : 40961 < n.toNat) : ∃ s, Run (Step AdmitsLive) (fresh tbl) [.add (sampleRule 1 6) {}] s ∧
      s.tbl.tableEntries = 0 ∧ s.live 1 = some (sampleRule 1 6) := by
  have hs := fresh_sized hnew
  obtain ⟨te, ee, hsize, rfl⟩ := natiAddIpv4Tbl_eq_some.1 hnew
  obtain ⟨hle, -⟩ | ⟨-, rfl, hlo, hhi⟩ := allocTable_range hsize
  · omega
  have hd : (Ip4TableCache.created pub 0 0 ee).dstSlot (sampleRule 1 6) = 3 := by
    show (dstHash _ _ _ _ (BitVec.ofNat 16 (sub16 0 1))).toNat = 3
    decide
  have hi : (Ip4TableCache.created pub 0 0 ee).srcSlot (sampleRule 1 6) = 5004 := by
    show (srcHash _ _ _ _ _ (BitVec.ofNat 16 (sub16 0 1))).toNat = 5004
    decide
  have hslots : (Ip4TableCache.created pub 0 0 ee).slots = 0 + ee := rfl
  obtain ⟨u, hu, hadd⟩ := addIpv4Rule_base (r := sampleRule 1 6) hs (by omega) (by omega) rfl (by omega) (by omega) rfl
    (fun _ => by rw [hi]; show 5004 - 0 < ee; omega) rfl
  have hstep : Step AdmitsLive (fresh (.created pub 0 0 ee)) (.add (sampleRule 1 6) {})
      ⟨u, update (fun _ => none) 1 (some (sampleRule 1 6))⟩ := by
    refine ⟨rfl, ⟨by decide, trivial⟩, ?_⟩
    show ((Ip4TableCache.created pub 0 0 ee).addIpv4Rule (sampleRule 1 6) {} >>= _) = _
    rw [hadd]
    rfl
  exact ⟨_, .cons hstep (.nil _), hu.tableEntries, by simp⟩

/-- **Rule chains.** The chains of the rule table are sound in every run, on
every table that is created with a base table, and on no other. -/
theorem rule_chains {pub : BitVec 32} {n : BitVec 16} {tbl : Ip4TableCache} (hnew : natiAddIpv4Tbl pub n 0 = some tbl) :
    (∀ cs s, Run (Step AdmitsLive) (fresh tbl) cs s → ∃ chain, s.RuleChains chain) ↔ n.toNat ≤ 40961 := by
  constructor
  · intro h
    by_contra hn
    obtain ⟨s, hrun, h0, hlive⟩ := wrapped_add hnew (by omega)
    obtain ⟨chain, hchain⟩ := h _ s hrun
    have := (hchain.live 1 _ hlive).1
    omega
  · intro hn cs s hrun
    exact (hrun.invariant RuleSound (fun _ _ _ hstep hs => hs.step hstep) (fresh_ruleSound hnew hn)).ruleChains

/-- Two rules of one base slot, the first deleted: a dead head with the second behind it. -/
theorem rule_chains_sample : ∃ chain, ((fresh sampleTbl).after [.add (sampleRule 1 6) {}, .add (sampleRule 2 6) {},
    .del 1 {}]).RuleChains chain :=
  (rule_chains sampleTbl_new).2 (by decide) _ _ (run_after (by decide +kernel))

/-- A table of 65535 entries has no base table, and its first rule is on no chain. -/
theorem rule_chains_wrapped : ∃ tbl, natiAddIpv4Tbl 20 65535 0 = some tbl ∧
    ∃ cs s, Run (Step AdmitsLive) (fresh tbl) cs s ∧ ¬ ∃ chain, s.RuleChains chain := by
  have hnew : natiAddIpv4Tbl 20 65535 0 = some (.created 20 0 0 13108) :=
    natiAddIpv4Tbl_eq_some.2 ⟨0, 13108, by decide +kernel, rfl⟩
  obtain ⟨s, hrun, h0, hlive⟩ := wrapped_add hnew (by decide)
  refine ⟨_, hnew, _, s, hrun, ?_⟩
  rintro ⟨chain, hchain⟩
  have := (hchain.live 1 _ hlive).1
  omega

/-! ## The index table -/

/-- Both tables are chained. -/
structure IndexSound (s : Session) : Prop extends s.RuleSound where
  indexed : ∃ chain, s.tbl.IndexInv chain

/-- An addition whose index link goes where it should. -/
def Untruncated (s : Session) : Call → Prop
  | .add r _ => ¬ s.tbl.LinkTruncated r
  | .del _ _ => True

instance (s : Session) : (c : Call) → Decidable (s.Untruncated c)
  | .add _ _ => inferInstanceAs (Decidable (¬ _))
  | .del _ _ => inferInstanceAs (Decidable True)

theorem IndexSound.step (h : s.IndexSound) {c : Call} (hstep : Step AdmitsLive s c t) (hc : s.Untruncated c) :
    t.IndexSound := by
  obtain ⟨hrule, chain, hinv⟩ := h
  have hh := hrule.handles
  have hadmits : Step Admits s c t := ⟨hstep.1, hstep.2.1.1, hstep.2.2⟩
  refine ⟨hrule.step hstep, ?_⟩
  cases hh.effect hadmits with
  | noSlot => exact ⟨chain, hinv⟩
  | noRule => exact ⟨chain, hinv⟩
  | added he _ htbl hindex hfits _ =>
    obtain ⟨chain', h', -⟩ := hinv.add hh.sized hrule.base hadmits.2.1 htbl he hfits.entry_lt hindex hc
    exact ⟨chain', h'⟩
  | @deleted hdl calls r expn entry ruleFirst hl hslot hbase =>
    obtain ⟨hlt, hheld⟩ := hh.held_slotOf hl
    rw [hslot] at hlt hheld
    have hat : s.tbl.heldAt (s.tbl.slot expn entry) ≠ none := by
      rw [Ip4TableCache.heldAt_eq_some.2 ⟨hlt, hheld⟩]
      simp
    exact hinv.deleted hh.sized ruleFirst expn entry hdl hlt hat

theorem IndexSound.run (h : s.IndexSound) {cs : List Call}
    (hrun : Run (Step fun s c => s.AdmitsLive c ∧ s.Untruncated c) s cs t) : t.IndexSound :=
  hrun.invariant IndexSound (fun _ _ _ hstep hs => hs.step ⟨hstep.1, hstep.2.1.1, hstep.2.2⟩ hstep.2.1.2) h

theorem fresh_indexSound {pub : BitVec 32} {n : BitVec 16} {tbl : Ip4TableCache}
    (hnew : natiAddIpv4Tbl pub n 0 = some tbl) (hn : n.toNat ≤ 40961) : (fresh tbl).IndexSound := by
  refine ⟨fresh_ruleSound hnew hn, fun _ => [], ?_⟩
  obtain ⟨te, ee, -, rfl⟩ := natiAddIpv4Tbl_eq_some.1 hnew
  have hheld : ∀ x, (Ip4TableCache.created pub 0 te ee).heldAt x = none := by
    intro x
    unfold Ip4TableCache.heldAt
    split <;> rfl
  constructor
  · constructor
    · exact fun _ _ => rfl
    · exact fun _ _ => trivial
    · exact fun _ _ _ hx => (nomatch hx)
    · exact fun _ _ _ _ _ hx => (nomatch hx)
    · exact fun _ hx => absurd rfl hx.2.2
  · exact fun _ _ _ => rfl
  · exact fun _ _ hy => absurd rfl hy
  · exact fun x r hx => (nomatch (hheld x).symm.trans hx)

/-- **The chains of the index table and the cross links**: a walk from a base
slot ends and repeats no slot, what it visits has an entry, the noted
`prev_index` undoes `next_index`, and the index entries and the live rules name
each other. -/
structure IndexChains (s : Session) (chain : Nat → List Nat) : Prop where
  linked : ∀ b < s.tbl.tableEntries, Linked 0 (fun y => (s.tbl.index y).nextIndex) b (chain b)
  nodup : ∀ b < s.tbl.tableEntries, (b :: chain b).Nodup
  visited : ∀ b < s.tbl.tableEntries, ∀ y ∈ chain b, s.tbl.tableEntries ≤ y ∧ y < s.tbl.slots ∧
    (s.tbl.index y).tblEntry ≠ 0
  head_free : ∀ b < s.tbl.tableEntries, (s.tbl.index b).tblEntry = 0 → chain b = []
  expn : ∀ y, s.tbl.tableEntries ≤ y → y < s.tbl.slots → (s.tbl.index y).tblEntry ≠ 0 →
    ∃! b, b < s.tbl.tableEntries ∧ y ∈ chain b
  meta_next : ∀ b < s.tbl.tableEntries, ∀ y ∈ b :: chain b, (s.tbl.index y).nextIndex ≠ 0 →
    s.tbl.indexExpnTableMeta ((s.tbl.index y).nextIndex - s.tbl.tableEntries) = y
  live : ∀ h r, s.live h = some r → s.tbl.srcSlot r < s.tbl.tableEntries ∧ ∃ y, y < s.tbl.slots ∧
    y ∈ s.tbl.srcSlot r :: chain (s.tbl.srcSlot r) ∧ (s.tbl.rules (s.slotOf h)).indxTblEntry = y ∧
    ∀ y' < s.tbl.slots, (s.tbl.index y').tblEntry = s.slotOf h ↔ y' = y
  points : ∀ y < s.tbl.slots, (s.tbl.index y).tblEntry ≠ 0 →
    ∃ h r, s.live h = some r ∧ s.slotOf h = (s.tbl.index y).tblEntry

theorem IndexSound.indexChains (h : s.IndexSound) : ∃ chain, s.IndexChains chain := by
  obtain ⟨⟨hh, hne, -⟩, chain, hinv⟩ := h
  refine ⟨chain, ?_⟩
  constructor
  · exact hinv.chains.linked
  · exact fun b hb => (hinv.chains.linked b hb).nodup
  · exact fun b hb y hy => hinv.mem_used hb hy
  · exact hinv.free
  · intro y hge hlt hy0
    obtain ⟨b, hb, hm⟩ := hinv.chains.mem_of_used y ⟨hge, hlt, hy0⟩
    exact ⟨b, ⟨hb, hm⟩, fun b' hb' => hinv.chains.disjoint b' b hb'.1 hb y hb'.2 hm⟩
  · exact fun b hb => (hinv.chains.back b hb).prev_next (hinv.chains.linked b hb)
  · intro hdl r hl
    have hheld := hh.held hl
    obtain ⟨h0, hlt, hent⟩ := hinv.entry _ r hheld
    obtain ⟨r', hr', href, hsrc, hm⟩ := hinv.points _ hlt (by rw [hent]; exact h0)
    rw [hent, hheld, Option.some.injEq] at hr'
    subst hr'
    refine ⟨hsrc, _, hlt, hm, rfl, ?_⟩
    intro y hy
    constructor
    · intro heq
      -- whoever names the slot is named by its rule
      obtain ⟨-, -, href', -⟩ := hinv.points y hy (by rw [heq]; exact h0)
      rw [heq] at href'
      exact href'.symm
    · rintro rfl
      exact hent
  · intro y hy hy0
    obtain ⟨r, hr, -⟩ := hinv.points y hy hy0
    obtain ⟨hdl, hl, hslot, -⟩ := hh.handle_of_held hr
    exact ⟨hdl, r, hl, hslot⟩

/-- **Index chains.** On tables of up to 16384 base entries, where no offset is
cut off, the chains of the index table and the cross links are sound in every
run, if there is a base table at all. -/
theorem index_chains {pub : BitVec 32} {n : BitVec 16} {tbl : Ip4TableCache} (hnew : natiAddIpv4Tbl pub n 0 = some tbl)
    (htbl : tbl.tableEntries ≤ 16384) :
    (∀ cs s, Run (Step AdmitsLive) (fresh tbl) cs s → ∃ chain, s.IndexChains chain) ↔ n.toNat ≤ 40961 := by
  constructor
  · intro h
    by_contra hn
    obtain ⟨s, hrun, h0, hlive⟩ := wrapped_add hnew (by omega)
    obtain ⟨chain, hchain⟩ := h _ s hrun
    have := (hchain.live 1 _ hlive).1
    omega
  · intro hn cs s hrun
    have hsound : s.IndexSound ∧ s.tbl.tableEntries ≤ 16384 := by
      refine hrun.invariant (fun s => s.IndexSound ∧ s.tbl.tableEntries ≤ 16384) ?_ ⟨fresh_indexSound hnew hn, htbl⟩
      rintro s c t hstep ⟨hs, hle⟩
      have hst := (hs.handles.effect ⟨hstep.1, hstep.2.1.1, hstep.2.2⟩).sameTable
      refine ⟨hs.step hstep ?_, hst.tableEntries ▸ hle⟩
      cases c with
      | add r calls =>
        rintro ⟨hge, -, -⟩
        have := (hs.handles.sized.srcSlot_range hs.base r).2
        omega
      | del hdl calls => trivial
    exact hsound.1.indexChains

/-- Two rules of one index slot; the first, its head, is deleted and the second moves up. -/
theorem index_chains_sample : ∃ chain, ((fresh sampleTbl).after [.add (sampleRule 1 6) {}, .add (sampleRule 1 6) {},
    .del 1 {}]).IndexChains chain :=
  (index_chains sampleTbl_new (by decide)).2 (by decide) _ _ (run_after (by decide +kernel))

/-- A table of 65535 entries has no base table, and its first rule has no index chain. -/
theorem index_chains_wrapped : ∃ tbl, natiAddIpv4Tbl 20 65535 0 = some tbl ∧ tbl.tableEntries ≤ 16384 ∧
    ∃ cs s, Run (Step AdmitsLive) (fresh tbl) cs s ∧ ¬ ∃ chain, s.IndexChains chain := by
  have hnew : natiAddIpv4Tbl 20 65535 0 = some (.created 20 0 0 13108) :=
    natiAddIpv4Tbl_eq_some.2 ⟨0, 13108, by decide +kernel, rfl⟩
  obtain ⟨s, hrun, h0, hlive⟩ := wrapped_add hnew (by decide)
  refine ⟨_, hnew, by decide, _, s, hrun, ?_⟩
  rintro ⟨chain, hchain⟩
  have := (hchain.live 1 _ hlive).1
  omega

end Session
end HiaeCommon
