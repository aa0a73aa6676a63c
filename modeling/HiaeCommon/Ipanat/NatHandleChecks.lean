/-
The public functions that take a rule handle (`ipanat/src/ipa_nat_drv.c`) and
the reading of a time stamp (`ipanat/src/ipa_nat_drvi.c`), for any pair of
handles. `ip4_tbl` has `IPA_NAT_MAX_IP4_TBLS` entries, which is one.

The deletion checks no upper bound of the table handle, and looks the rule
handle up by its low sixteen bits only; the reading of a time stamp looks at
what the rule handle leads to without asking whether it leads anywhere.
-/
import HiaeCommon.Ipanat.NatAtomic

namespace HiaeCommon

open Function (update)
open Lib (Run)

/-- The mutex of `ipa_nati_query_timestamp`. -/
structure QueryCalls where
  lock : Bool := true
  unlock : Bool := true
  deriving DecidableEq, Repr

/-- `tbl_index`, a `uint8_t`. -/
def tblIndex (tblHdl : BitVec 32) : Nat := (tblHdl - 1).toNat % 2 ^ 8

namespace Ip4TableCache

variable (s : Ip4TableCache)

/-- `ipv4_nat_cache.ip4_tbl[tbl_index]`, of which `s` is the only one. -/
def ip4Tbl (tblIndex : Nat) : Except Stuck Ip4TableCache :=
  if tblIndex < ipaNatMaxIp4Tbls then .ok s else .error .outOfBounds

/-- `ipa_nat_del_ipv4_rule`. -/
def ipaNatDelIpv4Rule (tblHdl ruleHdl : BitVec 32) (calls : DelCalls) : Except Stuck (Ip4TableCache × Except Errno Unit) :=
  if tblHdl = 0 ∨ ruleHdl = 0 then .ok (s, .error .einval)
  else do
    let s ← s.ip4Tbl (tblIndex tblHdl)
    s.delIpv4Rule ruleHdl.toNat calls

/-- `ipa_nati_query_timestamp`, the value written to `*time_stamp`. -/
def natiQueryTimestamp (ruleHdl : Nat) (calls : QueryCalls) : Except Stuck (Except Errno (BitVec 32)) :=
  if !s.valid then .ok (.error .einval)
  else if !calls.lock then .ok (.error .mutex)
  else do
    let (expnTbl, tblEntry) ← s.parseIpv4RuleHdl (u16 ruleHdl)
    let rule ← s.ruleAt (s.slot expnTbl tblEntry)
    if !calls.unlock then return .error .mutex
    return .ok (rule.timeStamp.setWidth 32)

/-- `ipa_nat_query_timestamp`. -/
def ipaNatQueryTimestamp (tblHdl ruleHdl : BitVec 32) (calls : QueryCalls) : Except Stuck (Except Errno (BitVec 32)) :=
  if tblHdl = 0 ∨ tblHdl.toNat > ipaNatMaxIp4Tbls then .ok (.error .einval)
  else do
    let s ← s.ip4Tbl (tblIndex tblHdl)
    s.natiQueryTimestamp ruleHdl.toNat calls

variable {s} {t : Ip4TableCache} {ruleHdl : Nat} {calls : DelCalls}

/-! ## A deletion -/

theorem u16_u16 (n : Nat) : u16 (u16 n) = u16 n := u16_of_lt (Nat.mod_lt _ (by decide))

/-- A deletion that would get through by the low half of the handle does not leave the table when memory or the `ioctl`
fails. -/
theorem delIpv4Rule_returns (h : ∃ x, s.delIpv4Rule (u16 ruleHdl) {} = .ok x) (hlock : calls.lock = true)
    (hfail : ¬ (calls.cmdMem = true ∧ calls.ioctl = true)) : ∃ x, s.delIpv4Rule ruleHdl calls = .ok x := by
  obtain ⟨x, h⟩ := h
  unfold delIpv4Rule at h ⊢
  rw [u16_u16] at h
  simp only [Stuck.bind_eq_ok] at h
  obtain ⟨⟨expn, entry⟩, hparse, h⟩ := h
  simp only [hparse, Stuck.ok_bind, hlock, Bool.not_true, Bool.false_eq_true, if_false] at h ⊢
  split at h
  next h0 => exact ⟨_, by rw [if_pos h0]; rfl⟩
  next h0 =>
    rw [if_neg h0]
    split at h
    next hv => exact ⟨_, by rw [if_pos hv]; rfl⟩
    next hv =>
      rw [if_neg hv]
      simp only [Stuck.bind_eq_ok] at h
      obtain ⟨pos, hpos, ⟨u, posted⟩, hpost, -⟩ := h
      simp only [hpos, Stuck.ok_bind]
      have hpost' : ∃ e, s.postDelDmaCmd entry expn pos calls = .ok (s, .error e) := by
        unfold postDelDmaCmd at hpost ⊢
        by_cases hmem : calls.cmdMem = true
        · have hio : calls.ioctl = false := by simpa using fun hc => hfail ⟨hmem, hc⟩
          simp only [Bool.not_true, Bool.false_eq_true, if_false, Stuck.bind_eq_ok] at hpost
          obtain ⟨rule, hrule, hpost⟩ := hpost
          simp only [hmem, hrule, Stuck.ok_bind, Bool.not_true, Bool.false_eq_true, if_false]
          split at hpost
          next hen => exact ⟨_, by rw [if_pos hen]; rfl⟩
          next hen =>
            simp only [Stuck.bind_eq_ok] at hpost
            obtain ⟨ipos, hipos, cmds, hcmds, next, hnext, -⟩ := hpost
            exact ⟨.eio, by simp [hen, hipos, hcmds, hnext, hio]⟩
        · exact ⟨.enomem, by simp [hmem]⟩
      obtain ⟨e, hpost'⟩ := hpost'
      rw [hpost']
      exact ⟨_, rfl⟩

/-- **A handle of more than sixteen bits** leads to the rule of its low half; once that is deleted, the write to the array
is past its end. -/
theorem delIpv4Rule_wide (hs : s.Sized) (hc : (Call.del ruleHdl calls).Reliable) (hwide : 2 ^ 16 ≤ ruleHdl)
    (h : s.delIpv4Rule (u16 ruleHdl) calls = .ok (t, .ok ())) : s.delIpv4Rule ruleHdl calls = .error .outOfBounds := by
  obtain ⟨hlock, hmem, hioctl, hunlock⟩ := hc
  have hslots := hs.slots_lt
  unfold delIpv4Rule at h ⊢
  rw [u16_u16] at h
  obtain ⟨⟨expn, entry⟩, hparse, h⟩ := Stuck.bind_eq_ok.1 h
  simp only [hparse, Stuck.ok_bind, hlock, hs.valid, hunlock, Bool.not_true, Bool.false_eq_true, if_false] at h ⊢
  split at h
  · cases h
  next h0 =>
    rw [if_neg h0]
    obtain ⟨pos, hpos, h⟩ := Stuck.bind_eq_ok.1 h
    rw [hpos, Stuck.ok_bind]
    rw [findRulePos_eq, Stuck.ite_eq_ok] at hpos
    obtain ⟨hcur, rfl⟩ := hpos
    obtain ⟨⟨u, posted⟩, hpost, h⟩ := Stuck.bind_eq_ok.1 h
    rw [hpost, Stuck.ok_bind]
    rcases (postDelDmaCmd_ok hs hmem hioctl hpost).2 with ⟨e, rfl, -⟩ | ⟨rfl, -, -, ruleFirst, rfl⟩
    · cases h
    · have hsame := (SameTable.delWrites s ruleFirst expn (s.slot expn entry)).trans (.delDeadIpv4HeadNodes _)
      have hout : ¬ ruleHdl - 1 < s.slots := by omega
      simp only [writeRuleId, hsame.slots, if_neg hout]
      rfl

/-! ## Any pair of handles -/

end Ip4TableCache

namespace Session

open Ip4TableCache (SameTables)

variable {s : Session}

/-- The handles a deletion takes without harm: one of them zero, or the table handle leads to the table, and the rule
handle's low half to no rule, unless it is the whole handle or the deletion fails. -/
def DelChecked (s : Session) (tblHdl ruleHdl : BitVec 32) (calls : DelCalls) : Prop :=
  tblHdl = 0 ∨ ruleHdl = 0 ∨ tblIndex tblHdl = 0 ∧ u16 ruleHdl.toNat ≠ 0 ∧
    (ruleHdl.toNat < 2 ^ 16 ∨ s.live (u16 ruleHdl.toNat) = none ∨ ¬ (calls.cmdMem = true ∧ calls.ioctl = true))

/-- **A deletion by any pair of handles is safe**: it stays in the arrays; a handle of no live rule is an error and changes
nothing; and that of a live rule takes out this rule and no other, if the table handle is the table's and no system
call fails. -/
def DelSafe (s : Session) (tblHdl ruleHdl : BitVec 32) (calls : DelCalls) : Prop :=
  ∃ t ret, s.tbl.ipaNatDelIpv4Rule tblHdl ruleHdl calls = .ok (t, ret) ∧
    (((∃ e, ret = .error e) ∧ t = s.tbl ∧
        (s.live ruleHdl.toNat = none ∨ tblHdl ≠ 1 ∨ ¬ (calls.cmdMem = true ∧ calls.ioctl = true))) ∨
      (ret = .ok () ∧ s.live ruleHdl.toNat ≠ none ∧ t.heldAt = update s.tbl.heldAt (s.slotOf ruleHdl.toNat) none ∧
        t.ruleIdArray = update s.tbl.ruleIdArray (ruleHdl.toNat - 1) 0))

/-- The same of the reading of a time stamp, which changes nothing. -/
def QuerySafe (s : Session) (tblHdl ruleHdl : BitVec 32) : Prop :=
  ∃ ret, s.tbl.ipaNatQueryTimestamp tblHdl ruleHdl {} = .ok ret ∧
    (((∃ e, ret = .error e) ∧ (s.live ruleHdl.toNat = none ∨ tblHdl ≠ 1)) ∨
      (s.live ruleHdl.toNat ≠ none ∧ ret = .ok ((s.tbl.rules (s.slotOf ruleHdl.toNat)).timeStamp.setWidth 32)))

/-- A handle below the end of the array that is not live leads to no entry. -/
theorem Handles.parse_of_not_live (hh : s.Handles) {h : Nat} (h0 : h ≠ 0) (hl : s.live h = none) :
    s.tbl.parseIpv4RuleHdl h = .ok (false, 0) := by
  unfold Ip4TableCache.parseIpv4RuleHdl Ip4TableCache.ruleIdAt
  by_cases hge : h ≥ s.tbl.slots
  · rw [if_pos hge]
    rfl
  · have hid : s.tbl.ruleIdArray (h - 1) = 0 := by
      by_contra hid
      have hlive := hh.live_of_id (h - 1) (by omega) hid
      rw [Nat.sub_add_cancel (by omega)] at hlive
      exact hlive hl
    rw [if_neg hge, if_neg h0, if_pos (by omega), Stuck.ok_bind, hid]
    rfl

/-- The rule of a live handle is where its entry leads. -/
theorem Handles.parse_of_live (hh : s.Handles) {h : Nat} {r : IpaNatIpv4Rule} (hl : s.live h = some r) :
    ∃ expn entry, s.tbl.parseIpv4RuleHdl h = .ok (expn, entry) ∧ s.tbl.slot expn entry = s.slotOf h ∧
      s.slotOf h < s.tbl.slots := by
  obtain ⟨h0, hlt⟩ := hh.range h r hl
  refine ⟨s.tbl.ruleIdArray (h - 1) % 2 == 1, s.tbl.ruleIdArray (h - 1) / 2, ?_, rfl, (hh.held_slotOf hl).1⟩
  unfold Ip4TableCache.parseIpv4RuleHdl Ip4TableCache.ruleIdAt
  rw [if_neg (by omega), if_neg h0, if_pos (by omega), Stuck.ok_bind]
  rfl

theorem Handles.live_lt (hh : s.Handles) {h : Nat} (hl : s.live h ≠ none) : h ≠ 0 ∧ h < 2 ^ 16 := by
  obtain ⟨r, hr⟩ := Option.ne_none_iff_exists'.1 hl
  have hslots := hh.sized.slots_lt
  have := hh.range h r hr
  omega

theorem IndexSound.slots_pos (h : s.IndexSound) : 0 < s.tbl.slots := by
  have := h.base
  unfold Ip4TableCache.slots
  omega

theorem Handles.not_live_of_wide (hh : s.Handles) {h : Nat} (hge : 2 ^ 16 ≤ h) : s.live h = none :=
  by_contra fun hl => absurd (hh.live_lt hl).2 (by omega)

/-- What is left of the condition for a table handle and a rule handle that are not 0. -/
theorem delChecked_iff {tblHdl ruleHdl : BitVec 32} {calls : DelCalls} (h : ¬ (tblHdl = 0 ∨ ruleHdl = 0)) :
    s.DelChecked tblHdl ruleHdl calls ↔ tblIndex tblHdl = 0 ∧ u16 ruleHdl.toNat ≠ 0 ∧
      (ruleHdl.toNat < 2 ^ 16 ∨ s.live (u16 ruleHdl.toNat) = none ∨ ¬ (calls.cmdMem = true ∧ calls.ioctl = true)) := by
  obtain ⟨htbl, hrule⟩ := not_or.1 h
  unfold DelChecked
  simp only [htbl, hrule, false_or]

/-- A handle of 0 is refused. -/
theorem Handles.delSafe_zero (hh : s.Handles) {tblHdl ruleHdl : BitVec 32} {calls : DelCalls} (hzero : tblHdl = 0 ∨ ruleHdl = 0) :
    s.DelSafe tblHdl ruleHdl calls := by
  have hcall : s.tbl.ipaNatDelIpv4Rule tblHdl ruleHdl calls = .ok (s.tbl, .error .einval) := if_pos hzero
  refine ⟨_, _, hcall, .inl ⟨⟨_, rfl⟩, rfl, ?_⟩⟩
  rcases hzero with rfl | rfl
  · exact .inr (.inl (by decide))
  · exact .inl (by_contra fun hl => (hh.live_lt hl).1 rfl)

/-- A table handle that leads out of `ip4_tbl` is not. -/
theorem not_delSafe_of_table {tblHdl ruleHdl : BitVec 32} {calls : DelCalls} (hzero : ¬ (tblHdl = 0 ∨ ruleHdl = 0))
    (hidx : tblIndex tblHdl ≠ 0) : ¬ s.DelSafe tblHdl ruleHdl calls := by
  rintro ⟨t, ret, hret, -⟩
  have hcall : s.tbl.ipaNatDelIpv4Rule tblHdl ruleHdl calls =
      (s.tbl.ip4Tbl (tblIndex tblHdl) >>= fun t => t.delIpv4Rule ruleHdl.toNat calls) := if_neg hzero
  have hout : ¬ tblIndex tblHdl < ipaNatMaxIp4Tbls := by
    unfold ipaNatMaxIp4Tbls
    omega
  rw [hcall, Ip4TableCache.ip4Tbl, if_neg hout] at hret
  cases hret

/-- The calls of a deletion being made, the rule of a live handle is deleted. -/
theorem IndexSound.delIpv4Rule_live (h : s.IndexSound) {k : Nat} (hl : s.live k ≠ none) {calls : DelCalls}
    (hrel : (Call.del k calls).Reliable) : ∃ t, s.tbl.delIpv4Rule k calls = .ok (t, .ok ()) := by
  obtain ⟨t, hcall, hgone⟩ := h.returns hrel ⟨trivial, hl⟩
  obtain ⟨⟨u, ret⟩, hdel, hcall⟩ := Stuck.bind_eq_ok.1 hcall
  cases ret with
  | error e =>
    cases hcall
    exact absurd (hgone _ calls rfl) hl
  | ok _ => exact ⟨u, hdel⟩

/-- What a deletion that goes through leaves. -/
theorem Handles.deleted_gone (hh : s.Handles) {k : Nat} {calls : DelCalls} (hrel : (Call.del k calls).Reliable) {t : Ip4TableCache}
    (hdel : s.tbl.delIpv4Rule k calls = .ok (t, .ok ())) :
    t.heldAt = update s.tbl.heldAt (s.slotOf k) none ∧ t.ruleIdArray = update s.tbl.ruleIdArray (k - 1) 0 := by
  rcases hh.delIpv4Rule hrel hdel with ⟨e, he, -⟩ | ⟨-, r, expn, entry, ruleFirst, hr, hslot, -, rfl, -⟩
  · cases he
  · have hin := (hh.held_slotOf hr).1
    have hheld := Ip4TableCache.helds_deleted (s := s.tbl) ruleFirst expn entry k
    rw [show s.slotOf k = s.tbl.slot expn entry from hslot] at hin ⊢
    exact ⟨Ip4TableCache.heldAt_update hin (.deleted ..) hheld, Ip4TableCache.ruleIdArray_deleted ..⟩

/-- **A deletion is safe just when its handles are.** -/
theorem IndexSound.delSafe_iff (h : s.IndexSound) (tblHdl ruleHdl : BitVec 32) {calls : DelCalls}
    (hlocks : calls.lock = true ∧ calls.unlock = true) : s.DelSafe tblHdl ruleHdl calls ↔ s.DelChecked tblHdl ruleHdl calls := by
  have hh := h.handles
  by_cases hzero : tblHdl = 0 ∨ ruleHdl = 0
  · exact ⟨fun _ => hzero.elim .inl fun h0 => .inr (.inl h0), fun _ => hh.delSafe_zero hzero⟩
  rw [delChecked_iff hzero]
  by_cases hidx : tblIndex tblHdl = 0
  rotate_left
  · exact ⟨fun hsafe => absurd hsafe (not_delSafe_of_table hzero hidx), fun hc => absurd hc.1 hidx⟩
  have hdel : s.tbl.ipaNatDelIpv4Rule tblHdl ruleHdl calls = s.tbl.delIpv4Rule ruleHdl.toNat calls := by
    rw [Ip4TableCache.ipaNatDelIpv4Rule, if_neg hzero, hidx]
    rfl
  obtain ⟨k, hk⟩ : ∃ k, k = ruleHdl.toNat := ⟨_, rfl⟩
  unfold DelSafe
  rw [hdel, ← hk]
  -- `rule_id_array[-1]`
  by_cases hlow : u16 k = 0
  · refine ⟨?_, fun hc => absurd hlow hc.2.1⟩
    rintro ⟨t, ret, hret, -⟩
    have hpos := h.slots_pos
    rw [Ip4TableCache.delIpv4Rule, hlow, Ip4TableCache.parseIpv4RuleHdl, if_neg (by omega), if_pos rfl] at hret
    cases hret
  by_cases hl : s.live (u16 k) = none
  · -- no rule at all
    have hret : s.tbl.delIpv4Rule k calls = .ok (s.tbl, .error .einval) := by
      rw [Ip4TableCache.delIpv4Rule, hh.parse_of_not_live hlow hl]
      rfl
    have hnone : s.live k = none := by
      by_cases hlt : k < 2 ^ 16
      · rw [← u16_of_lt hlt]
        exact hl
      · exact hh.not_live_of_wide (by omega)
    exact ⟨fun _ => ⟨hidx, hlow, .inr (.inl hl)⟩, fun _ => ⟨_, _, hret, .inl ⟨⟨_, rfl⟩, rfl, .inl hnone⟩⟩⟩
  -- the low half is the handle of a rule
  by_cases hsys : calls.cmdMem = true ∧ calls.ioctl = true
  rotate_left
  · obtain ⟨t, hlowdel⟩ := @IndexSound.delIpv4Rule_live _ h _ hl {} ⟨rfl, rfl, rfl, rfl⟩
    obtain ⟨⟨u, ret⟩, hret⟩ := Ip4TableCache.delIpv4Rule_returns ⟨_, hlowdel⟩ hlocks.1 hsys
    obtain ⟨rfl, e, rfl⟩ := Ip4TableCache.delIpv4Rule_fails hlocks.1 hsys hret
    exact ⟨fun _ => ⟨hidx, hlow, .inr (.inr hsys)⟩, fun _ => ⟨_, _, hret, .inl ⟨⟨_, rfl⟩, rfl, .inr (.inr hsys)⟩⟩⟩
  have hrel : ∀ j, (Call.del j calls).Reliable := fun _ => ⟨hlocks.1, hsys.1, hsys.2, hlocks.2⟩
  obtain ⟨t, hlowdel⟩ := h.delIpv4Rule_live hl (hrel _)
  by_cases hlt : k < 2 ^ 16
  · rw [u16_of_lt hlt] at hlowdel hl
    exact ⟨fun _ => ⟨hidx, hlow, .inl hlt⟩, fun _ => ⟨t, _, hlowdel, .inr ⟨rfl, hl, hh.deleted_gone (hrel k) hlowdel⟩⟩⟩
  · have hstuck := Ip4TableCache.delIpv4Rule_wide hh.sized (hrel k) (by omega) hlowdel
    rw [hstuck]
    refine ⟨?_, fun hc => ?_⟩
    · rintro ⟨t, ret, hret, -⟩
      cases hret
    · rcases hc.2.2 with hlt' | hnone | hfail
      · exact absurd hlt' hlt
      · exact absurd hnone hl
      · exact absurd hsys hfail

/-- **The reading of a time stamp is safe just for the handle of a live rule**, or by a table handle it refuses. -/
theorem IndexSound.querySafe_iff (h : s.IndexSound) (tblHdl ruleHdl : BitVec 32) :
    s.QuerySafe tblHdl ruleHdl ↔ tblHdl ≠ 1 ∨ s.live ruleHdl.toNat ≠ none := by
  have hh := h.handles
  by_cases htbl : tblHdl = 1
  rotate_left
  · have hrefused : tblHdl = 0 ∨ tblHdl.toNat > ipaNatMaxIp4Tbls := by
      by_contra hn
      obtain ⟨h0, hle⟩ := not_or.1 hn
      unfold ipaNatMaxIp4Tbls at hle
      have hz : tblHdl.toNat ≠ 0 := fun hz => h0 (BitVec.eq_of_toNat_eq hz)
      exact htbl (BitVec.eq_of_toNat_eq (show tblHdl.toNat = 1 by omega))
    have hcall : s.tbl.ipaNatQueryTimestamp tblHdl ruleHdl {} = .ok (.error .einval) := if_pos hrefused
    exact ⟨fun _ => .inl htbl, fun _ => ⟨_, hcall, .inl ⟨⟨_, rfl⟩, .inr htbl⟩⟩⟩
  obtain ⟨k, hk⟩ : ∃ k, k = ruleHdl.toNat := ⟨_, rfl⟩
  have hcall : s.tbl.ipaNatQueryTimestamp tblHdl ruleHdl {} = (s.tbl.parseIpv4RuleHdl (u16 k) >>= fun p =>
      s.tbl.ruleAt (s.tbl.slot p.1 p.2) >>= fun rule => .ok (.ok (rule.timeStamp.setWidth 32))) := by
    rw [htbl, hk]
    show s.tbl.natiQueryTimestamp ruleHdl.toNat {} = _
    unfold Ip4TableCache.natiQueryTimestamp
    rw [hh.sized.valid]
    rfl
  have hpos := h.slots_pos
  unfold QuerySafe
  rw [hcall, ← hk]
  simp only [htbl, ne_eq, not_true, false_or, or_false]
  constructor
  · rintro ⟨ret, hret, ⟨⟨e, rfl⟩, -⟩ | ⟨hl, -⟩⟩
    · -- no error is returned once the handle is parsed
      obtain ⟨p, -, hret⟩ := Stuck.bind_eq_ok.1 hret
      obtain ⟨rule, -, hret⟩ := Stuck.bind_eq_ok.1 hret
      cases hret
    · exact hl
  · intro hl
    obtain ⟨r, hr⟩ := Option.ne_none_iff_exists'.1 hl
    obtain ⟨expn, entry, hparse, hslot, hlt⟩ := hh.parse_of_live hr
    refine ⟨.ok ((s.tbl.rules (s.slotOf k)).timeStamp.setWidth 32), ?_, .inr ⟨hl, rfl⟩⟩
    rw [u16_of_lt (hh.live_lt hl).2, hparse, Stuck.ok_bind, hslot, Ip4TableCache.ruleAt, if_pos hlt]
    rfl

end Session
end HiaeCommon
