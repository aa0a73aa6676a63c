/-
A table and the calls made on it: `ipa_nati_add_ipv4_tbl` creates it, then
rules are added and deleted. `live` is ghost: the rules added and not yet
deleted, by the handles the driver returned for them.
-/
import HiaeCommon.Ipanat.NatDrvi
import HiaeCommon.Lib.Run

namespace HiaeCommon

open Function (update)
open Lib (Run)

/-! ## Creation -/

/-- The loop of `GetNearest2Power`; sixteen rounds empty a `uint16_t`. -/
def getNearest2PowerLoop (number : Nat) : Nat → Nat → Nat → Nat
  | 0, _, _ => 0
  | rounds + 1, num, tmp =>
    if num = 1 then if number ≠ tmp then u16 (tmp * 2) else tmp
    else getNearest2PowerLoop number rounds (num / 2) (u16 (tmp * 2))

/-- `GetNearest2Power`. -/
def getNearest2Power (num : Nat) : Option Nat :=
  if num = 0 then none
  else if num = 1 then some 2
  else some (getNearest2PowerLoop num 16 num 1)

/-- `GetNearestEven`, whose loop makes one round at most. -/
def getNearestEven (num : Nat) : Nat :=
  if num < 2 then 2 else if num % 2 ≠ 0 then u16 (num + 1) else num

/-- The sizes `ipa_nati_alloc_table` finds for `table_entries` and `expn_table_entries`:
80 and 20 percent, rounded. -/
def allocTable (numberOfEntries : BitVec 16) : Option (Nat × Nat) := do
  let tableEntries := numberOfEntries.toNat * 4 / 5
  let tableEntries := if tableEntries = 0 then 1 else tableEntries
  let tableEntries ← getNearest2Power tableEntries
  return (tableEntries, getNearestEven (numberOfEntries.toNat / 5))

/-- The cache entry `ipa_nati_update_cache` fills in and `ipa_nati_reset_tbl` clears. -/
def Ip4TableCache.created (publicAddr : BitVec 32) (memOffset tableEntries expnTableEntries : Nat) : Ip4TableCache where
  valid := true
  publicAddr
  tblAddrOffset := memOffset
  tableEntries
  expnTableEntries
  rules := fun _ => .zero
  index := fun _ => {}
  indexExpnTableMeta := fun _ => 0
  ruleIdArray := fun _ => 0
  curTblCnt := 0
  curExpnTblCnt := 0
  trace := []

/-- `ipa_nati_add_ipv4_tbl` where every system call succeeds; `memOffset` is
what the allocation returns in `mem.offset`. -/
def natiAddIpv4Tbl (publicIpAddr : BitVec 32) (numberOfEntries : BitVec 16) (memOffset : Nat) : Option Ip4TableCache :=
  (allocTable numberOfEntries).map fun (tableEntries, expnTableEntries) =>
    .created publicIpAddr memOffset tableEntries expnTableEntries

theorem natiAddIpv4Tbl_eq_some {pub : BitVec 32} {n : BitVec 16} {memOffset : Nat} {tbl : Ip4TableCache} :
    natiAddIpv4Tbl pub n memOffset = some tbl ↔
      ∃ te ee, allocTable n = some (te, ee) ∧ tbl = .created pub memOffset te ee := by
  unfold natiAddIpv4Tbl
  rw [Option.map_eq_some_iff]
  constructor
  · rintro ⟨⟨te, ee⟩, h, rfl⟩
    exact ⟨te, ee, h, rfl⟩
  · rintro ⟨te, ee, h, rfl⟩
    exact ⟨(te, ee), h, rfl⟩

/-- **What the loop computes**: the least power of two from `number` on, in sixteen bits. -/
theorem getNearest2PowerLoop_eq {number k rounds : Nat} (hk : 2 ^ k ≤ number) (hn : number < 2 ^ 16)
    (hr : k + rounds = 16) : getNearest2PowerLoop number rounds (number / 2 ^ k) (2 ^ k) =
      if number = 2 ^ number.log2 then number else u16 (2 ^ (number.log2 + 1)) := by
  induction rounds generalizing k with
  | zero =>
    obtain rfl : k = 16 := hr
    omega
  | succ rounds ih =>
    have h0 : number ≠ 0 := by
      have := Nat.two_pow_pos k
      omega
    by_cases h1 : number / 2 ^ k = 1
    · -- `number` lies between this power and the next
      have hlog : number.log2 = k := by
        rw [Nat.log2_eq_iff h0]
        refine ⟨hk, ?_⟩
        have := Nat.lt_mul_div_succ number (Nat.two_pow_pos k)
        rw [h1] at this
        omega
      rw [getNearest2PowerLoop, if_pos h1, hlog]
      by_cases heq : number = 2 ^ k
      · rw [if_neg (not_not.2 heq), if_pos heq, ← heq]
      · rw [if_pos heq, if_neg heq, Nat.pow_succ]
    · have hk' : 2 ^ (k + 1) ≤ number := by
        have hpos : 1 ≤ number / 2 ^ k := (Nat.one_le_div_iff (Nat.two_pow_pos k)).2 hk
        have h2 : 2 ≤ number / 2 ^ k := by omega
        have := (Nat.le_div_iff_mul_le (Nat.two_pow_pos k)).1 h2
        omega
      have hlt : 2 ^ (k + 1) < 2 ^ 16 := Nat.lt_of_le_of_lt hk' hn
      rw [getNearest2PowerLoop, if_neg h1, Nat.div_div_eq_div_mul, ← Nat.pow_succ, u16_of_lt hlt]
      exact ih hk' (by omega)

/-- **The base table wraps away above 2^15 entries**, and only there. -/
theorem getNearest2Power_range {num t : Nat} (hn : num < 2 ^ 16) (h : getNearest2Power num = some t) :
    num ≤ 2 ^ 15 ∧ 2 ≤ t ∧ t ≤ 2 ^ 15 ∨ 2 ^ 15 < num ∧ t = 0 := by
  unfold getNearest2Power at h
  split at h
  · cases h
  rename_i h0
  split at h
  · cases h
    omega
  rename_i h1
  have hloop : getNearest2PowerLoop num 16 (num / 2 ^ 0) (2 ^ 0) = _ :=
    getNearest2PowerLoop_eq (by omega) hn rfl
  rw [Nat.pow_zero, Nat.div_one] at hloop
  rw [hloop] at h
  have hlo : 2 ^ num.log2 ≤ num := Nat.log2_self_le h0
  have hhi : num < 2 ^ (num.log2 + 1) := (Nat.log2_lt h0).1 (Nat.lt_succ_self _)
  have hlog : num.log2 < 16 := (Nat.log2_lt h0).2 hn
  cases h
  by_cases hle : num ≤ 2 ^ 15
  · refine .inl ⟨hle, ?_⟩
    split
    · omega
    · rename_i hne
      have hlt : num.log2 < 15 := by
        by_contra hge
        obtain hl : num.log2 = 15 := by omega
        rw [hl] at hne hlo
        omega
      have hle' : 2 ^ (num.log2 + 1) ≤ 2 ^ 15 := Nat.pow_le_pow_right (by decide) hlt
      rw [u16_of_lt (by omega)]
      omega
  · have hl : num.log2 = 15 := by
      have : 15 ≤ num.log2 := by
        by_contra hge
        have := Nat.pow_le_pow_right (n := 2) (by decide) (show num.log2 + 1 ≤ 15 by omega)
        omega
      omega
    refine .inr ⟨by omega, ?_⟩
    rw [hl, if_neg (by omega)]
    rfl

/-- **The sizes of a table**: sound up to 40961 entries, no base table above. -/
theorem allocTable_range {n : BitVec 16} {t e : Nat} (h : allocTable n = some (t, e)) :
    (n.toNat ≤ 40961 ∧ 2 ≤ t ∧ t ≤ 2 ^ 15 ∧ 2 ≤ e ∧ e ≤ 2 ^ 13) ∨
      (40961 < n.toNat ∧ t = 0 ∧ 2 ^ 13 ≤ e ∧ e ≤ 13108) := by
  have hn := n.isLt
  have heven : getNearestEven (n.toNat / 5) = if n.toNat / 5 < 2 then 2 else n.toNat / 5 + n.toNat / 5 % 2 := by
    unfold getNearestEven
    split
    · rfl
    · split
      · rw [u16_of_lt (by omega)]
        omega
      · omega
  unfold allocTable at h
  simp only [bind, Option.bind_eq_some_iff, pure, Option.some.injEq, Prod.mk.injEq] at h
  obtain ⟨p, hp, rfl, rfl⟩ := h
  rw [heven]
  have hr := getNearest2Power_range (by split <;> omega) hp
  split at hr <;> split <;> omega

/-! ## Calls -/

/-- A table with its ghost. -/
structure Session where
  tbl : Ip4TableCache
  live : Nat → Option IpaNatIpv4Rule

/-- A call with what its system calls do. -/
inductive Call
  | add (clntRule : IpaNatIpv4Rule) (calls : AddCalls)
  | del (ruleHdl : Nat) (calls : DelCalls)

namespace Call

/-- No system call fails, but for the `malloc` of `ReorderCmds`, which may. -/
def Reliable : Call → Prop
  | add _ calls => calls = {}
  | del _ calls => calls.lock = true ∧ calls.cmdMem = true ∧ calls.ioctl = true ∧ calls.unlock = true

instance (c : Call) : Decidable c.Reliable := by
  cases c <;> unfold Reliable <;> infer_instance

/-- An added rule does not carry the protocol of a dead head. -/
def Valid : Call → Prop
  | add clntRule _ => clntRule.protocol ≠ ipaNatInvalidProtoFieldCmp
  | del _ _ => True

instance (c : Call) : Decidable c.Valid := by
  cases c <;> unfold Valid <;> infer_instance

end Call

namespace Session

/-- A table as created, without rules. -/
def fresh (tbl : Ip4TableCache) : Session := ⟨tbl, fun _ => none⟩

/-- A call and what becomes of the ghost. -/
def call (s : Session) : Call → Except Stuck Session
  | .add clntRule calls => do
    let (tbl, ret) ← s.tbl.addIpv4Rule clntRule calls
    match ret with
    | .ok ruleHdl => return ⟨tbl, update s.live ruleHdl (some clntRule)⟩
    | .error _ => return ⟨tbl, s.live⟩
  | .del ruleHdl calls => do
    let (tbl, ret) ← s.tbl.delIpv4Rule ruleHdl calls
    match ret with
    | .ok () => return ⟨tbl, update s.live ruleHdl none⟩
    | .error _ => return ⟨tbl, s.live⟩

/-- Only handles of live rules are deleted. -/
def Holds (s : Session) : Call → Prop
  | .add _ _ => True
  | .del ruleHdl _ => s.live ruleHdl ≠ none

instance (s : Session) (c : Call) : Decidable (s.Holds c) := by
  cases c <;> unfold Holds <;> infer_instance

/-- A step: a call that returns, made in a state where `P` holds of it. -/
def Step (P : Session → Call → Prop) (s : Session) (c : Call) (t : Session) : Prop :=
  c.Reliable ∧ P s c ∧ s.call c = .ok t

/-- Calls with rules a client may hand in, and those that delete live rules only. -/
def Admits (_ : Session) (c : Call) : Prop := c.Valid
def AdmitsLive (s : Session) (c : Call) : Prop := c.Valid ∧ s.Holds c

instance (s : Session) (c : Call) : Decidable (s.Admits c) := inferInstanceAs (Decidable c.Valid)
instance (s : Session) (c : Call) : Decidable (s.AdmitsLive c) := inferInstanceAs (Decidable (_ ∧ _))

/-- The calls of a list made one after the other, and whether each is a step. -/
def after (s : Session) : List Call → Session
  | [] => s
  | c :: cs => match s.call c with
    | .ok t => t.after cs
    | .error _ => s

def allStep (P : Session → Call → Prop) [∀ s c, Decidable (P s c)] (s : Session) : List Call → Bool
  | [] => true
  | c :: cs => decide (c.Reliable ∧ P s c) && match s.call c with
    | .ok t => t.allStep P cs
    | .error _ => false

/-- A run, computed. -/
theorem run_after {P : Session → Call → Prop} [∀ s c, Decidable (P s c)] {s : Session} {cs : List Call}
    (h : s.allStep P cs = true) : Run (Step P) s cs (s.after cs) := by
  induction cs generalizing s with
  | nil => exact .nil s
  | cons c cs ih =>
    unfold allStep at h
    rw [Bool.and_eq_true, decide_eq_true_eq] at h
    obtain ⟨⟨hrel, hp⟩, h⟩ := h
    unfold after
    cases hcall : s.call c with
    | error e =>
      rw [hcall] at h
      cases h
    | ok t =>
      rw [hcall] at h
      exact .cons ⟨hrel, hp, hcall⟩ (ih h)

end Session
end HiaeCommon
