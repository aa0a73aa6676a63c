/-
What one `NatApp` call can do to the cache, said once: every call is a
sequence of edits (`step_edits`), each of one slot at most, each with the
guard the code put before it. The invariants of the cache are then proved
edit by edit and never unfold a loop.
-/
import Mathlib.Logic.Relation
import Mathlib.Tactic.ByContra
import Mathlib.Tactic.Common
import HiaeCommon.Lib.Run
import HiaeCommon.Ipacm.NatApp

namespace HiaeCommon

open Relation (ReflTransGen)
open NatTableEntry (zero)
open Lib (forRange_inv forRange_inv')

namespace NatTableEntry

@[simp] theorem tuple_zero : zero.tuple = Tuple.blank := rfl
@[simp] theorem enabled_zero : zero.enabled = false := rfl
@[simp] theorem not_full_blank : ¬ Tuple.blank.Full := fun h => h.1 rfl

/-- The record with its flag cleared, as `Reset` leaves it. -/
def disable (e : NatTableEntry) : NatTableEntry := { e with enabled := false }

@[simp] theorem tuple_disable (e : NatTableEntry) : e.disable.tuple = e.tuple := rfl
@[simp] theorem enabled_disable (e : NatTableEntry) : e.disable.enabled = false := rfl
@[simp] theorem disable_zero : zero.disable = zero := rfl

theorem isBlank_iff {e : NatTableEntry} : e.isBlank = true ↔ e.tuple = .blank := by
  simp [isBlank]

end NatTableEntry

namespace NatApp

variable {δ : Type} {env : NatEnv δ}

/-! ## Slots -/

theorem slot_setSlot (s : NatApp δ) (cnt : Nat) (e : NatTableEntry) (i : Nat) :
    (s.setSlot cnt e).slot i = if i = cnt ∧ cnt < s.maxEntries then e else s.slot i := by
  simp only [slot, setSlot, maxEntries, List.getD_eq_getElem?_getD, List.getElem?_set]
  by_cases h : cnt = i
  · subst h
    by_cases hlt : cnt < s.cache.length <;> simp [hlt]
  · simp [h, Ne.symm h]

theorem slot_setSlot_self {s : NatApp δ} {cnt : Nat} (h : cnt < s.maxEntries) (e : NatTableEntry) :
    (s.setSlot cnt e).slot cnt = e := by simp [slot_setSlot, h]

theorem slot_fillSlot (s : NatApp δ) (cnt : Nat) (e : NatTableEntry) (i : Nat) :
    (s.fillSlot cnt e).slot i = if i = cnt ∧ cnt < s.maxEntries then e else s.slot i :=
  slot_setSlot s cnt e i

theorem slot_eq_zero {s : NatApp δ} {i : Nat} (h : s.maxEntries ≤ i) : s.slot i = zero := by
  simp [slot, List.getD_eq_getElem?_getD, List.getElem?_eq_none (show s.cache.length ≤ i from h)]

theorem slot_clearSlot (s : NatApp δ) (cnt i : Nat) :
    (s.clearSlot cnt).slot i = if i = cnt then zero else s.slot i := by
  refine (slot_setSlot s cnt zero i).trans ?_
  by_cases hi : i = cnt
  · subst hi
    by_cases hlt : i < s.maxEntries
    · simp [hlt]
    · simp [hlt, slot_eq_zero (Nat.le_of_not_lt hlt)]
  · simp [hi]

theorem slot_lt {s : NatApp δ} {i : Nat} (h : s.slot i ≠ zero) : i < s.maxEntries :=
  Nat.lt_of_not_le fun hle => h (slot_eq_zero hle)

theorem enabled_lt {s : NatApp δ} {i : Nat} (h : (s.slot i).enabled = true) : i < s.maxEntries :=
  slot_lt fun hz => by simp [hz] at h

theorem slot_of_cache {s t : NatApp δ} (h : s.cache = t.cache) (i : Nat) : s.slot i = t.slot i := by
  simp [slot, h]

@[simp] theorem slot_drv (s : NatApp δ) (drv : δ) (i : Nat) : { s with drv }.slot i = s.slot i := rfl
@[simp] theorem maxEntries_drv (s : NatApp δ) (drv : δ) : { s with drv }.maxEntries = s.maxEntries := rfl
@[simp] theorem maxEntries_setSlot (s : NatApp δ) (cnt : Nat) (e : NatTableEntry) :
    (s.setSlot cnt e).maxEntries = s.maxEntries := by simp [maxEntries, setSlot]
@[simp] theorem maxEntries_fillSlot (s : NatApp δ) (cnt : Nat) (e : NatTableEntry) :
    (s.fillSlot cnt e).maxEntries = s.maxEntries := by simp [maxEntries, fillSlot]
@[simp] theorem maxEntries_clearSlot (s : NatApp δ) (cnt : Nat) :
    (s.clearSlot cnt).maxEntries = s.maxEntries := by simp [maxEntries, clearSlot]

theorem mem_cache_iff {s : NatApp δ} {e : NatTableEntry} :
    e ∈ s.cache ↔ ∃ i < s.maxEntries, s.slot i = e := by
  simp only [List.mem_iff_getElem, slot, maxEntries]
  constructor
  · rintro ⟨i, hi, rfl⟩; exact ⟨i, hi, by simp [List.getD_eq_getElem?_getD, hi]⟩
  · rintro ⟨i, hi, rfl⟩; exact ⟨i, hi, by simp [List.getD_eq_getElem?_getD, hi]⟩

theorem freeSlot_some {s : NatApp δ} {cnt : Nat} (h : s.freeSlot = some cnt) :
    cnt < s.maxEntries ∧ (s.slot cnt).tuple = .blank := by
  obtain ⟨hlt, hp, -⟩ := List.findIdx?_eq_some_iff_getElem.mp h
  refine ⟨hlt, ?_⟩
  simpa [slot, List.getD_eq_getElem?_getD, hlt, NatTableEntry.isBlank_iff] using hp

theorem findSlot_some {s : NatApp δ} {rule : NatTableEntry} {cnt : Nat} (h : s.findSlot rule = some cnt) :
    cnt < s.maxEntries ∧ (s.slot cnt).tuple = rule.tuple := by
  obtain ⟨hlt, hp, -⟩ := List.findIdx?_eq_some_iff_getElem.mp h
  refine ⟨hlt, ?_⟩
  simpa [slot, List.getD_eq_getElem?_getD, hlt] using hp

theorem findSlot_none {s : NatApp δ} {rule : NatTableEntry} (h : s.findSlot rule = none) :
    ∀ i < s.maxEntries, (s.slot i).tuple ≠ rule.tuple := by
  intro i hi
  have := List.findIdx?_eq_none_iff.mp h (s.slot i) (mem_cache_iff.mpr ⟨i, hi, rfl⟩)
  simpa using this

theorem chkForDup_false {s : NatApp δ} {rule : NatTableEntry} (h : s.chkForDup rule = false) :
    ∀ i < s.maxEntries, (s.slot i).tuple ≠ rule.tuple := by
  intro i hi
  have := List.any_eq_false.mp h (s.slot i) (mem_cache_iff.mpr ⟨i, hi, rfl⟩)
  simpa using this

theorem forEachSlot_inv (body : NatApp δ → Nat → NatApp δ) (I : Nat → NatApp δ → Prop) {s : NatApp δ}
    (h0 : I 0 s) (hbody : ∀ i t, i < s.maxEntries → I i t → I (i + 1) (body t i)) :
    I s.maxEntries (s.forEachSlot body) :=
  forRange_inv I h0 hbody

theorem slot_resetBody (s : NatApp δ) (cnt i : Nat) :
    (resetBody s cnt).slot i = if i = cnt then (s.slot i).disable else s.slot i := by
  refine (slot_setSlot s cnt _ i).trans ?_
  by_cases hi : i = cnt
  · subst hi
    by_cases hlt : i < s.maxEntries
    · simp [hlt, NatTableEntry.disable]
    · simp [hlt, slot_eq_zero (Nat.le_of_not_lt hlt)]
  · simp [hi]

theorem cache_ext {s t : NatApp δ} (hlen : s.maxEntries = t.maxEntries) (h : ∀ i, s.slot i = t.slot i) :
    s.cache = t.cache := by
  refine List.ext_getElem hlen fun i hi hi' => ?_
  simpa [slot, List.getD_eq_getElem?_getD, hi, hi'] using h i

/-- `Reset` keeps every slot but its `enabled` flag. -/
theorem reset_eq (s : NatApp δ) : s.reset =
    { s with natTableHdl := 0, pubIpAddr := 0, cache := s.cache.map NatTableEntry.disable } := by
  obtain ⟨h1, hlen, h2⟩ := forEachSlot_inv resetBody
    (s := { s with natTableHdl := 0, pubIpAddr := 0 })
    (fun n t => t = { s with natTableHdl := 0, pubIpAddr := 0, cache := t.cache } ∧
      t.maxEntries = s.maxEntries ∧
      ∀ i, t.slot i = if i < n then (s.slot i).disable else s.slot i)
    ⟨rfl, rfl, fun i => by simp [slot]⟩
    (by
      rintro n t hn ⟨h1, hlen, h2⟩
      refine ⟨by rw [h1]; rfl, by simpa [resetBody] using hlen, fun i => ?_⟩
      rw [slot_resetBody, h2]
      by_cases hi : i = n
      · simp [hi]
      · have : i < n + 1 ↔ i < n := by omega
        simp [hi, this])
  rw [reset, h1]
  congr 1
  refine cache_ext (t := { s with cache := s.cache.map NatTableEntry.disable }) (by simpa [maxEntries] using hlen)
    fun i => ?_
  have hmap : NatApp.slot { s with cache := s.cache.map NatTableEntry.disable } i = (s.slot i).disable := by
    simp only [slot, List.getD_eq_getElem?_getD, List.getElem?_map]
    cases s.cache[i]? <;> rfl
  rw [hmap]
  by_cases hlt : i < s.maxEntries
  · exact (h2 i).trans (if_pos hlt)
  · rw [h2 i, slot_eq_zero (Nat.le_of_not_lt hlt)]
    simp

theorem listPwrSaveIf_eq (ip : BitVec 32) (s : NatApp δ) :
    s.listPwrSaveIf ip = { s with pwrSaveIfs := (s.listPwrSaveIf ip).pwrSaveIfs } := by
  unfold listPwrSaveIf
  split <;> rfl

theorem unlistPwrSaveIf_eq (ip : BitVec 32) (s : NatApp δ) :
    s.unlistPwrSaveIf ip = { s with pwrSaveIfs := (s.unlistPwrSaveIf ip).pwrSaveIfs } := by
  unfold unlistPwrSaveIf
  split <;> rfl

/-! ## Edits -/

/-- A driver call that leaves the object as it was. -/
inductive QuietCall (env : NatEnv δ) (s : NatApp δ) : δ → Prop
  | addRefused {drv rule} (h : env.addIpv4Rule s.drv s.natTableHdl rule = (drv, none)) : QuietCall env s drv
  | delRefused {drv} (i : Nat) (he : (s.slot i).enabled = true)
      (h : env.delIpv4Rule s.drv s.natTableHdl (s.slot i).ruleHdl = (drv, false)) : QuietCall env s drv
  | tblKept {drv} (h : env.delIpv4Tbl s.drv s.natTableHdl = (drv, false)) : QuietCall env s drv
  | query (hdl) : QuietCall env s (env.queryTimestamp s.drv s.natTableHdl hdl).1
  | ct (a) : QuietCall env s (env.ctUpdate s.drv a).1
  | udp : QuietCall env s (env.readUdpTimeout s.drv).1
  | tcp : QuietCall env s (env.readTcpTimeout s.drv).1

/-- Slot `cnt` is due to be put (back) into the hardware by the call `op`,
which began in `s₀`. -/
inductive Restores (op : NatOp) (s₀ s : NatApp δ) (cnt : Nat) : Prop
  | tbl (h : op = .addTable s₀.pubIpAddrPre) (hs : s.slot cnt = s₀.slot cnt)
      (hp : s.pwrSaveIfs = s₀.pwrSaveIfs) (h0 : (s.slot cnt).privateIp ≠ 0)
  | pwr (ip : BitVec 32) (h : op = .resetPwrSaveIf ip) (hip : ip ≠ 0) (hs : s.slot cnt = s₀.slot cnt)
      (hp : s.pwrSaveIfs = (s₀.unlistPwrSaveIf ip).pwrSaveIfs) (hi : (s.slot cnt).privateIp = ip)
      (he : (s.slot cnt).enabled = false)

/-- The call `op` may store the connection `rule` asks for. -/
def Offers (op : NatOp) (s : NatApp δ) (rule : NatTableEntry) : Prop :=
  match op with
  | .addEntry r | .cacheEntry r => r = rule
  | .flushTempEntries _ isAdd _ => isAdd = true ∧ rule ∈ s.temp
  | _ => False

/-- `rule` is stored in `cnt`, the first free slot. -/
structure Stores (op : NatOp) (s : NatApp δ) (rule : NatTableEntry) (cnt : Nat) : Prop where
  offers : Offers op s rule
  full : rule.tuple.Full
  dup : s.chkForDup rule = false
  free : s.freeSlot = some cnt

/-- `DeleteEntry` runs on the tuple of slot `cnt`: called as such, or by the
time-stamp refresh for an enabled entry. -/
inductive Drops (env : NatEnv δ) (op : NatOp) (s : NatApp δ) (cnt : Nat) : Prop
  | delete (rule) (h : op = .deleteEntry rule) (ht : (s.slot cnt).tuple = rule.tuple)
  | refresh (j : Nat) (h : op = .updateUDPTimeStamp) (he : (s.slot j).enabled = true)
      (ht : (s.slot cnt).tuple = (s.slot j).tuple)
      (hq : ∃ drv, (env.queryTimestamp drv s.natTableHdl (s.slot j).ruleHdl).2 ≠ none)

/-- One edit of a call `op` that began in `s₀`. -/
inductive Edit (env : NatEnv δ) (op : NatOp) (s₀ : NatApp δ) : NatApp δ → NatApp δ → Prop
  | other (s : NatApp δ) (temp tcpTimeout udpTimeout) : Edit env op s₀ s { s with temp, tcpTimeout, udpTimeout }
  | call (s : NatApp δ) {drv} (h : QuietCall env s drv) : Edit env op s₀ s { s with drv }
  | stamp (s : NatApp δ) (cnt ts) (he : (s.slot cnt).enabled = true) :
      Edit env op s₀ s (s.setSlot cnt { s.slot cnt with timestamp := ts })
  | tblRefused {s : NatApp δ} {ip drv} (hop : op = .addTable ip) (hs : s = s₀)
      (h : env.addIpv4Tbl s.drv ip (BitVec.ofNat 16 s.maxEntries) = (drv, none)) :
      Edit env op s₀ s
        { s with drv, natTableHdl := if BitVec.ofNat 16 s.maxEntries = 0 then s.natTableHdl else 0 }
  | tblAdded {s : NatApp δ} {ip drv hdl} (hop : op = .addTable ip) (hs : s = s₀)
      (h : env.addIpv4Tbl s.drv ip (BitVec.ofNat 16 s.maxEntries) = (drv, some hdl)) :
      Edit env op s₀ s { s with drv, natTableHdl := hdl }
  | tblNamed (s : NatApp δ) {ip} (hop : op = .addTable ip) : Edit env op s₀ s { s with pubIpAddr := ip }
  | tblDeleted {s : NatApp δ} {drv} (hop : op = .deleteTable s.pubIpAddr) (ht : s.natTableHdl ≠ 0)
      (h : env.delIpv4Tbl s.drv s.natTableHdl = (drv, true)) :
      Edit env op s₀ s { s with drv, pubIpAddrPre := s.pubIpAddr }.reset
  | restored {s : NatApp δ} {cnt drv ruleHdl} (hr : Restores op s₀ s cnt)
      (h : env.addIpv4Rule s.drv s.natTableHdl (s.slot cnt).natRule = (drv, some ruleHdl)) :
      Edit env op s₀ s ({ s with drv }.setSlot cnt { s.slot cnt with ruleHdl, enabled := true })
  | lost {s : NatApp δ} {cnt drv} (hr : Restores op s₀ s cnt) (hlt : cnt < s.maxEntries)
      (h : env.addIpv4Rule s.drv s.natTableHdl (s.slot cnt).natRule = (drv, none)) :
      Edit env op s₀ s ({ s with drv }.clearSlot cnt)
  | cached {s : NatApp δ} {rule cnt} {e : NatTableEntry} (hs : Stores op s rule cnt)
      (ht : e.tuple = rule.tuple) (ho : e.origin = rule.origin) (he : e.enabled = false) :
      Edit env op s₀ s (s.fillSlot cnt e)
  | added {s : NatApp δ} {rule cnt drv ruleHdl} (hs : Stores op s rule cnt) (htbl : s.natTableHdl ≠ 0)
      (hp : s.isPwrSaveIf rule.privateIp = false)
      (h : env.addIpv4Rule s.drv s.natTableHdl rule.natRule = (drv, some ruleHdl)) :
      Edit env op s₀ s ({ s with drv }.fillSlot cnt (addedEntry (s.slot cnt) rule true ruleHdl))
  | disabled {s : NatApp δ} {cnt drv ruleHdl} (he : (s.slot cnt).enabled = true)
      (h : env.delIpv4Rule s.drv s.natTableHdl (s.slot cnt).ruleHdl = (drv, true)) :
      Edit env op s₀ s ({ s with drv }.setSlot cnt { s.slot cnt with ruleHdl, enabled := false })
  | dropped {s : NatApp δ} {cnt} (hd : Drops env op s cnt) (hlt : cnt < s.maxEntries) :
      Edit env op s₀ s ((s.delRule env cnt).clearSlot cnt)
  | left {s : NatApp δ} {ip cnt} (hop : op = .delEntriesOnSTAClntDiscon ip) (hip : ip ≠ 0)
      (ht : (s.slot cnt).targetIp = ip) (he : (s.slot cnt).enabled = false) (hlt : cnt < s.maxEntries) :
      Edit env op s₀ s (s.clearSlot cnt)
  | listed {s : NatApp δ} {ip} (hop : op = .updatePwrSaveIf ip) (hip : ip ≠ 0) (hn : ip ∉ s.pwrSaveIfs) :
      Edit env op s₀ s (s.listPwrSaveIf ip)
  | unlisted {s : NatApp δ} {ip} (hop : op = .resetPwrSaveIf ip ∨ op = .delEntriesOnClntDiscon ip)
      (hip : ip ≠ 0) : Edit env op s₀ s (s.unlistPwrSaveIf ip)

/-- The edits of the call `op` that began in `s₀`, in order. -/
abbrev Edits (env : NatEnv δ) (op : NatOp) (s₀ : NatApp δ) : NatApp δ → NatApp δ → Prop :=
  ReflTransGen (Edit env op s₀)

variable {op : NatOp} {s₀ : NatApp δ}

theorem restoreSlot_edit {s : NatApp δ} {cnt : Nat} (hr : Restores op s₀ s cnt) (hlt : cnt < s.maxEntries) :
    Edit env op s₀ s (s.restoreSlot env cnt) := by
  unfold restoreSlot
  split
  next h => exact .lost hr hlt h
  next h => exact .restored hr h

/-- What restoring one slot leaves to the other iterations of its loop. -/
theorem restoreSlot_frame (env : NatEnv δ) (s : NatApp δ) (cnt : Nat) :
    (s.restoreSlot env cnt).maxEntries = s.maxEntries ∧
      (s.restoreSlot env cnt).pwrSaveIfs = s.pwrSaveIfs ∧
      ∀ j, j ≠ cnt → (s.restoreSlot env cnt).slot j = s.slot j := by
  unfold restoreSlot
  split
  · exact ⟨maxEntries_clearSlot _ _, rfl, fun j hj => by rw [slot_clearSlot, if_neg hj]; rfl⟩
  · exact ⟨maxEntries_setSlot _ _ _, rfl, fun j hj => by rw [slot_setSlot, if_neg (by simp [hj])]; rfl⟩

/-- A loop over the cache that restores the slots `p` picks, each from what
the call began with. -/
theorem restoreLoop_edits {body : NatApp δ → Nat → NatApp δ} {s : NatApp δ} (hs : Edits env op s₀ s₀ s)
    (hslot : ∀ j, s.slot j = s₀.slot j)
    (hbody : ∀ t i, i < s.maxEntries → t.pwrSaveIfs = s.pwrSaveIfs → t.slot i = s₀.slot i → 
      body t i = t ∨ (Restores op s₀ t i ∧ body t i = t.restoreSlot env i)) :
    Edits env op s₀ s₀ (s.forEachSlot body) := by
  refine (forEachSlot_inv body (fun i t => Edits env op s₀ s₀ t ∧ t.maxEntries = s.maxEntries ∧
    t.pwrSaveIfs = s.pwrSaveIfs ∧ ∀ j, i ≤ j → t.slot j = s₀.slot j)
    ⟨hs, rfl, rfl, fun j _ => hslot j⟩ ?_).1
  rintro i t hi ⟨ht, hlen, hp, hsl⟩
  rcases hbody t i hi hp (hsl i (Nat.le_refl i)) with heq | ⟨hr, heq⟩
  · rw [heq]; exact ⟨ht, hlen, hp, fun j hj => hsl j (by omega)⟩
  · obtain ⟨h1, h2, h3⟩ := restoreSlot_frame env t i
    rw [heq]
    exact ⟨ht.tail (restoreSlot_edit hr (by omega)), by omega, by rw [h2, hp],
      fun j hj => by rw [h3 j (by omega)]; exact hsl j (by omega)⟩

theorem addTable_edits (ip : BitVec 32) (s : NatApp δ) :
    Edits env (.addTable ip) s s (s.addTable env ip).1 := by
  unfold addTable
  split
  next h => exact .single (.tblRefused rfl rfl h)
  next drv hdl h =>
    have h1 : Edits env (.addTable ip) s s { s with drv, natTableHdl := hdl } := .single (.tblAdded rfl rfl h)
    dsimp only
    split
    next hip =>
      subst hip
      refine (restoreLoop_edits h1 (fun _ => rfl) fun t i hi hp hsl => ?_).tail (.tblNamed _ rfl)
      unfold addTableBody
      split
      next h0 => exact .inr ⟨.tbl rfl hsl hp h0, rfl⟩
      · exact .inl rfl
    · exact h1.tail (.tblNamed _ rfl)

theorem resetPwrSaveIf_edits (ip : BitVec 32) (s : NatApp δ) :
    Edits env (.resetPwrSaveIf ip) s s (s.resetPwrSaveIf env ip).1 := by
  unfold resetPwrSaveIf
  split
  · exact .refl
  next hip =>
    have hslot : ∀ j, (s.unlistPwrSaveIf ip).slot j = s.slot j := fun j => by rw [unlistPwrSaveIf_eq]; rfl
    refine restoreLoop_edits (.single (.unlisted (.inl rfl) hip)) hslot fun t i hi hp hsl => ?_
    unfold resetPwrSaveIfBody
    split
    next h0 => exact .inr ⟨.pwr ip rfl hip hsl hp h0.1 h0.2, rfl⟩
    · exact .inl rfl

theorem deleteTable_edits (ip : BitVec 32) (s : NatApp δ) :
    Edits env (.deleteTable ip) s s (s.deleteTable env ip).1 := by
  unfold deleteTable
  split
  · exact .refl
  next ht =>
    split
    · exact .refl
    next hip =>
      rw [not_not] at hip
      subst hip
      split
      next h => exact .single (.call s (.tblKept h))
      next h => exact .single (.tblDeleted rfl ht h)

theorem deleteEntry_edits {s : NatApp δ} (rule : NatTableEntry)
    (hd : ∀ cnt, (s.slot cnt).tuple = rule.tuple → Drops env op s cnt) :
    Edits env op s₀ s (s.deleteEntry env rule).1 := by
  unfold deleteEntry
  split
  · exact .refl
  next cnt h =>
    obtain ⟨hlt, ht⟩ := findSlot_some h
    exact .single (.dropped (hd cnt ht) hlt)

theorem addEntry_edits {s : NatApp δ} (rule : NatTableEntry) (ho : rule.tuple.Full → Offers op s rule) :
    Edits env op s₀ s (s.addEntry env rule).1 := by
  unfold addEntry
  split
  · exact .refl
  next htbl =>
    split
    · exact .refl
    split
    · exact .refl
    next hfull =>
      split
      · exact .refl
      next hdup =>
        split
        · exact .refl
        next cnt hfree =>
          have hst : Stores op s rule cnt := ⟨ho (not_not.mp hfull), not_not.mp hfull, by simpa using hdup, hfree⟩
          split
          · exact .single (.cached hst rfl rfl rfl)
          next hp =>
            simp only [Bool.or_eq_true, not_or, Bool.not_eq_true] at hp
            split
            next h => exact .single (.call s (.addRefused h))
            next h => exact .single (.added hst htbl hp.1 h)

theorem cacheEntry_edits (rule : NatTableEntry) (s : NatApp δ) :
    Edits env (.cacheEntry rule) s s (s.cacheEntry rule) := by
  unfold cacheEntry
  split
  · exact .refl
  next hfull =>
    split
    · exact .refl
    next hdup =>
      split
      · exact .refl
      next cnt hfree => exact .single (.cached ⟨rfl, not_not.mp hfull, by simpa using hdup, hfree⟩ rfl rfl rfl)

theorem readTcpUdpTimeout_edits (s : NatApp δ) : Edits env op s₀ s (s.readTcpUdpTimeout env) := by
  unfold readTcpUdpTimeout
  have hu : Edits env op s₀ s { s with drv := (env.readUdpTimeout s.drv).1 } := .single (.call s .udp)
  split
  next drv h => simpa [h] using hu
  next drv udp h =>
    rw [h] at hu
    have h1 := hu.tail (.other _ s.temp s.tcpTimeout (udp.getD s.udpTimeout))
    have h2 := h1.tail (.call _ .tcp)
    dsimp only at h2 ⊢
    split
    next drv' h' => simpa [h'] using h2
    next drv' tcp h' =>
      rw [h'] at h2
      exact h2.tail (.other _ s.temp (tcp.getD s.tcpTimeout) (udp.getD s.udpTimeout))

/-- Reading the time-outs keeps the cache and the table. -/
theorem readTcpUdpTimeout_frame (env : NatEnv δ) (s : NatApp δ) :
    (s.readTcpUdpTimeout env).cache = s.cache ∧ (s.readTcpUdpTimeout env).natTableHdl = s.natTableHdl := by
  unfold readTcpUdpTimeout
  split
  · exact ⟨rfl, rfl⟩
  · dsimp only
    split <;> exact ⟨rfl, rfl⟩

theorem updateCTUdpTs_edits {s : NatApp δ} {cnt : Nat} (ts : BitVec 32) (he : (s.slot cnt).enabled = true)
    (hq : ∃ drv, (env.queryTimestamp drv s.natTableHdl (s.slot cnt).ruleHdl).2 ≠ none) :
    Edits env .updateUDPTimeStamp s₀ s (s.updateCTUdpTs env cnt ts) := by
  have hc : Edits env .updateUDPTimeStamp s₀ s { s with drv := (env.ctUpdate s.drv (s.ctAttrs (s.slot cnt))).1 } :=
    .single (.call s (.ct _))
  unfold updateCTUdpTs
  split
  next h => simpa [h] using hc
  next drv h =>
    rw [h] at hc
    exact hc.trans (deleteEntry_edits _ fun i hi => .refresh cnt rfl he hi hq)
  next drv h =>
    rw [h] at hc
    exact hc.tail (.stamp { s with drv } cnt ts he)

theorem updateUDPTimeStamp_edits (s : NatApp δ) :
    Edits env .updateUDPTimeStamp s s (s.updateUDPTimeStamp env) := by
  refine forRange_inv' (fun p : NatApp δ × Bool => Edits env .updateUDPTimeStamp s s p.1) .refl ?_
  rintro i ⟨t, readTo⟩ hi ht
  simp only at ht
  simp only [updateUDPTimeStampBody]
  split
  next hg =>
    have he : (t.slot i).enabled = true := by simp_all
    have hq : Edits env .updateUDPTimeStamp s t
        { t with drv := (env.queryTimestamp t.drv t.natTableHdl (t.slot i).ruleHdl).1 } := .single (.call t (.query _))
    split
    next h => rw [h] at hq; exact ht.trans hq
    next drv ts h =>
      rw [h] at hq
      have hsome : ∃ drv, (env.queryTimestamp drv t.natTableHdl (t.slot i).ruleHdl).2 ≠ none :=
        ⟨t.drv, by simp [h]⟩
      split
      · exact ht.trans hq
      · refine (ht.trans hq).trans ?_
        cases readTo
        · obtain ⟨hcache, hhdl⟩ := readTcpUdpTimeout_frame env { t with drv }
          have hsl := slot_of_cache hcache i
          refine (readTcpUdpTimeout_edits { t with drv }).trans (updateCTUdpTs_edits ts ?_ ?_)
          · rw [hsl]; exact he
          · rw [hsl, hhdl]; exact hsome
        · exact updateCTUdpTs_edits ts he hsome
  · exact ht

theorem updatePwrSaveIfBody_edits (ip : BitVec 32) (s : NatApp δ) (cnt : Nat) :
    Edits env op s₀ s (updatePwrSaveIfBody env ip s cnt) := by
  unfold updatePwrSaveIfBody
  split
  next hg =>
    split
    next h => exact .single (.call s (.delRefused cnt hg.2 h))
    next h => exact .single (.disabled hg.2 h)
  · exact .refl

theorem updatePwrSaveIf_edits (ip : BitVec 32) (s : NatApp δ) :
    Edits env (.updatePwrSaveIf ip) s s (s.updatePwrSaveIf env ip).1 := by
  unfold updatePwrSaveIf
  split
  · exact .refl
  next hip =>
    split
    · exact .refl
    next hn =>
      have hn' : ip ∉ s.pwrSaveIfs := by simpa using hn
      exact forRange_inv' _ (.single (.listed rfl hip hn')) fun i t _ ht => ht.trans (updatePwrSaveIfBody_edits ip t i)

theorem addTempEntry_edits (e : NatTableEntry) (s : NatApp δ) :
    Edits env (.addTempEntry e) s s (s.addTempEntry e) := by
  unfold addTempEntry
  split_ifs <;> try exact .refl
  split
  · exact .refl
  · exact .single (.other s _ s.tcpTimeout s.udpTimeout)

theorem deleteTempEntry_edits (e : NatTableEntry) (s : NatApp δ) :
    Edits env (.deleteTempEntry e) s s (s.deleteTempEntry e) := by
  unfold deleteTempEntry
  split
  · exact .refl
  · exact .single (.other s _ s.tcpTimeout s.udpTimeout)

theorem setTemp_edits (s : NatApp δ) (temp : List NatTableEntry) : Edits env op s₀ s { s with temp } :=
  .single (.other s temp s.tcpTimeout s.udpTimeout)

theorem flushTempEntries_edits (ip : BitVec 32) (isAdd isDummy : Bool) (s : NatApp δ) :
    Edits env (.flushTempEntries ip isAdd isDummy) s s (s.flushTempEntries env ip isAdd isDummy) := by
  refine forRange_inv' (Edits env _ s s) .refl fun cnt t _ ht => ht.trans ?_
  simp only [flushTempEntriesBody]
  split
  · split
    next hadd =>
      have hadd : isAdd = true := by simp_all
      -- the record the slot holds when `AddEntry` reads it
      generalize he : (if isDummy = true then dummyEntry (t.temp.getD cnt zero) else t.temp.getD cnt zero) = e
      have hoff : e.tuple.Full → e ∈ t.temp.set cnt e := by
        intro hf
        refine List.mem_set ?_ e
        refine Nat.lt_of_not_le fun hle => hf.1 ?_
        have hz : t.temp.getD cnt zero = zero := by simp [List.getD_eq_getElem?_getD, hle]
        rw [← he, hz]
        cases isDummy <;> rfl
      refine (setTemp_edits t (t.temp.set cnt e)).trans ?_
      have hadd' : Edits env (.flushTempEntries ip isAdd isDummy) s { t with temp := t.temp.set cnt e }
          (addEntry env e { t with temp := t.temp.set cnt e }).1 :=
        addEntry_edits e fun hf => ⟨hadd, hoff hf⟩
      split
      · exact hadd'
      · exact hadd'.trans (setTemp_edits _ _)
    · exact setTemp_edits _ _
  · exact .refl

theorem delEntriesOnClntDiscon_edits (ip : BitVec 32) (s : NatApp δ) :
    Edits env (.delEntriesOnClntDiscon ip) s s (s.delEntriesOnClntDiscon env ip).1 := by
  unfold delEntriesOnClntDiscon
  split
  · exact .refl
  next hip =>
    refine forRange_inv' _ (.single (.unlisted (.inr rfl) hip)) fun i t _ ht => ht.trans ?_
    unfold delEntriesOnClntDisconBody
    split
    next hg =>
      split
      next h => exact .single (.call t (.delRefused i hg.2 h))
      next h => exact .single (.disabled hg.2 h)
    · exact .refl

theorem clearSlot_setSlot (s : NatApp δ) (cnt : Nat) (e : NatTableEntry) :
    (s.setSlot cnt e).clearSlot cnt = s.clearSlot cnt := by
  simp [setSlot, clearSlot]

theorem delEntriesOnSTAClntDiscon_edits (ip : BitVec 32) (s : NatApp δ) :
    Edits env (.delEntriesOnSTAClntDiscon ip) s s (s.delEntriesOnSTAClntDiscon env ip).1 := by
  unfold delEntriesOnSTAClntDiscon
  split
  · exact .refl
  next hip =>
    refine (forEachSlot_inv _ (fun _ t => Edits env _ s s t ∧ t.maxEntries = s.maxEntries) ⟨.refl, rfl⟩ ?_).1
    rintro i t hi ⟨ht, hlen⟩
    rw [← hlen] at hi
    unfold delEntriesOnSTAClntDisconBody
    split
    next htgt =>
      split
      next he =>
        split
        next h => exact ⟨ht.tail (.call t (.delRefused i he h)), hlen⟩
        next drv h =>
          -- the entry is taken out of the hardware, then out of the cache
          have h1 : Edits env _ s s ({ t with drv }.setSlot i { t.slot i with enabled := false }) :=
            ht.tail (.disabled he h)
          refine ⟨?_, by simpa using hlen⟩
          rw [← clearSlot_setSlot]
          have hself := slot_setSlot_self (s := { t with drv }) hi
          exact h1.tail (.left rfl hip (by simpa [hself] using htgt) (by simp [hself]) (by simpa using hi))
      next he => exact ⟨ht.tail (.left rfl hip htgt (by simpa using he) hi), by simpa using hlen⟩
    · exact ⟨ht, hlen⟩

/-- **A call is a sequence of edits.** -/
theorem step_edits (env : NatEnv δ) (s : NatApp δ) (op : NatOp) : Edits env op s s (s.step env op) := by
  cases op with
  | addTable ip => exact addTable_edits ip s
  | deleteTable ip => exact deleteTable_edits ip s
  | addEntry rule => exact addEntry_edits rule fun _ => rfl
  | cacheEntry rule => exact cacheEntry_edits rule s
  | deleteEntry rule => exact deleteEntry_edits rule fun _ ht => .delete rule rfl ht
  | updateUDPTimeStamp => exact updateUDPTimeStamp_edits s
  | updatePwrSaveIf ip => exact updatePwrSaveIf_edits ip s
  | resetPwrSaveIf ip => exact resetPwrSaveIf_edits ip s
  | addTempEntry e => exact addTempEntry_edits e s
  | deleteTempEntry e => exact deleteTempEntry_edits e s
  | flushTempEntries ip isAdd isDummy => exact flushTempEntries_edits ip isAdd isDummy s
  | delEntriesOnClntDiscon ip => exact delEntriesOnClntDiscon_edits ip s
  | delEntriesOnSTAClntDiscon ip => exact delEntriesOnSTAClntDiscon_edits ip s

end NatApp
end HiaeCommon
