/-
The two ways into the cache (`IPACM_Conntrack_NATApp.cpp`): what `AddEntry`
and `CacheEntry` leave in the slot they fill, and what of it the later calls
read.

`AddEntry` leaves `public_ip` as the free slot had it, which is zero in every
run, so the refresh of the time stamps does not know a dummy entry (one whose
private address is the public one) that came in through `AddEntry`.
-/
import HiaeCommon.Ipacm.NatCache

namespace HiaeCommon

open Relation (ReflTransGen)
open NatTableEntry (zero)

/-- What `AddEntry` and `CacheEntry` copy of a rule. -/
structure StoredRecord where
  tuple : NatTableEntry.Tuple
  publicIp : BitVec 32
  publicPort : BitVec 16
  dstNat : Bool
  deriving DecidableEq, Repr

def NatTableEntry.stored (e : NatTableEntry) : StoredRecord := ⟨e.tuple, e.publicIp, e.publicPort, e.dstNat⟩

namespace NatApp

variable {δ : Type} {env : NatEnv δ}

/-! ## The outcome of `AddEntry` -/

/-- No test of `AddEntry` stands before its check of the tuple. -/
structure Admits (s : NatApp δ) (rule : NatTableEntry) : Prop where
  tbl : s.natTableHdl ≠ 0
  alg : (s.isAlgPort rule.protocol rule.privatePort || s.isAlgPort rule.protocol rule.targetPort) = false

/-- `AddEntry` stores `rule` in slot `cnt`. -/
structure Accepts (env : NatEnv δ) (s : NatApp δ) (rule : NatTableEntry) (cnt : Nat) : Prop where
  admits : s.Admits rule
  full : rule.tuple.Full
  dup : s.chkForDup rule = false
  free : s.freeSlot = some cnt
  driver : (s.isPwrSaveIf rule.privateIp || s.isPwrSaveIf rule.targetIp) = true ∨
    (env.addIpv4Rule s.drv s.natTableHdl rule.natRule).2 ≠ none

/-- `AddEntry` returns success on a tuple with a zero field, and stores nothing. -/
structure Ignores (s : NatApp δ) (rule : NatTableEntry) : Prop where
  admits : s.Admits rule
  hollow : ¬ rule.tuple.Full

/-- `AddEntry` stores the rule, ignores it, or refuses it. -/
theorem addEntry_cases (env : NatEnv δ) (s : NatApp δ) (rule : NatTableEntry) :
    (∃ cnt drv enabled hdl, Accepts env s rule cnt ∧
      s.addEntry env rule = ({ s with drv }.fillSlot cnt (addedEntry (s.slot cnt) rule enabled hdl), 0)) ∨
    (s.Ignores rule ∧ s.addEntry env rule = (s, 0)) ∨
    (¬ s.Ignores rule ∧ (∀ cnt, ¬ Accepts env s rule cnt) ∧ ∃ drv, s.addEntry env rule = ({ s with drv }, -1)) := by
  unfold addEntry
  split
  next h0 => exact .inr (.inr ⟨fun h => h.admits.tbl h0, fun _ h => h.admits.tbl h0, s.drv, rfl⟩)
  next h0 =>
    split
    next ha =>
      have hno : ¬ s.Admits rule := fun h => by simp [h.alg] at ha
      exact .inr (.inr ⟨fun h => hno h.admits, fun _ h => hno h.admits, s.drv, rfl⟩)
    next ha =>
      have had : s.Admits rule := ⟨h0, by simpa using ha⟩
      split
      next hf => exact .inr (.inl ⟨⟨had, hf⟩, rfl⟩)
      next hf =>
        have hni : ¬ s.Ignores rule := fun h => hf h.hollow
        split
        next hd => exact .inr (.inr ⟨hni, fun _ h => by simp [h.dup] at hd, s.drv, rfl⟩)
        next hd =>
          split
          next hfree => exact .inr (.inr ⟨hni, fun _ h => by simp [h.free] at hfree, s.drv, rfl⟩)
          next cnt hfree =>
            have hacc := @Accepts.mk _ env _ _ _ had (not_not.mp hf) (by simpa using hd) hfree
            split
            next hp => exact .inl ⟨cnt, s.drv, false, 0, hacc (.inl hp), rfl⟩
            next hp =>
              split
              next drv hcall =>
                refine .inr (.inr ⟨hni, fun _ h => ?_, drv, rfl⟩)
                rcases h.driver with hpwr | hdrv
                · exact hp hpwr
                · exact hdrv (by rw [hcall])
              next drv hdl hcall => exact .inl ⟨cnt, drv, true, hdl, hacc (.inr (by rw [hcall]; exact Option.some_ne_none _)), rfl⟩

/-- `AddEntry` fails on a rule it neither stores nor ignores. -/
theorem addEntry_fails_iff (s : NatApp δ) (rule : NatTableEntry) :
    (s.addEntry env rule).2 ≠ 0 ↔ ¬ s.Ignores rule ∧ ∀ cnt, ¬ Accepts env s rule cnt := by
  rcases addEntry_cases env s rule with ⟨i, drv, enabled, hdl, hi, heq⟩ | ⟨hi, heq⟩ | ⟨hi, hn, drv, heq⟩
  · rw [heq]
    exact ⟨fun h => absurd rfl h, fun h => absurd hi (h.2 i)⟩
  · rw [heq]
    exact ⟨fun h => absurd rfl h, fun h => absurd hi h.1⟩
  · rw [heq]
    exact ⟨fun _ => ⟨hi, hn⟩, fun _ => by simp⟩

/-- An accepted rule is stored. -/
theorem Accepts.addEntry_eq {s : NatApp δ} {rule : NatTableEntry} {cnt : Nat} (h : Accepts env s rule cnt) :
    ∃ drv enabled hdl,
      s.addEntry env rule = ({ s with drv }.fillSlot cnt (addedEntry (s.slot cnt) rule enabled hdl), 0) := by
  rcases addEntry_cases env s rule with ⟨i, drv, enabled, hdl, hi, heq⟩ | ⟨hi, -⟩ | ⟨-, hn, -⟩
  · obtain rfl : i = cnt := Option.some.inj (hi.free.symm.trans h.free)
    exact ⟨drv, enabled, hdl, heq⟩
  · exact absurd h.full hi.hollow
  · exact absurd h (hn cnt)

theorem Accepts.cacheEntry_eq {s : NatApp δ} {rule : NatTableEntry} {cnt : Nat} (h : Accepts env s rule cnt) :
    s.cacheEntry rule = s.fillSlot cnt (cachedEntry rule) := by
  unfold cacheEntry
  rw [if_neg (not_not.mpr h.full), if_neg (by simp [h.dup])]
  simp only [h.free]

/-- A free slot is zero all over, so `AddEntry` stores the rule without its public address. -/
theorem Accepts.stored {s : NatApp δ} (hs : Integrity s) {rule : NatTableEntry} {cnt : Nat} (h : Accepts env s rule cnt) :
    ((s.addEntry env rule).1.slot cnt).stored = ⟨rule.tuple, 0, rule.publicPort, rule.dstNat⟩ ∧
      ((s.cacheEntry rule).slot cnt).stored = rule.stored := by
  obtain ⟨hlt, hblank⟩ := freeSlot_some h.free
  have hzero : s.slot cnt = zero := hs.slot_eq_zero hblank
  obtain ⟨drv, enabled, hdl, hadd⟩ := h.addEntry_eq
  constructor
  · rw [hadd, slot_fillSlot, if_pos ⟨rfl, hlt⟩, hzero]
    rfl
  · rw [h.cacheEntry_eq, slot_fillSlot, if_pos ⟨rfl, hlt⟩]
    rfl

/-! ## What stays of a stored record -/

/-- The calls that fill slots; the others may clear them. -/
def fills : NatOp → Bool
  | .addEntry _ | .cacheEntry _ | .flushTempEntries .. => true
  | _ => false

theorem Stores.fills {op : NatOp} {s : NatApp δ} {rule cnt} (h : Stores op s rule cnt) : fills op = true := by
  cases op <;> first | rfl | exact absurd h.offers (fun h => nomatch h)

theorem Restores.fills {op : NatOp} {s₀ s : NatApp δ} {cnt} (h : Restores op s₀ s cnt) : fills op = false := by
  rcases h with ⟨rfl, -⟩ | ⟨ip, rfl, -⟩ <;> rfl

theorem Drops.fills {op : NatOp} {s : NatApp δ} {cnt} (h : Drops env op s cnt) : fills op = false := by
  rcases h with ⟨rule, rfl, -⟩ | ⟨j, rfl, -⟩ <;> rfl

variable {op : NatOp} {s₀ s t : NatApp δ}

theorem stored_setSlot {cnt : Nat} {e : NatTableEntry} (he : e.stored = (s.slot cnt).stored) (i : Nat) :
    ((s.setSlot cnt e).slot i).stored = (s.slot i).stored := by
  rw [slot_setSlot]
  split
  next hi => rw [he, hi.1]
  · rfl

/-- One edit keeps a slot's record, empties the slot, or fills it. -/
theorem Edit.stored (h : Edit env op s₀ s t) (hs : Integrity s) (i : Nat) :
    (t.slot i).stored = (s.slot i).stored ∨ (fills op = false ∧ t.slot i = zero) ∨ (fills op = true ∧ s.slot i = zero) := by
  -- a slot that is cleared, and a slot that is filled
  have cleared : ∀ (u : NatApp δ) (cnt : Nat), u.cache = s.cache → fills op = false →
      ((u.clearSlot cnt).slot i).stored = (s.slot i).stored ∨ (fills op = false ∧ (u.clearSlot cnt).slot i = zero) ∨
        (fills op = true ∧ s.slot i = zero) := by
    intro u cnt hu hop
    rw [slot_clearSlot]
    split
    · exact .inr (.inl ⟨hop, rfl⟩)
    · exact .inl (congrArg NatTableEntry.stored (slot_of_cache hu i))
  have filled : ∀ (u : NatApp δ) (cnt : Nat) (rule e : NatTableEntry), u.cache = s.cache → Stores op s rule cnt →
      ((u.fillSlot cnt e).slot i).stored = (s.slot i).stored ∨ (fills op = false ∧ (u.fillSlot cnt e).slot i = zero) ∨
        (fills op = true ∧ s.slot i = zero) := by
    intro u cnt rule e hu hst
    rw [slot_fillSlot]
    split
    next hi =>
      rw [hi.1]
      exact .inr (.inr ⟨hst.fills, hs.slot_eq_zero (freeSlot_some hst.free).2⟩)
    · exact .inl (congrArg NatTableEntry.stored (slot_of_cache hu i))
  cases h with
  | other | call | tblRefused | tblAdded | tblNamed => exact .inl rfl
  | listed => exact .inl (congrArg NatTableEntry.stored (slot_of_cache (by rw [listPwrSaveIf_eq]) i))
  | unlisted => exact .inl (congrArg NatTableEntry.stored (slot_of_cache (by rw [unlistPwrSaveIf_eq]) i))
  | stamp cnt ts => exact .inl (stored_setSlot (e := { s.slot cnt with timestamp := ts }) rfl i)
  | tblDeleted =>
    rw [slot_reset]
    exact .inl rfl
  | @restored cnt drv ruleHdl =>
    exact .inl (stored_setSlot (s := { s with drv }) (e := { s.slot cnt with ruleHdl, enabled := true }) rfl i)
  | lost hr => exact cleared _ _ rfl hr.fills
  | cached hst => exact filled _ _ _ _ rfl hst
  | added hst => exact filled _ _ _ _ rfl hst
  | @disabled cnt drv ruleHdl =>
    exact .inl (stored_setSlot (s := { s with drv }) (e := { s.slot cnt with ruleHdl, enabled := false }) rfl i)
  | dropped hd => exact cleared _ _ (cache_delRule s _) hd.fills
  | left hop => exact cleared s _ rfl (by rw [hop]; rfl)

theorem Integrity.zero_of_stored (hs : Integrity s) {i : Nat} (h : (s.slot i).stored = zero.stored) : s.slot i = zero :=
  hs.slot_eq_zero (congrArg StoredRecord.tuple h)

/-- A call that does not empty a slot keeps its record. -/
theorem Edits.stored (h : Edits env op s₀ s t) (hs : Integrity s) {i : Nat} (ho : s.slot i ≠ zero) (ht : t.slot i ≠ zero) :
    (t.slot i).stored = (s.slot i).stored := by
  have hrun : (t.slot i).stored = (s.slot i).stored ∨ (fills op = false ∧ t.slot i = zero) := by
    clear ht
    induction h with
    | refl => exact .inl rfl
    | @tail u v hsu he ih =>
      have hu : Integrity u := Edits.integrity hsu hs
      have hv : Integrity v := he.integrity hu
      rcases ih with ih | ⟨hop, hz⟩
      · rcases he.stored hu i with hk | hk | ⟨-, hz⟩
        · exact .inl (hk.trans ih)
        · exact .inr hk
        · rw [hz] at ih
          exact absurd (hs.zero_of_stored ih.symm) ho
      · rcases he.stored hu i with hk | hk | ⟨hop', -⟩
        · rw [hz] at hk
          exact .inr ⟨hop, hv.zero_of_stored hk⟩
        · exact .inr hk
        · rw [hop] at hop'
          exact absurd hop' Bool.false_ne_true
  exact hrun.resolve_right fun h => ht h.2

/-- The slot is occupied before each of these calls and after the last. -/
def KeptThrough (env : NatEnv δ) (cnt : Nat) : NatApp δ → List NatOp → Prop
  | s, [] => s.slot cnt ≠ zero
  | s, op :: ops => s.slot cnt ≠ zero ∧ KeptThrough env cnt (s.step env op) ops

theorem KeptThrough.occupied {cnt : Nat} {ops : List NatOp} (h : KeptThrough env cnt s ops) : s.slot cnt ≠ zero := by
  cases ops with
  | nil => exact h
  | cons => exact h.1

/-- **As long as a slot is occupied it holds the record that was stored in it.** -/
theorem KeptThrough.stored {cnt : Nat} {ops : List NatOp} (h : KeptThrough env cnt s ops) (hs : Integrity s) :
    ((s.run env ops).slot cnt).stored = (s.slot cnt).stored := by
  induction ops generalizing s with
  | nil => rfl
  | cons op ops ih =>
    have he := step_edits env s op
    exact (ih h.2 (Edits.integrity he hs)).trans (Edits.stored he hs h.1 h.2.occupied)

/-! ## What is read of it -/

/-- The test of `UpdateUDPTimeStamp` for an entry that is not NATed. -/
def isDummyEntry (e : NatTableEntry) : Bool := e.privateIp == e.publicIp

/-- The rule `AddTable`'s loop hands the driver for a slot. -/
def restoredRule (s : NatApp δ) (cnt : Nat) : Option IpaNatIpv4Rule :=
  if (s.slot cnt).privateIp ≠ 0 then some (s.slot cnt).natRule else none

theorem addTableBody_eq (env : NatEnv δ) (s : NatApp δ) (cnt : Nat) :
    addTableBody env s cnt = match s.restoredRule cnt with
      | none => s
      | some rule => match env.addIpv4Rule s.drv s.natTableHdl rule with
        | (drv, none) => { s with drv }.clearSlot cnt
        | (drv, some ruleHdl) => { s with drv }.setSlot cnt { s.slot cnt with ruleHdl, enabled := true } := by
  unfold addTableBody restoredRule
  split
  · rfl
  · rfl

/-- The same tuple, public address, public port and direction in the slot, whichever of the two calls filled it. -/
def RecordsAlike (env : NatEnv δ) (s : NatApp δ) (rule : NatTableEntry) (cnt : Nat) : Prop :=
  ((s.addEntry env rule).1.slot cnt).stored = ((s.cacheEntry rule).slot cnt).stored

/-- As long as the entry is there, whatever happens after each of the two calls, `f` is the same of both. -/
def ReadAlike {α : Type} (env : NatEnv δ) (s : NatApp δ) (rule : NatTableEntry) (cnt : Nat) (f : NatApp δ → α) : Prop :=
  ∀ ops ops', KeptThrough env cnt (s.addEntry env rule).1 ops → KeptThrough env cnt (s.cacheEntry rule) ops' →
    f ((s.addEntry env rule).1.run env ops) = f ((s.cacheEntry rule).run env ops')

/-- What is read of the record is told apart by it. -/
theorem readAlike_iff {α : Type} {rule : NatTableEntry} {cnt : Nat} (hs : Integrity s) (h : Accepts env s rule cnt)
    (f : StoredRecord → α) :
    ReadAlike env s rule cnt (fun t => f (t.slot cnt).stored) ↔
      f ⟨rule.tuple, 0, rule.publicPort, rule.dstNat⟩ = f rule.stored := by
  obtain ⟨hadd, hcache⟩ := h.stored hs
  have ia : Integrity (s.addEntry env rule).1 := Edits.integrity (step_edits env s (.addEntry rule)) hs
  have ic : Integrity (s.cacheEntry rule) := Edits.integrity (step_edits env s (.cacheEntry rule)) hs
  constructor
  · intro hread
    have hta : ((s.addEntry env rule).1.slot cnt).tuple = rule.tuple := congrArg StoredRecord.tuple hadd
    have htc : ((s.cacheEntry rule).slot cnt).tuple = rule.tuple := congrArg StoredRecord.tuple hcache
    have hoa : (s.addEntry env rule).1.slot cnt ≠ zero := ne_zero_of_full (by rw [hta]; exact h.full)
    have hoc : (s.cacheEntry rule).slot cnt ≠ zero := ne_zero_of_full (by rw [htc]; exact h.full)
    have hnow : f ((s.addEntry env rule).1.slot cnt).stored = f ((s.cacheEntry rule).slot cnt).stored := hread [] [] hoa hoc
    rwa [hadd, hcache] at hnow
  · intro heq ops ops' ha hc
    show f _ = f _
    rw [ha.stored ia, hc.stored ic, hadd, hcache, heq]

/-- **`AddEntry` and `CacheEntry` store the same record** only of a rule without a public address; the test for dummy
entries tells the two apart for the dummy rules; the restore loop never does. -/
theorem storedAlike_iff (env : NatEnv δ) (n algPorts pre tcp udp pwr) (drv : δ) (ops : List NatOp) (rule : NatTableEntry)
    (cnt : Nat) (h : Accepts env ((init n algPorts pre tcp udp pwr drv).run env ops) rule cnt) :
    let s := (init n algPorts pre tcp udp pwr drv).run env ops
    (RecordsAlike env s rule cnt ∧ ReadAlike env s rule cnt (fun t => isDummyEntry (t.slot cnt)) ∧
        ReadAlike env s rule cnt (fun t => t.restoredRule cnt) ↔ rule.publicIp = 0) ∧
    (ReadAlike env s rule cnt (fun t => isDummyEntry (t.slot cnt)) ↔ rule.privateIp ≠ rule.publicIp) ∧
    ReadAlike env s rule cnt (fun t => t.restoredRule cnt) := by
  intro s
  have hs : Integrity s := run_integrity env (init_integrity ..)
  have hrecord : RecordsAlike env s rule cnt ↔ rule.publicIp = 0 := by
    rw [RecordsAlike, (h.stored hs).1, (h.stored hs).2, NatTableEntry.stored, StoredRecord.mk.injEq]
    exact ⟨fun he => he.2.1.symm, fun he => ⟨rfl, he.symm, rfl, rfl⟩⟩
  have hdummy : ReadAlike env s rule cnt (fun t => isDummyEntry (t.slot cnt)) ↔ rule.privateIp ≠ rule.publicIp := by
    refine (readAlike_iff hs h fun r => r.tuple.privateIp == r.publicIp).trans ?_
    -- `AddEntry`'s entry is never taken for a dummy: its private address is not zero
    have hne : (rule.tuple.privateIp == 0) = false := beq_eq_false_iff_ne.mpr h.full.1
    show (rule.tuple.privateIp == 0) = (rule.privateIp == rule.publicIp) ↔ _
    rw [hne, ← beq_eq_false_iff_ne]
    exact eq_comm
  have hrestore : ReadAlike env s rule cnt (fun t => t.restoredRule cnt) :=
    (readAlike_iff hs h fun r => if r.tuple.privateIp ≠ 0 then
      some (IpaNatIpv4Rule.mk r.tuple.targetIp r.tuple.privateIp r.tuple.targetPort r.tuple.privatePort r.publicPort
        r.tuple.protocol) else none).mpr rfl
  refine ⟨⟨fun hall => hrecord.mp hall.1, fun h0 => ⟨hrecord.mpr h0, hdummy.mpr ?_, hrestore⟩⟩, hdummy, hrestore⟩
  rw [h0]
  exact h.full.1

/-- The dummy entry of a connection from outside the NATed interfaces. -/
def sampleDummy : NatTableEntry := dummyEntry sampleEntry

theorem sampleDummy_accepted : Accepts acceptingEnv (sampleInit.run acceptingEnv [.addTable 20]) sampleDummy 0 where
  admits := ⟨by decide, by decide⟩
  full := by decide
  dup := by decide
  free := by decide
  driver := .inr (by decide)

theorem storedAlike_iff_sample :
    Accepts acceptingEnv (sampleInit.run acceptingEnv [.addTable 20]) { sampleEntry with publicIp := 0 } 0 ∧
    RecordsAlike acceptingEnv (sampleInit.run acceptingEnv [.addTable 20]) { sampleEntry with publicIp := 0 } 0 := by
  have hacc : Accepts acceptingEnv (sampleInit.run acceptingEnv [.addTable 20]) { sampleEntry with publicIp := 0 } 0 :=
    ⟨⟨by decide, by decide⟩, by decide, by decide, by decide, .inr (by decide)⟩
  have h := storedAlike_iff acceptingEnv 2 [] 0 0 0 (List.replicate ipaMaxNumWifiClients 0) () [.addTable 20]
    { sampleEntry with publicIp := 0 } 0 hacc
  exact ⟨hacc, (h.1.mpr rfl).1⟩

/-- A dummy entry is one to the refresh of the time stamps if `CacheEntry` stored it, not if `AddEntry` did: the slot's
public address is zero then. -/
theorem not_storedAlike :
    let s := sampleInit.run acceptingEnv [.addTable 20]
    Accepts acceptingEnv s sampleDummy 0 ∧ ((s.addEntry acceptingEnv sampleDummy).1.slot 0).publicIp = 0 ∧
      ((s.cacheEntry sampleDummy).slot 0).publicIp = 20 ∧
      isDummyEntry ((s.addEntry acceptingEnv sampleDummy).1.slot 0) = false ∧
      isDummyEntry ((s.cacheEntry sampleDummy).slot 0) = true :=
  ⟨sampleDummy_accepted, by decide, by decide, by decide, by decide⟩

end NatApp
end HiaeCommon
