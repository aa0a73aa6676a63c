/-
`FlushTempEntries` (`IPACM_Conntrack_NATApp.cpp`), slot by slot: which of a
client's pending connections a flush empties, and what it leaves of the ones
`AddEntry` does not take.

The loop rewrites a slot to the dummy rule before it calls `AddEntry`, and
empties a slot also when its entry was made for another public address or has
a zero field.
-/
import HiaeCommon.Ipacm.NatStored
import HiaeCommon.Ipacm.ConnectionClose

namespace HiaeCommon

open NatTableEntry (zero)

/-- The entry is one of the client's. -/
def NatTableEntry.Of (e : NatTableEntry) (ipAddr : BitVec 32) : Prop := e.privateIp = ipAddr ∨ e.targetIp = ipAddr

instance (e : NatTableEntry) (ipAddr : BitVec 32) : Decidable (e.Of ipAddr) := inferInstanceAs (Decidable (_ ∨ _))

namespace NatApp

variable {δ : Type} {env : NatEnv δ} {ip : BitVec 32} {isAdd isDummy : Bool} {s t : NatApp δ} {cnt : Nat}

def setTemp (s : NatApp δ) (cnt : Nat) (e : NatTableEntry) : NatApp δ := { s with temp := s.temp.set cnt e }

/-- The record `AddEntry` is handed for a slot. -/
def flushedEntry (isDummy : Bool) (e : NatTableEntry) : NatTableEntry := if isDummy then dummyEntry e else e

/-- The state in which a flush comes to slot `cnt`. -/
def flushedTo (env : NatEnv δ) (ip : BitVec 32) (isAdd isDummy : Bool) (s : NatApp δ) (cnt : Nat) : NatApp δ :=
  (List.range cnt).foldl (flushTempEntriesBody env ip isAdd isDummy) s

/-- A flush hands the slot's connection to `AddEntry`. -/
structure Offered (ip : BitVec 32) (isAdd : Bool) (s : NatApp δ) (cnt : Nat) : Prop where
  add : isAdd = true
  client : (s.tempSlot cnt).Of ip
  pub : (s.tempSlot cnt).publicIp = s.pubIpAddr

/-! ## One slot -/

theorem tempSlot_setTemp (s : NatApp δ) (cnt : Nat) (e : NatTableEntry) (i : Nat) :
    (s.setTemp cnt e).tempSlot i = if i = cnt ∧ cnt < s.temp.length then e else s.tempSlot i := by
  simp only [tempSlot, setTemp, List.getD_eq_getElem?_getD, List.getElem?_set]
  grind

theorem Accepts.setTemp_iff {rule : NatTableEntry} {i : Nat} (e : NatTableEntry) :
    Accepts env (s.setTemp cnt e) rule i ↔ Accepts env s rule i :=
  ⟨fun ⟨⟨h1, h2⟩, h3, h4, h5, h6⟩ => ⟨⟨h1, h2⟩, h3, h4, h5, h6⟩, fun ⟨⟨h1, h2⟩, h3, h4, h5, h6⟩ => ⟨⟨h1, h2⟩, h3, h4, h5, h6⟩⟩

theorem Ignores.setTemp_iff {rule : NatTableEntry} (e : NatTableEntry) : (s.setTemp cnt e).Ignores rule ↔ s.Ignores rule :=
  ⟨fun ⟨⟨h1, h2⟩, h3⟩ => ⟨⟨h1, h2⟩, h3⟩, fun ⟨⟨h1, h2⟩, h3⟩ => ⟨⟨h1, h2⟩, h3⟩⟩

/-- What a flush does at one slot. -/
inductive FlushStep (env : NatEnv δ) (ip : BitVec 32) (isAdd isDummy : Bool) (s : NatApp δ) (cnt : Nat) : NatApp δ → Prop
  | passed (h : ¬ (s.tempSlot cnt).Of ip) : FlushStep env ip isAdd isDummy s cnt s
  | dropped (h : (s.tempSlot cnt).Of ip) (hn : ¬ Offered ip isAdd s cnt) :
      FlushStep env ip isAdd isDummy s cnt (s.setTemp cnt zero)
  | moved (i drv enabled hdl) (h : Offered ip isAdd s cnt) (ha : Accepts env s (flushedEntry isDummy (s.tempSlot cnt)) i) :
      FlushStep env ip isAdd isDummy s cnt (({ s with drv }.setTemp cnt zero).fillSlot i
        (addedEntry (s.slot i) (flushedEntry isDummy (s.tempSlot cnt)) enabled hdl))
  | ignored (h : Offered ip isAdd s cnt) (hi : s.Ignores (flushedEntry isDummy (s.tempSlot cnt))) :
      FlushStep env ip isAdd isDummy s cnt (s.setTemp cnt zero)
  | refused (drv) (h : Offered ip isAdd s cnt) (hi : ¬ s.Ignores (flushedEntry isDummy (s.tempSlot cnt)))
      (ha : ∀ i, ¬ Accepts env s (flushedEntry isDummy (s.tempSlot cnt)) i) :
      FlushStep env ip isAdd isDummy s cnt ({ s with drv }.setTemp cnt (flushedEntry isDummy (s.tempSlot cnt)))

theorem setTemp_setTemp (s : NatApp δ) (cnt : Nat) (e e' : NatTableEntry) : (s.setTemp cnt e).setTemp cnt e' = s.setTemp cnt e' := by
  simp [setTemp]

/-- A slot is emptied when `AddEntry` succeeds. -/
def flushResult (cnt : Nat) (r : NatApp δ × Int) : NatApp δ := if r.2 ≠ 0 then r.1 else r.1.setTemp cnt zero

theorem flushTempEntriesBody_step (env : NatEnv δ) (ip : BitVec 32) (isAdd isDummy : Bool) (s : NatApp δ) (cnt : Nat) :
    FlushStep env ip isAdd isDummy s cnt (flushTempEntriesBody env ip isAdd isDummy s cnt) := by
  show FlushStep env ip isAdd isDummy s cnt
    (if (s.tempSlot cnt).Of ip then
      if isAdd && (s.tempSlot cnt).publicIp == s.pubIpAddr then
        flushResult cnt ((s.setTemp cnt (flushedEntry isDummy (s.tempSlot cnt))).addEntry env
          (flushedEntry isDummy (s.tempSlot cnt)))
      else s.setTemp cnt zero
    else s)
  split
  next hof =>
    split
    next hadd =>
      simp only [Bool.and_eq_true, beq_iff_eq] at hadd
      have hoff : Offered ip isAdd s cnt := ⟨hadd.1, hof, hadd.2⟩
      rcases addEntry_cases env (s.setTemp cnt (flushedEntry isDummy (s.tempSlot cnt))) (flushedEntry isDummy (s.tempSlot cnt)) with
        ⟨i, drv, enabled, hdl, ha, heq⟩ | ⟨hi, heq⟩ | ⟨hi, ha, drv, heq⟩
      · have hstep := FlushStep.moved i drv enabled hdl hoff ((Accepts.setTemp_iff _).mp ha)
        refine cast (congrArg (FlushStep env ip isAdd isDummy s cnt) ?_) hstep
        rw [heq, flushResult, if_neg (by simp)]
        simp [setTemp, fillSlot, slot]
      · rw [heq, flushResult, if_neg (by simp), setTemp_setTemp]
        exact .ignored hoff ((Ignores.setTemp_iff _).mp hi)
      · rw [heq, flushResult, if_pos (by simp)]
        exact .refused drv hoff (fun h => hi ((Ignores.setTemp_iff _).mpr h)) fun i h => ha i ((Accepts.setTemp_iff _).mpr h)
    next hadd =>
      refine .dropped hof fun hoff => hadd ?_
      simp [hoff.add, hoff.pub]
  next hof => exact .passed hof

/-! ## The loop -/

/-- What a flush does not touch. -/
structure FlushFrame (s t : NatApp δ) : Prop where
  pub : t.pubIpAddr = s.pubIpAddr
  tbl : t.natTableHdl = s.natTableHdl
  alg : t.algPorts = s.algPorts
  len : t.temp.length = s.temp.length

theorem FlushFrame.trans {u : NatApp δ} (h : FlushFrame s t) (h' : FlushFrame t u) : FlushFrame s u :=
  ⟨h'.pub.trans h.pub, h'.tbl.trans h.tbl, h'.alg.trans h.alg, h'.len.trans h.len⟩

theorem FlushFrame.ignores_iff (h : FlushFrame s t) (rule : NatTableEntry) : t.Ignores rule ↔ s.Ignores rule := by
  have hadm : t.Admits rule ↔ s.Admits rule := by
    constructor
    · rintro ⟨h1, h2⟩
      exact ⟨h.tbl ▸ h1, by simpa only [isAlgPort, h.alg] using h2⟩
    · rintro ⟨h1, h2⟩
      exact ⟨h.tbl.symm ▸ h1, by simpa only [isAlgPort, h.alg] using h2⟩
  exact ⟨fun ⟨h1, h2⟩ => ⟨hadm.mp h1, h2⟩, fun ⟨h1, h2⟩ => ⟨hadm.mpr h1, h2⟩⟩

theorem FlushStep.frame (h : FlushStep env ip isAdd isDummy s cnt t) : FlushFrame s t := by
  cases h <;> exact ⟨rfl, rfl, rfl, by simp [setTemp, fillSlot]⟩

/-- The other temporary slots stay. -/
theorem FlushStep.tempSlot_ne (h : FlushStep env ip isAdd isDummy s cnt t) {i : Nat} (hi : i ≠ cnt) :
    t.tempSlot i = s.tempSlot i := by
  have hset : ∀ (u : NatApp δ) (e : NatTableEntry), (u.setTemp cnt e).tempSlot i = u.tempSlot i := fun u e => by
    rw [tempSlot_setTemp, if_neg fun h => hi h.1]
  cases h with
  | passed => rfl
  | dropped => exact hset s zero
  | moved j drv => exact hset { s with drv } zero
  | ignored => exact hset s zero
  | refused drv => exact hset { s with drv } _

theorem flushedTo_succ (env : NatEnv δ) (ip : BitVec 32) (isAdd isDummy : Bool) (s : NatApp δ) (cnt : Nat) :
    FlushStep env ip isAdd isDummy (flushedTo env ip isAdd isDummy s cnt) cnt (flushedTo env ip isAdd isDummy s (cnt + 1)) := by
  have heq : flushedTo env ip isAdd isDummy s (cnt + 1) =
      flushTempEntriesBody env ip isAdd isDummy (flushedTo env ip isAdd isDummy s cnt) cnt := by
    simp only [flushedTo, List.range_succ, List.foldl_append, List.foldl_cons, List.foldl_nil]
  rw [heq]
  exact flushTempEntriesBody_step ..

/-- When the loop comes to a slot, it and the later ones are as the flush found them. -/
theorem flushedTo_inv (env : NatEnv δ) (ip : BitVec 32) (isAdd isDummy : Bool) (s : NatApp δ) (n : Nat) :
    FlushFrame s (flushedTo env ip isAdd isDummy s n) ∧
      ∀ i, n ≤ i → (flushedTo env ip isAdd isDummy s n).tempSlot i = s.tempSlot i := by
  induction n with
  | zero => exact ⟨⟨rfl, rfl, rfl, rfl⟩, fun _ _ => rfl⟩
  | succ n ih =>
    have hstep := flushedTo_succ env ip isAdd isDummy s n
    exact ⟨ih.1.trans hstep.frame, fun i hi => (hstep.tempSlot_ne (by omega)).trans (ih.2 i (by omega))⟩

/-- No later body comes back to a slot. -/
theorem flushedTo_done (env : NatEnv δ) (ip : BitVec 32) (isAdd isDummy : Bool) (s : NatApp δ) {i n : Nat} (hi : i < n) :
    (flushedTo env ip isAdd isDummy s n).tempSlot i = (flushedTo env ip isAdd isDummy s (i + 1)).tempSlot i := by
  induction n with
  | zero => omega
  | succ n ih =>
    by_cases hin : i = n
    · rw [hin]
    · rw [(flushedTo_succ env ip isAdd isDummy s n).tempSlot_ne hin, ih (by omega)]

/-! ## All or nothing -/

variable (env ip isAdd isDummy s cnt)

/-- The body at slot `cnt` puts the slot's connection into the cache. -/
def Moved : Prop :=
  ∃ i, ((flushedTo env ip isAdd isDummy s cnt).slot i).tuple = .blank ∧ (flushedEntry isDummy (s.tempSlot cnt)).tuple.Full ∧
    ((flushedTo env ip isAdd isDummy s (cnt + 1)).slot i).tuple = (flushedEntry isDummy (s.tempSlot cnt)).tuple

/-- The body at slot `cnt` calls `AddEntry`, which fails. -/
def AddFailed : Prop :=
  Offered ip isAdd s cnt ∧ (((flushedTo env ip isAdd isDummy s cnt).setTemp cnt (flushedEntry isDummy (s.tempSlot cnt))).addEntry
    env (flushedEntry isDummy (s.tempSlot cnt))).2 ≠ 0

/-- A flush is all or nothing for each slot: emptied exactly when the connection was moved or dropped on purpose, and left
as it was when `AddEntry` failed, so that a later flush and the delete of the connection find it. -/
structure FlushKept : Prop where
  emptied : ∀ cnt < maxTempEntries, s.tempSlot cnt ≠ zero → ((s.flushTempEntries env ip isAdd isDummy).tempSlot cnt = zero ↔
    (s.tempSlot cnt).Of ip ∧ (isAdd = false ∨ Moved env ip isAdd isDummy s cnt))
  kept : ∀ cnt < maxTempEntries, AddFailed env ip isAdd isDummy s cnt →
    (s.flushTempEntries env ip isAdd isDummy).tempSlot cnt = s.tempSlot cnt
  found : ∀ cnt < maxTempEntries, AddFailed env ip isAdd isDummy s cnt →
    ((s.flushTempEntries env ip isAdd isDummy).tempSlot cnt).Of ip ∧
      ∃ k, ((s.flushTempEntries env ip isAdd isDummy).temp.findIdx? fun e => e.tuple == (s.tempSlot cnt).tuple) = some k

/-- A flush that adds meets only entries for the current public address, with no zero field, and each it would rewrite is
accepted. -/
def FlushSafe : Prop :=
  isAdd = true → ∀ cnt < maxTempEntries, s.tempSlot cnt ≠ zero → (s.tempSlot cnt).Of ip →
    (s.tempSlot cnt).publicIp = s.pubIpAddr ∧ ¬ s.Ignores (flushedEntry isDummy (s.tempSlot cnt)) ∧
    (flushedEntry isDummy (s.tempSlot cnt) = s.tempSlot cnt ∨
      ∃ i, Accepts env (flushedTo env ip isAdd isDummy s cnt) (flushedEntry isDummy (s.tempSlot cnt)) i)

variable {env ip isAdd isDummy s cnt}

/-- What a flush leaves in a slot. -/
inductive SlotFlushed (env : NatEnv δ) (ip : BitVec 32) (isAdd isDummy : Bool) (s : NatApp δ) (cnt : Nat)
    (e : NatTableEntry) : Prop
  | passed (h : ¬ (s.tempSlot cnt).Of ip) (he : e = s.tempSlot cnt)
  | dropped (h : (s.tempSlot cnt).Of ip) (hn : ¬ Offered ip isAdd s cnt) (he : e = zero)
      (hm : ¬ Moved env ip isAdd isDummy s cnt)
  | moved (h : Offered ip isAdd s cnt)
      (ha : ∃ i, Accepts env (flushedTo env ip isAdd isDummy s cnt) (flushedEntry isDummy (s.tempSlot cnt)) i) (he : e = zero)
      (hm : Moved env ip isAdd isDummy s cnt) (hf : ¬ AddFailed env ip isAdd isDummy s cnt)
  | ignored (h : Offered ip isAdd s cnt) (hi : s.Ignores (flushedEntry isDummy (s.tempSlot cnt))) (he : e = zero)
      (hm : ¬ Moved env ip isAdd isDummy s cnt) (hf : ¬ AddFailed env ip isAdd isDummy s cnt)
  | refused (h : Offered ip isAdd s cnt) (hi : ¬ s.Ignores (flushedEntry isDummy (s.tempSlot cnt)))
      (ha : ∀ i, ¬ Accepts env (flushedTo env ip isAdd isDummy s cnt) (flushedEntry isDummy (s.tempSlot cnt)) i)
      (he : e = flushedEntry isDummy (s.tempSlot cnt)) (hm : ¬ Moved env ip isAdd isDummy s cnt)
      (hf : AddFailed env ip isAdd isDummy s cnt)

/-- A body that leaves the cache alone moves nothing. -/
theorem not_moved (hc : (flushedTo env ip isAdd isDummy s (cnt + 1)).cache = (flushedTo env ip isAdd isDummy s cnt).cache) :
    ¬ Moved env ip isAdd isDummy s cnt := by
  rintro ⟨i, hblank, hfull, heq⟩
  rw [slot_of_cache hc, hblank] at heq
  rw [← heq] at hfull
  exact NatTableEntry.not_full_blank hfull

theorem slotFlushed (env : NatEnv δ) (ip : BitVec 32) (isAdd isDummy : Bool) (s : NatApp δ) (hlen : s.temp.length = maxTempEntries)
    (hcnt : cnt < maxTempEntries) :
    SlotFlushed env ip isAdd isDummy s cnt ((s.flushTempEntries env ip isAdd isDummy).tempSlot cnt) := by
  obtain ⟨hframe, hsame⟩ := flushedTo_inv env ip isAdd isDummy s cnt
  have hslot := hsame cnt (Nat.le_refl cnt)
  have hoff : Offered ip isAdd (flushedTo env ip isAdd isDummy s cnt) cnt ↔ Offered ip isAdd s cnt := by
    constructor
    · rintro ⟨h1, h2, h3⟩
      rw [hslot] at h2 h3
      exact ⟨h1, h2, h3.trans hframe.pub⟩
    · rintro ⟨h1, h2, h3⟩
      rw [← hslot] at h2 h3
      exact ⟨h1, h2, h3.trans hframe.pub.symm⟩
  have hfail : AddFailed env ip isAdd isDummy s cnt ↔ Offered ip isAdd s cnt ∧
      ¬ s.Ignores (flushedEntry isDummy (s.tempSlot cnt)) ∧
      ∀ i, ¬ Accepts env (flushedTo env ip isAdd isDummy s cnt) (flushedEntry isDummy (s.tempSlot cnt)) i := by
    rw [AddFailed, addEntry_fails_iff]
    simp only [Accepts.setTemp_iff, Ignores.setTemp_iff, hframe.ignores_iff]
  have hset : ∀ (u : NatApp δ) (e : NatTableEntry), FlushFrame s u → (u.setTemp cnt e).tempSlot cnt = e := fun u e hu => by
    rw [tempSlot_setTemp, if_pos ⟨rfl, by rw [hu.len, hlen]; exact hcnt⟩]
  have hdone : (s.flushTempEntries env ip isAdd isDummy).tempSlot cnt = (flushedTo env ip isAdd isDummy s (cnt + 1)).tempSlot cnt :=
    flushedTo_done env ip isAdd isDummy s hcnt
  have hstep := flushedTo_succ env ip isAdd isDummy s cnt
  rw [hdone]
  generalize hu : flushedTo env ip isAdd isDummy s (cnt + 1) = u at hstep
  cases hstep with
  | passed h =>
    rw [hslot] at h
    exact .passed h hslot
  | dropped h hn =>
    rw [hslot] at h
    exact .dropped h (fun ho => hn (hoff.mpr ho)) (hset _ _ hframe) (not_moved (by rw [hu]; rfl))
  | moved i drv enabled hdl h ha =>
    rw [hslot] at ha hu
    obtain ⟨hlt, hblank⟩ := freeSlot_some ha.free
    refine .moved (hoff.mp h) ⟨i, ha⟩ ?_ ⟨i, hblank, ha.full, ?_⟩ fun hf => (hfail.mp hf).2.2 i ha
    · exact hset { flushedTo env ip isAdd isDummy s cnt with drv } zero ⟨hframe.pub, hframe.tbl, hframe.alg, hframe.len⟩
    · rw [hu, slot_fillSlot, if_pos ⟨rfl, hlt⟩]
      rfl
  | ignored h hi =>
    rw [hslot, hframe.ignores_iff] at hi
    exact .ignored (hoff.mp h) hi (hset _ _ hframe) (not_moved (by rw [hu]; rfl)) fun hf => (hfail.mp hf).2.1 hi
  | refused drv h hi ha =>
    rw [hslot, hframe.ignores_iff] at hi
    rw [hslot] at ha
    refine .refused (hoff.mp h) hi ha ?_ (not_moved (by rw [hu]; rfl)) (hfail.mpr ⟨hoff.mp h, hi, ha⟩)
    rw [hslot]
    exact hset { flushedTo env ip isAdd isDummy s cnt with drv } _ ⟨hframe.pub, hframe.tbl, hframe.alg, hframe.len⟩

/-- A connection that is still in its slot is found by its tuple. -/
theorem tempSlot_found (hlen : s.temp.length = maxTempEntries) (hcnt : cnt < maxTempEntries) {e : NatTableEntry}
    (he : s.tempSlot cnt = e) : ∃ k, (s.temp.findIdx? fun e' => e'.tuple == e.tuple) = some k := by
  rw [← Option.isSome_iff_exists, List.findIdx?_isSome, List.any_eq_true]
  have hlt : cnt < s.temp.length := hlen.symm ▸ hcnt
  refine ⟨s.temp[cnt], List.getElem_mem hlt, ?_⟩
  have hget : s.tempSlot cnt = s.temp[cnt] := by simp [tempSlot, List.getD_eq_getElem?_getD, hlt]
  rw [← hget, he, beq_self_eq_true]

theorem dummyEntry_zero : flushedEntry isDummy zero = zero := by cases isDummy <;> rfl

/-- **A flush is all or nothing just when it is safe.** -/
theorem flushKept_iff (env : NatEnv δ) (ip : BitVec 32) (isAdd isDummy : Bool) (s : NatApp δ)
    (hlen : s.temp.length = maxTempEntries) :
    FlushKept env ip isAdd isDummy s ↔ FlushSafe env ip isAdd isDummy s := by
  have hslots := fun cnt hcnt => @slotFlushed _ cnt env ip isAdd isDummy s hlen hcnt
  constructor
  · intro hkept hadd cnt hcnt hne hof
    -- a connection that was not moved is not gone
    have hgone : (s.flushTempEntries env ip isAdd isDummy).tempSlot cnt = zero → ¬ Moved env ip isAdd isDummy s cnt → False := by
      intro hz hm
      rcases ((hkept.emptied cnt hcnt hne).mp hz).2 with hno | hmoved
      · rw [hadd] at hno
        exact absurd hno (by decide)
      · exact hm hmoved
    cases hslots cnt hcnt with
    | passed h => exact absurd hof h
    | dropped _ _ hz hm => exact absurd (hgone hz hm) id
    | moved h ha =>
      obtain ⟨i, ha⟩ := ha
      exact ⟨h.pub, fun hi => hi.hollow ha.full, .inr ⟨i, ha⟩⟩
    | ignored _ _ hz hm => exact absurd (hgone hz hm) id
    | refused h hi _ he _ hf => exact ⟨h.pub, hi, .inl (he.symm.trans (hkept.kept cnt hcnt hf))⟩
  · intro hsafe
    have hkept : ∀ cnt < maxTempEntries, AddFailed env ip isAdd isDummy s cnt →
        (s.flushTempEntries env ip isAdd isDummy).tempSlot cnt = s.tempSlot cnt := by
      intro cnt hcnt hf
      cases hslots cnt hcnt with
      | passed _ he => exact he
      | dropped _ hn => exact absurd hf.1 hn
      | moved _ _ _ _ hnf => exact absurd hf hnf
      | ignored _ _ _ _ hnf => exact absurd hf hnf
      | refused h _ ha he =>
        rw [he]
        by_cases hz : s.tempSlot cnt = zero
        · rw [hz, dummyEntry_zero]
        · rcases (hsafe h.add cnt hcnt hz h.client).2.2 with heq | ⟨i, hi⟩
          · exact heq
          · exact absurd hi (ha i)
    refine ⟨fun cnt hcnt hne => ?_, hkept, fun cnt hcnt hf => ?_⟩
    · cases hslots cnt hcnt with
      | passed h he =>
        rw [he]
        exact ⟨fun hz => absurd hz hne, fun hr => absurd hr.1 h⟩
      | dropped h hn hz =>
        refine ⟨fun _ => ⟨h, .inl ?_⟩, fun _ => hz⟩
        by_contra hadd
        have hadd : isAdd = true := by simpa using hadd
        exact hn ⟨hadd, h, (hsafe hadd cnt hcnt hne h).1⟩
      | moved h _ hz hm => exact ⟨fun _ => ⟨h.client, .inr hm⟩, fun _ => hz⟩
      | ignored h hi => exact absurd hi (hsafe h.add cnt hcnt hne h.client).2.1
      | refused h _ _ _ hm hf =>
        rw [hkept cnt hcnt hf]
        refine ⟨fun hz => absurd hz hne, fun hr => ?_⟩
        rcases hr.2 with hno | hmoved
        · rw [h.add] at hno
          exact absurd hno (by decide)
        · exact absurd hmoved hm
    · have hk := hkept cnt hcnt hf
      have hlen' : (s.flushTempEntries env ip isAdd isDummy).temp.length = maxTempEntries :=
        (flushedTo_inv env ip isAdd isDummy s maxTempEntries).1.len.trans hlen
      exact ⟨by rw [hk]; exact hf.1.client, tempSlot_found hlen' hcnt hk⟩

/-- A driver whose rule table is full. -/
def fullEnv : NatEnv Unit := { acceptingEnv with addIpv4Rule := fun _ _ _ => ((), none) }

/-- One pending connection of client 10. -/
def samplePending : NatApp Unit := (sampleInit.run acceptingEnv [.addTable 20]).addTempEntry sampleEntry

/-- The client's address is added: its connection goes into the table, or stays pending. -/
theorem flushKept_iff_sample :
    samplePending.temp.length = maxTempEntries ∧ FlushKept acceptingEnv 10 true false samplePending ∧
      FlushKept fullEnv 10 true false samplePending := by
  have hlen : samplePending.temp.length = maxTempEntries := by decide
  have hone : ∀ cnt < maxTempEntries, samplePending.tempSlot cnt ≠ zero → samplePending.tempSlot cnt = sampleEntry := by decide
  have hsafe : ∀ env, FlushSafe env 10 true false samplePending := by
    intro env _ cnt hcnt hne _
    rw [hone cnt hcnt hne]
    exact ⟨by decide, fun hi => hi.hollow (by decide), .inl rfl⟩
  exact ⟨hlen, (flushKept_iff acceptingEnv 10 true false samplePending hlen).mpr (hsafe _),
    (flushKept_iff fullEnv 10 true false samplePending hlen).mpr (hsafe _)⟩

set_option maxRecDepth 4000 in
/-- The flush for a client outside the NATed interfaces, with the rule table full: `AddEntry` fails and the slot is left as
the dummy rule, which neither a later flush for the client nor the delete of the connection finds. A pending connection
for another public address is dropped by a flush that adds. -/
theorem not_flushKept :
    ¬ FlushKept fullEnv 10 true true samplePending ∧
      ((samplePending.flushTempEntries fullEnv 10 true true).deleteTempEntry sampleEntry).temp =
        (samplePending.flushTempEntries fullEnv 10 true true).temp ∧
      ((samplePending.flushTempEntries fullEnv 10 true true).flushTempEntries fullEnv 10 true true).temp =
        (samplePending.flushTempEntries fullEnv 10 true true).temp ∧
      ¬ FlushKept acceptingEnv 10 true false { samplePending with pubIpAddr := 21 } := by
  refine ⟨fun h => ?_, by decide, by decide, fun h => ?_⟩
  · have hfail : AddFailed fullEnv 10 true true samplePending 0 := ⟨⟨rfl, by decide, by decide⟩, by decide⟩
    exact absurd (h.kept 0 (by decide) hfail) (by decide)
  · rcases ((h.emptied 0 (by decide) (by decide)).mp (by decide)).2 with hno | ⟨i, hblank, -, heq⟩
    · exact absurd hno (by decide)
    · have hcache : (flushedTo acceptingEnv 10 true false { samplePending with pubIpAddr := 21 } 1).cache =
          (flushedTo acceptingEnv 10 true false { samplePending with pubIpAddr := 21 } 0).cache := by decide
      exact not_moved hcache ⟨i, hblank, by decide, heq⟩

end NatApp
end HiaeCommon
