/-
The integrity of the cache (`IPACM_Conntrack_NATApp.cpp`): no tuple twice, no
half-filled slot, and `curCnt` the number of occupied slots.

The first two hold whatever the driver answers and whatever is asked. The
count has one leak: `DeleteEntry` does not reject the all-zero rule, which
every free slot matches. The listener never passes one (its rules carry the
protocol of a TCP or UDP message).
-/
import HiaeCommon.Ipacm.NatAppEdits

namespace HiaeCommon

open NatTableEntry (zero)

namespace NatApp

variable {δ : Type} {env : NatEnv δ}

/-- The number of occupied slots. -/
def occupied (s : NatApp δ) : Nat := s.cache.countP (· != zero)

/-- No half-filled slot, and no tuple in two occupied slots. -/
structure Integrity (s : NatApp δ) : Prop where
  wf : ∀ i, s.slot i = zero ∨ (s.slot i).tuple.Full
  uniq : ∀ i j, s.slot i ≠ zero → (s.slot i).tuple = (s.slot j).tuple → i = j

namespace Integrity

theorem slot_eq_zero {s : NatApp δ} (h : Integrity s) {i : Nat} (hb : (s.slot i).tuple = .blank) :
    s.slot i = zero := by
  rcases h.wf i with hz | hf
  · exact hz
  · rw [hb] at hf
    exact absurd hf NatTableEntry.not_full_blank

theorem of_slots {s t : NatApp δ} (h : Integrity s)
    (heq : ∀ i, t.slot i = s.slot i ∨ (s.slot i ≠ zero ∧ (t.slot i).tuple = (s.slot i).tuple)) : Integrity t := by
  have htup : ∀ i, (t.slot i).tuple = (s.slot i).tuple := fun i => by
    rcases heq i with h | ⟨-, h⟩
    · rw [h]
    · exact h
  have hocc : ∀ i, t.slot i ≠ zero → s.slot i ≠ zero := fun i hi => by
    rcases heq i with h | ⟨h, -⟩
    · rwa [← h]
    · exact h
  refine ⟨fun i => ?_, fun i j hi hij => h.uniq i j (hocc i hi) (by rw [← htup, ← htup, hij])⟩
  by_cases hz : t.slot i = zero
  · exact .inl hz
  · exact .inr (by rw [htup]; exact (h.wf i).resolve_left (hocc i hz))

/-- Rewriting an occupied slot under its tuple. -/
theorem setSlot {s : NatApp δ} (h : Integrity s) {cnt : Nat} {e : NatTableEntry} (ho : s.slot cnt ≠ zero)
    (ht : e.tuple = (s.slot cnt).tuple) : Integrity (s.setSlot cnt e) := by
  refine h.of_slots fun i => ?_
  rw [slot_setSlot]
  split
  next hi => exact .inr ⟨by rw [hi.1]; exact ho, by rw [hi.1]; exact ht⟩
  · exact .inl rfl

theorem clearSlot {s : NatApp δ} (h : Integrity s) (cnt : Nat) : Integrity (s.clearSlot cnt) := by
  constructor
  · intro i
    rw [slot_clearSlot]
    split
    · exact .inl rfl
    · exact h.wf i
  · intro i j hi hij
    rw [slot_clearSlot] at hi hij
    split at hi
    · exact absurd rfl hi
    next hic =>
      rw [if_neg hic, slot_clearSlot] at hij
      split at hij
      · exact absurd (h.slot_eq_zero hij) hi
      · exact h.uniq i j hi hij

/-- Filling a free slot with a new tuple. -/
theorem fillSlot {s : NatApp δ} (h : Integrity s) {cnt : Nat} {e : NatTableEntry} (hf : e.tuple.Full)
    (hlt : cnt < s.maxEntries) (hn : ∀ i < s.maxEntries, (s.slot i).tuple ≠ e.tuple) :
    Integrity (s.fillSlot cnt e) := by
  have hne : ∀ i, (s.slot i).tuple ≠ e.tuple := fun i => by
    by_cases hi : i < s.maxEntries
    · exact hn i hi
    · rw [NatApp.slot_eq_zero (Nat.le_of_not_lt hi)]
      intro hb
      rw [← hb] at hf
      exact NatTableEntry.not_full_blank hf
  constructor
  · intro i
    rw [slot_fillSlot]
    split
    · exact .inr hf
    · exact h.wf i
  · intro i j hi hij
    simp only [slot_fillSlot, hlt, and_true] at hi hij
    by_cases hic : i = cnt <;> by_cases hjc : j = cnt <;> simp only [hic, hjc, ite_true, ite_false] at hi hij
    · rw [hic, hjc]
    · exact absurd hij.symm (hne j)
    · exact absurd hij (hne i)
    · exact h.uniq i j hi hij

end Integrity

theorem Stores.slot_lt {op : NatOp} {s : NatApp δ} {rule cnt} (h : Stores op s rule cnt) : cnt < s.maxEntries :=
  (freeSlot_some h.free).1

theorem slot_reset (s : NatApp δ) (i : Nat) : s.reset.slot i = (s.slot i).disable := by
  rw [reset_eq]
  simp only [slot, List.getD_eq_getElem?_getD, List.getElem?_map]
  cases s.cache[i]? <;> rfl

theorem occupied_of_enabled {s : NatApp δ} {i : Nat} (h : (s.slot i).enabled = true) : s.slot i ≠ zero :=
  fun hz => by simp [hz] at h

theorem Restores.occupied {op : NatOp} {s₀ s : NatApp δ} {cnt : Nat} (h : Restores op s₀ s cnt) :
    s.slot cnt ≠ zero := by
  intro hz
  rcases h with ⟨-, -, -, h0⟩ | ⟨ip, -, hip, -, -, hi, -⟩
  · simp [hz, zero] at h0
  · rw [hz] at hi
    exact hip hi.symm

theorem Integrity.of_cache {s t : NatApp δ} (h : Integrity s) (hc : t.cache = s.cache) : Integrity t :=
  h.of_slots fun i => .inl (slot_of_cache hc i)

theorem Integrity.drv {s : NatApp δ} (h : Integrity s) (drv : δ) : Integrity { s with drv } := h.of_cache rfl

theorem cache_delRule (s : NatApp δ) (cnt : Nat) : (s.delRule env cnt).cache = s.cache := by
  unfold delRule; split <;> rfl

/-- **No edit breaks the cache**, whatever the driver answers. -/
theorem Edit.integrity {op : NatOp} {s₀ s t : NatApp δ} (h : Edit env op s₀ s t) (hs : Integrity s) : Integrity t := by
  cases h with
  | other | call | tblRefused | tblAdded | tblNamed => exact hs.of_cache rfl
  | listed => rw [listPwrSaveIf_eq]; exact hs.of_cache rfl
  | unlisted => rw [unlistPwrSaveIf_eq]; exact hs.of_cache rfl
  | stamp cnt ts he => exact hs.setSlot (occupied_of_enabled he) rfl
  | tblDeleted =>
    refine hs.of_slots fun i => ?_
    rw [slot_reset]
    by_cases hz : s.slot i = zero
    · exact .inl (by rw [hz]; exact congrArg NatTableEntry.disable hz)
    · exact .inr ⟨hz, rfl⟩
  | restored hr => exact (hs.drv _).setSlot hr.occupied rfl
  | lost => exact (hs.drv _).clearSlot _
  | cached hst ht =>
    exact hs.fillSlot (ht ▸ hst.full) hst.slot_lt fun i hi => by rw [ht]; exact chkForDup_false hst.dup i hi
  | added hst =>
    exact (hs.drv _).fillSlot (e := addedEntry _ _ _ _) hst.full hst.slot_lt (chkForDup_false hst.dup)
  | disabled he => exact (hs.drv _).setSlot (occupied_of_enabled he) rfl
  | dropped => exact (hs.of_cache (cache_delRule s _)).clearSlot _
  | left => exact hs.clearSlot _

/-! ## The count -/

theorem slot_eq_getElem {s : NatApp δ} {cnt : Nat} (h : cnt < s.maxEntries) : s.slot cnt = s.cache[cnt] := by
  simp only [maxEntries] at h
  simp [slot, List.getD_eq_getElem?_getD, h]

theorem occupied_setSlot {s : NatApp δ} {cnt : Nat} (h : cnt < s.maxEntries) (e : NatTableEntry) :
    (s.setSlot cnt e).occupied + (if s.slot cnt ≠ zero then 1 else 0) = s.occupied + if e ≠ zero then 1 else 0 := by
  have hpos : s.slot cnt ≠ zero → 0 < s.occupied := fun hz =>
    List.countP_pos_iff.mpr ⟨s.slot cnt, mem_cache_iff.mpr ⟨cnt, h, rfl⟩, by simpa using hz⟩
  simp only [occupied, setSlot, List.countP_set h, ← slot_eq_getElem h, bne_iff_ne]
  by_cases hz : s.slot cnt = zero <;> by_cases he : e = zero <;> simp [hz, he]
  · have := hpos hz; simp only [occupied] at this; omega
  · have := hpos hz; simp only [occupied] at this; omega

/-- `curCnt` is the number of occupied slots. -/
def Counted (s : NatApp δ) : Prop := s.curCnt = s.occupied

theorem Counted.of_cache {s t : NatApp δ} (h : Counted s) (hc : t.cache = s.cache) (hn : t.curCnt = s.curCnt) :
    Counted t := by
  simp only [Counted, occupied, hc, hn]
  exact h

theorem Counted.drv {s : NatApp δ} (h : Counted s) (drv : δ) : Counted { s with drv } := h.of_cache rfl rfl

theorem Counted.setSlot {s : NatApp δ} (h : Counted s) {cnt : Nat} {e : NatTableEntry} (ho : s.slot cnt ≠ zero)
    (he : e ≠ zero) : Counted (s.setSlot cnt e) := by
  have := occupied_setSlot (slot_lt ho) e
  rw [if_pos ho, if_pos he] at this
  have heq : (s.setSlot cnt e).occupied = s.occupied := by omega
  simp only [Counted, heq]
  exact h

theorem Counted.clearSlot {s : NatApp δ} (h : Counted s) {cnt : Nat} (ho : s.slot cnt ≠ zero) :
    Counted (s.clearSlot cnt) := by
  have := occupied_setSlot (slot_lt ho) zero
  rw [if_pos ho, if_neg (by simp)] at this
  have heq : (s.clearSlot cnt).occupied + 1 = s.occupied := this
  simp only [Counted] at h ⊢
  change s.curCnt - 1 = _
  omega

theorem Counted.fillSlot {s : NatApp δ} (h : Counted s) {cnt : Nat} {e : NatTableEntry} (hlt : cnt < s.maxEntries)
    (ho : s.slot cnt = zero) (he : e ≠ zero) : Counted (s.fillSlot cnt e) := by
  have := occupied_setSlot hlt e
  rw [if_pos he, if_neg (by simp [ho])] at this
  have heq : (s.fillSlot cnt e).occupied = s.occupied + 1 := this
  simp only [Counted] at h ⊢
  change s.curCnt + 1 = _
  omega

theorem ne_zero_of_full {e : NatTableEntry} (h : e.tuple.Full) : e ≠ zero := by
  rintro rfl
  exact NatTableEntry.not_full_blank h

theorem occupied_reset (s : NatApp δ) (hs : Integrity s) : s.reset.occupied = s.occupied := by
  rw [reset_eq]
  simp only [occupied, List.countP_map]
  refine List.countP_congr fun e he => ?_
  obtain ⟨i, -, rfl⟩ := mem_cache_iff.mp he
  simp only [Function.comp, bne_iff_ne, ne_eq, not_iff_not]
  rcases hs.wf i with hz | hf
  · simp [hz]
  · exact ⟨fun h => absurd h (ne_zero_of_full (e := (s.slot i).disable) hf), fun h => absurd h (ne_zero_of_full hf)⟩

theorem Drops.occupied {op : NatOp} {s : NatApp δ} {cnt : Nat} (h : Drops env op s cnt) (hs : Integrity s)
    (hop : ∀ rule, op = .deleteEntry rule → rule.tuple ≠ .blank) : s.slot cnt ≠ zero := by
  intro hz
  rcases h with ⟨rule, h, ht⟩ | ⟨j, -, he, ht, -⟩
  · exact hop rule h (by rw [← ht, hz]; rfl)
  · rw [hz] at ht
    exact occupied_of_enabled he (hs.slot_eq_zero ht.symm)

theorem Edit.counted {op : NatOp} {s₀ s t : NatApp δ} (h : Edit env op s₀ s t) (hs : Integrity s) (hc : Counted s)
    (hop : ∀ rule, op = .deleteEntry rule → rule.tuple ≠ .blank) : Counted t := by
  -- `AddEntry` and `CacheEntry` fill a slot that is wholly zero
  have free : ∀ {rule cnt}, Stores op s rule cnt → s.slot cnt = zero := fun hst =>
    hs.slot_eq_zero (freeSlot_some hst.free).2
  cases h with
  | other | call | tblRefused | tblAdded | tblNamed => exact hc.of_cache rfl rfl
  | listed => rw [listPwrSaveIf_eq]; exact hc.of_cache rfl rfl
  | unlisted => rw [unlistPwrSaveIf_eq]; exact hc.of_cache rfl rfl
  | stamp cnt ts he =>
    have ho := occupied_of_enabled he
    exact hc.setSlot ho (ne_zero_of_full (e := { s.slot cnt with timestamp := ts }) ((hs.wf cnt).resolve_left ho))
  | @tblDeleted drv =>
    have hn := occupied_reset { s with drv, pubIpAddrPre := s.pubIpAddr } (hs.of_cache rfl)
    simp only [Counted, hn]
    rw [reset_eq]
    exact hc
  | @restored cnt drv ruleHdl hr =>
    exact (hc.drv _).setSlot hr.occupied (ne_zero_of_full
      (e := { s.slot cnt with ruleHdl, enabled := true }) ((hs.wf cnt).resolve_left hr.occupied))
  | lost hr => exact (hc.drv _).clearSlot hr.occupied
  | cached hst ht => exact hc.fillSlot hst.slot_lt (free hst) (ne_zero_of_full (ht ▸ hst.full))
  | added hst =>
    exact (hc.drv _).fillSlot hst.slot_lt (free hst) (ne_zero_of_full (e := addedEntry _ _ _ _) hst.full)
  | @disabled cnt drv ruleHdl he =>
    have ho := occupied_of_enabled he
    exact (hc.drv _).setSlot ho (ne_zero_of_full
      (e := { s.slot cnt with ruleHdl, enabled := false }) ((hs.wf cnt).resolve_left ho))
  | @dropped cnt hd =>
    refine (hc.of_cache (cache_delRule s cnt) (by unfold delRule; split <;> rfl)).clearSlot ?_
    rw [slot_of_cache (cache_delRule s cnt)]
    exact hd.occupied hs hop
  | left hop' hip ht he =>
    refine hc.clearSlot fun hz => hip ?_
    rw [hz] at ht
    exact ht.symm

/-! ## Runs -/

theorem Edits.integrity {op : NatOp} {s₀ s t : NatApp δ} (h : Edits env op s₀ s t) (hs : Integrity s) : Integrity t := by
  induction h with
  | refl => exact hs
  | tail _ he ih => exact he.integrity ih

theorem Edits.counted {op : NatOp} {s₀ s t : NatApp δ} (h : Edits env op s₀ s t) (hs : Integrity s) (hc : Counted s)
    (hop : ∀ rule, op = .deleteEntry rule → rule.tuple ≠ .blank) : Counted t := by
  induction h with
  | refl => exact hc
  | tail h he ih => exact he.counted (Edits.integrity h hs) ih hop

theorem run_integrity (env : NatEnv δ) {ops : List NatOp} {s : NatApp δ} (hs : Integrity s) : Integrity (s.run env ops) := by
  induction ops generalizing s with
  | nil => exact hs
  | cons op ops ih => exact ih (Edits.integrity (step_edits env s op) hs)

theorem run_counted (env : NatEnv δ) {ops : List NatOp} {s : NatApp δ} (hs : Integrity s) (hc : Counted s)
    (hops : ∀ rule, .deleteEntry rule ∈ ops → rule.tuple ≠ .blank) : Counted (s.run env ops) := by
  induction ops generalizing s with
  | nil => exact hc
  | cons op ops ih =>
    have he := step_edits env s op
    exact ih (Edits.integrity he hs)
      (Edits.counted he hs hc fun rule h => hops rule (by rw [h]; exact List.mem_cons_self))
      fun rule h => hops rule (List.mem_cons_of_mem _ h)

theorem init_integrity (n algPorts pre tcp udp pwr) (drv : δ) : Integrity (init n algPorts pre tcp udp pwr drv) := by
  have hz : ∀ i, (init n algPorts pre tcp udp pwr drv).slot i = zero := fun i => by
    simp only [init, slot, List.getD_eq_getElem?_getD, List.getElem?_replicate]
    split <;> rfl
  exact ⟨fun i => .inl (hz i), fun i j hi => absurd (hz i) hi⟩

theorem init_counted (n algPorts pre tcp udp pwr) (drv : δ) : Counted (init n algPorts pre tcp udp pwr drv) := by
  have : (init n algPorts pre tcp udp pwr drv).occupied = 0 := by
    simp [init, occupied, List.countP_eq_zero]
  rw [Counted, this]
  rfl

/-- With the count exact, `curCnt` reaches `max_entries` just when no slot is free. -/
theorem curCnt_eq_maxEntries_iff {s : NatApp δ} (hs : Integrity s) (hc : Counted s) :
    s.curCnt = s.maxEntries ↔ s.freeSlot = none := by
  rw [hc, Int.natCast_inj, occupied, maxEntries, List.countP_eq_length, freeSlot, List.findIdx?_eq_none_iff]
  refine forall₂_congr fun e he => ?_
  obtain ⟨i, -, rfl⟩ := mem_cache_iff.mp he
  rw [Bool.eq_false_iff, ne_eq, NatTableEntry.isBlank_iff, bne_iff_ne, ne_eq, not_iff_not]
  exact ⟨fun hz => by rw [hz]; rfl, hs.slot_eq_zero⟩

/-- **The cache is sound in every run**, from whatever the constructor left
uninitialised and whatever the driver answers. The count is exact in the runs
in which `DeleteEntry` is never handed the all-zero rule. -/
theorem cache_sound (env : NatEnv δ) (n algPorts pre tcp udp pwr) (drv : δ) (ops : List NatOp) :
    let s := (init n algPorts pre tcp udp pwr drv).run env ops
    Integrity s ∧ ((∀ rule, .deleteEntry rule ∈ ops → rule.tuple ≠ .blank) →
      s.curCnt = s.occupied ∧ (s.curCnt = s.maxEntries ↔ s.freeSlot = none)) := by
  have hi : Integrity ((init n algPorts pre tcp udp pwr drv).run env ops) := run_integrity env (init_integrity ..)
  refine ⟨hi, fun hops => ?_⟩
  have hc := run_counted env (init_integrity n algPorts pre tcp udp pwr drv)
    (init_counted n algPorts pre tcp udp pwr drv) hops
  exact ⟨hc, curCnt_eq_maxEntries_iff hi hc⟩

/-- A driver that lets every call with a table handle through, and hands out one rule handle. -/
def acceptingEnv : NatEnv Unit where
  addIpv4Tbl _ _ n := ((), if n = 0 then none else some 1)
  delIpv4Tbl _ t := ((), t != 0)
  addIpv4Rule _ t _ := ((), if t = 0 then none else some 1)
  delIpv4Rule _ t h := ((), t != 0 && h != 0)
  queryTimestamp _ t _ := ((), if t = 0 then none else some 0)
  ctUpdate _ _ := ((), .updated)
  readUdpTimeout _ := ((), none)
  readTcpTimeout _ := ((), none)

/-- A connection through the accepting driver. -/
def sampleEntry : NatTableEntry :=
  { privateIp := 10, privatePort := 5000, targetIp := 8, targetPort := 443, publicIp := 20, publicPort := 5000
    protocol := ipprotoTcp }

/-- Two slots, no table, nobody asleep. -/
def sampleInit : NatApp Unit := init 2 [] 0 0 0 (List.replicate ipaMaxNumWifiClients 0) ()

theorem cache_sound_sample :
    let s := sampleInit.run acceptingEnv [.addTable 20, .addEntry sampleEntry, .deleteEntry sampleEntry]
    Integrity s ∧ s.curCnt = s.occupied := by
  have h := cache_sound acceptingEnv 2 [] 0 0 0 (List.replicate ipaMaxNumWifiClients 0) ()
    [.addTable 20, .addEntry sampleEntry, .deleteEntry sampleEntry]
  refine ⟨h.1, (h.2 fun rule hm => ?_).1⟩
  simp only [List.mem_cons, reduceCtorEq, NatOp.deleteEntry.injEq, List.not_mem_nil, or_false, false_or] at hm
  subst hm
  decide

/-- The count can be made to underflow: `DeleteEntry` of the all-zero rule finds a free slot. -/
theorem cache_count_underflows :
    let s := sampleInit.run acceptingEnv [.deleteEntry zero]
    s.curCnt = -1 ∧ s.occupied = 0 := by
  decide

end NatApp
end HiaeCommon
