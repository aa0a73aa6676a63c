/-
Power save (`IPACM_Conntrack_NATApp.cpp`): no connection of a listed client
is in the hardware table.

`AddEntry` asks `isPwrSaveIf` before it programs a rule and `ResetPwrSaveIf`
unlists its client first, but the loop of `AddTable` that restores the cache
does not look at the list. So the runs that keep the promise are those in
which no sleeping client has a cached connection when its table comes back.
-/
import HiaeCommon.Ipacm.NatCache

namespace HiaeCommon

open NatTableEntry (zero)
open Lib (forRange_inv')

/-- The driver calls that have what they need succeed: a table of some
entries, a rule or a deletion under a table. A rule needs a table. -/
structure NatEnv.Succeeds {δ : Type} (env : NatEnv δ) : Prop where
  tblRefused : ∀ d ip n d', env.addIpv4Tbl d ip n = (d', none) → n = 0
  tblAdded : ∀ d ip n d' h, env.addIpv4Tbl d ip n = (d', some h) → h ≠ 0
  add : ∀ d t rule d' h, env.addIpv4Rule d t rule = (d', some h) → t ≠ 0 ∧ h ≠ 0
  del : ∀ d t h, t ≠ 0 → h ≠ 0 → (env.delIpv4Rule d t h).2 = true

namespace NatApp

variable {δ : Type} {env : NatEnv δ}

theorem isPwrSaveIf_iff {s : NatApp δ} {ip : BitVec 32} : s.isPwrSaveIf ip = true ↔ ip ≠ 0 ∧ ip ∈ s.pwrSaveIfs := by
  simp only [isPwrSaveIf, List.any_eq_true, Bool.and_eq_true, bne_iff_ne, beq_iff_eq]
  constructor
  · rintro ⟨p, hp, h0, rfl⟩
    exact ⟨h0, hp⟩
  · rintro ⟨h0, hp⟩
    exact ⟨ip, hp, h0, rfl⟩

/-- No address is listed twice. -/
def ListedOnce (pwrSaveIfs : List (BitVec 32)) : Prop := ∀ ip, ip ≠ 0 → pwrSaveIfs.count ip ≤ 1

/-- The power-save invariant: what is enabled is under a table, has a handle
and belongs to no listed client. -/
structure PowerSave (s : NatApp δ) : Prop where
  tbl : ∀ i, (s.slot i).enabled = true → s.natTableHdl ≠ 0
  hdl : ∀ i, (s.slot i).enabled = true → (s.slot i).ruleHdl ≠ 0
  once : ListedOnce s.pwrSaveIfs
  awake : ∀ i, (s.slot i).enabled = true → s.isPwrSaveIf (s.slot i).privateIp = false

/-- Nothing is enabled that was not, and nobody new is listed. -/
theorem PowerSave.of_le {s t : NatApp δ} (h : PowerSave s)
    (hen : ∀ i, (t.slot i).enabled = true → (s.slot i).enabled = true ∧ (t.slot i).ruleHdl = (s.slot i).ruleHdl ∧
      (t.slot i).privateIp = (s.slot i).privateIp)
    (ht : t.natTableHdl = s.natTableHdl) (ho : ListedOnce t.pwrSaveIfs)
    (hp : ∀ ip, ip ≠ 0 → ip ∈ t.pwrSaveIfs → ip ∈ s.pwrSaveIfs) : PowerSave t where
  tbl i hi := by rw [ht]; exact h.tbl i (hen i hi).1
  hdl i hi := by rw [(hen i hi).2.1]; exact h.hdl i (hen i hi).1
  once := ho
  awake i hi := by
    have := h.awake i (hen i hi).1
    rw [(hen i hi).2.2]
    rw [Bool.eq_false_iff] at this ⊢
    exact fun hl => this (isPwrSaveIf_iff.mpr ⟨(isPwrSaveIf_iff.mp hl).1, hp _ (isPwrSaveIf_iff.mp hl).1 (isPwrSaveIf_iff.mp hl).2⟩)

/-- Only the cache has changed, and nothing in it was enabled by it. -/
theorem PowerSave.of_slots {s t : NatApp δ} (h : PowerSave s)
    (hen : ∀ i, (t.slot i).enabled = true → (s.slot i).enabled = true ∧ (t.slot i).ruleHdl = (s.slot i).ruleHdl ∧
      (t.slot i).privateIp = (s.slot i).privateIp)
    (ht : t.natTableHdl = s.natTableHdl) (hp : t.pwrSaveIfs = s.pwrSaveIfs) : PowerSave t :=
  h.of_le hen ht (hp ▸ h.once) fun _ _ hm => hp ▸ hm

/-- One slot is rewritten and its entry, if enabled, may be. -/
theorem PowerSave.setSlot {s : NatApp δ} (h : PowerSave s) {cnt : Nat} {e : NatTableEntry}
    (he : e.enabled = true → s.natTableHdl ≠ 0 ∧ e.ruleHdl ≠ 0 ∧ s.isPwrSaveIf e.privateIp = false) :
    PowerSave (s.setSlot cnt e) := by
  have hsl : ∀ i, (s.setSlot cnt e).slot i = e ∨ (s.setSlot cnt e).slot i = s.slot i := fun i => by
    rw [slot_setSlot]
    split
    · exact .inl rfl
    · exact .inr rfl
  refine ⟨fun i hi => ?_, fun i hi => ?_, h.once, fun i hi => ?_⟩
  all_goals
    rcases hsl i with heq | heq <;> rw [heq] at hi
  · exact (he hi).1
  · exact h.tbl i hi
  · rw [heq]; exact (he hi).2.1
  · rw [heq]; exact h.hdl i hi
  · rw [heq]; exact (he hi).2.2
  · rw [heq]; exact h.awake i hi

theorem PowerSave.drv {s : NatApp δ} (h : PowerSave s) (drv : δ) : PowerSave { s with drv } :=
  h.of_slots (fun _ hi => ⟨hi, rfl, rfl⟩) rfl rfl

theorem PowerSave.curCnt {s : NatApp δ} (h : PowerSave s) (n : Int) : PowerSave { s with curCnt := n } :=
  h.of_slots (fun _ hi => ⟨hi, rfl, rfl⟩) rfl rfl

/-- One slot is rewritten with an entry that is not enabled. -/
theorem PowerSave.setOff {s : NatApp δ} (h : PowerSave s) (cnt : Nat) {e : NatTableEntry} (he : e.enabled = false) :
    PowerSave (s.setSlot cnt e) := h.setSlot fun hen => by simp [he] at hen

theorem PowerSave.clearSlot {s : NatApp δ} (h : PowerSave s) (cnt : Nat) : PowerSave (s.clearSlot cnt) :=
  (h.setOff cnt NatTableEntry.enabled_zero).curCnt _

/-! ## The list -/

theorem count_set_le {l : List (BitVec 32)} {i : Nat} {a ip : BitVec 32} (h : a ≠ ip) : (l.set i a).count ip ≤ l.count ip := by
  by_cases hi : i < l.length
  · rw [List.count_set hi]
    simp [h]
  · exact Nat.le_of_eq (by rw [List.set_eq_of_length_le (Nat.le_of_not_lt hi)])

/-- `ResetPwrSaveIf` and `DelEntriesOnClntDiscon` take the client off the list. -/
theorem unlistPwrSaveIf_spec {s : NatApp δ} (h : ListedOnce s.pwrSaveIfs) {ip : BitVec 32} (hip : ip ≠ 0) :
    ListedOnce (s.unlistPwrSaveIf ip).pwrSaveIfs ∧ ip ∉ (s.unlistPwrSaveIf ip).pwrSaveIfs ∧
      ∀ q, q ≠ 0 → q ∈ (s.unlistPwrSaveIf ip).pwrSaveIfs → q ∈ s.pwrSaveIfs := by
  unfold unlistPwrSaveIf
  split
  next hf =>
    have hn : ip ∉ s.pwrSaveIfs := fun hm => by simpa using List.findIdx?_eq_none_iff.mp hf ip hm
    exact ⟨h, hn, fun _ _ hm => hm⟩
  next cnt hf =>
    obtain ⟨hlt, heq, -⟩ := List.findIdx?_eq_some_iff_getElem.mp hf
    have heq : s.pwrSaveIfs[cnt] = ip := by simpa using heq
    refine ⟨fun q hq => ?_, fun hm => ?_, fun q hq hm => ?_⟩
    · exact Nat.le_trans (count_set_le (Ne.symm hq)) (h q hq)
    · -- the only occurrence has gone
      have h1 : 0 < (s.pwrSaveIfs.set cnt 0).count ip := List.count_pos_iff.mpr hm
      have h2 := h ip hip
      rw [List.count_set hlt] at h1
      simp only [heq, beq_self_eq_true, if_true, beq_iff_eq, Ne.symm hip, if_false] at h1
      omega
    · rcases List.mem_or_eq_of_mem_set hm with hm | rfl
      · exact hm
      · exact absurd rfl hq

/-- Listing a client that is not listed. -/
theorem listPwrSaveIf_spec {s : NatApp δ} (h : ListedOnce s.pwrSaveIfs) {ip : BitVec 32} (hn : ip ∉ s.pwrSaveIfs) :
    ListedOnce (s.listPwrSaveIf ip).pwrSaveIfs ∧
      ∀ q, q ∈ (s.listPwrSaveIf ip).pwrSaveIfs → q = ip ∨ q ∈ s.pwrSaveIfs := by
  unfold listPwrSaveIf
  split
  · exact ⟨h, fun _ hm => .inr hm⟩
  next cnt hf =>
    obtain ⟨hlt, -⟩ := List.findIdx?_eq_some_iff_getElem.mp hf
    refine ⟨fun q hq => ?_, fun q hm => (List.mem_or_eq_of_mem_set hm).symm⟩
    by_cases hqip : q = ip
    · subst hqip
      have h0 : s.pwrSaveIfs.count q = 0 := List.count_eq_zero.mpr hn
      have h1 := List.count_set (a := q) (b := q) hlt
      simp only [beq_self_eq_true, if_true] at h1
      dsimp only
      omega
    · exact Nat.le_trans (count_set_le (Ne.symm hqip)) (h q hq)

/-! ## Steps -/

/-- Restoring the cache wakes nobody: where `op` is the `AddTable` of the
address the last table had, no client with a cached connection is listed. -/
def WakesNobody (s : NatApp δ) (op : NatOp) : Prop :=
  op = .addTable s.pubIpAddrPre → ∀ i, (s.slot i).privateIp ≠ 0 → s.isPwrSaveIf (s.slot i).privateIp = false

theorem Restores.awake {op : NatOp} {s₀ s : NatApp δ} {cnt : Nat} (hr : Restores op s₀ s cnt) (h₀ : PowerSave s₀)
    (hw : WakesNobody s₀ op) : s.isPwrSaveIf (s.slot cnt).privateIp = false := by
  rcases hr with ⟨hop, hs, hp, h0⟩ | ⟨ip, -, hip, -, hp, hi, -⟩
  · have := hw hop cnt (by rwa [← hs])
    simp only [isPwrSaveIf, hp, hs] at this ⊢
    exact this
  · rw [Bool.eq_false_iff, ne_eq, isPwrSaveIf_iff, hp, hi]
    exact fun hm => (unlistPwrSaveIf_spec h₀.once hip).2.1 hm.2

/-- **No edit enables an entry of a listed client**, of a call that restores
nobody's rules against the list; listing itself is `updatePwrSaveIf_powerSave`. -/
theorem Edit.powerSave (henv : env.Succeeds) {op : NatOp} {s₀ s t : NatApp δ} (he : Edit env op s₀ s t)
    (h₀ : PowerSave s₀) (h : PowerSave s) (hw : WakesNobody s₀ op) (hop : ∀ ip, op ≠ .updatePwrSaveIf ip) :
    PowerSave t := by
  have same : ∀ i, (s.slot i).enabled = true → (s.slot i).enabled = true ∧ (s.slot i).ruleHdl = (s.slot i).ruleHdl ∧
      (s.slot i).privateIp = (s.slot i).privateIp := fun _ hi => ⟨hi, rfl, rfl⟩
  cases he with
  | other | tblNamed | call => exact h.of_slots same rfl rfl
  | stamp cnt ts hen => exact h.setSlot fun _ => ⟨h.tbl cnt hen, h.hdl cnt hen, h.awake cnt hen⟩
  | tblRefused _ _ hc => exact h.of_slots same (by simp [henv.tblRefused _ _ _ _ hc]) rfl
  | tblAdded _ _ hc => exact ⟨fun _ _ => henv.tblAdded _ _ _ _ _ hc, h.hdl, h.once, h.awake⟩
  | tblDeleted =>
    have hoff : ∀ {u : NatApp δ} {i} {P : Prop}, (u.reset.slot i).enabled = true → P := fun {u i P} hi => by
      rw [slot_reset] at hi
      simp at hi
    exact ⟨fun _ => hoff, fun _ => hoff, by rw [reset_eq]; exact h.once, fun _ => hoff⟩
  | @restored cnt drv ruleHdl hr hc =>
    have hadd := henv.add _ _ _ _ _ hc
    exact (h.drv drv).setSlot (e := { s.slot cnt with ruleHdl, enabled := true })
      fun _ => ⟨hadd.1, hadd.2, hr.awake h₀ hw⟩
  | lost => exact (h.drv _).clearSlot _
  | cached _ _ _ hoff => exact (h.setOff _ hoff).curCnt _
  | @added rule cnt drv ruleHdl _ _ hp hc =>
    have hadd := henv.add _ _ _ _ _ hc
    exact ((h.drv drv).setSlot (e := addedEntry _ _ _ _) fun _ => ⟨hadd.1, hadd.2, hp⟩).curCnt _
  | disabled => exact (h.drv _).setOff _ rfl
  | @dropped cnt =>
    have hd : PowerSave (s.delRule env cnt) := by
      unfold delRule
      split
      · exact h.drv _
      · exact h
    exact hd.clearSlot cnt
  | left => exact h.clearSlot _
  | listed hop' => exact absurd hop' (hop _)
  | unlisted _ hip =>
    have hl := unlistPwrSaveIf_spec h.once hip
    rw [unlistPwrSaveIf_eq]
    exact h.of_le same rfl hl.1 hl.2.2

theorem Edits.powerSave (henv : env.Succeeds) {op : NatOp} {s₀ t : NatApp δ} (he : Edits env op s₀ s₀ t)
    (h₀ : PowerSave s₀) (hw : WakesNobody s₀ op) (hop : ∀ ip, op ≠ .updatePwrSaveIf ip) : PowerSave t := by
  induction he with
  | refl => exact h₀
  | tail _ he ih => exact he.powerSave henv h₀ ih hw hop

/-- `UpdatePwrSaveIf` takes every entry of its client out of the hardware
before it returns, so the list and the hardware agree again. -/
theorem updatePwrSaveIf_powerSave (henv : env.Succeeds) (ip : BitVec 32) {s : NatApp δ} (h : PowerSave s) :
    PowerSave (s.updatePwrSaveIf env ip).1 := by
  unfold updatePwrSaveIf
  split
  · exact h
  split
  · exact h
  next hn =>
    have hn : ip ∉ s.pwrSaveIfs := by simpa using hn
    obtain ⟨honce, hmem⟩ := listPwrSaveIf_spec h.once hn
    -- `I n`: what is enabled was, and of the client's slots only those from `n` on
    let I : Nat → NatApp δ → Prop := fun n t =>
      t.maxEntries = s.maxEntries ∧ t.natTableHdl = s.natTableHdl ∧ t.pwrSaveIfs = (s.listPwrSaveIf ip).pwrSaveIfs ∧
      ∀ i, (t.slot i).enabled = true → (s.slot i).enabled = true ∧ (t.slot i).ruleHdl = (s.slot i).ruleHdl ∧
        (t.slot i).privateIp = (s.slot i).privateIp ∧ (i < n → (t.slot i).privateIp ≠ ip)
    have hlen : (s.listPwrSaveIf ip).maxEntries = s.maxEntries := by rw [listPwrSaveIf_eq]; rfl
    obtain ⟨-, ht, hp, hen⟩ := forEachSlot_inv (updatePwrSaveIfBody env ip) I (s := s.listPwrSaveIf ip)
      (by rw [listPwrSaveIf_eq]; exact ⟨rfl, rfl, rfl, fun i hi => ⟨hi, rfl, rfl, fun h => nomatch h⟩⟩)
      (fun n t hlt ⟨h1, h2, h3, h4⟩ => by
        unfold updatePwrSaveIfBody
        split
        next hg =>
          have hd := henv.del t.drv _ _ (h2 ▸ h.tbl n (h4 n hg.2).1)
            ((h4 n hg.2).2.1 ▸ h.hdl n (h4 n hg.2).1)
          split
          next heq => simp [heq] at hd
          next drv heq =>
            refine ⟨by simpa using h1, h2, h3, fun i hi => ?_⟩
            rw [slot_setSlot] at hi ⊢
            split at hi
            · simp at hi
            next hne =>
              rw [if_neg hne]
              have hin : i ≠ n := fun heq => hne ⟨heq, by simpa [h1, hlen] using hlt⟩
              obtain ⟨g1, g2, g3, g4⟩ := h4 i hi
              exact ⟨g1, g2, g3, fun hlt' => g4 (by omega)⟩
        next hg =>
          refine ⟨h1, h2, h3, fun i hi => ?_⟩
          obtain ⟨g1, g2, g3, g4⟩ := h4 i hi
          refine ⟨g1, g2, g3, fun hlt' heq => ?_⟩
          by_cases hin : i = n
          · subst hin
            exact hg ⟨heq, hi⟩
          · exact g4 (by omega) heq)
    refine ⟨fun i hi => ht ▸ h.tbl i (hen i hi).1, fun i hi => ?_, by rw [hp]; exact honce, fun i hi => ?_⟩
    · rw [(hen i hi).2.1]
      exact h.hdl i (hen i hi).1
    · obtain ⟨g1, g2, g3, g4⟩ := hen i hi
      have hne := g4 (by rw [hlen]; exact enabled_lt g1)
      rw [Bool.eq_false_iff, ne_eq, isPwrSaveIf_iff, hp]
      rintro ⟨h0, hm⟩
      rcases hmem _ hm with heq | hm
      · exact hne heq
      · rw [g3] at h0 hm
        have := h.awake i g1
        rw [Bool.eq_false_iff] at this
        exact this (isPwrSaveIf_iff.mpr ⟨h0, hm⟩)

theorem step_powerSave (henv : env.Succeeds) {s : NatApp δ} {op : NatOp} (h : PowerSave s) (hw : WakesNobody s op) :
    PowerSave (s.step env op) := by
  have he := step_edits env s op
  cases op with
  | updatePwrSaveIf ip => exact updatePwrSaveIf_powerSave henv ip h
  | _ => exact Edits.powerSave henv he h hw fun _ hop => nomatch hop

theorem mem_set_of_ne {l : List (BitVec 32)} {cnt : Nat} {a b : BitVec 32} (h : a ∈ l) (hne : l[cnt]? ≠ some a) : a ∈ l.set cnt b := by
  obtain ⟨i, hi⟩ := List.mem_iff_getElem?.mp h
  refine List.mem_iff_getElem?.mpr ⟨i, ?_⟩
  have hci : cnt ≠ i := fun heq => hne (by rw [heq, hi])
  rw [List.getElem?_set_ne hci, hi]

/-- An address leaves the list only by a call for it. -/
theorem Edit.mem_pwrSaveIfs {op : NatOp} {s₀ s t : NatApp δ} (he : Edit env op s₀ s t) {ip : BitVec 32} (hip : ip ≠ 0)
    (hop : op ≠ .resetPwrSaveIf ip ∧ op ≠ .delEntriesOnClntDiscon ip) (h : ip ∈ s.pwrSaveIfs) : ip ∈ t.pwrSaveIfs := by
  cases he with
  | tblDeleted =>
    rw [reset_eq]
    exact h
  | @dropped cnt =>
    have hd : (s.delRule env cnt).pwrSaveIfs = s.pwrSaveIfs := by
      unfold delRule
      split <;> rfl
    exact (congrArg (ip ∈ ·) hd).mpr h
  | listed =>
    unfold listPwrSaveIf
    split
    · exact h
    next cnt hf =>
      -- the slot that is taken was free
      obtain ⟨hlt, h0, -⟩ := List.findIdx?_eq_some_iff_getElem.mp hf
      refine mem_set_of_ne h fun heq => hip ?_
      rw [List.getElem?_eq_getElem hlt, Option.some.injEq] at heq
      rw [← heq]
      simpa using h0
  | @unlisted ip' hop' =>
    have hne : ip' ≠ ip := fun heq => by
      subst heq
      exact hop'.elim hop.1 hop.2
    unfold unlistPwrSaveIf
    split
    · exact h
    next cnt hf =>
      obtain ⟨hlt, heq, -⟩ := List.findIdx?_eq_some_iff_getElem.mp hf
      refine mem_set_of_ne h fun hin => hne ?_
      rw [List.getElem?_eq_getElem hlt, Option.some.injEq] at hin
      rw [← hin]
      exact (by simpa using heq : s.pwrSaveIfs[cnt] = ip').symm
  | _ => exact h

theorem step_listed {s : NatApp δ} {op : NatOp} {ip : BitVec 32} (hip : ip ≠ 0)
    (hop : op ≠ .resetPwrSaveIf ip ∧ op ≠ .delEntriesOnClntDiscon ip) (h : ip ∈ s.pwrSaveIfs) : ip ∈ (s.step env op).pwrSaveIfs := by
  have he := step_edits env s op
  generalize s.step env op = t at he
  induction he with
  | refl => exact h
  | tail _ he ih => exact he.mem_pwrSaveIfs hip hop ih

/-- `UpdatePwrSaveIf` lists its client where there is room. -/
theorem updatePwrSaveIf_lists {s : NatApp δ} {ip : BitVec 32} (hip : ip ≠ 0) (hroom : ip ∈ s.pwrSaveIfs ∨ 0 ∈ s.pwrSaveIfs) :
    ip ∈ (s.updatePwrSaveIf env ip).1.pwrSaveIfs := by
  unfold updatePwrSaveIf
  rw [if_neg hip]
  split
  next hin => simpa using hin
  next hn =>
    have hloop := forEachSlot_inv (updatePwrSaveIfBody env ip) (fun _ t => t.pwrSaveIfs = (s.listPwrSaveIf ip).pwrSaveIfs)
      (s := s.listPwrSaveIf ip) rfl (fun n t _ ht => by
        unfold updatePwrSaveIfBody
        split
        · split <;> exact ht
        · exact ht)
    dsimp only
    rw [hloop]
    have h0 : (0 : BitVec 32) ∈ s.pwrSaveIfs := hroom.resolve_left (by simpa using hn)
    unfold listPwrSaveIf
    split
    next hf => exact absurd (List.findIdx?_eq_none_iff.mp hf 0 h0) (by decide)
    next cnt hf =>
      obtain ⟨hlt, -⟩ := List.findIdx?_eq_some_iff_getElem.mp hf
      exact List.mem_iff_getElem.mpr ⟨cnt, by simpa using hlt, by simp⟩

/-- A run of calls in which no table comes back to a sleeping client's connections. -/
abbrev WakelessRun (env : NatEnv δ) : NatApp δ → List NatOp → NatApp δ → Prop :=
  Lib.Run fun s op t => WakesNobody s op ∧ t = s.step env op

theorem init_powerSave {n algPorts pre tcp udp pwr} {drv : δ} (hpwr : ListedOnce pwr) :
    PowerSave (init n algPorts pre tcp udp pwr drv) := by
  have hoff : ∀ {i} {P : Prop}, ((init n algPorts pre tcp udp pwr drv).slot i).enabled = true → P := fun {i P} hi => by
    simp only [init, slot, List.getD_eq_getElem?_getD, List.getElem?_replicate] at hi
    split at hi <;> simp at hi
  exact ⟨fun _ => hoff, fun _ => hoff, hpwr, fun _ => hoff⟩

/-- **A sleeping client has no connection in the hardware**, in every run in
which no table comes back to its cached ones. -/
theorem power_save_run (henv : env.Succeeds) {n algPorts pre tcp udp pwr} {drv : δ} {ops : List NatOp} {s : NatApp δ}
    (hpwr : ListedOnce pwr) (h : WakelessRun env (init n algPorts pre tcp udp pwr drv) ops s) (i : Nat)
    (hi : (s.slot i).enabled = true) : s.isPwrSaveIf (s.slot i).privateIp = false := by
  have hps := h.invariant PowerSave (fun s op t hst hs => hst.2 ▸ step_powerSave henv hs hst.1) (init_powerSave hpwr)
  exact hps.awake i hi

theorem acceptingEnv_succeeds : acceptingEnv.Succeeds where
  tblRefused _ _ n _ h := by
    simp only [acceptingEnv] at h
    split at h
    next hn => exact hn
    · simp at h
  tblAdded _ _ n _ hdl h := by
    simp only [acceptingEnv] at h
    split at h
    · simp at h
    · simp only [Prod.mk.injEq, Option.some.injEq] at h
      rw [← h.2]
      decide
  add _ t _ _ hdl h := by
    simp only [acceptingEnv] at h
    split at h
    · simp at h
    next ht =>
      simp only [Prod.mk.injEq, Option.some.injEq] at h
      exact ⟨ht, by rw [← h.2]; decide⟩
  del _ t hdl ht hh := by
    simp only [acceptingEnv, Bool.and_eq_true, bne_iff_ne]
    exact ⟨ht, hh⟩

theorem listedOnce_zero : ListedOnce (List.replicate ipaMaxNumWifiClients 0) := by
  intro ip hip
  rw [List.count_replicate, if_neg (by simpa using Ne.symm hip)]
  exact Nat.zero_le 1

theorem power_save_run_sample :
    let s := sampleInit.run acceptingEnv [.addTable 20, .addEntry sampleEntry, .updatePwrSaveIf 11]
    (s.slot 0).enabled = true ∧ s.isPwrSaveIf (s.slot 0).privateIp = false := by
  have hr : WakelessRun acceptingEnv sampleInit [.addTable 20, .addEntry sampleEntry, .updatePwrSaveIf 11]
      (sampleInit.run acceptingEnv [.addTable 20, .addEntry sampleEntry, .updatePwrSaveIf 11]) :=
    .cons ⟨fun h => absurd h (by decide), rfl⟩ (.cons ⟨fun h => (nomatch h), rfl⟩
      (.cons ⟨fun h => (nomatch h), rfl⟩ (.nil _)))
  exact ⟨by decide, power_save_run acceptingEnv_succeeds listedOnce_zero hr 0 (by decide)⟩

/-- A client asleep over a reconnect of the WAN has its connection put back into the hardware. -/
theorem power_save_woken :
    let s := sampleInit.run acceptingEnv
      [.addTable 20, .addEntry sampleEntry, .updatePwrSaveIf 10, .deleteTable 20, .addTable 20]
    acceptingEnv.Succeeds ∧ (s.slot 0).enabled = true ∧ s.isPwrSaveIf (s.slot 0).privateIp = true :=
  ⟨acceptingEnv_succeeds, by decide, by decide⟩

end NatApp
end HiaeCommon
