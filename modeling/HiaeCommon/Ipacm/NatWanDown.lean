/-
The cache while there is no NAT table (`IPACM_Conntrack_NATApp.cpp`).

The driver refuses whatever names the null table, and the calls that meet
such a refusal differ: time stamps and the power-save sweep go on to the next
entry, but `ResetPwrSaveIf` blanks the entry it could not program. So a
connection outlives the time without a table, until it is closed or its client
leaves, in the runs that call `ResetPwrSaveIf` for no client with a cached one.
-/
import HiaeCommon.Ipacm.NatCache

namespace HiaeCommon

open NatTableEntry (zero Tuple)

/-- What the driver refuses: a rule or a question under the null table. A
table it creates has a handle. -/
structure NatEnv.RefusesNull {δ : Type} (env : NatEnv δ) : Prop where
  add : ∀ d rule, (env.addIpv4Rule d 0 rule).2 = none
  query : ∀ d h, (env.queryTimestamp d 0 h).2 = none
  tbl : ∀ d ip n d' h, env.addIpv4Tbl d ip n = (d', some h) → h ≠ 0

namespace NatApp

variable {δ : Type} {env : NatEnv δ}

/-- A connection with this tuple is in the cache. -/
def Held (s : NatApp δ) (t : Tuple) : Prop := ∃ i, s.slot i ≠ zero ∧ (s.slot i).tuple = t

/-- `op` is one of the calls that may end the connection `t`: its own
deletion, or the disconnect of its client. -/
def Ends (op : NatOp) (t : Tuple) : Prop :=
  match op with
  | .deleteEntry rule => rule.tuple = t
  | .delEntriesOnClntDiscon ip => ip = t.privateIp
  | .delEntriesOnSTAClntDiscon ip => ip = t.targetIp
  | _ => False

/-- `op` is no `ResetPwrSaveIf` of a client with a connection cached outside the hardware. -/
def ResetsNobody (s : NatApp δ) (op : NatOp) : Prop :=
  ∀ ip, ip ≠ 0 → op = .resetPwrSaveIf ip → ∀ i, (s.slot i).privateIp = ip → (s.slot i).enabled = true

/-! ## A call without a table -/

theorem Held.of_cache {s t : NatApp δ} {tup : Tuple} (h : Held s tup) (hc : t.cache = s.cache) : Held t tup := by
  obtain ⟨i, hi⟩ := h
  exact ⟨i, by rw [slot_of_cache hc]; exact hi⟩

/-- One slot is rewritten, and if it held the connection it still does. -/
theorem Held.setSlot {s : NatApp δ} {tup : Tuple} (h : Held s tup) {cnt : Nat} {e : NatTableEntry}
    (he : s.slot cnt ≠ zero → (s.slot cnt).tuple = tup → e ≠ zero ∧ e.tuple = tup) : Held (s.setSlot cnt e) tup := by
  obtain ⟨i, hz, ht⟩ := h
  refine ⟨i, ?_⟩
  rw [slot_setSlot]
  split
  next hi =>
    rw [hi.1] at hz ht
    exact he hz ht
  · exact ⟨hz, ht⟩

theorem Held.clearSlot {s : NatApp δ} {tup : Tuple} (h : Held s tup) {cnt : Nat} (hne : (s.slot cnt).tuple ≠ tup) :
    Held (s.clearSlot cnt) tup := (h.setSlot fun _ ht => absurd ht hne).of_cache rfl

/-- The same connection, flagged or stamped anew. -/
theorem Held.update {s : NatApp δ} {tup : Tuple} (hi : Integrity s) (h : Held s tup) {cnt : Nat} {e : NatTableEntry}
    (he : e.tuple = (s.slot cnt).tuple) : Held (s.setSlot cnt e) tup := by
  refine h.setSlot fun hz ht => ⟨?_, he.trans ht⟩
  have hf := (hi.wf cnt).resolve_left hz
  exact ne_zero_of_full (he ▸ hf)

theorem delRule_tbl (env : NatEnv δ) (s : NatApp δ) (cnt : Nat) :
    (s.delRule env cnt).natTableHdl = s.natTableHdl ∧ (s.delRule env cnt).pubIpAddrPre = s.pubIpAddrPre := by
  unfold delRule
  split <;> exact ⟨rfl, rfl⟩

/-- Only `AddTable` makes a table, and only the deletion of one names the address to restore at. -/
theorem Edit.tableless {op : NatOp} {s₀ s t : NatApp δ} (he : Edit env op s₀ s t) (h0 : s.natTableHdl = 0)
    (htbl : ∀ ip, op ≠ .addTable ip) : t.natTableHdl = 0 ∧ t.pubIpAddrPre = s.pubIpAddrPre := by
  cases he with
  | tblRefused hop | tblAdded hop | tblNamed hop => exact absurd hop (htbl _)
  | tblDeleted _ ht => exact absurd h0 ht
  | dropped => exact ⟨(delRule_tbl env s _).1.trans h0, (delRule_tbl env s _).2⟩
  | listed => rw [listPwrSaveIf_eq]; exact ⟨h0, rfl⟩
  | unlisted => rw [unlistPwrSaveIf_eq]; exact ⟨h0, rfl⟩
  | _ => exact ⟨h0, rfl⟩

theorem Edits.tableless {op : NatOp} {s t : NatApp δ} (he : Edits env op s s t) (h0 : s.natTableHdl = 0)
    (htbl : ∀ ip, op ≠ .addTable ip) : t.natTableHdl = 0 ∧ t.pubIpAddrPre = s.pubIpAddrPre := by
  induction he with
  | refl => exact ⟨h0, rfl⟩
  | tail _ he ih =>
    obtain ⟨h1, h2⟩ := he.tableless ih.1 htbl
    exact ⟨h1, h2.trans ih.2⟩

/-- **No edit without a table loses a connection** that its call is not to end. -/
theorem Edit.held (henv : env.RefusesNull) {op : NatOp} {s₀ s t : NatApp δ} (he : Edit env op s₀ s t) {tup : Tuple}
    (h0 : s.natTableHdl = 0) (hi : Integrity s) (htbl : ∀ ip, op ≠ .addTable ip) (hr : ResetsNobody s₀ op)
    (hend : ¬ Ends op tup) (h : Held s tup) : Held t tup := by
  have noRestore : ∀ {cnt} {P : Prop}, Restores op s₀ s cnt → P := fun {cnt P} hres => by
    rcases hres with ⟨hop, -, -, -⟩ | ⟨ip, hop, hip, hs, -, hip', hoff⟩
    · exact absurd hop (htbl _)
    · have := hr ip hip hop cnt (hs ▸ hip')
      rw [← hs, hoff] at this
      simp at this
  cases he with
  | other | call => exact h.of_cache rfl
  | stamp => exact h.update hi rfl
  | tblRefused hop | tblAdded hop | tblNamed hop => exact absurd hop (htbl _)
  | tblDeleted _ ht => exact absurd h0 ht
  | restored hres => exact noRestore hres
  | lost hres => exact noRestore hres
  | cached hst =>
    exact (h.setSlot fun hz => absurd (hi.slot_eq_zero (freeSlot_some hst.free).2) hz).of_cache rfl
  | added _ ht => exact absurd h0 ht
  | @disabled cnt drv => exact (h.of_cache rfl : Held { s with drv } tup).update (hi.drv _) rfl
  | @dropped cnt hd =>
    rcases hd with ⟨rule, hop, ht⟩ | ⟨j, -, -, -, drv, hq⟩
    · subst hop
      have hne : (s.slot cnt).tuple ≠ tup := fun heq => hend (ht.symm.trans heq)
      rw [← slot_of_cache (cache_delRule s cnt)] at hne
      exact (h.of_cache (cache_delRule s cnt)).clearSlot hne
    · rw [h0] at hq
      exact absurd (henv.query drv _) hq
  | left hop _ ht =>
    subst hop
    refine h.clearSlot fun heq => hend ?_
    simp only [Ends, ← heq]
    exact ht.symm
  | listed => rw [listPwrSaveIf_eq]; exact h.of_cache rfl
  | unlisted => rw [unlistPwrSaveIf_eq]; exact h.of_cache rfl

theorem Edits.held (henv : env.RefusesNull) {op : NatOp} {s t : NatApp δ} (he : Edits env op s s t) {tup : Tuple}
    (h0 : s.natTableHdl = 0) (hi : Integrity s) (htbl : ∀ ip, op ≠ .addTable ip) (hr : ResetsNobody s op)
    (hend : ¬ Ends op tup) (h : Held s tup) : Held t tup := by
  induction he with
  | refl => exact h
  | tail hs he ih => exact he.held henv (Edits.tableless hs h0 htbl).1 (Edits.integrity hs hi) htbl hr hend ih

/-! ## The next table -/

theorem restoreSlot_tbl (env : NatEnv δ) (s : NatApp δ) (cnt : Nat) :
    (s.restoreSlot env cnt).natTableHdl = s.natTableHdl ∧ (s.restoreSlot env cnt).pubIpAddrPre = s.pubIpAddrPre := by
  unfold restoreSlot
  split <;> exact ⟨rfl, rfl⟩

theorem addTableBody_tbl (env : NatEnv δ) (s : NatApp δ) (cnt : Nat) :
    (addTableBody env s cnt).natTableHdl = s.natTableHdl ∧ (addTableBody env s cnt).pubIpAddrPre = s.pubIpAddrPre := by
  unfold addTableBody
  split
  · exact restoreSlot_tbl env s cnt
  · exact ⟨rfl, rfl⟩

/-- `AddTable` leaves the cache alone when it gets no table, and has one when it gets one. -/
theorem addTable_cases (env : NatEnv δ) (ip : BitVec 32) (s : NatApp δ) :
    (s.addTable env ip).1.pubIpAddrPre = s.pubIpAddrPre ∧
    ((s.addTable env ip).1.cache = s.cache ∨
      ∃ drv, env.addIpv4Tbl s.drv ip (BitVec.ofNat 16 s.maxEntries) = (drv, some (s.addTable env ip).1.natTableHdl)) := by
  unfold addTable
  split
  · exact ⟨rfl, .inl rfl⟩
  next drv hdl heq =>
    dsimp only
    split
    · obtain ⟨h1, h2⟩ := forEachSlot_inv (addTableBody env) (s := { s with drv, natTableHdl := hdl })
        (fun _ t => t.natTableHdl = hdl ∧ t.pubIpAddrPre = s.pubIpAddrPre) ⟨rfl, rfl⟩
        fun i t _ ⟨h1, h2⟩ => by
          obtain ⟨g1, g2⟩ := addTableBody_tbl env t i
          exact ⟨g1.trans h1, g2.trans h2⟩
      exact ⟨h2, .inr ⟨drv, by rw [h1, heq]⟩⟩
    · exact ⟨rfl, .inr ⟨drv, heq⟩⟩

/-- With every rule accepted, restoring a slot enables it and keeps its tuple. -/
theorem restoreSlot_enabled (hadd : ∀ d t rule, t ≠ 0 → (env.addIpv4Rule d t rule).2 ≠ none) {s : NatApp δ} {cnt : Nat}
    (ht : s.natTableHdl ≠ 0) (hlt : cnt < s.maxEntries) :
    ((s.restoreSlot env cnt).slot cnt).enabled = true ∧
      ((s.restoreSlot env cnt).slot cnt).tuple = (s.slot cnt).tuple := by
  unfold restoreSlot
  split
  next heq => exact absurd (congrArg Prod.snd heq) (hadd _ _ _ ht)
  next drv ruleHdl heq =>
    rw [slot_setSlot, if_pos ⟨rfl, hlt⟩]
    exact ⟨rfl, rfl⟩

/-- **A table for the address of the last one restores the cache**, when the
driver accepts every rule. -/
theorem addTable_restores (hadd : ∀ d t rule, t ≠ 0 → (env.addIpv4Rule d t rule).2 ≠ none) {s : NatApp δ}
    (hi : Integrity s) {tup : Tuple} (h : Held s tup) (ht : (s.addTable env s.pubIpAddrPre).1.natTableHdl ≠ 0)
    (h0 : s.natTableHdl = 0) :
    ∃ i, ((s.addTable env s.pubIpAddrPre).1.slot i).enabled = true ∧
      ((s.addTable env s.pubIpAddrPre).1.slot i).tuple = tup := by
  obtain ⟨i, hz, htup⟩ := h
  have hfull := (hi.wf i).resolve_left hz
  unfold addTable at ht ⊢
  split at ht
  next heq =>
    -- no table
    simp only [h0, ite_self, ne_eq, not_true_eq_false] at ht
  next drv hdl heq =>
    simp only [if_true] at ht ⊢
    have hhdl : hdl ≠ 0 := by
      obtain ⟨h1, -⟩ := forEachSlot_inv (addTableBody env) (s := { s with drv, natTableHdl := hdl })
        (fun _ t => t.natTableHdl = hdl ∧ True) ⟨rfl, trivial⟩
        fun i t _ ⟨h1, _⟩ => ⟨(addTableBody_tbl env t i).1.trans h1, trivial⟩
      rwa [h1] at ht
    -- `I n`: the slots before `n` are enabled where they are occupied, the others wait
    obtain ⟨-, -, hdone, -⟩ := forEachSlot_inv (addTableBody env) (s := { s with drv, natTableHdl := hdl })
      (fun n t => t.natTableHdl = hdl ∧ t.maxEntries = s.maxEntries ∧
        (∀ j < n, (s.slot j).privateIp ≠ 0 → (t.slot j).enabled = true ∧ (t.slot j).tuple = (s.slot j).tuple) ∧
        ∀ j, n ≤ j → t.slot j = s.slot j)
      ⟨rfl, rfl, fun j hj => absurd hj (Nat.not_lt_zero j), fun _ _ => rfl⟩
      fun n t hn ⟨h1, h2, h3, h4⟩ => by
        have hsl := h4 n (Nat.le_refl n)
        obtain ⟨f1, -, f3⟩ := restoreSlot_frame env t n
        refine ⟨(addTableBody_tbl env t n).1.trans h1, ?_⟩
        unfold addTableBody
        split
        · refine ⟨f1.trans h2, fun j hj hp => ?_, fun j hj => ?_⟩
          · by_cases hjn : j = n
            · subst hjn
              rw [← hsl]
              exact restoreSlot_enabled hadd (h1 ▸ hhdl) (h2 ▸ hn)
            · rw [f3 j hjn]
              exact h3 j (by omega) hp
          · rw [f3 j (by omega)]
            exact h4 j (by omega)
        next hp0 =>
          refine ⟨h2, fun j hj hp => ?_, fun j hj => h4 j (by omega)⟩
          by_cases hjn : j = n
          · subst hjn
            rw [hsl] at hp0
            exact absurd hp hp0
          · exact h3 j (by omega) hp
    obtain ⟨hen, htu⟩ := hdone i (slot_lt hz) hfull.1
    exact ⟨i, hen, htu.trans htup⟩

/-! ## Runs -/

/-- A run of calls with no table before or after any of them, none of which
is a `ResetPwrSaveIf` of a client with a connection outside the hardware. -/
abbrev TablelessRun (env : NatEnv δ) : NatApp δ → List NatOp → NatApp δ → Prop :=
  Lib.Run fun s op t => s.natTableHdl = 0 ∧ ResetsNobody s op ∧ t = s.step env op ∧ t.natTableHdl = 0

theorem step_held (henv : env.RefusesNull) {s : NatApp δ} {op : NatOp} (hi : Integrity s)
    (h0 : s.natTableHdl = 0) (hr : ResetsNobody s op) (h1 : (s.step env op).natTableHdl = 0) :
    (s.step env op).pubIpAddrPre = s.pubIpAddrPre ∧
      ∀ tup, Held s tup → Ends op tup ∨ Held (s.step env op) tup := by
  have he := step_edits env s op
  by_cases htbl : ∃ ip, op = .addTable ip
  · obtain ⟨ip, rfl⟩ := htbl
    obtain ⟨hpre, hc | ⟨drv, hc⟩⟩ := addTable_cases env ip s
    · exact ⟨hpre, fun tup h => .inr (h.of_cache hc)⟩
    · exact absurd h1 (henv.tbl _ _ _ _ _ hc)
  · have htbl : ∀ ip, op ≠ .addTable ip := fun ip hop => htbl ⟨ip, hop⟩
    refine ⟨(Edits.tableless he h0 htbl).2, fun tup h => ?_⟩
    by_cases hend : Ends op tup
    · exact .inl hend
    · exact .inr (Edits.held henv he h0 hi htbl hr hend h)

theorem TablelessRun.held (henv : env.RefusesNull) {s t : NatApp δ} {ops : List NatOp} (h : TablelessRun env s ops t)
    (hi : Integrity s) (h0 : s.natTableHdl = 0) :
    Integrity t ∧ t.natTableHdl = 0 ∧ t.pubIpAddrPre = s.pubIpAddrPre ∧
      ∀ tup, Held s tup → (∃ op ∈ ops, Ends op tup) ∨ Held t tup := by
  induction h with
  | nil s => exact ⟨hi, h0, rfl, fun _ h => .inr h⟩
  | cons hst _ ih =>
    obtain ⟨-, hr, rfl, h1⟩ := hst
    obtain ⟨hpre, hheld⟩ := step_held henv hi h0 hr h1
    obtain ⟨g1, g2, g3, g4⟩ := ih (Edits.integrity (step_edits env _ _) hi) h1
    refine ⟨g1, g2, g3.trans hpre, fun tup h => ?_⟩
    rcases hheld tup h with hend | h
    · exact .inl ⟨_, List.mem_cons_self, hend⟩
    · exact (g4 tup h).imp (fun ⟨op, hm, hend⟩ => ⟨op, List.mem_cons_of_mem _ hm, hend⟩) id

/-- **A cached connection outlives the time without a table**, unless it is
closed or its client leaves, and the next table for the same address has it
back in the hardware. -/
theorem wan_down_run (henv : env.RefusesNull) {n algPorts pre tcp udp pwr} {drv : δ} {ops₁ ops₂ : List NatOp}
    {s t : NatApp δ} (hs : s = (init n algPorts pre tcp udp pwr drv).run env ops₁) (h0 : s.natTableHdl = 0)
    (h : TablelessRun env s ops₂ t) {tup : Tuple} (hheld : Held s tup) :
    (∃ op ∈ ops₂, Ends op tup) ∨ Held t tup ∧
      ((∀ d tbl rule, tbl ≠ 0 → (env.addIpv4Rule d tbl rule).2 ≠ none) →
        (t.addTable env s.pubIpAddrPre).1.natTableHdl ≠ 0 →
        ∃ i, ((t.addTable env s.pubIpAddrPre).1.slot i).enabled = true ∧
          ((t.addTable env s.pubIpAddrPre).1.slot i).tuple = tup) := by
  have hi : Integrity s := hs ▸ run_integrity env (init_integrity ..)
  obtain ⟨hit, ht0, hpre, hh⟩ := h.held henv hi h0
  rcases hh tup hheld with hend | hheld
  · exact .inl hend
  · exact .inr ⟨hheld, fun hadd ht => hpre ▸ addTable_restores hadd hit hheld (hpre ▸ ht) ht0⟩

theorem acceptingEnv_refusesNull : acceptingEnv.RefusesNull where
  add _ _ := rfl
  query _ _ := rfl
  tbl _ _ n _ hdl h := by
    simp only [acceptingEnv] at h
    split at h
    · simp at h
    · simp only [Prod.mk.injEq, Option.some.injEq] at h
      rw [← h.2]
      decide

/-- A connection is made, and the WAN goes down. -/
def wanDownOps : List NatOp := [.addTable 20, .addEntry sampleEntry, .deleteTable 20]

theorem wan_down_run_sample :
    let s := sampleInit.run acceptingEnv wanDownOps
    Held (s.run acceptingEnv [.updatePwrSaveIf 10]) sampleEntry.tuple := by
  have hr : TablelessRun acceptingEnv (sampleInit.run acceptingEnv wanDownOps) [.updatePwrSaveIf 10]
      ((sampleInit.run acceptingEnv wanDownOps).run acceptingEnv [.updatePwrSaveIf 10]) :=
    .cons ⟨by decide, fun _ _ h => (nomatch h), rfl, by decide⟩ (.nil _)
  have hh : Held (sampleInit.run acceptingEnv wanDownOps) sampleEntry.tuple := ⟨0, by decide, by decide⟩
  rcases wan_down_run acceptingEnv_refusesNull rfl (by decide) hr hh with ⟨op, hm, hend⟩ | h
  · rw [List.mem_singleton.mp hm] at hend
    exact hend.elim
  · exact h.1

/-- Leaving power save, or the arrival of a neighbour address, with no table loses the connection. -/
theorem wan_down_lost :
    let s := sampleInit.run acceptingEnv wanDownOps
    s.natTableHdl = 0 ∧ Held s sampleEntry.tuple ∧ ¬ Held (s.run acceptingEnv [.resetPwrSaveIf 10]) sampleEntry.tuple := by
  refine ⟨by decide, ⟨0, by decide, by decide⟩, ?_⟩
  have hc : ((sampleInit.run acceptingEnv wanDownOps).run acceptingEnv [.resetPwrSaveIf 10]).cache = [zero, zero] := by
    decide
  rintro ⟨i, hz, -⟩
  rw [slot, hc] at hz
  rcases i with _ | _ | i <;> exact hz rfl

end NatApp
end HiaeCommon
