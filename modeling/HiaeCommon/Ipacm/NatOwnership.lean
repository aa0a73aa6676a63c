/-
Who owns a rule in the hardware: the cache (`IPACM_Conntrack_NATApp.cpp`)
over a driver that is a map from rule handles to rules, and in which a failing
call changes nothing.

The two agree (`Ownership`) in every run in which no call `DeleteEntry` makes
fails. `DeleteEntry` only logs such a failure and blanks its slot all the
same, which forgets the handle of a rule the driver still holds.
-/
import HiaeCommon.Lib.Ownership
import HiaeCommon.Ipacm.NatCache

namespace HiaeCommon

open NatTableEntry (zero)

/-- The driver: the handle of its table (0 for none), the rules by handle, the
calls answered so far, and whether a deletion ever named a handle that was not
live. `rest` is the state of everything else `NatApp` calls. -/
structure MapDrv (ρ : Type) where
  tbl : BitVec 32
  rules : BitVec 32 → Option IpaNatIpv4Rule
  calls : Nat
  stray : Bool
  rest : ρ

namespace MapDrv

variable {ρ : Type}

def called (d : MapDrv ρ) : MapDrv ρ := { d with calls := d.calls + 1 }

/-- The table `t` is this driver's. -/
def has (d : MapDrv ρ) (t : BitVec 32) : Bool := t != 0 && t == d.tbl

/-- `answer n` is what the `n`-th call meets: `none` is a failure, `some h`
lets it through, with `h` for the handle where it hands one out. A handle that
is zero or taken is refused. -/
def env (answer : Nat → Option (BitVec 32)) (rest : NatEnv ρ) : NatEnv (MapDrv ρ) where
  addIpv4Tbl d _ n :=
    match answer d.calls with
    | none => (d.called, none)
    | some h =>
      if d.tbl = 0 ∧ n ≠ 0 ∧ h ≠ 0 then ({ d.called with tbl := h, rules := fun _ => none }, some h)
      else (d.called, none)
  delIpv4Tbl d t :=
    if (answer d.calls).isSome && d.has t then ({ d.called with tbl := 0, rules := fun _ => none }, true)
    else (d.called, false)
  addIpv4Rule d t rule :=
    match answer d.calls with
    | none => (d.called, none)
    | some h =>
      if d.has t ∧ h ≠ 0 ∧ d.rules h = none then
        ({ d.called with rules := Function.update d.rules h (some rule) }, some h)
      else (d.called, none)
  delIpv4Rule d t h :=
    if (d.rules h).isNone then ({ d.called with stray := true }, false)
    else if (answer d.calls).isSome && d.has t then
      ({ d.called with rules := Function.update d.rules h none }, true)
    else (d.called, false)
  queryTimestamp d t h := let r := rest.queryTimestamp d.rest t h; ({ d with rest := r.1 }, r.2)
  ctUpdate d a := let r := rest.ctUpdate d.rest a; ({ d with rest := r.1 }, r.2)
  readUdpTimeout d := let r := rest.readUdpTimeout d.rest; ({ d with rest := r.1 }, r.2)
  readTcpTimeout d := let r := rest.readTcpTimeout d.rest; ({ d with rest := r.1 }, r.2)

def init (rest : ρ) : MapDrv ρ := ⟨0, fun _ => none, 0, false, rest⟩

variable {answer : Nat → Option (BitVec 32)} {rest : NatEnv ρ} {d d' : MapDrv ρ} {t h : BitVec 32}

theorem has_iff : d.has t = true ↔ t ≠ 0 ∧ t = d.tbl := by simp [has]

theorem addIpv4Tbl_some {ip n} (heq : (env answer rest).addIpv4Tbl d ip n = (d', some h)) :
    d.tbl = 0 ∧ h ≠ 0 ∧ d' = { d.called with tbl := h, rules := fun _ => none } := by
  simp only [env] at heq
  split at heq
  · simp at heq
  · split at heq
    next hg =>
      simp only [Prod.mk.injEq, Option.some.injEq] at heq
      obtain ⟨rfl, rfl⟩ := heq
      exact ⟨hg.1, hg.2.2, rfl⟩
    · simp at heq

theorem addIpv4Tbl_none {ip n} (heq : (env answer rest).addIpv4Tbl d ip n = (d', none)) : d' = d.called := by
  simp only [env] at heq
  split at heq
  · simp_all
  · split at heq <;> simp_all

theorem delIpv4Tbl_true (heq : (env answer rest).delIpv4Tbl d t = (d', true)) :
    d' = { d.called with tbl := 0, rules := fun _ => none } := by
  simp only [env] at heq
  split at heq <;> simp_all

theorem delIpv4Tbl_false (heq : (env answer rest).delIpv4Tbl d t = (d', false)) : d' = d.called := by
  simp only [env] at heq
  split at heq <;> simp_all

theorem addIpv4Rule_some {rule} (heq : (env answer rest).addIpv4Rule d t rule = (d', some h)) :
    d.has t ∧ d.rules h = none ∧ d' = { d.called with rules := Function.update d.rules h (some rule) } := by
  simp only [env] at heq
  split at heq
  · simp at heq
  · split at heq
    next hg =>
      simp only [Prod.mk.injEq, Option.some.injEq] at heq
      obtain ⟨rfl, rfl⟩ := heq
      exact ⟨hg.1, hg.2.2, rfl⟩
    · simp at heq

theorem addIpv4Rule_none {rule} (heq : (env answer rest).addIpv4Rule d t rule = (d', none)) : d' = d.called := by
  simp only [env] at heq
  split at heq
  · simp_all
  · split at heq <;> simp_all

theorem delIpv4Rule_true (heq : (env answer rest).delIpv4Rule d t h = (d', true)) :
    d' = { d.called with rules := Function.update d.rules h none } := by
  simp only [env] at heq
  split at heq
  · simp at heq
  · split at heq <;> simp_all

theorem delIpv4Rule_false (hl : (d.rules h).isSome) (heq : (env answer rest).delIpv4Rule d t h = (d', false)) :
    d' = d.called ∧ (answer d.calls = none ∨ d.has t = false) := by
  simp only [env] at heq
  rw [if_neg (by simpa using Option.isSome_iff_ne_none.mp hl)] at heq
  split at heq
  · simp at heq
  next hg =>
    simp only [Prod.mk.injEq, and_true] at heq
    refine ⟨heq.symm, ?_⟩
    simp only [Bool.and_eq_true, not_and, Bool.not_eq_true, Option.isSome_iff_ne_none] at hg
    by_cases ha : answer d.calls = none
    · exact .inl ha
    · exact .inr (hg ha)

/-- The deletion of a rule is counted as a call. -/
theorem calls_delIpv4Rule (t h) : ((env answer rest).delIpv4Rule d t h).1.calls = d.calls + 1 := by
  simp only [env]; split <;> [rfl; (split <;> rfl)]

end MapDrv

/-- The resource an entry holds: its handle and the rule behind it. -/
def NatTableEntry.own (e : NatTableEntry) : Option (BitVec 32 × IpaNatIpv4Rule) :=
  if e.enabled then some (e.ruleHdl, e.natRule) else none

theorem NatTableEntry.own_eq_none {e : NatTableEntry} (h : e.enabled = false) : e.own = none := by simp [own, h]
theorem NatTableEntry.own_eq_some {e : NatTableEntry} (h : e.enabled = true) :
    e.own = some (e.ruleHdl, e.natRule) := by simp [own, h]

/-- The call may run `DeleteEntry`. -/
def NatOp.mayDeleteEntry : NatOp → Bool
  | .deleteEntry _ | .updateUDPTimeStamp => true
  | _ => false

namespace NatApp

open Function (update)
open Lib (Exact)

variable {ρ : Type} {answer : Nat → Option (BitVec 32)} {rest : NatEnv ρ}

/-- The cache and the driver agree on the table, and on who holds which rule. -/
structure Ownership (s : NatApp (MapDrv ρ)) : Prop where
  tbl : s.drv.tbl = s.natTableHdl
  off : s.natTableHdl = 0 → ∀ i, (s.slot i).own = none
  exact : Exact (fun i => (s.slot i).own) s.drv.rules
  stray : s.drv.stray = false

/-- Nothing the agreement is about has changed. -/
theorem Ownership.of_eq {s t : NatApp (MapDrv ρ)} (h : Ownership s) (hown : ∀ i, (t.slot i).own = (s.slot i).own)
    (ht : t.natTableHdl = s.natTableHdl) (hd : t.drv.tbl = s.drv.tbl) (hr : t.drv.rules = s.drv.rules)
    (hs : t.drv.stray = s.drv.stray) : Ownership t where
  tbl := by rw [hd, ht, h.tbl]
  off h0 i := by rw [hown]; exact h.off (ht ▸ h0) i
  exact := by rw [funext hown, hr]; exact h.exact
  stray := hs.trans h.stray

theorem own_setSlot {s : NatApp (MapDrv ρ)} {cnt : Nat} (hlt : cnt < s.maxEntries) (e : NatTableEntry)
    (drv : MapDrv ρ) : (fun i => (({ s with drv }.setSlot cnt e).slot i).own) = update (fun i => (s.slot i).own) cnt e.own := by
  funext i
  rw [slot_setSlot]
  by_cases hi : i = cnt
  · subst hi
    simp [hlt]
  · simp [hi]

/-- A slot that holds nothing takes a rule the driver has just stored. -/
theorem Ownership.alloc {s : NatApp (MapDrv ρ)} (h : Ownership s) {cnt : Nat} {e : NatTableEntry} {drv ruleHdl}
    (hlt : cnt < s.maxEntries) (hn : (s.slot cnt).own = none) (he : e.own = some (ruleHdl, e.natRule))
    (hadd : (MapDrv.env answer rest).addIpv4Rule s.drv s.natTableHdl e.natRule = (drv, some ruleHdl)) :
    Ownership ({ s with drv }.setSlot cnt e) := by
  obtain ⟨hhas, hfresh, rfl⟩ := MapDrv.addIpv4Rule_some hadd
  refine ⟨h.tbl, fun h0 => absurd h0 (MapDrv.has_iff.mp hhas).1, ?_, h.stray⟩
  rw [own_setSlot hlt, he]
  exact h.exact.alloc _ hn hfresh

/-- A slot gives up its rule, which the driver has just deleted. -/
theorem Ownership.free {s : NatApp (MapDrv ρ)} (h : Ownership s) {cnt : Nat} {e : NatTableEntry} {drv}
    (hen : (s.slot cnt).enabled = true) (he : e.own = none)
    (hdel : (MapDrv.env answer rest).delIpv4Rule s.drv s.natTableHdl (s.slot cnt).ruleHdl = (drv, true)) :
    Ownership ({ s with drv }.setSlot cnt e) := by
  rw [MapDrv.delIpv4Rule_true hdel]
  refine ⟨h.tbl, fun h0 i => ?_, ?_, h.stray⟩
  · have := h.off h0 cnt
    simp [NatTableEntry.own_eq_some hen] at this
  · rw [own_setSlot (enabled_lt hen), he]
    exact h.exact.free (NatTableEntry.own_eq_some hen)

/-- A slot that holds nothing is rewritten with something that holds nothing. -/
theorem Ownership.setSlot {s : NatApp (MapDrv ρ)} (h : Ownership s) {cnt : Nat} {e : NatTableEntry}
    (he : e.own = (s.slot cnt).own) : Ownership (s.setSlot cnt e) := by
  refine h.of_eq (fun i => ?_) rfl rfl rfl rfl
  rw [slot_setSlot]
  split
  next hi => rw [he, hi.1]
  · rfl

theorem Ownership.curCnt {s : NatApp (MapDrv ρ)} (h : Ownership s) (n : Int) : Ownership { s with curCnt := n } :=
  h.of_eq (fun _ => rfl) rfl rfl rfl rfl

theorem Ownership.called {s : NatApp (MapDrv ρ)} (h : Ownership s) : Ownership { s with drv := s.drv.called } :=
  h.of_eq (fun _ => rfl) rfl rfl rfl rfl

/-- An enabled entry's deletion is one of a live rule, under the driver's table. -/
theorem Ownership.delete {s : NatApp (MapDrv ρ)} (h : Ownership s) {cnt : Nat} (hen : (s.slot cnt).enabled = true) :
    (s.drv.rules (s.slot cnt).ruleHdl).isSome ∧ s.drv.has s.natTableHdl = true := by
  have hown := NatTableEntry.own_eq_some hen
  refine ⟨by rw [h.exact.live_of_own cnt _ _ hown]; rfl, MapDrv.has_iff.mpr ⟨fun h0 => ?_, h.tbl.symm⟩⟩
  simp [h.off h0 cnt] at hown

theorem QuietCall.ownership {s : NatApp (MapDrv ρ)} {drv} (hq : QuietCall (MapDrv.env answer rest) s drv)
    (h : Ownership s) : Ownership { s with drv } := by
  cases hq with
  | addRefused hc => rw [MapDrv.addIpv4Rule_none hc]; exact h.called
  | delRefused i he hc => rw [(MapDrv.delIpv4Rule_false (h.delete he).1 hc).1]; exact h.called
  | tblKept hc => rw [MapDrv.delIpv4Tbl_false hc]; exact h.called
  | query | ct | udp | tcp => exact h.of_eq (fun _ => rfl) rfl rfl rfl rfl

theorem Restores.own {op : NatOp} {s₀ s : NatApp (MapDrv ρ)} {cnt : Nat} (h : Restores op s₀ s cnt)
    (h₀ : Ownership s₀) (hop : ∀ ip, op = .addTable ip → s₀.natTableHdl = 0) : (s.slot cnt).own = none := by
  rcases h with ⟨hop', hs, -, -⟩ | ⟨ip, -, -, -, -, -, he⟩
  · rw [hs]
    exact h₀.off (hop _ hop') cnt
  · exact NatTableEntry.own_eq_none he

/-- `DeleteEntry` on slot `cnt`, when its driver call, if it makes one, goes through. -/
theorem Ownership.delRule {s : NatApp (MapDrv ρ)} (h : Ownership s) {cnt : Nat}
    (ha : (s.slot cnt).enabled = true → answer s.drv.calls ≠ none) :
    Ownership ((s.delRule (MapDrv.env answer rest) cnt).clearSlot cnt) := by
  by_cases hen : (s.slot cnt).enabled = true
  · rw [NatApp.delRule, if_pos hen]
    rcases hdel : (MapDrv.env answer rest).delIpv4Rule s.drv s.natTableHdl (s.slot cnt).ruleHdl with ⟨drv, _ | _⟩
    · obtain ⟨hl, hhas⟩ := h.delete hen
      rcases (MapDrv.delIpv4Rule_false hl hdel).2 with hf | hf
      · exact absurd hf (ha hen)
      · simp [hhas] at hf
    · exact (h.free hen (NatTableEntry.own_eq_none NatTableEntry.enabled_zero) hdel).curCnt _
  · have hoff : (s.slot cnt).own = none := NatTableEntry.own_eq_none (by simpa using hen)
    rw [NatApp.delRule, if_neg hen]
    exact (h.setSlot (e := zero) hoff.symm).curCnt _

variable {op : NatOp} {s₀ s t : NatApp (MapDrv ρ)}

/-- **No edit breaks the agreement**, of a call that began in it, provided
`AddTable` is called without a table and no driver call made for `DeleteEntry` fails. -/
theorem Edit.ownership (he : Edit (MapDrv.env answer rest) op s₀ s t) (h₀ : Ownership s₀) (h : Ownership s)
    (hi : Integrity s) (hop : ∀ ip, op = .addTable ip → s₀.natTableHdl = 0)
    (hdel : op.mayDeleteEntry → ∀ n, s.drv.calls ≤ n → n < t.drv.calls → answer n ≠ none) : Ownership t := by
  have free : ∀ {rule cnt}, Stores op s rule cnt → (s.slot cnt).own = none := fun hst => by
    rw [hi.slot_eq_zero (freeSlot_some hst.free).2]
    rfl
  cases he with
  | other | tblNamed => exact h.of_eq (fun _ => rfl) rfl rfl rfl rfl
  | call hq => exact hq.ownership h
  | listed => rw [listPwrSaveIf_eq]; exact h.of_eq (fun _ => rfl) rfl rfl rfl rfl
  | unlisted => rw [unlistPwrSaveIf_eq]; exact h.of_eq (fun _ => rfl) rfl rfl rfl rfl
  | stamp => exact h.setSlot rfl
  | tblRefused hop' hs hc =>
    subst hs
    have h0 := hop _ hop'
    rw [MapDrv.addIpv4Tbl_none hc]
    exact h.of_eq (fun _ => rfl) (by simp [h0]) rfl rfl rfl
  | tblAdded hop' hs hc =>
    obtain ⟨htbl, hne, rfl⟩ := MapDrv.addIpv4Tbl_some hc
    have hnone := h.off (h.tbl ▸ htbl)
    refine ⟨rfl, fun h0 => absurd h0 hne, ?_, h.stray⟩
    have : (fun i => (s.slot i).own) = fun _ => none := funext hnone
    exact this ▸ Exact.empty
  | @tblDeleted drv hop' ht hc =>
    rw [MapDrv.delIpv4Tbl_true hc]
    have hnone : ∀ i, ((reset { s with drv := { s.drv.called with tbl := 0, rules := fun _ => none }
                                       pubIpAddrPre := s.pubIpAddr }).slot i).own = none := fun i => by
      rw [slot_reset]
      exact NatTableEntry.own_eq_none (NatTableEntry.enabled_disable _)
    refine ⟨by rw [reset_eq], fun _ => hnone, ?_, ?_⟩
    · rw [funext hnone, reset_eq]
      exact Exact.empty
    · rw [reset_eq]
      exact h.stray
  | restored hr hc =>
    exact h.alloc (slot_lt hr.occupied) (hr.own h₀ hop) rfl hc
  | lost hr hlt hc =>
    rw [MapDrv.addIpv4Rule_none hc]
    exact (h.called.setSlot (e := zero) (hr.own h₀ hop).symm).curCnt _
  | cached hst ht ho hd =>
    exact (h.setSlot ((NatTableEntry.own_eq_none hd).trans (free hst).symm)).curCnt _
  | added hst htbl hp hc =>
    exact (h.alloc (e := addedEntry _ _ _ _) hst.slot_lt (free hst) rfl hc).curCnt _
  | disabled hen hc => exact h.free hen rfl hc
  | @dropped cnt hd hlt =>
    refine h.delRule fun hen => hdel ?_ _ (Nat.le_refl _) ?_
    · rcases hd with ⟨rule, rfl, -⟩ | ⟨j, rfl, -⟩ <;> rfl
    · simp [clearSlot, NatApp.delRule, hen, MapDrv.calls_delIpv4Rule]
  | left hop' hip ht hd =>
    exact (h.setSlot (e := zero) (NatTableEntry.own_eq_none hd).symm).curCnt _

theorem QuietCall.calls_le {drv} (hq : QuietCall (MapDrv.env answer rest) s drv) : s.drv.calls ≤ drv.calls := by
  cases hq with
  | addRefused hc => rw [MapDrv.addIpv4Rule_none hc]; exact Nat.le_succ _
  | delRefused i he hc =>
    rw [show drv = _ from (congrArg Prod.fst hc).symm, MapDrv.calls_delIpv4Rule]
    exact Nat.le_succ _
  | tblKept hc => rw [MapDrv.delIpv4Tbl_false hc]; exact Nat.le_succ _
  | query | ct | udp | tcp => exact Nat.le_refl _

theorem Edit.calls_le (he : Edit (MapDrv.env answer rest) op s₀ s t) : s.drv.calls ≤ t.drv.calls := by
  cases he with
  | other | tblNamed | stamp | cached | left => exact Nat.le_refl _
  | listed => exact Nat.le_of_eq (by rw [listPwrSaveIf_eq])
  | unlisted => exact Nat.le_of_eq (by rw [unlistPwrSaveIf_eq])
  | call hq => exact hq.calls_le
  | tblRefused _ _ hc => rw [MapDrv.addIpv4Tbl_none hc]; exact Nat.le_succ _
  | tblAdded _ _ hc => rw [(MapDrv.addIpv4Tbl_some hc).2.2]; exact Nat.le_succ _
  | tblDeleted _ _ hc => rw [MapDrv.delIpv4Tbl_true hc, reset_eq]; exact Nat.le_succ _
  | restored _ hc => rw [(MapDrv.addIpv4Rule_some hc).2.2]; exact Nat.le_succ _
  | lost _ _ hc => rw [MapDrv.addIpv4Rule_none hc]; exact Nat.le_succ _
  | added _ _ _ hc => rw [(MapDrv.addIpv4Rule_some hc).2.2]; exact Nat.le_succ _
  | disabled _ hc => rw [MapDrv.delIpv4Rule_true hc]; exact Nat.le_succ _
  | dropped =>
    simp only [clearSlot, NatApp.delRule]
    split
    · rw [MapDrv.calls_delIpv4Rule]; exact Nat.le_succ _
    · exact Nat.le_refl _

/-- The driver calls of one step that `DeleteEntry` makes (in a step that
runs it, no other code calls the driver) all go through. -/
def DeletesGoThrough (answer : Nat → Option (BitVec 32)) (rest : NatEnv ρ) (s : NatApp (MapDrv ρ)) (op : NatOp) : Prop :=
  op.mayDeleteEntry → ∀ n, s.drv.calls ≤ n → n < (s.step (MapDrv.env answer rest) op).drv.calls → answer n ≠ none

/-- `AddTable` is called only when there is no table. -/
def TableFirst (s : NatApp (MapDrv ρ)) (op : NatOp) : Prop := ∀ ip, op = .addTable ip → s.natTableHdl = 0

theorem Edits.ownership (he : Edits (MapDrv.env answer rest) op s₀ s₀ t) (h₀ : Ownership s₀) (hi : Integrity s₀)
    (hop : TableFirst s₀ op)
    (hdel : op.mayDeleteEntry → ∀ n, s₀.drv.calls ≤ n → n < t.drv.calls → answer n ≠ none) :
    Ownership t ∧ s₀.drv.calls ≤ t.drv.calls := by
  induction he with
  | refl => exact ⟨h₀, Nat.le_refl _⟩
  | tail hs he ih =>
    have hle := he.calls_le
    obtain ⟨h, hle₀⟩ := ih fun hm n h1 h2 => hdel hm n h1 (Nat.lt_of_lt_of_le h2 hle)
    exact ⟨he.ownership h₀ h (Edits.integrity hs hi) hop fun hm n h1 h2 => hdel hm n (Nat.le_trans hle₀ h1) h2,
      Nat.le_trans hle₀ hle⟩

theorem init_ownership (n algPorts pre tcp udp pwr) (rest : ρ) :
    Ownership (init n algPorts pre tcp udp pwr (MapDrv.init rest)) := by
  have hnone : ∀ i, ((init n algPorts pre tcp udp pwr (MapDrv.init rest)).slot i).own = none := fun i => by
    rw [show (init n algPorts pre tcp udp pwr (MapDrv.init rest)).slot i = zero by
      simp only [init, slot, List.getD_eq_getElem?_getD, List.getElem?_replicate]
      split <;> rfl]
    rfl
  refine ⟨rfl, fun _ => hnone, ?_, rfl⟩
  rw [funext hnone]
  exact Exact.empty

/-- A run of calls in which `AddTable` finds no table and no driver call of
`DeleteEntry` fails. -/
abbrev OwningRun (answer : Nat → Option (BitVec 32)) (rest : NatEnv ρ) :
    NatApp (MapDrv ρ) → List NatOp → NatApp (MapDrv ρ) → Prop :=
  Lib.Run fun s op t => TableFirst s op ∧ DeletesGoThrough answer rest s op ∧ t = s.step (MapDrv.env answer rest) op

/-- **Every rule in the hardware has exactly one owner in the cache**, after
any run in which no driver call of `DeleteEntry` fails, whatever else fails. -/
theorem ownership_run {answer : Nat → Option (BitVec 32)} {rest : NatEnv ρ} {n algPorts pre tcp udp pwr} {r : ρ}
    {ops : List NatOp} {s : NatApp (MapDrv ρ)}
    (h : OwningRun answer rest (init n algPorts pre tcp udp pwr (MapDrv.init r)) ops s) : 
    (∀ i, (s.slot i).enabled = true → s.drv.rules (s.slot i).ruleHdl = some (s.slot i).natRule) ∧
    (∀ i j, (s.slot i).enabled = true → (s.slot j).enabled = true → (s.slot i).ruleHdl = (s.slot j).ruleHdl → i = j) ∧
    (∀ hdl, (s.drv.rules hdl).isSome → ∃ i, (s.slot i).enabled = true ∧ (s.slot i).ruleHdl = hdl) ∧
    s.drv.stray = false := by
  obtain ⟨hown, -⟩ := h.invariant (fun s => Ownership s ∧ Integrity s)
    (fun s op t ⟨htbl, hdel, ht⟩ ⟨ho, hi⟩ => by
      subst ht
      have he := step_edits (MapDrv.env answer rest) s op
      exact ⟨(Edits.ownership he ho hi htbl hdel).1, Edits.integrity he hi⟩)
    ⟨init_ownership .., init_integrity ..⟩
  refine ⟨fun i hi => hown.exact.live_of_own i _ _ (NatTableEntry.own_eq_some hi), fun i j hi hj hij => ?_,
    fun hdl hl => ?_, hown.stray⟩
  · exact hown.exact.inj i j _ _ _ (NatTableEntry.own_eq_some hi) (hij ▸ NatTableEntry.own_eq_some hj)
  · obtain ⟨rule, hr⟩ := Option.isSome_iff_exists.mp hl
    obtain ⟨i, hi⟩ := hown.exact.own_of_live hdl rule hr
    simp only [NatTableEntry.own] at hi
    split at hi
    next hen => exact ⟨i, hen, by simpa using congrArg (·.map Prod.fst) hi⟩
    · simp at hi

/-- The answers of a driver that lets every call through but the third. -/
def thirdFails (n : Nat) : Option (BitVec 32) := if n = 2 then none else some (BitVec.ofNat 32 (n + 1))

/-- Two slots, no table. -/
def sampleStart : NatApp (MapDrv Unit) :=
  init 2 [] 0 0 0 (List.replicate ipaMaxNumWifiClients 0) (MapDrv.init ())

theorem ownership_run_sample :
    let s := sampleStart.run (MapDrv.env thirdFails acceptingEnv)
      [.addTable 20, .addEntry sampleEntry, .updatePwrSaveIf 10]
    s.drv.rules 2 = some sampleEntry.natRule ∧ ∃ i, (s.slot i).enabled = true ∧ (s.slot i).ruleHdl = 2 := by
  have hr : OwningRun thirdFails acceptingEnv sampleStart [.addTable 20, .addEntry sampleEntry, .updatePwrSaveIf 10]
      (sampleStart.run (MapDrv.env thirdFails acceptingEnv)
        [.addTable 20, .addEntry sampleEntry, .updatePwrSaveIf 10]) :=
    .cons ⟨fun _ _ => rfl, fun h => (nomatch h), rfl⟩ (.cons ⟨fun _ h => (nomatch h), fun h => (nomatch h), rfl⟩
      (.cons ⟨fun _ h => (nomatch h), fun h => (nomatch h), rfl⟩ (.nil _)))
  exact ⟨by decide, (ownership_run hr).2.2.1 2 (by decide)⟩

/-- Where a driver call of `DeleteEntry` fails, the rule is left without an owner. -/
theorem Ownership.deleteEntry_leaks {rule : NatTableEntry} {cnt : Nat} (h : Ownership s)
    (hf : s.findSlot rule = some cnt) (hen : (s.slot cnt).enabled = true) (ha : answer s.drv.calls = none) :
    ¬ Ownership (s.deleteEntry (MapDrv.env answer rest) rule).1 := by
  intro hown
  have hl := h.exact.live_of_own cnt _ _ (NatTableEntry.own_eq_some hen)
  have hdel : (MapDrv.env answer rest).delIpv4Rule s.drv s.natTableHdl (s.slot cnt).ruleHdl = (s.drv.called, false) := by
    simp [MapDrv.env, hl, ha]
  have hst : (s.deleteEntry (MapDrv.env answer rest) rule).1 = { s with drv := s.drv.called }.clearSlot cnt := by
    simp [deleteEntry, hf, NatApp.delRule, hen, hdel]
  rw [hst] at hown
  obtain ⟨i, hi⟩ := hown.exact.own_of_live _ _ hl
  rw [slot_clearSlot] at hi
  split at hi
  · simp [NatTableEntry.own] at hi
  next hne => exact hne (h.exact.inj i cnt _ _ _ hi (NatTableEntry.own_eq_some hen))

theorem ownership_lost :
    let s := sampleStart.run (MapDrv.env thirdFails acceptingEnv)
      [.addTable 20, .addEntry sampleEntry, .deleteEntry sampleEntry]
    s.drv.rules 2 = some sampleEntry.natRule ∧ ∀ i, (s.slot i).enabled = false := by
  refine ⟨by decide, fun i => ?_⟩
  have hc : (sampleStart.run (MapDrv.env thirdFails acceptingEnv)
      [.addTable 20, .addEntry sampleEntry, .deleteEntry sampleEntry]).cache = [zero, zero] := by decide
  rw [slot, hc]
  rcases i with _ | _ | i <;> rfl

end NatApp
end HiaeCommon
