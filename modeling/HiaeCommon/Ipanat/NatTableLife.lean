/-
The life of a table (`ipa_nat_add_ipv4_tbl`, `ipa_nat_del_ipv4_tbl`): the
driver's cache `ipv4_nat_cache` through calls whose system calls may fail.
`SysCalls` says of each system call what it would return; the mutex is taken
and given back without fail.
-/
import HiaeCommon.Ipanat.NatSession
import Mathlib.Data.Fintype.Card

namespace HiaeCommon

open Function (update)

/-- The error numbers of the driver. -/
def eio : Int := 5
def enomem : Int := 12
def einval : Int := 22

/-- `NAT_DEV_NAME` and `NAT_DEV_FULL_NAME`. -/
def natDevName : String := "ipaNatTable"
def natDevFullName : String := "/dev/ipaNatTable"

/-- `ipa_nat_ip4_table_cache`: an element of `ip4_tbl`. An address is `none` while it is
NULL; an array carries its elements. -/
structure Ip4TblSlot where
  valid : Bool := false
  publicAddr : BitVec 32 := 0
  natFd : Nat := 0
  size : Nat := 0
  tblAddrOffset : Nat := 0
  tableName : String := ""
  ipv4RulesAddr : Option Nat := none
  indexTableAddr : Option Nat := none
  tableEntries : Nat := 0
  ipv4ExpnRulesAddr : Option Nat := none
  indexTableExpnAddr : Option Nat := none
  expnTableEntries : Nat := 0
  indexExpnTableMeta : Option (List Nat) := none
  ruleIdArray : Option (List Nat) := none
  curTblCnt : Nat := 0
  curExpnTblCnt : Nat := 0
  deriving DecidableEq, Repr

/-- `ipa_nat_cache`. -/
structure IpaNatCache where
  ip4Tbl : Fin ipaNatMaxIp4Tbls → Ip4TblSlot
  ipaFd : Nat
  tableCnt : BitVec 8

/-- `ipa_ioc_nat_alloc_mem`. -/
structure AllocMem where
  devName : String := ""
  size : Nat := 0
  offset : Nat := 0

/-- What each system call of one call returns: a descriptor, an address or an offset, or
`none` where it fails. What `munmap` returns is not looked at. -/
structure SysCalls where
  openIpa : Option Nat
  allocNatMem : Option Nat
  mallocMeta : Bool
  mallocRuleId : Bool
  openNat : Option Nat
  mmap : Option Nat
  initNat : Bool
  close : Bool
  delNat : Bool

/-- Every system call after the allocation of the memory does what it is made for. -/
def SysCalls.Completes (sys : SysCalls) : Prop :=
  sys.mallocMeta = true ∧ sys.mallocRuleId = true ∧ sys.openNat ≠ none ∧ sys.mmap ≠ none ∧ sys.initNat = true

/-- How a call ends: it returns, it reaches for an element `ip4_tbl` does not have, or a
write through NULL ends the process. -/
inductive Outcome (α : Type)
  | returned (ret : α) (cache : IpaNatCache)
  | outOfRange
  | killed (cache : IpaNatCache)

/-- What follows a call that returns. -/
def Outcome.bind {α β : Type} (x : Outcome α) (f : α → IpaNatCache → Outcome β) : Outcome β :=
  match x with
  | .returned ret cache => f ret cache
  | .outOfRange => .outOfRange
  | .killed cache => .killed cache

@[simp] theorem Outcome.bind_returned {α β : Type} (ret : α) (c : IpaNatCache) (f : α → IpaNatCache → Outcome β) :
    (Outcome.returned ret c).bind f = f ret c := rfl

@[simp] theorem Outcome.bind_outOfRange {α β : Type} (f : α → IpaNatCache → Outcome β) :
    (Outcome.outOfRange : Outcome α).bind f = .outOfRange := rfl

@[simp] theorem Outcome.bind_killed {α β : Type} (c : IpaNatCache) (f : α → IpaNatCache → Outcome β) :
    (Outcome.killed c : Outcome α).bind f = .killed c := rfl

theorem Outcome.bind_assoc {α β γ : Type} (x : Outcome α) (f : α → IpaNatCache → Outcome β)
    (g : β → IpaNatCache → Outcome γ) : (x.bind f).bind g = x.bind fun ret c => (f ret c).bind g := by
  cases x <;> rfl

/-! ## One table -/

namespace Ip4TblSlot

/-- The first stores of `ipa_nati_update_cache`. -/
def marked (s : Ip4TblSlot) (mem : AllocMem) (publicAddr : BitVec 32) (tblEntries expnTblEntries : Nat) : Ip4TblSlot :=
  { s with
    valid := true
    publicAddr
    size := mem.size
    tblAddrOffset := mem.offset
    tableEntries := tblEntries
    expnTableEntries := expnTblEntries }

/-- `p` unless it is NULL, else `n` cleared elements where there is memory. -/
def allocated (p : Option (List Nat)) (malloc : Bool) (n : Nat) : Option (List Nat) :=
  match p with
  | some a => some a
  | none => if malloc then some (List.replicate n 0) else none

/-- `ipa_nati_update_cache`, on the table it fills in. A failing `malloc` leaves it by
`return 0`, as success does. -/
def updateCache (s : Ip4TblSlot) (mem : AllocMem) (publicAddr : BitVec 32) (tblEntries expnTblEntries : Nat)
    (sys : SysCalls) : Int × Ip4TblSlot :=
  let s := s.marked mem publicAddr tblEntries expnTblEntries
  match allocated s.indexExpnTableMeta sys.mallocMeta expnTblEntries with
  | none => (0, s)
  | some tblMeta =>
    let s := { s with indexExpnTableMeta := some tblMeta }
    match allocated s.ruleIdArray sys.mallocRuleId (tblEntries + expnTblEntries) with
    | none => (0, s)
    | some ids =>
      let s := { s with ruleIdArray := some ids }
      match sys.openNat with
      | none => (-eio, s)
      | some fd =>
        let s := { s with tableName := natDevFullName, natFd := fd }
        match sys.mmap with
        | none => (-einval, s)
        | some addr => (0, { s with
            ipv4RulesAddr := some addr
            ipv4ExpnRulesAddr := some (addr + ipaNatTableEntrySize * tblEntries)
            indexTableAddr := some (addr + ipaNatTableEntrySize * (tblEntries + expnTblEntries))
            indexTableExpnAddr := some (addr + ipaNatTableEntrySize * (tblEntries + expnTblEntries) +
              ipaNatIndexTableEntrySize * tblEntries) })

/-- `memset` over `n` entries from `addr` on writes through no NULL. -/
def clears (addr : Option Nat) (n : Nat) : Bool := n == 0 || addr.isSome

/-- The four `memset` of `ipa_nati_reset_tbl` do. -/
def resets (s : Ip4TblSlot) : Bool :=
  clears s.ipv4RulesAddr s.tableEntries && clears s.ipv4ExpnRulesAddr s.expnTableEntries &&
    clears s.indexTableAddr s.tableEntries && clears s.indexTableExpnAddr s.expnTableEntries

/-- The arrays have the sizes of the table. -/
structure Sized (s : Ip4TblSlot) : Prop where
  ruleIdArray : ∃ ids, s.ruleIdArray = some ids ∧ ids.length = s.tableEntries + s.expnTableEntries
  indexExpnTableMeta : ∃ tblMeta, s.indexExpnTableMeta = some tblMeta ∧ tblMeta.length = s.expnTableEntries

/-- What a table is in memory, and what the sessions with it start from. -/
structure Shows (s : Ip4TblSlot) (tbl : Ip4TableCache) : Prop where
  valid : s.valid = tbl.valid
  publicAddr : s.publicAddr = tbl.publicAddr
  tblAddrOffset : s.tblAddrOffset = tbl.tblAddrOffset
  tableEntries : s.tableEntries = tbl.tableEntries
  expnTableEntries : s.expnTableEntries = tbl.expnTableEntries
  ruleIdArray : ∀ ids, s.ruleIdArray = some ids → ∀ i (hi : i < ids.length), ids[i] = tbl.ruleIdArray i
  indexExpnTableMeta : ∀ tblMeta, s.indexExpnTableMeta = some tblMeta →
    ∀ i (hi : i < tblMeta.length), tblMeta[i] = tbl.indexExpnTableMeta i
  curTblCnt : s.curTblCnt = tbl.curTblCnt
  curExpnTblCnt : s.curExpnTblCnt = tbl.curExpnTblCnt

section UpdateCache

variable {mem : AllocMem} {pub : BitVec 32} {te ee : Nat} {sys : SysCalls}

/-- The table is marked valid whatever fails. -/
theorem updateCache_valid (s : Ip4TblSlot) (mem : AllocMem) (pub : BitVec 32) (te ee : Nat) (sys : SysCalls) :
    (s.updateCache mem pub te ee sys).2.valid = true := by
  simp only [updateCache]
  cases allocated (s.marked mem pub te ee).indexExpnTableMeta sys.mallocMeta ee with
  | none => rfl
  | some tblMeta =>
    simp only
    cases allocated (s.marked mem pub te ee).ruleIdArray sys.mallocRuleId (te + ee) with
    | none => rfl
    | some ids =>
      simp only
      cases sys.openNat with
      | none => rfl
      | some fd => cases sys.mmap <;> rfl

/-- A cleared slot is filled in where no system call fails. -/
theorem updateCache_completes (mem : AllocMem) (pub : BitVec 32) (te ee : Nat) (h : sys.Completes) :
    ∃ s, ({} : Ip4TblSlot).updateCache mem pub te ee sys = (0, s) ∧ s.valid = true ∧ s.Sized ∧ s.resets = true ∧
      s.Shows (.created pub mem.offset te ee) := by
  obtain ⟨hmeta, hids, hopen, hmmap, -⟩ := h
  obtain ⟨fd, hfd⟩ := Option.ne_none_iff_exists'.1 hopen
  obtain ⟨addr, haddr⟩ := Option.ne_none_iff_exists'.1 hmmap
  refine ⟨_, by simp only [updateCache, marked, allocated, hmeta, hids, hfd, haddr]; rfl, rfl, ?_, ?_, ?_⟩
  · exact ⟨⟨_, rfl, by simp⟩, ⟨_, rfl, by simp⟩⟩
  · simp [resets, clears]
  · exact ⟨rfl, rfl, rfl, rfl, rfl, by simp [Ip4TableCache.created], by simp [Ip4TableCache.created], rfl, rfl⟩

/-- A cleared slot where a system call fails: an error, or addresses that are NULL. -/
theorem updateCache_gives_up (mem : AllocMem) (pub : BitVec 32) (te : Nat) (sys : SysCalls) (hee : 0 < ee)
    (h : ¬(sys.mallocMeta = true ∧ sys.mallocRuleId = true ∧ sys.openNat ≠ none ∧ sys.mmap ≠ none)) :
    (({} : Ip4TblSlot).updateCache mem pub te ee sys).1 ≠ 0 ∨
      (({} : Ip4TblSlot).updateCache mem pub te ee sys).2.resets = false := by
  have hee0 : ee ≠ 0 := Nat.pos_iff_ne_zero.1 hee
  cases hmeta : sys.mallocMeta with
  | false => exact .inr (by simp [updateCache, marked, allocated, hmeta, resets, clears, hee0])
  | true =>
    cases hids : sys.mallocRuleId with
    | false => exact .inr (by simp [updateCache, marked, allocated, hmeta, hids, resets, clears, hee0])
    | true =>
      refine .inl ?_
      cases hopen : sys.openNat with
      | none => simp [updateCache, marked, allocated, hmeta, hids, hopen, eio]
      | some fd =>
        cases hmmap : sys.mmap with
        | none => simp [updateCache, marked, allocated, hmeta, hids, hopen, hmmap, einval]
        | some addr => simp [hmeta, hids, hopen, hmmap] at h

end UpdateCache

end Ip4TblSlot

/-! ## The driver -/

namespace IpaNatCache

/-- The cache as the library is loaded. -/
def init : IpaNatCache := ⟨fun _ => {}, 0, 0⟩

/-- What follows an access to `ip4_tbl[index]`. -/
def withTbl {α : Type} (index : Nat) (f : Fin ipaNatMaxIp4Tbls → Outcome α) : Outcome α :=
  if h : index < ipaNatMaxIp4Tbls then f ⟨index, h⟩ else .outOfRange

/-- `CreateNatDevice`. -/
def createNatDevice (c : IpaNatCache) (mem : AllocMem) (sys : SysCalls) : Outcome (Int × AllocMem) :=
  match sys.allocNatMem with
  | none => .returned (-einval, mem) c
  | some offset => .returned (0, { mem with offset }) c

/-- The descriptor `ipa_nati_alloc_table` works with: the one in the cache, or a new one. -/
def ipaDev (c : IpaNatCache) (sys : SysCalls) : Option Nat :=
  if c.ipaFd = 0 then sys.openIpa else some c.ipaFd

/-- `ipa_nati_alloc_table`, with the sizes it finds. -/
def natiAllocTable (c : IpaNatCache) (numberOfEntries : BitVec 16) (sys : SysCalls) :
    Outcome (Int × AllocMem × Nat × Nat) :=
  let mem : AllocMem := { devName := natDevName }
  match allocTable numberOfEntries with
  | none => .returned (-einval, mem, 0, 0) c
  | some (tableEntries, expnTableEntries) =>
    let totalEntries := u16 (tableEntries + expnTableEntries)
    let mem := { mem with
      size := ipaNatTableEntrySize * totalEntries + ipaNatIndexTableEntrySize * totalEntries }
    match c.ipaDev sys with
    | none => .returned (-eio, mem, tableEntries, expnTableEntries) c
    | some fd =>
      (createNatDevice { c with ipaFd := fd } mem sys).bind fun (ret, mem) c =>
        .returned (ret, mem, tableEntries, expnTableEntries) c

/-- `ipa_nati_update_cache`. -/
def natiUpdateCache (c : IpaNatCache) (mem : AllocMem) (publicAddr : BitVec 32) (tblEntries expnTblEntries : Nat)
    (sys : SysCalls) : Outcome Int :=
  withTbl c.tableCnt.toNat fun index =>
    let (ret, s) := (c.ip4Tbl index).updateCache mem publicAddr tblEntries expnTblEntries sys
    .returned ret { c with ip4Tbl := update c.ip4Tbl index s }

/-- `ipa_nati_reset_tbl`. -/
def natiResetTbl (c : IpaNatCache) (tblIndx : Nat) : Outcome Unit :=
  withTbl tblIndx fun index =>
    if (c.ip4Tbl index).resets then .returned () c else .killed c

/-- `ipa_nati_post_ipv4_init_cmd`. -/
def natiPostIpv4InitCmd (c : IpaNatCache) (tblIndex : Nat) (sys : SysCalls) : Outcome Int :=
  withTbl tblIndex fun _ => if sys.initNat then .returned 0 c else .returned (-einval) c

/-- `ipa_nati_add_ipv4_tbl`: the return value and `*tbl_hdl`. -/
def natiAddIpv4Tbl (c : IpaNatCache) (publicIpAddr : BitVec 32) (numberOfEntries : BitVec 16) (sys : SysCalls) :
    Outcome (Int × Nat) :=
  let tblIndx := c.tableCnt.toNat
  (c.natiAllocTable numberOfEntries sys).bind fun (ret, mem, tableEntries, expnTableEntries) c =>
  if ret ≠ 0 then .returned (-enomem, 0) c
  else (c.natiUpdateCache mem publicIpAddr tableEntries expnTableEntries sys).bind fun ret c =>
  if ret ≠ 0 then .returned (-einval, 0) c
  else (c.natiResetTbl tblIndx).bind fun () c =>
  (c.natiPostIpv4InitCmd tblIndx sys).bind fun ret c =>
  if ret ≠ 0 then .returned (-einval, 0) c
  else .returned (0, (c.tableCnt + 1).toNat) { c with tableCnt := c.tableCnt + 1 }

/-- `ipa_nat_add_ipv4_tbl`; `tblHdl` says that the pointer is not NULL. -/
def natAddIpv4Tbl (c : IpaNatCache) (publicIpAddr : BitVec 32) (numberOfEntries : BitVec 16) (tblHdl : Bool)
    (sys : SysCalls) : Outcome (Int × Nat) :=
  if tblHdl = false ∨ numberOfEntries = 0 then .returned (-einval, 0) c
  else (c.natiAddIpv4Tbl publicIpAddr numberOfEntries sys).bind fun (ret, hdl) c =>
    if ret ≠ 0 then .returned (-einval, hdl) c else .returned (ret, hdl) c

/-- `ipa_nati_del_ipv4_table`. -/
def natiDelIpv4Table (c : IpaNatCache) (tblHdl : BitVec 32) (sys : SysCalls) : Outcome Int :=
  withTbl ((tblHdl - 1).setWidth 8).toNat fun index =>
    if (c.ip4Tbl index).valid = false then .returned (-einval) c
    else if sys.close = false then .returned (-einval) c
    else if sys.delNat = false then .returned (-einval) c
    else .returned 0 { c with ip4Tbl := update c.ip4Tbl index {}, tableCnt := c.tableCnt - 1 }

/-- `ipa_nat_del_ipv4_tbl`. -/
def natDelIpv4Tbl (c : IpaNatCache) (tblHdl : BitVec 32) (sys : SysCalls) : Outcome Int :=
  if tblHdl.toNat = ipaNatInvalidNatEntry ∨ ipaNatMaxIp4Tbls < tblHdl.toNat then .returned (-einval) c
  else c.natiDelIpv4Table tblHdl sys

end IpaNatCache

/-- A call of the life of a table. -/
inductive TblCall
  | add (publicIpAddr : BitVec 32) (numberOfEntries : BitVec 16) (tblHdl : Bool)
  | del (tblHdl : BitVec 32)

namespace IpaNatCache

/-- The call made: what it returns to its caller. -/
def make (c : IpaNatCache) : TblCall → SysCalls → Outcome Int
  | .add publicIpAddr numberOfEntries tblHdl, sys =>
    (c.natAddIpv4Tbl publicIpAddr numberOfEntries tblHdl sys).bind fun (ret, _) c => .returned ret c
  | .del tblHdl, sys => c.natDelIpv4Tbl tblHdl sys

/-! ## The contract -/

/-- The table count counts the valid tables, and their arrays have their sizes. -/
structure Sound (c : IpaNatCache) : Prop where
  tableCnt_eq : c.tableCnt.toNat = (Finset.univ.filter fun i => (c.ip4Tbl i).valid = true).card
  tableCnt_le : c.tableCnt.toNat ≤ ipaNatMaxIp4Tbls
  sized : ∀ i, (c.ip4Tbl i).valid = true → (c.ip4Tbl i).Sized

/-- The contract along a run: every call stays inside `ip4_tbl` and leaves a sound cache,
the one it found where it returns an error. -/
def Keeps (c : IpaNatCache) : List (TblCall × SysCalls) → Prop
  | [] => True
  | (call, sys) :: calls =>
    match c.make call sys with
    | .returned ret c' => c'.Sound ∧ (ret ≠ 0 → c' = c) ∧ c'.Keeps calls
    | .outOfRange => False
    | .killed c' => c'.Sound

/-- An add that gets a device opens no new one in vain, and one that gets memory finds no
table and completes. -/
def Fits (c : IpaNatCache) : TblCall → SysCalls → Prop
  | .add _ numberOfEntries tblHdl, sys => tblHdl = true → numberOfEntries ≠ 0 → ∀ fd, c.ipaDev sys = some fd →
    if sys.allocNatMem = none then fd = c.ipaFd else c.tableCnt = 0 ∧ sys.Completes
  | .del _, _ => True

/-- Every call of a run fits the cache it is made on. -/
def Admits (c : IpaNatCache) : List (TblCall × SysCalls) → Prop
  | [] => True
  | (call, sys) :: calls => c.Fits call sys ∧ ∀ ret c', c.make call sys = .returned ret c' → c'.Admits calls

end IpaNatCache

/-! ## The contract over a run -/

theorem allocTable_isSome (n : BitVec 16) : ∃ te ee, allocTable n = some (te, ee) := by
  have hpos : ∀ k, k ≠ 0 → ∃ t, getNearest2Power k = some t := by
    intro k hk
    unfold getNearest2Power
    rw [if_neg hk]
    split <;> exact ⟨_, rfl⟩
  obtain ⟨t, ht⟩ := hpos (if n.toNat * 4 / 5 = 0 then 1 else n.toNat * 4 / 5) (by split <;> omega)
  refine ⟨t, getNearestEven (n.toNat / 5), ?_⟩
  show (getNearest2Power _).bind _ = _
  rw [ht]
  rfl

namespace IpaNatCache

instance : Subsingleton (Fin ipaNatMaxIp4Tbls) := inferInstanceAs (Subsingleton (Fin 1))

/-- `ip4_tbl[0]`. -/
def slot (c : IpaNatCache) : Ip4TblSlot := c.ip4Tbl ⟨0, by decide⟩

theorem ip4Tbl_eq_slot (c : IpaNatCache) (i : Fin ipaNatMaxIp4Tbls) : c.ip4Tbl i = c.slot :=
  congrArg c.ip4Tbl (Subsingleton.elim _ _)

@[simp] theorem slot_update (c : IpaNatCache) (i : Fin ipaNatMaxIp4Tbls) (s : Ip4TblSlot) (fd : Nat) (n : BitVec 8) :
    slot ⟨update c.ip4Tbl i s, fd, n⟩ = s := by
  rw [slot, Subsingleton.elim ⟨0, by decide⟩ i]
  exact Function.update_self i s c.ip4Tbl

theorem sound_iff {c : IpaNatCache} :
    c.Sound ↔ c.tableCnt.toNat = c.slot.valid.toNat ∧ (c.slot.valid = true → c.slot.Sized) := by
  have hcard : (Finset.univ.filter fun i => (c.ip4Tbl i).valid = true).card = c.slot.valid.toNat := by
    simp only [ip4Tbl_eq_slot]
    cases c.slot.valid <;> rfl
  constructor
  · intro h
    exact ⟨h.tableCnt_eq.trans hcard, h.sized ⟨0, by decide⟩⟩
  · intro ⟨hcnt, hsized⟩
    refine ⟨hcnt.trans hcard.symm, ?_, ?_⟩
    · rw [hcnt]
      exact Bool.toNat_le _
    · intro i hi
      rw [ip4Tbl_eq_slot] at hi ⊢
      exact hsized hi

/-- What the calls that fit keep: no table and a cleared slot, or one table. -/
inductive Steady (c : IpaNatCache) : Prop
  | empty (tableCnt : c.tableCnt = 0) (slot : c.slot = {})
  | one (tableCnt : c.tableCnt = 1) (valid : c.slot.valid = true) (sized : c.slot.Sized)

theorem Steady.sound {c : IpaNatCache} (h : c.Steady) : c.Sound := by
  rw [sound_iff]
  cases h with
  | empty hcnt hslot => simp [hcnt, hslot]
  | one hcnt hvalid hsized => simp [hcnt, hvalid, hsized]

theorem init_steady : init.Steady := .empty rfl rfl

/-- **A delete**, whatever its system calls do. -/
theorem make_del {c : IpaNatCache} (h : c.Steady) (tblHdl : BitVec 32) (sys : SysCalls) :
    ∃ ret c', c.make (.del tblHdl) sys = .returned ret c' ∧ c'.Steady ∧ (ret ≠ 0 → c' = c) := by
  have hreject : ∃ ret c', Outcome.returned (-einval) c = .returned ret c' ∧ c'.Steady ∧ (ret ≠ 0 → c' = c) :=
    ⟨_, _, rfl, h, fun _ => rfl⟩
  simp only [make, natDelIpv4Tbl]
  by_cases hhdl : tblHdl.toNat = ipaNatInvalidNatEntry ∨ ipaNatMaxIp4Tbls < tblHdl.toNat
  · rw [if_pos hhdl]
    exact hreject
  have hone : tblHdl = 1 := by
    simp only [ipaNatInvalidNatEntry, ipaNatMaxIp4Tbls] at hhdl
    exact BitVec.eq_of_toNat_eq (by simp; omega)
  rw [if_neg hhdl, hone]
  simp only [natiDelIpv4Table, withTbl]
  rw [dif_pos (by decide)]
  simp only [ip4Tbl_eq_slot]
  cases h with
  | empty hcnt hslot =>
    rw [if_pos (by rw [hslot])]
    exact hreject
  | one hcnt hvalid hsized =>
    rw [if_neg (by simp [hvalid])]
    by_cases hclose : sys.close = false
    · rw [if_pos hclose]
      exact hreject
    rw [if_neg hclose]
    by_cases hdel : sys.delNat = false
    · rw [if_pos hdel]
      exact hreject
    rw [if_neg hdel]
    exact ⟨0, _, rfl, .empty (by simp [hcnt]) (by simp), fun h0 => absurd rfl h0⟩

/-- An add the interface turns down. -/
theorem make_add_rejected (c : IpaNatCache) (pub : BitVec 32) {n : BitVec 16} {tblHdl : Bool} (sys : SysCalls)
    (h : tblHdl = false ∨ n = 0) : c.make (.add pub n tblHdl) sys = .returned (-einval) c := by
  simp only [make, natAddIpv4Tbl]
  rw [if_pos h, Outcome.bind_returned]

section Add

variable {c : IpaNatCache} {pub : BitVec 32} {n : BitVec 16} {sys : SysCalls} {fd offset te ee : Nat}

/-- An add the interface passes on. -/
theorem make_add_passed (hn : n ≠ 0) : c.make (.add pub n true) sys =
    (c.natiAddIpv4Tbl pub n sys).bind fun (ret, _) c' => if ret ≠ 0 then .returned (-einval) c' else .returned ret c' := by
  simp only [make, natAddIpv4Tbl]
  rw [if_neg (by simpa using hn), Outcome.bind_assoc]
  congr
  funext ret c'
  split <;> rfl

theorem make_add_noDevice (hn : n ≠ 0) (hdev : c.ipaDev sys = none) :
    c.make (.add pub n true) sys = .returned (-einval) c := by
  obtain ⟨te, ee, hsizes⟩ := allocTable_isSome n
  rw [make_add_passed hn]
  simp [natiAddIpv4Tbl, natiAllocTable, hsizes, hdev, eio, enomem]

theorem make_add_noMemory (hn : n ≠ 0) (hdev : c.ipaDev sys = some fd) (hmem : sys.allocNatMem = none) :
    c.make (.add pub n true) sys = .returned (-einval) { c with ipaFd := fd } := by
  obtain ⟨te, ee, hsizes⟩ := allocTable_isSome n
  rw [make_add_passed hn]
  simp [natiAddIpv4Tbl, natiAllocTable, createNatDevice, hsizes, hdev, hmem, einval, enomem]

/-- What `ipa_nati_alloc_table` fills in where it succeeds. -/
def allocated (te ee offset : Nat) : AllocMem where
  devName := natDevName
  size := ipaNatTableEntrySize * u16 (te + ee) + ipaNatIndexTableEntrySize * u16 (te + ee)
  offset

/-- The add from where memory is allocated. -/
theorem make_add_allocated (hn : n ≠ 0) (hsizes : allocTable n = some (te, ee)) (hdev : c.ipaDev sys = some fd)
    (hmem : sys.allocNatMem = some offset) :
    c.make (.add pub n true) sys =
      (natiUpdateCache { c with ipaFd := fd } (allocated te ee offset) pub te ee sys).bind fun ret c' =>
      if ret ≠ 0 then .returned (-einval) c'
      else (c'.natiResetTbl c.tableCnt.toNat).bind fun () c' =>
      (c'.natiPostIpv4InitCmd c.tableCnt.toNat sys).bind fun ret c' =>
      if ret ≠ 0 then .returned (-einval) c' else .returned 0 { c' with tableCnt := c'.tableCnt + 1 } := by
  rw [make_add_passed hn]
  simp only [natiAddIpv4Tbl, natiAllocTable, createNatDevice, hsizes, hdev, hmem, Outcome.bind_returned]
  rw [if_neg (by simp), Outcome.bind_assoc]
  congr
  funext ret c₁
  by_cases h0 : ret = 0
  · simp only [h0, ne_eq, not_true_eq_false, if_false, Outcome.bind_assoc]
    congr
    funext _ c₂
    congr
    funext ret c₃
    split <;> simp [einval]
  · simp [h0, einval]

/-- **A second table** is written outside `ip4_tbl`. -/
theorem make_add_second (hn : n ≠ 0) (hcnt : c.tableCnt ≠ 0) (hdev : c.ipaDev sys = some fd)
    (hmem : sys.allocNatMem = some offset) : c.make (.add pub n true) sys = .outOfRange := by
  obtain ⟨te, ee, hsizes⟩ := allocTable_isSome n
  have hout : ¬c.tableCnt.toNat < ipaNatMaxIp4Tbls := by
    intro hlt
    exact hcnt (BitVec.eq_of_toNat_eq (Nat.lt_one_iff.1 hlt))
  rw [make_add_allocated hn hsizes hdev hmem]
  simp [natiUpdateCache, withTbl, hout]

/-- The cache with the first slot filled in. -/
def stored (c : IpaNatCache) (fd : Nat) (s : Ip4TblSlot) : IpaNatCache :=
  { c with ip4Tbl := update c.ip4Tbl ⟨0, by decide⟩ s, ipaFd := fd }

/-- The first table, step by step. -/
theorem make_add_first_eq (hn : n ≠ 0) (hsizes : allocTable n = some (te, ee)) (hcnt : c.tableCnt = 0)
    (hdev : c.ipaDev sys = some fd) (hmem : sys.allocNatMem = some offset) {ret : Int} {s : Ip4TblSlot}
    (hs : c.slot.updateCache (allocated te ee offset) pub te ee sys = (ret, s)) :
    c.make (.add pub n true) sys =
      if ret ≠ 0 then .returned (-einval) (c.stored fd s)
      else if s.resets = false then .killed (c.stored fd s)
      else if sys.initNat = false then .returned (-einval) (c.stored fd s)
      else .returned 0 { c.stored fd s with tableCnt := 1 } := by
  have hcache : natiUpdateCache { c with ipaFd := fd } (allocated te ee offset) pub te ee sys =
      .returned ret (c.stored fd s) := by
    simp only [natiUpdateCache, withTbl, hcnt]
    rw [dif_pos (by decide)]
    simp only [slot] at hs
    simp [hs, stored, hcnt]
  have hreset : (c.stored fd s).natiResetTbl 0 = if s.resets then .returned () (c.stored fd s) else .killed (c.stored fd s) := by
    simp only [natiResetTbl, withTbl]
    rw [dif_pos (by decide)]
    simp [stored]
  have hinit : (c.stored fd s).natiPostIpv4InitCmd 0 sys =
      if sys.initNat then .returned 0 (c.stored fd s) else .returned (-einval) (c.stored fd s) := by
    simp only [natiPostIpv4InitCmd, withTbl]
    rw [dif_pos (by decide)]
  have hcnt0 : c.tableCnt.toNat = 0 := by rw [hcnt]; rfl
  have hstored : (c.stored fd s).tableCnt = 0 := hcnt
  rw [make_add_allocated hn hsizes hdev hmem, hcache, hcnt0]
  by_cases hret : ret = 0
  · cases hr : s.resets <;> cases hi : sys.initNat <;> simp [hret, hreset, hinit, hr, hi, hstored, einval]
  · simp [hret]

/-- **The first table**, with every system call done. -/
theorem make_add_first (pub : BitVec 32) (hn : n ≠ 0) (hcnt : c.tableCnt = 0) (hslot : c.slot = {}) (hdev : c.ipaDev sys = some fd)
    (hmem : sys.allocNatMem = some offset) (hsys : sys.Completes) :
    ∃ c', c.make (.add pub n true) sys = .returned 0 c' ∧ c'.Steady ∧
      ∃ tbl, HiaeCommon.natiAddIpv4Tbl pub n offset = some tbl ∧ c'.slot.Shows tbl := by
  obtain ⟨te, ee, hsizes⟩ := allocTable_isSome n
  obtain ⟨s, hs, hvalid, hsized, hresets, hshows⟩ :=
    Ip4TblSlot.updateCache_completes (allocated te ee offset) pub te ee hsys
  rw [make_add_first_eq hn hsizes hcnt hdev hmem (hslot ▸ hs)]
  have hinit := hsys.2.2.2.2
  refine ⟨{ c.stored fd s with tableCnt := 1 }, by simp [hresets, hinit], ?_, ?_⟩
  · refine .one rfl ?_ ?_ <;> simpa [stored]
  · refine ⟨_, natiAddIpv4Tbl_eq_some.2 ⟨te, ee, hsizes, rfl⟩, ?_⟩
    simpa [stored, allocated] using hshows

/-- **The first table**, with a system call that fails: the slot stays marked valid. -/
theorem make_add_first_gives_up (pub : BitVec 32) (hn : n ≠ 0) (hcnt : c.tableCnt = 0) (hslot : c.slot = {})
    (hdev : c.ipaDev sys = some fd) (hmem : sys.allocNatMem = some offset) (hsys : ¬sys.Completes) :
    ∃ c', c'.slot.valid = true ∧ c'.tableCnt = 0 ∧ (c.make (.add pub n true) sys = .returned (-einval) c' ∨
      c.make (.add pub n true) sys = .killed c') := by
  obtain ⟨te, ee, hsizes⟩ := allocTable_isSome n
  have hee : 0 < ee := by
    have := allocTable_range hsizes
    omega
  cases hs : c.slot.updateCache (allocated te ee offset) pub te ee sys with
  | mk ret s =>
    have hvalid : s.valid = true := by
      have := c.slot.updateCache_valid (allocated te ee offset) pub te ee sys
      rwa [hs] at this
    refine ⟨c.stored fd s, by simpa [stored] using hvalid, hcnt, ?_⟩
    rw [make_add_first_eq hn hsizes hcnt hdev hmem hs]
    by_cases hret : ret = 0
    · rw [if_neg (not_not.2 hret)]
      by_cases hresets : s.resets = false
      · exact .inr (if_pos hresets)
      · rw [if_neg hresets]
        refine .inl (if_pos ?_)
        -- nothing failed before the command that starts the hardware
        by_contra hinit
        refine hsys ?_
        by_contra hfail
        obtain hret' | hresets' := Ip4TblSlot.updateCache_gives_up (allocated te ee offset) pub te sys hee
          (fun h => hfail ⟨h.1, h.2.1, h.2.2.1, h.2.2.2, by simpa using hinit⟩)
        · rw [← hslot, hs] at hret'
          exact hret' hret
        · rw [← hslot, hs] at hresets'
          exact hresets hresets'
    · exact .inl (if_pos hret)

end Add

/-- **An add that fits** returns, and leaves the cache as it was where it returns an error. -/
theorem make_add_fits {c : IpaNatCache} (h : c.Steady) {pub : BitVec 32} {n : BitVec 16} {tblHdl : Bool} {sys : SysCalls}
    (hfits : c.Fits (.add pub n tblHdl) sys) :
    ∃ ret c', c.make (.add pub n tblHdl) sys = .returned ret c' ∧ c'.Steady ∧ (ret ≠ 0 → c' = c) := by
  by_cases hrej : tblHdl = false ∨ n = 0
  · exact ⟨_, _, make_add_rejected c pub sys hrej, h, fun _ => rfl⟩
  obtain ⟨htrue, hn⟩ := not_or.1 hrej
  obtain rfl : tblHdl = true := by simpa using htrue
  cases hdev : c.ipaDev sys with
  | none => exact ⟨_, _, make_add_noDevice hn hdev, h, fun _ => rfl⟩
  | some fd =>
    have hfit := hfits rfl hn fd hdev
    cases hmem : sys.allocNatMem with
    | none =>
      rw [if_pos hmem] at hfit
      subst hfit
      exact ⟨_, _, make_add_noMemory hn hdev hmem, h, fun _ => rfl⟩
    | some offset =>
      rw [if_neg (by simp [hmem])] at hfit
      obtain ⟨hcnt, hsys⟩ := hfit
      have hslot : c.slot = {} := by
        cases h with
        | empty _ hslot => exact hslot
        | one hcnt1 => exact absurd (hcnt.symm.trans hcnt1) (by decide)
      obtain ⟨c', hmake, hsteady, -⟩ := make_add_first pub hn hcnt hslot hdev hmem hsys
      exact ⟨0, c', hmake, hsteady, fun h0 => absurd rfl h0⟩

/-- **An add that does not fit** breaks the contract. -/
theorem make_add_breaks {c : IpaNatCache} (h : c.Steady) {call : TblCall} {sys : SysCalls} (hfits : ¬c.Fits call sys)
    (calls : List (TblCall × SysCalls)) : ¬c.Keeps ((call, sys) :: calls) := by
  cases call with
  | del tblHdl => exact absurd trivial hfits
  | add pub n tblHdl =>
    simp only [Fits, not_forall] at hfits
    obtain ⟨rfl, hn, fd, hdev, hfit⟩ := hfits
    simp only [Keeps]
    cases hmem : sys.allocNatMem with
    | none =>
      rw [if_pos hmem] at hfit
      rw [make_add_noMemory hn hdev hmem]
      intro hkeeps
      have hsame := hkeeps.2.1 (by decide)
      exact hfit (congrArg IpaNatCache.ipaFd hsame)
    | some offset =>
      rw [if_neg (by simp [hmem])] at hfit
      cases h with
      | one hcnt =>
        rw [make_add_second hn (by rw [hcnt]; decide) hdev hmem]
        exact id
      | empty hcnt hslot =>
        obtain ⟨c', hvalid, hcnt', hmake⟩ :=
          make_add_first_gives_up pub hn hcnt hslot hdev hmem (fun hsys => hfit ⟨hcnt, hsys⟩)
        have hunsound : ¬c'.Sound := by
          rw [sound_iff, hvalid, hcnt']
          intro hs
          exact absurd hs.1 (by decide)
        obtain hmake | hmake := hmake
        · rw [hmake]
          exact fun hkeeps => hunsound hkeeps.1
        · rw [hmake]
          exact hunsound

/-- **The life of a table**: every call stays inside `ip4_tbl`, counts the valid tables,
sizes their arrays and leaves the cache alone where it returns an error, exactly
when every call fits. -/
theorem table_life_run (calls : List (TblCall × SysCalls)) : init.Keeps calls ↔ init.Admits calls := by
  suffices h : ∀ c : IpaNatCache, c.Steady → (c.Keeps calls ↔ c.Admits calls) from h init init_steady
  induction calls with
  | nil => exact fun _ _ => Iff.rfl
  | cons call calls ih =>
    obtain ⟨call, sys⟩ := call
    intro c hc
    by_cases hfits : c.Fits call sys
    · obtain ⟨ret, c', hmake, hsteady, hsame⟩ :
          ∃ ret c', c.make call sys = .returned ret c' ∧ c'.Steady ∧ (ret ≠ 0 → c' = c) := by
        cases call with
        | add pub n tblHdl => exact make_add_fits hc hfits
        | del tblHdl => exact make_del hc tblHdl sys
      simp only [Keeps, Admits, hmake, Outcome.returned.injEq]
      constructor
      · intro hkeeps
        refine ⟨hfits, ?_⟩
        intro _ _ ⟨_, hc'⟩
        rw [← hc']
        exact (ih c' hsteady).1 hkeeps.2.2
      · intro hadmits
        exact ⟨hsteady.sound, hsame, (ih c' hsteady).2 (hadmits.2 ret c' ⟨rfl, rfl⟩)⟩
    · refine ⟨fun hkeeps => absurd hkeeps (make_add_breaks hc hfits calls), fun hadmits => absurd hadmits.1 hfits⟩

/-- Every system call does what it is made for. -/
def allDone : SysCalls where
  openIpa := some 3
  allocNatMem := some 0
  mallocMeta := true
  mallocRuleId := true
  openNat := some 4
  mmap := some 4096
  initNat := true
  close := true
  delNat := true

/-- **The contract broken**: the hardware refuses the table, the table is deleted all the
same, and the count wraps: the next table is written 255 elements behind the only one. -/
theorem table_life_wraps :
    ¬init.Keeps [(.add 1 100 true, { allDone with initNat := false })] ∧
    ∃ c₁ c₂, init.make (.add 1 100 true) { allDone with initNat := false } = .returned (-einval) c₁ ∧
      c₁.make (.del 1) allDone = .returned 0 c₂ ∧ c₂.tableCnt = 255 ∧
      c₂.make (.add 1 100 true) allDone = .outOfRange := by
  refine ⟨make_add_breaks init_steady ?_ [], _, _, rfl, rfl, rfl, rfl⟩
  intro hfits
  have hdone := (hfits rfl (by decide) 3 rfl).2
  exact absurd hdone.2.2.2.2 (by decide)

end IpaNatCache
end HiaeCommon
