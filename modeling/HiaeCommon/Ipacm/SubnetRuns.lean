/-
The private subnets over whole runs of all interfaces: instances are created,
get IPv4 addresses and go down, every event is dispatched to those that
registered for it in the order they were created, and a change of the table
is posted and waits in the queue. The events that wait are those changes; any
other event may come between them.
-/
import HiaeCommon.Ipacm.SubnetEvents

namespace HiaeCommon

open Lib (Handles Ledger untilFailure)

/-- The interfaces, by `ipa_if_num`; each has rx properties. -/
structure LanConfs where
  conf : Nat → LanConf
  rx : Nat → RxProps
  ipaIfNum : ∀ n, (conf n).ipaIfNum = n
  rxProp : ∀ n, (conf n).rxProp = some (rx n)

/-- An instance, and whether an IPv4 address came for it. -/
structure LanInst where
  num : Nat
  lan : Lan
  ipv4 : Bool

/-- The instances in the order they registered, what they share, and the changes of the table that wait in the queue. -/
structure SubnetSys where
  insts : List LanInst := []
  out : LanOut := {}
  pending : List Nat := []

inductive SubnetEvt
  | create (ifIndex : Nat)
  | addrAdd (data : LanAddr) (v4 : data.iptype = .v4)
  | linkDown (ifIndex : Nat)
  /-- The first event of the queue is processed. -/
  | change
  deriving DecidableEq, Repr

/-- An event, with the driver and the statics as it is handled. -/
structure SubnetStep where
  D : LanDriver
  sh : LanShared
  evt : SubnetEvt

/-- What was posted is in the queue. -/
def LanOut.drained (o : LanOut) : LanOut := { o with posted := [] }

namespace SubnetSys

section Step

variable (D : LanDriver) (C : LanConfs) (sh : LanShared)

/-- The event is an IPv4 address of the interface. -/
def gives (cfg : LanConf) : LanEvt → Bool
  | .addrAdd a => a.iptype = .v4 ∧ a.IsOf cfg
  | _ => false

/-- One instance gets an event. -/
def callback (evt : LanEvt) (i : LanInst) (o : LanOut) : Lan × LanOut :=
  if (C.conf i.num).ipaIfCate.registers evt then i.lan.eventCallback D (C.conf i.num) sh evt o else (i.lan, o)

/-- The instance that an event leaves. -/
def next (evt : LanEvt) (i : LanInst) (o : LanOut) : LanInst :=
  ⟨i.num, (callback D C sh evt i o).1, i.ipv4 || gives (C.conf i.num) evt⟩

/-- `ProcessEvt`, over the instances. -/
def processEvt (evt : LanEvt) : List LanInst → LanOut → List LanInst × LanOut
  | [], o => ([], o)
  | i :: l, o =>
    let (l, o') := processEvt evt l (callback D C sh evt i o).2
    (next D C sh evt i o :: l, o')

/-- An event is processed: those that went down are gone, and what was posted waits. -/
def deliver (evt : LanEvt) (s : SubnetSys) : SubnetSys :=
  let (l, o) := processEvt D C sh evt s.insts s.out.drained
  { insts := l.filter fun i => i.lan.isActive, out := o, pending := s.pending ++ o.changes }

end Step

/-- One step. -/
def step (C : LanConfs) (s : SubnetSys) (t : SubnetStep) : SubnetSys :=
  match t.evt with
  | .create n => if s.insts.any fun i => i.num = n then s else { s with insts := s.insts ++ [⟨n, {}, false⟩] }
  | .addrAdd a _ => s.deliver t.D C t.sh (.addrAdd a)
  | .linkDown n => s.deliver t.D C t.sh (.linkDown (some n))
  | .change =>
    match s.pending with
    | [] => s
    | n :: l => ({ s with pending := l } : SubnetSys).deliver t.D C t.sh (.privateSubnetChange n)

/-- The private-subnet rules of an interface, in order. -/
def rules (s : SubnetSys) (n : Nat) : List FltSlot := (s.out.flt.view (ofUse n .privateSubnet .v4)).map Prod.snd

/-- Where no change waits, the rules of every interface with an IPv4 address are the table. -/
def FollowsTable (C : LanConfs) (s : SubnetSys) : Prop :=
  s.pending = [] → ∀ i ∈ s.insts, i.ipv4 = true → s.rules i.num =
    (List.range ipaMaxPrivateSubnetEntries).map fun k => (C.rx i.num).slot i.num .privateSubnet .v4 (s.out.privateSubnet.rule k)

/-! ## The condition -/

/-- The interface hears of changes of the table. -/
def Hears (C : LanConfs) (n : Nat) : Prop := (C.conf n).ipaIfCate = .lanIf ∨ (C.conf n).ipaIfCate = .wlanIf

/-- The event makes the instance change the table. -/
def ChangesTable (C : LanConfs) (s : SubnetSys) (t : SubnetStep) (i : LanInst) : Prop :=
  match t.evt with
  | .addrAdd a _ => a.IsOf (C.conf i.num) ∧ i.lan.installs (C.conf i.num) t.sh a ∧ ¬ Lan.oduBridge (C.conf i.num) t.sh ∧
    s.out.privateSubnet.has (Lan.subnetOf a) = false ∧ s.out.privateSubnet.num < ipaMaxPrivateSubnetEntries
  | .linkDown n => i.num = n ∧ i.lan.ipType = .v4 ∧ s.out.privateSubnet.has i.lan.ifIpv4Subnet = true
  | _ => False

/-- The driver does what it is asked; who has an IPv4 address while another interface changes the table hears of it; and an ODU
installs its rules where it has none. -/
structure Heard (C : LanConfs) (s : SubnetSys) (t : SubnetStep) : Prop where
  succeeds : t.D.Succeeds
  heard : ∀ i ∈ s.insts, ChangesTable C s t i → ∀ j ∈ s.insts, j.num ≠ i.num → j.ipv4 = true → Hears C j.num
  fresh : match t.evt with
    | .addrAdd a _ => ∀ i ∈ s.insts, (C.conf i.num).ipaIfCate = .oduIf → a.IsOf (C.conf i.num) →
      i.lan.installs (C.conf i.num) t.sh a → s.rules i.num = []
    | _ => True

/-! ## The invariant -/

/-- What holds of one instance. -/
structure InstInv (C : LanConfs) (pending : List Nat) (o : LanOut) (i : LanInst) : Prop where
  active : i.lan.isActive = true
  held : i.lan.AllHdls (LanOut.Own i.num o)
  ipType : i.lan.ipType = .null ∨ i.lan.ipType = .v4
  up : i.lan.ipType = .v4 → i.ipv4 = true
  setUp : (C.conf i.num).ipaIfCate ≠ .oduIf → i.ipv4 = true → i.lan.ipType = .v4
  row : i.ipv4 = true → ∃ R, Lan.Row (C.rx i.num) i.num (i.lan, o) R
  told : i.ipv4 = true → Lan.Row (C.rx i.num) i.num (i.lan, o) o.privateSubnet.rule ∨ Hears C i.num ∧ ∃ n ∈ pending, n ≠ i.num
  bare : (C.conf i.num).ipaIfCate ≠ .oduIf → i.ipv4 = false → o.flt.view (ofUse i.num .privateSubnet .v4) = []

/-- What holds of the system; an interface without an instance has left no rules, unless it is an ODU. -/
structure Inv (C : LanConfs) (s : SubnetSys) : Prop where
  sound : s.out.Sound
  nodup : (s.insts.map LanInst.num).Nodup
  inst : ∀ i ∈ s.insts, InstInv C s.pending s.out i
  gone : ∀ n, (∀ i ∈ s.insts, i.num ≠ n) → (C.conf n).ipaIfCate ≠ .oduIf → s.out.flt.view (ofUse n .privateSubnet .v4) = []

/-- The rules of one interface are as they were. -/
def SameOwn (n : Nat) (o o' : LanOut) : Prop := o'.flt.view (fun s => s.owner = n) = o.flt.view fun s => s.owner = n

section Frames

variable {C : LanConfs} {D : LanDriver} {sh : LanShared} {pending pending' : List Nat} {o o' : LanOut} {i j : LanInst} {n : Nat}

theorem ofUse_sub (n : Nat) (use : FltUse) (ip : IpType) (o : LanOut) :
    o.flt.view (ofUse n use ip) = (o.flt.view fun s => s.owner = n).filter fun x => ofUse n use ip x.2 := by
  rw [Ledger.view, Ledger.view, List.filter_filter]
  refine List.filter_congr fun x _ => ?_
  by_cases hx : x.2.owner = n
  · simp [hx]
  · simp [ofUse, hx]

theorem SameOwn.ofUse (h : SameOwn n o o') (use : FltUse) (ip : IpType) :
    o'.flt.view (ofUse n use ip) = o.flt.view (ofUse n use ip) := by
  rw [ofUse_sub, ofUse_sub n use ip o, show o'.flt.view (fun s => s.owner = n) = _ from h]

theorem SameOwn.of_turns {P : Prop} (ht : o.Turns n P o') {m : Nat} (hm : m ≠ n) : SameOwn m o o' :=
  ht.view _ fun s hn => by simp [hn, Ne.symm hm]

/-- What someone else did is seen in the table only. -/
theorem InstInv.frame (h : InstInv C pending o j) (hs : SameOwn j.num o o')
    (ht : o'.privateSubnet = o.privateSubnet ∧ pending ⊆ pending' ∨ (j.ipv4 = true → Hears C j.num) ∧ ∃ n ∈ pending', n ≠ j.num) :
    InstInv C pending' o' j := by
  have hv := hs.ofUse .privateSubnet .v4
  refine ⟨h.active, h.held.imp fun _ hk => hk.of_view hs, h.ipType, h.up, h.setUp, fun h4 => ?_, fun h4 => ?_, fun hc h4 => ?_⟩
  · obtain ⟨R, hr⟩ := h.row h4
    exact ⟨R, hr.of_same rfl hv⟩
  · rcases ht with ⟨ht, hp⟩ | ⟨hhear, n, hn, hne⟩
    · rw [ht]
      rcases h.told h4 with hr | ⟨hh, n, hn, hne⟩
      · exact .inl (hr.of_same rfl hv)
      · exact .inr ⟨hh, n, hp hn, hne⟩
    · exact .inr ⟨hhear h4, n, hn, hne⟩
  · rw [hv]
    exact h.bare hc h4

theorem InstInv.turns {P : Prop} (h : InstInv C pending o j) (ht : o.Turns n P o') (hj : j.num ≠ n)
    (hheard : P → j.ipv4 = true → Hears C j.num) (hc : o.changes = []) : InstInv C (pending ++ o'.changes) o' j := by
  refine h.frame (SameOwn.of_turns ht hj) ?_
  rcases ht.table with ⟨ht, _⟩ | ⟨hp, ht⟩
  · exact .inl ⟨ht, List.subset_append_left _ _⟩
  · rw [ht, hc]
    exact .inr ⟨hheard hp, n, by simp, Ne.symm hj⟩

/-! ## Events for one interface -/

/-- The event is for no interface but `n`. -/
def ForOne (n : Nat) (evt : LanEvt) : Prop :=
  (∃ a, evt = .addrAdd a ∧ ∀ m, m ≠ n → a.ipaIfIndex ≠ some m) ∨ evt = .linkDown (some n)

theorem callback_of_other {evt : LanEvt} (h : ForOne n evt) (hi : i.num ≠ n) :
    callback D C sh evt i o = (i.lan, o) ∧ gives (C.conf i.num) evt = false := by
  unfold callback
  rcases h with ⟨a, rfl, ha⟩ | rfl
  · have hne : a.ipaIfIndex ≠ some (C.conf i.num).ipaIfNum := by
      rw [C.ipaIfNum]
      exact ha _ hi
    refine ⟨?_, by simp [gives, LanAddr.IsOf, hne]⟩
    split
    · exact Lan.addrAdd_of_other hne
    · rfl
  · have hne : some n ≠ some (C.conf i.num).ipaIfNum := by
      rw [C.ipaIfNum]
      simpa using Ne.symm hi
    refine ⟨?_, rfl⟩
    split
    · unfold Lan.eventCallback
      split
      · rfl
      · exact if_neg hne
    · rfl

theorem next_of_other {evt : LanEvt} (h : ForOne n evt) (hi : i.num ≠ n) : next D C sh evt i o = i := by
  obtain ⟨h1, h2⟩ := @callback_of_other C D sh o i n evt h hi
  unfold next
  rw [h1, h2, Bool.or_false]

theorem processEvt_of_others {evt : LanEvt} (h : ForOne n evt) {l : List LanInst} (hl : ∀ i ∈ l, i.num ≠ n) (o : LanOut) :
    processEvt D C sh evt l o = (l, o) := by
  induction l with
  | nil => rfl
  | cons i l ih =>
    have hi := hl i (List.mem_cons_self ..)
    rw [processEvt, next_of_other h hi, (callback_of_other h hi).1, ih fun j hj => hl j (List.mem_cons_of_mem _ hj)]

/-- One instance acts. -/
theorem processEvt_of_one {evt : LanEvt} (h : ForOne i.num evt) {l₁ l₂ : List LanInst} (h₁ : ∀ j ∈ l₁, j.num ≠ i.num)
    (h₂ : ∀ j ∈ l₂, j.num ≠ i.num) (o : LanOut) :
    processEvt D C sh evt (l₁ ++ i :: l₂) o = (l₁ ++ next D C sh evt i o :: l₂, (callback D C sh evt i o).2) := by
  induction l₁ with
  | nil =>
    rw [List.nil_append, processEvt, processEvt_of_others h h₂]
    rfl
  | cons j l₁ ih =>
    have hj := h₁ j (List.mem_cons_self ..)
    rw [List.cons_append, processEvt, next_of_other h hj, (callback_of_other h hj).1,
      ih fun k hk => h₁ k (List.mem_cons_of_mem _ hk)]
    rfl

end Frames

section Steps

variable {C : LanConfs} {D : LanDriver} {sh : LanShared} {s : SubnetSys} {i : LanInst} {n : Nat} {evt : LanEvt}

theorem deliver_eq {l : List LanInst} {o : LanOut} (h : processEvt D C sh evt s.insts s.out.drained = (l, o)) :
    s.deliver D C sh evt = { insts := l.filter fun i => i.lan.isActive, out := o, pending := s.pending ++ o.changes } := by
  unfold deliver
  rw [h]

theorem Inv.drained (hinv : Inv C s) : s.out.drained.Sound := hinv.sound.of_flt rfl

/-- Nobody acts. -/
theorem Inv.nobody (hinv : Inv C s) (h : ForOne n evt) (hn : ∀ i ∈ s.insts, i.num ≠ n) : Inv C (s.deliver D C sh evt) := by
  rw [deliver_eq (processEvt_of_others h hn _), List.filter_eq_self.2 fun i hi => (hinv.inst i hi).active]
  exact ⟨hinv.drained, hinv.nodup,
    fun i hi => (hinv.inst i hi).frame rfl (.inl ⟨rfl, List.subset_append_left _ _⟩), hinv.gone⟩

/-- One instance acts: it stays an instance, or goes and leaves no rules. -/
theorem Inv.one (hinv : Inv C s) (hi : i ∈ s.insts) (h : ForOne i.num evt) {P : Prop} {o' : LanOut}
    (ho' : (callback D C sh evt i s.out.drained).2 = o')
    (ht : LanOut.Turns i.num P s.out.drained o')
    (hheard : P → ∀ j ∈ s.insts, j.num ≠ i.num → j.ipv4 = true → Hears C j.num)
    (hend : InstInv C (s.pending ++ o'.changes) o' (next D C sh evt i s.out.drained) ∨
      (next D C sh evt i s.out.drained).lan.isActive = false ∧
        ((C.conf i.num).ipaIfCate ≠ .oduIf → o'.flt.view (ofUse i.num .privateSubnet .v4) = [])) :
    Inv C (s.deliver D C sh evt) := by
  obtain ⟨l₁, l₂, hl⟩ := List.append_of_mem hi
  have hnd := hinv.nodup
  rw [hl, List.map_append, List.map_cons, List.nodup_middle, List.nodup_cons, ← List.map_append] at hnd
  have hother : ∀ j ∈ l₁ ++ l₂, j.num ≠ i.num := fun j hj he => hnd.1 (List.mem_map.2 ⟨j, hj, he⟩)
  have hmem : ∀ j ∈ l₁ ++ l₂, j ∈ s.insts := fun j hj => by
    rw [hl]
    exact (List.mem_append.1 hj).elim (List.mem_append_left _) fun hj => List.mem_append_right _ (List.mem_cons_of_mem _ hj)
  have hproc := @processEvt_of_one C D sh i evt h l₁ l₂ (fun j hj => hother j (List.mem_append_left _ hj))
    (fun j hj => hother j (List.mem_append_right _ hj)) s.out.drained
  rw [← hl, ho'] at hproc
  rw [deliver_eq hproc]
  generalize hi' : next D C sh evt i s.out.drained = i' at hend
  have hnum : i'.num = i.num := by rw [← hi']; rfl
  -- who is not `i` was there before and is as it was
  have hcases : ∀ j ∈ (l₁ ++ i' :: l₂).filter fun i => i.lan.isActive, j ∈ l₁ ++ l₂ ∨ j = i' ∧ i'.lan.isActive = true := by
    intro j hj
    obtain ⟨hj, hact⟩ := List.mem_filter.1 hj
    rcases List.mem_append.1 hj with hj | hj
    · exact .inl (List.mem_append_left _ hj)
    rcases List.mem_cons.1 hj with rfl | hj
    · exact .inr ⟨rfl, hact⟩
    · exact .inl (List.mem_append_right _ hj)
  have hstay : ∀ j ∈ l₁ ++ l₂, j ∈ (l₁ ++ i' :: l₂).filter fun i => i.lan.isActive := by
    intro j hj
    refine List.mem_filter.2 ⟨?_, (hinv.inst j (hmem j hj)).active⟩
    exact (List.mem_append.1 hj).elim (List.mem_append_left _) fun hj => List.mem_append_right _ (List.mem_cons_of_mem _ hj)
  have hframe : ∀ j ∈ l₁ ++ l₂, InstInv C (s.pending ++ o'.changes) o' j := fun j hj => by
    have hj' : InstInv C s.pending s.out.drained j := (hinv.inst j (hmem j hj)).frame rfl (.inl ⟨rfl, fun _ => id⟩)
    exact hj'.turns ht (hother j hj) (fun hp => hheard hp j (hmem j hj) (hother j hj)) rfl
  refine ⟨ht.sound hinv.drained, ?_, fun j hj => ?_, fun n hn hc => ?_⟩
  · have hsub : ((l₁ ++ i' :: l₂).filter fun i => i.lan.isActive).map LanInst.num |>.Sublist (s.insts.map LanInst.num) := by
      have hmap : (l₁ ++ i' :: l₂).map LanInst.num = s.insts.map LanInst.num := by
        rw [hl, List.map_append, List.map_append, List.map_cons, List.map_cons, hnum]
      rw [← hmap]
      exact List.filter_sublist.map _
    exact hinv.nodup.sublist hsub
  · rcases hcases j hj with hj | ⟨rfl, hact⟩
    · exact hframe j hj
    · exact hend.resolve_right fun hdead => by
        rw [hact] at hdead
        cases hdead.1
  · by_cases hni : n = i.num
    · subst hni
      rcases hend with hlive | ⟨_, hview⟩
      · have hi'mem : i' ∈ (l₁ ++ i' :: l₂).filter fun i => i.lan.isActive :=
          List.mem_filter.2 ⟨List.mem_append_right _ (List.mem_cons_self ..), hlive.active⟩
        exact absurd hnum (hn i' hi'mem)
      · exact hview hc
    · have hv : o'.flt.view (ofUse n .privateSubnet .v4) = s.out.flt.view (ofUse n .privateSubnet .v4) := ht.ofUse_view hni _ _
      refine hv.trans (hinv.gone n (fun j hj => ?_) hc)
      rw [hl] at hj
      rcases List.mem_append.1 hj with hj | hj
      · exact hn j (hstay j (List.mem_append_left _ hj))
      rcases List.mem_cons.1 hj with rfl | hj
      · exact Ne.symm hni
      · exact hn j (hstay j (List.mem_append_right _ hj))

/-! ### An address -/

theorem acceptsAddr_v4 {f : Lan} {a : LanAddr} (ha : a.iptype = .v4) (ht : f.ipType = .null ∨ f.ipType = .v4) :
    f.acceptsAddr a = true ↔ f.ipType = .null := by
  unfold Lan.acceptsAddr Lan.differs
  rw [ha]
  rcases ht with ht | ht
  · simp [ht]
  · simp [ht]

theorem InstInv.drained (h : InstInv C s.pending s.out i) : InstInv C s.pending s.out.drained i := h.frame rfl (.inl ⟨rfl, fun _ => id⟩)

/-- The interface added rules, none of them for a private subnet. -/
theorem InstInv.gains {pending : List Nat} {o o' : LanOut} {f : Lan} (h : InstInv C pending o i)
    (hg : Lan.Gains i.num (i.lan, o) (f, o')) (hc : f.core = i.lan.core)
    (hv : o'.flt.view (ofUse i.num .privateSubnet .v4) = o.flt.view (ofUse i.num .privateSubnet .v4)) :
    InstInv C pending o' ⟨i.num, f, i.ipv4⟩ := by
  have htype : f.ipType = i.lan.ipType := congrArg (fun c => c.2.2.ipType) hc
  have hpriv : f.privateFlRuleHdl = i.lan.privateFlRuleHdl := congrArg (fun c => c.2.2.privateFlRuleHdl) hc
  refine ⟨(congrArg Prod.fst hc).trans h.active, hg.held h.held, ?_, ?_, fun hcate h4 => htype.trans (h.setUp hcate h4), fun h4 => ?_,
    fun h4 => ?_, fun hcate h4 => hv.trans (h.bare hcate h4)⟩
  · rw [show (LanInst.lan ⟨i.num, f, i.ipv4⟩).ipType = _ from htype]
    exact h.ipType
  · rw [show (LanInst.lan ⟨i.num, f, i.ipv4⟩).ipType = _ from htype]
    exact h.up
  · obtain ⟨R, hr⟩ := h.row h4
    exact ⟨R, hr.of_same hpriv hv⟩
  · rw [hg.apart.privateSubnet]
    exact (h.told h4).imp_left fun hr => hr.of_same hpriv hv

/-- An address that installs no rules comes for an interface that has them, or is none. -/
theorem gives_of_not_installs (h : InstInv C s.pending s.out i) {a : LanAddr} (ha : a.iptype = .v4)
    (hn : ¬ (a.IsOf (C.conf i.num) ∧ i.lan.installs (C.conf i.num) sh a)) : (i.ipv4 || gives (C.conf i.num) (.addrAdd a)) = i.ipv4 := by
  cases h4 : i.ipv4 with
  | true => rfl
  | false =>
    rw [Bool.false_or]
    refine decide_eq_false fun hg => hn ⟨hg.2, .inr ((acceptsAddr_v4 ha h.ipType).2 (h.ipType.resolve_right fun ht => ?_))⟩
    rw [h.up ht] at h4
    cases h4

theorem Inv.addrAdd (hinv : Inv C s) {a : LanAddr} (ha : a.iptype = .v4) (hh : Heard C s ⟨D, sh, .addrAdd a ha⟩) :
    Inv C (s.deliver D C sh (.addrAdd a)) := by
  obtain ⟨n, hone⟩ : ∃ n, ForOne n (.addrAdd a) := by
    cases hidx : a.ipaIfIndex with
    | none => exact ⟨0, .inl ⟨a, rfl, fun m _ he => by rw [hidx] at he; cases he⟩⟩
    | some k => exact ⟨k, .inl ⟨a, rfl, fun m hm he => hm (Option.some.inj (hidx.symm.trans he)).symm⟩⟩
  by_cases hex : ∃ i ∈ s.insts, i.num = n
  case neg => exact hinv.nobody hone fun i hi he => hex ⟨i, hi, he⟩
  obtain ⟨i, hi, rfl⟩ := hex
  have hI := hinv.inst i hi
  have hD := hh.succeeds
  have hcall : callback D C sh (.addrAdd a) i s.out.drained =
      i.lan.eventCallback D (C.conf i.num) sh (.addrAdd a) s.out.drained := if_pos (by unfold LanCate.registers; rfl)
  by_cases hins : a.IsOf (C.conf i.num) ∧ i.lan.installs (C.conf i.num) sh a
  · -- the interface installs its rules, and has none
    have hempty : s.out.flt.view (ofUse i.num .privateSubnet .v4) = [] := by
      by_cases hodu : (C.conf i.num).ipaIfCate = .oduIf
      · exact List.map_eq_nil_iff.1 (hh.fresh i hi hodu hins.1 hins.2)
      · refine hI.bare hodu ?_
        cases h4 : i.ipv4 with
        | false => rfl
        | true =>
          have hacc := hins.2.resolve_left fun hb => hodu hb.2.2
          rw [acceptsAddr_v4 ha hI.ipType, hI.setUp hodu h4] at hacc
          cases hacc
    have hnew := @Lan.addrAdd_newRow D (C.conf i.num) sh i.lan s.out.drained (C.rx i.num) hD (C.rxProp i.num) hinv.drained
      (by rw [C.ipaIfNum]; exact hI.drained.held) hI.active hI.ipType a ha hins.1 hins.2 (by rw [C.ipaIfNum]; exact hempty)
    rw [C.ipaIfNum, ← hcall] at hnew
    obtain ⟨hactive, htype, hrow⟩ := hnew
    have h4 : (i.ipv4 || gives (C.conf i.num) (.addrAdd a)) = true := by
      rw [show gives (C.conf i.num) (.addrAdd a) = true from decide_eq_true ⟨ha, hins.1⟩, Bool.or_true]
    refine hinv.one hi hone rfl hrow.turns (fun hp => hh.heard i hi ⟨hins.1, hins.2, hp.1, hp.2⟩) (.inl ?_)
    refine ⟨hactive, hrow.held, ?_, fun _ => h4, fun hc _ => ?_, fun _ => ⟨_, hrow.row⟩, fun _ => .inl hrow.row, fun _ hf => ?_⟩
    · rw [show (next D C sh (.addrAdd a) i s.out.drained).lan.ipType = _ from htype]
      split
      · exact hI.ipType
      · exact .inr rfl
    · exact htype.trans (if_neg fun hb => hc hb.2.2)
    · rw [show (next D C sh (.addrAdd a) i s.out.drained).ipv4 = true from h4] at hf
      cases hf
  · -- at most the software routing follows
    have hsame : next D C sh (.addrAdd a) i s.out.drained = ⟨i.num, (callback D C sh (.addrAdd a) i s.out.drained).1, i.ipv4⟩ := by
      unfold next
      rw [gives_of_not_installs hI ha hins]
    have hgain : Lan.Gains i.num (i.lan, s.out.drained) (callback D C sh (.addrAdd a) i s.out.drained) ∧
        (callback D C sh (.addrAdd a) i s.out.drained).1.core = i.lan.core ∧
        (callback D C sh (.addrAdd a) i s.out.drained).2.flt.view (ofUse i.num .privateSubnet .v4) =
          s.out.drained.flt.view (ofUse i.num .privateSubnet .v4) := by
      rw [hcall]
      rcases Lan.addrAdd_of_not_installs (D := D) (f := i.lan) (o := s.out.drained) hins with he | he
      · rw [he]
        exact ⟨.refl _ _, rfl, rfl⟩
      · rw [he]
        have hg := @Lan.handleSoftwareRoutingEnable_gains D (C.conf i.num) i.lan s.out.drained
        rw [C.ipaIfNum] at hg
        exact ⟨hg, Lan.handleSoftwareRoutingEnable_core, Lan.handleSoftwareRoutingEnable_adds.view _ fun u hu =>
          ofUse_blind (by rw [List.mem_singleton.1 hu]; decide)⟩
    obtain ⟨hg, hcore, hv⟩ := hgain
    refine hinv.one hi hone rfl (hg.apart.turns (P := False)) (fun hp => hp.elim) (.inl ?_)
    rw [hsame]
    have h' := hI.drained.gains hg hcore hv
    exact h'.frame rfl (.inl ⟨rfl, List.subset_append_left _ _⟩)

/-! ### Interface down -/

theorem Inv.linkDown (hinv : Inv C s) (hh : Heard C s ⟨D, sh, .linkDown n⟩) : Inv C (s.deliver D C sh (.linkDown (some n))) := by
  have hone : ForOne n (.linkDown (some n)) := .inr rfl
  by_cases hex : ∃ i ∈ s.insts, i.num = n
  case neg => exact hinv.nobody hone fun i hi he => hex ⟨i, hi, he⟩
  obtain ⟨i, hi, rfl⟩ := hex
  have hI := hinv.inst i hi
  have hrx : (C.conf i.num).rxProp ≠ none := by simp [C.rxProp]
  have hcall : callback D C sh (.linkDown (some i.num)) i s.out.drained = i.lan.handleDownEvt D (C.conf i.num) sh s.out.drained := by
    unfold callback
    rw [if_pos (by unfold LanCate.registers; rfl)]
    unfold Lan.eventCallback
    rw [if_neg (by simp [hI.active])]
    exact if_pos (by rw [C.ipaIfNum])
  have hdown := @Lan.handleDownEvt_does D (C.conf i.num) sh i.lan s.out.drained hh.succeeds hrx hinv.drained
    (by rw [C.ipaIfNum]; exact hI.drained.held) hI.ipType
  rw [C.ipaIfNum, ← hcall] at hdown
  obtain ⟨hactive, hturn, hsub, hgone⟩ := hdown
  refine hinv.one hi hone rfl hturn (fun hp => hh.heard i hi ⟨rfl, hp⟩) (.inr ⟨hactive, fun hc => ?_⟩)
  cases h4 : i.ipv4 with
  | true =>
    obtain ⟨R, hrow⟩ := hI.drained.row h4
    exact hrow.gone hsub (hgone (hI.setUp hc h4))
  | false =>
    have hnil := hI.drained.bare hc h4
    refine List.filter_eq_nil_iff.2 fun x hx hp => ?_
    have hm : x ∈ s.out.drained.flt.view (ofUse i.num .privateSubnet .v4) := List.mem_filter.2 ⟨hsub x hx, hp⟩
    rw [hnil] at hm
    cases hm

/-! ### A change of the table -/

theorem gives_change (cfg : LanConf) : gives cfg (.privateSubnetChange n) = false := rfl

/-- Who hears of it makes its rules equal to the table, and who posted it did so before. -/
theorem InstInv.change {pending : List Nat} {o : LanOut} (h : InstInv C (n :: pending) o i) (hD : D.Succeeds) (ho : o.Sound) :
    next D C sh (.privateSubnetChange n) i o = i ∧ o.Apart i.num (callback D C sh (.privateSubnetChange n) i o).2 ∧
      InstInv C pending (callback D C sh (.privateSubnetChange n) i o).2 i := by
  have hrx : (C.conf i.num).rxProp ≠ none := by simp [C.rxProp]
  have hstay : (i.ipv4 = true → Lan.Row (C.rx i.num) i.num (i.lan, o) o.privateSubnet.rule ∨ Hears C i.num ∧ ∃ m ∈ pending, m ≠ i.num) →
      callback D C sh (.privateSubnetChange n) i o = (i.lan, o) →
      next D C sh (.privateSubnetChange n) i o = i ∧ o.Apart i.num (callback D C sh (.privateSubnetChange n) i o).2 ∧
        InstInv C pending (callback D C sh (.privateSubnetChange n) i o).2 i := by
    intro htold hcall
    rw [next, hcall]
    exact ⟨by rw [gives_change, Bool.or_false], .refl _ _, { h with told := htold }⟩
  by_cases hhear : Hears C i.num
  case neg =>
    refine hstay (fun h4 => .inl ((h.told h4).resolve_right fun hp => hhear hp.1)) (if_neg fun hreg => hhear ?_)
    simpa [LanCate.registers, Hears] using hreg
  have hreg : (C.conf i.num).ipaIfCate.registers (.privateSubnetChange n) = true := by simpa [LanCate.registers, Hears] using hhear
  by_cases hn : n = i.num
  · refine hstay (fun h4 => (h.told h4).imp_right fun hp => ⟨hp.1, ?_⟩) ?_
    · obtain ⟨m, hm, hne⟩ := hp.2
      exact ⟨m, (List.mem_cons.1 hm).resolve_left fun he => hne (he.trans hn), hne⟩
    · unfold callback
      rw [if_pos hreg]
      unfold Lan.eventCallback
      rw [if_neg (by simp [h.active])]
      exact if_pos (by rw [C.ipaIfNum]; exact hn)
  · have hcall : callback D C sh (.privateSubnetChange n) i o = (i.lan, i.lan.handlePrivateSubnetAndroid D (C.conf i.num) .v4 o) := by
      unfold callback
      rw [if_pos hreg]
      unfold Lan.eventCallback
      rw [if_neg (by simp [h.active])]
      exact if_neg (by rw [C.ipaIfNum]; exact hn)
    have hgain := Lan.handlePrivateSubnetAndroid_gains (f := i.lan) hD hrx ho h.held.privateFl
    rw [next, hcall]
    refine ⟨by rw [gives_change, Bool.or_false], hgain.apart, h.active, hgain.held h.held, h.ipType, h.up, h.setUp, fun h4 => ?_, fun h4 => ?_,
      fun hc h4 => Lan.handlePrivateSubnetAndroid_nil hD hrx (h.bare hc h4)⟩
    · obtain ⟨R, hr⟩ := h.row h4
      exact ⟨_, Lan.handlePrivateSubnetAndroid_row hD hrx hr ho.nodup⟩
    · obtain ⟨R, hr⟩ := h.row h4
      rw [hgain.apart.privateSubnet]
      exact .inl (Lan.handlePrivateSubnetAndroid_row hD hrx hr ho.nodup)

theorem processEvt_change {pending : List Nat} (hD : D.Succeeds) {l : List LanInst} (hnd : (l.map LanInst.num).Nodup) {o : LanOut}
    (ho : o.Sound) (h : ∀ i ∈ l, InstInv C (n :: pending) o i) :
    ∃ o', processEvt D C sh (.privateSubnetChange n) l o = (l, o') ∧ o'.Sound ∧ o'.privateSubnet = o.privateSubnet ∧
      o'.changes = o.changes ∧ (∀ m, (∀ i ∈ l, i.num ≠ m) → SameOwn m o o') ∧ ∀ i ∈ l, InstInv C pending o' i := by
  induction l generalizing o with
  | nil => exact ⟨o, rfl, ho, rfl, rfl, fun _ _ => rfl, fun i hi => (by cases hi)⟩
  | cons i l ih =>
    rw [List.map_cons, List.nodup_cons] at hnd
    have hi : ∀ j ∈ l, j.num ≠ i.num := fun j hj he => hnd.1 (List.mem_map.2 ⟨j, hj, he⟩)
    obtain ⟨hnext, hapart, hinst⟩ := @InstInv.change C D sh i n pending o (h i (List.mem_cons_self ..)) hD ho
    have hl : ∀ j ∈ l, InstInv C (n :: pending) (callback D C sh (.privateSubnetChange n) i o).2 j := fun j hj =>
      (h j (List.mem_cons_of_mem _ hj)).frame (SameOwn.of_turns (hapart.turns (P := False)) (hi j hj))
        (.inl ⟨hapart.privateSubnet, fun _ => id⟩)
    obtain ⟨o', hproc, ho', ht, hc, hsame, hall⟩ := ih hnd.2 (hapart.sound ho) hl
    refine ⟨o', by rw [processEvt, hnext, hproc], ho', ht.trans hapart.privateSubnet, hc.trans hapart.changes, fun m hm => ?_,
      fun j hj => ?_⟩
    · have h1 : SameOwn m o (callback D C sh (.privateSubnetChange n) i o).2 :=
        SameOwn.of_turns (hapart.turns (P := False)) (Ne.symm (hm i (List.mem_cons_self ..)))
      exact (hsame m fun j hj => hm j (List.mem_cons_of_mem _ hj)).trans h1
    · rcases List.mem_cons.1 hj with rfl | hj
      · exact hinst.frame (hsame _ hi) (.inl ⟨ht, fun _ => id⟩)
      · exact hall j hj

theorem Inv.change {pending : List Nat} (hinv : Inv C s) (hp : s.pending = n :: pending) (hD : D.Succeeds) :
    Inv C (({ s with pending := pending } : SubnetSys).deliver D C sh (.privateSubnetChange n)) := by
  obtain ⟨o', hproc, ho', ht, hc, hsame, hall⟩ := @processEvt_change C D sh n pending hD s.insts hinv.nodup s.out.drained hinv.drained
    fun i hi => hp ▸ (hinv.inst i hi).drained
  rw [@deliver_eq C D sh ({ s with pending := pending } : SubnetSys) _ _ _ hproc,
    List.filter_eq_self.2 fun i hi => (hinv.inst i hi).active, show o'.changes = [] from hc, List.append_nil]
  refine ⟨ho', hinv.nodup, hall, fun m hm hcate => ?_⟩
  exact ((hsame m hm).ofUse .privateSubnet .v4).trans (hinv.gone m hm hcate)

/-! ### Whole runs -/

theorem Inv.create (hinv : Inv C s) (hn : ∀ i ∈ s.insts, i.num ≠ n) : Inv C { s with insts := s.insts ++ [⟨n, {}, false⟩] } := by
  refine ⟨hinv.sound, ?_, fun i hi => ?_, fun m hm => hinv.gone m fun i hi => hm i (List.mem_append_left _ hi)⟩
  · rw [List.map_append, List.map_singleton, ← List.concat_eq_append]
    refine hinv.nodup.concat fun ha => ?_
    obtain ⟨i, hi, he⟩ := List.mem_map.1 ha
    exact hn i hi he
  · rcases List.mem_append.1 hi with hi | hi
    · exact hinv.inst i hi
    · rw [List.mem_singleton.1 hi]
      exact ⟨rfl, .new (.inl rfl), .inl rfl, fun h => (by cases h), fun _ h => (by cases h), fun h => (by cases h),
        fun h => (by cases h), fun hc _ => hinv.gone n hn hc⟩

theorem step_inv {t : SubnetStep} (hinv : Inv C s) (hh : Heard C s t) : Inv C (s.step C t) := by
  obtain ⟨D, sh, evt⟩ := t
  cases evt with
  | create n =>
    unfold step
    dsimp only
    split
    · exact hinv
    next hany => exact hinv.create fun i hi he => hany (List.any_eq_true.2 ⟨i, hi, decide_eq_true he⟩)
  | addrAdd a ha => exact hinv.addrAdd ha hh
  | linkDown n => exact hinv.linkDown hh
  | change =>
    unfold step
    dsimp only
    split
    · exact hinv
    next hp => exact hinv.change hp hh.succeeds

theorem init_inv (C : LanConfs) : Inv C {} :=
  ⟨LanOut.sound_new, List.nodup_nil, fun i hi => (by cases hi), fun _ _ _ => rfl⟩

theorem Inv.followsTable (hinv : Inv C s) : s.FollowsTable C := by
  intro hp i hi h4
  have hI := hinv.inst i hi
  have hrow : Lan.Row (C.rx i.num) i.num (i.lan, s.out) s.out.privateSubnet.rule := (hI.told h4).resolve_right fun hq => by
    obtain ⟨_, m, hm, _⟩ := hq
    rw [hp] at hm
    cases hm
  unfold rules
  rw [show s.out.flt.view (ofUse i.num .privateSubnet .v4) = _ from hrow, List.map_map]
  rfl

end Steps

/-- A run whose steps meet the condition. -/
abbrev SubnetRun (C : LanConfs) : SubnetSys → List SubnetStep → SubnetSys → Prop := Lib.Run fun s t s' => Heard C s t ∧ s' = s.step C t

end SubnetSys

/-- Where every interface hears of the changes, every run of drivers that do what they are asked is such a run. -/
theorem SubnetSys.run_of_hears {C : LanConfs} (hC : ∀ n, SubnetSys.Hears C n) {ts : List SubnetStep} (hD : ∀ t ∈ ts, t.D.Succeeds)
    (s : SubnetSys) : SubnetSys.SubnetRun C s ts (ts.foldl (SubnetSys.step C) s) := by
  induction ts generalizing s with
  | nil => exact .nil s
  | cons t ts ih =>
    refine .cons ⟨⟨hD t (List.mem_cons_self ..), fun _ _ _ j _ _ _ => hC j.num, ?_⟩, rfl⟩
      (ih (fun t' ht' => hD t' (List.mem_cons_of_mem _ ht')) _)
    obtain ⟨D, sh, evt⟩ := t
    cases evt with
    | addrAdd a ha =>
      intro i _ hodu
      rcases hC i.num with hc | hc <;> rw [hodu] at hc <;> cases hc
    | create n => trivial
    | linkDown n => trivial
    | change => trivial

/-! ## Two interfaces -/

def sampleConfs (cate : Nat → LanCate) : LanConfs where
  conf n := { sampleLan with ipaIfNum := n, ipaIfCate := cate n }
  rx _ := ⟨⟨4, none⟩, []⟩
  ipaIfNum _ := rfl
  rxProp _ := rfl

/-- The first interface of a kind, the others LAN interfaces. -/
def firstOf (cate : LanCate) (n : Nat) : LanCate := if n = 1 then cate else .lanIf

theorem v4_family : IpType.v4 ≠ .max := by decide

/-- Two interfaces come up, get an address each, and every change is processed at once. -/
def sampleSubnets : List SubnetStep :=
  [.create 1, .create 2, .addrAdd ⟨.v4, some 1, 0xC0A80101, 0, v4_family⟩ rfl, .change,
    .addrAdd ⟨.v4, some 2, 0xC0A80201, 0, v4_family⟩ rfl, .change].map fun evt => ⟨obedientLan, sampleDown, evt⟩

theorem sampleSubnets_succeeds : ∀ t ∈ sampleSubnets, t.D.Succeeds := by
  intro t ht
  obtain ⟨_, _, rfl⟩ := List.mem_map.1 ht
  exact obedientLan_succeeds

end HiaeCommon
