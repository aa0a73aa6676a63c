/-
What a closed connection leaves in the cache and among the temporary entries
(`IPACM_ConntrackListener.cpp`).

The closing message is turned into a rule the same way the opening one was,
and the entry with that rule's tuple goes. But the rule depends on the
interface lists and on the WAN address of the moment: a connection stored
under its own addresses is not found once it counts as one of a non-NAT
interface, or as none at all, and a dummy entry is not found once its client
has left. So an entry goes exactly when the closing message is still read the
way the entry was written (`Recognised`).
-/
import HiaeCommon.Ipacm.NatCache
import HiaeCommon.Ipacm.ListenerCalls

namespace HiaeCommon

open NatTableEntry (zero Tuple)

namespace NatApp

variable {δ : Type} {env : NatEnv δ}

/-- `temp[cnt]`. -/
def tempSlot (s : NatApp δ) (cnt : Nat) : NatTableEntry := s.temp.getD cnt zero

/-- Nothing in the cache or among the temporary entries stems from the message tagged `k`. -/
def Untagged (s : NatApp δ) (k : Nat) : Prop :=
  (∀ i, (s.slot i).origin ≠ some k) ∧ ∀ i, (s.tempSlot i).origin ≠ some k

@[simp] theorem origin_zero : zero.origin = none := rfl

theorem cache_deleteTempEntry (e : NatTableEntry) (s : NatApp δ) : (s.deleteTempEntry e).cache = s.cache := by
  unfold deleteTempEntry; split <;> rfl

theorem temp_deleteEntry (rule : NatTableEntry) (s : NatApp δ) : (s.deleteEntry env rule).1.temp = s.temp := by
  unfold deleteEntry
  split
  · rfl
  · unfold delRule clearSlot
    split <;> rfl

/-- `DeleteEntry` takes the one entry with the rule's tuple out of the cache, whatever the driver answers. -/
theorem slot_deleteEntry (rule : NatTableEntry) {s : NatApp δ} (hi : Integrity s) (i : Nat) :
    (s.deleteEntry env rule).1.slot i = if (s.slot i).tuple = rule.tuple then zero else s.slot i := by
  unfold deleteEntry
  split
  next hf =>
    by_cases ht : (s.slot i).tuple = rule.tuple
    · -- only beyond the array, where there is nothing to take
      have hlt : ¬ i < s.maxEntries := fun hlt => findSlot_none hf i hlt ht
      rw [if_pos ht, slot_eq_zero (Nat.le_of_not_lt hlt)]
    · rw [if_neg ht]
  next cnt hf =>
    obtain ⟨hlt, ht⟩ := findSlot_some hf
    rw [slot_clearSlot, slot_of_cache (cache_delRule s cnt)]
    by_cases hic : i = cnt
    · subst hic
      rw [if_pos rfl, if_pos ht]
    · rw [if_neg hic]
      split
      next hti =>
        by_cases hz : s.slot i = zero
        · exact hz
        · exact absurd (hi.uniq i cnt hz (hti.trans ht.symm)) hic
      · rfl

/-- The temporary entry `DeleteTempEntry` of a rule finds. -/
def findTemp (s : NatApp δ) (rule : NatTableEntry) : Option Nat :=
  s.temp.findIdx? fun e => e.tuple == rule.tuple

theorem tempSlot_deleteTempEntry (rule : NatTableEntry) (s : NatApp δ) (i : Nat) :
    (s.deleteTempEntry rule).tempSlot i = if s.findTemp rule = some i then zero else s.tempSlot i := by
  unfold deleteTempEntry
  split
  next hf =>
    rw [findTemp, hf]
    rfl
  next cnt hf =>
    obtain ⟨hlt, -⟩ := List.findIdx?_eq_some_iff_getElem.mp hf
    rw [findTemp, hf]
    simp only [tempSlot, List.getD_eq_getElem?_getD, List.getElem?_set, Option.some.injEq]
    by_cases hci : cnt = i
    · subst hci
      simp [hlt]
    · simp [hci]

theorem findTemp_iff {s : NatApp δ} {rule : NatTableEntry} {i : Nat} (hlt : i < s.temp.length) :
    s.findTemp rule = some i ↔
      (s.tempSlot i).tuple = rule.tuple ∧ ∀ j < i, (s.tempSlot j).tuple ≠ rule.tuple := by
  have hslot : ∀ j (hj : j < s.temp.length), s.tempSlot j = s.temp[j] := fun j hj => by
    simp [tempSlot, List.getD_eq_getElem?_getD, hj]
  rw [findTemp, List.findIdx?_eq_some_iff_getElem]
  constructor
  · rintro ⟨h, ht, hfirst⟩
    exact ⟨by rw [hslot i h]; simpa using ht, fun j hj => by rw [hslot j (by omega)]; simpa using hfirst j hj⟩
  · rintro ⟨ht, hfirst⟩
    refine ⟨hlt, by rw [hslot i hlt] at ht; simpa using ht, fun j hj => ?_⟩
    have := hfirst j hj
    rw [hslot j (by omega)] at this
    simpa using this

theorem tempSlot_lt {s : NatApp δ} {i k : Nat} (h : (s.tempSlot i).origin = some k) : i < s.temp.length := by
  by_contra hlt
  rw [tempSlot, List.getD_eq_getElem?_getD, List.getElem?_eq_none (Nat.le_of_not_lt hlt)] at h
  simp at h

theorem untagged_iff_mem {s : NatApp δ} {k : Nat} :
    Untagged s k ↔ (∀ e ∈ s.cache, e.origin ≠ some k) ∧ ∀ e ∈ s.temp, e.origin ≠ some k := by
  have getD : ∀ l : List NatTableEntry, (∀ i, (l.getD i zero).origin ≠ some k) ↔ ∀ e ∈ l, e.origin ≠ some k := by
    intro l
    constructor
    · intro h e he
      obtain ⟨i, hi, rfl⟩ := List.mem_iff_getElem.mp he
      simpa [List.getD_eq_getElem?_getD, hi] using h i
    · intro h i
      by_cases hi : i < l.length
      · simpa [List.getD_eq_getElem?_getD, hi] using h l[i] (List.getElem_mem hi)
      · simp [List.getD_eq_getElem?_getD, Nat.le_of_not_lt hi]
  exact and_congr (getD s.cache) (getD s.temp)

instance (s : NatApp δ) (k : Nat) : Decidable (Untagged s k) := decidable_of_iff _ untagged_iff_mem.symm

/-- What is tagged goes exactly when it is found. -/
theorem untagged_delete_iff {s : NatApp δ} (hi : Integrity s) (rule : NatTableEntry) (k : Nat) :
    Untagged ((s.deleteEntry env rule).1.deleteTempEntry rule) k ↔
      (∀ i, (s.slot i).origin = some k → (s.slot i).tuple = rule.tuple) ∧
        ∀ i, (s.tempSlot i).origin = some k → s.findTemp rule = some i := by
  have hft : (s.deleteEntry env rule).1.findTemp rule = s.findTemp rule := by
    rw [findTemp, temp_deleteEntry, findTemp]
  have hts : ∀ i, (s.deleteEntry env rule).1.tempSlot i = s.tempSlot i := fun i => by
    rw [tempSlot, temp_deleteEntry, tempSlot]
  refine and_congr (forall_congr' fun i => ?_) (forall_congr' fun i => ?_)
  · rw [slot_of_cache (cache_deleteTempEntry rule _), slot_deleteEntry rule hi]
    by_cases ht : (s.slot i).tuple = rule.tuple <;> simp [ht]
  · rw [tempSlot_deleteTempEntry, hft, hts]
    by_cases hf : s.findTemp rule = some i <;> simp [hf]

end NatApp

namespace ConntrackListener

open NatApp (Integrity Untagged)

variable {δ : Type} {env : NatEnv δ}

/-! ## How the closing message is read -/

/-- The connection counts as one of the clients', under its own addresses:
passed through, on a NATed interface, or in a private subnet and on no non-NAT interface. -/
def ReadsPlain (l : ConntrackListener δ) (rule : NatTableEntry) : Prop :=
  rule.privateIp ≠ l.wanIpaddr ∧
    (l.isPassthrough rule = true ∨ onIface l.natIfaceIpv4Addr rule = true ∨
      (l.isStaMode = true ∨ onIface l.nonnatIfaceIpv4Addr rule = false) ∧ l.isPrivate rule = true)

/-- The connection counts as one outside the NATed interfaces: of this device, or of a non-NAT interface. -/
def ReadsDummy (l : ConntrackListener δ) (rule : NatTableEntry) : Prop :=
  l.isStaMode = false ∧ (rule.privateIp = l.wanIpaddr ∨
    l.isPassthrough rule = false ∧ onIface l.natIfaceIpv4Addr rule = false ∧
      onIface l.nonnatIfaceIpv4Addr rule = true)

/-- Message `m` would be read as the connection `t`. -/
def ReadsAs (l : ConntrackListener δ) (m : CtMsg) (t : Tuple) : Prop :=
  ∃ status, l.natStatus m.ct = some status ∧
    let rule := populateTCPorUDPEntry m.ct status l.wanIpaddr m.tag
    (l.ReadsPlain rule ∧ rule.tuple = t) ∨
      (l.ReadsDummy rule ∧ { rule.tuple with privateIp := l.wanIpaddr, privatePort := rule.publicPort } = t)

theorem publicIp_populate (ct : NfConntrack) (status publicIp tag) :
    (populateTCPorUDPEntry ct status publicIp tag).publicIp = publicIp := by
  unfold populateTCPorUDPEntry; split <;> rfl

theorem protocol_populate (ct : NfConntrack) (status publicIp tag) :
    (populateTCPorUDPEntry ct status publicIp tag).protocol = ct.replL4proto := by
  unfold populateTCPorUDPEntry; split <;> rfl

/-- `AddIface`, by the form in which the rule comes out. -/
theorem addIface_tuple {l : ConntrackListener δ} {rule : NatTableEntry} (hpub : rule.publicIp = l.wanIpaddr)
    (hne : rule.privateIp ≠ l.wanIpaddr) {t : Tuple} :
    (∃ r temp, l.addIface rule = some (r, temp) ∧ r.tuple = t) ↔
      (l.ReadsPlain rule ∧ rule.tuple = t) ∨
        (l.ReadsDummy rule ∧ { rule.tuple with privateIp := l.wanIpaddr, privatePort := rule.publicPort } = t) := by
  unfold addIface ReadsPlain ReadsDummy
  by_cases hp : l.isPassthrough rule = true
  · simp [hp, hne]
  by_cases hn : onIface l.natIfaceIpv4Addr rule = true
  · simp [hp, hn, hne]
  by_cases hs : l.isStaMode = true
  · by_cases hv : l.isPrivate rule = true <;> simp [hp, hn, hs, hv, hne]
  by_cases hd : onIface l.nonnatIfaceIpv4Addr rule = true
  · simp [hp, hn, hs, hd, hne, hpub, NatTableEntry.tuple]
  · by_cases hv : l.isPrivate rule = true <;> simp [hp, hn, hs, hd, hv, hne]

/-- **The rule a message is turned into**, by its tuple. -/
theorem natEntry_tuple {l : ConntrackListener δ} {m : CtMsg} {t : Tuple} :
    (∃ r temp, l.natEntry m = some (r, temp) ∧ r.tuple = t) ↔ l.ReadsAs m t := by
  unfold natEntry ReadsAs
  cases hst : l.natStatus m.ct with
  | none => simp
  | some status =>
    simp only [Option.bind_eq_bind, Option.bind_some, Option.some.injEq, exists_eq_left']
    have hpub := publicIp_populate m.ct status l.wanIpaddr m.tag
    generalize populateTCPorUDPEntry m.ct status l.wanIpaddr m.tag = rule at hpub ⊢
    by_cases hne : rule.privateIp = l.wanIpaddr
    · -- the device's own connection
      by_cases hs : l.isStaMode = true
      · simp [hne, hs, ReadsPlain, ReadsDummy]
      · simp [hne, hs, ReadsPlain, ReadsDummy, NatTableEntry.tuple]
    · rw [← addIface_tuple hpub hne]
      simp only [ne_eq, hne, not_false_eq_true, if_true]
      constructor
      · rintro ⟨r, temp, h, ht⟩
        cases ha : l.addIface rule with
        | none => simp [ha] at h
        | some p =>
          obtain ⟨r', temp'⟩ := p
          simp only [ha, Option.bind_some, Option.pure_def, Option.some.injEq, Prod.mk.injEq] at h
          exact ⟨r', temp', rfl, by rw [h.1, ht]⟩
      · rintro ⟨r, temp, h, ht⟩
        exact ⟨r, _, by rw [h]; rfl, ht⟩

theorem protocol_natEntry {l : ConntrackListener δ} {m : CtMsg} {r : NatTableEntry} {temp : Bool}
    (h : l.natEntry m = some (r, temp)) : r.protocol = m.ct.replL4proto := by
  obtain ⟨status, -, hr⟩ := natEntry_tuple.mp ⟨r, temp, h, rfl⟩
  rcases hr with ⟨-, ht⟩ | ⟨-, ht⟩
  · exact (congrArg Tuple.protocol ht).symm.trans (protocol_populate ..)
  · exact (congrArg Tuple.protocol ht).symm.trans (protocol_populate ..)

/-! ## Opening and closing -/

/-- A TCP or UDP connection. -/
def IsTcpOrUdp (ct : NfConntrack) : Prop :=
  ct.origL4proto = ct.replL4proto ∧ (ct.replL4proto = ipprotoTcp ∨ ct.replL4proto = ipprotoUdp)

/-- TCP ESTABLISHED, UDP NEW. -/
def IsOpening (m : CtMsg) : Prop :=
  IsTcpOrUdp m.ct ∧ (m.ct.replL4proto = ipprotoTcp ∧ m.tcpState = tcpConntrackEstablished ∨
    m.ct.replL4proto = ipprotoUdp ∧ m.type = .new)

/-- TCP FIN_WAIT or DESTROY, UDP DESTROY. -/
def IsClosing (m : CtMsg) : Prop :=
  IsTcpOrUdp m.ct ∧ (m.ct.replL4proto = ipprotoTcp ∧ (m.tcpState = tcpConntrackFinWait ∨ m.type = .destroy) ∨
    m.ct.replL4proto = ipprotoUdp ∧ m.type = .destroy)

/-- The two messages are of one connection: only the NAT flags of the status last. -/
def SameConnection (m m' : CtMsg) : Prop :=
  m'.ct = { m.ct with status := m'.ct.status } ∧
    (m'.ct.status &&& (ipsSrcNat ||| ipsDstNat)) = (m.ct.status &&& (ipsSrcNat ||| ipsDstNat))

instance (ct : NfConntrack) : Decidable (IsTcpOrUdp ct) := inferInstanceAs (Decidable (_ ∧ _))
instance (m : CtMsg) : Decidable (IsOpening m) := inferInstanceAs (Decidable (_ ∧ _))
instance (m : CtMsg) : Decidable (IsClosing m) := inferInstanceAs (Decidable (_ ∧ _))
instance (m m' : CtMsg) : Decidable (SameConnection m m') := inferInstanceAs (Decidable (_ ∧ _))

/-- What is stored under tag `k` is stored as the message `m` is read: each
entry carries the tuple of that reading, and a temporary one is the first to do so. -/
def Recognised (l : ConntrackListener δ) (m : CtMsg) (k : Nat) : Prop :=
  (∀ i, (l.nat.slot i).origin = some k → l.ReadsAs m (l.nat.slot i).tuple) ∧
    ∀ i, (l.nat.tempSlot i).origin = some k → l.ReadsAs m (l.nat.tempSlot i).tuple ∧
      ∀ j < i, (l.nat.tempSlot j).tuple ≠ (l.nat.tempSlot i).tuple

/-- A closing message that does not carry the TCP state of an opening one is acted on as such. -/
theorem processCTMessage_closing {l : ConntrackListener δ} {m : CtMsg} (hc : IsClosing m)
    (hst : m.ct.replL4proto = ipprotoTcp → m.tcpState ≠ tcpConntrackEstablished) :
    l.processCTMessage env m = match l.natEntry m with
      | none => l
      | some (rule, _) => l.deleteNatEntry env rule := by
  obtain ⟨⟨hproto, htu⟩, hm⟩ := hc
  have horig : ¬ (m.ct.origL4proto ≠ ipprotoUdp ∧ m.ct.origL4proto ≠ ipprotoTcp) := by
    rw [hproto]
    rcases htu with h | h <;> simp [h]
  rw [processCTMessage, if_neg horig]
  cases hn : l.natEntry m with
  | none => rfl
  | some p =>
    obtain ⟨rule, temp⟩ := p
    have hp := protocol_natEntry hn
    simp only [addORDeleteNatEntry, hp]
    rcases hm with ⟨ht, hm⟩ | ⟨hu, hm⟩
    · simp [ht, hst ht, hm]
    · have : ipprotoUdp ≠ ipprotoTcp := by decide
      simp [hu, hm, this]

/-- **A closing message removes what is tagged exactly when it is read as it was written.** -/
theorem closing_untagged_iff {l : ConntrackListener δ} {m : CtMsg} {k : Nat} (hi : Integrity l.nat) (hc : IsClosing m)
    (hst : m.ct.replL4proto = ipprotoTcp → m.tcpState ≠ tcpConntrackEstablished) :
    Untagged (l.processCTMessage env m).nat k ↔ l.Recognised m k := by
  rw [processCTMessage_closing hc hst]
  cases hn : l.natEntry m with
  | none =>
    -- the message is ignored, so nothing may be left
    have hno : ∀ t, ¬ l.ReadsAs m t := fun t h => by
      obtain ⟨r, temp, hr, -⟩ := natEntry_tuple.mpr h
      simp [hn] at hr
    simp [Recognised, Untagged, hno]
  | some p =>
    obtain ⟨rule, temp⟩ := p
    have hreads : ∀ t, l.ReadsAs m t ↔ rule.tuple = t := fun t => by
      rw [← natEntry_tuple]
      constructor
      · rintro ⟨r, temp', hr, ht⟩
        rw [hn, Option.some.injEq, Prod.mk.injEq] at hr
        rw [hr.1, ht]
      · rintro ht
        exact ⟨rule, temp, hn, ht⟩
    refine (NatApp.untagged_delete_iff hi rule k).trans (and_congr (forall_congr' fun i => ?_) (forall_congr' fun i => ?_))
    · rw [hreads, eq_comm (a := rule.tuple)]
    · refine imp_congr_right fun htag => ?_
      rw [NatApp.findTemp_iff (NatApp.tempSlot_lt htag), hreads]
      constructor
      · rintro ⟨ht, hfirst⟩
        exact ⟨ht.symm, fun j hj => ht ▸ hfirst j hj⟩
      · rintro ⟨ht, hfirst⟩
        exact ⟨ht.symm, fun j hj => ht ▸ hfirst j hj⟩

/-! ## Runs -/

/-- **No event breaks the cache.** -/
theorem step_integrity {l : ConntrackListener δ} (hi : Integrity l.nat) (e : ListenerEvt) : Integrity (l.step env e).nat :=
  step_nat e hi fun op s _ hs => NatApp.Edits.integrity (NatApp.step_edits env s op) hs

theorem run_integrity {l : ConntrackListener δ} (hi : Integrity l.nat) (es : List ListenerEvt) :
    Integrity (l.run env es).nat := by
  induction es generalizing l with
  | nil => exact hi
  | cons e es ih => exact ih (step_integrity hi e)

/-- A connection of client 10 behind the WAN address 20. -/
def sampleConnection : NfConntrack where
  status := ipsSrcNat
  origL4proto := ipprotoTcp
  replL4proto := ipprotoTcp
  origIpv4Src := 10
  origIpv4Dst := 8
  origPortSrc := 5000
  origPortDst := 443
  replIpv4Src := 8
  replPortSrc := 443
  replPortDst := 6000

def sampleOpening : CtMsg := ⟨sampleConnection, tcpConntrackEstablished, .update, some 1⟩
def sampleClosing : CtMsg := ⟨sampleConnection, tcpConntrackFinWait, .update, none⟩

/-- The WAN is up, and client 10 sits behind an interface that is not NATed. -/
def sampleEvents : List ListenerEvt := [.wanUp 20 false, .neighClientIpAddrAdd ⟨10, true, some false⟩]

def sampleListener : ConntrackListener Unit := init ⟨false, 20, []⟩ false 0 NatApp.sampleInit

/-- The rule its closing message is turned into. -/
def sampleDummy : NatTableEntry :=
  { privateIp := 20, privatePort := 6000, targetIp := 8, targetPort := 443, publicIp := 20, publicPort := 6000
    protocol := ipprotoTcp }

/-- Nothing waits among the temporary entries, and what is cached has the tuple of the reading. -/
theorem Recognised.of_mem {l : ConntrackListener δ} {m : CtMsg} {k : Nat} {r : NatTableEntry} {t : Bool}
    (hn : l.natEntry m = some (r, t)) (hc : ∀ e ∈ l.nat.cache, e.origin = some k → e.tuple = r.tuple)
    (ht : ∀ e ∈ l.nat.temp, e.origin ≠ some k) : l.Recognised m k := by
  refine ⟨fun i hi => ?_, fun i hi => ?_⟩
  · have hlt := NatApp.slot_lt (s := l.nat) (i := i) fun hz => by simp [hz] at hi
    exact natEntry_tuple.mp ⟨r, t, hn, (hc _ (NatApp.mem_cache_iff.mpr ⟨i, hlt, rfl⟩) hi).symm⟩
  · have hlt := NatApp.tempSlot_lt hi
    rw [NatApp.tempSlot, List.getD_eq_getElem?_getD, List.getElem?_eq_getElem hlt] at hi
    exact absurd hi (ht _ (List.getElem_mem hlt))

end ConntrackListener
end HiaeCommon
