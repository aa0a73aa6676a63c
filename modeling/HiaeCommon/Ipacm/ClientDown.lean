/-
The removal of a client while deletions fail (`handle_eth_client_down_evt`,
`handle_wlan_client_down_evt`). A header that could not be deleted keeps its
flag, and the operation reports the failure. A routing rule that could not be
deleted is reported as deleted and its flag goes with the others of its group,
so the operation does what it should exactly when its calls for routing rules
succeed.
-/
import HiaeCommon.Ipacm.ClientDeletes
import HiaeCommon.Ipacm.EthClients
import HiaeCommon.Ipacm.Wlan

namespace HiaeCommon

open Lib (Ledger)

variable {σ : Type} {D : IpaDriver} {tx : List TxProp}

/-- What the records list is in the driver, beside what others have there, and no handle is zero. -/
structure ClientTable.InDriver (tx : List TxProp) (t : ClientTable σ) (o : Outside) : Prop where
  rt : ∃ rest, o.rt.Keeps (t.rtHdls tx + rest)
  hdr : ∃ rest, o.hdr.Keeps (t.hdrHdls + rest)
  rt_ne_zero : 0 ∉ o.rt.used
  hdr_ne_zero : 0 ∉ o.hdr.used

/-- Nothing of the client is left in the driver. -/
def Client.NoneLeft (tx : List TxProp) (c : Client σ) (o : Outside) : Prop :=
  (∀ h ∈ c.rtHdls tx, h ∉ o.rt.used) ∧ ∀ h ∈ c.hdrHdls, h ∉ o.hdr.used

/-- What the removal of client `c` at `i` promises of its result: after a success nothing is left of it,
after a failure the record lists what is, and the operation may be repeated. -/
structure CleanRemoval (tx : List TxProp) (c : Client σ) (i : Nat) (res : Bool) (t : ClientTable σ) (o : Outside)
    (again : IpaDriver → Bool × Outside) : Prop where
  success : res = true → c.NoneLeft tx o
  kept : res = false → i < t.num ∧ (t.slot i).mac = c.mac
  listedRt : res = false → ∀ h, h ∈ (t.slot i).rtHdls tx ↔ h ∈ c.rtHdls tx ∧ h ∈ o.rt.used
  listedHdr : res = false → ∀ h, h ∈ (t.slot i).hdrHdls ↔ h ∈ c.hdrHdls ∧ h ∈ o.hdr.used
  once : res = false → ∀ D', (again D').2.rt.misses = 0 ∧ (again D').2.hdr.misses = 0
  rest : res = false → ∀ D', (∀ n, D'.fails n = false) → (again D').1 = true ∧ c.NoneLeft tx (again D').2

namespace Client

/-- **The deletions of a client**: `left` are the routing rules whose deletion failed. -/
theorem clean_left {c : Client σ} {o : Outside} {s u : Multiset Nat} (hrt : o.rt.Keeps (c.rtHdls tx + s))
    (hhdr : o.hdr.Keeps (c.hdrHdls + u)) (hrt0 : 0 ∉ c.rtHdls tx) (hhdr0 : 0 ∉ c.hdrHdls) :
    ∃ left : Multiset Nat, left ≤ c.rtHdls tx ∧ (c.clean D tx o).2.2.rt.Keeps (left + s) ∧
      (left = 0 ↔ ∀ k < (c.rtHdls tx).length, D.fails (o.calls + k) = false) ∧
      (c.clean D tx o).2.2.hdr.Keeps ((c.clean D tx o).2.1.hdrHdls + u) ∧
      ((c.clean D tx o).1 = true ∧ (c.clean D tx o).2.1 = c.routesOff.headersSet false false ∨
        (c.clean D tx o).1 = false ∧ (∃ v4, (v4 = true → c.ipv4HeaderSet = true) ∧
          (c.clean D tx o).2.1 = c.routesOff.headersSet v4 c.ipv6HeaderSet) ∧ ∃ n, D.fails n = true) := by
  obtain ⟨left, hle, hkeep, hh, -, hleft⟩ := Outside.deleteRoutingHdls_keeps (D := D) hrt0 hrt
  obtain ⟨h1, h2, h3⟩ := deleteHeaders_left (D := D) (c := c.routesOff) (o := o.deleteRoutingHdls D (c.rtHdls tx)) (u := u)
    (hh ▸ hhdr) hhdr0
  rw [clean_eq]
  exact ⟨left, hle, h1 ▸ hkeep, hleft, h2, h3⟩

theorem hdrHdls_headersSet_sub {c : Client σ} {v4 : Bool} (hv : v4 = true → c.ipv4HeaderSet = true) {h : Nat}
    (hm : h ∈ (c.routesOff.headersSet v4 c.ipv6HeaderSet).hdrHdls) : h ∈ c.hdrHdls := by
  simp only [hdrHdls, headersSet, routesOff] at hm ⊢
  cases List.mem_append.1 hm with
  | inl h4 =>
    cases v4 with
    | false => simp at h4
    | true => exact List.mem_append_left _ (by simpa [hv rfl] using h4)
  | inr h6 => exact List.mem_append_right _ h6

end Client

namespace ClientTable

theorem index_some {t : ClientTable σ} {mac : MacAddr} {i : Nat} (h : t.index mac = some i) :
    i < t.num ∧ (t.slot i).mac = mac := by
  refine ⟨List.mem_range.1 (List.mem_of_find?_eq_some h), ?_⟩
  simpa using List.find?_some h

@[simp] theorem set_num (t : ClientTable σ) (i : Nat) (c : Client σ) : (t.set i c).num = t.num := rfl

@[simp] theorem set_slot_self (t : ClientTable σ) (i : Nat) (c : Client σ) : (t.set i c).slot i = c := if_pos rfl

theorem set_slot_ne (t : ClientTable σ) {i k : Nat} (h : k ≠ i) (c : Client σ) : (t.set i c).slot k = t.slot k := if_neg h

/-- The record keeps its MAC, so it is found where it was. -/
theorem index_set {t : ClientTable σ} {mac : MacAddr} {i : Nat} {c : Client σ} (hc : c.mac = (t.slot i).mac) :
    (t.set i c).index mac = t.index mac := by
  have : ∀ k, ((t.set i c).slot k).mac = (t.slot k).mac := fun k => by
    by_cases hk : k = i
    · rw [hk, set_slot_self, hc]
    · rw [set_slot_ne t hk]
  simp only [index, set_num, this]

theorem rtHdls_split (t : ClientTable σ) {i : Nat} (hi : i < t.num) :
    t.rtHdls tx = (t.slot i).rtHdls tx + ∑ k ∈ (Finset.range t.num).erase i, ((t.slot k).rtHdls tx : Multiset Nat) :=
  (Finset.add_sum_erase _ _ (Finset.mem_range.2 hi)).symm

theorem hdrHdls_split (t : ClientTable σ) {i : Nat} (hi : i < t.num) :
    t.hdrHdls = (t.slot i).hdrHdls + ∑ k ∈ (Finset.range t.num).erase i, ((t.slot k).hdrHdls : Multiset Nat) :=
  (Finset.add_sum_erase _ _ (Finset.mem_range.2 hi)).symm

/-- The removal of an attached client, in terms of its deletions. -/
theorem clientDown_some {t : ClientTable σ} {mac : MacAddr} {i : Nat} (hi : t.index mac = some i) (o : Outside) :
    ∃ o₁ : Outside, o₁.rt = o.rt ∧ o₁.hdr = o.hdr ∧ o₁.calls = o.calls ∧
      (t.clientDown D tx mac o).2.2 = ((t.slot i).clean D tx o₁).2.2 ∧
      if ((t.slot i).clean D tx o₁).1 then (t.clientDown D tx mac o).1 = .deleted
      else (t.clientDown D tx mac o).1 = .failed ∧ (t.clientDown D tx mac o).2.1 = t.set i ((t.slot i).clean D tx o₁).2.1 := by
  refine ⟨if (t.slot i).ipv4Set then o.tell (.neighIpAddrDel (t.slot i).v4Addr) else o, ?_, ?_, ?_, ?_⟩
  · split <;> rfl
  · split <;> rfl
  · split <;> rfl
  · simp only [clientDown, hi]
    rcases (t.slot i).clean D tx (if (t.slot i).ipv4Set then o.tell (.neighIpAddrDel (t.slot i).v4Addr) else o) with ⟨ok, c, o'⟩
    cases ok with
    | true => exact ⟨rfl, rfl⟩
    | false => exact ⟨rfl, rfl, rfl⟩

/-- Of the handles `hs`, those still in use are the ones the ledger keeps as `left`. -/
theorem mem_left {ρ : Type} {d : Ledger ρ} {hs left s : Multiset Nat} (hnd : (hs + s).Nodup) (hk : d.Keeps (left + s)) {h : Nat}
    (hm : h ∈ hs) : h ∈ d.used ↔ h ∈ left := by
  rw [hk.mem, Multiset.mem_add]
  have hdis := (Multiset.nodup_add.1 hnd).2.2
  exact ⟨fun h' => h'.resolve_right fun hs' => Multiset.disjoint_left.1 hdis hm hs', .inl⟩

/-- What the result of the removal has to do with the outcome of the calls. -/
structure Removed (D : IpaDriver) (tx : List TxProp) (t : ClientTable σ) (mac : MacAddr) (i : Nat) (s u left : Multiset Nat)
    (o : Outside) : Prop where
  rt : (t.clientDown D tx mac o).2.2.rt.Keeps (left + s)
  none_left : left = 0 ↔ ∀ k < ((t.slot i).rtHdls tx).length, D.fails (o.calls + k) = false
  le : left ≤ (t.slot i).rtHdls tx
  res : (t.clientDown D tx mac o).1 = .deleted ∧ (t.clientDown D tx mac o).2.2.hdr.Keeps u ∨
    (t.clientDown D tx mac o).1 = .failed ∧ (∃ n, D.fails n = true) ∧
      ∃ c : Client σ, (t.clientDown D tx mac o).2.1 = t.set i c ∧ c.mac = (t.slot i).mac ∧ c.rtHdls tx = [] ∧
        (∀ h ∈ c.hdrHdls, h ∈ (t.slot i).hdrHdls) ∧ (t.clientDown D tx mac o).2.2.hdr.Keeps (c.hdrHdls + u)

theorem clientDown_removed {t : ClientTable σ} {mac : MacAddr} {i : Nat} (hi : t.index mac = some i) {o : Outside}
    {s u : Multiset Nat} (hrt : o.rt.Keeps ((t.slot i).rtHdls tx + s)) (hhdr : o.hdr.Keeps ((t.slot i).hdrHdls + u))
    (hrt0 : 0 ∉ (t.slot i).rtHdls tx) (hhdr0 : 0 ∉ (t.slot i).hdrHdls) : ∃ left, Removed D tx t mac i s u left o := by
  obtain ⟨o₁, h1, h2, h3, h4, h5⟩ := @clientDown_some _ D tx _ _ _ hi o
  obtain ⟨left, hle, hkeep, hleft, hhkeep, hres⟩ := Client.clean_left (D := D) (h1 ▸ hrt) (h2 ▸ hhdr) hrt0 hhdr0
  rw [← h4] at hkeep hhkeep
  refine ⟨left, hkeep, h3 ▸ hleft, hle, ?_⟩
  cases hres with
  | inl hres =>
    rw [hres.1, if_pos rfl] at h5
    rw [hres.2] at hhkeep
    exact .inl ⟨h5, hhkeep.of_eq (zero_add u)⟩
  | inr hres =>
    obtain ⟨hok, ⟨v4, hv4, hc⟩, hf⟩ := hres
    rw [hok, if_neg Bool.false_ne_true, hc] at h5
    rw [hc] at hhkeep
    exact .inr ⟨h5.1, hf, _, h5.2, rfl, Client.rtHdls_routesOff _, fun h hm => Client.hdrHdls_headersSet_sub hv4 hm, hhkeep⟩

/-- **The removal of a client is clean exactly when its deletions of routing rules succeed.** -/
theorem clientDown_clean_iff {t : ClientTable σ} {o : Outside} (hin : t.InDriver tx o) {mac : MacAddr} {i : Nat}
    (hi : t.index mac = some i) :
    CleanRemoval tx (t.slot i) i (decide ((t.clientDown D tx mac o).1 ≠ .failed)) (t.clientDown D tx mac o).2.1
      (t.clientDown D tx mac o).2.2 (fun D' =>
        (decide (((t.clientDown D tx mac o).2.1.clientDown D' tx mac (t.clientDown D tx mac o).2.2).1 ≠ .failed),
          ((t.clientDown D tx mac o).2.1.clientDown D' tx mac (t.clientDown D tx mac o).2.2).2.2)) ↔
      ∀ k < ((t.slot i).rtHdls tx).length, D.fails (o.calls + k) = false := by
  obtain ⟨hlt, hmac⟩ := index_some hi
  obtain ⟨rest, hrt⟩ := hin.rt
  obtain ⟨restH, hhdr⟩ := hin.hdr
  rw [rtHdls_split t hlt, add_assoc] at hrt
  rw [hdrHdls_split t hlt, add_assoc] at hhdr
  have hrt0 : 0 ∉ (t.slot i).rtHdls tx := fun h => hin.rt_ne_zero (hrt.mem.2 (Multiset.mem_add.2 (.inl h)))
  have hhdr0 : 0 ∉ (t.slot i).hdrHdls := fun h => hin.hdr_ne_zero (hhdr.mem.2 (Multiset.mem_add.2 (.inl h)))
  generalize ∑ k ∈ (Finset.range t.num).erase i, ((t.slot k).rtHdls tx : Multiset Nat) + rest = s at hrt
  generalize ∑ k ∈ (Finset.range t.num).erase i, ((t.slot k).hdrHdls : Multiset Nat) + restH = u at hhdr
  have hndr := hrt.multiset_nodup
  have hndh := hhdr.multiset_nodup
  obtain ⟨left, hr⟩ := clientDown_removed (D := D) hi hrt hhdr hrt0 hhdr0
  rw [← hr.none_left]
  -- a rule whose deletion failed is one of the client's, and still there
  have hlive : ∀ h ∈ left, h ∈ (t.slot i).rtHdls tx ∧ h ∈ (t.clientDown D tx mac o).2.2.rt.used := fun h hm =>
    ⟨Multiset.mem_coe.1 (Multiset.mem_of_le hr.le hm), hr.rt.mem.2 (Multiset.mem_add.2 (.inl hm))⟩
  cases hr.res with
  | inl hres =>
    constructor
    · intro hclean
      have hnone := hclean.success (by simp [hres.1])
      exact Multiset.eq_zero_of_forall_notMem fun h hm => hnone.1 h (hlive h hm).1 (hlive h hm).2
    · rintro rfl
      have hno : decide ((t.clientDown D tx mac o).1 ≠ .failed) ≠ false := by simp [hres.1]
      refine ⟨fun _ => ⟨fun h hm hu => ?_, fun h hm hu => ?_⟩, fun h => absurd h hno, fun h => absurd h hno,
        fun h => absurd h hno, fun h => absurd h hno, fun h => absurd h hno⟩
      · cases (mem_left hndr hr.rt (Multiset.mem_coe.2 hm)).1 hu
      · cases (@mem_left _ _ _ 0 _ hndh (hres.2.of_eq (zero_add u).symm) _ (Multiset.mem_coe.2 hm)).1 hu
  | inr hres =>
    obtain ⟨hfail, -, c, ht, hcmac, hcrt, hsub, hkeep⟩ := hres
    rw [ht, hfail]
    constructor
    · intro hclean
      refine Multiset.eq_zero_of_forall_notMem fun h hm => ?_
      have := (hclean.listedRt rfl h).2 (hlive h hm)
      rw [set_slot_self, hcrt] at this
      cases this
    · rintro rfl
      have hrt' := hr.rt.of_eq (zero_add s)
      -- the operation once more, on what the failure left
      have hagain := fun D' : IpaDriver => @clientDown_removed _ D' tx (t.set i c) mac i (by rw [index_set hcmac, hi])
        (t.clientDown D tx mac o).2.2 s u (by rw [set_slot_self, hcrt]; exact hr.rt) (by rw [set_slot_self]; exact hkeep)
        (by rw [set_slot_self, hcrt]; exact List.not_mem_nil) (by rw [set_slot_self]; exact fun h => hhdr0 (hsub 0 h))
      refine ⟨(fun h => nomatch h), fun _ => ⟨hlt, by rw [set_slot_self, hcmac]⟩, fun _ h => ?_, fun _ h => ?_, fun _ D' => ?_,
        fun _ D' hD' => ?_⟩
      · rw [set_slot_self, hcrt]
        exact ⟨(fun h => nomatch h), fun ⟨hm, hu⟩ => by cases (mem_left hndr hr.rt (Multiset.mem_coe.2 hm)).1 hu⟩
      · rw [set_slot_self]
        refine ⟨fun hm => ⟨hsub h hm, hkeep.mem.2 (Multiset.mem_add.2 (.inl hm))⟩, fun ⟨hm, hu⟩ => ?_⟩
        exact Multiset.mem_coe.1 ((mem_left hndh hkeep (Multiset.mem_coe.2 hm)).1 hu)
      · obtain ⟨left', hr'⟩ := hagain D'
        refine ⟨hr'.rt.misses, ?_⟩
        cases hr'.res with
        | inl hres => exact hres.2.misses
        | inr hres =>
          obtain ⟨-, -, c', -, -, -, -, hk'⟩ := hres
          exact hk'.misses
      · obtain ⟨left', hr'⟩ := hagain D'
        have hl' : left' = 0 := Multiset.le_zero.1 (by have := hr'.le; rwa [set_slot_self, hcrt] at this)
        cases hr'.res with
        | inl hres =>
          refine ⟨by simp [hres.1], fun h hm hu => ?_, fun h hm hu => ?_⟩
          · cases (@mem_left _ _ _ 0 _ hndr (hl' ▸ hr'.rt) _ (Multiset.mem_coe.2 hm)).1 hu
          · cases (@mem_left _ _ _ 0 _ hndh (hres.2.of_eq (zero_add u).symm) _ (Multiset.mem_coe.2 hm)).1 hu
        | inr hres =>
          obtain ⟨-, ⟨n, hn⟩, -⟩ := hres
          rw [hD' n] at hn
          cases hn

theorem clientDown_none {t : ClientTable σ} {mac : MacAddr} (h : t.index mac = none) (o : Outside) :
    t.clientDown D tx mac o = (.notAttached, t, o) := by
  simp only [clientDown, h]

theorem clientDown_notAttached {t t' : ClientTable σ} {mac : MacAddr} {o o' : Outside}
    (h : t.clientDown D tx mac o = (.notAttached, t', o')) : t' = t := by
  unfold clientDown at h
  split at h
  · cases h
    rfl
  · dsimp only at h
    split at h <;> cases h

end ClientTable

theorem EthClients.handleEthClientDownEvt_eq (l : EthClients) (mac : MacAddr) (o : Outside) :
    ∃ rm, l.handleEthClientDownEvt D mac o =
      (decide ((l.ethClient.clientDown D l.txProp mac o).1 ≠ .failed),
        { l with ethClient := (l.ethClient.clientDown D l.txProp mac o).2.1 }, (l.ethClient.clientDown D l.txProp mac o).2.2, rm) := by
  unfold EthClients.handleEthClientDownEvt
  rcases h : l.ethClient.clientDown D l.txProp mac o with ⟨res, t, o'⟩
  cases res with
  | notAttached => exact ⟨_, by rw [ClientTable.clientDown_notAttached h]; rfl⟩
  | failed => exact ⟨_, rfl⟩
  | deleted => exact ⟨_, rfl⟩

theorem Wlan.handleWlanClientDownEvt_eq (w : Wlan) (mac : MacAddr) (total : Int) (o : Outside) :
    ∃ total', w.handleWlanClientDownEvt D mac total o =
      (decide ((w.wlanClient.clientDown D w.txProp mac o).1 ≠ .failed),
        { w with wlanClient := (w.wlanClient.clientDown D w.txProp mac o).2.1 }, total',
        (w.wlanClient.clientDown D w.txProp mac o).2.2) := by
  unfold Wlan.handleWlanClientDownEvt
  rcases h : w.wlanClient.clientDown D w.txProp mac o with ⟨res, t, o'⟩
  cases res with
  | notAttached => exact ⟨_, by rw [ClientTable.clientDown_notAttached h]; rfl⟩
  | failed => exact ⟨_, rfl⟩
  | deleted => exact ⟨_, rfl⟩

/-- **Deleting a client under driver failures**, of an `IPACM_Lan` and of an `IPACM_Wlan`: what the operation
promises of its result holds exactly when none of its deletions of routing rules fails. -/
theorem client_removal_iff :
    (∀ (l : EthClients) (o : Outside) (mac : MacAddr) (i : Nat), l.ethClient.InDriver l.txProp o → l.ethClient.index mac = some i →
      ((let r := l.handleEthClientDownEvt D mac o
        CleanRemoval l.txProp (l.ethClient.slot i) i r.1 r.2.1.ethClient r.2.2.1 fun D' =>
          let r' := r.2.1.handleEthClientDownEvt D' mac r.2.2.1
          (r'.1, r'.2.2.1)) ↔
        ∀ k < ((l.ethClient.slot i).rtHdls l.txProp).length, D.fails (o.calls + k) = false)) ∧
    ∀ (w : Wlan) (total : Int) (o : Outside) (mac : MacAddr) (i : Nat), w.wlanClient.InDriver w.txProp o →
      w.wlanClient.index mac = some i →
      ((let r := w.handleWlanClientDownEvt D mac total o
        CleanRemoval w.txProp (w.wlanClient.slot i) i r.1 r.2.1.wlanClient r.2.2.2 fun D' =>
          let r' := r.2.1.handleWlanClientDownEvt D' mac r.2.2.1 r.2.2.2
          (r'.1, r'.2.2.2)) ↔
        ∀ k < ((w.wlanClient.slot i).rtHdls w.txProp).length, D.fails (o.calls + k) = false) := by
  constructor
  · intro l o mac i hin hi
    obtain ⟨rm, h⟩ := l.handleEthClientDownEvt_eq (D := D) mac o
    have hagain : ∀ (t : ClientTable Unit) D' o', ((({ l with ethClient := t } : EthClients).handleEthClientDownEvt D' mac o').1,
        (({ l with ethClient := t } : EthClients).handleEthClientDownEvt D' mac o').2.2.1) =
          (decide ((t.clientDown D' l.txProp mac o').1 ≠ .failed), (t.clientDown D' l.txProp mac o').2.2) := fun t D' o' => by
      obtain ⟨_, h'⟩ := EthClients.handleEthClientDownEvt_eq (D := D') { l with ethClient := t } mac o'
      rw [h']
    rw [h]
    simp only [hagain]
    exact ClientTable.clientDown_clean_iff hin hi
  · intro w total o mac i hin hi
    obtain ⟨total', h⟩ := w.handleWlanClientDownEvt_eq (D := D) mac total o
    have hagain : ∀ (t : ClientTable WlanOwn) D' total o', ((({ w with wlanClient := t } : Wlan).handleWlanClientDownEvt D' mac total o').1,
        (({ w with wlanClient := t } : Wlan).handleWlanClientDownEvt D' mac total o').2.2.2) =
          (decide ((t.clientDown D' w.txProp mac o').1 ≠ .failed), (t.clientDown D' w.txProp mac o').2.2) := fun t D' total o' => by
      obtain ⟨_, h'⟩ := Wlan.handleWlanClientDownEvt_eq (D := D') { w with wlanClient := t } mac total o'
      rw [h']
    rw [h]
    simp only [hagain]
    exact ClientTable.clientDown_clean_iff hin hi

/-- A driver that gives the next number, and fails the calls in the list. -/
def sampleDriver (failing : List Nat) : IpaDriver where
  handles := Lib.Handles.next
  ne_zero := Lib.Handles.next_ne_zero
  fails n := decide (n ∈ failing)

def sampleTx : List TxProp := [⟨.v4, 4, 5, "wlan0_ipv4"⟩]

/-- One client with a rule and a header. -/
def sampleTable (own : σ) : ClientTable σ :=
  ⟨1, fun _ =>
    { mac := 1, hdrHdlV4 := 7, routeRuleSetV4 := true, ipv4HeaderSet := true, rtHdl := fun _ => { rtRuleHdlV4 := 5 }, own }⟩

def sampleOutside : Outside where
  rt := ⟨[(5, ⟨.lanV4, 4, some 0, 7, 0xC0A80102⟩)], 0⟩
  hdr := ⟨[(7, ⟨.v4, "wlan0_ipv4", [], 0⟩)], 0⟩

theorem sampleTable_inDriver (own : σ) : (sampleTable own).InDriver sampleTx sampleOutside where
  rt := ⟨0, ⟨by simp [ClientTable.rtHdls, sampleTable, sampleOutside, Client.rtHdls, Client.rtHdlsV4, Client.rtHdlsV6, sampleTx,
    Ledger.used, one_nsmul], by decide, rfl⟩⟩
  hdr := ⟨0, ⟨by simp [ClientTable.hdrHdls, sampleTable, sampleOutside, Client.hdrHdls, Ledger.used, one_nsmul], by decide, rfl⟩⟩
  rt_ne_zero := by decide
  hdr_ne_zero := by decide

theorem client_removal_iff_sample :
    CleanRemoval sampleTx ((sampleTable ()).slot 0) 0 true
      ((⟨sampleTx, .usbCons, sampleTable ()⟩ : EthClients).handleEthClientDownEvt (sampleDriver [2]) 1 sampleOutside).2.1.ethClient
      ((⟨sampleTx, .usbCons, sampleTable ()⟩ : EthClients).handleEthClientDownEvt (sampleDriver [2]) 1 sampleOutside).2.2.1
      fun D' =>
        let l := ((⟨sampleTx, .usbCons, sampleTable ()⟩ : EthClients).handleEthClientDownEvt (sampleDriver [2]) 1 sampleOutside).2
        ((l.1.handleEthClientDownEvt D' 1 l.2.1).1, (l.1.handleEthClientDownEvt D' 1 l.2.1).2.2.1) :=
  ((client_removal_iff (D := sampleDriver [2])).1 ⟨sampleTx, .usbCons, sampleTable ()⟩ sampleOutside 1 0
    (sampleTable_inDriver ()) (by decide)).2 (by decide)

/-- The deletion of the client's routing rule fails, and the operation says that it has succeeded. -/
theorem client_removal_rule_left :
    (¬ ∀ (D : IpaDriver) (l : EthClients) (o : Outside) (mac : MacAddr) (i : Nat), l.ethClient.InDriver l.txProp o →
      l.ethClient.index mac = some i → (l.handleEthClientDownEvt D mac o).1 = true →
        (l.ethClient.slot i).NoneLeft l.txProp (l.handleEthClientDownEvt D mac o).2.2.1) ∧
    ¬ ∀ (D : IpaDriver) (w : Wlan) (total : Int) (o : Outside) (mac : MacAddr) (i : Nat), w.wlanClient.InDriver w.txProp o →
      w.wlanClient.index mac = some i → (w.handleWlanClientDownEvt D mac total o).1 = true →
        (w.wlanClient.slot i).NoneLeft w.txProp (w.handleWlanClientDownEvt D mac total o).2.2.2 := by
  constructor
  · intro h
    exact (h (sampleDriver [0]) ⟨sampleTx, .usbCons, sampleTable ()⟩ sampleOutside 1 0 (sampleTable_inDriver ()) (by decide)
      (by decide)).1 5 (by decide) (by decide)
  · intro h
    exact (h (sampleDriver [0]) { txProp := sampleTx, excpPipe := 1, isMccMode := false, wlanClient := sampleTable ⟨false⟩ } 1 sampleOutside
      1 0 (sampleTable_inDriver (WlanOwn.mk false)) (by decide) (by decide)).1 5 (by decide) (by decide)

end HiaeCommon
