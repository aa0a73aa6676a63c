/-
The neighbour table stays sound until it recycles an entry for the 101st time.

Up to then every handler reads and writes inside `neighbor_client[]`, and the
entries below `num_neighbor_client` (`clients`) change as a list does: one is
appended, one replaced, one taken out. But `circular_index` only ever grows:
nothing takes it back to 0 after the last entry has been written over, so the
next entry to be recycled is the one past the end of the array.
-/
import Mathlib.Data.List.Nodup
import HiaeCommon.Ipacm.Neighbor

namespace HiaeCommon
namespace Neighbor

/-- The entries below `num_neighbor_client`. -/
def clients (s : Neighbor) : List IpaNeighborClient := s.neighborClient.take s.numNeighborClient

/-- Their MAC addresses. -/
def macs (s : Neighbor) : List MacAddr := s.clients.map (·.macAddr)

/-- The table fits its array, and no two of its entries have one MAC address. -/
structure Sound (s : Neighbor) : Prop where
  length : s.neighborClient.length = ipaMaxNumNeighborClients
  num : s.numNeighborClient ≤ ipaMaxNumNeighborClients
  nodup : s.macs.Nodup

instance (s : Neighbor) : Decidable s.Sound :=
  decidable_of_iff (s.neighborClient.length = ipaMaxNumNeighborClients ∧
      s.numNeighborClient ≤ ipaMaxNumNeighborClients ∧ s.macs.Nodup)
    ⟨fun ⟨h₁, h₂, h₃⟩ => ⟨h₁, h₂, h₃⟩, fun h => ⟨h.length, h.num, h.nodup⟩⟩

theorem init_sound : Sound init := by
  refine ⟨by simp [init], by simp [init], ?_⟩
  simp [init, macs, clients]

theorem Sound.lt_length {s : Neighbor} (h : s.Sound) {i : Nat} (hi : i < s.numNeighborClient) :
    i < s.neighborClient.length := by
  have hlen := h.length
  have hnum := h.num
  omega

theorem Sound.post {s : Neighbor} (h : s.Sound) (event : NeighClientEvt) (data : EventDataAll) :
    (s.post event data).Sound := ⟨h.length, h.num, h.nodup⟩

theorem mem_macs_of_lt {s : Neighbor} {i : Nat} {mac : MacAddr} (hi : i < s.neighborClient.length)
    (hin : i < s.numNeighborClient) (hm : s.neighborClient[i].macAddr = mac) : mac ∈ s.macs := by
  simp only [macs, clients, List.mem_map]
  exact ⟨s.neighborClient[i], List.mem_take_iff_getElem.mpr ⟨i, by omega, rfl⟩, hm⟩

/-! ## The operations on the table -/

theorem findClient_none {s : Neighbor} {mac : MacAddr} {i k : Nat} (hk : i + k ≤ s.neighborClient.length)
    (h : ∀ j, (hj : j < s.neighborClient.length) → i ≤ j → j < i + k → s.neighborClient[j].macAddr ≠ mac) :
    s.findClient mac i k = some none := by
  induction k generalizing i with
  | zero => rfl
  | succ k ih =>
    have hi : i < s.neighborClient.length := by omega
    have hne := h i hi (Nat.le_refl i) (by omega)
    simp only [findClient, List.getElem?_eq_getElem hi, Option.bind_eq_bind, Option.bind_some, if_neg hne]
    exact ih (by omega) fun j hj hij hjk => h j hj (by omega) (by omega)

theorem findClient_some {s : Neighbor} (mac : MacAddr) {i k : Nat} (hk : i + k ≤ s.neighborClient.length)
    (h : ∃ j, ∃ hj : j < s.neighborClient.length, i ≤ j ∧ j < i + k ∧ s.neighborClient[j].macAddr = mac) :
    ∃ j, ∃ hj : j < s.neighborClient.length, j < i + k ∧ s.neighborClient[j].macAddr = mac ∧
      s.findClient mac i k = some (some j) := by
  induction k generalizing i with
  | zero =>
    obtain ⟨j, hj, hij, hjk, -⟩ := h
    omega
  | succ k ih =>
    have hi : i < s.neighborClient.length := by omega
    by_cases hm : s.neighborClient[i].macAddr = mac
    · refine ⟨i, hi, by omega, hm, ?_⟩
      simp [findClient, List.getElem?_eq_getElem hi, hm]
    · have hnext : ∃ j, ∃ hj : j < s.neighborClient.length, i + 1 ≤ j ∧ j < i + 1 + k ∧
          s.neighborClient[j].macAddr = mac := by
        obtain ⟨j, hj, hij, hjk, hmj⟩ := h
        refine ⟨j, hj, ?_, by omega, hmj⟩
        rcases Nat.lt_or_ge i j with hlt | hle
        · exact hlt
        · have heq : j = i := by omega
          subst heq
          exact absurd hmj hm
      obtain ⟨j, hj, hjk, hmj, hf⟩ := ih (by omega) hnext
      refine ⟨j, hj, by omega, hmj, ?_⟩
      simp [findClient, List.getElem?_eq_getElem hi, hm, hf]

/-- The search of a sound table: the MAC address is cached where it says, or not at all. -/
theorem Sound.findClient {s : Neighbor} (h : s.Sound) (mac : MacAddr) :
    (mac ∉ s.macs ∧ s.findClient mac 0 s.numNeighborClient = some none) ∨
      ∃ i, ∃ hi : i < s.neighborClient.length, i < s.numNeighborClient ∧ s.neighborClient[i].macAddr = mac ∧
        s.findClient mac 0 s.numNeighborClient = some (some i) := by
  have hlen := h.length
  have hnum := h.num
  by_cases hm : mac ∈ s.macs
  · right
    simp only [macs, clients, List.mem_map] at hm
    obtain ⟨c, hc, rfl⟩ := hm
    obtain ⟨j, hj, rfl⟩ := List.mem_iff_getElem.mp hc
    simp only [List.length_take] at hj
    obtain ⟨i, hi, hin, hmi, hf⟩ := findClient_some (s := s) s.neighborClient[j].macAddr (i := 0)
      (k := s.numNeighborClient) (by omega) ⟨j, by omega, by omega, by omega, rfl⟩
    exact ⟨i, hi, by omega, by simpa using hmi, by simpa using hf⟩
  · left
    exact ⟨hm, findClient_none (by omega) fun j hj _ hjn he => hm (mem_macs_of_lt hj (by omega) he)⟩

theorem modify_eq {s : Neighbor} {i : Nat} (hi : i < s.neighborClient.length) (f : IpaNeighborClient → IpaNeighborClient) :
    s.modify i f = some { s with neighborClient := s.neighborClient.set i (f s.neighborClient[i]) } := by
  simp [modify, List.getElem?_eq_getElem hi]

theorem modify_out {s : Neighbor} {i : Nat} (hi : s.neighborClient.length ≤ i) (f : IpaNeighborClient → IpaNeighborClient) :
    s.modify i f = none := by
  simp [modify, List.getElem?_eq_none hi]

/-- Closing a gap of `k` entries moves these up and no other. -/
theorem closeGap_eq {s : Neighbor} {i k : Nat} (hk : i + k < s.neighborClient.length) :
    ∃ l, s.closeGap i k = some { s with neighborClient := l } ∧ l.length = s.neighborClient.length ∧
      ∀ j, l[j]? = if i ≤ j ∧ j < i + k then s.neighborClient[j + 1]? else s.neighborClient[j]? := by
  induction k generalizing s i with
  | zero =>
    refine ⟨s.neighborClient, rfl, rfl, fun j => ?_⟩
    rw [if_neg (by omega)]
  | succ k ih =>
    have hi : i < s.neighborClient.length := by omega
    have hi1 : i + 1 < s.neighborClient.length := by omega
    obtain ⟨l, hl, hlen, hget⟩ := ih (s := { s with neighborClient := s.neighborClient.set i s.neighborClient[i + 1] })
      (i := i + 1) (by simp; omega)
    refine ⟨l, ?_, by simpa using hlen, fun j => ?_⟩
    · simp only [closeGap, List.getElem?_eq_getElem hi1, Option.bind_eq_bind, Option.bind_some, modify_eq hi]
      exact hl
    · rw [hget j]
      simp only [List.getElem?_set]
      by_cases hji : i = j
      · subst hji
        simp [hi, List.getElem?_eq_getElem hi1]
      · have hne : i ≠ j + 1 ∨ ¬ (i + 1 ≤ j) := by omega
        split_ifs <;> first | rfl | omega

/-- A removed entry leaves the list of clients. -/
theorem Sound.removeClient {s : Neighbor} (h : s.Sound) {i : Nat} (hi : i < s.numNeighborClient) :
    ∃ t, s.removeClient i = some t ∧ t.numNeighborClient = s.numNeighborClient - 1 ∧
      t.neighborClient.length = s.neighborClient.length ∧ t.clients = s.clients.eraseIdx i := by
  have hlt := h.lt_length hi
  have hlen := h.length
  have hnum := h.num
  obtain ⟨l, hl, hll, hget⟩ := closeGap_eq (s := { s with neighborClient := s.neighborClient.set i {} }) (i := i)
    (k := s.numNeighborClient - 1 - i) (by simp; omega)
  refine ⟨{ s with neighborClient := l, numNeighborClient := s.numNeighborClient - 1 }, ?_, rfl, by simpa using hll, ?_⟩
  · simp only [Neighbor.removeClient, modify_eq hlt, Option.bind_eq_bind, Option.bind_some]
    rw [hl]
    rfl
  · refine List.ext_getElem? fun j => ?_
    simp only [clients, List.getElem?_take, List.getElem?_eraseIdx, hget, List.getElem?_set]
    split_ifs <;> first | rfl | omega

theorem Sound.of_removeClient {s : Neighbor} (h : s.Sound) {i : Nat} (hi : i < s.numNeighborClient) :
    ∃ t, s.removeClient i = some t ∧ t.Sound := by
  obtain ⟨t, ht, hn, hl, hc⟩ := h.removeClient hi
  have hnum := h.num
  refine ⟨t, ht, hl.trans h.length, by omega, ?_⟩
  rw [macs, hc]
  exact h.nodup.sublist ((List.eraseIdx_sublist _ i).map _)

/-- Fields other than the MAC address may be rewritten. -/
theorem Sound.modify {s : Neighbor} (h : s.Sound) {i : Nat} (hi : i < s.numNeighborClient)
    {f : IpaNeighborClient → IpaNeighborClient} (hf : ∀ c, (f c).macAddr = c.macAddr) :
    ∃ t, s.modify i f = some t ∧ t.Sound ∧ t.macs = s.macs ∧ t.numNeighborClient = s.numNeighborClient ∧
      t.circularIndex = s.circularIndex := by
  have hlt := h.lt_length hi
  have hm : ({ s with neighborClient := s.neighborClient.set i (f s.neighborClient[i]) } : Neighbor).macs = s.macs := by
    refine List.ext_getElem? fun j => ?_
    simp only [macs, clients, List.getElem?_map, List.getElem?_take, List.getElem?_set]
    by_cases hij : i = j
    · subst hij
      simp [hlt, hi, hf]
    · simp [hij]
  refine ⟨_, modify_eq hlt f, ⟨by simpa using h.length, h.num, hm ▸ h.nodup⟩, hm, rfl, rfl⟩

/-- A new client is appended while there is room. -/
theorem Sound.cacheClient_append {s : Neighbor} (h : s.Sound) (data : EventDataAll) (hm : data.macAddr ∉ s.macs)
    (hn : s.numNeighborClient < ipaMaxNumNeighborClients) (ipaIf : Nat) (v4Addr : BitVec 32) :
    ∃ t, s.cacheClient data ipaIf v4Addr = some t ∧ t.Sound ∧ t.macs = s.macs ++ [data.macAddr] ∧
      t.numNeighborClient = s.numNeighborClient + 1 ∧ t.circularIndex = s.circularIndex := by
  have hlt : s.numNeighborClient < s.neighborClient.length := by rw [h.length]; exact hn
  let c : IpaNeighborClient := { macAddr := data.macAddr, ifaceIndex := data.ifIndex, ipaIfNum := ipaIf, v4Addr }
  let t : Neighbor := { s with
    neighborClient := s.neighborClient.set s.numNeighborClient c
    numNeighborClient := s.numNeighborClient + 1 }
  have ht : s.cacheClient data ipaIf v4Addr = some t := by
    rw [cacheClient, if_pos hn, modify_eq hlt]
    rfl
  have hmacs : t.macs = s.macs ++ [data.macAddr] := by
    simp only [macs, clients, t]
    rw [List.take_add_one, List.take_set_of_le (Nat.le_refl _)]
    simp [hlt, c]
  refine ⟨t, ht, ⟨by simpa [t] using h.length, hn, ?_⟩, hmacs, rfl, rfl⟩
  rw [hmacs]
  exact List.Nodup.append h.nodup (List.nodup_singleton _) (by simpa using hm)

/-- In a full table it takes the place of the entry at `circular_index`. -/
theorem Sound.cacheClient_recycle {s : Neighbor} (h : s.Sound) (data : EventDataAll) (hm : data.macAddr ∉ s.macs)
    (hn : ¬ s.numNeighborClient < ipaMaxNumNeighborClients) (hc : s.circularIndex < ipaMaxNumNeighborClients)
    (ipaIf : Nat) (v4Addr : BitVec 32) :
    ∃ t, s.cacheClient data ipaIf v4Addr = some t ∧ t.Sound ∧ t.macs = s.macs.set s.circularIndex data.macAddr ∧
      t.numNeighborClient = s.numNeighborClient ∧ t.circularIndex = s.circularIndex + 1 := by
  have hlt : s.circularIndex < s.neighborClient.length := by rw [h.length]; exact hc
  have hnum : s.numNeighborClient = s.neighborClient.length := by
    have := h.num
    rw [h.length]
    omega
  let c : IpaNeighborClient := { macAddr := data.macAddr, ifaceIndex := data.ifIndex, ipaIfNum := ipaIf }
  let t : Neighbor := { s with
    neighborClient := s.neighborClient.set s.circularIndex c
    circularIndex := s.circularIndex + 1 }
  have ht : s.cacheClient data ipaIf v4Addr = some t := by
    rw [cacheClient, if_neg hn, modify_eq hlt]
    rfl
  have hmacs : t.macs = s.macs.set s.circularIndex data.macAddr := by
    simp [macs, clients, hnum, List.map_set, t, c]
  refine ⟨t, ht, ⟨by simpa [t] using h.length, h.num, ?_⟩, hmacs, rfl, rfl⟩
  rw [hmacs]
  exact h.nodup.set hm

theorem cacheClient_out {s : Neighbor} (h : s.Sound) (data : EventDataAll)
    (hn : ¬ s.numNeighborClient < ipaMaxNumNeighborClients) (hc : ¬ s.circularIndex < ipaMaxNumNeighborClients)
    (ipaIf : Nat) (v4Addr : BitVec 32) : s.cacheClient data ipaIf v4Addr = none := by
  rw [cacheClient, if_neg hn, modify_out (by rw [h.length]; omega)]
  rfl

/-! ## The handlers -/

variable {env : NeighborEnv}

/-- The handler returns, and leaves a sound table. -/
def Returns (x : Option Neighbor) : Prop := ∃ t, x = some t ∧ t.Sound

theorem Returns.sound {s : Neighbor} (h : s.Sound) : Returns (some s) := ⟨s, rfl, h⟩

/-- What an event that is posted at the end returns does not depend on the allocation. -/
theorem Returns.postData {x : Option Neighbor} (h : Returns x) (event : NeighClientEvt) (data : EventDataAll) :
    Returns (x.bind fun s => match env.malloc with
      | none => some s
      | some _ => some (s.post event data)) := by
  obtain ⟨t, rfl, ht⟩ := h
  simp only [Option.bind_some]
  cases env.malloc with
  | none => exact .sound ht
  | some _ => exact .sound (ht.post _ _)

theorem handleWlanClientAddEx_returns {s : Neighbor} (h : s.Sound) (ifIndex : Int) (attribs : List WlanHdrAttrib)
    (stack : MacAddr) : Returns (s.handleWlanClientAddEx env ifIndex attribs stack) := by
  unfold handleWlanClientAddEx
  cases env.ifaceIpaIndexQuery ifIndex with
  | none => exact .sound h
  | some ipaIf =>
    simp only
    generalize List.foldl _ stack attribs = mac
    obtain ⟨-, hf⟩ | ⟨i, hi, hin, -, hf⟩ := h.findClient mac
    · simp only [hf, Option.bind_eq_bind, Option.bind_some]
      exact .sound h
    · simp only [hf, Option.bind_eq_bind, Option.bind_some]
      cases env.isBridge ipaIf with
      | true => exact .sound h
      | false =>
        obtain ⟨t, ht, hs, -, hn, -⟩ := h.modify hin (f := fun c => { c with ifaceIndex := ifIndex }) fun _ => rfl
        have hit : i < t.neighborClient.length := hs.lt_length (hn ▸ hin)
        simp only [Bool.false_eq_true, if_false, ht, Option.bind_some, List.getElem?_eq_getElem hit]
        split_ifs
        · exact .sound hs
        · exact .sound hs
        · cases env.malloc with
          | none => exact .sound hs
          | some _ => exact .sound (hs.post _ _)

theorem handleBridgeNeigh_returns {s : Neighbor} (h : s.Sound) (event : NeighClientEvt) (data : EventDataAll)
    {f : IpaNeighborClient → IpaNeighborClient} (hmac : ∀ c, (f c).macAddr = c.macAddr) :
    Returns (s.handleBridgeNeigh env event data f) := by
  unfold handleBridgeNeigh
  obtain ⟨-, hf⟩ | ⟨i, hi, hin, -, hf⟩ := h.findClient data.macAddr
  · simp only [hf, Option.bind_eq_bind, Option.bind_some]
    exact .sound h
  · obtain ⟨t, ht, hs, -, hn, -⟩ := h.modify hin hmac
    have hit : i < t.neighborClient.length := hs.lt_length (hn ▸ hin)
    simp only [hf, ht, Option.bind_eq_bind, Option.bind_some, List.getElem?_eq_getElem hit]
    cases env.malloc with
    | none => exact .sound hs
    | some _ => exact .sound (hs.post _ _)

/-- A client is cached unless it recycles the entry behind the last one. -/
theorem Sound.cacheClient {s : Neighbor} (h : s.Sound) {data : EventDataAll} (hm : data.macAddr ∉ s.macs)
    (hc : s.numNeighborClient = ipaMaxNumNeighborClients → s.circularIndex < ipaMaxNumNeighborClients)
    (ipaIf : Nat) (v4Addr : BitVec 32) : Returns (s.cacheClient data ipaIf v4Addr) := by
  by_cases hn : s.numNeighborClient < ipaMaxNumNeighborClients
  · obtain ⟨t, ht, hs, -⟩ := h.cacheClient_append data hm hn ipaIf v4Addr
    exact ⟨t, ht, hs⟩
  · have hnum := h.num
    obtain ⟨t, ht, hs, -⟩ := h.cacheClient_recycle data hm hn (hc (by omega)) ipaIf v4Addr
    exact ⟨t, ht, hs⟩

theorem cacheV4_returns {s : Neighbor} (h : s.Sound) {data : EventDataAll}
    (hc : s.numNeighborClient = ipaMaxNumNeighborClients → data.macAddr ∉ s.macs →
      s.circularIndex < ipaMaxNumNeighborClients) (ipaIf : Nat) : Returns (s.cacheV4 data ipaIf) := by
  unfold cacheV4
  obtain ⟨hm, hf⟩ | ⟨i, hi, hin, -, hf⟩ := h.findClient data.macAddr
  · simp only [hf, Option.bind_eq_bind, Option.bind_some]
    exact h.cacheClient hm (fun hn => hc hn hm) ipaIf data.ipv4Addr
  · simp only [hf, Option.bind_eq_bind, Option.bind_some]
    obtain ⟨t, ht, hs, -⟩ := h.modify hin
      (f := fun c => { c with ifaceIndex := data.ifIndex, ipaIfNum := ipaIf, v4Addr := data.ipv4Addr }) fun _ => rfl
    exact ⟨t, ht, hs⟩

theorem uncacheV4_returns {s : Neighbor} (h : s.Sound) (data : EventDataAll) : Returns (s.uncacheV4 data) := by
  unfold uncacheV4
  obtain ⟨-, hf⟩ | ⟨i, hi, hin, -, hf⟩ := h.findClient data.macAddr
  · simp only [hf, Option.bind_eq_bind, Option.bind_some]
    exact .sound h
  · simp only [hf, Option.bind_eq_bind, Option.bind_some]
    exact h.of_removeClient hin

theorem handleKnownNeigh_returns {s : Neighbor} (h : s.Sound) (event : NeighClientEvt) (data : EventDataAll)
    (ipaIf : Nat) {i : Nat} (hin : i < s.numNeighborClient) : Returns (s.handleKnownNeigh env event data ipaIf i) := by
  have drop : ∀ {t : Neighbor}, t.Sound → i < t.numNeighborClient →
      Returns (if event = .ipAddrDel then t.removeClient i else some t) := by
    intro t ht hit
    split_ifs
    · exact ht.of_removeClient hit
    · exact .sound ht
  unfold handleKnownNeigh
  cases env.isBridge ipaIf with
  | true => exact drop h hin
  | false =>
    obtain ⟨t, ht, hs, -, hn, -⟩ := h.modify hin (f := fun c => { c with ifaceIndex := data.ifIndex }) fun _ => rfl
    have hit : i < t.neighborClient.length := hs.lt_length (hn ▸ hin)
    simp only [Bool.false_eq_true, if_false, ht, Option.bind_eq_bind, Option.bind_some, List.getElem?_eq_getElem hit]
    split_ifs with hv hd hd
    · exact hs.of_removeClient (hn ▸ hin)
    · exact .sound hs
    all_goals
      cases env.malloc with
      | none => exact .sound hs
      | some block => first
        | exact (hs.post _ _).of_removeClient (hn ▸ hin)
        | exact .sound (hs.post _ _)

/-! ## A step and a run -/

theorem run_append (s : Neighbor) (es fs : List (NeighborEnv × NeighborEvt)) :
    s.run (es ++ fs) = (s.run es).bind fun t => t.run fs := by
  simp [run, List.foldlM_append]

theorem run_singleton (s : Neighbor) (e : NeighborEnv × NeighborEvt) : s.run [e] = s.eventCallback e.1 e.2 := by
  simp [run]

/-- The client an event asks to cache: a new neighbour seen on an interface
other than the bridge, with a usable IPv4 address or with no address at all. -/
def cachedMac (env : NeighborEnv) : NeighborEvt → Option MacAddr
  | .newNeigh data =>
    match env.ifaceIpaIndexQuery data.ifIndex with
    | none => none
    | some ipaIf =>
      if env.isBridge ipaIf then none
      else if data.iptype = .v4 then
        if data.ipv4Addr = 0 ∨ data.ipv4Addr &&& ipv4AddrLinklocalMask = ipv4AddrLinklocal then none
        else some data.macAddr
      else if data.ipv6Addr ≠ 0 then none else some data.macAddr
  | _ => none

/-- The event writes over the entry of another client: the table is full, and
the client it asks to cache is new. -/
def Recycles (s : Neighbor) (e : NeighborEnv × NeighborEvt) : Prop :=
  s.numNeighborClient = ipaMaxNumNeighborClients ∧ ∃ mac, cachedMac e.1 e.2 = some mac ∧ mac ∉ s.macs

instance (s : Neighbor) (e : NeighborEnv × NeighborEvt) : Decidable (s.Recycles e) := by
  unfold Recycles
  cases h : cachedMac e.1 e.2 with
  | none => exact isFalse (by simp)
  | some mac => exact decidable_of_iff (s.numNeighborClient = ipaMaxNumNeighborClients ∧ mac ∉ s.macs) (by simp)

theorem handleV4Neigh_returns {s : Neighbor} (h : s.Sound) {event : NeighClientEvt} {data : EventDataAll} {ipaIf : Nat}
    (hc : event = .ipAddrAdd → env.isBridge ipaIf = false → data.ipv4Addr ≠ 0 →
      data.ipv4Addr &&& ipv4AddrLinklocalMask ≠ ipv4AddrLinklocal →
      s.numNeighborClient = ipaMaxNumNeighborClients → data.macAddr ∉ s.macs →
      s.circularIndex < ipaMaxNumNeighborClients) : Returns (s.handleV4Neigh env event data ipaIf) := by
  unfold handleV4Neigh
  split_ifs with h0 hl hb
  · exact .sound h
  · exact .sound h
  · exact handleBridgeNeigh_returns h event data fun _ => rfl
  · cases event with
    | ipAddrAdd => exact (cacheV4_returns h (hc rfl (by simpa using hb) h0 hl) ipaIf).postData _ _
    | ipAddrDel => exact (uncacheV4_returns h data).postData _ _

theorem handleNoAddrNeigh_returns {s : Neighbor} (h : s.Sound) {event : NeighClientEvt} {data : EventDataAll} {ipaIf : Nat}
    (hc : event = .ipAddrAdd → env.isBridge ipaIf = false →
      s.numNeighborClient = ipaMaxNumNeighborClients → data.macAddr ∉ s.macs →
      s.circularIndex < ipaMaxNumNeighborClients) : Returns (s.handleNoAddrNeigh env event data ipaIf) := by
  unfold handleNoAddrNeigh
  obtain ⟨hm, hf⟩ | ⟨i, -, hin, -, hf⟩ := h.findClient data.macAddr
  · simp only [hf, Option.bind_eq_bind, Option.bind_some]
    split_ifs with hn
    · exact h.cacheClient hm (fun hfull => hc hn.1 hn.2 hfull hm) ipaIf 0
    · exact .sound h
  · simp only [hf, Option.bind_eq_bind, Option.bind_some]
    exact handleKnownNeigh_returns h event data ipaIf hin

/-- **A step stays inside the array** unless it recycles an entry with
`circular_index` past the last one. -/
theorem eventCallback_returns {s : Neighbor} (h : s.Sound) {e : NeighborEnv × NeighborEvt}
    (hc : s.Recycles e → s.circularIndex < ipaMaxNumNeighborClients) : Returns (s.eventCallback e.1 e.2) := by
  obtain ⟨env, e⟩ := e
  have hneigh : ∀ event data, (event = .ipAddrAdd → e = .newNeigh data) → Returns (s.handleNeigh env event data) := by
    intro event data he
    unfold handleNeigh
    cases hq : env.ifaceIpaIndexQuery data.ifIndex with
    | none => exact .sound h
    | some ipaIf =>
      simp only
      split_ifs with h4
      · refine handleV4Neigh_returns h fun hadd hb h0 hl hfull hm => hc ⟨hfull, data.macAddr, ?_, hm⟩
        simp only [he hadd, cachedMac, hq, hb, h4, h0, hl, or_self, if_true, if_false, Bool.false_eq_true]
      · unfold handleV6Neigh
        split_ifs with h6 hb
        · exact handleBridgeNeigh_returns h event data fun _ => rfl
        · cases env.malloc with
          | none => exact .sound h
          | some _ => exact .sound (h.post _ _)
        · refine handleNoAddrNeigh_returns h fun hadd hb hfull hm => hc ⟨hfull, data.macAddr, ?_, hm⟩
          simp only [he hadd, cachedMac, hq, hb, h4, h6, if_false, Bool.false_eq_true]
  cases e with
  | wlanClientAddEx ifIndex attribs stack => exact handleWlanClientAddEx_returns h ifIndex attribs stack
  | newNeigh data => exact hneigh .ipAddrAdd data fun _ => rfl
  | delNeigh data => exact hneigh .ipAddrDel data fun he => nomatch he

/-- ... and leaves it then. -/
theorem eventCallback_out {s : Neighbor} (h : s.Sound) {e : NeighborEnv × NeighborEvt} (hr : s.Recycles e)
    (hc : ¬ s.circularIndex < ipaMaxNumNeighborClients) : s.eventCallback e.1 e.2 = none := by
  obtain ⟨env, e⟩ := e
  obtain ⟨hfull, mac, hmac, hm⟩ := hr
  cases e with
  | wlanClientAddEx ifIndex attribs stack => simp [cachedMac] at hmac
  | delNeigh data => simp [cachedMac] at hmac
  | newNeigh data =>
    simp only [cachedMac] at hmac
    simp only [eventCallback, handleNeigh]
    cases hq : env.ifaceIpaIndexQuery data.ifIndex with
    | none => simp [hq] at hmac
    | some ipaIf =>
      simp only [hq] at hmac ⊢
      split_ifs at hmac with hb h4 hl h6
      all_goals
        obtain rfl := Option.some.inj hmac
        obtain ⟨-, hf⟩ | ⟨i, hi, hin, hi', -⟩ := h.findClient data.macAddr
      · rw [not_or] at hl
        rw [if_pos h4, handleV4Neigh, if_neg hl.1, if_neg hl.2, if_neg hb]
        simp [cacheV4, hf, cacheClient_out h data (by omega) hc]
      · exact absurd (mem_macs_of_lt hi hin hi') hm
      · rw [if_neg h4, handleV6Neigh, if_neg h6]
        simp [handleNoAddrNeigh, hf, hb, cacheClient_out h data (by omega) hc]
      · exact absurd (mem_macs_of_lt hi hin hi') hm

/-- No event of a run recycles an entry once `circular_index` has passed the last one. -/
def RecyclesInRange (es : List (NeighborEnv × NeighborEvt)) : Prop :=
  ∀ before e after s, es = before ++ e :: after → init.run before = some s → s.Recycles e →
    s.circularIndex < ipaMaxNumNeighborClients

/-- **The neighbour table over a run**: every handler stays inside the array
and leaves a sound table, exactly when no event recycles an entry once
`circular_index` has passed the last one. -/
theorem neighbor_table_run (es : List (NeighborEnv × NeighborEvt)) :
    (∀ before after, es = before ++ after → ∃ s, init.run before = some s ∧ s.Sound) ↔ RecyclesInRange es := by
  constructor
  · intro hrun before e after s he hs hr
    by_contra hc
    obtain ⟨t, ht, -⟩ := hrun (before ++ [e]) after (by simpa using he)
    obtain ⟨s', hs', hsound⟩ := hrun before (e :: after) he
    obtain rfl : s = s' := Option.some.inj (hs.symm.trans hs')
    rw [run_append, hs, Option.bind_some, run_singleton, eventCallback_out hsound hr hc] at ht
    cases ht
  · intro hc before
    induction before using List.reverseRecOn with
    | nil => exact fun _ _ => ⟨init, rfl, init_sound⟩
    | append_singleton before e ih =>
      intro after he
      obtain ⟨s, hs, hsound⟩ := ih (e :: after) (by simpa using he)
      obtain ⟨t, ht, htsound⟩ := eventCallback_returns hsound (hc before e after s (by simpa using he) hs)
      exact ⟨t, by rw [run_append, hs, Option.bind_some, run_singleton, ht], htsound⟩

/-- One interface, not the bridge, and memory to allocate. -/
def sampleNeighborEnv : NeighborEnv := ⟨fun _ => some 0, fun _ => false, some ⟨.v4, 0, 0, 0, 0⟩⟩

/-- The client with MAC address `mac` joins. -/
def joining (mac : Nat) : NeighborEnv × NeighborEvt := (sampleNeighborEnv, .newNeigh ⟨.v6, 3, 0, 0, BitVec.ofNat 48 mac⟩)

/-- `n` clients, none seen before, join one after the other. -/
def joiningClients (n : Nat) : List (NeighborEnv × NeighborEvt) := (List.range n).map joining

/-- The table knows the clients below `n`, the first of them perhaps recycled. -/
structure Joined (s : Neighbor) (n : Nat) : Prop where
  sound : s.Sound
  known : ∀ mac ∈ s.macs, mac.toNat < n
  num : s.numNeighborClient = min n 100
  circular : s.circularIndex = n - 100

theorem Joined.unseen {s : Neighbor} {n : Nat} (h : Joined s n) (hn : n < 2 ^ 48) : BitVec.ofNat 48 n ∉ s.macs := by
  intro hm
  have hlt := h.known _ hm
  rw [BitVec.toNat_ofNat, Nat.mod_eq_of_lt hn] at hlt
  omega

theorem Joined.eventCallback {s : Neighbor} {n : Nat} (h : Joined s n) (hn : n < 2 ^ 48) :
    s.eventCallback (joining n).1 (joining n).2 = s.cacheClient ⟨.v6, 3, 0, 0, BitVec.ofNat 48 n⟩ 0 0 := by
  obtain ⟨-, hf⟩ | ⟨i, hi, hin, hm, -⟩ := h.sound.findClient (BitVec.ofNat 48 n)
  · simp [joining, sampleNeighborEnv, Neighbor.eventCallback, handleNeigh, handleV6Neigh, handleNoAddrNeigh, hf]
  · exact absurd (mem_macs_of_lt hi hin hm) (h.unseen hn)

theorem Joined.next {s : Neighbor} {n : Nat} (h : Joined s n) (hn : n < 200) :
    ∃ t, s.eventCallback (joining n).1 (joining n).2 = some t ∧ Joined t (n + 1) := by
  have hnum := h.num
  have hcirc := h.circular
  have hnew : (BitVec.ofNat 48 n).toNat = n := by
    rw [BitVec.toNat_ofNat, Nat.mod_eq_of_lt (by omega)]
  rw [h.eventCallback (by omega)]
  by_cases hroom : s.numNeighborClient < ipaMaxNumNeighborClients
  · obtain ⟨t, ht, hs, hm, hn', hc⟩ := h.sound.cacheClient_append ⟨.v6, 3, 0, 0, BitVec.ofNat 48 n⟩
      (h.unseen (by omega)) hroom 0 0
    rw [ipaMaxNumNeighborClients] at hroom
    refine ⟨t, ht, hs, fun mac hmac => ?_, by omega, by omega⟩
    rw [hm, List.mem_append, List.mem_singleton] at hmac
    rcases hmac with hmac | rfl
    · have := h.known mac hmac
      omega
    · show (BitVec.ofNat 48 n).toNat < n + 1
      omega
  · obtain ⟨t, ht, hs, hm, hn', hc⟩ := h.sound.cacheClient_recycle ⟨.v6, 3, 0, 0, BitVec.ofNat 48 n⟩
      (h.unseen (by omega)) hroom (by rw [ipaMaxNumNeighborClients]; omega) 0 0
    rw [ipaMaxNumNeighborClients] at hroom
    refine ⟨t, ht, hs, fun mac hmac => ?_, by omega, by omega⟩
    rw [hm] at hmac
    rcases List.mem_or_eq_of_mem_set hmac with hmac | rfl
    · have := h.known mac hmac
      omega
    · show (BitVec.ofNat 48 n).toNat < n + 1
      omega

theorem joined_joiningClients {n : Nat} (hn : n ≤ 200) : ∃ s, init.run (joiningClients n) = some s ∧ Joined s n := by
  induction n with
  | zero => exact ⟨init, rfl, init_sound, fun mac hmac => by simp [init, macs, clients] at hmac, rfl, rfl⟩
  | succ n ih =>
    obtain ⟨s, hs, hj⟩ := ih (by omega)
    obtain ⟨t, ht, hj'⟩ := hj.next (by omega)
    refine ⟨t, ?_, hj'⟩
    rw [joiningClients, List.range_succ, List.map_append, List.map_singleton, run_append, ← joiningClients, hs,
      Option.bind_some, run_singleton, ht]

/-- 100 clients fill the table, 100 more recycle all of it, and the next one is
written behind the array. -/
theorem neighbor_table_overrun :
    ∃ s, init.run (joiningClients 200) = some s ∧ s.circularIndex = ipaMaxNumNeighborClients ∧
      init.run (joiningClients 201) = none := by
  obtain ⟨s, hs, hj⟩ := joined_joiningClients (Nat.le_refl 200)
  have hcirc : s.circularIndex = ipaMaxNumNeighborClients := hj.circular
  refine ⟨s, hs, hcirc, ?_⟩
  rw [joiningClients, List.range_succ, List.map_append, List.map_singleton, run_append, ← joiningClients, hs,
    Option.bind_some, run_singleton, hj.eventCallback (by omega)]
  exact cacheClient_out hj.sound _ (by rw [hj.num]; decide) (by omega) 0 0

end Neighbor
end HiaeCommon
