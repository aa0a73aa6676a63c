/-
What a new neighbour with an IPv4 address leaves in the table of
`IPACM_Neighbor`: its one entry, and the entries of the others.
-/
import HiaeCommon.Ipacm.NeighborTable

namespace HiaeCommon
namespace Neighbor

variable {s : Neighbor} {env : NeighborEnv} {data : EventDataAll} {ipaIf : Nat}

/-- One entry has the MAC address of the event, and is as `P` says; the others are those of `kept`, in that order. -/
structure OneEntry (data : EventDataAll) (P : IpaNeighborClient → Prop) (kept : List IpaNeighborClient) (t : Neighbor) : Prop where
  one : ∃ c, t.clients.filter (·.macAddr = data.macAddr) = [c] ∧ P c
  others : t.clients.filter (·.macAddr ≠ data.macAddr) = kept

/-- The address is of the link only. -/
def LinkLocal (data : EventDataAll) : Prop := data.ipv4Addr &&& ipv4AddrLinklocalMask = ipv4AddrLinklocal

/-- An entry between others: the filters part them. -/
theorem filter_middle {mac : MacAddr} {c : IpaNeighborClient} {l₁ l₂ : List IpaNeighborClient} (hc : c.macAddr = mac)
    (h₁ : mac ∉ l₁.map (·.macAddr)) (h₂ : mac ∉ l₂.map (·.macAddr)) :
    (l₁ ++ c :: l₂).filter (·.macAddr = mac) = [c] ∧ (l₁ ++ c :: l₂).filter (·.macAddr ≠ mac) = l₁ ++ l₂ := by
  have hne : ∀ l : List IpaNeighborClient, mac ∉ l.map (·.macAddr) →
      l.filter (·.macAddr = mac) = [] ∧ l.filter (·.macAddr ≠ mac) = l := by
    intro l hl
    have hl : ∀ x ∈ l, x.macAddr ≠ mac := fun x hx he => hl (List.mem_map.2 ⟨x, hx, he⟩)
    exact ⟨List.filter_eq_nil_iff.2 fun x hx => by simpa using hl x hx, List.filter_eq_self.2 fun x hx => by simpa using hl x hx⟩
  rw [List.filter_append, List.filter_append, List.filter_cons, List.filter_cons, (hne l₁ h₁).1, (hne l₁ h₁).2,
    (hne l₂ h₂).1, (hne l₂ h₂).2]
  simp [hc]

/-- The table from the entry `i` on. -/
theorem clients_split {i : Nat} (hi : i < s.neighborClient.length) (hin : i < s.numNeighborClient) :
    s.clients = s.clients.take i ++ s.neighborClient[i] :: s.clients.drop (i + 1) ∧ (s.clients.take i).length = i := by
  have hlt : i < s.clients.length := by
    rw [clients, List.length_take]
    exact Nat.lt_min.2 ⟨hin, hi⟩
  have hget : s.clients[i] = s.neighborClient[i] := List.getElem_take
  refine ⟨?_, List.length_take_of_le (Nat.le_of_lt hlt)⟩
  rw [← hget, ← List.drop_eq_getElem_cons hlt, List.take_append_drop]

/-- Where the MAC address stands in the entry `i`, it stands in no other. -/
theorem Sound.mac_once (h : s.Sound) {i : Nat} (hi : i < s.neighborClient.length) (hin : i < s.numNeighborClient) :
    s.neighborClient[i].macAddr ∉ (s.clients.take i).map (·.macAddr) ∧
      s.neighborClient[i].macAddr ∉ (s.clients.drop (i + 1)).map (·.macAddr) := by
  have hnd := h.nodup
  rw [macs, (clients_split hi hin).1, List.map_append, List.map_cons, List.nodup_middle, List.nodup_cons, List.mem_append,
    not_or] at hnd
  exact hnd.1

/-- A client that is known is updated. -/
theorem cacheV4_known (h : s.Sound) {i : Nat} (hi : i < s.neighborClient.length) (hin : i < s.numNeighborClient)
    (hm : s.neighborClient[i].macAddr = data.macAddr)
    (hf : s.findClient data.macAddr 0 s.numNeighborClient = some (some i)) : ∃ t, s.cacheV4 data ipaIf = some t ∧
      OneEntry data (fun c => c.ifaceIndex = data.ifIndex ∧ c.v4Addr = data.ipv4Addr)
        (s.clients.filter (·.macAddr ≠ data.macAddr)) t := by
  let c : IpaNeighborClient :=
    { s.neighborClient[i] with ifaceIndex := data.ifIndex, ipaIfNum := ipaIf, v4Addr := data.ipv4Addr }
  let t : Neighbor := { s with neighborClient := s.neighborClient.set i c }
  have ht : s.cacheV4 data ipaIf = some t := by
    simp only [cacheV4, hf, Option.bind_eq_bind, Option.bind_some, modify_eq hi]
    rfl
  obtain ⟨hsplit, hlen⟩ := clients_split hi hin
  obtain ⟨h₁, h₂⟩ := h.mac_once hi hin
  rw [hm] at h₁ h₂
  have hclients : t.clients = s.clients.take i ++ c :: s.clients.drop (i + 1) := by
    have hset : t.clients = s.clients.set i c := List.take_set
    rw [hset, hsplit, List.set_append_right _ _ (Nat.le_of_eq hlen), hlen, Nat.sub_self, List.set_cons_zero, ← hsplit]
  have hnew := filter_middle (c := c) hm h₁ h₂
  have hold := filter_middle (c := s.neighborClient[i]) hm h₁ h₂
  rw [← hsplit] at hold
  exact ⟨t, ht, ⟨c, by rw [hclients, hnew.1], rfl, rfl⟩, by rw [hclients, hnew.2, hold.2]⟩

/-- A client that is not is put behind the others while there is room. -/
theorem cacheV4_new (h : s.Sound) (hm : data.macAddr ∉ s.macs) (hroom : s.numNeighborClient < ipaMaxNumNeighborClients)
    (hf : s.findClient data.macAddr 0 s.numNeighborClient = some none) : ∃ t, s.cacheV4 data ipaIf = some t ∧
      OneEntry data (fun c => c.ifaceIndex = data.ifIndex ∧ c.v4Addr = data.ipv4Addr)
        (s.clients.filter (·.macAddr ≠ data.macAddr)) t := by
  have hlt : s.numNeighborClient < s.neighborClient.length := by rwa [h.length]
  let c : IpaNeighborClient :=
    { macAddr := data.macAddr, ifaceIndex := data.ifIndex, ipaIfNum := ipaIf, v4Addr := data.ipv4Addr }
  let t : Neighbor :=
    { s with neighborClient := s.neighborClient.set s.numNeighborClient c, numNeighborClient := s.numNeighborClient + 1 }
  have ht : s.cacheV4 data ipaIf = some t := by
    simp only [cacheV4, hf, Option.bind_eq_bind, Option.bind_some, cacheClient, if_pos hroom, modify_eq hlt]
    rfl
  have hclients : t.clients = s.clients ++ c :: [] := by
    simp only [clients, t]
    rw [List.take_add_one, List.take_set_of_le (Nat.le_refl _)]
    simp [hlt]
  have hnew := @filter_middle data.macAddr c s.clients [] rfl hm List.not_mem_nil
  have hsame : s.clients.filter (·.macAddr ≠ data.macAddr) = s.clients :=
    List.filter_eq_self.2 fun x hx => by simpa using fun he => hm (List.mem_map.2 ⟨x, hx, he⟩)
  exact ⟨t, ht, ⟨c, by rw [hclients, hnew.1], rfl, rfl⟩, by rw [hclients, hnew.2, hsame, List.append_nil]⟩

/-- In a full table it takes the place of another. -/
theorem cacheV4_recycled (h : s.Sound) (hm : data.macAddr ∉ s.macs) (hfull : s.numNeighborClient = ipaMaxNumNeighborClients)
    (hc : s.circularIndex < ipaMaxNumNeighborClients) (hf : s.findClient data.macAddr 0 s.numNeighborClient = some none) :
    ∃ t, s.cacheV4 data ipaIf = some t ∧
      OneEntry data (fun c => c.ifaceIndex = data.ifIndex) (s.clients.eraseIdx s.circularIndex) t := by
  have hlt : s.circularIndex < s.neighborClient.length := by rwa [h.length]
  let c : IpaNeighborClient := { macAddr := data.macAddr, ifaceIndex := data.ifIndex, ipaIfNum := ipaIf }
  let t : Neighbor :=
    { s with neighborClient := s.neighborClient.set s.circularIndex c, circularIndex := s.circularIndex + 1 }
  have ht : s.cacheV4 data ipaIf = some t := by
    simp only [cacheV4, hf, Option.bind_eq_bind, Option.bind_some, cacheClient, if_neg (Nat.not_lt.2 (Nat.le_of_eq hfull.symm)),
      modify_eq hlt]
    rfl
  obtain ⟨hsplit, hlen⟩ := clients_split hlt (by rwa [hfull])
  have hclients : t.clients = s.clients.take s.circularIndex ++ c :: s.clients.drop (s.circularIndex + 1) := by
    have hset : t.clients = s.clients.set s.circularIndex c := List.take_set
    rw [hset]
    conv_lhs => rw [hsplit]
    rw [List.set_append_right _ _ (Nat.le_of_eq hlen), hlen, Nat.sub_self, List.set_cons_zero]
  have hsub : ∀ l : List IpaNeighborClient, l.Sublist s.clients → data.macAddr ∉ l.map (·.macAddr) :=
    fun l hl hmem => hm ((hl.map _).subset hmem)
  have hnew := @filter_middle data.macAddr c _ _ rfl (hsub _ (List.take_sublist s.circularIndex _))
    (hsub _ (List.drop_sublist (s.circularIndex + 1) _))
  refine ⟨t, ht, ⟨c, by rw [hclients, hnew.1], rfl⟩, ?_⟩
  rw [hclients, hnew.2, ← List.eraseIdx_eq_take_drop_succ]

/-- What leaves the entries leaves what is said of them. -/
theorem OneEntry.bind {P : IpaNeighborClient → Prop} {kept : List IpaNeighborClient} {x : Option Neighbor}
    {f : Neighbor → Option Neighbor} (hf : ∀ s, ∃ t, f s = some t ∧ t.clients = s.clients)
    (h : ∃ t, x = some t ∧ OneEntry data P kept t) : ∃ t, x.bind f = some t ∧ OneEntry data P kept t := by
  obtain ⟨t, rfl, ht⟩ := h
  obtain ⟨u, hu, hc⟩ := hf t
  exact ⟨u, hu, by rw [hc]; exact ht.one, by rw [hc]; exact ht.others⟩

/-- **A new neighbour** with an IPv4 address of an interface that is not the bridge. One of the link only is passed over;
any other has one entry afterwards, with its interface and, but where another had to make room, its address, and nothing
becomes of the other entries. -/
theorem new_neigh_learned (h : s.Sound) (hq : env.ifaceIpaIndexQuery data.ifIndex = some ipaIf) (hb : env.isBridge ipaIf = false)
    (h4 : data.iptype = .v4) (h0 : data.ipv4Addr ≠ 0) :
    (LinkLocal data → s.eventCallback env (.newNeigh data) = some s) ∧
    (¬ LinkLocal data → data.macAddr ∈ s.macs ∨ s.numNeighborClient < ipaMaxNumNeighborClients →
      ∃ t, s.eventCallback env (.newNeigh data) = some t ∧
        OneEntry data (fun c => c.ifaceIndex = data.ifIndex ∧ c.v4Addr = data.ipv4Addr)
          (s.clients.filter (·.macAddr ≠ data.macAddr)) t) ∧
    (¬ LinkLocal data → data.macAddr ∉ s.macs → s.numNeighborClient = ipaMaxNumNeighborClients →
      s.circularIndex < ipaMaxNumNeighborClients → ∃ t, s.eventCallback env (.newNeigh data) = some t ∧
        OneEntry data (fun c => c.ifaceIndex = data.ifIndex) (s.clients.eraseIdx s.circularIndex) t) := by
  have hcall : s.eventCallback env (.newNeigh data) = s.handleV4Neigh env .ipAddrAdd data ipaIf := by
    simp only [eventCallback, handleNeigh, hq, h4, if_pos]
  have hlearn : ¬ LinkLocal data → ∃ f : Neighbor → Option Neighbor, (∀ s, ∃ t, f s = some t ∧ t.clients = s.clients) ∧
      s.eventCallback env (.newNeigh data) = (s.cacheV4 data ipaIf).bind f := by
    intro hl
    have hl : ¬ data.ipv4Addr &&& ipv4AddrLinklocalMask = ipv4AddrLinklocal := hl
    rw [hcall, handleV4Neigh, if_neg h0, if_neg hl, hb]
    refine ⟨_, fun s => ?_, rfl⟩
    cases env.malloc with
    | none => exact ⟨s, rfl, rfl⟩
    | some _ => exact ⟨_, rfl, rfl⟩
  refine ⟨fun hl => ?_, fun hl hm => ?_, fun hl hm hfull hc => ?_⟩
  · rw [hcall, handleV4Neigh, if_neg h0]
    exact if_pos hl
  · obtain ⟨f, hpost, hlearn⟩ := hlearn hl
    rw [hlearn]
    refine OneEntry.bind hpost ?_
    obtain ⟨hnew, hf⟩ | ⟨i, hi, hin, hmi, hf⟩ := h.findClient data.macAddr
    · exact cacheV4_new h hnew (hm.resolve_left hnew) hf
    · exact cacheV4_known h hi hin hmi hf
  · obtain ⟨f, hpost, hlearn⟩ := hlearn hl
    rw [hlearn]
    refine OneEntry.bind hpost ?_
    obtain ⟨-, hf⟩ | ⟨i, hi, hin, hmi, -⟩ := h.findClient data.macAddr
    · exact cacheV4_recycled h hm hfull hc hf
    · exact absurd (mem_macs_of_lt hi hin hmi) hm

/-- The address 192.168.225.20 of a client on interface 3, and one of the link only. -/
def sampleNeigh (ipv4Addr : BitVec 32) : EventDataAll := ⟨.v4, 3, ipv4Addr, 0, 0x020000000001⟩

theorem new_neigh_learned_sample : ∃ t, init.eventCallback sampleNeighborEnv (.newNeigh (sampleNeigh 0xC0A8E114)) = some t ∧
    OneEntry (sampleNeigh 0xC0A8E114) (fun c => c.ifaceIndex = 3 ∧ c.v4Addr = 0xC0A8E114)
      (init.clients.filter (·.macAddr ≠ (sampleNeigh 0xC0A8E114).macAddr)) t :=
  (@new_neigh_learned init sampleNeighborEnv (sampleNeigh 0xC0A8E114) 0 init_sound rfl rfl rfl (by decide)).2.1 (by unfold LinkLocal; decide) (.inr (by decide))

/-- A neighbour with a link-local address gets no entry. -/
theorem not_new_neigh_sample : ¬ ∃ t kept, init.eventCallback sampleNeighborEnv (.newNeigh (sampleNeigh 0xA9FE0101)) = some t ∧
    OneEntry (sampleNeigh 0xA9FE0101) (fun c => c.ifaceIndex = 3 ∧ c.v4Addr = 0xA9FE0101) kept t := by
  rintro ⟨t, kept, ht, h⟩
  cases ht
  obtain ⟨c, hc, -⟩ := h.one
  cases hc

end Neighbor
end HiaeCommon
