/-
The names under which the headers of clients are registered with the driver
(`handle_eth_hdr_init`, `handle_wlan_client_init_ex`, `handle_wan_hdr_init`).

A name is made of the number of the interface, a part for the kind of header,
and `header_name_count`. Both numbers are printed into a buffer of two bytes,
one of which is the terminator, so only their first digits are in the name.
-/
import Mathlib.Data.List.Flatten
import HiaeCommon.Lib.Distinct
import HiaeCommon.Lib.Run
import HiaeCommon.Ipacm.EthClients
import HiaeCommon.Ipacm.NatApp

namespace HiaeCommon

open Lib (AllDistinct)

/-! ## The names -/

/-- `strlcpy` into a buffer of `size` bytes: what it holds then. -/
def strlcpy (src : List Char) (size : Nat) : List Char := src.take (size - 1)

/-- `strlcat` into a buffer of `size` bytes: what it holds then, and the length it tried to make. -/
def strlcat (dst src : List Char) (size : Nat) : List Char × Nat :=
  if dst.length < size then (dst ++ src.take (size - 1 - dst.length), dst.length + src.length) else (dst, size + src.length)

/-- `index` after `snprintf(index, sizeof(index), "%d", n)`: there is room for one digit. -/
def firstDigit (n : Nat) : List Char := (Nat.toDigits 10 n).take 1

/-- What gives its clients headers: an `IPACM_Lan`, an `IPACM_Wlan`, and an `IPACM_Wan` that is a station. -/
inductive HdrOwner
  | lan | wlan | wan
  deriving DecidableEq, Repr

/-- `IPA_ETH_HDR_NAME_v4`, `IPA_WLAN_PARTIAL_HDR_NAME_v4`, `IPA_WAN_PARTIAL_HDR_NAME_v4`, and those for IPv6. -/
def HdrOwner.partialName : HdrOwner → IpType → List Char
  | .lan, .v4 => "IPACM_ETH_v4".toList
  | .lan, _ => "IPACM_ETH_v6".toList
  | .wlan, .v4 => "IEEE802_3_v4".toList
  | .wlan, _ => "IEEE802_3_v6".toList
  | .wan, .v4 => "IEEE802_3_STA_v4".toList
  | .wan, _ => "IEEE802_3_STA_v6".toList

/-- The construction of a name of at most `nameMax` bytes (`IPA_RESOURCE_NAME_MAX`); `none` where it exceeds them. -/
def hdrName (nameMax : Nat) (owner : HdrOwner) (ip : IpType) (ipaIfNum headerNameCount : Nat) : Option (List Char) :=
  -- name[IPA_RESOURCE_NAME_MAX-1] = '\0'
  let name := (strlcpy (firstDigit ipaIfNum) nameMax).take (nameMax - 1)
  let (name, len) := strlcat name (owner.partialName ip) nameMax
  if len > nameMax then none
  else
    let (name, len) := strlcat name (firstDigit headerNameCount) nameMax
    if len > nameMax then none else some name

/-! ## Clients -/

/-- A client that has been counted, with the names its headers were registered under. `nameCount` is
`header_name_count` as it was then. -/
structure HdrClient where
  mac : MacAddr
  nameCount : Nat
  hdrV4 : Option (List Char)
  hdrV6 : Option (List Char)
  deriving DecidableEq, Repr

/-- What an instance has for its clients: the families of its tx properties, the clients, and `header_name_count`. -/
structure HdrIface where
  owner : HdrOwner
  txProp : List IpType
  clients : List HdrClient := []
  headerNameCount : Nat := 0
  deriving DecidableEq, Repr

/-- The headers the driver grants, or deletes. -/
structure HdrAnswer where
  v4 : Bool
  v6 : Bool
  deriving DecidableEq, Repr

/-- `IPA_MAX_NUM_WAN_CLIENTS`. -/
def ipaMaxNumWanClients : Nat := 10

namespace HdrIface

variable (nameMax : Nat)

/-- There is a client with this MAC (`get_eth_client_index`, `get_wan_client_index`). -/
def known (f : HdrIface) (mac : MacAddr) : Bool := f.clients.any fun c => c.mac = mac

/-- The header of a family, from the first tx property that has it: its name if there is one. `none` is a failure. -/
def addHdr (f : HdrIface) (ipaIfNum : Nat) (ip : IpType) (granted : Bool) : Option (Option (List Char)) :=
  if ip ∈ f.txProp then
    match hdrName nameMax f.owner ip ipaIfNum f.headerNameCount with
    | none => none
    | some name => if granted then some (some name) else none
  else some none

/-- What the three handlers share; `none` where they do not count the client. -/
def clientInit (f : HdrIface) (ipaIfNum : Nat) (mac : MacAddr) (answer : HdrAnswer) (refused : Bool) : Option HdrIface :=
  if refused then none
  else if f.txProp = [] then none
  else
    match f.addHdr nameMax ipaIfNum .v4 answer.v4 with
    | none => none
    | some hdrV4 =>
      match f.addHdr nameMax ipaIfNum .v6 answer.v6 with
      | none => none
      | some hdrV6 =>
        some { f with
          clients := f.clients ++ [⟨mac, f.headerNameCount, hdrV4, hdrV6⟩], headerNameCount := f.headerNameCount + 1 }

/-- The checks in front; those of `handle_wlan_client_init_ex` do not look for the MAC. -/
def refused (f : HdrIface) (mac : MacAddr) (total : Int) : HdrOwner → Bool
  | .lan => f.known mac || decide (f.clients.length ≥ ipaMaxNumEthClients)
  | .wlan => decide (f.clients.length ≥ ipaMaxNumWifiClients) || decide (total ≥ ipaMaxNumWifiClients)
  | .wan => f.known mac || decide (f.clients.length ≥ ipaMaxNumWanClients)

/-- `handle_eth_hdr_init`. -/
def handleEthHdrInit (f : HdrIface) (ipaIfNum : Nat) (mac : MacAddr) (answer : HdrAnswer) : Option HdrIface :=
  f.clientInit nameMax ipaIfNum mac answer (f.refused mac 0 .lan)

/-- `handle_wlan_client_init_ex`, with `total_num_wifi_clients`. -/
def handleWlanClientInitEx (f : HdrIface) (ipaIfNum : Nat) (mac : MacAddr) (total : Int) (answer : HdrAnswer) : Option HdrIface :=
  f.clientInit nameMax ipaIfNum mac answer (f.refused mac total .wlan)

/-- `handle_wan_hdr_init`. -/
def handleWanHdrInit (f : HdrIface) (ipaIfNum : Nat) (mac : MacAddr) (answer : HdrAnswer) : Option HdrIface :=
  f.clientInit nameMax ipaIfNum mac answer (f.refused mac 0 .wan)

/-- The handler of an instance. -/
def hdrInit (f : HdrIface) (ipaIfNum : Nat) (mac : MacAddr) (total : Int) (answer : HdrAnswer) : Option HdrIface :=
  match f.owner with
  | .lan => f.handleEthHdrInit nameMax ipaIfNum mac answer
  | .wlan => f.handleWlanClientInitEx nameMax ipaIfNum mac total answer
  | .wan => f.handleWanHdrInit nameMax ipaIfNum mac answer

end HdrIface

/-- The deletion of a client's headers, after its rules: whether all of it succeeds, and the client then. -/
def HdrClient.deleteHdrs (c : HdrClient) (rtRules : Bool) (answer : HdrAnswer) : Bool × HdrClient :=
  if rtRules = false then (false, c)
  else if c.hdrV4.isSome ∧ answer.v4 = false then (false, c)
  else if c.hdrV6.isSome ∧ answer.v6 = false then (false, { c with hdrV4 := none })
  else (true, { c with hdrV4 := none, hdrV6 := none })

/-- `handle_eth_client_down_evt`, `handle_wlan_client_down_evt`: whether a client goes, and what is left. -/
def HdrIface.clientDown (f : HdrIface) (mac : MacAddr) (rtRules : Bool) (answer : HdrAnswer) : Bool × HdrIface :=
  match f.clients.findIdx? fun c => c.mac = mac with
  | none => (false, f)
  | some k =>
    match f.clients[k]? with
    | none => (false, f)
    | some c =>
      match c.deleteHdrs rtRules answer with
      | (false, c) => (false, { f with clients := f.clients.set k c })
      | (true, _) => (true, { f with clients := f.clients.eraseIdx k })

/-! ## The interfaces -/

/-- The instances by `ipa_if_num`, and `IPACM_Wlan::total_num_wifi_clients`. -/
structure HdrSys where
  iface : Nat → HdrIface
  totalNumWifiClients : Int := 0

/-- A client comes, a client goes, and the instance of an interface goes down and another one is made for it. -/
inductive HdrEvt
  | clientAdd (ipaIfNum : Nat) (mac : MacAddr) (answer : HdrAnswer)
  | clientDel (ipaIfNum : Nat) (mac : MacAddr) (rtRules : Bool) (answer : HdrAnswer)
  | newInstance (ipaIfNum : Nat) (owner : HdrOwner) (txProp : List IpType)
  deriving DecidableEq, Repr

namespace HdrSys

/-- Before any client: instances of any kind and with any tx properties. -/
def start (owner : Nat → HdrOwner) (txProp : Nat → List IpType) : HdrSys where
  iface i := { owner := owner i, txProp := txProp i }

/-- `total_num_wifi_clients` after `n` more clients of an instance. -/
def addTotal (s : HdrSys) (i : Nat) (n : Int) : Int :=
  match (s.iface i).owner with
  | .wlan => s.totalNumWifiClients + n
  | _ => s.totalNumWifiClients

def step (nameMax : Nat) (s : HdrSys) : HdrEvt → HdrSys
  | .clientAdd i mac answer =>
    match (s.iface i).hdrInit nameMax i mac s.totalNumWifiClients answer with
    | none => s
    | some f => ⟨Function.update s.iface i f, s.addTotal i 1⟩
  | .clientDel i mac rtRules answer =>
    match (s.iface i).owner with
    -- the clients of an IPACM_Wan only go with it
    | .wan => s
    | _ =>
      let (gone, f) := (s.iface i).clientDown mac rtRules answer
      ⟨Function.update s.iface i f, if gone then s.addTotal i (-1) else s.totalNumWifiClients⟩
  | .newInstance i owner txProp =>
    ⟨Function.update s.iface i { owner, txProp }, s.addTotal i (-(s.iface i).clients.length)⟩

end HdrSys

/-! ## Which names are the same -/

/-- The name of a header, in a buffer with room for it. -/
def fullName (owner : HdrOwner) (ip : IpType) (ipaIfNum headerNameCount : Nat) : List Char :=
  firstDigit ipaIfNum ++ owner.partialName ip ++ firstDigit headerNameCount

section Names

variable {o o' : HdrOwner} {ip ip' : IpType} {i j m n nameMax : Nat}

@[simp] theorem length_firstDigit (n : Nat) : (firstDigit n).length = 1 := by
  have hpos : 0 < (Nat.toDigits 10 n).length := Nat.length_toDigits_pos
  rw [firstDigit, List.length_take]
  omega

theorem HdrOwner.length_partialName (o : HdrOwner) (ip : IpType) : (o.partialName ip).length ≤ 16 := by
  cases o <;> cases ip <;> decide

theorem HdrOwner.partialName_inj (h : o.partialName ip = o'.partialName ip') : o = o' ∧ (ip = .v4 ↔ ip' = .v4) := by
  revert h
  cases o <;> cases o' <;> cases ip <;> cases ip' <;> decide

theorem strlcat_fits {dst src : List Char} {size : Nat} (h : dst.length + src.length < size) :
    strlcat dst src size = (dst ++ src, dst.length + src.length) := by
  rw [strlcat, if_pos (by omega), List.take_of_length_le (by omega)]

theorem hdrName_eq (hmax : 19 ≤ nameMax) (o : HdrOwner) (ip : IpType) (i n : Nat) :
    hdrName nameMax o ip i n = some (fullName o ip i n) := by
  have hpart := o.length_partialName ip
  have hindex : (strlcpy (firstDigit i) nameMax).take (nameMax - 1) = firstDigit i := by
    rw [strlcpy, List.take_take, Nat.min_self, List.take_of_length_le]
    rw [length_firstDigit]
    omega
  have hone : (firstDigit i).length + (o.partialName ip).length < nameMax := by
    rw [length_firstDigit]
    omega
  have htwo : (firstDigit i ++ o.partialName ip).length + (firstDigit n).length < nameMax := by
    rw [List.length_append, length_firstDigit, length_firstDigit]
    omega
  rw [hdrName, hindex]
  dsimp only
  rw [strlcat_fits hone]
  dsimp only
  rw [if_neg (by omega), strlcat_fits htwo]
  dsimp only
  rw [if_neg (by omega)]
  rfl

/-- Two names are the same exactly for headers of one kind and family whose numbers begin with the same digits. -/
theorem fullName_eq_iff : fullName o ip i m = fullName o' ip' j n ↔
    firstDigit i = firstDigit j ∧ o.partialName ip = o'.partialName ip' ∧ firstDigit m = firstDigit n := by
  constructor
  · intro h
    obtain ⟨hfront, hcount⟩ := List.append_inj' h (by simp)
    obtain ⟨hindex, hpart⟩ := List.append_inj hfront (by simp)
    exact ⟨hindex, hpart, hcount⟩
  · rintro ⟨hindex, hpart, hcount⟩
    rw [fullName, hindex, hpart, hcount]
    rfl

end Names

/-! ## What the handlers do -/

/-- The header of a family that a client has. -/
def HdrClient.hdr (c : HdrClient) : IpType → Option (List Char)
  | .v4 => c.hdrV4
  | .v6 => c.hdrV6
  | .max => none

/-- The names of a client's headers. -/
def HdrClient.names (c : HdrClient) : List (List Char) := [IpType.v4, .v6].filterMap c.hdr

namespace HdrIface

variable {nameMax : Nat} {f : HdrIface} {i : Nat} {mac : MacAddr} {total : Int} {answer : HdrAnswer}

/-- The header of a family that the next client gets. -/
def nextHdr (f : HdrIface) (i : Nat) (ip : IpType) : Option (List Char) :=
  if ip ∈ f.txProp then some (fullName f.owner ip i f.headerNameCount) else none

def nextClient (f : HdrIface) (i : Nat) (mac : MacAddr) : HdrClient :=
  ⟨mac, f.headerNameCount, f.nextHdr i .v4, f.nextHdr i .v6⟩

/-- A client gets its headers: nothing refuses it, there is a tx property, and the driver grants what is asked of it. -/
structure Takes (f : HdrIface) (mac : MacAddr) (total : Int) (answer : HdrAnswer) : Prop where
  free : f.refused mac total f.owner = false
  prop : f.txProp ≠ []
  v4 : .v4 ∈ f.txProp → answer.v4 = true
  v6 : .v6 ∈ f.txProp → answer.v6 = true

theorem addHdr_eq (hmax : 19 ≤ nameMax) (f : HdrIface) (i : Nat) (ip : IpType) (granted : Bool) :
    f.addHdr nameMax i ip granted = if ip ∈ f.txProp ∧ granted = false then none else some (f.nextHdr i ip) := by
  unfold addHdr nextHdr
  by_cases hip : ip ∈ f.txProp
  · rw [if_pos hip, if_pos hip, hdrName_eq hmax]
    cases granted <;> simp [hip]
  · simp [hip]

theorem hdrInit_eq_clientInit : f.hdrInit nameMax i mac total answer = f.clientInit nameMax i mac answer (f.refused mac total f.owner) := by
  unfold hdrInit
  split <;> next ho =>
    rw [ho]
    rfl

theorem hdrInit_takes (hmax : 19 ≤ nameMax) (h : f.Takes mac total answer) :
    f.hdrInit nameMax i mac total answer =
      some { f with clients := f.clients ++ [f.nextClient i mac], headerNameCount := f.headerNameCount + 1 } := by
  have h4 : ¬(.v4 ∈ f.txProp ∧ answer.v4 = false) := fun hno => by simp [h.v4 hno.1] at hno
  have h6 : ¬(.v6 ∈ f.txProp ∧ answer.v6 = false) := fun hno => by simp [h.v6 hno.1] at hno
  rw [hdrInit_eq_clientInit, clientInit, h.free, if_neg Bool.false_ne_true, if_neg h.prop, addHdr_eq hmax, if_neg h4, addHdr_eq hmax,
    if_neg h6]
  rfl

theorem hdrInit_none (hmax : 19 ≤ nameMax) (h : ¬f.Takes mac total answer) : f.hdrInit nameMax i mac total answer = none := by
  rw [hdrInit_eq_clientInit, clientInit, addHdr_eq hmax, addHdr_eq hmax]
  by_cases hfree : f.refused mac total f.owner = true
  · rw [if_pos hfree]
  by_cases hprop : f.txProp = []
  · rw [if_neg hfree, if_pos hprop]
  rw [if_neg hfree, if_neg hprop]
  by_cases h4 : .v4 ∈ f.txProp ∧ answer.v4 = false
  · rw [if_pos h4]
  by_cases h6 : .v6 ∈ f.txProp ∧ answer.v6 = false
  · rw [if_neg h4, if_pos h6]
  · exact absurd ⟨by simpa using hfree, hprop, fun hm => by simpa [hm] using h4, fun hm => by simpa [hm] using h6⟩ h

/-- The removal of a client takes clients away and headers from them. -/
theorem clientDown_eq (f : HdrIface) (mac : MacAddr) (rtRules : Bool) (answer : HdrAnswer) :
    (f.clientDown mac rtRules answer).2 = f ∨
      (∃ k c, f.clients[k]? = some c ∧ (f.clientDown mac rtRules answer).2 = { f with clients := f.clients.set k { c with hdrV4 := none } }) ∨
      ∃ k, (f.clientDown mac rtRules answer).2 = { f with clients := f.clients.eraseIdx k } := by
  unfold clientDown
  split
  · exact .inl rfl
  next k hk =>
    split
    · exact .inl rfl
    next c hc =>
      have hsame : { f with clients := f.clients.set k c } = f := by
        obtain ⟨hlt, rfl⟩ := List.getElem?_eq_some_iff.1 hc
        rw [List.set_getElem_self hlt]
      unfold HdrClient.deleteHdrs
      split_ifs
      · exact .inl hsame
      · exact .inl hsame
      · exact .inr (.inl ⟨k, c, hc, rfl⟩)
      · exact .inr (.inr ⟨k, rfl⟩)

end HdrIface

namespace HdrSys

variable {nameMax : Nat} {s : HdrSys} {i : Nat}

/-- The names of the headers of an interface's clients, client by client. -/
def names (s : HdrSys) (i : Nat) : List (List Char) := (s.iface i).clients.flatMap HdrClient.names

/-- The headers that are there have the names they were given. -/
def Named (s : HdrSys) : Prop :=
  ∀ i, ∀ c ∈ (s.iface i).clients, ∀ ip n, c.hdr ip = some n → n = fullName (s.iface i).owner ip i c.nameCount

/-- No client on an interface of the same kind, with a number that begins with the same digit, has a header of the
family from a count that begins with the digit of the one to come. -/
def Clear (s : HdrSys) (i : Nat) (ip : IpType) : Prop :=
  ∀ j, ∀ c ∈ (s.iface j).clients, (c.hdr ip).isSome → (s.iface j).owner = (s.iface i).owner → firstDigit j = firstDigit i →
    firstDigit c.nameCount ≠ firstDigit (s.iface i).headerNameCount

/-- What a client must find that is to get headers. -/
def AddsClear (s : HdrSys) : HdrEvt → Prop
  | .clientAdd i mac answer =>
    (s.iface i).Takes mac s.totalNumWifiClients answer → ∀ ip ∈ [IpType.v4, .v6], ip ∈ (s.iface i).txProp → s.Clear i ip
  | _ => True

theorem mem_names {c : HdrClient} {n : List Char} : n ∈ c.names ↔ ∃ ip ∈ [IpType.v4, .v6], c.hdr ip = some n :=
  List.mem_filterMap

theorem clear_iff (h : s.Named) {ip : IpType} (hip : ip ∈ [IpType.v4, .v6]) :
    s.Clear i ip ↔ ∀ j, fullName (s.iface i).owner ip i (s.iface i).headerNameCount ∉ s.names j := by
  constructor
  · intro hclear j hj
    obtain ⟨c, hc, hn⟩ := List.mem_flatMap.1 hj
    obtain ⟨ip', hip', hhdr⟩ := mem_names.1 hn
    obtain ⟨hindex, hpart, hcount⟩ := fullName_eq_iff.1 (h j c hc ip' _ hhdr)
    obtain ⟨howner, hfam⟩ := HdrOwner.partialName_inj hpart
    have hsame : ip' = ip := by
      simp only [List.mem_cons, List.not_mem_nil, or_false] at hip hip'
      rcases hip with rfl | rfl <;> rcases hip' with rfl | rfl <;> simp_all
    subst hsame
    exact hclear j c hc (by rw [hhdr]; rfl) howner.symm hindex.symm hcount.symm
  · intro hno j c hc hhdr howner hindex hcount
    obtain ⟨n, hn⟩ := Option.isSome_iff_exists.1 hhdr
    have hname : n = fullName (s.iface i).owner ip i (s.iface i).headerNameCount := by
      rw [h j c hc ip n hn, howner]
      exact fullName_eq_iff.2 ⟨hindex, rfl, hcount⟩
    exact hno j (hname ▸ List.mem_flatMap.2 ⟨c, hc, mem_names.2 ⟨ip, hip, hn⟩⟩)

theorem start_named (owner : Nat → HdrOwner) (txProp : Nat → List IpType) : (start owner txProp).Named :=
  fun _ _ hc => absurd hc List.not_mem_nil

theorem names_update (f : HdrIface) (total : Int) :
    names ⟨Function.update s.iface i f, total⟩ = Function.update s.names i (f.clients.flatMap HdrClient.names) := by
  funext j
  by_cases hj : j = i
  · subst hj
    simp [names]
  · simp [names, Function.update_of_ne hj]

theorem Named.update (h : s.Named) {f : HdrIface} (total : Int)
    (hf : ∀ c ∈ f.clients, ∀ ip n, c.hdr ip = some n → n = fullName f.owner ip i c.nameCount) : Named ⟨Function.update s.iface i f, total⟩ := by
  intro j
  by_cases hj : j = i
  · subst hj
    simpa using hf
  · simpa [Function.update_of_ne hj] using h j

/-! ## Steps -/

section Steps

variable {mac : MacAddr} {answer : HdrAnswer}

theorem step_clientAdd_none (hmax : 19 ≤ nameMax) (h : ¬(s.iface i).Takes mac s.totalNumWifiClients answer) :
    s.step nameMax (.clientAdd i mac answer) = s := by
  rw [step, HdrIface.hdrInit_none hmax h]

theorem step_clientAdd_takes (hmax : 19 ≤ nameMax) (h : (s.iface i).Takes mac s.totalNumWifiClients answer) :
    s.step nameMax (.clientAdd i mac answer) =
      ⟨Function.update s.iface i { s.iface i with
        clients := (s.iface i).clients ++ [(s.iface i).nextClient i mac], headerNameCount := (s.iface i).headerNameCount + 1 },
        s.addTotal i 1⟩ := by
  rw [step, HdrIface.hdrInit_takes hmax h]

theorem step_clientDel (rtRules : Bool) : s.step nameMax (.clientDel i mac rtRules answer) = s ∨
    ∃ total, s.step nameMax (.clientDel i mac rtRules answer) =
      ⟨Function.update s.iface i ((s.iface i).clientDown mac rtRules answer).2, total⟩ := by
  unfold step
  dsimp only
  split
  · exact .inl rfl
  · exact .inr ⟨_, rfl⟩

theorem nextClient_hdr {ip : IpType} (hip : ip ∈ [IpType.v4, .v6]) (f : HdrIface) : (f.nextClient i mac).hdr ip = f.nextHdr i ip := by
  simp only [List.mem_cons, List.not_mem_nil, or_false] at hip
  rcases hip with rfl | rfl <;> rfl

theorem nextClient_named (f : HdrIface) (ip : IpType) (n : List Char) (h : (f.nextClient i mac).hdr ip = some n) :
    n = fullName f.owner ip i f.headerNameCount := by
  have hnext : f.nextHdr i ip = some n := by
    cases ip with
    | v4 => exact h
    | v6 => exact h
    | max => cases h
  unfold HdrIface.nextHdr at hnext
  split at hnext
  · exact (Option.some.inj hnext).symm
  · cases hnext

theorem step_named (hmax : 19 ≤ nameMax) (h : s.Named) (e : HdrEvt) : (s.step nameMax e).Named := by
  cases e with
  | clientAdd i mac answer =>
    by_cases ht : (s.iface i).Takes mac s.totalNumWifiClients answer
    · rw [step_clientAdd_takes hmax ht]
      refine h.update _ fun c hc ip n hn => ?_
      rcases List.mem_append.1 hc with hc | hc
      · exact h i c hc ip n hn
      · rw [List.mem_singleton.1 hc] at hn ⊢
        exact nextClient_named _ ip n hn
    · rwa [step_clientAdd_none hmax ht]
  | clientDel i mac rtRules answer =>
    rcases step_clientDel rtRules with hs | ⟨total, hs⟩
    · rwa [hs]
    · rw [hs]
      refine h.update _ ?_
      rcases (s.iface i).clientDown_eq mac rtRules answer with heq | ⟨k, c, hc, heq⟩ | ⟨k, heq⟩
      · rw [heq]
        exact h i
      · rw [heq]
        intro c' hc' ip n hn
        rcases List.mem_or_eq_of_mem_set hc' with hc' | rfl
        · exact h i c' hc' ip n hn
        · refine h i c (List.mem_of_getElem? hc) ip n ?_
          cases ip with
          | v4 => cases hn
          | v6 => exact hn
          | max => cases hn
      · rw [heq]
        exact fun c hc => h i c ((List.eraseIdx_sublist _ k).subset hc)
  | newInstance i owner txProp => exact h.update _ fun _ hc => absurd hc List.not_mem_nil

/-- The names of the headers a client gets. -/
theorem nextClient_names (f : HdrIface) {n : List Char} :
    n ∈ (f.nextClient i mac).names ↔ ∃ ip ∈ [IpType.v4, .v6], ip ∈ f.txProp ∧ n = fullName f.owner ip i f.headerNameCount := by
  rw [mem_names]
  refine exists_congr fun ip => and_congr_right fun hip => ?_
  rw [nextClient_hdr hip, HdrIface.nextHdr]
  split
  next hp => simp [hp, eq_comm]
  next hp => simp [hp]

/-- The IPv4 and the IPv6 header of a client have different names. -/
theorem nextClient_nodup (f : HdrIface) : (f.nextClient i mac).names.Nodup := by
  refine List.Nodup.filterMap (fun ip ip' n hn hn' => ?_) (by decide)
  have heq := (nextClient_named f ip n hn).symm.trans (nextClient_named f ip' n hn')
  have hfam := (HdrOwner.partialName_inj (fullName_eq_iff.1 heq).2.1).2
  cases ip <;> cases ip' <;> first | rfl | cases hn | cases hn' | simp at hfam

/-- A client that gets headers keeps all names apart exactly where they are clear. -/
theorem step_takes_iff (hmax : 19 ≤ nameMax) (hN : s.Named) (hD : AllDistinct s.names)
    (ht : (s.iface i).Takes mac s.totalNumWifiClients answer) :
    AllDistinct (s.step nameMax (.clientAdd i mac answer)).names ↔
      ∀ ip ∈ [IpType.v4, .v6], ip ∈ (s.iface i).txProp → s.Clear i ip := by
  have hnames : (s.step nameMax (.clientAdd i mac answer)).names =
      Function.update s.names i (s.names i ++ ((s.iface i).nextClient i mac).names) := by
    rw [step_clientAdd_takes hmax ht, names_update, List.flatMap_append, List.flatMap_singleton]
    rfl
  rw [hnames, hD.update_append_iff]
  constructor
  · rintro ⟨-, hdis⟩ ip hip hp
    exact (clear_iff hN hip).2 fun j hj => hdis j (nextClient_names _ |>.2 ⟨ip, hip, hp, rfl⟩) hj
  · intro hclear
    refine ⟨nextClient_nodup _, fun j n hn hj => ?_⟩
    obtain ⟨ip, hip, hp, rfl⟩ := (nextClient_names _).1 hn
    exact (clear_iff hN hip).1 (hclear ip hip hp) j hj

theorem clear_sublist (c : HdrClient) : ({ c with hdrV4 := none } : HdrClient).names.Sublist c.names := by
  simp only [HdrClient.names, List.filterMap_cons, HdrClient.hdr]
  cases c.hdrV4 with
  | none => exact List.Sublist.refl _
  | some n => exact List.sublist_cons_self n _

/-- Any other step takes names away or leaves them. -/
theorem step_sublist (hmax : 19 ≤ nameMax) (e : HdrEvt)
    (he : ∀ i mac answer, e = .clientAdd i mac answer → ¬(s.iface i).Takes mac s.totalNumWifiClients answer) (j : Nat) :
    ((s.step nameMax e).names j).Sublist (s.names j) := by
  have hupd : ∀ i (f : HdrIface) (total : Int), (f.clients.flatMap HdrClient.names).Sublist (s.names i) →
      (names ⟨Function.update s.iface i f, total⟩ j).Sublist (s.names j) := by
    intro i f total hf
    rw [names_update]
    by_cases hj : j = i
    · subst hj
      rwa [Function.update_self]
    · rw [Function.update_of_ne hj]
  cases e with
  | clientAdd i mac answer => rw [step_clientAdd_none hmax (he i mac answer rfl)]
  | clientDel i mac rtRules answer =>
    rcases step_clientDel rtRules with hs | ⟨total, hs⟩
    · rw [hs]
    · rw [hs]
      refine hupd i _ _ ?_
      rcases (s.iface i).clientDown_eq mac rtRules answer with heq | ⟨k, c, hc, heq⟩ | ⟨k, heq⟩
      · rw [heq]
        exact List.Sublist.refl _
      · rw [heq]
        exact Lib.flatMap_set_sublist (clear_sublist c) hc
      · rw [heq]
        exact (List.eraseIdx_sublist _ k).flatMap _
  | newInstance i owner txProp => exact hupd i _ _ (List.nil_sublist _)

end Steps

/-! ## Runs -/

def run (nameMax : Nat) (s : HdrSys) (es : List HdrEvt) : HdrSys := es.foldl (step nameMax) s

/-- **The names of the headers of clients that are connected are all different** throughout a run, those of one client
and those of any two, exactly where no client comes while one on an interface of the same kind has a header of the
same family, and the numbers of the interfaces begin with the same digit, and so do the counts. -/
theorem header_names_iff (hmax : 19 ≤ nameMax) (owner : Nat → HdrOwner) (txProp : Nat → List IpType) (es : List HdrEvt) :
    (∀ pre, pre <+: es → AllDistinct (run nameMax (start owner txProp) pre).names) ↔
      Lib.EachStep (step nameMax) AddsClear (start owner txProp) es := by
  have hstart : AllDistinct (start owner txProp).names := ⟨fun _ => List.nodup_nil, fun _ _ _ => List.disjoint_nil_left _⟩
  refine Lib.eachStep_iff (I := fun _ (s : HdrSys) => s.Named ∧ AllDistinct s.names) (J := fun _ (s : HdrSys) => AllDistinct s.names)
    (fun _ _ h => h.2) ?_ ?_ ⟨start_named owner txProp, hstart⟩ es
  · rintro - s e ⟨hN, hD⟩ hC
    refine ⟨step_named hmax hN e, ?_⟩
    by_cases he : ∃ i mac answer, e = .clientAdd i mac answer ∧ (s.iface i).Takes mac s.totalNumWifiClients answer
    · obtain ⟨i, mac, answer, rfl, ht⟩ := he
      exact (step_takes_iff hmax hN hD ht).2 (hC ht)
    · exact hD.sublist (step_sublist hmax e fun i mac answer h ht => he ⟨i, mac, answer, h, ht⟩)
  · rintro - s e ⟨hN, hD⟩ hJ
    cases e with
    | clientAdd i mac answer => exact fun ht => (step_takes_iff hmax hN hD ht).1 hJ
    | clientDel => trivial
    | newInstance => trivial

/-- Eleven clients of an Ethernet interface. -/
def sampleEvents : List HdrEvt := (List.range 11).map fun m => .clientAdd 1 (BitVec.ofNat 48 m) ⟨true, true⟩

theorem header_names_iff_sample : (∀ pre, pre <+: [HdrEvt.clientAdd 1 5 ⟨true, true⟩] →
      AllDistinct (run 20 (start (fun _ => .lan) fun _ => [.v4, .v6]) pre).names) ↔
    Lib.EachStep (step 20) AddsClear (start (fun _ => .lan) fun _ => [.v4, .v6]) [.clientAdd 1 5 ⟨true, true⟩] :=
  header_names_iff (by decide) (fun _ => .lan) (fun _ => [.v4, .v6]) _

/-- The second and the eleventh have counts 1 and 10. -/
theorem not_header_names_sample :
    ¬∀ pre, pre <+: sampleEvents → AllDistinct (run 20 (start (fun _ => .lan) fun _ => [.v4, .v6]) pre).names :=
  fun h => absurd ((h sampleEvents (List.prefix_refl _)).nodup 1) (by decide)

end HdrSys
end HiaeCommon
