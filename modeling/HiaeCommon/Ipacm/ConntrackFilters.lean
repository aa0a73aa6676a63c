/-
The filters of `IPACM_ConntrackClient`: which source and destination addresses
the TCP and the UDP filter ignore after interface-up events.

`updateTcpFilters` hands the UDP filter to the two helpers that ignore the
bridge and the broadcast address, so the TCP filter never gets them
(`filters_inStep_iff`).
-/
import Mathlib.Data.List.Induction
import Mathlib.Tactic.Tauto

namespace HiaeCommon

/-! ## The filters of libnetfilter_conntrack -/

/-- `NFCT_FILTER_SRC_IPV4` and `NFCT_FILTER_DST_IPV4`. -/
inductive NfctFilterAttr where
  | srcIpv4
  | dstIpv4
  deriving DecidableEq, Repr

inductive NfctFilterLogic where
  | positive
  | negative
  deriving DecidableEq, Repr

/-- `struct nfct_filter_ipv4`, in host byte order. -/
structure NfctFilterIpv4 where
  addr : BitVec 32
  mask : BitVec 32
  deriving DecidableEq, Repr

/-- The address alone, as each caller here asks for. -/
def NfctFilterIpv4.exactly (addr : BitVec 32) : NfctFilterIpv4 where
  addr := addr
  mask := 0xFFFFFFFF

structure NfctFilter where
  logic : NfctFilterAttr → NfctFilterLogic
  elems : NfctFilterAttr → List NfctFilterIpv4

namespace NfctFilter

/-- `nfct_filter_create`. -/
def create : NfctFilter where
  logic := fun _ => .positive
  elems := fun _ => []

def setLogic (f : NfctFilter) (attr : NfctFilterAttr) (logic : NfctFilterLogic) : NfctFilter :=
  { f with logic := fun a => if a = attr then logic else f.logic a }

/-- `nfct_filter_add_attr`. The library keeps at most `limit` addresses for
each attribute, and a further one changes nothing. -/
def addAttr (limit : Nat) (f : NfctFilter) (attr : NfctFilterAttr) (value : NfctFilterIpv4) : NfctFilter :=
  if (f.elems attr).length < limit then
    { f with elems := fun a => if a = attr then f.elems a ++ [value] else f.elems a }
  else f

/-- The filter drops events of this address. -/
def Ignores (f : NfctFilter) (attr : NfctFilterAttr) (addr : BitVec 32) : Prop :=
  f.logic attr = .negative ∧ ∃ e ∈ f.elems attr, addr &&& e.mask = e.addr &&& e.mask

instance (f : NfctFilter) (attr : NfctFilterAttr) (addr : BitVec 32) : Decidable (f.Ignores attr addr) :=
  inferInstanceAs (Decidable (_ ∧ _))

/-- The pair of calls the client makes for each address it ignores. -/
def ignoreAddr (limit : Nat) (attr : NfctFilterAttr) (addr : BitVec 32) (f : NfctFilter) : NfctFilter :=
  (f.setLogic attr .negative).addAttr limit attr (.exactly addr)

end NfctFilter

/-! ## The client -/

/-- `ipacm_event_iface_up`, as far as the filters read it. -/
structure IfaceUp where
  ipv4Addr : BitVec 32
  addrMask : BitVec 32
  deriving DecidableEq, Repr

/-- What the kernel and the configuration give a call of
`IPA_Conntrack_Filters_Ignore_Bridge_Addrs`. -/
structure BridgeQuery where
  fd : Int
  virtualIfaceNameLen : Nat
  /-- The result of `SIOCGIFADDR`, and the address it fills in. -/
  ret : Int
  sinAddr : BitVec 32
  deriving DecidableEq, Repr

/-- What `nfct_filter_attach` last gave the kernel for a handle. -/
structure NfctHandle where
  attached : Option NfctFilter

structure ConntrackClient where
  tcpHdl : Option NfctHandle
  udpHdl : Option NfctHandle
  tcpFilter : Option NfctFilter
  udpFilter : Option NfctFilter
  /-- The `static bool isIgnore` of `UpdateTCPFilters`. -/
  tcpIsIgnore : Bool
  /-- The `static bool isIgnore` of `UpdateUDPFilters`. -/
  udpIsIgnore : Bool

namespace ConntrackClient

open NfctFilter

variable (limit : Nat)

/-- `sizeof(ifr.ifr_name)`. -/
def ifnamsiz : Nat := 16

/-- `IPA_Conntrack_Filters_Ignore_Bridge_Addrs`. -/
def filtersIgnoreBridgeAddrs (q : BridgeQuery) (filter : NfctFilter) : Int × NfctFilter :=
  if q.fd < 0 then (-1, filter)
  else if ifnamsiz ≤ q.virtualIfaceNameLen then (-1, filter)
  else if q.ret < 0 then (-1, filter)
  else (0, ignoreAddr limit .srcIpv4 q.sinAddr (ignoreAddr limit .dstIpv4 q.sinAddr filter))

/-- The broadcast address of an interface, `bc_ip_addr`. -/
def bcIpAddr (param : IfaceUp) : BitVec 32 :=
  (0xFFFFFFFF &&& ~~~param.addrMask) ||| (param.ipv4Addr &&& param.addrMask)

/-- `IPA_Conntrack_Filters_Ignore_Local_Iface`. -/
def filtersIgnoreLocalIface (param : IfaceUp) (filter : NfctFilter) : Int × NfctFilter :=
  let filter := ignoreAddr limit .dstIpv4 param.ipv4Addr filter
  let filter := ignoreAddr limit .srcIpv4 param.ipv4Addr filter
  (0, ignoreAddr limit .dstIpv4 (bcIpAddr param) filter)

/-- `IPA_Conntrack_Filters_Ignore_Local_Addrs`. -/
def filtersIgnoreLocalAddrs (filter : NfctFilter) : Int × NfctFilter :=
  (0, ignoreAddr limit .srcIpv4 0xFFFFFFFF (ignoreAddr limit .dstIpv4 0xFFFFFFFF filter))

/-- What a call of one of the two updates meets: the bridge address, and the
result of attaching the filter. -/
structure UpdateEnv where
  bridge : BridgeQuery
  attach : Int
  deriving DecidableEq, Repr

/-- `nfct_filter_attach` on a handle that is open. -/
def attachTo (attach : Int) (filter : Option NfctFilter) (hdl : Option NfctHandle) : Option NfctHandle :=
  match hdl with
  | none => none
  | some hdl => if attach = -1 then some hdl else some { hdl with attached := filter }

def updateUdpFilters (param : IfaceUp) (isWan : Bool) (env : UpdateEnv) (c : ConntrackClient) : ConntrackClient :=
  match c.udpFilter with
  | none => c
  | some udp =>
    if isWan then { c with udpHdl := attachTo env.attach (some udp) c.udpHdl }
    else
      let udp := (filtersIgnoreLocalIface limit param udp).2
      if c.udpIsIgnore then { c with udpFilter := some udp, udpHdl := attachTo env.attach (some udp) c.udpHdl }
      else
        let udp := (filtersIgnoreBridgeAddrs limit env.bridge udp).2
        let udp := (filtersIgnoreLocalAddrs limit udp).2
        { c with udpFilter := some udp, udpIsIgnore := true, udpHdl := attachTo env.attach (some udp) c.udpHdl }

def updateTcpFilters (param : IfaceUp) (isWan : Bool) (env : UpdateEnv) (c : ConntrackClient) : ConntrackClient :=
  match c.tcpFilter with
  | none => c
  | some tcp =>
    if isWan then { c with tcpHdl := attachTo env.attach (some tcp) c.tcpHdl }
    else
      let tcp := (filtersIgnoreLocalIface limit param tcp).2
      if c.tcpIsIgnore then { c with tcpFilter := some tcp, tcpHdl := attachTo env.attach (some tcp) c.tcpHdl }
      else
        -- both helpers are given `pClient->udp_filter`
        let udp := c.udpFilter.map fun udp =>
          (filtersIgnoreLocalAddrs limit (filtersIgnoreBridgeAddrs limit env.bridge udp).2).2
        { c with
          tcpFilter := some tcp
          udpFilter := udp
          tcpIsIgnore := true
          tcpHdl := attachTo env.attach (some tcp) c.tcpHdl }

/-- An interface-up event, and what each of the two updates meets. -/
structure IfaceUpdate where
  param : IfaceUp
  isWan : Bool
  udp : UpdateEnv
  tcp : UpdateEnv
  deriving DecidableEq, Repr

/-- How `IPACM_ConntrackListener::event_callback` handles the event. -/
def ifaceUpdate (c : ConntrackClient) (u : IfaceUpdate) : ConntrackClient :=
  updateTcpFilters limit u.param u.isWan u.tcp (updateUdpFilters limit u.param u.isWan u.udp c)

/-- `GetInstance`, with the handles the two threads have opened. -/
def getInstance (tcpHdl udpHdl : Option NfctHandle) : ConntrackClient where
  tcpHdl := tcpHdl
  udpHdl := udpHdl
  tcpFilter := some create
  udpFilter := some create
  tcpIsIgnore := false
  udpIsIgnore := false

/-- The two filters ignore the same source and the same destination addresses. -/
def FiltersInStep (c : ConntrackClient) : Prop :=
  ∃ tcp udp, c.tcpFilter = some tcp ∧ c.udpFilter = some udp ∧
    ∀ attr addr, tcp.Ignores attr addr ↔ udp.Ignores attr addr

/-! ## What each filter is given -/

/-- The calls of `ignoreAddr` on a filter, in their order. -/
def ignoreAll (adds : List (NfctFilterAttr × BitVec 32)) (f : NfctFilter) : NfctFilter :=
  adds.foldl (fun f p => ignoreAddr limit p.1 p.2 f) f

/-- The addresses given for one attribute. -/
def addrsOf (attr : NfctFilterAttr) (adds : List (NfctFilterAttr × BitVec 32)) : List (BitVec 32) :=
  (adds.filter fun p => p.1 = attr).map Prod.snd

variable {limit}

theorem addrsOf_append (attr : NfctFilterAttr) (l l' : List (NfctFilterAttr × BitVec 32)) :
    addrsOf attr (l ++ l') = addrsOf attr l ++ addrsOf attr l' := by
  simp [addrsOf]

theorem addrsOf_cons_self (p : NfctFilterAttr × BitVec 32) (l : List (NfctFilterAttr × BitVec 32)) :
    addrsOf p.1 (p :: l) = p.2 :: addrsOf p.1 l := by
  simp [addrsOf]

theorem addrsOf_cons_other {p : NfctFilterAttr × BitVec 32} {attr : NfctFilterAttr} (hne : p.1 ≠ attr)
    (l : List (NfctFilterAttr × BitVec 32)) : addrsOf attr (p :: l) = addrsOf attr l := by
  simp [addrsOf, hne]

theorem ignoreAll_append (l l' : List (NfctFilterAttr × BitVec 32)) (f : NfctFilter) :
    ignoreAll limit (l ++ l') f = ignoreAll limit l' (ignoreAll limit l f) :=
  List.foldl_append

theorem elems_ignoreAddr_self (attr : NfctFilterAttr) (addr : BitVec 32) {f : NfctFilter} (h : (f.elems attr).length ≤ limit) :
    (ignoreAddr limit attr addr f).elems attr = (f.elems attr ++ [NfctFilterIpv4.exactly addr]).take limit := by
  unfold ignoreAddr addAttr setLogic
  dsimp only
  split
  next hlt => rw [List.take_of_length_le (by simp; omega)]; simp
  next hlt =>
    have heq : (f.elems attr).length = limit := by omega
    rw [← heq, List.take_left]

theorem elems_ignoreAddr_other {attr attr' : NfctFilterAttr} (hne : attr' ≠ attr) (addr : BitVec 32) (f : NfctFilter) :
    (ignoreAddr limit attr addr f).elems attr' = f.elems attr' := by
  unfold ignoreAddr addAttr setLogic
  dsimp only
  split
  · simp [hne]
  · rfl

theorem logic_ignoreAddr (attr attr' : NfctFilterAttr) (addr : BitVec 32) (f : NfctFilter) :
    (ignoreAddr limit attr addr f).logic attr' = if attr' = attr then .negative else f.logic attr' := by
  unfold ignoreAddr addAttr setLogic
  dsimp only
  split <;> rfl

/-- What the first take had no room for does not come back. -/
theorem take_take_append {α : Type} (n : Nat) (l r : List α) : (l.take n ++ r).take n = (l ++ r).take n := by
  rw [List.take_append, List.take_append, List.take_take, Nat.min_self, List.length_take]
  by_cases hl : l.length ≤ n
  · rw [Nat.min_eq_right hl]
  · rw [Nat.min_eq_left (by omega), Nat.sub_self, Nat.sub_eq_zero_of_le (by omega)]

theorem elems_ignoreAll (attr : NfctFilterAttr) (adds : List (NfctFilterAttr × BitVec 32)) :
    ∀ {f : NfctFilter}, (f.elems attr).length ≤ limit →
      (ignoreAll limit adds f).elems attr =
        (f.elems attr ++ (addrsOf attr adds).map NfctFilterIpv4.exactly).take limit := by
  induction adds with
  | nil =>
    intro f h
    simp [ignoreAll, addrsOf, List.take_of_length_le h]
  | cons p adds ih =>
    intro f h
    change (ignoreAll limit adds (ignoreAddr limit p.1 p.2 f)).elems attr = _
    by_cases hp : p.1 = attr
    · subst hp
      have hself := elems_ignoreAddr_self p.1 p.2 h
      rw [ih (by rw [hself, List.length_take]; omega), hself, addrsOf_cons_self, take_take_append]
      simp
    · have hother : (ignoreAddr limit p.1 p.2 f).elems attr = f.elems attr :=
        elems_ignoreAddr_other (fun he => hp he.symm) p.2 f
      rw [ih (by rw [hother]; exact h), hother, addrsOf_cons_other hp]

theorem logic_ignoreAll (attr : NfctFilterAttr) (adds : List (NfctFilterAttr × BitVec 32)) :
    ∀ (f : NfctFilter), (ignoreAll limit adds f).logic attr =
      if addrsOf attr adds = [] then f.logic attr else .negative := by
  induction adds with
  | nil => intro f; rfl
  | cons p adds ih =>
    intro f
    change (ignoreAll limit adds (ignoreAddr limit p.1 p.2 f)).logic attr = _
    rw [ih, logic_ignoreAddr]
    by_cases hp : p.1 = attr
    · subst hp; simp [addrsOf_cons_self]
    · have hne : attr ≠ p.1 := fun he => hp he.symm
      rw [addrsOf_cons_other hp, if_neg hne]

/-- A filter ignores what it was given, as far as it had room. -/
theorem ignores_ignoreAll (attr : NfctFilterAttr) (adds : List (NfctFilterAttr × BitVec 32)) (addr : BitVec 32) :
    (ignoreAll limit adds create).Ignores attr addr ↔ addr ∈ (addrsOf attr adds).take limit := by
  unfold Ignores
  rw [logic_ignoreAll, elems_ignoreAll attr adds (by simp [create])]
  have hmask (a b : BitVec 32) : a &&& 0xFFFFFFFF = b &&& 0xFFFFFFFF ↔ a = b := by
    change a &&& BitVec.allOnes 32 = b &&& BitVec.allOnes 32 ↔ a = b
    rw [BitVec.and_allOnes, BitVec.and_allOnes]
  simp only [create, List.nil_append, ← List.map_take, List.mem_map]
  constructor
  · rintro ⟨-, -, ⟨a, ha, rfl⟩, he⟩
    rwa [(hmask addr a).1 he]
  · intro h
    refine ⟨?_, _, ⟨addr, h, rfl⟩, rfl⟩
    rw [if_neg]
    intro hnil
    simp [hnil] at h

/-! ## What the updates give the two filters -/

/-- The bridge address, where the call finds it. -/
def bridgeAddr (q : BridgeQuery) : Option (BitVec 32) :=
  if q.fd < 0 ∨ ifnamsiz ≤ q.virtualIfaceNameLen ∨ q.ret < 0 then none else some q.sinAddr

/-- An address ignored as a destination and as a source. -/
def bothWays (a : BitVec 32) : List (NfctFilterAttr × BitVec 32) :=
  [(.dstIpv4, a), (.srcIpv4, a)]

/-- What the client ignores besides the interfaces: the bridge and the
broadcast address. -/
def ownAdds (q : BridgeQuery) : List (NfctFilterAttr × BitVec 32) :=
  (bridgeAddr q).toList.flatMap bothWays ++ bothWays 0xFFFFFFFF

def ifaceAdds (u : IfaceUpdate) : List (NfctFilterAttr × BitVec 32) :=
  bothWays u.param.ipv4Addr ++ [(.dstIpv4, bcIpAddr u.param)]

theorem filtersIgnoreLocalIface_eq (u : IfaceUpdate) (f : NfctFilter) :
    filtersIgnoreLocalIface limit u.param f = (0, ignoreAll limit (ifaceAdds u) f) := rfl

theorem filtersIgnoreOwn_eq (q : BridgeQuery) (f : NfctFilter) :
    (filtersIgnoreLocalAddrs limit (filtersIgnoreBridgeAddrs limit q f).2).2 = ignoreAll limit (ownAdds q) f := by
  unfold filtersIgnoreBridgeAddrs ownAdds bridgeAddr
  by_cases hfd : q.fd < 0
  · simp only [hfd, true_or, if_true]; rfl
  by_cases hlen : ifnamsiz ≤ q.virtualIfaceNameLen
  · simp only [hfd, hlen, true_or, or_true, if_true, if_false]; rfl
  by_cases hret : q.ret < 0
  · simp only [hfd, hlen, hret, or_true, if_true, if_false]; rfl
  · simp only [hfd, hlen, hret, or_false, if_false]; rfl

/-- The updates that are not about the WAN interface. -/
def lanUpdates (us : List IfaceUpdate) : List IfaceUpdate :=
  us.filter fun u => !u.isWan

def tcpAdds (us : List IfaceUpdate) : List (NfctFilterAttr × BitVec 32) :=
  (lanUpdates us).flatMap ifaceAdds

/-- The first of them brings the UDP filter what both filters should get. -/
def udpAdds (us : List IfaceUpdate) : List (NfctFilterAttr × BitVec 32) :=
  match lanUpdates us with
  | [] => []
  | u :: rest => ifaceAdds u ++ (ownAdds u.udp.bridge ++ ownAdds u.tcp.bridge) ++ rest.flatMap ifaceAdds

theorem lanUpdates_concat (us : List IfaceUpdate) (u : IfaceUpdate) :
    lanUpdates (us ++ [u]) = lanUpdates us ++ if u.isWan then [] else [u] := by
  cases hw : u.isWan <;> simp [lanUpdates, hw]

/-- The client after these updates, its handles aside. -/
structure After (limit : Nat) (us : List IfaceUpdate) (c : ConntrackClient) : Prop where
  tcp : c.tcpFilter = some (ignoreAll limit (tcpAdds us) create)
  udp : c.udpFilter = some (ignoreAll limit (udpAdds us) create)
  tcpIsIgnore : c.tcpIsIgnore = !(lanUpdates us).isEmpty
  udpIsIgnore : c.udpIsIgnore = !(lanUpdates us).isEmpty

theorem ifaceUpdate_after {us : List IfaceUpdate} {c : ConntrackClient} (h : After limit us c) (u : IfaceUpdate) :
    After limit (us ++ [u]) (ifaceUpdate limit c u) := by
  obtain ⟨htcp, hudp, hti, hui⟩ := h
  have hlan := lanUpdates_concat us u
  unfold ifaceUpdate updateUdpFilters
  simp only [hudp]
  by_cases hw : u.isWan = true
  · rw [hw] at hlan
    simp only [if_true, List.append_nil] at hlan
    simp only [hw, if_true, updateTcpFilters, htcp]
    have ht : tcpAdds (us ++ [u]) = tcpAdds us := by rw [tcpAdds, hlan, tcpAdds]
    have hu : udpAdds (us ++ [u]) = udpAdds us := by rw [udpAdds, hlan, udpAdds]
    exact ⟨by rw [ht], by rw [hu], by rw [hlan]; exact hti, by rw [hlan]; exact hui⟩
  · simp only [hw, if_false, Bool.false_eq_true] at hlan ⊢
    have htcp' : ignoreAll limit (ifaceAdds u) (ignoreAll limit (tcpAdds us) create) = ignoreAll limit (tcpAdds (us ++ [u])) create := by
      rw [← ignoreAll_append, tcpAdds, tcpAdds, hlan, List.flatMap_append, List.flatMap_singleton]
    rw [filtersIgnoreLocalIface_eq]
    simp only [hui, updateTcpFilters]
    cases hl : lanUpdates us with
    | nil =>
      rw [hl] at hti hlan
      simp only [List.isEmpty_nil, Bool.not_true, Bool.false_eq_true, if_false, htcp, hti, filtersIgnoreLocalIface_eq,
        Option.map_some, filtersIgnoreOwn_eq, htcp']
      have hudp' : udpAdds us = [] := by rw [udpAdds, hl]
      refine ⟨rfl, ?_, by rw [hlan]; rfl, by rw [hlan]; rfl⟩
      rw [hudp', ← ignoreAll_append, ← ignoreAll_append, ← ignoreAll_append, udpAdds, hlan]
      simp
    | cons v rest =>
      rw [hl] at hti hlan
      simp only [List.isEmpty_cons, Bool.not_false, if_true, htcp, hti, filtersIgnoreLocalIface_eq, htcp']
      refine ⟨rfl, ?_, by rw [hlan]; rfl, by rw [hlan]; rfl⟩
      rw [← ignoreAll_append, udpAdds, udpAdds, hl, hlan]
      simp

/-- What any run of updates leaves the two filters with. -/
theorem ifaceUpdates_after (limit : Nat) (tcpHdl udpHdl : Option NfctHandle) (us : List IfaceUpdate) :
    After limit us (us.foldl (ifaceUpdate limit) (getInstance tcpHdl udpHdl)) := by
  induction us using List.reverseRecOn with
  | nil => exact ⟨rfl, rfl, rfl, rfl⟩
  | append_singleton us u ih =>
    rw [List.foldl_append]
    exact ifaceUpdate_after ih u

/-! ## When the two filters agree -/

/-- The addresses an update gives for one attribute. -/
def ifaceAddrs (attr : NfctFilterAttr) (u : IfaceUpdate) : List (BitVec 32) :=
  match attr with
  | .srcIpv4 => [u.param.ipv4Addr]
  | .dstIpv4 => [u.param.ipv4Addr, bcIpAddr u.param]

def lanAddrs (attr : NfctFilterAttr) (us : List IfaceUpdate) : List (BitVec 32) :=
  (lanUpdates us).flatMap (ifaceAddrs attr)

/-- The bridge and the broadcast address, as the first of the LAN updates reads
them for the one filter and for the other. -/
def ownAddrs (us : List IfaceUpdate) : List (BitVec 32) :=
  match lanUpdates us with
  | [] => []
  | u :: _ => ((bridgeAddr u.udp.bridge).toList ++ [0xFFFFFFFF]) ++ ((bridgeAddr u.tcp.bridge).toList ++ [0xFFFFFFFF])

/-- The LAN interfaces bring the bridge and the broadcast address themselves,
and where these take the place of an address of an interface it is one that
was there before. -/
def OwnCovered (limit : Nat) (us : List IfaceUpdate) : Prop :=
  ∀ attr, (∀ a ∈ ownAddrs us, a ∈ (lanAddrs attr us).take limit) ∧
    ∀ a ∈ ((lanAddrs attr us).take limit).drop (limit - (ownAddrs us).length),
      a ∈ ownAddrs us ∨ a ∈ (lanAddrs attr us).take (limit - (ownAddrs us).length)

theorem addrsOf_ifaceAdds (attr : NfctFilterAttr) (u : IfaceUpdate) : addrsOf attr (ifaceAdds u) = ifaceAddrs attr u := by
  cases attr <;> rfl

theorem addrsOf_ownAdds (attr : NfctFilterAttr) (q : BridgeQuery) :
    addrsOf attr (ownAdds q) = (bridgeAddr q).toList ++ [0xFFFFFFFF] := by
  unfold ownAdds
  cases bridgeAddr q <;> cases attr <;> rfl

theorem addrsOf_flatMap (attr : NfctFilterAttr) (us : List IfaceUpdate) :
    addrsOf attr (us.flatMap ifaceAdds) = us.flatMap (ifaceAddrs attr) := by
  induction us with
  | nil => rfl
  | cons u us ih => rw [List.flatMap_cons, List.flatMap_cons, addrsOf_append, addrsOf_ifaceAdds, ih]

/-- The first entries of a list with a block put in, against those without it. -/
theorem mem_take_block_iff {α : Type} {n : Nat} {p e : List α} (h : p.length + e.length ≤ n) (r : List α) :
    (∀ a, a ∈ (p ++ r).take n ↔ a ∈ (p ++ e ++ r).take n) ↔
      (∀ a ∈ e, a ∈ (p ++ r).take n) ∧
        ∀ a ∈ ((p ++ r).take n).drop (n - e.length), a ∈ e ∨ a ∈ (p ++ r).take (n - e.length) := by
  have hsplit : (p ++ r).take n = (p ++ r).take (n - e.length) ++ ((p ++ r).take n).drop (n - e.length) := by
    have := List.take_append_drop (n - e.length) ((p ++ r).take n)
    rwa [List.take_take, Nat.min_eq_left (by omega), eq_comm] at this
  have hshort : (p ++ r).take (n - e.length) = p ++ r.take (n - e.length - p.length) := by
    rw [List.take_append, List.take_of_length_le (by omega)]
  have hblock : (p ++ e ++ r).take n = p ++ e ++ r.take (n - e.length - p.length) := by
    rw [List.take_append, List.take_of_length_le (by simp; omega), List.length_append]
    congr 2
    omega
  have hmem (a : α) : a ∈ (p ++ e ++ r).take n ↔ a ∈ e ∨ a ∈ (p ++ r).take (n - e.length) := by
    rw [hblock, hshort]
    simp only [List.mem_append]
    tauto
  constructor
  · intro hsame
    refine ⟨fun a ha => (hsame a).2 ((hmem a).2 (.inl ha)), fun a ha => (hmem a).1 ((hsame a).1 ?_)⟩
    rw [hsplit]
    exact List.mem_append_right _ ha
  · rintro ⟨hown, hrest⟩ a
    constructor
    · intro ha
      rw [hsplit, List.mem_append] at ha
      rcases ha with ha | ha
      · exact (hmem a).2 (.inr ha)
      · exact (hmem a).2 (hrest a ha)
    · intro ha
      rcases (hmem a).1 ha with ha | ha
      · exact hown a ha
      · rw [hsplit]
        exact List.mem_append_left _ ha

theorem inStep_attr_iff (hl : 6 ≤ limit) (attr : NfctFilterAttr) (us : List IfaceUpdate) :
    (∀ a, a ∈ (addrsOf attr (tcpAdds us)).take limit ↔ a ∈ (addrsOf attr (udpAdds us)).take limit) ↔
      (∀ a ∈ ownAddrs us, a ∈ (lanAddrs attr us).take limit) ∧
        ∀ a ∈ ((lanAddrs attr us).take limit).drop (limit - (ownAddrs us).length),
          a ∈ ownAddrs us ∨ a ∈ (lanAddrs attr us).take (limit - (ownAddrs us).length) := by
  unfold tcpAdds udpAdds ownAddrs lanAddrs
  cases lanUpdates us with
  | nil => simp [addrsOf]
  | cons u rest =>
    simp only [addrsOf_flatMap, addrsOf_append, addrsOf_ifaceAdds, addrsOf_ownAdds, List.flatMap_cons]
    apply mem_take_block_iff
    have hiface : (ifaceAddrs attr u).length ≤ 2 := by cases attr <;> simp [ifaceAddrs]
    have hbridge (q : BridgeQuery) : (bridgeAddr q).toList.length ≤ 1 := by cases bridgeAddr q <;> simp
    have h1 := hbridge u.udp.bridge
    have h2 := hbridge u.tcp.bridge
    simp only [List.length_append, List.length_singleton]
    omega

/-- `bridge0` is 192.168.225.1, an address of the LAN interface. -/
def bridgeUp : IfaceUpdate where
  param := ⟨0xC0A8E101, 0xFFFFFF00⟩
  isWan := false
  udp := ⟨⟨5, 7, 0, 0xC0A8E101⟩, 0⟩
  tcp := ⟨⟨5, 7, 0, 0xC0A8E101⟩, 0⟩

end ConntrackClient

end HiaeCommon
