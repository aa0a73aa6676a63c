/-
The event that takes a route away against the one that brought it.

`RTM_NEWROUTE` and `RTM_DELROUTE` are decoded by separate code for each shape
of a route. What a message does not say is left in `*msg_ptr` from an earlier
message of the buffer, and the mask of an IPv4 host route is never set when
the route is added.
-/
import HiaeCommon.Ipacm.NetlinkDecode
import HiaeCommon.Lib.PrefixMask

namespace HiaeCommon

open Lib (leadingOnes leadingOnes_of_le)

/-- A unicast route of the main table. `dst` of an IPv4 route is in network order. -/
inductive Route
  | v4Host (oif dst : BitVec 32)
  | v4Default (oif : BitVec 32)
  | v6Default (oif : BitVec 32)
  | v6Kernel (oif : BitVec 32) (dst : BitVec 128) (len : Nat)

def Route.oif : Route → BitVec 32
  | v4Host oif _ | v4Default oif | v6Default oif | v6Kernel oif _ _ => oif

namespace IpaNlRouteInfo

/-- The attribute of the flag was decoded. -/
def Has (info : IpaNlRouteInfo) (flag : BitVec 32) : Prop := info.paramMask &&& flag ≠ 0

instance (info : IpaNlRouteInfo) (flag : BitVec 32) : Decidable (info.Has flag) :=
  inferInstanceAs (Decidable (_ ≠ _))

/-- What was decoded is the route. -/
def Says (info : IpaNlRouteInfo) (r : Route) : Prop :=
  info.Has ipaRtaParamOif ∧ info.oifIndex = r.oif ∧
    match r with
    | .v4Host _ dst => info.metainfo.isMainRoute ∧ info.metainfo.rtmFamily = afInet ∧
        info.metainfo.rtmDstLen = 32 ∧ info.Has ipaRtaParamDst ∧ info.dstAddr.v4 = dst
    | .v4Default _ => info.metainfo.isMainRoute ∧ info.metainfo.rtmFamily = afInet ∧ ¬info.Has ipaRtaParamDst
    | .v6Default _ => info.metainfo.isMainRoute ∧ info.metainfo.rtmFamily = afInet6 ∧ ¬info.Has ipaRtaParamDst
    | .v6Kernel _ dst len => info.metainfo.isKernelV6 ∧ len ≤ 128 ∧ info.metainfo.rtmDstLen.toNat = len ∧
        info.Has ipaRtaParamDst ∧ info.dstAddr.v6 = dst

end IpaNlRouteInfo

/-- A message of the route at the start of a buffer, decoded after the messages that left `before`. -/
structure RouteMessage (r : Route) where
  bytes : Bytes
  len : Nat
  before : NlState
  /-- What the message says, decoded on its own. -/
  own : IpaNlRouteInfo
  decoded : ipaNlDecodeRtmRoute bytes len {} = some own
  isRoute : own.Says r

/-! ## Decoded onto what was left -/

/-- Two walks over the same attributes. -/
theorem attrLoop_rel {α : Type} {b : Bytes} {take : BitVec 16 → Nat → α → α} (R : α → α → Prop)
    (htake : ∀ t q a a', R a a' → R (take t q a) (take t q a')) {fuel : Nat} :
    ∀ {p n : Nat} {a a' r : α}, R a a' → attrLoop b take fuel p n a = some r →
      ∃ r', attrLoop b take fuel p n a' = some r' ∧ R r r' := by
  induction fuel with
  | zero => intro p n a a' r _ h; simp [attrLoop] at h
  | succ fuel ih =>
    intro p n a a' r hR h
    rw [attrLoop] at h
    simp only [attrLoop]
    by_cases hok : rtaOk b p n
    · rw [if_pos hok] at h
      rw [if_pos hok]
      exact ih (htake _ _ _ _ hR) h
    · rw [if_neg hok, Option.some_inj] at h
      rw [if_neg hok]
      exact ⟨a', rfl, h ▸ hR⟩

/-- `info` has the attributes of `own`, and elsewhere what `old` had. -/
structure Overlay (old own info : IpaNlRouteInfo) : Prop where
  metainfo : info.metainfo = own.metainfo
  paramMask : info.paramMask = own.paramMask
  oif : own.Has ipaRtaParamOif → info.oifIndex = own.oifIndex
  dst : own.Has ipaRtaParamDst → ∀ i < 16, info.dstAddr.data i = own.dstAddr.data i
  dstLeft : ¬own.Has ipaRtaParamDst → info.dstAddr = old.dstAddr

theorem or_and_flag {m x flag : BitVec 32} (h : x &&& flag = 0) : (m ||| x) &&& flag = m &&& flag := by
  rw [BitVec.and_or_distrib_right, h]
  exact BitVec.or_zero

theorem or_flag_ne {m flag : BitVec 32} (h : flag ≠ 0) : (m ||| flag) &&& flag ≠ 0 := by
  intro h0
  rw [BitVec.and_or_distrib_right, BitVec.and_self] at h0
  exact h (BitVec.or_eq_zero_iff.1 h0).2

theorem Overlay.start (m : RtMsg) {old : IpaNlRouteInfo} :
    Overlay old { metainfo := m, paramMask := 0 } { old with metainfo := m, paramMask := 0 } := by
  have hnone : ∀ {info : IpaNlRouteInfo} {flag : BitVec 32}, info.paramMask = 0 → ¬info.Has flag := by
    intro info flag h
    rw [IpaNlRouteInfo.Has, h, not_not]
    exact BitVec.zero_and
  exact ⟨rfl, rfl, fun h => absurd h (hnone rfl), fun h => absurd h (hnone rfl), fun _ => rfl⟩

/-- An attribute that is neither the destination nor the interface. -/
theorem Overlay.flag {old own info own' info' : IpaNlRouteInfo} {x : BitVec 32} (h : Overlay old own info)
    (hd : x &&& ipaRtaParamDst = 0) (ho : x &&& ipaRtaParamOif = 0)
    (hown : own'.metainfo = own.metainfo ∧ own'.paramMask = own.paramMask ||| x ∧
      own'.oifIndex = own.oifIndex ∧ own'.dstAddr = own.dstAddr)
    (hinfo : info'.metainfo = info.metainfo ∧ info'.paramMask = info.paramMask ||| x ∧
      info'.oifIndex = info.oifIndex ∧ info'.dstAddr = info.dstAddr) : Overlay old own' info' := by
  obtain ⟨m1, p1, o1, d1⟩ := hown
  obtain ⟨m2, p2, o2, d2⟩ := hinfo
  have hhas : ∀ {flag}, x &&& flag = 0 → (own'.Has flag ↔ own.Has flag) := by
    intro flag hx
    rw [IpaNlRouteInfo.Has, IpaNlRouteInfo.Has, p1, or_and_flag hx]
  constructor
  · rw [m1, m2, h.metainfo]
  · rw [p1, p2, h.paramMask]
  · rw [hhas ho, o1, o2]
    exact h.oif
  · rw [hhas hd, d1, d2]
    exact h.dst
  · rw [hhas hd, d2]
    exact h.dstLeft

/-- One attribute taken by two decodings of a message keeps the one over the other. -/
theorem takeRoute_overlay {b : Bytes} {old own info : IpaNlRouteInfo} (t : BitVec 16) (q : Nat)
    (h : Overlay old own info) : Overlay old (takeRoute b t q own) (takeRoute b t q info) := by
  have hfam : info.metainfo.rtmFamily = own.metainfo.rtmFamily := by rw [h.metainfo]
  simp only [takeRoute, hfam]
  split_ifs with h1 h2 h3 h4 h5 h6
  · refine ⟨h.metainfo, by rw [h.paramMask], fun ho => h.oif ?_, fun _ i hi => ?_, fun hn => absurd (or_flag_ne (by decide)) hn⟩
    · simpa only [IpaNlRouteInfo.Has, or_and_flag (show ipaRtaParamDst &&& ipaRtaParamOif = 0 by decide)] using ho
    · simp only [copyAddr, if_pos (show i < 126 by omega)]
  · exact h.flag (x := ipaRtaParamSrc) (by decide) (by decide) ⟨rfl, rfl, rfl, rfl⟩ ⟨rfl, rfl, rfl, rfl⟩
  · exact h.flag (x := ipaRtaParamGateway) (by decide) (by decide) ⟨rfl, rfl, rfl, rfl⟩ ⟨rfl, rfl, rfl, rfl⟩
  · exact h.flag (x := ipaRtaParamIif) (by decide) (by decide) ⟨rfl, rfl, rfl, rfl⟩ ⟨rfl, rfl, rfl, rfl⟩
  · refine ⟨h.metainfo, by rw [h.paramMask], fun _ => rfl, fun hd => h.dst ?_, fun hn => h.dstLeft ?_⟩
    · simpa only [IpaNlRouteInfo.Has, or_and_flag (show ipaRtaParamOif &&& ipaRtaParamDst = 0 by decide)] using hd
    · simpa only [IpaNlRouteInfo.Has, or_and_flag (show ipaRtaParamOif &&& ipaRtaParamDst = 0 by decide)] using hn
  · exact h.flag (x := ipaRtaParamPriority) (by decide) (by decide) ⟨rfl, rfl, rfl, rfl⟩ ⟨rfl, rfl, rfl, rfl⟩
  · exact h

namespace RouteMessage

variable {r : Route}

/-- The message is decoded onto what was left, and says the same route. -/
theorem decode (m : RouteMessage r) :
    ∃ info, ipaNlDecodeRtmRoute m.bytes m.len m.before.msg.nlRouteInfo = some info ∧ info.Says r ∧
      Overlay m.before.msg.nlRouteInfo m.own info := by
  have hdec := m.decoded
  have hroute := m.isRoute
  simp only [ipaNlDecodeRtmRoute] at hdec ⊢
  obtain ⟨info, hinfo, hover⟩ := attrLoop_rel (Overlay m.before.msg.nlRouteInfo)
    (fun t q a a' => takeRoute_overlay t q) (.start _) hdec
  refine ⟨info, hinfo, ?_, hover⟩
  obtain ⟨hoif, hidx, hshape⟩ := hroute
  have hhas : ∀ {flag}, info.Has flag ↔ m.own.Has flag := by
    intro flag
    rw [IpaNlRouteInfo.Has, IpaNlRouteInfo.Has, hover.paramMask]
  refine ⟨hhas.2 hoif, (hover.oif hoif).trans hidx, ?_⟩
  have hv4 : m.own.Has ipaRtaParamDst → info.dstAddr.v4 = m.own.dstAddr.v4 := fun hd =>
    Bytes.u32_congr 0 (hover.dst hd) (by omega)
  have hv6 : m.own.Has ipaRtaParamDst → info.dstAddr.v6 = m.own.dstAddr.v6 := by
    intro hd
    simp only [SockaddrStorage.v6, SockaddrStorage.v6Word]
    rw [Bytes.u32_congr _ (hover.dst hd) (by omega), Bytes.u32_congr _ (hover.dst hd) (by omega),
      Bytes.u32_congr _ (hover.dst hd) (by omega), Bytes.u32_congr _ (hover.dst hd) (by omega)]
  cases r with
  | v4Host oif dst =>
    obtain ⟨h1, h2, h3, h4, h5⟩ := hshape
    simp only [hover.metainfo]
    exact ⟨h1, h2, h3, hhas.2 h4, (hv4 h4).trans h5⟩
  | v4Default oif =>
    obtain ⟨h1, h2, h3⟩ := hshape
    simp only [hover.metainfo]
    exact ⟨h1, h2, fun h => h3 (hhas.1 h)⟩
  | v6Default oif =>
    obtain ⟨h1, h2, h3⟩ := hshape
    simp only [hover.metainfo]
    exact ⟨h1, h2, fun h => h3 (hhas.1 h)⟩
  | v6Kernel oif dst len =>
    obtain ⟨h1, h2, h3, h4, h5⟩ := hshape
    simp only [hover.metainfo]
    exact ⟨h1, h2, h3, hhas.2 h4, (hv6 h4).trans h5⟩

end RouteMessage

/-! ## The events posted -/

/-- The data of the `IPA_ROUTE_ADD_EVENT`s of a route, as decoded and with the locals left before. -/
def Route.added (r : Route) (info : IpaNlRouteInfo) (l : NlLocals) : List EventDataAddr :=
  let ifIndex := r.oif.toInt
  match r with
  | .v4Host _ dst =>
    [{ iptype := .v4, ifIndex, ipv4Addr := some (ntohl dst), ipv4AddrMask := some (ntohl l.ifIpipv4AddrMask) }]
  | .v4Default _ =>
    [{ iptype := .v4, ifIndex, ipv4Addr := some (ntohl info.dstAddr.v4),
       ipv4AddrGw := some (ntohl info.gatewayAddr.v4), ipv4AddrMask := some (ntohl info.dstAddr.v4) }]
  | .v6Default _ => [HiaeCommon.v6Default info]
  | .v6Kernel _ dst len =>
    { iptype := .v6, ifIndex, ipv6Addr := some dst, ipv6AddrMask := maskLoop id len } ::
      if info.paramMask &&& ipaRtaParamGateway ≠ 0 then
        [{ iptype := .v6, ifIndex, ipv6Addr := some dst, ipv6AddrMask := info.dstAddr.v6Mask }]
      else []

/-- The data of the `IPA_ROUTE_DEL_EVENT`. -/
def Route.deleted (r : Route) (info : IpaNlRouteInfo) : EventDataAddr :=
  let ifIndex := r.oif.toInt
  match r with
  | .v4Host _ dst =>
    { iptype := .v4, ifIndex, ipv4Addr := some (ntohl dst), ipv4AddrMask := some (BitVec.allOnes 32) }
  | .v4Default _ =>
    { iptype := .v4, ifIndex, ipv4Addr := some (ntohl info.dstAddr.v4),
      ipv4AddrMask := some (ntohl info.dstAddr.v4) }
  | .v6Default _ => HiaeCommon.v6Default info
  | .v6Kernel _ dst len =>
    { iptype := .v6, ifIndex, ipv6Addr := some dst, ipv6AddrMask := maskLoop (fun _ => ⟨0, Nat.zero_lt_succ 3⟩) len }

section Posted

variable {ifName : BitVec 32 → Bool} {info : IpaNlRouteInfo} {l : NlLocals} {r : Route}

theorem not_isKernelV6 {m : RtMsg} (h : m.isMainRoute) : ¬m.isKernelV6 := by
  rintro ⟨-, -, hk, -⟩
  rcases h.2.1 with hp | hp <;> rw [hk] at hp <;> exact absurd hp (by decide)

theorem not_isMainRoute {m : RtMsg} (h : m.isKernelV6) : ¬m.isMainRoute := fun hm => not_isKernelV6 hm h

theorem newRoute_posted (h : info.Says r) (hknown : ifName r.oif = true) :
    (newRoute ifName info l).1.posted = (r.added info l).map fun d => ⟨.routeAdd, .addr d⟩ := by
  obtain ⟨-, hidx, hshape⟩ := h
  rw [← hidx] at hknown
  cases r with
  | v4Host oif dst =>
    obtain ⟨hmain, hfam, -, hdst, hv4⟩ := hshape
    obtain rfl : info.oifIndex = oif := hidx
    simp only [newRoute, if_pos hmain, if_neg (not_isKernelV6 hmain), newMainRoute, if_pos hknown,
      if_pos (show info.paramMask &&& ipaRtaParamDst ≠ 0 from hdst), Route.added, Route.oif, hv4]
    rfl
  | v4Default oif =>
    obtain ⟨hmain, hfam, hdst⟩ := hshape
    obtain rfl : info.oifIndex = oif := hidx
    have hne : ¬info.metainfo.rtmFamily = afInet6 := by rw [hfam]; decide
    simp only [newRoute, if_pos hmain, if_neg (not_isKernelV6 hmain), newMainRoute, if_pos hknown,
      if_neg (show ¬info.paramMask &&& ipaRtaParamDst ≠ 0 from hdst), if_neg hne, Route.added, Route.oif]
    rfl
  | v6Default oif =>
    obtain ⟨hmain, hfam, hdst⟩ := hshape
    simp only [newRoute, if_pos hmain, if_neg (not_isKernelV6 hmain), newMainRoute, if_pos hknown,
      if_neg (show ¬info.paramMask &&& ipaRtaParamDst ≠ 0 from hdst), if_pos hfam, Route.added]
    rfl
  | v6Kernel oif dst len =>
    obtain ⟨hk, -, hlen, hdst, hv6⟩ := hshape
    obtain rfl : info.oifIndex = oif := hidx
    simp only [newRoute, if_neg (not_isMainRoute hk), if_pos hk, newKernelRoute, Case.named, if_pos hknown,
      if_pos (show info.paramMask &&& ipaRtaParamDst ≠ 0 from hdst), Route.added, Route.oif, hlen, hv6]
    split_ifs <;> rfl

theorem delRoute_posted (h : info.Says r) (hknown : ifName r.oif = true) :
    (delRoute ifName info l).1.posted = [⟨.routeDel, .addr (r.deleted info)⟩] := by
  obtain ⟨-, hidx, hshape⟩ := h
  rw [← hidx] at hknown
  cases r with
  | v4Host oif dst =>
    obtain ⟨hmain, hfam, -, hdst, hv4⟩ := hshape
    obtain rfl : info.oifIndex = oif := hidx
    simp only [delRoute, if_pos hmain, if_neg (not_isKernelV6 hmain), delMainRoute, if_pos hknown,
      if_pos (show info.paramMask &&& ipaRtaParamDst ≠ 0 from hdst), Route.deleted, Route.oif, hv4]
    rfl
  | v4Default oif =>
    obtain ⟨hmain, hfam, hdst⟩ := hshape
    obtain rfl : info.oifIndex = oif := hidx
    have hne : ¬info.metainfo.rtmFamily = afInet6 := by rw [hfam]; decide
    simp only [delRoute, if_pos hmain, if_neg (not_isKernelV6 hmain), delMainRoute, if_pos hknown,
      if_neg (show ¬info.paramMask &&& ipaRtaParamDst ≠ 0 from hdst), if_neg hne, Route.deleted, Route.oif]
    rfl
  | v6Default oif =>
    obtain ⟨hmain, hfam, hdst⟩ := hshape
    simp only [delRoute, if_pos hmain, if_neg (not_isKernelV6 hmain), delMainRoute, if_pos hknown,
      if_neg (show ¬info.paramMask &&& ipaRtaParamDst ≠ 0 from hdst), if_pos hfam, Route.deleted]
    rfl
  | v6Kernel oif dst len =>
    obtain ⟨hk, -, hlen, hdst, hv6⟩ := hshape
    obtain rfl : info.oifIndex = oif := hidx
    simp only [delRoute, if_neg (not_isMainRoute hk), if_pos hk, delKernelRoute, Case.named, if_pos hknown,
      if_pos (show info.paramMask &&& ipaRtaParamDst ≠ 0 from hdst), Route.deleted, Route.oif, hlen, hv6]
    rfl

/-- Without a name for the interface nothing is posted. -/
theorem newRoute_unnamed (h : info.Says r) (hun : ifName r.oif = false) : (newRoute ifName info l).1.posted = [] := by
  obtain ⟨-, hidx, -⟩ := h
  rw [← hidx] at hun
  simp only [newRoute, newMainRoute, newKernelRoute, Case.named, hun]
  split_ifs <;> first | rfl | contradiction

theorem delRoute_unnamed (h : info.Says r) (hun : ifName r.oif = false) : (delRoute ifName info l).1.posted = [] := by
  obtain ⟨-, hidx, -⟩ := h
  rw [← hidx] at hun
  simp only [delRoute, delMainRoute, delKernelRoute, Case.named, hun]
  split_ifs <;> first | rfl | contradiction

end Posted

/-! ## Add and delete -/

theorem append_inj {v w : Nat} {x x' : BitVec v} {y y' : BitVec w} : x ++ y = x' ++ y' ↔ x = x' ∧ y = y' := by
  refine ⟨fun h => ?_, fun ⟨hx, hy⟩ => by rw [hx, hy]⟩
  have h := congrArg BitVec.toNat h
  rw [Bytes.toNat_append, Bytes.toNat_append] at h
  have hy : y.toNat = y'.toNat := by
    have := congrArg (· % 2 ^ w) h
    simpa only [Nat.mul_add_mod_self_right, Nat.mod_eq_of_lt y.isLt, Nat.mod_eq_of_lt y'.isLt] using this
  rw [hy, Nat.add_right_cancel_iff] at h
  exact ⟨BitVec.eq_of_toNat_eq (Nat.eq_of_mul_eq_mul_right (Nat.two_pow_pos w) h), BitVec.eq_of_toNat_eq hy⟩

theorem append_words {w : Nat} {a b c d a' b' c' d' : BitVec w} :
    a ++ b ++ c ++ d = a' ++ b' ++ c' ++ d' ↔ a = a' ∧ b = b' ∧ c = c' ∧ d = d' := by
  simp only [append_inj, and_assoc]

theorem ntohl_inj {x y : BitVec 32} : ntohl x = ntohl y ↔ x = y := by
  refine ⟨fun h => ?_, fun h => by rw [h]⟩
  obtain ⟨h0, h1, h2, h3⟩ := append_words.1 h
  have hx := x.isLt
  have hy := y.isLt
  simp only [← BitVec.toNat_inj, BitVec.extractLsb'_toNat, Nat.shiftRight_eq_div_pow] at h0 h1 h2 h3
  apply BitVec.eq_of_toNat_eq
  omega

/-- An address is the words that a mask copied from it has. -/
theorem v6_eq_iff {a : SockaddrStorage} (w : Fin 4 → BitVec 32) :
    a.v6 = w 0 ++ w 1 ++ w 2 ++ w 3 ↔ a.v6Mask = fun i => some (w i) := by
  constructor
  · intro h
    obtain ⟨h0, h1, h2, h3⟩ := append_words.1
      (show a.v6Word 0 ++ a.v6Word 1 ++ a.v6Word 2 ++ a.v6Word 3 = w 0 ++ w 1 ++ w 2 ++ w 3 from h)
    funext i
    match i with
    | 0 => exact congrArg some h0
    | 1 => exact congrArg some h1
    | 2 => exact congrArg some h2
    | 3 => exact congrArg some h3
  · intro h
    have hword : ∀ i, a.v6Word (i : Fin 4) = w i := fun i => Option.some_inj.1 (congrFun h i)
    exact append_words.2 ⟨hword 0, hword 1, hword 2, hword 3⟩

theorem v6Mask_eq_iff {a a' : SockaddrStorage} : a.v6Mask = a'.v6Mask ↔ a.v6 = a'.v6 :=
  (v6_eq_iff fun i : Fin 4 => a'.v6Word i).symm

theorem v6Mask_allOnes_iff {a : SockaddrStorage} :
    (a.v6Mask = fun _ => some (BitVec.allOnes 32)) ↔ a.v6 = BitVec.allOnes 128 := by
  have hall : BitVec.allOnes 128 =
      BitVec.allOnes 32 ++ BitVec.allOnes 32 ++ BitVec.allOnes 32 ++ BitVec.allOnes 32 := by decide
  rw [hall]
  exact (v6_eq_iff fun _ => BitVec.allOnes 32).symm

/-- The two events carry the same interface, type, address and mask. -/
structure SameRoute (a d : EventDataAddr) : Prop where
  ifIndex : d.ifIndex = a.ifIndex
  iptype : d.iptype = a.iptype
  ipv4Addr : d.ipv4Addr = a.ipv4Addr
  ipv4AddrMask : d.ipv4AddrMask = a.ipv4AddrMask
  ipv6Addr : d.ipv6Addr = a.ipv6Addr
  ipv6AddrMask : d.ipv6AddrMask = a.ipv6AddrMask

/-- For a route with a destination, the mask of its prefix length; the words of an IPv6 address
are in host order. -/
def Route.MaskIn (r : Route) (e : EventDataAddr) : Prop :=
  match r with
  | v4Host _ _ => e.ipv4AddrMask = some (BitVec.allOnes 32)
  | v6Kernel _ _ len => ∀ i : Fin 4, e.ipv6AddrMask i = some (leadingOnes 32 (len - 32 * i))
  | _ => True

namespace RouteMessage

variable {r : Route}

/-- What is posted for the message, as one of `type`. -/
def Posts (m : RouteMessage r) (ifName : BitVec 32 → Bool) (type : BitVec 16) (event : IpaCmEventId)
    (data : EventDataAddr) : Prop :=
  ∃ c s, decodeCase ifName m.bytes type m.len m.before = some (c, s) ∧ ⟨event, .addr data⟩ ∈ c.posted

theorem posts_add_iff (m : RouteMessage r) {info : IpaNlRouteInfo} (h : info.Says r)
    (hdec : ipaNlDecodeRtmRoute m.bytes m.len m.before.msg.nlRouteInfo = some info)
    (ifName : BitVec 32 → Bool) (data : EventDataAddr) :
    m.Posts ifName rtmNewroute .routeAdd data ↔ ifName r.oif = true ∧ data ∈ r.added info m.before.locals := by
  have hcase : decodeCase ifName m.bytes rtmNewroute m.len m.before =
      some ((newRoute ifName info m.before.locals).1,
        { m.before with msg.nlRouteInfo := info, locals := (newRoute ifName info m.before.locals).2 }) := by
    simp only [decodeCase, hdec]
    rfl
  cases hname : ifName r.oif with
  | false => simp [Posts, hcase, newRoute_unnamed h hname]
  | true => simp [Posts, hcase, newRoute_posted h hname]

theorem posts_del_iff (m : RouteMessage r) {info : IpaNlRouteInfo} (h : info.Says r)
    (hdec : ipaNlDecodeRtmRoute m.bytes m.len m.before.msg.nlRouteInfo = some info)
    (ifName : BitVec 32 → Bool) (data : EventDataAddr) :
    m.Posts ifName rtmDelroute .routeDel data ↔ ifName r.oif = true ∧ data = r.deleted info := by
  have hcase : decodeCase ifName m.bytes rtmDelroute m.len m.before =
      some ((delRoute ifName info m.before.locals).1,
        { m.before with msg.nlRouteInfo := info, locals := (delRoute ifName info m.before.locals).2 }) := by
    simp only [decodeCase, hdec]
    rfl
  cases hname : ifName r.oif with
  | false => simp [Posts, hcase, delRoute_unnamed h hname]
  | true => simp [Posts, hcase, delRoute_posted h hname]

end RouteMessage

section Masks

/-- When a route is deleted, the last word is written for a whole address only. -/
theorem maskLoop_last {len : Nat} (h : len < 128) : maskLoop (fun _ => ⟨0, Nat.zero_lt_succ 3⟩) len 3 = none := by
  have hw : List.finRange 4 = [0, 1, 2, 3] := by decide
  simp only [maskLoop, hw, List.foldl_cons, List.foldl_nil]
  split_ifs <;> first | rfl | omega

theorem maskLoop_whole (short : Fin 4 → Fin 4) : maskLoop short 128 = fun _ => some (BitVec.allOnes 32) := by
  funext i
  match i with
  | 0 | 1 | 2 | 3 => rfl

theorem leadingOnes_whole (i : Fin 4) : leadingOnes 32 (128 - 32 * i) = BitVec.allOnes 32 :=
  leadingOnes_of_le (by omega)

end Masks

section Match

variable {r : Route}

/-- The event that deletes the route carries what the one that added it did, and a route with a
destination has its mask. -/
def EventsMatch (ifName : BitVec 32 → Bool) (add del : RouteMessage r) : Prop :=
  ∀ a d, add.Posts ifName rtmNewroute .routeAdd a → del.Posts ifName rtmDelroute .routeDel d →
    SameRoute a d ∧ r.MaskIn a ∧ r.MaskIn d

/-- What was left before the messages, and the prefix length, make the events agree. -/
def Route.Agrees (r : Route) (add del : RouteMessage r) : Prop :=
  match r with
  | v4Host _ _ => add.before.locals.ifIpipv4AddrMask = BitVec.allOnes 32
  | v4Default _ => add.before.msg.nlRouteInfo.dstAddr.v4 = del.before.msg.nlRouteInfo.dstAddr.v4
  | v6Default _ => add.before.msg.nlRouteInfo.dstAddr.v6 = del.before.msg.nlRouteInfo.dstAddr.v6
  | v6Kernel _ dst len => len = 128 ∧ (add.own.Has ipaRtaParamGateway → dst = BitVec.allOnes 128)

theorem ntohl_allOnes_iff {x : BitVec 32} : ntohl x = BitVec.allOnes 32 ↔ x = BitVec.allOnes 32 := by
  have h : ntohl (BitVec.allOnes 32) = BitVec.allOnes 32 := by decide
  constructor
  · intro hx
    exact ntohl_inj.1 (hx.trans h.symm)
  · rintro rfl
    exact h

/-- The events of a route match exactly when what was left before agrees: for an IPv4 host route
the mask, for a default route the destination; and a kernel route is a whole address. -/
theorem eventsMatch_iff (ifName : BitVec 32 → Bool) (add del : RouteMessage r) :
    EventsMatch ifName add del ↔ (ifName r.oif = true → r.Agrees add del) := by
  obtain ⟨ia, hdeca, hsaya, hovera⟩ := add.decode
  obtain ⟨id, hdecd, hsayd, hoverd⟩ := del.decode
  have hmatch : EventsMatch ifName add del ↔ (ifName r.oif = true →
      ∀ a ∈ r.added ia add.before.locals, SameRoute a (r.deleted id) ∧ r.MaskIn a ∧ r.MaskIn (r.deleted id)) := by
    simp only [EventsMatch, add.posts_add_iff hsaya hdeca, del.posts_del_iff hsayd hdecd]
    constructor
    · intro h hname a ha
      exact h a _ ⟨hname, ha⟩ ⟨hname, rfl⟩
    · rintro h a d ⟨hname, ha⟩ ⟨-, rfl⟩
      exact h hname a ha
  rw [hmatch]
  refine imp_congr_right fun _ => ?_
  cases r with
  | v4Host oif dst =>
    simp only [Route.added, Route.deleted, List.mem_singleton, forall_eq, Route.MaskIn, Route.Agrees]
    constructor
    · rintro ⟨-, hmask, -⟩
      exact ntohl_allOnes_iff.1 (Option.some_inj.1 hmask)
    · intro h
      have hmask : ntohl add.before.locals.ifIpipv4AddrMask = BitVec.allOnes 32 := ntohl_allOnes_iff.2 h
      exact ⟨⟨rfl, rfl, rfl, by rw [hmask], rfl, rfl⟩, by rw [hmask], trivial⟩
  | v4Default oif =>
    have hleft := hovera.dstLeft fun h => hsaya.2.2.2.2 (by rwa [IpaNlRouteInfo.Has, hovera.paramMask])
    have hleft' := hoverd.dstLeft fun h => hsayd.2.2.2.2 (by rwa [IpaNlRouteInfo.Has, hoverd.paramMask])
    simp only [Route.added, Route.deleted, List.mem_singleton, forall_eq, Route.MaskIn, Route.Agrees, hleft, hleft']
    constructor
    · rintro ⟨h, -⟩
      exact (ntohl_inj.1 (Option.some_inj.1 h.ipv4Addr)).symm
    · intro h
      exact ⟨⟨rfl, rfl, by rw [h], by rw [h], rfl, rfl⟩, trivial, trivial⟩
  | v6Default oif =>
    have hleft := hovera.dstLeft fun h => hsaya.2.2.2.2 (by rwa [IpaNlRouteInfo.Has, hovera.paramMask])
    have hleft' := hoverd.dstLeft fun h => hsayd.2.2.2.2 (by rwa [IpaNlRouteInfo.Has, hoverd.paramMask])
    simp only [Route.added, Route.deleted, List.mem_singleton, forall_eq, Route.MaskIn, Route.Agrees, v6Default,
      hleft, hleft', hsaya.2.1, hsayd.2.1]
    constructor
    · rintro ⟨h, -⟩
      exact (Option.some_inj.1 h.ipv6Addr).symm
    · intro h
      exact ⟨⟨rfl, rfl, rfl, rfl, by rw [h], by rw [v6Mask_eq_iff.2 h]⟩, trivial, trivial⟩
  | v6Kernel oif dst len =>
    obtain ⟨-, -, -, hle, -, -, hdst⟩ := hsaya
    have hgw : add.own.Has ipaRtaParamGateway ↔ ia.paramMask &&& ipaRtaParamGateway ≠ 0 := by
      rw [IpaNlRouteInfo.Has, hovera.paramMask]
    simp only [Route.added, Route.deleted, List.mem_cons, forall_eq_or_imp, Route.MaskIn, Route.Agrees, hgw]
    constructor
    · rintro ⟨⟨-, -, hmask⟩, hrest⟩
      have hlen : len = 128 := by
        by_contra hne
        have := hmask 3
        rw [maskLoop_last (by omega)] at this
        cases this
      subst hlen
      refine ⟨rfl, fun hg => ?_⟩
      rw [if_pos hg] at hrest
      have hsame := (hrest _ (List.mem_singleton_self _)).1.ipv6AddrMask
      simp only [maskLoop_whole] at hsame
      exact hdst.symm.trans (v6Mask_allOnes_iff.1 hsame.symm)
    · rintro ⟨rfl, hg⟩
      have hall : ∀ i : Fin 4, some (BitVec.allOnes 32) = some (leadingOnes 32 (128 - 32 * (i : Nat))) := fun i =>
        congrArg some (leadingOnes_whole i).symm
      simp only [maskLoop_whole]
      refine ⟨⟨⟨rfl, rfl, rfl, rfl, rfl, rfl⟩, hall, hall⟩, fun a ha => ?_⟩
      split_ifs at ha with hflag
      · obtain rfl := List.mem_singleton.1 ha
        have hones : ia.dstAddr.v6Mask = fun _ => some (BitVec.allOnes 32) :=
          v6Mask_allOnes_iff.2 (hdst.trans (hg hflag))
        simp only [hones]
        exact ⟨⟨rfl, rfl, rfl, rfl, rfl, rfl⟩, hall, hall⟩
      · cases ha

end Match

/-- The host route 10.0.0.1 on interface 3, as `RTM_NEWROUTE` and `RTM_DELROUTE` have it behind their
header: `rtmsg`, `RTA_DST`, `RTA_OIF`. -/
def hostRouteBytes : Bytes := bufferOf (List.replicate 16 0 ++
  [2, 32, 0, 0, 254, 3, 0, 1, 0, 0, 0, 0, 8, 0, 1, 0, 10, 0, 0, 1, 8, 0, 4, 0, 3, 0, 0, 0]) fun _ => 0

/-- First in its buffer. -/
def hostRoute : RouteMessage (.v4Host 3 0x0100000a) where
  bytes := hostRouteBytes
  len := 44
  before := {}
  own := (ipaNlDecodeRtmRoute hostRouteBytes 44 {}).get (by decide)
  decoded := (Option.some_get _).symm
  isRoute := by
    refine ⟨by decide, by decide, ?_⟩
    exact ⟨by decide, by decide, by decide, by decide, by decide⟩

/-- The route is added with the mask 0, and deleted with all ones. -/
theorem not_eventsMatch_host : ¬EventsMatch (fun _ => true) hostRoute hostRoute := by
  intro h
  obtain ⟨info, hdec, hsays, -⟩ := hostRoute.decode
  have hadd := (hostRoute.posts_add_iff hsays hdec (fun _ => true) _).2 ⟨rfl, List.mem_singleton_self _⟩
  have hdel := (hostRoute.posts_del_iff hsays hdec (fun _ => true) _).2 ⟨rfl, rfl⟩
  have hmask : some (ntohl 0) = some (BitVec.allOnes 32) := (h _ _ hadd hdel).2.1
  exact absurd hmask (by decide)

end HiaeCommon
