/-
What an `IPACM_Wan` makes of one route event: it takes a route of its own, ends
the one it has, or leaves things as they are, and for each family the marks, the
flag and the messages say so.
-/
import HiaeCommon.Ipacm.WanGateway

namespace HiaeCommon

open Lib (Announcing)

/-- The two families a route event can be of. -/
inductive IpFamily
  | v4 | v6
  deriving DecidableEq, Repr

def IpFamily.iptype : IpFamily → IpType
  | .v4 => .v4
  | .v6 => .v6

/-- What a message names: an interface with its address, or with its prefix. -/
inductive Gateway
  | v4 (ifname : String) (ipv4Addr : BitVec 32)
  | v6 (ifname : String) (ipv6Prefix : BitVec 64)
  deriving DecidableEq, Repr

/-- What a message says of the gateway of a family, if anything. -/
def WanPosted.tells : IpFamily → WanPosted → Option (Option Gateway)
  | .v4, .wanUp ifname ipv4Addr _ _ => some (some (.v4 ifname ipv4Addr))
  | .v4, .wanDown _ _ => some none
  | .v6, .wanUpV6 ifname ipv6Prefix _ => some (some (.v6 ifname ipv6Prefix))
  | .v6, .wanDownV6 _ _ => some none
  | _, _ => none

namespace WanShared

/-- `wan_up`, `wan_up_v6`. -/
def up (sh : WanShared) : IpFamily → Bool
  | .v4 => sh.wanUp
  | .v6 => sh.wanUpV6

/-- The gateway the last message of the family has named: nobody after a message that it is down. -/
def told (sh : WanShared) (g : IpFamily) : Option Gateway := sh.posted.foldl (fun t m => (m.tells g).getD t) none

/-- `ipa_if_num_tether_v4`, `ipa_if_num_tether_v6`. -/
def tether (sh : WanShared) : IpFamily → List (Option Nat)
  | .v4 => sh.ipaIfNumTetherV4
  | .v6 => sh.ipaIfNumTetherV6

theorem told_postEvt (sh : WanShared) (m : WanPosted) (g : IpFamily) : (sh.postEvt m).told g = (m.tells g).getD (sh.told g) := by
  unfold told postEvt
  rw [List.foldl_append]
  rfl

end WanShared

namespace Wan

/-- `active_v4`, `active_v6`. -/
def active (w : Wan) : IpFamily → Bool
  | .v4 => w.activeV4
  | .v6 => w.activeV6

def headerSet (w : Wan) : IpFamily → Bool
  | .v4 => w.headerSetV4
  | .v6 => w.headerSetV6

/-- The gateway an instance is when it is active. -/
def gateway (w : Wan) : IpFamily → Gateway
  | .v4 => .v4 w.devName w.wanV4Addr
  | .v6 => .v6 w.devName w.ipv6Prefix

/-- There are the properties `handle_route_add_evt` asks for. -/
def canRoute (w : Wan) : Bool := w.txProp && (w.isSta || !w.extMuxIds.isEmpty)

/-- An event of the family is for an instance with an address of it, and with a prefix. -/
def accepts (w : Wan) : IpFamily → Bool
  | .v4 => w.hasIp .v4
  | .v6 => w.hasIp .v6 && w.ipv6Prefix != 0

end Wan

/-- The marks, the flag and the messages of a family. -/
def announcing (g : IpFamily) : Announcing Wan WanShared Gateway where
  holds w := w.active g
  name w := w.gateway g
  flag sh := sh.up g
  told sh := sh.told g

namespace WanRouteEvt

/-- The interface a route is of. -/
def ipaIfIndex : WanRouteEvt → Option Nat
  | .upstreamRouteAdd data | .upstreamRouteDel data => data.ipaIfIndex
  | .routeAdd data | .routeDel data => data.ipaIfIndex

/-- A default route of the family is added. -/
def adds (g : IpFamily) : WanRouteEvt → Bool
  | .upstreamRouteAdd data => data.iptype == g.iptype
  | .routeAdd data => data.isDefault g.iptype
  | _ => false

end WanRouteEvt

namespace Wan

/-- The instance as a route of the family finds it: with the gateway the event names, and the header that its neighbour gives. -/
def atRoute (b : WanBuild) (w : Wan) : IpFamily → WanRouteEvt → Wan
  | .v4, .upstreamRouteAdd data => if b.wanMsgAddrGw then (w.gatewayV4 data.ipv4AddrGw).staHeader.1 else w
  | .v6, .upstreamRouteAdd data => if b.wanMsgAddrGw then (w.gatewayV6 data.ipv6AddrGw).staHeader.1 else w
  | .v4, .routeAdd data => (w.gatewayV4 data.ipv4AddrGw).staHeader.1
  | .v6, .routeAdd data => (w.gatewayV6 data.ipv6AddrGw).staHeader.1
  | _, _ => w

/-- The header of a station is known when a default route of its own comes: it is set, or its neighbour has it. -/
def HeaderKnown (b : WanBuild) (w : Wan) (e : WanRouteEvt) : Prop :=
  w.isSta = true → e.ipaIfIndex = some w.ipaIfNum → ∀ g, e.adds g = true → (w.atRoute b g e).headerSet g = true

/-- The instance becomes the gateway of the family: by a route of its own or, where XLAT is enabled, with that of IPv4. -/
def takes (w : Wan) (e : WanRouteEvt) (g : IpFamily) : Bool :=
  e.ipaIfIndex == some w.ipaIfNum && w.canRoute && !w.active g &&
    (e.adds g && w.accepts g ||
      match e, g with
      | .routeAdd _, .v6 => e.adds .v4 && w.accepts .v4 && !w.activeV4 && w.isXlat && !w.isSta
      | _, _ => false)

/-- `post_wan_up_tether_evt` is reached for the family. -/
def tethers (b : WanBuild) (w : Wan) (g : IpFamily) : WanRouteEvt → Bool
  | .upstreamRouteAdd data =>
    b.featureIpaAndroid && data.ipaIfIndex == some w.ipaIfNum && data.iptype == g.iptype && w.accepts g
  | _ => false

/-- No route waits for a header, and only an instance with tx properties is a gateway. -/
structure Settled (w : Wan) : Prop where
  partialV4 : w.headerPartialDefaultWanV4 = false
  partialV6 : w.headerPartialDefaultWanV6 = false
  txProp : ∀ g, w.active g = true → w.txProp = true

end Wan


namespace Wan

variable {b : WanBuild} {w : Wan} {s : WanShared} {e : WanRouteEvt} {f g : IpFamily}

/-! ## What the handlers do -/

/-- What no handler changes, and what is changed without a message. -/
structure Like (w w' : Wan) : Prop where
  ipaIfNum : w'.ipaIfNum = w.ipaIfNum
  sta : w'.isSta = w.isSta
  txProp : w'.txProp = w.txProp
  canRoute : w'.canRoute = w.canRoute
  xlat : w'.isXlat = w.isXlat
  gateway : ∀ g, w'.gateway g = w.gateway g
  partialV4 : w'.headerPartialDefaultWanV4 = w.headerPartialDefaultWanV4
  partialV6 : w'.headerPartialDefaultWanV6 = w.headerPartialDefaultWanV6

theorem staHeaderV4_eq (w : Wan) : ∃ h4 h6 s4 s6 mac, w.staHeaderV4.1 =
    { w with hdrHdlStaV4 := h4, hdrHdlStaV6 := h6, headerSetV4 := s4, headerSetV6 := s6, extRouterMacAddr := mac } := by
  unfold staHeaderV4
  dsimp only
  split
  · split
    · exact ⟨_, _, _, _, _, rfl⟩
    · split
      · exact ⟨_, _, _, _, _, rfl⟩
      · split
        · exact ⟨_, _, _, _, _, rfl⟩
        · exact ⟨_, w.hdrHdlStaV6, _, w.headerSetV6, _, rfl⟩
  · exact ⟨_, _, _, _, _, rfl⟩

theorem staHeaderV6_eq (w : Wan) : ∃ h4 h6 s4 s6 mac, w.staHeaderV6.1 =
    { w with hdrHdlStaV4 := h4, hdrHdlStaV6 := h6, headerSetV4 := s4, headerSetV6 := s6, extRouterMacAddr := mac } := by
  unfold staHeaderV6
  dsimp only
  split
  · split
    · exact ⟨_, _, _, _, _, rfl⟩
    · split
      · exact ⟨_, _, _, _, _, rfl⟩
      · split
        · exact ⟨_, _, _, _, _, rfl⟩
        · exact ⟨w.hdrHdlStaV4, _, w.headerSetV4, _, _, rfl⟩
  · exact ⟨_, _, _, _, _, rfl⟩

/-- The header check changes the headers only. -/
theorem staHeader_eq (w : Wan) : ∃ h4 h6 s4 s6 mac, w.staHeader.1 =
    { w with hdrHdlStaV4 := h4, hdrHdlStaV6 := h6, headerSetV4 := s4, headerSetV6 := s6, extRouterMacAddr := mac } := by
  unfold staHeader
  dsimp only
  split
  · exact ⟨_, _, _, _, _, rfl⟩
  · obtain ⟨h4, h6, s4, s6, mac, h⟩ := w.staHeaderV4_eq
    split
    · obtain ⟨h4', h6', s4', s6', mac', h'⟩ := w.staHeaderV4.1.staHeaderV6_eq
      exact ⟨h4', h6', s4', s6', mac', by rw [h', h]⟩
    · exact ⟨_, _, _, _, _, h⟩

/-- Where no route waits, nothing else happens. -/
theorem handleStaHeaderAddEvt_eq (h4 : w.headerPartialDefaultWanV4 = false) (h6 : w.headerPartialDefaultWanV6 = false) :
    handleStaHeaderAddEvt (w, s) = (w.staHeader.1, s) := by
  obtain ⟨_, _, _, _, _, he⟩ := w.staHeader_eq
  unfold handleStaHeaderAddEvt
  dsimp only
  rw [he, h4, h6]
  simp

theorem atRoute_eq (b : WanBuild) (w : Wan) (g : IpFamily) (e : WanRouteEvt) : ∃ a4 a4s a6 a6s h4 h6 s4 s6 mac, w.atRoute b g e =
    { w with
      wanV4AddrGw := a4, wanV4AddrGwSet := a4s, wanV6AddrGw := a6, wanV6AddrGwSet := a6s
      hdrHdlStaV4 := h4, hdrHdlStaV6 := h6, headerSetV4 := s4, headerSetV6 := s6, extRouterMacAddr := mac } := by
  have h4 : ∀ gw, ∃ a4 a4s a6 a6s h4 h6 s4 s6 mac, (w.gatewayV4 gw).staHeader.1 =
      { w with
        wanV4AddrGw := a4, wanV4AddrGwSet := a4s, wanV6AddrGw := a6, wanV6AddrGwSet := a6s
        hdrHdlStaV4 := h4, hdrHdlStaV6 := h6, headerSetV4 := s4, headerSetV6 := s6, extRouterMacAddr := mac } := fun gw => by
    obtain ⟨_, _, _, _, _, he⟩ := (w.gatewayV4 gw).staHeader_eq
    exact ⟨_, _, _, _, _, _, _, _, _, he⟩
  have h6 : ∀ gw, ∃ a4 a4s a6 a6s h4 h6 s4 s6 mac, (w.gatewayV6 gw).staHeader.1 =
      { w with
        wanV4AddrGw := a4, wanV4AddrGwSet := a4s, wanV6AddrGw := a6, wanV6AddrGwSet := a6s
        hdrHdlStaV4 := h4, hdrHdlStaV6 := h6, headerSetV4 := s4, headerSetV6 := s6, extRouterMacAddr := mac } := fun gw => by
    obtain ⟨_, _, _, _, _, he⟩ := (w.gatewayV6 gw).staHeader_eq
    exact ⟨_, _, _, _, _, _, _, _, _, he⟩
  cases e with
  | upstreamRouteAdd data =>
    unfold atRoute
    cases b.wanMsgAddrGw with
    | true => cases g <;> [exact h4 _; exact h6 _]
    | false => cases g <;> exact ⟨_, _, _, _, _, _, _, _, _, rfl⟩
  | routeAdd data => cases g <;> [exact h4 _; exact h6 _]
  | upstreamRouteDel | routeDel => cases g <;> exact ⟨_, _, _, _, _, _, _, _, _, rfl⟩

theorem Like.trans {w' w'' : Wan} (h : Like w w') (h' : Like w' w'') : Like w w'' where
  ipaIfNum := h'.ipaIfNum.trans h.ipaIfNum
  sta := h'.sta.trans h.sta
  txProp := h'.txProp.trans h.txProp
  canRoute := h'.canRoute.trans h.canRoute
  xlat := h'.xlat.trans h.xlat
  gateway g := (h'.gateway g).trans (h.gateway g)
  partialV4 := h'.partialV4.trans h.partialV4
  partialV6 := h'.partialV6.trans h.partialV6

/-- An instance that finds a route has changed in nothing that anyone is told. -/
theorem atRoute_stays (b : WanBuild) (w : Wan) (f g : IpFamily) (e : WanRouteEvt) (s : WanShared) :
    (announcing g).Stays w s (w.atRoute b f e, s) ∧ Like w (w.atRoute b f e) := by
  obtain ⟨_, _, _, _, _, _, _, _, _, he⟩ := w.atRoute_eq b f e
  rw [he]
  exact ⟨by cases g <;> exact ⟨rfl, rfl, rfl, rfl⟩, rfl, rfl, rfl, rfl, rfl, fun g => by cases g <;> rfl, rfl, rfl⟩

theorem defaultRouteUp_takes (f : IpFamily) (w : Wan) (s : WanShared) :
    (announcing f).Takes w (defaultRouteUp f.iptype (w, s)) := by
  cases f
  all_goals exact ⟨rfl, rfl, by simp [announcing, defaultRouteUp, IpFamily.iptype, WanShared.told_postEvt, WanPosted.tells, gateway], rfl⟩

theorem defaultRouteUp_stays (hfg : f ≠ g) (w : Wan) (s : WanShared) :
    (announcing g).Stays w s (defaultRouteUp f.iptype (w, s)) := by
  cases f <;> cases g
  · exact absurd rfl hfg
  · exact ⟨rfl, rfl, by simp [announcing, defaultRouteUp, IpFamily.iptype, WanShared.told_postEvt, WanPosted.tells]; rfl, rfl⟩
  · exact ⟨rfl, rfl, by simp [announcing, defaultRouteUp, IpFamily.iptype, WanShared.told_postEvt, WanPosted.tells]; rfl, rfl⟩
  · exact absurd rfl hfg

theorem defaultRouteUp_like (f : IpFamily) (w : Wan) (s : WanShared) : Like w (defaultRouteUp f.iptype (w, s)).1 := by
  cases f <;> exact ⟨rfl, rfl, rfl, rfl, rfl, fun g => by cases g <;> rfl, rfl, rfl⟩

/-- With its header a route goes up where the properties are there, and does nothing otherwise. -/
theorem handleRouteAddEvt_eq (hh : w.isSta = true → w.headerSet f = true) (s : WanShared) : ∃ d br sta q,
    handleRouteAddEvt f.iptype (w, s) =
      if w.canRoute then
        defaultRouteUp f.iptype ({ w with isDefaultGateway := d },
          { s with backhaulIsWanBridge := br, backhaulIsStaMode := sta, qmapId := q })
      else ({ w with isDefaultGateway := d }, { s with backhaulIsWanBridge := br, backhaulIsStaMode := sta, qmapId := q }) := by
  unfold handleRouteAddEvt
  dsimp only
  by_cases ht : w.txProp = false
  · have hc : w.canRoute = false := by simp [canRoute, ht]
    refine ⟨w.isDefaultGateway, s.backhaulIsWanBridge, s.backhaulIsStaMode, s.qmapId, ?_⟩
    rw [if_pos ht, hc]
    rfl
  rw [if_neg ht]
  have ht : w.txProp = true := by simpa using ht
  have hmode (d : Bool) : { w with isDefaultGateway := d }.isSta = w.isSta := rfl
  rw [hmode]
  cases hs : w.isSta with
  | true =>
    have hc : w.canRoute = true := by simp [canRoute, ht, hs]
    refine ⟨true, w.ifModeBridge, true, s.qmapId, ?_⟩
    have hh := hh hs
    rw [hc, if_pos rfl, if_pos rfl]
    cases f with
    | v4 =>
      have hh : w.headerSetV4 = true := hh
      rw [if_neg (fun h => by simp [hh] at h), if_neg (fun h => by cases h.1)]
    | v6 =>
      have hh : w.headerSetV6 = true := hh
      rw [if_neg (fun h => by cases h.1), if_neg (fun h => by simp [hh] at h)]
  | false =>
    rw [if_neg Bool.false_ne_true]
    cases hx : w.extMuxIds with
    | nil =>
      have hc : w.canRoute = false := by simp [canRoute, hs, hx]
      exact ⟨true, w.ifModeBridge, false, s.qmapId, by rw [hc]; rfl⟩
    | cons muxId l =>
      have hc : w.canRoute = true := by simp [canRoute, ht, hx]
      exact ⟨true, w.ifModeBridge, false, muxId, by rw [hc]; rfl⟩

/-- A route that finds its header makes the instance the gateway, and says nothing of the other family. -/
theorem handleRouteAddEvt_takes (hh : w.isSta = true → w.headerSet f = true) (hc : w.canRoute = true) (s : WanShared) :
    (announcing f).Takes w (handleRouteAddEvt f.iptype (w, s)) := by
  obtain ⟨d, br, sta, q, he⟩ := handleRouteAddEvt_eq hh s
  rw [he, if_pos hc]
  have h := defaultRouteUp_takes f { w with isDefaultGateway := d } { s with backhaulIsWanBridge := br, backhaulIsStaMode := sta, qmapId := q }
  exact ⟨h.holds, h.name, h.told, h.flag⟩

theorem handleRouteAddEvt_stays (hh : w.isSta = true → w.headerSet f = true) (hc : w.canRoute = false ∨ f ≠ g) (s : WanShared) :
    (announcing g).Stays w s (handleRouteAddEvt f.iptype (w, s)) := by
  obtain ⟨d, br, sta, q, he⟩ := handleRouteAddEvt_eq hh s
  rw [he]
  have hidle : (announcing g).Stays w s
      ({ w with isDefaultGateway := d }, { s with backhaulIsWanBridge := br, backhaulIsStaMode := sta, qmapId := q }) := by
    cases g <;> exact ⟨rfl, rfl, rfl, rfl⟩
  split
  next h =>
    exact hidle.trans (defaultRouteUp_stays (hc.resolve_left fun hn => by simp [hn] at h) _ _)
  next => exact hidle

theorem handleRouteAddEvt_like (hh : w.isSta = true → w.headerSet f = true) (s : WanShared) :
    Like w (handleRouteAddEvt f.iptype (w, s)).1 := by
  obtain ⟨d, br, sta, q, he⟩ := handleRouteAddEvt_eq hh s
  rw [he]
  have hidle : Like w { w with isDefaultGateway := d } := ⟨rfl, rfl, rfl, rfl, rfl, fun g => by cases g <;> rfl, rfl, rfl⟩
  split
  · exact hidle.trans (defaultRouteUp_like f _ _)
  · exact hidle

theorem defaultRouteDown_v4 (ht : w.txProp = true) (ha : w.activeV4 = true) (s : WanShared) : ∃ name, defaultRouteDown .v4 (w, s) =
    ({ w with isDefaultGateway := false, activeV4 := false },
      { s.postEvt (.wanDown w.wanV4Addr w.isSta) with wanUp := false, wanUpDevName := name }) := by
  unfold defaultRouteDown
  dsimp only
  rw [if_neg (by simp [ht]), if_pos ⟨rfl, ha⟩]
  split <;> exact ⟨_, rfl⟩

theorem defaultRouteDown_v6 (ht : w.txProp = true) (ha : w.activeV6 = true) (s : WanShared) : ∃ name, defaultRouteDown .v6 (w, s) =
    ({ w with isDefaultGateway := false, activeV6 := false },
      { s.postEvt (.wanDownV6 w.ipv6Prefix w.isSta) with wanUpV6 := false, wanUpDevName := name }) := by
  unfold defaultRouteDown
  dsimp only
  rw [if_neg (by simp [ht]), if_neg (fun h => by cases h.1), if_pos ⟨rfl, ha⟩]
  split <;> exact ⟨_, rfl⟩

/-- The end of a route the instance has. -/
theorem defaultRouteDown_leaves (ht : w.txProp = true) (ha : w.active f = true) (s : WanShared) :
    (announcing f).Leaves w (defaultRouteDown f.iptype (w, s)) := by
  cases f with
  | v4 =>
    obtain ⟨name, he⟩ := defaultRouteDown_v4 ht ha s
    exact ⟨ha, by rw [IpFamily.iptype, he]; rfl, by rw [IpFamily.iptype, he]; exact s.told_postEvt _ _, by rw [IpFamily.iptype, he]; rfl⟩
  | v6 =>
    obtain ⟨name, he⟩ := defaultRouteDown_v6 ht ha s
    exact ⟨ha, by rw [IpFamily.iptype, he]; rfl, by rw [IpFamily.iptype, he]; exact s.told_postEvt _ _, by rw [IpFamily.iptype, he]; rfl⟩

/-- The end of a route says nothing of the other family. -/
theorem defaultRouteDown_stays (ht : w.txProp = true) (ha : w.active f = true) (hfg : f ≠ g) (s : WanShared) :
    (announcing g).Stays w s (defaultRouteDown f.iptype (w, s)) := by
  cases f <;> cases g
  · exact absurd rfl hfg
  · obtain ⟨name, he⟩ := defaultRouteDown_v4 ht ha s
    rw [IpFamily.iptype, he]
    exact ⟨rfl, rfl, s.told_postEvt _ _, rfl⟩
  · obtain ⟨name, he⟩ := defaultRouteDown_v6 ht ha s
    rw [IpFamily.iptype, he]
    exact ⟨rfl, rfl, s.told_postEvt _ _, rfl⟩
  · exact absurd rfl hfg

theorem defaultRouteDown_like (ht : w.txProp = true) (ha : w.active f = true) (s : WanShared) :
    Like w (defaultRouteDown f.iptype (w, s)).1 := by
  cases f with
  | v4 =>
    obtain ⟨name, he⟩ := defaultRouteDown_v4 ht ha s
    rw [IpFamily.iptype, he]
    exact ⟨rfl, rfl, rfl, rfl, rfl, fun g => by cases g <;> rfl, rfl, rfl⟩
  | v6 =>
    obtain ⟨name, he⟩ := defaultRouteDown_v6 ht ha s
    rw [IpFamily.iptype, he]
    exact ⟨rfl, rfl, rfl, rfl, rfl, fun g => by cases g <;> rfl, rfl, rfl⟩

@[simp] theorem cleanRoute_eq (iptype : IpType) (p : Wan × WanShared) : cleanRoute iptype p = defaultRouteDown iptype p := ite_self _

/-- A tether is written down, in bounds or not, and posted; the message is about neither family's gateway. -/
theorem postWanUpTetherEvt_eq (f : IpFamily) (i : Option Nat) (w : Wan) (s : WanShared) : ∃ t4 t6 m, (∀ g, m.tells g = none) ∧
    postWanUpTetherEvt f.iptype i (w, s) =
      (w, { s with
        ipaIfNumTetherV4 := t4, ipaIfNumTetherV6 := t6
        outOfBounds := s.outOfBounds || decide (ipaMaxIfaceEntries ≤ (s.tether f).length) }.postEvt m) := by
  cases f with
  | v4 =>
    have he : postWanUpTetherEvt .v4 i (w, s) =
        (w, (if s.ipaIfNumTetherV4.length < ipaMaxIfaceEntries
          then { s with ipaIfNumTetherV4 := s.ipaIfNumTetherV4 ++ [i] } else { s with outOfBounds := true }).postEvt
            (.wanUpTether i w.isSta)) := rfl
    rw [IpFamily.iptype, he, WanShared.tether]
    by_cases hroom : s.ipaIfNumTetherV4.length < ipaMaxIfaceEntries
    · rw [if_pos hroom, decide_eq_false (Nat.not_le.2 hroom), Bool.or_false]
      exact ⟨_, _, _, fun g => by cases g <;> rfl, rfl⟩
    · rw [if_neg hroom, decide_eq_true (Nat.not_lt.1 hroom), Bool.or_true]
      exact ⟨_, _, _, fun g => by cases g <;> rfl, rfl⟩
  | v6 =>
    have he : postWanUpTetherEvt .v6 i (w, s) =
        (w, (if s.ipaIfNumTetherV6.length < ipaMaxIfaceEntries
          then { s with ipaIfNumTetherV6 := s.ipaIfNumTetherV6 ++ [i] } else { s with outOfBounds := true }).postEvt
            (.wanUpV6Tether i w.isSta w.ipv6Prefix)) := rfl
    rw [IpFamily.iptype, he, WanShared.tether]
    by_cases hroom : s.ipaIfNumTetherV6.length < ipaMaxIfaceEntries
    · rw [if_pos hroom, decide_eq_false (Nat.not_le.2 hroom), Bool.or_false]
      exact ⟨_, _, _, fun g => by cases g <;> rfl, rfl⟩
    · rw [if_neg hroom, decide_eq_true (Nat.not_lt.1 hroom), Bool.or_true]
      exact ⟨_, _, _, fun g => by cases g <;> rfl, rfl⟩

/-- A message about no gateway. -/
theorem stays_of_posted {m : WanPosted} (hm : m.tells g = none) (t4 t6 : List (Option Nat)) (out : Bool) :
    (announcing g).Stays w s (w, { s with ipaIfNumTetherV4 := t4, ipaIfNumTetherV6 := t6, outOfBounds := out }.postEvt m) := by
  refine ⟨rfl, rfl, (WanShared.told_postEvt _ _ _).trans ?_, by cases g <;> rfl⟩
  rw [hm]
  rfl

theorem postWanUpTetherEvt_stays (f g : IpFamily) (i : Option Nat) (p : Wan × WanShared) :
    (announcing g).Stays p.1 p.2 (postWanUpTetherEvt f.iptype i p) ∧ (postWanUpTetherEvt f.iptype i p).1 = p.1 := by
  obtain ⟨t4, t6, m, hm, he⟩ := postWanUpTetherEvt_eq f i p.1 p.2
  rw [he]
  exact ⟨stays_of_posted (hm g) _ _ _, rfl⟩

theorem postWanDownTetherEvt_stays (f g : IpFamily) (i : Option Nat) (w : Wan) (s : WanShared) :
    (announcing g).Stays w s (w, postWanDownTetherEvt f.iptype i w s) ∧
      (postWanDownTetherEvt f.iptype i w s).outOfBounds = s.outOfBounds := by
  cases f with
  | v4 =>
    have he : postWanDownTetherEvt .v4 i w s = if s.ipaIfNumTetherV4.contains i
      then { s with ipaIfNumTetherV4 := s.ipaIfNumTetherV4.erase i }.postEvt (.wanDownTether i w.isSta) else s := rfl
    rw [IpFamily.iptype, he]
    split
    · exact ⟨stays_of_posted (by cases g <;> rfl) _ _ _, rfl⟩
    · exact ⟨⟨rfl, rfl, rfl, rfl⟩, rfl⟩
  | v6 =>
    have he : postWanDownTetherEvt .v6 i w s = if s.ipaIfNumTetherV6.contains i
      then { s with ipaIfNumTetherV6 := s.ipaIfNumTetherV6.erase i }.postEvt (.wanDownV6Tether i w.isSta) else s := rfl
    rw [IpFamily.iptype, he]
    split
    · exact ⟨stays_of_posted (by cases g <;> rfl) _ _ _, rfl⟩
    · exact ⟨⟨rfl, rfl, rfl, rfl⟩, rfl⟩

/-- A header that is set stays so. -/
theorem headerKnown_of_set (h4 : w.headerSetV4 = true) (h6 : w.headerSetV6 = true) : w.HeaderKnown b e := fun _ _ g hg => by
  have hsta : ∀ w : Wan, w.headerSetV4 = true → w.staHeader.1 = w := fun w h => by
    unfold staHeader
    rw [h, Bool.true_or, if_pos rfl]
  cases e with
  | upstreamRouteAdd data =>
    unfold atRoute
    cases g with
    | v4 =>
      dsimp only
      rw [hsta (w.gatewayV4 _) h4]
      split <;> exact h4
    | v6 =>
      dsimp only
      rw [hsta (w.gatewayV6 _) h4]
      split <;> exact h6
  | routeAdd data =>
    unfold atRoute
    cases g with
    | v4 =>
      dsimp only
      rw [hsta (w.gatewayV4 _) h4]
      exact h4
    | v6 =>
      dsimp only
      rw [hsta (w.gatewayV6 _) h4]
      exact h6
  | upstreamRouteDel | routeDel => exact Bool.noConfusion hg

/-! ## What an instance keeps -/

/-- The interface of an instance and its addresses. -/
def fixed (w : Wan) : Nat × IfaceIpType × BitVec 64 := (w.ipaIfNum, w.ipType, w.ipv6Prefix)

theorem handleRouteAddEvt_fixed (t : IpType) (p : Wan × WanShared) : (handleRouteAddEvt t p).1.fixed = p.1.fixed := by
  have hup : ∀ p : Wan × WanShared, (defaultRouteUp t p).1.fixed = p.1.fixed := fun p => by
    unfold defaultRouteUp
    dsimp only
    split <;> rfl
  unfold handleRouteAddEvt
  dsimp only
  split
  · rfl
  split
  · split
    · rfl
    split
    · rfl
    · exact hup _
  · split
    · rfl
    · exact hup _

theorem handleStaHeaderAddEvt_fixed (p : Wan × WanShared) : (handleStaHeaderAddEvt p).1.fixed = p.1.fixed := by
  obtain ⟨_, _, _, _, _, he⟩ := p.1.staHeader_eq
  have hsta : p.1.staHeader.1.fixed = p.1.fixed := by
    rw [he]
    rfl
  unfold handleStaHeaderAddEvt
  dsimp only
  split
  · split <;> split
    · rw [handleRouteAddEvt_fixed, handleRouteAddEvt_fixed, hsta]
    · rw [handleRouteAddEvt_fixed, hsta]
    · rw [handleRouteAddEvt_fixed, hsta]
    · exact hsta
  · exact hsta

theorem defaultRouteDown_fixed (t : IpType) (p : Wan × WanShared) : (defaultRouteDown t p).1.fixed = p.1.fixed := by
  unfold defaultRouteDown
  dsimp only
  split
  · rfl
  split
  · rfl
  split <;> rfl

theorem eventCallback_fixed (b : WanBuild) (e : WanRouteEvt) (w : Wan) (s : WanShared) :
    (eventCallback b e w s).1.fixed = w.fixed := by
  have hpost : ∀ t i p, (postWanUpTetherEvt t i p).1.fixed = p.1.fixed := fun t i p => by
    unfold postWanUpTetherEvt
    simp only [apply_ite Prod.fst, ite_self]
  have hgone : { w with wanV4AddrGwSet := false }.fixed = w.fixed := rfl
  have hgw4 : ∀ gw s, (handleStaHeaderAddEvt (w.gatewayV4 gw, s)).1.fixed = w.fixed := fun gw s => handleStaHeaderAddEvt_fixed _
  have hgw6 : ∀ gw s, (handleStaHeaderAddEvt (w.gatewayV6 gw, s)).1.fixed = w.fixed := fun gw s => handleStaHeaderAddEvt_fixed _
  cases e with
  | upstreamRouteAdd data =>
    unfold eventCallback upstreamRouteAdd
    simp only [cleanRoute_eq, apply_ite Prod.fst, apply_ite Wan.fixed, hpost, handleRouteAddEvt_fixed, hgw4, hgw6,
      defaultRouteDown_fixed, hgone, ite_self]
  | routeAdd data =>
    unfold eventCallback routeAdd
    simp only [cleanRoute_eq, apply_ite Prod.fst, apply_ite Wan.fixed, handleRouteAddEvt_fixed, hgw4, hgw6,
      defaultRouteDown_fixed, hgone, ite_self]
  | upstreamRouteDel data =>
    unfold eventCallback upstreamRouteDel
    simp only [cleanRoute_eq, apply_ite Prod.fst, apply_ite Wan.fixed, defaultRouteDown_fixed, hgone, ite_self]
  | routeDel data =>
    unfold eventCallback routeDel handleRouteDelEvt handleRouteDelEvtEx
    simp only [cleanRoute_eq, apply_ite Prod.fst, apply_ite Wan.fixed, defaultRouteDown_fixed, hgone, ite_self]

theorem eventCallback_iface (b : WanBuild) (e : WanRouteEvt) (w : Wan) (s : WanShared) :
    (eventCallback b e w s).1.ipaIfNum = w.ipaIfNum :=
  congrArg Prod.fst (eventCallback_fixed b e w s)

theorem accepts_of_fixed {w' : Wan} (h : w'.fixed = w.fixed) (g : IpFamily) : w'.accepts g = w.accepts g := by
  have hip : w'.ipType = w.ipType := congrArg (fun x => x.2.1) h
  have hprefix : w'.ipv6Prefix = w.ipv6Prefix := congrArg (fun x => x.2.2) h
  unfold accepts hasIp
  rw [hip, hprefix]

/-! ## One instance and one event -/

/-- The tether arrays are as they were. -/
structure SameTether (s s' : WanShared) : Prop where
  tether : ∀ g, s'.tether g = s.tether g
  bounds : s'.outOfBounds = s.outOfBounds

theorem SameTether.trans {s' s'' : WanShared} (h : SameTether s s') (h' : SameTether s' s'') : SameTether s s'' :=
  ⟨fun g => (h'.tether g).trans (h.tether g), h'.bounds.trans h.bounds⟩

theorem handleRouteAddEvt_tether (hh : w.isSta = true → w.headerSet f = true) (s : WanShared) :
    SameTether s (handleRouteAddEvt f.iptype (w, s)).2 := by
  obtain ⟨d, br, sta, q, he⟩ := handleRouteAddEvt_eq hh s
  rw [he]
  split
  · cases f <;> exact ⟨fun g => by cases g <;> rfl, rfl⟩
  · exact ⟨fun g => by cases g <;> rfl, rfl⟩

theorem defaultRouteDown_tether (ht : w.txProp = true) (ha : w.active f = true) (s : WanShared) :
    SameTether s (defaultRouteDown f.iptype (w, s)).2 := by
  cases f with
  | v4 =>
    obtain ⟨name, he⟩ := defaultRouteDown_v4 ht ha s
    rw [IpFamily.iptype, he]
    exact ⟨fun g => by cases g <;> rfl, rfl⟩
  | v6 =>
    obtain ⟨name, he⟩ := defaultRouteDown_v6 ht ha s
    rw [IpFamily.iptype, he]
    exact ⟨fun g => by cases g <;> rfl, rfl⟩

/-- What a call makes of an instance and of what is shared: for each family it takes the route, if it is `new`, and
otherwise it leaves things as they are or lets go of what it has. -/
structure Called (w : Wan) (s : WanShared) (new : IpFamily → Bool) (p : Wan × WanShared) : Prop where
  like : Like w p.1
  takes : ∀ g, new g = true → w.canRoute = true ∧ (announcing g).Takes w p
  keeps : ∀ g, new g = false → (announcing g).Stays w s p ∨ (announcing g).Leaves w p

theorem Called.settled {new : IpFamily → Bool} {p : Wan × WanShared} (h : Called w s new p) (hw : w.Settled) : p.1.Settled where
  partialV4 := h.like.partialV4.trans hw.partialV4
  partialV6 := h.like.partialV6.trans hw.partialV6
  txProp g ha := by
    rw [h.like.txProp]
    cases ht : new g with
    | true =>
      have hc := (h.takes g ht).1
      unfold canRoute at hc
      exact (Bool.and_eq_true _ _ ▸ hc).1
    | false =>
      rcases h.keeps g ht with hs | hl
      · exact hw.txProp g (hs.holds.symm.trans ha)
      · exact hw.txProp g hl.held

theorem Called.refl (w : Wan) (s : WanShared) : Called w s (fun _ => false) (w, s) :=
  ⟨⟨rfl, rfl, rfl, rfl, rfl, fun _ => rfl, rfl, rfl⟩, fun _ h => Bool.noConfusion h, fun _ _ => .inl ⟨rfl, rfl, rfl, rfl⟩⟩

/-- The end of a route. -/
theorem defaultRouteDown_called (hw : w.Settled) (ha : w.active f = true) (s : WanShared) :
    Called w s (fun _ => false) (defaultRouteDown f.iptype (w, s)) where
  like := defaultRouteDown_like (hw.txProp f ha) ha s
  takes _ h := Bool.noConfusion h
  keeps g _ := by
    by_cases hfg : f = g
    · exact hfg ▸ .inr (defaultRouteDown_leaves (hw.txProp f ha) ha s)
    · exact .inl (defaultRouteDown_stays (hw.txProp f ha) ha hfg s)

/-- For another's route there is only the cleaning of what the instance has. -/
theorem eventCallback_other_eq (hne : e.ipaIfIndex ≠ some w.ipaIfNum) : eventCallback b e w s =
    if e.adds .v4 = true ∧ w.activeV4 = true then defaultRouteDown .v4 ({ w with wanV4AddrGwSet := false }, s)
    else if e.adds .v6 = true ∧ w.activeV6 = true then defaultRouteDown .v6 (w, s)
    else (w, s) := by
  cases e with
  | upstreamRouteAdd data =>
    have hne : data.ipaIfIndex ≠ some w.ipaIfNum := hne
    unfold eventCallback upstreamRouteAdd WanRouteEvt.adds
    simp only [if_neg hne, cleanRoute_eq, IpFamily.iptype, beq_iff_eq]
  | routeAdd data =>
    have hne : data.ipaIfIndex ≠ some w.ipaIfNum := hne
    unfold eventCallback routeAdd WanRouteEvt.adds
    simp only [if_neg hne, cleanRoute_eq, IpFamily.iptype]
    rfl
  | upstreamRouteDel data =>
    have hne : data.ipaIfIndex ≠ some w.ipaIfNum := hne
    unfold eventCallback upstreamRouteDel WanRouteEvt.adds
    simp [if_neg hne]
  | routeDel data =>
    have hne : data.ipaIfIndex ≠ some w.ipaIfNum := hne
    unfold eventCallback routeDel WanRouteEvt.adds
    simp [if_neg hne]

theorem adds_one (h : e.adds f = true) (hfg : f ≠ g) : e.adds g = false := by
  cases e with
  | upstreamRouteAdd data =>
    have h : data.iptype = f.iptype := eq_of_beq h
    have hne : ¬ data.iptype = g.iptype := by rw [h]; cases f <;> cases g <;> first | exact absurd rfl hfg | exact nofun
    exact beq_eq_false_iff_ne.2 hne
  | routeAdd data =>
    cases f <;> cases g <;> first | exact absurd rfl hfg | skip
    all_goals
      simp only [WanRouteEvt.adds, IpFamily.iptype, RouteAddr.isDefault, Bool.and_eq_true, beq_iff_eq] at h
      simp only [WanRouteEvt.adds, IpFamily.iptype, RouteAddr.isDefault]
    · rw [h.1.1]
      rfl
    · rw [h.1]
      rfl
  | upstreamRouteDel | routeDel => exact Bool.noConfusion h

/-- Another's route ends the one the instance has, if it has one of the family. -/
theorem eventCallback_other_cases (hne : e.ipaIfIndex ≠ some w.ipaIfNum) :
    (∃ f w', e.adds f = true ∧ w.active f = true ∧ (∀ g, (announcing g).Stays w s (w', s)) ∧ Like w w' ∧
      eventCallback b e w s = defaultRouteDown f.iptype (w', s)) ∨
    (∀ f, e.adds f = true → w.active f = false) ∧ eventCallback b e w s = (w, s) := by
  rw [eventCallback_other_eq hne]
  by_cases h4 : e.adds .v4 = true ∧ w.activeV4 = true
  · rw [if_pos h4]
    exact .inl ⟨.v4, { w with wanV4AddrGwSet := false }, h4.1, h4.2, fun g => by cases g <;> exact ⟨rfl, rfl, rfl, rfl⟩,
      ⟨rfl, rfl, rfl, rfl, rfl, fun g => by cases g <;> rfl, rfl, rfl⟩, rfl⟩
  rw [if_neg h4]
  by_cases h6 : e.adds .v6 = true ∧ w.activeV6 = true
  · rw [if_pos h6]
    exact .inl ⟨.v6, w, h6.1, h6.2, fun g => ⟨rfl, rfl, rfl, rfl⟩, (Called.refl w s).like, rfl⟩
  rw [if_neg h6]
  refine .inr ⟨fun f hf => Bool.eq_false_iff.2 fun ha => ?_, rfl⟩
  cases f with
  | v4 => exact h4 ⟨hf, ha⟩
  | v6 => exact h6 ⟨hf, ha⟩

/-- **Another's route**: the instance lets go where it is of its family, and stays otherwise. -/
theorem eventCallback_other (hw : w.Settled) (hne : e.ipaIfIndex ≠ some w.ipaIfNum) :
    Called w s (fun _ => false) (eventCallback b e w s) ∧ SameTether s (eventCallback b e w s).2 ∧
      ∀ g, (e.adds g = true → (announcing g).Clears w s (eventCallback b e w s)) ∧
        (e.adds g = false → (announcing g).Stays w s (eventCallback b e w s)) := by
  rcases eventCallback_other_cases (b := b) (s := s) hne with ⟨f, w', hf, ha, hs, hl, he⟩ | ⟨hno, he⟩
  · have hw' : w'.Settled := (⟨hl, fun _ h => Bool.noConfusion h, fun g _ => .inl (hs g)⟩ :
      Called w s (fun _ => false) (w', s)).settled hw
    have ha' : w'.active f = true := (hs f).holds.trans ha
    have hleaves := (hs f).leaves (defaultRouteDown_leaves (hw'.txProp f ha') ha' s)
    have hother : ∀ g, f ≠ g → (announcing g).Stays w s (defaultRouteDown f.iptype (w', s)) := fun g hfg =>
      (hs g).trans (defaultRouteDown_stays (hw'.txProp f ha') ha' hfg s)
    rw [he]
    refine ⟨⟨hl.trans (defaultRouteDown_like (hw'.txProp f ha') ha' s), fun _ h => Bool.noConfusion h, fun g _ => ?_⟩,
      defaultRouteDown_tether (hw'.txProp f ha') ha' s, fun g => ?_⟩
    · by_cases hfg : f = g
      · exact hfg ▸ .inr hleaves
      · exact .inl (hother g hfg)
    · by_cases hfg : f = g
      · subst hfg
        refine ⟨fun _ => ⟨fun _ => hleaves, fun hn => ?_⟩, fun h => ?_⟩
        · exact Bool.noConfusion (ha.symm.trans hn)
        · exact Bool.noConfusion (hf.symm.trans h)
      · exact ⟨fun h => Bool.noConfusion (h.symm.trans (adds_one hf hfg)), fun _ => hother g hfg⟩
  · rw [he]
    refine ⟨Called.refl w s, ⟨fun _ => rfl, rfl⟩, fun g => ⟨fun hg => ⟨fun ha => ?_, fun _ => ⟨rfl, rfl, rfl, rfl⟩⟩, fun _ => ⟨rfl, rfl, rfl, rfl⟩⟩⟩
    exact Bool.noConfusion (ha.symm.trans (hno g hg))

theorem Called.trans {p q : Wan × WanShared} {new : IpFamily → Bool} (h : Called w s new p) (h' : Called p.1 p.2 (fun _ => false) q)
    (hs : ∀ g, new g = true → (announcing g).Stays p.1 p.2 q) : Called w s new q where
  like := h.like.trans h'.like
  takes g hg := ⟨(h.takes g hg).1, (h.takes g hg).2.stays (hs g hg)⟩
  keeps g hg := by
    rcases h.keeps g hg, h'.keeps g rfl with ⟨h₁ | h₁, h₂ | h₂⟩
    · exact .inl (h₁.trans h₂)
    · exact .inr (h₁.leaves h₂)
    · exact .inr (h₁.stays h₂)
    · exact Bool.noConfusion (h₁.holds.symm.trans h₂.held)

/-- A change that nobody is told of. -/
theorem Called.of_stays {p : Wan × WanShared} (hl : Like w p.1) (hs : ∀ g, (announcing g).Stays w s p) : Called w s (fun _ => false) p :=
  ⟨hl, fun _ h => Bool.noConfusion h, fun g _ => .inl (hs g)⟩

/-- The handlers of a route of the instance's own, unless it has one. -/
def ownRoute (b : WanBuild) (f : IpFamily) (e : WanRouteEvt) (w : Wan) (s : WanShared) : Wan × WanShared :=
  if w.active f = false then handleRouteAddEvt f.iptype (w.atRoute b f e, s) else (w, s)

theorem ownRoute_stays (hh : w.isSta = true → (w.atRoute b f e).headerSet f = true) (hfg : f ≠ g) :
    (announcing g).Stays w s (ownRoute b f e w s) := by
  obtain ⟨hs, hl⟩ := atRoute_stays b w f g e s
  unfold ownRoute
  split
  · exact hs.trans (handleRouteAddEvt_stays (fun h => hh (hl.sta.symm.trans h)) (.inr hfg) s)
  · exact ⟨rfl, rfl, rfl, rfl⟩

theorem ownRoute_called (hh : w.isSta = true → (w.atRoute b f e).headerSet f = true) :
    Called w s (fun g => f == g && w.canRoute && !w.active g) (ownRoute b f e w s) ∧ SameTether s (ownRoute b f e w s).2 := by
  have hl := (atRoute_stays b w f f e s).2
  have hh' : (w.atRoute b f e).isSta = true → (w.atRoute b f e).headerSet f = true := fun h => hh (hl.sta.symm.trans h)
  cases ha : w.active f with
  | true =>
    have he : ownRoute b f e w s = (w, s) := if_neg fun h => Bool.noConfusion (ha.symm.trans h)
    rw [he]
    refine ⟨⟨(Called.refl w s).like, fun g hg => ?_, fun _ _ => .inl ⟨rfl, rfl, rfl, rfl⟩⟩, fun _ => rfl, rfl⟩
    simp only [Bool.and_eq_true, beq_iff_eq] at hg
    obtain ⟨⟨rfl, -⟩, hn⟩ := hg
    rw [ha] at hn
    exact Bool.noConfusion hn
  | false =>
    have he : ownRoute b f e w s = handleRouteAddEvt f.iptype (w.atRoute b f e, s) := if_pos ha
    refine ⟨⟨?_, fun g hg => ?_, fun g hg => ?_⟩, ?_⟩
    · rw [he]
      exact hl.trans (handleRouteAddEvt_like hh' s)
    · simp only [Bool.and_eq_true, beq_iff_eq] at hg
      obtain ⟨⟨rfl, hc⟩, -⟩ := hg
      rw [he]
      exact ⟨hc, (atRoute_stays b w f f e s).1.takes (handleRouteAddEvt_takes hh' (hl.canRoute.trans hc) s)⟩
    · by_cases hfg : f = g
      · subst hfg
        have hc : w.canRoute = false := by simpa [ha] using hg
        rw [he]
        exact .inl ((atRoute_stays b w f f e s).1.trans (handleRouteAddEvt_stays hh' (.inl (hl.canRoute.trans hc)) s))
      · exact .inl (ownRoute_stays hh hfg)
    · rw [he]
      exact handleRouteAddEvt_tether hh' s

theorem accepts_v6 : w.accepts .v6 = true ↔ w.hasIp .v6 = true ∧ w.ipv6Prefix ≠ 0 := by
  unfold accepts
  rw [Bool.and_eq_true, bne_iff_ne]

theorem handleSta_atRoute (hw : w.Settled) (b : WanBuild) (data : UpstreamRoute) (s : WanShared) :
    (if b.wanMsgAddrGw then handleStaHeaderAddEvt (w.gatewayV4 data.ipv4AddrGw, s) else (w, s)) =
        (w.atRoute b .v4 (.upstreamRouteAdd data), s) ∧
      (if b.wanMsgAddrGw then handleStaHeaderAddEvt (w.gatewayV6 data.ipv6AddrGw, s) else (w, s)) =
        (w.atRoute b .v6 (.upstreamRouteAdd data), s) := by
  unfold atRoute
  have h4 := handleStaHeaderAddEvt_eq (w := w.gatewayV4 data.ipv4AddrGw) (s := s) hw.partialV4 hw.partialV6
  have h6 := handleStaHeaderAddEvt_eq (w := w.gatewayV6 data.ipv6AddrGw) (s := s) hw.partialV4 hw.partialV6
  cases b.wanMsgAddrGw with
  | true => exact ⟨h4, h6⟩
  | false => exact ⟨rfl, rfl⟩

/-- An upstream route of the instance's own. -/
theorem upstreamRouteAdd_own (hw : w.Settled) {data : UpstreamRoute} (hown : data.ipaIfIndex = some w.ipaIfNum) :
    (∃ f, data.iptype = f.iptype ∧ w.accepts f = true ∧ eventCallback b (.upstreamRouteAdd data) w s =
      if b.featureIpaAndroid then postWanUpTetherEvt f.iptype data.ipaIfIndexTether (ownRoute b f (.upstreamRouteAdd data) w s)
      else ownRoute b f (.upstreamRouteAdd data) w s) ∨
    (∀ f, data.iptype = f.iptype → w.accepts f = false) ∧ eventCallback b (.upstreamRouteAdd data) w s = (w, s) := by
  have he : eventCallback b (.upstreamRouteAdd data) w s = upstreamRouteAdd b data (w, s) := rfl
  obtain ⟨h4, h6⟩ := handleSta_atRoute hw b data s
  rw [he]
  unfold upstreamRouteAdd
  dsimp only
  rw [if_pos hown, h4, h6]
  by_cases hv4 : data.iptype = .v4 ∧ w.hasIp .v4 = true
  · rw [if_pos hv4]
    exact .inl ⟨.v4, hv4.1, hv4.2, rfl⟩
  rw [if_neg hv4]
  by_cases hv6 : data.iptype = .v6 ∧ w.hasIp .v6 = true
  · rw [if_pos hv6]
    by_cases hp : w.ipv6Prefix = 0
    · rw [if_pos hp]
      refine .inr ⟨fun f hf => ?_, rfl⟩
      cases f with
      | v4 => exact absurd (hv6.1.symm.trans hf) nofun
      | v6 => exact Bool.eq_false_iff.2 fun ha => (accepts_v6.1 ha).2 hp
    · rw [if_neg hp]
      exact .inl ⟨.v6, hv6.1, accepts_v6.2 ⟨hv6.2, hp⟩, rfl⟩
  rw [if_neg hv6]
  refine .inr ⟨fun f hf => ?_, rfl⟩
  cases f with
  | v4 => exact Bool.eq_false_iff.2 fun ha => hv4 ⟨hf, ha⟩
  | v6 => exact Bool.eq_false_iff.2 fun ha => hv6 ⟨hf, (accepts_v6.1 ha).1⟩

/-- A default route of the instance's own: with that of IPv4, where XLAT is enabled, goes one of IPv6. -/
theorem routeAdd_own (hw : w.Settled) {data : RouteAddr} (hown : data.ipaIfIndex = some w.ipaIfNum) :
    (data.isDefault .v4 = true ∧ w.accepts .v4 = true ∧ w.activeV4 = false ∧ eventCallback b (.routeAdd data) w s =
      if (ownRoute b .v4 (.routeAdd data) w s).1.isXlat = true ∧ (ownRoute b .v4 (.routeAdd data) w s).1.mIsStaMode = .q6Wan ∧
          (ownRoute b .v4 (.routeAdd data) w s).1.activeV6 = false
        then handleRouteAddEvt .v6 (ownRoute b .v4 (.routeAdd data) w s) else ownRoute b .v4 (.routeAdd data) w s) ∨
    (data.isDefault .v6 = true ∧ w.accepts .v6 = true ∧
      eventCallback b (.routeAdd data) w s = ownRoute b .v6 (.routeAdd data) w s) ∨
    (∀ f, data.isDefault f.iptype = true → w.accepts f = true → w.active f = true) ∧
      eventCallback b (.routeAdd data) w s = (w, s) := by
  have he : eventCallback b (.routeAdd data) w s = routeAdd data (w, s) := rfl
  have h4 := handleStaHeaderAddEvt_eq (w := w.gatewayV4 data.ipv4AddrGw) (s := s) hw.partialV4 hw.partialV6
  have h6 := handleStaHeaderAddEvt_eq (w := w.gatewayV6 data.ipv6AddrGw) (s := s) hw.partialV4 hw.partialV6
  have ho4 : w.activeV4 = false → ownRoute b .v4 (.routeAdd data) w s =
      handleRouteAddEvt .v4 ((w.gatewayV4 data.ipv4AddrGw).staHeader.1, s) := fun ha => if_pos ha
  have ho6 : w.activeV6 = false → ownRoute b .v6 (.routeAdd data) w s =
      handleRouteAddEvt .v6 ((w.gatewayV6 data.ipv6AddrGw).staHeader.1, s) := fun ha => if_pos ha
  rw [he]
  unfold routeAdd
  dsimp only
  rw [if_pos hown, h4, h6]
  by_cases hv4 : data.isDefault .v4 = true ∧ w.activeV4 = false ∧ w.hasIp .v4 = true
  · rw [if_pos hv4, ← ho4 hv4.2.1]
    exact .inl ⟨hv4.1, hv4.2.2, hv4.2.1, rfl⟩
  rw [if_neg hv4]
  refine .inr ?_
  by_cases hv6 : data.isDefault .v6 = true ∧ w.activeV6 = false ∧ w.hasIp .v6 = true
  · rw [if_pos hv6]
    have hno4 : ¬ data.isDefault .v4 = true := fun h => by
      have := adds_one (e := .routeAdd data) (f := .v6) (g := .v4) hv6.1 nofun
      exact Bool.noConfusion (h.symm.trans this)
    by_cases hp : w.ipv6Prefix = 0
    · rw [if_pos hp]
      refine .inr ⟨fun f hf ha => ?_, rfl⟩
      cases f with
      | v4 => exact absurd hf hno4
      | v6 => exact absurd hp (accepts_v6.1 ha).2
    · rw [if_neg hp, ← ho6 hv6.2.1]
      exact .inl ⟨hv6.1, accepts_v6.2 ⟨hv6.2.2, hp⟩, rfl⟩
  rw [if_neg hv6]
  refine .inr ⟨fun f hf ha => ?_, rfl⟩
  cases f with
  | v4 => exact Bool.of_not_eq_false fun hn => hv4 ⟨hf, hn, ha⟩
  | v6 => exact Bool.of_not_eq_false fun hn => hv6 ⟨hf, hn, (accepts_v6.1 ha).1⟩

theorem Called.of_eq {new new' : IpFamily → Bool} {p : Wan × WanShared} (h : Called w s new p) (he : ∀ g, new' g = new g) :
    Called w s new' p :=
  ⟨h.like, fun g hg => h.takes g ((he g).symm.trans hg), fun g hg => h.keeps g ((he g).symm.trans hg)⟩

theorem takes_eq (hown : e.ipaIfIndex = some w.ipaIfNum) (hadd : ∀ data, e ≠ .routeAdd data) (g : IpFamily) :
    w.takes e g = (w.canRoute && !w.active g && (e.adds g && w.accepts g)) := by
  unfold takes
  rw [hown, beq_self_eq_true, Bool.true_and]
  cases e with
  | routeAdd data => exact absurd rfl (hadd data)
  | upstreamRouteAdd | upstreamRouteDel | routeDel => rw [Bool.or_false]

/-- An own route that is deleted. -/
theorem routeDel_called (hw : w.Settled) (he : (∃ data, e = .upstreamRouteDel data) ∨ ∃ data, e = .routeDel data) :
    Called w s (fun _ => false) (eventCallback b e w s) ∧ (eventCallback b e w s).2.outOfBounds = s.outOfBounds := by
  have hgw : Called w s (fun _ => false) ({ w with wanV4AddrGwSet := false }, s) :=
    .of_stays ⟨rfl, rfl, rfl, rfl, rfl, fun g => by cases g <;> rfl, rfl, rfl⟩ fun g => by cases g <;> exact ⟨rfl, rfl, rfl, rfl⟩
  have hdown : ∀ {w : Wan} (_ : w.Settled) (f : IpFamily) (_ : w.active f = true) (s : WanShared),
      Called w s (fun _ => false) (defaultRouteDown f.iptype (w, s)) ∧
        (defaultRouteDown f.iptype (w, s)).2.outOfBounds = s.outOfBounds := fun hw f ha s =>
    ⟨defaultRouteDown_called hw ha s, (defaultRouteDown_tether (hw.txProp f ha) ha s).bounds⟩
  rcases he with ⟨data, rfl⟩ | ⟨data, rfl⟩
  · have he : eventCallback b (.upstreamRouteDel data) w s = upstreamRouteDel b data (w, s) := rfl
    rw [he]
    unfold upstreamRouteDel
    dsimp only
    split
    · split
      next hv4 =>
        -- the tether goes first, and the route with the last of them
        generalize hsh : (if b.featureIpaAndroid = true then
          postWanDownTetherEvt .v4 data.ipaIfIndexTether { w with wanV4AddrGwSet := false } s else s) = s'
        have hpost : Called w s (fun _ => false) ({ w with wanV4AddrGwSet := false }, s') ∧ s'.outOfBounds = s.outOfBounds := by
          rw [← hsh]
          split
          · have hp := fun g => postWanDownTetherEvt_stays .v4 g data.ipaIfIndexTether { w with wanV4AddrGwSet := false } s
            exact ⟨hgw.trans (.of_stays (Called.refl _ s).like fun g => (hp g).1) fun _ h => Bool.noConfusion h, (hp .v4).2⟩
          · exact ⟨hgw, rfl⟩
        split
        · exact hpost
        · rw [cleanRoute_eq]
          obtain ⟨h, hb⟩ := hdown (hpost.1.settled hw) .v4 hv4.2 s'
          exact ⟨hpost.1.trans h fun _ h => Bool.noConfusion h, hb.trans hpost.2⟩
      next =>
        split
        next hv6 =>
          generalize hsh : (if b.featureIpaAndroid = true then postWanDownTetherEvt .v6 data.ipaIfIndexTether w s else s) = s'
          have hpost : Called w s (fun _ => false) (w, s') ∧ s'.outOfBounds = s.outOfBounds := by
            rw [← hsh]
            split
            · have hp := fun g => postWanDownTetherEvt_stays .v6 g data.ipaIfIndexTether w s
              exact ⟨.of_stays (Called.refl _ s).like fun g => (hp g).1, (hp .v6).2⟩
            · exact ⟨Called.refl w s, rfl⟩
          split
          · exact hpost
          · rw [cleanRoute_eq]
            obtain ⟨h, hb⟩ := hdown hw .v6 hv6.2 s'
            exact ⟨hpost.1.trans h fun _ h => Bool.noConfusion h, hb.trans hpost.2⟩
        next => exact ⟨Called.refl w s, rfl⟩
    · exact ⟨Called.refl w s, rfl⟩
  · have he : eventCallback b (.routeDel data) w s = routeDel data (w, s) := rfl
    rw [he]
    unfold routeDel handleRouteDelEvtEx handleRouteDelEvt
    dsimp only
    split
    · split
      next hv4 =>
        obtain ⟨h, hb⟩ := hdown (hgw.settled hw) .v4 hv4.2 s
        have h4 : Called w s (fun _ => false) (defaultRouteDown .v4 ({ w with wanV4AddrGwSet := false }, s)) :=
          hgw.trans h fun _ h => Bool.noConfusion h
        split
        · split
          next hx =>
            obtain ⟨h', hb'⟩ := hdown (h4.settled hw) .v6 hx.2 (defaultRouteDown .v4 ({ w with wanV4AddrGwSet := false }, s)).2
            exact ⟨h4.trans h' fun _ h => Bool.noConfusion h, hb'.trans hb⟩
          next => exact ⟨h4, hb⟩
        · exact ⟨h4, hb⟩
      next =>
        split
        next hv6 =>
          rw [cleanRoute_eq]
          exact hdown hw .v6 hv6.2 s
        next => exact ⟨Called.refl w s, rfl⟩
    · exact ⟨Called.refl w s, rfl⟩

/-- There is room for a tether where one is written down. -/
def HasRoom (b : WanBuild) (w : Wan) (s : WanShared) (e : WanRouteEvt) : Prop :=
  ∀ g, w.tethers b g e = true → (s.tether g).length < ipaMaxIfaceEntries

theorem hasRoom_of_not {s : WanShared} (h : ∀ g, w.tethers b g e = false) : HasRoom b w s e := fun g hg =>
  Bool.noConfusion (hg.symm.trans (h g))

theorem iptype_inj (h : f.iptype = g.iptype) : f = g := by
  cases f <;> cases g <;> first | rfl | exact IpType.noConfusion h

theorem tethers_eq {data : UpstreamRoute} (hown : data.ipaIfIndex = some w.ipaIfNum) (g : IpFamily) :
    w.tethers b g (.upstreamRouteAdd data) =
      (b.featureIpaAndroid && ((WanRouteEvt.upstreamRouteAdd data).adds g && w.accepts g)) := by
  unfold tethers WanRouteEvt.adds
  dsimp only
  rw [hown, beq_self_eq_true, Bool.and_true, Bool.and_assoc]

theorem upstreamRouteAdd_called (hw : w.Settled) {data : UpstreamRoute} (hk : w.HeaderKnown b (.upstreamRouteAdd data))
    (hown : data.ipaIfIndex = some w.ipaIfNum) :
    Called w s (w.takes (.upstreamRouteAdd data)) (eventCallback b (.upstreamRouteAdd data) w s) ∧
      ((eventCallback b (.upstreamRouteAdd data) w s).2.outOfBounds = false ↔
        s.outOfBounds = false ∧ HasRoom b w s (.upstreamRouteAdd data)) := by
  have htakes := takes_eq (w := w) (e := .upstreamRouteAdd data) hown fun _ h => WanRouteEvt.noConfusion h
  rcases upstreamRouteAdd_own (b := b) (s := s) hw hown with ⟨f, hf, ha, he⟩ | ⟨hno, he⟩
  · have hadds : ∀ g, (WanRouteEvt.upstreamRouteAdd data).adds g = (f == g) := fun g => by
      show (data.iptype == g.iptype) = (f == g)
      rw [hf, Bool.eq_iff_iff, beq_iff_eq, beq_iff_eq]
      exact ⟨iptype_inj, fun h => by rw [h]⟩
    have hh : w.isSta = true → (w.atRoute b f (.upstreamRouteAdd data)).headerSet f = true := fun hs =>
      hk hs hown f (by rw [hadds, beq_self_eq_true])
    obtain ⟨hcall, htether⟩ := ownRoute_called (s := s) hh
    have hcall : Called w s (w.takes (.upstreamRouteAdd data)) (ownRoute b f (.upstreamRouteAdd data) w s) :=
      hcall.of_eq fun g => by
        rw [htakes, hadds]
        by_cases hfg : f = g
        · subst hfg
          rw [ha, beq_self_eq_true, Bool.and_self, Bool.and_true, Bool.true_and]
        · rw [beq_eq_false_iff_ne.2 hfg, Bool.false_and, Bool.and_false, Bool.false_and, Bool.false_and]
    have htethers : ∀ g, w.tethers b g (.upstreamRouteAdd data) = (b.featureIpaAndroid && f == g) := fun g => by
      rw [tethers_eq hown, hadds]
      by_cases hfg : f = g
      · subst hfg
        rw [ha, Bool.and_true]
      · rw [beq_eq_false_iff_ne.2 hfg, Bool.false_and]
    rw [he]
    cases hb : b.featureIpaAndroid with
    | true =>
      obtain ⟨t4, t6, m, hm, hpost⟩ := postWanUpTetherEvt_eq f data.ipaIfIndexTether (ownRoute b f (.upstreamRouteAdd data) w s).1
        (ownRoute b f (.upstreamRouteAdd data) w s).2
      have hpost' := fun g => (postWanUpTetherEvt_stays f g data.ipaIfIndexTether (ownRoute b f (.upstreamRouteAdd data) w s)).1
      refine ⟨hcall.trans (.of_stays ?_ hpost') fun g _ => hpost' g, ?_⟩
      · rw [if_pos rfl, (postWanUpTetherEvt_stays f .v4 data.ipaIfIndexTether _).2]
        exact (Called.refl _ s).like
      · have hout : (postWanUpTetherEvt f.iptype data.ipaIfIndexTether (ownRoute b f (.upstreamRouteAdd data) w s)).2.outOfBounds =
            (s.outOfBounds || decide (ipaMaxIfaceEntries ≤ (s.tether f).length)) := by
          rw [hpost, ← htether.tether f, ← htether.bounds]
          rfl
        rw [if_pos rfl, hout, Bool.or_eq_false_iff, decide_eq_false_iff_not, Nat.not_le]
        refine and_congr_right fun _ => ⟨fun h g hg => ?_, fun h => h f (by rw [htethers, hb, beq_self_eq_true]; rfl)⟩
        rw [htethers, hb, Bool.true_and, beq_iff_eq] at hg
        exact hg ▸ h
    | false =>
      rw [if_neg Bool.false_ne_true]
      refine ⟨hcall, ?_⟩
      rw [htether.bounds]
      exact (and_iff_left (hasRoom_of_not fun g => by rw [htethers, hb]; rfl)).symm
  · have hadds : ∀ g, ((WanRouteEvt.upstreamRouteAdd data).adds g && w.accepts g) = false := fun g => by
      cases hg : (WanRouteEvt.upstreamRouteAdd data).adds g with
      | false => rfl
      | true => rw [hno g (eq_of_beq hg), Bool.and_false]
    rw [he]
    refine ⟨(Called.refl w s).of_eq fun g => by rw [htakes, hadds, Bool.and_false], ?_⟩
    exact (and_iff_left (hasRoom_of_not fun g => by rw [tethers_eq hown, hadds, Bool.and_false])).symm

theorem takes_route {data : RouteAddr} (hown : data.ipaIfIndex = some w.ipaIfNum) :
    w.takes (.routeAdd data) .v4 = (w.canRoute && !w.activeV4 && (data.isDefault .v4 && w.accepts .v4)) ∧
      w.takes (.routeAdd data) .v6 = (w.canRoute && !w.activeV6 && (data.isDefault .v6 && w.accepts .v6 ||
        (data.isDefault .v4 && w.accepts .v4 && !w.activeV4 && w.isXlat && !w.isSta))) := by
  have hi : (WanRouteEvt.routeAdd data).ipaIfIndex = some w.ipaIfNum := hown
  unfold takes
  rw [hi, beq_self_eq_true, Bool.true_and]
  exact ⟨by rw [Bool.or_false]; rfl, rfl⟩

theorem routeAdd_called (hw : w.Settled) {data : RouteAddr} (hk : w.HeaderKnown b (.routeAdd data))
    (hown : data.ipaIfIndex = some w.ipaIfNum) :
    Called w s (w.takes (.routeAdd data)) (eventCallback b (.routeAdd data) w s) ∧
      (eventCallback b (.routeAdd data) w s).2.outOfBounds = s.outOfBounds := by
  obtain ⟨ht4, ht6⟩ := takes_route hown
  have hnot46 : data.isDefault .v4 = true → data.isDefault .v6 = false := fun h =>
    adds_one (e := .routeAdd data) (f := .v4) (g := .v6) h nofun
  rcases routeAdd_own (b := b) (s := s) hw hown with ⟨hd, ha, hn, he⟩ | ⟨hd, ha, he⟩ | ⟨hno, he⟩
  · have hh : w.isSta = true → (w.atRoute b .v4 (.routeAdd data)).headerSet .v4 = true := fun hs => hk hs hown .v4 hd
    obtain ⟨hcall, htether⟩ := ownRoute_called (s := s) hh
    have hs6 := ownRoute_stays (s := s) (g := .v6) hh nofun
    rw [hn, hd, ha, Bool.and_self, Bool.not_false, Bool.and_true, Bool.and_true] at ht4
    rw [hn, hnot46 hd, hd, ha, Bool.false_and, Bool.false_or, Bool.and_self, Bool.true_and, Bool.not_false, Bool.true_and] at ht6
    rw [he]
    generalize hp : ownRoute b .v4 (.routeAdd data) w s = p at hcall htether hs6
    have h6 : p.1.activeV6 = w.activeV6 := hs6.holds
    have hq6 : p.1.mIsStaMode = .q6Wan ↔ w.isSta = false := by
      rw [← hcall.like.sta, isSta, bne_eq_false_iff_eq]
    split
    next hx =>
      -- XLAT: the IPv6 route goes up behind that of IPv4
      have hsta : p.1.isSta = false := hcall.like.sta.trans (hq6.1 hx.2.1)
      have hhead : p.1.isSta = true → p.1.headerSet .v6 = true := fun h => Bool.noConfusion (hsta.symm.trans h)
      rw [← hcall.like.xlat, hx.1, hq6.1 hx.2.1, ← h6, hx.2.2, Bool.not_false, Bool.and_true, Bool.and_self, Bool.and_true] at ht6
      have hs4 : (announcing .v4).Stays p.1 p.2 (handleRouteAddEvt .v6 p) :=
        handleRouteAddEvt_stays (f := .v6) (g := .v4) hhead (.inr nofun) p.2
      refine ⟨⟨hcall.like.trans (handleRouteAddEvt_like (f := .v6) hhead p.2), fun g hg => ?_, fun g hg => ?_⟩,
        (handleRouteAddEvt_tether (f := .v6) hhead p.2).bounds.trans htether.bounds⟩
      · cases g with
        | v4 =>
          obtain ⟨hc, ht⟩ := hcall.takes .v4 (by simp [active, hn, ht4.symm.trans hg])
          exact ⟨hc, ht.stays hs4⟩
        | v6 =>
          have hc : w.canRoute = true := ht6.symm.trans hg
          exact ⟨hc, hs6.takes (handleRouteAddEvt_takes (f := .v6) hhead (hcall.like.canRoute.trans hc) p.2)⟩
      · cases g with
        | v4 =>
          have hc : w.canRoute = false := ht4.symm.trans hg
          rcases hcall.keeps .v4 (by rw [hc]; rfl) with hs | hl
          · exact .inl (hs.trans hs4)
          · exact .inr (hl.stays hs4)
        | v6 =>
          have hc : w.canRoute = false := ht6.symm.trans hg
          exact .inl (hs6.trans (handleRouteAddEvt_stays (f := .v6) hhead (.inl (hcall.like.canRoute.trans hc)) p.2))
    next hx =>
      have hnx : w.takes (.routeAdd data) .v6 = false := Bool.eq_false_iff.2 fun ht => by
        rw [ht6] at ht
        simp only [Bool.and_eq_true, Bool.not_eq_true'] at ht
        exact hx ⟨hcall.like.xlat.trans ht.2.1, hq6.2 ht.2.2, h6.trans ht.1.2⟩
      refine ⟨hcall.of_eq fun g => ?_, htether.bounds⟩
      cases g with
      | v4 => rw [ht4, active, hn, Bool.not_false, Bool.and_true, beq_self_eq_true, Bool.true_and]
      | v6 => exact hnx
  · have hh : w.isSta = true → (w.atRoute b .v6 (.routeAdd data)).headerSet .v6 = true := fun hs => hk hs hown .v6 hd
    obtain ⟨hcall, htether⟩ := ownRoute_called (s := s) hh
    have hd4 : data.isDefault .v4 = false := adds_one (e := .routeAdd data) (f := .v6) (g := .v4) hd nofun
    rw [he]
    refine ⟨hcall.of_eq fun g => ?_, htether.bounds⟩
    cases g with
    | v4 =>
      rw [ht4, hd4, Bool.false_and, Bool.and_false]
      rfl
    | v6 =>
      rw [ht6, hd, ha, Bool.and_self, Bool.true_or, Bool.and_true, beq_self_eq_true, Bool.true_and]
      rfl
  · have hno4 : (!w.activeV4 && (data.isDefault .v4 && w.accepts .v4)) = false := Bool.eq_false_iff.2 fun h => by
      simp only [Bool.and_eq_true, Bool.not_eq_true'] at h
      exact Bool.noConfusion ((hno .v4 h.2.1 h.2.2).symm.trans h.1)
    have hno6 : (!w.activeV6 && (data.isDefault .v6 && w.accepts .v6)) = false := Bool.eq_false_iff.2 fun h => by
      simp only [Bool.and_eq_true, Bool.not_eq_true'] at h
      exact Bool.noConfusion ((hno .v6 h.2.1 h.2.2).symm.trans h.1)
    rw [he]
    refine ⟨(Called.refl w s).of_eq fun g => ?_, rfl⟩
    cases g with
    | v4 => rw [ht4, Bool.and_assoc, hno4, Bool.and_false]
    | v6 =>
      refine ht6.trans (Bool.eq_false_iff.2 fun h => ?_)
      simp only [Bool.and_eq_true, Bool.or_eq_true, Bool.not_eq_true'] at h
      rcases h.2 with h6 | h4
      · exact Bool.noConfusion ((hno .v6 h6.1 h6.2).symm.trans h.1.2)
      · exact Bool.noConfusion ((hno .v4 h4.1.1.1.1 h4.1.1.1.2).symm.trans h4.1.1.2)

/-- **An own event**: the instance takes the route if `takes` says so, and the tether array holds if it has room. -/
theorem eventCallback_own (hw : w.Settled) (hk : w.HeaderKnown b e) (hown : e.ipaIfIndex = some w.ipaIfNum) :
    Called w s (w.takes e) (eventCallback b e w s) ∧
      ((eventCallback b e w s).2.outOfBounds = false ↔ s.outOfBounds = false ∧ HasRoom b w s e) := by
  cases e with
  | upstreamRouteAdd data => exact upstreamRouteAdd_called hw hk hown
  | routeAdd data =>
    obtain ⟨hcall, hb⟩ := routeAdd_called (s := s) hw hk hown
    exact ⟨hcall, by rw [hb]; exact (and_iff_left (hasRoom_of_not fun g => rfl)).symm⟩
  | upstreamRouteDel data =>
    obtain ⟨hcall, hb⟩ := routeDel_called (b := b) (s := s) hw (.inl ⟨data, rfl⟩)
    exact ⟨hcall.of_eq fun g => (takes_eq hown nofun g).trans (Bool.and_false _),
      by rw [hb]; exact (and_iff_left (hasRoom_of_not fun g => rfl)).symm⟩
  | routeDel data =>
    obtain ⟨hcall, hb⟩ := routeDel_called (b := b) (s := s) hw (.inr ⟨data, rfl⟩)
    exact ⟨hcall.of_eq fun g => (takes_eq hown nofun g).trans (Bool.and_false _),
      by rw [hb]; exact (and_iff_left (hasRoom_of_not fun g => rfl)).symm⟩

end Wan

end HiaeCommon
