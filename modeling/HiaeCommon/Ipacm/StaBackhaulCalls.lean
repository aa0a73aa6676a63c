/-
What a backhaul in STA mode makes of its events: how each handler changes what
there is of the default route of a family, the rules, the firewall and the
messages, and what of the rest it leaves alone.
-/
import HiaeCommon.Ipacm.StaHeader

namespace HiaeCommon

/-- What there is of the default route of a family: the mark, the rules, how often its firewall was configured, and what
has been posted of it. -/
structure DftRoute where
  active : Bool
  rules : List DftRtRule
  firewall : Nat
  told : List (Option Gateway)

namespace DftRoute

/-- Nothing has happened. -/
def none : DftRoute := ⟨false, [], 0, []⟩

/-- The route is taken, with these rules and for this gateway. -/
def taken (r : DftRoute) (rules : List DftRtRule) (gw : Gateway) : DftRoute :=
  ⟨true, r.rules ++ rules, r.firewall + 1, r.told ++ [some gw]⟩

end DftRoute

namespace StaBackhaul

def dftRoute (s : StaBackhaul) (g : IpFamily) : DftRoute where
  active := s.wan.active g
  rules := s.rules.filter fun r => r.tbl.family = g
  firewall := s.firewall.count g
  told := s.sh.posted.filterMap (WanPosted.tells g)

/-- The default route of a family with everything installed once. -/
def installed (s : StaBackhaul) (g : IpFamily) : DftRoute := DftRoute.none.taken (s.dftRules g) (s.wan.gateway g)

variable {b : WanBuild} {s t : StaBackhaul} {f g : IpFamily}

/-! ## What the handlers do -/

/-- What they leave alone. -/
structure Alike (s t : StaBackhaul) : Prop where
  sta : t.wan.isSta = s.wan.isSta
  txProp : t.wan.txProp = s.wan.txProp
  txProps : t.txProps = s.txProps
  mcc : t.isMccMode = s.isMccMode
  gateway : ∀ g, t.wan.gateway g = s.wan.gateway g
  gatewaySet : ∀ g, t.wan.gatewaySet g = s.wan.gatewaySet g
  gatewayClient : ∀ g, t.wan.gatewayClient g = s.wan.gatewayClient g
  clients : t.wan.wanClient = s.wan.wanClient

namespace Alike

theorem refl (s : StaBackhaul) : Alike s s := ⟨rfl, rfl, rfl, rfl, fun _ => rfl, fun _ => rfl, fun _ => rfl, rfl⟩

theorem trans {u : StaBackhaul} (h : Alike s t) (h' : Alike t u) : Alike s u where
  sta := h'.sta.trans h.sta
  txProp := h'.txProp.trans h.txProp
  txProps := h'.txProps.trans h.txProps
  mcc := h'.mcc.trans h.mcc
  gateway g := (h'.gateway g).trans (h.gateway g)
  gatewaySet g := (h'.gatewaySet g).trans (h.gatewaySet g)
  gatewayClient g := (h'.gatewayClient g).trans (h.gatewayClient g)
  clients := h'.clients.trans h.clients

theorem gatewayHas (h : Alike s t) (g f : IpFamily) : t.wan.gatewayHas g f = s.wan.gatewayHas g f := by
  unfold Wan.gatewayHas
  rw [h.gatewaySet, h.gatewayClient, h.clients]

theorem hasTx (h : Alike s t) (g : IpFamily) : t.hasTx g = s.hasTx g := by
  unfold StaBackhaul.hasTx
  rw [h.txProps]

end Alike

/-- With the same header the rules are the same. -/
theorem Alike.dftRules (h : Alike s t) (hs : s.hdrHdlSta g = t.hdrHdlSta g) : t.dftRules g = s.dftRules g := by
  have hpipe : t.dstPipe = s.dstPipe := by
    unfold StaBackhaul.dstPipe
    rw [h.mcc]
  unfold StaBackhaul.dftRules
  rw [h.txProps, hpipe, hs]

/-- The rules of a family are all in tables of its own. -/
theorem dftRules_family (s : StaBackhaul) (f g : IpFamily) :
    (s.dftRules f).filter (fun r => r.tbl.family = g) = if f = g then s.dftRules f else [] := by
  have hall : ∀ r ∈ s.dftRules f, r.tbl.family = f := by
    intro r hr
    cases f
    all_goals
      unfold dftRules at hr
      simp only [List.mem_append, List.mem_map, List.not_mem_nil, List.mem_singleton, or_false] at hr
    · obtain ⟨_, -, rfl⟩ := hr
      rfl
    · obtain ⟨_, -, rfl⟩ | rfl := hr <;> rfl
  split
  next h => exact List.filter_eq_self.2 fun r hr => decide_eq_true ((hall r hr).trans h)
  next h => exact List.filter_eq_nil_iff.2 fun r hr hg => h ((hall r hr).symm.trans (of_decide_eq_true hg))

theorem handleRouteAddEvt_noTx (htx : s.wan.txProp = false) : s.handleRouteAddEvt f = s := by
  unfold handleRouteAddEvt
  rw [if_pos (.inl htx)]
  unfold Wan.handleRouteAddEvt
  dsimp only
  rw [if_pos htx]

/-- What an instance and the others share of a route that is not up yet. -/
def flagged (s : StaBackhaul) : Wan × WanShared :=
  ({ s.wan with isDefaultGateway := true }, { s.sh with backhaulIsWanBridge := s.wan.ifModeBridge, backhaulIsStaMode := true })

theorem handleRouteAddEvt_noHeader (hsta : s.wan.isSta = true) (htx : s.wan.txProp = true) (hh : s.wan.headerSet f = false) :
    s.handleRouteAddEvt f = { s with wan := s.flagged.1.waiting f, sh := s.flagged.2 } := by
  unfold handleRouteAddEvt
  rw [if_pos (.inr hh), Wan.handleRouteAddEvt_station hsta htx, hh, if_neg Bool.false_ne_true]
  rfl

theorem handleRouteAddEvt_up (hsta : s.wan.isSta = true) (htx : s.wan.txProp = true) (hh : s.wan.headerSet f = true) :
    s.handleRouteAddEvt f =
      { s with
        wan := (Wan.defaultRouteUp f.iptype s.flagged).1, sh := (Wan.defaultRouteUp f.iptype s.flagged).2
        rules := s.rules ++ s.dftRules f, firewall := s.firewall ++ [f] } := by
  unfold handleRouteAddEvt
  rw [if_neg, Wan.handleRouteAddEvt_station hsta htx, hh, if_pos rfl]
  · rfl
  · rw [htx, hh]
    decide

/-- The header of the router is left alone as well. -/
structure Kept (s t : StaBackhaul) : Prop extends Alike s t where
  headerSet : ∀ g, t.wan.headerSet g = s.wan.headerSet g
  hdrHdlSta : ∀ g, t.hdrHdlSta g = s.hdrHdlSta g

theorem handleRouteAddEvt_kept (hsta : s.wan.isSta = true) (f : IpFamily) : Kept s (s.handleRouteAddEvt f) := by
  cases htx : s.wan.txProp with
  | false =>
    rw [handleRouteAddEvt_noTx htx]
    exact ⟨.refl s, fun _ => rfl, fun _ => rfl⟩
  | true =>
    cases hh : s.wan.headerSet f with
    | false =>
      rw [handleRouteAddEvt_noHeader hsta htx hh]
      cases f
      all_goals exact ⟨⟨rfl, rfl, rfl, rfl, fun g => by cases g <;> rfl, fun g => by cases g <;> rfl,
        fun g => by cases g <;> rfl, rfl⟩, fun g => by cases g <;> rfl, fun g => by cases g <;> rfl⟩
    | true =>
      rw [handleRouteAddEvt_up hsta htx hh]
      cases f
      all_goals exact ⟨⟨rfl, rfl, rfl, rfl, fun g => by cases g <;> rfl, fun g => by cases g <;> rfl,
        fun g => by cases g <;> rfl, rfl⟩, fun g => by cases g <;> rfl, fun g => by cases g <;> rfl⟩

/-- What goes up is the route of the family, and of no other. -/
theorem routeUp_dftRoute (s : StaBackhaul) (f g : IpFamily) :
    { s with
      wan := (Wan.defaultRouteUp f.iptype s.flagged).1, sh := (Wan.defaultRouteUp f.iptype s.flagged).2
      rules := s.rules ++ s.dftRules f, firewall := s.firewall ++ [f] : StaBackhaul }.dftRoute g =
      if f = g then (s.dftRoute g).taken (s.dftRules g) (s.wan.gateway g) else s.dftRoute g := by
  have hrules : (s.rules ++ s.dftRules f).filter (fun r => r.tbl.family = g) =
      s.rules.filter (fun r => r.tbl.family = g) ++ if f = g then s.dftRules f else [] := by
    rw [List.filter_append, dftRules_family]
  have htold : (Wan.defaultRouteUp f.iptype s.flagged).2.posted.filterMap (WanPosted.tells g) =
      s.sh.posted.filterMap (WanPosted.tells g) ++ if f = g then [some (s.wan.gateway g)] else [] := by
    cases f <;> cases g <;> exact List.filterMap_append
  unfold dftRoute
  dsimp only
  rw [hrules, htold, List.count_append]
  split
  next h =>
    subst h
    rw [List.count_singleton_self]
    cases f <;> rfl
  next h =>
    rw [List.count_singleton, if_neg (by simpa using h), List.append_nil, List.append_nil]
    cases f <;> cases g <;> first | exact absurd rfl h | rfl

theorem handleRouteAddEvt_dftRoute (hsta : s.wan.isSta = true) (f g : IpFamily) :
    (s.handleRouteAddEvt f).dftRoute g =
      if f = g ∧ s.wan.txProp = true ∧ s.wan.headerSet g = true then (s.dftRoute g).taken (s.dftRules g) (s.wan.gateway g)
      else s.dftRoute g := by
  cases htx : s.wan.txProp with
  | false => rw [handleRouteAddEvt_noTx htx, if_neg fun h => Bool.noConfusion h.2.1]
  | true =>
    cases hh : s.wan.headerSet f with
    | false =>
      rw [handleRouteAddEvt_noHeader hsta htx hh, if_neg]
      · cases f <;> cases g <;> rfl
      · rintro ⟨rfl, -, hset⟩
        exact Bool.noConfusion (hh.symm.trans hset)
    | true =>
      rw [handleRouteAddEvt_up hsta htx hh, routeUp_dftRoute]
      by_cases hfg : f = g
      · subst hfg
        rw [if_pos rfl, if_pos ⟨rfl, rfl, hh⟩]
      · rw [if_neg hfg, if_neg fun h => hfg h.1]

theorem handleRouteAddEvt_waits (hsta : s.wan.isSta = true) (f g : IpFamily) :
    (s.handleRouteAddEvt f).wan.waits g = (s.wan.waits g || decide (f = g) && s.wan.txProp && !s.wan.headerSet g) := by
  cases htx : s.wan.txProp with
  | false => rw [handleRouteAddEvt_noTx htx, Bool.and_false, Bool.false_and, Bool.or_false]
  | true =>
    cases hh : s.wan.headerSet f with
    | false =>
      rw [handleRouteAddEvt_noHeader hsta htx hh, Bool.and_true]
      cases f <;> cases g <;> simp [Wan.waits, Wan.waiting, flagged, hh]
    | true =>
      rw [handleRouteAddEvt_up hsta htx hh, Bool.and_true]
      cases f <;> cases g <;> simp [Wan.waits, Wan.defaultRouteUp, flagged, hh, IpFamily.iptype]

/-! ## The header check -/

/-- A route that waits is looked at again. -/
def pendingRoute (s : StaBackhaul) (f : IpFamily) : StaBackhaul := if s.wan.waits f then s.handleRouteAddEvt f else s

theorem pendingRoutes_eq (s : StaBackhaul) : s.pendingRoutes = (s.pendingRoute .v4).pendingRoute .v6 := rfl

theorem Kept.refl (s : StaBackhaul) : Kept s s := ⟨.refl s, fun _ => rfl, fun _ => rfl⟩

theorem Kept.trans {u : StaBackhaul} (h : Kept s t) (h' : Kept t u) : Kept s u :=
  ⟨h.toAlike.trans h'.toAlike, fun g => (h'.headerSet g).trans (h.headerSet g), fun g => (h'.hdrHdlSta g).trans (h.hdrHdlSta g)⟩

theorem Kept.dftRules (h : Kept s t) (g : IpFamily) : t.dftRules g = s.dftRules g := h.toAlike.dftRules (h.hdrHdlSta g).symm

theorem Kept.noHeader (h : Kept s t) : t.wan.noHeader = s.wan.noHeader := by
  have h4 : t.wan.headerSetV4 = s.wan.headerSetV4 := h.headerSet .v4
  have h6 : t.wan.headerSetV6 = s.wan.headerSetV6 := h.headerSet .v6
  unfold Wan.noHeader
  rw [h4, h6]

theorem Kept.installed (h : Kept s t) (g : IpFamily) : t.installed g = s.installed g := by
  unfold StaBackhaul.installed
  rw [h.dftRules, h.gateway]

theorem noHeader_false (h : s.wan.headerSet g = true) : s.wan.noHeader = false :=
  Bool.eq_false_iff.2 fun hno => Bool.noConfusion ((Wan.noHeader_iff.1 hno g).symm.trans h)

theorem pendingRoute_kept (hsta : s.wan.isSta = true) (f : IpFamily) : Kept s (s.pendingRoute f) := by
  unfold pendingRoute
  split
  · exact handleRouteAddEvt_kept hsta f
  · exact .refl s

theorem pendingRoute_waits (hsta : s.wan.isSta = true) (f g : IpFamily) : (s.pendingRoute f).wan.waits g = s.wan.waits g := by
  unfold pendingRoute
  split
  next h =>
    rw [handleRouteAddEvt_waits hsta]
    by_cases hfg : f = g
    · rw [← hfg, h, Bool.true_or]
    · rw [decide_eq_false hfg, Bool.false_and, Bool.false_and, Bool.or_false]
  next => rfl

theorem pendingRoute_dftRoute (hsta : s.wan.isSta = true) (f g : IpFamily) :
    (s.pendingRoute f).dftRoute g =
      if f = g ∧ s.wan.waits g = true ∧ s.wan.txProp = true ∧ s.wan.headerSet g = true then
        (s.dftRoute g).taken (s.dftRules g) (s.wan.gateway g)
      else s.dftRoute g := by
  unfold pendingRoute
  split
  next h =>
    rw [handleRouteAddEvt_dftRoute hsta]
    by_cases hfg : f = g
    · subst hfg
      rw [h]
      simp only [true_and]
    · rw [if_neg fun h => hfg h.1, if_neg fun h => hfg h.1]
  next h =>
    rw [if_neg]
    rintro ⟨rfl, hw, -⟩
    exact h hw

theorem pendingRoutes_kept (hsta : s.wan.isSta = true) : Kept s s.pendingRoutes := by
  have h4 := pendingRoute_kept hsta .v4
  rw [pendingRoutes_eq]
  exact h4.trans (pendingRoute_kept (h4.sta.trans hsta) .v6)

theorem pendingRoutes_waits (hsta : s.wan.isSta = true) (g : IpFamily) : s.pendingRoutes.wan.waits g = s.wan.waits g := by
  rw [pendingRoutes_eq, pendingRoute_waits ((pendingRoute_kept hsta .v4).sta.trans hsta), pendingRoute_waits hsta]

/-- Each route that waits goes up where its header is there. -/
theorem pendingRoutes_dftRoute (hsta : s.wan.isSta = true) (g : IpFamily) :
    s.pendingRoutes.dftRoute g =
      if s.wan.waits g = true ∧ s.wan.txProp = true ∧ s.wan.headerSet g = true then
        (s.dftRoute g).taken (s.dftRules g) (s.wan.gateway g)
      else s.dftRoute g := by
  have h4 := pendingRoute_kept hsta .v4
  rw [pendingRoutes_eq, pendingRoute_dftRoute (h4.sta.trans hsta), pendingRoute_dftRoute hsta, pendingRoute_waits hsta,
    h4.txProp, h4.headerSet, h4.dftRules, h4.gateway]
  cases g <;> simp

/-- All there is to find: the client of every gateway that is known, with the headers of both families. -/
def Complete (s : StaBackhaul) : Prop :=
  (∀ g, s.hasTx g = true) ∧ ∀ g, s.wan.gatewaySet g = true → s.wan.gatewayHas g g = true

/-- Nothing of any route is changed. -/
structure Still (s t : StaBackhaul) : Prop extends Kept s t where
  waits : ∀ g, t.wan.waits g = s.wan.waits g
  dftRoute : ∀ g, t.dftRoute g = s.dftRoute g

theorem Still.refl (s : StaBackhaul) : Still s s := ⟨.refl s, fun _ => rfl, fun _ => rfl⟩

/-- What `handle_sta_header_add_evt` does: nothing where there is a header or none is found, or it sets the headers and,
where all there is to find was found, takes the routes that wait. -/
inductive HeaderAdd (s : StaBackhaul) : StaBackhaul → Prop
  | done (h : s.wan.noHeader = false) : HeaderAdd s s
  | nothing (t : StaBackhaul) (hstill : Still s t) (hno : s.wan.noHeader = true) (h4 : s.wan.gatewayHas .v4 .v4 = false)
      (h6 : s.wan.gatewaySet .v4 = false → s.wan.gatewayHas .v6 .v6 = false) : HeaderAdd s t
  | found (t : StaBackhaul) (f : IpFamily) (halike : Alike s t) (hwaits : ∀ g, t.wan.waits g = s.wan.waits g)
      (hno : s.wan.noHeader = true) (hf : s.wan.gatewayHas f f = true) (hfirst : f = .v6 → s.wan.gatewaySet .v4 = false)
      (hset : ∀ g, t.wan.headerSet g = s.hasTx g)
      (htaken : s.Complete → ∀ g, t.dftRoute g =
        if s.wan.waits g then (s.dftRoute g).taken (t.dftRules g) (s.wan.gateway g) else s.dftRoute g)
      (hleft : ¬ s.Complete → ∀ g, t.dftRoute g = s.dftRoute g) : HeaderAdd s t

theorem headerAdd_cases (hsta : s.wan.isSta = true) (htx : ∀ g, s.hasTx g = true → s.wan.txProp = true)
    (hu : Wan.Uniform s.hasTx s.wan) : HeaderAdd s s.handleStaHeaderAddEvt := by
  unfold handleStaHeaderAddEvt
  dsimp only
  cases hno : s.wan.noHeader with
  | false =>
    rw [Wan.staHeader_done hno, if_neg Bool.false_ne_true]
    exact .done hno
  | true =>
    obtain ⟨h4, h6, s4, s6, mac, hw⟩ := s.wan.staHeader_eq
    have hcheck := Wan.staHeader_checked hu hno
    generalize s.wan.staHeader = p at hw hcheck
    cases hcheck with
    | nothing ok hok h4 h6 =>
      have hnone := Wan.noHeader_iff.1 hno
      split
      next =>
        refine .nothing _ ⟨pendingRoutes_kept hsta, pendingRoutes_waits hsta, fun g => ?_⟩ hno h4 h6
        exact (pendingRoutes_dftRoute hsta g).trans (if_neg fun h => Bool.noConfusion ((hnone g).symm.trans h.2.2))
      next => exact .nothing _ (.refl s) hno h4 h6
    | found f p hf hfirst hset hok =>
      have halike : Alike s { s with wan := p.1 } := by
        rw [hw]
        exact ⟨rfl, rfl, rfl, rfl, fun g => by cases g <;> rfl, fun g => by cases g <;> rfl, fun g => by cases g <;> rfl, rfl⟩
      have hwaits : ∀ g, p.1.waits g = s.wan.waits g := fun g => by rw [hw]; cases g <;> rfl
      have hroute : ∀ g, { s with wan := p.1 : StaBackhaul }.dftRoute g = s.dftRoute g := fun g => by rw [hw]; cases g <;> rfl
      have hsta' : { s with wan := p.1 : StaBackhaul }.wan.isSta = true := halike.sta.trans hsta
      split
      next hp =>
        have hcomplete : s.Complete := hok.1 hp
        have hkept := pendingRoutes_kept hsta'
        refine .found _ f (halike.trans hkept.toAlike) (fun g => (pendingRoutes_waits hsta' g).trans (hwaits g)) hno hf hfirst
          (fun g => (hkept.headerSet g).trans (hset g)) (fun _ g => ?_) fun hn => absurd hcomplete hn
        rw [pendingRoutes_dftRoute hsta', hroute, halike.txProp, hkept.dftRules, halike.gateway]
        have hheader : p.1.headerSet g = true := (hset g).trans (hcomplete.1 g)
        have hprop : s.wan.txProp = true := htx g (hcomplete.1 g)
        dsimp only
        rw [hheader, hprop, hwaits]
        simp
      next hp =>
        exact .found _ f halike hwaits hno hf hfirst hset (fun hc => absurd (hok.2 hc) hp) fun _ => hroute

/-! ## A neighbour -/

theorem handleWanHdrInit_headers (ht : s.wan.wanClient.HeadersOf s.hasTx) (mac : MacAddr) (hdlV4 hdlV6 : Nat) :
    (s.handleWanHdrInit mac hdlV4 hdlV6).HeadersOf s.hasTx := by
  have hnew : ∀ g, (s.wan.wanClient.slot s.wan.wanClient.num).hasHeader g = false := fun g => by
    rw [ht, decide_eq_false (Nat.lt_irrefl _), Bool.false_and]
  unfold handleWanHdrInit
  dsimp only
  split
  · exact ht
  · split
    · exact ht
    · split
      · exact ht.set fun g => by cases g <;> rfl
      · refine ht.push fun g => ?_
        have h4 := hnew .v4
        have h6 := hnew .v6
        cases hx4 : s.hasTx .v4 <;> cases hx6 : s.hasTx .v6 <;> cases g <;> simp [Client.hasHeader, hx4, hx6] at h4 h6 ⊢ <;>
          assumption

theorem handleWanHdrInit_gatewayHas (s : StaBackhaul) (mac : MacAddr) (hdlV4 hdlV6 : Nat) (g f : IpFamily) :
    (s.withClients (s.handleWanHdrInit mac hdlV4 hdlV6)).wan.gatewayHas g f = s.wan.gatewayHas g f := by
  have hset : ∀ c, ∀ i < s.wan.wanClient.num, (s.wan.wanClient.set s.wan.wanClient.num c).slot i = s.wan.wanClient.slot i :=
    fun c i hi => if_neg (Nat.ne_of_lt hi)
  unfold handleWanHdrInit withClients
  dsimp only
  split
  · rfl
  · split
    · rfl
    · split
      · exact Wan.gatewayHas_clients (hset _) (.inl rfl) g f
      · refine Wan.gatewayHas_clients ?_ (.inr ⟨?_, fun g => ?_⟩) g f
        · exact hset _
        · rfl
        · show Client.isGateway (if s.wan.wanClient.num = s.wan.wanClient.num then _ else _) _ g = false
          rw [if_pos rfl]
          cases g <;> rfl

end StaBackhaul

theorem handleWanClientIpaddr_headers {h : IpFamily → Bool} {t : ClientTable Unit} (ht : t.HeadersOf h) (data : EventDataAll) :
    (handleWanClientIpaddr data t).2.HeadersOf h := by
  unfold handleWanClientIpaddr
  split
  · exact ht
  · dsimp only
    split_ifs
    all_goals first
      | exact ht
      | exact ht.set fun g => by cases g <;> rfl

/-- The clients are left as they are where an address is not taken. -/
theorem handleWanClientIpaddr_refused {t : ClientTable Unit} {data : EventDataAll} :
    (handleWanClientIpaddr data t).1 = false → (handleWanClientIpaddr data t).2 = t := by
  unfold handleWanClientIpaddr
  split
  · exact fun _ => rfl
  · dsimp only
    split_ifs
    all_goals first
      | exact fun _ => rfl
      | exact False.elim

namespace StaBackhaul

variable {b : WanBuild} {s t : StaBackhaul} {f g : IpFamily}

theorem neighClients_headers (ht : s.wan.wanClient.HeadersOf s.hasTx) (data : EventDataAll) (hdlV4 hdlV6 : Nat) :
    (s.neighClients data hdlV4 hdlV6).2.HeadersOf s.hasTx := by
  unfold neighClients
  split_ifs
  · exact ht
  · exact ht
  · exact handleWanClientIpaddr_headers (handleWanHdrInit_headers ht _ _ _) data

theorem neighClients_refused {data : EventDataAll} {hdlV4 hdlV6 : Nat} (h : (s.neighClients data hdlV4 hdlV6).1 = false)
    (g f : IpFamily) : (s.withClients (s.neighClients data hdlV4 hdlV6).2).wan.gatewayHas g f = s.wan.gatewayHas g f := by
  unfold neighClients at h ⊢
  split_ifs at h ⊢
  · rfl
  · rfl
  · rw [handleWanClientIpaddr_refused h]
    exact handleWanHdrInit_gatewayHas s _ _ _ g f

/-- The instance after a neighbour's event: nothing is new of a gateway, or the headers are looked for. -/
theorem neigh_cases (s : StaBackhaul) (data : EventDataAll) (hdlV4 hdlV6 : Nat) :
    (s.neighClientIpAddrAdd data hdlV4 hdlV6 = s.withClients (s.neighClients data hdlV4 hdlV6).2 ∧
      ∀ g f, (s.withClients (s.neighClients data hdlV4 hdlV6).2).wan.gatewayHas g f = s.wan.gatewayHas g f) ∨
    s.neighClientIpAddrAdd data hdlV4 hdlV6 = (s.withClients (s.neighClients data hdlV4 hdlV6).2).handleStaHeaderAddEvt := by
  unfold neighClientIpAddrAdd
  cases hp : (s.neighClients data hdlV4 hdlV6).1 with
  | false => exact .inl ⟨by dsimp only; rw [hp, if_neg Bool.false_ne_true], neighClients_refused hp⟩
  | true => exact .inr (by dsimp only; rw [hp, if_pos rfl])

section

variable (s : StaBackhaul) (c : ClientTable Unit) (g : IpFamily)

@[simp] theorem withClients_txProp : (s.withClients c).wan.txProp = s.wan.txProp := rfl

@[simp] theorem withClients_hasTx : (s.withClients c).hasTx g = s.hasTx g := rfl

@[simp] theorem withClients_gatewaySet : (s.withClients c).wan.gatewaySet g = s.wan.gatewaySet g := by cases g <;> rfl

@[simp] theorem withClients_waits : (s.withClients c).wan.waits g = s.wan.waits g := by cases g <;> rfl

@[simp] theorem withClients_headerSet : (s.withClients c).wan.headerSet g = s.wan.headerSet g := by cases g <;> rfl

@[simp] theorem withClients_active : (s.withClients c).wan.active g = s.wan.active g := by cases g <;> rfl

@[simp] theorem withClients_dftRoute : (s.withClients c).dftRoute g = s.dftRoute g := by cases g <;> rfl

@[simp] theorem withClients_installed : (s.withClients c).installed g = s.installed g := by cases g <;> rfl

end

/-! ## A route -/

section

variable (s : StaBackhaul) (data : UpstreamRoute) (f g : IpFamily)

@[simp] theorem noteGateway_txProp : (s.noteGateway g data).wan.txProp = s.wan.txProp := by cases g <;> rfl

@[simp] theorem noteGateway_hasTx : (s.noteGateway g data).hasTx f = s.hasTx f := by cases g <;> rfl

@[simp] theorem noteGateway_gatewaySet :
    (s.noteGateway g data).wan.gatewaySet f = (decide (g = f) || s.wan.gatewaySet f) := by cases g <;> cases f <;> rfl

@[simp] theorem noteGateway_waits : (s.noteGateway g data).wan.waits f = s.wan.waits f := by cases g <;> cases f <;> rfl

@[simp] theorem noteGateway_headerSet : (s.noteGateway g data).wan.headerSet f = s.wan.headerSet f := by cases g <;> cases f <;> rfl

@[simp] theorem noteGateway_noHeader : (s.noteGateway g data).wan.noHeader = s.wan.noHeader := by cases g <;> rfl

@[simp] theorem noteGateway_active : (s.noteGateway g data).wan.active f = s.wan.active f := by cases g <;> cases f <;> rfl

@[simp] theorem noteGateway_dftRoute : (s.noteGateway g data).dftRoute f = s.dftRoute f := by cases g <;> cases f <;> rfl

@[simp] theorem noteGateway_installed : (s.noteGateway g data).installed f = s.installed f := by cases g <;> cases f <;> rfl

end

theorem noteGateway_gatewayHas (hfg : g ≠ f) (data : UpstreamRoute) :
    (s.noteGateway g data).wan.gatewayHas f f = s.wan.gatewayHas f f := by
  cases g <;> cases f <;> first | exact absurd rfl hfg | rfl

/-- The default route of an upstream event. -/
def defaultRoute (s : StaBackhaul) (b : WanBuild) (g : IpFamily) (data : UpstreamRoute) : StaBackhaul :=
  if s.wan.active g = false then
    (if b.wanMsgAddrGw then (s.noteGateway g data).handleStaHeaderAddEvt else s).handleRouteAddEvt g
  else s

/-- What the tethered interface is told of leaves the routes as they are. -/
theorem ownRoute_still (s : StaBackhaul) (b : WanBuild) (g : IpFamily) (data : UpstreamRoute) :
    Still (s.defaultRoute b g data) (s.ownRoute b g data) := by
  have hown : s.ownRoute b g data =
      if b.featureIpaAndroid then { s.defaultRoute b g data with
        sh := (Wan.postWanUpTetherEvt g.iptype data.ipaIfIndexTether ((s.defaultRoute b g data).wan, (s.defaultRoute b g data).sh)).2 }
      else s.defaultRoute b g data := rfl
  rw [hown]
  generalize s.defaultRoute b g data = t
  split
  · obtain ⟨t4, t6, m, hm, he⟩ := Wan.postWanUpTetherEvt_eq g data.ipaIfIndexTether t.wan t.sh
    rw [he]
    refine ⟨⟨⟨rfl, rfl, rfl, rfl, fun _ => rfl, fun _ => rfl, fun _ => rfl, rfl⟩, fun _ => rfl, fun f => by cases f <;> rfl⟩,
      fun _ => rfl, fun f => ?_⟩
    have htold : (t.sh.posted ++ [m]).filterMap (WanPosted.tells f) = t.sh.posted.filterMap (WanPosted.tells f) := by
      rw [List.filterMap_append, List.filterMap_cons_none (hm f), List.filterMap_nil, List.append_nil]
    unfold dftRoute
    congr 1
  · exact .refl t

theorem upstreamRouteAdd_cases (s : StaBackhaul) (b : WanBuild) (data : UpstreamRoute) :
    (∃ g, data.iptype = g.iptype ∧ s.wan.accepts g = true ∧ s.upstreamRouteAdd b data = s.ownRoute b g data) ∨
      (∀ g, data.iptype = g.iptype → s.wan.accepts g = false) ∧ s.upstreamRouteAdd b data = s := by
  unfold upstreamRouteAdd
  split_ifs with h4 h6 hprefix
  · exact .inl ⟨.v4, h4.1, h4.2, rfl⟩
  · refine .inr ⟨fun g hg => ?_, rfl⟩
    cases g with
    | v4 => cases h6.1.symm.trans hg
    | v6 => simp [Wan.accepts, hprefix]
  · refine .inl ⟨.v6, h6.1, ?_, rfl⟩
    simpa [Wan.accepts, h6.2] using hprefix
  · refine .inr ⟨fun g hg => ?_, rfl⟩
    cases g with
    | v4 => exact Bool.eq_false_iff.2 fun ha => h4 ⟨hg, ha⟩
    | v6 => exact Bool.eq_false_iff.2 fun ha => h6 ⟨hg, (Bool.and_eq_true_iff.1 ha).1⟩

end StaBackhaul

end HiaeCommon
