/-
The default routes of a backhaul in STA mode over runs of its events: a route
that was asked for is taken once the client of its gateway has the header, in
whatever order the two come, and not before.

The headers are set once, with the first gateway that is found among the
clients. That moment takes the routes that wait only if every gateway that was
noted is found and the client has both headers; a route that is asked for at
that very moment is taken by its own event, and if it has waited already it is
taken twice. Afterwards no route that waits is looked at any more.
-/
import HiaeCommon.Lib.Run
import HiaeCommon.Ipacm.StaBackhaulCalls

namespace HiaeCommon

open Lib (EachStep)

/-! ## What should hold -/

def IpFamily.other : IpFamily → IpFamily
  | .v4 => .v6
  | .v6 => .v4

theorem IpFamily.ne_other (g : IpFamily) : g ≠ g.other := by cases g <;> decide

/-- A default route of the family has been asked for. -/
def requested (g : IpFamily) (es : List StaEvt) : Prop := ∃ data, StaEvt.upstreamRouteAdd data ∈ es ∧ data.iptype = g.iptype

namespace StaBackhaul

/-- Of each family: the route that was asked for is there, once, where the client of its gateway has the header; and
nothing has happened as long as there was no client of a gateway with that header. -/
def RoutesTaken (b : WanBuild) (s₀ : StaBackhaul) (es : List StaEvt) (s : StaBackhaul) : Prop :=
  ∀ g, (requested g es → s.wan.gatewayHas g g = true → s.hasTx g = true ∧ s.dftRoute g = s.installed g) ∧
    ((∀ pre, pre <+: es → ∀ f, (pre.foldl (eventCallback b) s₀).wan.gatewayHas f g = false) → s.dftRoute g = .none)

/-- A route of the family fits: where its gateway has the header and none is set yet, the gateway of the other family is not
looked for before it, and it has not waited, or the other gateway is awaited as well. -/
def RouteFits (s : StaBackhaul) (g : IpFamily) (data : UpstreamRoute) : Prop :=
  s.wan.noHeader = true → (s.noteGateway g data).wan.gatewayHas g g = true →
    (g = .v6 → s.wan.gatewaySet .v4 = false) ∧
      ((s.noteGateway g data).wan.gatewayHas g g.other = true → s.wan.waits g = true → s.wan.gatewaySet g.other = true)

/-- The clients fit: where a gateway has its header its route is there or, with none set yet, the gateway has the other
header too and a gateway of the other family has it as well. -/
def ClientsFit (s : StaBackhaul) (c : ClientTable Unit) : Prop :=
  ∀ g, (s.withClients c).wan.gatewayHas g g = true → s.wan.active g = true ∨
    s.wan.noHeader = true ∧ (s.withClients c).wan.gatewayHas g g.other = true ∧
      ((s.withClients c).wan.gatewaySet g.other = true → (s.withClients c).wan.gatewayHas g.other g.other = true)

/-- When an event is taken as it should be: a route that is not there yet and whose gateway is named, and the clients as a
neighbour leaves them. -/
def Fits (b : WanBuild) (s : StaBackhaul) : StaEvt → Prop
  | .upstreamRouteAdd data =>
    ∀ g, data.iptype = g.iptype → s.wan.accepts g = true → s.wan.active g = false → b.wanMsgAddrGw = true → s.RouteFits g data
  | .neighClientIpAddrAdd data hdlV4 hdlV6 => s.ClientsFit (s.neighClients data hdlV4 hdlV6).2

/-- A station before its first event. -/
structure Fresh (s : StaBackhaul) : Prop where
  sta : s.wan.isSta = true
  tx : ∀ g, s.hasTx g = true → s.wan.txProp = true
  noClients : s.wan.wanClient.num = 0
  noHeaders : ∀ i g, (s.wan.wanClient.slot i).hasHeader g = false
  noGateway : ∀ g, s.wan.gatewaySet g = false
  noHeader : s.wan.noHeader = true
  noWait : ∀ g, s.wan.waits g = false
  noRoute : ∀ g, s.dftRoute g = .none

variable {b : WanBuild} {s₀ s t : StaBackhaul} {es : List StaEvt} {f g : IpFamily}

/-! ## The invariant -/

/-- What an instance is, and what it knows of gateways and clients. -/
structure Ground (b : WanBuild) (es : List StaEvt) (s : StaBackhaul) : Prop where
  sta : s.wan.isSta = true
  tx : ∀ g, s.hasTx g = true → s.wan.txProp = true
  clients : s.wan.wanClient.HeadersOf s.hasTx
  noted : ∀ g, s.wan.gatewaySet g = true → requested g es ∧ b.wanMsgAddrGw = true

/-- A route is there or not at all, and it is there once its header is. -/
def Stands (s : StaBackhaul) (g : IpFamily) : Prop :=
  s.dftRoute g = .none ∨ s.dftRoute g = s.installed g ∧ s.wan.headerSet g = true

/-- Before a header is set the routes of the gateways that were noted wait; then each header there is to be is set. -/
structure Sound (b : WanBuild) (es : List StaEvt) (s : StaBackhaul) : Prop extends Ground b es s where
  waiting : s.wan.noHeader = true → ∀ g, (s.wan.gatewaySet g = true → s.wan.txProp = true → s.wan.waits g = true) ∧
    (b.wanMsgAddrGw = true → s.wan.waits g = true → s.wan.gatewaySet g = true)
  headers : s.wan.noHeader = false → ∀ g, s.wan.headerSet g = s.hasTx g
  stands : ∀ g, s.Stands g
  served : ∀ g, s.wan.gatewayHas g g = true → s.wan.active g = true

/-- A header that is set was once that of a gateway. -/
structure RouteInv (b : WanBuild) (s₀ : StaBackhaul) (es : List StaEvt) (s : StaBackhaul) : Prop extends Sound b es s where
  run : es.foldl (eventCallback b) s₀ = s
  seen : ∀ g, s.wan.headerSet g = true → ∃ pre, pre <+: es ∧ ∃ f, (pre.foldl (eventCallback b) s₀).wan.gatewayHas f g = true

namespace Ground

theorem uniform (h : Ground b es s) : Wan.Uniform s.hasTx s.wan := Wan.uniform_of_headers h.clients

theorem hasTx_of (h : Ground b es s) (hg : s.wan.gatewayHas g f = true) : s.hasTx f = true := by
  rw [h.uniform.gatewayHas] at hg
  exact (Bool.and_eq_true_iff.1 hg).2

theorem set_of (hg : s.wan.gatewayHas g f = true) : s.wan.gatewaySet g = true := (Bool.and_eq_true_iff.1 hg).1

/-- The client of a gateway has all the headers there are. -/
theorem has_of (h : Ground b es s) (hg : s.wan.gatewayHas g g = true) (hf : s.hasTx f = true) : s.wan.gatewayHas g f = true := by
  rw [h.uniform.gatewayHas, Bool.and_eq_true_iff] at hg ⊢
  exact ⟨hg.1, hf⟩

/-- A gateway with both headers, and the other one too if it is known. -/
theorem complete (h : Ground b es s) (hf : s.wan.gatewayHas f f = true) (hboth : s.wan.gatewayHas f f.other = true)
    (hother : s.wan.gatewaySet f.other = true → s.wan.gatewayHas f.other f.other = true) : s.Complete := by
  constructor
  · intro g
    cases f <;> cases g <;> first | exact h.hasTx_of hf | exact h.hasTx_of hboth
  · intro g hg
    cases f <;> cases g <;> first | exact hf | exact hother hg

theorem alike (h : Ground b es s) (ha : Alike s t) : Ground b es t where
  sta := ha.sta.trans h.sta
  tx g hg := ha.txProp.trans (h.tx g ((ha.hasTx g).symm.trans hg))
  clients i g := by rw [ha.clients, ha.hasTx, h.clients]
  noted g hg := h.noted g ((ha.gatewaySet g).symm.trans hg)

theorem more (h : Ground b es s) (e : StaEvt) : Ground b (es ++ [e]) s :=
  { h with noted := fun g hg => ⟨(h.noted g hg).1.imp fun _ hd => ⟨List.mem_append_left _ hd.1, hd.2⟩, (h.noted g hg).2⟩ }

end Ground

theorem Stands.active (h : s.Stands g) (ha : s.wan.active g = true) : s.dftRoute g = s.installed g ∧ s.wan.headerSet g = true := by
  refine h.resolve_left fun hnone => ?_
  have hoff : s.wan.active g = false := congrArg DftRoute.active hnone
  exact Bool.noConfusion (hoff.symm.trans ha)

theorem Stands.inactive (h : s.Stands g) (ha : s.wan.active g = false) : s.dftRoute g = .none := by
  refine h.resolve_right fun hon => ?_
  have hon : s.wan.active g = true := congrArg DftRoute.active hon.1
  exact Bool.noConfusion (ha.symm.trans hon)

/-- Without a header no route is there. -/
theorem Sound.none (h : Sound b es s) (hno : s.wan.noHeader = true) (g : IpFamily) : s.dftRoute g = .none :=
  (h.stands g).resolve_right fun hon => Bool.noConfusion ((Wan.noHeader_iff.1 hno g).symm.trans hon.2)

theorem Sound.inactive (h : Sound b es s) (hno : s.wan.noHeader = true) (g : IpFamily) : s.wan.active g = false :=
  congrArg DftRoute.active (h.none hno g)

theorem Sound.unserved (h : Sound b es s) (hno : s.wan.noHeader = true) (g : IpFamily) : s.wan.gatewayHas g g = false :=
  Bool.eq_false_iff.2 fun hg => Bool.noConfusion ((h.inactive hno g).symm.trans (h.served g hg))

theorem RouteInv.right (h : RouteInv b s₀ es s) : RoutesTaken b s₀ es s := by
  refine fun g => ⟨fun _ hg => ⟨h.hasTx_of hg, ((h.stands g).active (h.served g hg)).1⟩, fun hnever => ?_⟩
  refine (h.stands g).resolve_right fun hon => ?_
  obtain ⟨pre, hpre, f, hf⟩ := h.seen g hon.2
  exact Bool.noConfusion ((hnever pre hpre f).symm.trans hf)

theorem Still.stands (h : Still s t) (hs : s.Stands g) : t.Stands g := by
  unfold Stands
  rw [h.dftRoute, h.installed, h.headerSet]
  exact hs

theorem Sound.still (h : Sound b es s) (ht : Still s t) : Sound b es t where
  toGround := h.toGround.alike ht.toAlike
  waiting hno g := by
    rw [ht.gatewaySet, ht.txProp, ht.waits]
    exact h.waiting (ht.noHeader.symm.trans hno) g
  headers hno g := by
    rw [ht.headerSet, ht.hasTx]
    exact h.headers (ht.noHeader.symm.trans hno) g
  stands g := ht.stands (h.stands g)
  served g hg := by
    have hactive : t.wan.active g = s.wan.active g := congrArg DftRoute.active (ht.dftRoute g)
    rw [hactive]
    exact h.served g ((ht.gatewayHas g g).symm.trans hg)

/-- A route that is not there yet is taken at its own event if its header is. -/
theorem Sound.routeAdd (h : Ground b es s) (hnone : s.dftRoute g = .none) (hstands : ∀ f, s.Stands f)
    (hheaders : s.wan.noHeader = false → ∀ f, s.wan.headerSet f = s.hasTx f)
    (hwaiting : s.wan.noHeader = true → (b.wanMsgAddrGw = true → s.wan.gatewaySet g = true) ∧
      ∀ f, (f ≠ g → s.wan.gatewaySet f = true → s.wan.txProp = true → s.wan.waits f = true) ∧
        (b.wanMsgAddrGw = true → s.wan.waits f = true → s.wan.gatewaySet f = true))
    (hserved : ∀ f, s.wan.gatewayHas f f = true → s.wan.active f = true ∨ f = g ∧ s.wan.noHeader = false) :
    Sound b es (s.handleRouteAddEvt g) := by
  have hk := handleRouteAddEvt_kept h.sta g
  have hroute := handleRouteAddEvt_dftRoute h.sta g
  refine { h.alike hk.toAlike with waiting := fun hno f => ?_, headers := fun hno f => ?_, stands := fun f => ?_, served := fun f hf => ?_ }
  · rw [hk.noHeader] at hno
    obtain ⟨hset, hothers⟩ := hwaiting hno
    rw [handleRouteAddEvt_waits h.sta, hk.gatewaySet, hk.txProp, Wan.noHeader_iff.1 hno f, Bool.not_false, Bool.and_true]
    by_cases hfg : g = f
    · subst hfg
      rw [decide_eq_true rfl, Bool.true_and]
      exact ⟨fun _ htx => by rw [htx, Bool.or_true], fun hb _ => hset hb⟩
    · rw [decide_eq_false hfg, Bool.false_and, Bool.or_false]
      exact ⟨(hothers f).1 (Ne.symm hfg), (hothers f).2⟩
  · rw [hk.headerSet, hk.hasTx]
    exact hheaders (hk.noHeader.symm.trans hno) f
  · unfold Stands
    rw [hroute, hk.installed, hk.headerSet]
    split
    next hup =>
      obtain ⟨rfl, -, hset⟩ := hup
      rw [hnone]
      exact .inr ⟨rfl, hset⟩
    next => exact hstands f
  · rw [hk.gatewayHas] at hf
    have hactive : (s.handleRouteAddEvt g).wan.active f = ((s.handleRouteAddEvt g).dftRoute f).active := rfl
    rw [hactive, hroute]
    split
    next => rfl
    next hup =>
      refine (hserved f hf).resolve_right ?_
      rintro ⟨rfl, hno⟩
      have htx := h.hasTx_of hf
      exact hup ⟨rfl, h.tx f htx, (hheaders hno f).trans htx⟩

theorem RouteInv.next (h : RouteInv b s₀ es s) {e : StaEvt} (ht : s.eventCallback b e = t) (hsound : Sound b (es ++ [e]) t)
    (hheader : (∀ g, t.wan.headerSet g = s.wan.headerSet g) ∨ ∃ f, t.wan.gatewayHas f f = true) : RouteInv b s₀ (es ++ [e]) t := by
  have hrun : (es ++ [e]).foldl (eventCallback b) s₀ = t := by rw [List.foldl_append, h.run, ← ht]; rfl
  refine { hsound with run := hrun, seen := fun g hg => ?_ }
  rcases hheader with hold | ⟨f, hf⟩
  · obtain ⟨pre, hpre, f, hf⟩ := h.seen g ((hold g).symm.trans hg)
    exact ⟨pre, hpre.trans (List.prefix_append es [e]), f, hf⟩
  · refine ⟨es ++ [e], List.prefix_rfl, f, ?_⟩
    rw [hrun]
    exact hsound.has_of hf ((hsound.headers (noHeader_false hg) g).symm.trans hg)

/-! ## The event of a neighbour -/

theorem Ground.withClients {c : ClientTable Unit} (h : Ground b es s) (hc : c.HeadersOf s.hasTx) : Ground b es (s.withClients c) where
  sta := h.sta
  tx := h.tx
  clients := hc
  noted g := by simpa using h.noted g

theorem Sound.withClients {c : ClientTable Unit} (h : Sound b es s) (hc : c.HeadersOf s.hasTx)
    (hserved : ∀ g, (s.withClients c).wan.gatewayHas g g = true → s.wan.active g = true) : Sound b es (s.withClients c) where
  toGround := h.toGround.withClients hc
  waiting hno g := by simpa using h.waiting hno g
  headers hno g := by simpa using h.headers hno g
  stands g := by simpa [Stands] using h.stands g
  served g hg := by simpa using hserved g hg

/-- All headers are there at once: every route that waits is taken. -/
theorem Sound.found (h : Ground b es s) (halike : Alike s t) (hset : ∀ g, t.wan.headerSet g = s.hasTx g) (hcomplete : s.Complete)
    (hnone : ∀ g, s.dftRoute g = .none) (hwaiting : ∀ g, s.wan.gatewaySet g = true → s.wan.txProp = true → s.wan.waits g = true)
    (htaken : ∀ g, t.dftRoute g =
      if s.wan.waits g then (s.dftRoute g).taken (t.dftRules g) (s.wan.gateway g) else s.dftRoute g) : Sound b es t := by
  have hheader : ∀ g, t.wan.headerSet g = true := fun g => (hset g).trans (hcomplete.1 g)
  have hno : t.wan.noHeader = false := noHeader_false (hheader .v4)
  refine { h.alike halike with
    waiting := fun h' => Bool.noConfusion (hno.symm.trans h')
    headers := fun _ g => (hset g).trans (halike.hasTx g).symm
    stands := fun g => ?_
    served := fun g hg => ?_ }
  · unfold Stands
    rw [htaken, hnone]
    split
    next => exact .inr ⟨by rw [StaBackhaul.installed, halike.gateway], hheader g⟩
    next => exact .inl rfl
  · rw [halike.gatewayHas] at hg
    have hw : s.wan.waits g = true := hwaiting g (Ground.set_of hg) (h.tx g (hcomplete.1 g))
    have hactive : t.wan.active g = (t.dftRoute g).active := rfl
    rw [hactive, htaken, if_pos hw]
    rfl

theorem Sound.neigh (h : Sound b es s) {data : EventDataAll} {hdlV4 hdlV6 : Nat}
    (hfit : s.Fits b (.neighClientIpAddrAdd data hdlV4 hdlV6)) :
    let t := s.neighClientIpAddrAdd data hdlV4 hdlV6
    Sound b es t ∧ ((∀ g, t.wan.headerSet g = s.wan.headerSet g) ∨ ∃ f, t.wan.gatewayHas f f = true) := by
  intro t
  have hc := neighClients_headers h.clients data hdlV4 hdlV6
  obtain ⟨ht, hhas⟩ | ht := neigh_cases s data hdlV4 hdlV6
  · rw [show t = _ from ht]
    exact ⟨h.withClients hc fun g hg => h.served g ((hhas g g).symm.trans hg), .inl (withClients_headerSet s _)⟩
  have hfit : s.ClientsFit (s.neighClients data hdlV4 hdlV6).2 := hfit
  generalize (s.neighClients data hdlV4 hdlV6).2 = c at hc hfit ht
  have hground : Ground b es (s.withClients c) := h.toGround.withClients hc
  have hadd := headerAdd_cases hground.sta hground.tx hground.uniform
  rw [show t = _ from ht]
  generalize (s.withClients c).handleStaHeaderAddEvt = u at hadd
  cases hadd with
  | done hno =>
    refine ⟨h.withClients hc fun g hg => (hfit g hg).resolve_right fun hn => ?_, .inl (withClients_headerSet s c)⟩
    exact Bool.noConfusion (hno.symm.trans hn.1)
  | nothing _ hstill hno h4 h6 =>
    refine ⟨Sound.still (h.withClients hc fun g hg => (hfit g hg).resolve_right fun ⟨_, _, hother⟩ => ?_) hstill,
      .inl fun g => (hstill.headerSet g).trans (withClients_headerSet s c g)⟩
    cases g with
    | v4 => exact Bool.noConfusion (h4.symm.trans hg)
    | v6 =>
      refine Bool.noConfusion ((h6 (Bool.eq_false_iff.2 fun hset => ?_)).symm.trans hg)
      exact Bool.noConfusion (h4.symm.trans (hother hset))
  | found _ f halike _ hno hf _ hset htaken _ =>
    have hnone := h.none hno
    have hfit := ((hfit f hf).resolve_left fun ha => Bool.noConfusion ((h.inactive hno f).symm.trans ha)).2
    have hcomplete : (s.withClients c).Complete := hground.complete hf hfit.1 hfit.2
    refine ⟨Sound.found hground halike hset hcomplete (fun g => (withClients_dftRoute s c g).trans (hnone g)) (fun g => ?_)
      (htaken hcomplete), .inr ⟨f, (halike.gatewayHas f f).trans hf⟩⟩
    simpa using (h.waiting hno g).1

/-! ## The event of a route -/

theorem Ground.noteGateway (h : Ground b es s) (hb : b.wanMsgAddrGw = true) (hreq : requested g es) (data : UpstreamRoute) :
    Ground b es (s.noteGateway g data) where
  sta := by cases g <;> exact h.sta
  tx := by simpa using h.tx
  clients := by cases g <;> exact h.clients
  noted f hf := by
    rw [noteGateway_gatewaySet, Bool.or_eq_true, decide_eq_true_iff] at hf
    obtain rfl | hf := hf
    · exact ⟨hreq, hb⟩
    · exact h.noted f hf

theorem Sound.more (h : Sound b es s) (e : StaEvt) : Sound b (es ++ [e]) s :=
  { h with toGround := h.toGround.more e }

/-- Before a header is set, only the gateway that is new can have it. -/
theorem Sound.noted_only (h : Sound b es s) (hno : s.wan.noHeader = true) {data : UpstreamRoute}
    (hf : (s.noteGateway g data).wan.gatewayHas f f = true) : g = f := by
  by_contra hgf
  exact Bool.noConfusion ((h.unserved hno f).symm.trans ((noteGateway_gatewayHas hgf data).symm.trans hf))

/-- A route that is not there yet, with the gateway it names. -/
theorem Sound.routeNoted (h : Sound b es s) (hreq : requested g es) (hoff : s.wan.active g = false) (hb : b.wanMsgAddrGw = true)
    {data : UpstreamRoute} (hfit : s.RouteFits g data) :
    let t := (s.noteGateway g data).handleStaHeaderAddEvt.handleRouteAddEvt g
    Sound b es t ∧ ((∀ f, t.wan.headerSet f = s.wan.headerSet f) ∨ ∃ f, t.wan.gatewayHas f f = true) := by
  intro t
  have hground := h.toGround.noteGateway hb hreq data
  have hother : ∀ f, g ≠ f → (s.noteGateway g data).wan.gatewayHas f f = s.wan.gatewayHas f f :=
    fun f hgf => noteGateway_gatewayHas hgf data
  have hstands : ∀ f, (s.noteGateway g data).Stands f := fun f => by simpa [Stands] using h.stands f
  have hnone : (s.noteGateway g data).dftRoute g = .none := (noteGateway_dftRoute s data g g).trans ((h.stands g).inactive hoff)
  have hset : (s.noteGateway g data).wan.gatewaySet g = true := by simp
  have hadd := headerAdd_cases hground.sta hground.tx hground.uniform
  generalize hu : (s.noteGateway g data).handleStaHeaderAddEvt = u at hadd
  rw [show t = u.handleRouteAddEvt g from congrArg (handleRouteAddEvt · g) hu]
  clear t hu
  cases hadd with
  | done hno =>
    refine ⟨Sound.routeAdd hground hnone hstands (fun hn f => ?_) (fun hn => Bool.noConfusion (hno.symm.trans hn)) fun f hf => ?_,
      .inl fun f => ((handleRouteAddEvt_kept hground.sta g).headerSet f).trans (noteGateway_headerSet s data f g)⟩
    · simpa using h.headers ((noteGateway_noHeader s data g).symm.trans hn) f
    · by_cases hgf : g = f
      · exact .inr ⟨hgf.symm, hno⟩
      · exact .inl ((noteGateway_active s data f g).trans (h.served f ((hother f hgf).symm.trans hf)))
  | nothing _ hstill hno h4 h6 =>
    have hno' : s.wan.noHeader = true := (noteGateway_noHeader s data g).symm.trans hno
    have hidle : ∀ f, (s.noteGateway g data).wan.gatewayHas f f = false := fun f => Bool.eq_false_iff.2 fun hhas => by
      obtain rfl := h.noted_only hno' hhas
      cases g with
      | v4 => exact Bool.noConfusion (h4.symm.trans hhas)
      | v6 =>
        have hset4 : (s.noteGateway .v6 data).wan.gatewaySet .v4 = false := (hfit hno' hhas).1 rfl
        exact Bool.noConfusion ((h6 hset4).symm.trans hhas)
    have hno1 : u.wan.noHeader = true := hstill.noHeader.trans hno
    refine ⟨Sound.routeAdd (hground.alike hstill.toAlike) ((hstill.dftRoute g).trans hnone) (fun f => hstill.stands (hstands f))
      (fun hn => Bool.noConfusion (hno1.symm.trans hn)) (fun _ => ⟨fun _ => (hstill.gatewaySet g).trans hset, fun f => ?_⟩)
      fun f hf => ?_, .inl fun f => ?_⟩
    · rw [hstill.gatewaySet, hstill.txProp, hstill.waits, noteGateway_gatewaySet, noteGateway_txProp, noteGateway_waits]
      obtain ⟨hwait, hset⟩ := h.waiting hno' f
      refine ⟨fun hfg hs => ?_, fun hb hw => by rw [hset hb hw, Bool.or_true]⟩
      rw [decide_eq_false (Ne.symm hfg), Bool.false_or] at hs
      exact hwait hs
    · exact Bool.noConfusion ((hidle f).symm.trans ((hstill.gatewayHas f f).symm.trans hf))
    · rw [(handleRouteAddEvt_kept (hstill.sta.trans hground.sta) g).headerSet, hstill.headerSet, noteGateway_headerSet]
  | found _ f halike hwaits hno hf hfirst hheader htaken hleft =>
    have hno' : s.wan.noHeader = true := (noteGateway_noHeader s data g).symm.trans hno
    obtain rfl := h.noted_only hno' hf
    have hroute : ∀ f, (s.noteGateway g data).dftRoute f = .none := fun f => (noteGateway_dftRoute s data f g).trans (h.none hno' f)
    have htx : (s.noteGateway g data).hasTx g = true := hground.hasTx_of hf
    have hset1 : u.wan.headerSet g = true := (hheader g).trans htx
    have hnone1 : u.dftRoute g = .none := by
      by_cases hc : (s.noteGateway g data).Complete
      · rw [htaken hc, if_neg, hroute]
        -- a route that has waited would be taken twice
        intro hw
        have hhas := hground.has_of hf (hc.1 g.other)
        have hs := (hfit hno' hf).2 hhas ((noteGateway_waits s data g g).symm.trans hw)
        exact g.ne_other (h.noted_only hno' (hc.2 g.other (by rw [noteGateway_gatewaySet, hs, Bool.or_true])))
      · rw [hleft hc, hroute]
    refine ⟨Sound.routeAdd (hground.alike halike) hnone1 (fun f => ?_) (fun _ f => (hheader f).trans (halike.hasTx f).symm)
      (fun hn => Bool.noConfusion (hn.symm.trans (noHeader_false hset1))) fun f hhas => ?_, .inr ⟨g, ?_⟩⟩
    · by_cases hc : (s.noteGateway g data).Complete
      · unfold Stands
        rw [htaken hc, hroute]
        split
        next => exact .inr ⟨by rw [StaBackhaul.installed, halike.gateway], (hheader f).trans (hc.1 f)⟩
        next => exact .inl rfl
      · exact .inl ((hleft hc f).trans (hroute f))
    · exact .inr ⟨(h.noted_only hno' ((halike.gatewayHas f f).symm.trans hhas)).symm, noHeader_false hset1⟩
    · rw [(handleRouteAddEvt_kept (halike.sta.trans hground.sta) g).gatewayHas, halike.gatewayHas]
      exact hf

theorem Sound.route (h : Sound b es s) {data : UpstreamRoute} (hfit : s.Fits b (.upstreamRouteAdd data)) :
    let t := s.upstreamRouteAdd b data
    Sound b (es ++ [.upstreamRouteAdd data]) t ∧
      ((∀ f, t.wan.headerSet f = s.wan.headerSet f) ∨ ∃ f, t.wan.gatewayHas f f = true) := by
  intro t
  have hmore := h.more (.upstreamRouteAdd data)
  obtain ⟨g, hg, hacc, ht⟩ | ⟨-, ht⟩ := s.upstreamRouteAdd_cases b data
  · have hstill := s.ownRoute_still b g data
    rw [show t = _ from ht]
    have hreq : requested g (es ++ [.upstreamRouteAdd data]) := ⟨data, by simp, hg⟩
    have hfit := hfit g hg hacc
    have hroute : Sound b (es ++ [.upstreamRouteAdd data]) (s.defaultRoute b g data) ∧
        ((∀ f, (s.defaultRoute b g data).wan.headerSet f = s.wan.headerSet f) ∨
          ∃ f, (s.defaultRoute b g data).wan.gatewayHas f f = true) := by
      unfold defaultRoute
      cases hoff : s.wan.active g with
      | true => exact ⟨hmore, .inl fun _ => rfl⟩
      | false =>
        rw [if_pos rfl]
        cases hb : b.wanMsgAddrGw with
        | true => exact hmore.routeNoted hreq hoff hb (hfit hoff hb)
        | false =>
          have hnb : ¬ b.wanMsgAddrGw = true := ne_true_of_eq_false hb
          rw [if_neg Bool.false_ne_true]
          refine ⟨Sound.routeAdd hmore.toGround ((h.stands g).inactive hoff) h.stands h.headers (fun hno => ?_)
            fun f hf => .inl (h.served f hf), .inl (handleRouteAddEvt_kept h.sta g).headerSet⟩
          exact ⟨fun hb => absurd hb hnb, fun f => ⟨fun _ => (h.waiting hno f).1, fun hb => absurd hb hnb⟩⟩
    exact ⟨hroute.1.still hstill, hroute.2.imp (fun hsame f => (hstill.headerSet f).trans (hsame f))
      fun ⟨f, hf⟩ => ⟨f, (hstill.gatewayHas f f).trans hf⟩⟩
  · rw [show t = _ from ht]
    exact ⟨hmore, .inl fun _ => rfl⟩

/-! ## Runs -/

theorem RouteInv.step (h : RouteInv b s₀ es s) {e : StaEvt} (hfit : s.Fits b e) : RouteInv b s₀ (es ++ [e]) (s.eventCallback b e) := by
  cases e with
  | upstreamRouteAdd data =>
    obtain ⟨hsound, hheader⟩ := h.toSound.route hfit
    exact h.next rfl hsound hheader
  | neighClientIpAddrAdd data hdlV4 hdlV6 =>
    obtain ⟨hsound, hheader⟩ := (h.toSound.more (.neighClientIpAddrAdd data hdlV4 hdlV6)).neigh hfit
    exact h.next rfl hsound hheader

theorem RouteInv.initial (h : s.Fresh) : RouteInv b s [] s where
  sta := h.sta
  tx := h.tx
  clients i g := by rw [h.noHeaders, h.noClients, decide_eq_false (Nat.not_lt_zero i), Bool.false_and]
  noted g hg := Bool.noConfusion ((h.noGateway g).symm.trans hg)
  waiting _ g := ⟨fun hg => Bool.noConfusion ((h.noGateway g).symm.trans hg), fun _ hw => Bool.noConfusion ((h.noWait g).symm.trans hw)⟩
  headers hno := Bool.noConfusion (hno.symm.trans h.noHeader)
  stands g := .inl (h.noRoute g)
  served g hg := by
    rw [Wan.gatewayHas, h.noGateway, Bool.false_and] at hg
    cases hg
  run := rfl
  seen g hg := Bool.noConfusion ((Wan.noHeader_iff.1 h.noHeader g).symm.trans hg)

/-- A neighbour that gives a gateway its header without fitting leaves the route out. -/
theorem Sound.clientsFit (h : Sound b es s) {data : EventDataAll} {hdlV4 hdlV6 : Nat}
    (hroutes : ∀ g, requested g es → (s.neighClientIpAddrAdd data hdlV4 hdlV6).wan.gatewayHas g g = true →
      (s.neighClientIpAddrAdd data hdlV4 hdlV6).dftRoute g = (s.neighClientIpAddrAdd data hdlV4 hdlV6).installed g) :
    s.ClientsFit (s.neighClients data hdlV4 hdlV6).2 := by
  intro g hg
  have hc := neighClients_headers h.clients data hdlV4 hdlV6
  have hground := h.toGround.withClients hc
  have hreq : requested g es := (hground.noted g (Ground.set_of hg)).1
  have hroutes := hroutes g hreq
  have hold : ∀ {t : StaBackhaul}, t.dftRoute g = t.installed g → t.dftRoute g = s.dftRoute g → s.wan.active g = true :=
    fun hin hsame => congrArg DftRoute.active (hsame.symm.trans hin)
  obtain ⟨ht, -⟩ | ht := neigh_cases s data hdlV4 hdlV6
  · rw [ht] at hroutes
    exact .inl (hold (hroutes hg) (withClients_dftRoute s _ g))
  · rw [ht] at hroutes
    have hadd := headerAdd_cases hground.sta hground.tx hground.uniform
    generalize (s.withClients (s.neighClients data hdlV4 hdlV6).2).handleStaHeaderAddEvt = u at hadd hroutes
    cases hadd with
    | done hno => exact .inl (hold (hroutes hg) (withClients_dftRoute s _ g))
    | nothing _ hstill hno h4 h6 =>
      exact .inl (hold (hroutes ((hstill.gatewayHas g g).trans hg)) ((hstill.dftRoute g).trans (withClients_dftRoute s _ g)))
    | found _ f halike _ hno hf _ _ htaken hleft =>
      by_cases hcomplete : (s.withClients (s.neighClients data hdlV4 hdlV6).2).Complete
      · exact .inr ⟨hno, hground.has_of hg (hcomplete.1 g.other), hcomplete.2 g.other⟩
      · have hin := hroutes ((halike.gatewayHas g g).trans hg)
        exact .inl (hold hin ((hleft hcomplete g).trans (withClients_dftRoute s _ g)))

/-- A route whose gateway has its header without fitting is not taken, or it is taken twice. -/
theorem Sound.routeFits (h : Sound b es s) (hreq : requested g es) (hoff : s.wan.active g = false) (hb : b.wanMsgAddrGw = true)
    {data : UpstreamRoute}
    (hroute : ((s.noteGateway g data).handleStaHeaderAddEvt.handleRouteAddEvt g).wan.gatewayHas g g = true →
      ((s.noteGateway g data).handleStaHeaderAddEvt.handleRouteAddEvt g).dftRoute g =
        ((s.noteGateway g data).handleStaHeaderAddEvt.handleRouteAddEvt g).installed g) : s.RouteFits g data := by
  intro hno hhas
  have hground := h.toGround.noteGateway hb hreq data
  have hnone : (s.noteGateway g data).dftRoute g = .none := (noteGateway_dftRoute s data g g).trans ((h.stands g).inactive hoff)
  have hadd := headerAdd_cases hground.sta hground.tx hground.uniform
  generalize (s.noteGateway g data).handleStaHeaderAddEvt = u at hadd hroute
  cases hadd with
  | done hdone => exact Bool.noConfusion (hdone.symm.trans ((noteGateway_noHeader s data g).trans hno))
  | nothing _ hstill hno' h4 h6 =>
    have hsta := hstill.sta.trans hground.sta
    have hin := hroute (((handleRouteAddEvt_kept hsta g).gatewayHas g g).trans ((hstill.gatewayHas g g).trans hhas))
    have hheader : u.wan.headerSet g = false := Wan.noHeader_iff.1 (hstill.noHeader.trans hno') g
    rw [handleRouteAddEvt_dftRoute hsta, if_neg fun h => Bool.noConfusion (hheader.symm.trans h.2.2), hstill.dftRoute, hnone] at hin
    exact Bool.noConfusion (congrArg DftRoute.active hin)
  | found _ f halike hwaits hno' hf hfirst hset htaken hleft =>
    have hsta := halike.sta.trans hground.sta
    have hin := hroute (((handleRouteAddEvt_kept hsta g).gatewayHas g g).trans ((halike.gatewayHas g g).trans hhas))
    obtain rfl := h.noted_only hno hf
    refine ⟨fun hg => ?_, fun hother hw => ?_⟩
    · have hset4 := hfirst hg
      rw [noteGateway_gatewaySet, Bool.or_eq_false_iff] at hset4
      exact hset4.2
    · by_contra hset'
      have hcomplete : (s.noteGateway g data).Complete := hground.complete hf hother fun hs => by
        rw [noteGateway_gatewaySet, decide_eq_false g.ne_other, Bool.false_or] at hs
        exact absurd hs hset'
      have htx : (s.noteGateway g data).hasTx g = true := hcomplete.1 g
      rw [handleRouteAddEvt_dftRoute hsta, if_pos ⟨rfl, halike.txProp.trans (hground.tx g htx), (hset g).trans htx⟩, htaken hcomplete,
        if_pos ((noteGateway_waits s data g g).trans hw), hnone] at hin
      have htwice : 2 = 1 := congrArg DftRoute.firewall hin
      exact absurd htwice (by decide)

theorem RouteInv.fits (h : RouteInv b s₀ es s) {e : StaEvt} (hright : RoutesTaken b s₀ (es ++ [e]) (s.eventCallback b e)) :
    s.Fits b e := by
  cases e with
  | upstreamRouteAdd data =>
    intro g hg hacc hoff hb
    have hreq : requested g (es ++ [.upstreamRouteAdd data]) := ⟨data, by simp, hg⟩
    refine (h.toSound.more _).routeFits hreq hoff hb fun hhas => ?_
    obtain ⟨f, hf, -, ht⟩ | ⟨hnone, -⟩ := s.upstreamRouteAdd_cases b data
    · obtain rfl : g = f := by cases g <;> cases f <;> first | rfl | cases hg.symm.trans hf
      have hstill := s.ownRoute_still b g data
      have hroute : s.defaultRoute b g data = (s.noteGateway g data).handleStaHeaderAddEvt.handleRouteAddEvt g := by
        rw [StaBackhaul.defaultRoute, hoff, if_pos rfl, hb, if_pos rfl]
      rw [← hroute] at hhas ⊢
      have hright := (hright g).1 hreq
      rw [show s.eventCallback b (.upstreamRouteAdd data) = s.ownRoute b g data from ht, hstill.gatewayHas, hstill.dftRoute,
        hstill.installed] at hright
      exact (hright hhas).2
    · exact Bool.noConfusion ((hnone g hg).symm.trans hacc)
  | neighClientIpAddrAdd data hdlV4 hdlV6 =>
    exact (h.toSound.more _).clientsFit fun g hreq hhas => ((hright g).1 hreq hhas).2

/-- **The default routes of a backhaul**: in every order of route and neighbour events the route of a family is there once
the client of its gateway has the header, and not before, exactly when every event fits. -/
theorem routes_taken_iff (b : WanBuild) {s : StaBackhaul} (hs : s.Fresh) (es : List StaEvt) :
    (∀ pre, pre <+: es → RoutesTaken b s pre (pre.foldl (eventCallback b) s)) ↔ EachStep (eventCallback b) (Fits b) s es :=
  Lib.eachStep_iff (I := RouteInv b s) (fun _ _ h => h.right) (fun _ _ _ h hfit => h.step hfit) (fun _ _ _ h hright => h.fits hright)
    (.initial hs) es

/-- A station of both families with its tx properties. -/
def wlanBackhaul : StaBackhaul where
  wan :=
    { ipaIfNum := 1, devName := "wlan0", mIsStaMode := .wlanWan, ifModeBridge := false, txProp := true, extMuxIds := []
      ipType := .max, wanV4Addr := 5, ipv6Prefix := 7, isXlat := false, wanClient := ⟨0, fun _ => { own := () }⟩ }
  sh := {}
  txProps := [⟨.v4, 3, 4, "wlan_hdr_v4"⟩, ⟨.v6, 3, 4, "wlan_hdr_v6"⟩]
  isMccMode := false
  ipv6Addr := []

theorem wlanBackhaul_fresh : wlanBackhaul.Fresh where
  sta := rfl
  tx _ _ := rfl
  noClients := rfl
  noHeaders _ g := by cases g <;> rfl
  noGateway g := by cases g <;> rfl
  noHeader := rfl
  noWait g := by cases g <;> rfl
  noRoute g := by cases g <;> rfl

def routeV4 : StaEvt := .upstreamRouteAdd ⟨.v4, some 1, none, 9, 0⟩

def routeV6 : StaEvt := .upstreamRouteAdd ⟨.v6, some 1, none, 0, 8⟩

/-- The neighbour that is the gateway of both families is seen with its IPv4 address. -/
def router : StaEvt := .neighClientIpAddrAdd { iptype := .v4, ifIndex := 1, ipv4Addr := 9, ipv6Addr := 0, macAddr := 2 } 21 22

/-- The IPv4 route waits for the router, and the IPv6 one finds its header. -/
theorem routes_taken_iff_wlan :
    EachStep (eventCallback ⟨true, true⟩) (Fits ⟨true, true⟩) wlanBackhaul [routeV4, router, routeV6] ∧
      ∀ pre, pre <+: [routeV4, router, routeV6] →
        RoutesTaken ⟨true, true⟩ wlanBackhaul pre (pre.foldl (eventCallback ⟨true, true⟩) wlanBackhaul) := by
  have hfit : EachStep (eventCallback ⟨true, true⟩) (Fits ⟨true, true⟩) wlanBackhaul [routeV4, router, routeV6] := by
    refine ⟨?_, ?_, ?_, trivial⟩
    · intro g hg hacc hoff hb hno hhas
      cases g <;> cases hhas
    · intro g hg
      cases g with
      | v4 => exact .inr ⟨rfl, by decide, fun h => by cases h⟩
      | v6 => cases hg
    · intro g hg hacc hoff hb hno
      cases hno
  exact ⟨hfit, (routes_taken_iff ⟨true, true⟩ wlanBackhaul_fresh _).2 hfit⟩

/-- Where the IPv6 route was asked for as well, the router alone takes neither route. -/
theorem not_routes_taken :
    ¬ ∀ (b : WanBuild) (s : StaBackhaul) (es : List StaEvt), s.Fresh → RoutesTaken b s es (es.foldl (eventCallback b) s) := by
  intro h
  have hroutes := h ⟨true, true⟩ wlanBackhaul [routeV4, routeV6, router] wlanBackhaul_fresh
  have hv4 := (hroutes .v4).1 ⟨_, List.mem_cons_self, rfl⟩ (by decide)
  have hactive : false = true := congrArg DftRoute.active hv4.2
  cases hactive

end StaBackhaul

end HiaeCommon
