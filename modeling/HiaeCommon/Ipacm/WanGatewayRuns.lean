/-
Who the default gateway is, by the marks of the instances of `IPACM_Wan`, by the
shared flags and by the last message. They agree as long as the instance that
takes a route is called after the one that had it: one that is called later
cleans up behind the new gateway, clears its flag and posts its end. The route
for XLAT goes up without any cleaning of another's.
-/
import HiaeCommon.Lib.Run
import HiaeCommon.Ipacm.WanGatewayCalls

namespace HiaeCommon

open Lib (Announcing EachStep inTurn)

/-- The instances in the order the dispatcher calls them, each for an interface of its own, and what they share. -/
structure WanSys where
  insts : List Wan
  sh : WanShared
  distinct : (insts.map Wan.ipaIfNum).Nodup

namespace WanSys

variable {b : WanBuild} {s : WanSys} {e : WanRouteEvt} {g : IpFamily} {w : Wan} {l₁ l₂ : List Wan}

/-- `ProcessEvt`: every instance is called. -/
def dispatch (b : WanBuild) (s : WanSys) (e : WanRouteEvt) : WanSys where
  insts := (inTurn (Wan.eventCallback b e) s.insts s.sh).1
  sh := (inTurn (Wan.eventCallback b e) s.insts s.sh).2
  distinct := by
    rw [Announcing.inTurn_map Wan.ipaIfNum (Wan.eventCallback_iface b e)]
    exact s.distinct

/-- The agreement on the default gateway of a family: one instance at most has it, the flag is set if one has, the last
message that a gateway is up names the one that has it, and after one that it is down nobody has. -/
structure GatewayAgrees (g : IpFamily) (s : WanSys) : Prop where
  atMostOne : (s.insts.filter fun w => w.active g).length ≤ 1
  up : s.sh.up g = true ↔ ∃ w ∈ s.insts, w.active g = true
  toldUp : ∀ gateway, s.sh.told g = some gateway → ∃ w ∈ s.insts, w.active g = true ∧ w.gateway g = gateway
  toldDown : s.sh.told g = none → ∀ w ∈ s.insts, w.active g = false

/-- Both families agree, and the tether arrays have held what was written to them. -/
structure Agrees (s : WanSys) : Prop where
  gateway : ∀ g, s.GatewayAgrees g
  bounds : s.sh.outOfBounds = false

/-- Before any route: nobody is a gateway, waits to be one or has been announced. -/
structure Idle (s : WanSys) : Prop where
  settled : ∀ w ∈ s.insts, w.Settled
  inactive : ∀ w ∈ s.insts, ∀ g, w.active g = false
  down : ∀ g, s.sh.up g = false
  untold : s.sh.posted = []
  bounds : s.sh.outOfBounds = false

/-- Every station knows its header when a route of its own comes. -/
def HeadersKnown (b : WanBuild) (s : WanSys) (e : WanRouteEvt) : Prop := ∀ w ∈ s.insts, w.HeaderKnown b e

/-- Nobody is in the way of the instance that takes a route: behind it nobody has one of the family, and before it nobody
either where the route is not the event's own. -/
def Unopposed (s : WanSys) (e : WanRouteEvt) (g : IpFamily) : Prop :=
  ∀ l₁ w l₂, s.insts = l₁ ++ w :: l₂ → w.takes e g = true →
    (e.adds g = true → ∀ x ∈ l₂, x.active g = false) ∧ (e.adds g = false → ∀ x ∈ l₁ ++ l₂, x.active g = false)

/-- When an event leaves the agreement: nobody is in the way of its route, and the tether array has room. -/
structure TakenLast (b : WanBuild) (s : WanSys) (e : WanRouteEvt) : Prop where
  unopposed : ∀ g, s.Unopposed e g
  room : ∀ w ∈ s.insts, w.HasRoom b s.sh e

theorem gatewayAgrees_iff : s.GatewayAgrees g ↔ (announcing g).Agrees s.insts s.sh := by
  rw [Announcing.agrees_iff]
  exact ⟨fun h => ⟨h.atMostOne, h.up, h.toldUp, h.toldDown⟩, fun h => ⟨h.1, h.2.1, h.2.2.1, h.2.2.2⟩⟩

/-- Beside the instance a route is of, it is another's for everybody. -/
theorem others (hl : s.insts = l₁ ++ w :: l₂) (hown : e.ipaIfIndex = some w.ipaIfNum) :
    ∀ x ∈ l₁ ++ l₂, e.ipaIfIndex ≠ some x.ipaIfNum := by
  have hd := s.distinct
  rw [hl, List.map_append, List.map_cons, List.nodup_middle, List.nodup_cons, ← List.map_append] at hd
  intro x hx he
  rw [hown, Option.some.injEq] at he
  exact hd.1 (he ▸ List.mem_map_of_mem hx)

theorem mem_others (hl : s.insts = l₁ ++ w :: l₂) {x : Wan} (hx : x ∈ l₁ ++ l₂) : x ∈ s.insts := by
  rw [hl]
  rcases List.mem_append.1 hx with h | h
  · exact List.mem_append_left _ h
  · exact List.mem_append_right _ (List.mem_cons_of_mem _ h)

theorem takes_own (h : w.takes e g = true) : e.ipaIfIndex = some w.ipaIfNum := by
  unfold Wan.takes at h
  simp only [Bool.and_eq_true, beq_iff_eq] at h
  exact h.1.1.1

theorem called (hs : ∀ w ∈ s.insts, w.Settled) (hk : s.HeadersKnown b e) (hw : w ∈ s.insts) (sh : WanShared) :
    Wan.Called w sh (w.takes e) (w.eventCallback b e sh) := by
  by_cases hown : e.ipaIfIndex = some w.ipaIfNum
  · exact (Wan.eventCallback_own (hs w hw) (hk w hw) hown).1
  · exact (Wan.eventCallback_other (hs w hw) hown).1.of_eq fun g => Bool.eq_false_iff.2 fun h => hown (takes_own h)

theorem dispatch_settled (hs : ∀ w ∈ s.insts, w.Settled) (hk : s.HeadersKnown b e) : ∀ w ∈ (s.dispatch b e).insts, w.Settled :=
  Announcing.inTurn_forall fun w hw sh => (called hs hk hw sh).settled (hs w hw)

/-- A round in which an instance takes a route. -/
theorem dispatch_taken (hs : ∀ w ∈ s.insts, w.Settled) (hk : s.HeadersKnown b e) (hl : s.insts = l₁ ++ w :: l₂)
    (ht : w.takes e g = true) : (announcing g).Agrees (s.dispatch b e).insts (s.dispatch b e).sh ↔
      (e.adds g = true → ∀ x ∈ l₂, x.active g = false) ∧ (e.adds g = false → ∀ x ∈ l₁ ++ l₂, x.active g = false) := by
  have hw : w ∈ s.insts := hl ▸ List.mem_append_right _ List.mem_cons_self
  have htake : ∀ sh, (announcing g).Takes w (w.eventCallback b e sh) := fun sh => ((called hs hk hw sh).takes g ht).2
  have hother := fun x hx sh => (Wan.eventCallback_other (b := b) (s := sh) (hs x (mem_others hl hx))
    (others hl (takes_own ht) x hx)).2.2 g
  unfold dispatch
  dsimp only
  rw [hl]
  cases hg : e.adds g with
  | true =>
    rw [Announcing.agrees_take_clears (fun x hx sh => (hother x hx sh).1 hg) htake]
    exact ⟨fun h => ⟨fun _ => h, fun h => Bool.noConfusion h⟩, fun h => h.1 rfl⟩
  | false =>
    rw [Announcing.agrees_take_stays (fun x hx sh => (hother x hx sh).2 hg) htake]
    exact ⟨fun h => ⟨fun h => Bool.noConfusion h, fun _ => h⟩, fun h => h.2 rfl⟩

/-- **One event** leaves the agreement of a family exactly when nobody is in the way of its route. -/
theorem dispatch_agrees_iff (hs : ∀ w ∈ s.insts, w.Settled) (hk : s.HeadersKnown b e)
    (h : (announcing g).Agrees s.insts s.sh) :
    (announcing g).Agrees (s.dispatch b e).insts (s.dispatch b e).sh ↔ s.Unopposed e g := by
  constructor
  · exact fun h l₁ w l₂ hl ht => (dispatch_taken hs hk hl ht).1 h
  · intro hu
    by_cases hex : ∃ w ∈ s.insts, w.takes e g = true
    · obtain ⟨w, hw, ht⟩ := hex
      obtain ⟨l₁, l₂, hl⟩ := List.append_of_mem hw
      exact (dispatch_taken hs hk hl ht).2 (hu l₁ w l₂ hl ht)
    · refine h.keep fun w hw sh => (called hs hk hw sh).keeps g ?_
      exact Bool.eq_false_iff.2 fun ht => hex ⟨w, hw, ht⟩

theorem inTurn_sameTether (hs : ∀ w ∈ s.insts, w.Settled) {l : List Wan} (h : ∀ x ∈ l, x ∈ s.insts ∧ e.ipaIfIndex ≠ some x.ipaIfNum)
    (sh : WanShared) : Wan.SameTether sh (inTurn (Wan.eventCallback b e) l sh).2 :=
  Announcing.inTurn_rel (fun _ => ⟨fun _ => rfl, rfl⟩) (fun _ _ _ h h' => h.trans h') fun x hx _ =>
    (Wan.eventCallback_other (hs x (h x hx).1) (h x hx).2).2.1

/-- A route is of one instance: it is called with the tether arrays as they were, and the others leave them alone. -/
theorem dispatch_own (hs : ∀ w ∈ s.insts, w.Settled) (hw : w ∈ s.insts) (hown : e.ipaIfIndex = some w.ipaIfNum) :
    ∃ sh, Wan.SameTether s.sh sh ∧ Wan.SameTether (w.eventCallback b e sh).2 (s.dispatch b e).sh ∧
      (w.eventCallback b e sh).1 ∈ (s.dispatch b e).insts ∧
      ∀ x' ∈ (s.dispatch b e).insts, x' = (w.eventCallback b e sh).1 ∨
        ∃ x ∈ s.insts, e.ipaIfIndex ≠ some x.ipaIfNum ∧ ∃ sh', x' = (x.eventCallback b e sh').1 := by
  obtain ⟨l₁, l₂, hl⟩ := List.append_of_mem hw
  have hne := others hl hown
  have hdispatch : (s.dispatch b e).insts = (inTurn (Wan.eventCallback b e) (l₁ ++ w :: l₂) s.sh).1 ∧
      (s.dispatch b e).sh = (inTurn (Wan.eventCallback b e) (l₁ ++ w :: l₂) s.sh).2 := by
    rw [← hl]
    exact ⟨rfl, rfl⟩
  rw [hdispatch.1, hdispatch.2, Announcing.inTurn_append, inTurn]
  refine ⟨(inTurn (Wan.eventCallback b e) l₁ s.sh).2, inTurn_sameTether hs (fun x hx => ?_) s.sh, inTurn_sameTether hs (fun x hx => ?_) _,
    List.mem_append_right _ List.mem_cons_self, fun x' hx' => ?_⟩
  · exact ⟨mem_others hl (List.mem_append_left _ hx), hne x (List.mem_append_left _ hx)⟩
  · exact ⟨mem_others hl (List.mem_append_right _ hx), hne x (List.mem_append_right _ hx)⟩
  · rcases List.mem_append.1 hx' with hx' | hx'
    · obtain ⟨x, hx, sh', rfl⟩ := Announcing.mem_inTurn hx'
      have hx := List.mem_append_left l₂ hx
      exact .inr ⟨x, mem_others hl hx, hne x hx, sh', rfl⟩
    · rcases List.mem_cons.1 hx' with rfl | hx'
      · exact .inl rfl
      · obtain ⟨x, hx, sh', rfl⟩ := Announcing.mem_inTurn hx'
        have hx := List.mem_append_right l₁ hx
        exact .inr ⟨x, mem_others hl hx, hne x hx, sh', rfl⟩

theorem dispatch_nobody (hs : ∀ w ∈ s.insts, w.Settled) (hnone : ∀ w ∈ s.insts, e.ipaIfIndex ≠ some w.ipaIfNum) :
    Wan.SameTether s.sh (s.dispatch b e).sh :=
  inTurn_sameTether hs (fun x hx => ⟨hx, hnone x hx⟩) s.sh

/-- A route is of one instance. -/
theorem own_unique (hw : w ∈ s.insts) (hown : e.ipaIfIndex = some w.ipaIfNum) {x : Wan} (hx : x ∈ s.insts)
    (hx' : e.ipaIfIndex = some x.ipaIfNum) : x = w :=
  List.inj_on_of_nodup_map s.distinct hx hw (Option.some.inj (hx'.symm.trans hown))

/-- Nothing is written behind the end of an array exactly when there was room. -/
theorem dispatch_bounds (hs : ∀ w ∈ s.insts, w.Settled) (hk : s.HeadersKnown b e) :
    (s.dispatch b e).sh.outOfBounds = false ↔ s.sh.outOfBounds = false ∧ ∀ w ∈ s.insts, w.HasRoom b s.sh e := by
  have hroom : ∀ x : Wan, e.ipaIfIndex ≠ some x.ipaIfNum → x.HasRoom b s.sh e := fun x hne => Wan.hasRoom_of_not fun g => by
    cases e with
    | upstreamRouteAdd data =>
      have hne : (data.ipaIfIndex == some x.ipaIfNum) = false := beq_eq_false_iff_ne.2 hne
      unfold Wan.tethers
      dsimp only
      rw [hne, Bool.and_false, Bool.false_and, Bool.false_and]
    | upstreamRouteDel | routeAdd | routeDel => rfl
  by_cases hex : ∃ w ∈ s.insts, e.ipaIfIndex = some w.ipaIfNum
  · obtain ⟨w, hw, hown⟩ := hex
    obtain ⟨sh, h₁, h₂, -⟩ := dispatch_own (b := b) hs hw hown
    have hcall := (Wan.eventCallback_own (b := b) (s := sh) (hs w hw) (hk w hw) hown).2
    have hw' : w.HasRoom b sh e ↔ w.HasRoom b s.sh e := by
      unfold Wan.HasRoom
      simp only [h₁.tether]
    rw [h₂.bounds, hcall, h₁.bounds, hw']
    refine and_congr_right fun _ => ⟨fun h x hx => ?_, fun h => h w hw⟩
    by_cases hx' : e.ipaIfIndex = some x.ipaIfNum
    · exact own_unique hw hown hx hx' ▸ h
    · exact hroom x hx'
  · have hnone : ∀ x ∈ s.insts, e.ipaIfIndex ≠ some x.ipaIfNum := fun x hx he => hex ⟨x, hx, he⟩
    rw [(dispatch_nobody (b := b) hs hnone).bounds]
    exact (and_iff_left fun x hx => hroom x (hnone x hx)).symm

/-- **The default gateway**: in the runs in which the headers are known, the marks of the instances, the flags and the
messages agree after every event exactly when each instance that takes a route is called after the one that had it,
XLAT finds no other gateway for IPv6, and the tether arrays have room. -/
theorem default_gateway_agrees_iff (b : WanBuild) {s : WanSys} (hs : s.Idle) {es : List WanRouteEvt}
    (hk : EachStep (dispatch b) (HeadersKnown b) s es) :
    (∀ pre, pre <+: es → (pre.foldl (dispatch b) s).Agrees) ↔ EachStep (dispatch b) (TakenLast b) s es := by
  have hagree : ∀ {s : WanSys} {e : WanRouteEvt}, (∀ w ∈ s.insts, w.Settled) → s.HeadersKnown b e → s.Agrees →
      ((s.dispatch b e).Agrees ↔ s.TakenLast b e) := fun {s e} hset hk ha => by
    have hb := dispatch_bounds hset hk
    rw [and_iff_right ha.bounds] at hb
    have hg : ∀ g, (s.dispatch b e).GatewayAgrees g ↔ s.Unopposed e g := fun g => by
      rw [gatewayAgrees_iff]
      exact dispatch_agrees_iff hset hk (gatewayAgrees_iff.1 (ha.gateway g))
    exact ⟨fun h => ⟨fun g => (hg g).1 (h.gateway g), hb.1 h.bounds⟩, fun h => ⟨fun g => (hg g).2 (h.unopposed g), hb.2 h.room⟩⟩
  refine Lib.eachStep_iff_of (I := fun _ s => (∀ w ∈ s.insts, w.Settled) ∧ s.Agrees) (J := fun _ s => s.Agrees) (fun _ s h => h.2)
    (fun _ s e h hk hc => ⟨dispatch_settled h.1 hk, (hagree h.1 hk h.2).2 hc⟩) (fun _ s e h hk hj => (hagree h.1 hk h.2).1 hj) ?_ hk
  refine ⟨hs.settled, fun g => ⟨?_, ?_, ?_, ?_⟩, hs.bounds⟩
  · rw [List.filter_eq_nil_iff.2 fun w hw => by rw [hs.inactive w hw g]; exact Bool.false_ne_true]
    exact Nat.zero_le _
  · rw [hs.down g]
    exact iff_of_false Bool.false_ne_true fun ⟨w, hw, ha⟩ => Bool.noConfusion ((hs.inactive w hw g).symm.trans ha)
  · intro gateway h
    rw [WanShared.told, hs.untold] at h
    exact absurd h nofun
  · exact fun _ w hw => hs.inactive w hw g

/-! ## A modem and a station, two modems -/

/-- A modem or station with an IPv4 address, tx properties and a header. -/
def exampleWan (ipaIfNum : Nat) (devName : String) (mIsStaMode : WanIfaceType) (wanV4Addr : BitVec 32) : Wan where
  ipaIfNum := ipaIfNum
  devName := devName
  mIsStaMode := mIsStaMode
  ifModeBridge := false
  txProp := true
  extMuxIds := [1]
  ipType := .v4
  wanV4Addr := wanV4Addr
  ipv6Prefix := 0
  isXlat := false
  wanClient := ⟨0, fun _ => { own := () }⟩
  headerSetV4 := true
  headerSetV6 := true

def staAndModem : WanSys where
  insts := [exampleWan 0 "wlan0" .wlanWan 0x0a000001, exampleWan 1 "rmnet0" .q6Wan 0x0a000002]
  sh := {}
  distinct := by decide

def twoModems : WanSys where
  insts := [exampleWan 0 "rmnet0" .q6Wan 0x0a000001, exampleWan 1 "rmnet1" .q6Wan 0x0a000002]
  sh := {}
  distinct := by decide

/-- An upstream IPv4 route, for the tethered interface 2. -/
def upstream (ipaIfIndex : Nat) : WanRouteEvt := .upstreamRouteAdd ⟨.v4, some ipaIfIndex, some 2, 0, 0⟩

theorem headersKnown_of_all (h : (s.insts.all fun w => w.headerSetV4 && w.headerSetV6) = true) : s.HeadersKnown b e := fun w hw => by
  have hw := List.all_eq_true.1 h w hw
  rw [Bool.and_eq_true] at hw
  exact Wan.headerKnown_of_set hw.1 hw.2

theorem idle_of_all (hsh : s.sh = {}) (h : (s.insts.all fun w =>
    !w.activeV4 && !w.activeV6 && !w.headerPartialDefaultWanV4 && !w.headerPartialDefaultWanV6) = true) : s.Idle := by
  have hw : ∀ w ∈ s.insts, (∀ g, w.active g = false) ∧ w.headerPartialDefaultWanV4 = false ∧ w.headerPartialDefaultWanV6 = false := by
    intro w hw
    have hw := List.all_eq_true.1 h w hw
    simp only [Bool.and_eq_true, Bool.not_eq_true'] at hw
    exact ⟨fun g => by cases g <;> [exact hw.1.1.1; exact hw.1.1.2], hw.1.2, hw.2⟩
  exact {
    settled w hm := ⟨(hw w hm).2.1, (hw w hm).2.2, fun g ha => Bool.noConfusion (ha.symm.trans ((hw w hm).1 g))⟩
    inactive w hm := (hw w hm).1
    down g := by cases g <;> rw [hsh] <;> rfl
    untold := by rw [hsh]
    bounds := by rw [hsh] }

/-- A station has the route, and then the modem that is called behind it. -/
theorem default_gateway_agrees_staThenModem :
    (∀ pre, pre <+: [upstream 0, upstream 1] → (pre.foldl (dispatch ⟨true, true⟩) staAndModem).Agrees) ↔
      EachStep (dispatch ⟨true, true⟩) (TakenLast ⟨true, true⟩) staAndModem [upstream 0, upstream 1] :=
  default_gateway_agrees_iff _ (idle_of_all rfl rfl) ⟨headersKnown_of_all rfl, headersKnown_of_all rfl, trivial⟩

/-- The modem that is called first takes the route from the one behind it: it has it, but it is cleared and down. -/
theorem not_default_gateway_agrees_twoModems :
    twoModems.Idle ∧ EachStep (dispatch ⟨true, true⟩) (HeadersKnown ⟨true, true⟩) twoModems [upstream 1, upstream 0] ∧
      ¬ ∀ pre, pre <+: [upstream 1, upstream 0] → (pre.foldl (dispatch ⟨true, true⟩) twoModems).Agrees := by
  refine ⟨idle_of_all rfl rfl, ⟨headersKnown_of_all rfl, headersKnown_of_all rfl, trivial⟩, fun h => ?_⟩
  have hup := ((h _ (List.prefix_refl _)).gateway .v4).up
  have hflag : ([upstream 1, upstream 0].foldl (dispatch ⟨true, true⟩) twoModems).sh.up .v4 = false := rfl
  rw [hflag] at hup
  exact Bool.noConfusion (hup.2 ⟨_, List.mem_cons_self, rfl⟩)

end WanSys

end HiaeCommon
