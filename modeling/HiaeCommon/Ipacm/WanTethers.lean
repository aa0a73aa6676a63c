/-
The lists of the interfaces that are tethered to the upstream
(`ipa_if_num_tether_v4`, `ipa_if_num_tether_v6` of `ipacm/src/IPACM_Wan.cpp`),
and what one instance makes of them at an upstream event: an add writes its
interface behind the others without a look at them, whether the instance becomes
active or not; a delete is for an active instance only, and takes the first copy.
-/
import HiaeCommon.Ipacm.WanGatewayRuns

namespace HiaeCommon

open Lib (Announcing)

/-- `IPA_WAN_UPSTREAM_ROUTE_ADD_EVENT`, `IPA_WAN_UPSTREAM_ROUTE_DEL_EVENT`. -/
inductive UpstreamEvt
  | add (data : UpstreamRoute)
  | del (data : UpstreamRoute)
  deriving DecidableEq, Repr

namespace UpstreamEvt

def route : UpstreamEvt → WanRouteEvt
  | .add data => .upstreamRouteAdd data
  | .del data => .upstreamRouteDel data

/-- What an event says of a tethered interface, if it is one of the family for that upstream. -/
def tells (ipaIfNum : Nat) (g : IpFamily) (tether : Option Nat) : UpstreamEvt → Option Bool
  | .add data =>
    if data.ipaIfIndex = some ipaIfNum ∧ data.iptype = g.iptype ∧ data.ipaIfIndexTether = tether then some true else none
  | .del data =>
    if data.ipaIfIndex = some ipaIfNum ∧ data.iptype = g.iptype ∧ data.ipaIfIndexTether = tether then some false else none

end UpstreamEvt

namespace WanShared

/-- `isWanUP`. -/
def isWanUP (sh : WanShared) (ipaIfNumTether : Nat) : Bool :=
  if sh.ipaIfNumTetherV4.contains (some ipaIfNumTether) then sh.wanUp else false

/-- `isWanUP_V6`. -/
def isWanUPV6 (sh : WanShared) (ipaIfNumTether : Nat) : Bool :=
  if sh.ipaIfNumTetherV6.contains (some ipaIfNumTether) then sh.wanUpV6 else false

/-- The answer for the family. -/
def wanUpFor (sh : WanShared) : IpFamily → Nat → Bool
  | .v4 => sh.isWanUP
  | .v6 => sh.isWanUPV6

theorem wanUpFor_iff (sh : WanShared) (g : IpFamily) (t : Nat) :
    sh.wanUpFor g t = true ↔ some t ∈ sh.tether g ∧ sh.up g = true := by
  cases g <;> simp [wanUpFor, isWanUP, isWanUPV6, tether, up]

end WanShared

namespace Wan

variable {b : WanBuild} {w : Wan} {s : WanShared} {f g : IpFamily} {data : UpstreamRoute}

/-- The instance is active once an upstream route of its own has been added: it is already, or it has the properties
and the header. -/
def GoesUp (b : WanBuild) (w : Wan) (g : IpFamily) (data : UpstreamRoute) : Prop :=
  w.active g = true ∨ w.canRoute = true ∧ (w.isSta = true → (w.atRoute b g (.upstreamRouteAdd data)).headerSet g = true)

/-! ## The lists -/

theorem postWanUpTetherEvt_tether (f : IpFamily) (i : Option Nat) (p : Wan × WanShared) :
    (postWanUpTetherEvt f.iptype i p).2.tether f =
      if (p.2.tether f).length < ipaMaxIfaceEntries then p.2.tether f ++ [i] else p.2.tether f := by
  obtain ⟨w, s⟩ := p
  cases f
  all_goals
    simp only [postWanUpTetherEvt, IpFamily.iptype, if_true, reduceCtorEq, if_false, WanShared.tether]
    split
    next h => exact (if_pos h).symm
    next h => exact (if_neg h).symm

theorem postWanUpTetherEvt_tether_ne (hfg : f ≠ g) (i : Option Nat) (p : Wan × WanShared) :
    (postWanUpTetherEvt f.iptype i p).2.tether g = p.2.tether g := by
  obtain ⟨w, s⟩ := p
  cases f <;> cases g <;> first | exact absurd rfl hfg | skip
  all_goals
    simp only [postWanUpTetherEvt, IpFamily.iptype, if_true, reduceCtorEq, if_false, WanShared.tether]
    split <;> rfl

theorem postWanDownTetherEvt_tether (f : IpFamily) (i : Option Nat) (w : Wan) (s : WanShared) :
    (postWanDownTetherEvt f.iptype i w s).tether f = (s.tether f).erase i := by
  cases f
  all_goals
    simp only [postWanDownTetherEvt, IpFamily.iptype, if_true, reduceCtorEq, if_false, WanShared.tether]
    split
    · rfl
    next h => exact (List.erase_of_not_mem fun hmem => h (List.contains_iff_mem.2 hmem)).symm

theorem postWanDownTetherEvt_tether_ne (hfg : f ≠ g) (i : Option Nat) (w : Wan) (s : WanShared) :
    (postWanDownTetherEvt f.iptype i w s).tether g = s.tether g := by
  cases f <;> cases g <;> first | exact absurd rfl hfg | skip
  all_goals
    simp only [postWanDownTetherEvt, IpFamily.iptype, if_true, reduceCtorEq, if_false, WanShared.tether]
    split <;> rfl

/-! ## One instance -/

/-- A route of the instance's own, where it goes up or is up. -/
theorem ownRoute_up (hw : w.Settled) (h : w.GoesUp b f data) (s : WanShared) :
    (ownRoute b f (.upstreamRouteAdd data) w s).1.Settled ∧ SameTether s (ownRoute b f (.upstreamRouteAdd data) w s).2 ∧
      (w.active f = true → (announcing f).Stays w s (ownRoute b f (.upstreamRouteAdd data) w s)) ∧
      (w.active f = false → (announcing f).Takes w (ownRoute b f (.upstreamRouteAdd data) w s)) ∧
      ∀ g, f ≠ g → (announcing g).Stays w s (ownRoute b f (.upstreamRouteAdd data) w s) := by
  cases ha : w.active f with
  | true =>
    have he : ownRoute b f (.upstreamRouteAdd data) w s = (w, s) := if_neg fun h => Bool.noConfusion (ha.symm.trans h)
    rw [he]
    exact ⟨hw, ⟨fun _ => rfl, rfl⟩, fun _ => ⟨rfl, rfl, rfl, rfl⟩, fun h => Bool.noConfusion h, fun _ _ => ⟨rfl, rfl, rfl, rfl⟩⟩
  | false =>
    obtain ⟨hcan, hheader⟩ := h.resolve_left fun h => Bool.noConfusion (ha.symm.trans h)
    obtain ⟨hcalled, hsame⟩ := ownRoute_called (s := s) hheader
    refine ⟨hcalled.settled hw, hsame, fun h => Bool.noConfusion h, fun _ => (hcalled.takes f ?_).2, fun g hfg => ownRoute_stays hheader hfg⟩
    rw [hcan, ha, beq_self_eq_true]
    rfl

/-- And where it does not: the interface is tethered to an instance that is not active. -/
theorem ownRoute_waits (h : ¬ w.GoesUp b f data) (s : WanShared) :
    (ownRoute b f (.upstreamRouteAdd data) w s).1.active f = false ∧ SameTether s (ownRoute b f (.upstreamRouteAdd data) w s).2 := by
  have ha : w.active f = false := Bool.eq_false_iff.2 fun ha => h (.inl ha)
  have he : ownRoute b f (.upstreamRouteAdd data) w s = handleRouteAddEvt f.iptype (w.atRoute b f (.upstreamRouteAdd data), s) := if_pos ha
  obtain ⟨hstays, hlike⟩ := atRoute_stays b w f f (.upstreamRouteAdd data) s
  have hidle : (w.atRoute b f (.upstreamRouteAdd data)).active f = false := hstays.holds.trans ha
  rw [he]
  by_cases hheader : (w.atRoute b f (.upstreamRouteAdd data)).isSta = true → (w.atRoute b f (.upstreamRouteAdd data)).headerSet f = true
  · have hcan : (w.atRoute b f (.upstreamRouteAdd data)).canRoute = false :=
      Bool.eq_false_iff.2 fun hcan => h (.inr ⟨hlike.canRoute.symm.trans hcan, fun hsta => hheader (hlike.sta.trans hsta)⟩)
    exact ⟨(handleRouteAddEvt_stays hheader (.inl hcan) s).holds.trans hidle, handleRouteAddEvt_tether hheader s⟩
  · obtain ⟨hsta, hno⟩ := not_forall.1 hheader
    generalize w.atRoute b f (.upstreamRouteAdd data) = w' at hsta hno hidle
    -- the route waits for the header
    unfold handleRouteAddEvt
    dsimp only
    by_cases ht : w'.txProp = false
    · rw [if_pos ht]
      exact ⟨hidle, fun _ => rfl, rfl⟩
    · have hmode : { w' with isDefaultGateway := true }.isSta = true := hsta
      have hno := Bool.eq_false_iff.2 hno
      rw [if_neg ht, if_pos hmode]
      cases f with
      | v4 =>
        rw [if_pos ⟨rfl, hno⟩]
        exact ⟨hidle, fun g => by cases g <;> rfl, rfl⟩
      | v6 =>
        have hne : ¬ (IpFamily.v6.iptype = .v4 ∧ w'.headerSetV4 = false) := fun h => nomatch h.1
        have hwaits : IpFamily.v6.iptype = .v6 ∧ w'.headerSetV6 = false := ⟨rfl, hno⟩
        rw [if_neg hne, if_pos hwaits]
        exact ⟨hidle, fun g => by cases g <;> rfl, rfl⟩

/-- An upstream route of the family for an instance that takes such routes. -/
theorem upstreamAdd_own (hand : b.featureIpaAndroid = true) (hw : w.Settled) (hown : data.ipaIfIndex = some w.ipaIfNum)
    (hf : data.iptype = f.iptype) (hacc : w.accepts f = true) (s : WanShared) :
    eventCallback b (.upstreamRouteAdd data) w s =
      postWanUpTetherEvt f.iptype data.ipaIfIndexTether (ownRoute b f (.upstreamRouteAdd data) w s) := by
  have hone : ∀ f', data.iptype = f'.iptype → f' = f := fun f' hf' => by
    have heq := hf'.symm.trans hf
    cases f <;> cases f' <;> first | rfl | cases heq
  rcases upstreamRouteAdd_own (b := b) (s := s) hw hown with ⟨f', hf', -, he⟩ | ⟨hno, -⟩
  · rw [if_pos hand, hone f' hf'] at he
    exact he
  · exact Bool.noConfusion (hacc.symm.trans (hno f hf))

/-- The interface is written down and the instance is as it was after the route. -/
theorem upstreamAdd_lists (hand : b.featureIpaAndroid = true) (hw : w.Settled) (hown : data.ipaIfIndex = some w.ipaIfNum)
    (hf : data.iptype = f.iptype) (hacc : w.accepts f = true) (s : WanShared) :
    (eventCallback b (.upstreamRouteAdd data) w s).2.tether f =
        (if (s.tether f).length < ipaMaxIfaceEntries then s.tether f ++ [data.ipaIfIndexTether] else s.tether f) ∧
      (eventCallback b (.upstreamRouteAdd data) w s).2.outOfBounds =
        (s.outOfBounds || decide (ipaMaxIfaceEntries ≤ (s.tether f).length)) ∧
      (∀ g, f ≠ g → (eventCallback b (.upstreamRouteAdd data) w s).2.tether g = s.tether g) ∧
      (eventCallback b (.upstreamRouteAdd data) w s).1 = (ownRoute b f (.upstreamRouteAdd data) w s).1 := by
  have hsame : SameTether s (ownRoute b f (.upstreamRouteAdd data) w s).2 := by
    by_cases hup : w.GoesUp b f data
    · exact (ownRoute_up hw hup s).2.1
    · exact (ownRoute_waits hup s).2
  rw [upstreamAdd_own hand hw hown hf hacc s]
  refine ⟨?_, ?_, fun g hfg => ?_, (postWanUpTetherEvt_stays f f data.ipaIfIndexTether _).2⟩
  · rw [postWanUpTetherEvt_tether, hsame.tether f]
  · obtain ⟨t4, t6, m, -, he⟩ := postWanUpTetherEvt_eq f data.ipaIfIndexTether
      (ownRoute b f (.upstreamRouteAdd data) w s).1 (ownRoute b f (.upstreamRouteAdd data) w s).2
    rw [he, ← hsame.tether f, ← hsame.bounds]
    rfl
  · rw [postWanUpTetherEvt_tether_ne hfg, hsame.tether g]

/-- An instance that goes up, or is up. -/
theorem upstreamAdd_up (hand : b.featureIpaAndroid = true) (hw : w.Settled) (hown : data.ipaIfIndex = some w.ipaIfNum)
    (hf : data.iptype = f.iptype) (hacc : w.accepts f = true) (hup : w.GoesUp b f data) (s : WanShared) :
    (eventCallback b (.upstreamRouteAdd data) w s).1.Settled ∧
      (w.active f = true → (announcing f).Stays w s (eventCallback b (.upstreamRouteAdd data) w s)) ∧
      (w.active f = false → (announcing f).Takes w (eventCallback b (.upstreamRouteAdd data) w s)) ∧
      ∀ g, f ≠ g → (announcing g).Stays w s (eventCallback b (.upstreamRouteAdd data) w s) := by
  obtain ⟨hsettled, -, hstays, htakes, hothers⟩ := ownRoute_up hw hup s
  have hpost := fun g => (postWanUpTetherEvt_stays f g data.ipaIfIndexTether (ownRoute b f (.upstreamRouteAdd data) w s)).1
  rw [(upstreamAdd_lists hand hw hown hf hacc s).2.2.2, upstreamAdd_own hand hw hown hf hacc s]
  exact ⟨hsettled, fun ha => (hstays ha).trans (hpost f), fun ha => (htakes ha).stays (hpost f), fun g hfg => (hothers g hfg).trans (hpost g)⟩

/-- And for one that does not. -/
theorem upstreamAdd_none (hw : w.Settled) (hown : data.ipaIfIndex = some w.ipaIfNum)
    (hacc : ∀ f, data.iptype = f.iptype → w.accepts f = false) (s : WanShared) :
    eventCallback b (.upstreamRouteAdd data) w s = (w, s) := by
  rcases upstreamRouteAdd_own (b := b) (s := s) hw hown with ⟨f, hf, hacc', -⟩ | ⟨-, he⟩
  · exact Bool.noConfusion (hacc'.symm.trans (hacc f hf))
  · exact he

/-- What a delete does to the instance that is active: the interface goes, and with the last one the route. -/
theorem upstreamDel_active (hand : b.featureIpaAndroid = true) (hw : w.Settled) (hown : data.ipaIfIndex = some w.ipaIfNum)
    (hf : data.iptype = f.iptype) (ha : w.active f = true) (s : WanShared) :
    (eventCallback b (.upstreamRouteDel data) w s).2.tether f = (s.tether f).erase data.ipaIfIndexTether ∧
      ((s.tether f).erase data.ipaIfIndexTether ≠ [] → (announcing f).Stays w s (eventCallback b (.upstreamRouteDel data) w s)) ∧
      ((s.tether f).erase data.ipaIfIndexTether = [] → (announcing f).Leaves w (eventCallback b (.upstreamRouteDel data) w s)) ∧
      ∀ g, f ≠ g → (announcing g).Stays w s (eventCallback b (.upstreamRouteDel data) w s) ∧
        (eventCallback b (.upstreamRouteDel data) w s).2.tether g = s.tether g := by
  obtain ⟨w', hlike, hstays, he⟩ : ∃ w', Like w w' ∧ (∀ g s, (announcing g).Stays w s (w', s)) ∧
      eventCallback b (.upstreamRouteDel data) w s =
        if (postWanDownTetherEvt f.iptype data.ipaIfIndexTether w' s).tether f ≠ []
        then (w', postWanDownTetherEvt f.iptype data.ipaIfIndexTether w' s)
        else defaultRouteDown f.iptype (w', postWanDownTetherEvt f.iptype data.ipaIfIndexTether w' s) := by
    have he : eventCallback b (.upstreamRouteDel data) w s = upstreamRouteDel b data (w, s) := rfl
    rw [he]
    unfold upstreamRouteDel
    dsimp only
    rw [if_pos hown]
    cases f with
    | v4 =>
      refine ⟨{ w with wanV4AddrGwSet := false }, ⟨rfl, rfl, rfl, rfl, rfl, fun g => by cases g <;> rfl, rfl, rfl⟩,
        fun g s => by cases g <;> exact ⟨rfl, rfl, rfl, rfl⟩, ?_⟩
      rw [if_pos ⟨hf, ha⟩, if_pos hand, cleanRoute_eq]
      simp only [hand, true_and]
      rfl
    | v6 =>
      refine ⟨w, (Called.refl w s).like, fun g s => ⟨rfl, rfl, rfl, rfl⟩, ?_⟩
      rw [if_neg fun h => (nomatch h.1.symm.trans hf), if_pos ⟨hf, ha⟩, if_pos hand, cleanRoute_eq]
      simp only [hand, true_and]
      rfl
  have hw' : w'.txProp = true := hlike.txProp.trans (hw.txProp f ha)
  have ha' : w'.active f = true := (hstays f s).holds.trans ha
  have hpost : ∀ g, (announcing g).Stays w s (w', postWanDownTetherEvt f.iptype data.ipaIfIndexTether w' s) := fun g =>
    (hstays g s).trans (postWanDownTetherEvt_stays f g data.ipaIfIndexTether w' s).1
  have htether := postWanDownTetherEvt_tether f data.ipaIfIndexTether w' s
  have hother : ∀ g, f ≠ g → (postWanDownTetherEvt f.iptype data.ipaIfIndexTether w' s).tether g = s.tether g := fun g hfg =>
    postWanDownTetherEvt_tether_ne hfg data.ipaIfIndexTether w' s
  generalize postWanDownTetherEvt f.iptype data.ipaIfIndexTether w' s = s' at *
  rw [he, htether]
  by_cases hlast : (s.tether f).erase data.ipaIfIndexTether = []
  · have hdown := defaultRouteDown_tether hw' ha' s'
    rw [if_neg (not_not.2 hlast)]
    exact ⟨(hdown.tether f).trans htether, fun h => absurd hlast h, fun _ => (hpost f).leaves (defaultRouteDown_leaves hw' ha' s'),
      fun g hfg => ⟨(hpost g).trans (defaultRouteDown_stays hw' ha' hfg s'), (hdown.tether g).trans (hother g hfg)⟩⟩
  · rw [if_pos hlast]
    exact ⟨htether, fun _ => hpost f, fun h => absurd h hlast, fun g hfg => ⟨hpost g, hother g hfg⟩⟩

/-- A delete says nothing to an instance that is not active. -/
theorem upstreamDel_idle (ha : ∀ f, data.iptype = f.iptype → w.active f = false) (s : WanShared) :
    eventCallback b (.upstreamRouteDel data) w s = (w, s) := by
  have he : eventCallback b (.upstreamRouteDel data) w s = upstreamRouteDel b data (w, s) := rfl
  rw [he]
  unfold upstreamRouteDel
  dsimp only
  split
  · rw [if_neg fun h => Bool.noConfusion (h.2.symm.trans (ha .v4 h.1)), if_neg fun h => Bool.noConfusion (h.2.symm.trans (ha .v6 h.1))]
  · rfl

end Wan

end HiaeCommon
