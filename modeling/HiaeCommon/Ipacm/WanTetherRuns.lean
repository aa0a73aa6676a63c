/-
The lists of the tethered interfaces over runs of the upstream events.

Another upstream that becomes active leaves the list as it is. So the lists are
what the events say as long as no interface is added twice or to a place that is
not there, every add makes its instance active, and an upstream goes with the
last of its interfaces before another comes.
-/
import HiaeCommon.Ipacm.WanTethers

namespace HiaeCommon

open Lib (Announcing EachStep inTurn latest)

namespace WanSys

/-- The events of a run go to every instance. -/
def upstream1 (b : WanBuild) (s : WanSys) (e : UpstreamEvt) : WanSys := s.dispatch b e.route

/-- The latest event for the active upstream of the family was an add. -/
def Tethered (s : WanSys) (es : List UpstreamEvt) (g : IpFamily) (tether : Option Nat) : Prop :=
  ∃ w ∈ s.insts, w.active g = true ∧ latest (UpstreamEvt.tells w.ipaIfNum g tether) es = true

/-- What is expected of the list of a family. -/
structure TethersRight (b : WanBuild) (es : List UpstreamEvt) (s : WanSys) (g : IpFamily) : Prop where
  nodup : (s.sh.tether g).Nodup
  length : (s.sh.tether g).length ≤ ipaMaxIfaceEntries
  held : ∀ t, t ∈ s.sh.tether g ↔ s.Tethered es g t
  isWanUp : ∀ t : Nat, s.sh.wanUpFor g t = true ↔ s.Tethered es g (some t)
  /-- A delete that comes now keeps the other interfaces. -/
  others : ∀ data t, t ≠ data.ipaIfIndexTether → (t ∈ (s.upstream1 b (.del data)).sh.tether g ↔ t ∈ s.sh.tether g)

structure TetherListsRight (b : WanBuild) (es : List UpstreamEvt) (s : WanSys) : Prop where
  family : ∀ g, s.TethersRight b es g
  bounds : s.sh.outOfBounds = false

/-- The condition on an event: it is a delete, or an add that finds no other upstream active, and at the instance that
takes it, if any, a new interface and a place for it. -/
def TetherFits (b : WanBuild) (s : WanSys) : UpstreamEvt → Prop
  | .add data => ∀ g, data.iptype = g.iptype → ∀ w ∈ s.insts,
    if data.ipaIfIndex = some w.ipaIfNum then
      w.accepts g = true →
        w.GoesUp b g data ∧ data.ipaIfIndexTether ∉ s.sh.tether g ∧ (s.sh.tether g).length < ipaMaxIfaceEntries
    else w.active g = false
  | .del _ => True

variable {b : WanBuild} {s : WanSys} {es : List UpstreamEvt} {e : UpstreamEvt} {f g : IpFamily} {w : Wan} {data : UpstreamRoute}

/-! ## One event -/

/-- What holds of a family between the events: its list is that of the active instance, if one is, and empty if none is. -/
structure TetherInv (es : List UpstreamEvt) (s : WanSys) (g : IpFamily) : Prop where
  agrees : (announcing g).Agrees s.insts s.sh
  accepts : ∀ w ∈ s.insts, w.active g = true → w.accepts g = true
  held : ∀ w ∈ s.insts, w.active g = true → ∀ t, t ∈ s.sh.tether g ↔ latest (UpstreamEvt.tells w.ipaIfNum g t) es = true
  idle : ∀ w ∈ s.insts, w.active g = false → w.accepts g = true → ∀ t, latest (UpstreamEvt.tells w.ipaIfNum g t) es = false
  active : s.sh.tether g ≠ [] ↔ ∃ w ∈ s.insts, w.active g = true
  nodup : (s.sh.tether g).Nodup
  length : (s.sh.tether g).length ≤ ipaMaxIfaceEntries

structure ListsInv (es : List UpstreamEvt) (s : WanSys) : Prop where
  settled : ∀ w ∈ s.insts, w.Settled
  family : ∀ g, TetherInv es s g
  bounds : s.sh.outOfBounds = false

theorem TetherInv.up (h : TetherInv es s g) : s.sh.up g = true ↔ ∃ w ∈ s.insts, w.active g = true :=
  (Announcing.agrees_iff.1 h.agrees).2.1

/-- What the invariant comes to. -/
theorem TetherInv.tethered (h : TetherInv es s g) (t : Option Nat) : t ∈ s.sh.tether g ↔ s.Tethered es g t := by
  constructor
  · intro ht
    obtain ⟨w, hw, ha⟩ := h.active.1 (List.ne_nil_of_mem ht)
    exact ⟨w, hw, ha, (h.held w hw ha t).1 ht⟩
  · rintro ⟨w, hw, ha, hlatest⟩
    exact (h.held w hw ha t).2 hlatest

theorem TetherInv.wanUp (h : TetherInv es s g) (t : Nat) : s.sh.wanUpFor g t = true ↔ s.Tethered es g (some t) := by
  rw [WanShared.wanUpFor_iff, ← h.tethered]
  exact and_iff_left_of_imp fun ht => h.up.2 (h.active.1 (List.ne_nil_of_mem ht))

/-- Everybody after an event has been somebody before it. -/
theorem mem_upstream1 {w' : Wan} (h : w' ∈ (s.upstream1 b e).insts) :
    ∃ w ∈ s.insts, ∃ sh, w' = (w.eventCallback b e.route sh).1 :=
  Announcing.mem_inTurn h

theorem upstream1_mem (b : WanBuild) (e : UpstreamEvt) (h : w ∈ s.insts) : ∃ sh, (w.eventCallback b e.route sh).1 ∈ (s.upstream1 b e).insts :=
  Announcing.inTurn_mem h

theorem iface (b : WanBuild) (e : UpstreamEvt) (w : Wan) (sh : WanShared) : (w.eventCallback b e.route sh).1.ipaIfNum = w.ipaIfNum :=
  Wan.eventCallback_iface b e.route w sh

theorem takesRoutes (b : WanBuild) (e : UpstreamEvt) (w : Wan) (g : IpFamily) (sh : WanShared) :
    (w.eventCallback b e.route sh).1.accepts g = w.accepts g :=
  Wan.accepts_of_fixed (Wan.eventCallback_fixed b e.route w sh) g

/-- An event that leaves the family alone. -/
theorem TetherInv.stays (h : TetherInv es s g) (hstays : ∀ w ∈ s.insts, ∀ sh, (announcing g).Stays w sh (w.eventCallback b e.route sh))
    (htether : (s.upstream1 b e).sh.tether g = s.sh.tether g)
    (htells : ∀ w ∈ s.insts, w.accepts g = true → ∀ t,
      latest (UpstreamEvt.tells w.ipaIfNum g t) (es ++ [e]) = latest (UpstreamEvt.tells w.ipaIfNum g t) es) :
    TetherInv (es ++ [e]) (s.upstream1 b e) g := by
  have hactive : ∀ w ∈ s.insts, ∀ sh, (w.eventCallback b e.route sh).1.active g = w.active g := fun w hw sh => (hstays w hw sh).holds
  refine ⟨h.agrees.keep fun w hw sh => .inl (hstays w hw sh), ?_, ?_, ?_, ?_, by rw [htether]; exact h.nodup, by rw [htether]; exact h.length⟩
  · intro w' hw' ha
    obtain ⟨w, hw, sh, rfl⟩ := mem_upstream1 hw'
    rw [takesRoutes]
    exact h.accepts w hw ((hactive w hw sh).symm.trans ha)
  · intro w' hw' ha t
    obtain ⟨w, hw, sh, rfl⟩ := mem_upstream1 hw'
    have ha := (hactive w hw sh).symm.trans ha
    rw [htether, iface, htells w hw (h.accepts w hw ha)]
    exact h.held w hw ha t
  · intro w' hw' ha hacc t
    obtain ⟨w, hw, sh, rfl⟩ := mem_upstream1 hw'
    rw [takesRoutes] at hacc
    rw [iface, htells w hw hacc]
    exact h.idle w hw ((hactive w hw sh).symm.trans ha) hacc t
  · rw [htether, h.active]
    constructor
    · rintro ⟨w, hw, ha⟩
      obtain ⟨sh, hmem⟩ := upstream1_mem b e hw
      exact ⟨_, hmem, (hactive w hw sh).trans ha⟩
    · rintro ⟨w', hw', ha⟩
      obtain ⟨w, hw, sh, rfl⟩ := mem_upstream1 hw'
      exact ⟨w, hw, (hactive w hw sh).symm.trans ha⟩

/-- An add writes its interface behind the others, if there is a place. -/
theorem upstream1_add_tether (hand : b.featureIpaAndroid = true) (hs : ∀ w ∈ s.insts, w.Settled) (hw : w ∈ s.insts)
    (hown : data.ipaIfIndex = some w.ipaIfNum) (hf : data.iptype = f.iptype) (hacc : w.accepts f = true) :
    (s.upstream1 b (.add data)).sh.tether f =
        (if (s.sh.tether f).length < ipaMaxIfaceEntries then s.sh.tether f ++ [data.ipaIfIndexTether] else s.sh.tether f) ∧
      (s.upstream1 b (.add data)).sh.outOfBounds =
        (s.sh.outOfBounds || decide (ipaMaxIfaceEntries ≤ (s.sh.tether f).length)) ∧
      ∀ g, f ≠ g → (s.upstream1 b (.add data)).sh.tether g = s.sh.tether g := by
  obtain ⟨sh, h₁, h₂, -⟩ := dispatch_own (b := b) (e := .upstreamRouteAdd data) hs hw hown
  obtain ⟨htether, hbounds, hothers, -⟩ := Wan.upstreamAdd_lists hand (hs w hw) hown hf hacc sh
  rw [h₁.tether f] at htether hbounds
  refine ⟨(h₂.tether f).trans htether, ?_, fun g hfg => (h₂.tether g).trans ((hothers g hfg).trans (h₁.tether g))⟩
  rw [← h₁.bounds]
  exact h₂.bounds.trans hbounds

/-- An add that no instance takes leaves the lists alone. -/
theorem upstream1_add_none (hs : ∀ w ∈ s.insts, w.Settled)
    (hno : ∀ w ∈ s.insts, ∀ f, data.ipaIfIndex = some w.ipaIfNum → data.iptype = f.iptype → w.accepts f = false) :
    Wan.SameTether s.sh (s.upstream1 b (.add data)).sh := by
  by_cases hex : ∃ w ∈ s.insts, data.ipaIfIndex = some w.ipaIfNum
  · obtain ⟨w, hw, hown⟩ := hex
    obtain ⟨sh, h₁, h₂, -⟩ := dispatch_own (b := b) (e := .upstreamRouteAdd data) hs hw hown
    rw [Wan.upstreamAdd_none (hs w hw) hown fun f => hno w hw f hown] at h₂
    exact h₁.trans h₂
  · exact dispatch_nobody (e := .upstreamRouteAdd data) hs fun w hw hown => hex ⟨w, hw, hown⟩

/-- For the other instances an add is the end of what they have. -/
theorem add_clears (hs : ∀ w ∈ s.insts, w.Settled) (hf : data.iptype = f.iptype) (hw : w ∈ s.insts)
    (hne : data.ipaIfIndex ≠ some w.ipaIfNum) (sh : WanShared) :
    (announcing f).Clears w sh (w.eventCallback b (.upstreamRouteAdd data) sh) :=
  ((Wan.eventCallback_other (e := .upstreamRouteAdd data) (hs w hw) hne).2.2 f).1 (beq_iff_eq.2 hf)

theorem inactive_of_clears {sh : WanShared} {p : Wan × WanShared} (h : (announcing g).Clears w sh p) : p.1.active g = false := by
  cases ha : w.active g with
  | true => exact (h.leaves ha).holds
  | false => exact (h.stays ha).holds.trans ha

theorem tells_add_own (hown : data.ipaIfIndex = some w.ipaIfNum) (hf : data.iptype = f.iptype) (t : Option Nat) :
    (UpstreamEvt.add data).tells w.ipaIfNum f t = if data.ipaIfIndexTether = t then some true else none := by
  simp only [UpstreamEvt.tells, hown, hf, true_and]

theorem tells_del_own (hown : data.ipaIfIndex = some w.ipaIfNum) (hf : data.iptype = f.iptype) (t : Option Nat) :
    (UpstreamEvt.del data).tells w.ipaIfNum f t = if data.ipaIfIndexTether = t then some false else none := by
  simp only [UpstreamEvt.tells, hown, hf, true_and]

theorem tells_add_none (h : ¬ (data.ipaIfIndex = some w.ipaIfNum ∧ data.iptype = f.iptype)) (t : Option Nat) :
    (UpstreamEvt.add data).tells w.ipaIfNum f t = none :=
  if_neg fun ht => h ⟨ht.1, ht.2.1⟩

theorem tells_del_none (h : ¬ (data.ipaIfIndex = some w.ipaIfNum ∧ data.iptype = f.iptype)) (t : Option Nat) :
    (UpstreamEvt.del data).tells w.ipaIfNum f t = none :=
  if_neg fun ht => h ⟨ht.1, ht.2.1⟩

/-- **An add** of a new interface, with a place for it, that no other upstream is in the way of. -/
theorem ListsInv.added (hand : b.featureIpaAndroid = true) (h : ListsInv es s) (hw : w ∈ s.insts)
    (hown : data.ipaIfIndex = some w.ipaIfNum) (hf : data.iptype = f.iptype) (hacc : w.accepts f = true)
    (hup : w.GoesUp b f data) (hnew : data.ipaIfIndexTether ∉ s.sh.tether f) (hroom : (s.sh.tether f).length < ipaMaxIfaceEntries)
    (hothers : ∀ x ∈ s.insts, data.ipaIfIndex ≠ some x.ipaIfNum → x.active f = false) :
    TetherInv (es ++ [.add data]) (s.upstream1 b (.add data)) f := by
  have hinv := h.family f
  have hcall := fun sh => Wan.upstreamAdd_up hand (h.settled w hw) hown hf hacc hup sh
  have hactive : ∀ sh, (w.eventCallback b (.upstreamRouteAdd data) sh).1.active f = true := fun sh => by
    cases ha : w.active f with
    | true => exact ((hcall sh).2.1 ha).holds.trans ha
    | false => exact ((hcall sh).2.2.1 ha).holds
  have hclears : ∀ x ∈ s.insts, data.ipaIfIndex ≠ some x.ipaIfNum → ∀ sh,
      (announcing f).Clears x sh (x.eventCallback b (.upstreamRouteAdd data) sh) := fun x hx hne sh => add_clears h.settled hf hx hne sh
  -- who is active after it is the instance it is for
  have hwho : ∀ x ∈ s.insts, ∀ sh, (x.eventCallback b (.upstreamRouteAdd data) sh).1.active f = true → x = w := fun x hx sh ha => by
    by_cases hne : data.ipaIfIndex = some x.ipaIfNum
    · exact own_unique (e := .upstreamRouteAdd data) hw hown hx hne
    · exact Bool.noConfusion (ha.symm.trans (inactive_of_clears (hclears x hx hne sh)))
  have htether : (s.upstream1 b (.add data)).sh.tether f = s.sh.tether f ++ [data.ipaIfIndexTether] := by
    rw [(upstream1_add_tether hand h.settled hw hown hf hacc).1, if_pos hroom]
  -- before it the list was that of this instance
  have hheld : ∀ t, t ∈ s.sh.tether f ↔ latest (UpstreamEvt.tells w.ipaIfNum f t) es = true := fun t => by
    cases ha : w.active f with
    | true => exact hinv.held w hw ha t
    | false =>
      have hempty : s.sh.tether f = [] := by
        by_contra hne
        obtain ⟨x, hx, hxa⟩ := hinv.active.1 hne
        by_cases hxo : data.ipaIfIndex = some x.ipaIfNum
        · rw [own_unique (e := .upstreamRouteAdd data) hw hown hx hxo] at hxa
          exact Bool.noConfusion (hxa.symm.trans ha)
        · exact Bool.noConfusion (hxa.symm.trans (hothers x hx hxo))
      rw [hempty, hinv.idle w hw ha hacc t]
      exact iff_of_false List.not_mem_nil Bool.false_ne_true
  refine ⟨?_, ?_, ?_, ?_, ?_, ?_, ?_⟩
  · cases ha : w.active f with
    | true =>
      refine hinv.agrees.keep fun x hx sh => .inl ?_
      by_cases hne : data.ipaIfIndex = some x.ipaIfNum
      · rw [own_unique (e := .upstreamRouteAdd data) hw hown hx hne]
        exact (hcall sh).2.1 ha
      · exact (hclears x hx hne sh).stays (hothers x hx hne)
    | false =>
      obtain ⟨l₁, l₂, hl⟩ := List.append_of_mem hw
      have hne := others (e := .upstreamRouteAdd data) hl hown
      unfold upstream1 dispatch
      dsimp only
      rw [hl]
      refine (Announcing.agrees_take_clears (fun x hx sh => hclears x (mem_others hl hx) (hne x hx) sh) fun sh => (hcall sh).2.2.1 ha).2
        fun x hx => ?_
      have hx := List.mem_append_right l₁ hx
      exact hothers x (mem_others hl hx) (hne x hx)
  · intro x' hx' ha
    obtain ⟨x, hx, sh, rfl⟩ := mem_upstream1 hx'
    rw [takesRoutes, hwho x hx sh ha]
    exact hacc
  · intro x' hx' ha t
    obtain ⟨x, hx, sh, rfl⟩ := mem_upstream1 hx'
    rw [htether, iface, hwho x hx sh ha, List.mem_append, List.mem_singleton, Lib.latest_concat, tells_add_own hown hf, hheld]
    by_cases ht : data.ipaIfIndexTether = t
    · rw [if_pos ht]
      exact iff_of_true (.inr ht.symm) rfl
    · rw [if_neg ht]
      exact or_iff_left fun he => ht he.symm
  · intro x' hx' ha hacc' t
    obtain ⟨x, hx, sh, rfl⟩ := mem_upstream1 hx'
    rw [takesRoutes] at hacc'
    have hne : data.ipaIfIndex ≠ some x.ipaIfNum := fun hxo => by
      rw [own_unique (e := .upstreamRouteAdd data) hw hown hx hxo] at ha
      exact Bool.noConfusion ((hactive sh).symm.trans ha)
    rw [iface, Lib.latest_concat, tells_add_none fun h => hne h.1]
    exact hinv.idle x hx (hothers x hx hne) hacc' t
  · rw [htether]
    obtain ⟨sh, hmem⟩ := upstream1_mem b (.add data) hw
    exact iff_of_true (List.append_ne_nil_of_right_ne_nil _ (List.cons_ne_nil _ _)) ⟨_, hmem, hactive sh⟩
  · rw [htether, List.nodup_append]
    refine ⟨hinv.nodup, List.nodup_singleton _, fun a ha b hb he => ?_⟩
    rw [List.mem_singleton.1 hb] at he
    exact hnew (he ▸ ha)
  · rw [htether, List.length_append]
    exact hroom

/-- A delete takes its interface from the list of the instance that is active, and from no other list. -/
theorem upstream1_del_tether (hand : b.featureIpaAndroid = true) (hs : ∀ w ∈ s.insts, w.Settled) (hw : w ∈ s.insts)
    (hown : data.ipaIfIndex = some w.ipaIfNum) (hf : data.iptype = f.iptype) (ha : w.active f = true) :
    (s.upstream1 b (.del data)).sh.tether f = (s.sh.tether f).erase data.ipaIfIndexTether ∧
      (s.upstream1 b (.del data)).sh.outOfBounds = s.sh.outOfBounds ∧
      ∀ g, f ≠ g → (s.upstream1 b (.del data)).sh.tether g = s.sh.tether g := by
  obtain ⟨sh, h₁, h₂, -⟩ := dispatch_own (b := b) (e := .upstreamRouteDel data) hs hw hown
  obtain ⟨htether, -, -, hothers⟩ := Wan.upstreamDel_active hand (hs w hw) hown hf ha sh
  have hbounds := (Wan.routeDel_called (b := b) (s := sh) (hs w hw) (.inl ⟨data, rfl⟩)).2
  rw [h₁.tether f] at htether
  exact ⟨(h₂.tether f).trans htether, h₂.bounds.trans (hbounds.trans h₁.bounds),
    fun g hfg => (h₂.tether g).trans ((hothers g hfg).2.trans (h₁.tether g))⟩

/-- An instance that is not active has nothing to do with a delete. -/
theorem upstream1_del_idle (hs : ∀ w ∈ s.insts, w.Settled)
    (hidle : ∀ w ∈ s.insts, ∀ f, data.ipaIfIndex = some w.ipaIfNum → data.iptype = f.iptype → w.active f = false) :
    Wan.SameTether s.sh (s.upstream1 b (.del data)).sh := by
  by_cases hex : ∃ w ∈ s.insts, data.ipaIfIndex = some w.ipaIfNum
  · obtain ⟨w, hw, hown⟩ := hex
    obtain ⟨sh, h₁, h₂, -⟩ := dispatch_own (b := b) (e := .upstreamRouteDel data) hs hw hown
    rw [Wan.upstreamDel_idle fun f hf => hidle w hw f hown hf] at h₂
    exact h₁.trans h₂
  · exact dispatch_nobody (e := .upstreamRouteDel data) hs fun w hw hown => hex ⟨w, hw, hown⟩

/-- For the other instances a delete is nothing. -/
theorem del_other (hs : ∀ w ∈ s.insts, w.Settled) (hw : w ∈ s.insts) (hne : data.ipaIfIndex ≠ some w.ipaIfNum) (g : IpFamily)
    (sh : WanShared) : (announcing g).Stays w sh (w.eventCallback b (.upstreamRouteDel data) sh) :=
  ((Wan.eventCallback_other (e := .upstreamRouteDel data) (hs w hw) hne).2.2 g).2 rfl

/-- **A delete** for the active instance. -/
theorem ListsInv.deleted (hand : b.featureIpaAndroid = true) (h : ListsInv es s) (hw : w ∈ s.insts)
    (hown : data.ipaIfIndex = some w.ipaIfNum) (hf : data.iptype = f.iptype) (ha : w.active f = true) :
    TetherInv (es ++ [.del data]) (s.upstream1 b (.del data)) f := by
  have hinv := h.family f
  have hcall := fun sh => Wan.upstreamDel_active hand (h.settled w hw) hown hf ha sh
  obtain ⟨sh, hsh, -, hmem, hwho⟩ := dispatch_own (b := b) (e := .upstreamRouteDel data) h.settled hw hown
  obtain ⟨htether, -, -⟩ := upstream1_del_tether hand h.settled hw hown hf ha
  have hactive : (w.eventCallback b (.upstreamRouteDel data) sh).1.active f = true ↔
      (s.sh.tether f).erase data.ipaIfIndexTether ≠ [] := by
    rw [← hsh.tether f]
    by_cases hlast : (sh.tether f).erase data.ipaIfIndexTether = []
    · exact iff_of_false (fun hn => Bool.noConfusion (((hcall sh).2.2.1 hlast).holds.symm.trans hn)) (not_not.2 hlast)
    · exact iff_of_true (((hcall sh).2.1 hlast).holds.trans ha) hlast
  -- the others are not active, before it and after it
  have hidle : ∀ x ∈ s.insts, data.ipaIfIndex ≠ some x.ipaIfNum → x.active f = false := fun x hx hne =>
    Bool.eq_false_iff.2 fun hxa => hne (hinv.agrees.unique hx hw hxa ha ▸ hown)
  have hothers : ∀ x ∈ s.insts, data.ipaIfIndex ≠ some x.ipaIfNum → ∀ sh',
      (x.eventCallback b (.upstreamRouteDel data) sh').1.active f = false := fun x hx hne sh' =>
    (del_other h.settled hx hne f sh').holds.trans (hidle x hx hne)
  have hheld : ∀ t, t ∈ (s.sh.tether f).erase data.ipaIfIndexTether ↔
      latest (UpstreamEvt.tells w.ipaIfNum f t) (es ++ [.del data]) = true := fun t => by
    rw [hinv.nodup.mem_erase_iff, Lib.latest_concat, tells_del_own hown hf, hinv.held w hw ha t]
    by_cases ht : data.ipaIfIndexTether = t
    · rw [if_pos ht]
      exact iff_of_false (fun hn => hn.1 ht.symm) Bool.false_ne_true
    · rw [if_neg ht]
      exact and_iff_right fun he => ht he.symm
  refine ⟨?_, ?_, ?_, ?_, ?_, ?_, ?_⟩
  · refine hinv.agrees.keep fun x hx sh' => ?_
    by_cases hne : data.ipaIfIndex = some x.ipaIfNum
    · rw [own_unique (e := .upstreamRouteDel data) hw hown hx hne]
      by_cases hlast : (sh'.tether f).erase data.ipaIfIndexTether = []
      · exact .inr ((hcall sh').2.2.1 hlast)
      · exact .inl ((hcall sh').2.1 hlast)
    · exact .inl (del_other h.settled hx hne f sh')
  · intro x' hx' hxa
    rcases hwho x' hx' with rfl | ⟨x, hx, hne, sh', rfl⟩
    · exact (takesRoutes b (.del data) w f sh).trans (hinv.accepts w hw ha)
    · exact Bool.noConfusion (hxa.symm.trans (hothers x hx hne sh'))
  · intro x' hx' hxa t
    rcases hwho x' hx' with rfl | ⟨x, hx, hne, sh', rfl⟩
    · rw [htether, Wan.eventCallback_iface]
      exact hheld t
    · exact Bool.noConfusion (hxa.symm.trans (hothers x hx hne sh'))
  · intro x' hx' hxa hacc t
    rcases hwho x' hx' with rfl | ⟨x, hx, hne, sh', rfl⟩
    · have hlast : (s.sh.tether f).erase data.ipaIfIndexTether = [] :=
        by_contra fun hn => Bool.noConfusion (hxa.symm.trans (hactive.2 hn))
      rw [Wan.eventCallback_iface, Bool.eq_false_iff]
      intro hlatest
      have ht := (hheld t).2 hlatest
      rw [hlast] at ht
      exact List.not_mem_nil ht
    · rw [Wan.accepts_of_fixed (Wan.eventCallback_fixed _ _ _ _)] at hacc
      rw [Wan.eventCallback_iface, Lib.latest_concat, tells_del_none fun h => hne h.1]
      exact hinv.idle x hx (hidle x hx hne) hacc t
  · rw [htether]
    constructor
    · exact fun hne => ⟨_, hmem, hactive.2 hne⟩
    · rintro ⟨x', hx', hxa⟩
      rcases hwho x' hx' with rfl | ⟨x, hx, hne, sh', rfl⟩
      · exact hactive.1 hxa
      · exact Bool.noConfusion (hxa.symm.trans (hothers x hx hne sh'))
  · rw [htether]
    exact hinv.nodup.erase _
  · rw [htether]
    exact (List.length_erase_le ..).trans hinv.length

theorem iptype_inj (h : f.iptype = g.iptype) : f = g := by
  cases f <;> cases g <;> first | rfl | cases h

/-- An add that an instance takes. -/
theorem ListsInv.taken (hand : b.featureIpaAndroid = true) (h : ListsInv es s) (hfit : s.TetherFits b (.add data)) (hw : w ∈ s.insts)
    (hown : data.ipaIfIndex = some w.ipaIfNum) (hf : data.iptype = f.iptype) (hacc : w.accepts f = true) :
    ListsInv (es ++ [.add data]) (s.upstream1 b (.add data)) := by
  have hfits := hfit f hf w hw
  rw [if_pos hown] at hfits
  obtain ⟨hup, hnew, hroom⟩ := hfits hacc
  have hothers : ∀ x ∈ s.insts, data.ipaIfIndex ≠ some x.ipaIfNum → x.active f = false := fun x hx hne => by
    have hfits := hfit f hf x hx
    rwa [if_neg hne] at hfits
  have hcall := fun sh => Wan.upstreamAdd_up hand (h.settled w hw) hown hf hacc hup sh
  obtain ⟨-, hbounds, htether⟩ := upstream1_add_tether hand h.settled hw hown hf hacc
  refine ⟨fun x' hx' => ?_, fun g => ?_, ?_⟩
  · obtain ⟨x, hx, sh, rfl⟩ := mem_upstream1 hx'
    by_cases hne : data.ipaIfIndex = some x.ipaIfNum
    · rw [own_unique (e := .upstreamRouteAdd data) hw hown hx hne]
      exact (hcall sh).1
    · exact (Wan.eventCallback_other (e := .upstreamRouteAdd data) (h.settled x hx) hne).1.settled (h.settled x hx)
  · by_cases hfg : f = g
    · subst hfg
      exact h.added hand hw hown hf hacc hup hnew hroom hothers
    · have hadds : (WanRouteEvt.upstreamRouteAdd data).adds g = false := Wan.adds_one (beq_iff_eq.2 hf) hfg
      refine (h.family g).stays (fun x hx sh => ?_) (htether g hfg) fun x _ _ t => ?_
      · by_cases hne : data.ipaIfIndex = some x.ipaIfNum
        · rw [own_unique (e := .upstreamRouteAdd data) hw hown hx hne]
          exact (hcall sh).2.2.2 g hfg
        · exact ((Wan.eventCallback_other (e := .upstreamRouteAdd data) (h.settled x hx) hne).2.2 g).2 hadds
      · rw [Lib.latest_concat, tells_add_none fun h => hfg (iptype_inj (hf.symm.trans h.2))]
        rfl
  · rw [hbounds, h.bounds, decide_eq_false (Nat.not_le.2 hroom)]
    rfl

/-- And one that nobody takes. -/
theorem ListsInv.untaken (h : ListsInv es s) (hfit : s.TetherFits b (.add data))
    (hno : ∀ w ∈ s.insts, ∀ f, data.ipaIfIndex = some w.ipaIfNum → data.iptype = f.iptype → w.accepts f = false) :
    ListsInv (es ++ [.add data]) (s.upstream1 b (.add data)) := by
  have hown : ∀ x ∈ s.insts, data.ipaIfIndex = some x.ipaIfNum → ∀ sh,
      x.eventCallback b (.upstreamRouteAdd data) sh = (x, sh) := fun x hx hxo sh =>
    Wan.upstreamAdd_none (h.settled x hx) hxo (fun f => hno x hx f hxo) sh
  have hsame := upstream1_add_none (b := b) h.settled hno
  refine ⟨fun x' hx' => ?_, fun g => ?_, hsame.bounds.trans h.bounds⟩
  · obtain ⟨x, hx, sh, rfl⟩ := mem_upstream1 hx'
    by_cases hne : data.ipaIfIndex = some x.ipaIfNum
    · exact (hown x hx hne sh).symm ▸ h.settled x hx
    · exact (Wan.eventCallback_other (e := .upstreamRouteAdd data) (h.settled x hx) hne).1.settled (h.settled x hx)
  · refine (h.family g).stays (fun x hx sh => ?_) (hsame.tether g) fun x hx hacc t => ?_
    · by_cases hne : data.ipaIfIndex = some x.ipaIfNum
      · rw [show x.eventCallback b (UpstreamEvt.add data).route sh = (x, sh) from hown x hx hne sh]
        exact ⟨rfl, rfl, rfl, rfl⟩
      · have hother := (Wan.eventCallback_other (b := b) (s := sh) (e := .upstreamRouteAdd data) (h.settled x hx) hne).2.2 g
        by_cases hg : data.iptype = g.iptype
        · have hidle := hfit g hg x hx
          rw [if_neg hne] at hidle
          exact (hother.1 (beq_iff_eq.2 hg)).stays hidle
        · exact hother.2 (beq_eq_false_iff_ne.2 hg)
    · rw [Lib.latest_concat, tells_add_none fun hfor => Bool.noConfusion (hacc.symm.trans (hno x hx g hfor.1 hfor.2))]
      rfl

/-- A delete. -/
theorem ListsInv.del (hand : b.featureIpaAndroid = true) (h : ListsInv es s) (data : UpstreamRoute) :
    ListsInv (es ++ [.del data]) (s.upstream1 b (.del data)) := by
  have hsettled : ∀ x' ∈ (s.upstream1 b (.del data)).insts, x'.Settled := fun x' hx' => by
    obtain ⟨x, hx, sh, rfl⟩ := mem_upstream1 hx'
    exact (Wan.routeDel_called (h.settled x hx) (.inl ⟨data, rfl⟩)).1.settled (h.settled x hx)
  by_cases hex : ∃ w ∈ s.insts, ∃ f, data.ipaIfIndex = some w.ipaIfNum ∧ data.iptype = f.iptype ∧ w.active f = true
  · obtain ⟨w, hw, f, hown, hf, ha⟩ := hex
    obtain ⟨-, hbounds, htether⟩ := upstream1_del_tether hand h.settled hw hown hf ha
    refine ⟨hsettled, fun g => ?_, hbounds.trans h.bounds⟩
    by_cases hfg : f = g
    · subst hfg
      exact h.deleted hand hw hown hf ha
    · refine (h.family g).stays (fun x hx sh => ?_) (htether g hfg) fun x _ _ t => ?_
      · by_cases hne : data.ipaIfIndex = some x.ipaIfNum
        · rw [own_unique (e := .upstreamRouteDel data) hw hown hx hne]
          exact ((Wan.upstreamDel_active hand (h.settled w hw) hown hf ha sh).2.2.2 g hfg).1
        · exact del_other h.settled hx hne g sh
      · rw [Lib.latest_concat, tells_del_none fun h => hfg (iptype_inj (hf.symm.trans h.2))]
        rfl
  · have hidle : ∀ w ∈ s.insts, ∀ f, data.ipaIfIndex = some w.ipaIfNum → data.iptype = f.iptype → w.active f = false :=
      fun w hw f hown hf => Bool.eq_false_iff.2 fun ha => hex ⟨w, hw, f, hown, hf, ha⟩
    have hsame := upstream1_del_idle (b := b) h.settled hidle
    refine ⟨hsettled, fun g => (h.family g).stays (fun x hx sh => ?_) (hsame.tether g) fun x hx hacc t => ?_, hsame.bounds.trans h.bounds⟩
    · by_cases hne : data.ipaIfIndex = some x.ipaIfNum
      · rw [show x.eventCallback b (UpstreamEvt.del data).route sh = (x, sh) from Wan.upstreamDel_idle (fun f => hidle x hx f hne) sh]
        exact ⟨rfl, rfl, rfl, rfl⟩
      · exact del_other h.settled hx hne g sh
    · rw [Lib.latest_concat]
      by_cases hfor : data.ipaIfIndex = some x.ipaIfNum ∧ data.iptype = g.iptype
      · rw [tells_del_own hfor.1 hfor.2, (h.family g).idle x hx (hidle x hx g hfor.1 hfor.2) hacc t]
        split <;> rfl
      · rw [tells_del_none hfor]
        rfl

/-- **One event** that fits. -/
theorem ListsInv.step (hand : b.featureIpaAndroid = true) (h : ListsInv es s) (hfit : s.TetherFits b e) :
    ListsInv (es ++ [e]) (s.upstream1 b e) := by
  cases e with
  | del data => exact h.del hand data
  | add data =>
    by_cases hex : ∃ w ∈ s.insts, ∃ f, data.ipaIfIndex = some w.ipaIfNum ∧ data.iptype = f.iptype ∧ w.accepts f = true
    · obtain ⟨w, hw, f, hown, hf, hacc⟩ := hex
      exact h.taken hand hfit hw hown hf hacc
    · exact h.untaken hfit fun w hw f hown hf => Bool.eq_false_iff.2 fun hacc => hex ⟨w, hw, f, hown, hf, hacc⟩

/-- A delete keeps the other interfaces, in any state. -/
theorem del_others (hand : b.featureIpaAndroid = true) (hs : ∀ w ∈ s.insts, w.Settled) (g : IpFamily) (data : UpstreamRoute) {t : Option Nat}
    (ht : t ≠ data.ipaIfIndexTether) : t ∈ (s.upstream1 b (.del data)).sh.tether g ↔ t ∈ s.sh.tether g := by
  by_cases hex : ∃ w ∈ s.insts, ∃ f, data.ipaIfIndex = some w.ipaIfNum ∧ data.iptype = f.iptype ∧ w.active f = true
  · obtain ⟨w, hw, f, hown, hf, ha⟩ := hex
    obtain ⟨htether, -, hothers⟩ := upstream1_del_tether hand hs hw hown hf ha
    by_cases hfg : f = g
    · subst hfg
      rw [htether]
      exact List.mem_erase_of_ne ht
    · rw [hothers g hfg]
  · rw [(upstream1_del_idle (b := b) hs fun w hw f hown hf => Bool.eq_false_iff.2 fun ha => hex ⟨w, hw, f, hown, hf, ha⟩).tether g]

theorem ListsInv.right (hand : b.featureIpaAndroid = true) (h : ListsInv es s) : TetherListsRight b es s where
  family g := ⟨(h.family g).nodup, (h.family g).length, (h.family g).tethered, (h.family g).wanUp,
    fun data _ ht => del_others hand h.settled g data ht⟩
  bounds := h.bounds

/-- **The condition is needed**: an add that does not fit leaves a list that is not what the events say. -/
theorem ListsInv.fits (hand : b.featureIpaAndroid = true) (h : ListsInv es s)
    (hright : TetherListsRight b (es ++ [e]) (s.upstream1 b e)) : s.TetherFits b e := by
  cases e with
  | del data => trivial
  | add data =>
    -- where an instance takes it: there was a place, and the interface is new
    have htaken : ∀ {w g}, w ∈ s.insts → data.ipaIfIndex = some w.ipaIfNum → data.iptype = g.iptype → w.accepts g = true →
        (s.sh.tether g).length < ipaMaxIfaceEntries ∧ data.ipaIfIndexTether ∉ s.sh.tether g ∧
          (s.upstream1 b (.add data)).sh.tether g = s.sh.tether g ++ [data.ipaIfIndexTether] := fun {w g} hw hown hg hacc => by
      obtain ⟨htether, hbounds, -⟩ := upstream1_add_tether hand h.settled hw hown hg hacc
      have hroom : (s.sh.tether g).length < ipaMaxIfaceEntries := by
        rw [hright.bounds, eq_comm, Bool.or_eq_false_iff] at hbounds
        exact Nat.not_le.1 (of_decide_eq_false hbounds.2)
      rw [if_pos hroom] at htether
      have hnodup := (hright.family g).nodup
      rw [htether, List.nodup_append] at hnodup
      exact ⟨hroom, fun hmem => hnodup.2.2 _ hmem _ (List.mem_singleton_self _) rfl, htether⟩
    -- who is active after it is the instance it is for
    have hwho : ∀ {g x}, data.iptype = g.iptype → x ∈ s.insts → ∀ sh,
        (x.eventCallback b (.upstreamRouteAdd data) sh).1.active g = true → data.ipaIfIndex = some x.ipaIfNum := fun {g x} hg hx sh ha =>
      by_contra fun hne => Bool.noConfusion (ha.symm.trans (inactive_of_clears (add_clears h.settled hg hx hne sh)))
    intro g hg w hw
    split
    next hown =>
      intro hacc
      obtain ⟨hroom, hnew, htether⟩ := htaken hw hown hg hacc
      refine ⟨by_contra fun hno => ?_, hnew, hroom⟩
      -- the interface is in the list, and nobody is active
      have hmem : data.ipaIfIndexTether ∈ (s.upstream1 b (.add data)).sh.tether g := by
        rw [htether]
        exact List.mem_append_right _ (List.mem_singleton_self _)
      obtain ⟨x', hx', ha, -⟩ := ((hright.family g).held _).1 hmem
      obtain ⟨x, hx, sh, rfl⟩ := mem_upstream1 hx'
      have hxw := own_unique (e := .upstreamRouteAdd data) hw hown hx (hwho hg hx sh ha)
      subst hxw
      have hidle := (Wan.ownRoute_waits hno sh).1
      rw [← (Wan.upstreamAdd_lists hand (h.settled x hx) hown hg hacc sh).2.2.2] at hidle
      exact Bool.noConfusion (ha.symm.trans hidle)
    next hne =>
      rw [Bool.eq_false_iff]
      intro ha
      -- the list has an interface of the other upstream, and it is still there after the event
      obtain ⟨t, ht⟩ := List.exists_mem_of_ne_nil _ ((h.family g).active.2 ⟨w, hw, ha⟩)
      have hactive : ∀ x ∈ s.insts, data.ipaIfIndex = some x.ipaIfNum → x.active g = false := fun x hx hxo =>
        Bool.eq_false_iff.2 fun hxa => hne ((h.family g).agrees.unique hx hw hxa ha ▸ hxo)
      by_cases hex : ∃ x ∈ s.insts, data.ipaIfIndex = some x.ipaIfNum ∧ x.accepts g = true
      · obtain ⟨x, hx, hxo, hacc⟩ := hex
        obtain ⟨-, hnew, htether⟩ := htaken hx hxo hg hacc
        have hmem : t ∈ (s.upstream1 b (.add data)).sh.tether g := by
          rw [htether]
          exact List.mem_append_left _ ht
        obtain ⟨y', hy', hya, hlatest⟩ := ((hright.family g).held _).1 hmem
        obtain ⟨y, hy, sh, rfl⟩ := mem_upstream1 hy'
        have hyx := own_unique (e := .upstreamRouteAdd data) hx hxo hy (hwho hg hy sh hya)
        subst hyx
        have hother : ¬ data.ipaIfIndexTether = t := fun heq => hnew (heq ▸ ht)
        rw [iface, Lib.latest_concat, tells_add_own hxo hg, if_neg hother] at hlatest
        exact Bool.noConfusion (hlatest.symm.trans ((h.family g).idle y hx (hactive y hx hxo) hacc t))
      · have hno : ∀ x ∈ s.insts, ∀ f, data.ipaIfIndex = some x.ipaIfNum → data.iptype = f.iptype → x.accepts f = false :=
          fun x hx f hxo hf => Bool.eq_false_iff.2 fun hacc => hex ⟨x, hx, hxo, iptype_inj (hf.symm.trans hg) ▸ hacc⟩
        have hmem : t ∈ (s.upstream1 b (.add data)).sh.tether g := by
          rw [(upstream1_add_none (b := b) h.settled hno).tether g]
          exact ht
        obtain ⟨y', hy', hya, -⟩ := ((hright.family g).held _).1 hmem
        obtain ⟨y, hy, sh, rfl⟩ := mem_upstream1 hy'
        have hyo := hwho hg hy sh hya
        rw [show y.eventCallback b (UpstreamEvt.add data).route sh = (y, sh) from
          Wan.upstreamAdd_none (h.settled y hy) hyo (fun f => hno y hy f hyo) sh] at hya
        exact Bool.noConfusion (hya.symm.trans (hactive y hy hyo))

/-! ## Runs -/

/-- The instances before any route, with nothing tethered. -/
structure Untethered (s : WanSys) : Prop where
  idle : s.Idle
  empty : ∀ g, s.sh.tether g = []

theorem ListsInv.initial (h : s.Untethered) : ListsInv [] s := by
  have hnone : ∀ g, ¬ ∃ w ∈ s.insts, w.active g = true := by
    intro g hactive
    obtain ⟨w, hw, ha⟩ := hactive
    exact Bool.noConfusion (ha.symm.trans (h.idle.inactive w hw g))
  refine ⟨h.idle.settled, fun g => ⟨Announcing.agrees_iff.2 ⟨?_, ?_, fun gw ht => ?_, fun _ w hw => h.idle.inactive w hw g⟩,
    fun w hw ha => absurd ⟨w, hw, ha⟩ (hnone g), fun w hw ha => absurd ⟨w, hw, ha⟩ (hnone g), fun _ _ _ _ _ => rfl,
    iff_of_false (not_not.2 (h.empty g)) (hnone g), ?_, ?_⟩, h.idle.bounds⟩
  · rw [Announcing.none_holds_iff.1 fun w hw => h.idle.inactive w hw g]
    exact Nat.zero_le _
  · exact iff_of_false (fun hup => Bool.noConfusion (hup.symm.trans (h.idle.down g))) (hnone g)
  · have htold : s.sh.told g = none := by rw [WanShared.told, h.idle.untold, List.foldl_nil]
    exact absurd (ht.symm.trans htold) (Option.some_ne_none gw)
  · rw [h.empty g]
    exact List.nodup_nil
  · rw [h.empty g]
    exact Nat.zero_le _

/-- **The tether lists**: they are what the upstream events say after every event exactly when each add is of a new
interface with a place for it, makes its instance active, and finds no other upstream of the family active. -/
theorem tether_lists_iff (b : WanBuild) (hand : b.featureIpaAndroid = true) {s : WanSys} (hs : s.Untethered) (es : List UpstreamEvt) :
    (∀ pre, pre <+: es → TetherListsRight b pre (pre.foldl (upstream1 b) s)) ↔ EachStep (upstream1 b) (TetherFits b) s es :=
  Lib.eachStep_iff (fun _ _ h => h.right hand) (fun _ _ _ h hfit => h.step hand hfit) (fun _ _ _ h hright => h.fits hand hright)
    (ListsInv.initial hs) es

/-- An upstream IPv4 route of the modem, for the tethered interface 2. -/
def modemRoute : UpstreamRoute := ⟨.v4, some 1, some 2, 0, 0⟩

/-- It comes and goes. -/
theorem tether_lists_iff_modem :
    (∀ pre, pre <+: [.add modemRoute, .del modemRoute] →
        TetherListsRight ⟨true, true⟩ pre (pre.foldl (upstream1 ⟨true, true⟩) staAndModem)) ↔
      EachStep (upstream1 ⟨true, true⟩) (TetherFits ⟨true, true⟩) staAndModem [.add modemRoute, .del modemRoute] :=
  tether_lists_iff _ rfl ⟨idle_of_all rfl rfl, fun g => by cases g <;> rfl⟩ _

/-- It comes twice: the interface is in the list twice. -/
theorem not_tether_lists_twice :
    ¬ ∀ (b : WanBuild) (s : WanSys) (es : List UpstreamEvt), b.featureIpaAndroid = true → s.Untethered →
      TetherListsRight b es (es.foldl (upstream1 b) s) := by
  intro h
  have hright := h ⟨true, true⟩ staAndModem [.add modemRoute, .add modemRoute] rfl ⟨idle_of_all rfl rfl, fun g => by cases g <;> rfl⟩
  have hnodup : [some 2, some 2].Nodup := (hright.family .v4).nodup
  exact absurd hnodup (by decide)

end WanSys

end HiaeCommon
