/-
What `handle_sta_header_add_evt` finds of the headers of a station: with none set
yet, the header of the first gateway it knows whose client has one, and whether
it gets as far as the routes that wait.

All clients have the headers of the same families, those of the tx properties;
so the gateway that is found says which headers there are.
-/
import HiaeCommon.Ipacm.StaBackhaul
import Mathlib.Data.List.Find

namespace HiaeCommon

def Client.hasHeader (c : Client Unit) : IpFamily → Bool
  | .v4 => c.ipv4HeaderSet
  | .v6 => c.ipv6HeaderSet

namespace Wan

/-- `wan_v4_addr_gw_set`, `wan_v6_addr_gw_set`. -/
def gatewaySet (w : Wan) : IpFamily → Bool
  | .v4 => w.wanV4AddrGwSet
  | .v6 => w.wanV6AddrGwSet

/-- `header_partial_default_wan_v4`, `header_partial_default_wan_v6`. -/
def waits (w : Wan) : IpFamily → Bool
  | .v4 => w.headerPartialDefaultWanV4
  | .v6 => w.headerPartialDefaultWanV6

/-- The client with the address of the gateway of a family. -/
def gatewayClient (w : Wan) : IpFamily → Option Nat
  | .v4 => w.getWanClientIndexIpv4 w.wanV4AddrGw
  | .v6 => w.getWanClientIndexIpv6 w.wanV6AddrGw

/-- The gateway of a family is known, its client is, and has the header of the family `f`. -/
def gatewayHas (w : Wan) (g f : IpFamily) : Bool :=
  w.gatewaySet g && (w.gatewayClient g).any fun i => (w.wanClient.slot i).hasHeader f

def noHeader (w : Wan) : Bool := !w.headerSetV4 && !w.headerSetV6

variable {w : Wan} {h : IpFamily → Bool}

/-! ## The header check -/

/-- The headers of the clients of gateways are those of `h`. -/
def Uniform (h : IpFamily → Bool) (w : Wan) : Prop :=
  ∀ g i, w.gatewayClient g = some i → ∀ f, (w.wanClient.slot i).hasHeader f = h f

theorem Uniform.gatewayHas (hu : Uniform h w) (g f : IpFamily) :
    w.gatewayHas g f = (w.gatewaySet g && (w.gatewayClient g).isSome && h f) := by
  unfold Wan.gatewayHas
  cases hc : w.gatewayClient g with
  | none => rw [Option.any_none, Option.isSome_none, Bool.and_false, Bool.false_and]
  | some i => rw [Option.any_some, Option.isSome_some, Bool.and_true, hu g i hc f]

/-- What the check finds, where no header is set: nothing, or the first gateway, whose client has the header. -/
inductive Checked (h : IpFamily → Bool) (w : Wan) : Wan × Bool → Prop
  | nothing (ok : Bool) (hok : ok = true → ∀ g, w.gatewaySet g = false) (h4 : w.gatewayHas .v4 .v4 = false)
      (h6 : w.gatewaySet .v4 = false → w.gatewayHas .v6 .v6 = false) : Checked h w (w, ok)
  | found (f : IpFamily) (p : Wan × Bool) (hf : w.gatewayHas f f = true) (hfirst : f = .v6 → w.gatewaySet .v4 = false)
      (hset : ∀ g, p.1.headerSet g = h g)
      (hok : p.2 = true ↔ (∀ g, h g = true) ∧ ∀ g, w.gatewaySet g = true → w.gatewayHas g g = true) : Checked h w p

theorem noHeader_iff : w.noHeader = true ↔ ∀ g, w.headerSet g = false := by
  unfold noHeader
  rw [Bool.and_eq_true, Bool.not_eq_true', Bool.not_eq_true']
  exact ⟨fun ⟨h4, h6⟩ g => by cases g <;> [exact h4; exact h6], fun h => ⟨h .v4, h .v6⟩⟩

/-- With a header set the check does nothing. -/
theorem staHeader_done (h : w.noHeader = false) : w.staHeader = (w, false) := by
  unfold noHeader at h
  unfold staHeader
  rw [if_pos]
  cases h4 : w.headerSetV4 <;> cases h6 : w.headerSetV6 <;> simp [h4, h6] at h ⊢

/-- What the check of the IPv6 gateway makes of its client, by the headers that it has. -/
theorem staHeaderV6_client {i : Nat} (hset : w.gatewaySet .v6 = true) (hc : w.gatewayClient .v6 = some i) :
    w.staHeaderV6 =
      match (w.wanClient.slot i).ipv6HeaderSet, (w.wanClient.slot i).ipv4HeaderSet with
      | false, _ => (w, false)
      | true, false =>
        ({ w with
            hdrHdlStaV6 := (w.wanClient.slot i).hdrHdlV6, headerSetV6 := true
            extRouterMacAddr := (w.wanClient.slot i).mac }, false)
      | true, true =>
        ({ w with
            hdrHdlStaV6 := (w.wanClient.slot i).hdrHdlV6, headerSetV6 := true
            hdrHdlStaV4 := (w.wanClient.slot i).hdrHdlV4, headerSetV4 := true
            extRouterMacAddr := (w.wanClient.slot i).mac }, true) := by
  have hc : w.getWanClientIndexIpv6 w.wanV6AddrGw = some i := hc
  unfold staHeaderV6
  rw [if_pos (show w.wanV6AddrGwSet = true from hset), hc]
  dsimp only
  cases h6 : (w.wanClient.slot i).ipv6HeaderSet <;> cases h4 : (w.wanClient.slot i).ipv4HeaderSet <;> simp

theorem staHeaderV6_unset (hset : w.gatewaySet .v6 = false) : w.staHeaderV6 = (w, true) := by
  unfold staHeaderV6
  rw [if_neg]
  exact fun hs => Bool.noConfusion (hset.symm.trans hs)

theorem staHeaderV6_none (hset : w.gatewaySet .v6 = true) (hc : w.gatewayClient .v6 = none) : w.staHeaderV6 = (w, false) := by
  have hc : w.getWanClientIndexIpv6 w.wanV6AddrGw = none := hc
  unfold staHeaderV6
  rw [if_pos (show w.wanV6AddrGwSet = true from hset), hc]

/-- What the check of the IPv4 gateway makes of its client, by the headers that it has. -/
theorem staHeaderV4_client {i : Nat} (hset : w.gatewaySet .v4 = true) (hc : w.gatewayClient .v4 = some i) :
    w.staHeaderV4 =
      match (w.wanClient.slot i).ipv4HeaderSet, (w.wanClient.slot i).ipv6HeaderSet with
      | false, _ => (w, false)
      | true, false =>
        ({ w with
            hdrHdlStaV4 := (w.wanClient.slot i).hdrHdlV4, headerSetV4 := true
            extRouterMacAddr := (w.wanClient.slot i).mac }, false)
      | true, true =>
        ({ w with
            hdrHdlStaV4 := (w.wanClient.slot i).hdrHdlV4, headerSetV4 := true
            hdrHdlStaV6 := (w.wanClient.slot i).hdrHdlV6, headerSetV6 := true
            extRouterMacAddr := (w.wanClient.slot i).mac }, true) := by
  have hc : w.getWanClientIndexIpv4 w.wanV4AddrGw = some i := hc
  unfold staHeaderV4
  rw [if_pos (show w.wanV4AddrGwSet = true from hset), hc]
  dsimp only
  cases h4 : (w.wanClient.slot i).ipv4HeaderSet <;> cases h6 : (w.wanClient.slot i).ipv6HeaderSet <;> simp

theorem staHeaderV4_unset (hset : w.gatewaySet .v4 = false) : w.staHeaderV4 = (w, true) := by
  unfold staHeaderV4
  rw [if_neg]
  exact fun hs => Bool.noConfusion (hset.symm.trans hs)

theorem staHeaderV4_none (hset : w.gatewaySet .v4 = true) (hc : w.gatewayClient .v4 = none) : w.staHeaderV4 = (w, false) := by
  have hc : w.getWanClientIndexIpv4 w.wanV4AddrGw = none := hc
  unfold staHeaderV4
  rw [if_pos (show w.wanV4AddrGwSet = true from hset), hc]

/-- The IPv6 gateway is looked for behind the IPv4 one, among the same clients. -/
theorem second_checked {w' : Wan} (hu : Uniform h w) (hfound : w.gatewayHas .v4 .v4 = true) (hboth : ∀ g, h g = true)
    (hset : w'.gatewaySet .v6 = w.gatewaySet .v6) (hclient : w'.gatewayClient .v6 = w.gatewayClient .v6)
    (hclients : w'.wanClient = w.wanClient) (hheader : ∀ g, w'.headerSet g = true) : Checked h w w'.staHeaderV6 := by
  have hhas := hu.gatewayHas
  have hheader : ∀ g, w'.headerSet g = h g := fun g => (hheader g).trans (hboth g).symm
  cases hs6 : w.gatewaySet .v6 with
  | false =>
    rw [staHeaderV6_unset (hset.trans hs6)]
    refine .found .v4 _ hfound (fun h => nomatch h) hheader (iff_of_true rfl ⟨hboth, fun g hg => ?_⟩)
    cases g with
    | v4 => exact hfound
    | v6 => exact Bool.noConfusion (hs6.symm.trans hg)
  | true =>
    cases hc6 : w.gatewayClient .v6 with
    | none =>
      have hhas6 : w.gatewayHas .v6 .v6 = false := by rw [hhas, hc6, Option.isSome_none, Bool.and_false, Bool.false_and]
      rw [staHeaderV6_none (hset.trans hs6) (hclient.trans hc6)]
      exact .found .v4 _ hfound (fun h => nomatch h) hheader
        (iff_of_false Bool.false_ne_true fun hall => Bool.noConfusion (hhas6.symm.trans (hall.2 .v6 hs6)))
    | some j =>
      have hj4 : (w.wanClient.slot j).ipv4HeaderSet = true := (hu .v6 j hc6 .v4).trans (hboth .v4)
      have hj6 : (w.wanClient.slot j).ipv6HeaderSet = true := (hu .v6 j hc6 .v6).trans (hboth .v6)
      have hhas6 : w.gatewayHas .v6 .v6 = true := by rw [hhas, hs6, hc6, hboth]; rfl
      rw [staHeaderV6_client (hset.trans hs6) (hclient.trans hc6), hclients, hj4, hj6]
      refine .found .v4 _ hfound (fun h => nomatch h) (fun g => by cases g <;> [exact (hboth .v4).symm; exact (hboth .v6).symm])
        (iff_of_true rfl ⟨hboth, fun g _ => ?_⟩)
      cases g with
      | v4 => exact hfound
      | v6 => exact hhas6

theorem staHeader_checked (hu : Uniform h w) (hno : w.noHeader = true) : Checked h w w.staHeader := by
  have hhas := hu.gatewayHas
  have hno := noHeader_iff.1 hno
  have hno4 : w.headerSetV4 = false := hno .v4
  have hno6 : w.headerSetV6 = false := hno .v6
  have hstart : w.staHeader = if w.staHeaderV4.2 then w.staHeaderV4.1.staHeaderV6 else (w.staHeaderV4.1, false) := by
    unfold staHeader
    rw [hno4, hno6]
    rfl
  rw [hstart]
  cases hs4 : w.gatewaySet .v4 with
  | false =>
    have hhas4 : w.gatewayHas .v4 .v4 = false := by rw [hhas, hs4, Bool.false_and, Bool.false_and]
    rw [staHeaderV4_unset hs4, if_pos rfl]
    cases hs6 : w.gatewaySet .v6 with
    | false =>
      rw [staHeaderV6_unset hs6]
      exact .nothing _ (fun _ g => by cases g <;> [exact hs4; exact hs6]) hhas4 fun _ => by rw [hhas, hs6, Bool.false_and, Bool.false_and]
    | true =>
      cases hc6 : w.gatewayClient .v6 with
      | none =>
        rw [staHeaderV6_none hs6 hc6]
        exact .nothing _ (fun h => Bool.noConfusion h) hhas4 fun _ => by rw [hhas, hc6, Option.isSome_none, Bool.and_false, Bool.false_and]
      | some i =>
        have hh4 : (w.wanClient.slot i).ipv4HeaderSet = h .v4 := hu .v6 i hc6 .v4
        have hh6 : (w.wanClient.slot i).ipv6HeaderSet = h .v6 := hu .v6 i hc6 .v6
        rw [staHeaderV6_client hs6 hc6, hh4, hh6]
        cases h6 : h .v6 with
        | false => exact .nothing _ (fun h => Bool.noConfusion h) hhas4 fun _ => by rw [hhas, h6, Bool.and_false]
        | true =>
          have hfound : w.gatewayHas .v6 .v6 = true := by rw [hhas, hs6, hc6, h6]; rfl
          cases h4 : h .v4 with
          | false =>
            exact .found .v6 _ hfound (fun _ => hs4) (fun g => by cases g <;> [exact hno4.trans h4.symm; exact h6.symm])
              (iff_of_false Bool.false_ne_true fun hall => Bool.noConfusion (h4.symm.trans (hall.1 .v4)))
          | true =>
            refine .found .v6 _ hfound (fun _ => hs4) (fun g => by cases g <;> [exact h4.symm; exact h6.symm])
              (iff_of_true rfl ⟨fun g => by cases g <;> [exact h4; exact h6], fun g hg => ?_⟩)
            cases g with
            | v4 => exact Bool.noConfusion (hs4.symm.trans hg)
            | v6 => exact hfound
  | true =>
    cases hc4 : w.gatewayClient .v4 with
    | none =>
      rw [staHeaderV4_none hs4 hc4, if_neg Bool.false_ne_true]
      exact .nothing _ (fun h => Bool.noConfusion h) (by rw [hhas, hc4, Option.isSome_none, Bool.and_false, Bool.false_and])
        fun h => Bool.noConfusion (hs4.symm.trans h)
    | some i =>
      have hh4 : (w.wanClient.slot i).ipv4HeaderSet = h .v4 := hu .v4 i hc4 .v4
      have hh6 : (w.wanClient.slot i).ipv6HeaderSet = h .v6 := hu .v4 i hc4 .v6
      rw [staHeaderV4_client hs4 hc4, hh4, hh6]
      cases h4 : h .v4 with
      | false =>
        exact .nothing _ (fun h => Bool.noConfusion h) (by rw [hhas, h4, Bool.and_false]) fun h => Bool.noConfusion (hs4.symm.trans h)
      | true =>
        have hfound : w.gatewayHas .v4 .v4 = true := by rw [hhas, hs4, hc4, h4]; rfl
        cases h6 : h .v6 with
        | false =>
          exact .found .v4 _ hfound (fun h => nomatch h) (fun g => by cases g <;> [exact h4.symm; exact hno6.trans h6.symm])
            (iff_of_false Bool.false_ne_true fun hall => Bool.noConfusion (h6.symm.trans (hall.1 .v6)))
        | true =>
          have hboth : ∀ g, h g = true := fun g => by cases g <;> [exact h4; exact h6]
          exact second_checked hu hfound hboth rfl rfl rfl fun g => by cases g <;> rfl

/-! ## The clients -/

end Wan

/-- The address of a gateway is one of the client's. -/
def Client.isGateway (c : Client Unit) (w : Wan) : IpFamily → Bool
  | .v4 => c.ipv4Set && w.wanV4AddrGw == c.v4Addr
  | .v6 => (List.range c.ipv6Set).any fun n => w.wanV6AddrGw == c.v6Addr n

/-- The clients have the headers of the families of `h`, and the slots that are not in use have none. -/
def ClientTable.HeadersOf (h : IpFamily → Bool) (t : ClientTable Unit) : Prop :=
  ∀ i g, (t.slot i).hasHeader g = (decide (i < t.num) && h g)

namespace ClientTable.HeadersOf

variable {h : IpFamily → Bool} {t : ClientTable Unit} {c : Client Unit}

theorem set (ht : t.HeadersOf h) {i : Nat} (hc : ∀ g, c.hasHeader g = (t.slot i).hasHeader g) : (t.set i c).HeadersOf h := by
  intro k g
  show (if k = i then c else t.slot k).hasHeader g = (decide (k < t.num) && h g)
  split
  next hk => rw [hc, ht i, hk]
  next => exact ht k g

theorem push (ht : t.HeadersOf h) (hc : ∀ g, c.hasHeader g = h g) : { t.set t.num c with num := t.num + 1 }.HeadersOf h := by
  intro k g
  show (if k = t.num then c else t.slot k).hasHeader g = (decide (k < t.num + 1) && h g)
  split
  next hk => rw [hc, hk, decide_eq_true (Nat.lt_succ_self _), Bool.true_and]
  next hk =>
    have hiff : k < t.num ↔ k < t.num + 1 := by omega
    rw [ht k, decide_eq_decide.2 hiff]

end ClientTable.HeadersOf

namespace Wan

variable {w : Wan} {h : IpFamily → Bool}

theorem gatewayClient_eq (w : Wan) (g : IpFamily) :
    w.gatewayClient g = (List.range w.wanClient.num).find? fun i => (w.wanClient.slot i).isGateway w g := by
  cases g <;> rfl

theorem gatewayClient_lt {g : IpFamily} {i : Nat} (hc : w.gatewayClient g = some i) : i < w.wanClient.num := by
  rw [gatewayClient_eq] at hc
  exact List.mem_range.1 (List.mem_of_find?_eq_some hc)

theorem uniform_of_headers (ht : w.wanClient.HeadersOf h) : Uniform h w := by
  intro g i hc f
  rw [ht, decide_eq_true (gatewayClient_lt hc), Bool.true_and]

/-- A client without addresses is no gateway. -/
theorem gatewayHas_clients {t : ClientTable Unit} (hslot : ∀ i < w.wanClient.num, t.slot i = w.wanClient.slot i)
    (hnum : t.num = w.wanClient.num ∨ t.num = w.wanClient.num + 1 ∧ ∀ g, (t.slot w.wanClient.num).isGateway w g = false)
    (g f : IpFamily) : { w with wanClient := t }.gatewayHas g f = w.gatewayHas g f := by
  have hold : (List.range w.wanClient.num).find? (fun i => (t.slot i).isGateway w g) = w.gatewayClient g := by
    rw [gatewayClient_eq]
    exact List.find?_congr fun i hi => by rw [hslot i (List.mem_range.1 hi)]
  have hclient : { w with wanClient := t }.gatewayClient g = w.gatewayClient g := by
    have hfind : { w with wanClient := t }.gatewayClient g = (List.range t.num).find? fun i => (t.slot i).isGateway w g := by
      cases g <;> rfl
    rw [hfind]
    rcases hnum with hnum | ⟨hnum, hnew⟩
    · rw [hnum, hold]
    · rw [hnum, List.range_succ, List.find?_append, hold, List.find?_singleton, hnew g, if_neg Bool.false_ne_true, Option.or_none]
  have hset : { w with wanClient := t }.gatewaySet g = w.gatewaySet g := by cases g <;> rfl
  unfold gatewayHas
  rw [hset, hclient]
  cases hc : w.gatewayClient g with
  | none => rfl
  | some i => rw [Option.any_some, Option.any_some, hslot i (gatewayClient_lt hc)]

/-! ## The default route of a station -/

/-- A route of the family waits for its header. -/
def waiting (w : Wan) : IpFamily → Wan
  | .v4 => { w with headerPartialDefaultWanV4 := true }
  | .v6 => { w with headerPartialDefaultWanV6 := true }

/-- Without its header a route waits, with it the route goes up. -/
theorem handleRouteAddEvt_station {f : IpFamily} (hsta : w.isSta = true) (htx : w.txProp = true) (sh : WanShared) :
    handleRouteAddEvt f.iptype (w, sh) =
      if w.headerSet f then
        defaultRouteUp f.iptype ({ w with isDefaultGateway := true },
          { sh with backhaulIsWanBridge := w.ifModeBridge, backhaulIsStaMode := true })
      else ({ w with isDefaultGateway := true }.waiting f,
        { sh with backhaulIsWanBridge := w.ifModeBridge, backhaulIsStaMode := true }) := by
  have hmode (d : Bool) : { w with isDefaultGateway := d }.isSta = true := hsta
  unfold handleRouteAddEvt
  dsimp only
  have hsome : ¬ w.txProp = false := fun h => Bool.noConfusion (htx.symm.trans h)
  rw [if_neg hsome, hmode, if_pos rfl]
  cases hh : w.headerSet f with
  | true =>
    rw [if_pos rfl]
    cases f with
    | v4 =>
      have hset : w.headerSetV4 = true := hh
      rw [if_neg (fun h => Bool.noConfusion (hset.symm.trans h.2)), if_neg (fun h => by cases h.1)]
    | v6 =>
      have hset : w.headerSetV6 = true := hh
      rw [if_neg (fun h => by cases h.1), if_neg (fun h => Bool.noConfusion (hset.symm.trans h.2))]
  | false =>
    rw [if_neg Bool.false_ne_true]
    cases f with
    | v4 => exact if_pos ⟨rfl, hh⟩
    | v6 =>
      rw [if_neg (fun h => by cases h.1)]
      exact if_pos ⟨rfl, hh⟩

end Wan

end HiaeCommon
