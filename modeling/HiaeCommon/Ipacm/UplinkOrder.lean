/-
The uplink rules of a modem backhaul, for an interface that gets its addresses
before the WAN interfaces' messages, and for one that gets them after. The
messages have no mux id, and what the address handler reads of it is one bit;
and an interface with two IPv6 addresses has no rules from a message.
-/
import HiaeCommon.Ipacm.UplinkRuns

namespace HiaeCommon

/-! ## The two runs -/

namespace Lan

variable (D : LanDriver) (cfg : LanConf)

/-- A new interface gets its addresses, and then the messages. -/
def addrsFirst (down up : LanShared) (v6First : Bool) (addrs : List LanAddr) (o : LanOut) : LanOut :=
  (run D cfg (addrs.map (fun a => (down, .addrAdd a)) ++ wanUpMsgs cfg up v6First) ({}, o)).2

/-- It gets its addresses when the WAN interfaces are up. -/
def wanFirst (up : LanShared) (v6First : Bool) (addrs : List LanAddr) (o : LanOut) : LanOut :=
  (run D cfg (wanUpMsgs cfg up v6First ++ addrs.map fun a => (up, .addrAdd a)) ({}, o)).2

end Lan

/-- The metadata of the rx property, and its mask. -/
def RxProp.meta (rx : RxProp) : BitVec 32 × BitVec 32 := rx.metaData.getD (0, 0)

/-- Each IPv4 rule that came since `o₀` from a property with `is_xlat_rule` has the mux id in its metadata, beside the
interface's own. -/
def XlatCarried (cfg : LanConf) (up : LanShared) (o₀ o : LanOut) : Prop :=
  ∀ rx, cfg.rxProp = some rx → up.xlatMuxId ≠ 0 → ∀ (i : Nat) (p : ExtProp) (r : FltRule),
    up.extPropV4[i]? = some p → p.isXlatRule = true →
    ((o.uplinks cfg.ipaIfNum .v4).drop (o₀.uplinks cfg.ipaIfNum .v4).length)[i]? = some r →
    r.eqAttrib.metadataMeq32.value = up.xlatMuxId.setWidth 32 <<< 16 ||| rx.rx.meta.1

/-- The two runs end with the same uplink rules, with the mux id where it belongs. -/
structure UplinkAgree (D : LanDriver) (cfg : LanConf) (down up : LanShared) (v6First : Bool) (addrs : List LanAddr) (o : LanOut) :
    Prop where
  same : ∀ ip, (Lan.addrsFirst D cfg down up v6First addrs o).uplinks cfg.ipaIfNum ip =
    (Lan.wanFirst D cfg up v6First addrs o).uplinks cfg.ipaIfNum ip
  addrsFirst : XlatCarried cfg up o (Lan.addrsFirst D cfg down up v6First addrs o)
  wanFirst : XlatCarried cfg up o (Lan.wanFirst D cfg up v6First addrs o)

/-! ## When they agree -/

/-- The equations of the property have the metadata the address handler would give it, and so would the mux id. -/
def AlreadyXlat (rx : RxProp) (xlatMuxId : BitVec 8) (p : ExtProp) : Prop :=
  (rx.metaData = none → p.eqAttrib.metadataMeq32Present = 1 ∧ p.eqAttrib.metadataMeq32.offset = 0) ∧
    p.eqAttrib.metadataMeq32.value ||| rx.meta.1 = 0x00010000 ||| rx.meta.1 ∧
    p.eqAttrib.metadataMeq32.mask ||| rx.meta.2 = 0x00FF0000 ||| rx.meta.2 ∧
    xlatMuxId.setWidth 32 <<< 16 ||| rx.meta.1 = 0x00010000 ||| rx.meta.1

/-- No property needs the mux id, and the interface has at most one IPv6 address. -/
structure OrderFree (cfg : LanConf) (up : LanShared) (addrs : List LanAddr) : Prop where
  xlat : (∃ a ∈ addrs, a.IsOf cfg ∧ a.iptype = .v4) → ∀ rx, cfg.rxProp = some rx → Installable up.extPropV4 → up.xlatMuxId ≠ 0 →
    ∀ p ∈ up.extPropV4, p.isXlatRule = true → AlreadyXlat rx.rx up.xlatMuxId p
  single : cfg.rxProp ≠ none → Installable up.extPropV6 → ∀ a ∈ addrs, ∀ b ∈ addrs, a.IsOf cfg → b.IsOf cfg →
    a.iptype = .v6 → b.iptype = .v6 → a.ipv6Addr = b.ipv6Addr

/-! ## The two runs compared -/

namespace Taken

variable {cfg : LanConf} {seen : List LanAddr} {t : Taken}

/-- The addresses an interface has taken of those it has seen. -/
structure Of (cfg : LanConf) (seen : List LanAddr) (t : Taken) : Prop where
  v4 : t.v4 = true ↔ ∃ a ∈ seen, a.IsOf cfg ∧ a.iptype = .v4
  nodup : t.v6.Nodup
  mem : ∀ b ∈ t.v6, ∃ a ∈ seen, a.IsOf cfg ∧ a.iptype = .v6 ∧ a.ipv6Addr = b
  all : t.v6.length < maxDefaultV6RouteRules → ∀ a ∈ seen, a.IsOf cfg → a.iptype = .v6 → a.ipv6Addr ∈ t.v6

theorem Of.next (h : Of cfg seen t) (a : LanAddr) : Of cfg (seen ++ [a]) (t.next cfg a) := by
  have hmem : ∀ b ∈ t.v6, ∃ c ∈ seen ++ [a], c.IsOf cfg ∧ c.iptype = .v6 ∧ c.ipv6Addr = b := fun b hb => by
    obtain ⟨c, hc, h'⟩ := h.mem b hb
    exact ⟨c, List.mem_append_left _ hc, h'⟩
  unfold Taken.next
  by_cases ha : a.IsOf cfg
  · rw [if_pos ha]
    cases hip : a.iptype with
    | v4 =>
      refine ⟨iff_of_true rfl ⟨a, by simp, ha, hip⟩, h.nodup, hmem, fun hl b hb hof hb6 => ?_⟩
      rcases List.mem_append.1 hb with hb | hb
      · exact h.all hl b hb hof hb6
      · rw [List.mem_singleton.1 hb, hip] at hb6
        cases hb6
    | v6 =>
      have hv4 : t.v4 = true ↔ ∃ b ∈ seen ++ [a], b.IsOf cfg ∧ b.iptype = .v4 := by
        rw [h.v4]
        refine ⟨fun ⟨b, hb, h'⟩ => ⟨b, List.mem_append_left _ hb, h'⟩, fun ⟨b, hb, hof, hb4⟩ => ?_⟩
        rcases List.mem_append.1 hb with hb | hb
        · exact ⟨b, hb, hof, hb4⟩
        · rw [List.mem_singleton.1 hb, hip] at hb4
          cases hb4
      dsimp only
      split
      next hnew =>
        refine ⟨hv4, ?_, fun b hb => ?_, fun _ b hb hof hb6 => ?_⟩
        · rw [← List.concat_eq_append]
          exact h.nodup.concat hnew.2
        · rcases List.mem_append.1 hb with hb | hb
          · exact hmem b hb
          · exact ⟨a, by simp, ha, hip, (List.mem_singleton.1 hb).symm⟩
        · rcases List.mem_append.1 hb with hb | hb
          · exact List.mem_append_left _ (h.all hnew.1 b hb hof hb6)
          · rw [List.mem_singleton.1 hb]
            exact List.mem_append_right _ (List.mem_singleton_self _)
      next hold =>
        refine ⟨hv4, h.nodup, hmem, fun hl b hb hof hb6 => ?_⟩
        rcases List.mem_append.1 hb with hb | hb
        · exact h.all hl b hb hof hb6
        · rw [List.mem_singleton.1 hb]
          by_contra hnot
          exact hold ⟨hl, hnot⟩
    | max => exact absurd hip a.family
  · rw [if_neg ha]
    have hlast : ∀ b ∈ seen ++ [a], b.IsOf cfg → b ∈ seen := by
      intro b hb hof
      rcases List.mem_append.1 hb with hb | hb
      · exact hb
      · rw [List.mem_singleton.1 hb] at hof
        exact absurd hof ha
    refine ⟨h.v4.trans ⟨fun ⟨b, hb, h'⟩ => ⟨b, List.mem_append_left _ hb, h'⟩, fun ⟨b, hb, h'⟩ => ⟨b, hlast b hb h'.1, h'⟩⟩,
      h.nodup, hmem, fun hl b hb hof => h.all hl b (hlast b hb hof) hof⟩

theorem Of.foldl (h : Of cfg seen t) (addrs : List LanAddr) : Of cfg (seen ++ addrs) (addrs.foldl (Taken.next cfg) t) := by
  induction addrs generalizing seen t with
  | nil => rwa [List.append_nil]
  | cons a addrs ih =>
    have h' := ih (h.next a)
    rwa [List.append_assoc] at h'

theorem Of.none : Of cfg [] Taken.none :=
  ⟨iff_of_false (by decide) (by rintro ⟨a, ha, _⟩; cases ha), List.nodup_nil, (fun _ hb => by cases hb), fun _ _ ha => by cases ha⟩

/-- Whether an interface takes one IPv6 address at most. -/
theorem Of.length_le_one (h : Of cfg seen t) : t.v6.length ≤ 1 ↔ ∀ a ∈ seen, ∀ b ∈ seen, a.IsOf cfg → b.IsOf cfg →
    a.iptype = .v6 → b.iptype = .v6 → a.ipv6Addr = b.ipv6Addr := by
  constructor
  · intro hl a ha b hb hoa hob ha6 hb6
    have hl' : t.v6.length < maxDefaultV6RouteRules := Nat.lt_succ_of_le hl
    have hma := h.all hl' a ha hoa ha6
    have hmb := h.all hl' b hb hob hb6
    match hv : t.v6, hl with
    | [], _ => rw [hv] at hma; cases hma
    | [c], _ =>
      rw [hv, List.mem_singleton] at hma hmb
      rw [hma, hmb]
  · intro hone
    by_contra hl
    match hv : t.v6, hl with
    | [], hl => exact hl (Nat.zero_le _)
    | [_], hl => exact hl (Nat.le_refl _)
    | c :: d :: l, _ =>
      obtain ⟨a, ha, hoa, ha6, rfl⟩ := h.mem c (by rw [hv]; simp)
      obtain ⟨b, hb, hob, hb6, rfl⟩ := h.mem d (by rw [hv]; simp)
      have hnd := h.nodup
      rw [hv] at hnd
      exact (List.nodup_cons.1 hnd).1 (hone a ha b hb hoa hob ha6 hb6 ▸ List.mem_cons_self ..)

end Taken
namespace Up

variable {D : LanDriver} {cfg : LanConf} {up down : LanShared} {o : LanOut}

theorem addrsFirst (hD : D.Succeeds) (hc : cfg.ipaIfCate ≠ .oduIf) (ho : o.Sound) (hdown : down.WanDown cfg.ipaIfNum) (v6First : Bool)
    (addrs : List LanAddr) (ip : IpType) :
    (Lan.addrsFirst D cfg down up v6First addrs o).uplinks cfg.ipaIfNum ip = o.uplinks cfg.ipaIfNum ip ++
      if told (addrs.foldl (Taken.next cfg) Taken.none) ip then newUplink cfg up ip 0 else [] := by
  have h := @run_addrs _ _ up (fun _ => 0) _ ({}, o) Taken.none hD hc false _ has_new
    (by rw [families_false]; exact new ho) (.inl ⟨rfl, hdown⟩) addrs
  rw [families_false] at h
  have h' := (run_msgs hD h.1 h.2 v6First).2.rules ip
  rw [← h', Lan.addrsFirst]
  simp only [Lan.run, List.foldl_append]

theorem wanFirst (hD : D.Succeeds) (hc : cfg.ipaIfCate ≠ .oduIf) (ho : o.Sound) (hup : up.ModemUp cfg.ipaIfNum) (v6First : Bool)
    (addrs : List LanAddr) (ip : IpType) :
    (Lan.wanFirst D cfg up v6First addrs o).uplinks cfg.ipaIfNum ip = o.uplinks cfg.ipaIfNum ip ++
      if (addrs.foldl (Taken.next cfg) Taken.none).families true ip then newUplink cfg up ip (addrMux up ip) else [] := by
  have h := @run_msgs _ _ up _ ({}, o) _ hD has_new (@new cfg _ _ _ ho) v6First
  have hnone : told Taken.none = fun _ => false := by
    funext ip
    cases ip <;> rfl
  have hfam : Taken.none.families true = fun _ => false := by
    funext ip
    cases ip <;> rfl
  rw [hnone] at h
  have h' := (run_addrs hD hc h.1 (by rw [hfam]; exact h.2.of_none (addrMux up)) (.inr ⟨rfl, rfl, hup, rfl⟩) addrs).2.rules ip
  rw [← h', Lan.wanFirst]
  simp only [Lan.run, List.foldl_append]

end Up
/-! ## The mux id -/

section Xlat

variable {cfg : LanConf} {up : LanShared} {rx : RxProp} {p : ExtProp}

theorem uplinkEqAttrib_of_not {x : BitVec 8} (hp : p.isXlatRule = false) : uplinkEqAttrib rx .v4 x p = uplinkEqAttrib rx .v4 0 p := by
  unfold uplinkEqAttrib
  dsimp only
  rw [if_neg (by simp [hp]), if_neg (by simp [hp])]
theorem uplinkEqAttrib_value_one (hp : p.isXlatRule = true) : (uplinkEqAttrib rx .v4 1 p).metadataMeq32.value =
    0x00010000 ||| rx.meta.1 := by
  unfold uplinkEqAttrib RxProp.meta
  dsimp only
  rw [if_pos ⟨rfl, hp, by decide⟩]
  cases rx.metaData with
  | none => rfl
  | some m => rfl

/-- The two handlers make the same rule of a property, and it has the mux id, where the property has it already. -/
theorem uplinkEqAttrib_agree (hp : p.isXlatRule = true) (x : BitVec 8) :
    uplinkEqAttrib rx .v4 0 p = uplinkEqAttrib rx .v4 1 p ∧
      (uplinkEqAttrib rx .v4 1 p).metadataMeq32.value = x.setWidth 32 <<< 16 ||| rx.meta.1 ↔ AlreadyXlat rx x p := by
  rw [uplinkEqAttrib_value_one hp]
  unfold uplinkEqAttrib AlreadyXlat RxProp.meta
  dsimp only
  rw [if_neg (by simp), if_pos ⟨rfl, hp, by decide⟩]
  obtain ⟨⟨bitmap, protocol, ihl, present, ⟨offset, mask, value⟩, rest⟩, rtTblIdx, isXlat, ruleId, hashable⟩ := p
  have hone : (BitVec.setWidth 32 (1 : BitVec 8) &&& 0xFF) <<< 16 = (0x00010000 : BitVec 32) := by decide
  have hzero : ∀ a : BitVec 32, a ||| 0 = a := fun a => BitVec.or_zero
  cases rx.metaData with
  | none =>
    simp only [RuleEq.mk.injEq, MaskEq32.mk.injEq, true_and, and_true, Option.getD_none, forall_const, hzero, hone]
    constructor
    · rintro ⟨⟨h1, h2, h3, h4⟩, h5⟩
      exact ⟨⟨h1, h2⟩, h4, h3, h5.symm⟩
    · rintro ⟨⟨h1, h2⟩, h4, h3, h5⟩
      exact ⟨⟨h1, h2, h3, h4⟩, h5.symm⟩
  | some m =>
    simp only [RuleEq.mk.injEq, MaskEq32.mk.injEq, true_and, and_true, Option.getD_some, reduceCtorEq, false_implies, hone]
    constructor
    · rintro ⟨⟨h3, h4⟩, h5⟩
      exact ⟨h4, h3, h5.symm⟩
    · rintro ⟨h4, h3, h5⟩
      exact ⟨⟨h3, h4⟩, h5.symm⟩

theorem newUplink_eq_iff {cfg : LanConf} : newUplink cfg up .v4 0 = newUplink cfg up .v4 1 ↔ ∀ rx, cfg.rxProp = some rx →
    Installable up.extPropV4 → ∀ p ∈ up.extPropV4, p.isXlatRule = true →
      uplinkEqAttrib rx.rx .v4 0 p = uplinkEqAttrib rx.rx .v4 1 p := by
  unfold newUplink
  cases cfg.rxProp with
  | none => simp
  | some rx =>
    dsimp only
    by_cases hi : Installable (up.getExtProp .v4)
    · rw [if_pos hi, if_pos hi, uplinkRules, uplinkRules, List.map_inj_left]
      constructor
      · rintro h _ ⟨⟩ - p hp -
        exact congrArg FltRule.eqAttrib (h p hp)
      · intro h p hp
        have heq : uplinkEqAttrib rx.rx .v4 0 p = uplinkEqAttrib rx.rx .v4 1 p := by
          cases hx : p.isXlatRule with
          | true => exact h rx rfl hi p hp hx
          | false => exact (uplinkEqAttrib_of_not hx).symm
        rw [uplinkRule, heq]
        rfl
    · rw [if_neg hi, if_neg hi]
      exact iff_of_true rfl fun _ _ hi' => absurd hi' hi

theorem xlatCarried_iff {cfg : LanConf} {o₀ o : LanOut} {x : BitVec 8} {b : Bool}
    (h : o.uplinks cfg.ipaIfNum .v4 = o₀.uplinks cfg.ipaIfNum .v4 ++ if b then newUplink cfg up .v4 x else []) :
    XlatCarried cfg up o₀ o ↔ (b = true → ∀ rx, cfg.rxProp = some rx → Installable up.extPropV4 → up.xlatMuxId ≠ 0 →
      ∀ p ∈ up.extPropV4, p.isXlatRule = true →
        (uplinkEqAttrib rx.rx .v4 x p).metadataMeq32.value = up.xlatMuxId.setWidth 32 <<< 16 ||| rx.rx.meta.1) := by
  unfold XlatCarried
  rw [h, List.drop_left]
  cases b with
  | false => simp
  | true =>
    simp only [if_true, forall_const]
    refine forall₂_congr fun rx hrx => ?_
    have hnew : newUplink cfg up .v4 x =
        if Installable up.extPropV4 then uplinkRules rx cfg.ipaIfCate up up.extPropV4 .v4 x else [] := by
      unfold newUplink
      rw [hrx]
      rfl
    rw [hnew]
    by_cases hi : Installable up.extPropV4
    · rw [if_pos hi]
      constructor
      · intro h _ hx p hp hxl
        obtain ⟨i, hi, rfl⟩ := List.mem_iff_getElem.1 hp
        refine h hx i _ (uplinkRule rx.rx .v4 (uplinkAction cfg.ipaIfCate up .v4) x up.extPropV4[i]) (List.getElem?_eq_getElem hi)
          hxl ?_
        rw [uplinkRules, List.getElem?_map, List.getElem?_eq_getElem hi]
        rfl
      · intro h hx i p r hp hxl hr
        rw [uplinkRules, List.getElem?_map, hp] at hr
        cases hr
        exact h hi hx p (List.mem_of_getElem? hp) hxl
    · simp [hi]

end Xlat

theorem newUplink_eq_nil {cfg : LanConf} {up : LanShared} {ip : IpType} {x : BitVec 8} :
    newUplink cfg up ip x = [] ↔ ¬ (cfg.rxProp ≠ none ∧ Installable (up.getExtProp ip)) := by
  unfold newUplink
  cases cfg.rxProp with
  | none => simp
  | some rx =>
    dsimp only
    split
    next hi => simp [uplinkRules, hi.1, hi]
    next hi => simp [hi]

section Runs

variable {D : LanDriver} {cfg : LanConf} {down up : LanShared} {v6First : Bool} {addrs : List LanAddr} {o : LanOut} {t : Taken}

/-- The rules of the two runs, by the addresses the interface has in the end. -/
structure RunRules (D : LanDriver) (cfg : LanConf) (down up : LanShared) (v6First : Bool) (addrs : List LanAddr) (o : LanOut)
    (t : Taken) : Prop where
  of : Taken.Of cfg addrs t
  addrsFirst4 : (Lan.addrsFirst D cfg down up v6First addrs o).uplinks cfg.ipaIfNum .v4 = o.uplinks cfg.ipaIfNum .v4 ++
    if t.v4 then newUplink cfg up .v4 0 else []
  wanFirst4 : (Lan.wanFirst D cfg up v6First addrs o).uplinks cfg.ipaIfNum .v4 = o.uplinks cfg.ipaIfNum .v4 ++
    if t.v4 then newUplink cfg up .v4 (addrMux up .v4) else []
  addrsFirst6 : (Lan.addrsFirst D cfg down up v6First addrs o).uplinks cfg.ipaIfNum .v6 = o.uplinks cfg.ipaIfNum .v6 ++
    if decide (t.v6.length = 1) then newUplink cfg up .v6 0 else []
  wanFirst6 : (Lan.wanFirst D cfg up v6First addrs o).uplinks cfg.ipaIfNum .v6 = o.uplinks cfg.ipaIfNum .v6 ++
    if !t.v6.isEmpty then newUplink cfg up .v6 0 else []
  max : (Lan.addrsFirst D cfg down up v6First addrs o).uplinks cfg.ipaIfNum .max =
    (Lan.wanFirst D cfg up v6First addrs o).uplinks cfg.ipaIfNum .max

theorem runRules (hD : D.Succeeds) (hc : cfg.ipaIfCate = .lanIf ∨ cfg.ipaIfCate = .wlanIf) (ho : o.Sound)
    (hup : up.ModemUp cfg.ipaIfNum) (hdown : down.WanDown cfg.ipaIfNum) :
    RunRules D cfg down up v6First addrs o (addrs.foldl (Taken.next cfg) Taken.none) := by
  have hc : cfg.ipaIfCate ≠ .oduIf := by rcases hc with hc | hc <;> simp [hc]
  have hof := (@Taken.Of.none cfg).foldl addrs
  rw [List.nil_append] at hof
  have hA := @Up.addrsFirst _ _ up _ _ hD hc ho hdown v6First addrs
  have hB := Up.wanFirst hD hc ho hup v6First addrs
  exact ⟨hof, hA .v4, hB .v4, hA .v6, hB .v6, (hA .max).trans (hB .max).symm⟩

theorem addrMux_of_ne (hx : up.xlatMuxId ≠ 0) : addrMux up .v4 = 1 := if_pos (bne_iff_ne.2 hx)

theorem RunRules.orderFree (r : RunRules D cfg down up v6First addrs o t) (h : UplinkAgree D cfg down up v6First addrs o) :
    OrderFree cfg up addrs := by
  refine ⟨fun hex rx hrx hi hx p hp hxl => ?_, fun hrx hi => ?_⟩
  · have hv4 := r.of.v4.2 hex
    have hsame := h.same .v4
    rw [r.addrsFirst4, r.wanFirst4, if_pos hv4, if_pos hv4, addrMux_of_ne hx, List.append_cancel_left_eq] at hsame
    have hcar := xlatCarried_iff r.wanFirst4
    rw [addrMux_of_ne hx] at hcar
    exact (uplinkEqAttrib_agree hxl _).1 ⟨newUplink_eq_iff.1 hsame rx hrx hi p hp hxl, hcar.1 h.wanFirst hv4 rx hrx hi hx p hp hxl⟩
  · rw [← r.of.length_le_one]
    by_contra hl
    have hne : t.v6 ≠ [] := fun he => hl (by rw [he]; exact Nat.zero_le _)
    have hsame := h.same .v6
    rw [r.addrsFirst6, r.wanFirst6, List.append_cancel_left_eq, if_neg (by simpa using fun he : t.v6.length = 1 => hl he.le),
      if_pos (by simpa using hne)] at hsame
    exact newUplink_eq_nil.1 hsame.symm ⟨hrx, hi⟩

theorem RunRules.agree (r : RunRules D cfg down up v6First addrs o t) (h : OrderFree cfg up addrs) :
    UplinkAgree D cfg down up v6First addrs o := by
  have hxlat : t.v4 = true → ∀ rx, cfg.rxProp = some rx → Installable up.extPropV4 → up.xlatMuxId ≠ 0 →
      ∀ p ∈ up.extPropV4, p.isXlatRule = true → uplinkEqAttrib rx.rx .v4 0 p = uplinkEqAttrib rx.rx .v4 1 p ∧
        (uplinkEqAttrib rx.rx .v4 1 p).metadataMeq32.value = up.xlatMuxId.setWidth 32 <<< 16 ||| rx.rx.meta.1 :=
    fun hv rx hrx hi hx p hp hxl => (uplinkEqAttrib_agree hxl _).2 (h.xlat (r.of.v4.1 hv) rx hrx hi hx p hp hxl)
  refine ⟨fun ip => ?_, (xlatCarried_iff r.addrsFirst4).2 fun hv rx hrx hi hx p hp hxl => ?_,
    (xlatCarried_iff r.wanFirst4).2 fun hv rx hrx hi hx p hp hxl => ?_⟩
  · cases ip with
    | v4 =>
      rw [r.addrsFirst4, r.wanFirst4]
      by_cases hx : up.xlatMuxId = 0
      · rw [show addrMux up .v4 = 0 from if_neg (by simp [LanShared.getXlatMuxId, hx])]
      · rw [addrMux_of_ne hx]
        by_cases hv : t.v4 = true
        · rw [newUplink_eq_iff.2 fun rx hrx hi p hp hxl => (hxlat hv rx hrx hi hx p hp hxl).1]
        · rw [if_neg hv, if_neg hv]
    | v6 =>
      rw [r.addrsFirst6, r.wanFirst6]
      by_cases hn : cfg.rxProp ≠ none ∧ Installable up.extPropV6
      · have hl := r.of.length_le_one.2 (h.single hn.1 hn.2)
        match ht : t.v6, hl with
        | [], _ => rfl
        | [_], _ => rfl
      · rw [newUplink_eq_nil.2 hn, ite_self, ite_self]
    | max => exact r.max
  · obtain ⟨heq, hval⟩ := hxlat hv rx hrx hi hx p hp hxl
    rw [heq]
    exact hval
  · rw [addrMux_of_ne hx]
    exact (hxlat hv rx hrx hi hx p hp hxl).2

end Runs

/-- The modem is up, with one IPv4 property, an XLAT rule. -/
def sampleUp : LanShared :=
  { sampleDown with wanUp := true, wanUpV6 := true, xlatMuxId := 5, extPropV4 := [⟨{}, 0, true, 7, false⟩] }

theorem sampleUp_modemUp : sampleUp.ModemUp 2 := ⟨rfl, rfl, rfl⟩

theorem sampleDown_wanDown : sampleDown.WanDown 2 := ⟨rfl, rfl⟩

end HiaeCommon
