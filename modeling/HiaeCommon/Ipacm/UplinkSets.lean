/-
The uplink rules of an interface over its whole life: the flags are true of
installed and recorded rules where the installers succeed; and with a driver
that does what it is asked, one set is installed per WAN-up, where no WAN-up
comes on top of another.
-/
import HiaeCommon.Lib.Run
import HiaeCommon.Ipacm.UplinkKept

namespace HiaeCommon

/-- An interface, the driver, and what the WAN-ups and WAN-downs make of each family. -/
structure UplinkSys where
  lan : Lan
  out : LanOut
  backhaul : IpType → Backhaul

/-- An event, with the driver and the statics as it is handled. -/
structure UplinkStep where
  D : LanDriver
  sh : LanShared
  evt : LanEvt

namespace UplinkSys

def init (o : LanOut) : UplinkSys := ⟨{}, o, fun _ => .down⟩

def step (cfg : LanConf) (s : UplinkSys) (t : UplinkStep) : UplinkSys where
  lan := (s.lan.eventCallback t.D cfg t.sh t.evt s.out).1
  out := (s.lan.eventCallback t.D cfg t.sh t.evt s.out).2
  backhaul := ((s.lan.wanOp t.D cfg t.sh t.evt).map (Backhaul.next cfg t.sh s.backhaul)).getD s.backhaul

/-- The modem's rules of a family, and the rules of `handle_wan_up`. -/
def modemRules (cfg : LanConf) (s : UplinkSys) (ip : IpType) : List (Nat × FltSlot) := s.out.flt.view (ofUse cfg.ipaIfNum .wanUl ip)

def staRules (cfg : LanConf) (s : UplinkSys) (ip : IpType) : List (Nat × FltSlot) := s.out.flt.view (ofUse cfg.ipaIfNum .lanWan ip)

/-- The flag is true only of rules that are installed and recorded. -/
def FlagTrue (cfg : LanConf) (s : UplinkSys) (ip : IpType) : Prop :=
  (s.lan.ul ip).modemUlSet = true → 0 < (s.lan.ul ip).numWanUlFlRule ∧
    ∀ i < (s.lan.ul ip).numWanUlFlRule, ∃ r, ((s.lan.ul ip).wanUlFlRuleHdl i, r) ∈ s.modemRules cfg ip

/-- Exactly one set of rules of the backhaul is installed, or none, and every handle is recorded. -/
structure OneSet (cfg : LanConf) (s : UplinkSys) (ip : IpType) : Prop where
  modem : (s.modemRules cfg ip).map (fun x => x.2.rule) = (s.backhaul ip).modemSet
  sta : (s.staRules cfg ip).map (fun x => x.2.rule) = (s.backhaul ip).staSet
  modemHdl : ∀ x ∈ s.modemRules cfg ip, ∃ i < (s.lan.ul ip).numWanUlFlRule, (s.lan.ul ip).wanUlFlRuleHdl i = x.1
  staHdl : ∀ x ∈ s.staRules cfg ip, s.lan.lanWanHdl ip = x.1

/-! ## The conditions -/

/-- The handle is that of a modem's rule of the interface, or of any uplink rule. -/
def NamesModem (cfg : LanConf) (s : UplinkSys) (h : Nat) : Prop := ∃ ip r, (h, r) ∈ s.modemRules cfg ip

def Names (cfg : LanConf) (s : UplinkSys) (h : Nat) : Prop := s.NamesModem cfg h ∨ ∃ ip r, (h, r) ∈ s.staRules cfg ip

/-- A set that is to be installed is, and no deletion stops half-way or hits a rule through a handle that is stale. -/
def Whole (cfg : LanConf) (s : UplinkSys) (t : UplinkStep) : Prop :=
  match s.lan.wanOp t.D cfg t.sh t.evt with
  | none => True
  | some (.up ip isSta _ num) => isSta = false → Lan.writeQmapid t.D cfg ip = true → (s.lan.ul ip).modemUlSet = false →
    (ip = .v6 → num = 1) → Installs t.D cfg (t.sh.getExtProp ip) ip
  | some (.down ip isSta) => ¬ Lan.ignoresDown cfg ip isSta → (ip = .v6 → ¬ s.NamesModem cfg s.lan.ipv6PrefixFltRuleHdl) ∧
    if isSta then ¬ s.NamesModem cfg (s.lan.lanWanHdl ip) else Lan.DeletesWhole t.D ip (s.lan.ul ip).numWanUlFlRule

/-- The driver does what it is asked, there is something to install, and a family goes up when it is down (or is a modem that
is up) and down from what it was up with. -/
structure Alternates (cfg : LanConf) (s : UplinkSys) (t : UplinkStep) : Prop where
  succeeds : t.D.Succeeds
  rx : cfg.rxProp ≠ none
  op : match s.lan.wanOp t.D cfg t.sh t.evt with
    | none => True
    | some (.up ip isSta _ num) =>
      if isSta then s.backhaul ip = .down
      else match s.backhaul ip with
        | .down => Installable (t.sh.getExtProp ip) ∧ (ip = .v6 → num = 1)
        | .modem _ => True
        | .sta _ => False
    | some (.down ip isSta) => (¬ Lan.ignoresDown cfg ip isSta → ip = .v6 → ¬ s.Names cfg s.lan.ipv6PrefixFltRuleHdl) ∧
      match s.backhaul ip with
      | .down => ¬ Lan.ignoresDown cfg ip isSta → isSta = true → ¬ s.Names cfg (s.lan.lanWanHdl ip)
      | .modem _ => isSta = false ∧ ¬ Lan.ignoresDown cfg ip isSta
      | .sta _ => isSta = true ∧ ¬ Lan.ignoresDown cfg ip isSta

/-! ## Runs -/

variable {cfg : LanConf} {s : UplinkSys} {t : UplinkStep}

def pair (s : UplinkSys) : Lan × LanOut := (s.lan, s.out)

/-- What a step is, by what its event is for the interface. -/
theorem step_does (hb : Lan.Base s.pair) (hc : cfg.ipaIfCate ≠ .oduIf) (hevt : t.evt.isUplink = true) :
    Lan.Base (s.step cfg t).pair ∧ Lan.EvtDoes t.D cfg t.sh s.pair (s.step cfg t).pair (s.lan.wanOp t.D cfg t.sh t.evt) :=
  Lan.eventCallback_does (s := s.pair) hb hc hevt

/-! ### The counts -/

theorem step_counted (hb : Lan.Base s.pair) (hc : cfg.ipaIfCate ≠ .oduIf) (hevt : t.evt.isUplink = true)
    (h : ∀ ip, ip ≠ .max → Lan.Counted s.lan ip) {ip : IpType} (hip : ip ≠ .max) : Lan.Counted (s.step cfg t).lan ip := by
  obtain ⟨-, hdoes⟩ := step_does hb hc hevt
  have hquiet : ∀ {p p' : Lan × LanOut}, Lan.Quiet p p' → ∀ {ip}, Lan.Counted p.1 ip → Lan.Counted p'.1 ip := by
    intro p p' hq ip h
    unfold Lan.Counted
    rw [hq.ul]
    exact h
  cases hop : s.lan.wanOp t.D cfg t.sh t.evt with
  | none =>
    rw [hop] at hdoes
    exact hquiet (p := s.pair) hdoes (h ip hip)
  | some op =>
    rw [hop] at hdoes
    have hne := Lan.wanOp_ip hop
    cases op with
    | up ip' isSta x num =>
      obtain ⟨s₁, -, hq, -, hq'⟩ := hdoes
      exact hquiet hq' (Lan.wanUp_counted hne (fun ip hip => hquiet (p := s.pair) hq (h ip hip)) isSta hip)
    | down ip' isSta =>
      have he : (s.step cfg t).lan = (if Lan.ignoresDown cfg ip' isSta then s.pair else Lan.wanDown t.D cfg t.sh ip' isSta s.pair).1 :=
        congrArg Prod.fst hdoes
      rw [he]
      split
      · exact h ip hip
      · exact Lan.wanDown_counted h isSta hip

/-! ### The flags -/

/-- Whatever the driver does, the records are kept by a step that meets the condition. -/
theorem step_kept (hb : Lan.Base s.pair) (hc : cfg.ipaIfCate ≠ .oduIf) (hevt : t.evt.isUplink = true)
    (h : ∀ ip, ip ≠ .max → Lan.Kept cfg.ipaIfNum s.pair ip) (hw : s.Whole cfg t) {ip : IpType} (hip : ip ≠ .max) :
    Lan.Kept cfg.ipaIfNum (s.step cfg t).pair ip := by
  obtain ⟨-, hdoes⟩ := step_does hb hc hevt
  unfold Whole at hw
  cases hop : s.lan.wanOp t.D cfg t.sh t.evt with
  | none =>
    rw [hop] at hdoes
    exact (h ip hip).quiet hdoes
  | some op =>
    rw [hop] at hdoes hw
    have hne := Lan.wanOp_ip hop
    cases op with
    | up ip' isSta x num =>
      obtain ⟨s₁, -, hq, hnum, hq'⟩ := hdoes
      refine (Lan.wanUp_kept hne (fun ip hip => (h ip hip).quiet hq) isSta (fun hs hwq hset hone => ?_) hip).quiet hq'
      rw [hq.ul] at hset
      rw [hnum] at hone
      exact hw hs hwq hset hone
    | down ip' isSta =>
      have he : (s.step cfg t).pair = if Lan.ignoresDown cfg ip' isSta then s.pair else Lan.wanDown t.D cfg t.sh ip' isSta s.pair :=
        hdoes
      rw [he]
      split
      · exact h ip hip
      next hg =>
        obtain ⟨hpre, hd⟩ := hw hg
        refine Lan.wanDown_kept hb hne h isSta (fun hv ip r hr => hpre hv ⟨ip, r, hr⟩) ?_ hip
        cases isSta with
        | true => exact fun ip r hr => hd ⟨ip, r, hr⟩
        | false => exact hd

/-! ### One set -/

theorem Alternates.whole (hb : Lan.Base s.pair) (hk : ∀ ip, ip ≠ .max → Lan.Kept cfg.ipaIfNum s.pair ip)
    (h : ∀ ip, ip ≠ .max → Lan.Holds cfg.ipaIfNum s.pair ip (s.backhaul ip)) (ha : s.Alternates cfg t) : s.Whole cfg t := by
  have hop := ha.op
  unfold Whole
  cases hwop : s.lan.wanOp t.D cfg t.sh t.evt with
  | none => trivial
  | some op =>
    rw [hwop] at hop
    have hne := Lan.wanOp_ip hwop
    cases op with
    | up ip isSta x num =>
      intro hs _ hset _
      have hflag := (h ip hne).flag (hk ip hne)
      simp only [hs, Bool.false_eq_true, if_false] at hop
      cases hg : s.backhaul ip with
      | down =>
        rw [hg] at hop
        exact ⟨ha.rx, hop.1.1, hop.1.2, ha.succeeds.fails _, ha.succeeds.fails _, ha.succeeds.refuses _⟩
      | modem rules =>
        have := hflag.2 ⟨rules, hg⟩
        rw [show (s.pair.1.ul ip).modemUlSet = _ from hset] at this
        cases this
      | sta rule => rw [hg] at hop; exact hop.elim
    | down ip isSta =>
      intro hg
      refine ⟨fun hv hn => hop.1 hg hv (.inl hn), ?_⟩
      have hop := hop.2
      cases isSta with
      | false => exact .inl fun i _ => ha.succeeds.fails _
      | true =>
        show ¬ s.NamesModem cfg (s.lan.lanWanHdl ip)
        cases hb' : s.backhaul ip with
        | down => rw [hb'] at hop; exact fun hn => hop hg rfl (.inl hn)
        | modem rules => rw [hb'] at hop; cases hop.1
        | sta rule =>
          have hold := h ip hne
          rw [hb'] at hold
          rintro ⟨ip', r, hr⟩
          exact (hold.unique hb).1 ip' r hr

theorem step_holds (hb : Lan.Base s.pair) (hc : cfg.ipaIfCate ≠ .oduIf) (hevt : t.evt.isUplink = true)
    (hk : ∀ ip, ip ≠ .max → Lan.Kept cfg.ipaIfNum s.pair ip)
    (h : ∀ ip, ip ≠ .max → Lan.Holds cfg.ipaIfNum s.pair ip (s.backhaul ip)) (ha : s.Alternates cfg t) {ip : IpType} (hip : ip ≠ .max) :
    Lan.Holds cfg.ipaIfNum (s.step cfg t).pair ip ((s.step cfg t).backhaul ip) := by
  obtain ⟨-, hdoes⟩ := step_does hb hc hevt
  have hop := ha.op
  cases hrx : cfg.rxProp with
  | none => exact absurd hrx ha.rx
  | some rx =>
    cases hwop : s.lan.wanOp t.D cfg t.sh t.evt with
    | none =>
      have hback : (s.step cfg t).backhaul = s.backhaul := by
        unfold step
        rw [hwop]
        rfl
      rw [hwop] at hdoes
      rw [hback]
      exact (h ip hip).quiet hdoes
    | some op =>
      rw [hwop] at hdoes hop
      have hne := Lan.wanOp_ip hwop
      have hback : (s.step cfg t).backhaul = Backhaul.next cfg t.sh s.backhaul op := by
        unfold step
        rw [hwop]
        rfl
      rw [hback]
      cases op with
      | up ip' isSta x num =>
        obtain ⟨s₁, -, hq, hnum, hq'⟩ := hdoes
        refine Lan.Holds.quiet ?_ hq'
        subst hnum
        exact Lan.wanUp_holds hne hrx ha.succeeds (fun ip hip => (hk ip hip).quiet hq) (fun ip hip => (h ip hip).quiet hq) hop hip
      | down ip' isSta =>
        have he : (s.step cfg t).pair = if Lan.ignoresDown cfg ip' isSta then s.pair else Lan.wanDown t.D cfg t.sh ip' isSta s.pair :=
          hdoes
        obtain ⟨hpre, hop⟩ := hop
        rw [he]
        show Lan.Holds _ _ ip (Function.update s.backhaul ip' .down ip)
        split
        next hg =>
          have hdown : s.backhaul ip' = .down := by
            cases hb' : s.backhaul ip' with
            | down => rfl
            | modem rules => rw [hb'] at hop; exact absurd hg hop.2
            | sta rule => rw [hb'] at hop; exact absurd hg hop.2
          rw [← hdown, Function.update_eq_self]
          exact h ip hip
        next hg =>
          have hne : ip' ≠ .max := hne
          refine Lan.wanDown_holds hb hne ha.succeeds hk h (fun hv ip r => ⟨fun hr => hpre hg hv (.inl ⟨ip, r, hr⟩),
            fun hr => hpre hg hv (.inr ⟨ip, r, hr⟩)⟩) ?_ hip
          cases hb' : s.backhaul ip' with
          | down =>
            rw [hb'] at hop
            cases isSta with
            | false => exact fun rule hc => by cases hc
            | true =>
              have hn := hop hg rfl
              exact ⟨fun rules hc => (by cases hc), fun ip r hr => hn (.inl ⟨ip, r, hr⟩), fun ip _ r hr => hn (.inr ⟨ip, r, hr⟩)⟩
          | modem rules =>
            rw [hb'] at hop
            rw [hop.1]
            exact fun rule hc => by cases hc
          | sta rule =>
            rw [hb'] at hop
            rw [hop.1]
            have hold := h ip' hne
            rw [hb'] at hold
            exact ⟨fun rules hc => (by cases hc), (hold.unique hb).1, (hold.unique hb).2⟩

/-! ### Whole runs -/

/-- A run of addresses and messages, whose steps meet a condition. -/
abbrev UplinkRun (cfg : LanConf) (C : UplinkSys → UplinkStep → Prop) : UplinkSys → List UplinkStep → UplinkSys → Prop :=
  Lib.Run fun s t s' => t.evt.isUplink = true ∧ C s t ∧ s' = s.step cfg t

/-- No uplink rule of the interface is installed. -/
def NoUplink (cfg : LanConf) (o : LanOut) : Prop := ∀ x ∈ o.flt.live, x.2.owner = cfg.ipaIfNum → x.2.use ≠ .wanUl ∧ x.2.use ≠ .lanWan

theorem NoUplink.view {o : LanOut} (h : NoUplink cfg o) {use : FltUse} (hu : use = .wanUl ∨ use = .lanWan) (ip : IpType) :
    o.flt.view (ofUse cfg.ipaIfNum use ip) = [] := by
  refine List.filter_eq_nil_iff.2 fun x hx hof => ?_
  simp only [ofUse, Bool.decide_and, Bool.and_eq_true, decide_eq_true_eq] at hof
  obtain ⟨h1, h2⟩ := h x hx hof.1
  rcases hu with rfl | rfl
  · exact h1 hof.2.1
  · exact h2 hof.2.1

theorem init_base {o : LanOut} (ho : o.Sound) : Lan.Base (init o).pair := ⟨ho, rfl, fun _ _ _ => rfl⟩

theorem init_ul {o : LanOut} (ip : IpType) : (init o).lan.ul ip = {} := by cases ip <;> rfl

theorem init_kept {o : LanOut} (h : NoUplink cfg o) (ip : IpType) : Lan.Kept cfg.ipaIfNum (init o).pair ip := by
  have hul : (init o).pair.1.ul ip = {} := init_ul (o := o) ip
  have hview : Lan.modemView cfg.ipaIfNum (init o).pair ip = [] := h.view (.inl rfl) ip
  exact ⟨by rw [hul, hview]; rfl, by rw [hul]; exact iff_of_false (by simp) (by simp), by rw [hul]; exact Nat.zero_le _⟩

theorem init_holds {o : LanOut} (h : NoUplink cfg o) (ip : IpType) : Lan.Holds cfg.ipaIfNum (init o).pair ip .down := by
  have hmodem : Lan.modemView cfg.ipaIfNum (init o).pair ip = [] := h.view (.inl rfl) ip
  have hsta : Lan.staView cfg.ipaIfNum (init o).pair ip = [] := h.view (.inr rfl) ip
  exact ⟨by rw [hmodem]; rfl, by rw [hsta]; rfl, fun rules hc => by cases hc⟩

theorem run_counted (hc : cfg.ipaIfCate ≠ .oduIf) {o : LanOut} (ho : o.Sound) {ts : List UplinkStep}
    (h : UplinkRun cfg (fun _ _ => True) (init o) ts s) : Lan.Base s.pair ∧ ∀ ip, ip ≠ .max → Lan.Counted s.lan ip := by
  refine h.invariant (fun s => Lan.Base s.pair ∧ ∀ ip, ip ≠ .max → Lan.Counted s.lan ip) ?_
    ⟨init_base ho, fun ip _ => by unfold Lan.Counted; rw [init_ul]; exact ⟨Nat.zero_le _, fun _ => rfl⟩⟩
  rintro s t s' ⟨hevt, -, rfl⟩ ⟨hb, hk⟩
  exact ⟨(step_does hb hc hevt).1, fun ip hip => step_counted hb hc hevt hk hip⟩

theorem run_kept (hc : cfg.ipaIfCate ≠ .oduIf) {o : LanOut} (ho : o.Sound) (hnew : NoUplink cfg o) {ts : List UplinkStep}
    (h : UplinkRun cfg (Whole cfg) (init o) ts s) : Lan.Base s.pair ∧ ∀ ip, ip ≠ .max → Lan.Kept cfg.ipaIfNum s.pair ip := by
  refine h.invariant (fun s => Lan.Base s.pair ∧ ∀ ip, ip ≠ .max → Lan.Kept cfg.ipaIfNum s.pair ip) ?_
    ⟨init_base ho, fun ip _ => init_kept hnew ip⟩
  rintro s t s' ⟨hevt, hw, rfl⟩ ⟨hb, hk⟩
  exact ⟨(step_does hb hc hevt).1, fun ip hip => step_kept hb hc hevt hk hw hip⟩

theorem run_holds (hc : cfg.ipaIfCate ≠ .oduIf) {o : LanOut} (ho : o.Sound) (hnew : NoUplink cfg o) {ts : List UplinkStep}
    (h : UplinkRun cfg (Alternates cfg) (init o) ts s) : ∀ ip, ip ≠ .max →
      Lan.Kept cfg.ipaIfNum s.pair ip ∧ Lan.Holds cfg.ipaIfNum s.pair ip (s.backhaul ip) := by
  have hinv := h.invariant (fun s => Lan.Base s.pair ∧ (∀ ip, ip ≠ .max → Lan.Kept cfg.ipaIfNum s.pair ip) ∧
      ∀ ip, ip ≠ .max → Lan.Holds cfg.ipaIfNum s.pair ip (s.backhaul ip)) ?_
    ⟨init_base ho, fun ip _ => init_kept hnew ip, fun ip _ => init_holds hnew ip⟩
  · exact fun ip hip => ⟨hinv.2.1 ip hip, hinv.2.2 ip hip⟩
  rintro s t s' ⟨hevt, ha, rfl⟩ ⟨hb, hk, hh⟩
  exact ⟨(step_does hb hc hevt).1, fun ip hip => step_kept hb hc hevt hk (ha.whole hb hk hh) hip,
    fun ip hip => step_holds hb hc hevt hk hh ha hip⟩

theorem flagTrue_of_kept {ip : IpType} (hk : Lan.Kept cfg.ipaIfNum s.pair ip) : s.FlagTrue cfg ip := by
  intro hset
  refine ⟨hk.set.1 hset, fun i hi => ?_⟩
  have hm : (s.lan.ul ip).wanUlFlRuleHdl i ∈ (s.modemRules cfg ip).map Prod.fst := by
    rw [show s.modemRules cfg ip = Lan.modemView cfg.ipaIfNum s.pair ip from rfl, ← hk.hdls]
    exact List.mem_map_of_mem (List.mem_range.2 hi)
  obtain ⟨y, hy, he⟩ := List.mem_map.1 hm
  exact ⟨y.2, he ▸ hy⟩

theorem oneSet_of_holds {ip : IpType} (hk : Lan.Kept cfg.ipaIfNum s.pair ip) (h : Lan.Holds cfg.ipaIfNum s.pair ip (s.backhaul ip)) :
    s.OneSet cfg ip := by
  refine ⟨h.modem, ?_, fun x hx => ?_, fun x hx => ?_⟩
  · have hsta := congrArg (List.map Prod.snd) h.sta
    rw [List.map_map, List.map_map] at hsta
    exact hsta.trans (List.map_id _)
  · have hm : x.1 ∈ (Lan.modemView cfg.ipaIfNum s.pair ip).map Prod.fst := List.mem_map_of_mem hx
    rw [← hk.hdls] at hm
    obtain ⟨i, hi, he⟩ := List.mem_map.1 hm
    exact ⟨i, List.mem_range.1 hi, he⟩
  · have hm : (x.1, x.2.rule) ∈ (Lan.staView cfg.ipaIfNum s.pair ip).map fun x => (x.1, x.2.rule) := List.mem_map_of_mem hx
    rw [h.sta] at hm
    obtain ⟨r, _, he⟩ := List.mem_map.1 hm
    exact congrArg Prod.fst he

end UplinkSys

open UplinkSys in
/-- **The uplink rules of an interface.** The counts fit the arrays in every run; the flags are true of rules that are installed
and recorded where every set is installed whole; and one set is installed per WAN-up, none per WAN-down, where they alternate. -/
theorem uplink_run (cfg : LanConf) (hc : cfg.ipaIfCate = .lanIf ∨ cfg.ipaIfCate = .wlanIf) (o : LanOut) (ho : o.Sound)
    (hnew : NoUplink cfg o) :
    (∀ ts s, UplinkRun cfg (fun _ _ => True) (init o) ts s →
      (s.lan.ul .v4).numWanUlFlRule ≤ maxWanUlFilterRules ∧ (s.lan.ul .v6).numWanUlFlRule ≤ maxWanUlFilterRules) ∧
    (∀ ts s, UplinkRun cfg (Whole cfg) (init o) ts s → s.FlagTrue cfg .v4 ∧ s.FlagTrue cfg .v6) ∧
    ∀ ts s, UplinkRun cfg (Alternates cfg) (init o) ts s → s.OneSet cfg .v4 ∧ s.OneSet cfg .v6 := by
  have hc : cfg.ipaIfCate ≠ .oduIf := by rcases hc with hc | hc <;> simp [hc]
  refine ⟨fun ts s h => ?_, fun ts s h => ?_, fun ts s h => ?_⟩
  · have hcount := (run_counted hc ho h).2
    exact ⟨(hcount .v4 (by decide)).1, (hcount .v6 (by decide)).1⟩
  · have hk := (run_kept hc ho hnew h).2
    exact ⟨flagTrue_of_kept (hk .v4 (by decide)), flagTrue_of_kept (hk .v6 (by decide))⟩
  · have hh := run_holds hc ho hnew h
    exact ⟨oneSet_of_holds (hh .v4 (by decide)).1 (hh .v4 (by decide)).2, oneSet_of_holds (hh .v6 (by decide)).1 (hh .v6 (by decide)).2⟩

/-! ## A station backhaul that comes up twice -/

def sampleSta : LanShared := { sampleDown with wanUp := true, backhaulIsStaMode := true }

/-- The address finds the station up, and then the message comes that it is. -/
def staSteps : List UplinkStep := [⟨obedientLan, sampleSta, .addrAdd sampleAddr⟩, ⟨obedientLan, sampleSta, .wanUpTether 2 true⟩]

/-- The modem is up, without properties. -/
def bareSteps : List UplinkStep := [⟨obedientLan, { sampleDown with wanUp := true }, .addrAdd sampleAddr⟩]

theorem noUplink_empty (cfg : LanConf) : UplinkSys.NoUplink cfg {} := fun _ hx => by cases hx

theorem uplink_run_sample :
    (∀ ts s, UplinkSys.UplinkRun sampleLan (fun _ _ => True) (UplinkSys.init {}) ts s →
      (s.lan.ul .v4).numWanUlFlRule ≤ maxWanUlFilterRules ∧ (s.lan.ul .v6).numWanUlFlRule ≤ maxWanUlFilterRules) ∧
    (∀ ts s, UplinkSys.UplinkRun sampleLan (UplinkSys.Whole sampleLan) (UplinkSys.init {}) ts s →
      s.FlagTrue sampleLan .v4 ∧ s.FlagTrue sampleLan .v6) ∧
    ∀ ts s, UplinkSys.UplinkRun sampleLan (UplinkSys.Alternates sampleLan) (UplinkSys.init {}) ts s →
      s.OneSet sampleLan .v4 ∧ s.OneSet sampleLan .v6 :=
  uplink_run sampleLan (.inl rfl) {} LanOut.sound_new (noUplink_empty sampleLan)

/-- Two rules are installed for one station, and the handle of the first is lost; and the flag is true of no rule. -/
theorem not_uplink_sample : obedientLan.Succeeds ∧
    ((staSteps.foldl (UplinkSys.step sampleLan) (UplinkSys.init {})).staRules sampleLan .v4).length = 2 ∧
    ¬ (staSteps.foldl (UplinkSys.step sampleLan) (UplinkSys.init {})).OneSet sampleLan .v4 ∧
    ¬ (bareSteps.foldl (UplinkSys.step sampleLan) (UplinkSys.init {})).FlagTrue sampleLan .v4 := by
  have htwo : ((staSteps.foldl (UplinkSys.step sampleLan) (UplinkSys.init {})).staRules sampleLan .v4).length = 2 := by decide
  have hsta : ((staSteps.foldl (UplinkSys.step sampleLan) (UplinkSys.init {})).backhaul .v4).staSet.length = 1 := by decide
  refine ⟨obedientLan_succeeds, htwo, fun h => ?_, fun h => ?_⟩
  · have hlen := congrArg List.length h.sta
    rw [List.length_map, htwo, hsta] at hlen
    cases hlen
  · exact absurd (h (by decide)).1 (by decide)

end HiaeCommon
