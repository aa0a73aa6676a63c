/-
When the attributes stored for a `Firewall` element match the packets it
describes: when no port comes behind its range, no service value behind its
mask, and every prefix length is a multiple of four.

An element appends an entry and folds its sub-elements into it, in document
order. Each field of a packet is asked about through a part of the entry that
only few sub-elements touch, so a part is a fold over these, in whatever order
they stand.
-/
import HiaeCommon.Ipacm.FirewallEntry

namespace HiaeCommon

open Function (update)
open Lib (foldl_part perm_pair_iff fieldFilters_iff leadingOnes and_leadingOnes_eq_iff exists_flip)

/-! ## What is written -/

namespace EntrySaid

variable (d : EntrySaid)

def portItems (dir : Dir) : List SubElement :=
  match d.port dir with
  | none => []
  | some s => [.port dir s.port, .range dir s.range]

def addressItems (dir : Dir) : List SubElement :=
  match d.address dir with
  | none => []
  | some s => [.address dir, .ipAddress dir s.addr, .prefixLen dir s.len]

def serviceItems : List SubElement :=
  match d.service with
  | none => []
  | some s => [.service, .serviceValue s.value, .serviceMask s.mask]

def protocolItems : List SubElement :=
  match d.protocol with
  | none => []
  | some n => [.protocol n]

/-- The sub-elements that say it. -/
def items : List SubElement :=
  .family d.version.code :: (d.protocolItems ++ (d.portItems .src ++ d.portItems .dst) ++
    (d.addressItems .src ++ d.addressItems .dst) ++ d.serviceItems)

end EntrySaid

/-- A branch that leads to the children and does nothing. -/
def isGroup : FirewallAct → Bool
  | .group => true
  | _ => false

/-- The children of a `Firewall` element that says `d`, its sub-elements in any order, at any depth. -/
structure FirewallElement (env : XmlEnv) (d : EntrySaid) where
  children : XmlNode
  order : List SubElement
  written : List.Forall₂ (SubElement.Written env d.version)
    ((visits (firewallActs env) children).filter fun v => !isGroup v.1) order
  perm : order.Perm d.items

/-- A configuration with room for one more entry. The free places are as `memset` left them. -/
structure OpenConf where
  conf : FirewallConf
  room : (conf.table ()).num.toNat < ipacmMaxFirewallEntries
  blank : ∀ i : Fin ipacmMaxFirewallEntries, (conf.table ()).num.toNat ≤ i → (conf.table ()).entries i = {}

/-! ## One entry -/

section Parse

variable {env : XmlEnv} {v : FirewallIpVersion} {c : FirewallConf}

abbrev HasLast (c : FirewallConf) : Prop := LastInRange (c.table ()).num.toNat ipacmMaxFirewallEntries

/-- `num_extd_firewall_entries - 1`. -/
def lastIdx (h : HasLast c) : Fin ipacmMaxFirewallEntries := ⟨(c.table ()).num.toNat - 1, by have := h.1; have := h.2; omega⟩

def putLast (h : HasLast c) (e : ExtdFirewallEntry) : FirewallConf :=
  { c with table := update c.table () { c.table () with entries := update (c.table ()).entries (lastIdx h) e } }

theorem writeLast_eq (h : HasLast c) (f : ExtdFirewallEntry → ExtdFirewallEntry) :
    c.writeLast () (fun (s, e) => (s, f e)) = .ok (putLast h (f ((c.table ()).entries (lastIdx h)))) :=
  dif_pos h

theorem putLast_putLast (h : HasLast c) (e e' : ExtdFirewallEntry) (h' : HasLast (putLast h e)) :
    lastIdx h' = lastIdx h ∧ putLast h' e' = putLast h e' := by
  have hidx : lastIdx h' = lastIdx h := by simp [lastIdx, putLast]
  refine ⟨hidx, ?_⟩
  change ({ putLast h e with
    table := update (putLast h e).table () { (putLast h e).table () with
      entries := update ((putLast h e).table ()).entries (lastIdx h') e' } } : FirewallConf) = _
  rw [hidx]
  simp [putLast]

theorem putLast_writeLast (h : HasLast c) (e : ExtdFirewallEntry) (f : ExtdFirewallEntry → ExtdFirewallEntry) :
    (putLast h e).writeLast () (fun (s, e) => (s, f e)) = .ok (putLast h (f e)) := by
  have h' : HasLast (putLast h e) := by simpa [HasLast, putLast] using h
  obtain ⟨hidx, hput⟩ := putLast_putLast h e (f e) h'
  have hlast : ((putLast h e).table ()).entries (lastIdx h') = e := by
    rw [hidx]
    simp [putLast]
  rw [writeLast_eq h', hlast, hput]

/-- The sub-elements are folded into the last entry. -/
theorem performAll_eq (h : HasLast c) (vs : List (FirewallAct × Option CStr)) :
    ∀ {order : List SubElement} {e : ExtdFirewallEntry},
      List.Forall₂ (SubElement.Written env v) (vs.filter fun v => !isGroup v.1) order →
      performAll env vs (putLast h e) = .ok (putLast h (order.foldl (SubElement.apply v) e)) := by
  induction vs with
  | nil =>
    intro order e hw
    cases hw
    rfl
  | cons visit vs ih =>
    intro order e hw
    simp only [performAll, List.foldlM_cons]
    by_cases hg : isGroup visit.1 = true
    · rw [List.filter_cons_of_neg (by simp [hg])] at hw
      have hgroup : visit.1 = .group := by
        cases hv : visit.1 <;> rw [hv] at hg <;> first | rfl | cases hg
      rw [hgroup]
      exact ih hw
    · rw [List.filter_cons_of_pos (by simpa using hg)] at hw
      cases hw with
      | @cons _ x _ order hx hw =>
        rw [hx.perform, putLast_writeLast h e fun e => x.apply v e]
        exact ih hw

end Parse

/-! ## The parts of an entry -/

/-- The field a sub-element is about. -/
def SubElement.about : SubElement → Option PacketField
  | .family _ => none
  | .protocol _ => some .protocol
  | .port dir _ | .range dir _ => some (.port dir)
  | .address dir | .ipAddress dir _ | .prefixLen dir _ => some (.address dir)
  | .service | .serviceValue _ | .serviceMask _ => some .service

/-- The sub-elements that say what is asked of the field. -/
def EntrySaid.itemsFor (d : EntrySaid) : PacketField → List SubElement
  | .protocol => d.protocolItems
  | .port dir => d.portItems dir
  | .address dir => d.addressItems dir
  | .service => d.serviceItems
  | .icmpType | .icmpCode | .spi => []

theorem EntrySaid.itemsFor_about (d : EntrySaid) (f : PacketField) : ∀ x ∈ d.itemsFor f, x.about = some f := by
  intro x hx
  cases f with
  | protocol =>
    simp only [itemsFor, protocolItems] at hx
    split at hx
    · cases hx
    · obtain rfl := List.mem_singleton.1 hx
      rfl
  | port dir =>
    simp only [itemsFor, portItems] at hx
    split at hx
    · cases hx
    · rcases List.mem_pair.1 hx with rfl | rfl <;> rfl
  | address dir =>
    simp only [itemsFor, addressItems] at hx
    split at hx
    · cases hx
    · simp only [List.mem_cons, List.not_mem_nil, or_false] at hx
      rcases hx with rfl | rfl | rfl <;> rfl
  | service =>
    simp only [itemsFor, serviceItems] at hx
    split at hx
    · cases hx
    · simp only [List.mem_cons, List.not_mem_nil, or_false] at hx
      rcases hx with rfl | rfl | rfl <;> rfl
  | icmpType | icmpCode | spi => cases hx

theorem EntrySaid.filter_itemsFor (d : EntrySaid) (f g : PacketField) :
    (d.itemsFor g).filter (fun x => x.about = some f) = if g = f then d.itemsFor g else [] := by
  split_ifs with h
  · subst h
    exact List.filter_eq_self.2 fun x hx => by simp [d.itemsFor_about g x hx]
  · exact List.filter_eq_nil_iff.2 fun x hx => by simp [d.itemsFor_about g x hx, h]

/-- What is said of a field is written once. -/
theorem EntrySaid.filter_items (d : EntrySaid) (f : PacketField) :
    d.items.filter (fun x => x.about = some f) = d.itemsFor f := by
  have hfam : (SubElement.family d.version.code).about = none := rfl
  have h := d.filter_itemsFor f
  have hp := h .protocol
  have h1 := h (.port .src)
  have h2 := h (.port .dst)
  have h3 := h (.address .src)
  have h4 := h (.address .dst)
  have h5 := h .service
  simp only [itemsFor] at hp h1 h2 h3 h4 h5
  simp only [items, List.filter_cons, List.filter_append, hfam, hp, h1, h2, h3, h4, h5]
  cases f with
  | port dir | address dir => cases dir <;> simp [itemsFor]
  | _ => simp [itemsFor]

/-- A bit of `attrib_mask`. -/
def bitPart (b : FltAttrib) (e : ExtdFirewallEntry) : Prop := b ∈ e.attrib.attribMask

/-- The ports of a direction, and whether they are compared, alone or as a range. -/
structure PortPart where
  port : BitVec 16 := 0
  lo : BitVec 16 := 0
  hi : BitVec 16 := 0
  alone : Prop := False
  ranged : Prop := False

def portPart (dir : Dir) (e : ExtdFirewallEntry) : PortPart :=
  match dir with
  | .src => ⟨e.attrib.srcPort, e.attrib.srcPortLo, e.attrib.srcPortHi, bitPart .srcPort e, bitPart .srcPortRange e⟩
  | .dst => ⟨e.attrib.dstPort, e.attrib.dstPortLo, e.attrib.dstPortHi, bitPart .dstPort e, bitPart .dstPortRange e⟩

def PortPart.step (dir : Dir) (t : PortPart) : SubElement → PortPart
  | .port d p => if d = dir then { t with port := p } else t
  | .range d r =>
    if d = dir then
      if r = 0 then { t with alone := True }
      else { t with ranged := True, lo := t.port, hi := t.port + r, port := 0 }
    else t
  | _ => t

theorem portPart_apply (v : FirewallIpVersion) (dir : Dir) (e : ExtdFirewallEntry) (x : SubElement) :
    (portPart dir e).step dir x = portPart dir (x.apply v e) := by
  cases x with
  | port d p => cases d <;> cases dir <;> rfl
  | range d r =>
    by_cases hr : r = 0 <;> cases d <;> cases dir <;>
      simp only [PortPart.step, SubElement.apply, hr, if_true, if_false] <;> simp [portPart, bitPart]
  | address d | ipAddress d | prefixLen d =>
    cases d <;> cases dir <;> simp [PortPart.step, portPart, bitPart, SubElement.apply]
  | protocol | service | serviceValue | serviceMask =>
    cases v <;> cases dir <;> simp [PortPart.step, portPart, bitPart, SubElement.apply]
  | family n => cases dir <;> rfl

theorem PortPart.step_other (dir : Dir) (t : PortPart) (x : SubElement) (h : ¬x.about = some (.port dir)) :
    t.step dir x = t := by
  cases x <;> simp_all [PortPart.step, SubElement.about]

namespace FirewallElement

variable {env : XmlEnv} {d : EntrySaid}

/-- The entry it is stored as. -/
def entry (el : FirewallElement env d) : ExtdFirewallEntry := el.order.foldl (SubElement.apply d.version) {}

/-- What is said of a field, in the order it is said. -/
def orderFor (el : FirewallElement env d) (f : PacketField) : List SubElement :=
  el.order.filter fun x => x.about = some f

theorem orderFor_perm (el : FirewallElement env d) (f : PacketField) : (el.orderFor f).Perm (d.itemsFor f) := by
  rw [← d.filter_items f]
  exact el.perm.filter _

/-- A part of the entry is made by what is said of its field. -/
theorem part_entry (el : FirewallElement env d) {τ : Type} {part : ExtdFirewallEntry → τ} {step : τ → SubElement → τ}
    {f : PacketField} (hstep : ∀ e x, step (part e) x = part (x.apply d.version e))
    (hid : ∀ t x, ¬x.about = some f → step t x = t) : part el.entry = (el.orderFor f).foldl step (part {}) :=
  foldl_part hstep (fun t x hx => hid t x (by simpa using hx)) el.order {}

/-- Two that are about one field stand in their order in the document as they do among those about it. -/
theorem sublist_iff (el : FirewallElement env d) {f : PacketField} {a b : SubElement} (ha : a.about = some f)
    (hb : b.about = some f) : [a, b].Sublist el.order ↔ [a, b].Sublist (el.orderFor f) := by
  constructor
  · intro h
    have := h.filter fun x => decide (x.about = some f)
    simpa [ha, hb, orderFor] using this
  · intro h
    exact h.trans List.filter_sublist

end FirewallElement

theorem pair_sublist_swap_iff {κ : Type} {a b : κ} : [a, b].Sublist [b, a] ↔ a = b := by
  constructor
  · intro h
    exact (List.cons.inj (h.eq_of_length rfl)).1
  · rintro rfl
    exact .refl _

/-! ## Ports -/

/-- The ports that pass. -/
def PortPart.Matches (t : PortPart) (x : BitVec 16) : Prop :=
  (t.alone → x = t.port) ∧ (t.ranged → t.lo ≤ x ∧ x ≤ t.hi)

theorem portPart_matches (v : FirewallIpVersion) (dir : Dir) (e : ExtdFirewallEntry) (x : BitVec 16) :
    e.attrib.FieldMatches v (.port dir) x ↔ (portPart dir e).Matches x := by
  cases dir <;> rfl

/-- A port before its range. -/
theorem PortPart.fold_port_range (dir : Dir) (s : PortSaid) (x : BitVec 16) :
    ([SubElement.port dir s.port, .range dir s.range].foldl (step dir) {}).Matches x ↔
      s.port.toNat ≤ x.toNat ∧ x.toNat ≤ s.port.toNat + s.range.toNat := by
  have hfits := s.fits
  simp only [List.foldl_cons, List.foldl_nil, step, if_true]
  by_cases hr : s.range = 0
  · simp only [hr, if_true, Matches, true_imp_iff, false_imp_iff, and_true, ← BitVec.toNat_inj]
    change x.toNat = s.port.toNat ↔ s.port.toNat ≤ x.toNat ∧ x.toNat ≤ s.port.toNat + 0
    omega
  · simp only [if_neg hr, Matches, true_imp_iff, false_imp_iff, true_and, BitVec.le_def, BitVec.toNat_add,
      Nat.mod_eq_of_lt hfits]

/-- A range before its port: the range begins with port 0. -/
theorem PortPart.fold_range_port (dir : Dir) (s : PortSaid) (x : BitVec 16) :
    ([SubElement.range dir s.range, .port dir s.port].foldl (step dir) {}).Matches x ↔
      if s.range = 0 then x.toNat = s.port.toNat else x.toNat ≤ s.range.toNat := by
  simp only [List.foldl_cons, List.foldl_nil, step, if_true]
  split_ifs with hr
  · simp only [Matches, true_imp_iff, false_imp_iff, and_true, BitVec.toNat_inj]
  · simp only [Matches, true_imp_iff, false_imp_iff, true_and, BitVec.le_def]
    change 0 ≤ x.toNat ∧ x.toNat ≤ (0#16 + s.range).toNat ↔ _
    rw [BitVec.zero_add]
    exact and_iff_right (Nat.zero_le _)

namespace FirewallElement

variable {env : XmlEnv} {d : EntrySaid}

theorem port_iff (el : FirewallElement env d) (dir : Dir) :
    (∀ x, el.entry.attrib.FieldMatches d.version (.port dir) x ↔ d.FieldMatches (.port dir) x) ↔
      ∀ s ∈ d.port dir, s.range = 0 ∨ s.port = 0 ∨ [.port dir s.port, .range dir s.range].Sublist el.order := by
  have hblank : portPart dir {} = {} := by cases dir <;> simp [portPart, bitPart]
  have hpart := el.part_entry (portPart_apply d.version dir) (PortPart.step_other dir)
  have hperm := el.orderFor_perm (.port dir)
  rw [hblank] at hpart
  simp only [portPart_matches, hpart, EntrySaid.FieldMatches]
  simp only [EntrySaid.itemsFor, EntrySaid.portItems] at hperm
  cases hs : d.port dir with
  | none =>
    rw [hs] at hperm
    simp [List.perm_nil.1 hperm, PortPart.Matches]
  | some s =>
    rw [hs] at hperm
    simp only [Option.mem_some_iff, forall_eq', el.sublist_iff (f := .port dir) (a := .port dir s.port)
      (b := .range dir s.range) rfl rfl]
    rcases perm_pair_iff.1 hperm with h | h
    · simp only [h, PortPart.fold_port_range, implies_true, true_iff]
      exact .inr (.inr (.refl _))
    · simp only [h, PortPart.fold_range_port, pair_sublist_swap_iff, reduceCtorEq, or_false]
      by_cases hr : s.range = 0
      · simp only [hr, if_true, true_or, iff_true]
        intro x
        change x.toNat = s.port.toNat ↔ s.port.toNat ≤ x.toNat ∧ x.toNat ≤ s.port.toNat + 0
        omega
      · simp only [hr, if_false, false_or, ← BitVec.toNat_inj]
        constructor
        · intro hx
          have := (hx 0).1 (Nat.zero_le _)
          exact Nat.le_zero.1 this.1
        · intro hp x
          change s.port.toNat = 0 at hp
          omega

end FirewallElement

/-! ## The service byte -/

/-- The type of service or the traffic class. -/
def servicePart (v : FirewallIpVersion) (e : ExtdFirewallEntry) : Prop × BitVec 8 :=
  match v with
  | .v4 => (bitPart .tos e, e.attrib.v4.tos)
  | .v6 => (bitPart .tc e, e.attrib.v6.tc)

def serviceStep (t : Prop × BitVec 8) : SubElement → Prop × BitVec 8
  | .service => (True, t.2)
  | .serviceValue x => (t.1, x)
  | .serviceMask m => (t.1, t.2 &&& m)
  | _ => t

theorem servicePart_apply (v : FirewallIpVersion) (e : ExtdFirewallEntry) (x : SubElement) :
    serviceStep (servicePart v e) x = servicePart v (x.apply v e) := by
  cases x with
  | range d r =>
    by_cases hr : r = 0 <;> cases d <;> cases v <;>
      simp only [serviceStep, SubElement.apply, hr, if_true, if_false] <;> simp [servicePart, bitPart]
  | port d p | address d | ipAddress d | prefixLen d =>
    cases d <;> cases v <;> simp [serviceStep, servicePart, bitPart, SubElement.apply]
  | protocol | service | serviceValue | serviceMask =>
    cases v <;> simp [serviceStep, servicePart, bitPart, SubElement.apply]
  | family n => cases v <;> rfl

theorem serviceStep_other (t : Prop × BitVec 8) (x : SubElement) (h : ¬x.about = some .service) :
    serviceStep t x = t := by
  cases x <;> simp_all [serviceStep, SubElement.about]

theorem servicePart_matches (v : FirewallIpVersion) (e : ExtdFirewallEntry) (x : BitVec 8) :
    e.attrib.FieldMatches v .service x ↔ ((servicePart v e).1 → x = (servicePart v e).2) := by
  cases v <;> rfl

/-- The tag may stand anywhere; the value counts masked when it stands before the mask. -/
theorem serviceStep_fold {value mask : BitVec 8} {l : List SubElement}
    (h : l.Perm [.service, .serviceValue value, .serviceMask mask]) :
    l.foldl serviceStep (False, 0) =
      (True, if [SubElement.serviceValue value, .serviceMask mask].Sublist l then value &&& mask else value) := by
  have hgiven : (l.foldl serviceStep (False, 0)).1 =
      (l.filter (· = .service)).foldl (fun t x => (serviceStep (t, 0) x).1) False :=
    foldl_part (fun t x => by cases x <;> rfl) (fun t x hx => by cases x <;> simp_all [serviceStep]) l (False, 0)
  have hval : (l.foldl serviceStep (False, 0)).2 =
      (l.filter (· ≠ .service)).foldl (fun t x => (serviceStep (True, t) x).2) 0 :=
    foldl_part (fun t x => by cases x <;> rfl) (fun t x hx => by simp_all [serviceStep]) l (False, 0)
  have hone : (l.filter (· = .service)).Perm [.service] := by simpa using h.filter (· = .service)
  have htwo : (l.filter (· ≠ .service)).Perm [.serviceValue value, .serviceMask mask] := by
    simpa using h.filter (· ≠ .service)
  have hsub : [SubElement.serviceValue value, .serviceMask mask].Sublist l ↔
      [SubElement.serviceValue value, .serviceMask mask].Sublist (l.filter (· ≠ .service)) :=
    ⟨fun hs => by simpa using hs.filter (· ≠ .service), fun hs => hs.trans List.filter_sublist⟩
  refine Prod.ext ?_ ?_
  · rw [hgiven, List.perm_singleton.1 hone]
    rfl
  · rw [hval]
    simp only [hsub]
    rcases perm_pair_iff.1 htwo with h2 | h2
    · rw [h2, if_pos (.refl _)]
      rfl
    · rw [h2, if_neg (by simp [pair_sublist_swap_iff])]
      rfl

namespace FirewallElement

variable {env : XmlEnv} {d : EntrySaid}

theorem service_iff (el : FirewallElement env d) :
    (∀ x, el.entry.attrib.FieldMatches d.version .service x ↔ d.FieldMatches .service x) ↔
      ∀ s ∈ d.service, s.value &&& s.mask = s.value ∨
        [.serviceValue s.value, .serviceMask s.mask].Sublist el.order := by
  have hblank : servicePart d.version {} = (False, 0) := by cases d.version <;> simp [servicePart, bitPart]
  have hpart := el.part_entry (servicePart_apply d.version) serviceStep_other
  have hperm := el.orderFor_perm .service
  rw [hblank] at hpart
  simp only [servicePart_matches, hpart, EntrySaid.FieldMatches]
  simp only [EntrySaid.itemsFor, EntrySaid.serviceItems] at hperm
  cases hs : d.service with
  | none =>
    rw [hs] at hperm
    simp [List.perm_nil.1 hperm]
  | some s =>
    rw [hs] at hperm
    simp only [Option.mem_some_iff, forall_eq', el.sublist_iff (f := .service) (a := .serviceValue s.value)
      (b := .serviceMask s.mask) rfl rfl, serviceStep_fold hperm, true_imp_iff]
    split_ifs with h
    · simp [h]
    · simp only [h, or_false]
      constructor
      · intro hx
        exact ((hx s.value).1 rfl).symm
      · intro hv x
        rw [hv]

end FirewallElement

/-! ## Addresses -/

/-- The leading bits a stored prefix compares: a word whose rest is not in the table of `mask_v6` stays 0. -/
def comparedLen (n : Nat) : Nat := if n % 4 = 0 then n else n / 32 * 32

theorem comparedLen_le (n : Nat) : comparedLen n ≤ n := by
  unfold comparedLen
  split_ifs <;> omega

theorem comparedLen_eq_iff {n : Nat} : comparedLen n = n ↔ n % 4 = 0 := by
  unfold comparedLen
  split_ifs with h
  · simp [h]
  · simp only [h, iff_false]
    omega

theorem prefixMask_eq {n : Nat} (hn : n ≤ 128) (i : Fin 4) :
    prefixMask n (fun _ => 0) i = leadingOnes 32 (comparedLen n - 32 * i) := by
  have h : ∀ n : Fin 129, ∀ i : Fin 4,
      prefixMask n.val (fun _ => 0) i = leadingOnes 32 (comparedLen n.val - 32 * i) := by
    decide +kernel
  exact h ⟨n, by omega⟩ i

theorem getMsbD_addrWord (x : BitVec 128) (i : Fin 4) {j : Nat} (hj : j < 32) :
    (addrWord x i).getMsbD j = x.getMsbD (32 * i + j) := by
  have hi := i.isLt
  rw [addrWord, BitVec.getMsbD_eq_getLsbD, BitVec.getLsbD_extractLsb', BitVec.getMsbD_eq_getLsbD,
    decide_eq_true hj, decide_eq_true (by omega : 32 - 1 - j < 32), decide_eq_true (by omega : 32 * i.val + j < 128)]
  simp only [Bool.true_and]
  congr 1
  omega

/-- Word by word under the masks, addresses are the same that begin the same. -/
theorem masked_words_iff {n : Nat} (hn : n ≤ 128) (x a : BitVec 128) :
    (∀ i, addrWord x i &&& prefixMask n (fun _ => 0) i = addrWord a i &&& prefixMask n (fun _ => 0) i) ↔
      ∀ j < comparedLen n, x.getMsbD j = a.getMsbD j := by
  have hle := comparedLen_le n
  simp only [prefixMask_eq hn, and_leadingOnes_eq_iff]
  constructor
  · intro h j hj
    have := h ⟨j / 32, by omega⟩ (j % 32) (by omega) (by simp only; omega)
    rw [getMsbD_addrWord _ _ (by omega), getMsbD_addrWord _ _ (by omega)] at this
    simpa only [Nat.div_add_mod] using this
  · intro h i j hj hlen
    rw [getMsbD_addrWord _ _ hj, getMsbD_addrWord _ _ hj]
    exact h _ (by omega)

structure AddressPart where
  given : Prop := False
  addr : Option (BitVec 128) := some 0
  mask : Fin 4 → BitVec 32 := fun _ => 0

def addressPart (dir : Dir) (e : ExtdFirewallEntry) : AddressPart :=
  match dir with
  | .src => ⟨bitPart .srcAddr e, e.attrib.v6.srcAddr, e.attrib.v6.srcAddrMask⟩
  | .dst => ⟨bitPart .dstAddr e, e.attrib.v6.dstAddr, e.attrib.v6.dstAddrMask⟩

def AddressPart.step (dir : Dir) (t : AddressPart) : SubElement → AddressPart
  | .address d => if d = dir then { t with given := True } else t
  | .ipAddress d a => if d = dir then { t with addr := some a } else t
  | .prefixLen d n => if d = dir then { t with mask := prefixMask n t.mask } else t
  | _ => t

theorem addressPart_apply (v : FirewallIpVersion) (dir : Dir) (e : ExtdFirewallEntry) (x : SubElement) :
    (addressPart dir e).step dir x = addressPart dir (x.apply v e) := by
  cases x with
  | range d r =>
    by_cases hr : r = 0 <;> cases d <;> cases dir <;>
      simp only [AddressPart.step, SubElement.apply, hr, if_true, if_false] <;> simp [addressPart, bitPart]
  | port d p | address d | ipAddress d | prefixLen d =>
    cases d <;> cases dir <;> simp [AddressPart.step, addressPart, bitPart, SubElement.apply]
  | protocol | service | serviceValue | serviceMask =>
    cases v <;> cases dir <;> simp [AddressPart.step, addressPart, bitPart, SubElement.apply]
  | family n => cases dir <;> rfl

theorem AddressPart.step_other (dir : Dir) (t : AddressPart) (x : SubElement) (h : ¬x.about = some (.address dir)) :
    t.step dir x = t := by
  cases x <;> simp_all [AddressPart.step, SubElement.about]

/-- The tag, the address and the prefix may stand in any order. -/
theorem AddressPart.fold_perm {dir : Dir} {a : BitVec 128} {n : Nat} {l : List SubElement}
    (h : l.Perm [.address dir, .ipAddress dir a, .prefixLen dir n]) :
    l.foldl (step dir) {} = ⟨True, some a, prefixMask n fun _ => 0⟩ := by
  have hcomm : ∀ x ∈ l, ∀ y ∈ l, ∀ t : AddressPart, (t.step dir x).step dir y = (t.step dir y).step dir x := by
    intro x hx y hy t
    have hx := h.subset hx
    have hy := h.subset hy
    simp only [List.mem_cons, List.not_mem_nil, or_false] at hx hy
    rcases hx with rfl | rfl | rfl <;> rcases hy with rfl | rfl | rfl <;> simp [step]
  rw [h.foldl_eq' hcomm]
  simp [step]

/-- The IPv6 addresses that pass. -/
def AddressPart.Matches (t : AddressPart) (x : BitVec 128) : Prop :=
  t.given → ∃ addr, t.addr = some addr ∧ ∀ i, addrWord x i &&& t.mask i = addrWord addr i &&& t.mask i

theorem addressPart_matches (dir : Dir) (e : ExtdFirewallEntry) (x : BitVec 128) :
    e.attrib.FieldMatches .v6 (.address dir) x ↔ (addressPart dir e).Matches x := by
  cases dir <;> rfl

theorem EntrySaid.addressMatches_none (v : FirewallIpVersion) {dir : Dir} (x : PacketField.Value v (.address dir)) :
    EntrySaid.AddressMatches none v x := by
  cases v with
  | v4 => trivial
  | v6 => simp [EntrySaid.AddressMatches]

/-- Without the tag every address passes. -/
theorem fieldMatches_address_of_not_given (v : FirewallIpVersion) (dir : Dir) (e : ExtdFirewallEntry)
    (h : ¬(addressPart dir e).given) (x : PacketField.Value v (.address dir)) :
    e.attrib.FieldMatches v (.address dir) x := by
  cases dir <;> exact fun hg => absurd hg h

namespace FirewallElement

variable {env : XmlEnv} {d : EntrySaid}

theorem address_iff (el : FirewallElement env d) (dir : Dir) :
    (∀ x, el.entry.attrib.FieldMatches d.version (.address dir) x ↔ d.FieldMatches (.address dir) x) ↔
      ∀ s ∈ d.address dir, s.len % 4 = 0 := by
  have hblank : addressPart dir {} = {} := by cases dir <;> simp [addressPart, bitPart]
  have hpart := el.part_entry (addressPart_apply d.version dir) (AddressPart.step_other dir)
  have hperm := el.orderFor_perm (.address dir)
  rw [hblank] at hpart
  simp only [EntrySaid.itemsFor, EntrySaid.addressItems] at hperm
  cases hs : d.address dir with
  | none =>
    rw [hs] at hperm
    rw [List.perm_nil.1 hperm] at hpart
    have hall : ∀ x, d.FieldMatches (.address dir) x := by
      intro x
      simp only [EntrySaid.FieldMatches, hs]
      exact EntrySaid.addressMatches_none _ x
    have hpass := fieldMatches_address_of_not_given d.version dir el.entry (by rw [hpart]; exact not_false)
    simp [hall, hpass]
  | some s =>
    rw [hs] at hperm
    rw [AddressPart.fold_perm hperm] at hpart
    obtain ⟨version, protocol, port, address, haddr, service⟩ := d
    have hsome : address dir = some s := hs
    cases version with
    | v4 => exact absurd (hsome.symm.trans (haddr rfl dir)) (by simp)
    | v6 =>
      have hsaid : ∀ x : BitVec 128, EntrySaid.FieldMatches ⟨.v6, protocol, port, address, haddr, service⟩ (.address dir) x ↔
          ∀ j < s.len, x.getMsbD j = s.addr.getMsbD j := by
        intro x
        simp only [EntrySaid.FieldMatches, EntrySaid.AddressMatches, hsome, Option.mem_some_iff, forall_eq']
      have hstored : ∀ x : BitVec 128, el.entry.attrib.FieldMatches .v6 (.address dir) x ↔
          ∀ j < comparedLen s.len, x.getMsbD j = s.addr.getMsbD j := by
        intro x
        simp only [addressPart_matches, hpart, AddressPart.Matches, true_imp_iff, Option.some_inj, exists_eq_left',
          masked_words_iff s.len_le]
      simp only [Option.mem_some_iff, forall_eq', ← comparedLen_eq_iff]
      constructor
      · intro h
        by_contra hne
        have hlt : comparedLen s.len < s.len := Nat.lt_of_le_of_ne (comparedLen_le _) hne
        have hle := s.len_le
        obtain ⟨x, hx⟩ := exists_flip (show comparedLen s.len < 128 by omega) s.addr
        have hin := (h x).1 ((hstored x).2 fun j hj => (hx j).2 (Nat.ne_of_lt hj))
        exact (hx _).1 ((hsaid x).1 hin _ hlt) rfl
      · intro h x
        rw [h] at hstored
        exact (hstored x).trans (hsaid x).symm

end FirewallElement

end HiaeCommon
