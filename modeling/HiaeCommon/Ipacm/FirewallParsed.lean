/-
What the walker stores for a `Firewall` element, as a whole: an entry that
matches what the element describes exactly when the element is in order, in
the first free place, with every other entry as it was.

An element always describes some packet, so its fields are right together only
if each is right alone.
-/
import HiaeCommon.Ipacm.FirewallMeaning

namespace HiaeCommon

open Function (update)
open Lib (foldl_part fieldFilters_iff)

/-! ## The other fields -/

/-- The protocol or the next header. -/
def protocolPart (v : FirewallIpVersion) (e : ExtdFirewallEntry) : Prop × BitVec 8 :=
  match v with
  | .v4 => (bitPart .protocol e, e.attrib.v4.protocol)
  | .v6 => (bitPart .nextHdr e, e.attrib.v6.nextHdr)

def protocolStep (t : Prop × BitVec 8) : SubElement → Prop × BitVec 8
  | .protocol n => (True, n)
  | _ => t

theorem protocolPart_apply (v : FirewallIpVersion) (e : ExtdFirewallEntry) (x : SubElement) :
    protocolStep (protocolPart v e) x = protocolPart v (x.apply v e) := by
  cases x with
  | range d r =>
    by_cases hr : r = 0 <;> cases d <;> cases v <;>
      simp only [protocolStep, SubElement.apply, hr, if_true, if_false] <;> simp [protocolPart, bitPart]
  | port d p | address d | ipAddress d | prefixLen d =>
    cases d <;> cases v <;> simp [protocolStep, protocolPart, bitPart, SubElement.apply]
  | protocol | service | serviceValue | serviceMask =>
    cases v <;> simp [protocolStep, protocolPart, bitPart, SubElement.apply]
  | family n => cases v <;> rfl

theorem protocolStep_other (t : Prop × BitVec 8) (x : SubElement) (h : ¬x.about = some .protocol) :
    protocolStep t x = t := by
  cases x <;> simp_all [protocolStep, SubElement.about]

theorem protocolPart_matches (v : FirewallIpVersion) (e : ExtdFirewallEntry) (x : BitVec 8) :
    e.attrib.FieldMatches v .protocol x ↔ ((protocolPart v e).1 → ProtocolIs (protocolPart v e).2 x) := by
  cases v <;> rfl

/-- No sub-element asks for an ICMP type, an ICMP code or an SPI. -/
theorem bitPart_apply {b : FltAttrib} (hb : b ∈ [FltAttrib.type, .code, .spi]) (v : FirewallIpVersion)
    (e : ExtdFirewallEntry) (x : SubElement) : bitPart b e = bitPart b (x.apply v e) := by
  have hne : b ≠ .protocol ∧ b ≠ .nextHdr ∧ b ≠ .srcPort ∧ b ≠ .dstPort ∧ b ≠ .srcPortRange ∧ b ≠ .dstPortRange ∧
      b ≠ .srcAddr ∧ b ≠ .dstAddr ∧ b ≠ .tos ∧ b ≠ .tc := by
    revert b
    decide
  cases x with
  | range d r =>
    by_cases hr : r = 0 <;> cases d <;>
      simp only [SubElement.apply, hr, if_true, if_false] <;> simp [bitPart, hne]
  | port d p | address d | ipAddress d | prefixLen d => cases d <;> simp [bitPart, SubElement.apply, hne]
  | protocol | service | serviceValue | serviceMask => cases v <;> simp [bitPart, SubElement.apply, hne]
  | family n => rfl

def familyStep (t : BitVec 32) : SubElement → BitVec 32
  | .family n => n
  | _ => t

theorem familyStep_apply (v : FirewallIpVersion) (e : ExtdFirewallEntry) (x : SubElement) :
    familyStep e.ipVsn x = (x.apply v e).ipVsn := by
  cases x with
  | range d r =>
    by_cases hr : r = 0 <;> cases d <;> simp only [familyStep, SubElement.apply, hr, if_true, if_false]
  | port d | address d | ipAddress d | prefixLen d => cases d <;> rfl
  | protocol | service | serviceValue | serviceMask => cases v <;> rfl
  | family n => rfl

namespace FirewallElement

variable {env : XmlEnv} {d : EntrySaid}

theorem protocol_matches (el : FirewallElement env d) (x : BitVec 8) :
    el.entry.attrib.FieldMatches d.version .protocol x ↔ d.FieldMatches .protocol x := by
  have hblank : protocolPart d.version {} = (False, 0) := by cases d.version <;> simp [protocolPart, bitPart]
  have hpart := el.part_entry (protocolPart_apply d.version) protocolStep_other
  have hperm := el.orderFor_perm .protocol
  rw [hblank] at hpart
  simp only [protocolPart_matches, hpart, EntrySaid.FieldMatches]
  simp only [EntrySaid.itemsFor, EntrySaid.protocolItems] at hperm
  cases hs : d.protocol with
  | none =>
    rw [hs] at hperm
    simp [List.perm_nil.1 hperm]
  | some n =>
    rw [hs] at hperm
    simp [List.perm_singleton.1 hperm, protocolStep]

theorem not_bit_entry (el : FirewallElement env d) {b : FltAttrib} (hb : b ∈ [FltAttrib.type, .code, .spi]) :
    b ∉ el.entry.attrib.attribMask := by
  have hpart : bitPart b el.entry = (el.orderFor .spi).foldl (fun t _ => t) (bitPart b {}) :=
    el.part_entry (fun e x => bitPart_apply hb d.version e x) fun _ _ _ => rfl
  rw [List.perm_nil.1 (el.orderFor_perm .spi)] at hpart
  intro hmem
  have hblank : bitPart b {} := hpart.mp hmem
  simp [bitPart] at hblank

theorem ipVsn_entry (el : FirewallElement env d) : el.entry.ipVsn = d.version.code := by
  have hpart : el.entry.ipVsn = (el.order.filter fun x => x.about = none).foldl familyStep 0 :=
    foldl_part (familyStep_apply d.version) (fun t x hx => by cases x <;> simp_all [familyStep, SubElement.about])
      el.order {}
  have hnone : ∀ f, (d.itemsFor f).filter (fun x => x.about = none) = [] := fun f =>
    List.filter_eq_nil_iff.2 fun x hx => by simp [d.itemsFor_about f x hx]
  have hp := hnone .protocol
  have h1 := hnone (.port .src)
  have h2 := hnone (.port .dst)
  have h3 := hnone (.address .src)
  have h4 := hnone (.address .dst)
  have h5 := hnone .service
  simp only [EntrySaid.itemsFor] at hp h1 h2 h3 h4 h5
  have hperm : (el.order.filter fun x => x.about = none).Perm [.family d.version.code] := by
    have hfam : (SubElement.family d.version.code).about = none := rfl
    have := el.perm.filter fun x => x.about = none
    simpa only [EntrySaid.items, List.filter_cons, List.filter_append, hfam, decide_true, if_true, hp, h1, h2, h3, h4,
      h5, List.append_nil] using this
  rw [hpart, List.perm_singleton.1 hperm]
  rfl

end FirewallElement

/-! ## The entry -/

namespace EntrySaid

/-- Every field lets some packet pass. -/
theorem exists_fieldMatches (d : EntrySaid) (f : PacketField) : ∃ x, d.FieldMatches f x := by
  obtain ⟨version, protocol, port, address, haddr, service⟩ := d
  cases f with
  | protocol =>
    cases protocol with
    | none => exact ⟨0, by simp [FieldMatches]⟩
    | some n =>
      by_cases hn : n = 253
      · exact ⟨6, by simp [FieldMatches, ProtocolIs, hn]⟩
      · exact ⟨n, by simp only [FieldMatches, ProtocolIs, Option.mem_some_iff, forall_eq', if_neg hn]⟩
  | port dir =>
    cases hs : port dir with
    | none => exact ⟨0, by simp [FieldMatches, hs]⟩
    | some s => exact ⟨s.port, by simp [FieldMatches, hs]⟩
  | address dir =>
    cases version with
    | v4 => exact ⟨0, trivial⟩
    | v6 =>
      cases hs : address dir with
      | none => exact ⟨0, by simp [FieldMatches, AddressMatches, hs]⟩
      | some s => exact ⟨s.addr, by simp [FieldMatches, AddressMatches, hs]⟩
  | service =>
    cases service with
    | none => exact ⟨0, by simp [FieldMatches]⟩
    | some s => exact ⟨s.value &&& s.mask, by simp [FieldMatches]⟩
  | icmpType | icmpCode | spi => exact ⟨0, trivial⟩

/-- The entry is of the element's family and matches what the element describes. -/
def IsMeaningOf (d : EntrySaid) (e : ExtdFirewallEntry) : Prop :=
  e.ipVsn = d.version.code ∧ ∀ p : Packet d.version, e.attrib.Matches d.version p ↔ d.Describes p

end EntrySaid

theorem OpenConf.num_next (o : OpenConf) :
    ((o.conf.table ()).num + 1).toNat = (o.conf.table ()).num.toNat + 1 := by
  have hroom : (o.conf.table ()).num.toNat < 50 := o.room
  rw [BitVec.toNat_add, Nat.mod_eq_of_lt]
  · rfl
  · change (o.conf.table ()).num.toNat + 1 < 256
    omega

namespace FirewallElement

variable {env : XmlEnv} {d : EntrySaid}

/-- No port behind its range, unless one of them is 0; no value behind a mask that changes it; whole hexadecimal
digits in every prefix. -/
def InOrder (el : FirewallElement env d) : Prop :=
  (∀ dir, ∀ s ∈ d.port dir,
    s.range = 0 ∨ s.port = 0 ∨ [SubElement.port dir s.port, .range dir s.range].Sublist el.order) ∧
  (∀ s ∈ d.service, s.value &&& s.mask = s.value ∨
    [SubElement.serviceValue s.value, .serviceMask s.mask].Sublist el.order) ∧
  ∀ dir, ∀ s ∈ d.address dir, s.len % 4 = 0

theorem isMeaningOf_entry_iff (el : FirewallElement env d) : d.IsMeaningOf el.entry ↔ el.InOrder := by
  have hfields : (∀ p : Packet d.version, el.entry.attrib.Matches d.version p ↔ d.Describes p) ↔
      ∀ f x, el.entry.attrib.FieldMatches d.version f x ↔ d.FieldMatches f x :=
    fieldFilters_iff d.exists_fieldMatches
  rw [EntrySaid.IsMeaningOf, and_iff_right el.ipVsn_entry, hfields]
  constructor
  · intro h
    exact ⟨fun dir => (el.port_iff dir).1 (h (.port dir)), el.service_iff.1 (h .service),
      fun dir => (el.address_iff dir).1 (h (.address dir))⟩
  · rintro ⟨hport, hservice, haddr⟩ f
    cases f with
    | protocol => exact el.protocol_matches
    | port dir => exact (el.port_iff dir).2 (hport dir)
    | address dir => exact (el.address_iff dir).2 (haddr dir)
    | service => exact el.service_iff.2 hservice
    | icmpType | icmpCode | spi =>
      intro x
      refine iff_of_true (fun hb => absurd hb (el.not_bit_entry ?_)) trivial
      simp

/-! ## The walk -/

/-- The element, as the list of a document. -/
def node (el : FirewallElement env d) : XmlNode := .element (cstr "Firewall") el.children .null

/-- What the walker makes of a configuration: one more entry, which is the element's. -/
def stored (el : FirewallElement env d) (o : OpenConf) : FirewallConf :=
  { o.conf with
    table := update o.conf.table ()
      { num := (o.conf.table ()).num + 1
        entries := update (o.conf.table ()).entries ⟨_, o.room⟩ el.entry } }

@[simp] theorem stored_num (el : FirewallElement env d) (o : OpenConf) :
    ((el.stored o).table ()).num = (o.conf.table ()).num + 1 := rfl

@[simp] theorem stored_entries_self (el : FirewallElement env d) (o : OpenConf) :
    ((el.stored o).table ()).entries ⟨_, o.room⟩ = el.entry := by simp [stored]

theorem stored_entries_of_ne (el : FirewallElement env d) (o : OpenConf) {i : Fin ipacmMaxFirewallEntries}
    (hi : i.val ≠ (o.conf.table ()).num.toNat) :
    ((el.stored o).table ()).entries i = (o.conf.table ()).entries i := by
  have hne : i ≠ ⟨_, o.room⟩ := fun he => hi (congrArg Fin.val he)
  simp [stored, Function.update_of_ne hne]

theorem parse_eq (el : FirewallElement env d) (o : OpenConf) :
    ipacmFirewallXmlParseTree env el.node o.conf = .ok (el.stored o) := by
  have hact : findAct (firewallActs env) (cstr "Firewall") = some (.count ()) := by
    refine findAct_of_mem (firewallActs_tags env) ?_
    repeat first | exact .head _ | apply List.Mem.tail
  have hnum := o.num_next
  have hroom := o.room
  have hlast : HasLast (o.conf.count ()) := by
    simp only [HasLast, LastInRange, XmlConf.count, Function.update_self, hnum]
    omega
  have hidx : lastIdx hlast = ⟨_, o.room⟩ := by
    simp only [lastIdx, XmlConf.count, Function.update_self, hnum, Nat.add_sub_cancel]
  have hput : ∀ e, putLast hlast e = { o.conf with
      table := update o.conf.table ()
        { num := (o.conf.table ()).num + 1
          entries := update (o.conf.table ()).entries ⟨_, o.room⟩ e } } := by
    intro e
    rw [putLast, hidx]
    simp [XmlConf.count]
  -- the counted entry is blank, so it can be read as just written
  have hcount : o.conf.count () = putLast hlast {} := by
    rw [hput, ← o.blank ⟨_, o.room⟩ (Nat.le_refl _), Function.update_eq_self]
    rfl
  rw [ipacmFirewallXmlParseTree, parseTree_eq, node, visits, hact]
  simp only [XmlAct.descends, if_true, visits, List.append_nil]
  rw [performAll, List.foldlM_cons]
  change performAll env (visits (firewallActs env) el.children) (o.conf.count ()) = _
  rw [hcount, performAll_eq hlast _ el.written, hput]
  rfl

/-- While there is room, the next element finds such a configuration again. -/
def nextConf (el : FirewallElement env d) (o : OpenConf)
    (room : (o.conf.table ()).num.toNat + 1 < ipacmMaxFirewallEntries) : OpenConf where
  conf := el.stored o
  room := by rwa [stored_num, o.num_next]
  blank i hi := by
    rw [stored_num, o.num_next] at hi
    rw [el.stored_entries_of_ne o (by omega)]
    exact o.blank i (by omega)

/-- The walk appends an entry that means what the element says, and touches no other. -/
def ParsedRight (el : FirewallElement env d) (o : OpenConf) : Prop :=
  ∃ c, ipacmFirewallXmlParseTree env el.node o.conf = .ok c ∧ (c.table ()).num = (o.conf.table ()).num + 1 ∧
    d.IsMeaningOf ((c.table ()).entries ⟨_, o.room⟩) ∧
      ∀ i : Fin ipacmMaxFirewallEntries, i.val ≠ (o.conf.table ()).num.toNat →
        (c.table ()).entries i = (o.conf.table ()).entries i

theorem parsedRight_iff_isMeaningOf (el : FirewallElement env d) (o : OpenConf) :
    el.ParsedRight o ↔ d.IsMeaningOf el.entry := by
  constructor
  · rintro ⟨c, hc, -, hmeans, -⟩
    rw [el.parse_eq o, Except.ok.injEq] at hc
    subst hc
    simpa using hmeans
  · intro h
    exact ⟨el.stored o, el.parse_eq o, rfl, by simpa using h, fun i hi => el.stored_entries_of_ne o hi⟩

/-- **Firewall entries mean what the file says exactly when its elements are in order.** -/
theorem parsedRight_iff (el : FirewallElement env d) (o : OpenConf) : el.ParsedRight o ↔ el.InOrder :=
  (el.parsedRight_iff_isMeaningOf o).trans el.isMeaningOf_entry_iff

end FirewallElement

/-! ## Elements out of order -/

/-- Sub-elements side by side, with the tag and the text of each. -/
def leaves : List (SubElement × String × CStr) → XmlNode
  | [] => .null
  | (_, tag, text) :: l => .element (cstr tag) (.text text .null) (leaves l)

theorem SubElement.not_isGroup_act (env : XmlEnv) (v : FirewallIpVersion) (x : SubElement) :
    isGroup (x.act env v) = false := by
  cases x with
  | port d | range d | address d | ipAddress d | prefixLen d => cases d <;> rfl
  | protocol | service | serviceValue | serviceMask => cases v <;> rfl
  | family n => rfl

theorem written_leaves (env : XmlEnv) (v : FirewallIpVersion) (l : List (SubElement × String × CStr))
    (h : ∀ p ∈ l, p.2.1 ∈ p.1.tags v ∧ p.1.HasText env (some p.2.2)) :
    List.Forall₂ (SubElement.Written env v)
      ((visits (firewallActs env) (leaves l)).filter fun v => !isGroup v.1) (l.map Prod.fst) := by
  induction l with
  | nil => exact .nil
  | cons p l ih =>
    obtain ⟨x, tag, text⟩ := p
    obtain ⟨htag, htext⟩ := h _ List.mem_cons_self
    have hact := SubElement.findAct_tags env v x tag htag
    have hno : (if (x.act env v).descends then visits (firewallActs env) (.text text .null) else []) = [] := by
      split_ifs <;> rfl
    rw [leaves, visits, hact]
    simp only [hno, List.nil_append]
    rw [List.filter_cons_of_pos (by simp [SubElement.not_isGroup_act])]
    exact .cons ⟨⟨tag, htag, hact⟩, htext⟩ (ih fun p hp => h p (List.mem_cons_of_mem _ hp))

/-- An entry for the ports 80 to 90. -/
def webSaid : EntrySaid where
  version := .v4
  protocol := none
  port
    | .src => some ⟨80, 10, by decide⟩
    | .dst => none
  address _ := none
  addressV6 _ _ := rfl
  service := none

/-- The range before the port. -/
def webBackwards : List (SubElement × String × CStr) := [
  (.family 4, "IPFamily", cstr "4"),
  (.range .src 10, "TCPSourceRange", cstr "10"),
  (.port .src 80, "TCPSourcePort", cstr "80")]

def webElement : FirewallElement sampleXmlEnv webSaid where
  children := leaves webBackwards
  order := webBackwards.map Prod.fst
  written := by
    refine written_leaves sampleXmlEnv .v4 webBackwards fun p hp => ?_
    simp only [webBackwards, List.mem_cons, List.not_mem_nil, or_false] at hp
    rcases hp with rfl | rfl | rfl <;> exact ⟨by decide, _, rfl, by decide, by decide⟩
  perm := .cons _ (.swap _ _ _)

/-- An entry for the addresses whose first two bits are 0. -/
def quarterSaid : EntrySaid where
  version := .v6
  protocol := none
  port _ := none
  address
    | .src => some ⟨0, 2, by decide⟩
    | .dst => none
  addressV6 h := nomatch h
  service := none

def quarterEnv : XmlEnv := { sampleXmlEnv with inetPton := fun s => if s = cstr "::" then some 0 else none }

def quarterItems : List (SubElement × String × CStr) := [
  (.family 6, "IPFamily", cstr "6"),
  (.address .src, "IPV6SourceAddress", []),
  (.ipAddress .src 0, "IPV6SourceIPAddress", cstr "::"),
  (.prefixLen .src 2, "IPV6SourcePrefix", cstr "2")]

def quarterElement : FirewallElement quarterEnv quarterSaid where
  children := leaves quarterItems
  order := quarterItems.map Prod.fst
  written := by
    refine written_leaves quarterEnv .v6 quarterItems fun p hp => ?_
    simp only [quarterItems, List.mem_cons, List.not_mem_nil, or_false] at hp
    rcases hp with rfl | rfl | rfl | rfl
    · exact ⟨by decide, _, rfl, by decide, by decide⟩
    · exact ⟨by decide, trivial⟩
    · exact ⟨by decide, _, rfl, by decide, rfl⟩
    · exact ⟨by decide, by decide, _, rfl, by decide, by decide⟩
  perm := .refl _

/-- The configuration after `memset`. -/
def OpenConf.zero : OpenConf := ⟨.zero, by decide, fun _ _ => rfl⟩

/-- Ports 0 to 10 pass for 80 to 90, and all addresses for a quarter of them. -/
theorem not_parsedRight_range_first : ¬webElement.ParsedRight .zero ∧ ¬quarterElement.ParsedRight .zero := by
  simp only [FirewallElement.parsedRight_iff_isMeaningOf, FirewallElement.isMeaningOf_entry_iff]
  constructor
  · rintro ⟨hport, -, -⟩
    rcases hport .src _ rfl with h | h | h
    · exact absurd h (by decide)
    · exact absurd h (by decide)
    · exact absurd h (by decide)
  · rintro ⟨-, -, haddr⟩
    exact absurd (haddr .src _ rfl) (by decide)

end HiaeCommon
