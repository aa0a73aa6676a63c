/-
The packets a `Firewall` element describes, those its attributes match, and
the sub-elements it is written with.

A filter is a predicate for each field of a packet. An element is described by
what it says, whatever the order it says it in; the walker acts on one
sub-element after the other, each in place.
-/
import HiaeCommon.Ipacm.XmlBounds
import HiaeCommon.Lib.FieldFilters
import HiaeCommon.Lib.PrefixMask

namespace HiaeCommon

open Function (update)
open Lib (foldl_part perm_pair_iff)

/-- `firewall_ip_version_enum`. -/
inductive FirewallIpVersion
  | v4 | v6
  deriving DecidableEq, Repr

def FirewallIpVersion.code : FirewallIpVersion → BitVec 32
  | .v4 => 4
  | .v6 => 6

/-- The source or the destination. -/
inductive Dir
  | src | dst
  deriving DecidableEq, Repr

/-! ## Packets -/

/-- What a rule may ask of a packet. -/
inductive PacketField
  | protocol
  | port (dir : Dir)
  | address (dir : Dir)
  | service
  | icmpType | icmpCode | spi
  deriving DecidableEq, Repr

abbrev PacketField.Value (v : FirewallIpVersion) : PacketField → Type
  | protocol => BitVec 8
  | port _ => BitVec 16
  | address _ => match v with
    | .v4 => BitVec 32
    | .v6 => BitVec 128
  | service => BitVec 8
  | icmpType => BitVec 8
  | icmpCode => BitVec 8
  | spi => BitVec 32

/-- A packet; `service` is its type of service or its traffic class. -/
abbrev Packet (v : FirewallIpVersion) := (f : PacketField) → f.Value v

/-- `IPACM_FIREWALL_IPPROTO_TCP_UDP` stands for both. -/
def ProtocolIs (n x : BitVec 8) : Prop := if n = 253 then x = 6 ∨ x = 17 else x = n

/-- Word `i` of an IPv6 address, in host order. -/
def addrWord (x : BitVec 128) (i : Fin 4) : BitVec 32 := x.extractLsb' (96 - 32 * i) 32

namespace RuleAttrib

/-- The addresses that pass: those equal to the rule's where the mask has ones. -/
def AddressMatches (a : RuleAttrib) : (v : FirewallIpVersion) → (dir : Dir) → PacketField.Value v (.address dir) → Prop
  | .v4, .src, x => x &&& a.v4.srcAddrMask = a.v4.srcAddr &&& a.v4.srcAddrMask
  | .v4, .dst, x => x &&& a.v4.dstAddrMask = a.v4.dstAddr &&& a.v4.dstAddrMask
  | .v6, .src, x => ∃ addr, a.v6.srcAddr = some addr ∧
      ∀ i, addrWord x i &&& a.v6.srcAddrMask i = addrWord addr i &&& a.v6.srcAddrMask i
  | .v6, .dst, x => ∃ addr, a.v6.dstAddr = some addr ∧
      ∀ i, addrWord x i &&& a.v6.dstAddrMask i = addrWord addr i &&& a.v6.dstAddrMask i

/-- What an attribute set asks of a field: the fields whose bit is in `attrib_mask` are compared. -/
def FieldMatches (v : FirewallIpVersion) (a : RuleAttrib) : (f : PacketField) → f.Value v → Prop
  | .protocol, x => match v with
    | .v4 => .protocol ∈ a.attribMask → ProtocolIs a.v4.protocol x
    | .v6 => .nextHdr ∈ a.attribMask → ProtocolIs a.v6.nextHdr x
  | .port .src, x => (.srcPort ∈ a.attribMask → x = a.srcPort) ∧
      (.srcPortRange ∈ a.attribMask → a.srcPortLo ≤ x ∧ x ≤ a.srcPortHi)
  | .port .dst, x => (.dstPort ∈ a.attribMask → x = a.dstPort) ∧
      (.dstPortRange ∈ a.attribMask → a.dstPortLo ≤ x ∧ x ≤ a.dstPortHi)
  | .address .src, x => .srcAddr ∈ a.attribMask → a.AddressMatches v .src x
  | .address .dst, x => .dstAddr ∈ a.attribMask → a.AddressMatches v .dst x
  | .service, x => match v with
    | .v4 => .tos ∈ a.attribMask → x = a.v4.tos
    | .v6 => .tc ∈ a.attribMask → x = a.v6.tc
  | .icmpType, x => .type ∈ a.attribMask → x = a.type
  | .icmpCode, x => .code ∈ a.attribMask → x = a.code
  | .spi, x => .spi ∈ a.attribMask → x = a.spi

/-- The packets the rule is for. -/
def Matches (v : FirewallIpVersion) (a : RuleAttrib) (p : Packet v) : Prop := ∀ f, a.FieldMatches v f (p f)

end RuleAttrib

/-! ## What an element says -/

/-- A port and how many follow it. -/
structure PortSaid where
  port : BitVec 16
  range : BitVec 16
  fits : port.toNat + range.toNat < 2 ^ 16

/-- An IPv6 address and its prefix length. -/
structure AddressSaid where
  addr : BitVec 128
  len : Nat
  len_le : len ≤ 128

/-- A type of service or traffic class, and its mask. -/
structure ServiceSaid where
  value : BitVec 8
  mask : BitVec 8

/-- What a `Firewall` element says. Only an IPv6 entry has IPv6 addresses. -/
structure EntrySaid where
  version : FirewallIpVersion
  protocol : Option (BitVec 8)
  port : Dir → Option PortSaid
  address : Dir → Option AddressSaid
  addressV6 : version = .v4 → ∀ dir, address dir = none
  service : Option ServiceSaid

namespace EntrySaid

/-- The addresses that begin as the one said. -/
def AddressMatches {dir : Dir} (said : Option AddressSaid) :
    (v : FirewallIpVersion) → PacketField.Value v (.address dir) → Prop
  | .v4, _ => True
  | .v6, x => ∀ s ∈ said, ∀ j < s.len, x.getMsbD j = s.addr.getMsbD j

/-- What it asks of a field. -/
def FieldMatches (d : EntrySaid) : (f : PacketField) → f.Value d.version → Prop
  | .protocol, x => ∀ n ∈ d.protocol, ProtocolIs n x
  | .port dir, x => ∀ s ∈ d.port dir, s.port.toNat ≤ x.toNat ∧ x.toNat ≤ s.port.toNat + s.range.toNat
  | .address dir, x => AddressMatches (d.address dir) d.version x
  | .service, x => ∀ s ∈ d.service, x = s.value &&& s.mask
  | .icmpType, _ | .icmpCode, _ | .spi, _ => True

/-- The packets it describes. -/
def Describes (d : EntrySaid) (p : Packet d.version) : Prop := ∀ f, d.FieldMatches f (p f)

end EntrySaid

/-! ## Tags -/

theorem ipacmUtilIcmpString_self (s : CStr) : ipacmUtilIcmpString s s = true := by
  simp [ipacmUtilIcmpString, strncasecmp]

/-- Where no tag is spelled like one before it, every branch of a chain is reached. -/
theorem findAct_of_mem {α : Type} {acts : List (String × α)}
    (h : (acts.map Prod.fst).Pairwise fun s t => ipacmUtilIcmpString (cstr t) (cstr s) = false) {tag : String} {a : α}
    (hm : (tag, a) ∈ acts) : findAct acts (cstr tag) = some a := by
  induction acts with
  | nil => cases hm
  | cons p acts ih =>
    rw [List.map_cons, List.pairwise_cons] at h
    cases hm with
    | head => simp [findAct, ipacmUtilIcmpString_self]
    | tail _ hm =>
      have hne : ipacmUtilIcmpString (cstr tag) (cstr p.1) = false := h.1 tag (List.mem_map.2 ⟨_, hm, rfl⟩)
      rw [findAct, List.find?_cons, hne]
      exact ih h.2 hm

theorem firewallActs_tags (env : XmlEnv) : ((firewallActs env).map Prod.fst).Pairwise fun s t =>
    ipacmUtilIcmpString (cstr t) (cstr s) = false := by
  have htags : (firewallActs env).map Prod.fst = (firewallActs sampleXmlEnv).map Prod.fst := rfl
  rw [htags]
  decide +kernel

/-! ## The sub-elements -/

/-- A sub-element that the walker acts on. Those that only lead to others are left out. -/
inductive SubElement
  | family (version : BitVec 32)
  | protocol (n : BitVec 8)
  | port (dir : Dir) (p : BitVec 16)
  | range (dir : Dir) (r : BitVec 16)
  | address (dir : Dir)
  | ipAddress (dir : Dir) (addr : BitVec 128)
  | prefixLen (dir : Dir) (n : Nat)
  | service
  | serviceValue (value : BitVec 8)
  | serviceMask (mask : BitVec 8)
  deriving DecidableEq

namespace SubElement

/-- The tags it is written with, in an entry of the version. -/
def tags (v : FirewallIpVersion) : SubElement → List String
  | family _ => ["IPFamily"]
  | protocol _ => match v with
    | .v4 => ["IPV4NextHeaderProtocol"]
    | .v6 => ["IPV6NextHeaderProtocol"]
  | port .src _ => ["TCPSourcePort", "UDPSourcePort", "TCP_UDPSourcePort"]
  | port .dst _ => ["TCPDestinationPort", "UDPDestinationPort", "TCP_UDPDestinationPort"]
  | range .src _ => ["TCPSourceRange", "UDPSourceRange", "TCP_UDPSourceRange"]
  | range .dst _ => ["TCPDestinationRange", "UDPDestinationRange", "TCP_UDPDestinationRange"]
  | address .src => ["IPV6SourceAddress"]
  | address .dst => ["IPV6DestinationAddress"]
  | ipAddress .src _ => ["IPV6SourceIPAddress"]
  | ipAddress .dst _ => ["IPV6DestinationIPAddress"]
  | prefixLen .src _ => ["IPV6SourcePrefix"]
  | prefixLen .dst _ => ["IPV6DestinationPrefix"]
  | service => match v with
    | .v4 => ["IPV4TypeOfService"]
    | .v6 => ["IPV6TrafficClass"]
  | serviceValue _ => match v with
    | .v4 => ["TOSValue"]
    | .v6 => ["TrfClsValue"]
  | serviceMask _ => match v with
    | .v4 => ["TOSMask"]
    | .v6 => ["TrfClsMask"]

/-- A text that fits the content buffer with its terminator and reads as the number. -/
def ReadsAs (n : BitVec 32) (text : Option CStr) : Prop :=
  ∃ t, text = some t ∧ t.length < maxXmlStrLen ∧ atoi t = n

/-- The text it has. -/
def HasText (env : XmlEnv) (text : Option CStr) : SubElement → Prop
  | family n => ReadsAs n text
  | protocol n => ReadsAs (n.setWidth 32) text
  | port _ p => ReadsAs (p.setWidth 32) text
  | range _ r => ReadsAs (r.setWidth 32) text
  | ipAddress _ addr => ∃ t, text = some t ∧ t.length < maxXmlStrLen ∧ env.inetPton t = some addr
  | prefixLen _ n => n ≤ 128 ∧ ReadsAs (BitVec.ofNat 32 n) text
  | serviceValue v => ReadsAs (v.setWidth 32) text
  | serviceMask m => ReadsAs (m.setWidth 32) text
  | address _ | service => True

/-- What it does to the entry. -/
def apply (v : FirewallIpVersion) (e : ExtdFirewallEntry) : SubElement → ExtdFirewallEntry
  | family n => { e with ipVsn := n }
  | protocol n => match v with
    | .v4 => { e with attrib.attribMask := insert .protocol e.attrib.attribMask, attrib.v4.protocol := n }
    | .v6 => { e with attrib.attribMask := insert .nextHdr e.attrib.attribMask, attrib.v6.nextHdr := n }
  | port .src p => { e with attrib.srcPort := p }
  | port .dst p => { e with attrib.dstPort := p }
  | range .src r =>
    if r = 0 then { e with attrib.attribMask := insert .srcPort e.attrib.attribMask }
    else
      { e with
        attrib.attribMask := insert .srcPortRange e.attrib.attribMask
        attrib.srcPortLo := e.attrib.srcPort
        attrib.srcPortHi := e.attrib.srcPort + r
        attrib.srcPort := 0 }
  | range .dst r =>
    if r = 0 then { e with attrib.attribMask := insert .dstPort e.attrib.attribMask }
    else
      { e with
        attrib.attribMask := insert .dstPortRange e.attrib.attribMask
        attrib.dstPortLo := e.attrib.dstPort
        attrib.dstPortHi := e.attrib.dstPort + r
        attrib.dstPort := 0 }
  | address .src => { e with attrib.attribMask := insert .srcAddr e.attrib.attribMask }
  | address .dst => { e with attrib.attribMask := insert .dstAddr e.attrib.attribMask }
  | ipAddress .src addr => { e with attrib.v6.srcAddr := some addr }
  | ipAddress .dst addr => { e with attrib.v6.dstAddr := some addr }
  | prefixLen .src n => { e with attrib.v6.srcAddrMask := prefixMask n e.attrib.v6.srcAddrMask }
  | prefixLen .dst n => { e with attrib.v6.dstAddrMask := prefixMask n e.attrib.v6.dstAddrMask }
  | service => match v with
    | .v4 => { e with attrib.attribMask := insert .tos e.attrib.attribMask }
    | .v6 => { e with attrib.attribMask := insert .tc e.attrib.attribMask }
  | serviceValue x => match v with
    | .v4 => { e with attrib.v4.tos := x }
    | .v6 => { e with attrib.v6.tc := x }
  | serviceMask m => match v with
    | .v4 => { e with attrib.v4.tos := e.attrib.v4.tos &&& m }
    | .v6 => { e with attrib.v6.tc := e.attrib.v6.tc &&& m }

/-- A visited element, by its act and its text, is the sub-element. -/
def Written (env : XmlEnv) (v : FirewallIpVersion) (visit : FirewallAct × Option CStr) (x : SubElement) : Prop :=
  (∃ tag ∈ x.tags v, findAct (firewallActs env) (cstr tag) = some visit.1) ∧ x.HasText env visit.2

/-- Its branch in the chain. -/
def act (env : XmlEnv) (v : FirewallIpVersion) : SubElement → FirewallAct
  | family _ => .field () true false fun buf => some fun (s, e) => (s, { e with ipVsn := atoi buf.str })
  | protocol _ => match v with
    | .v4 => .attrib fun s a =>
      { a with attribMask := insert .protocol a.attribMask, v4 := { a.v4 with protocol := (atoi s).setWidth 8 } }
    | .v6 => .attrib fun s a =>
      { a with attribMask := insert .nextHdr a.attribMask, v6 := { a.v6 with nextHdr := (atoi s).setWidth 8 } }
  | port .src _ => .srcPort
  | port .dst _ => .dstPort
  | range .src _ => .srcRange
  | range .dst _ => .dstRange
  | address .src => .masks .srcAddr
  | address .dst => .masks .dstAddr
  | ipAddress .src _ => .attribV6 fun s a => { a with srcAddr := env.inetPton s }
  | ipAddress .dst _ => .attribV6 fun s a => { a with dstAddr := env.inetPton s }
  | prefixLen .src _ => .attribV6 fun s a => { a with srcAddrMask := prefixMask (atoi s).toInt a.srcAddrMask }
  | prefixLen .dst _ => .attribV6 fun s a => { a with dstAddrMask := prefixMask (atoi s).toInt a.dstAddrMask }
  | service => match v with
    | .v4 => .masks .tos
    | .v6 => .masks .tc
  | serviceValue _ => match v with
    | .v4 => .attribV4 fun s a => { a with tos := (atoi s).setWidth 8 }
    | .v6 => .attribV6 fun s a => { a with tc := (atoi s).setWidth 8 }
  | serviceMask _ => match v with
    | .v4 => .attribV4 fun s a => { a with tos := a.tos &&& (atoi s).setWidth 8 }
    | .v6 => .attribV6 fun s a => { a with tc := a.tc &&& (atoi s).setWidth 8 }

/-- All tags of a sub-element have one branch. -/
theorem findAct_tags (env : XmlEnv) (v : FirewallIpVersion) (x : SubElement) :
    ∀ tag ∈ x.tags v, findAct (firewallActs env) (cstr tag) = some (x.act env v) := by
  intro tag htag
  refine findAct_of_mem (firewallActs_tags env) ?_
  cases x with
  | family n =>
    obtain rfl := List.mem_singleton.1 htag
    repeat first | exact .head _ | apply List.Mem.tail
  | address dir | ipAddress dir | prefixLen dir =>
    cases dir <;> obtain rfl := List.mem_singleton.1 htag <;> repeat first | exact .head _ | apply List.Mem.tail
  | protocol | service | serviceValue | serviceMask =>
    cases v <;> obtain rfl := List.mem_singleton.1 htag <;> repeat first | exact .head _ | apply List.Mem.tail
  | port dir | range dir =>
    cases dir <;>
      simp only [tags, List.mem_cons, List.not_mem_nil, or_false] at htag <;>
      rcases htag with rfl | rfl | rfl <;> repeat first | exact .head _ | apply List.Mem.tail

theorem setWidth_back {m n : Nat} (h : m ≤ n) (x : BitVec m) : (x.setWidth n).setWidth m = x := by
  rw [BitVec.setWidth_setWidth_of_le x h, BitVec.setWidth_eq]

theorem setWidth_ne_zero {m n : Nat} (h : m ≤ n) {x : BitVec m} : x.setWidth n ≠ 0 ↔ x ≠ 0 := by
  refine not_congr ⟨fun h0 => ?_, fun h0 => by rw [h0]; exact BitVec.setWidth_zero n m⟩
  rw [← setWidth_back h x, h0]
  exact BitVec.setWidth_zero m n

theorem strSize_of_lt {t : CStr} (h : t.length < maxXmlStrLen) : strSize t = t.length := by
  simp only [maxXmlStrLen] at h
  rw [strSize, BitVec.signExtend_eq_setWidth_of_msb_false, BitVec.toNat_setWidth, BitVec.toNat_ofNat]
  · omega
  · rw [BitVec.msb_eq_false_iff_two_mul_lt, BitVec.toNat_ofNat]
    omega

theorem contentBuf_of_lt (env : XmlEnv) (terminated : Bool) {t : CStr} (h : t.length < maxXmlStrLen) :
    contentBuf env terminated t = .ok ⟨t, t.length⟩ := by
  have hs := strSize_of_lt h
  rw [contentBuf, hs, if_pos (Nat.le_of_lt h), ContentBuf.of, hs]
  simp only [if_pos h, List.take_length]

/-- A branch that puts a text into the last entry. -/
theorem perform_attrib (env : XmlEnv) (f : CStr → RuleAttrib → RuleAttrib) {t : CStr} (h : t.length < maxXmlStrLen)
    (c : FirewallConf) :
    (FirewallAct.attrib f).perform env (some t) c =
      c.writeLast () fun (s, e) => (s, { e with attrib := f t e.attrib }) := by
  simp only [FirewallAct.attrib, XmlAct.perform, contentBuf_of_lt env false h]
  rfl

theorem perform_act (env : XmlEnv) (v : FirewallIpVersion) (x : SubElement) {text : Option CStr}
    (h : x.HasText env text) (c : FirewallConf) :
    (x.act env v).perform env text c = c.writeLast () fun (s, e) => (s, x.apply v e) := by
  cases x with
  | family n =>
    obtain ⟨t, rfl, hlen, hn⟩ := h
    simp only [act, XmlAct.perform, contentBuf_of_lt env false hlen]
    subst hn
    rfl
  | protocol n =>
    obtain ⟨t, rfl, hlen, hn⟩ := h
    cases v <;> simp only [act, perform_attrib env _ hlen, hn, apply, setWidth_back (show 8 ≤ 32 by decide)]
  | port dir p =>
    obtain ⟨t, rfl, hlen, hn⟩ := h
    cases dir <;>
      simp only [act, FirewallAct.srcPort, FirewallAct.dstPort, perform_attrib env _ hlen, hn, apply,
        setWidth_back (show 16 ≤ 32 by decide)]
  | range dir r =>
    obtain ⟨t, rfl, hlen, hn⟩ := h
    cases dir <;>
      simp only [act, FirewallAct.srcRange, FirewallAct.dstRange, perform_attrib env _ hlen, hn, apply,
        setWidth_back (show 16 ≤ 32 by decide), setWidth_ne_zero (show 16 ≤ 32 by decide)] <;>
      by_cases hr : r = 0 <;>
        simp only [hr, ne_eq, not_true_eq_false, not_false_eq_true, if_true, if_false]
  | address dir => cases dir <;> rfl
  | ipAddress dir addr =>
    obtain ⟨t, rfl, hlen, hn⟩ := h
    cases dir <;> simp only [act, FirewallAct.attribV6, perform_attrib env _ hlen, hn, apply]
  | prefixLen dir n =>
    obtain ⟨hle, t, rfl, hlen, hn⟩ := h
    have hint : (BitVec.ofNat 32 n).toInt = n := by
      rw [BitVec.toInt_eq_toNat_of_lt] <;> rw [BitVec.toNat_ofNat] <;> omega
    cases dir <;> simp only [act, FirewallAct.attribV6, perform_attrib env _ hlen, hn, apply, hint]
  | service => cases v <;> rfl
  | serviceValue x =>
    obtain ⟨t, rfl, hlen, hn⟩ := h
    cases v <;>
      simp only [act, FirewallAct.attribV4, FirewallAct.attribV6, perform_attrib env _ hlen, hn, apply,
        setWidth_back (show 8 ≤ 32 by decide)]
  | serviceMask m =>
    obtain ⟨t, rfl, hlen, hn⟩ := h
    cases v <;>
      simp only [act, FirewallAct.attribV4, FirewallAct.attribV6, perform_attrib env _ hlen, hn, apply,
        setWidth_back (show 8 ≤ 32 by decide)]

/-- A visited element does to the last entry what its sub-element does. -/
theorem Written.perform {env : XmlEnv} {v : FirewallIpVersion} {visit : FirewallAct × Option CStr} {x : SubElement}
    (h : Written env v visit x) (c : FirewallConf) :
    visit.1.perform env visit.2 c = c.writeLast () fun (s, e) => (s, x.apply v e) := by
  obtain ⟨⟨tag, htag, hact⟩, htext⟩ := h
  rw [findAct_tags env v x tag htag, Option.some_inj] at hact
  rw [← hact, perform_act env v x htext]

end SubElement

end HiaeCommon
