/-
The firewall's walker (`ipacm/src/IPACM_Xml.cpp`, `ipacm/inc/IPACM_Xml.h`):
`IPACM_firewall_xml_parse_tree` and the entries it fills in.

`attrib_mask` is the set of attributes whose bits are in it.
-/
import Mathlib.Data.Finset.Insert
import HiaeCommon.Ipacm.Netlink
import HiaeCommon.Ipacm.Xml

namespace HiaeCommon

open Function (update)

/-- The bits of `attrib_mask` the walker sets. -/
inductive FltAttrib
  | tos | protocol | srcAddr | dstAddr | srcPortRange | dstPortRange | type | code | spi | srcPort | dstPort | tc | nextHdr
  deriving DecidableEq, Repr

/-- `attrib.u.v4`. -/
structure RuleAttribV4 where
  tos : BitVec 8 := 0
  protocol : BitVec 8 := 0
  srcAddr : BitVec 32 := 0
  srcAddrMask : BitVec 32 := 0
  dstAddr : BitVec 32 := 0
  dstAddrMask : BitVec 32 := 0

/-- `attrib.u.v6`. An address is `none` where `inet_pton` left it open. -/
structure RuleAttribV6 where
  tc : BitVec 8 := 0
  nextHdr : BitVec 8 := 0
  srcAddr : Option (BitVec 128) := some 0
  srcAddrMask : Fin 4 → BitVec 32 := fun _ => 0
  dstAddr : Option (BitVec 128) := some 0
  dstAddrMask : Fin 4 → BitVec 32 := fun _ => 0

/-- `ipa_rule_attrib`, as far as the walker fills it in. -/
structure RuleAttrib where
  attribMask : Finset FltAttrib := ∅
  srcPortLo : BitVec 16 := 0
  srcPortHi : BitVec 16 := 0
  dstPortLo : BitVec 16 := 0
  dstPortHi : BitVec 16 := 0
  type : BitVec 8 := 0
  code : BitVec 8 := 0
  spi : BitVec 32 := 0
  srcPort : BitVec 16 := 0
  dstPort : BitVec 16 := 0
  v4 : RuleAttribV4 := {}
  v6 : RuleAttribV6 := {}

/-- `IPACM_extd_firewall_entry_conf_t`. -/
structure ExtdFirewallEntry where
  attrib : RuleAttrib := {}
  ipVsn : BitVec 32 := 0

/-- `IPACM_MAX_FIREWALL_ENTRIES`. -/
def ipacmMaxFirewallEntries : Nat := 50

/-- `IPACM_firewall_conf_t`, beside the entries. -/
structure FirewallSettings where
  ruleActionAccept : Bool := false
  firewallEnable : Bool := false
  deriving DecidableEq, Repr

/-- The one array is `extd_firewall_entries`. -/
abbrev FirewallConf := XmlConf FirewallSettings (fun _ : Unit => ExtdFirewallEntry) fun _ => ipacmMaxFirewallEntries

abbrev FirewallAct := XmlAct FirewallSettings fun _ : Unit => ExtdFirewallEntry

/-- What `memset` leaves. -/
def FirewallConf.zero : FirewallConf := ⟨{}, fun _ => ⟨0, fun _ => {}⟩⟩

/-- `mask_v6` of an `int`. -/
def maskWord (prefixLen : Int) (mask : BitVec 32) : BitVec 32 :=
  if prefixLen < 0 then mask else (maskV6 prefixLen.toNat (some mask)).getD mask

/-- The loop over `mask_index`. -/
def prefixMask (prefixLen : Int) (mask : Fin 4 → BitVec 32) : Fin 4 → BitVec 32 :=
  ((List.finRange 4).foldl (fun (v, mask) i =>
    if 32 ≤ v then (v - 32, update mask i (maskWord 32 (mask i))) else (0, update mask i (maskWord v (mask i)))) (prefixLen, mask)).2

namespace FirewallAct

/-- A text that is an attribute. -/
def attrib (f : CStr → RuleAttrib → RuleAttrib) : FirewallAct :=
  .field () true false fun buf => some fun (s, e) => (s, { e with attrib := f buf.str e.attrib })

/-- A text that is an IPv4 address: the buffer gets a terminator. -/
def addrV4 (checked : Bool) (f : CStr → RuleAttribV4 → RuleAttribV4) : FirewallAct :=
  .field () checked true fun buf => some fun (s, e) => (s, { e with attrib := { e.attrib with v4 := f buf.str e.attrib.v4 } })

def attribV4 (f : CStr → RuleAttribV4 → RuleAttribV4) : FirewallAct := attrib fun s a => { a with v4 := f s a.v4 }

def attribV6 (f : CStr → RuleAttribV6 → RuleAttribV6) : FirewallAct := attrib fun s a => { a with v6 := f s a.v6 }

/-- A tag that is an attribute by being there. -/
def masks (b : FltAttrib) : FirewallAct := .entry () fun e =>
  { e with attrib := { e.attrib with attribMask := insert b e.attrib.attribMask } }

def srcPort : FirewallAct := attrib fun s a => { a with srcPort := (atoi s).setWidth 16 }

def dstPort : FirewallAct := attrib fun s a => { a with dstPort := (atoi s).setWidth 16 }

def srcRange : FirewallAct := attrib fun s a =>
  if atoi s ≠ 0 then
    { a with
      attribMask := insert .srcPortRange a.attribMask
      srcPortLo := a.srcPort, srcPortHi := a.srcPort + (atoi s).setWidth 16, srcPort := 0 }
  else { a with attribMask := insert .srcPort a.attribMask }

def dstRange : FirewallAct := attrib fun s a =>
  if atoi s ≠ 0 then
    { a with
      attribMask := insert .dstPortRange a.attribMask
      dstPortLo := a.dstPort, dstPortHi := a.dstPort + (atoi s).setWidth 16, dstPort := 0 }
  else { a with attribMask := insert .dstPort a.attribMask }

end FirewallAct

open FirewallAct in
/-- The chain of `IPACM_firewall_xml_parse_tree`. -/
def firewallActs (env : XmlEnv) : List (String × FirewallAct) := [
  ("system", .group),
  ("MobileAPFirewallCfg", .group),
  ("Firewall", .count ()),
  ("FirewallEnabled", .setting true fun buf s => { s with firewallEnable := atoi buf.str == 1 }),
  ("FirewallPktsAllowed", .setting true fun buf s => { s with ruleActionAccept := atoi buf.str == 1 }),
  ("IPFamily", .field () true false fun buf => some fun (s, e) => (s, { e with ipVsn := atoi buf.str })),
  ("IPV4SourceAddress", masks .srcAddr),
  ("IPV4SourceIPAddress", addrV4 true fun s a => { a with srcAddr := env.inetAddr s }),
  ("IPV4SourceSubnetMask", addrV4 true fun s a => { a with srcAddrMask := env.inetAddr s }),
  ("IPV4DestinationAddress", masks .dstAddr),
  ("IPV4DestinationIPAddress", addrV4 true fun s a => { a with dstAddr := env.inetAddr s }),
  -- the one text that is read without a look
  ("IPV4DestinationSubnetMask", addrV4 false fun s a => { a with dstAddrMask := env.inetAddr s }),
  ("IPV4TypeOfService", masks .tos),
  ("TOSValue", attribV4 fun s a => { a with tos := (atoi s).setWidth 8 }),
  ("TOSMask", attribV4 fun s a => { a with tos := a.tos &&& (atoi s).setWidth 8 }),
  ("IPV4NextHeaderProtocol", attrib fun s a =>
    { a with attribMask := insert .protocol a.attribMask, v4 := { a.v4 with protocol := (atoi s).setWidth 8 } }),
  ("IPV6SourceAddress", masks .srcAddr),
  ("IPV6SourceIPAddress", attribV6 fun s a => { a with srcAddr := env.inetPton s }),
  ("IPV6SourcePrefix", attribV6 fun s a => { a with srcAddrMask := prefixMask (atoi s).toInt a.srcAddrMask }),
  ("IPV6DestinationAddress", masks .dstAddr),
  ("IPV6DestinationIPAddress", attribV6 fun s a => { a with dstAddr := env.inetPton s }),
  ("IPV6DestinationPrefix", attribV6 fun s a => { a with dstAddrMask := prefixMask (atoi s).toInt a.dstAddrMask }),
  ("IPV6TrafficClass", masks .tc),
  ("TrfClsValue", attribV6 fun s a => { a with tc := (atoi s).setWidth 8 }),
  ("TrfClsMask", attribV6 fun s a => { a with tc := a.tc &&& (atoi s).setWidth 8 }),
  ("IPV6NextHeaderProtocol", attrib fun s a =>
    { a with attribMask := insert .nextHdr a.attribMask, v6 := { a.v6 with nextHdr := (atoi s).setWidth 8 } }),
  ("TCPSource", .group),
  ("TCPSourcePort", srcPort),
  ("TCPSourceRange", srcRange),
  ("TCPDestination", .group),
  ("TCPDestinationPort", dstPort),
  ("TCPDestinationRange", dstRange),
  ("UDPSource", .group),
  ("UDPSourcePort", srcPort),
  ("UDPSourceRange", srcRange),
  ("UDPDestination", .group),
  ("UDPDestinationPort", dstPort),
  ("UDPDestinationRange", dstRange),
  ("ICMPType", attrib fun s a => { a with type := (atoi s).setWidth 8, attribMask := insert .type a.attribMask }),
  ("ICMPCode", attrib fun s a => { a with code := (atoi s).setWidth 8, attribMask := insert .code a.attribMask }),
  ("ESPSPI", attrib fun s a => { a with spi := atoi s, attribMask := insert .spi a.attribMask }),
  ("TCP_UDPSource", .group),
  ("TCP_UDPSourcePort", srcPort),
  ("TCP_UDPSourceRange", srcRange),
  ("TCP_UDPDestination", .group),
  ("TCP_UDPDestinationPort", dstPort),
  ("TCP_UDPDestinationRange", dstRange)]

/-- `IPACM_firewall_xml_parse_tree`. -/
def ipacmFirewallXmlParseTree (env : XmlEnv) (node : XmlNode) (config : FirewallConf) : Except XmlFault FirewallConf :=
  parseTree env (firewallActs env) node config

end HiaeCommon
