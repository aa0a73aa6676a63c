/-
The two XML walkers (`ipacm/src/IPACM_Xml.cpp`, `ipacm/inc/IPACM_Xml.h`):
`ipacm_cfg_xml_parse_tree` and `IPACM_firewall_xml_parse_tree`.

Both are one recursion over `xmlNode`s with a long chain of tag comparisons in
it. The recursion is `parseTree`; what the branch of a tag does is an `XmlAct`,
and the chain is a list of tags with their acts, in its order. Neither returns
anything but `IPACM_SUCCESS`. Where the code would leave an array or follow a null
pointer, the model ends with a fault.

`inet_addr` and `inet_pton` are parameters, with what lies behind a content
buffer that is filled to its last byte. The union of an entry's two address
families is kept as two records.
-/
import HiaeCommon.Ipacm.IfaceManager
import HiaeCommon.Ipacm.NatApp
import Mathlib.Algebra.Group.Int.Defs

namespace HiaeCommon

open Function (update)

/-- A string: the bytes before the terminator. -/
abbrev CStr := List UInt8

/-- A string literal. -/
def cstr (s : String) : CStr := s.toList.map Char.toUInt8

/-- `xmlNode`, with the lists its pointers lead to. `text` is an `XML_TEXT_NODE`, `other` any type the code does
not name. -/
inductive XmlNode
  | null
  | element (name : CStr) (children next : XmlNode)
  | text (content : CStr) (next : XmlNode)
  | other (next : XmlNode)
  deriving DecidableEq, Repr

/-- Where the code leaves its memory: an entry array, the content buffer, or a text that is not there. -/
inductive XmlFault
  | index | copy | noText
  deriving DecidableEq, Repr

/-- What the walkers call, and find behind their buffer. -/
structure XmlEnv where
  inetAddr : CStr → BitVec 32
  /-- `none` where `inet_pton` converts nothing and `ip6_addr` is whatever it was. -/
  inetPton : CStr → Option (BitVec 128)
  beyond : CStr

/-! ## Strings -/

/-- `MAX_XML_STR_LEN`, `IPA_IFACE_NAME_LEN`. -/
def maxXmlStrLen : Nat := 120
def ipaIfaceNameLen : Nat := 16

/-- `tolower`, in the C locale. -/
def toLower (b : UInt8) : UInt8 := if 65 ≤ b ∧ b ≤ 90 then b + 32 else b

/-- `strncasecmp` finds no difference. -/
def strncasecmp (a b : CStr) (n : Nat) : Bool := (a.take n).map toLower == (b.take n).map toLower

/-- `IPACM_util_icmp_string` returns zero; the lengths are `uint32_t`. -/
def ipacmUtilIcmpString (xmlStr str : CStr) : Bool :=
  BitVec.ofNat 32 str.length == BitVec.ofNat 32 xmlStr.length && strncasecmp xmlStr str (BitVec.ofNat 32 str.length).toNat

/-- `atoi`, which is `strtol` cut to an `int`. -/
def atoi (s : CStr) : BitVec 32 :=
  let s := s.dropWhile fun b => b == 32 || (9 ≤ b && b ≤ 13)
  let (neg, s) := match s with
    | 45 :: s => (true, s)
    | 43 :: s => (false, s)
    | s => (false, s)
  let n := (s.takeWhile fun b => 48 ≤ b && b ≤ 57).foldl (fun (n : Int) b => 10 * n + (b.toNat - 48)) 0
  BitVec.ofInt 32 (max (-2 ^ 63) (min (2 ^ 63 - 1) (if neg then -n else n)))

/-- `IPACM_read_content_element`, of the children. -/
def ipacmReadContentElement : XmlNode → Option CStr
  | .null => none
  | .text content _ => some content
  | .element _ _ next => ipacmReadContentElement next
  | .other next => ipacmReadContentElement next

/-- `str_size`, an `int`, as `memcpy` takes it. -/
def strSize (content : CStr) : Nat := ((BitVec.ofNat 32 content.length).signExtend 64).toNat

/-- `content_buf` and `str_size`. -/
structure ContentBuf where
  str : CStr
  strSize : Nat

/-- The string in `content_buf` after the copy, which ends at the last byte only if one is put there. -/
def ContentBuf.of (env : XmlEnv) (terminated : Bool) (content : CStr) : ContentBuf where
  str :=
    let copied := content.take (HiaeCommon.strSize content)
    if HiaeCommon.strSize content < maxXmlStrLen then copied
    else if terminated then copied.take (maxXmlStrLen - 1)
    else copied ++ env.beyond
  strSize := HiaeCommon.strSize content

/-- `memset` and `memcpy`. -/
def contentBuf (env : XmlEnv) (terminated : Bool) (content : CStr) : Except XmlFault ContentBuf :=
  if strSize content ≤ maxXmlStrLen then .ok (.of env terminated content) else .error .copy

/-! ## Records with entry arrays -/

/-- An array and the `uint8_t` that counts its entries. -/
structure XmlTable (α : Type) (size : Nat) where
  num : BitVec 8
  entries : Fin size → α

/-- The last entry, `entries[num - 1]`, is one of the array's. -/
def LastInRange (num size : Nat) : Prop := 0 < num ∧ num ≤ size

instance (num size : Nat) : Decidable (LastInRange num size) := inferInstanceAs (Decidable (_ ∧ _))

/-- What a walker fills in: settings, and the arrays. -/
structure XmlConf (γ : Type) {ι : Type} (entry : ι → Type) (size : ι → Nat) where
  settings : γ
  table : (t : ι) → XmlTable (entry t) (size t)

namespace XmlConf

variable {γ ι : Type} [DecidableEq ι] {entry : ι → Type} {size : ι → Nat}

/-- `num++`. -/
def count (t : ι) (c : XmlConf γ entry size) : XmlConf γ entry size :=
  { c with table := update c.table t { c.table t with num := (c.table t).num + 1 } }

/-- A write into `entries[num - 1]`, and beside it into the settings. -/
def writeLast (t : ι) (f : γ × entry t → γ × entry t) (c : XmlConf γ entry size) : Except XmlFault (XmlConf γ entry size) :=
  if h : LastInRange (c.table t).num.toNat (size t) then
    let i : Fin (size t) := ⟨(c.table t).num.toNat - 1, by have := h.1; have := h.2; omega⟩
    let r := f (c.settings, (c.table t).entries i)
    .ok { settings := r.1, table := update c.table t { c.table t with entries := update (c.table t).entries i r.2 } }
  else .error .index

end XmlConf

/-! ## The walk -/

/-- What the branch of a tag does. -/
inductive XmlAct (γ : Type) {ι : Type} (entry : ι → Type)
  /-- Go to the children. -/
  | group
  /-- One more entry, then go to the children. -/
  | count (t : ι)
  /-- Write into the last entry, then go to the children. -/
  | entry (t : ι) (f : entry t → entry t)
  /-- Put the text into the settings; some of these branches go to the children then. -/
  | setting (descends : Bool) (f : ContentBuf → γ → γ)
  /-- Put the text into the last entry, if it says something; one branch does not ask whether there is a text. -/
  | field (t : ι) (checked terminated : Bool) (f : ContentBuf → Option (γ × entry t → γ × entry t))
  /-- Put as much of the text into the last entry as `strlcpy` does. -/
  | name (t : ι) (f : CStr → entry t → entry t)

namespace XmlAct

variable {γ ι : Type} [DecidableEq ι] {entry : ι → Type} {size : ι → Nat} (env : XmlEnv)

/-- The branch goes to the children. -/
def descends : XmlAct γ entry → Bool
  | .group | .count _ | .entry _ _ => true
  | .setting descends _ => descends
  | .field _ _ _ _ | .name _ _ => false

def perform : XmlAct γ entry → Option CStr → XmlConf γ entry size → Except XmlFault (XmlConf γ entry size)
  | .group, _, c => .ok c
  | .count t, _, c => .ok (c.count t)
  | .entry t f, _, c => c.writeLast t fun (s, e) => (s, f e)
  | .setting _ _, none, c => .ok c
  | .setting _ f, some content, c => do
    let buf ← contentBuf env false content
    return { c with settings := f buf c.settings }
  | .field _ checked _ _, none, c => if checked then .ok c else .error .noText
  | .field t _ terminated f, some content, c => do
    let buf ← contentBuf env terminated content
    match f buf with
    | none => .ok c
    | some g => c.writeLast t g
  | .name _ _, none, c => .ok c
  | .name t f, some content, c => c.writeLast t fun (s, e) => (s, f (content.take (maxXmlStrLen - 1)) e)

end XmlAct

/-- The first tag of the chain that the name equals. -/
def findAct {α : Type} (acts : List (String × α)) (name : CStr) : Option α :=
  (acts.find? fun p => ipacmUtilIcmpString name (cstr p.1)).map Prod.snd

/-- The recursion both walkers are. -/
def parseTree {γ ι : Type} [DecidableEq ι] {entry : ι → Type} {size : ι → Nat} (env : XmlEnv)
    (acts : List (String × XmlAct γ entry)) : XmlNode → XmlConf γ entry size → Except XmlFault (XmlConf γ entry size)
  | .null, c => .ok c
  | .text _ next, c => parseTree env acts next c
  | .other next, c => parseTree env acts next c
  | .element name children next, c =>
    match findAct acts name with
    | none => parseTree env acts next c
    | some a => do
      let c ← a.perform env (ipacmReadContentElement children) c
      let c ← if a.descends then parseTree env acts children c else .ok c
      parseTree env acts next c

/-! ## The configuration -/

/-- `iface_config`, `private_subnet_config` and `alg_config`. -/
inductive CfgTable
  | iface | privateSubnet | alg
  deriving DecidableEq, Repr

/-- `ipacm_cradle_iface_mode`. -/
inductive CradleIfaceMode
  | router | bridge
  deriving DecidableEq, Repr

/-- `ipacm_wlan_access_mode`. -/
inductive WlanAccessMode
  | full | internet
  deriving DecidableEq, Repr

/-- `ipa_ifi_dev_name_t`. -/
structure IfiDevName where
  ifaceName : CStr := []
  ifCat : IfaceType := .lanIf
  ifMode : CradleIfaceMode := .router
  wlanMode : WlanAccessMode := .full
  deriving DecidableEq, Repr

/-- `ipa_private_subnet`. -/
structure PrivateSubnet where
  subnetAddr : BitVec 32 := 0
  subnetMask : BitVec 32 := 0
  deriving DecidableEq, Repr

def CfgTable.Entry : CfgTable → Type
  | .iface => IfiDevName
  | .privateSubnet => PrivateSubnet
  | .alg => IpacmAlg

/-- `IPA_MAX_IFACE_ENTRIES`, `IPA_MAX_PRIVATE_SUBNET_ENTRIES` and `IPA_MAX_ALG_ENTRIES`. -/
def CfgTable.size : CfgTable → Nat
  | .iface => 20
  | .privateSubnet => 3
  | .alg => 20

/-- `IPACM_conf_t`, beside the arrays. -/
structure CfgSettings where
  natMaxEntries : BitVec 32 := 0
  routerModeEnable : Bool := false
  oduEmbmsEnable : Bool := false
  numWlanGuestAp : Int := 0
  ipPassthroughMode : Bool := false
  deriving DecidableEq, Repr

abbrev Cfg := XmlConf CfgSettings CfgTable.Entry CfgTable.size

abbrev CfgAct := XmlAct CfgSettings CfgTable.Entry

/-- What `memset` leaves. -/
def Cfg.zero : Cfg where
  settings := {}
  table
    | .iface => ⟨0, fun _ => ({} : IfiDevName)⟩
    | .privateSubnet => ⟨0, fun _ => ({} : PrivateSubnet)⟩
    | .alg => ⟨0, fun _ => (⟨0, 0⟩ : IpacmAlg)⟩

/-- The value of the first tag `strncasecmp` finds no difference to, in as many bytes as the text has. -/
def firstTag {α : Type} (buf : ContentBuf) (tags : List (String × α)) : Option α :=
  (tags.find? fun p => strncasecmp buf.str (cstr p.1) buf.strSize).map Prod.snd

namespace CfgAct

def setIface (f : ContentBuf → Option (IfiDevName → IfiDevName)) : CfgAct :=
  .field .iface true false fun buf => (f buf).map fun f (s, e) => (s, f e)

def setSubnet (f : CStr → PrivateSubnet → PrivateSubnet) : CfgAct :=
  .field .privateSubnet true true fun buf => some fun (s, e) => (s, f buf.str e)

def category : CfgAct := setIface fun buf =>
  (firstTag buf [("WAN", .wanIf), ("LAN", .lanIf), ("WLAN", .wlanIf), ("VIRTUAL", .virtualIf), ("UNKNOWN", .unknownIf),
    ("ETH", .ethIf), ("ODU", .oduIf)]).map fun c e => { e with ifCat := c }

def mode : CfgAct := setIface fun buf =>
  (firstTag buf [("ROUTER", .router), ("BRIDGE", .bridge)]).map fun m e => { e with ifMode := m }

/-- An access point for guests is counted. -/
def wlanMode : CfgAct := .field .iface true false fun buf =>
  (firstTag buf [("full", .full), ("internet", .internet)]).map fun (m : WlanAccessMode) (s, e) =>
    match m with
    | .full => (s, { (e : IfiDevName) with wlanMode := .full })
    | .internet => ({ s with numWlanGuestAp := s.numWlanGuestAp + 1 }, { (e : IfiDevName) with wlanMode := .internet })

def protocol : CfgAct := .field .alg true true fun buf =>
  (firstTag buf [("TCP", ipprotoTcp), ("UDP", ipprotoUdp)]).map fun p (s, e) => (s, { (e : IpacmAlg) with protocol := p })

def port : CfgAct := .field .alg true false fun buf =>
  some fun (s, e) => (s, { (e : IpacmAlg) with port := (atoi buf.str).setWidth 16 })

def oduMode : CfgAct := .setting false fun buf s =>
  match firstTag buf [("router", true), ("bridge", false)] with
  | none => s
  | some b => { s with routerModeEnable := b }

end CfgAct

/-- The chain of `ipacm_cfg_xml_parse_tree`. -/
def cfgActs (env : XmlEnv) : List (String × CfgAct) := [
  ("system", .group),
  ("ODUCFG", .group),
  ("IPACM", .group),
  ("IPACMIface", .group),
  ("Iface", .count .iface),
  ("IPACMPrivateSubnet", .group),
  ("Subnet", .count .privateSubnet),
  ("IPACMALG", .group),
  ("ALG", .count .alg),
  ("IPACMNAT", .group),
  ("IPPassthroughFlag", .group),
  ("IPPassthroughMode", .setting false fun buf s => { s with ipPassthroughMode := atoi buf.str != 0 }),
  ("OduMode", CfgAct.oduMode),
  ("eMBMS_offload", .setting false fun buf s => { s with oduEmbmsEnable := atoi buf.str != 0 }),
  ("Name", .name .iface fun s e => { (e : IfiDevName) with ifaceName := s.take (ipaIfaceNameLen - 1) }),
  ("Category", CfgAct.category),
  ("Mode", CfgAct.mode),
  ("WlanMode", CfgAct.wlanMode),
  ("SubnetAddress", CfgAct.setSubnet fun s e => { e with subnetAddr := env.inetAddr s }),
  ("SubnetMask", CfgAct.setSubnet fun s e => { e with subnetMask := env.inetAddr s }),
  ("Protocol", CfgAct.protocol),
  ("Port", CfgAct.port),
  ("MaxNatEntries", .setting false fun buf s => { s with natMaxEntries := atoi buf.str })]

/-- `ipacm_cfg_xml_parse_tree`. -/
def ipacmCfgXmlParseTree (env : XmlEnv) (node : XmlNode) (config : Cfg) : Except XmlFault Cfg := parseTree env (cfgActs env) node config

end HiaeCommon
