/-
The firewall's filter rules of an `IPACM_Wan` (`ipacm/src/IPACM_Wan.cpp`): for
a station `config_dft_firewall_rules` and `del_dft_firewall_rules`, which talk
to the driver rule by rule, and for the modem `config_dft_firewall_rules_ex`,
which fills in a table of rules.

An index outside an array, a handle that is read before anything was put there
and an `int` that overflows are faults. What is put into a rule for the driver
alone (its equation, the byte order of its addresses) is left out, and so are
the log lines.
-/
import HiaeCommon.Lib.Ledger
import HiaeCommon.Lib.StepSeq
import HiaeCommon.Ipacm.FirewallXml
import HiaeCommon.Ipacm.WanGatewayCalls

namespace HiaeCommon

open Function (update)
open Lib (Handles Ledger Step)

/-- An index outside an array, a handle that was never written, an `int` that overflows. -/
inductive FirewallFault
  | index | unwritten | overflow
  deriving DecidableEq, Repr

/-! ## The file -/

/-- `ip_vsn` of a family's entries. -/
def IpFamily.ipVsn : IpFamily → BitVec 32
  | .v4 => 4
  | .v6 => 6

/-- What `IPACM_read_firewall_xml` makes of a `firewall_config` that was set to zero; it leaves it so where the read
fails. -/
structure FirewallFile where
  settings : FirewallSettings := {}
  entries : List ExtdFirewallEntry := []
  fits : entries.length ≤ ipacmMaxFirewallEntries := by decide

/-- The attributes whose rules look behind the header. -/
def ihlAttribs : List FltAttrib := [.srcPortRange, .dstPortRange, .type, .code, .spi, .srcPort, .dstPort]

/-- `check_dft_firewall_rules_attr_mask`. -/
def FirewallFile.checkDftFirewallRulesAttrMask (file : FirewallFile) : Bool :=
  file.entries.any fun e => e.ipVsn == 6 && ihlAttribs.any fun b => b ∈ e.attrib.attribMask

/-- `u.v4.protocol`, `u.v6.next_hdr`. -/
def RuleAttrib.protocolOf (a : RuleAttrib) : IpFamily → BitVec 8
  | .v4 => a.v4.protocol
  | .v6 => a.v6.nextHdr

def RuleAttrib.withProtocol (a : RuleAttrib) (n : BitVec 8) : IpFamily → RuleAttrib
  | .v4 => { a with v4 := { a.v4 with protocol := n } }
  | .v6 => { a with v6 := { a.v6 with nextHdr := n } }

/-- The attributes of an entry's rules: one for TCP and one for UDP where it asks for both. -/
def RuleAttrib.split (g : IpFamily) (a : RuleAttrib) : List RuleAttrib :=
  if a.protocolOf g = 253 then [a.withProtocol 6 g, a.withProtocol 17 g] else [a]

/-- The entries of a family. -/
def FirewallFile.entriesOf (file : FirewallFile) (g : IpFamily) : List ExtdFirewallEntry :=
  file.entries.filter fun e => e.ipVsn == g.ipVsn

/-- `rule_v4` and `rule_v6` as they are first counted: what is not IPv4 counts as IPv6. -/
def FirewallFile.numRules (file : FirewallFile) : IpFamily → Nat
  | .v4 => file.entries.countP fun e => e.ipVsn == 4
  | .v6 => file.entries.countP fun e => e.ipVsn != 4

/-! ## The rules -/

/-- `enum ipa_flt_action`, as far as it is used here. -/
inductive WanFltAction
  | passToException | passToRouting | passToDstNat
  deriving DecidableEq, Repr

/-- The routing tables a rule sends packets to. -/
inductive WanFltTbl
  | lanV4 | wanV6 | wanDl
  deriving DecidableEq, Repr

/-- `ipa_flt_rule_add`. `fragment` is the bit of `attrib_mask` that no entry has. -/
structure WanFltRule where
  action : WanFltAction
  attrib : RuleAttrib
  fragment : Bool := false
  rtTbl : Option WanFltTbl := none
  atRear : Bool := true
  retainHdr : Bool := false
  hashable : Bool := false

/-- What does not change: the build (`FEATURE_IPA_V3`), the attributes of the two rx properties if there are any, and
the modes of the interface and of the backhaul. -/
structure WanFirewallEnv where
  featureIpaV3 : Bool
  rxProp : Option (RuleAttrib × RuleAttrib)
  ifModeRouter : Bool
  isWanBridgeMode : Bool

/-- `IPA_MAX_FLT_RULE`. -/
def WanFirewallEnv.ipaMaxFltRule (env : WanFirewallEnv) : Nat := if env.featureIpaV3 then 100 else 50

namespace RuleAttrib

/-- An entry's attributes, with the bits of the rx property. -/
def under (a rx : RuleAttrib) : RuleAttrib := { a with attribMask := a.attribMask ∪ rx.attribMask }

/-- Every destination address. -/
def anyDst (rx : RuleAttrib) : IpFamily → RuleAttrib
  | .v4 => { rx with attribMask := insert .dstAddr rx.attribMask, v4 := { rx.v4 with dstAddr := 0, dstAddrMask := 0 } }
  | .v6 =>
    { rx with
      attribMask := insert .dstAddr rx.attribMask
      v6 := { rx.v6 with dstAddr := some 0, dstAddrMask := fun _ => 0 } }

/-- `IPACM_FIREWALL_IPPROTO_ICMP6`. -/
def icmp6 (rx : RuleAttrib) : RuleAttrib :=
  { rx with attribMask := insert .nextHdr rx.attribMask, v6 := { rx.v6 with nextHdr := 58 } }

end RuleAttrib

namespace WanFirewallEnv

variable (env : WanFirewallEnv)

/-- The way of a packet that is let through. -/
def passOn : IpFamily → WanFltAction
  | .v4 => if env.ifModeRouter then .passToDstNat else .passToRouting
  | .v6 => .passToRouting

def staTbl : IpFamily → WanFltTbl
  | .v4 => .lanV4
  | .v6 => .wanV6

/-- The rules of a station. -/
def staEntryRule (rx : RuleAttrib) (g : IpFamily) (file : FirewallFile) (a : RuleAttrib) : WanFltRule where
  action := if file.settings.ruleActionAccept then env.passOn g else .passToException
  attrib := a.under rx
  rtTbl := some (staTbl g)
  hashable := env.featureIpaV3

def staDftRule (rx : RuleAttrib) (g : IpFamily) (file : FirewallFile) : WanFltRule where
  action :=
    if file.settings.firewallEnable && file.settings.ruleActionAccept then .passToException else env.passOn g
  attrib := rx.anyDst g
  rtTbl := some (staTbl g)
  hashable := env.featureIpaV3

def staIcmpRule (rx : RuleAttrib) : WanFltRule where
  action := .passToException
  attrib := rx.icmp6
  retainHdr := true
  hashable := env.featureIpaV3

def staFragRule (rx : RuleAttrib) : WanFltRule where
  action := .passToException
  attrib := rx
  fragment := true
  atRear := !env.featureIpaV3

/-- The rules of the modem. -/
def exEntryRule (rx : RuleAttrib) (g : IpFamily) (file : FirewallFile) (a : RuleAttrib) : WanFltRule where
  action :=
    match g with
    | .v4 => if file.settings.ruleActionAccept then .passToDstNat else .passToRouting
    | .v6 => .passToRouting
  attrib := a.under rx
  rtTbl :=
    match g with
    | .v4 => some (if file.settings.ruleActionAccept then .lanV4 else .wanDl)
    | .v6 => some (if file.settings.ruleActionAccept then .wanV6 else .wanDl)
  retainHdr := true
  hashable := env.featureIpaV3

/-- Whether a packet that no entry is for goes the way of the modem. -/
def exDftDl (file : FirewallFile) : IpFamily → Bool
  | .v4 => if file.settings.firewallEnable then file.settings.ruleActionAccept else env.isWanBridgeMode
  | .v6 => file.settings.firewallEnable && file.settings.ruleActionAccept

def exDftRule (rx : RuleAttrib) (g : IpFamily) (file : FirewallFile) : WanFltRule where
  action :=
    match g with
    | .v4 => if env.exDftDl file .v4 then .passToRouting else .passToDstNat
    | .v6 => .passToRouting
  attrib := rx.anyDst g
  rtTbl := some (if env.exDftDl file g then .wanDl else staTbl g)
  retainHdr := true
  hashable := env.featureIpaV3

def exFragRule (rx : RuleAttrib) : WanFltRule where
  action := .passToRouting
  attrib := { attribMask := rx.attribMask }
  fragment := true
  rtTbl := some .wanDl
  atRear := !env.featureIpaV3
  retainHdr := true

end WanFirewallEnv

/-! ## The driver and the members -/

/-- The calls, each with a name. -/
inductive FirewallCall
  | getRoutingTable
  | addFrag | addEntry (i : Nat) | addIcmp | addDft
  | delEntry (i : Nat) | delDft | delIcmp | delFrag
  | queryFrag | queryEntry (i : Nat) | queryDft
  | generateFrag | generateEntry (i k : Nat) | generateDft
  deriving DecidableEq, Repr

/-- What the driver decides: its handles, and which of the calls fail. A call that failed has done nothing. -/
structure FirewallDriver where
  handles : Handles
  ne_zero : ∀ used, handles.pick used ≠ 0
  fails : FirewallCall → Bool

/-- The driver that does what it is asked. -/
structure FirewallDriver.Succeeds (D : FirewallDriver) : Prop where
  fails : ∀ c, D.fails c = false

def obedientFirewall : FirewallDriver where
  handles := Handles.next
  ne_zero := Handles.next_ne_zero
  fails _ := false

theorem obedientFirewall_succeeds : obedientFirewall.Succeeds := ⟨fun _ => rfl⟩

/-- An installed rule. -/
structure FirewallSlot where
  ip : IpFamily
  rule : WanFltRule

/-- The members of an `IPACM_Wan`, the two static tables with their counters, the rule counts of its pipe, and the rules
the driver has. The constructor writes no handle but that of the fragment rule. -/
structure WanFirewall where
  config : FirewallFile := {}
  active : IpFamily → Bool := fun _ => false
  firewallHdl : IpFamily → Fin ipacmMaxFirewallEntries → Option Nat := fun _ _ => none
  numFirewall : IpFamily → BitVec 32 := fun _ => 0
  dftWanFlHdl : Fin 3 → Option Nat := fun _ => none
  ipv6FragHdl : Nat := 0
  isIpv6FragInstalled : Bool := false
  fltRuleCount : IpFamily → BitVec 32 := fun _ => 0
  numFltRule : IpFamily → BitVec 32 := fun _ => 0
  fltRule : IpFamily → Nat → Option WanFltRule := fun _ _ => none
  flt : Ledger FirewallSlot := Ledger.empty

/-- `int` plus a constant. -/
def addInt (n : BitVec 32) (k : Int) : Except FirewallFault (BitVec 32) :=
  if -2 ^ 31 ≤ n.toInt + k ∧ n.toInt + k < 2 ^ 31 then .ok (n + BitVec.ofInt 32 k) else .error .overflow

/-- The members beside a counter of the function, `rule_v4` or `rule_v6` or `pos`. -/
abbrev FirewallStep := Step FirewallFault (Nat × WanFirewall)

namespace WanFirewall

variable (D : FirewallDriver) (env : WanFirewallEnv)

def withFlt (s : WanFirewall) (flt : Ledger FirewallSlot) : WanFirewall := { s with flt }

def withCount (s : WanFirewall) (g : IpFamily) (n : BitVec 32) : WanFirewall :=
  { s with fltRuleCount := update s.fltRuleCount g n }

def withNum (s : WanFirewall) (g : IpFamily) (n : BitVec 32) : WanFirewall :=
  { s with numFirewall := update s.numFirewall g n }

def withHdl (s : WanFirewall) (g : IpFamily) (i : Fin ipacmMaxFirewallEntries) (h : Nat) : WanFirewall :=
  { s with firewallHdl := update s.firewallHdl g (update (s.firewallHdl g) i (some h)) }

section Fields

variable (s : WanFirewall) (g : IpFamily) (n : BitVec 32) (h : Nat) (i : Fin ipacmMaxFirewallEntries)

@[simp] theorem withFlt_flt (flt) : (s.withFlt flt).flt = flt := rfl
@[simp] theorem withFlt_config (flt) : (s.withFlt flt).config = s.config := rfl
@[simp] theorem withFlt_active (flt) : (s.withFlt flt).active = s.active := rfl
@[simp] theorem withFlt_firewallHdl (flt) : (s.withFlt flt).firewallHdl = s.firewallHdl := rfl
@[simp] theorem withFlt_numFirewall (flt) : (s.withFlt flt).numFirewall = s.numFirewall := rfl
@[simp] theorem withFlt_dftWanFlHdl (flt) : (s.withFlt flt).dftWanFlHdl = s.dftWanFlHdl := rfl
@[simp] theorem withFlt_ipv6FragHdl (flt) : (s.withFlt flt).ipv6FragHdl = s.ipv6FragHdl := rfl
@[simp] theorem withFlt_isIpv6FragInstalled (flt) : (s.withFlt flt).isIpv6FragInstalled = s.isIpv6FragInstalled := rfl
@[simp] theorem withFlt_fltRuleCount (flt) : (s.withFlt flt).fltRuleCount = s.fltRuleCount := rfl

@[simp] theorem withCount_flt : (s.withCount g n).flt = s.flt := rfl
@[simp] theorem withCount_config : (s.withCount g n).config = s.config := rfl
@[simp] theorem withCount_active : (s.withCount g n).active = s.active := rfl
@[simp] theorem withCount_firewallHdl : (s.withCount g n).firewallHdl = s.firewallHdl := rfl
@[simp] theorem withCount_numFirewall : (s.withCount g n).numFirewall = s.numFirewall := rfl
@[simp] theorem withCount_dftWanFlHdl : (s.withCount g n).dftWanFlHdl = s.dftWanFlHdl := rfl
@[simp] theorem withCount_ipv6FragHdl : (s.withCount g n).ipv6FragHdl = s.ipv6FragHdl := rfl
@[simp] theorem withCount_isIpv6FragInstalled : (s.withCount g n).isIpv6FragInstalled = s.isIpv6FragInstalled := rfl
@[simp] theorem withCount_fltRuleCount : (s.withCount g n).fltRuleCount = update s.fltRuleCount g n := rfl

@[simp] theorem withNum_flt : (s.withNum g n).flt = s.flt := rfl
@[simp] theorem withNum_config : (s.withNum g n).config = s.config := rfl
@[simp] theorem withNum_active : (s.withNum g n).active = s.active := rfl
@[simp] theorem withNum_firewallHdl : (s.withNum g n).firewallHdl = s.firewallHdl := rfl
@[simp] theorem withNum_numFirewall : (s.withNum g n).numFirewall = update s.numFirewall g n := rfl
@[simp] theorem withNum_dftWanFlHdl : (s.withNum g n).dftWanFlHdl = s.dftWanFlHdl := rfl
@[simp] theorem withNum_ipv6FragHdl : (s.withNum g n).ipv6FragHdl = s.ipv6FragHdl := rfl
@[simp] theorem withNum_isIpv6FragInstalled : (s.withNum g n).isIpv6FragInstalled = s.isIpv6FragInstalled := rfl
@[simp] theorem withNum_fltRuleCount : (s.withNum g n).fltRuleCount = s.fltRuleCount := rfl

@[simp] theorem withHdl_flt : (s.withHdl g i h).flt = s.flt := rfl
@[simp] theorem withHdl_config : (s.withHdl g i h).config = s.config := rfl
@[simp] theorem withHdl_active : (s.withHdl g i h).active = s.active := rfl
@[simp] theorem withHdl_firewallHdl :
    (s.withHdl g i h).firewallHdl = update s.firewallHdl g (update (s.firewallHdl g) i (some h)) := rfl
@[simp] theorem withHdl_numFirewall : (s.withHdl g i h).numFirewall = s.numFirewall := rfl
@[simp] theorem withHdl_dftWanFlHdl : (s.withHdl g i h).dftWanFlHdl = s.dftWanFlHdl := rfl
@[simp] theorem withHdl_ipv6FragHdl : (s.withHdl g i h).ipv6FragHdl = s.ipv6FragHdl := rfl
@[simp] theorem withHdl_isIpv6FragInstalled : (s.withHdl g i h).isIpv6FragInstalled = s.isIpv6FragInstalled := rfl
@[simp] theorem withHdl_fltRuleCount : (s.withHdl g i h).fltRuleCount = s.fltRuleCount := rfl

end Fields

/-- `IPACM_Filtering::AddFilteringRule`, with the handle it fills in. -/
def addFilteringRule (call : FirewallCall) (ip : IpFamily) (rule : WanFltRule) (s : WanFirewall) :
    Option Nat × WanFirewall :=
  if D.fails call then (none, s)
  else
    let (h, flt) := s.flt.add D.handles ⟨ip, rule⟩
    (some h, s.withFlt flt)

/-- `increaseFltRuleCount`, and `decreaseFltRuleCount` with a negative number. -/
def addFltRuleCount (g : IpFamily) (k : Int) (s : WanFirewall) : Except FirewallFault WanFirewall := do
  let n ← addInt (s.fltRuleCount g) k
  return s.withCount g n

/-! ## A station's rules -/

/-- A call that may fail, and does nothing else here. -/
def ask (call : FirewallCall) : FirewallStep := fun s => .ok (!D.fails call, s)

/-- A rule whose handle has a place of its own. -/
def addRule (call : FirewallCall) (g : IpFamily) (rule : WanFltRule) (store : Nat → WanFirewall → WanFirewall) :
    FirewallStep := fun (i, s) =>
  match s.addFilteringRule D call g rule with
  | (none, s) => .ok (false, i, s)
  | (some h, s) => do
    let s ← s.addFltRuleCount g 1
    return (true, i, store h s)

/-- The IPv6 fragment rule. -/
def addFrag (rx : RuleAttrib) : FirewallStep :=
  addRule D .addFrag .v6 (env.staFragRule rx) fun h s => { s with ipv6FragHdl := h, isIpv6FragInstalled := true }

/-- A rule that `dft_wan_fl_hdl` has a place for. -/
def addDft (call : FirewallCall) (g : IpFamily) (rule : WanFltRule) (k : Fin 3) : FirewallStep :=
  addRule D call g rule fun h s => { s with dftWanFlHdl := update s.dftWanFlHdl k (some h) }

/-- A rule of an entry; its handle goes behind those of the rules before it. -/
def addEntry (g : IpFamily) (rule : WanFltRule) : FirewallStep := fun (i, s) =>
  match s.addFilteringRule D (.addEntry i) g rule with
  | (none, s) => .ok (false, i, s)
  | (some h, s) => do
    let s ← s.addFltRuleCount g 1
    if hi : i < ipacmMaxFirewallEntries then
      let n ← addInt (s.numFirewall g) 1
      return (true, i + 1, (s.withHdl g ⟨i, hi⟩ h).withNum g n)
    else .error .index

/-- The place of a family's default rule. -/
def dftIdx : IpFamily → Fin 3
  | .v4 => ⟨0, Nat.zero_lt_succ 2⟩
  | .v6 => ⟨1, Nat.one_lt_succ_succ 1⟩

def icmpIdx : Fin 3 := ⟨2, Nat.lt_succ_self 2⟩

/-- The rules of a family's entries, if the firewall is on. -/
def entryAttribs (file : FirewallFile) (g : IpFamily) : List RuleAttrib :=
  if file.settings.firewallEnable then (file.entriesOf g).flatMap fun e => e.attrib.split g else []

/-- The fragment rule is asked for. -/
def wantsFrag (file : FirewallFile) (g : IpFamily) : Bool :=
  g == .v6 && file.settings.firewallEnable && file.checkDftFirewallRulesAttrMask

def fragSteps (rx : RuleAttrib) (file : FirewallFile) (g : IpFamily) : List FirewallStep :=
  if wantsFrag file g then [addFrag D env rx] else []

def entrySteps (rx : RuleAttrib) (file : FirewallFile) (g : IpFamily) : List FirewallStep :=
  (entryAttribs file g).map fun a => addEntry D g (env.staEntryRule rx g file a)

def icmpStep (rx : RuleAttrib) : FirewallStep := addDft D .addIcmp .v6 (env.staIcmpRule rx) icmpIdx

def dftStep (rx : RuleAttrib) (file : FirewallFile) (g : IpFamily) : FirewallStep :=
  addDft D .addDft g (env.staDftRule rx g file) (dftIdx g)

/-- What `config_dft_firewall_rules` does, up to the first failure. Only without entries does it add the ICMP rule before
it asks for the routing table. -/
def configSteps (rx : RuleAttrib) (file : FirewallFile) (g : IpFamily) : List FirewallStep :=
  fragSteps D env rx file g ++
    match g with
    | .v4 => [ask D .getRoutingTable] ++ entrySteps D env rx file .v4 ++ [dftStep D env rx file .v4]
    | .v6 =>
      if file.numRules .v6 = 0 then [icmpStep D env rx, ask D .getRoutingTable, dftStep D env rx file .v6]
      else [ask D .getRoutingTable] ++ entrySteps D env rx file .v6 ++ [icmpStep D env rx, dftStep D env rx file .v6]

/-- `config_dft_firewall_rules`, with what it reads in the file. -/
def configDftFirewallRules (file : FirewallFile) (g : IpFamily) (s : WanFirewall) :
    Except FirewallFault (Bool × WanFirewall) :=
  match env.rxProp with
  | none => .ok (true, s)
  | some (rx, _) => do
    let (ok, _, s) ← Step.all (configSteps D env rx file g) (0, { s with config := file })
    return (ok, s)

/-! ## Their deletion -/

/-- A handle that is read. -/
def readHdl : Option Nat → Except FirewallFault Nat
  | none => .error .unwritten
  | some h => .ok h

/-- A pass of the loop of `IPACM_Filtering::DeleteFilteringHdls`. -/
def deleteFilteringHdl (call : FirewallCall) (h : Nat) (s : WanFirewall) : Bool × WanFirewall :=
  if h = 0 then (true, s) else if D.fails call then (false, s) else (true, s.withFlt (s.flt.del h))

/-- The loop over `firewall_hdl_v4` or `firewall_hdl_v6`. -/
def delEntry (g : IpFamily) (cnt : Nat) : Step FirewallFault WanFirewall := fun s =>
  if hi : cnt < ipacmMaxFirewallEntries then do
    let h ← readHdl (s.firewallHdl g ⟨cnt, hi⟩)
    return s.deleteFilteringHdl D (.delEntry cnt) h
  else .error .index

/-- One handle, and then the count. -/
def delOne (call : FirewallCall) (g : IpFamily) (hdl : WanFirewall → Option Nat) (after : WanFirewall → WanFirewall) :
    Step FirewallFault WanFirewall := fun s => do
  let h ← readHdl (hdl s)
  match s.deleteFilteringHdl D call h with
  | (false, s) => return (false, s)
  | (true, s) =>
    let s ← (after s).addFltRuleCount g (-1)
    return (true, s)

def countDown (g : IpFamily) (n : BitVec 32) : Step FirewallFault WanFirewall := fun s => do
  let s ← s.addFltRuleCount g (-n.toInt)
  return (true, s)

/-- The number of handles is passed as a `uint8_t`. -/
def delEntries (g : IpFamily) (n : BitVec 32) : List (Step FirewallFault WanFirewall) :=
  if n ≠ 0 then (List.range (n.setWidth 8).toNat).map (delEntry D g) ++ [countDown g n] else []

/-- The fragment rule goes if the configuration that was read last has one. -/
def delFrag : Step FirewallFault WanFirewall := fun s =>
  if s.isIpv6FragInstalled && s.config.checkDftFirewallRulesAttrMask then
    delOne D .delFrag .v6 (fun s => some s.ipv6FragHdl) (fun s => { s with isIpv6FragInstalled := false }) s
  else .ok (true, s)

def resetNum (g : IpFamily) : Step FirewallFault WanFirewall := fun s =>
  .ok (true, s.withNum g 0)

/-- What `del_dft_firewall_rules` does behind its checks, up to the first failure. -/
def delSteps (g : IpFamily) (n : BitVec 32) : List (Step FirewallFault WanFirewall) :=
  delEntries D g n ++
    (match g with
      | .v4 => [delOne D .delDft .v4 (fun s => s.dftWanFlHdl (dftIdx .v4)) id]
      | .v6 => [delOne D .delDft .v6 (fun s => s.dftWanFlHdl (dftIdx .v6)) id,
          delOne D .delIcmp .v6 (fun s => s.dftWanFlHdl icmpIdx) id, delFrag D]) ++
    [resetNum g]

/-- `del_dft_firewall_rules`. -/
def delDftFirewallRules (g : IpFamily) (s : WanFirewall) : Except FirewallFault (Bool × WanFirewall) :=
  match env.rxProp with
  | none => .ok (true, s)
  | some _ =>
    if s.active g then
      if (ipacmMaxFirewallEntries : Int) < (s.numFirewall g).toInt then .ok (false, s)
      else Step.all (delSteps D g (s.numFirewall g)) s
    else .ok (true, s)

/-! ## The modem's rules -/

/-- `memcpy` into the table, and the counters. The fragment rule is not counted among those of the firewall. -/
def writeRule (g : IpFamily) (counted : Bool) (rule : WanFltRule) : FirewallStep := fun (pos, s) =>
  if pos < env.ipaMaxFltRule then do
    let n ← if counted then addInt (s.numFirewall g) 1 else pure (s.numFirewall g)
    let k ← addInt (s.numFltRule g) 1
    return (true, pos + 1,
      { s.withNum g n with
        fltRule := update s.fltRule g (update (s.fltRule g) pos (some rule))
        numFltRule := update s.numFltRule g k })
  else .error .index

def exFragSteps (rx : RuleAttrib) (file : FirewallFile) (g : IpFamily) : List FirewallStep :=
  if wantsFrag file g then [ask D .queryFrag, ask D .generateFrag, writeRule env .v6 false (env.exFragRule rx)] else []

/-- An entry: the routing table of its rules is asked for once. -/
def exEntrySteps (rx : RuleAttrib) (file : FirewallFile) (g : IpFamily) (i : Nat) (a : RuleAttrib) : List FirewallStep :=
  ask D (.queryEntry i) :: ((a.split g).zipIdx.flatMap fun (a, k) =>
    [ask D (.generateEntry i k), writeRule env g true (env.exEntryRule rx g file a)])

def exEntriesSteps (rx : RuleAttrib) (file : FirewallFile) (g : IpFamily) : List FirewallStep :=
  if file.settings.firewallEnable then
    (file.entriesOf g).zipIdx.flatMap fun (e, i) => exEntrySteps D env rx file g i e.attrib
  else []

/-- The attributes of the default rule, which for IPv6 are those of the second rx property. -/
def exDftRx (rx : RuleAttrib × RuleAttrib) : IpFamily → RuleAttrib
  | .v4 => rx.1
  | .v6 => rx.2

def configExSteps (rx : RuleAttrib × RuleAttrib) (file : FirewallFile) (g : IpFamily) : List FirewallStep :=
  exFragSteps D env rx.1 file g ++ exEntriesSteps D env rx.1 file g ++
    [ask D .queryDft, ask D .generateDft, writeRule env g true (env.exDftRule (exDftRx rx g) g file)]

/-- `config_dft_firewall_rules_ex`, on the table of its family. -/
def configDftFirewallRulesEx (file : FirewallFile) (ruleOffset : BitVec 32) (g : IpFamily) (s : WanFirewall) :
    Except FirewallFault (Bool × WanFirewall) :=
  match env.rxProp with
  | none => .ok (true, s)
  | some rx =>
    if ruleOffset.toInt < 0 then .ok (false, s)
    else do
      let (ok, _, s) ← Step.all (configExSteps D env rx file g) (ruleOffset.toNat, { s with config := file })
      return (ok, s)

end WanFirewall

end HiaeCommon
