/-
The filter rules of an interface's pipe (`ipacm/src/IPACM_Filtering.cpp`, and
of `ipacm/inc/IPACM_Config.h` the rule counts and the private subnets), and
what else the interface-level handlers of `IPACM_Lan` act on.

Every call a handler makes has a name (`LanCall`), and the driver decides for
each of them whether it fails, and for each rule of a call that does not
whether it is refused. A call that failed has done nothing.
-/
import HiaeCommon.Lib.Calls
import HiaeCommon.Lib.OrderedLedger
import HiaeCommon.Ipacm.ClientTable

namespace HiaeCommon

open Lib (Handles Ledger untilFailure)

/-- `enum ipa_flt_action`, as far as it is used here. -/
inductive FltAction
  | passToException | passToRouting | passToSrcNat
  deriving DecidableEq, Repr

/-- What is set in a rule's `attrib`. -/
inductive FltCond
  | fragment
  | protocol (protocol : BitVec 8)
  | nextHdr (nextHdr : BitVec 8)
  | srcAddrV4 (addr mask : BitVec 32)
  | dstAddrV4 (addr mask : BitVec 32)
  | dstAddrV6 (addr mask : BitVec 128)
  deriving DecidableEq, Repr

/-- `ipa_ipfltr_mask_eq_32`. -/
structure MaskEq32 where
  offset : BitVec 8 := 0
  mask : BitVec 32 := 0
  value : BitVec 32 := 0
  deriving DecidableEq, Repr

/-- `ipa_ipfltri_rule_eq`; `rest` is what is only copied. -/
structure RuleEq where
  ruleEqBitmap : BitVec 16 := 0
  protocolEq : Option (BitVec 8) := none
  ihlOffsetMeq32 : List MaskEq32 := []
  metadataMeq32Present : BitVec 8 := 0
  metadataMeq32 : MaskEq32 := {}
  rest : List (BitVec 8) := []
  deriving DecidableEq, Repr

/-- The routing tables a filter rule sends packets to. -/
inductive FltRtTbl
  | defaultV4 | wanV4 | v6
  deriving DecidableEq, Repr

/-- `ipa_flt_rule`. `fromRx` is whether `attrib` starts from the attributes of the rx property. -/
structure FltRule where
  action : FltAction
  retainHdr : Bool := false
  hashable : Bool := false
  rtTbl : Option FltRtTbl := none
  rtTblIdx : BitVec 32 := 0
  ruleId : BitVec 16 := 0
  fromRx : Bool := true
  attrib : List FltCond := []
  eqAttribType : Bool := false
  eqAttrib : RuleEq := {}
  deriving DecidableEq, Repr

/-- What an interface has a rule for. -/
inductive FltUse
  | dft | icmp | privateSubnet | ipv6Prefix | wanUl | lanWan | softwareRouting
  deriving DecidableEq, Repr

/-- An installed rule: its pipe and family. Which interface asked for it, and what for, is not the driver's to know. -/
structure FltSlot where
  ep : Nat
  ip : IpType
  owner : Nat
  use : FltUse
  rule : FltRule
  deriving DecidableEq, Repr

/-- The calls. `addRt` stands for the call and the status of its one rule. -/
inductive LanCall
  | addRt (tbl : RtTbl)
  | delRt (ip : IpType) (i : Nat)
  | getRtTbl (tbl : FltRtTbl)
  | addFlt (use : FltUse) (ip : IpType)
  | delFlt (use : FltUse) (ip : IpType) (i : Nat)
  | resetFlt (i : Nat)
  | modifyFlt
  | writeQmapid (ip : IpType) (cnt : Nat)
  | sendRuleIndex (ip : IpType)
  deriving DecidableEq, Repr

/-- What the driver decides while an event is handled. -/
structure LanDriver where
  handles : Handles
  ne_zero : ∀ used, handles.pick used ≠ 0
  fails : LanCall → Bool
  refuses : LanCall → Nat → Bool

/-- The driver that does what it is asked. -/
structure LanDriver.Succeeds (D : LanDriver) : Prop where
  fails : ∀ c, D.fails c = false
  refuses : ∀ c i, D.refuses c i = false

def obedientLan : LanDriver where
  handles := Handles.next
  ne_zero := Handles.next_ne_zero
  fails _ := false
  refuses _ _ := false

theorem obedientLan_succeeds : obedientLan.Succeeds := ⟨fun _ => rfl, fun _ _ => rfl⟩

/-- `IPA_MAX_PRIVATE_SUBNET_ENTRIES`. -/
def ipaMaxPrivateSubnetEntries : Nat := 3

/-- `private_subnet_table`, with `ipa_num_private_subnet`. -/
structure PrivateSubnetTable where
  num : Nat
  subnetAddr : Nat → BitVec 32
  subnetMask : Nat → BitVec 32
  fits : num ≤ ipaMaxPrivateSubnetEntries

/-- What the handlers post. -/
inductive LanMsg
  | privateSubnetChange (ifIndex : Nat)
  | handleLanUp (ipv4Addr addrMask : BitVec 32)
  | handleWlanUp (ipv4Addr addrMask : BitVec 32)
  | ethBridgeIfaceUp (ifIndex : Nat) (iptype : IpType)
  | ethBridgeIfaceDown (ifIndex : Nat)
  | lanDeleteSelf (ifIndex : Nat)
  deriving DecidableEq, Repr

/-- `ipa_fltr_installed_notif_req_msg_v01`. -/
structure FltrInstalledNotif where
  srcPipe : Nat
  ruleId : List (BitVec 16)
  embeddedCallMuxId : BitVec 8
  deriving DecidableEq, Repr

/-- The driver's state, the counts and the private subnets of `IPACM_Config`, and what was posted and sent.
`crashed` is set where a null pointer is read. -/
structure LanOut where
  flt : Ledger FltSlot := Ledger.empty
  rt : Ledger RtRule := Ledger.empty
  fltRuleCount : Nat → IpType → Int := fun _ _ => 0
  privateSubnet : PrivateSubnetTable := ⟨0, fun _ => 0, fun _ => 0, Nat.zero_le _⟩
  posted : List LanMsg := []
  notified : List FltrInstalledNotif := []
  crashed : Bool := false

/-- What a handle reads when its rule was refused. -/
def noFltHdl : Nat := 2 ^ 32 - 1

namespace LanOut

variable (D : LanDriver)

def post (m : LanMsg) (o : LanOut) : LanOut := { o with posted := o.posted ++ [m] }

def notify (n : FltrInstalledNotif) (o : LanOut) : LanOut := { o with notified := o.notified ++ [n] }

/-- `increaseFltRuleCount`, and `decreaseFltRuleCount` with a negative number. -/
def addFltRuleCount (pipes : Nat) (index : Nat) (iptype : IpType) (increment : Int) (o : LanOut) : LanOut :=
  if index ≥ pipes then o
  else { o with
    fltRuleCount := fun p t => if p = index ∧ t = iptype then o.fltRuleCount p t + increment else o.fltRuleCount p t }

/-- `IPACM_Filtering::AddFilteringRule`, with the handles it fills in. -/
def addFilteringRule (owner ep : Nat) (use : FltUse) (ip : IpType) (rules : List (Bool × FltRule)) (o : LanOut) :
    Option (List (Option Nat)) × LanOut :=
  if D.fails (.addFlt use ip) then (none, o)
  else
    let (hs, flt) := o.flt.install D.handles (D.refuses (.addFlt use ip)) (rules.map fun r => (r.1, ⟨ep, ip, owner, use, r.2⟩))
    (some hs, { o with flt })

/-- `IPACM_Filtering::DeleteFilteringHdls`. -/
def deleteFilteringHdls (use : FltUse) (ip : IpType) (hdls : List Nat) (o : LanOut) : Bool × LanOut :=
  untilFailure (fun (h, i) o =>
    if h = 0 then (true, o)
    else if D.fails (.delFlt use ip i) then (false, o)
    else (true, { o with flt := o.flt.del h })) hdls.zipIdx o

/-- `IPACM_Filtering::ModifyFilteringRule`: the rule of each handle that has one is replaced. -/
def modifyFilteringRule (call : LanCall) (rules : List (Nat × FltRule)) (o : LanOut) : Bool × LanOut :=
  if D.fails call then (false, o)
  else (true, { o with flt := rules.foldl (fun d (h, rule) => d.modify h fun s => { s with rule }) o.flt })

/-- `IPACM_Routing::AddRoutingRule`, and the look at the status of its rule. -/
def addRoutingRule (r : RtRule) (o : LanOut) : Option Nat × LanOut :=
  if D.fails (.addRt r.tbl) then (none, o)
  else (some (o.rt.add D.handles r).1, { o with rt := (o.rt.add D.handles r).2 })

/-- `IPACM_Routing::DeleteRoutingHdl`. A failure of the call jumps over `res = false`. -/
def deleteRoutingHdl (ip : IpType) (i : Nat) (h : Nat) (o : LanOut) : LanOut :=
  if h = 0 then o else if D.fails (.delRt ip i) then o else { o with rt := o.rt.del h }

/-- `IPACM_Config::AddPrivateSubnet`. -/
def addPrivateSubnet (ipAddr : BitVec 32) (ipaIfIndex : Nat) (o : LanOut) : LanOut :=
  let t := o.privateSubnet
  if (List.range t.num).any fun cnt => t.subnetAddr cnt = ipAddr then o
  else if h : t.num < ipaMaxPrivateSubnetEntries then
    { o with privateSubnet := {
        num := t.num + 1
        subnetAddr := fun k => if k = t.num then ipAddr else t.subnetAddr k
        subnetMask := fun k => if k = t.num then 0xFFFFFF00 else t.subnetMask k
        fits := h } }.post (.privateSubnetChange ipaIfIndex)
  else o

/-- `IPACM_Config::DelPrivateSubnet`. The masks stay where they are. -/
def delPrivateSubnet (ipAddr : BitVec 32) (ipaIfIndex : Nat) (o : LanOut) : LanOut :=
  let t := o.privateSubnet
  match (List.range t.num).find? fun cnt => t.subnetAddr cnt = ipAddr with
  | none => o
  | some cnt =>
    { o with privateSubnet := {
        num := t.num - 1
        subnetAddr := fun k => if cnt ≤ k ∧ k < t.num - 1 then t.subnetAddr (k + 1) else t.subnetAddr k
        subnetMask := t.subnetMask
        fits := le_trans (Nat.sub_le _ _) t.fits } }.post (.privateSubnetChange ipaIfIndex)

end LanOut

end HiaeCommon
