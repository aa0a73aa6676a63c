/-
The client tables of `IPACM_Lan` and `IPACM_Wlan` (`ipacm/inc/IPACM_Lan.h`,
`ipacm/inc/IPACM_Wlan.h`, `ipacm/src/IPACM_Routing.cpp`,
`ipacm/src/IPACM_Header.cpp`): a client's record, the deletion of what the
driver holds for it, and the removal of the record. The two classes do the same
to the same fields, so they share the definitions; `σ` is what one of them keeps
in a record beyond that.

`Outside` is what the handlers act on beside their own table: the driver, and
the calls of the conntrack listener and of `NatApp`, in order. The driver may fail any call it is asked for; a call that failed has done
nothing.
-/
import HiaeCommon.Lib.Calls
import HiaeCommon.Lib.Ledger
import HiaeCommon.Ipacm.ConntrackListener
import HiaeCommon.Ipacm.Defs
import Mathlib.Algebra.BigOperators.Intervals

namespace HiaeCommon

open Lib (Handles Ledger untilFailure)

/-- `IPV6_NUM_ADDR`. -/
def ipv6NumAddr : Nat := 3

/-- What the clients' handlers read of a tx property. -/
structure TxProp where
  ip : IpType
  dstPipe : Nat
  altDstPipe : Nat
  hdrName : String
  deriving DecidableEq, Repr

/-- `rt_tbl_lan_v4`, `rt_tbl_wan_v4`, `rt_tbl_v6` and `rt_tbl_wan_v6`. -/
inductive RtTbl
  | lanV4 | wanV4 | v6 | wanV6
  deriving DecidableEq, Repr

/-- `ipa_rt_rule_add`. `attrib` is the tx property whose attributes the rule starts from, if any;
the address is matched in full. -/
structure RtRule where
  tbl : RtTbl
  dst : Nat
  attrib : Option Nat
  hdrHdl : Nat
  dstAddr : BitVec 128
  deriving DecidableEq, Repr

/-- `ipa_wlan_hdr_attrib_val`; `other` is a type the code does not expect. -/
inductive WlanHdrAttribVal
  | macAddr (mac : MacAddr) (offset : Nat)
  | staId (id : Nat) (offset : Nat)
  | other
  deriving DecidableEq, Repr

/-- `ipa_hdr_add`: the partial header it completes, what is written into it, and the number in its name. -/
structure HdrEntry where
  ip : IpType
  partialHdr : String
  attribs : List WlanHdrAttribVal
  nameCount : Nat
  deriving DecidableEq, Repr

/-- What the driver decides: the handles it gives out, none of them zero, and which calls fail. -/
structure IpaDriver where
  handles : Handles
  ne_zero : ∀ used, handles.pick used ≠ 0
  fails : Nat → Bool

/-- The driver's state and the number of calls made, and what others were told. -/
structure Outside where
  rt : Ledger RtRule := Ledger.empty
  hdr : Ledger HdrEntry := Ledger.empty
  calls : Nat := 0
  told : List ListenerEvt := []

namespace Outside

variable (D : IpaDriver)

/-- One call of the driver: `none` if it fails. -/
def call {α : Type} (act : Outside → α × Outside) (o : Outside) : Option α × Outside :=
  let o' := { o with calls := o.calls + 1 }
  if D.fails o.calls then (none, o') else (some (act o').1, (act o').2)

def tell (e : ListenerEvt) (o : Outside) : Outside := { o with told := o.told ++ [e] }

/-- `AddRoutingRule`. -/
def addRoutingRule (r : RtRule) : Outside → Option Nat × Outside :=
  call D fun o => ((o.rt.add D.handles r).1, { o with rt := (o.rt.add D.handles r).2 })

/-- `AddHeader`. -/
def addHeader (r : HdrEntry) : Outside → Option Nat × Outside :=
  call D fun o => ((o.hdr.add D.handles r).1, { o with hdr := (o.hdr.add D.handles r).2 })

/-- `CopyHeader`. -/
def copyHeader : Outside → Option Unit × Outside := call D fun o => ((), o)

/-- `IPACM_Routing::DeleteRoutingHdl`. A failure of the call jumps over `res = false`. -/
def deleteRoutingHdl (rtRuleHdl : Nat) (o : Outside) : Bool × Outside :=
  if rtRuleHdl = 0 then (true, o)
  else (true, (call D (fun o => ((), { o with rt := o.rt.del rtRuleHdl })) o).2)

/-- `IPACM_Header::DeleteHeaderHdl`. -/
def deleteHeaderHdl (hdrHdl : Nat) (o : Outside) : Bool × Outside :=
  if hdrHdl = 0 then (false, o)
  else
    let (r, o) := call D (fun o => ((), { o with hdr := o.hdr.del hdrHdl })) o
    (r.isSome, o)

end Outside

/-- `eth_client_rt_hdl`, `wlan_client_rt_hdl`. -/
structure ClientRtHdl where
  rtRuleHdlV4 : Nat := 0
  rtRuleHdlV6 : Nat → Nat := fun _ => 0
  rtRuleHdlV6Wan : Nat → Nat := fun _ => 0

/-- `ipa_eth_client`, `ipa_wlan_client`, with the routing handles of each tx property. -/
structure Client (σ : Type) where
  mac : MacAddr := 0
  v4Addr : BitVec 32 := 0
  v6Addr : Nat → BitVec 128 := fun _ => 0
  hdrHdlV4 : Nat := 0
  hdrHdlV6 : Nat := 0
  routeRuleSetV4 : Bool := false
  routeRuleSetV6 : Nat := 0
  ipv4Set : Bool := false
  ipv6Set : Nat := 0
  ipv4HeaderSet : Bool := false
  ipv6HeaderSet : Bool := false
  rtHdl : Nat → ClientRtHdl := fun _ => {}
  own : σ

namespace Client

variable {σ : Type} (D : IpaDriver) (tx : List TxProp)

/-- `delete_eth_rtrules`, `delete_default_qos_rtrules`. -/
def deleteRtRules (iptype : IpType) : Client σ × Outside → Bool × Client σ × Outside
  | (c, o) =>
    match iptype with
    | .v4 =>
      let (ok, o) := untilFailure (fun p o =>
        if p.1.ip = .v4 ∧ c.routeRuleSetV4 = true then o.deleteRoutingHdl D (c.rtHdl p.2).rtRuleHdlV4 else (true, o)) tx.zipIdx o
      if ok then (true, { c with routeRuleSetV4 := false }, o) else (false, c, o)
    | .v6 =>
      let (ok, o) := untilFailure (fun p o =>
        if p.1.ip = .v6 ∧ c.routeRuleSetV6 ≠ 0 then
          untilFailure (fun n o =>
            let (ok, o) := o.deleteRoutingHdl D ((c.rtHdl p.2).rtRuleHdlV6 n)
            if ok then o.deleteRoutingHdl D ((c.rtHdl p.2).rtRuleHdlV6Wan n) else (false, o)) (List.range c.routeRuleSetV6) o
        else (true, o)) tx.zipIdx o
      if ok then (true, { c with routeRuleSetV6 := 0 }, o) else (false, c, o)
    | .max => (true, c, o)

/-- The deletion of a header the record says is there; `cleared` is the record without it. -/
def deleteHeader (headerSet : Bool) (hdrHdl : Nat) (cleared c : Client σ) (o : Outside) : Bool × Client σ × Outside :=
  if headerSet then
    let (ok, o) := o.deleteHeaderHdl D hdrHdl
    if ok then (true, cleared, o) else (false, c, o)
  else (true, c, o)

def deleteHeaderV4 : Client σ × Outside → Bool × Client σ × Outside
  | (c, o) => deleteHeader D c.ipv4HeaderSet c.hdrHdlV4 { c with ipv4HeaderSet := false } c o

def deleteHeaderV6 : Client σ × Outside → Bool × Client σ × Outside
  | (c, o) => deleteHeader D c.ipv6HeaderSet c.hdrHdlV6 { c with ipv6HeaderSet := false } c o

/-- The deletions, up to the first that fails. -/
def clean (c : Client σ) (o : Outside) : Bool × Client σ × Outside :=
  untilFailure (fun f s => f s) [deleteRtRules D tx .v4, deleteRtRules D tx .v6, deleteHeaderV4 D, deleteHeaderV6 D] (c, o)

/-- The flags, after the deletions. -/
def resetFlags (c : Client σ) : Client σ :=
  { c with ipv4Set := false, ipv6Set := 0, ipv4HeaderSet := false, ipv6HeaderSet := false, routeRuleSetV4 := false, routeRuleSetV6 := 0 }

/-- A change of the handles of one tx property. -/
def setRtHdl (c : Client σ) (txIndex : Nat) (f : ClientRtHdl → ClientRtHdl) : Client σ :=
  { c with rtHdl := fun i => if i = txIndex then f (c.rtHdl i) else c.rtHdl i }

/-- A record takes over the next one, field by field: as many addresses and handles as are set. -/
def copyFrom (c next : Client σ) : Client σ where
  mac := next.mac
  v4Addr := next.v4Addr
  v6Addr n := if n < next.ipv6Set then next.v6Addr n else c.v6Addr n
  hdrHdlV4 := next.hdrHdlV4
  hdrHdlV6 := next.hdrHdlV6
  routeRuleSetV4 := next.routeRuleSetV4
  routeRuleSetV6 := next.routeRuleSetV6
  ipv4Set := next.ipv4Set
  ipv6Set := next.ipv6Set
  ipv4HeaderSet := next.ipv4HeaderSet
  ipv6HeaderSet := next.ipv6HeaderSet
  rtHdl i :=
    if i < tx.length then
      { rtRuleHdlV4 := (next.rtHdl i).rtRuleHdlV4
        rtRuleHdlV6 := fun n => if n < next.routeRuleSetV6 then (next.rtHdl i).rtRuleHdlV6 n else (c.rtHdl i).rtRuleHdlV6 n
        rtRuleHdlV6Wan := fun n =>
          if n < next.routeRuleSetV6 then (next.rtHdl i).rtRuleHdlV6Wan n else (c.rtHdl i).rtRuleHdlV6Wan n }
    else c.rtHdl i
  own := c.own

/-- The routing handles the record says are live: of each tx property of the family. -/
def rtHdlsV4 (c : Client σ) : List Nat :=
  tx.zipIdx.flatMap fun p => if p.1.ip = .v4 ∧ c.routeRuleSetV4 = true then [(c.rtHdl p.2).rtRuleHdlV4] else []

def rtHdlsV6 (c : Client σ) : List Nat :=
  tx.zipIdx.flatMap fun p => if p.1.ip = .v6 ∧ c.routeRuleSetV6 ≠ 0 then
    (List.range c.routeRuleSetV6).flatMap fun n => [(c.rtHdl p.2).rtRuleHdlV6 n, (c.rtHdl p.2).rtRuleHdlV6Wan n] else []

def rtHdls (c : Client σ) : List Nat := c.rtHdlsV4 tx ++ c.rtHdlsV6 tx

/-- The header handles the record says are live. -/
def hdrHdls (c : Client σ) : List Nat :=
  (if c.ipv4HeaderSet then [c.hdrHdlV4] else []) ++ (if c.ipv6HeaderSet then [c.hdrHdlV6] else [])

end Client

/-- The table: the number of clients, and the slots, of which the first are in use. -/
structure ClientTable (σ : Type) where
  num : Nat
  slot : Nat → Client σ

/-- How the removal of a client ends. -/
inductive DownRes
  | notAttached | failed | deleted
  deriving DecidableEq, Repr

namespace ClientTable

variable {σ : Type} (D : IpaDriver) (tx : List TxProp)

/-- `get_eth_client_index`, `get_wlan_client_index`. -/
def index (t : ClientTable σ) (mac : MacAddr) : Option Nat := (List.range t.num).find? fun i => (t.slot i).mac = mac

def set (t : ClientTable σ) (i : Nat) (c : Client σ) : ClientTable σ :=
  { t with slot := fun k => if k = i then c else t.slot k }

/-- The loop that closes the gap at `i`. -/
def compact (t : ClientTable σ) (i : Nat) : ClientTable σ :=
  (List.range' i (t.num - 1 - i)).foldl (fun t k => t.set k ((t.slot k).copyFrom tx (t.slot (k + 1)))) t

/-- What the two `handle_*_client_down_evt` share. -/
def clientDown (t : ClientTable σ) (mac : MacAddr) (o : Outside) : DownRes × ClientTable σ × Outside :=
  match t.index mac with
  | none => (.notAttached, t, o)
  | some i =>
    let c := t.slot i
    let o := if c.ipv4Set then o.tell (.neighIpAddrDel c.v4Addr) else o
    match c.clean D tx o with
    | (false, c, o) => (.failed, t.set i c, o)
    | (true, c, o) =>
      let t := (t.set i c.resetFlags).compact tx i
      (.deleted, { t with num := t.num - 1 }, o)

/-- The handles the records in use say are live. -/
def rtHdls (t : ClientTable σ) : Multiset Nat := ∑ i ∈ Finset.range t.num, ((t.slot i).rtHdls tx : Multiset Nat)

def hdrHdls (t : ClientTable σ) : Multiset Nat := ∑ i ∈ Finset.range t.num, ((t.slot i).hdrHdls : Multiset Nat)

end ClientTable

end HiaeCommon
