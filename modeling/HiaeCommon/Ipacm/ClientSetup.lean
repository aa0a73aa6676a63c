/-
What `IPACM_Lan`, `IPACM_Wlan` and `IPACM_Wan` do alike for a client
(`ipacm/src/IPACM_Lan.cpp`, `IPACM_Wlan.cpp`, `IPACM_Wan.cpp`): its addresses
are recorded, and its routing rules are installed, one for an IPv4 address and
two for an IPv6 address, for each tx property of the family. They differ in the
tables, pipes and headers of the rules, which `ClientRules` gives.
-/
import HiaeCommon.Ipacm.Wlan

namespace HiaeCommon

open Lib (untilFailure)

/-- The rules of a tx property, given by its index, the client's header and the address. -/
structure ClientRules where
  v4 (t : TxProp) (txIndex hdrHdl : Nat) (addr : BitVec 32) : RtRule
  v6 (t : TxProp) (txIndex hdrHdl : Nat) (addr : BitVec 128) : RtRule
  v6Wan (t : TxProp) (txIndex hdrHdl : Nat) (addr : BitVec 128) : RtRule

namespace Client

variable {σ : Type} (D : IpaDriver) (R : ClientRules)

/-- The rule of a tx property for an IPv4 client. -/
def addRuleV4 (t : TxProp) (txIndex : Nat) : Client σ × Outside → Bool × Client σ × Outside
  | (c, o) =>
    match o.addRoutingRule D (R.v4 t txIndex c.hdrHdlV4 c.v4Addr) with
    | (none, o) => (false, c, o)
    | (some h, o) => (true, c.setRtHdl txIndex fun r => { r with rtRuleHdlV4 := h }, o)

/-- The two rules of a tx property for the `n`-th IPv6 address of a client. -/
def addRulesV6 (t : TxProp) (txIndex n : Nat) : Client σ × Outside → Bool × Client σ × Outside
  | (c, o) =>
    match o.addRoutingRule D (R.v6 t txIndex c.hdrHdlV6 (c.v6Addr n)) with
    | (none, o) => (false, c, o)
    | (some h, o) =>
      let c := c.setRtHdl txIndex fun r => { r with rtRuleHdlV6 := fun k => if k = n then h else r.rtRuleHdlV6 k }
      match o.addRoutingRule D (R.v6Wan t txIndex c.hdrHdlV6 (c.v6Addr n)) with
      | (none, o) => (false, c, o)
      | (some h, o) =>
        (true, c.setRtHdl txIndex fun r => { r with rtRuleHdlV6Wan := fun k => if k = n then h else r.rtRuleHdlV6Wan k }, o)

/-- The client has an address whose rules are not installed yet. -/
def rulesDue (iptype : IpType) (c : Client σ) : Bool :=
  iptype = .v4 ∧ c.routeRuleSetV4 = false ∧ c.ipv4Set = true ∨ iptype = .v6 ∧ c.routeRuleSetV6 < c.ipv6Set

/-- The rules of a client, if there are any to be added. -/
def addRules (tx : List TxProp) (iptype : IpType) : Client σ × Outside → Bool × Client σ × Outside
  | (c, o) =>
    if iptype = .v4 ∧ c.routeRuleSetV4 = false ∧ c.ipv4Set = true then
      match untilFailure (fun p s => if p.1.ip = .v4 then addRuleV4 D R p.1 p.2 s else (true, s)) tx.zipIdx (c, o) with
      | (false, c, o) => (false, c, o)
      | (true, c, o) => (true, { c with routeRuleSetV4 := true }, o)
    else if iptype = .v6 ∧ c.routeRuleSetV6 < c.ipv6Set then
      match untilFailure (fun p s =>
        if p.1.ip = .v6 then
          untilFailure (addRulesV6 D R p.1 p.2) (List.range' c.routeRuleSetV6 (c.ipv6Set - c.routeRuleSetV6)) s
        else (true, s)) tx.zipIdx (c, o) with
      | (false, c, o) => (false, c, o)
      | (true, c, o) => (true, { c with routeRuleSetV6 := c.ipv6Set }, o)
    else (true, c, o)

end Client

namespace ClientTable

variable {σ : Type} (D : IpaDriver)

/-- What the `handle_*_client_ipaddr` of `IPACM_Lan` and `IPACM_Wlan` share: a changed IPv4 address takes the rule of
the old one with it, an IPv6 address is taken up while there is room and it is new. -/
def clientIpaddr (tx : List TxProp) (ipv6Prefix : BitVec 64) (t : ClientTable σ) (data : EventDataAll) (o : Outside) :
    Bool × ClientTable σ × Outside :=
  match t.index data.macAddr with
  | none => (false, t, o)
  | some i =>
    let c := t.slot i
    if data.iptype = .v4 then
      if data.ipv4Addr ≠ 0 then
        if c.ipv4Set = false then (true, t.set i { c with v4Addr := data.ipv4Addr, ipv4Set := true }, o)
        else if data.ipv4Addr = c.v4Addr then (false, t, o)
        else
          let (_, c, o) := Client.deleteRtRules D tx .v4 (c, o.tell (.neighIpAddrDel c.v4Addr))
          (true, t.set i { c with routeRuleSetV4 := false, v4Addr := data.ipv4Addr }, o)
      else (false, t, o)
    else if data.ipv6Addr ≠ 0 then
      if Wlan.isLinkLocal data.ipv6Addr = false ∧ ipv6Prefix ≠ Wlan.prefixOf data.ipv6Addr then (false, t, o)
      else if c.ipv6Set < ipv6NumAddr then
        if (List.range c.ipv6Set).any fun n => data.ipv6Addr = c.v6Addr n then (false, t, o)
        else
          let v6Addr := fun n => if n = c.ipv6Set then data.ipv6Addr else c.v6Addr n
          (true, t.set i { c with v6Addr, ipv6Set := c.ipv6Set + 1 }, o)
      else (false, t, o)
    else (true, t, o)

end ClientTable
end HiaeCommon
