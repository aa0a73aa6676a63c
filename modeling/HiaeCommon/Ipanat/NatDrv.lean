/-
The NAT driver's interface (`ipanat/inc/ipa_nat_drv.h`): the rule a client
hands in. `Ipanat` models the driver behind it, `Ipacm` its one client.
-/
namespace HiaeCommon

/-- `ipa_nat_ipv4_rule`. -/
structure IpaNatIpv4Rule where
  targetIp : BitVec 32
  privateIp : BitVec 32
  targetPort : BitVec 16
  privatePort : BitVec 16
  publicPort : BitVec 16
  protocol : BitVec 8
  deriving DecidableEq, Repr

/-- `IPA_NAT_MAX_IP4_TBLS`. -/
def ipaNatMaxIp4Tbls : Nat := 1

/-- `IPPROTO_TCP` and `IPPROTO_UDP`. -/
def ipprotoTcp : BitVec 8 := 6
def ipprotoUdp : BitVec 8 := 17

end HiaeCommon
