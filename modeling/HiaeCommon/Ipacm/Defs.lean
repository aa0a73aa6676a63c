/-
What the components of `ipacm` share (`ipacm/inc/IPACM_Defs.h`): address
families, and the data an event carries about an interface or a client.
-/
import Mathlib.Data.BitVec

namespace HiaeCommon

/-- The six bytes of a MAC address, first byte most significant. -/
abbrev MacAddr := BitVec 48

/-- `enum ipa_ip_type`. -/
inductive IpType
  | v4 | v6 | max
  deriving DecidableEq, Repr

/-- `ipacm_event_data_all`. The four words of an IPv6 address are one value. -/
structure EventDataAll where
  iptype : IpType
  ifIndex : Int
  ipv4Addr : BitVec 32
  ipv6Addr : BitVec 128
  macAddr : MacAddr
  deriving DecidableEq, Repr

end HiaeCommon
