import HiaeCommon.Ipanat.NatHandleChecks
import HiaeCommon.Ipanat.NatTableLife
import HiaeCommon.Ipanat.NatChecksum
import HiaeCommon.Ipanat.NatSizes
import HiaeCommon.Ipanat.NatLayout
import HiaeCommon.Ipacm.NatOwnership
import HiaeCommon.Ipacm.NatWanDown
import HiaeCommon.Ipacm.NatFlush
import HiaeCommon.Ipacm.RmDependRuns
import HiaeCommon.Ipacm.CmdQueueRuns
import HiaeCommon.Ipacm.DispatchRuns
import HiaeCommon.Ipacm.NetlinkByMessage
import HiaeCommon.Ipacm.LanToLanAgree
import HiaeCommon.Ipacm.UplinkOrder
import HiaeCommon.Ipacm.UplinkSets
import HiaeCommon.Ipacm.SccMccSwitch
import HiaeCommon.Ipacm.SubnetRuns
import HiaeCommon.Ipacm.StaClients
import HiaeCommon.Ipacm.NatIfaces
import HiaeCommon.Ipacm.SubnetTable
import HiaeCommon.Ipacm.NeighborLearned
import HiaeCommon.Ipacm.EthHdrInit
import HiaeCommon.Ipacm.EthAddrDel
import HiaeCommon.Ipacm.LanToLanClients
import HiaeCommon.Ipacm.SleepingClients
import HiaeCommon.Ipacm.ConntrackFilters
import HiaeCommon.Ipacm.NetlinkWithin
import HiaeCommon.Ipacm.NetlinkRoutes
import HiaeCommon.Ipacm.FirewallParsed
import HiaeCommon.Ipacm.FirewallRemoved
import HiaeCommon.Ipacm.StaBackhaulRuns
import HiaeCommon.Ipacm.WanTetherRuns
import HiaeCommon.Amplifier.TfaVersion
import HiaeCommon.Camera.Routing
import HiaeCommon.HtcrilDb.PropertyRuns
