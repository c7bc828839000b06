import OpenVPNAdapter.Library.Runs
import OpenVPNAdapter.Library.Separated
import OpenVPNAdapter.PacketFlowBridge
import OpenVPNAdapter.PacketRead
import OpenVPNAdapter.Disconnect
import OpenVPNAdapter.FatalFlag
import OpenVPNAdapter.LateCalls
import OpenVPNAdapter.AcceptedValues
import OpenVPNAdapter.HandedSettings
import OpenVPNAdapter.RedirectGateway
import OpenVPNAdapter.BlockIPv6
import OpenVPNAdapter.RouteTables
import OpenVPNAdapter.PushedLists
import OpenVPNAdapter.FreshSession
import OpenVPNAdapter.Pairing
import OpenVPNAdapter.DataPath
import OpenVPNAdapter.ConnectionData
import OpenVPNAdapter.ContentList
import OpenVPNAdapter.ConfigurationLenses
import OpenVPNAdapter.Archiving
import OpenVPNAdapter.PersistedTunnel
import OpenVPNAdapter.Reachability
import OpenVPNAdapter.IdentityImport
import OpenVPNAdapter.Proto.Replay
import OpenVPNAdapter.Proto.Retransmit
import OpenVPNAdapter.Transport.TcpLink
import OpenVPNAdapter.DescriptorOwnership
