import OpenVPNAdapter.Text

namespace OpenVPNAdapter.ConnectionObjects

open Text

/-- `ClientAPI::ConnectionInfo` without its flag, as `ClientEvent::Connected` fills it. -/
structure ConnectionInfo where
  user : String
  serverHost : String
  serverPort : String
  serverProto : String
  serverIp : String
  vpnIp4 : String
  vpnIp6 : String
  gw4 : String
  gw6 : String
  clientIp : String
  tunName : String
deriving DecidableEq, Repr

@[ext]
structure OpenVPNConnectionInfo where
  user : Option String
  serverHost : Option String
  serverPort : Option String
  serverProto : Option String
  serverIP : Option String
  vpnIPv4 : Option String
  vpnIPv6 : Option String
  gatewayIPv4 : Option String
  gatewayIPv6 : Option String
  clientIP : Option String
  tunName : Option String
deriving DecidableEq, Repr

def initWithConnectionInfo (info : ConnectionInfo) : OpenVPNConnectionInfo where
  user := textObject info.user
  serverHost := textObject info.serverHost
  serverPort := textObject info.serverPort
  serverProto := textObject info.serverProto
  serverIP := textObject info.serverIp
  vpnIPv4 := textObject info.vpnIp4
  vpnIPv6 := textObject info.vpnIp6
  gatewayIPv4 := textObject info.gw4
  gatewayIPv6 := textObject info.gw6
  clientIP := textObject info.clientIp
  tunName := textObject info.tunName

structure SessionToken where
  username : String
  sessionId : String
deriving DecidableEq, Repr

@[ext]
structure OpenVPNSessionToken where
  username : Option String
  session : Option String
deriving DecidableEq, Repr

def initWithSessionToken (token : SessionToken) : OpenVPNSessionToken :=
  ⟨textObject token.username, textObject token.sessionId⟩

@[ext]
structure OpenVPNInterfaceStats where
  bytesIn : Int64
  bytesOut : Int64
  packetsIn : Int64
  packetsOut : Int64
  errorsIn : Int64
  errorsOut : Int64
deriving DecidableEq

@[ext]
structure OpenVPNTransportStats (D : Type) where
  bytesIn : Int64
  bytesOut : Int64
  packetsIn : Int64
  packetsOut : Int64
  lastPacketReceived : Option D
deriving DecidableEq

end OpenVPNAdapter.ConnectionObjects
