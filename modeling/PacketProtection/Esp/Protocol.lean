/-!
# Protocol names

The byte that closes an ESP trailer is a number from the registry of IP
protocols.  The names below are the ones shown in messages; numbers without an
entry are unknown.
-/

namespace PacketProtection.IpProtocol

/-- IP in IP, the protocol of a packet in a tunnel. -/
def ipInIp : UInt8 := 4

/-- Encapsulating security payload. -/
def esp : UInt8 := 50

/-- The names of the protocols from 0 on. -/
def assigned : Array String :=
  #["Hopopt", "Icmp", "Igmp", "Ggp", "Ipv4", "St", "Tcp", "Cbt", "Egp", "Igp", "BbnRccMon",
    "NvpII", "Pup", "Argus", "Emcon", "Xnet", "Chaos", "Udp", "Mux", "DcnMeas", "Hmp", "Prm",
    "XnsIdp", "Trunk1", "Trunk2", "Leaf1", "Leaf2", "Rdp", "Irtp", "IsoTp4", "Netblt", "MfeNsp",
    "MeritInp", "Dccp", "ThreePc", "Idpr", "Xtp", "Ddp", "IdprCmtp", "TpPlusPlus", "Il", "Ipv6",
    "Sdrp", "Ipv6Route", "Ipv6Frag", "Idrp", "Rsvp", "Gre", "Dsr", "Bna", "Esp", "Ah", "INlsp",
    "Swipe", "Narp", "Mobile", "Tlsp", "Skip", "Icmpv6", "Ipv6NoNxt", "Ipv6Opts",
    "HostInternal", "Cftp", "LocalNetwork", "SatExpak", "Kryptolan", "Rvd", "Ippc",
    "DistributedFs", "SatMon", "Visa", "Ipcv", "Cpnx", "Cphb", "Wsn", "Pvp", "BrSatMon",
    "SunNd", "WbMon", "WbExpak", "IsoIp", "Vmtp", "SecureVmtp", "Vines", "TtpOrIptm",
    "NsfnetIgp", "Dgp", "Tcf", "Eigrp", "OspfigP", "SpriteRpc", "Larp", "Mtp", "Ax25", "IpIp",
    "Micp", "SccSp", "Etherip", "Encap", "PrivEncryption", "Gmtp", "Ifmp", "Pnni", "Pim",
    "Aris", "Scps", "Qnx", "AN", "IpComp", "Snp", "CompaqPeer", "IpxInIp", "Vrrp", "Pgm",
    "ZeroHop", "L2tp", "Ddx", "Iatp", "Stp", "Srp", "Uti", "Smp", "Sm", "Ptp", "IsisOverIpv4",
    "Fire", "Crtp", "Crudp", "Sscopmce", "Iplt", "Sps", "Pipe", "Sctp", "Fc", "RsvpE2eIgnore",
    "MobilityHeader", "UdpLite", "MplsInIp", "Manet", "Hip", "Shim6", "Wesp", "Rohc"]

/-- The name of a protocol. -/
def name (number : UInt8) : String :=
  if number = 253 then "Test1"
  else if number = 254 then "Test2"
  else if number = 255 then "Reserved"
  else assigned.getD number.toNat "unknown"

end PacketProtection.IpProtocol
