import XdpTutorial.Packet.Bytes
import XdpTutorial.Packet.Context
import XdpTutorial.Common.ParsingHelpers
import XdpTutorial.Packet01.Parser
import XdpTutorial.Packet02.PortRewrite
import XdpTutorial.Packet02.Vlan
import XdpTutorial.Packet02.Parser
import XdpTutorial.Solutions.IcmpEcho
import XdpTutorial.Solutions.Vlan
import XdpTutorial.Spec.VlanTag
import XdpTutorial.Solutions.Router
import XdpTutorial.Spec.Router
import XdpTutorial.Spec.Checksum
import XdpTutorial.Spec.IcmpEcho
import XdpTutorial.Spec.Safety
import XdpTutorial.Spec.Ethhdr
import XdpTutorial.Spec.TtlChecksum
import XdpTutorial.Spec.RouterPath
import XdpTutorial.Spec.EchoParser
import XdpTutorial.Spec.ByteOrder
import XdpTutorial.Spec.EchoReply
import XdpTutorial.Spec.PortRewrite
import XdpTutorial.Spec.RouterLookup
import XdpTutorial.Spec.FirstParser
import XdpTutorial.Spec.GetIcmp6
import XdpTutorial.Spec.VlanSwap
import XdpTutorial.Spec.PortChain
import XdpTutorial.Spec.EchoBytes
import XdpTutorial.Spec.FrameVerdict
import XdpTutorial.Spec.SwapVerdict
import XdpTutorial.Spec.EchoFilter
