import TrojanRust.Codec.AddressLaws
import TrojanRust.Codec.UdpFrame
import TrojanRust.Codec.HeaderProspect
import TrojanRust.Accept
import TrojanRust.Startup
import TrojanRust.Reality.StateMachine
import TrojanRust.Proxy.Session
import TrojanRust.Dispatch
import TrojanRust.UdpDownlink
import TrojanRust.Codec.VisionIntegrity
import TrojanRust.Codec.VisionClock
import TrojanRust.Peeking
import TrojanRust.Authentication
import TrojanRust.Bytes.Duplex
import TrojanRust.Reality.Splice
import TrojanRust.Splicing
import TrojanRust.SpliceAccounts
import TrojanRust.Replaying
import TrojanRust.Bytes.TextReader
import TrojanRust.Net.AddrParserLaws
import TrojanRust.Net.Endpoint
import TrojanRust.Dialing
import TrojanRust.Handover
import TrojanRust.Connections
import TrojanRust.Custody
import TrojanRust.Outcomes
import TrojanRust.NoPanics
import TrojanRust.RunningServer
import TrojanRust.Net.AddrDisplay
import TrojanRust.AddressText
import TrojanRust.Reality.DirectMode
import TrojanRust.DirectForwarding
import TrojanRust.VisionPackets
import TrojanRust.Draining
import TrojanRust.Bytes.Excerpts
import TrojanRust.UdpExcerpts
import TrojanRust.Passwords
import TrojanRust.SessionIds
