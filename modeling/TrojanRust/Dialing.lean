import TrojanRust.Proxy.Tcp
import TrojanRust.Proxy.Udp

/-!
# The target of a connection and of a datagram

A domain with its port is connected to as one text, and looked up as a pair. Both mean the same
host and port except when the domain is an IPv6 address in square brackets: the text is then a
socket address, and the pair is a name that contains the brackets.
-/

namespace TrojanRust

open TrojanRust.Bytes

/-- `lookup_host` of a pair. -/
def lookupHost (resolver : Resolver) (domain : String) (port : UInt16) :
    Except String (List SocketAddr) :=
  (Endpoint.ofHost (asBytes domain) port).addrs resolver

namespace Address

/-- What `resolve_target` looks up. -/
def lookupTarget : Address → Endpoint
  | .ipv4 addr => .literal addr
  | .ipv6 addr => .literal addr
  | .domain name port => .ofHost (asBytes name) port

/-- A domain that is an IPv6 address in square brackets. -/
def Bracketed : Address → Prop
  | .domain name _ => ∃ ip scope, Brackets (asBytes name) ip scope
  | _ => False

end Address

/-- A datagram is sent to the first address that the target has. -/
theorem resolveTarget_eq_ok {resolver : Resolver} {address : Address} {addr : SocketAddr} :
    resolveTarget (lookupHost resolver) address = .ok addr ↔
      ∃ others, address.lookupTarget.addrs resolver = .ok (addr :: others) := by
  cases address with
  | ipv4 target => simp [resolveTarget, Address.lookupTarget, Endpoint.addrs]
  | ipv6 target => simp [resolveTarget, Address.lookupTarget, Endpoint.addrs]
  | domain name port =>
    show resolveTarget _ _ = _ ↔ ∃ others, lookupHost resolver name port = .ok (addr :: others)
    cases looked : lookupHost resolver name port with
    | error e => simp [resolveTarget, looked, err]
    | ok addrs =>
      cases addrs with
      | nil => simp [resolveTarget, looked, err]
      | cons first others => simp [resolveTarget, looked]

namespace Address

/-- A target that is not bracketed is connected to as it is looked up. -/
theorem connectTarget_endpoint {address : Address} (plain : ¬ address.Bracketed) :
    address.connectTarget.endpoint = .ok address.lookupTarget := by
  cases address with
  | ipv4 addr => rfl
  | ipv6 addr => rfl
  | domain name port => exact Endpoint.ofText_hostPort plain port

/-- A bracketed target is connected to as an address, and looked up as a name. -/
theorem Bracketed.endpoints {address : Address} (bracketed : address.Bracketed) :
    ∃ addr host port, address.connectTarget.endpoint = .ok (.literal addr) ∧
      address.lookupTarget = .name host port ∧ addr.port = port := by
  cases address with
  | ipv4 addr => contradiction
  | ipv6 addr => contradiction
  | domain name port =>
    have ⟨ip, scope, brackets⟩ := bracketed
    exact ⟨.v6 ip port 0 scope, asBytes name, port, Endpoint.ofText_brackets brackets port,
      Endpoint.ofHost_brackets brackets port, rfl⟩

/-- Both paths ask for the port of the domain, in brackets or not. -/
theorem domain_port (name : String) (port : UInt16) :
    (∃ endpoint, (domain name port).connectTarget.endpoint = .ok endpoint ∧
      endpoint.port = port) ∧ (domain name port).lookupTarget.port = port := by
  have lookedUp : (domain name port).lookupTarget.port = port := Endpoint.ofHost_port _ port
  by_cases bracketed : (domain name port).Bracketed
  · have ⟨addr, host, found, connected, named, same⟩ := bracketed.endpoints
    have samePort : addr.port = port := by
      rw [named] at lookedUp
      exact same.trans lookedUp
    exact ⟨⟨.literal addr, connected, samePort⟩, lookedUp⟩
  · exact ⟨⟨_, connectTarget_endpoint bracketed, lookedUp⟩, lookedUp⟩

/-- The two paths ask for the same host and port of exactly the targets that are not bracketed. -/
theorem dials_alike_iff (address : Address) :
    address.connectTarget.endpoint = .ok address.lookupTarget ↔ ¬ address.Bracketed := by
  constructor
  · intro same bracketed
    have ⟨addr, host, port, connected, lookedUp, _⟩ := bracketed.endpoints
    rw [connected, lookedUp] at same
    cases same
  · exact connectTarget_endpoint

/-- The loopback address in brackets is decoded as a domain. A connection goes to the loopback
interface, and a datagram to whatever the name is known as. -/
theorem dials_alike_fails :
    parseFromBuf [0x03, 5, 0x5b, 0x3a, 0x3a, 0x31, 0x5d, 0, 80] =
        .ok (.domain "[::1]" 80, some 9) ∧
      (domain "[::1]" 80).connectTarget.endpoint =
        .ok (.literal (.v6 (.new 0 0 0 0 0 0 0 1) 80 0 0)) ∧
      (domain "[::1]" 80).lookupTarget = .name (asBytes "[::1]") 80 ∧
      (domain "[::1]" 80).connectTarget.endpoint ≠ .ok (domain "[::1]" 80).lookupTarget := by
  decide +kernel

end Address

/-- A connection tries the addresses of the target in their order, as a datagram would. -/
theorem TcpNetwork.connect_eq (network : TcpNetwork) {address : Address}
    (plain : ¬ address.Bracketed) : network.connect address.connectTarget =
      (address.lookupTarget.addrs network.resolver >>= network.connectAddrs none) := by
  rw [connect, Address.connectTarget_endpoint plain]
  rfl

/-- Where a datagram is sent to is where a connection goes, when it is accepted there. -/
theorem TcpNetwork.connect_resolveTarget (network : TcpNetwork) {address : Address}
    {addr : SocketAddr} (plain : ¬ address.Bracketed)
    (resolved : resolveTarget (lookupHost network.resolver) address = .ok addr)
    (accepts : network.connectAddr addr = .ok ()) :
    network.connect address.connectTarget = .ok addr := by
  have ⟨others, addrs⟩ := resolveTarget_eq_ok.mp resolved
  rw [network.connect_eq plain, addrs]
  show network.connectAddrs none (addr :: others) = _
  rw [connectAddrs, accepts]

/-- So the bytes of a session are relayed with the address that its datagrams would be sent to. -/
theorem handleTcp_relays {network : TcpNetwork} {address : Address} {addr : SocketAddr}
    {upstream downstream : UInt64} (plain : ¬ address.Bracketed)
    (inTime : network.expires = false)
    (resolved : resolveTarget (lookupHost network.resolver) address = .ok addr)
    (accepts : network.connectAddr addr = .ok ())
    (relayed : network.relay addr = .ok (upstream, downstream)) (session : Session) :
    handleTcp network address session =
      (.ok (), (session.addSent upstream).addReceived downstream) := by
  have connected := network.connect_resolveTarget plain resolved accepts
  have running : ¬ network.expires = true := by
    rw [inTime]
    decide
  rw [handleTcp, if_neg running, connected]
  dsimp only
  rw [relayed]

end TrojanRust
