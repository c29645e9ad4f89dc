import TrojanRust.Net.Endpoint
import TrojanRust.Proxy.Session

/-!
# The TCP path

`handle_tcp` connects to the target, relays between it and the client, and counts what was
relayed. A domain is connected to by a text that its host and port are printed into, and that the
standard library takes apart again.
-/

namespace TrojanRust

/-- What `TcpStream::connect` is asked for: an address, or a text of host and port. -/
inductive ConnectTarget where
  | addr (addr : SocketAddr)
  | text (hostPort : String)
  deriving DecidableEq, Repr

/-- What a target address is connected by. -/
def Address.connectTarget : Address → ConnectTarget
  | .ipv4 addr => .addr addr
  | .ipv6 addr => .addr addr
  | .domain name port => .text (name ++ ":" ++ toString port.toNat)

/-- `ToSocketAddrs` of what is connected to, up to the resolver. -/
def ConnectTarget.endpoint : ConnectTarget → Except String Endpoint
  | .addr target => .ok (.literal target)
  | .text hostPort => Endpoint.ofText hostPort

/-- The network under `handle_tcp`. -/
structure TcpNetwork where
  resolver : Resolver
  /-- Whether an address accepts the connection. -/
  connectAddr : SocketAddr → Except String Unit
  /-- Whether `connect_timeout` passes before the connection is there. -/
  expires : Bool
  /-- `relay` between the client and the address that accepted. -/
  relay : SocketAddr → Result (UInt64 × UInt64)

namespace TcpNetwork

/-- The loop of `TcpStream::connect`: the addresses are tried in order, and the last of their
errors is kept. -/
def connectAddrs (network : TcpNetwork) :
    Option String → List SocketAddr → Except String SocketAddr
  | lastErr, [] => .error (lastErr.getD "could not resolve to any address")
  | _, addr :: addrs =>
    match network.connectAddr addr with
    | .ok () => .ok addr
    | .error e => connectAddrs network (some e) addrs

/-- `TcpStream::connect`: the address that accepted. -/
def connect (network : TcpNetwork) (target : ConnectTarget) : Except String SocketAddr := do
  let endpoint ← target.endpoint
  let addrs ← endpoint.addrs network.resolver
  network.connectAddrs none addrs

end TcpNetwork

/-- `handle_tcp`, with the session as it is left behind. -/
def handleTcp (network : TcpNetwork) (target : Address) (session : Session) :
    Result Unit × Session :=
  if network.expires then (err .timeout, session)
  else
    match network.connect target.connectTarget with
    | .error e => (err (.remoteConnectFailed e), session)
    | .ok addr =>
      match network.relay addr with
      | .error fault => (.error fault, session)
      | .ok (upstream, downstream) =>
        (.ok (), (session.addSent upstream).addReceived downstream)

/-- A connection that failed is counted nowhere. -/
theorem handleTcp_error {network : TcpNetwork} {target : Address} {session next : Session}
    {fault : Fault} (failed : handleTcp network target session = (.error fault, next)) :
    next = session := by
  unfold handleTcp at failed
  split at failed
  · cases failed
    rfl
  · split at failed
    · cases failed
      rfl
    · split at failed
      · cases failed
        rfl
      · cases failed

end TrojanRust
