import TrojanRust.Protocol.Address

/-!
# Sessions

A session records whom a connection serves and how many bytes it carried. The counters wrap
around at their width, as `fetch_add` does.
-/

namespace TrojanRust

/-- `Session`. -/
structure Session where
  clientAddr : SocketAddr
  target : Address
  command : Command
  bytesSent : UInt64
  bytesReceived : UInt64
  deriving DecidableEq, Repr

namespace Session

/-- `Session::new`. -/
def new (clientAddr : SocketAddr) (target : Address) (command : Command) : Session where
  clientAddr
  target
  command
  bytesSent := 0
  bytesReceived := 0

/-- `Session::add_sent`. -/
def addSent (session : Session) (bytes : UInt64) : Session :=
  { session with bytesSent := session.bytesSent + bytes }

/-- `Session::add_received`. -/
def addReceived (session : Session) (bytes : UInt64) : Session :=
  { session with bytesReceived := session.bytesReceived + bytes }

end Session

end TrojanRust
