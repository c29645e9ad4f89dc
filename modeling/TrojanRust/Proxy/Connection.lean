import TrojanRust.Proxy.Tcp
import TrojanRust.Proxy.UdpLoop
import TrojanRust.Reality.Splice
import TrojanRust.Server

/-!
# The task of a connection

The task that the accept loop spawns for a connection goes through stages: the TLS handshake, the
turns of the peeking loop, and then the calls of the handler that the connection is handed over
to. Every await of the source is the end of a stage or a turn of one, so that the tasks of other
connections may run there. The actions say what the environment answers at an await.
-/

namespace TrojanRust

open TrojanRust.Bytes

/-- Where the task of a connection is, and what it holds there. -/
inductive Stage where
  /-- At `accept` of the TLS handshake. -/
  | handshake (stream : ClientStream)
  /-- At the read of the peeking loop. -/
  | peeking (stream : ClientStream) (peeked : List UInt8)
  /-- In `handle_fallback`, at `TcpStream::connect`. -/
  | fallbackConnecting (stream : ClientStream) (peeked : List UInt8) (fallbackAddr : String)
  /-- In `handle_fallback`, at `write_all`, which has written some of the peeked bytes. -/
  | replaying (stream : ClientStream) (written left : List UInt8)
  /-- In `handle_fallback`, at `copy_bidirectional`. -/
  | fallbackRelaying (replayed : List UInt8) (copies : Duplex UInt8)
  /-- In `handle_tcp`, at `TcpStream::connect` under its timeout. -/
  | connecting (stream : PrefixedStream ClientStream) (target : Address) (session : Session)
      (connectTimeout : UInt64)
  /-- In `handle_tcp`, at `relay`. -/
  | relaying (remote : SocketAddr) (session : Session) (copies : Duplex UInt8)
  /-- In `handle_udp`, at `UdpSocket::bind`. -/
  | binding (stream : PrefixedStream ClientStream) (session : Session) (udpTimeout : UInt64)
      (udpBindAddr : String)
  /-- In the loop of `handle_udp`. -/
  | associated (state : UdpState)

/-- How the task of a connection ends. -/
inductive TaskExit where
  /-- The TLS handshake failed. -/
  | tlsFailed
  /-- `handle_connection` returned. -/
  | returned (result : Result Unit)
  deriving DecidableEq

/-- The task of a connection. -/
structure Connection where
  peerAddr : SocketAddr
  /-- Where the task is, or where it has ended. -/
  stage : Stage
  exit : Option TaskExit

/-- What the environment answers to the task of a connection. -/
inductive ConnectionAction where
  | tlsAccepted
  | tlsFailed
  /-- The read of the peeking loop returns. -/
  | peek
  /-- `TcpStream::connect` to the fallback returns. -/
  | fallbackConnect (answer : Except String Unit)
  /-- `write_all` writes some of the peeked bytes. -/
  | replay (count : Nat)
  /-- `write_all` fails. -/
  | replayFailed (kind : ErrorKind)
  /-- `TcpStream::connect` to the target, or its timeout, is answered by a network. -/
  | connect (network : TcpNetwork)
  /-- A peer or a copy does something under `copy_bidirectional`. -/
  | copy (action : DuplexAction UInt8)
  /-- `copy_bidirectional` returns; a copy that failed has failed with this error. -/
  | copied (kind : Side → ErrorKind)
  /-- `UdpSocket::bind` and `local_addr` return. -/
  | bind (bindSocket : String → Except String (Except ErrorKind Unit))
  /-- One action of the environment of the UDP loop. -/
  | udp (action : UdpAction)

/-- The two copies of `copy_bidirectional` when it is called. The client on the left sends these
bytes in all; how they arrive is left to the reads. -/
def copiesFrom (upcoming : List UInt8) : Duplex UInt8 :=
  Duplex.start.setLane .left (Lane.start.send upcoming rfl)

/-- Everything that the client sends is in the left lane already. -/
def SendsNoMore : DuplexAction UInt8 → Prop
  | .send .left _ => False
  | _ => True

/-- Whether the client sends more is decided by the action. -/
instance (action : DuplexAction UInt8) : Decidable (SendsNoMore action) :=
  match action with
  | .send .left _ => inferInstanceAs (Decidable False)
  | .send .right _ => inferInstanceAs (Decidable True)
  | .close _ => inferInstanceAs (Decidable True)
  | .read _ _ => inferInstanceAs (Decidable True)
  | .deliver _ _ => inferInstanceAs (Decidable True)
  | .finish _ => inferInstanceAs (Decidable True)
  | .fail _ => inferInstanceAs (Decidable True)

/-- One action under `copy_bidirectional`. -/
def stepCopies (copies : Duplex UInt8) (action : DuplexAction UInt8) : Option (Duplex UInt8) :=
  if SendsNoMore action then Duplex.step relay copies action else none

/-- Everything that is read of a client stream behind what is left of a header. -/
def PrefixedStream.upcoming (stream : PrefixedStream ClientStream) : List UInt8 :=
  (PrefixedStream.source ClientStream.source).remaining stream

namespace Connection

/-- A connection is spawned into its handshake. -/
def start (peerAddr : SocketAddr) (stream : ClientStream) : Connection where
  peerAddr
  stage := .handshake stream
  exit := none

/-- The task goes on to a stage. -/
def goOn (stage : Stage) (state : Connection) : Connection := { state with stage }

/-- `handle_connection` returns. -/
def leave (result : Result Unit) (state : Connection) : Connection :=
  { state with exit := some (.returned result) }

/-- The handler that the connection is handed over to is called. -/
def call (state : Connection) : Result Dispatch → Connection
  | .error fault => state.leave (.error fault)
  | .ok .dropped => state.leave (.ok ())
  | .ok (.fallback stream peeked fallbackAddr) =>
    state.goOn (.fallbackConnecting stream peeked fallbackAddr)
  | .ok (.tcp stream target session connectTimeout) =>
    state.goOn (.connecting stream target session connectTimeout)
  | .ok (.udp stream session udpTimeout udpBindAddr) =>
    state.goOn (.binding stream session udpTimeout udpBindAddr)

/-- The read of the peeking loop has returned. -/
def peek (config : Config) (state : Connection) (stream : ClientStream) (peeked : List UInt8) :
    Connection :=
  match peekTurn config stream peeked with
  | .goesOn stream peeked => state.goOn (.peeking stream peeked)
  | .ends outcome => state.call (outcome >>= handOver config state.peerAddr)

/-- `TcpStream::connect` to the fallback has returned. -/
def fallbackConnect (state : Connection) (stream : ClientStream) (peeked : List UInt8)
    (fallbackAddr : String) : Except String Unit → Connection
  | .error e =>
    state.leave (err (.remoteConnectFailed ("fallback " ++ fallbackAddr ++ ": " ++ e)))
  | .ok () =>
    if peeked.isEmpty then state.goOn (.fallbackRelaying peeked (copiesFrom stream.bytes))
    else state.goOn (.replaying stream [] peeked)

/-- `write_all` has written some of the peeked bytes. -/
def replay (state : Connection) (stream : ClientStream) (written left : List UInt8)
    (count : Nat) : Connection :=
  if (left.drop count).isEmpty then
    state.goOn (.fallbackRelaying (written ++ left.take count) (copiesFrom stream.bytes))
  else state.goOn (.replaying stream (written ++ left.take count) (left.drop count))

/-- `TcpStream::connect` to the target has returned, or its timeout has expired. -/
def connect (state : Connection) (stream : PrefixedStream ClientStream) (target : Address)
    (session : Session) (network : TcpNetwork) : Connection :=
  if network.expires then state.leave (err .timeout)
  else
    match network.connect target.connectTarget with
    | .error e => state.leave (err (.remoteConnectFailed e))
    | .ok remote => state.goOn (.relaying remote session (copiesFrom stream.upcoming))

/-- `copy_bidirectional` of `handle_fallback` has returned. -/
def fallbackCopied (state : Connection) (result : Result (UInt64 × UInt64)) : Connection :=
  state.leave (result.map fun _ => ())

/-- `relay` of `handle_tcp` has returned. -/
def copied (state : Connection) (remote : SocketAddr) (session : Session)
    (copies : Duplex UInt8) : Result (UInt64 × UInt64) → Connection
  | .error fault => state.leave (.error fault)
  | .ok (upstream, downstream) =>
    (state.goOn (.relaying remote ((session.addSent upstream).addReceived downstream)
      copies)).leave (.ok ())

/-- `UdpSocket::bind` and `local_addr` have returned. -/
def bind (state : Connection) (stream : PrefixedStream ClientStream) (session : Session)
    (udpBindAddr : String) (bindSocket : String → Except String (Except ErrorKind Unit)) :
    Connection :=
  match UdpState.bind bindSocket session udpBindAddr stream.upcoming with
  | .error fault => state.leave (.error fault)
  | .ok entered => state.goOn (.associated entered)

/-- The loop of `handle_udp` has taken a turn, and returns at its exits. -/
def associate (state : Connection) (next : UdpState) : Connection :=
  match next.exit with
  | none => state.goOn (.associated next)
  | some exit => (state.goOn (.associated next)).leave exit.result

/-- One action of the environment, and what the task does then. -/
def step (config : Config) (state : Connection) (action : ConnectionAction) :
    Option Connection :=
  if state.exit.isSome then none
  else
    match state.stage, action with
    | .handshake stream, .tlsAccepted => some (state.goOn (.peeking stream []))
    | .handshake _, .tlsFailed => some { state with exit := some .tlsFailed }
    | .peeking stream peeked, .peek => some (state.peek config stream peeked)
    | .fallbackConnecting stream peeked fallbackAddr, .fallbackConnect answer =>
      some (state.fallbackConnect stream peeked fallbackAddr answer)
    | .replaying stream written left, .replay count =>
      if 0 < count ∧ count ≤ left.length then some (state.replay stream written left count)
      else none
    | .replaying _ _ _, .replayFailed kind => some (state.leave (err (.io kind)))
    | .fallbackRelaying replayed copies, .copy action =>
      (stepCopies copies action).map fun next => state.goOn (.fallbackRelaying replayed next)
    | .fallbackRelaying _ copies, .copied kind =>
      (relayResult kind copies).map state.fallbackCopied
    | .connecting stream target session _, .connect network =>
      some (state.connect stream target session network)
    | .relaying remote session copies, .copy action =>
      (stepCopies copies action).map fun next => state.goOn (.relaying remote session next)
    | .relaying remote session copies, .copied kind =>
      (relayResult kind copies).map (state.copied remote session copies)
    | .binding stream session _ udpBindAddr, .bind bindSocket =>
      some (state.bind stream session udpBindAddr bindSocket)
    | .associated current, .udp action => (current.step action).map state.associate
    | _, _ => none

end Connection

end TrojanRust
