import TrojanRust.Proxy.Session
import TrojanRust.Proxy.Udp
import TrojanRust.Runs

/-!
# The loop of the UDP path

Every turn of the loop of `handle_udp` races a fresh read of a client frame against the next
datagram, and drops the read when the datagram wins. A read takes bytes out of the client
stream as they arrive, so the state keeps the read of the current turn, suspended between two
bytes, with the bytes that it has taken. The actions are what the environment does: bytes
arrive, the client stream ends, one of the two sides of the race is polled.
-/

namespace TrojanRust

open TrojanRust.Bytes

/-- The exits of the loop of `handle_udp`. -/
inductive UdpExit where
  /-- Nothing happened for the idle timeout. -/
  | idle
  /-- The client stream ended between two frames. -/
  | closed
  /-- The client sent no frame. -/
  | invalidFrame (fault : Fault)
  /-- A datagram could not be framed. -/
  | unframed (fault : Fault)
  /-- A frame could not be written to the client. -/
  | writeFailed (kind : ErrorKind)
  /-- The socket failed to receive. -/
  | receiveFailed (kind : ErrorKind)
  deriving DecidableEq, Repr

/-- What `handle_udp` returns at an exit. -/
def UdpExit.result : UdpExit → Result Unit
  | .idle => .ok ()
  | .closed => .ok ()
  | .invalidFrame fault => .error fault
  | .unframed fault => .error fault
  | .writeFailed kind => err (.io kind)
  | .receiveFailed kind => err (.io kind)

/-- A frame taken from the client. -/
structure TakenFrame where
  frame : UdpFrame
  /-- Where its payload was sent to, if its target was resolved and the send succeeded. -/
  sentTo : Option SocketAddr
  deriving DecidableEq, Repr

/-- A received datagram. -/
structure Datagram where
  source : SocketAddr
  payload : List UInt8
  /-- It fits the receive buffer. -/
  fits : payload.length ≤ udpBufferSize
  deriving DecidableEq, Repr

/-- `recv_from` into the receive buffer, which cuts off what does not fit. -/
def Datagram.receive (source : SocketAddr) (payload : List UInt8) : Datagram where
  source
  payload := payload.take udpBufferSize
  fits := by
    rw [List.length_take]
    exact Nat.min_le_left _ _

/-- The state of a UDP association. -/
structure UdpState where
  /-- Bytes that the client has yet to send. -/
  upcoming : List UInt8
  /-- Bytes that have arrived and that no read has taken. -/
  inbox : List UInt8
  /-- Why no further byte will arrive. -/
  ended : Option ErrorKind
  /-- The read of this turn. -/
  read : StreamReader (Option UdpFrame)
  /-- Bytes of an incomplete piece that the read has taken. -/
  held : List UInt8
  /-- All bytes that the read has taken. -/
  consumed : List UInt8
  session : Session
  /-- Bytes written to the client. -/
  written : List UInt8
  /-- Frames taken from the client so far. -/
  taken : List TakenFrame
  /-- Datagrams passed on to the client so far. -/
  received : List Datagram
  exit : Option UdpExit

/-- What the environment of the loop does. -/
inductive UdpAction where
  /-- The next bytes of the client arrive. -/
  | arrive (count : Nat)
  /-- The client stream ends; regularly only when the client has sent everything. -/
  | clientEnd (reason : ErrorKind)
  /-- The read is polled. A frame that it completes is resolved and sent with these outcomes. -/
  | pollClient (lookupHost : String → UInt16 → Except String (List SocketAddr))
      (sendTo : SocketAddr → List UInt8 → Except ErrorKind Unit)
  /-- A datagram is received, and its frame is written entirely, or in part before an error. -/
  | remote (source : SocketAddr) (payload : List UInt8)
      (writeAll : Except (ErrorKind × Nat) Unit)
  /-- The socket fails to receive. -/
  | remoteError (kind : ErrorKind)
  /-- The idle timeout expires. -/
  | idleTimeout

namespace UdpState

/-- The loop is entered with a fresh read. -/
def start (session : Session) (upcoming : List UInt8) : UdpState where
  upcoming
  inbox := []
  ended := none
  read := readUdpFrame
  held := []
  consumed := []
  session
  written := []
  taken := []
  received := []
  exit := none

/-- `handle_udp` up to its loop. -/
def bind (bindSocket : String → Except String (Except ErrorKind Unit)) (session : Session)
    (udpBindAddr : String) (upcoming : List UInt8) : Result UdpState :=
  match bindSocket udpBindAddr with
  | .error e => err (.config ("Failed to bind UDP socket on " ++ udpBindAddr ++ ": " ++ e))
  | .ok localAddr => do
    localAddr.mapError ioFault
    return start session upcoming

/-- The next turn drops the read, with the bytes that it has taken, and starts another. -/
def nextTurn (state : UdpState) : UdpState :=
  { state with read := readUdpFrame, held := [], consumed := [] }

/-- The frame is resolved and sent; a failure skips it, and success counts its payload. -/
def forward (lookupHost : String → UInt16 → Except String (List SocketAddr))
    (sendTo : SocketAddr → List UInt8 → Except ErrorKind Unit) (state : UdpState)
    (frame : UdpFrame) : UdpState :=
  match resolveTarget lookupHost frame.address with
  | .error _ => { state with taken := state.taken ++ [⟨frame, none⟩] }
  | .ok target =>
    match sendTo target frame.payload with
    | .error _ => { state with taken := state.taken ++ [⟨frame, none⟩] }
    | .ok () =>
      { state with
        taken := state.taken ++ [⟨frame, some target⟩]
        session := state.session.addSent (UInt64.ofNat frame.payload.length) }

/-- `UdpEvent::Client`. -/
def clientEvent (lookupHost : String → UInt16 → Except String (List SocketAddr))
    (sendTo : SocketAddr → List UInt8 → Except ErrorKind Unit) (state : UdpState) :
    Result (Option UdpFrame) → UdpState
  | .ok (some frame) => (state.forward lookupHost sendTo frame).nextTurn
  | .ok none => { state with exit := some .closed }
  | .error fault => { state with exit := some (.invalidFrame fault) }

/-- The read takes what has arrived, and is either ready or waits for more; when no more will
arrive it learns why. -/
def pollClient (lookupHost : String → UInt16 → Except String (List SocketAddr))
    (sendTo : SocketAddr → List UInt8 → Except ErrorKind Unit) (state : UdpState) : UdpState :=
  match state.read.feed (state.held ++ state.inbox) with
  | .ready result rest => clientEvent lookupHost sendTo { state with inbox := rest } result
  | .pending waiting held =>
    match state.ended with
    | none =>
      { state with
        read := waiting
        held
        consumed := state.consumed ++ state.inbox
        inbox := [] }
    | some reason =>
      clientEvent lookupHost sendTo { state with inbox := (waiting.run reason held).2 }
        (waiting.run reason held).1

/-- `UdpEvent::Remote(Ok(..))`. -/
def remoteEvent (state : UdpState) (datagram : Datagram)
    (writeAll : Except (ErrorKind × Nat) Unit) : UdpState :=
  match buildUdpFrame datagram.source datagram.payload with
  | .error fault => { state with exit := some (.unframed fault) }
  | .ok frame =>
    match writeAll with
    | .error (kind, count) =>
      { state with
        written := state.written ++ frame.take count
        exit := some (.writeFailed kind) }
    | .ok () =>
      nextTurn { state with
        written := state.written ++ frame
        received := state.received ++ [datagram]
        session := state.session.addReceived (UInt64.ofNat datagram.payload.length) }

/-- One action of the environment, and what the loop does then. -/
def step (state : UdpState) (action : UdpAction) : Option UdpState :=
  if state.exit.isSome then none
  else
    match action with
    | .arrive count =>
      if state.ended.isSome then none
      else some { state with
        inbox := state.inbox ++ state.upcoming.take count
        upcoming := state.upcoming.drop count }
    | .clientEnd reason =>
      if state.ended.isSome ∨ (reason = .unexpectedEof ∧ state.upcoming ≠ []) then none
      else some { state with ended := some reason }
    | .pollClient lookupHost sendTo => some (state.pollClient lookupHost sendTo)
    | .remote source payload writeAll =>
      some (state.remoteEvent (.receive source payload) writeAll)
    | .remoteError kind => some { state with exit := some (.receiveFailed kind) }
    | .idleTimeout => some { state with exit := some .idle }

end UdpState

end TrojanRust
