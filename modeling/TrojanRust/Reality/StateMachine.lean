import TrojanRust.Proxy.Tcp
import TrojanRust.Reality.Vision
import TrojanRust.Runs

/-!
# The connection state machine

A machine owns a client stream, authenticates it once, and gives it up for forwarding. Every
transition takes the machine and gives one back only on success, so what the caller can hold is
part of the state: a machine, what a machine was turned into, or nothing after an error.
-/

namespace TrojanRust

open TrojanRust.Bytes

/-- A client stream together with what has been read of it. -/
structure PositionedStream where
  consumed : List UInt8
  remaining : List UInt8
  /-- Why a read fails that needs more than what remains. -/
  ending : ErrorKind
  deriving DecidableEq, Repr

namespace PositionedStream

/-- Run a reader on the stream. -/
def read {α : Type} (reader : StreamReader α) (stream : PositionedStream) :
    Result α × PositionedStream :=
  let (result, rest) := reader.run stream.ending stream.remaining
  let taken := stream.remaining.take (stream.remaining.length - rest.length)
  (result, { stream with consumed := stream.consumed ++ taken, remaining := rest })

/-- A read that was abandoned after so many bytes. -/
def abandon (count : Nat) (stream : PositionedStream) : PositionedStream :=
  { stream with
    consumed := stream.consumed ++ stream.remaining.take count
    remaining := stream.remaining.drop count }

end PositionedStream

/-- The check of `VisionProtocol::authenticate` on a request that was read. -/
def VisionProtocol.accept (validPasswords : List String) (authRequest : VisionAuthRequest) :
    Result (Command × Address) :=
  match fromUtf8 authRequest.passwordHash.toList with
  | none => err (.protocol "Invalid Vision password hash encoding")
  | some passwordHash =>
    if ¬ validPasswords.any fun candidate =>
        eqIgnoreAsciiCase (asBytes candidate) (asBytes passwordHash) then
      err .authenticationFailed
    else return (authRequest.command, authRequest.address)

/-- `VisionProtocol::authenticate`. The timeout may expire after some bytes of the request. -/
def VisionProtocol.authenticate (env : VisionEnv) (timeout : Option Nat)
    (validPasswords : List String) (stream : PositionedStream) :
    Result (Command × Address) × PositionedStream :=
  match timeout with
  | some count => (err .timeout, stream.abandon count)
  | none =>
    let (authRequest, stream) := stream.read (VisionAuthRequest.readFrom env)
    (authRequest >>= VisionProtocol.accept validPasswords, stream)

/-- `ConnectionState`. -/
inductive ConnectionState where
  | handshake
  | authenticating
  | authenticated
  | forwarding
  | fallback
  | closed
  deriving DecidableEq, Repr

/-- `ConnectionStateMachine`. -/
structure ConnectionStateMachine (S : Type) where
  stream : Option S
  state : ConnectionState
  authResult : Option (Command × Address)
  fallbackAddress : Option Address
  deriving DecidableEq, Repr

namespace ConnectionStateMachine

variable {S R : Type}

/-- `ConnectionStateMachine::new`. -/
def new (stream : S) : ConnectionStateMachine S where
  stream := some stream
  state := .handshake
  authResult := none
  fallbackAddress := none

/-- `ConnectionStateMachine::set_fallback`. -/
def setFallback (address : Address) (machine : ConnectionStateMachine S) :
    ConnectionStateMachine S :=
  { machine with fallbackAddress := some address }

/-- `ConnectionStateMachine::into_stream`. -/
def intoStream (machine : ConnectionStateMachine S) : Option S := machine.stream

/-- `ConnectionStateMachine::get_auth_result`. -/
def getAuthResult (machine : ConnectionStateMachine S) : Option (Command × Address) :=
  machine.authResult

/-- `ConnectionStateMachine::transition_to_authenticating`. Beside an error stands the machine
that is dropped with it. -/
def transitionToAuthenticating (env : VisionEnv) (timeout : Option Nat)
    (passwords : List String) (machine : ConnectionStateMachine PositionedStream) :
    Except (Fault × ConnectionStateMachine PositionedStream)
      (ConnectionStateMachine PositionedStream) :=
  if machine.state ≠ .handshake then
    .error (.err (.protocol "Invalid state transition"), machine)
  else
    match machine.stream with
    | none => .error (.err (.protocol "Missing stream in state machine"), machine)
    | some stream =>
      match VisionProtocol.authenticate env timeout passwords stream with
      | (.ok authResult, stream) =>
        .ok { machine with
          stream := some stream
          state := .authenticated
          authResult := some authResult }
      | (.error .panic, _) => .error (.panic, { machine with stream := none })
      | (.error fault, stream) =>
        .error (fault, { machine with
          stream := some stream
          state := if machine.fallbackAddress.isSome then .fallback else .closed })

/-- `ConnectionStateMachine::transition_to_forwarding`. The connection to the target times out,
fails or gives a remote stream. -/
def transitionToForwarding (connect : ConnectTarget → Option (Except ErrorKind R))
    (targetAddress : Address) (machine : ConnectionStateMachine S) : Result (S × R) :=
  if machine.state ≠ .authenticated then
    err (.protocol "Cannot forward without authentication")
  else
    match machine.stream with
    | none => err (.protocol "Missing stream in authenticated state")
    | some stream =>
      match connect targetAddress.connectTarget with
      | none => err .timeout
      | some (.error kind) => err (.io kind)
      | some (.ok remote) => return (stream, remote)

end ConnectionStateMachine

/-- What the caller holds of a machine after some operations on it. -/
inductive Held (R : Type) where
  | owned (machine : ConnectionStateMachine PositionedStream)
  /-- The result of `into_stream`. -/
  | unwrapped (stream : Option PositionedStream)
  /-- The result of `transition_to_forwarding`. -/
  | forwarding (stream : PositionedStream) (remote : R)
  /-- Only an error: the machine has been dropped. -/
  | dropped (fault : Fault)
  deriving DecidableEq, Repr

/-- A public operation on a machine. -/
inductive MachineAction (R : Type) where
  | setFallback (address : Address)
  | getAuthResult
  | authenticate (env : VisionEnv) (timeout : Option Nat) (passwords : List String)
  | intoStream
  | forward (connect : ConnectTarget → Option (Except ErrorKind R)) (targetAddress : Address)

namespace Held

variable {R : Type}

/-- The caller performs an operation. Only on a machine is there any. -/
def step : Held R → MachineAction R → Option (Held R)
  | .owned machine, .setFallback address => some (.owned (machine.setFallback address))
  | .owned machine, .getAuthResult => some (.owned machine)
  | .owned machine, .authenticate env timeout passwords =>
    match machine.transitionToAuthenticating env timeout passwords with
    | .ok machine => some (.owned machine)
    | .error (fault, _) => some (.dropped fault)
  | .owned machine, .intoStream => some (.unwrapped machine.intoStream)
  | .owned machine, .forward connect targetAddress =>
    match machine.transitionToForwarding connect targetAddress with
    | .ok (stream, remote) => some (.forwarding stream remote)
    | .error fault => some (.dropped fault)
  | _, _ => none

end Held

end TrojanRust
