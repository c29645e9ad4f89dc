import TrojanRust.Proxy.Connection
import TrojanRust.Reality.StateMachine

/-!
# Forwarding an authenticated connection

`handle_authenticated_connection` takes the stream and the result of an authenticated machine. A
connect request is connected to its target under a timeout and forwarded by `tcp_splice`; a UDP
request is refused before anything is connected to. The actions say what the environment answers
at each await, as for the task of a connection.
-/

namespace TrojanRust

open TrojanRust.Bytes

/-- Where `handle_authenticated_connection` is, and what it holds there. -/
inductive DirectStage where
  /-- At its entry. -/
  | entered (stream : PositionedStream) (command : Command) (address : Address)
  /-- At `TcpStream::connect` under its timeout. -/
  | connecting (stream : PositionedStream) (target : ConnectTarget)
  /-- At `tcp_splice`. -/
  | splicing (target : ConnectTarget) (copies : Duplex UInt8)

/-- A call of `handle_authenticated_connection`. -/
structure DirectTask where
  /-- Where the call is, or where it has returned. -/
  stage : DirectStage
  exit : Option (Result Unit)

/-- What the environment answers to the call. -/
inductive DirectAction where
  /-- The call is polled for the first time. -/
  | enter
  /-- `TcpStream::connect` returns, or its timeout expires. -/
  | connect (answer : Option (Except ErrorKind Unit))
  /-- A peer or a copy does something under `tcp_splice`. -/
  | copy (action : DuplexAction UInt8)
  /-- Both copies are joined; a copy that failed has failed with this error. -/
  | joined (kind : Side → ErrorKind)

/-- One action under `tcp_splice`, where the client on the left has sent everything already. -/
def stepSplice (copies : Duplex UInt8) (action : DuplexAction UInt8) : Option (Duplex UInt8) :=
  if SendsNoMore action then Duplex.step tcpSplice copies action else none

namespace DirectTask

/-- The function is called. -/
def start (stream : PositionedStream) (command : Command) (address : Address) : DirectTask where
  stage := .entered stream command address
  exit := none

/-- The function goes on to an await. -/
def goOn (stage : DirectStage) (task : DirectTask) : DirectTask := { task with stage }

/-- The function returns. -/
def leave (result : Result Unit) (task : DirectTask) : DirectTask :=
  { task with exit := some result }

/-- The match on the command. -/
def enter (stream : PositionedStream) (address : Address) (task : DirectTask) :
    Command → DirectTask
  | .connect => task.goOn (.connecting stream address.connectTarget)
  | .udpAssociate => task.leave (err (.protocol "UDP not supported in direct mode"))

/-- `TcpStream::connect` has returned, or its timeout has expired. -/
def connect (stream : PositionedStream) (target : ConnectTarget) (task : DirectTask) :
    Option (Except ErrorKind Unit) → DirectTask
  | none => task.leave (err .timeout)
  | some (.error kind) => task.leave (err (.io kind))
  | some (.ok ()) => task.goOn (.splicing target (copiesFrom stream.remaining))

/-- One action of the environment, and what `handle_authenticated_connection` does then. -/
def step (profile : BuildProfile) (task : DirectTask) (action : DirectAction) :
    Option DirectTask :=
  if task.exit.isSome then none
  else
    match task.stage, action with
    | .entered stream command address, .enter => some (task.enter stream address command)
    | .connecting stream target, .connect answer => some (task.connect stream target answer)
    | .splicing target copies, .copy action =>
      (stepSplice copies action).map fun next => task.goOn (.splicing target next)
    | .splicing _ copies, .joined kind =>
      (tcpSpliceResult profile kind copies).map fun result => task.leave (result.map fun _ => ())
    | _, _ => none

end DirectTask

end TrojanRust
