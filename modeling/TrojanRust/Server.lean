import TrojanRust.Config
import TrojanRust.Protocol.Header
import TrojanRust.Proxy.Fallback
import TrojanRust.Proxy.Session

/-!
# Connection dispatch

`handleConnection` peeks at a client stream, turn by turn until the header parser has decided, and
hands the connection over: to the TCP or UDP path with a stream that starts behind the header, or
to the fallback with everything that was read.
-/

namespace TrojanRust

open TrojanRust.Bytes

/-- How the peeking loop of `handle_connection` ends. -/
inductive Peeked where
  /-- The client closed without sending anything. -/
  | dropped
  /-- The connection goes to the fallback. -/
  | fallback (stream : ClientStream) (peeked : List UInt8)
  /-- A header with a known password was parsed. -/
  | header (header : Header) (stream : ClientStream) (peeked : List UInt8)

/-- Where a connection is handed over to, with the arguments of the call. -/
inductive Dispatch where
  /-- No call at all. -/
  | dropped
  /-- `handle_fallback`. -/
  | fallback (clientStream : ClientStream) (peekedBuf : List UInt8) (fallbackAddr : String)
  /-- `handle_tcp`, with the connect timeout in seconds. -/
  | tcp (clientStream : PrefixedStream ClientStream) (target : Address) (session : Session)
      (connectTimeout : UInt64)
  /-- `handle_udp`, with the idle timeout in seconds. -/
  | udp (clientStream : PrefixedStream ClientStream) (session : Session) (udpTimeout : UInt64)
      (udpBindAddr : String)

/-- How a turn of the peeking loop ends. -/
inductive PeekTurn where
  /-- The loop ends. -/
  | ends (outcome : Result Peeked)
  /-- The parser asks for more. -/
  | goesOn (stream : ClientStream) (peeked : List UInt8)

/-- One turn of the peeking loop of `handle_connection`. -/
def peekTurn (config : Config) (stream : ClientStream) (peeked : List UInt8) : PeekTurn :=
  if peekSize ≤ peeked.length then .ends (.ok (.fallback stream peeked))
  else
    match peekClientData stream (peekSize - peeked.length) with
    | (.error fault, _) => .ends (.error fault)
    | (.ok chunk, stream) =>
      if chunk.isEmpty then
        if peeked.isEmpty then .ends (.ok .dropped) else .ends (.ok (.fallback stream peeked))
      else
        match Header.tryParseFromBuf (peeked ++ chunk) with
        | .ok (some header) =>
          if header.verifyPassword config.passwords then
            .ends (.ok (.header header stream (peeked ++ chunk)))
          else .ends (.ok (.fallback stream (peeked ++ chunk)))
        | .ok none => .goesOn stream (peeked ++ chunk)
        | .error (.err _) => .ends (.ok (.fallback stream (peeked ++ chunk)))
        | .error .panic => .ends (.error .panic)

/-- A turn goes on exactly when it reads some bytes on which the parser asks for more. -/
theorem peekTurn_eq_goesOn {config : Config} {stream next : ClientStream}
    {peeked longer : List UInt8} :
    peekTurn config stream peeked = .goesOn next longer ↔
      peeked.length < peekSize ∧ ∃ chunk,
        peekClientData stream (peekSize - peeked.length) = (.ok chunk, next) ∧ chunk ≠ [] ∧
        longer = peeked ++ chunk ∧ Header.tryParseFromBuf longer = .ok none := by
  unfold peekTurn
  by_cases full : peekSize ≤ peeked.length
  · rw [if_pos full]
    simp [Nat.not_lt.mpr full]
  · rw [if_neg full]
    rcases peekClientData stream (peekSize - peeked.length) with ⟨answer, later⟩
    cases answer with
    | error fault => simp
    | ok chunk =>
      dsimp only
      by_cases closed : chunk = []
      · rw [if_pos (List.isEmpty_iff.mpr closed)]
        by_cases nothing : peeked.isEmpty <;> simp [nothing, closed]
      · rw [if_neg (mt List.isEmpty_iff.mp closed)]
        constructor
        · intro turn
          cases verdict : Header.tryParseFromBuf (peeked ++ chunk) with
          | error fault =>
            rw [verdict] at turn
            cases fault <;> contradiction
          | ok accepted =>
            rw [verdict] at turn
            cases accepted with
            | some header =>
              dsimp only at turn
              split at turn <;> contradiction
            | none =>
              obtain ⟨rfl, rfl⟩ := PeekTurn.goesOn.inj turn
              exact ⟨Nat.not_le.mp full, chunk, rfl, closed, rfl, verdict⟩
        · intro goesOn
          rcases goesOn with ⟨_, piece, read, _, rfl, asksForMore⟩
          cases read
          rw [asksForMore]

/-- A turn that goes on has peeked more, and had not peeked everything. -/
theorem peekTurn_grows {config : Config} {stream next : ClientStream} {peeked longer : List UInt8}
    (turn : peekTurn config stream peeked = .goesOn next longer) :
    peeked.length < peekSize ∧ peeked.length < longer.length := by
  rcases peekTurn_eq_goesOn.mp turn with ⟨room, chunk, _, some, rfl, _⟩
  have grows := List.length_pos_of_ne_nil some
  rw [List.length_append]
  omega

/-- The peeking loop of `handle_connection`, from the bytes peeked so far. -/
def peekLoop (config : Config) (stream : ClientStream) (peeked : List UInt8) : Result Peeked :=
  match _turn : peekTurn config stream peeked with
  | .ends outcome => outcome
  | .goesOn next longer => peekLoop config next longer
  termination_by peekSize - peeked.length
  decreasing_by
    have grows := peekTurn_grows _turn
    omega

/-- What `handle_connection` does after the peeking loop, up to the call of a handler. -/
def handOver (config : Config) (peerAddr : SocketAddr) : Peeked → Result Dispatch
  | .dropped => return .dropped
  | .fallback stream peeked => return .fallback stream peeked config.fallbackAddr
  | .header header stream peeked => do
    let headerEnd ← computeHeaderEnd header peeked
    let leftover ← sliceFrom peeked headerEnd
    let clientStream := PrefixedStream.new leftover stream
    let session := Session.new peerAddr header.address header.command
    match header.command with
    | .connect => return .tcp clientStream header.address session config.tcpTimeout
    | .udpAssociate =>
      return .udp clientStream session config.udpTimeout config.udpBindAddr

/-- `handle_connection`. -/
def handleConnection (config : Config) (peerAddr : SocketAddr) (stream : ClientStream) :
    Result Dispatch :=
  peekLoop config stream [] >>= handOver config peerAddr

end TrojanRust
