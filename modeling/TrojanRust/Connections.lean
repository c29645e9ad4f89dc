import TrojanRust.Handover
import TrojanRust.Proxy.Connection

/-!
# Connections from their handshake to their end

The stages of a connection come from the call that `handleConnection` makes on the stream of its
client. Every move of the task keeps to what the functions of the source do one after the other,
with some answers of the network.
-/

namespace TrojanRust

open TrojanRust.Bytes

/-- A bound association enters its loop with everything that the client is yet to send. -/
theorem UdpState.bind_ok {bindSocket : String → Except String (Except ErrorKind Unit)}
    {session : Session} {udpBindAddr : String} {upcoming : List UInt8} {entered : UdpState}
    (bound : UdpState.bind bindSocket session udpBindAddr upcoming = .ok entered) :
    entered = UdpState.start session upcoming := by
  unfold UdpState.bind at bound
  cases answer : bindSocket udpBindAddr with
  | error e => simp [answer, err] at bound
  | ok localAddr =>
    rw [answer] at bound
    cases localAddr with
    | error kind => contradiction
    | ok done => exact (Except.ok.inj bound).symm

namespace Connection

/-- What the task does at its stage, one move for each await. -/
inductive Moves (config : Config) (state : Connection) : ConnectionAction → Connection → Prop
  | tlsAccepted (stream : ClientStream) (located : state.stage = .handshake stream) :
    Moves config state .tlsAccepted (state.goOn (.peeking stream []))
  | tlsFailed (stream : ClientStream) (located : state.stage = .handshake stream) :
    Moves config state .tlsFailed { state with exit := some .tlsFailed }
  | peek (stream : ClientStream) (peeked : List UInt8)
      (located : state.stage = .peeking stream peeked) :
    Moves config state .peek (state.peek config stream peeked)
  | fallbackConnect (stream : ClientStream) (peeked : List UInt8) (fallbackAddr : String)
      (answer : Except String Unit)
      (located : state.stage = .fallbackConnecting stream peeked fallbackAddr) :
    Moves config state (.fallbackConnect answer)
      (state.fallbackConnect stream peeked fallbackAddr answer)
  | replay (stream : ClientStream) (written left : List UInt8) (count : Nat)
      (located : state.stage = .replaying stream written left)
      (some : 0 < count ∧ count ≤ left.length) :
    Moves config state (.replay count) (state.replay stream written left count)
  | replayFailed (stream : ClientStream) (written left : List UInt8) (kind : ErrorKind)
      (located : state.stage = .replaying stream written left) :
    Moves config state (.replayFailed kind) (state.leave (err (.io kind)))
  | fallbackCopy (replayed : List UInt8) (copies later : Duplex UInt8)
      (action : DuplexAction UInt8) (located : state.stage = .fallbackRelaying replayed copies)
      (stepped : stepCopies copies action = some later) :
    Moves config state (.copy action) (state.goOn (.fallbackRelaying replayed later))
  | fallbackCopied (replayed : List UInt8) (copies : Duplex UInt8) (kind : Side → ErrorKind)
      (result : Result (UInt64 × UInt64))
      (located : state.stage = .fallbackRelaying replayed copies)
      (returned : relayResult kind copies = some result) :
    Moves config state (.copied kind) (state.fallbackCopied result)
  | connect (stream : PrefixedStream ClientStream) (target : Address) (session : Session)
      (connectTimeout : UInt64) (network : TcpNetwork)
      (located : state.stage = .connecting stream target session connectTimeout) :
    Moves config state (.connect network) (state.connect stream target session network)
  | copy (remote : SocketAddr) (session : Session) (copies later : Duplex UInt8)
      (action : DuplexAction UInt8) (located : state.stage = .relaying remote session copies)
      (stepped : stepCopies copies action = some later) :
    Moves config state (.copy action) (state.goOn (.relaying remote session later))
  | copied (remote : SocketAddr) (session : Session) (copies : Duplex UInt8)
      (kind : Side → ErrorKind) (result : Result (UInt64 × UInt64))
      (located : state.stage = .relaying remote session copies)
      (returned : relayResult kind copies = some result) :
    Moves config state (.copied kind) (state.copied remote session copies result)
  | bind (stream : PrefixedStream ClientStream) (session : Session) (udpTimeout : UInt64)
      (udpBindAddr : String) (bindSocket : String → Except String (Except ErrorKind Unit))
      (located : state.stage = .binding stream session udpTimeout udpBindAddr) :
    Moves config state (.bind bindSocket) (state.bind stream session udpBindAddr bindSocket)
  | udp (current later : UdpState) (action : UdpAction)
      (located : state.stage = .associated current) (stepped : current.step action = some later) :
    Moves config state (.udp action) (state.associate later)

/-- Every step of a task that has not ended is one of these moves. -/
theorem step_moves {config : Config} {state next : Connection} {action : ConnectionAction}
    (stepped : state.step config action = some next) :
    state.exit = none ∧ state.Moves config action next := by
  unfold step at stepped
  by_cases ended : state.exit.isSome
  · rw [if_pos ended] at stepped
    contradiction
  rw [if_neg ended] at stepped
  refine ⟨by simpa using ended, ?_⟩
  -- The actions that are not named at a stage are refused there.
  cases located : state.stage with
  | handshake stream =>
    rw [located] at stepped
    cases action with
    | tlsAccepted =>
      obtain rfl := Option.some.inj stepped
      exact .tlsAccepted stream located
    | tlsFailed =>
      rw [← Option.some.inj stepped, ← located]
      exact .tlsFailed stream located
    | _ => contradiction
  | peeking stream peeked =>
    rw [located] at stepped
    cases action with
    | peek =>
      obtain rfl := Option.some.inj stepped
      exact .peek stream peeked located
    | _ => contradiction
  | fallbackConnecting stream peeked fallbackAddr =>
    rw [located] at stepped
    cases action with
    | fallbackConnect answer =>
      obtain rfl := Option.some.inj stepped
      exact .fallbackConnect stream peeked fallbackAddr answer located
    | _ => contradiction
  | replaying stream written left =>
    rw [located] at stepped
    cases action with
    | replay count =>
      obtain ⟨some, rfl⟩ := Runs.guarded.mp stepped
      exact .replay stream written left count located some
    | replayFailed kind =>
      obtain rfl := Option.some.inj stepped
      exact .replayFailed stream written left kind located
    | _ => contradiction
  | fallbackRelaying replayed copies =>
    rw [located] at stepped
    cases action with
    | copy action =>
      obtain ⟨later, moved, rfl⟩ := Option.map_eq_some_iff.mp stepped
      exact .fallbackCopy replayed copies later action located moved
    | copied kind =>
      obtain ⟨result, returned, rfl⟩ := Option.map_eq_some_iff.mp stepped
      exact .fallbackCopied replayed copies kind result located returned
    | _ => contradiction
  | connecting stream target session connectTimeout =>
    rw [located] at stepped
    cases action with
    | connect network =>
      obtain rfl := Option.some.inj stepped
      exact .connect stream target session connectTimeout network located
    | _ => contradiction
  | relaying remote session copies =>
    rw [located] at stepped
    cases action with
    | copy action =>
      obtain ⟨later, moved, rfl⟩ := Option.map_eq_some_iff.mp stepped
      exact .copy remote session copies later action located moved
    | copied kind =>
      obtain ⟨result, returned, rfl⟩ := Option.map_eq_some_iff.mp stepped
      exact .copied remote session copies kind result located returned
    | _ => contradiction
  | binding stream session udpTimeout udpBindAddr =>
    rw [located] at stepped
    cases action with
    | bind bindSocket =>
      obtain rfl := Option.some.inj stepped
      exact .bind stream session udpTimeout udpBindAddr bindSocket located
    | _ => contradiction
  | associated current =>
    rw [located] at stepped
    cases action with
    | udp action =>
      obtain ⟨later, moved, rfl⟩ := Option.map_eq_some_iff.mp stepped
      exact .udp current later action located moved
    | _ => contradiction

/-- `relay` can return this for a client that sends these bytes. -/
def Relays (upcoming : List UInt8) (result : Result (UInt64 × UInt64)) : Prop :=
  ∃ actions copies kind, Runs.run stepCopies (copiesFrom upcoming) actions = some copies ∧
    relayResult kind copies = some result

/-- What `handle_connection` returns for a stream, by the functions of the source one after the
other, with some answers of the network. -/
inductive Returns (config : Config) (peerAddr : SocketAddr) (stream : ClientStream) :
    Result Unit → Prop
  | failed (fault : Fault) (handled : handleConnection config peerAddr stream = .error fault) :
    Returns config peerAddr stream (.error fault)
  | dropped (handled : handleConnection config peerAddr stream = .ok .dropped) :
    Returns config peerAddr stream (.ok ())
  | fallback (current : ClientStream) (peeked : List UInt8) (fallbackAddr : String)
      (network : FallbackNetwork)
      (handled : handleConnection config peerAddr stream =
        .ok (.fallback current peeked fallbackAddr)) :
    Returns config peerAddr stream
      ((handleFallback network current peeked fallbackAddr).map fun _ => ())
  | tcp (current : PrefixedStream ClientStream) (target : Address) (session : Session)
      (connectTimeout : UInt64) (network : TcpNetwork)
      (handled : handleConnection config peerAddr stream =
        .ok (.tcp current target session connectTimeout))
      (relayed : ∀ remote, network.expires = false →
        network.connect target.connectTarget = .ok remote →
          Relays current.upcoming (network.relay remote)) :
    Returns config peerAddr stream (handleTcp network target session).1
  | unbound (current : PrefixedStream ClientStream) (session : Session) (udpTimeout : UInt64)
      (udpBindAddr : String) (bindSocket : String → Except String (Except ErrorKind Unit))
      (fault : Fault)
      (handled : handleConnection config peerAddr stream =
        .ok (.udp current session udpTimeout udpBindAddr))
      (bound : UdpState.bind bindSocket session udpBindAddr current.upcoming = .error fault) :
    Returns config peerAddr stream (.error fault)
  | udp (current : PrefixedStream ClientStream) (session : Session) (udpTimeout : UInt64)
      (udpBindAddr : String) (bindSocket : String → Except String (Except ErrorKind Unit))
      (entered last : UdpState) (actions : List UdpAction) (exit : UdpExit)
      (handled : handleConnection config peerAddr stream =
        .ok (.udp current session udpTimeout udpBindAddr))
      (bound : UdpState.bind bindSocket session udpBindAddr current.upcoming = .ok entered)
      (ran : Runs.run UdpState.step entered actions = some last)
      (exits : last.exit = some exit) :
    Returns config peerAddr stream exit.result

/-- The task has returned `Ok`. -/
def ReturnedOk (exit : Option TaskExit) : Prop := exit = some (.returned (.ok ()))

/-- Where a stage comes from: what `handle_connection` has called on the stream of the client, and
what the handler has done since then. -/
inductive Traces (config : Config) (peerAddr : SocketAddr) (stream : ClientStream)
    (exit : Option TaskExit) : Stage → Prop
  | handshake (notOk : ¬ ReturnedOk exit) : Traces config peerAddr stream exit (.handshake stream)
  | peeking (current : ClientStream) (peeked : List UInt8)
      (looped : peekLoop config stream [] = peekLoop config current peeked)
      (ended : ReturnedOk exit → handleConnection config peerAddr stream = .ok .dropped) :
    Traces config peerAddr stream exit (.peeking current peeked)
  | fallbackConnecting (current : ClientStream) (peeked : List UInt8) (fallbackAddr : String)
      (handled : handleConnection config peerAddr stream =
        .ok (.fallback current peeked fallbackAddr)) (notOk : ¬ ReturnedOk exit) :
    Traces config peerAddr stream exit (.fallbackConnecting current peeked fallbackAddr)
  | replaying (current : ClientStream) (written left : List UInt8) (fallbackAddr : String)
      (handled : handleConnection config peerAddr stream =
        .ok (.fallback current (written ++ left) fallbackAddr)) (more : left ≠ [])
      (notOk : ¬ ReturnedOk exit) :
    Traces config peerAddr stream exit (.replaying current written left)
  | fallbackRelaying (current : ClientStream) (replayed : List UInt8) (fallbackAddr : String)
      (actions : List (DuplexAction UInt8)) (copies : Duplex UInt8)
      (handled : handleConnection config peerAddr stream =
        .ok (.fallback current replayed fallbackAddr))
      (ran : Runs.run stepCopies (copiesFrom current.bytes) actions = some copies)
      (ended : ReturnedOk exit → ∃ kind counts, relayResult kind copies = some (.ok counts)) :
    Traces config peerAddr stream exit (.fallbackRelaying replayed copies)
  | connecting (current : PrefixedStream ClientStream) (target : Address) (session : Session)
      (connectTimeout : UInt64)
      (handled : handleConnection config peerAddr stream =
        .ok (.tcp current target session connectTimeout)) (notOk : ¬ ReturnedOk exit) :
    Traces config peerAddr stream exit (.connecting current target session connectTimeout)
  | relaying (current : PrefixedStream ClientStream) (target : Address) (initial session : Session)
      (connectTimeout : UInt64) (network : TcpNetwork) (remote : SocketAddr)
      (actions : List (DuplexAction UInt8)) (copies : Duplex UInt8)
      (handled : handleConnection config peerAddr stream =
        .ok (.tcp current target initial connectTimeout))
      (inTime : network.expires = false)
      (connected : network.connect target.connectTarget = .ok remote)
      (ran : Runs.run stepCopies (copiesFrom current.upcoming) actions = some copies)
      (uncounted : ¬ ReturnedOk exit → session = initial)
      (counted : ReturnedOk exit → ∃ kind upstream downstream,
        relayResult kind copies = some (.ok (upstream, downstream)) ∧
          session = (initial.addSent upstream).addReceived downstream) :
    Traces config peerAddr stream exit (.relaying remote session copies)
  | binding (current : PrefixedStream ClientStream) (session : Session) (udpTimeout : UInt64)
      (udpBindAddr : String)
      (handled : handleConnection config peerAddr stream =
        .ok (.udp current session udpTimeout udpBindAddr)) (notOk : ¬ ReturnedOk exit) :
    Traces config peerAddr stream exit (.binding current session udpTimeout udpBindAddr)
  | associated (current : PrefixedStream ClientStream) (session : Session) (udpTimeout : UInt64)
      (udpBindAddr : String) (bindSocket : String → Except String (Except ErrorKind Unit))
      (entered state : UdpState) (actions : List UdpAction)
      (handled : handleConnection config peerAddr stream =
        .ok (.udp current session udpTimeout udpBindAddr))
      (bound : UdpState.bind bindSocket session udpBindAddr current.upcoming = .ok entered)
      (ran : Runs.run UdpState.step entered actions = some state)
      (ended : ReturnedOk exit → state.exit = some .idle ∨ state.exit = some .closed) :
    Traces config peerAddr stream exit (.associated state)

/-- The task follows the source on the stream of its client. -/
structure Follows (config : Config) (peerAddr : SocketAddr) (stream : ClientStream)
    (state : Connection) : Prop where
  peer : state.peerAddr = peerAddr
  traces : Traces config peerAddr stream state.exit state.stage
  returns : ∀ result, state.exit = some (.returned result) → Returns config peerAddr stream result

/-- A task that has not ended has returned nothing. -/
theorem Follows.running {config : Config} {peerAddr : SocketAddr} {stream : ClientStream}
    {state : Connection} {stage : Stage} (peer : state.peerAddr = peerAddr)
    (runs : state.exit = none) (traces : Traces config peerAddr stream none stage) :
    Follows config peerAddr stream (state.goOn stage) where
  peer := peer
  traces := by
    change Traces config peerAddr stream state.exit stage
    rwa [runs]
  returns result returned := by
    change state.exit = some (.returned result) at returned
    rw [runs] at returned
    contradiction

/-- A task that returns follows the source when the source returns the same. -/
theorem Follows.left {config : Config} {peerAddr : SocketAddr} {stream : ClientStream}
    {state : Connection} {result : Result Unit} (peer : state.peerAddr = peerAddr)
    (traces : Traces config peerAddr stream (some (.returned result)) state.stage)
    (returns : Returns config peerAddr stream result) :
    Follows config peerAddr stream (state.leave result) where
  peer := peer
  traces := traces
  returns other returned := by
    obtain rfl := TaskExit.returned.inj (Option.some.inj returned)
    exact returns

/-- A task that ran has not returned `Ok`. -/
theorem not_returnedOk_none : ¬ ReturnedOk none := nofun

/-- A fault is not `Ok`. -/
theorem not_returnedOk_error (fault : Fault) : ¬ ReturnedOk (some (.returned (.error fault))) :=
  nofun

/-- The call of a handler is the one of the source. -/
theorem call_follows {config : Config} {peerAddr : SocketAddr} {stream current : ClientStream}
    {peeked : List UInt8} {state : Connection} (peer : state.peerAddr = peerAddr)
    (runs : state.exit = none) (located : state.stage = .peeking current peeked)
    (looped : peekLoop config stream [] = peekLoop config current peeked)
    (outcome : Result Dispatch) (handled : handleConnection config peerAddr stream = outcome) :
    Follows config peerAddr stream (state.call outcome) := by
  cases outcome with
  | error fault =>
    refine .left peer ?_ (.failed fault handled)
    rw [located]
    exact .peeking current peeked looped fun ok => absurd ok (not_returnedOk_error fault)
  | ok dispatch =>
    cases dispatch with
    | dropped =>
      refine .left peer ?_ (.dropped handled)
      rw [located]
      exact .peeking current peeked looped fun _ => handled
    | fallback next longer fallbackAddr =>
      exact .running peer runs (.fallbackConnecting next longer fallbackAddr handled
        not_returnedOk_none)
    | tcp next target session connectTimeout =>
      exact .running peer runs (.connecting next target session connectTimeout handled
        not_returnedOk_none)
    | udp next session udpTimeout udpBindAddr =>
      exact .running peer runs (.binding next session udpTimeout udpBindAddr handled
        not_returnedOk_none)

/-- A turn of the peeking loop is one of the source. -/
theorem peek_follows {config : Config} {peerAddr : SocketAddr} {stream current : ClientStream}
    {peeked : List UInt8} {state : Connection} (peer : state.peerAddr = peerAddr)
    (runs : state.exit = none) (located : state.stage = .peeking current peeked)
    (looped : peekLoop config stream [] = peekLoop config current peeked) :
    Follows config peerAddr stream (state.peek config current peeked) := by
  have turn := peekLoop_turn config current peeked
  unfold peek
  cases outcome : peekTurn config current peeked with
  | goesOn next longer =>
    rw [outcome] at turn
    exact .running peer runs (.peeking next longer (looped.trans turn)
      fun ok => absurd ok not_returnedOk_none)
  | ends ended =>
    rw [outcome] at turn
    dsimp only at turn ⊢
    apply call_follows peer runs located looped
    rw [handleConnection, looped, turn, peer]

/-- A copy that has failed returns its error. -/
theorem copyResult_error {kind : ErrorKind} {lane : Lane UInt8} {fault : Fault}
    (returned : copyResult kind lane = some (.error fault)) : fault = .err (.io kind) := by
  cases status : lane.status with
  | running => simp [copyResult, status] at returned
  | finished => simp [copyResult, status] at returned
  | failed =>
    simp only [copyResult, status, err, Option.some.injEq, Except.error.injEq] at returned
    exact returned.symm

/-- `copy_bidirectional` fails with the error of one of its copies. -/
theorem relayResult_error {kind : Side → ErrorKind} {copies : Duplex UInt8} {fault : Fault}
    (returned : relayResult kind copies = some (.error fault)) :
    ∃ side, fault = .err (.io (kind side)) := by
  simp only [relayResult, joinResults, Option.bind_eq_bind, Option.bind_eq_some_iff,
    Option.some.injEq] at returned
  rcases returned with ⟨leftResult, leftReturned, rightResult, rightReturned, combined⟩
  cases leftResult with
  | error leftFault =>
    obtain rfl := Except.error.inj combined
    exact ⟨.left, copyResult_error leftReturned⟩
  | ok upstream =>
    cases rightResult with
    | error rightFault =>
      obtain rfl := Except.error.inj combined
      exact ⟨.right, copyResult_error rightReturned⟩
    | ok downstream => contradiction

/-- A network that connects to the fallback. -/
def connectingFallback (writeAll copyBidirectional : Except ErrorKind Unit) : FallbackNetwork where
  connect _ := .ok ()
  writeAll
  copyBidirectional

/-- A fallback that is connected to and that takes the peeked bytes returns what the copy does. -/
theorem handleFallback_copied (current : ClientStream) (peeked : List UInt8)
    (fallbackAddr : String) (copied : Except ErrorKind Unit) :
    (handleFallback (connectingFallback (.ok ()) copied) current peeked fallbackAddr).map
      (fun _ => ()) = copied.mapError ioFault := by
  unfold handleFallback connectingFallback
  dsimp only
  by_cases empty : peeked.isEmpty
  · rw [if_neg (not_not.mpr empty)]
    cases copied <;> rfl
  · rw [if_pos empty]
    cases copied <;> rfl

/-- A fallback that does not take the peeked bytes fails with the error of the write. -/
theorem handleFallback_unwritten (current : ClientStream) {peeked : List UInt8}
    (fallbackAddr : String) (kind : ErrorKind) (copied : Except ErrorKind Unit)
    (some : peeked ≠ []) :
    (handleFallback (connectingFallback (.error kind) copied) current peeked fallbackAddr).map
      (fun _ => ()) = err (.io kind) := by
  have nonempty : ¬ peeked.isEmpty = true := by simpa using some
  unfold handleFallback connectingFallback
  dsimp only
  rw [if_pos nonempty]
  rfl

/-- The moves of `handle_fallback` at its connect are those of the source. -/
theorem fallbackConnect_follows {config : Config} {peerAddr : SocketAddr}
    {stream current : ClientStream} {peeked : List UInt8} {fallbackAddr : String}
    {state : Connection} (peer : state.peerAddr = peerAddr) (runs : state.exit = none)
    (located : state.stage = .fallbackConnecting current peeked fallbackAddr)
    (handled : handleConnection config peerAddr stream =
      .ok (.fallback current peeked fallbackAddr)) (answer : Except String Unit) :
    Follows config peerAddr stream
      (state.fallbackConnect current peeked fallbackAddr answer) := by
  cases answer with
  | error e =>
    refine .left peer ?_ (.fallback current peeked fallbackAddr
      ⟨fun _ => .error e, .ok (), .ok ()⟩ handled)
    rw [located]
    exact .fallbackConnecting current peeked fallbackAddr handled (not_returnedOk_error _)
  | ok done =>
    unfold fallbackConnect
    by_cases empty : peeked.isEmpty
    · rw [if_pos empty]
      exact .running peer runs (.fallbackRelaying current peeked fallbackAddr [] _ handled rfl
        fun ok => absurd ok not_returnedOk_none)
    · rw [if_neg empty]
      exact .running peer runs (.replaying current [] peeked fallbackAddr handled
        (by simpa using empty) not_returnedOk_none)

/-- The moves of `handle_fallback` at its `write_all` are those of the source. -/
theorem replay_follows {config : Config} {peerAddr : SocketAddr}
    {stream current : ClientStream} {written left : List UInt8} {fallbackAddr : String}
    {state : Connection} (peer : state.peerAddr = peerAddr) (runs : state.exit = none)
    (handled : handleConnection config peerAddr stream =
      .ok (.fallback current (written ++ left) fallbackAddr)) (count : Nat) :
    Follows config peerAddr stream (state.replay current written left count) := by
  have cut : written ++ left.take count ++ left.drop count = written ++ left := by
    rw [List.append_assoc, List.take_append_drop]
  unfold replay
  by_cases all : (left.drop count).isEmpty
  · have whole : written ++ left.take count = written ++ left := by
      rw [← cut, List.isEmpty_iff.mp all, List.append_nil]
    rw [if_pos all, whole]
    exact .running peer runs (.fallbackRelaying current _ fallbackAddr [] _ handled rfl
      fun ok => absurd ok not_returnedOk_none)
  · rw [if_neg all]
    rw [← cut] at handled
    exact .running peer runs (.replaying current _ _ fallbackAddr handled (by simpa using all)
      not_returnedOk_none)

/-- A run of copies goes on with an action. -/
theorem ran_copy {upcoming : List UInt8} {actions : List (DuplexAction UInt8)}
    {copies later : Duplex UInt8} {action : DuplexAction UInt8}
    (ran : Runs.run stepCopies (copiesFrom upcoming) actions = some copies)
    (stepped : stepCopies copies action = some later) :
    Runs.run stepCopies (copiesFrom upcoming) (actions ++ [action]) = some later :=
  Runs.run_append.mpr ⟨copies, ran, Runs.run_singleton.mpr stepped⟩

/-- The return of `handle_fallback` is that of the source. -/
theorem fallbackCopied_follows {config : Config} {peerAddr : SocketAddr}
    {stream current : ClientStream} {replayed : List UInt8} {fallbackAddr : String}
    {actions : List (DuplexAction UInt8)} {copies : Duplex UInt8} {kind : Side → ErrorKind}
    {state : Connection} (peer : state.peerAddr = peerAddr)
    (located : state.stage = .fallbackRelaying replayed copies)
    (handled : handleConnection config peerAddr stream =
      .ok (.fallback current replayed fallbackAddr))
    (ran : Runs.run stepCopies (copiesFrom current.bytes) actions = some copies)
    (result : Result (UInt64 × UInt64)) (returned : relayResult kind copies = some result) :
    Follows config peerAddr stream (state.fallbackCopied result) := by
  cases result with
  | error fault =>
    obtain ⟨side, rfl⟩ := relayResult_error returned
    have source := handleFallback_copied current replayed fallbackAddr (.error (kind side))
    refine .left peer ?_ ?_
    · rw [located]
      exact .fallbackRelaying current replayed fallbackAddr actions copies handled ran
        fun ok => absurd ok (not_returnedOk_error _)
    · have returns := Returns.fallback current replayed fallbackAddr
        (connectingFallback (.ok ()) (.error (kind side))) handled
      rwa [source] at returns
  | ok counts =>
    have source := handleFallback_copied current replayed fallbackAddr (.ok ())
    refine .left peer ?_ ?_
    · rw [located]
      exact .fallbackRelaying current replayed fallbackAddr actions copies handled ran
        fun _ => ⟨kind, counts, returned⟩
    · have returns := Returns.fallback current replayed fallbackAddr
        (connectingFallback (.ok ()) (.ok ())) handled
      rwa [source] at returns

/-- The moves of `handle_tcp` at its connect are those of the source. -/
theorem connect_follows {config : Config} {peerAddr : SocketAddr} {stream : ClientStream}
    {current : PrefixedStream ClientStream} {target : Address} {session : Session}
    {connectTimeout : UInt64} {state : Connection} (peer : state.peerAddr = peerAddr)
    (runs : state.exit = none)
    (located : state.stage = .connecting current target session connectTimeout)
    (handled : handleConnection config peerAddr stream =
      .ok (.tcp current target session connectTimeout)) (network : TcpNetwork) :
    Follows config peerAddr stream (state.connect current target session network) := by
  have stays : ∀ fault, Traces config peerAddr stream (some (.returned (.error fault)))
      state.stage := by
    intro fault
    rw [located]
    exact .connecting current target session connectTimeout handled (not_returnedOk_error fault)
  unfold connect
  by_cases expires : network.expires = true
  · rw [if_pos expires]
    have returns := Returns.tcp current target session connectTimeout network handled
      (fun remote inTime => by simp [expires] at inTime)
    rw [handleTcp, if_pos expires] at returns
    exact .left peer (stays _) returns
  · rw [if_neg expires]
    cases connected : network.connect target.connectTarget with
    | error e =>
      have returns := Returns.tcp current target session connectTimeout network handled
        (fun remote inTime answered => by simp [connected] at answered)
      rw [handleTcp, if_neg expires, connected] at returns
      exact .left peer (stays _) returns
    | ok remote =>
      exact .running peer runs (.relaying current target session session connectTimeout network
        remote [] _ handled (by simpa using expires) connected rfl (fun _ => rfl)
        fun ok => absurd ok not_returnedOk_none)

/-- Which address is connected to does not depend on what is relayed. -/
theorem connect_withRelay (network : TcpNetwork) (target : ConnectTarget)
    (relay : SocketAddr → Result (UInt64 × UInt64)) :
    TcpNetwork.connect { network with relay := relay } target = network.connect target := by
  have tried : ∀ lastErr addrs, TcpNetwork.connectAddrs { network with relay := relay } lastErr
      addrs = network.connectAddrs lastErr addrs := by
    intro lastErr addrs
    induction addrs generalizing lastErr with
    | nil => rfl
    | cons addr addrs ih =>
      rw [TcpNetwork.connectAddrs, TcpNetwork.connectAddrs]
      cases network.connectAddr addr with
      | error e => exact ih (some e)
      | ok done => rfl
  unfold TcpNetwork.connect
  cases target.endpoint with
  | error e => rfl
  | ok endpoint =>
    change (endpoint.addrs network.resolver >>= _) = (endpoint.addrs network.resolver >>= _)
    cases endpoint.addrs network.resolver with
    | error e => rfl
    | ok addrs => exact tried none addrs

/-- The return of `handle_tcp` is that of the source. -/
theorem copied_follows {config : Config} {peerAddr : SocketAddr} {stream : ClientStream}
    {current : PrefixedStream ClientStream} {target : Address} {session : Session}
    {connectTimeout : UInt64} {network : TcpNetwork} {remote : SocketAddr}
    {actions : List (DuplexAction UInt8)} {copies : Duplex UInt8} {kind : Side → ErrorKind}
    {state : Connection} (peer : state.peerAddr = peerAddr)
    (located : state.stage = .relaying remote session copies)
    (handled : handleConnection config peerAddr stream =
      .ok (.tcp current target session connectTimeout))
    (inTime : network.expires = false)
    (connected : network.connect target.connectTarget = .ok remote)
    (ran : Runs.run stepCopies (copiesFrom current.upcoming) actions = some copies)
    (result : Result (UInt64 × UInt64)) (returned : relayResult kind copies = some result) :
    Follows config peerAddr stream (state.copied remote session copies result) := by
  -- The network of the source answers the relay with what the copies return.
  let answered : TcpNetwork := { network with relay := fun _ => result }
  have returns := Returns.tcp current target session connectTimeout answered handled
    (fun _ _ _ => ⟨actions, copies, kind, ran, returned⟩)
  have same : answered.connect target.connectTarget = .ok remote :=
    (connect_withRelay network _ _).trans connected
  have notExpired : ¬ answered.expires = true := by simp [answered, inTime]
  rw [handleTcp, if_neg notExpired, same] at returns
  cases result with
  | error fault =>
    refine .left peer ?_ returns
    rw [located]
    exact .relaying current target session session connectTimeout network remote actions copies
      handled inTime connected ran (fun _ => rfl) fun ok => absurd ok (not_returnedOk_error fault)
  | ok counts =>
    exact .left peer (.relaying current target session _ connectTimeout network remote actions
      copies handled inTime connected ran (fun notOk => absurd rfl notOk)
      fun _ => ⟨kind, counts.1, counts.2, returned, rfl⟩) returns

/-- The moves of `handle_udp` at its bind are those of the source. -/
theorem bind_follows {config : Config} {peerAddr : SocketAddr} {stream : ClientStream}
    {current : PrefixedStream ClientStream} {session : Session} {udpTimeout : UInt64}
    {udpBindAddr : String} {state : Connection} (peer : state.peerAddr = peerAddr)
    (runs : state.exit = none)
    (located : state.stage = .binding current session udpTimeout udpBindAddr)
    (handled : handleConnection config peerAddr stream =
      .ok (.udp current session udpTimeout udpBindAddr))
    (bindSocket : String → Except String (Except ErrorKind Unit)) :
    Follows config peerAddr stream (state.bind current session udpBindAddr bindSocket) := by
  unfold bind
  cases bound : UdpState.bind bindSocket session udpBindAddr current.upcoming with
  | error fault =>
    refine .left peer ?_ (.unbound current session udpTimeout udpBindAddr bindSocket fault handled
      bound)
    rw [located]
    exact .binding current session udpTimeout udpBindAddr handled (not_returnedOk_error fault)
  | ok entered =>
    exact .running peer runs (.associated current session udpTimeout udpBindAddr bindSocket entered
      entered [] handled bound rfl fun ok => absurd ok not_returnedOk_none)

/-- The turns of the loop of `handle_udp` are those of the source. -/
theorem udp_follows {config : Config} {peerAddr : SocketAddr} {stream : ClientStream}
    {current : PrefixedStream ClientStream} {session : Session} {udpTimeout : UInt64}
    {udpBindAddr : String} {bindSocket : String → Except String (Except ErrorKind Unit)}
    {entered before later : UdpState} {actions : List UdpAction} {action : UdpAction}
    {state : Connection} (peer : state.peerAddr = peerAddr) (runs : state.exit = none)
    (handled : handleConnection config peerAddr stream =
      .ok (.udp current session udpTimeout udpBindAddr))
    (bound : UdpState.bind bindSocket session udpBindAddr current.upcoming = .ok entered)
    (ran : Runs.run UdpState.step entered actions = some before)
    (stepped : before.step action = some later) :
    Follows config peerAddr stream (state.associate later) := by
  have longer : Runs.run UdpState.step entered (actions ++ [action]) = some later :=
    Runs.run_append.mpr ⟨before, ran, Runs.run_singleton.mpr stepped⟩
  unfold associate
  cases left : later.exit with
  | none =>
    exact .running peer runs (.associated current session udpTimeout udpBindAddr bindSocket entered
      later _ handled bound longer fun ok => absurd ok not_returnedOk_none)
  | some exit =>
    have regular : ReturnedOk (some (.returned exit.result)) →
        later.exit = some .idle ∨ later.exit = some .closed := by
      intro ok
      have result : exit.result = .ok () := TaskExit.returned.inj (Option.some.inj ok)
      cases exit with
      | idle => exact .inl left
      | closed => exact .inr left
      | _ => contradiction
    exact .left peer (.associated current session udpTimeout udpBindAddr bindSocket entered later _
      handled bound longer regular) (.udp current session udpTimeout udpBindAddr bindSocket entered
      later _ exit handled bound longer left)

/-- Every move of the task is one of the source. -/
theorem follows_step {config : Config} {peerAddr : SocketAddr} {stream : ClientStream}
    (state : Connection) (action : ConnectionAction) (next : Connection)
    (follows : Follows config peerAddr stream state)
    (stepped : state.step config action = some next) :
    Follows config peerAddr stream next := by
  rcases step_moves stepped with ⟨runs, moves⟩
  have peer := follows.peer
  have traces := follows.traces
  cases moves with
  | tlsAccepted current located =>
    rw [located] at traces
    cases traces
    exact .running peer runs (.peeking _ [] rfl fun ok => absurd ok not_returnedOk_none)
  | tlsFailed current located =>
    rw [located] at traces
    cases traces
    refine ⟨peer, ?_, nofun⟩
    change Traces config peerAddr _ (some .tlsFailed) state.stage
    rw [located]
    exact .handshake nofun
  | peek current peeked located =>
    rw [located] at traces
    cases traces with
    | peeking _ _ looped ended => exact peek_follows peer runs located looped
  | fallbackConnect current peeked fallbackAddr answer located =>
    rw [located] at traces
    cases traces with
    | fallbackConnecting _ _ _ handled notOk =>
      exact fallbackConnect_follows peer runs located handled answer
  | replay current written left count located some =>
    rw [located] at traces
    cases traces with
    | replaying _ _ _ fallbackAddr handled more notOk =>
      exact replay_follows peer runs handled count
  | replayFailed current written left kind located =>
    rw [located] at traces
    cases traces with
    | replaying _ _ _ fallbackAddr handled more notOk =>
      have some : written ++ left ≠ [] := by simp [more]
      have source := handleFallback_unwritten current fallbackAddr kind (.ok ()) some
      have returns := Returns.fallback current _ fallbackAddr
        (connectingFallback (.error kind) (.ok ())) handled
      rw [source] at returns
      refine .left peer ?_ returns
      rw [located]
      exact .replaying current written left fallbackAddr handled more (not_returnedOk_error _)
  | fallbackCopy replayed copies later action located moved =>
    rw [located] at traces
    cases traces with
    | fallbackRelaying current _ fallbackAddr actions _ handled ran ended =>
      exact .running peer runs (.fallbackRelaying current replayed fallbackAddr _ later handled
        (ran_copy ran moved) fun ok => absurd ok not_returnedOk_none)
  | fallbackCopied replayed copies kind result located returned =>
    rw [located] at traces
    cases traces with
    | fallbackRelaying current _ fallbackAddr actions _ handled ran ended =>
      exact fallbackCopied_follows peer located handled ran result returned
  | connect current target session connectTimeout network located =>
    rw [located] at traces
    cases traces with
    | connecting _ _ _ _ handled notOk => exact connect_follows peer runs located handled network
  | copy remote session copies later action located moved =>
    rw [located, runs] at traces
    cases traces with
    | relaying current target initial _ timeout network _ actions _ handled inTime connected ran
        uncounted counted =>
      exact .running peer runs (.relaying current target initial session timeout network remote _
        later handled inTime connected (ran_copy ran moved) uncounted
        fun ok => absurd ok not_returnedOk_none)
  | copied remote session copies kind result located returned =>
    rw [located, runs] at traces
    cases traces with
    | relaying current target initial _ timeout network _ actions _ handled inTime connected ran
        uncounted counted =>
      obtain rfl := uncounted not_returnedOk_none
      exact copied_follows peer located handled inTime connected ran result returned
  | bind current session udpTimeout udpBindAddr bindSocket located =>
    rw [located] at traces
    cases traces with
    | binding _ _ _ _ handled notOk => exact bind_follows peer runs located handled bindSocket
  | udp before later action located moved =>
    rw [located] at traces
    cases traces with
    | associated current session udpTimeout udpBindAddr bindSocket entered _ actions handled bound
        ran ended =>
      exact udp_follows peer runs handled bound ran moved

/-- In every run the task follows the source. -/
theorem run_follows {config : Config} {peerAddr : SocketAddr} {stream : ClientStream}
    {actions : List ConnectionAction} {final : Connection}
    (ran : Runs.run (step config) (start peerAddr stream) actions = some final) :
    Follows config peerAddr stream final := by
  have begins : Follows config peerAddr stream (start peerAddr stream) :=
    ⟨rfl, .handshake not_returnedOk_none, nofun⟩
  exact Runs.run_invariant follows_step begins ran

end Connection

end TrojanRust
