import TrojanRust.Custody
import TrojanRust.Outcomes

/-!
# No task panics

The task of a connection returns a result or an error of the crate in every run, whatever its
client and the network do. In the UDP loop this is an invariant of the read that is suspended
between two bytes; elsewhere it is a fact about the functions that the task calls.
-/

namespace TrojanRust

open TrojanRust.Bytes

namespace UdpState

/-- The read of the turn cannot panic, and the loop has not ended by a panic. -/
structure Sane (state : UdpState) : Prop where
  read : Safe state.read
  exit : ∀ exit, state.exit = some exit → exit.result ≠ .error .panic

/-- What the read returns leaves a loop that has not panicked. -/
theorem Sane.clientEvent {state : UdpState} (sane : state.Sane) (inside : state.exit = none)
    (lookupHost : String → UInt16 → Except String (List SocketAddr))
    (sendTo : SocketAddr → List UInt8 → Except ErrorKind Unit)
    (result : Result (Option UdpFrame)) (safe : ∀ fault, result = .error fault → fault ≠ .panic) :
    (state.clientEvent lookupHost sendTo result).Sane := by
  cases result with
  | error fault =>
    refine ⟨sane.read, ?_⟩
    intro exit exits panics
    obtain rfl := Option.some.inj exits
    exact safe fault rfl (Except.error.inj panics)
  | ok event =>
    cases event with
    | none => exact ⟨sane.read, by simp [UdpState.clientEvent, UdpExit.result]⟩
    | some frame =>
      have same := (forward_frames lookupHost sendTo state frame).2.1
      refine ⟨safe_readUdpFrame, ?_⟩
      intro exit exits
      have left : (state.forward lookupHost sendTo frame).exit = some exit := exits
      rw [same, inside] at left
      contradiction

/-- A poll of the client leaves a loop that has not panicked. -/
theorem Sane.pollClient {state : UdpState} (sane : state.Sane) (inside : state.exit = none)
    (lookupHost : String → UInt16 → Except String (List SocketAddr))
    (sendTo : SocketAddr → List UInt8 → Except ErrorKind Unit) :
    (state.pollClient lookupHost sendTo).Sane := by
  have fed := sane.read.feed (state.held ++ state.inbox)
  have moved : ∀ inbox, UdpState.Sane { state with inbox := inbox } :=
    fun _ => ⟨sane.read, sane.exit⟩
  unfold UdpState.pollClient
  cases progress : state.read.feed (state.held ++ state.inbox) with
  | ready result rest =>
    apply (moved rest).clientEvent inside
    intro fault failed
    exact fed.1 fault rest (failed ▸ progress)
  | pending waiting held =>
    have safe := fed.2 waiting held progress
    cases ended : state.ended with
    | none => exact ⟨safe, sane.exit⟩
    | some reason =>
      dsimp only
      rw [← ended]
      apply (moved (waiting.run reason held).2).clientEvent inside
      intro fault failed
      exact safe.run reason held failed

/-- No step of the loop panics. -/
theorem sane_step (state : UdpState) (action : UdpAction) (next : UdpState) (sane : state.Sane)
    (stepped : state.step action = some next) : next.Sane := by
  rcases step_eq_some.mp stepped with ⟨inside, steps⟩
  cases steps with
  | arrive count isOpen => exact ⟨sane.read, sane.exit⟩
  | clientEnd reason isOpen all => exact ⟨sane.read, sane.exit⟩
  | pollClient lookupHost sendTo => exact sane.pollClient inside lookupHost sendTo
  | remote source payload writeAll =>
    unfold UdpState.remoteEvent
    rw [Datagram.buildUdpFrame_eq]
    cases writeAll with
    | error failure => exact ⟨sane.read, by simp [UdpExit.result, err]⟩
    | ok done => exact ⟨safe_readUdpFrame, sane.exit⟩
  | remoteError kind => exact ⟨sane.read, by simp [UdpExit.result, err]⟩
  | idleTimeout => exact ⟨sane.read, by simp [UdpExit.result]⟩

/-- The loop of `handle_udp` never returns a panic. -/
theorem run_result_ne_panic {session : Session} {upcoming : List UInt8}
    {actions : List UdpAction} {last : UdpState} {exit : UdpExit}
    (ran : Runs.run step (start session upcoming) actions = some last)
    (exits : last.exit = some exit) : exit.result ≠ .error .panic := by
  have begins : (start session upcoming).Sane := ⟨safe_readUdpFrame, nofun⟩
  exact (Runs.run_invariant sane_step begins ran).exit exit exits

end UdpState

/-- Steps that do not panic do not panic one after the other. -/
theorem bind_ne_panic {α β : Type} {first : Result α} {next : α → Result β}
    (firstSafe : first ≠ .error .panic) (nextSafe : ∀ value, next value ≠ .error .panic) :
    first >>= next ≠ .error .panic := by
  cases first with
  | error fault => simpa using firstSafe
  | ok value => exact nextSafe value

/-- A failure of the network is no panic. -/
theorem mapError_ne_panic {α : Type} (answer : Except ErrorKind α) :
    answer.mapError ioFault ≠ .error .panic := by
  cases answer with
  | error kind => simp [Except.mapError, ioFault]
  | ok value => simp [Except.mapError]

/-- What is returned at the end is no panic. -/
theorem pure_ne_panic {α : Type} (value : α) : (pure value : Result α) ≠ .error .panic := by
  simp [pure, Except.pure]

/-- `handle_fallback` never panics. -/
theorem handleFallback_ne_panic (network : FallbackNetwork) (stream : ClientStream)
    (peeked : List UInt8) (fallbackAddr : String) :
    handleFallback network stream peeked fallbackAddr ≠ .error .panic := by
  have copied : (network.copyBidirectional.mapError ioFault >>= fun _ =>
      (pure (peeked ++ stream.bytes) : Result (List UInt8))) ≠ .error .panic :=
    bind_ne_panic (mapError_ne_panic _) fun _ => pure_ne_panic _
  unfold handleFallback
  cases network.connect fallbackAddr with
  | error e => simp [err]
  | ok connected =>
    dsimp only
    by_cases empty : peeked.isEmpty
    · rw [if_neg (not_not.mpr empty)]
      exact copied
    · rw [if_pos empty]
      exact bind_ne_panic (mapError_ne_panic _) fun _ => copied

/-- `UdpSocket::bind` and `local_addr` never panic. -/
theorem UdpState.bind_ne_panic (bindSocket : String → Except String (Except ErrorKind Unit))
    (session : Session) (udpBindAddr : String) (upcoming : List UInt8) :
    UdpState.bind bindSocket session udpBindAddr upcoming ≠ .error .panic := by
  unfold UdpState.bind
  cases bindSocket udpBindAddr with
  | error e => simp [err]
  | ok localAddr =>
    exact TrojanRust.bind_ne_panic (mapError_ne_panic _) fun _ => pure_ne_panic _

namespace Connection

/-- `handle_tcp` never panics when its relay is that of some copies. -/
theorem handleTcp_ne_panic {network : TcpNetwork} {target : Address} {session : Session}
    {upcoming : List UInt8}
    (relayed : ∀ remote, network.expires = false →
      network.connect target.connectTarget = .ok remote →
        Relays upcoming (network.relay remote)) :
    (handleTcp network target session).1 ≠ .error .panic := by
  unfold handleTcp
  by_cases expires : network.expires = true
  · rw [if_pos expires]
    simp [err]
  · rw [if_neg expires]
    cases connected : network.connect target.connectTarget with
    | error e => simp [err]
    | ok remote =>
      rcases relayed remote (by simpa using expires) connected with
        ⟨actions, copies, kind, ran, returned⟩
      dsimp only
      intro panics
      cases answer : network.relay remote with
      | ok counts =>
        rw [answer] at panics
        contradiction
      | error fault =>
        rw [answer] at returned panics
        rcases relayResult_error returned with ⟨side, rfl⟩
        have same := Except.error.inj panics
        contradiction

/-- What the functions of the source return one after the other is no panic. -/
theorem Returns.ne_panic {config : Config} {peerAddr : SocketAddr} {stream : ClientStream}
    {result : Result Unit} (returns : Returns config peerAddr stream result) :
    result ≠ .error .panic := by
  cases returns with
  | failed fault handled =>
    intro same
    obtain rfl := Except.error.inj same
    exact handleConnection_ne_panic config peerAddr stream handled
  | dropped handled => nofun
  | fallback current peeked fallbackAddr network handled =>
    have safe := handleFallback_ne_panic network current peeked fallbackAddr
    cases outcome : handleFallback network current peeked fallbackAddr with
    | ok sent => nofun
    | error fault =>
      intro same
      obtain rfl := Except.error.inj same
      exact safe outcome
  | tcp current target session connectTimeout network handled relayed =>
    exact handleTcp_ne_panic relayed
  | unbound current session udpTimeout udpBindAddr bindSocket fault handled bound =>
    intro same
    obtain rfl := Except.error.inj same
    exact UdpState.bind_ne_panic bindSocket session udpBindAddr current.upcoming bound
  | udp current session udpTimeout udpBindAddr bindSocket entered last actions exit handled bound
      ran exits =>
    rw [UdpState.bind_ok bound] at ran
    exact UdpState.run_result_ne_panic ran exits

/-- No task panics, whatever its client sends, however it is cut into pieces and ends, and
whatever the network answers: `handle_connection` returns `Ok` or an error of the crate in every
run. -/
theorem run_ne_panic {config : Config} {peerAddr : SocketAddr} {stream : ClientStream}
    {actions : List ConnectionAction} {final : Connection}
    (ran : Runs.run (step config) (start peerAddr stream) actions = some final) :
    final.exit ≠ some (.returned (.error .panic)) := by
  intro panics
  exact ((run_follows ran).returns _ panics).ne_panic rfl

/-- The task of a client that sends one letter, and whose fallback refuses the connection, returns
without a panic. -/
theorem run_ne_panic_refused :
    ∃ final, Runs.run (step oneConfig) (start (.v4 (.new 127 0 0 1) 5000)
        { pieces := [[0x47]], nonempty := by decide, ending := none })
        [.tlsAccepted, .peek, .peek, .fallbackConnect (.error "refused")] = some final ∧
      final.exit ≠ none ∧ final.exit ≠ some (.returned (.error .panic)) := by
  have outcome : (Runs.run (step oneConfig) (start (.v4 (.new 127 0 0 1) 5000)
      { pieces := [[0x47]], nonempty := by decide, ending := none })
      [.tlsAccepted, .peek, .peek, .fallbackConnect (.error "refused")]).map Connection.exit =
      some (some (.returned (err (.remoteConnectFailed "fallback 127.0.0.1:80: refused")))) := by
    decide +kernel
  rcases Option.map_eq_some_iff.mp outcome with ⟨final, ran, exits⟩
  exact ⟨final, ran, by simp [exits], run_ne_panic ran⟩

end Connection

end TrojanRust
