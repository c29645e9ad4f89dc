import TrojanRust.Connections

/-!
# What the task of a connection returns

The task gets to every head of the peeking loop, to the handler that `handleConnection` calls, and
there to whatever the functions of the source return with some answers of the network. So the
results of all runs are exactly theirs.
-/

namespace TrojanRust

open TrojanRust.Bytes

namespace Connection

/-- The task gets to every head of the peeking loop. -/
theorem reaches_peeking {config : Config} (peerAddr : SocketAddr)
    {stream current : ClientStream} {reads : Nat} {peeked : List UInt8}
    (head : PeekHead config stream reads current peeked) :
    ∃ actions, Runs.run (step config) (start peerAddr stream) actions =
      some ⟨peerAddr, .peeking current peeked, none⟩ := by
  induction head with
  | entered => exact ⟨[.tlsAccepted], rfl⟩
  | goesOn reads before next shorter longer head turn ih =>
    have ⟨actions, ran⟩ := ih
    have stepped : step config ⟨peerAddr, .peeking before shorter, none⟩ .peek =
        some ⟨peerAddr, .peeking next longer, none⟩ := by
      change some (peek config _ before shorter) = _
      rw [peek, turn]
      rfl
    exact ⟨actions ++ [.peek], Runs.run_append.mpr ⟨_, ran, Runs.run_singleton.mpr stepped⟩⟩

/-- The task gets to the call of the handler, or returns there. -/
theorem reaches_call (config : Config) (peerAddr : SocketAddr) (stream : ClientStream) :
    ∃ actions current peeked, Runs.run (step config) (start peerAddr stream) actions =
      some (call ⟨peerAddr, .peeking current peeked, none⟩
        (handleConnection config peerAddr stream)) := by
  have ⟨reads, current, peeked, head, turn⟩ := peekLoop_lastHead config stream
  have ⟨actions, ran⟩ := reaches_peeking peerAddr head
  have stepped : step config ⟨peerAddr, .peeking current peeked, none⟩ .peek =
      some (call ⟨peerAddr, .peeking current peeked, none⟩
        (handleConnection config peerAddr stream)) := by
    change some (peek config _ current peeked) = _
    rw [peek, turn]
    rfl
  exact ⟨_, _, _, Runs.run_append.mpr ⟨_, ran, Runs.run_singleton.mpr stepped⟩⟩

/-- A task that is running can return a result. -/
def CanReturn (config : Config) (state : Connection) (result : Result Unit) : Prop :=
  ∃ actions final, Runs.run (step config) state actions = some final ∧
    final.exit = some (.returned result)

/-- What can be returned after a run can be returned before it. -/
theorem CanReturn.head {config : Config} {state next : Connection} {result : Result Unit}
    {actions : List ConnectionAction} (ran : Runs.run (step config) state actions = some next)
    (can : next.CanReturn config result) : state.CanReturn config result := by
  have ⟨later, final, rest, returned⟩ := can
  exact ⟨actions ++ later, final, Runs.run_append.mpr ⟨next, ran, rest⟩, returned⟩

/-- What is returned by a step can be returned. -/
theorem CanReturn.of_step {config : Config} {state next : Connection} {result : Result Unit}
    {action : ConnectionAction} (stepped : state.step config action = some next)
    (returned : next.exit = some (.returned result)) : state.CanReturn config result :=
  ⟨[action], next, Runs.run_singleton.mpr stepped, returned⟩

/-- A copy fails, and the other one with it. -/
theorem copies_fail (upcoming : List UInt8) (kind : ErrorKind) :
    ∃ copies, stepCopies (copiesFrom upcoming) (.fail .left) = some copies ∧
      relayResult (fun _ => kind) copies = some (err (.io kind)) := ⟨_, rfl, rfl⟩

/-- Two copies whose peers have ended their streams, and that have delivered everything, return
how much that was. -/
theorem copies_finish (upcoming : List UInt8) :
    ∃ actions copies counts, Runs.run stepCopies (copiesFrom upcoming) actions = some copies ∧
      ∀ kind, relayResult kind copies = some (.ok counts) := by
  by_cases nothing : upcoming = []
  · subst nothing
    exact ⟨[.close .left, .finish .left, .close .right, .finish .right], _, _, rfl, fun _ => rfl⟩
  · let closed := (copiesFrom upcoming).setLane .left ((copiesFrom upcoming).lane .left).close
    have runs : (closed.lane .left).status = .running := rfl
    let count := upcoming.length
    have some : 0 < count := List.length_pos_of_ne_nil nothing
    let read := closed.setLane .left ((closed.lane .left).read count runs)
    have stepRead : stepCopies closed (.read .left count) = Option.some read := by
      change Duplex.step relay closed (.read .left count) = _
      rw [Duplex.step, dif_pos runs, if_pos ⟨some, Nat.le_refl _⟩]
    have buffered : (read.lane .left).buffered = upcoming := List.take_length
    have stillRuns : (read.lane .left).status = .running := rfl
    let delivered := read.setLane .left ((read.lane .left).deliver count stillRuns)
    have stepDeliver : stepCopies read (.deliver .left count) = Option.some delivered := by
      change Duplex.step relay read (.deliver .left count) = _
      rw [Duplex.step, dif_pos stillRuns, if_pos ⟨some, by rw [buffered]⟩]
    have ended : (delivered.lane .left).closed = true ∧ (delivered.lane .left).pending = [] ∧
        (delivered.lane .left).buffered = [] := by
      refine ⟨rfl, List.drop_length, ?_⟩
      change (read.lane .left).buffered.drop count = []
      rw [buffered]
      exact List.drop_length
    let finished := delivered.setLane .left ((delivered.lane .left).finish relay.shutsDown ended)
    have stepFinish : stepCopies delivered (.finish .left) = Option.some finished := by
      change Duplex.step relay delivered (.finish .left) = _
      rw [Duplex.step, dif_pos ended]
      rfl
    have rest : Runs.run stepCopies finished [.close .right, .finish .right] =
        Option.some _ := rfl
    have deliveredRan := Runs.run_cons.mpr ⟨finished, stepFinish, rest⟩
    have readRan := Runs.run_cons.mpr ⟨delivered, stepDeliver, deliveredRan⟩
    have closedRan := Runs.run_cons.mpr ⟨read, stepRead, readRan⟩
    have first : stepCopies (copiesFrom upcoming) (.close .left) = Option.some closed := rfl
    exact ⟨_, _, _, Runs.run_cons.mpr ⟨closed, first, closedRan⟩, fun _ => rfl⟩

/-- The copies of `handle_fallback` run in the task. -/
theorem run_fallbackCopies (config : Config) (peerAddr : SocketAddr) (replayed : List UInt8)
    {copies final : Duplex UInt8} {actions : List (DuplexAction UInt8)}
    (ran : Runs.run stepCopies copies actions = some final) :
    Runs.run (step config) ⟨peerAddr, .fallbackRelaying replayed copies, none⟩
      (actions.map .copy) = some ⟨peerAddr, .fallbackRelaying replayed final, none⟩ := by
  have embeds : ∀ copies action next, stepCopies copies action = some next →
      step config ⟨peerAddr, .fallbackRelaying replayed copies, none⟩ (.copy action) =
        some ⟨peerAddr, .fallbackRelaying replayed next, none⟩ := by
    intro copies action next stepped
    change (stepCopies copies action).map _ = _
    rw [stepped]
    rfl
  exact Runs.run_map embeds ran

/-- The copies of `relay` run in the task. -/
theorem run_relayCopies (config : Config) (peerAddr remote : SocketAddr) (session : Session)
    {copies final : Duplex UInt8} {actions : List (DuplexAction UInt8)}
    (ran : Runs.run stepCopies copies actions = some final) :
    Runs.run (step config) ⟨peerAddr, .relaying remote session copies, none⟩
      (actions.map .copy) = some ⟨peerAddr, .relaying remote session final, none⟩ := by
  have embeds : ∀ copies action next, stepCopies copies action = some next →
      step config ⟨peerAddr, .relaying remote session copies, none⟩ (.copy action) =
        some ⟨peerAddr, .relaying remote session next, none⟩ := by
    intro copies action next stepped
    change (stepCopies copies action).map _ = _
    rw [stepped]
    rfl
  exact Runs.run_map embeds ran

/-- `handle_fallback` can return from its copy what the source returns with a network. -/
theorem canReturn_fallbackCopied (config : Config) (peerAddr : SocketAddr)
    (current : ClientStream) (replayed : List UInt8) (fallbackAddr : String)
    (copied : Except ErrorKind Unit) :
    CanReturn config ⟨peerAddr, .fallbackRelaying replayed (copiesFrom current.bytes), none⟩
      ((handleFallback (connectingFallback (.ok ()) copied) current replayed fallbackAddr).map
        fun _ => ()) := by
  rw [handleFallback_copied]
  cases copied with
  | error kind =>
    have ⟨copies, stepped, returned⟩ := copies_fail current.bytes kind
    have ran := Runs.run_singleton.mpr stepped
    refine .head (run_fallbackCopies config peerAddr replayed ran) ?_
    have last : step config ⟨peerAddr, .fallbackRelaying replayed copies, none⟩
        (.copied fun _ => kind) = some _ := congrArg (Option.map _) returned
    exact .of_step last rfl
  | ok done =>
    have ⟨actions, copies, counts, ran, returned⟩ := copies_finish current.bytes
    refine .head (run_fallbackCopies config peerAddr replayed ran) ?_
    have last : step config ⟨peerAddr, .fallbackRelaying replayed copies, none⟩
        (.copied fun _ => .other) = some _ := congrArg (Option.map _) (returned fun _ => .other)
    exact .of_step last rfl

/-- `handle_fallback` can return what the source returns with a network. -/
theorem canReturn_fallback (config : Config) (peerAddr : SocketAddr) (current : ClientStream)
    (peeked : List UInt8) (fallbackAddr : String) (network : FallbackNetwork) :
    CanReturn config ⟨peerAddr, .fallbackConnecting current peeked fallbackAddr, none⟩
      ((handleFallback network current peeked fallbackAddr).map fun _ => ()) := by
  cases connected : network.connect fallbackAddr with
  | error e =>
    rw [handleFallback, connected]
    have stepped : step config ⟨peerAddr, .fallbackConnecting current peeked fallbackAddr, none⟩
        (.fallbackConnect (.error e)) = some _ := rfl
    exact .of_step stepped rfl
  | ok done =>
    have same : handleFallback network current peeked fallbackAddr = handleFallback
        (connectingFallback network.writeAll network.copyBidirectional) current peeked
        fallbackAddr := by
      unfold handleFallback
      rw [connected]
      rfl
    have stepped : step config ⟨peerAddr, .fallbackConnecting current peeked fallbackAddr, none⟩
        (.fallbackConnect (.ok ())) = some _ := rfl
    rw [same]
    refine .head (Runs.run_singleton.mpr stepped) ?_
    unfold fallbackConnect
    dsimp only
    by_cases empty : peeked.isEmpty
    · obtain rfl := List.isEmpty_iff.mp empty
      exact canReturn_fallbackCopied config peerAddr current [] fallbackAddr _
    · have nonempty : peeked ≠ [] := by simpa using empty
      rw [if_neg empty]
      cases writes : network.writeAll with
      | error kind =>
        rw [handleFallback_unwritten current fallbackAddr kind _ nonempty]
        have failed : step config ⟨peerAddr, .replaying current [] peeked, none⟩
            (.replayFailed kind) = some _ := rfl
        exact .of_step failed rfl
      | ok done =>
        have some : 0 < peeked.length := List.length_pos_of_ne_nil nonempty
        have written : step config ⟨peerAddr, .replaying current [] peeked, none⟩
            (.replay peeked.length) =
              Option.some
                ⟨peerAddr, .fallbackRelaying peeked (copiesFrom current.bytes), none⟩ := by
          change (if 0 < peeked.length ∧ peeked.length ≤ peeked.length then _ else _) = _
          rw [if_pos ⟨some, Nat.le_refl _⟩, replay, List.drop_length, List.take_length]
          rfl
        exact .head (Runs.run_singleton.mpr written)
          (canReturn_fallbackCopied config peerAddr current peeked fallbackAddr _)

/-- `handle_tcp` can return what the source returns with a network. -/
theorem canReturn_tcp (config : Config) (peerAddr : SocketAddr)
    (current : PrefixedStream ClientStream) (target : Address) (session : Session)
    (connectTimeout : UInt64) (network : TcpNetwork)
    (relayed : ∀ remote, network.expires = false →
      network.connect target.connectTarget = .ok remote →
        Relays current.upcoming (network.relay remote)) :
    CanReturn config ⟨peerAddr, .connecting current target session connectTimeout, none⟩
      (handleTcp network target session).1 := by
  have stepped : step config ⟨peerAddr, .connecting current target session connectTimeout, none⟩
      (.connect network) = some _ := rfl
  rw [handleTcp]
  by_cases expires : network.expires = true
  · rw [if_pos expires]
    refine .of_step stepped ?_
    rw [connect, if_pos expires]
    rfl
  · rw [if_neg expires]
    refine .head (Runs.run_singleton.mpr stepped) ?_
    rw [connect, if_neg expires]
    cases connected : network.connect target.connectTarget with
    | error e => exact ⟨[], _, rfl, rfl⟩
    | ok remote =>
      rcases relayed remote (by simpa using expires) connected with
        ⟨actions, copies, kind, ran, returned⟩
      refine .head (run_relayCopies config peerAddr remote session ran) ?_
      have last : step config ⟨peerAddr, .relaying remote session copies, none⟩ (.copied kind) =
          some _ := congrArg (Option.map _) returned
      refine .of_step last ?_
      dsimp only
      cases network.relay remote with
      | error fault => rfl
      | ok counts => rfl

/-- The loop of `handle_udp` runs in the task. -/
theorem associate_step (config : Config) (state : Connection) (runs : state.exit = none)
    (current : UdpState) (action : UdpAction) (next : UdpState)
    (stepped : current.step action = some next) :
    step config (state.associate current) (.udp action) = some (state.associate next) := by
  have inside : current.exit = none := by
    unfold UdpState.step at stepped
    by_cases left : current.exit.isSome
    · rw [if_pos left] at stepped
      contradiction
    · simpa using left
  have here : state.associate current = ⟨state.peerAddr, .associated current, none⟩ := by
    rw [associate, inside, ← runs]
    rfl
  have turned : step config ⟨state.peerAddr, .associated current, none⟩ (.udp action) =
      (current.step action).map (associate ⟨state.peerAddr, .associated current, none⟩) := rfl
  rw [here, turned, stepped, Option.map_some, associate, associate]
  cases next.exit with
  | none => rw [goOn, goOn, runs]
  | some exit => rfl

/-- `handle_udp` can return what the source returns at an exit of its loop. -/
theorem canReturn_udp (config : Config) (peerAddr : SocketAddr)
    (current : PrefixedStream ClientStream) (session : Session) (udpTimeout : UInt64)
    (udpBindAddr : String) (bindSocket : String → Except String (Except ErrorKind Unit))
    (entered last : UdpState) (actions : List UdpAction) (exit : UdpExit)
    (bound : UdpState.bind bindSocket session udpBindAddr current.upcoming = .ok entered)
    (ran : Runs.run UdpState.step entered actions = some last)
    (exits : last.exit = some exit) :
    CanReturn config ⟨peerAddr, .binding current session udpTimeout udpBindAddr, none⟩
      exit.result := by
  let state : Connection := ⟨peerAddr, .binding current session udpTimeout udpBindAddr, none⟩
  have inside : entered.exit = none := by rw [UdpState.bind_ok bound]; rfl
  have stepped : step config state (.bind bindSocket) = some (state.associate entered) := by
    change some (bind state current session udpBindAddr bindSocket) = _
    rw [bind, bound, associate, inside]
  refine .head (Runs.run_singleton.mpr stepped) ?_
  refine .head (Runs.run_map (associate_step config state rfl) ran) ?_
  exact ⟨[], _, rfl, by rw [associate, exits]; rfl⟩

/-- What the task of a connection can return, in whatever order its environment answers, is what
the functions of the source return one after the other with some answers of the network: the
peeking loop, and then the handler that `handle_connection` calls. Nothing else is returned in any
run, and all of it is returned in some run. -/
theorem run_returns_iff (config : Config) (peerAddr : SocketAddr) (stream : ClientStream)
    (result : Result Unit) :
    (∃ actions final, Runs.run (step config) (start peerAddr stream) actions = some final ∧
        final.exit = some (.returned result)) ↔
      Returns config peerAddr stream result := by
  constructor
  · intro reached
    have ⟨actions, final, ran, returned⟩ := reached
    exact (run_follows ran).returns result returned
  · intro returns
    have ⟨actions, current, peeked, ran⟩ := reaches_call config peerAddr stream
    suffices can : CanReturn config (call ⟨peerAddr, .peeking current peeked, none⟩
        (handleConnection config peerAddr stream)) result from CanReturn.head ran can
    cases returns with
    | failed fault handled =>
      rw [handled]
      exact ⟨[], _, rfl, rfl⟩
    | dropped handled =>
      rw [handled]
      exact ⟨[], _, rfl, rfl⟩
    | fallback next longer fallbackAddr network handled =>
      rw [handled]
      exact canReturn_fallback config peerAddr next longer fallbackAddr network
    | tcp next target session connectTimeout network handled relayed =>
      rw [handled]
      exact canReturn_tcp config peerAddr next target session connectTimeout network relayed
    | unbound next session udpTimeout udpBindAddr bindSocket fault handled bound =>
      rw [handled]
      have stepped : step config ⟨peerAddr, .binding next session udpTimeout udpBindAddr, none⟩
          (.bind bindSocket) = some (leave (.error fault)
            ⟨peerAddr, .binding next session udpTimeout udpBindAddr, none⟩) := by
        change some (bind _ next session udpBindAddr bindSocket) = _
        rw [bind, bound]
      exact .of_step stepped rfl
    | udp next session udpTimeout udpBindAddr bindSocket entered last actions exit handled bound
        ran exits =>
      rw [handled]
      exact canReturn_udp config peerAddr next session udpTimeout udpBindAddr bindSocket entered
        last actions exit bound ran exits

end Connection

end TrojanRust
