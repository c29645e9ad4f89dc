import TrojanRust.Connections
import TrojanRust.Splicing
import TrojanRust.UdpExcerpts

/-!
# Where the bytes of a connection go

In every run of the task of a connection, the bytes of a client that starts with an authorized
header go to the target of that header, from the byte after the header on, and those of every
other client go to the fallback. The client is sent nothing but what it is answered from there.
Nothing is repeated or reordered, and nothing is added. What is copied is not lost either; a UDP
association can lose one stretch of the client stream for each datagram, and reads none of it any
more once it was idle for too long.
-/

namespace TrojanRust

open TrojanRust.Bytes

namespace Stage

/-- What the fallback was sent. -/
def toBackend : Stage → List UInt8
  | .replaying _ written _ => written
  | .fallbackRelaying replayed copies => replayed ++ (copies.lane .left).delivered
  | _ => []

/-- What the target was sent. -/
def toTarget : Stage → List UInt8
  | .relaying _ _ copies => (copies.lane .left).delivered
  | _ => []

/-- What the client was sent. -/
def toClient : Stage → List UInt8
  | .fallbackRelaying _ copies => (copies.lane .right).delivered
  | .relaying _ _ copies => (copies.lane .right).delivered
  | .associated state => state.written
  | _ => []

/-- The session of a connection that is proxied. -/
def session : Stage → Option Session
  | .connecting _ _ session _ => some session
  | .relaying _ session _ => some session
  | .binding _ session _ _ => some session
  | .associated state => some state.session
  | _ => none

end Stage

/-- What the remote side of a connection sends towards the client. -/
def ConnectionAction.replies : ConnectionAction → List UInt8
  | .copy action => action.sends .right
  | .udp action => action.datagrams.flatMap Datagram.wire
  | _ => []

/-- A step of the copies is one of `relay` in which the client sends nothing more. -/
theorem stepCopies_eq_some {copies next : Duplex UInt8} {action : DuplexAction UInt8} :
    stepCopies copies action = some next ↔
      SendsNoMore action ∧ Duplex.step relay copies action = some next := by
  simp [stepCopies]

/-- Nothing more is what the client sends. -/
theorem SendsNoMore.sends_left {action : DuplexAction UInt8} (noMore : SendsNoMore action) :
    action.sends .left = [] := by
  cases action with
  | send side items =>
    cases side with
    | left => contradiction
    | right => rfl
  | close side => rfl
  | read side count => rfl
  | deliver side count => rfl
  | finish side => rfl
  | fail side => rfl

/-- The copies of a client deliver what it sends. -/
theorem run_copies_left {upcoming : List UInt8} {actions : List (DuplexAction UInt8)}
    {copies : Duplex UInt8}
    (ran : Runs.run stepCopies (copiesFrom upcoming) actions = some copies) :
    (copies.lane .left).sent = upcoming := by
  have kept : ∀ (state : Duplex UInt8) (action : DuplexAction UInt8) (next : Duplex UInt8),
      (state.lane .left).sent = upcoming → stepCopies state action = some next →
        (next.lane .left).sent = upcoming := by
    intro state action next before stepped
    have ⟨noMore, relayed⟩ := stepCopies_eq_some.mp stepped
    rw [Duplex.step_sent relayed, noMore.sends_left, List.append_nil, before]
  exact Runs.run_invariant kept rfl ran

namespace HandedOver

variable {config : Config} {peerAddr : SocketAddr} {sent : List UInt8}

/-- A connection is handed over to the fallback with all its bytes when no header is admitted. -/
theorem of_fallback {current : ClientStream} {peeked : List UInt8} {fallbackAddr : String}
    (handed : HandedOver config peerAddr sent (.fallback current peeked fallbackAddr)) :
    peeked ++ current.bytes = sent ∧ fallbackAddr = config.fallbackAddr ∧
      ∀ header rest, ¬ Admits config.passwords sent header rest := by
  generalize same : Dispatch.fallback current peeked fallbackAddr = dispatch at handed
  cases handed with
  | dropped empty => contradiction
  | fallback stream longer some kept refused =>
    obtain ⟨rfl, rfl, rfl⟩ := Dispatch.fallback.inj same
    exact ⟨kept, rfl, refused⟩
  | proxied header leftover stream admits =>
    cases asked : header.command <;> simp [Dispatch.proxy, asked] at same

/-- A connection is handed over to the TCP path with the bytes after an admitted header. -/
theorem of_tcp {current : PrefixedStream ClientStream} {target : Address} {session : Session}
    {connectTimeout : UInt64}
    (handed : HandedOver config peerAddr sent (.tcp current target session connectTimeout)) :
    ∃ header, Admits config.passwords sent header current.upcoming ∧
      header.command = .connect ∧ target = header.address ∧
      session = .new peerAddr header.address header.command ∧
      connectTimeout = config.tcpTimeout := by
  generalize same : Dispatch.tcp current target session connectTimeout = dispatch at handed
  cases handed with
  | dropped empty => contradiction
  | fallback stream longer some kept refused => contradiction
  | proxied header leftover stream admits =>
    cases asked : header.command with
    | connect =>
      simp only [Dispatch.proxy, asked, Dispatch.tcp.injEq] at same
      obtain ⟨rfl, rfl, rfl, rfl⟩ := same
      exact ⟨header, admits, asked, rfl, by rw [asked], rfl⟩
    | udpAssociate => simp [Dispatch.proxy, asked] at same

/-- A connection is handed over to the UDP path with the bytes after an admitted header. -/
theorem of_udp {current : PrefixedStream ClientStream} {session : Session} {udpTimeout : UInt64}
    {udpBindAddr : String}
    (handed : HandedOver config peerAddr sent (.udp current session udpTimeout udpBindAddr)) :
    ∃ header, Admits config.passwords sent header current.upcoming ∧
      header.command = .udpAssociate ∧
      session = .new peerAddr header.address header.command ∧
      udpTimeout = config.udpTimeout ∧ udpBindAddr = config.udpBindAddr := by
  generalize same : Dispatch.udp current session udpTimeout udpBindAddr = dispatch at handed
  cases handed with
  | dropped empty => contradiction
  | fallback stream longer some kept refused => contradiction
  | proxied header leftover stream admits =>
    cases asked : header.command with
    | connect => simp [Dispatch.proxy, asked] at same
    | udpAssociate =>
      simp only [Dispatch.proxy, asked, Dispatch.udp.injEq] at same
      obtain ⟨rfl, rfl, rfl, rfl⟩ := same
      exact ⟨header, admits, asked, by rw [asked], rfl, rfl⟩

end HandedOver

/-- What the stage of a proxied connection does for a header and the bytes that follow it. -/
inductive Stage.Serves (config : Config) (peerAddr : SocketAddr) (header : Header)
    (rest : List UInt8) : Stage → Prop
  /-- The target of the header is being connected to. -/
  | connecting (current : PrefixedStream ClientStream) (asked : header.command = .connect)
      (upcoming : current.upcoming = rest) :
    Stage.Serves config peerAddr header rest (.connecting current header.address
      (.new peerAddr header.address header.command) config.tcpTimeout)
  /-- The target of the header has accepted, and is sent what follows the header. -/
  | relaying (remote : SocketAddr) (session : Session) (copies : Duplex UInt8)
      (network : TcpNetwork) (asked : header.command = .connect)
      (connected : network.connect header.address.connectTarget = .ok remote)
      (sends : (copies.lane .left).sent = rest) :
    Stage.Serves config peerAddr header rest (.relaying remote session copies)
  /-- A socket is being bound. -/
  | binding (current : PrefixedStream ClientStream) (asked : header.command = .udpAssociate)
      (upcoming : current.upcoming = rest) :
    Stage.Serves config peerAddr header rest (.binding current
      (.new peerAddr header.address header.command) config.udpTimeout config.udpBindAddr)
  /-- What follows the header is read as UDP frames. -/
  | associated (state : UdpState) (actions : List UdpAction)
      (asked : header.command = .udpAssociate)
      (ran : Runs.run UdpState.step
        (.start (.new peerAddr header.address header.command) rest) actions = some state) :
    Stage.Serves config peerAddr header rest (.associated state)

/-- The stages of `handle_fallback`, which is called with the fallback of the configuration. -/
inductive Stage.FallsBack (config : Config) : Stage → Prop
  | connecting (stream : ClientStream) (peeked : List UInt8) :
    Stage.FallsBack config (.fallbackConnecting stream peeked config.fallbackAddr)
  | replaying (stream : ClientStream) (written left : List UInt8) :
    Stage.FallsBack config (.replaying stream written left)
  | relaying (replayed : List UInt8) (copies : Duplex UInt8) :
    Stage.FallsBack config (.fallbackRelaying replayed copies)

/-- What the target was sent is a front of what follows an admitted header. -/
theorem Stage.Serves.toTarget_isPrefix {config : Config} {peerAddr : SocketAddr} {header : Header}
    {rest : List UInt8} {stage : Stage} (serves : stage.Serves config peerAddr header rest) :
    stage.toTarget <+: rest := by
  cases serves with
  | connecting current asked upcoming => exact List.nil_prefix
  | relaying remote session copies network asked connected sends =>
    exact sends ▸ (copies.lane .left).delivered_isPrefix
  | binding current asked upcoming => exact List.nil_prefix
  | associated state actions asked ran => exact List.nil_prefix

/-- A stage that serves a header sends nothing to the fallback. -/
theorem Stage.Serves.toBackend_eq {config : Config} {peerAddr : SocketAddr} {header : Header}
    {rest : List UInt8} {stage : Stage} (serves : stage.Serves config peerAddr header rest) :
    stage.toBackend = [] := by
  cases serves <;> rfl

/-- What a task has done when it has returned `Ok`. -/
inductive Stage.Complete (config : Config) (peerAddr : SocketAddr) (sent : List UInt8) :
    Stage → Prop
  /-- The client sent nothing. -/
  | dropped (stream : ClientStream) (peeked : List UInt8) (nothing : sent = []) :
    Stage.Complete config peerAddr sent (.peeking stream peeked)
  /-- The fallback was sent everything, and the client everything that the fallback sent. -/
  | fellBack (replayed : List UInt8) (copies : Duplex UInt8)
      (everything : Stage.toBackend (.fallbackRelaying replayed copies) = sent)
      (answered : (copies.lane .right).delivered = (copies.lane .right).sent) :
    Stage.Complete config peerAddr sent (.fallbackRelaying replayed copies)
  /-- The target was sent everything that follows the header, the client everything that the target
  sent, and the session counts both. -/
  | relayed (header : Header) (remote : SocketAddr) (session : Session) (copies : Duplex UInt8)
      (admits : Admits config.passwords sent header (copies.lane .left).delivered)
      (answered : (copies.lane .right).delivered = (copies.lane .right).sent)
      (counted : session =
        { clientAddr := peerAddr, target := header.address, command := .connect,
          bytesSent := .ofNat (copies.lane .left).delivered.length,
          bytesReceived := .ofNat (copies.lane .right).delivered.length }) :
    Stage.Complete config peerAddr sent (.relaying remote session copies)
  /-- The loop that reads what follows the header as frames has ended for want of activity, or
  because the client closed between frames. The client was sent the frame of every datagram and
  nothing else, and the session counts the payloads that were passed on in either direction. The
  frames that were taken are an excerpt of what follows the header, with at most one lost stretch
  for each datagram: of all of it when the client closed, and then of nothing else when there was
  no datagram. -/
  | associated (header : Header) (rest : List UInt8) (actions : List UdpAction) (state : UdpState)
      (admits : Admits config.passwords sent header rest)
      (ran : Runs.run UdpState.step
        (.start (.new peerAddr header.address .udpAssociate) rest) actions = some state)
      (ended : state.exit = some .idle ∨ state.exit = some .closed)
      (received : state.received = actions.flatMap UdpAction.datagrams)
      (answered : state.written = state.received.flatMap Datagram.wire)
      (counted : state.session =
        { clientAddr := peerAddr, target := header.address, command := .udpAssociate,
          bytesSent := .ofNat (sentBytes state.taken),
          bytesReceived := .ofNat (receivedBytes state.received) })
      (accounted : state.Accounted rest)
      (undisturbed : state.exit = some .closed → state.received = [] →
        readUdpFrames .unexpectedEof rest = (state.frames, .ok ())) :
    Stage.Complete config peerAddr sent (.associated state)

/-- A configuration with one password of 56 letters. -/
def oneConfig : Config where
  bindAddr := "0.0.0.0:443"
  tlsCert := ""
  tlsKey := ""
  passwords := ["aaaaaaaaaaaaaaaaaaaaaaaaaaaaaaaaaaaaaaaaaaaaaaaaaaaaaaaa"]
  udpBindAddr := "0.0.0.0:0"
  tcpTimeout := 300
  udpTimeout := 60
  maxConnections := 1024
  fallbackAddr := "127.0.0.1:80"

/-- A client that sends a header for the password in two pieces, and one byte behind it. -/
def oneClient : ClientStream where
  pieces := [List.replicate 56 0x41,
    [0x0d, 0x0a, 0x01, 0x01, 0x0a, 0x00, 0x00, 0x01, 0x00, 0x50, 0x0d, 0x0a, 0x2a]]
  nonempty := by decide
  ending := none

/-- A network in which every address accepts. -/
def oneNetwork : TcpNetwork where
  resolver _ _ := .ok []
  connectAddr _ := .ok ()
  expires := false
  relay _ := .ok (0, 0)

namespace Connection

variable {config : Config} {peerAddr : SocketAddr} {stream : ClientStream}

/-- A stage with a session serves an admitted header. -/
theorem Traces.serves {exit : Option TaskExit} {stage : Stage} {session : Session}
    (traces : Traces config peerAddr stream exit stage) (proxied : stage.session = some session) :
    ∃ header rest, Admits config.passwords stream.bytes header rest ∧
      stage.Serves config peerAddr header rest := by
  cases traces with
  | handshake notOk => contradiction
  | peeking current peeked looped ended => contradiction
  | fallbackConnecting current peeked fallbackAddr handled notOk => contradiction
  | replaying current written left fallbackAddr handled more notOk => contradiction
  | fallbackRelaying current replayed fallbackAddr actions copies handled ran ended =>
    contradiction
  | connecting current target session connectTimeout handled notOk =>
    obtain ⟨header, admits, asked, rfl, rfl, rfl⟩ := (handleConnection_handsOver handled).of_tcp
    exact ⟨header, _, admits, .connecting current asked rfl⟩
  | relaying current target initial session connectTimeout network remote actions copies handled
      inTime connected ran uncounted counted =>
    obtain ⟨header, admits, asked, rfl, _, _⟩ := (handleConnection_handsOver handled).of_tcp
    exact ⟨header, _, admits, .relaying remote session copies network asked connected
      (run_copies_left ran)⟩
  | binding current session udpTimeout udpBindAddr handled notOk =>
    obtain ⟨header, admits, asked, rfl, rfl, rfl⟩ := (handleConnection_handsOver handled).of_udp
    exact ⟨header, _, admits, .binding current asked rfl⟩
  | associated current session udpTimeout udpBindAddr bindSocket entered state actions handled
      bound ran ended =>
    obtain ⟨header, admits, asked, rfl, _, _⟩ := (handleConnection_handsOver handled).of_udp
    rw [UdpState.bind_ok bound] at ran
    exact ⟨header, _, admits, .associated state actions asked ran⟩

/-- A stage without a session is before the call of a handler or in `handle_fallback`, which is
called when no header is admitted. -/
theorem Traces.fallsBack {exit : Option TaskExit} {stage : Stage}
    (traces : Traces config peerAddr stream exit stage) (unproxied : stage.session = none) :
    (∃ current, stage = .handshake current) ∨ (∃ current peeked, stage = .peeking current peeked) ∨
      (stage.FallsBack config ∧
        ∀ header rest, ¬ Admits config.passwords stream.bytes header rest) := by
  cases traces with
  | handshake notOk => exact .inl ⟨_, rfl⟩
  | peeking current peeked looped ended => exact .inr (.inl ⟨_, _, rfl⟩)
  | fallbackConnecting current peeked fallbackAddr handled notOk =>
    obtain ⟨_, rfl, refused⟩ := (handleConnection_handsOver handled).of_fallback
    exact .inr (.inr ⟨.connecting _ _, refused⟩)
  | replaying current written left fallbackAddr handled more notOk =>
    have refused := (handleConnection_handsOver handled).of_fallback.2.2
    exact .inr (.inr ⟨.replaying _ _ _, refused⟩)
  | fallbackRelaying current replayed fallbackAddr actions copies handled ran ended =>
    have refused := (handleConnection_handsOver handled).of_fallback.2.2
    exact .inr (.inr ⟨.relaying _ _, refused⟩)
  | connecting current target session connectTimeout handled notOk => contradiction
  | relaying current target initial session connectTimeout network remote actions copies handled
      inTime connected ran uncounted counted => contradiction
  | binding current session udpTimeout udpBindAddr handled notOk => contradiction
  | associated current session udpTimeout udpBindAddr bindSocket entered state actions handled
      bound ran ended => contradiction

/-- The target accepts and answers with one byte, and both sides are copied to their end. -/
def oneAnswer : List ConnectionAction :=
  [.tlsAccepted, .peek, .peek, .connect oneNetwork,
    .copy (.send .right [7]), .copy (.close .left), .copy (.read .left 1),
    .copy (.deliver .left 1), .copy (.finish .left), .copy (.read .right 1),
    .copy (.deliver .right 1), .copy (.close .right), .copy (.finish .right),
    .copied fun _ => .other]

/-- The byte behind the header goes to the target, and that of the target to the client. -/
theorem run_oneAnswer :
    ∃ final, Runs.run (step oneConfig) (start (.v4 (.new 127 0 0 1) 5000) oneClient) oneAnswer =
        some final ∧
      final.stage.session.isSome ∧ final.exit = some (.returned (.ok ())) ∧
      final.stage.toTarget = [0x2a] ∧ final.stage.toClient = [7] := by
  have outcome : (Runs.run (step oneConfig) (start (.v4 (.new 127 0 0 1) 5000) oneClient)
      oneAnswer).map (fun final => (final.stage.session.isSome, final.exit, final.stage.toTarget,
        final.stage.toClient)) =
      some (true, some (.returned (.ok ())), [0x2a], [7]) := by decide +kernel
  rcases Option.map_eq_some_iff.mp outcome with ⟨final, ran, seen⟩
  simp only [Prod.mk.injEq] at seen
  exact ⟨final, ran, seen.1, seen.2.1, seen.2.2.1, seen.2.2.2⟩

/-- What the fallback was sent is a front of what the client sends. -/
theorem Traces.toBackend_isPrefix {exit : Option TaskExit} {stage : Stage}
    (traces : Traces config peerAddr stream exit stage) : stage.toBackend <+: stream.bytes := by
  cases traces with
  | replaying current written left fallbackAddr handled more notOk =>
    have kept := (handleConnection_handsOver handled).of_fallback.1
    exact ⟨left ++ current.bytes, by rw [← kept, List.append_assoc]; rfl⟩
  | fallbackRelaying current replayed fallbackAddr actions copies handled ran ended =>
    have kept := (handleConnection_handsOver handled).of_fallback.1
    have delivered := (copies.lane .left).delivered_isPrefix
    rw [run_copies_left ran] at delivered
    rw [← kept]
    exact (List.prefix_append_right_inj _).mpr delivered
  | handshake notOk => exact List.nil_prefix
  | peeking current peeked looped ended => exact List.nil_prefix
  | fallbackConnecting current peeked fallbackAddr handled notOk => exact List.nil_prefix
  | connecting current target session connectTimeout handled notOk => exact List.nil_prefix
  | relaying current target initial session connectTimeout network remote actions copies handled
      inTime connected ran uncounted counted => exact List.nil_prefix
  | binding current session udpTimeout udpBindAddr handled notOk => exact List.nil_prefix
  | associated current session udpTimeout udpBindAddr bindSocket entered state actions handled
      bound ran ended => exact List.nil_prefix

/-- A stage without a session sends nothing to a target. -/
theorem toTarget_unproxied {stage : Stage} (unproxied : stage.session = none) :
    stage.toTarget = [] := by
  cases stage with
  | relaying remote session copies => contradiction
  | _ => rfl

/-- What follows an admitted header, and the header, are determined by the bytes of the client. -/
theorem Traces.serves_admitted {exit : Option TaskExit} {stage : Stage} {header : Header}
    {rest : List UInt8} (traces : Traces config peerAddr stream exit stage)
    (admits : Admits config.passwords stream.bytes header rest) :
    stage.toBackend = [] ∧ stage.toTarget <+: rest := by
  cases proxied : stage.session with
  | some session =>
    rcases traces.serves proxied with ⟨found, tail, again, serves⟩
    obtain ⟨rfl, rfl⟩ := admits.unique again
    exact ⟨serves.toBackend_eq, serves.toTarget_isPrefix⟩
  | none =>
    rw [toTarget_unproxied proxied]
    refine ⟨?_, List.nil_prefix⟩
    rcases traces.fallsBack proxied with handshakes | peeks | fallsBack
    · obtain ⟨current, rfl⟩ := handshakes
      rfl
    · obtain ⟨current, peeked, rfl⟩ := peeks
      rfl
    · exact absurd admits (fallsBack.2 header rest)

/-- Copies that return `Ok` have delivered everything, and count it. -/
theorem relayResult_ok {upcoming : List UInt8} {actions : List (DuplexAction UInt8)}
    {copies : Duplex UInt8} {kind : Side → ErrorKind} {upstream downstream : UInt64}
    (ran : Runs.run stepCopies (copiesFrom upcoming) actions = some copies)
    (returned : relayResult kind copies = some (.ok (upstream, downstream))) :
    (copies.lane .left).delivered = upcoming ∧
      (copies.lane .right).delivered = (copies.lane .right).sent ∧
      upstream = .ofNat upcoming.length ∧
      downstream = .ofNat (copies.lane .right).delivered.length := by
  have ⟨everything, combined⟩ := joinResults_ok returned
  have counts := Prod.mk.inj (Except.ok.inj combined)
  have left := everything .left
  rw [run_copies_left ran] at left counts
  exact ⟨left, everything .right, counts.1.symm, by rw [everything .right]; exact counts.2.symm⟩

/-- A stage at which `Ok` was returned is complete. -/
theorem Traces.complete {exit : Option TaskExit} {stage : Stage}
    (traces : Traces config peerAddr stream exit stage) (ok : ReturnedOk exit) :
    stage.Complete config peerAddr stream.bytes := by
  cases traces with
  | handshake notOk => exact absurd ok notOk
  | peeking current peeked looped ended =>
    have handed := handleConnection_handsOver (ended ok)
    generalize same : Dispatch.dropped = dispatch at handed
    cases handed with
    | dropped nothing => exact .dropped current peeked nothing
    | fallback stream longer some kept refused => contradiction
    | proxied header leftover stream admits =>
      cases asked : header.command <;> simp [Dispatch.proxy, asked] at same
  | fallbackConnecting current peeked fallbackAddr handled notOk => exact absurd ok notOk
  | replaying current written left fallbackAddr handled more notOk => exact absurd ok notOk
  | fallbackRelaying current replayed fallbackAddr actions copies handled ran ended =>
    rcases ended ok with ⟨kind, counts, returned⟩
    rcases relayResult_ok ran returned with ⟨everything, answered, _, _⟩
    refine .fellBack replayed copies ?_ answered
    rw [Stage.toBackend, everything]
    exact (handleConnection_handsOver handled).of_fallback.1
  | connecting current target session connectTimeout handled notOk => exact absurd ok notOk
  | relaying current target initial session connectTimeout network remote actions copies handled
      inTime connected ran uncounted counted =>
    rcases counted ok with ⟨kind, upstream, downstream, returned, total⟩
    rcases relayResult_ok ran returned with ⟨everything, answered, upCounted, downCounted⟩
    rcases (handleConnection_handsOver handled).of_tcp with ⟨header, admits, asked, _, first, _⟩
    refine .relayed header remote session copies (everything ▸ admits) answered ?_
    rw [total, first, asked, everything, upCounted, downCounted]
    simp [Session.addSent, Session.addReceived, Session.new]
  | binding current session udpTimeout udpBindAddr handled notOk => exact absurd ok notOk
  | associated current session udpTimeout udpBindAddr bindSocket entered state actions handled
      bound ran ended =>
    rcases (handleConnection_handsOver handled).of_udp with ⟨header, admits, asked, rfl, _, _⟩
    rw [UdpState.bind_ok bound, asked] at ran
    have wrote := UdpState.wrote_of_ended (ended ok)
    have delivers := (UdpState.run_delivering ran).1 wrote
    have accounted := UdpState.run_accounted ran
    exact .associated header _ actions state admits ran (ended ok)
      (UdpState.run_received ran wrote) delivers.wrote delivers.counted accounted accounted.drains

/-- No target is sent anything when no header is admitted. -/
theorem Traces.toTarget_eq_nil {exit : Option TaskExit} {stage : Stage}
    (traces : Traces config peerAddr stream exit stage)
    (refused : ∀ header rest, ¬ Admits config.passwords stream.bytes header rest) :
    stage.toTarget = [] := by
  cases proxied : stage.session with
  | none => exact toTarget_unproxied proxied
  | some session =>
    rcases traces.serves proxied with ⟨header, rest, admits, _⟩
    exact absurd admits (refused header rest)

/-- The bytes of a client go to one place, in order, in every run. The fallback is sent a front of
what the client sends. When that starts with an admitted header the fallback is sent nothing, and
the target that is connected to a front of what follows the header; when not, no target is sent
anything. When the task returns `Ok` it is complete. A fallback or a target was sent everything,
what came back was delivered to the client as well, and the session of a target counts both. A UDP
association has delivered every datagram and counts what was passed on in either direction; the
frames that it has taken are an excerpt of what follows the header, of all of it when the client has
closed, with at most one lost stretch for each datagram. -/
theorem run_conserves_bytes {actions : List ConnectionAction} {final : Connection}
    (ran : Runs.run (step config) (start peerAddr stream) actions = some final) :
    final.stage.toBackend <+: stream.bytes ∧
    (∀ header rest, Admits config.passwords stream.bytes header rest →
      final.stage.toBackend = [] ∧ final.stage.toTarget <+: rest) ∧
    ((∀ header rest, ¬ Admits config.passwords stream.bytes header rest) →
      final.stage.toTarget = []) ∧
    (final.exit = some (.returned (.ok ())) →
      final.stage.Complete config peerAddr stream.bytes) := by
  have traces := (run_follows ran).traces
  refine ⟨traces.toBackend_isPrefix, ?_, traces.toTarget_eq_nil, traces.complete⟩
  intro header rest admits
  exact traces.serves_admitted admits

/-- A client that sends a header for an association and one frame behind it. -/
def oneAssociate : ClientStream where
  pieces := [List.replicate 56 0x41,
    [0x0d, 0x0a, 0x03, 0x01, 0x0a, 0x00, 0x00, 0x01, 0x00, 0x50, 0x0d, 0x0a,
      0x01, 0x0a, 0x00, 0x00, 0x01, 0x00, 0x35, 0x00, 0x01, 0x0d, 0x0a, 0x2a]]
  nonempty := by decide
  ending := none

/-- The frame is sent to its target, a datagram comes back, and then nothing happens. -/
def oneExchange : List ConnectionAction :=
  [.tlsAccepted, .peek, .peek, .bind fun _ => .ok (.ok ()), .udp (.arrive 12),
    .udp (.pollClient (fun _ _ => .ok []) fun _ _ => .ok ()),
    .udp (.remote (.v4 (.new 10 0 0 1) 53) [7, 8] (.ok ())), .udp .idleTimeout]

/-- The run with one answer is complete: its one byte behind the header was delivered and counted.
So is the association, which has delivered the frame of its datagram. -/
theorem run_conserves_bytes_oneAnswer :
    (∃ final, Runs.run (step oneConfig) (start (.v4 (.new 127 0 0 1) 5000) oneClient) oneAnswer =
        some final ∧ final.stage.toTarget = [0x2a] ∧
      final.stage.Complete oneConfig (.v4 (.new 127 0 0 1) 5000) oneClient.bytes) ∧
    ∃ final, Runs.run (step oneConfig) (start (.v4 (.new 127 0 0 1) 5000) oneAssociate)
        oneExchange = some final ∧
      final.stage.toClient =
        [0x01, 0x0a, 0x00, 0x00, 0x01, 0x00, 0x35, 0x00, 0x02, 0x0d, 0x0a, 7, 8] ∧
      final.stage.Complete oneConfig (.v4 (.new 127 0 0 1) 5000) oneAssociate.bytes := by
  constructor
  · rcases run_oneAnswer with ⟨final, ran, _, ok, target, _⟩
    exact ⟨final, ran, target, (run_conserves_bytes ran).2.2.2 ok⟩
  · have outcome : (Runs.run (step oneConfig) (start (.v4 (.new 127 0 0 1) 5000) oneAssociate)
        oneExchange).map (fun final => (final.exit, final.stage.toClient)) =
        some (some (.returned (.ok ())),
          [0x01, 0x0a, 0x00, 0x00, 0x01, 0x00, 0x35, 0x00, 0x02, 0x0d, 0x0a, 7, 8]) := by
      decide +kernel
    rcases Option.map_eq_some_iff.mp outcome with ⟨final, ran, seen⟩
    rcases Prod.mk.inj seen with ⟨ok, client⟩
    exact ⟨final, ran, client, (run_conserves_bytes ran).2.2.2 ok⟩

/-- What the client was sent agrees with what it was answered by these actions. -/
def Answered (done : List ConnectionAction) (state : Connection) : Prop :=
  match state.stage with
  | .fallbackRelaying _ copies =>
    (copies.lane .right).sent = done.flatMap ConnectionAction.replies
  | .relaying _ _ copies => (copies.lane .right).sent = done.flatMap ConnectionAction.replies
  | .associated current =>
    current.written <+: done.flatMap ConnectionAction.replies ∧
      ((∀ kind, current.exit ≠ some (.writeFailed kind)) →
        current.written = done.flatMap ConnectionAction.replies)
  | _ => done.flatMap ConnectionAction.replies = []

/-- Before anything was answered, a handler is called without an answer. -/
theorem answered_call {done : List ConnectionAction} {state : Connection} {current : ClientStream}
    {peeked : List UInt8} (located : state.stage = .peeking current peeked)
    (silent : done.flatMap ConnectionAction.replies = []) (result : Result Dispatch) :
    Answered done (state.call result) := by
  have stays : ∀ returned, Answered done (state.leave returned) := by
    intro returned
    unfold Answered leave
    rw [located]
    exact silent
  cases result with
  | error fault => exact stays (.error fault)
  | ok dispatch =>
    cases dispatch with
    | dropped => exact stays (.ok ())
    | fallback next longer fallbackAddr => exact silent
    | tcp next target session connectTimeout => exact silent
    | udp next session udpTimeout udpBindAddr => exact silent

/-- The copies of a handler start without an answer. -/
theorem copiesFrom_right (upcoming : List UInt8) :
    ((copiesFrom upcoming).lane .right).sent = [] := rfl

/-- Every step answers the client with what its action sends. -/
theorem answered_step (done : List ConnectionAction) (state : Connection)
    (action : ConnectionAction) (next : Connection) (answered : Answered done state)
    (stepped : state.step config action = some next) : Answered (done ++ [action]) next := by
  have longer : (done ++ [action]).flatMap ConnectionAction.replies =
      done.flatMap ConnectionAction.replies ++ action.replies := by
    rw [List.flatMap_append, List.flatMap_singleton]
  unfold Answered at answered
  rcases step_moves stepped with ⟨runs, moves⟩
  cases moves with
  | tlsAccepted stream located =>
    rw [located] at answered
    exact longer.trans (List.append_eq_nil_iff.mpr ⟨answered, rfl⟩)
  | tlsFailed stream located =>
    rw [located] at answered
    unfold Answered
    dsimp only
    rw [located]
    exact longer.trans (List.append_eq_nil_iff.mpr ⟨answered, rfl⟩)
  | peek current peeked located =>
    rw [located] at answered
    have silent := longer.trans (List.append_eq_nil_iff.mpr ⟨answered, rfl⟩)
    unfold peek
    cases peekTurn config current peeked with
    | goesOn later bytes => exact silent
    | ends outcome => exact answered_call located silent _
  | fallbackConnect current peeked fallbackAddr answer located =>
    rw [located] at answered
    have silent := longer.trans (List.append_eq_nil_iff.mpr ⟨answered, rfl⟩)
    cases answer with
    | error e =>
      unfold Answered fallbackConnect leave
      rw [located]
      exact silent
    | ok connected =>
      unfold fallbackConnect
      dsimp only
      split
      · exact (copiesFrom_right current.bytes).trans silent.symm
      · exact silent
  | replay current written left count located some =>
    rw [located] at answered
    have silent := longer.trans (List.append_eq_nil_iff.mpr ⟨answered, rfl⟩)
    unfold replay
    split
    · exact (copiesFrom_right current.bytes).trans silent.symm
    · exact silent
  | replayFailed current written left kind located =>
    rw [located] at answered
    unfold Answered leave
    rw [located]
    exact longer.trans (List.append_eq_nil_iff.mpr ⟨answered, rfl⟩)
  | fallbackCopy replayed copies later action located moved =>
    rw [located] at answered
    have ⟨_, relayed⟩ := stepCopies_eq_some.mp moved
    change (later.lane .right).sent = _
    rw [longer, Duplex.step_sent relayed, answered]
    rfl
  | fallbackCopied replayed copies kind result located returned =>
    rw [located] at answered
    unfold Answered fallbackCopied leave
    rw [located, longer]
    exact answered.trans (List.append_nil _).symm
  | connect current target session connectTimeout network located =>
    rw [located] at answered
    have silent := longer.trans (List.append_eq_nil_iff.mpr ⟨answered, rfl⟩)
    have stays : ∀ returned, Answered (done ++ [.connect network]) (state.leave returned) := by
      intro returned
      unfold Answered leave
      rw [located]
      exact silent
    unfold connect
    split
    · exact stays _
    · split
      · exact stays _
      · exact (copiesFrom_right current.upcoming).trans silent.symm
  | copy remote session copies later action located moved =>
    rw [located] at answered
    have ⟨_, relayed⟩ := stepCopies_eq_some.mp moved
    change (later.lane .right).sent = _
    rw [longer, Duplex.step_sent relayed, answered]
    rfl
  | copied remote session copies kind result located returned =>
    rw [located] at answered
    have same := answered.trans (List.append_nil _).symm
    cases result with
    | error fault =>
      unfold Answered Connection.copied leave
      rw [located, longer]
      exact same
    | ok counts =>
      change (copies.lane .right).sent = _
      rw [longer]
      exact same
  | bind current session udpTimeout udpBindAddr bindSocket located =>
    rw [located] at answered
    have silent := longer.trans (List.append_eq_nil_iff.mpr ⟨answered, rfl⟩)
    unfold bind
    cases bound : UdpState.bind bindSocket session udpBindAddr current.upcoming with
    | error fault =>
      unfold Answered leave
      rw [located]
      exact silent
    | ok entered =>
      have empty : entered.written = [] := by rw [UdpState.bind_ok bound]; rfl
      have same := empty.trans silent.symm
      exact ⟨same ▸ List.prefix_rfl, fun _ => same⟩
  | udp current later action located moved =>
    rw [located] at answered
    have inside := (UdpState.step_eq_some.mp moved).1
    have wrote := answered.2 (fun kind failed => by rw [inside] at failed; contradiction)
    rcases UdpState.written_step moved with ⟨part, isFront, written, whole⟩
    have associated : (state.associate later).stage = .associated later := by
      unfold associate
      cases later.exit <;> rfl
    unfold Answered
    rw [associated]
    dsimp only
    rw [longer, written, wrote]
    refine ⟨(List.prefix_append_right_inj _).mpr isFront, ?_⟩
    intro notFailed
    rw [whole notFailed]
    rfl

/-- In every run the client was answered by its actions. -/
theorem run_answered {actions : List ConnectionAction} {final : Connection}
    (ran : Runs.run (step config) (start peerAddr stream) actions = some final) :
    Answered actions final := by
  have begins : Answered [] (start peerAddr stream) := rfl
  exact Runs.run_history answered_step begins ran

/-- What the client was sent is a front of what it was answered. -/
theorem Answered.toClient_isPrefix {done : List ConnectionAction} {state : Connection}
    (answered : Answered done state) :
    state.stage.toClient <+: done.flatMap ConnectionAction.replies := by
  unfold Answered at answered
  cases located : state.stage with
  | fallbackRelaying replayed copies =>
    rw [located] at answered
    exact answered ▸ (copies.lane .right).delivered_isPrefix
  | relaying remote session copies =>
    rw [located] at answered
    exact answered ▸ (copies.lane .right).delivered_isPrefix
  | associated current =>
    rw [located] at answered
    exact answered.1
  | _ => exact List.nil_prefix

/-- The server adds nothing of its own to what the client is sent, in any run, whatever the client
did and however the connection ends: that is a front of what the fallback or the target sent, or of
the frames of the datagrams that were received. When the task returns `Ok` it is all of that. -/
theorem run_transparent {actions : List ConnectionAction} {final : Connection}
    (ran : Runs.run (step config) (start peerAddr stream) actions = some final) :
    final.stage.toClient <+: actions.flatMap ConnectionAction.replies ∧
    (final.exit = some (.returned (.ok ())) →
      final.stage.toClient = actions.flatMap ConnectionAction.replies) := by
  have answered := run_answered ran
  refine ⟨answered.toClient_isPrefix, ?_⟩
  intro ok
  have complete := (run_follows ran).traces.complete ok
  unfold Answered at answered
  generalize located : final.stage = stage at complete answered
  cases complete with
  | dropped current peeked nothing => exact answered.symm
  | fellBack replayed copies everything back => exact back.trans answered
  | relayed header remote session copies admits back counted => exact back.trans answered
  | associated header rest performed current admits ran ended received wrote counted accounted
      undisturbed => exact answered.2 (UdpState.wrote_of_ended ended)

/-- The client of that run was sent the byte of the target and nothing else. -/
theorem run_transparent_oneAnswer :
    ∃ final, Runs.run (step oneConfig) (start (.v4 (.new 127 0 0 1) 5000) oneClient) oneAnswer =
        some final ∧
      final.stage.toClient = oneAnswer.flatMap ConnectionAction.replies ∧
      final.stage.toClient = [7] := by
  rcases run_oneAnswer with ⟨final, ran, _, ok, _, client⟩
  exact ⟨final, ran, (run_transparent ran).2 ok, client⟩

end Connection

end TrojanRust
