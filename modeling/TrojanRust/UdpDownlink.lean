import TrojanRust.UdpUplink

/-!
# Datagrams to the client

Every datagram is framed and written whole before the loop goes on, so at each head of the loop
the client has been sent a stream of frames, one for each datagram in the order of receipt, and
the counters of the session agree with what was passed on in both directions. Nothing that
happens on the client side has an influence on this.
-/

namespace TrojanRust

open TrojanRust.Bytes Runs

namespace Datagram

/-- The bytes that a datagram is passed on with. -/
def wire (datagram : Datagram) : List UInt8 :=
  match buildUdpFrame datagram.source datagram.payload with
  | .ok frame => frame
  | .error _ => []

/-- A received datagram can always be framed. -/
theorem buildUdpFrame_eq (datagram : Datagram) :
    buildUdpFrame datagram.source datagram.payload = .ok datagram.wire := by
  have allowed : ¬ udpMaxPayloadLen < datagram.payload.length := Nat.not_lt.mpr datagram.fits
  simp only [wire, buildUdpFrame, if_neg allowed, pure, Except.pure]

end Datagram

/-- The bytes of the frames that were sent. -/
def sentBytes (taken : List TakenFrame) : Nat :=
  ((taken.filter fun frame => frame.sentTo.isSome).map fun frame =>
    frame.frame.payload.length).sum

/-- The bytes of the datagrams that were received. -/
def receivedBytes (received : List Datagram) : Nat :=
  (received.map fun datagram => datagram.payload.length).sum

/-- The datagram that an action lets the loop receive. -/
def UdpAction.datagrams : UdpAction → List Datagram
  | .remote source payload _ => [.receive source payload]
  | _ => []

namespace UdpState

/-- The client was sent the frames of the received datagrams, and the session with which the loop
was entered counts what was passed on in either direction. -/
structure Delivers (opened : Session) (state : UdpState) : Prop where
  wrote : state.written = state.received.flatMap Datagram.wire
  counted : state.session = { opened with
    bytesSent := .ofNat (sentBytes state.taken)
    bytesReceived := .ofNat (receivedBytes state.received) }

/-- Everything was delivered unless a write has failed, and the loop never ends for want of a
frame. -/
def Delivering (opened : Session) (state : UdpState) : Prop :=
  ((∀ kind, state.exit ≠ some (.writeFailed kind)) → state.Delivers opened) ∧
    ∀ fault, state.exit ≠ some (.unframed fault)

/-- A frame from the client leaves what was delivered alone, and is counted when it was sent. -/
theorem Delivers.forward {opened : Session} {state : UdpState} (delivers : state.Delivers opened)
    (lookupHost : String → UInt16 → Except String (List SocketAddr))
    (sendTo : SocketAddr → List UInt8 → Except ErrorKind Unit) (frame : UdpFrame) :
    (state.forward lookupHost sendTo frame).Delivers opened := by
  have skipped : UdpState.Delivers opened
      { state with taken := state.taken ++ [⟨frame, none⟩] } := by
    refine ⟨delivers.wrote, ?_⟩
    rw [delivers.counted]
    simp [sentBytes]
  unfold UdpState.forward
  cases resolveTarget lookupHost frame.address with
  | error fault => exact skipped
  | ok target =>
    dsimp only
    cases sendTo target frame.payload with
    | error kind => exact skipped
    | ok done =>
      refine ⟨delivers.wrote, ?_⟩
      simp only [Session.addSent, delivers.counted, ← UInt64.ofNat_add]
      simp [sentBytes]

/-- An event of the client leaves what was delivered alone. -/
theorem Delivers.clientEvent {opened : Session} {state : UdpState}
    (delivers : state.Delivers opened) (inside : state.exit = none)
    (lookupHost : String → UInt16 → Except String (List SocketAddr))
    (sendTo : SocketAddr → List UInt8 → Except ErrorKind Unit)
    (result : Result (Option UdpFrame)) :
    (state.clientEvent lookupHost sendTo result).Delivering opened := by
  have left : ∀ exit, UdpState.Delivers opened { state with exit := some exit } :=
    fun _ => ⟨delivers.wrote, delivers.counted⟩
  cases result with
  | error fault => exact ⟨fun _ => left _, by simp [UdpState.clientEvent]⟩
  | ok event =>
    cases event with
    | none => exact ⟨fun _ => left _, by simp [UdpState.clientEvent]⟩
    | some frame =>
      have forwarded := delivers.forward lookupHost sendTo frame
      obtain ⟨_, exit, _⟩ := forward_frames lookupHost sendTo state frame
      refine ⟨fun _ => ⟨forwarded.wrote, forwarded.counted⟩, ?_⟩
      intro fault unframed
      have still : (state.forward lookupHost sendTo frame).exit = none := exit.trans inside
      simp [UdpState.clientEvent, nextTurn, still] at unframed

/-- Every step of the loop delivers. -/
theorem delivering_step {opened : Session} (state : UdpState) (action : UdpAction)
    (next : UdpState) (delivering : state.Delivering opened)
    (stepped : state.step action = some next) : next.Delivering opened := by
  obtain ⟨inside, steps⟩ := step_eq_some.mp stepped
  have delivers := delivering.1 (by simp [inside])
  cases steps with
  | arrive count isOpen => exact ⟨fun _ => ⟨delivers.wrote, delivers.counted⟩, delivering.2⟩
  | clientEnd reason isOpen all =>
    exact ⟨fun _ => ⟨delivers.wrote, delivers.counted⟩, delivering.2⟩
  | pollClient lookupHost sendTo =>
    have moved : ∀ inbox, UdpState.Delivers opened { state with inbox := inbox } :=
      fun _ => ⟨delivers.wrote, delivers.counted⟩
    unfold UdpState.pollClient
    cases state.read.feed (state.held ++ state.inbox) with
    | ready result left => exact (moved left).clientEvent inside _ _ _
    | pending waiting held =>
      cases ended : state.ended with
      | none => exact ⟨fun _ => ⟨delivers.wrote, delivers.counted⟩, delivering.2⟩
      | some reason =>
        dsimp only
        rw [← ended]
        exact (moved (waiting.run reason held).2).clientEvent inside _ _ _
  | remote source payload writeAll =>
    unfold UdpState.remoteEvent
    rw [Datagram.buildUdpFrame_eq]
    cases writeAll with
    | error failure => exact ⟨fun wrote => absurd rfl (wrote failure.1), by simp⟩
    | ok done =>
      refine ⟨fun _ => ⟨?_, ?_⟩, delivering.2⟩
      · simp [nextTurn, delivers.wrote]
      · simp only [nextTurn, Session.addReceived, delivers.counted, ← UInt64.ofNat_add]
        simp [receivedBytes]
  | remoteError kind => exact ⟨fun _ => ⟨delivers.wrote, delivers.counted⟩, by simp⟩
  | idleTimeout => exact ⟨fun _ => ⟨delivers.wrote, delivers.counted⟩, by simp⟩

/-- A run of the loop delivers. -/
theorem run_delivering {clientAddr : SocketAddr} {target : Address} {command : Command}
    {upcoming : List UInt8} {actions : List UdpAction} {final : UdpState}
    (ran : run step (start (.new clientAddr target command) upcoming) actions = some final) :
    final.Delivering (.new clientAddr target command) := by
  have begins : (start (.new clientAddr target command) upcoming).Delivering
      (.new clientAddr target command) := ⟨fun _ => ⟨rfl, rfl⟩, by simp [start]⟩
  exact run_invariant delivering_step begins ran

/-- A loop that has returned `Ok` has not failed to write. -/
theorem wrote_of_ended {state : UdpState}
    (ended : state.exit = some .idle ∨ state.exit = some .closed) (kind : ErrorKind) :
    state.exit ≠ some (.writeFailed kind) := by
  cases ended with
  | inl idle => simp [idle]
  | inr closed => simp [closed]

/-- A frame from the client receives no datagram. -/
theorem forward_received (lookupHost : String → UInt16 → Except String (List SocketAddr))
    (sendTo : SocketAddr → List UInt8 → Except ErrorKind Unit) (state : UdpState)
    (frame : UdpFrame) : (state.forward lookupHost sendTo frame).received = state.received := by
  unfold forward
  cases resolveTarget lookupHost frame.address with
  | error fault => rfl
  | ok target =>
    dsimp only
    cases sendTo target frame.payload <;> rfl

/-- An event of the client receives no datagram. -/
theorem clientEvent_received (lookupHost : String → UInt16 → Except String (List SocketAddr))
    (sendTo : SocketAddr → List UInt8 → Except ErrorKind Unit) (state : UdpState)
    (result : Result (Option UdpFrame)) :
    (state.clientEvent lookupHost sendTo result).received = state.received := by
  cases result with
  | error fault => rfl
  | ok event =>
    cases event with
    | none => rfl
    | some frame => exact forward_received lookupHost sendTo state frame

/-- A step receives the datagram of its action unless a write has failed. -/
theorem received_step (state : UdpState) (action : UdpAction) (next : UdpState)
    (stepped : state.step action = some next)
    (wrote : ∀ kind, next.exit ≠ some (.writeFailed kind)) :
    (∀ kind, state.exit ≠ some (.writeFailed kind)) ∧
      next.received = state.received ++ action.datagrams := by
  obtain ⟨inside, steps⟩ := step_eq_some.mp stepped
  refine ⟨by simp [inside], ?_⟩
  cases steps with
  | arrive count isOpen => simp [UdpAction.datagrams]
  | clientEnd reason isOpen all => simp [UdpAction.datagrams]
  | pollClient lookupHost sendTo =>
    simp only [UdpAction.datagrams, List.append_nil]
    unfold UdpState.pollClient
    cases state.read.feed (state.held ++ state.inbox) with
    | ready result left => exact clientEvent_received _ _ _ _
    | pending waiting held =>
      cases state.ended with
      | none => rfl
      | some reason => exact clientEvent_received _ _ _ _
  | remote source payload writeAll =>
    unfold UdpState.remoteEvent at wrote ⊢
    rw [Datagram.buildUdpFrame_eq] at wrote ⊢
    cases writeAll with
    | error failure => exact absurd rfl (wrote failure.1)
    | ok done => rfl
  | remoteError kind => simp [UdpAction.datagrams]
  | idleTimeout => simp [UdpAction.datagrams]

/-- A run receives the datagrams of its actions unless a write has failed. -/
theorem run_received {session : Session} {upcoming : List UInt8} {actions : List UdpAction}
    {final : UdpState} (ran : run step (start session upcoming) actions = some final)
    (wrote : ∀ kind, final.exit ≠ some (.writeFailed kind)) :
    final.received = actions.flatMap UdpAction.datagrams := by
  have logged := (run_logs received_step ran wrote).2
  rw [logged]
  rfl

/-- A frame from the client writes nothing to it. -/
theorem forward_written (lookupHost : String → UInt16 → Except String (List SocketAddr))
    (sendTo : SocketAddr → List UInt8 → Except ErrorKind Unit) (state : UdpState)
    (frame : UdpFrame) : (state.forward lookupHost sendTo frame).written = state.written := by
  unfold forward
  cases resolveTarget lookupHost frame.address with
  | error fault => rfl
  | ok target =>
    dsimp only
    cases sendTo target frame.payload <;> rfl

/-- An event of the client writes nothing to it. -/
theorem clientEvent_written (lookupHost : String → UInt16 → Except String (List SocketAddr))
    (sendTo : SocketAddr → List UInt8 → Except ErrorKind Unit) (state : UdpState)
    (result : Result (Option UdpFrame)) :
    (state.clientEvent lookupHost sendTo result).written = state.written := by
  cases result with
  | error fault => rfl
  | ok event =>
    cases event with
    | none => rfl
    | some frame => exact forward_written lookupHost sendTo state frame

/-- A poll of the client writes nothing to it. -/
theorem pollClient_written (lookupHost : String → UInt16 → Except String (List SocketAddr))
    (sendTo : SocketAddr → List UInt8 → Except ErrorKind Unit) (state : UdpState) :
    (state.pollClient lookupHost sendTo).written = state.written := by
  unfold UdpState.pollClient
  cases state.read.feed (state.held ++ state.inbox) with
  | ready result left => exact clientEvent_written _ _ _ _
  | pending waiting held =>
    cases state.ended with
    | none => rfl
    | some reason => exact clientEvent_written _ _ _ _

/-- A step writes a front of the frame of its datagram to the client, and all of it unless the write
fails. -/
theorem written_step {state next : UdpState} {action : UdpAction}
    (stepped : state.step action = some next) :
    ∃ part, part <+: action.datagrams.flatMap Datagram.wire ∧
      next.written = state.written ++ part ∧
      ((∀ kind, next.exit ≠ some (.writeFailed kind)) →
        part = action.datagrams.flatMap Datagram.wire) := by
  rcases step_eq_some.mp stepped with ⟨inside, steps⟩
  cases steps with
  | arrive count isOpen => exact ⟨[], List.prefix_rfl, (List.append_nil _).symm, fun _ => rfl⟩
  | clientEnd reason isOpen all =>
    exact ⟨[], List.prefix_rfl, (List.append_nil _).symm, fun _ => rfl⟩
  | pollClient lookupHost sendTo =>
    refine ⟨[], List.prefix_rfl, ?_, fun _ => rfl⟩
    rw [pollClient_written, List.append_nil]
  | remote source payload writeAll =>
    have one : UdpAction.datagrams (.remote source payload writeAll) =
        [Datagram.receive source payload] := rfl
    rw [one, List.flatMap_singleton]
    unfold UdpState.remoteEvent
    rw [Datagram.buildUdpFrame_eq]
    cases writeAll with
    | error failure =>
      refine ⟨_, List.take_prefix failure.2 _, rfl, ?_⟩
      intro written
      exact absurd rfl (written failure.1)
    | ok done => exact ⟨_, List.prefix_rfl, rfl, fun _ => rfl⟩
  | remoteError kind => exact ⟨[], List.prefix_rfl, (List.append_nil _).symm, fun _ => rfl⟩
  | idleTimeout => exact ⟨[], List.prefix_rfl, (List.append_nil _).symm, fun _ => rfl⟩

end UdpState

end TrojanRust
