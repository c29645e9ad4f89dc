import TrojanRust.Codec.UdpFrame
import TrojanRust.Proxy.UdpLoop

/-!
# Frames from the client

A read that a datagram drops takes its bytes with it, so the loop can lose its place in the
client stream. It keeps its place in every run in which datagrams are received only while the
read has taken nothing: then the frames taken are a front of the frames sent, whatever pieces
they arrive in and whatever becomes of them on the network.
-/

namespace TrojanRust

open TrojanRust.Bytes Runs

/-- A fresh read waits without having taken anything. -/
theorem feed_readUdpFrame_nil : readUdpFrame.feed [] = .pending readUdpFrame [] := rfl

/-- A stream that stops while the frame reader waits ends the session when the reader has taken
nothing and the end is regular, and is an error otherwise. -/
theorem run_readUdpFrame_pending {bytes held : List UInt8}
    {waiting : StreamReader (Option UdpFrame)} (stop : ErrorKind)
    (waits : readUdpFrame.feed bytes = .pending waiting held) :
    (readUdpFrame.run stop bytes).1 =
      if bytes = [] ∧ stop = .unexpectedEof then .ok none else .error (ioFault stop) := by
  cases bytes with
  | nil => cases stop <;> rfl
  | cons atyp rest =>
    have strict : ((readUdpFrameBody atyp >>= fun frame => pure (some frame)) :
        StreamReader (Option UdpFrame)).Strict ioFault :=
      (strict_readUdpFrameBody atyp).bind fun _ => Reader.strict_pure _ _
    rw [feed_readUdpFrame_cons] at waits
    have stopped := strict.run_waiting waits stop
    rw [if_neg (by simp), Reader.run_eq_feed, feed_readUdpFrame_cons, ← Reader.run_eq_feed, stopped]

namespace UdpState

/-- The ways in which the loop goes on. -/
inductive Steps (state : UdpState) : UdpAction → UdpState → Prop
  | arrive (count : Nat) (isOpen : state.ended = none) :
    Steps state (.arrive count) { state with
      inbox := state.inbox ++ state.upcoming.take count
      upcoming := state.upcoming.drop count }
  | clientEnd (reason : ErrorKind) (isOpen : state.ended = none)
      (all : reason = .unexpectedEof → state.upcoming = []) :
    Steps state (.clientEnd reason) { state with ended := some reason }
  | pollClient (lookupHost : String → UInt16 → Except String (List SocketAddr))
      (sendTo : SocketAddr → List UInt8 → Except ErrorKind Unit) :
    Steps state (.pollClient lookupHost sendTo) (state.pollClient lookupHost sendTo)
  | remote (source : SocketAddr) (payload : List UInt8)
      (writeAll : Except (ErrorKind × Nat) Unit) :
    Steps state (.remote source payload writeAll)
      (state.remoteEvent (.receive source payload) writeAll)
  | remoteError (kind : ErrorKind) :
    Steps state (.remoteError kind) { state with exit := some (.receiveFailed kind) }
  | idleTimeout : Steps state .idleTimeout { state with exit := some .idle }

/-- A step is taken only inside the loop, and in one of these ways. -/
theorem step_eq_some {state next : UdpState} {action : UdpAction} :
    state.step action = some next ↔ state.exit = none ∧ state.Steps action next := by
  constructor
  · intro stepped
    unfold step at stepped
    split at stepped
    · contradiction
    · rename_i inside
      refine ⟨by simpa using inside, ?_⟩
      cases action with
      | arrive count =>
        simp only [Option.ite_none_left_eq_some, Option.some.injEq] at stepped
        obtain ⟨isOpen, rfl⟩ := stepped
        exact .arrive count (by simpa using isOpen)
      | clientEnd reason =>
        simp only [Option.ite_none_left_eq_some, Option.some.injEq, not_or, not_and,
          ne_eq, not_not] at stepped
        obtain ⟨⟨isOpen, all⟩, rfl⟩ := stepped
        exact .clientEnd reason (by simpa using isOpen) all
      | pollClient lookupHost sendTo =>
        obtain rfl := Option.some.inj stepped
        exact .pollClient lookupHost sendTo
      | remote source payload writeAll =>
        obtain rfl := Option.some.inj stepped
        exact .remote source payload writeAll
      | remoteError kind =>
        obtain rfl := Option.some.inj stepped
        exact .remoteError kind
      | idleTimeout =>
        obtain rfl := Option.some.inj stepped
        exact .idleTimeout
  · rintro ⟨inside, steps⟩
    have goesOn : ¬ state.exit.isSome := by simp [inside]
    unfold step
    rw [if_neg goesOn]
    cases steps with
    | arrive count isOpen => simp [isOpen]
    | clientEnd reason isOpen all =>
      have allowed : ¬ (state.ended.isSome ∨
          (reason = .unexpectedEof ∧ state.upcoming ≠ [])) := by
        simpa [isOpen] using all
      exact if_neg allowed
    | pollClient lookupHost sendTo => rfl
    | remote source payload writeAll => rfl
    | remoteError kind => rfl
    | idleTimeout => rfl

/-- The frames that the loop has taken, as they were read. -/
def frames (state : UdpState) : List UdpFrame := state.taken.map TakenFrame.frame

/-- The frames taken are a front of the frames sent, and all of them when the loop has seen the
end of the client stream. A read has failed only when the client stream ended irregularly. -/
structure TakesInOrder (sent : List UdpFrame) (state : UdpState) : Prop where
  front : state.frames <+: sent
  whole : state.exit = some .closed → state.frames = sent
  valid : ∀ fault, state.exit = some (.invalidFrame fault) →
    ∃ reason, state.ended = some reason ∧ reason ≠ .unexpectedEof

/-- A datagram is received only while the read of the turn has taken no byte. -/
def KeepsPlace (state : UdpState) : UdpAction → Prop
  | .remote .. => state.consumed = []
  | _ => True

/-- Inside the loop, the bytes that are not spoken for are exactly the frames that have not been
taken, and the read is what a fresh one comes to on the bytes that it has taken. -/
structure Placed (done rest : List WireFrame) (state : UdpState) : Prop where
  inside : state.exit = none
  took : state.frames = done.map WireFrame.frame
  ahead : state.consumed ++ (state.inbox ++ state.upcoming) = rest.flatMap WireFrame.wire
  reading : readUdpFrame.feed state.consumed = .pending state.read state.held
  regular : state.ended = some .unexpectedEof → state.upcoming = []

/-- The invariant of the loop: it has its place in the client stream, or it has ended with the
frames in order. -/
def InPlace (sent : List WireFrame) (state : UdpState) : Prop :=
  (∃ done rest, sent = done ++ rest ∧ Placed done rest state) ∨
    (state.exit ≠ none ∧ TakesInOrder (sent.map WireFrame.frame) state)

/-- A loop that is in its place has taken the frames in order. -/
theorem InPlace.takesInOrder {sent : List WireFrame} {state : UdpState}
    (inPlace : InPlace sent state) : TakesInOrder (sent.map WireFrame.frame) state := by
  cases inPlace with
  | inr closed => exact closed.2
  | inl running =>
    obtain ⟨done, rest, rfl, placed⟩ := running
    refine ⟨?_, ?_, ?_⟩
    · rw [placed.took, List.map_append]
      exact List.prefix_append _ _
    · intro closed
      simp [placed.inside] at closed
    · intro fault invalid
      simp [placed.inside] at invalid

/-- An exit for a reason other than the client keeps the frames in order. -/
theorem Placed.leaves {done rest : List WireFrame} {state next : UdpState} {exit : UdpExit}
    (placed : Placed done rest state) (left : next.exit = some exit)
    (same : next.frames = state.frames) (notClosed : exit ≠ .closed)
    (notInvalid : ∀ fault, exit ≠ .invalidFrame fault) : InPlace (done ++ rest) next := by
  refine .inr ⟨by simp [left], ?_, ?_, ?_⟩
  · rw [same, placed.took, List.map_append]
    exact List.prefix_append _ _
  · intro closed
    rw [left, Option.some.injEq] at closed
    exact absurd closed notClosed
  · intro fault invalid
    rw [left, Option.some.injEq] at invalid
    exact absurd invalid (notInvalid fault)

/-- Forwarding a frame takes it and changes nothing that the next read depends on. -/
theorem forward_frames (lookupHost : String → UInt16 → Except String (List SocketAddr))
    (sendTo : SocketAddr → List UInt8 → Except ErrorKind Unit) (state : UdpState)
    (frame : UdpFrame) :
    (state.forward lookupHost sendTo frame).frames = state.frames ++ [frame] ∧
      (state.forward lookupHost sendTo frame).exit = state.exit ∧
      (state.forward lookupHost sendTo frame).inbox = state.inbox ∧
      (state.forward lookupHost sendTo frame).upcoming = state.upcoming ∧
      (state.forward lookupHost sendTo frame).ended = state.ended := by
  unfold forward
  cases resolveTarget lookupHost frame.address with
  | error fault => simp [frames]
  | ok target =>
    dsimp only
    cases sendTo target frame.payload with
    | error kind => simp [frames]
    | ok done => simp [frames]

/-- A read that is ready returns the next frame, and leaves the loop in its place behind it. -/
theorem Placed.takes {done rest : List WireFrame} {state : UdpState}
    (placed : Placed done rest state)
    (lookupHost : String → UInt16 → Except String (List SocketAddr))
    (sendTo : SocketAddr → List UInt8 → Except ErrorKind Unit)
    {result : Result (Option UdpFrame)} {left : List UInt8}
    (ready : readUdpFrame.feed (state.consumed ++ state.inbox) = .ready result left) :
    InPlace (done ++ rest)
      (clientEvent lookupHost sendTo { state with inbox := left } result) := by
  have whole := Reader.feed_append readUdpFrame (state.consumed ++ state.inbox) state.upcoming
  rw [List.append_assoc, placed.ahead, ready] at whole
  cases rest with
  | nil => simp [feed_readUdpFrame_nil] at whole
  | cons frame later =>
    have reads := framing_readUdpFrame.spelled frame
    rw [List.flatMap_cons, reads.feed] at whole
    simp only [Reader.Progress.ready.injEq] at whole
    obtain ⟨rfl, ahead⟩ := whole
    dsimp only [clientEvent]
    have ⟨took, exit, inbox, upcoming, ended⟩ :=
      forward_frames lookupHost sendTo { state with inbox := left } frame.frame
    refine .inl ⟨done ++ [frame], later, by simp, ?_⟩
    refine ⟨exit.trans placed.inside, ?_, ?_, feed_readUdpFrame_nil, ?_⟩
    · calc
        _ = state.frames ++ [frame.frame] := took
        _ = (done ++ [frame]).map WireFrame.frame := by rw [placed.took]; simp
    · calc
        _ = left ++ state.upcoming := by
          simp only [nextTurn, inbox, upcoming, List.nil_append]
        _ = later.flatMap WireFrame.wire := ahead.symm
    · intro isEnd
      simp only [nextTurn, ended] at isEnd
      simp only [nextTurn, upcoming]
      exact placed.regular isEnd

/-- At the regular end everything has arrived, so a read that still waits has taken nothing and
no frame is left. -/
theorem Placed.drained {done rest : List WireFrame} {state : UdpState}
    (placed : Placed done rest state) (ended : state.ended = some .unexpectedEof)
    {waiting : StreamReader (Option UdpFrame)} {held : List UInt8}
    (waits : readUdpFrame.feed (state.consumed ++ state.inbox) = .pending waiting held) :
    rest = [] ∧ state.consumed ++ state.inbox = [] := by
  have ahead := placed.ahead
  rw [placed.regular ended, List.append_nil] at ahead
  cases rest with
  | nil => exact ⟨rfl, ahead⟩
  | cons frame later =>
    have reads := framing_readUdpFrame.spelled frame
    rw [ahead, List.flatMap_cons, reads.feed] at waits
    contradiction

/-- A read that waits when the client stream has ended closes the loop with all frames taken at
the regular end, and refuses what it has taken at any other. -/
theorem Placed.stops {done rest : List WireFrame} {state : UdpState}
    (placed : Placed done rest state)
    (lookupHost : String → UInt16 → Except String (List SocketAddr))
    (sendTo : SocketAddr → List UInt8 → Except ErrorKind Unit)
    {reason : ErrorKind} (ended : state.ended = some reason)
    {waiting : StreamReader (Option UdpFrame)} {held : List UInt8}
    (waits : readUdpFrame.feed (state.consumed ++ state.inbox) = .pending waiting held)
    (left : List UInt8) :
    InPlace (done ++ rest) (clientEvent lookupHost sendTo { state with inbox := left }
      (waiting.run reason held).1) := by
  have stopped := run_readUdpFrame_pending reason waits
  rw [Reader.run_eq_feed, waits] at stopped
  dsimp only at stopped
  rw [stopped]
  by_cases regular : reason = .unexpectedEof
  · rw [regular] at ended
    obtain ⟨rfl, nothing⟩ := placed.drained ended waits
    rw [if_pos ⟨nothing, regular⟩]
    refine .inr ⟨by simp [clientEvent], ?_, ?_, ?_⟩
    · rw [List.append_nil]
      exact placed.took ▸ List.prefix_rfl
    · intro _
      rw [List.append_nil]
      exact placed.took
    · intro fault invalid
      simp [clientEvent] at invalid
  · rw [if_neg fun both => regular both.2]
    refine .inr ⟨by simp [clientEvent], ?_, ?_, ?_⟩
    · rw [List.map_append]
      exact placed.took ▸ List.prefix_append _ _
    · intro closed
      simp [clientEvent] at closed
    · intro fault _
      exact ⟨reason, ended, regular⟩

/-- Polling the client keeps the loop in its place, whether the read is ready, waits for more or
learns of the end. -/
theorem Placed.pollClient {done rest : List WireFrame} {state : UdpState}
    (placed : Placed done rest state)
    (lookupHost : String → UInt16 → Except String (List SocketAddr))
    (sendTo : SocketAddr → List UInt8 → Except ErrorKind Unit) :
    InPlace (done ++ rest) (state.pollClient lookupHost sendTo) := by
  have resumed := Reader.feed_append readUdpFrame state.consumed state.inbox
  rw [placed.reading] at resumed
  dsimp only at resumed
  unfold UdpState.pollClient
  cases progress : state.read.feed (state.held ++ state.inbox) with
  | ready result left =>
    rw [progress] at resumed
    exact placed.takes lookupHost sendTo resumed
  | pending waiting held =>
    rw [progress] at resumed
    cases ended : state.ended with
    | none =>
      refine .inl ⟨done, rest, rfl, placed.inside, placed.took, ?_, resumed, ?_⟩
      · rw [← placed.ahead]
        simp
      · intro isEnd
        exact placed.regular (ended ▸ isEnd)
    | some reason =>
      dsimp only
      rw [← ended]
      exact placed.stops lookupHost sendTo ended resumed _

/-- Receiving a datagram keeps the loop in its place when the read has taken nothing. -/
theorem Placed.remoteEvent {done rest : List WireFrame} {state : UdpState}
    (placed : Placed done rest state) (nothing : state.consumed = []) (datagram : Datagram)
    (writeAll : Except (ErrorKind × Nat) Unit) :
    InPlace (done ++ rest) (state.remoteEvent datagram writeAll) := by
  unfold UdpState.remoteEvent
  cases buildUdpFrame datagram.source datagram.payload with
  | error fault => exact placed.leaves rfl rfl (by simp) (by simp)
  | ok frame =>
    cases writeAll with
    | error failure => exact placed.leaves rfl rfl (by simp) (by simp)
    | ok done' =>
      have ahead := placed.ahead
      rw [nothing] at ahead
      exact .inl ⟨done, rest, rfl, placed.inside, placed.took, ahead, feed_readUdpFrame_nil,
        placed.regular⟩

/-- Every step of the loop that loses no byte keeps it in its place. -/
theorem inPlace_step (sent : List WireFrame) (state : UdpState) (action : UdpAction)
    (next : UdpState) (inPlace : InPlace sent state) (keeps : state.KeepsPlace action)
    (stepped : state.step action = some next) : InPlace sent next := by
  have ⟨inside, steps⟩ := step_eq_some.mp stepped
  cases inPlace with
  | inr closed => exact absurd inside closed.1
  | inl running =>
    obtain ⟨done, rest, rfl, placed⟩ := running
    cases steps with
    | arrive count isOpen =>
      refine .inl ⟨done, rest, rfl, placed.inside, placed.took, ?_, placed.reading, ?_⟩
      · rw [← placed.ahead]
        simp
      · intro isEnd
        simp [isOpen] at isEnd
    | clientEnd reason isOpen all =>
      refine .inl ⟨done, rest, rfl, placed.inside, placed.took, placed.ahead, placed.reading, ?_⟩
      intro isEnd
      exact all (Option.some.inj isEnd)
    | pollClient lookupHost sendTo => exact placed.pollClient lookupHost sendTo
    | remote source payload writeAll => exact placed.remoteEvent keeps _ writeAll
    | remoteError kind => exact placed.leaves rfl rfl (by simp) (by simp)
    | idleTimeout => exact placed.leaves rfl rfl (by simp) (by simp)

/-- The loop is entered in its place. -/
theorem inPlace_start (session : Session) (sent : List WireFrame) :
    InPlace sent (start session (sent.flatMap WireFrame.wire)) :=
  .inl ⟨[], sent, rfl, rfl, rfl, rfl, feed_readUdpFrame_nil, by simp [start]⟩

end UdpState

/-- Two schedules that differ only in how resolving and sending turn out. -/
inductive UdpAction.SameSchedule : UdpAction → UdpAction → Prop
  | same (action : UdpAction) : SameSchedule action action
  | pollClient (lookupHost lookupHost' : String → UInt16 → Except String (List SocketAddr))
      (sendTo sendTo' : SocketAddr → List UInt8 → Except ErrorKind Unit) :
    SameSchedule (.pollClient lookupHost sendTo) (.pollClient lookupHost' sendTo')

namespace UdpState

/-- Two states that agree on everything but the session and the targets that were reached. -/
structure SameReading (state other : UdpState) : Prop where
  upcoming : state.upcoming = other.upcoming
  inbox : state.inbox = other.inbox
  ended : state.ended = other.ended
  read : state.read = other.read
  held : state.held = other.held
  consumed : state.consumed = other.consumed
  frames : state.frames = other.frames
  exit : state.exit = other.exit

/-- An event of the client is handled alike up to the session and the targets. -/
theorem SameReading.clientEvent {state other : UdpState} (same : SameReading state other)
    (lookupHost lookupHost' : String → UInt16 → Except String (List SocketAddr))
    (sendTo sendTo' : SocketAddr → List UInt8 → Except ErrorKind Unit)
    (result : Result (Option UdpFrame)) :
    SameReading (state.clientEvent lookupHost sendTo result)
      (other.clientEvent lookupHost' sendTo' result) := by
  cases result with
  | error fault =>
    exact ⟨same.upcoming, same.inbox, same.ended, same.read, same.held, same.consumed,
      same.frames, rfl⟩
  | ok event =>
    cases event with
    | none =>
      exact ⟨same.upcoming, same.inbox, same.ended, same.read, same.held, same.consumed,
        same.frames, rfl⟩
    | some frame =>
      have ⟨took, exit, inbox, upcoming, ended⟩ := forward_frames lookupHost sendTo state frame
      have ⟨took', exit', inbox', upcoming', ended'⟩ :=
        forward_frames lookupHost' sendTo' other frame
      refine ⟨?_, ?_, ?_, rfl, rfl, rfl, ?_, ?_⟩
      · exact upcoming.trans (same.upcoming.trans upcoming'.symm)
      · exact inbox.trans (same.inbox.trans inbox'.symm)
      · exact ended.trans (same.ended.trans ended'.symm)
      · exact took.trans ((congrArg (· ++ [frame]) same.frames).trans took'.symm)
      · exact exit.trans (same.exit.trans exit'.symm)

/-- The bytes left to read and their end may be replaced in both states. -/
theorem SameReading.withInbox {state other : UdpState} (same : SameReading state other)
    (inbox : List UInt8) (ended : Option ErrorKind) :
    SameReading { state with inbox := inbox, ended := ended }
      { other with inbox := inbox, ended := ended } :=
  ⟨same.upcoming, rfl, rfl, same.read, same.held, same.consumed, same.frames, same.exit⟩

/-- Polls of states that read alike read alike. -/
theorem SameReading.pollClient {state other : UdpState} (same : SameReading state other)
    (lookupHost lookupHost' : String → UInt16 → Except String (List SocketAddr))
    (sendTo sendTo' : SocketAddr → List UInt8 → Except ErrorKind Unit) :
    SameReading (state.pollClient lookupHost sendTo) (other.pollClient lookupHost' sendTo') := by
  have progress : other.read.feed (other.held ++ other.inbox) =
      state.read.feed (state.held ++ state.inbox) := by
    rw [same.read, same.held, same.inbox]
  unfold UdpState.pollClient
  rw [progress, ← same.ended]
  cases state.read.feed (state.held ++ state.inbox) with
  | ready result left => exact (same.withInbox left state.ended).clientEvent _ _ _ _ result
  | pending waiting held =>
    cases state.ended with
    | none =>
      refine ⟨same.upcoming, rfl, rfl, rfl, rfl, ?_, same.frames, same.exit⟩
      dsimp only
      rw [same.consumed, same.inbox]
    | some reason =>
      exact (same.withInbox (waiting.run reason held).2 (some reason)).clientEvent _ _ _ _ _

/-- Datagrams are handled alike up to the session. -/
theorem SameReading.remoteEvent {state other : UdpState} (same : SameReading state other)
    (datagram : Datagram) (writeAll : Except (ErrorKind × Nat) Unit) :
    SameReading (state.remoteEvent datagram writeAll) (other.remoteEvent datagram writeAll) := by
  unfold UdpState.remoteEvent
  cases buildUdpFrame datagram.source datagram.payload with
  | error fault =>
    exact ⟨same.upcoming, same.inbox, same.ended, same.read, same.held, same.consumed,
      same.frames, rfl⟩
  | ok frame =>
    cases writeAll with
    | error failure =>
      exact ⟨same.upcoming, same.inbox, same.ended, same.read, same.held, same.consumed,
        same.frames, rfl⟩
    | ok done =>
      exact ⟨same.upcoming, same.inbox, same.ended, rfl, rfl, rfl, same.frames, same.exit⟩

/-- The network outcomes of one schedule do not affect what is read in another. -/
theorem sameReading_step (state other : UdpState) (action counterpart : UdpAction)
    (next : UdpState) (same : SameReading state other)
    (schedule : action.SameSchedule counterpart) (stepped : state.step action = some next) :
    ∃ next', other.step counterpart = some next' ∧ SameReading next next' := by
  have ⟨inside, steps⟩ := step_eq_some.mp stepped
  have inside' : other.exit = none := same.exit.symm.trans inside
  have goes := fun next' (steps' : other.Steps counterpart next') =>
    step_eq_some.mpr ⟨inside', steps'⟩
  cases schedule with
  | pollClient lookupHost lookupHost' sendTo sendTo' =>
    cases steps
    exact ⟨_, goes _ (.pollClient lookupHost' sendTo'), same.pollClient _ _ _ _⟩
  | same action =>
    cases steps with
    | arrive count isOpen =>
      refine ⟨_, goes _ (.arrive count (same.ended.symm.trans isOpen)), ?_⟩
      refine ⟨?_, ?_, same.ended, same.read, same.held, same.consumed, same.frames, same.exit⟩
      · simp only [same.upcoming]
      · simp only [same.upcoming, same.inbox]
    | clientEnd reason isOpen all =>
      have all' : reason = .unexpectedEof → other.upcoming = [] :=
        fun regular => same.upcoming ▸ all regular
      refine ⟨_, goes _ (.clientEnd reason (same.ended.symm.trans isOpen) all'), ?_⟩
      exact ⟨same.upcoming, same.inbox, rfl, same.read, same.held, same.consumed, same.frames,
        same.exit⟩
    | pollClient lookupHost sendTo =>
      exact ⟨_, goes _ (.pollClient lookupHost sendTo), same.pollClient _ _ _ _⟩
    | remote source payload writeAll =>
      exact ⟨_, goes _ (.remote source payload writeAll), same.remoteEvent _ _⟩
    | remoteError kind =>
      exact ⟨_, goes _ (.remoteError kind), same.upcoming, same.inbox, same.ended, same.read,
        same.held, same.consumed, same.frames, rfl⟩
    | idleTimeout =>
      exact ⟨_, goes _ .idleTimeout, same.upcoming, same.inbox, same.ended, same.read, same.held,
        same.consumed, same.frames, rfl⟩

/-- In every run in which datagrams are received only while the read of the turn has taken
nothing, the frames taken are a front of the frames sent, and all of them when the loop has
seen the regular end; no frame is refused unless the client stream ended irregularly. How
targets are resolved and sends turn out has no influence on what is read, in any run. -/
theorem run_takesInOrder (session : Session) (sent : List WireFrame)
    (actions : List UdpAction) (final : UdpState)
    (keeps : Meets step KeepsPlace (start session (sent.flatMap WireFrame.wire)) actions)
    (ran : run step (start session (sent.flatMap WireFrame.wire)) actions = some final) :
    TakesInOrder (sent.map WireFrame.frame) final ∧
    ∀ others, List.Forall₂ UdpAction.SameSchedule actions others →
      ∃ final', run step (start session (sent.flatMap WireFrame.wire)) others = some final' ∧
        final'.frames = final.frames ∧ final'.exit = final.exit := by
  constructor
  · have inPlace := run_preserves (inPlace_step sent) (inPlace_start session sent) keeps ran
    exact inPlace.takesInOrder
  · intro others schedule
    have itself : SameReading (start session (sent.flatMap WireFrame.wire))
        (start session (sent.flatMap WireFrame.wire)) :=
      ⟨rfl, rfl, rfl, rfl, rfl, rfl, rfl, rfl⟩
    have ⟨final', ran', same⟩ := run_simulates
      (fun state other action counterpart next =>
        sameReading_step state other action counterpart next) itself schedule ran
    exact ⟨final', ran', same.frames.symm, same.exit.symm⟩

/-- A datagram that comes between the arrival of a frame and its read does no harm. -/
theorem run_takesInOrder_between :
    ∃ (frame : WireFrame) (final : UdpState),
      frame.frame = ⟨.ipv4 (.v4 (.new 10 0 0 1) 53), [0x2a]⟩ ∧
      run step (start (.new (.v4 (.new 127 0 0 1) 5000) frame.frame.address .udpAssociate)
          ([frame].flatMap WireFrame.wire))
        [.arrive 12, .remote (.v4 (.new 10 0 0 1) 53) [0x07] (.ok ()),
          .pollClient (fun _ _ => .ok []) (fun _ _ => .ok ()), .clientEnd .unexpectedEof,
          .pollClient (fun _ _ => .ok []) (fun _ _ => .ok ())] = some final ∧
      final.exit = some .closed ∧ TakesInOrder [frame.frame] final := by
  let frame : WireFrame :=
    { frame := ⟨.ipv4 (.v4 (.new 10 0 0 1) 53), [0x2a]⟩
      wire := [0x01, 0x0a, 0x00, 0x00, 0x01, 0x00, 0x35, 0x00, 0x01, 0x0d, 0x0a, 0x2a]
      formed := by decide +kernel
      flowFree := by decide
      fits := by decide }
  have exits : (run step (start (.new (.v4 (.new 127 0 0 1) 5000) frame.frame.address
      .udpAssociate) ([frame].flatMap WireFrame.wire))
      [.arrive 12, .remote (.v4 (.new 10 0 0 1) 53) [0x07] (.ok ()),
        .pollClient (fun _ _ => .ok []) (fun _ _ => .ok ()), .clientEnd .unexpectedEof,
        .pollClient (fun _ _ => .ok []) (fun _ _ => .ok ())]).map UdpState.exit =
      some (some .closed) := by decide +kernel
  have ⟨final, ran, closed⟩ := Option.map_eq_some_iff.mp exits
  refine ⟨frame, final, rfl, ran, closed, ?_⟩
  have order := run_takesInOrder _ [frame] _ final ?_ ran
  · exact order.1
  · refine ⟨trivial, fun next stepped => ⟨?_, fun _ _ => ⟨trivial, fun _ _ => ⟨trivial,
      fun _ _ => ⟨trivial, fun _ _ => trivial⟩⟩⟩⟩⟩
    obtain rfl := Option.some.inj stepped
    rfl

/-- A datagram that comes after the header of a frame was read drops that header with the read.
The payload is then read as a frame of its own, so that the client makes the loop take a frame
that it never sent, and lose the one that it sent, before a regular end. -/
theorem run_losesPlace :
    ∃ (frame : WireFrame) (final : UdpState),
      frame.frame = ⟨.ipv4 (.v4 (.new 1 2 3 4) 80),
        [0x01, 0x0a, 0x00, 0x00, 0x01, 0x00, 0x35, 0x00, 0x00, 0x0d, 0x0a]⟩ ∧
      run step (start (.new (.v4 (.new 127 0 0 1) 5000) frame.frame.address .udpAssociate)
          ([frame].flatMap WireFrame.wire))
        [.arrive 11, .pollClient (fun _ _ => .ok []) (fun _ _ => .ok ()),
          .remote (.v4 (.new 10 0 0 1) 53) [0x07] (.ok ()), .arrive 11,
          .pollClient (fun _ _ => .ok []) (fun _ _ => .ok ()), .clientEnd .unexpectedEof,
          .pollClient (fun _ _ => .ok []) (fun _ _ => .ok ())] = some final ∧
      final.exit = some .closed ∧
      final.frames = [⟨.ipv4 (.v4 (.new 10 0 0 1) 53), []⟩] ∧
      ¬ final.frames <+: [frame.frame] := by
  let frame : WireFrame :=
    { frame := ⟨.ipv4 (.v4 (.new 1 2 3 4) 80),
        [0x01, 0x0a, 0x00, 0x00, 0x01, 0x00, 0x35, 0x00, 0x00, 0x0d, 0x0a]⟩
      wire := [0x01, 0x01, 0x02, 0x03, 0x04, 0x00, 0x50, 0x00, 0x0b, 0x0d, 0x0a,
        0x01, 0x0a, 0x00, 0x00, 0x01, 0x00, 0x35, 0x00, 0x00, 0x0d, 0x0a]
      formed := by decide +kernel
      flowFree := by decide
      fits := by decide }
  have exits : (run step (start (.new (.v4 (.new 127 0 0 1) 5000) frame.frame.address
      .udpAssociate) ([frame].flatMap WireFrame.wire))
      [.arrive 11, .pollClient (fun _ _ => .ok []) (fun _ _ => .ok ()),
        .remote (.v4 (.new 10 0 0 1) 53) [0x07] (.ok ()), .arrive 11,
        .pollClient (fun _ _ => .ok []) (fun _ _ => .ok ()), .clientEnd .unexpectedEof,
        .pollClient (fun _ _ => .ok []) (fun _ _ => .ok ())]).map
        (fun state => (state.exit, state.frames)) =
      some (some .closed, [⟨.ipv4 (.v4 (.new 10 0 0 1) 53), []⟩]) := by decide +kernel
  have ⟨final, ran, outcome⟩ := Option.map_eq_some_iff.mp exits
  have ⟨closed, frames⟩ := Prod.mk.inj outcome
  refine ⟨frame, final, rfl, ran, closed, frames, ?_⟩
  rw [frames]
  decide +kernel

end UdpState

end TrojanRust
