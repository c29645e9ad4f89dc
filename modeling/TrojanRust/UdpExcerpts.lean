import TrojanRust.Bytes.Excerpts
import TrojanRust.UdpDownlink

/-!
# What is taken of any client stream

Whatever a client sends and whenever datagrams come in between, the loop takes its frames from
stretches of the stream that do not overlap, in order. It skips at most one stretch for each
datagram, which is not even one whole frame, and reads the stream to its end before it closes. A
payload is only ever sent to a target that the frame in front of it was resolved to.
-/

namespace TrojanRust

open TrojanRust.Bytes Runs

/-- The frame reader never takes the end of the stream for one while it is open. -/
theorem feed_readUdpFrame_ne_none (bytes left : List UInt8) :
    readUdpFrame.feed bytes ≠ .ready (.ok none) left := by
  cases bytes with
  | nil => simp [feed_readUdpFrame_nil]
  | cons atyp rest =>
    rw [feed_readUdpFrame_cons, Reader.feed_bind]
    cases (readUdpFrameBody atyp).feed rest with
    | pending waiting held => simp
    | ready result after =>
      cases result with
      | error fault => simp
      | ok frame => simp [Reader.feed_pure]

namespace UdpState

/-- What was taken so far is an excerpt of what the client sends, with at most one lost stretch for
each datagram, and an excerpt of everything when the loop has closed. -/
def Accounted (sent : List UInt8) (state : UdpState) : Prop :=
  ∃ seen remains, sent = seen ++ remains ∧
    readUdpFrame.Excerpted seen state.frames state.received.length ∧
    (state.exit = some .closed → remains = [])

/-- Inside the loop, what was taken is an excerpt of what lies before the read of the turn, and the
read is what a fresh one comes to on the bytes that it has taken. -/
structure Excerpting (sent : List UInt8) (state : UdpState) : Prop where
  inside : state.exit = none
  account : ∃ seen, sent = seen ++ (state.consumed ++ (state.inbox ++ state.upcoming)) ∧
    readUdpFrame.Excerpted seen state.frames state.received.length
  reading : readUdpFrame.feed state.consumed = .pending state.read state.held
  regular : state.ended = some .unexpectedEof → state.upcoming = []

/-- The loop goes on in its account, or has left with one. -/
def Accounts (sent : List UInt8) (state : UdpState) : Prop :=
  state.Excerpting sent ∨ (state.exit ≠ none ∧ state.Accounted sent)

/-- A loop that accounts for its frames has accounted for them. -/
theorem Accounts.accounted {sent : List UInt8} {state : UdpState}
    (accounts : state.Accounts sent) : state.Accounted sent := by
  cases accounts with
  | inr left => exact left.2
  | inl excerpting =>
    rcases excerpting.account with ⟨seen, split, excerpted⟩
    refine ⟨seen, _, split, excerpted, ?_⟩
    intro closed
    rw [excerpting.inside] at closed
    contradiction

/-- An exit that is no regular end leaves the account as it is. -/
theorem Excerpting.leaves {sent : List UInt8} {state next : UdpState} {exit : UdpExit}
    (excerpting : state.Excerpting sent) (left : next.exit = some exit) (notClosed : exit ≠ .closed)
    (frames : next.frames = state.frames) (received : next.received = state.received) :
    next.Accounts sent := by
  rcases excerpting.account with ⟨seen, split, excerpted⟩
  refine .inr ⟨by simp [left], seen, _, split, ?_, ?_⟩
  · rw [frames, received]
    exact excerpted
  · intro closed
    rw [left, Option.some.injEq] at closed
    exact absurd closed notClosed

/-- A read that is ready takes the next stretch, or leaves the loop. -/
theorem Excerpting.takes {sent : List UInt8} {state : UdpState} (excerpting : state.Excerpting sent)
    (lookupHost : String → UInt16 → Except String (List SocketAddr))
    (sendTo : SocketAddr → List UInt8 → Except ErrorKind Unit)
    {result : Result (Option UdpFrame)} {left : List UInt8}
    (ready : readUdpFrame.feed (state.consumed ++ state.inbox) = .ready result left) :
    (clientEvent lookupHost sendTo { state with inbox := left } result).Accounts sent := by
  cases result with
  | error fault =>
    have exits : (clientEvent lookupHost sendTo { state with inbox := left }
        (.error fault)).exit = some (.invalidFrame fault) := rfl
    exact excerpting.leaves exits (by simp) rfl rfl
  | ok found =>
    cases found with
    | none => exact absurd ready (feed_readUdpFrame_ne_none _ _)
    | some frame =>
      rcases excerpting.account with ⟨seen, split, excerpted⟩
      rcases Reader.feed_ready_split _ _ _ _ ready with ⟨wire, front, reads⟩
      have ⟨took, exit, inbox, upcoming, ended⟩ :=
        forward_frames lookupHost sendTo { state with inbox := left } frame
      have received := forward_received lookupHost sendTo { state with inbox := left } frame
      refine .inl ⟨exit.trans excerpting.inside, ⟨seen ++ wire, ?_, ?_⟩, feed_readUdpFrame_nil, ?_⟩
      · simp only [clientEvent, nextTurn, inbox, upcoming, List.nil_append]
        rw [split, ← List.append_assoc state.consumed, front]
        simp only [List.append_assoc]
      · have longer := excerpted.takes wire frame reads
        change readUdpFrame.Excerpted _ (frames (forward lookupHost sendTo _ frame))
          (forward lookupHost sendTo _ frame).received.length
        rw [took, received]
        exact longer
      · intro isEnd
        simp only [clientEvent, nextTurn, ended] at isEnd
        simp only [clientEvent, nextTurn, upcoming]
        exact excerpting.regular isEnd

/-- A read that waits at the end of the client stream leaves the loop, regularly only when the
whole stream was taken. -/
theorem Excerpting.stops {sent : List UInt8} {state : UdpState} (excerpting : state.Excerpting sent)
    (lookupHost : String → UInt16 → Except String (List SocketAddr))
    (sendTo : SocketAddr → List UInt8 → Except ErrorKind Unit)
    {reason : ErrorKind} (ended : state.ended = some reason)
    {waiting : StreamReader (Option UdpFrame)} {held : List UInt8}
    (waits : readUdpFrame.feed (state.consumed ++ state.inbox) = .pending waiting held)
    (left : List UInt8) :
    (clientEvent lookupHost sendTo { state with inbox := left }
      (waiting.run reason held).1).Accounts sent := by
  have stopped := run_readUdpFrame_pending reason waits
  rw [Reader.run_eq_feed, waits] at stopped
  dsimp only at stopped
  rw [stopped]
  by_cases regular : state.consumed ++ state.inbox = [] ∧ reason = .unexpectedEof
  · rw [if_pos regular]
    rcases excerpting.account with ⟨seen, split, excerpted⟩
    have nothing := excerpting.regular (regular.2 ▸ ended)
    rw [← List.append_assoc state.consumed, regular.1, nothing] at split
    exact .inr ⟨by simp [clientEvent], seen, [], split, excerpted, fun _ => rfl⟩
  · rw [if_neg regular]
    have exits : (clientEvent lookupHost sendTo { state with inbox := left }
        (.error (ioFault reason))).exit = some (.invalidFrame (ioFault reason)) := rfl
    exact excerpting.leaves exits (by simp) rfl rfl

/-- Polling the client keeps the account, whether the read is ready, waits for more or learns of
the end. -/
theorem Excerpting.pollClient {sent : List UInt8} {state : UdpState}
    (excerpting : state.Excerpting sent)
    (lookupHost : String → UInt16 → Except String (List SocketAddr))
    (sendTo : SocketAddr → List UInt8 → Except ErrorKind Unit) :
    (state.pollClient lookupHost sendTo).Accounts sent := by
  have resumed := Reader.feed_append readUdpFrame state.consumed state.inbox
  rw [excerpting.reading] at resumed
  dsimp only at resumed
  unfold UdpState.pollClient
  cases progress : state.read.feed (state.held ++ state.inbox) with
  | ready result left =>
    rw [progress] at resumed
    exact excerpting.takes lookupHost sendTo resumed
  | pending waiting held =>
    rw [progress] at resumed
    cases ended : state.ended with
    | none =>
      rcases excerpting.account with ⟨seen, split, excerpted⟩
      refine .inl ⟨excerpting.inside, ⟨seen, ?_, excerpted⟩, resumed, ?_⟩
      · rw [split]
        simp
      · intro isEnd
        exact excerpting.regular (ended ▸ isEnd)
    | some reason =>
      dsimp only
      rw [← ended]
      exact excerpting.stops lookupHost sendTo ended resumed _

/-- A datagram loses at most what the read of the turn has taken, which is no whole frame. -/
theorem Excerpting.remoteEvent {sent : List UInt8} {state : UdpState}
    (excerpting : state.Excerpting sent) (datagram : Datagram)
    (writeAll : Except (ErrorKind × Nat) Unit) :
    (state.remoteEvent datagram writeAll).Accounts sent := by
  unfold UdpState.remoteEvent
  cases buildUdpFrame datagram.source datagram.payload with
  | error fault => exact excerpting.leaves rfl (by simp) rfl rfl
  | ok frame =>
    cases writeAll with
    | error failure => exact excerpting.leaves rfl (by simp) rfl rfl
    | ok done =>
      rcases excerpting.account with ⟨seen, split, excerpted⟩
      have lost := excerpted.loses state.consumed state.held state.read excerpting.reading
      refine .inl ⟨excerpting.inside, ⟨seen ++ state.consumed, ?_, ?_⟩, feed_readUdpFrame_nil,
        excerpting.regular⟩
      · rw [split, List.append_assoc]
        rfl
      · change readUdpFrame.Excerpted _ _ (state.received ++ [datagram]).length
        rw [List.length_append]
        exact lost

/-- Every step of the loop keeps the account. -/
theorem accounts_step (sent : List UInt8) (state : UdpState) (action : UdpAction) (next : UdpState)
    (accounts : state.Accounts sent) (stepped : state.step action = some next) :
    next.Accounts sent := by
  rcases step_eq_some.mp stepped with ⟨inside, steps⟩
  cases accounts with
  | inr left => exact absurd inside left.1
  | inl excerpting =>
    cases steps with
    | arrive count isOpen =>
      rcases excerpting.account with ⟨seen, split, excerpted⟩
      refine .inl ⟨excerpting.inside, ⟨seen, ?_, excerpted⟩, excerpting.reading, ?_⟩
      · rw [split]
        simp
      · intro isEnd
        simp [isOpen] at isEnd
    | clientEnd reason isOpen all =>
      refine .inl ⟨excerpting.inside, excerpting.account, excerpting.reading, ?_⟩
      intro isEnd
      exact all (Option.some.inj isEnd)
    | pollClient lookupHost sendTo => exact excerpting.pollClient lookupHost sendTo
    | remote source payload writeAll => exact excerpting.remoteEvent _ writeAll
    | remoteError kind => exact excerpting.leaves rfl (by simp) rfl rfl
    | idleTimeout => exact excerpting.leaves rfl (by simp) rfl rfl

/-- Every run of the loop has an account of the frames that it has taken. -/
theorem run_accounted {session : Session} {sent : List UInt8} {actions : List UdpAction}
    {final : UdpState} (ran : run step (start session sent) actions = some final) :
    final.Accounted sent := by
  have begins : (start session sent).Accounts sent :=
    .inl ⟨rfl, ⟨[], rfl, .start⟩, feed_readUdpFrame_nil, by simp [start]⟩
  exact (run_invariant (accounts_step sent) begins ran).accounted

/-- A loop that has closed without a datagram has taken the frames that `read_udp_frame` returns
of the stream call by call. -/
theorem Accounted.drains {sent : List UInt8} {state : UdpState} (accounted : state.Accounted sent)
    (closed : state.exit = some .closed) (undisturbed : state.received = []) :
    readUdpFrames .unexpectedEof sent = (state.frames, .ok ()) := by
  rcases accounted with ⟨seen, remains, split, excerpted, ended⟩
  have nothing : state.received.length = 0 := by rw [undisturbed, List.length_nil]
  have drained := excerpted.drain consuming_readUdpFrame .unexpectedEof nothing remains
  rw [← split, ended closed, Reader.drain_closed _ run_readUdpFrame_nil, List.append_nil] at drained
  exact drained

/-- A payload was sent only to a target that some poll resolved its frame to and sent it to. -/
def Aimed (done : List UdpAction) (taken : List TakenFrame) : Prop :=
  ∀ frame ∈ taken, ∀ target, frame.sentTo = some target →
    ∃ lookupHost sendTo, .pollClient lookupHost sendTo ∈ done ∧
      resolveTarget lookupHost frame.frame.address = .ok target ∧
      sendTo target frame.frame.payload = .ok ()

/-- Later actions do not change what was sent before them. -/
theorem Aimed.later {done : List UdpAction} {taken : List TakenFrame} (aimed : Aimed done taken)
    (action : UdpAction) : Aimed (done ++ [action]) taken := by
  intro frame member target sent
  rcases aimed frame member target sent with ⟨lookupHost, sendTo, polled, resolved⟩
  exact ⟨lookupHost, sendTo, List.mem_append_left _ polled, resolved⟩

/-- One more frame is sent nowhere, or where it was resolved to. -/
theorem Aimed.append {done : List UdpAction} {taken : List TakenFrame} (aimed : Aimed done taken)
    {last : TakenFrame} (lastAimed : Aimed done [last]) : Aimed done (taken ++ [last]) := by
  intro frame member
  rcases List.mem_append.mp member with before | added
  · exact aimed frame before
  · exact lastAimed frame added

/-- A frame that is forwarded is sent to where it was resolved to, or nowhere. -/
theorem Aimed.forward {done : List UdpAction} {state : UdpState} (aimed : Aimed done state.taken)
    (lookupHost : String → UInt16 → Except String (List SocketAddr))
    (sendTo : SocketAddr → List UInt8 → Except ErrorKind Unit) (frame : UdpFrame) :
    Aimed (done ++ [.pollClient lookupHost sendTo])
      (state.forward lookupHost sendTo frame).taken := by
  have unsent : Aimed (done ++ [.pollClient lookupHost sendTo]) [⟨frame, none⟩] := by
    intro last member target sent
    rw [List.mem_singleton.mp member] at sent
    contradiction
  have before := aimed.later (.pollClient lookupHost sendTo)
  unfold UdpState.forward
  cases resolved : resolveTarget lookupHost frame.address with
  | error fault => exact before.append unsent
  | ok target =>
    dsimp only
    cases delivered : sendTo target frame.payload with
    | error kind => exact before.append unsent
    | ok sent =>
      refine before.append ?_
      intro last member other same
      obtain rfl := List.mem_singleton.mp member
      obtain rfl := Option.some.inj same
      exact ⟨lookupHost, sendTo, List.mem_append_right _ List.mem_cons_self, resolved, delivered⟩

/-- Every event of the client is aimed. -/
theorem Aimed.clientEvent {done : List UdpAction} {taken : List TakenFrame}
    (aimed : Aimed done taken) {state : UdpState} (same : state.taken = taken)
    (lookupHost : String → UInt16 → Except String (List SocketAddr))
    (sendTo : SocketAddr → List UInt8 → Except ErrorKind Unit)
    (result : Result (Option UdpFrame)) :
    Aimed (done ++ [.pollClient lookupHost sendTo])
      (state.clientEvent lookupHost sendTo result).taken := by
  subst same
  cases result with
  | error fault => exact aimed.later _
  | ok found =>
    cases found with
    | none => exact aimed.later _
    | some frame => exact aimed.forward lookupHost sendTo frame

/-- Every step sends a payload only to where its frame was resolved to. -/
theorem aimed_step (done : List UdpAction) (state : UdpState) (action : UdpAction)
    (next : UdpState) (aimed : Aimed done state.taken) (stepped : state.step action = some next) :
    Aimed (done ++ [action]) next.taken := by
  rcases step_eq_some.mp stepped with ⟨inside, steps⟩
  cases steps with
  | arrive count isOpen => exact aimed.later _
  | clientEnd reason isOpen all => exact aimed.later _
  | pollClient lookupHost sendTo =>
    unfold UdpState.pollClient
    split
    · apply aimed.clientEvent
      rfl
    · split
      · exact aimed.later _
      · apply aimed.clientEvent
        rfl
  | remote source payload writeAll =>
    unfold UdpState.remoteEvent
    split
    · exact aimed.later _
    · split
      · exact aimed.later _
      · exact aimed.later _
  | remoteError kind => exact aimed.later _
  | idleTimeout => exact aimed.later _

/-- Whatever bytes a client sends, in every run of the loop: the frames that are taken are read
from stretches of these bytes that do not overlap, in order, and what lies between them is at most
one stretch for each datagram, none of which is a whole frame; when the loop closes they reach to
the end of the stream, and without a datagram they are what `read_udp_frame` returns of it call by
call. A payload is only sent to a target that its frame was resolved to, by the network of a poll
of that run. -/
theorem run_excerpts (session : Session) (sent : List UInt8) (actions : List UdpAction)
    (final : UdpState) (ran : run step (start session sent) actions = some final) :
    (∃ seen remains, sent = seen ++ remains ∧
      readUdpFrame.Excerpted seen final.frames final.received.length ∧
      (final.exit = some .closed → remains = [])) ∧
    (final.exit = some .closed → final.received = [] →
      readUdpFrames .unexpectedEof sent = (final.frames, .ok ())) ∧
    Aimed actions final.taken := by
  have accounted := run_accounted ran
  have unsent : Aimed [] (start session sent).taken := by
    intro frame member
    contradiction
  have aimed := run_history aimed_step unsent ran
  exact ⟨accounted, accounted.drains, aimed⟩

/-- The header of a frame, and the payload behind it, which has the form of a frame itself. -/
def nestedFrame : List UInt8 :=
  [0x01, 0x01, 0x02, 0x03, 0x04, 0x00, 0x50, 0x00, 0x0b, 0x0d, 0x0a,
    0x01, 0x0a, 0x00, 0x00, 0x01, 0x00, 0x35, 0x00, 0x00, 0x0d, 0x0a]

/-- A datagram comes between the header and the payload. -/
def betweenParts : List UdpAction :=
  [.arrive 11, .pollClient (fun _ _ => .ok []) (fun _ _ => .ok ()),
    .remote (.v4 (.new 10 0 0 1) 53) [0x07] (.ok ()), .arrive 11,
    .pollClient (fun _ _ => .ok []) (fun _ _ => .ok ()), .clientEnd .unexpectedEof,
    .pollClient (fun _ _ => .ok []) (fun _ _ => .ok ())]

/-- The one datagram loses the header, and the one frame that is taken is read from the rest. -/
theorem run_excerpts_betweenParts :
    ∃ final, run step (start (.new (.v4 (.new 127 0 0 1) 5000) (.domain "" 0) .udpAssociate)
        nestedFrame) betweenParts = some final ∧
      final.frames = [⟨.ipv4 (.v4 (.new 10 0 0 1) 53), []⟩] ∧
      readUdpFrame.Excerpted nestedFrame final.frames final.received.length := by
  have outcome : (run step (start (.new (.v4 (.new 127 0 0 1) 5000) (.domain "" 0)
      .udpAssociate) nestedFrame) betweenParts).map
        (fun final => (final.exit, final.frames)) =
      some (some .closed, [⟨.ipv4 (.v4 (.new 10 0 0 1) 53), []⟩]) := by decide +kernel
  rcases Option.map_eq_some_iff.mp outcome with ⟨final, ran, seen⟩
  rcases Prod.mk.inj seen with ⟨closed, frames⟩
  rcases (run_excerpts _ _ _ _ ran).1 with ⟨front, remains, split, excerpted, ended⟩
  rw [ended closed, List.append_nil] at split
  exact ⟨final, ran, frames, split ▸ excerpted⟩

end UdpState

end TrojanRust
