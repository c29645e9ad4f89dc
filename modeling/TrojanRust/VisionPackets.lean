import TrojanRust.DirectForwarding

/-!
# Telling the two protocols apart

A Vision request starts with a magic byte that is no hex digit, and a Trojan header with a hash in
hex. So the first two bytes of a client tell whether one of the protocols may serve it:
`is_vision_packet` is true of no stream that is ever proxied by a connection, and false of none
that is ever authenticated by a machine.
-/

namespace TrojanRust

open TrojanRust.Bytes

namespace VisionProtocol

/-- Vision packets start with the magic byte and the version. -/
theorem isVisionPacket_iff (data : List UInt8) :
    isVisionPacket data = true ↔ [visionMagicHeader, visionVersion] <+: data := by
  unfold isVisionPacket
  match data with
  | [] => decide
  | [magic] => simp
  | magic :: version :: rest =>
    simp only [List.cons_prefix_cons, List.nil_prefix, and_true]
    constructor
    · intro packet
      simp at packet
      exact ⟨packet.1.symm, packet.2.symm⟩
    · intro same
      simp [same.1.symm, same.2.symm]

/-- The first two bytes decide. -/
theorem isVisionPacket_front {peeked data : List UInt8} (front : peeked <+: data)
    (enough : 2 ≤ peeked.length) : isVisionPacket peeked = isVisionPacket data := by
  apply Bool.eq_iff_iff.mpr
  rw [isVisionPacket_iff, isVisionPacket_iff]
  constructor
  · intro packet
    exact packet.trans front
  · intro packet
    exact List.prefix_of_prefix_length_le packet front enough

end VisionProtocol

/-- An admitted request is a Vision packet. -/
theorem AdmittedAt.isVisionPacket {sent : List UInt8} {ending : ErrorKind} {env : VisionEnv}
    {passwords : List String} {request : VisionAuthRequest} {stream : PositionedStream}
    (admitted : AdmittedAt sent ending env passwords request stream) :
    VisionProtocol.isVisionPacket sent = true := by
  have read := (VisionAuthRequest.readFrom_iff _ _ _ _ _).mp admitted.accepted
  rcases read with ⟨⟨wire, split, fields⟩, _⟩
  have ⟨magic, version, _, target, _, spelled⟩ :=
    (VisionAuthRequest.reads_readFields _ _).mp fields
  rw [VisionProtocol.isVisionPacket_iff, split, spelled, request.wire_eq, magic, version]
  exact ⟨_, rfl⟩

/-- An authorized header is no Vision packet. -/
theorem Admits.not_isVisionPacket {passwords : List String} {sent rest : List UInt8}
    {header : Header} (admits : Admits passwords sent header rest) :
    VisionProtocol.isVisionPacket sent = false := by
  rcases admits with ⟨wire, split, ⟨target, hex, _, spelled⟩, _⟩
  apply Bool.eq_false_iff.mpr
  rw [ne_eq, VisionProtocol.isVisionPacket_iff]
  intro packet
  have front : header.passwordHash.toList <+: sent := by
    rw [split, spelled, Header.commandLine, List.append_assoc]
    exact List.prefix_append _ _
  have inside := List.prefix_of_prefix_length_le packet front (by simp)
  have digit := List.all_eq_true.mp hex visionMagicHeader (inside.subset List.mem_cons_self)
  contradiction

/-- The first two bytes of a client tell by which protocol it may be served, whatever the
passwords, the clocks and the answers of the network are. A Vision packet is never proxied by a
connection: no session exists in any run and no target is sent anything. Any other stream is never
authenticated by a state machine, whichever operations are called. -/
theorem VisionProtocol.isVisionPacket_separates {R : Type} {config : Config}
    {peerAddr : SocketAddr} {stream : ClientStream} {peeked : List UInt8}
    {actions : List ConnectionAction} {final : Connection}
    {ending : ErrorKind} {operations : List (MachineAction R)} {held : Held R}
    (front : peeked <+: stream.bytes) (enough : 2 ≤ peeked.length)
    (ran : Runs.run (Connection.step config) (.start peerAddr stream) actions = some final)
    (operated : Runs.run Held.step (.owned (.new ⟨[], stream.bytes, ending⟩)) operations =
      some held) :
    (isVisionPacket peeked = true → final.stage.session = none ∧ final.stage.toTarget = []) ∧
    (isVisionPacket peeked = false →
      (∀ machine, held = .owned machine →
        machine.state = .handshake ∧ machine.getAuthResult = none) ∧
      ∀ taken remote, held ≠ .forwarding taken remote) := by
  rw [isVisionPacket_front front enough]
  constructor
  · intro packet
    have refused : ∀ header rest, ¬ Admits config.passwords stream.bytes header rest := by
      intro header rest admits
      rw [admits.not_isVisionPacket] at packet
      contradiction
    have traces := (Connection.run_follows ran).traces
    refine ⟨?_, traces.toTarget_eq_nil refused⟩
    cases proxied : final.stage.session with
    | none => rfl
    | some session =>
      have ⟨header, rest, admits, _⟩ := traces.serves proxied
      exact absurd admits (refused header rest)
  · intro other
    have unadmitted : ∀ env passwords request taken,
        ¬ AdmittedAt stream.bytes ending env passwords request taken := by
      intro env passwords request taken admitted
      rw [admitted.isVisionPacket] at other
      contradiction
    have start : SoundHeld stream.bytes ending []
        (.owned (.new ⟨[], stream.bytes, ending⟩) : Held R) := .handshake none rfl
    have sound := Runs.run_history Held.step_sound start operated
    refine ⟨?_, ?_⟩
    · rintro machine rfl
      cases sound with
      | handshake fallback uncalled => exact ⟨rfl, rfl⟩
      | authenticated fallback taken request env passwords calledOnce admitted =>
        exact absurd admitted (unadmitted _ _ _ _)
    · rintro taken remote rfl
      rcases sound with ⟨env, passwords, request, _, admitted⟩
      exact unadmitted _ _ _ _ admitted

/-- A client that sends a request and a byte in one piece. -/
def visionClient : ClientStream where
  pieces := [oneRequest ++ [7]]
  nonempty := by decide
  ending := none

/-- A machine is asked to authenticate its client, with a fallback set. -/
def oneAuthentication : List (MachineAction Unit) :=
  [.setFallback (.domain "a.b" 80),
    .authenticate ⟨fun bytes => Vector.replicate 28 bytes.sum, .release, some 0⟩ none
      oneConfig.passwords]

/-- The request is a packet by its first two bytes, and a connection goes to the fallback with it.
The client with a header sends no such packet: a connection relays it to its target, and a machine
that is asked to authenticate it is dropped. -/
theorem VisionProtocol.isVisionPacket_separates_request :
    (∃ final, Runs.run (Connection.step oneConfig)
        (.start (.v4 (.new 127 0 0 1) 5000) visionClient) [.tlsAccepted, .peek] = some final ∧
      final.stage.session = none ∧ final.stage.toTarget = []) ∧
    ∃ held, Runs.run Held.step (.owned (.new ⟨[], oneClient.bytes, .unexpectedEof⟩))
        oneAuthentication = some held ∧
      (∀ machine, held ≠ .owned machine) ∧ ∀ taken remote, held ≠ .forwarding taken remote := by
  constructor
  · have outcome : (Runs.run (Connection.step oneConfig)
        (.start (.v4 (.new 127 0 0 1) 5000) visionClient) [.tlsAccepted, .peek]).isSome := by
      decide +kernel
    rcases Option.isSome_iff_exists.mp outcome with ⟨final, ran⟩
    have front : [0xfe, 0x01] <+: visionClient.bytes := by decide +kernel
    have untouched : Runs.run Held.step
        (.owned (.new ⟨[], visionClient.bytes, .unexpectedEof⟩)) [] =
          some (.owned (.new ⟨[], visionClient.bytes, .unexpectedEof⟩) : Held Unit) := rfl
    have separates := VisionProtocol.isVisionPacket_separates front (by decide) ran untouched
    exact ⟨final, ran, separates.1 (by decide)⟩
  · have operated : Runs.run Held.step (.owned (.new ⟨[], oneClient.bytes, .unexpectedEof⟩))
        oneAuthentication =
          some (.dropped (.err (.protocol "Invalid Vision magic header: 41"))) := by
      decide +kernel
    rcases Connection.run_oneAnswer with ⟨final, ran, _⟩
    have front : [0x41, 0x41] <+: oneClient.bytes := by decide +kernel
    have separates := VisionProtocol.isVisionPacket_separates front (by decide) ran operated
    refine ⟨_, operated, ?_, (separates.2 (by decide)).2⟩
    intro machine owned
    contradiction

end TrojanRust
