import TrojanRust.Bytes.Frames
import TrojanRust.Codec.Address

/-!
# The UDP frame grammar and its codecs

The wire form of a frame is the encoded target, the payload length in network order, a line
break, and the payload. `buildUdpFrame` writes it for a datagram from a socket address and
`readUdpFrame` reads exactly its members, so a stream of frames is a `Framing`.
-/

namespace TrojanRust

open TrojanRust.Bytes

/-- The wire form of a frame, over the address encoder. -/
def UdpFrame.wireForm (frame : UdpFrame) : Result (List UInt8) := do
  let target ← frame.address.encode
  return target ++ ((u16ToBeBytes (UInt16.ofNat frame.payload.length)).toList ++
    (crlf.toList ++ frame.payload))

/-- A frame whose address can be encoded without loss and whose payload fits its length
field, with its wire form. -/
structure WireFrame where
  frame : UdpFrame
  wire : List UInt8
  /-- The bytes are the wire form of the frame. -/
  formed : frame.wireForm = .ok wire
  /-- The wire carries no flow information. -/
  flowFree : frame.address.FlowFree
  /-- The length field holds the payload length. -/
  fits : frame.payload.length ≤ udpMaxPayloadLen

/-- The address a datagram's source is reported under. -/
def SocketAddr.asAddress : SocketAddr → Address
  | .v4 ip port => .ipv4 (.v4 ip port)
  | .v6 ip port flowinfo scopeId => .ipv6 (.v6 ip port flowinfo scopeId)

/-- A payload of at most the limit is framed under its source. -/
theorem buildUdpFrame_eq_wireForm (source : SocketAddr) (payload : List UInt8)
    (fits : payload.length ≤ udpMaxPayloadLen) :
    buildUdpFrame source payload = UdpFrame.wireForm ⟨source.asAddress, payload⟩ := by
  have allowed : ¬ udpMaxPayloadLen < payload.length := Nat.not_lt.mpr fits
  unfold buildUdpFrame
  rw [if_neg allowed]
  cases source with
  | v4 ip port =>
    simp [UdpFrame.wireForm, SocketAddr.asAddress, Address.encode, pure, Except.pure,
      bind, Except.bind]
  | v6 ip port flowinfo scopeId =>
    simp [UdpFrame.wireForm, SocketAddr.asAddress, Address.encode, pure, Except.pure,
      bind, Except.bind]

/-- A socket address is always encoded. -/
theorem SocketAddr.encode_asAddress (source : SocketAddr) :
    ∃ wire, source.asAddress.encode = .ok wire := by
  cases source with
  | v4 ip port => exact ⟨_, rfl⟩
  | v6 ip port flowinfo scopeId => exact ⟨_, rfl⟩

/-- After its first byte a frame is spelled by the rest of its target, its length, a line break
and its payload. -/
theorem reads_readUdpFrameBody (atyp : UInt8) (wire : List UInt8) (frame : UdpFrame) :
    (readUdpFrameBody atyp).Reads wire frame ↔
      ∃ target, (readTargetAddress atyp).Reads target frame.address ∧
        frame.payload.length ≤ udpMaxPayloadLen ∧
        wire = target ++ ((u16ToBeBytes (UInt16.ofNat frame.payload.length)).toList ++
          (crlf.toList ++ frame.payload)) := by
  unfold readUdpFrameBody
  constructor
  · intro reads
    simp only [Reader.reads_bind, reads_readU16, reads_readExact] at reads
    obtain ⟨target, _, address, rfl, readTarget, _, _, payloadLen, rfl, rfl, _, _, delimiter, rfl,
      rfl, body⟩ := reads
    split at body
    · exact absurd body (Reader.reads_fail _ _ _)
    · rename_i isCrlf
      simp only [Reader.reads_bind, reads_readExact] at body
      obtain ⟨_, _, payload, rfl, rfl, done⟩ := body
      obtain ⟨rfl, rfl⟩ := (Reader.reads_pure _ _ _).mp done
      have small := payloadLen.toNat_lt
      refine ⟨target, readTarget, ?_, ?_⟩
      · simp only [Vector.length_toList, udpMaxPayloadLen]
        omega
      · simp only [ne_eq, not_not] at isCrlf
        simp [isCrlf]
  · rintro ⟨target, readTarget, fits, rfl⟩
    have counted : (UInt16.ofNat frame.payload.length).toNat = frame.payload.length := by
      rw [UInt16.toNat_ofNat']
      simp only [udpMaxPayloadLen] at fits
      omega
    have sized : frame.payload.toArray.size = (UInt16.ofNat frame.payload.length).toNat := by
      rw [counted, List.size_toArray]
    apply readTarget.bind
    apply (readU16_reads (UInt16.ofNat frame.payload.length)).bind
    apply (readExact_reads crlf).bind
    rw [if_neg (by simp), Reader.reads_bind_pure]
    exact ⟨⟨frame.payload.toArray, sized⟩, (reads_readExact _ _ _).mpr rfl, rfl⟩

/-- A frame is spelled by its first byte and what its body is spelled by. -/
theorem reads_readUdpFrame_cons (wire : List UInt8) (frame : UdpFrame) :
    readUdpFrame.Reads wire (some frame) ↔
      ∃ atyp rest, wire = atyp :: rest ∧ (readUdpFrameBody atyp).Reads rest frame := by
  unfold readUdpFrame
  constructor
  · intro reads
    obtain ⟨first, rest, outcome, rfl, attempted, read⟩ := (Reader.reads_bind _ _ _ _).mp reads
    obtain ⟨atyp, rfl, rfl⟩ := (Reader.reads_attempt _ _ _).mp attempted
    have ⟨found, readBody, same⟩ := (Reader.reads_bind_pure _ _ _ _).mp read
    obtain rfl := Option.some.inj same
    exact ⟨u8FromBeBytes atyp, rest, by rw [single_toList]; rfl, readBody⟩
  · rintro ⟨atyp, rest, rfl, readBody⟩
    have first : (Reader.attempt 1 : StreamReader _).Reads [atyp] (.ok #v[atyp]) :=
      (Reader.reads_attempt _ _ _).mpr ⟨_, rfl, rfl⟩
    apply first.bind
    exact (Reader.reads_bind_pure _ _ _ _).mpr ⟨frame, readBody, rfl⟩

/-- The frame reader reads exactly the wire forms of frames without flow information whose
payload fits the length field. -/
theorem reads_readUdpFrame (wire : List UInt8) (frame : UdpFrame) :
    readUdpFrame.Reads wire (some frame) ↔
      frame.wireForm = .ok wire ∧ frame.address.FlowFree ∧
        frame.payload.length ≤ udpMaxPayloadLen := by
  rw [reads_readUdpFrame_cons]
  simp only [reads_readUdpFrameBody]
  have target := fun wire => Address.reads_readUdpTarget wire frame.address
  simp only [← Address.encode_eq_ok_iff] at target
  constructor
  · rintro ⟨atyp, _, rfl, rest, readTarget, fits, rfl⟩
    have read : Address.readUdpTarget.Reads (atyp :: rest) frame.address :=
      (readU8_reads atyp).bind readTarget
    have ⟨encoded, flowFree⟩ := (target _).mp read
    refine ⟨?_, flowFree, fits⟩
    rw [UdpFrame.wireForm, encoded]
    rfl
  · rintro ⟨formed, flowFree, fits⟩
    unfold UdpFrame.wireForm at formed
    cases encoded : frame.address.encode with
    | error fault => simp [encoded] at formed
    | ok found =>
      rw [encoded, ok_bind] at formed
      obtain rfl := Except.ok.inj formed
      have read := (target found).mpr ⟨encoded, flowFree⟩
      obtain ⟨first, rest, atyp, rfl, tag, readTarget⟩ := (Reader.reads_bind _ _ _ _).mp read
      obtain rfl := (reads_readU8 _ _).mp tag
      exact ⟨atyp, _, rfl, rest, readTarget, fits, rfl⟩

/-- Every piece of a frame behind its type byte is indispensable. -/
theorem strict_readUdpFrameBody (atyp : UInt8) : (readUdpFrameBody atyp).Strict ioFault := by
  refine (Address.strict_readTargetAddress atyp).bind fun address => strict_readU16.bind
    fun payloadLen => (strict_readExact 2).bind fun delimiter => ?_
  split
  · exact Reader.strict_fail _ _
  · exact (strict_readExact _).bind fun payload => Reader.strict_pure _ _

/-- Reading a target never panics. -/
theorem safe_readTargetAddress (atyp : UInt8) : Safe (readTargetAddress atyp) := by
  unfold readTargetAddress
  split
  · exact (safe_readExact 4).bind fun _ => safe_readU16.bind fun _ => Reader.raises_pure _ _
  · split
    · refine safe_readU8.bind fun len => ?_
      split
      · simp
      · refine (safe_readExact _).bind fun buf => Reader.Raises.bind ?_
          fun name => safe_readU16.bind fun _ => Reader.raises_pure _ _
        apply Reader.raises_lift
        intro fault refused
        simp [Address.domainFromUtf8_eq_error _ _ refused]
    · split
      · exact (safe_readExact 16).bind fun _ => safe_readU16.bind fun _ => Reader.raises_pure _ _
      · simp

/-- Reading a frame never panics. -/
theorem safe_readUdpFrame : Safe readUdpFrame := by
  have body : ∀ atyp, Safe (readUdpFrameBody atyp) := by
    intro atyp
    refine (safe_readTargetAddress atyp).bind fun address => safe_readU16.bind fun len =>
      (safe_readExact 2).bind fun delimiter => ?_
    split
    · simp
    · exact (safe_readExact _).bind fun _ => Reader.raises_pure _ _
  intro outcome
  cases outcome with
  | ok atyp => exact (body _).bind fun _ => Reader.raises_pure _ _
  | error kind =>
    cases kind with
    | unexpectedEof => exact Reader.raises_pure _ _
    | _ => simp [Reader.bind, ioFault]

/-- On a stream that has delivered its first byte, the frame reader is its body. -/
theorem feed_readUdpFrame_cons (atyp : UInt8) (rest : List UInt8) :
    readUdpFrame.feed (atyp :: rest) =
      ((readUdpFrameBody atyp >>= fun frame => pure (some frame)) : StreamReader _).feed rest := by
  have first : (Reader.attempt 1 : StreamReader _).feed (atyp :: rest) =
      .ready (.ok (.ok #v[atyp])) rest := by
    simp [Reader.attempt, Reader.feed, Reader.piece]
  rw [readUdpFrame, Reader.feed_bind, first]
  rfl

/-- The same holds of a stream that stops later. -/
theorem run_readUdpFrame_cons (stop : ErrorKind) (atyp : UInt8) (rest : List UInt8) :
    readUdpFrame.run stop (atyp :: rest) =
      (some <$> ((readUdpFrameBody atyp).run stop rest).1,
        ((readUdpFrameBody atyp).run stop rest).2) := by
  rw [Reader.run_eq_feed, feed_readUdpFrame_cons, ← Reader.run_eq_feed, Reader.run_bind]
  cases (readUdpFrameBody atyp).run stop rest with
  | mk result left =>
    cases result with
    | ok frame => rfl
    | error fault => rfl

/-- A stream that ends before a frame is the regular end. -/
theorem run_readUdpFrame_nil : readUdpFrame.run .unexpectedEof [] = (.ok none, []) := rfl

/-- A frame takes at least its type byte, so that a stream is drained by finitely many reads. -/
theorem consuming_readUdpFrame : readUdpFrame.Consuming := by
  intro stop bytes frame rest read
  cases bytes with
  | nil => cases stop <;> simp [readUdpFrame, Reader.run_bind, Reader.attempt, Reader.run] at read
  | cons atyp tail =>
    rw [run_readUdpFrame_cons] at read
    have suffix := (Reader.run_rest_suffix stop (readUdpFrameBody atyp) tail).length_le
    rw [(Prod.mk.inj read).2] at suffix
    rw [List.length_cons]
    omega

/-- `read_udp_frame`, called until it returns `Ok(None)` or an error. -/
def readUdpFrames (stop : ErrorKind) (bytes : List UInt8) : List UdpFrame × Result Unit :=
  readUdpFrame.drain consuming_readUdpFrame stop bytes

/-- Frames that can be written form a stream of frames: the end of the stream is regular
between two of them and an error inside one. -/
theorem framing_readUdpFrame :
    Reader.Framing readUdpFrame .unexpectedEof (.err (.io .unexpectedEof)) WireFrame.frame
      WireFrame.wire where
  consuming := consuming_readUdpFrame
  spelled frame := (reads_readUdpFrame _ _).mpr ⟨frame.formed, frame.flowFree, frame.fits⟩
  ended := congrArg Prod.fst run_readUdpFrame_nil
  torn frame part front proper nonempty := by
    have reads := (reads_readUdpFrame _ _).mpr ⟨frame.formed, frame.flowFree, frame.fits⟩
    have ⟨atyp, rest, split, readBody⟩ := (reads_readUdpFrame_cons _ _).mp reads
    cases part with
    | nil => contradiction
    | cons first tail =>
      rw [split] at front proper
      obtain ⟨rfl, tailFront⟩ := List.cons_prefix_cons.mp front
      have shorter : tail ≠ rest := fun same => proper (by rw [same])
      rw [run_readUdpFrame_cons,
        readBody.run_front (strict_readUdpFrameBody first) .unexpectedEof tailFront shorter]
      rfl

/-- The wire form is what is written for a datagram from any socket address, and a stream of
wire forms cut anywhere is read to exactly the frames that lie wholly before the cut. The end
is regular when the cut falls between two frames, and the end-of-file error inside one. -/
theorem readUdpFrames_take (frames : List WireFrame) (cut : Nat)
    (inside : cut ≤ (frames.flatMap WireFrame.wire).length) :
    (∀ (source : SocketAddr) (payload : List UInt8), payload.length ≤ udpMaxPayloadLen →
      ∃ wire, UdpFrame.wireForm ⟨source.asAddress, payload⟩ = .ok wire ∧
        buildUdpFrame source payload = .ok wire) ∧
    ∃ count ≤ frames.length,
      (∀ i < frames.length, i < count ↔
        ((frames.take (i + 1)).flatMap WireFrame.wire).length ≤ cut) ∧
      readUdpFrames .unexpectedEof ((frames.flatMap WireFrame.wire).take cut) =
        ((frames.take count).map WireFrame.frame,
          if ((frames.take count).flatMap WireFrame.wire).length = cut then .ok ()
          else .error (.err (.io .unexpectedEof))) := by
  constructor
  · intro source payload fits
    have ⟨target, encoded⟩ := source.encode_asAddress
    rw [buildUdpFrame_eq_wireForm source payload fits, UdpFrame.wireForm, encoded]
    exact ⟨_, rfl, rfl⟩
  · exact framing_readUdpFrame.drain_take frames cut inside

/-- A stream of two frames that ends inside the payload of the second is read to the first, and its
end is an error. -/
theorem readUdpFrames_take_torn :
    readUdpFrames .unexpectedEof
        [0x03, 0x01, 0x61, 0x01, 0xbb, 0x00, 0x01, 0x0d, 0x0a, 0x41,
          0x01, 0x0a, 0x00, 0x00, 0x01, 0x00, 0x35, 0x00, 0x02, 0x0d, 0x0a, 0x0d] =
      ([⟨.domain "a" 443, [0x41]⟩], .error (.err (.io .unexpectedEof))) := by
  let named : WireFrame :=
    { frame := ⟨.domain "a" 443, [0x41]⟩
      wire := [0x03, 0x01, 0x61, 0x01, 0xbb, 0x00, 0x01, 0x0d, 0x0a, 0x41]
      formed := by decide +kernel
      flowFree := by decide
      fits := by decide }
  let lineBreak : WireFrame :=
    { frame := ⟨.ipv4 (.v4 (.new 10 0 0 1) 53), [0x0d, 0x0a]⟩
      wire := [0x01, 0x0a, 0x00, 0x00, 0x01, 0x00, 0x35, 0x00, 0x02, 0x0d, 0x0a, 0x0d, 0x0a]
      formed := by decide +kernel
      flowFree := by decide
      fits := by decide }
  have ⟨_, count, bounded, within, read⟩ := readUdpFrames_take [named, lineBreak] 22 (by decide)
  have one : count = 1 := by
    have first := within 0 (by decide)
    have second := within 1 (by decide)
    have whole : (([named, lineBreak].take (0 + 1)).flatMap WireFrame.wire).length ≤ 22 := by
      decide
    have torn : ¬ (([named, lineBreak].take (1 + 1)).flatMap WireFrame.wire).length ≤ 22 := by
      decide
    omega
  rw [one] at read
  exact read

end TrojanRust
