import TrojanRust.Peeking

/-!
# Dispatch by the byte stream

Where a connection goes is a function of the bytes that the client sends: a stream that starts
with an authorized header is proxied from the byte after the header, the empty stream is
dropped, and every other stream is replayed to the fallback. How the bytes are cut into pieces
does not matter, because the verdict of the header parser on a growing buffer is final and is
reached before the peek limit.
-/

namespace TrojanRust

open TrojanRust.Bytes

/-- The hash of a header is one of the configured passwords of 56 bytes, up to the case of its
ASCII letters. -/
def Header.Authorized (header : Header) (passwords : List String) : Prop :=
  ∃ password ∈ passwords, (asBytes password).length = 56 ∧
    (asBytes password).map toAsciiLowercase = header.passwordHash.toList.map toAsciiLowercase

/-- The password check accepts exactly the authorized headers. -/
theorem Header.verifyPassword_iff (header : Header) (passwords : List String) :
    header.verifyPassword passwords = true ↔ header.Authorized passwords := by
  simp [Header.verifyPassword, Header.Authorized, eqIgnoreAsciiCase]

/-- A stream starts with an authorized header, and goes on with these bytes. -/
def Admits (passwords : List String) (sent : List UInt8) (header : Header)
    (rest : List UInt8) : Prop :=
  ∃ wire, sent = wire ++ rest ∧ header.Spells wire ∧ header.Authorized passwords

/-- What the peeking loop ends with tells about the bytes that the client sends, and keeps how its
stream ends. -/
inductive Settles (passwords : List String) (sent : List UInt8) (ending : Option ErrorKind) :
    Peeked → Prop
  | dropped (empty : sent = []) : Settles passwords sent ending .dropped
  | fallback (stream : ClientStream) (peeked : List UInt8) (kept : peeked ++ stream.bytes = sent)
      (some : peeked ≠ []) (refused : ∀ header rest, ¬ Admits passwords sent header rest) :
    Settles passwords sent ending (.fallback stream peeked)
  | header (header : Header) (stream : ClientStream) (peeked : List UInt8)
      (kept : peeked ++ stream.bytes = sent) (sameEnd : stream.ending = ending)
      (parsed : Header.tryParseFromBuf peeked = .ok (some header))
      (authorized : header.Authorized passwords) :
    Settles passwords sent ending (.header header stream peeked)

/-- A stream that starts with an admitted header is parsed as that header. -/
theorem Admits.parsed {passwords : List String} {sent rest : List UInt8} {header : Header}
    (admits : Admits passwords sent header rest) :
    Header.tryParseFromBuf sent = .ok (some header) := by
  obtain ⟨wire, rfl, spells, _⟩ := admits
  exact Header.tryParseFromBuf_complete spells rest

/-- Every front of such a stream asks for more or is parsed as that header already. -/
theorem Admits.front {passwords : List String} {front later rest : List UInt8} {header : Header}
    (admits : Admits passwords (front ++ later) header rest) :
    Header.tryParseFromBuf front = .ok none ∨
      Header.tryParseFromBuf front = .ok (some header) := by
  have parsed := admits.parsed
  cases verdict : Header.tryParseFromBuf front with
  | error fault =>
    rw [Header.tryParseFromBuf_error_append verdict later] at parsed
    contradiction
  | ok accepted =>
    cases accepted with
    | none => exact .inl rfl
    | some found =>
      rw [Header.tryParseFromBuf_some_append verdict later] at parsed
      exact .inr parsed

/-- The header at the front of a stream, and what follows it, are determined by the stream. -/
theorem Admits.unique {passwords : List String} {sent rest tail : List UInt8}
    {header other : Header} (admits : Admits passwords sent header rest)
    (again : Admits passwords sent other tail) : header = other ∧ rest = tail := by
  have ⟨wire, split, spells, _⟩ := admits
  have ⟨spelling, otherSplit, otherSpells, _⟩ := again
  have same : wire ++ rest = spelling ++ tail := by rw [← split, otherSplit]
  exact (spells.unique otherSpells same).2

/-- A turn that ends the loop settles on what was peeked and what is still to come, when the parser
has asked for more so far. -/
theorem peekTurn_settles {config : Config} {stream : ClientStream} {peeked : List UInt8}
    {outcome : Peeked} (asksForMore : Header.tryParseFromBuf peeked = .ok none)
    (ends : peekTurn config stream peeked = .ends (.ok outcome)) :
    Settles config.passwords (peeked ++ stream.bytes) stream.ending outcome := by
  have room := room_of_asksForMore asksForMore
  rcases read : peekClientData stream (peekSize - peeked.length) with ⟨answer, next⟩
  cases answer with
  | error fault =>
    rw [peekTurn, if_neg (Nat.not_le.mpr room), read] at ends
    cases PeekTurn.ends.inj ends
  | ok chunk =>
    by_cases closed : chunk = []
    · subst closed
      rcases peekClientData_nil (Nat.sub_pos_of_lt room) read with ⟨ended, nothing⟩
      rw [peekTurn_closed config room read] at ends
      obtain rfl := Except.ok.inj (PeekTurn.ends.inj ends)
      rw [ended, List.append_nil]
      by_cases empty : peeked = []
      · rw [if_pos (List.isEmpty_iff.mpr empty)]
        exact .dropped empty
      · rw [if_neg (mt List.isEmpty_iff.mp empty)]
        refine .fallback next peeked (by rw [nothing, List.append_nil]) empty ?_
        intro header rest admits
        have parsed := admits.parsed
        rw [asksForMore] at parsed
        simp at parsed
    · rcases peekClientData_taken read with ⟨split, _, sameEnd⟩
      have some : peeked ++ chunk ≠ [] := by simp [closed]
      rw [peekTurn_chunk config room closed read] at ends
      rw [split, ← List.append_assoc]
      cases verdict : Header.tryParseFromBuf (peeked ++ chunk) with
      | error fault =>
        obtain ⟨error, rfl⟩ := Header.error_of_fault verdict
        rw [verdict] at ends
        obtain rfl := Except.ok.inj (PeekTurn.ends.inj ends)
        refine .fallback next _ rfl some ?_
        intro header rest admits
        have front := admits.front
        rw [verdict] at front
        simp at front
      | ok accepted =>
        rw [verdict] at ends
        cases accepted with
        | none => contradiction
        | some header =>
          dsimp only at ends
          by_cases known : header.verifyPassword config.passwords = true
          · rw [if_pos known] at ends
            obtain rfl := Except.ok.inj (PeekTurn.ends.inj ends)
            exact .header header next _ rfl sameEnd verdict
              ((Header.verifyPassword_iff _ _).mp known)
          · rw [if_neg known] at ends
            obtain rfl := Except.ok.inj (PeekTurn.ends.inj ends)
            refine .fallback next _ rfl some ?_
            intro other rest admits
            have front := admits.front
            rw [verdict] at front
            have same : header = other := by simpa using front
            rcases admits with ⟨_, _, _, authorized⟩
            rw [← same] at authorized
            exact known ((Header.verifyPassword_iff _ _).mpr authorized)

/-- The peeking loop settles on the bytes that the client sends. -/
theorem peekLoop_settles {config : Config} {stream : ClientStream} {outcome : Peeked}
    (looped : peekLoop config stream [] = .ok outcome) :
    Settles config.passwords stream.bytes stream.ending outcome := by
  rcases peekLoop_lastHead config stream with ⟨reads, current, peeked, head, turn⟩
  rw [looped] at turn
  have settles := peekTurn_settles head.asksForMore turn
  rwa [head.kept.1, head.kept.2] at settles

/-- The call that a connection with an admitted header is handed over to. -/
def Dispatch.proxy (config : Config) (peerAddr : SocketAddr) (header : Header)
    (clientStream : PrefixedStream ClientStream) : Dispatch :=
  let session := Session.new peerAddr header.address header.command
  match header.command with
  | .connect => .tcp clientStream header.address session config.tcpTimeout
  | .udpAssociate => .udp clientStream session config.udpTimeout config.udpBindAddr

/-- The connection was handed over to the TCP or to the UDP path. -/
def Dispatch.IsProxied : Dispatch → Prop
  | .tcp .. => True
  | .udp .. => True
  | _ => False

/-- The server goes on with the end of the header and the call for its command. -/
theorem handleConnection_header (config : Config) (peerAddr : SocketAddr)
    (stream next : ClientStream) (header : Header) (peeked : List UInt8)
    (looped : peekLoop config stream [] = .ok (.header header next peeked))
    (parsed : Header.tryParseFromBuf peeked = .ok (some header)) :
    ∃ (wire leftover : List UInt8), peeked = wire ++ leftover ∧ header.Spells wire ∧
      handleConnection config peerAddr stream =
        .ok (.proxy config peerAddr header (PrefixedStream.new leftover next)) := by
  obtain ⟨wire, leftover, rfl, spells⟩ := (Header.tryParseFromBuf_eq_some _ _).mp parsed
  refine ⟨wire, leftover, rfl, spells, ?_⟩
  have computed := Header.computeHeaderEnd_complete spells header leftover
  unfold handleConnection Dispatch.proxy
  rw [looped, ok_bind, handOver, computed, ok_bind, sliceFrom_after, ok_bind]
  cases header.command <;> rfl

/-- A freshly prefixed stream holds its prefix and then what the client stream holds. -/
theorem PrefixedStream.remaining_new (leftover : List UInt8) (stream : ClientStream) :
    (PrefixedStream.source ClientStream.source).remaining (PrefixedStream.new leftover stream) =
      leftover ++ stream.bytes := rfl

/-- Everything the network is asked for succeeds. -/
def FallbackNetwork.Healthy (network : FallbackNetwork) : Prop :=
  (∀ addr, network.connect addr = .ok ()) ∧ network.writeAll = .ok () ∧
    network.copyBidirectional = .ok ()

/-- A healthy backend is sent the peeked bytes and then the rest of the client stream. -/
theorem handleFallback_healthy {network : FallbackNetwork} (healthy : network.Healthy)
    (stream : ClientStream) (peeked : List UInt8) (addr : String) :
    handleFallback network stream peeked addr = .ok (peeked ++ stream.bytes) := by
  have ⟨connects, writes, copies⟩ := healthy
  unfold handleFallback
  rw [connects]
  dsimp only
  rw [writes, copies]
  by_cases empty : peeked.isEmpty
  · simp [empty, Except.mapError, pure, Except.pure]
  · simp [empty, Except.mapError, pure, Except.pure]

/-- No header is parsed of nothing. -/
theorem Admits.nonempty {passwords : List String} {sent rest : List UInt8} {header : Header}
    (admits : Admits passwords sent header rest) : sent ≠ [] := by
  intro empty
  have parsed := admits.parsed
  rw [empty, Header.tryParseFromBuf_short (by decide)] at parsed
  simp at parsed

/-- A loop that ended with a header has admitted it. -/
theorem admits_of_parsed {passwords : List String} {stream : ClientStream}
    {header : Header} {peeked : List UInt8} {sent : List UInt8}
    (kept : peeked ++ stream.bytes = sent)
    (parsed : Header.tryParseFromBuf peeked = .ok (some header))
    (authorized : header.Authorized passwords) :
    ∃ rest, Admits passwords sent header rest := by
  obtain ⟨wire, leftover, rfl, spells⟩ := (Header.tryParseFromBuf_eq_some _ _).mp parsed
  exact ⟨leftover ++ stream.bytes, wire, by rw [← kept, List.append_assoc], spells, authorized⟩

/-- A client that sends nothing is dropped. -/
theorem handleConnection_empty (config : Config) (peerAddr : SocketAddr) (stream : ClientStream)
    (regular : stream.ending = none) (empty : stream.bytes = []) :
    handleConnection config peerAddr stream = .ok .dropped := by
  have ⟨outcome, looped⟩ := peekLoop_regular config regular
  cases peekLoop_settles looped with
  | dropped _ =>
    rw [handleConnection, looped]
    rfl
  | fallback next peeked kept some refused =>
    have nothing := List.append_eq_nil_iff.mp (kept.trans empty)
    exact absurd nothing.1 some
  | header header next peeked kept sameEnd parsed authorized =>
    have ⟨rest, admits⟩ := admits_of_parsed kept parsed authorized
    exact absurd empty admits.nonempty

/-- An admitted header is proxied with the bytes that follow it. -/
theorem handleConnection_admitted (config : Config) (peerAddr : SocketAddr)
    (stream : ClientStream) (regular : stream.ending = none) {header : Header}
    {rest : List UInt8} (admits : Admits config.passwords stream.bytes header rest) :
    ∃ clientStream, handleConnection config peerAddr stream =
        .ok (.proxy config peerAddr header clientStream) ∧
      ∀ read, (PrefixedStream.source ClientStream.source).ReadsToEnd clientStream read ↔
        read = rest := by
  have ⟨outcome, looped⟩ := peekLoop_regular config regular
  cases peekLoop_settles looped with
  | dropped empty => exact absurd empty admits.nonempty
  | fallback next peeked kept some refused => exact absurd admits (refused header rest)
  | header found next peeked kept sameEnd parsed authorized =>
    have ⟨wire, leftover, split, spells, handled⟩ :=
      handleConnection_header config peerAddr stream next found peeked looped parsed
    have again : Admits config.passwords stream.bytes found (leftover ++ next.bytes) :=
      ⟨wire, by rw [← kept, split, List.append_assoc], spells, authorized⟩
    obtain ⟨rfl, rfl⟩ := admits.unique again
    refine ⟨_, handled, fun read => ?_⟩
    have lawful := PrefixedStream.source_lawful ClientStream.source_lawful
    rw [Source.readsToEnd_iff lawful (by exact sameEnd.trans regular),
      PrefixedStream.remaining_new]

/-- A stream without an admitted header is replayed to the fallback. -/
theorem handleConnection_refused (config : Config) (peerAddr : SocketAddr)
    (stream : ClientStream) (regular : stream.ending = none) (nonempty : stream.bytes ≠ [])
    (refused : ¬ ∃ header rest, Admits config.passwords stream.bytes header rest) :
    ∃ clientStream peeked, handleConnection config peerAddr stream =
        .ok (.fallback clientStream peeked config.fallbackAddr) ∧
      ∀ network : FallbackNetwork, network.Healthy →
        handleFallback network clientStream peeked config.fallbackAddr = .ok stream.bytes := by
  have ⟨outcome, looped⟩ := peekLoop_regular config regular
  cases peekLoop_settles looped with
  | dropped empty => exact absurd empty nonempty
  | fallback next peeked kept _ _ =>
    refine ⟨next, peeked, ?_, fun network healthy => ?_⟩
    · rw [handleConnection, looped]
      rfl
    · rw [handleFallback_healthy healthy, kept]
  | header found next peeked kept sameEnd parsed authorized =>
    exact absurd ⟨found, admits_of_parsed kept parsed authorized⟩ refused

/-- A header at the front of a stream is authorized only when a password matches the first 56
bytes of the stream. -/
theorem Admits.matches {passwords : List String} {sent rest : List UInt8} {header : Header}
    (admits : Admits passwords sent header rest) :
    ∃ password ∈ passwords, (asBytes password).length = 56 ∧
      (asBytes password).map toAsciiLowercase = (sent.take 56).map toAsciiLowercase := by
  obtain ⟨wire, rfl, ⟨target, hex, spells, rfl⟩, password, member, size, same⟩ := admits
  refine ⟨password, member, size, same.trans ?_⟩
  rw [Header.commandLine_append, Header.commandLine, List.take_left' (by simp)]

/-- Dispatch is a function of the bytes that the client sends, whatever pieces they come in, and
conserves every one of them. The empty stream is dropped. A stream that starts with an
authorized header goes to the path of its command, with a client stream from which exactly the
bytes after the header are read. Every other stream goes to the fallback, whose backend is sent
exactly the stream. A stream whose first 56 bytes match no password is never proxied. -/
theorem handleConnection_dispatches (config : Config) (peerAddr : SocketAddr)
    (stream : ClientStream) (regular : stream.ending = none) :
    (stream.bytes = [] → handleConnection config peerAddr stream = .ok .dropped) ∧
    (∀ header rest, Admits config.passwords stream.bytes header rest →
      ∃ clientStream, handleConnection config peerAddr stream =
          .ok (.proxy config peerAddr header clientStream) ∧
        ∀ read, (PrefixedStream.source ClientStream.source).ReadsToEnd clientStream read ↔
          read = rest) ∧
    (stream.bytes ≠ [] →
      (¬ ∃ header rest, Admits config.passwords stream.bytes header rest) →
      ∃ clientStream peeked, handleConnection config peerAddr stream =
          .ok (.fallback clientStream peeked config.fallbackAddr) ∧
        ∀ network : FallbackNetwork, network.Healthy →
          handleFallback network clientStream peeked config.fallbackAddr = .ok stream.bytes) ∧
    ((∀ password ∈ config.passwords, (asBytes password).length = 56 →
        (asBytes password).map toAsciiLowercase ≠ (stream.bytes.take 56).map toAsciiLowercase) →
      ∃ dispatch, handleConnection config peerAddr stream = .ok dispatch ∧
        ¬ dispatch.IsProxied) := by
  refine ⟨?_, ?_, ?_, ?_⟩
  · exact handleConnection_empty config peerAddr stream regular
  · intro header rest admits
    exact handleConnection_admitted config peerAddr stream regular admits
  · exact handleConnection_refused config peerAddr stream regular
  · intro unknown
    have refused : ¬ ∃ header rest, Admits config.passwords stream.bytes header rest := by
      intro admitted
      have ⟨header, rest, admits⟩ := admitted
      have ⟨password, member, size, same⟩ := admits.matches
      exact unknown password member size same
    by_cases empty : stream.bytes = []
    · exact ⟨_, handleConnection_empty config peerAddr stream regular empty, not_false⟩
    · have ⟨next, peeked, handled, _⟩ :=
        handleConnection_refused config peerAddr stream regular empty refused
      exact ⟨_, handled, not_false⟩

/-- A client that sends a header with a known hash in two pieces, the second of which runs on
into the payload, is served on the TCP path with that payload. -/
theorem handleConnection_dispatches_connect :
    ∃ clientStream, handleConnection
        { bindAddr := "0.0.0.0:443", tlsCert := "", tlsKey := "",
          passwords := ["aaaaaaaaaaaaaaaaaaaaaaaaaaaaaaaaaaaaaaaaaaaaaaaaaaaaaaaa"],
          udpBindAddr := "0.0.0.0:0", tcpTimeout := 300, udpTimeout := 60,
          maxConnections := 1024, fallbackAddr := "127.0.0.1:80" }
        (.v4 (.new 127 0 0 1) 5000)
        { pieces := [List.replicate 56 0x41,
            [0x0d, 0x0a, 0x01, 0x01, 0x0a, 0x00, 0x00, 0x01, 0x00, 0x50, 0x0d, 0x0a, 0x2a]],
          nonempty := by decide, ending := none } =
        .ok (.tcp clientStream (.ipv4 (.v4 (.new 10 0 0 1) 80))
          (.new (.v4 (.new 127 0 0 1) 5000) (.ipv4 (.v4 (.new 10 0 0 1) 80)) .connect) 300) ∧
      ∀ read, (PrefixedStream.source ClientStream.source).ReadsToEnd clientStream read ↔
        read = [0x2a] := by
  have target : (Address.ipv4 (.v4 (.new 10 0 0 1) 80)).Spells
      [0x01, 0x0a, 0x00, 0x00, 0x01, 0x00, 0x50] := .ipv4 (.new 10 0 0 1) 80
  exact (handleConnection_dispatches _ _ _ rfl).2.1
    ⟨Vector.replicate 56 0x41, .connect, .ipv4 (.v4 (.new 10 0 0 1) 80)⟩ [0x2a]
    ⟨_, by decide, ⟨_, by decide, target, rfl⟩, _, List.mem_singleton.mpr rfl, by decide +kernel,
      by decide +kernel⟩

end TrojanRust
