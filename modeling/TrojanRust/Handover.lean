import TrojanRust.Dispatch

/-!
# What a connection is handed over with

Whatever a client sends, and however its stream ends, a connection that is handed over is handed
over by what its bytes start with, with every byte of them. No bytes of a client make this panic.
-/

namespace TrojanRust

open TrojanRust.Bytes

/-- What a connection is handed over with tells about the bytes that its client sends. -/
inductive HandedOver (config : Config) (peerAddr : SocketAddr) (sent : List UInt8) :
    Dispatch → Prop
  | dropped (empty : sent = []) : HandedOver config peerAddr sent .dropped
  | fallback (stream : ClientStream) (peeked : List UInt8) (some : peeked ≠ [])
      (kept : peeked ++ stream.bytes = sent)
      (refused : ∀ header rest, ¬ Admits config.passwords sent header rest) :
    HandedOver config peerAddr sent (.fallback stream peeked config.fallbackAddr)
  | proxied (header : Header) (leftover : List UInt8) (stream : ClientStream)
      (admits : Admits config.passwords sent header (leftover ++ stream.bytes)) :
    HandedOver config peerAddr sent
      (.proxy config peerAddr header (PrefixedStream.new leftover stream))

/-- Whatever the client sends and however its stream ends, a connection is handed over by the bytes
that the client sends. -/
theorem handleConnection_handsOver {config : Config} {peerAddr : SocketAddr}
    {stream : ClientStream} {dispatch : Dispatch}
    (handled : handleConnection config peerAddr stream = .ok dispatch) :
    HandedOver config peerAddr stream.bytes dispatch := by
  have handed := handled
  unfold handleConnection at handed
  cases looped : peekLoop config stream [] with
  | error fault =>
    rw [looped, error_bind] at handed
    contradiction
  | ok outcome =>
    rw [looped, ok_bind] at handed
    cases peekLoop_settles looped with
    | dropped empty =>
      obtain rfl := Except.ok.inj handed
      exact .dropped empty
    | fallback current peeked kept some refused =>
      obtain rfl := Except.ok.inj handed
      exact .fallback current peeked some kept refused
    | header header current peeked kept sameEnd parsed authorized =>
      rcases handleConnection_header config peerAddr stream current header peeked looped parsed with
        ⟨wire, leftover, split, spells, called⟩
      rw [handled] at called
      obtain rfl := Except.ok.inj called
      refine .proxied header leftover current ⟨wire, ?_, spells, authorized⟩
      rw [← kept, split, List.append_assoc]

/-- Handling a connection never panics before the connection is handed over. -/
theorem handleConnection_ne_panic (config : Config) (peerAddr : SocketAddr)
    (stream : ClientStream) : handleConnection config peerAddr stream ≠ .error .panic := by
  intro panics
  have handed := panics
  unfold handleConnection at handed
  cases looped : peekLoop config stream [] with
  | error fault =>
    rcases peekLoop_error looped with ⟨kind, rfl⟩
    rw [looped, error_bind] at handed
    simp at handed
  | ok outcome =>
    rw [looped, ok_bind] at handed
    cases peekLoop_settles looped with
    | dropped empty => contradiction
    | fallback current peeked kept some refused => contradiction
    | header header current peeked kept sameEnd parsed authorized =>
      rcases handleConnection_header config peerAddr stream current header peeked looped parsed with
        ⟨wire, leftover, _, _, called⟩
      rw [panics] at called
      contradiction

/-- No client bytes crash the header path. Neither buffered parser panics on any buffer; a length
that is reported is inside the buffer, and the bytes up to it decide; on every buffer with an
accepted header its end is computed from the length of its address, without either fallback, and
the slice from there is inside the buffer; and no client stream makes the connection handler
panic. -/
theorem headerPath_safe :
    (∀ buf, Address.parseFromBuf buf ≠ .error .panic) ∧
    (∀ buf, Header.tryParseFromBuf buf ≠ .error .panic) ∧
    (∀ (buf : List UInt8) address n, Address.parseFromBuf buf = .ok (address, some n) →
      n ≤ buf.length ∧ ∀ other : List UInt8, other.take n = buf.take n →
        Address.parseFromBuf other = .ok (address, some n)) ∧
    (∀ (buf : List UInt8) header, Header.tryParseFromBuf buf = .ok (some header) →
      ∃ n addrLen, computeHeaderEnd header buf = .ok n ∧ 59 < buf.length ∧
        Address.parseFromBuf (buf.drop 59) = .ok (header.address, some addrLen) ∧
        n = 59 + addrLen + 2 ∧ n ≤ buf.length ∧ sliceFrom buf n = .ok (buf.drop n) ∧
        ∀ other : List UInt8, other.take n = buf.take n →
          Header.tryParseFromBuf other = .ok (some header) ∧
            computeHeaderEnd header other = .ok n) ∧
    ∀ (config : Config) (peerAddr : SocketAddr) (stream : ClientStream),
      handleConnection config peerAddr stream ≠ .error .panic := by
  refine ⟨Address.parseFromBuf_ne_panic, Header.tryParseFromBuf_ne_panic, ?_, ?_,
    handleConnection_ne_panic⟩
  · intro buf address n accepted
    exact Address.parseFromBuf_take accepted
  · intro buf header accepted
    obtain ⟨n, addrLen, computed, long, address, sum, inside, decides⟩ :=
      Header.computeHeaderEnd_take accepted
    have cut : sliceFrom buf n = .ok (buf.drop n) := if_pos inside
    exact ⟨n, addrLen, computed, long, address, sum, inside, cut, decides⟩

end TrojanRust
