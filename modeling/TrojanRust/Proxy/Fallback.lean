import TrojanRust.Bytes.Async
import TrojanRust.Bytes.Source
import TrojanRust.Net

/-!
# Client streams, replayed prefixes and the fallback

What a client sends is a sequence of non-empty pieces with an end; a read returns as much of the
first piece as fits. `PrefixedStream` puts bytes back in front of any such stream, and of any
stream that is polled. `handleFallback` replays peeked bytes to the fallback backend before
forwarding the rest.
-/

namespace TrojanRust

open TrojanRust.Bytes

/-- The read half of a client connection. -/
structure ClientStream where
  /-- The bytes as they become available. -/
  pieces : List (List UInt8)
  /-- Nothing becomes available by an empty piece. -/
  nonempty : ∀ piece ∈ pieces, piece ≠ []
  /-- How the connection ends: by the regular end of the stream, or by an error. -/
  ending : Option ErrorKind

namespace ClientStream

/-- The bytes that the client sends, however they are cut into pieces. -/
def bytes (stream : ClientStream) : List UInt8 := stream.pieces.flatten

/-- `read` into a buffer of the given capacity. -/
def read (stream : ClientStream) (capacity : Nat) :
    Except ErrorKind (List UInt8) × ClientStream :=
  match known : stream.pieces with
  | [] =>
    match stream.ending with
    | none => (.ok [], stream)
    | some kind => (.error kind, stream)
  | piece :: pieces =>
    have later : ∀ other ∈ pieces, other ≠ [] := fun other member =>
      stream.nonempty other (by simp [known, member])
    if fits : piece.length ≤ capacity then (.ok piece, ⟨pieces, later, stream.ending⟩)
    else
      (.ok (piece.take capacity), ⟨piece.drop capacity :: pieces,
        List.forall_mem_cons.mpr ⟨by simpa using fits, later⟩, stream.ending⟩)

/-- The client's read half as a source of bytes. -/
def source : Source ClientStream ErrorKind where
  read := read
  remaining := bytes
  ending := ending

/-- A client stream is a lawful source: a read takes a front of what remains, and none only at the
end. -/
theorem source_lawful : source.Lawful where
  chunk {stream capacity chunk next} taken := by
    simp only [source, read] at taken ⊢
    split at taken
    · rename_i none
      split at taken
      · simp only [Prod.mk.injEq, Except.ok.injEq] at taken
        simp [← taken.1, ← taken.2]
      · simp at taken
    · rename_i piece pieces known
      split at taken
      · rename_i fits
        simp only [Prod.mk.injEq, Except.ok.injEq] at taken
        obtain ⟨rfl, rfl⟩ := taken
        simp [bytes, known, fits]
      · rename_i large
        simp only [Prod.mk.injEq, Except.ok.injEq] at taken
        obtain ⟨rfl, rfl⟩ := taken
        simp only [bytes, known, List.flatten_cons, List.length_take, and_true]
        exact ⟨by rw [← List.append_assoc, List.take_append_drop], Nat.min_le_left _ _⟩
  progress {stream capacity} positive more := by
    simp only [source, read] at more ⊢
    split
    · rename_i none
      simp [bytes, none] at more
    · rename_i piece pieces known
      have nonempty : piece ≠ [] := stream.nonempty piece (by simp [known])
      split
      · exact ⟨piece, _, nonempty, rfl⟩
      · refine ⟨piece.take capacity, _, ?_, rfl⟩
        simp only [ne_eq, List.take_eq_nil_iff, nonempty, or_false]
        omega
  ended {stream capacity} positive empty := by
    simp only [source, read] at empty ⊢
    split
    · cases stream.ending <;> rfl
    · rename_i piece pieces known
      have nonempty : piece ≠ [] := stream.nonempty piece (by simp [known])
      simp [bytes, known, nonempty] at empty

end ClientStream

/-- `PrefixedStream`. -/
structure PrefixedStream (S : Type) where
  /-- Contents of the cursor. -/
  prefixBytes : List UInt8
  /-- Position of the cursor. -/
  position : Nat
  /-- The cursor does not leave its contents, so what remains of them does not underflow. -/
  inside : position ≤ prefixBytes.length
  inner : S

namespace PrefixedStream

variable {S : Type}

/-- `PrefixedStream::new`. -/
def new (prefixBytes : List UInt8) (inner : S) : PrefixedStream S where
  prefixBytes
  position := 0
  inside := Nat.zero_le _
  inner

/-- `PrefixedStream::poll_read` into a buffer of the given capacity, over `poll_read` of the
inner stream. -/
def read (inner : Source S ErrorKind) (stream : PrefixedStream S) (capacity : Nat) :
    Except ErrorKind (List UInt8) × PrefixedStream S :=
  let prefixRemaining := stream.prefixBytes.length - stream.position
  if 0 < prefixRemaining then
    let copied := min prefixRemaining capacity
    (.ok ((stream.prefixBytes.drop stream.position).take copied),
      { stream with
        position := stream.position + copied
        inside := by
          have inside := stream.inside
          omega })
  else
    let outcome := inner.read stream.inner capacity
    (outcome.1, { stream with inner := outcome.2 })

/-- What is left of the prefix, and then the inner stream. -/
def source (inner : Source S ErrorKind) : Source (PrefixedStream S) ErrorKind where
  read := read inner
  remaining stream :=
    stream.prefixBytes.drop stream.position ++ inner.remaining stream.inner
  ending stream := inner.ending stream.inner

/-- A prefixed stream is a lawful source when its inner stream is one. -/
theorem source_lawful {inner : Source S ErrorKind} (lawful : inner.Lawful) :
    (source inner).Lawful where
  chunk {stream capacity chunk next} taken := by
    simp only [source, read] at taken ⊢
    split at taken
    · rename_i more
      simp only [Prod.mk.injEq, Except.ok.injEq] at taken
      obtain ⟨rfl, rfl⟩ := taken
      refine ⟨?_, ?_, rfl⟩
      · rw [← List.append_assoc, ← List.drop_drop, List.take_append_drop]
      · rw [List.length_take]
        omega
    · rename_i none
      simp only [Prod.mk.injEq] at taken
      obtain ⟨read, rfl⟩ := taken
      have all : stream.prefixBytes.drop stream.position = [] := by
        rw [List.drop_eq_nil_iff]
        omega
      have ⟨split, bound, kept⟩ := lawful.chunk (Prod.ext read rfl)
      rw [all, List.nil_append, List.nil_append]
      exact ⟨split, bound, kept⟩
  progress {stream capacity} positive more := by
    simp only [source, read] at more ⊢
    split
    · rename_i left
      refine ⟨_, _, ?_, rfl⟩
      simp only [ne_eq, List.take_eq_nil_iff, List.drop_eq_nil_iff]
      omega
    · rename_i none
      have all : stream.prefixBytes.drop stream.position = [] := by
        rw [List.drop_eq_nil_iff]
        omega
      rw [all, List.nil_append] at more
      have ⟨bytes, next, nonempty, read⟩ := lawful.progress positive more
      exact ⟨bytes, _, nonempty, by rw [read]⟩
  ended {stream capacity} positive empty := by
    simp only [source, read] at empty ⊢
    rw [List.append_eq_nil_iff, List.drop_eq_nil_iff] at empty
    have none : ¬ 0 < stream.prefixBytes.length - stream.position := by omega
    rw [if_neg none]
    exact lawful.ended positive empty.2

/-- `Cursor::poll_read` of the prefix. -/
def readCursor (stream : PrefixedStream S) (capacity : Nat) : List UInt8 × PrefixedStream S :=
  let amt := min (stream.prefixBytes.length - stream.position) capacity
  ((stream.prefixBytes.drop stream.position).take amt,
    { stream with
      position := stream.position + amt
      inside := by
        have inside := stream.inside
        omega })

/-- `PrefixedStream::poll_read`, over a stream that is polled. -/
def pollRead (inner : AsyncStream S ErrorKind) (stream : PrefixedStream S) (capacity : Nat) :
    Poll (Except ErrorKind (List UInt8)) × PrefixedStream S :=
  let prefixRemaining := stream.prefixBytes.length - stream.position
  if 0 < prefixRemaining then
    let (bytes, next) := stream.readCursor capacity
    (.ready (.ok bytes), next)
  else
    let (answer, next) := inner.pollRead stream.inner capacity
    (answer, { stream with inner := next })

/-- `PrefixedStream::poll_write`. -/
def pollWrite (inner : AsyncStream S ErrorKind) (stream : PrefixedStream S) (buf : List UInt8) :
    Poll (Except ErrorKind Nat) × PrefixedStream S :=
  let (answer, next) := inner.pollWrite stream.inner buf
  (answer, { stream with inner := next })

/-- `PrefixedStream::poll_flush`. -/
def pollFlush (inner : AsyncStream S ErrorKind) (stream : PrefixedStream S) :
    Poll (Except ErrorKind Unit) × PrefixedStream S :=
  let (answer, next) := inner.pollFlush stream.inner
  (answer, { stream with inner := next })

/-- `PrefixedStream::poll_shutdown`. -/
def pollShutdown (inner : AsyncStream S ErrorKind) (stream : PrefixedStream S) :
    Poll (Except ErrorKind Unit) × PrefixedStream S :=
  let (answer, next) := inner.pollShutdown stream.inner
  (answer, { stream with inner := next })

/-- The wrapper of a stream that is polled is polled itself. -/
def asyncStream (inner : AsyncStream S ErrorKind) : AsyncStream (PrefixedStream S) ErrorKind where
  pollRead := pollRead inner
  pollWrite := pollWrite inner
  pollFlush := pollFlush inner
  pollShutdown := pollShutdown inner

/-- Over a stream that answers every poll at once, polling is reading. -/
theorem pollRead_eq_read {inner : AsyncStream S ErrorKind} {source : Source S ErrorKind}
    (atOnce : ∀ state capacity, inner.pollRead state capacity =
      (.ready (source.read state capacity).1, (source.read state capacity).2))
    (stream : PrefixedStream S) (capacity : Nat) :
    pollRead inner stream capacity =
      (.ready (read source stream capacity).1, (read source stream capacity).2) := by
  unfold pollRead read
  by_cases more : 0 < stream.prefixBytes.length - stream.position
  · simp only [if_pos more]
    rfl
  · simp only [if_neg more, atOnce]

end PrefixedStream

/-- `peek_client_data`: read into a buffer of the given capacity, and keep what was read. -/
def peekClientData (stream : ClientStream) (capacity : Nat) : Result (List UInt8) × ClientStream :=
  match stream.read capacity with
  | (.ok buf, next) => (.ok buf, next)
  | (.error kind, next) => (err (.io kind), next)

/-- What the network answers to the calls of `handle_fallback`. -/
structure FallbackNetwork where
  /-- `TcpStream::connect`. -/
  connect : String → Except String Unit
  /-- `write_all` of the peeked bytes. -/
  writeAll : Except ErrorKind Unit
  /-- `copy_bidirectional`. -/
  copyBidirectional : Except ErrorKind Unit

/-- `handle_fallback`: the bytes that the backend was sent, in order. The copy sends what the
client stream still holds. -/
def handleFallback (network : FallbackNetwork) (clientStream : ClientStream)
    (peekedBuf : List UInt8) (fallbackAddr : String) : Result (List UInt8) :=
  match network.connect fallbackAddr with
  | .error e => err (.remoteConnectFailed ("fallback " ++ fallbackAddr ++ ": " ++ e))
  | .ok () => do
    if ¬ peekedBuf.isEmpty then network.writeAll.mapError ioFault
    network.copyBidirectional.mapError ioFault
    return peekedBuf ++ clientStream.bytes

end TrojanRust
