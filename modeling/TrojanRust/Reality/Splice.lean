import TrojanRust.Bytes.Duplex
import TrojanRust.Error
import TrojanRust.Reality.Vision

/-!
# Forwarding between two streams

The three ways in which the crate forwards between two streams. `relay` and `tcpSplice` are two
copies that run side by side and differ in what they do when one is over. `DirectSplice` is one
loop that reads whichever stream is ready and writes what it read to the other.
-/

namespace TrojanRust

open TrojanRust.Bytes

/-- `relay`, by `copy_bidirectional`: a direction that reaches its end shuts down the write side
of its destination, and an error of one direction ends both. -/
def relay : CopyPolicy where
  shutsDown := true
  failsTogether := true

/-- `tcp_splice`, by two spawned tasks with a half of each stream: `io::copy` flushes its writer at
the end and leaves it open, and a task that fails does not end the other. -/
def tcpSplice : CopyPolicy where
  shutsDown := false
  failsTogether := false

/-- The sum of two byte counts, which panics on overflow in a build that checks for it and wraps
around in one that does not. -/
def addCounts (profile : BuildProfile) (left right : UInt64) : Result UInt64 :=
  if left.toNat + right.toNat < 2 ^ 64 then .ok (left + right)
  else
    match profile with
    | .debug => .error .panic
    | .release => .ok (left + right)

/-- Adding byte counts fails only by a panic. -/
theorem addCounts_error {profile : BuildProfile} {left right : UInt64} {fault : Fault}
    (failed : addCounts profile left right = .error fault) : fault = .panic := by
  unfold addCounts at failed
  split at failed
  · contradiction
  · cases profile with
    | debug => exact (Except.error.inj failed).symm
    | release => contradiction

/-- What is returned is the sum as words. -/
theorem addCounts_ok {profile : BuildProfile} {left right sum : UInt64}
    (added : addCounts profile left right = .ok sum) : sum = left + right := by
  unfold addCounts at added
  split at added
  · exact (Except.ok.inj added).symm
  · cases profile with
    | debug => contradiction
    | release => exact (Except.ok.inj added).symm

/-- Adding byte counts fails only when they overflow. -/
theorem addCounts_overflows {profile : BuildProfile} {left right : UInt64} {fault : Fault}
    (failed : addCounts profile left right = .error fault) :
    2 ^ 64 ≤ left.toNat + right.toNat := by
  unfold addCounts at failed
  split at failed
  · contradiction
  · omega

/-- What a copy that is over returns: the number of bytes that it delivered, or its error. -/
def copyResult (kind : ErrorKind) (lane : Lane UInt8) : Option (Result UInt64) :=
  match lane.status with
  | .running => none
  | .finished => some (.ok (.ofNat lane.delivered.length))
  | .failed => some (err (.io kind))

/-- What is returned once both copies are over: a combination of their numbers, or the error of
one of them. -/
def joinResults {γ : Type} (combine : UInt64 → UInt64 → Result γ) (kind : Side → ErrorKind)
    (state : Duplex UInt8) : Option (Result γ) := do
  let leftResult ← copyResult (kind .left) (state.lane .left)
  let rightResult ← copyResult (kind .right) (state.lane .right)
  some (leftResult >>= fun left => rightResult >>= combine left)

/-- What `relay` returns. -/
def relayResult (kind : Side → ErrorKind) (state : Duplex UInt8) :
    Option (Result (UInt64 × UInt64)) :=
  joinResults (fun upstream downstream => .ok (upstream, downstream)) kind state

/-- What `tcp_splice` returns. -/
def tcpSpliceResult (profile : BuildProfile) (kind : Side → ErrorKind) (state : Duplex UInt8) :
    Option (Result UInt64) :=
  joinResults (addCounts profile) kind state

/-- The size of the buffers of `DirectSplice::splice`. -/
def spliceBufferSize : Nat := 65536

/-- One of the two streams of a `DirectSplice`, with the peer behind it. -/
structure SpliceStream where
  /-- What the peer sends before the end of its stream. -/
  sent : List UInt8
  /-- What has not been read of it. -/
  pending : List UInt8
  /-- What has been read of it. -/
  taken : List UInt8
  /-- The buffer that it is read into. -/
  buf : List UInt8
  /-- What has been written to the peer. -/
  written : List UInt8
  /-- Nothing is lost, repeated or reordered by reading. -/
  kept : taken ++ pending = sent

namespace SpliceStream

/-- Nothing has been read or written. -/
def start (sent : List UInt8) : SpliceStream where
  sent
  pending := sent
  taken := []
  buf := List.replicate spliceBufferSize 0
  written := []
  kept := rfl

/-- `read`: the next bytes are put at the front of the buffer. -/
def read (count : Nat) (stream : SpliceStream) : SpliceStream :=
  { stream with
    pending := stream.pending.drop count
    taken := stream.taken ++ stream.pending.take count
    buf := stream.pending.take count ++ stream.buf.drop count
    kept := by rw [List.append_assoc, List.take_append_drop, stream.kept] }

/-- `write_all`. -/
def write (bytes : List UInt8) (stream : SpliceStream) : SpliceStream :=
  { stream with written := stream.written ++ bytes }

end SpliceStream

/-- The state of `DirectSplice::splice` at the head of its loop, or after it. The stream that the
source calls the reader is on the left and the one that it calls the writer on the right. -/
structure DirectSplice where
  stream : Side → SpliceStream
  bytesTransferred : UInt64
  /-- What `splice` returned, or that it panicked. -/
  exit : Option (Result UInt64)

/-- How the read of the stream that is ready returns; no bytes are the end of the stream. -/
inductive SpliceRead where
  | bytes (count : Nat)
  | failed (kind : ErrorKind)
  deriving DecidableEq, Repr

/-- How `write_all` and `flush` to the other stream return. -/
inductive SpliceWrite where
  | flushed
  /-- `write_all` failed after so many bytes. -/
  | writeFailed (kind : ErrorKind) (count : Nat)
  /-- `flush` failed. -/
  | flushFailed (kind : ErrorKind)
  deriving DecidableEq, Repr

/-- One turn of the loop: which stream is ready, and how its read and the write return. -/
structure SpliceTurn where
  side : Side
  read : SpliceRead
  write : SpliceWrite
  deriving DecidableEq, Repr

namespace DirectSplice

/-- The loop is entered with a fresh buffer for each stream. -/
def start (bytesTransferred : UInt64) (sent : Side → List UInt8) : DirectSplice where
  stream side := .start (sent side)
  bytesTransferred
  exit := none

/-- Replace one of the streams. -/
def setStream (side : Side) (stream : SpliceStream) (state : DirectSplice) : DirectSplice :=
  { state with stream := Function.update state.stream side stream }

/-- The bytes at the front of the buffer are written to the other stream. -/
def forward (side : Side) (count : Nat) (state : DirectSplice) : DirectSplice :=
  state.setStream side.other
    ((state.stream side.other).write ((state.stream side).buf.take count))

/-- `self.bytes_transferred += n as u64`. -/
def addTransferred (profile : BuildProfile) (count : Nat) (state : DirectSplice) : DirectSplice :=
  match addCounts profile state.bytesTransferred (.ofNat count) with
  | .ok bytesTransferred => { state with bytesTransferred }
  | .error fault => { state with exit := some (.error fault) }

/-- The turn after some bytes were read into the buffer. -/
def writeTurn (profile : BuildProfile) (side : Side) (count : Nat) (write : SpliceWrite)
    (state : DirectSplice) : DirectSplice :=
  match write with
  | .flushed => (state.forward side count).addTransferred profile count
  | .writeFailed kind partly =>
    { state.forward side (min partly count) with exit := some (err (.io kind)) }
  | .flushFailed kind => { state.forward side count with exit := some (err (.io kind)) }

/-- One turn of `DirectSplice::splice`. -/
def step (profile : BuildProfile) (state : DirectSplice) (turn : SpliceTurn) :
    Option DirectSplice :=
  if state.exit.isSome then none
  else
    match turn.read with
    | .failed kind =>
      if kind = .wouldBlock then some state
      else some { state with exit := some (.ok state.bytesTransferred) }
    | .bytes 0 =>
      if (state.stream turn.side).pending = [] then
        some { state with exit := some (.ok state.bytesTransferred) }
      else none
    | .bytes count =>
      if count ≤ spliceBufferSize ∧ count ≤ (state.stream turn.side).pending.length then
        some ((state.setStream turn.side ((state.stream turn.side).read count)).writeTurn profile
          turn.side count turn.write)
      else none

/-- A replaced stream is what it was replaced with. -/
@[simp]
theorem setStream_self (side : Side) (stream : SpliceStream) (state : DirectSplice) :
    (state.setStream side stream).stream side = stream := Function.update_self _ _ _

/-- The stream of the peer stays as it was. -/
@[simp]
theorem setStream_other (side : Side) (stream : SpliceStream) (state : DirectSplice) :
    (state.setStream side stream).stream side.other = state.stream side.other :=
  Function.update_of_ne (Side.other_ne side) _ _

/-- A stream stays as it was when that of the peer is replaced. -/
@[simp]
theorem setStream_opposite (side : Side) (stream : SpliceStream) (state : DirectSplice) :
    (state.setStream side.other stream).stream side = state.stream side :=
  Function.update_of_ne (Side.other_ne side).symm _ _

/-- What a turn can do: it is repeated, it ends the loop, or it forwards what was read. -/
inductive Effect (profile : BuildProfile) (state : DirectSplice) :
    SpliceTurn → DirectSplice → Prop
  | retried (side : Side) (write : SpliceWrite) :
    Effect profile state ⟨side, .failed .wouldBlock, write⟩ state
  | broke (side : Side) (kind : ErrorKind) (write : SpliceWrite) (fatal : kind ≠ .wouldBlock) :
    Effect profile state ⟨side, .failed kind, write⟩
      { state with exit := some (.ok state.bytesTransferred) }
  | ended (side : Side) (write : SpliceWrite) (drained : (state.stream side).pending = []) :
    Effect profile state ⟨side, .bytes 0, write⟩
      { state with exit := some (.ok state.bytesTransferred) }
  | moved (side : Side) (count : Nat) (write : SpliceWrite) (positive : 0 < count)
      (fits : count ≤ spliceBufferSize ∧ count ≤ (state.stream side).pending.length) :
    Effect profile state ⟨side, .bytes count, write⟩
      ((state.setStream side ((state.stream side).read count)).writeTurn profile side count write)

/-- Every turn is taken inside the loop and has one of these effects. -/
theorem step_effect {profile : BuildProfile} {state next : DirectSplice} {turn : SpliceTurn}
    (stepped : state.step profile turn = some next) :
    state.exit = none ∧ Effect profile state turn next := by
  have ⟨side, read, write⟩ := turn
  by_cases returned : state.exit.isSome
  · rw [step, if_pos returned] at stepped
    contradiction
  · have runs : state.exit = none := by simpa using returned
    rw [step, if_neg returned] at stepped
    refine ⟨runs, ?_⟩
    cases read with
    | failed kind =>
      by_cases block : kind = .wouldBlock
      · subst block
        obtain rfl : state = next := Option.some.inj stepped
        exact .retried side write
      · simp only [if_neg block, Option.some.injEq] at stepped
        subst stepped
        exact .broke side kind write block
    | bytes count =>
      cases count with
      | zero =>
        obtain ⟨drained, rfl⟩ := Runs.guarded.mp stepped
        exact .ended side write drained
      | succ count =>
        obtain ⟨fits, rfl⟩ := Runs.guarded.mp stepped
        exact .moved side (count + 1) write (Nat.succ_pos count) fits

/-- Forwarding a front of the bytes that were just read writes that front of what was taken of this
stream to the other, whatever was in the buffer before. -/
theorem forward_part (side : Side) {part count : Nat} {state : DirectSplice}
    (partly : part ≤ count) (fits : count ≤ (state.stream side).pending.length) :
    (state.setStream side ((state.stream side).read count)).forward side part =
      (state.setStream side ((state.stream side).read count)).setStream side.other
        ((state.stream side.other).write ((state.stream side).pending.take part)) := by
  have front : (((state.stream side).read count).buf).take part =
      (state.stream side).pending.take part := by
    have inside : part ≤ ((state.stream side).pending.take count).length := by
      rw [List.length_take]
      omega
    change List.take part (_ ++ _) = _
    rw [List.take_append_of_le_length inside, List.take_take, Nat.min_eq_left partly]
  rw [forward, setStream_self, setStream_other, front]

/-- Forwarding the bytes that were just read writes to the other stream exactly what was taken of
this one. -/
theorem forward_read (side : Side) {count : Nat} {state : DirectSplice}
    (fits : count ≤ (state.stream side).pending.length) :
    (state.setStream side ((state.stream side).read count)).forward side count =
      (state.setStream side ((state.stream side).read count)).setStream side.other
        ((state.stream side.other).write ((state.stream side).pending.take count)) :=
  forward_part side le_rfl fits

/-- Counting changes neither stream. -/
@[simp]
theorem addTransferred_stream (profile : BuildProfile) (count : Nat) (state : DirectSplice) :
    (state.addTransferred profile count).stream = state.stream := by
  cases counted : addCounts profile state.bytesTransferred (.ofNat count) with
  | ok sum => simp [addTransferred, counted]
  | error fault => simp [addTransferred, counted]

/-- Counting leaves the loop only by a panic. -/
theorem addTransferred_exit (profile : BuildProfile) (count : Nat) {state : DirectSplice}
    (runs : state.exit = none) :
    (state.addTransferred profile count).exit = none ∨
      (state.addTransferred profile count).exit = some (.error .panic) := by
  cases counted : addCounts profile state.bytesTransferred (.ofNat count) with
  | ok sum =>
    left
    simp [addTransferred, counted, runs]
  | error fault =>
    right
    simp [addTransferred, counted, addCounts_error counted]

end DirectSplice

end TrojanRust
