import Mathlib

/-!
# Polled streams

A polled stream answers a call at once or asks to be called again. It is four functions of its
state of which nothing is assumed, so it may deliver its bytes in any pieces, wait as often as it
likes, fail, and answer what is written to it. A run of calls is observed by the answers in their
order.
-/

namespace TrojanRust.Bytes

variable {σ ι : Type}

/-- The answer to a call, or that there is none yet. -/
inductive Poll (α : Type) where
  | ready (value : α)
  | pending
  deriving DecidableEq, Repr

/-- Both directions of a stream. -/
structure AsyncStream (σ ι : Type) where
  /-- Read into the room that is left in a buffer: the bytes that were put there, of which there
  are none at the end of the stream. -/
  pollRead : σ → Nat → Poll (Except ι (List UInt8)) × σ
  /-- Write from a buffer: the number of bytes that were accepted. -/
  pollWrite : σ → List UInt8 → Poll (Except ι Nat) × σ
  pollFlush : σ → Poll (Except ι Unit) × σ
  pollShutdown : σ → Poll (Except ι Unit) × σ

/-- A call of one of the functions. -/
inductive AsyncCall where
  | read (capacity : Nat)
  | write (buf : List UInt8)
  | flush
  | shutdown
  deriving DecidableEq, Repr

/-- A call with its answer. -/
inductive AsyncAnswer (ι : Type) where
  | read (capacity : Nat) (answer : Poll (Except ι (List UInt8)))
  | write (buf : List UInt8) (answer : Poll (Except ι Nat))
  | flush (answer : Poll (Except ι Unit))
  | shutdown (answer : Poll (Except ι Unit))

/-- Whether a call is a read. -/
def AsyncCall.isRead : AsyncCall → Bool
  | .read _ => true
  | _ => false

namespace AsyncAnswer

/-- Whether the call was a read. -/
def isRead : AsyncAnswer ι → Bool
  | .read _ _ => true
  | _ => false

/-- The bytes that a call returned. -/
def bytes : AsyncAnswer ι → List UInt8
  | .read _ (.ready (.ok bytes)) => bytes
  | _ => []

/-- Only a read returns bytes. -/
theorem bytes_eq_nil {answer : AsyncAnswer ι} (other : answer.isRead = false) :
    answer.bytes = [] := by
  cases answer with
  | read capacity answer => contradiction
  | write buf answer => rfl
  | flush answer => rfl
  | shutdown answer => rfl

end AsyncAnswer

/-- The bytes that a run of calls returned. -/
def bytesRead (answers : List (AsyncAnswer ι)) : List UInt8 := answers.flatMap AsyncAnswer.bytes

/-- What the first call returned comes before what the others did. -/
@[simp]
theorem bytesRead_cons (answer : AsyncAnswer ι) (answers : List (AsyncAnswer ι)) :
    bytesRead (answer :: answers) = answer.bytes ++ bytesRead answers := rfl

namespace AsyncStream

/-- Make a call. -/
def perform (stream : AsyncStream σ ι) (state : σ) : AsyncCall → AsyncAnswer ι × σ
  | .read capacity =>
    let (answer, next) := stream.pollRead state capacity
    (.read capacity answer, next)
  | .write buf =>
    let (answer, next) := stream.pollWrite state buf
    (.write buf answer, next)
  | .flush =>
    let (answer, next) := stream.pollFlush state
    (.flush answer, next)
  | .shutdown =>
    let (answer, next) := stream.pollShutdown state
    (.shutdown answer, next)

/-- Make calls one after the other. -/
def run (stream : AsyncStream σ ι) : σ → List AsyncCall → List (AsyncAnswer ι) × σ
  | state, [] => ([], state)
  | state, call :: calls =>
    let (answer, next) := stream.perform state call
    let (answers, final) := run stream next calls
    (answer :: answers, final)

/-- A run that starts with a call makes it and then the others. -/
theorem run_cons (stream : AsyncStream σ ι) (state : σ) (call : AsyncCall)
    (calls : List AsyncCall) :
    stream.run state (call :: calls) =
      ((stream.perform state call).1 :: (stream.run (stream.perform state call).2 calls).1,
        (stream.run (stream.perform state call).2 calls).2) := rfl

/-- The answer to a call is that of a read when the call is one. -/
theorem perform_isRead (stream : AsyncStream σ ι) (state : σ) (call : AsyncCall) :
    (stream.perform state call).1.isRead = call.isRead := by
  cases call with
  | read capacity => rfl
  | write buf => rfl
  | flush => rfl
  | shutdown => rfl

/-- Calls that are no reads return no bytes. -/
theorem bytesRead_run_eq_nil (stream : AsyncStream σ ι) (state : σ) {calls : List AsyncCall}
    (unread : ¬ ∃ call ∈ calls, call.isRead = true) :
    bytesRead (stream.run state calls).1 = [] := by
  induction calls generalizing state with
  | nil => rfl
  | cons call calls ih =>
    have other : call.isRead = false := by
      by_contra reads
      exact unread ⟨call, List.mem_cons_self, by simpa using reads⟩
    have later : ¬ ∃ call ∈ calls, call.isRead = true := by
      intro reads
      rcases reads with ⟨found, member, isRead⟩
      exact unread ⟨found, List.mem_cons_of_mem _ member, isRead⟩
    have silent := (stream.perform_isRead state call).trans other
    rw [run_cons, bytesRead_cons, AsyncAnswer.bytes_eq_nil silent, List.nil_append]
    exact ih _ later

/-- What is read depends on a view of the state that only reads change. -/
structure ReadsBy {γ : Type} (stream : AsyncStream σ ι) (view : σ → γ) : Prop where
  read : ∀ {left right : σ} (capacity : Nat), view left = view right →
    (stream.pollRead left capacity).1 = (stream.pollRead right capacity).1 ∧
      view (stream.pollRead left capacity).2 = view (stream.pollRead right capacity).2
  write : ∀ (state : σ) (buf : List UInt8), view (stream.pollWrite state buf).2 = view state
  flush : ∀ state : σ, view (stream.pollFlush state).2 = view state
  shutdown : ∀ state : σ, view (stream.pollShutdown state).2 = view state

/-- A call that is no read does not change the view. -/
theorem ReadsBy.view_perform {γ : Type} {stream : AsyncStream σ ι} {view : σ → γ}
    (readsBy : stream.ReadsBy view) (state : σ) {call : AsyncCall} (other : call.isRead = false) :
    view (stream.perform state call).2 = view state := by
  cases call with
  | read capacity => contradiction
  | write buf => exact readsBy.write state buf
  | flush => exact readsBy.flush state
  | shutdown => exact readsBy.shutdown state

/-- The reads of a run are answered as they are without the other calls. -/
theorem ReadsBy.run_filter {γ : Type} {stream : AsyncStream σ ι} {view : σ → γ}
    (readsBy : stream.ReadsBy view) {left right : σ} (same : view left = view right)
    (calls : List AsyncCall) :
    (stream.run left calls).1.filter AsyncAnswer.isRead =
      (stream.run right (calls.filter AsyncCall.isRead)).1 := by
  -- The other calls move the state on the left alone, and keep its view.
  induction calls generalizing left right with
  | nil => rfl
  | cons call calls ih =>
    have isRead := stream.perform_isRead left call
    rw [run_cons]
    cases kind : call.isRead with
    | false =>
      have kept := readsBy.view_perform left kind
      rw [kind] at isRead
      rw [List.filter_cons_of_neg (by simp [isRead]), List.filter_cons_of_neg (by simp [kind])]
      exact ih (kept.trans same)
    | true =>
      rw [kind] at isRead
      rw [List.filter_cons_of_pos isRead, List.filter_cons_of_pos kind, run_cons]
      cases call with
      | read capacity =>
        have ⟨answers, next⟩ := readsBy.read capacity same
        have rest := ih next
        show AsyncAnswer.read capacity _ :: _ = AsyncAnswer.read capacity _ :: _
        rw [answers]
        exact congrArg _ rest
      | write buf => contradiction
      | flush => contradiction
      | shutdown => contradiction

end AsyncStream

end TrojanRust.Bytes
