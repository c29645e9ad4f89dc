import TrojanRust.Proxy.Fallback

/-!
# Reading a prefix and then the inner stream

A run of calls of a prefixed stream is a run of some of them of the inner stream: of all calls
that are no reads, and of the reads that came after the last byte of the prefix was returned. The
inner stream is arbitrary, so the two runs agree in whatever pieces it delivers its bytes.
-/

namespace TrojanRust

open TrojanRust.Bytes

namespace PrefixedStream

variable {S : Type}

/-- The bytes of the prefix that have not been returned. -/
def left (stream : PrefixedStream S) : List UInt8 := stream.prefixBytes.drop stream.position

/-- There are none exactly when the cursor is at its end. -/
theorem left_eq_nil_iff (stream : PrefixedStream S) :
    stream.left = [] ↔ stream.position = stream.prefixBytes.length := by
  have inside := stream.inside
  rw [left, List.drop_eq_nil_iff]
  omega

/-- A read before the end of the prefix returns what comes next of it. -/
theorem pollRead_more (inner : AsyncStream S ErrorKind) {stream : PrefixedStream S}
    (more : stream.left ≠ []) (capacity : Nat) :
    pollRead inner stream capacity =
      (.ready (.ok (stream.readCursor capacity).1), (stream.readCursor capacity).2) := by
  have remaining : 0 < stream.prefixBytes.length - stream.position := by
    have inside := stream.inside
    have notAtEnd := mt stream.left_eq_nil_iff.mpr more
    omega
  rw [pollRead, if_pos remaining]

/-- A read after the end of the prefix is a read of the inner stream. -/
theorem pollRead_done (inner : AsyncStream S ErrorKind) {stream : PrefixedStream S}
    (done : stream.left = []) (capacity : Nat) :
    pollRead inner stream capacity = ((inner.pollRead stream.inner capacity).1,
      { stream with inner := (inner.pollRead stream.inner capacity).2 }) := by
  have remaining : ¬ 0 < stream.prefixBytes.length - stream.position := by
    have atEnd := stream.left_eq_nil_iff.mp done
    omega
  rw [pollRead, if_neg remaining]

/-- What the cursor returns is taken off the front of what is left. -/
theorem readCursor_left (stream : PrefixedStream S) (capacity : Nat) :
    (stream.readCursor capacity).1 ++ (stream.readCursor capacity).2.left = stream.left := by
  show List.take _ _ ++ List.drop (stream.position + _) stream.prefixBytes = _
  rw [← List.drop_drop]
  exact List.take_append_drop _ _

/-- A call that is no read, and every call after the end of the prefix, is a call of the inner
stream. -/
theorem perform_passes (inner : AsyncStream S ErrorKind) {stream : PrefixedStream S}
    {call : AsyncCall} (passes : call.isRead = true → stream.left = []) :
    (asyncStream inner).perform stream call = ((inner.perform stream.inner call).1,
      { stream with inner := (inner.perform stream.inner call).2 }) := by
  cases call with
  | read capacity =>
    show (AsyncAnswer.read capacity (pollRead inner stream capacity).1,
      (pollRead inner stream capacity).2) = _
    rw [pollRead_done inner (passes rfl) capacity]
    rfl
  | write buf => rfl
  | flush => rfl
  | shutdown => rfl

/-- A run of calls of the wrapper, and the run of calls of the inner stream that it is. -/
structure Replays (stream final : PrefixedStream S) (calls innerCalls : List AsyncCall)
    (answers innerAnswers : List (AsyncAnswer ErrorKind)) : Prop where
  /-- The inner stream is called in the order of the calls, and for no other reason. -/
  callsInOrder : innerCalls.Sublist calls
  /-- Its answers are passed on in order. -/
  answersInOrder : innerAnswers.Sublist answers
  /-- All calls that are no reads reach it with what they are called with. -/
  others : answers.filter (!·.isRead) = innerAnswers.filter (!·.isRead)
  /-- The bytes of the prefix are returned first, and then those of the inner stream. -/
  bytes : bytesRead answers ++ final.left = stream.left ++ bytesRead innerAnswers
  /-- The inner stream is read only behind the prefix. -/
  behind : (∃ call ∈ innerCalls, call.isRead = true) → final.left = []
  contents : final.prefixBytes = stream.prefixBytes
  rest : final.left <:+ stream.left

/-- A read that the prefix serves goes before a run without a call of the inner stream. -/
theorem Replays.serve {stream final : PrefixedStream S} {calls innerCalls : List AsyncCall}
    {answers innerAnswers : List (AsyncAnswer ErrorKind)} (capacity : Nat)
    (replays : Replays (stream.readCursor capacity).2 final calls innerCalls answers innerAnswers) :
    Replays stream final (.read capacity :: calls) innerCalls
      (.read capacity (.ready (.ok (stream.readCursor capacity).1)) :: answers) innerAnswers where
  callsInOrder := replays.callsInOrder.cons _
  answersInOrder := replays.answersInOrder.cons _
  others := replays.others
  bytes := by
    have served := stream.readCursor_left capacity
    rw [bytesRead_cons, List.append_assoc, replays.bytes, ← List.append_assoc, ← served]
    rfl
  behind := replays.behind
  contents := replays.contents
  rest := by
    have served := stream.readCursor_left capacity
    rw [← served]
    exact replays.rest.trans (List.suffix_append _ _)

/-- A call that is passed on goes before a run with the same call of the inner stream. -/
theorem Replays.pass {stream final : PrefixedStream S} {next : S}
    {calls innerCalls : List AsyncCall} {answers innerAnswers : List (AsyncAnswer ErrorKind)}
    {call : AsyncCall} (answer : AsyncAnswer ErrorKind)
    (passes : call.isRead = true → stream.left = []) (kind : answer.isRead = call.isRead)
    (replays : Replays { stream with inner := next } final calls innerCalls answers innerAnswers) :
    Replays stream final (call :: calls) (call :: innerCalls) (answer :: answers)
      (answer :: innerAnswers) where
  callsInOrder := replays.callsInOrder.cons_cons _
  answersInOrder := replays.answersInOrder.cons_cons _
  others := by
    rw [List.filter_cons, List.filter_cons, replays.others]
  bytes := by
    have rest : bytesRead answers ++ final.left = stream.left ++ bytesRead innerAnswers :=
      replays.bytes
    rw [bytesRead_cons, bytesRead_cons, List.append_assoc, rest]
    cases reads : call.isRead with
    | false =>
      rw [AsyncAnswer.bytes_eq_nil (kind.trans reads)]
      rfl
    | true =>
      rw [passes reads]
      rfl
  behind := by
    intro reads
    rcases reads with ⟨other, member, isRead⟩
    rcases List.mem_cons.mp member with first | later
    · subst first
      have none : stream.left = [] := passes isRead
      have rest : final.left <:+ stream.left := replays.rest
      rw [none] at rest
      exact List.suffix_nil.mp rest
    · exact replays.behind ⟨other, later, isRead⟩
  contents := replays.contents
  rest := replays.rest

/-- Every run of calls of the wrapper is a run of calls of the inner stream. -/
theorem run_replays (inner : AsyncStream S ErrorKind) (stream : PrefixedStream S)
    (calls : List AsyncCall) :
    ∃ innerCalls innerAnswers,
      inner.run stream.inner innerCalls =
        (innerAnswers, ((asyncStream inner).run stream calls).2.inner) ∧
      Replays stream ((asyncStream inner).run stream calls).2 calls innerCalls
        ((asyncStream inner).run stream calls).1 innerAnswers := by
  induction calls generalizing stream with
  | nil =>
    refine ⟨[], [], rfl, .slnil, .slnil, rfl, ?_, ?_, rfl, List.suffix_rfl⟩
    · exact (List.append_nil _).symm
    · intro reads
      simp at reads
  | cons call calls ih =>
    by_cases passes : call.isRead = true → stream.left = []
    · -- The inner stream is called, and then called on in what follows.
      have performed := perform_passes inner passes
      have kind := inner.perform_isRead stream.inner call
      rw [AsyncStream.run_cons, performed]
      have ⟨innerCalls, innerAnswers, ran, replays⟩ :=
        ih { stream with inner := (inner.perform stream.inner call).2 }
      refine ⟨call :: innerCalls, (inner.perform stream.inner call).1 :: innerAnswers, ?_, ?_⟩
      · rw [AsyncStream.run_cons, ran]
      · exact replays.pass _ passes kind
    · cases call with
      | read capacity =>
        have more : stream.left ≠ [] := fun none => passes fun _ => none
        have served := pollRead_more inner more capacity
        have performed : (asyncStream inner).perform stream (.read capacity) =
            (.read capacity (.ready (.ok (stream.readCursor capacity).1)),
              (stream.readCursor capacity).2) := by
          show (AsyncAnswer.read capacity (pollRead inner stream capacity).1,
            (pollRead inner stream capacity).2) = _
          rw [served]
        rw [AsyncStream.run_cons, performed]
        have ⟨innerCalls, innerAnswers, ran, replays⟩ := ih (stream.readCursor capacity).2
        exact ⟨innerCalls, innerAnswers, ran, replays.serve capacity⟩
      | write buf => exact absurd nofun passes
      | flush => exact absurd nofun passes
      | shutdown => exact absurd nofun passes

/-- While something of the prefix is left, a read returns a front of it at once, of at least one
byte when there is room for one, and does not touch the inner stream. -/
theorem pollRead_serves (inner : AsyncStream S ErrorKind) {stream : PrefixedStream S}
    (more : stream.left ≠ []) (capacity : Nat) :
    (pollRead inner stream capacity).1 = .ready (.ok (stream.left.take capacity)) ∧
      (pollRead inner stream capacity).2.inner = stream.inner := by
  have served : (stream.readCursor capacity).1 = stream.left.take capacity := by
    show List.take (min (stream.prefixBytes.length - stream.position) capacity) stream.left = _
    have length : stream.prefixBytes.length - stream.position = stream.left.length :=
      List.length_drop.symm
    rw [length, Nat.min_comm]
    exact List.take_eq_take_min.symm
  rw [pollRead_more inner more, served]
  exact ⟨rfl, rfl⟩

/-- A read with room for a byte returns none only behind the prefix, where it is a read of the
inner stream that returned none. -/
theorem pollRead_empty {inner : AsyncStream S ErrorKind} {stream : PrefixedStream S}
    {capacity : Nat} (room : 0 < capacity)
    (empty : (pollRead inner stream capacity).1 = .ready (.ok [])) :
    stream.left = [] ∧ (inner.pollRead stream.inner capacity).1 = .ready (.ok []) := by
  by_cases done : stream.left = []
  · rw [pollRead_done inner done] at empty
    exact ⟨done, empty⟩
  · have served := (pollRead_serves inner done capacity).1
    rw [served] at empty
    have none : stream.left.take capacity = [] := by simpa using empty
    rcases List.take_eq_nil_iff.mp none with full | absent
    · omega
    · contradiction

/-- What is read of a wrapper depends on its cursor and on what is read of the inner stream. -/
def readView {V : Type} (view : S → V) (stream : PrefixedStream S) : List UInt8 × Nat × V :=
  (stream.prefixBytes, stream.position, view stream.inner)

/-- Only reads change it. -/
theorem asyncStream_readsBy {V : Type} {inner : AsyncStream S ErrorKind} {view : S → V}
    (readsBy : inner.ReadsBy view) : (asyncStream inner).ReadsBy (readView view) where
  read := by
    intro left right capacity same
    simp only [readView, Prod.mk.injEq] at same
    have ⟨contents, position, seen⟩ := same
    have sameLeft : left.left = right.left := by
      rw [PrefixedStream.left, PrefixedStream.left, contents, position]
    show (pollRead inner left capacity).1 = (pollRead inner right capacity).1 ∧
      readView view (pollRead inner left capacity).2 =
        readView view (pollRead inner right capacity).2
    by_cases done : left.left = []
    · have answered := readsBy.read capacity seen
      rw [pollRead_done inner done, pollRead_done inner (sameLeft ▸ done)]
      exact ⟨answered.1, by simp only [readView, contents, position, answered.2]⟩
    · have more : right.left ≠ [] := sameLeft ▸ done
      rw [(pollRead_serves inner done capacity).1, (pollRead_serves inner more capacity).1,
        pollRead_more inner done, pollRead_more inner more, sameLeft]
      exact ⟨rfl, by simp only [readView, readCursor, contents, position, seen]⟩
  write stream buf := Prod.ext rfl (Prod.ext rfl (readsBy.write stream.inner buf))
  flush stream := Prod.ext rfl (Prod.ext rfl (readsBy.flush stream.inner))
  shutdown stream := Prod.ext rfl (Prod.ext rfl (readsBy.shutdown stream.inner))

namespace Replays

variable {prefixBytes : List UInt8} {state : S} {final : PrefixedStream S}
  {calls innerCalls : List AsyncCall} {answers innerAnswers : List (AsyncAnswer ErrorKind)}

/-- What a run of a new wrapper returned is a front of the prefix and what the inner stream
returned. -/
theorem bytesRead_isPrefix
    (replays : Replays (new prefixBytes state) final calls innerCalls answers innerAnswers) :
    bytesRead answers <+: prefixBytes ++ bytesRead innerAnswers :=
  ⟨final.left, replays.bytes⟩

/-- The inner stream is read only when the cursor is at the end of the prefix. -/
theorem position_eq
    (replays : Replays (new prefixBytes state) final calls innerCalls answers innerAnswers)
    (passed : ∃ call ∈ innerCalls, call.isRead = true) :
    final.position = prefixBytes.length := by
  have atEnd := final.left_eq_nil_iff.mp (replays.behind passed)
  rwa [replays.contents] at atEnd

/-- The prefix was returned as far as the cursor has come, and then what the inner stream
returned, when that returns bytes only to reads. -/
theorem bytesRead_eq
    (replays : Replays (new prefixBytes state) final calls innerCalls answers innerAnswers)
    (silent : (¬ ∃ call ∈ innerCalls, call.isRead = true) → bytesRead innerAnswers = []) :
    bytesRead answers = prefixBytes.take final.position ++ bytesRead innerAnswers := by
  have all : bytesRead answers ++ final.left = prefixBytes ++ bytesRead innerAnswers :=
    replays.bytes
  by_cases passed : ∃ call ∈ innerCalls, call.isRead = true
  · rw [replays.behind passed, List.append_nil] at all
    rw [all, replays.position_eq passed, List.take_length]
  · -- What was returned is a front of the prefix, of which the rest is left.
    have contents : final.prefixBytes = prefixBytes := replays.contents
    have cut : prefixBytes.take final.position ++ final.left = prefixBytes := by
      rw [left, contents]
      exact List.take_append_drop _ _
    rw [silent passed, List.append_nil] at all ⊢
    exact List.append_cancel_right (all.trans cut.symm)

end Replays

/-- A run of calls of a new wrapper returns the bytes of the prefix as far as the cursor has come,
and behind them those that the inner stream returned to the reads that were passed on. Every other
call reaches the inner stream as it is. A read before the end of the prefix is ready with what comes
next of it and leaves the inner stream alone, and every later read is one of the inner stream; so a
read with room for a byte returns none only when the inner stream does behind the whole prefix. When
what the inner stream returns does not depend on what is written to it, the reads are answered as
they are without the other calls. -/
theorem reads_prefix_then_inner (inner : AsyncStream S ErrorKind) (prefixBytes : List UInt8)
    (state : S) (calls : List AsyncCall) :
    ∃ answers final, (asyncStream inner).run (new prefixBytes state) calls = (answers, final) ∧
      final.prefixBytes = prefixBytes ∧ final.position ≤ prefixBytes.length ∧
      (∃ innerCalls innerAnswers,
        inner.run state innerCalls = (innerAnswers, final.inner) ∧
        innerCalls.Sublist calls ∧ innerAnswers.Sublist answers ∧
        answers.filter (!·.isRead) = innerAnswers.filter (!·.isRead) ∧
        ((∃ call ∈ innerCalls, call.isRead = true) → final.position = prefixBytes.length) ∧
        bytesRead answers = prefixBytes.take final.position ++ bytesRead innerAnswers ∧
        ∀ bytes, bytesRead innerAnswers <+: bytes → bytesRead answers <+: prefixBytes ++ bytes) ∧
      (∀ capacity, final.position < prefixBytes.length →
        (pollRead inner final capacity).1 =
          .ready (.ok ((prefixBytes.drop final.position).take capacity)) ∧
        (pollRead inner final capacity).2.inner = final.inner) ∧
      (∀ capacity, final.position = prefixBytes.length →
        (pollRead inner final capacity).1 = (inner.pollRead final.inner capacity).1 ∧
        (pollRead inner final capacity).2.inner = (inner.pollRead final.inner capacity).2) ∧
      (∀ capacity, 0 < capacity → (pollRead inner final capacity).1 = .ready (.ok []) →
        final.position = prefixBytes.length ∧
          (inner.pollRead final.inner capacity).1 = .ready (.ok [])) ∧
      ∀ (V : Type) (view : S → V), inner.ReadsBy view → answers.filter AsyncAnswer.isRead =
        ((asyncStream inner).run (new prefixBytes state) (calls.filter AsyncCall.isRead)).1 := by
  have ⟨innerCalls, innerAnswers, ran, replays⟩ := run_replays inner (new prefixBytes state) calls
  generalize outcome : (asyncStream inner).run (new prefixBytes state) calls = run at ran replays
  rcases run with ⟨answers, final⟩
  have innerRan : inner.run state innerCalls = (innerAnswers, final.inner) := ran
  have contents : final.prefixBytes = prefixBytes := replays.contents
  have atEnd : final.left = [] ↔ final.position = prefixBytes.length := by
    rw [left_eq_nil_iff, contents]
  refine ⟨answers, final, rfl, contents, contents ▸ final.inside,
    ⟨innerCalls, innerAnswers, innerRan, replays.callsInOrder, replays.answersInOrder,
      replays.others, replays.position_eq, ?_, ?_⟩, ?_, ?_, ?_, ?_⟩
  · apply replays.bytesRead_eq
    intro unread
    have silent := inner.bytesRead_run_eq_nil state unread
    rwa [innerRan] at silent
  · intro bytes delivered
    have whole : bytesRead answers <+: prefixBytes ++ bytesRead innerAnswers :=
      replays.bytesRead_isPrefix
    exact whole.trans ((List.prefix_append_right_inj _).mpr delivered)
  · intro capacity inside
    have more : final.left ≠ [] := by
      rw [Ne, atEnd]
      omega
    rw [← contents]
    exact pollRead_serves inner more capacity
  · intro capacity passed
    rw [pollRead_done inner (atEnd.mpr passed)]
    exact ⟨rfl, rfl⟩
  · intro capacity room empty
    have ⟨done, ended⟩ := pollRead_empty room empty
    exact ⟨atEnd.mp done, ended⟩
  · intro V view readsBy
    have filtered : ((asyncStream inner).run (new prefixBytes state) calls).1.filter
        AsyncAnswer.isRead = _ := (asyncStream_readsBy readsBy).run_filter rfl calls
    rwa [outcome] at filtered

end PrefixedStream

end TrojanRust
