import TrojanRust.Codec.HeaderVerdicts
import TrojanRust.Server

/-!
# The peeking loop

The loop goes on only while the parser asks for more, and the parser asks for more only on
buffers of less than 320 bytes. So every turn has room under the peek limit, asks the client for
at least one byte, and the loop ends by a verdict, by the end of the stream or by an error,
never by its limit.
-/

namespace TrojanRust

open TrojanRust.Bytes

/-- The peeking loop takes its turns one after the other. -/
theorem peekLoop_turn (config : Config) (stream : ClientStream) (peeked : List UInt8) :
    peekLoop config stream peeked =
      match peekTurn config stream peeked with
      | .ends outcome => outcome
      | .goesOn next longer => peekLoop config next longer := by
  rw [peekLoop]
  split
  next outcome turn => rw [turn]
  next later longer turn => rw [turn]

/-- What is peeked is what the client stream returns. -/
theorem peekClientData_eq_ok {stream next : ClientStream} {capacity : Nat} {chunk : List UInt8} :
    peekClientData stream capacity = (.ok chunk, next) ↔
      stream.read capacity = (.ok chunk, next) := by
  unfold peekClientData
  rcases stream.read capacity with ⟨answer, later⟩
  cases answer with
  | ok bytes => simp
  | error kind => simp [err]

/-- A peek takes what it returns off the front of the client stream, and no more than it asked
for. -/
theorem peekClientData_taken {stream next : ClientStream} {capacity : Nat} {chunk : List UInt8}
    (read : peekClientData stream capacity = (.ok chunk, next)) :
    stream.bytes = chunk ++ next.bytes ∧ chunk.length ≤ capacity ∧ next.ending = stream.ending :=
  ClientStream.source_lawful.chunk (peekClientData_eq_ok.mp read)

/-- A peek that returns nothing has found the end of the stream. -/
theorem peekClientData_nil {stream next : ClientStream} {capacity : Nat} (positive : 0 < capacity)
    (read : peekClientData stream capacity = (.ok [], next)) :
    stream.bytes = [] ∧ next.bytes = [] := by
  have ended : stream.bytes = [] := by
    by_contra more
    rcases ClientStream.source_lawful.progress positive more with ⟨chunk, later, nonempty, progress⟩
    have same := progress.symm.trans (peekClientData_eq_ok.mp read)
    exact nonempty (Except.ok.inj (Prod.mk.inj same).1)
  have split := (peekClientData_taken read).1
  rw [ended] at split
  exact ⟨ended, split.symm⟩

/-- A peek of a stream that ends regularly does not fail. -/
theorem peekClientData_regular {stream : ClientStream} {capacity : Nat} (positive : 0 < capacity)
    (regular : stream.ending = none) :
    ∃ chunk next, peekClientData stream capacity = (.ok chunk, next) := by
  by_cases ended : stream.bytes = []
  · have closed := ClientStream.source_lawful.ended positive ended
    simp only [ClientStream.source, regular] at closed
    exact ⟨[], _, peekClientData_eq_ok.mpr (Prod.ext closed rfl)⟩
  · rcases ClientStream.source_lawful.progress positive ended with ⟨chunk, next, _, read⟩
    exact ⟨chunk, next, peekClientData_eq_ok.mpr read⟩

/-- A peek that fails fails with an I/O error. -/
theorem peekClientData_error {stream next : ClientStream} {capacity : Nat} {fault : Fault}
    (failed : peekClientData stream capacity = (.error fault, next)) :
    ∃ kind, fault = .err (.io kind) := by
  unfold peekClientData at failed
  cases outcome : stream.read capacity with
  | mk answer later =>
    rw [outcome] at failed
    cases answer with
    | ok bytes => simp at failed
    | error kind =>
      simp only [err, Prod.mk.injEq, Except.error.injEq] at failed
      exact ⟨kind, failed.1.symm⟩

/-- When the client has closed, the turn ends the loop with what was peeked. -/
theorem peekTurn_closed (config : Config) {stream next : ClientStream} {peeked : List UInt8}
    (room : peeked.length < peekSize)
    (read : peekClientData stream (peekSize - peeked.length) = (.ok [], next)) :
    peekTurn config stream peeked =
      .ends (.ok (if peeked.isEmpty then .dropped else .fallback next peeked)) := by
  rw [peekTurn, if_neg (Nat.not_le.mpr room), read]
  dsimp only
  rw [if_pos List.isEmpty_nil]
  split <;> rfl

/-- When the client has sent a chunk, the parser decides whether the turn goes on. -/
theorem peekTurn_chunk (config : Config) {stream next : ClientStream} {peeked chunk : List UInt8}
    (room : peeked.length < peekSize) (nonempty : chunk ≠ [])
    (read : peekClientData stream (peekSize - peeked.length) = (.ok chunk, next)) :
    peekTurn config stream peeked =
      match Header.tryParseFromBuf (peeked ++ chunk) with
      | .ok (some header) =>
        if header.verifyPassword config.passwords then
          .ends (.ok (.header header next (peeked ++ chunk)))
        else .ends (.ok (.fallback next (peeked ++ chunk)))
      | .ok none => .goesOn next (peeked ++ chunk)
      | .error (.err _) => .ends (.ok (.fallback next (peeked ++ chunk)))
      | .error .panic => .ends (.error .panic) := by
  have goesOn : ¬ chunk.isEmpty := mt List.isEmpty_iff.mp nonempty
  rw [peekTurn, if_neg (Nat.not_le.mpr room), read]
  exact if_neg goesOn

/-- A turn that fails does so because its read fails. -/
theorem peekTurn_error {config : Config} {stream : ClientStream} {peeked : List UInt8}
    {fault : Fault} (failed : peekTurn config stream peeked = .ends (.error fault)) :
    peeked.length < peekSize ∧
      ∃ next, peekClientData stream (peekSize - peeked.length) = (.error fault, next) := by
  by_cases full : peekSize ≤ peeked.length
  · rw [peekTurn, if_pos full] at failed
    cases PeekTurn.ends.inj failed
  have room := Nat.not_le.mp full
  refine ⟨room, ?_⟩
  rcases read : peekClientData stream (peekSize - peeked.length) with ⟨answer, next⟩
  cases answer with
  | error reason =>
    rw [peekTurn, if_neg full, read] at failed
    obtain rfl := Except.error.inj (PeekTurn.ends.inj failed)
    exact ⟨next, rfl⟩
  | ok chunk =>
    by_cases closed : chunk = []
    · subst closed
      rw [peekTurn_closed config room read] at failed
      cases PeekTurn.ends.inj failed
    · rw [peekTurn_chunk config room closed read] at failed
      cases verdict : Header.tryParseFromBuf (peeked ++ chunk) with
      | error reason =>
        obtain ⟨error, rfl⟩ := Header.error_of_fault verdict
        rw [verdict] at failed
        cases PeekTurn.ends.inj failed
      | ok accepted =>
        rw [verdict] at failed
        cases accepted with
        | none => contradiction
        | some header =>
          dsimp only at failed
          split at failed
          · cases PeekTurn.ends.inj failed
          · cases PeekTurn.ends.inj failed

/-- A buffer on which the parser asks for more leaves room under the peek limit. -/
theorem room_of_asksForMore {buf : List UInt8}
    (asksForMore : Header.tryParseFromBuf buf = .ok none) : buf.length < peekSize := by
  have small := ((Header.tryParseFromBuf_eq_none buf).mp asksForMore).length_lt
  rw [peekSize]
  omega

/-- The heads of the loop: it is entered with nothing peeked, and gets from one head to the next by
a turn that goes on. The number counts the turns, each of which has made one read. -/
inductive PeekHead (config : Config) (stream : ClientStream) :
    Nat → ClientStream → List UInt8 → Prop
  | entered : PeekHead config stream 0 stream []
  | goesOn (reads : Nat) (current next : ClientStream) (peeked longer : List UInt8)
      (head : PeekHead config stream reads current peeked)
      (turn : peekTurn config current peeked = .goesOn next longer) :
    PeekHead config stream (reads + 1) next longer

/-- The turn at this head does not go on: its read fails, or finds the end of the stream, or
completes a verdict. -/
def PeekEnds (current : ClientStream) (peeked : List UInt8) : Prop :=
  ∀ chunk next, peekClientData current (peekSize - peeked.length) = (.ok chunk, next) →
    chunk = [] ∨ Header.tryParseFromBuf (peeked ++ chunk) ≠ .ok none

/-- A turn that ends the loop ends it in one of these ways, as long as there is room. -/
theorem peekEnds_of_turn {config : Config} {current : ClientStream} {peeked : List UInt8}
    {outcome : Result Peeked} (room : peeked.length < peekSize)
    (turn : peekTurn config current peeked = .ends outcome) : PeekEnds current peeked := by
  intro chunk next read
  by_contra more
  rcases not_or.mp more with ⟨nonempty, undecided⟩
  have goesOn : peekTurn config current peeked = .goesOn next (peeked ++ chunk) :=
    peekTurn_eq_goesOn.mpr ⟨room, chunk, read, nonempty, rfl, not_not.mp undecided⟩
  rw [turn] at goesOn
  contradiction

namespace PeekHead

variable {config : Config} {stream current : ClientStream} {reads : Nat} {peeked : List UInt8}

/-- At every head the parser asks for more. -/
theorem asksForMore (head : PeekHead config stream reads current peeked) :
    Header.tryParseFromBuf peeked = .ok none := by
  cases head with
  | entered => exact Header.tryParseFromBuf_short (by decide)
  | goesOn reads before next shorter longer head turn =>
    rcases peekTurn_eq_goesOn.mp turn with ⟨_, _, _, _, _, undecided⟩
    exact undecided

/-- Less than 320 bytes have been peeked at every head. -/
theorem length_lt (head : PeekHead config stream reads current peeked) : peeked.length < 320 :=
  ((Header.tryParseFromBuf_eq_none peeked).mp head.asksForMore).length_lt

/-- There is room under the peek limit at every head. -/
theorem room (head : PeekHead config stream reads current peeked) : peeked.length < peekSize :=
  room_of_asksForMore head.asksForMore

/-- Every read before a head has added to what was peeked. -/
theorem reads_le (head : PeekHead config stream reads current peeked) : reads ≤ peeked.length := by
  induction head with
  | entered => exact Nat.le_refl 0
  | goesOn reads before next shorter longer head turn ih =>
    have grows := (peekTurn_grows turn).2
    omega

/-- The loop is at its heads one after the other. -/
theorem peekLoop_eq (head : PeekHead config stream reads current peeked) :
    peekLoop config stream [] = peekLoop config current peeked := by
  induction head with
  | entered => rfl
  | goesOn reads before next shorter longer head turn ih =>
    rw [ih, peekLoop_turn, turn]

/-- What was peeked up to a head of the loop, and what is left of the stream, are what the client
sends, and the stream ends as it did. -/
theorem kept (head : PeekHead config stream reads current peeked) :
    peeked ++ current.bytes = stream.bytes ∧ current.ending = stream.ending := by
  induction head with
  | entered => exact ⟨rfl, rfl⟩
  | goesOn reads before next shorter longer head turn ih =>
    rcases peekTurn_eq_goesOn.mp turn with ⟨_, chunk, read, _, rfl, _⟩
    rcases peekClientData_taken read with ⟨split, _, sameEnd⟩
    rw [List.append_assoc, ← split]
    exact ⟨ih.1, sameEnd.trans ih.2⟩

/-- A turn that ends the loop returns what the loop returns. -/
theorem peekLoop_ends (head : PeekHead config stream reads current peeked)
    {outcome : Result Peeked} (turn : peekTurn config current peeked = .ends outcome) :
    peekLoop config stream [] = outcome := by
  rw [head.peekLoop_eq, peekLoop_turn, turn]

/-- From every head the loop gets to one at which it ends. -/
theorem ends (left : Nat) {current : ClientStream} {reads : Nat} {peeked : List UInt8}
    (head : PeekHead config stream reads current peeked) (size : 320 - peeked.length = left) :
    ∃ reads current peeked outcome, PeekHead config stream reads current peeked ∧
      peekTurn config current peeked = .ends outcome := by
  -- The induction is on what is left of the 320 bytes, which every turn that goes on uses up.
  induction left using Nat.strongRecOn generalizing reads current peeked with
  | ind left ih =>
    cases turn : peekTurn config current peeked with
    | ends outcome => exact ⟨reads, current, peeked, outcome, head, turn⟩
    | goesOn next longer =>
      have later := PeekHead.goesOn reads current next peeked longer head turn
      have grows := (peekTurn_grows turn).2
      have small := head.length_lt
      exact ih (320 - longer.length) (by omega) later rfl

end PeekHead

/-- The loop has a last head. -/
theorem peekLoop_lastHead (config : Config) (stream : ClientStream) :
    ∃ reads current peeked, PeekHead config stream reads current peeked ∧
      peekTurn config current peeked = .ends (peekLoop config stream []) := by
  have first : PeekHead config stream 0 stream [] := .entered
  rcases first.ends _ rfl with ⟨reads, current, peeked, outcome, head, turn⟩
  exact ⟨reads, current, peeked, head, by rw [head.peekLoop_ends turn, turn]⟩

/-- The parser decides every buffer of 320 bytes, and there is one of 319 bytes on which it asks
for more. At every head of the loop, for every client stream, there is room under the peek limit,
the client is asked for at least one byte and at most what fits, and less than 320 reads have
been made; the turn goes on exactly when it reads some bytes on which the parser asks for more.
And the loop gets to a head at which it ends, and returns what the turn there ends with. -/
theorem peekLoop_decides :
    (∀ buf : List UInt8, 320 ≤ buf.length → Header.tryParseFromBuf buf ≠ .ok none) ∧
    (∃ buf : List UInt8, buf.length = 319 ∧ Header.tryParseFromBuf buf = .ok none) ∧
    ∀ (config : Config) (stream : ClientStream),
      (∀ reads current peeked, PeekHead config stream reads current peeked →
        peekLoop config stream [] = peekLoop config current peeked ∧
        peeked.length < peekSize ∧ 0 < peekSize - peeked.length ∧ reads + 1 ≤ 320 ∧
        ∀ chunk next, peekClientData current (peekSize - peeked.length) = (.ok chunk, next) →
          (peeked ++ chunk).length ≤ peekSize ∧
          (peekTurn config current peeked = .goesOn next (peeked ++ chunk) ↔
            chunk ≠ [] ∧ Header.tryParseFromBuf (peeked ++ chunk) = .ok none)) ∧
      ∃ reads current peeked, PeekHead config stream reads current peeked ∧
        PeekEnds current peeked ∧
        peekTurn config current peeked = .ends (peekLoop config stream []) := by
  refine ⟨?_, ?_, ?_⟩
  · intro buf long asksForMore
    have short := ((Header.tryParseFromBuf_eq_none buf).mp asksForMore).length_lt
    omega
  · -- A domain of 255 bytes and one byte of the line break after its port.
    have sized : (asBytes (String.ofList (List.replicate 255 'a'))).length =
        (255 : UInt8).toNat := by decide +kernel
    have target := Address.Spells.domain (String.ofList (List.replicate 255 'a')) 255 443 sized
    have hex : (Vector.replicate 56 (0x61 : UInt8)).toList.all isAsciiHexdigit := by decide
    refine ⟨_, ?_, Header.tryParseFromBuf_openEnd _ .connect [0x0d] hex target (by decide)⟩
    rw [Header.commandLine_length, List.length_append, List.length_cons, List.length_cons,
      List.length_append, sized, Vector.length_toList]
    rfl
  · intro config stream
    constructor
    · intro reads current peeked head
      have small := head.length_lt
      have counted := head.reads_le
      have room := head.room
      refine ⟨head.peekLoop_eq, room, by omega, by omega, ?_⟩
      intro chunk next read
      have bound := (peekClientData_taken read).2.1
      constructor
      · rw [List.length_append]
        omega
      · constructor
        · intro turn
          rcases peekTurn_eq_goesOn.mp turn with ⟨_, piece, again, some, same, asksForMore⟩
          exact ⟨List.append_cancel_left same ▸ some, asksForMore⟩
        · intro more
          exact peekTurn_eq_goesOn.mpr ⟨room, chunk, read, more.1, rfl, more.2⟩
    · rcases peekLoop_lastHead config stream with ⟨reads, current, peeked, head, turn⟩
      exact ⟨reads, current, peeked, head, peekEnds_of_turn head.room turn, turn⟩

/-- A loop that fails does so because a read fails. -/
theorem peekLoop_error {config : Config} {stream : ClientStream} {fault : Fault}
    (failed : peekLoop config stream [] = .error fault) : ∃ kind, fault = .err (.io kind) := by
  rcases peekLoop_lastHead config stream with ⟨reads, current, peeked, head, turn⟩
  rw [failed] at turn
  rcases peekTurn_error turn with ⟨_, next, read⟩
  exact peekClientData_error read

/-- The loop does not fail on a stream that ends regularly. -/
theorem peekLoop_regular (config : Config) {stream : ClientStream}
    (regular : stream.ending = none) : ∃ outcome, peekLoop config stream [] = .ok outcome := by
  rcases peekLoop_lastHead config stream with ⟨reads, current, peeked, head, turn⟩
  cases outcome : peekLoop config stream [] with
  | ok ended => exact ⟨ended, rfl⟩
  | error fault =>
    rw [outcome] at turn
    rcases peekTurn_error turn with ⟨room, next, read⟩
    have positive : 0 < peekSize - peeked.length := Nat.sub_pos_of_lt room
    rcases peekClientData_regular positive (head.kept.2.trans regular) with ⟨chunk, later, again⟩
    rw [again] at read
    cases (Prod.mk.inj read).1

end TrojanRust
