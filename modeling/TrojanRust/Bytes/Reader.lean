import Mathlib

/-!
# Resumable byte readers

A reader asks a byte stream for pieces of exact size and decides after each piece what to ask
next, so it can be suspended between any two bytes. Two executions are given: `run` reads a
stream whose remaining bytes are all known, and `feed` reads what an open stream has delivered
so far, returning the suspended reader when more is needed. `Reads` is the relation both
induce between a value and the bytes that spell it; it composes through sequencing, which is
how decoders are proved piece by piece.
-/

namespace TrojanRust.Bytes

variable {ι ε α β : Type}

/-- A program that reads a stream in exact-sized pieces. `ι` is the reason a stream gives for
delivering no further byte, and `ε` the program's own failure. -/
inductive Reader (ι ε α : Type) where
  /-- The program ended without asking for another byte. -/
  | done (result : Except ε α)
  /-- Ask for a piece, and continue with it or with the stream's reason for stopping. -/
  | readExact (count : Nat) (resume : Except ι (Vector UInt8 count) → Reader ι ε α)

namespace Reader

/-- Sequencing passes a result on; a failure ends the whole program. -/
def bind : Reader ι ε α → (α → Reader ι ε β) → Reader ι ε β
  | .done (.ok value), next => next value
  | .done (.error failure), _ => .done (.error failure)
  | .readExact count resume, next => .readExact count fun piece => (resume piece).bind next

/-- Programs are written with `do`. -/
instance : Monad (Reader ι ε) where
  pure value := .done (.ok value)
  bind := Reader.bind

/-- A computed result is a program that reads nothing. -/
instance : MonadLift (Except ε) (Reader ι ε) where
  monadLift result := .done result

/-- End with the program's own failure. -/
def fail (failure : ε) : Reader ι ε α := .done (.error failure)

/-- Ask for a piece and look at the outcome, as a program that handles the end of the stream
itself does. -/
def attempt (count : Nat) : Reader ι ε (Except ι (Vector UInt8 count)) :=
  .readExact count fun piece => .done (.ok piece)

/-- Ask for a piece and fail with the surfaced reason when the stream has stopped. -/
def exact (surface : ι → ε) (count : Nat) : Reader ι ε (Vector UInt8 count) :=
  .readExact count fun
    | .ok piece => .done (.ok piece)
    | .error stop => .done (.error (surface stop))

/-- The first `count` bytes of a list that holds at least that many. -/
def piece (bytes : List UInt8) (count : Nat) (fits : count ≤ bytes.length) :
    Vector UInt8 count :=
  ⟨(bytes.take count).toArray, by simp [fits]⟩

/-- Read a stream whose remaining bytes are known and which then stops for `stop`. A piece
larger than the remaining bytes takes all of them before it fails. -/
def run (stop : ι) : Reader ι ε α → List UInt8 → Except ε α × List UInt8
  | .done result, bytes => (result, bytes)
  | .readExact count resume, bytes =>
    if fits : count ≤ bytes.length then
      (resume (.ok (piece bytes count fits))).run stop (bytes.drop count)
    else (resume (.error stop)).run stop []

/-- What a reader has come to on the bytes delivered so far. -/
inductive Progress (ι ε α : Type) where
  /-- The program ended, leaving these bytes in the stream. -/
  | ready (result : Except ε α) (rest : List UInt8)
  /-- The program waits for more bytes; those held are already out of the stream. -/
  | pending (reader : Reader ι ε α) (held : List UInt8)

/-- Read from an open stream: every delivered byte is taken until a piece is incomplete. -/
def feed : Reader ι ε α → List UInt8 → Progress ι ε α
  | .done result, bytes => .ready result bytes
  | .readExact count resume, bytes =>
    if fits : count ≤ bytes.length then
      (resume (.ok (piece bytes count fits))).feed (bytes.drop count)
    else .pending (.readExact count resume) bytes

/-- The first piece of a longer stream is the first piece of what has arrived. -/
theorem piece_append (bytes more : List UInt8) (count : Nat) (fits : count ≤ bytes.length)
    (longer : count ≤ (bytes ++ more).length) :
    piece (bytes ++ more) count longer = piece bytes count fits := by
  simp only [piece, List.take_append_of_le_length fits]

/-- The bytes of a piece are the front of the stream it was taken from. -/
@[simp]
theorem piece_toList (bytes : List UInt8) (count : Nat) (fits : count ≤ bytes.length) :
    (piece bytes count fits).toList = bytes.take count := by
  simp [piece, Vector.toList]

/-- A stream that holds a piece is that piece and a rest. -/
theorem exists_piece (bytes : List UInt8) (count : Nat) (fits : count ≤ bytes.length) :
    ∃ (front : Vector UInt8 count) (rest : List UInt8), bytes = front.toList ++ rest :=
  ⟨piece bytes count fits, bytes.drop count, by rw [piece_toList, List.take_append_drop]⟩

/-- A returned value is ready before anything is read. -/
@[simp]
theorem feed_pure (value : α) (bytes : List UInt8) :
    (pure value : Reader ι ε α).feed bytes = .ready (.ok value) bytes := rfl

/-- A failure is ready before anything is read. -/
@[simp]
theorem feed_fail (failure : ε) (bytes : List UInt8) :
    (fail failure : Reader ι ε α).feed bytes = .ready (.error failure) bytes := rfl

/-- Returning a value reads nothing. -/
@[simp]
theorem run_pure (stop : ι) (value : α) (bytes : List UInt8) :
    (pure value : Reader ι ε α).run stop bytes = (.ok value, bytes) := rfl

/-- Failing reads nothing. -/
@[simp]
theorem run_fail (stop : ι) (failure : ε) (bytes : List UInt8) :
    (fail failure : Reader ι ε α).run stop bytes = (.error failure, bytes) := rfl

/-- A computed result reads nothing. -/
@[simp]
theorem run_lift (stop : ι) (result : Except ε α) (bytes : List UInt8) :
    (liftM result : Reader ι ε α).run stop bytes = (result, bytes) := rfl

/-- Sequencing runs the second program on what the first one left. -/
theorem run_bind (stop : ι) (reader : Reader ι ε α) (next : α → Reader ι ε β)
    (bytes : List UInt8) :
    (reader >>= next).run stop bytes =
      match reader.run stop bytes with
      | (.ok value, rest) => (next value).run stop rest
      | (.error failure, rest) => (.error failure, rest) := by
  change (reader.bind next).run stop bytes = _
  induction reader generalizing bytes with
  | done result => cases result <;> rfl
  | readExact count resume ih =>
    by_cases fits : count ≤ bytes.length
    · simp only [bind, run, dif_pos fits, ih]
    · simp only [bind, run, dif_neg fits, ih]

/-- Sequencing on an open stream waits wherever the first program waits. -/
theorem feed_bind (reader : Reader ι ε α) (next : α → Reader ι ε β) (bytes : List UInt8) :
    (reader >>= next).feed bytes =
      match reader.feed bytes with
      | .ready (.ok value) rest => (next value).feed rest
      | .ready (.error failure) rest => .ready (.error failure) rest
      | .pending waiting held => .pending (waiting.bind next) held := by
  change (reader.bind next).feed bytes = _
  induction reader generalizing bytes with
  | done result => cases result <;> rfl
  | readExact count resume ih =>
    by_cases fits : count ≤ bytes.length
    · simp only [bind, feed, dif_pos fits, ih]
    · simp only [bind, feed, dif_neg fits]

/-- Feeding in two deliveries is feeding their concatenation: a program that ended leaves the
later bytes, and a suspended one resumes on the bytes it holds followed by them. -/
theorem feed_append (reader : Reader ι ε α) (bytes more : List UInt8) :
    reader.feed (bytes ++ more) =
      match reader.feed bytes with
      | .ready result rest => .ready result (rest ++ more)
      | .pending waiting held => waiting.feed (held ++ more) := by
  induction reader generalizing bytes with
  | done result => rfl
  | readExact count resume ih =>
    by_cases fits : count ≤ bytes.length
    · have longer : count ≤ (bytes ++ more).length := by
        rw [List.length_append]
        omega
      simp only [feed, dif_pos fits, dif_pos longer, piece_append bytes more count fits,
        List.drop_append_of_le_length fits, ih]
    · simp only [feed, dif_neg fits]

/-- A known stream is read as an open one that stops where its bytes end. -/
theorem run_eq_feed (stop : ι) (reader : Reader ι ε α) (bytes : List UInt8) :
    reader.run stop bytes =
      match reader.feed bytes with
      | .ready result rest => (result, rest)
      | .pending waiting held => waiting.run stop held := by
  induction reader generalizing bytes with
  | done result => rfl
  | readExact count resume ih =>
    by_cases fits : count ≤ bytes.length
    · simp only [feed, run, dif_pos fits, ih]
    · simp only [feed, run, dif_neg fits]

/-- A program that ended on an open stream took a front of it, and needed no other byte. -/
theorem feed_ready_split (reader : Reader ι ε α) (bytes rest : List UInt8)
    (result : Except ε α) (ended : reader.feed bytes = .ready result rest) :
    ∃ wire, bytes = wire ++ rest ∧ reader.feed wire = .ready result [] := by
  induction reader generalizing bytes with
  | done known =>
    simp only [feed, Progress.ready.injEq] at ended
    exact ⟨[], by simp [ended.2], by simp [feed, ended.1]⟩
  | readExact count resume ih =>
    by_cases fits : count ≤ bytes.length
    · simp only [feed, dif_pos fits] at ended
      have ⟨wire, split, read⟩ := ih _ _ ended
      have front : bytes.take count ++ (wire ++ rest) = bytes := by
        rw [← split, List.take_append_drop]
      have taken : (bytes.take count).length = count := by simp [fits]
      have enough : count ≤ (bytes.take count ++ wire).length := by
        rw [List.length_append]
        omega
      refine ⟨bytes.take count ++ wire, by rw [List.append_assoc, front], ?_⟩
      have same : piece (bytes.take count ++ wire) count enough = piece bytes count fits := by
        apply Vector.toList_inj.mp
        rw [piece_toList, piece_toList, List.take_append_of_le_length (by omega),
          List.take_of_length_le (by omega)]
      have after : (bytes.take count ++ wire).drop count = wire := by
        rw [List.drop_append_of_le_length (by omega), List.drop_of_length_le (by omega),
          List.nil_append]
      simp only [feed, dif_pos enough, same, after, read]
    · simp [feed, fits] at ended

/-- A value and the bytes that spell it: the reader returns the value on exactly these. -/
def Reads (reader : Reader ι ε α) (wire : List UInt8) (value : α) : Prop :=
  reader.feed wire = .ready (.ok value) []

/-- Bytes after a spelling stay in an open stream. -/
theorem Reads.feed {reader : Reader ι ε α} {wire : List UInt8} {value : α}
    (reads : reader.Reads wire value) (rest : List UInt8) :
    reader.feed (wire ++ rest) = .ready (.ok value) rest := by
  rw [feed_append, show reader.feed wire = .ready (.ok value) [] from reads]
  rfl

/-- Bytes after a spelling stay in a known stream, whatever it stops for. -/
theorem Reads.run {reader : Reader ι ε α} {wire : List UInt8} {value : α}
    (reads : reader.Reads wire value) (stop : ι) (rest : List UInt8) :
    reader.run stop (wire ++ rest) = (.ok value, rest) := by
  rw [run_eq_feed, reads.feed]

/-- A reader waits on every proper front of a spelling. -/
theorem Reads.waits {reader : Reader ι ε α} {wire part : List UInt8} {value : α}
    (reads : reader.Reads wire value) (front : part <+: wire) (proper : part ≠ wire) :
    ∃ waiting held, reader.feed part = .pending waiting held := by
  obtain ⟨more, rfl⟩ := front
  cases progress : reader.feed part with
  | pending waiting held => exact ⟨waiting, held, rfl⟩
  | ready result rest =>
    have whole := feed_append reader part more
    rw [progress, show reader.feed (part ++ more) = .ready (.ok value) [] from reads] at whole
    simp only [Progress.ready.injEq, List.nil_eq_append_iff] at whole
    simp [whole.2.2] at proper

/-- Spellings are self-delimiting: two that start one stream are equal, and so are their
values. -/
theorem Reads.unique {reader : Reader ι ε α} {wire other rest tail : List UInt8}
    {value read : α} (reads : reader.Reads wire value) (again : reader.Reads other read)
    (same : wire ++ rest = other ++ tail) : wire = other ∧ value = read ∧ rest = tail := by
  have both := reads.feed rest
  rw [same, again.feed tail] at both
  simp only [Progress.ready.injEq, Except.ok.injEq] at both
  obtain ⟨rfl, rfl⟩ := both
  exact ⟨List.append_cancel_right same, rfl, rfl⟩

/-- A program that asks for nothing spells its value with no byte. -/
@[simp]
theorem reads_pure (value read : α) (wire : List UInt8) :
    (pure value : Reader ι ε α).Reads wire read ↔ wire = [] ∧ value = read := by
  simp [Reads, and_comm]

/-- A failing program spells nothing. -/
@[simp]
theorem reads_fail (failure : ε) (wire : List UInt8) (read : α) :
    ¬ (fail failure : Reader ι ε α).Reads wire read := by
  simp [Reads]

/-- A result computed without the stream spells its value with no byte. -/
@[simp]
theorem reads_lift (result : Except ε α) (wire : List UInt8) (read : α) :
    (liftM result : Reader ι ε α).Reads wire read ↔ wire = [] ∧ result = .ok read := by
  change Progress.ready result wire = .ready (.ok read) [] ↔ _
  simp [and_comm]

/-- An exact piece is spelled by its own bytes. -/
@[simp]
theorem reads_exact (surface : ι → ε) (count : Nat) (wire : List UInt8)
    (value : Vector UInt8 count) :
    (exact surface count).Reads wire value ↔ wire = value.toList := by
  constructor
  · intro reads
    by_cases fits : count ≤ wire.length
    · simp only [Reads, exact, Reader.feed, dif_pos fits, Progress.ready.injEq,
        Except.ok.injEq, List.drop_eq_nil_iff] at reads
      rw [← reads.1, piece_toList, List.take_of_length_le reads.2]
    · simp [Reads, exact, Reader.feed, fits] at reads
  · rintro rfl
    have fits : count ≤ value.toList.length := by simp
    have whole : piece value.toList count fits = value := by
      apply Vector.toList_inj.mp
      simp [List.take_of_length_le]
    simp only [Reads, exact, Reader.feed, dif_pos fits, whole]
    simp

/-- A handled piece is spelled by its own bytes; that the stream stopped is spelled by none. -/
theorem reads_attempt (count : Nat) (wire : List UInt8) (outcome : Except ι (Vector UInt8 count)) :
    (attempt count : Reader ι ε _).Reads wire outcome ↔
      ∃ value, outcome = .ok value ∧ wire = value.toList := by
  have exactly := reads_exact (fun stop : ι => stop) count wire
  constructor
  · intro reads
    by_cases fits : count ≤ wire.length
    · simp only [Reads, attempt, Reader.feed, dif_pos fits, Progress.ready.injEq,
        Except.ok.injEq, List.drop_eq_nil_iff] at reads
      refine ⟨_, reads.1.symm, ?_⟩
      rw [piece_toList, List.take_of_length_le reads.2]
    · simp [Reads, attempt, Reader.feed, fits] at reads
  · rintro ⟨value, rfl, spelled⟩
    have read := (exactly value).mpr spelled
    by_cases fits : count ≤ wire.length
    · simp only [Reads, exact, Reader.feed, dif_pos fits, Progress.ready.injEq,
        Except.ok.injEq] at read
      simp only [Reads, attempt, Reader.feed, dif_pos fits, read]
    · simp [Reads, exact, Reader.feed, fits] at read

/-- Sequencing spells the first value and then the second. -/
theorem reads_bind (reader : Reader ι ε α) (next : α → Reader ι ε β) (wire : List UInt8)
    (value : β) :
    (reader >>= next).Reads wire value ↔
      ∃ first second middle, wire = first ++ second ∧ reader.Reads first middle ∧
        (next middle).Reads second value := by
  constructor
  · intro reads
    rw [Reads, feed_bind] at reads
    cases progress : reader.feed wire with
    | pending waiting held => simp [progress] at reads
    | ready result rest =>
      cases result with
      | error failure => simp [progress] at reads
      | ok middle =>
        have ⟨first, split, read⟩ := feed_ready_split _ _ _ _ progress
        simp only [progress] at reads
        exact ⟨first, rest, middle, split, read, reads⟩
  · rintro ⟨first, second, middle, rfl, read, last⟩
    rw [Reads, feed_bind, read.feed second]
    exact last

/-- A spelling of the first value followed by one of the second spells the sequence. -/
theorem Reads.bind {reader : Reader ι ε α} {next : α → Reader ι ε β} {first second : List UInt8}
    {middle : α} {value : β} (read : reader.Reads first middle)
    (last : (next middle).Reads second value) : (reader >>= next).Reads (first ++ second) value :=
  (reads_bind _ _ _ _).mpr ⟨first, second, middle, rfl, read, last⟩

/-- A result that is made of one value is spelled as that value. -/
theorem reads_bind_pure (reader : Reader ι ε α) (result : α → β) (wire : List UInt8) (value : β) :
    (reader >>= fun middle => pure (result middle)).Reads wire value ↔
      ∃ middle, reader.Reads wire middle ∧ result middle = value := by
  rw [reads_bind]
  constructor
  · rintro ⟨first, second, middle, rfl, read, last⟩
    obtain ⟨rfl, same⟩ := (reads_pure _ _ _).mp last
    exact ⟨middle, by rwa [List.append_nil], same⟩
  · rintro ⟨middle, read, same⟩
    have whole : wire = wire ++ [] := (List.append_nil wire).symm
    exact ⟨wire, [], middle, whole, read, (reads_pure _ _ _).mpr ⟨rfl, same⟩⟩

/-- A value computed without the stream is not spelled. -/
theorem reads_lift_bind (computed : Except ε α) (next : α → Reader ι ε β) (wire : List UInt8)
    (value : β) :
    ((liftM computed : Reader ι ε α) >>= next).Reads wire value ↔
      ∃ middle, computed = .ok middle ∧ (next middle).Reads wire value := by
  rw [reads_bind]
  constructor
  · rintro ⟨first, second, middle, rfl, read, last⟩
    obtain ⟨rfl, same⟩ := (reads_lift _ _ _).mp read
    exact ⟨middle, same, last⟩
  · rintro ⟨middle, same, last⟩
    exact ⟨[], wire, middle, rfl, (reads_lift _ _ _).mpr ⟨rfl, same⟩, last⟩

/-- Every piece the program asks for is indispensable: when the stream stops inside one, the
program ends with the surfaced reason. -/
def Strict (surface : ι → ε) : Reader ι ε α → Prop
  | .done _ => True
  | .readExact _ resume =>
    (∀ stop, resume (.error stop) = .done (.error (surface stop))) ∧
      ∀ piece, (resume (.ok piece)).Strict surface

/-- A returned value asks for no piece. -/
@[simp]
theorem strict_pure (surface : ι → ε) (value : α) :
    (pure value : Reader ι ε α).Strict surface := trivial

/-- A failure asks for no piece. -/
@[simp]
theorem strict_fail (surface : ι → ε) (failure : ε) :
    (fail failure : Reader ι ε α).Strict surface := trivial

/-- A computed result asks for no piece. -/
@[simp]
theorem strict_lift (surface : ι → ε) (result : Except ε α) :
    (liftM result : Reader ι ε α).Strict surface := trivial

/-- The piece of an exact read is indispensable. -/
@[simp]
theorem strict_exact (surface : ι → ε) (count : Nat) :
    (exact surface count : Reader ι ε _).Strict surface :=
  ⟨fun _ => rfl, fun _ => trivial⟩

/-- Strict programs in sequence are strict. -/
theorem Strict.bind {surface : ι → ε} {reader : Reader ι ε α} {next : α → Reader ι ε β}
    (first : reader.Strict surface) (second : ∀ value, (next value).Strict surface) :
    (reader >>= next).Strict surface := by
  change (reader.bind next).Strict surface
  induction reader with
  | done result =>
    cases result with
    | ok value => exact second value
    | error failure => trivial
  | readExact count resume ih =>
    refine ⟨fun stop => ?_, fun piece => ih (.ok piece) (first.2 piece)⟩
    change (resume (.error stop)).bind next = _
    rw [first.1 stop]
    rfl

/-- A strict program that waits when its stream stops ends with the surfaced reason, having
taken every byte. -/
theorem Strict.run_waiting {surface : ι → ε} {reader waiting : Reader ι ε α}
    {bytes held : List UInt8} (strict : reader.Strict surface)
    (waits : reader.feed bytes = .pending waiting held) (stop : ι) :
    reader.run stop bytes = (.error (surface stop), []) := by
  induction reader generalizing bytes with
  | done result => simp [feed] at waits
  | readExact count resume ih =>
    by_cases fits : count ≤ bytes.length
    · simp only [feed, dif_pos fits] at waits
      simp only [run, dif_pos fits]
      exact ih _ (strict.2 _) waits
    · simp only [run, dif_neg fits, strict.1 stop]

/-- A strict program succeeds on a known stream exactly on the spellings of its values. -/
theorem Strict.run_ok_iff {surface : ι → ε} {reader : Reader ι ε α}
    (strict : reader.Strict surface) (stop : ι) (bytes rest : List UInt8) (value : α) :
    reader.run stop bytes = (.ok value, rest) ↔
      ∃ wire, bytes = wire ++ rest ∧ reader.Reads wire value := by
  constructor
  · intro ran
    cases progress : reader.feed bytes with
    | pending waiting held =>
      rw [strict.run_waiting progress] at ran
      simp at ran
    | ready result left =>
      rw [run_eq_feed, progress] at ran
      simp only [Prod.mk.injEq] at ran
      obtain ⟨rfl, rfl⟩ := ran
      exact feed_ready_split _ _ _ _ progress
  · rintro ⟨wire, rfl, reads⟩
    exact reads.run stop rest

/-- A strict program fails with the surfaced reason on every proper front of a spelling. -/
theorem Reads.run_front {surface : ι → ε} {reader : Reader ι ε α} {wire part : List UInt8}
    {value : α} (reads : reader.Reads wire value) (strict : reader.Strict surface) (stop : ι)
    (front : part <+: wire) (proper : part ≠ wire) :
    reader.run stop part = (.error (surface stop), []) := by
  have ⟨waiting, held, progress⟩ := reads.waits front proper
  exact strict.run_waiting progress stop

/-- Every failure the program can end with is an allowed one. -/
def Raises (allowed : ε → Prop) : Reader ι ε α → Prop
  | .done (.ok _) => True
  | .done (.error failure) => allowed failure
  | .readExact _ resume => ∀ outcome, (resume outcome).Raises allowed

/-- A returned value is no failure. -/
@[simp]
theorem raises_pure (allowed : ε → Prop) (value : α) :
    (pure value : Reader ι ε α).Raises allowed := trivial

/-- A failure is allowed when it is. -/
@[simp]
theorem raises_fail (allowed : ε → Prop) (failure : ε) :
    (fail failure : Reader ι ε α).Raises allowed ↔ allowed failure := Iff.rfl

/-- A computed result raises its failure. -/
theorem raises_lift (allowed : ε → Prop) (result : Except ε α)
    (checked : ∀ failure, result = .error failure → allowed failure) :
    (liftM result : Reader ι ε α).Raises allowed := by
  cases result with
  | ok value => exact raises_pure allowed value
  | error failure => exact checked failure rfl

/-- A piece raises what its stream's reasons surface as. -/
theorem raises_exact (allowed : ε → Prop) (surface : ι → ε) (count : Nat)
    (checked : ∀ stop, allowed (surface stop)) :
    (exact surface count : Reader ι ε _).Raises allowed := by
  intro outcome
  cases outcome with
  | ok piece => trivial
  | error stop => exact checked stop

/-- Programs in sequence raise what either raises. -/
theorem Raises.bind {allowed : ε → Prop} {reader : Reader ι ε α} {next : α → Reader ι ε β}
    (first : reader.Raises allowed) (second : ∀ value, (next value).Raises allowed) :
    (reader >>= next).Raises allowed := by
  change (reader.bind next).Raises allowed
  induction reader with
  | done result =>
    cases result with
    | ok value => exact second value
    | error failure => exact first
  | readExact count resume ih => exact fun outcome => ih outcome (first outcome)

/-- A run fails only with an allowed failure. -/
theorem Raises.run {allowed : ε → Prop} {reader : Reader ι ε α} (raises : reader.Raises allowed)
    (stop : ι) (bytes : List UInt8) {failure : ε}
    (failed : (reader.run stop bytes).1 = .error failure) : allowed failure := by
  induction reader generalizing bytes with
  | done result =>
    cases result with
    | ok value => simp [Reader.run] at failed
    | error known =>
      simp only [Reader.run, Except.error.injEq] at failed
      exact failed ▸ raises
  | readExact count resume ih =>
    by_cases fits : count ≤ bytes.length
    · simp only [Reader.run, dif_pos fits] at failed
      exact ih _ (raises _) _ failed
    · simp only [Reader.run, dif_neg fits] at failed
      exact ih _ (raises _) _ failed

/-- A program that is fed bytes ends with an allowed failure, or waits as one that raises no
others. -/
theorem Raises.feed {allowed : ε → Prop} {reader : Reader ι ε α} (raises : reader.Raises allowed)
    (bytes : List UInt8) :
    (∀ failure rest, reader.feed bytes = .ready (.error failure) rest → allowed failure) ∧
      ∀ waiting held, reader.feed bytes = .pending waiting held → waiting.Raises allowed := by
  induction reader generalizing bytes with
  | done result =>
    constructor
    · intro failure rest ready
      obtain rfl := (Progress.ready.inj ready).1
      exact raises
    · intro waiting held pending
      contradiction
  | readExact count resume ih =>
    rw [Reader.feed]
    by_cases fits : count ≤ bytes.length
    · rw [dif_pos fits]
      exact ih _ (raises _) _
    · rw [dif_neg fits]
      constructor
      · intro failure rest ready
        contradiction
      · intro waiting held pending
        obtain rfl := (Progress.pending.inj pending).1
        exact raises

end Reader

end TrojanRust.Bytes
