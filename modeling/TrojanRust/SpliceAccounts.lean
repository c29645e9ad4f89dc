import TrojanRust.Splicing

/-!
# What a splice has copied and counted

At the head of the loop of `DirectSplice::splice` everything that was read of one stream has been
written to the other, and the counter has grown by the number of these bytes. A write that fails
leaves the loop between the two: bytes were read that were not written, or written that were not
counted, and never the other way round.
-/

namespace TrojanRust

open TrojanRust.Bytes

namespace DirectSplice

/-- The number of bytes that were read of both streams. -/
def totalTaken (state : DirectSplice) : Nat :=
  (state.stream .left).taken.length + (state.stream .right).taken.length

/-- The number of bytes that were written to both streams. -/
def totalWritten (state : DirectSplice) : Nat :=
  (state.stream .left).written.length + (state.stream .right).written.length

/-- At the head of the loop both directions are faithful, and the counter is what it was at entry
and the number of bytes that were read, as a word. -/
structure AtHead (entry : UInt64) (sent : Side → List UInt8) (state : DirectSplice) : Prop
    extends Faithful sent state where
  counted : state.bytesTransferred = entry + .ofNat state.totalTaken

/-- Bytes are counted after they were written, and written after they were read. -/
structure Accounted (entry : UInt64) (sent counted : Side → List UInt8) (state : DirectSplice) :
    Prop where
  sent : ∀ side, (state.stream side).sent = sent side
  delivered : ∀ side, counted side <+: (state.stream side.other).written
  copied : ∀ side, (state.stream side.other).written <+: (state.stream side).taken
  count : state.bytesTransferred =
    entry + .ofNat ((counted .left).length + (counted .right).length)

/-- The loop is entered at its head. -/
theorem start_atHead (entry : UInt64) (sent : Side → List UInt8) :
    (start entry sent).AtHead entry sent where
  toFaithful := start_faithful entry sent
  counted := (UInt64.add_zero entry).symm

/-- As many bytes were written as were read. -/
theorem Faithful.totalWritten_eq {sent : Side → List UInt8} {state : DirectSplice}
    (faithful : state.Faithful sent) : state.totalWritten = state.totalTaken := by
  have left : (state.stream .right).written = (state.stream .left).taken :=
    faithful.written .left
  have right : (state.stream .left).written = (state.stream .right).taken :=
    faithful.written .right
  rw [totalWritten, totalTaken, left, right, Nat.add_comm]

/-- As long as the counter does not overflow it holds the number of bytes. -/
theorem AtHead.toNat_eq {entry : UInt64} {sent : Side → List UInt8} {state : DirectSplice}
    (atHead : state.AtHead entry sent) (fits : entry.toNat + state.totalTaken < 2 ^ 64) :
    state.bytesTransferred.toNat = entry.toNat + state.totalTaken := by
  have small : state.totalTaken < 2 ^ 64 := by omega
  rw [atHead.counted, UInt64.toNat_add, UInt64.toNat_ofNat_of_lt' small, Nat.mod_eq_of_lt fits]

/-- The counter never holds more than the number of bytes. -/
theorem AtHead.toNat_le {entry : UInt64} {sent : Side → List UInt8} {state : DirectSplice}
    (atHead : state.AtHead entry sent) :
    state.bytesTransferred.toNat ≤ entry.toNat + state.totalTaken := by
  have wrapped : (UInt64.ofNat state.totalTaken).toNat ≤ state.totalTaken := by
    rw [UInt64.toNat_ofNat']
    exact Nat.mod_le _ _
  have sum : state.bytesTransferred.toNat ≤
      entry.toNat + (UInt64.ofNat state.totalTaken).toNat := by
    rw [atHead.counted, UInt64.toNat_add]
    exact Nat.mod_le _ _
  omega

/-- The bytes of both streams are those of one and those of the other. -/
theorem totalTaken_eq (side : Side) (state : DirectSplice) :
    state.totalTaken =
      (state.stream side).taken.length + (state.stream side.other).taken.length := by
  cases side with
  | left => rfl
  | right => exact Nat.add_comm _ _

/-- Reading adds to the number of bytes read, and forwarding does not change it. -/
theorem totalTaken_forward (side : Side) {part count : Nat} {state : DirectSplice}
    (partly : part ≤ count) (fits : count ≤ (state.stream side).pending.length) :
    ((state.setStream side ((state.stream side).read count)).forward side part).totalTaken =
      state.totalTaken + count := by
  have here : ((state.stream side).read count).taken.length =
      (state.stream side).taken.length + count := by
    show (_ ++ _ : List UInt8).length = _
    rw [List.length_append, List.length_take, Nat.min_eq_left fits]
  have there : ((state.stream side.other).write ((state.stream side).pending.take part)).taken =
      (state.stream side.other).taken := rfl
  rw [forward_part side partly fits, totalTaken_eq side, totalTaken_eq side state,
    setStream_opposite, setStream_self, setStream_self, here, there]
  omega

/-- Forwarding a front of what was read leaves the bytes that were read before it counted. -/
theorem AtHead.forward_part {entry : UInt64} {sent : Side → List UInt8} {state : DirectSplice}
    (atHead : state.AtHead entry sent) (side : Side) {part count : Nat} (partly : part ≤ count)
    (fits : count ≤ (state.stream side).pending.length) :
    ((state.setStream side ((state.stream side).read count)).forward side part).Accounted entry
      sent fun copy => (state.stream copy).taken := by
  have here := atHead.written side
  have there := atHead.written side.other
  rw [Side.other_other] at there
  have front : (state.stream side).pending.take part <+: (state.stream side).pending.take count :=
    List.take_prefix_take_left partly
  rw [DirectSplice.forward_part side partly fits]
  constructor
  · intro copy
    rcases Side.eq_or_eq_other copy side with same | opposite
    · rw [same, setStream_opposite, setStream_self]
      exact atHead.sent side
    · rw [opposite, setStream_self]
      exact atHead.sent side.other
  · intro copy
    rcases Side.eq_or_eq_other copy side with same | opposite
    · rw [same, setStream_self, ← here]
      exact List.prefix_append _ _
    · rw [opposite, Side.other_other, setStream_opposite, setStream_self, ← there]
      exact List.prefix_rfl
  · intro copy
    rcases Side.eq_or_eq_other copy side with same | opposite
    · rw [same, setStream_self, setStream_opposite, setStream_self]
      show _ ++ _ <+: _ ++ _
      rw [here]
      exact (List.prefix_append_right_inj _).mpr front
    · rw [opposite, Side.other_other, setStream_opposite, setStream_self, setStream_self]
      show (state.stream side).written <+: (state.stream side.other).taken
      rw [there]
  · exact atHead.counted

/-- What has been copied and counted when the loop is left, and at its head. -/
def Account (entry : UInt64) (sent : Side → List UInt8) (state : DirectSplice) : Prop :=
  match state.exit with
  | none => state.AtHead entry sent
  | some (.ok total) => state.AtHead entry sent ∧ total = state.bytesTransferred
  | some (.error (.err _)) => ∃ counted, state.Accounted entry sent counted
  | some (.error .panic) => state.Faithful sent ∧ 2 ^ 64 ≤ entry.toNat + state.totalTaken

/-- The account is about what the peers send. -/
theorem Account.sent {entry : UInt64} {sent : Side → List UInt8} {state : DirectSplice}
    (account : state.Account entry sent) (side : Side) : (state.stream side).sent = sent side := by
  rw [Account] at account
  cases exit : state.exit with
  | none =>
    rw [exit] at account
    exact (AtHead.toFaithful account).sent side
  | some result =>
    rw [exit] at account
    cases result with
    | ok total => exact account.1.sent side
    | error fault =>
      cases fault with
      | err error =>
        have ⟨counted, accounted⟩ := account
        exact accounted.sent side
      | panic => exact account.1.sent side

/-- Counting the bytes that were forwarded gets back to the head of the loop, or overflows. -/
theorem AtHead.account_counted {profile : BuildProfile} {entry : UInt64}
    {sent : Side → List UInt8} {state : DirectSplice} (atHead : state.AtHead entry sent)
    (runs : state.exit = none) (side : Side) {count : Nat}
    (fits : count ≤ (state.stream side).pending.length) :
    (((state.setStream side ((state.stream side).read count)).forward side count).addTransferred
      profile count).Account entry sent := by
  have faithful := atHead.forward_read side fits
  have total := totalTaken_forward side le_rfl fits
  have before : ((state.setStream side ((state.stream side).read count)).forward side
      count).bytesTransferred = state.bytesTransferred := rfl
  have inside : ((state.setStream side ((state.stream side).read count)).forward side
      count).exit = none := runs
  generalize (state.setStream side ((state.stream side).read count)).forward side count =
    moved at faithful total before inside ⊢
  rw [DirectSplice.addTransferred, before]
  cases added : addCounts profile state.bytesTransferred (.ofNat count) with
  | ok sum =>
    have counted : sum = entry + .ofNat moved.totalTaken := by
      rw [addCounts_ok added, atHead.counted, total, UInt64.ofNat_add, UInt64.add_assoc]
    show DirectSplice.Account entry sent { moved with bytesTransferred := sum }
    rw [Account, inside]
    exact ⟨⟨faithful.sent, faithful.written⟩, counted⟩
  | error fault =>
    have panicked := addCounts_error added
    subst panicked
    have overflows := addCounts_overflows added
    have bound := atHead.toNat_le
    have word : (UInt64.ofNat count).toNat ≤ count := by
      rw [UInt64.toNat_ofNat']
      exact Nat.mod_le _ _
    have large : 2 ^ 64 ≤ entry.toNat + moved.totalTaken := by omega
    exact ⟨⟨faithful.sent, faithful.written⟩, large⟩

/-- A turn taken at the head of the loop keeps the account. -/
theorem AtHead.account_step {profile : BuildProfile} {entry : UInt64} {sent : Side → List UInt8}
    {state next : DirectSplice} {turn : SpliceTurn} (atHead : state.AtHead entry sent)
    (stepped : state.step profile turn = some next) : next.Account entry sent := by
  have ⟨runs, effect⟩ := step_effect stepped
  cases effect with
  | retried side write =>
    rw [Account, runs]
    exact atHead
  | broke side kind write fatal => exact ⟨⟨⟨atHead.sent, atHead.written⟩, atHead.counted⟩, rfl⟩
  | ended side write drained => exact ⟨⟨⟨atHead.sent, atHead.written⟩, atHead.counted⟩, rfl⟩
  | moved side count write positive fits =>
    cases write with
    | flushed => exact atHead.account_counted runs side fits.2
    | writeFailed kind partly =>
      have accounted := atHead.forward_part side (Nat.min_le_right partly count) fits.2
      exact ⟨_, accounted.sent, accounted.delivered, accounted.copied, accounted.count⟩
    | flushFailed kind =>
      have accounted := atHead.forward_part side (Nat.le_refl count) fits.2
      exact ⟨_, accounted.sent, accounted.delivered, accounted.copied, accounted.count⟩

/-- Every turn keeps the account. -/
theorem step_account {profile : BuildProfile} {entry : UInt64} {sent : Side → List UInt8}
    (state : DirectSplice) (turn : SpliceTurn) (next : DirectSplice)
    (account : state.Account entry sent) (stepped : state.step profile turn = some next) :
    next.Account entry sent := by
  have runs := (step_effect stepped).1
  rw [Account, runs] at account
  exact AtHead.account_step account stepped

/-- `DirectSplice::splice` copies and counts exactly. For every sequence of turns: at every head of
the loop, what was read of either stream is a front of what its peer sends and was written to the
other stream in order, and the counter has grown by the number of these bytes; the same holds
when `Ok` is returned, with the number that is returned; and when an error is returned, the bytes
that the counter has grown by were written. Only a counter that overflows makes it panic. -/
theorem run_account (profile : BuildProfile) (entry : UInt64) (sent : Side → List UInt8)
    {turns : List SpliceTurn} {state : DirectSplice}
    (ran : Runs.run (step profile) (start entry sent) turns = some state) :
    (∀ side, (state.stream side).taken ++ (state.stream side).pending = sent side) ∧
    (state.exit = none → state.AtHead entry sent ∧
      (entry.toNat + state.totalTaken < 2 ^ 64 →
        state.bytesTransferred.toNat = entry.toNat + state.totalTaken)) ∧
    (∀ total, state.exit = some (.ok total) → state.AtHead entry sent ∧
      (entry.toNat + state.totalWritten < 2 ^ 64 →
        total.toNat = entry.toNat + state.totalWritten)) ∧
    (∀ error, state.exit = some (.error (.err error)) →
      ∃ counted, state.Accounted entry sent counted) ∧
    (state.exit = some (.error .panic) → 2 ^ 64 ≤ entry.toNat + state.totalTaken) := by
  have atStart : (start entry sent).Account entry sent := start_atHead entry sent
  have account := Runs.run_invariant step_account atStart ran
  refine ⟨?_, ?_, ?_, ?_, ?_⟩
  · intro side
    rw [(state.stream side).kept, account.sent side]
  · intro inside
    rw [Account, inside] at account
    exact ⟨account, AtHead.toNat_eq account⟩
  · intro total returned
    rw [Account, returned] at account
    have ⟨atHead, same⟩ := account
    rw [atHead.totalWritten_eq, same]
    exact ⟨atHead, atHead.toNat_eq⟩
  · intro error failed
    rw [Account, failed] at account
    exact account
  · intro panicked
    rw [Account, panicked] at account
    exact account.2

/-- A peer on the left that sends two bytes, and one on the right that sends three. -/
def fiveBytes (side : Side) : List UInt8 := if side = .left then [1, 2] else [7, 8, 9]

/-- The left stream is read in two pieces around one byte of the right stream, and then a write to
the left one fails after one of two bytes: three bytes were counted, and four delivered. -/
theorem run_account_failed :
    ∃ state, Runs.run (step .debug) (start 0 fiveBytes)
        [⟨.left, .bytes 1, .flushed⟩, ⟨.right, .failed .wouldBlock, .flushed⟩,
          ⟨.right, .bytes 1, .flushed⟩, ⟨.left, .bytes 1, .flushed⟩,
          ⟨.right, .bytes 2, .writeFailed .other 1⟩] = some state ∧
      state.bytesTransferred = 3 ∧ (state.stream .left).written = [7, 8] ∧
      ∃ counted, state.Accounted 0 fiveBytes counted := by
  have ran : Runs.run (step .debug) (start 0 fiveBytes)
      [⟨.left, .bytes 1, .flushed⟩, ⟨.right, .failed .wouldBlock, .flushed⟩,
        ⟨.right, .bytes 1, .flushed⟩, ⟨.left, .bytes 1, .flushed⟩,
        ⟨.right, .bytes 2, .writeFailed .other 1⟩] = some _ := rfl
  refine ⟨_, ran, rfl, rfl, ?_⟩
  exact (run_account .debug 0 fiveBytes ran).2.2.2.1 _ rfl

end DirectSplice

end TrojanRust
