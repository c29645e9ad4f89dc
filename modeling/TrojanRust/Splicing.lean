import TrojanRust.Reality.Splice

/-!
# Delivery and the end of a stream when forwarding

What the three ways of forwarding do for the two peers. `relay` delivers everything that both
sides sent and passes on the end of each stream. `DirectSplice` returns at the first end of a
stream that it reads and does not look at what the other side still has to deliver. `tcpSplice`
delivers everything, and leaves the write side of the destination open.
-/

namespace TrojanRust

open TrojanRust.Bytes

/-- The turn meets no error: a read fails only because the stream is not ready, and every write
is flushed. -/
def SpliceTurn.Clean (turn : SpliceTurn) : Prop :=
  (∀ kind, turn.read = .failed kind → kind = .wouldBlock) ∧ turn.write = .flushed

/-- A copy that returns a number has delivered everything that was sent, and counted it. -/
theorem copyResult_ok {kind : ErrorKind} {lane : Lane UInt8} {count : UInt64}
    (returned : copyResult kind lane = some (.ok count)) :
    lane.delivered = lane.sent ∧ count = .ofNat lane.sent.length := by
  cases status : lane.status with
  | running => simp [copyResult, status] at returned
  | failed => simp [copyResult, status, err] at returned
  | finished =>
    have everything := Lane.delivered_of_finished lane status
    simp only [copyResult, status, everything, Option.some.injEq, Except.ok.injEq] at returned
    exact ⟨everything, returned.symm⟩

/-- Two copies that return `Ok` together have delivered everything that both sides sent, and
return a combination of the numbers of bytes. -/
theorem joinResults_ok {γ : Type} {combine : UInt64 → UInt64 → Result γ}
    {kind : Side → ErrorKind} {state : Duplex UInt8} {value : γ}
    (returned : joinResults combine kind state = some (.ok value)) :
    (∀ side, (state.lane side).delivered = (state.lane side).sent) ∧
      combine (.ofNat (state.lane .left).sent.length) (.ofNat (state.lane .right).sent.length) =
        .ok value := by
  simp only [joinResults, Option.bind_eq_bind, Option.bind_eq_some_iff, Option.some.injEq]
    at returned
  rcases returned with ⟨leftResult, leftReturned, rightResult, rightReturned, combined⟩
  cases leftResult with
  | error fault => contradiction
  | ok left =>
    cases rightResult with
    | error fault => contradiction
    | ok right =>
      rw [ok_bind, ok_bind] at combined
      have ⟨leftDelivered, leftCounted⟩ := copyResult_ok leftReturned
      have ⟨rightDelivered, rightCounted⟩ := copyResult_ok rightReturned
      rw [leftCounted, rightCounted] at combined
      refine ⟨?_, combined⟩
      intro side
      cases side with
      | left => exact leftDelivered
      | right => exact rightDelivered

/-- Nothing is returned while a copy runs. -/
theorem joinResults_running {γ : Type} (combine : UInt64 → UInt64 → Result γ)
    (kind : Side → ErrorKind) {state : Duplex UInt8} {side : Side}
    (runs : (state.lane side).status = .running) : joinResults combine kind state = none := by
  have waits : copyResult (kind side) (state.lane side) = none := by rw [copyResult, runs]
  cases side with
  | left => simp [joinResults, waits]
  | right => simp [joinResults, waits]

namespace DirectSplice

/-- The peers send what they send, and what was taken from each was written to the other. -/
structure Faithful (sent : Side → List UInt8) (state : DirectSplice) : Prop where
  sent : ∀ side, (state.stream side).sent = sent side
  written : ∀ side, (state.stream side.other).written = (state.stream side).taken

/-- The loop is entered with nothing taken and nothing written. -/
theorem start_faithful (bytesTransferred : UInt64) (sent : Side → List UInt8) :
    (start bytesTransferred sent).Faithful sent where
  sent _ := rfl
  written _ := rfl

/-- Forwarding what was read keeps both directions faithful. -/
theorem Faithful.forward_read {sent : Side → List UInt8} {state : DirectSplice}
    (faithful : state.Faithful sent) (side : Side) {count : Nat}
    (fits : count ≤ (state.stream side).pending.length) :
    ((state.setStream side ((state.stream side).read count)).forward side count).Faithful
      sent := by
  have here := faithful.written side
  have there := faithful.written side.other
  rw [Side.other_other] at there
  rw [DirectSplice.forward_read side fits]
  constructor
  · intro copy
    rcases Side.eq_or_eq_other copy side with same | opposite
    · rw [same, setStream_opposite, setStream_self]
      exact faithful.sent side
    · rw [opposite, setStream_self]
      exact faithful.sent side.other
  · intro copy
    rcases Side.eq_or_eq_other copy side with same | opposite
    · rw [same, setStream_opposite, setStream_self, setStream_self]
      show _ ++ _ = _ ++ _
      rw [here]
    · rw [opposite, Side.other_other, setStream_opposite, setStream_self, setStream_self]
      exact there

/-- A turn without errors keeps both directions faithful. -/
theorem step_faithful {profile : BuildProfile} {sent : Side → List UInt8} (state : DirectSplice)
    (turn : SpliceTurn) (next : DirectSplice) (faithful : state.Faithful sent)
    (clean : turn.Clean) (stepped : state.step profile turn = some next) :
    next.Faithful sent := by
  cases (step_effect stepped).2 with
  | retried side write => exact faithful
  | broke side kind write fatal => exact absurd (clean.1 kind rfl) fatal
  | ended side write drained => exact ⟨faithful.sent, faithful.written⟩
  | moved side count write positive fits =>
    have flushed : write = .flushed := clean.2
    subst flushed
    have moved := faithful.forward_read side fits.2
    constructor
    · intro copy
      rw [writeTurn, addTransferred_stream]
      exact moved.sent copy
    · intro copy
      rw [writeTurn, addTransferred_stream]
      exact moved.written copy

/-- A turn without errors returns at the end of a stream, or it goes on unless counting panics. -/
theorem step_returns {profile : BuildProfile} {state next : DirectSplice} {turn : SpliceTurn}
    (clean : turn.Clean) (stepped : state.step profile turn = some next) :
    (turn.read = .bytes 0 ∧ (state.stream turn.side).pending = [] ∧
        next = { state with exit := some (.ok state.bytesTransferred) }) ∨
      (turn.read ≠ .bytes 0 ∧ (next.exit = none ∨ next.exit = some (.error .panic))) := by
  have ⟨runs, effect⟩ := step_effect stepped
  cases effect with
  | retried side write => exact .inr ⟨SpliceRead.noConfusion, .inl runs⟩
  | broke side kind write fatal => exact absurd (clean.1 kind rfl) fatal
  | ended side write drained => exact .inl ⟨rfl, drained, rfl⟩
  | moved side count write positive fits =>
    have flushed : write = .flushed := clean.2
    subst flushed
    have notAtEnd : SpliceRead.bytes count ≠ .bytes 0 := by
      intro same
      have zero := SpliceRead.bytes.inj same
      omega
    exact .inr ⟨notAtEnd, addTransferred_exit profile count runs⟩

/-- After the loop there is no further turn. -/
theorem run_of_exit {profile : BuildProfile} {state final : DirectSplice}
    {turns : List SpliceTurn} (returned : state.exit.isSome)
    (ran : Runs.run (step profile) state turns = some final) : turns = [] ∧ state = final := by
  cases turns with
  | nil => exact ⟨rfl, Option.some.inj ran⟩
  | cons turn turns =>
    rcases Runs.run_cons.mp ran with ⟨next, stepped, _⟩
    rw [step, if_pos returned] at stepped
    contradiction

/-- A read that ends the loop finds nothing left to deliver from the other side. -/
def EndsDrained (state : DirectSplice) (turn : SpliceTurn) : Prop :=
  turn.read = .bytes 0 → (state.stream turn.side.other).pending = []

/-- A run without errors that returns `Ok` has taken everything from both sides exactly when the
read that ended the loop found nothing left to deliver. -/
theorem run_pending_iff {profile : BuildProfile} {state final : DirectSplice}
    {turns : List SpliceTurn} {total : UInt64} (runs : state.exit = none)
    (clean : ∀ turn ∈ turns, turn.Clean)
    (ran : Runs.run (step profile) state turns = some final)
    (returned : final.exit = some (.ok total)) :
    (∀ side, (final.stream side).pending = []) ↔
      Runs.Meets (step profile) EndsDrained state turns := by
  induction turns generalizing state with
  | nil =>
    obtain rfl : state = final := Option.some.inj ran
    rw [runs] at returned
    contradiction
  | cons turn turns ih =>
    have ⟨now, later⟩ := List.forall_mem_cons.mp clean
    rcases Runs.run_cons.mp ran with ⟨next, stepped, rest⟩
    rw [Runs.meets_cons stepped]
    rcases step_returns now stepped with atEnd | goesOn
    · rcases atEnd with ⟨isEnd, drained, exited⟩
      have left : next.exit.isSome := by rw [exited]; rfl
      rcases run_of_exit left rest with ⟨noTurns, same⟩
      subst noTurns same
      have streams : next.stream = state.stream := by rw [exited]
      rw [streams]
      constructor
      · intro allTaken
        exact ⟨fun _ => allTaken turn.side.other, trivial⟩
      · intro meets side
        rcases Side.eq_or_eq_other side turn.side with here | there
        · rw [here]
          exact drained
        · rw [there]
          exact meets.1 isEnd
    · rcases goesOn with ⟨notAtEnd, running | panicked⟩
      · rw [ih running later rest]
        have vacuous : EndsDrained state turn := fun isEnd => absurd isEnd notAtEnd
        exact (and_iff_right vacuous).symm
      · have left : next.exit.isSome := by rw [panicked]; rfl
        have same := (run_of_exit left rest).2
        rw [← same, panicked] at returned
        have mismatch := Option.some.inj returned
        contradiction

/-- The other side of each stream was written everything that was sent, which is what `relay`
delivers on the same two peers when it returns `Ok`. -/
structure DeliversLikeRelay (sent : Side → List UInt8) (final : DirectSplice) : Prop where
  everything : ∀ side, (final.stream side.other).written = sent side
  relayed : ∀ actions state kind counts,
    Runs.run (Duplex.step relay) .start actions = some state →
    (∀ side, (state.lane side).sent = sent side) →
    relayResult kind state = some (.ok counts) →
      ∀ side, (final.stream side.other).written = (state.lane side).delivered

/-- Faithful streams that were taken completely are delivered as by `relay`. -/
theorem Faithful.deliversLikeRelay_iff {sent : Side → List UInt8} {final : DirectSplice}
    (faithful : final.Faithful sent) :
    final.DeliversLikeRelay sent ↔ ∀ side, (final.stream side).pending = [] := by
  constructor
  · intro delivers side
    have kept := (final.stream side).kept
    have written := delivers.everything side
    rw [faithful.written] at written
    rw [faithful.sent, ← written] at kept
    exact List.append_right_eq_self.mp kept
  · intro allTaken
    have everything : ∀ side, (final.stream side.other).written = sent side := by
      intro side
      have kept := (final.stream side).kept
      rw [allTaken, List.append_nil, faithful.sent] at kept
      rw [faithful.written, kept]
    refine ⟨everything, ?_⟩
    intro actions state kind counts ran same returned side
    rw [everything, (joinResults_ok returned).1, same]

/-- `DirectSplice::splice` that meets no error and returns `Ok` delivers everything, like `relay`,
exactly when the other side has nothing left to deliver at the end of stream that it returns
at. -/
theorem splice_deliversLikeRelay_iff (profile : BuildProfile) (bytesTransferred : UInt64)
    (sent : Side → List UInt8) {turns : List SpliceTurn} {final : DirectSplice} {total : UInt64}
    (clean : ∀ turn ∈ turns, turn.Clean)
    (ran : Runs.run (step profile) (start bytesTransferred sent) turns = some final)
    (returned : final.exit = some (.ok total)) :
    final.DeliversLikeRelay sent ↔
      Runs.Meets (step profile) EndsDrained (start bytesTransferred sent) turns := by
  have faithful : final.Faithful sent :=
    Runs.run_preserves step_faithful (start_faithful bytesTransferred sent)
      (Runs.meets_of_forall clean _) ran
  exact faithful.deliversLikeRelay_iff.trans (run_pending_iff rfl clean ran returned)

/-- A peer on the left that sends one byte, and one on the right that sends nothing. -/
def oneByte : Side → List UInt8
  | .left => [1]
  | .right => []

/-- When the left stream is read to its end, the byte is delivered. -/
theorem splice_deliversLikeRelay_oneByte :
    ∃ final, Runs.run (step .release) (start 0 oneByte)
        [⟨.left, .bytes 1, .flushed⟩, ⟨.left, .bytes 0, .flushed⟩] = some final ∧
      final.DeliversLikeRelay oneByte := by
  have ran : Runs.run (step .release) (start 0 oneByte)
      [⟨.left, .bytes 1, .flushed⟩, ⟨.left, .bytes 0, .flushed⟩] = some _ := rfl
  refine ⟨_, ran, (splice_deliversLikeRelay_iff .release 0 oneByte ?_ ran rfl).mpr ?_⟩
  · simp [SpliceTurn.Clean]
  · have readsFirst : EndsDrained (start 0 oneByte) ⟨.left, .bytes 1, .flushed⟩ :=
      fun atEnd => absurd atEnd (by decide)
    refine (Runs.meets_cons rfl).mpr ⟨readsFirst, ?_⟩
    exact (Runs.meets_cons rfl).mpr ⟨fun _ => rfl, trivial⟩

/-- When the right stream ends first, `Ok(0)` is returned and the byte of the left one is lost. -/
theorem splice_loses_oneByte :
    (∃ final, Runs.run (step .release) (start 0 oneByte) [⟨.right, .bytes 0, .flushed⟩] =
        some final ∧ final.exit = some (.ok 0) ∧ (final.stream .right).written = [] ∧
        ¬ final.DeliversLikeRelay oneByte) ∧
      ∃ state, Runs.run (Duplex.step relay) .start
          [.close .right, .finish .right, .send .left [1], .close .left, .read .left 1,
            .deliver .left 1, .finish .left] = some state ∧
        (∀ side, (state.lane side).sent = oneByte side) ∧
        relayResult (fun _ => .other) state = some (.ok (1, 0)) ∧
        (state.lane .left).delivered = [1] := by
  constructor
  · refine ⟨_, rfl, rfl, rfl, ?_⟩
    intro delivers
    have lost := delivers.everything .left
    contradiction
  · refine ⟨_, rfl, ?_, rfl, rfl⟩
    intro side
    cases side with
    | left => rfl
    | right => rfl

end DirectSplice

/-- `relay` passes on the end of each stream, and no copy is left waiting. -/
theorem relay_passesOnEnd {actions : List (DuplexAction UInt8)} {state : Duplex UInt8}
    (ran : Runs.run (Duplex.step relay) .start actions = some state) :
    state.PassesOnEnd ∧ ∀ side, ¬ state.Hangs relay side := by
  have passes := Duplex.run_passesOnEnd rfl ran
  exact ⟨passes, passes.not_hangs relay⟩

/-- `tcp_splice` passes on the end of each stream in every state of a run, and leaves no copy
waiting forever, exactly when no copy finishes before the opposite one is over. -/
theorem tcpSplice_passesOnEnd_iff {actions : List (DuplexAction UInt8)} {final : Duplex UInt8}
    (ran : Runs.run (Duplex.step tcpSplice) .start actions = some final) :
    Runs.Throughout (Duplex.step tcpSplice)
        (fun state => state.PassesOnEnd ∧ ∀ side, ¬ state.Hangs tcpSplice side) .start actions ↔
      Runs.Meets (Duplex.step tcpSplice) Duplex.FinishesLast .start actions := by
  have same : (fun state : Duplex UInt8 =>
      state.PassesOnEnd ∧ ∀ side, ¬ state.Hangs tcpSplice side) = Duplex.PassesOnEnd := by
    funext state
    exact propext (and_iff_left_of_imp fun passes => passes.not_hangs tcpSplice)
  rw [same]
  exact Duplex.throughout_passesOnEnd_iff rfl ran

/-- With the left copy over, the right one may finish. -/
theorem tcpSplice_passesOnEnd_afterFailure :
    Runs.Throughout (Duplex.step tcpSplice)
      (fun state => state.PassesOnEnd ∧ ∀ side, ¬ state.Hangs tcpSplice side)
      (.start : Duplex UInt8) [.fail .left, .close .right, .finish .right] := by
  have ran : Runs.run (Duplex.step tcpSplice) (.start : Duplex UInt8)
      [.fail .left, .close .right, .finish .right] = some _ := rfl
  refine (tcpSplice_passesOnEnd_iff ran).mpr ?_
  refine (Runs.meets_cons rfl).mpr ⟨fun side finishes => by contradiction, ?_⟩
  refine (Runs.meets_cons rfl).mpr ⟨fun side finishes => by contradiction, ?_⟩
  refine (Runs.meets_cons rfl).mpr ⟨?_, trivial⟩
  intro side finishes
  have right : Side.right = side := DuplexAction.finish.inj finishes
  subst right
  exact CopyStatus.noConfusion

/-- A copy that is left waiting keeps `tcp_splice` from returning. -/
theorem tcpSpliceResult_eq_none_of_hangs {side : Side} {state final : Duplex UInt8}
    (hangs : state.Hangs tcpSplice side)
    (attains : Runs.Attains (Duplex.step tcpSplice) (Duplex.Patient side) state final)
    (profile : BuildProfile) (kind : Side → ErrorKind) :
    tcpSpliceResult profile kind final = none :=
  joinResults_running (addCounts profile) kind (hangs.2 final attains)

/-- When the left peer closes first, its copy finishes and the right peer does not see the end of
the stream; if it waits for that, the right copy runs forever and nothing is returned. -/
theorem tcpSplice_hangs :
    ∃ state : Duplex UInt8,
      Runs.run (Duplex.step tcpSplice) .start [.close .left, .finish .left] = some state ∧
        (state.lane .left).status = .finished ∧ ¬ state.SeesEnd .right ∧ ¬ state.PassesOnEnd ∧
        state.Hangs tcpSplice .right ∧
        ∀ profile kind final,
          Runs.Attains (Duplex.step tcpSplice) (Duplex.Patient .right) state final →
            tcpSpliceResult profile kind final = none := by
  have ran : Runs.run (Duplex.step tcpSplice) (.start : Duplex UInt8)
      [.close .left, .finish .left] = some _ := rfl
  refine ⟨_, ran, rfl, ?unseen, fun passes => ?unseen (passes .left rfl).1, ?hangs,
    fun profile kind final attains => tcpSpliceResult_eq_none_of_hangs ?hangs attains profile kind⟩
  · intro sees
    rcases sees with shutdown | bothOver
    · contradiction
    · exact bothOver .right rfl
  · apply Duplex.Waits.hangs rfl rfl
    refine ⟨rfl, rfl, ?_⟩
    intro copy
    cases copy with
    | left => rfl
    | right => rfl

end TrojanRust
