import TrojanRust.Runs

/-!
# Copying between two streams

Two peers are connected by two copies, each of which takes what one peer sends and delivers it to
the other. A copy is over when it has finished, because its source has ended and everything was
delivered, or when it has failed. What a copy does to its destination when it is over is a
policy: it may shut down the write side, so that the peer there sees the end of the stream, and a
failed copy may end the other. A stream that both copies have let go of is closed.
-/

namespace TrojanRust.Bytes

variable {α : Type}

/-- The two peers. -/
inductive Side where
  | left
  | right
  deriving DecidableEq, Repr

/-- The peer on the other side. -/
def Side.other : Side → Side
  | .left => .right
  | .right => .left

/-- The peer of the peer is the side itself. -/
@[simp]
theorem Side.other_other (side : Side) : side.other.other = side := by
  cases side <;> rfl

/-- A side is not its peer. -/
@[simp]
theorem Side.other_ne (side : Side) : side.other ≠ side := by
  cases side <;> decide

/-- A side is one of the two. -/
theorem Side.eq_or_eq_other (side known : Side) : side = known ∨ side = known.other := by
  cases side <;> cases known <;> decide

/-- Whether a copy is over, and how it ended. -/
inductive CopyStatus where
  | running
  | finished
  | failed
  deriving DecidableEq, Repr

/-- What one peer sends, and how far the copy of it has come. -/
structure Lane (α : Type) where
  /-- Everything that the peer has sent. -/
  sent : List α
  /-- What has not been read. -/
  pending : List α
  /-- What has been read and not delivered. -/
  buffered : List α
  delivered : List α
  /-- The peer has ended its stream. -/
  closed : Bool
  status : CopyStatus
  /-- The write side to the other peer has been shut down. -/
  shutdown : Bool
  /-- Nothing is lost, repeated or reordered. -/
  kept : delivered ++ (buffered ++ pending) = sent
  /-- A copy finishes when nothing is left to copy. -/
  complete : status = .finished → closed = true ∧ pending = [] ∧ buffered = []

/-- What the copies do when they are over. -/
structure CopyPolicy where
  /-- A copy that finishes shuts down the write side of its destination. -/
  shutsDown : Bool
  /-- A copy that fails ends the other one. -/
  failsTogether : Bool

namespace Lane

/-- Nothing has been sent. -/
def start : Lane α where
  sent := []
  pending := []
  buffered := []
  delivered := []
  closed := false
  status := .running
  shutdown := false
  kept := rfl
  complete := by simp

/-- The peer sends. -/
def send (items : List α) (lane : Lane α) (isOpen : lane.closed = false) : Lane α :=
  { lane with
    sent := lane.sent ++ items
    pending := lane.pending ++ items
    kept := by rw [← lane.kept, List.append_assoc, List.append_assoc]
    complete := fun finished => by simp [(lane.complete finished).1] at isOpen }

/-- The peer ends its stream. -/
def close (lane : Lane α) : Lane α :=
  { lane with
    closed := true
    complete := fun finished => ⟨rfl, (lane.complete finished).2⟩ }

/-- The copy reads. -/
def read (count : Nat) (lane : Lane α) (runs : lane.status = .running) : Lane α :=
  { lane with
    pending := lane.pending.drop count
    buffered := lane.buffered ++ lane.pending.take count
    kept := by rw [List.append_assoc, List.take_append_drop, lane.kept]
    complete := fun finished => by simp [runs] at finished }

/-- The copy delivers. -/
def deliver (count : Nat) (lane : Lane α) (runs : lane.status = .running) : Lane α :=
  { lane with
    buffered := lane.buffered.drop count
    delivered := lane.delivered ++ lane.buffered.take count
    kept := by
      rw [List.append_assoc, ← List.append_assoc (lane.buffered.take count),
        List.take_append_drop, lane.kept]
    complete := fun finished => by simp [runs] at finished }

/-- The copy finishes. -/
def finish (shutsDown : Bool) (lane : Lane α)
    (ended : lane.closed = true ∧ lane.pending = [] ∧ lane.buffered = []) : Lane α :=
  { lane with
    status := .finished
    shutdown := shutsDown
    complete := fun _ => ended }

/-- The copy fails, unless it is over. -/
def fail (lane : Lane α) : Lane α :=
  { lane with
    status := if lane.status = .running then .failed else lane.status
    complete := fun finished => by
      split at finished
      · contradiction
      · exact lane.complete finished }

/-- A copy that has finished has delivered everything that was sent. -/
theorem delivered_of_finished (lane : Lane α) (finished : lane.status = .finished) :
    lane.delivered = lane.sent := by
  have ⟨_, noPending, noBuffered⟩ := lane.complete finished
  have kept := lane.kept
  rwa [noPending, noBuffered, List.append_nil, List.append_nil] at kept

/-- What was delivered is a front of what was sent. -/
theorem delivered_isPrefix (lane : Lane α) : lane.delivered <+: lane.sent := ⟨_, lane.kept⟩

/-- Two lanes agree on everything but whether the write side was shut down. -/
structure Agrees (lane other : Lane α) : Prop where
  sent : lane.sent = other.sent
  pending : lane.pending = other.pending
  buffered : lane.buffered = other.buffered
  delivered : lane.delivered = other.delivered
  closed : lane.closed = other.closed
  status : lane.status = other.status

end Lane

/-- Both directions, each by the side that sends. -/
structure Duplex (α : Type) where
  lane : Side → Lane α

/-- What a peer or a copy does. The side is the one that sends. -/
inductive DuplexAction (α : Type) where
  | send (side : Side) (items : List α)
  | close (side : Side)
  | read (side : Side) (count : Nat)
  | deliver (side : Side) (count : Nat)
  /-- The copy reads the end of the stream and has delivered everything. -/
  | finish (side : Side)
  | fail (side : Side)

/-- What an action lets a side send. -/
def DuplexAction.sends (side : Side) : DuplexAction α → List α
  | .send sender items => if sender = side then items else []
  | _ => []

namespace Duplex

/-- Nothing has been sent by either side. -/
def start : Duplex α := ⟨fun _ => .start⟩

/-- Replace what is known of one direction. -/
def setLane (side : Side) (lane : Lane α) (state : Duplex α) : Duplex α :=
  ⟨Function.update state.lane side lane⟩

/-- A replaced lane is what it was replaced with. -/
@[simp]
theorem setLane_self (side : Side) (lane : Lane α) (state : Duplex α) :
    (state.setLane side lane).lane side = lane := Function.update_self _ _ _

/-- The lane of the peer stays as it was. -/
@[simp]
theorem setLane_other (side : Side) (lane : Lane α) (state : Duplex α) :
    (state.setLane side lane).lane side.other = state.lane side.other :=
  Function.update_of_ne (Side.other_ne side) _ _

/-- A copy is over. -/
def Over (state : Duplex α) (side : Side) : Prop := (state.lane side).status ≠ .running

/-- The peer on this side sees the end of the stream: the write side to it was shut down, or both
copies have let go of it. -/
def SeesEnd (state : Duplex α) (side : Side) : Prop :=
  (state.lane side.other).shutdown = true ∨ ∀ copy, state.Over copy

/-- A copy fails, and the other with it when the policy says so. -/
def failCopy (policy : CopyPolicy) (side : Side) (state : Duplex α) : Duplex α :=
  if policy.failsTogether then ⟨fun copy => (state.lane copy).fail⟩
  else state.setLane side (state.lane side).fail

/-- Both directions of two states agree. -/
def Agrees (state twin : Duplex α) : Prop := ∀ side, (state.lane side).Agrees (twin.lane side)

/-- One action of a peer or a copy. -/
def step (policy : CopyPolicy) (state : Duplex α) : DuplexAction α → Option (Duplex α)
  | .send side items =>
    if isOpen : (state.lane side).closed = false then
      some (state.setLane side ((state.lane side).send items isOpen))
    else none
  | .close side =>
    if (state.lane side).closed = false then
      some (state.setLane side (state.lane side).close)
    else none
  | .read side count =>
    if runs : (state.lane side).status = .running then
      if 0 < count ∧ count ≤ (state.lane side).pending.length then
        some (state.setLane side ((state.lane side).read count runs))
      else none
    else none
  | .deliver side count =>
    if runs : (state.lane side).status = .running then
      if 0 < count ∧ count ≤ (state.lane side).buffered.length then
        some (state.setLane side ((state.lane side).deliver count runs))
      else none
    else none
  | .finish side =>
    if ended : (state.lane side).closed = true ∧ (state.lane side).pending = [] ∧
        (state.lane side).buffered = [] then
      if (state.lane side).status = .running then
        some (state.setLane side ((state.lane side).finish policy.shutsDown ended))
      else none
    else none
  | .fail side =>
    if (state.lane side).status = .running then some (state.failCopy policy side) else none

/-- The end of a stream is passed on: the peer opposite to a copy that has finished sees the end of
the stream, after exactly what was sent. -/
def PassesOnEnd (state : Duplex α) : Prop :=
  ∀ side, (state.lane side).status = .finished →
    state.SeesEnd side.other ∧ (state.lane side).delivered = (state.lane side).sent

/-- What an action can do: it moves items or closes a stream in one direction, or one copy
finishes, or one fails. -/
inductive Effect (policy : CopyPolicy) (state : Duplex α) : DuplexAction α → Duplex α → Prop
  | moved (side : Side) (action : DuplexAction α) (lane : Lane α)
      (status : lane.status = (state.lane side).status)
      (shutdown : lane.shutdown = (state.lane side).shutdown)
      (closed : lane.closed = (state.lane side).closed ∨ action = .close side)
      (quiet : ∀ copy, action ≠ .finish copy ∧ action ≠ .fail copy) :
    Effect policy state action (state.setLane side lane)
  | finished (side : Side) (runs : (state.lane side).status = .running)
      (ended : (state.lane side).closed = true ∧ (state.lane side).pending = [] ∧
        (state.lane side).buffered = []) :
    Effect policy state (.finish side)
      (state.setLane side ((state.lane side).finish policy.shutsDown ended))
  | failed (side : Side) (runs : (state.lane side).status = .running) :
    Effect policy state (.fail side) (state.failCopy policy side)

/-- Every step has one of these effects. -/
theorem step_effect {policy : CopyPolicy} {state next : Duplex α} {action : DuplexAction α}
    (stepped : step policy state action = some next) : Effect policy state action next := by
  cases action with
  | send side items =>
    simp only [step, Option.dite_none_right_eq_some, Option.some.injEq] at stepped
    obtain ⟨isOpen, rfl⟩ := stepped
    exact .moved side _ _ rfl rfl (.inl rfl) (by simp)
  | close side =>
    obtain ⟨isOpen, rfl⟩ := Runs.guarded.mp stepped
    exact .moved side _ _ rfl rfl (.inr rfl) (by simp)
  | read side count =>
    simp only [step, Option.dite_none_right_eq_some] at stepped
    have ⟨runs, enough⟩ := stepped
    obtain ⟨_, rfl⟩ := Runs.guarded.mp enough
    exact .moved side _ _ rfl rfl (.inl rfl) (by simp)
  | deliver side count =>
    simp only [step, Option.dite_none_right_eq_some] at stepped
    have ⟨runs, enough⟩ := stepped
    obtain ⟨_, rfl⟩ := Runs.guarded.mp enough
    exact .moved side _ _ rfl rfl (.inl rfl) (by simp)
  | finish side =>
    simp only [step, Option.dite_none_right_eq_some] at stepped
    have ⟨ended, running⟩ := stepped
    obtain ⟨runs, rfl⟩ := Runs.guarded.mp running
    exact .finished side runs ended
  | fail side =>
    obtain ⟨runs, rfl⟩ := Runs.guarded.mp stepped
    exact .failed side runs

/-- An action adds what it lets a side send to what that side has sent. -/
theorem step_sent {policy : CopyPolicy} {state next : Duplex α} {action : DuplexAction α}
    (stepped : step policy state action = some next) (side : Side) :
    (next.lane side).sent = (state.lane side).sent ++ action.sends side := by
  have moved : ∀ (copy : Side) (lane : Lane α), lane.sent = (state.lane copy).sent →
      ((state.setLane copy lane).lane side).sent = (state.lane side).sent ++ [] := by
    intro copy lane same
    rw [List.append_nil]
    cases Side.eq_or_eq_other side copy with
    | inl here => rw [here, setLane_self, same]
    | inr there => rw [there, setLane_other]
  cases action with
  | send sender items =>
    simp only [step, Option.dite_none_right_eq_some, Option.some.injEq] at stepped
    obtain ⟨isOpen, rfl⟩ := stepped
    cases Side.eq_or_eq_other side sender with
    | inl here =>
      rw [here, setLane_self, DuplexAction.sends, if_pos rfl]
      rfl
    | inr there =>
      rw [there, setLane_other, DuplexAction.sends, if_neg (Side.other_ne sender).symm,
        List.append_nil]
  | close copy =>
    obtain ⟨isOpen, rfl⟩ := Runs.guarded.mp stepped
    exact moved copy _ rfl
  | read copy count =>
    simp only [step, Option.dite_none_right_eq_some] at stepped
    have ⟨runs, enough⟩ := stepped
    obtain ⟨_, rfl⟩ := Runs.guarded.mp enough
    exact moved copy _ rfl
  | deliver copy count =>
    simp only [step, Option.dite_none_right_eq_some] at stepped
    have ⟨runs, enough⟩ := stepped
    obtain ⟨_, rfl⟩ := Runs.guarded.mp enough
    exact moved copy _ rfl
  | finish copy =>
    simp only [step, Option.dite_none_right_eq_some] at stepped
    have ⟨ended, running⟩ := stepped
    obtain ⟨runs, rfl⟩ := Runs.guarded.mp running
    exact moved copy _ rfl
  | fail copy =>
    obtain ⟨runs, rfl⟩ := Runs.guarded.mp stepped
    unfold failCopy
    split
    · exact (List.append_nil _).symm
    · exact moved copy _ rfl

/-- A direction after another one was replaced is as it was, and the replaced one is as given. -/
theorem setLane_forall (holds : Side → Lane α → Prop) {side : Side} {lane : Lane α}
    {state : Duplex α} (replaced : holds side lane)
    (others : ∀ copy, holds copy (state.lane copy)) (copy : Side) :
    holds copy ((state.setLane side lane).lane copy) := by
  cases Side.eq_or_eq_other copy side with
  | inl same => rw [same, setLane_self]; exact replaced
  | inr opposite => rw [opposite, setLane_other]; exact others side.other

/-- A failing copy leaves the write sides as they are, and finishes no copy. -/
theorem failCopy_lane (policy : CopyPolicy) (side copy : Side) (state : Duplex α) :
    ((state.failCopy policy side).lane copy).shutdown = (state.lane copy).shutdown ∧
      (((state.failCopy policy side).lane copy).status = .finished ↔
        (state.lane copy).status = .finished) := by
  have failed : ∀ lane : Lane α, lane.fail.status = .finished ↔ lane.status = .finished := by
    intro lane
    change (if lane.status = .running then CopyStatus.failed else lane.status) = .finished ↔ _
    by_cases runs : lane.status = .running
    · simp [runs]
    · simp [runs]
  unfold failCopy
  split
  · exact ⟨rfl, failed _⟩
  · cases Side.eq_or_eq_other copy side with
    | inl same => rw [same, setLane_self]; exact ⟨rfl, failed _⟩
    | inr opposite => rw [opposite, setLane_other]; exact ⟨rfl, Iff.rfl⟩

/-- When finished copies shut down the write side of their destination, every step keeps it so
that they all have. -/
theorem step_shutsDown {policy : CopyPolicy} (shutsDown : policy.shutsDown = true)
    (state : Duplex α) (action : DuplexAction α) (next : Duplex α)
    (before : ∀ copy, (state.lane copy).status = .finished → (state.lane copy).shutdown = true)
    (stepped : step policy state action = some next) :
    ∀ copy, (next.lane copy).status = .finished → (next.lane copy).shutdown = true := by
  cases step_effect stepped with
  | moved side action lane status shutdown closed quiet =>
    apply setLane_forall fun _ lane => lane.status = .finished → lane.shutdown = true
    · rw [status, shutdown]
      exact before side
    · exact before
  | finished side runs ended =>
    apply setLane_forall fun _ lane => lane.status = .finished → lane.shutdown = true
    · exact fun _ => shutsDown
    · exact before
  | failed side runs =>
    intro copy finished
    have ⟨shutdown, status⟩ := failCopy_lane policy side copy state
    rw [shutdown]
    exact before copy (status.mp finished)

/-- When finished copies shut down the write side of their destination, the end of a stream is
passed on in every state of every run. -/
theorem run_passesOnEnd {policy : CopyPolicy} (shutsDown : policy.shutsDown = true)
    {actions : List (DuplexAction α)} {state : Duplex α}
    (ran : Runs.run (step policy) start actions = some state) : state.PassesOnEnd := by
  have initial : ∀ copy, ((start : Duplex α).lane copy).status = .finished →
      ((start : Duplex α).lane copy).shutdown = true := by
    intro copy finished
    contradiction
  have shut := Runs.run_invariant (step_shutsDown shutsDown) initial ran
  intro side finished
  refine ⟨.inl ?_, Lane.delivered_of_finished _ finished⟩
  rw [Side.other_other]
  exact shut side finished

/-- No write side has been shut down. -/
def Unshut (state : Duplex α) : Prop := ∀ copy, (state.lane copy).shutdown = false

/-- When finished copies leave the write side of their destination open, every step does. -/
theorem step_unshut {policy : CopyPolicy} (leavesOpen : policy.shutsDown = false)
    (state : Duplex α) (action : DuplexAction α) (next : Duplex α) (before : state.Unshut)
    (stepped : step policy state action = some next) : next.Unshut := by
  cases step_effect stepped with
  | moved side action lane status shutdown closed quiet =>
    apply setLane_forall fun _ lane => lane.shutdown = false
    · rw [shutdown]
      exact before side
    · exact before
  | finished side runs ended =>
    apply setLane_forall fun _ lane => lane.shutdown = false
    · exact leavesOpen
    · exact before
  | failed side runs =>
    intro copy
    rw [(failCopy_lane policy side copy state).1]
    exact before copy

/-- With no write side shut down, the end of a stream is passed on when no copy has finished before
both were over. -/
theorem Unshut.passesOnEnd_iff {state : Duplex α} (unshut : state.Unshut) :
    state.PassesOnEnd ↔
      ∀ side, (state.lane side).status = .finished → ∀ copy, state.Over copy := by
  constructor
  · intro passes side finished
    cases (passes side finished).1 with
    | inl shutdown => simp [unshut _] at shutdown
    | inr bothOver => exact bothOver
  · intro together side finished
    exact ⟨.inr (together side finished), Lane.delivered_of_finished _ finished⟩

/-- A copy that finishes is the second of the two to be over. -/
def FinishesLast (state : Duplex α) (action : DuplexAction α) : Prop :=
  ∀ side, action = .finish side → state.Over side.other

/-- When finished copies leave the write side of their destination open, a step keeps it so that the
end of a stream is passed on exactly when no copy finishes before the other is over. -/
theorem step_passesOnEnd_iff {policy : CopyPolicy} (leavesOpen : policy.shutsDown = false)
    (state : Duplex α) (action : DuplexAction α) (next : Duplex α) (unshut : state.Unshut)
    (passes : state.PassesOnEnd) (stepped : step policy state action = some next) :
    next.PassesOnEnd ↔ state.FinishesLast action := by
  rw [(step_unshut leavesOpen state action next unshut stepped).passesOnEnd_iff]
  have together := unshut.passesOnEnd_iff.mp passes
  cases step_effect stepped with
  | moved side action lane status shutdown closed quiet =>
    have same : ∀ copy, ((state.setLane side lane).lane copy).status = (state.lane copy).status :=
      setLane_forall (fun copy lane => lane.status = (state.lane copy).status) status
        fun copy => rfl
    constructor
    · intro _ copy finishes
      exact absurd finishes (quiet copy).1
    · intro _ copy finished other
      rw [same] at finished
      rw [Over, same]
      exact together copy finished other
  | finished side runs ended =>
    constructor
    · intro bothOver copy finishes
      obtain rfl : side = copy := DuplexAction.finish.inj finishes
      have opposite := bothOver side (by rw [setLane_self]; rfl) side.other
      rwa [Over, setLane_other] at opposite
    · intro last _ _ copy
      unfold Over
      cases Side.eq_or_eq_other copy side with
      | inl same =>
        rw [same, setLane_self]
        exact CopyStatus.noConfusion
      | inr opposite =>
        rw [opposite, setLane_other]
        exact last side rfl
  | failed side runs =>
    constructor
    · intro _ copy finishes
      contradiction
    · intro _ copy finished
      rw [(failCopy_lane policy side copy state).2] at finished
      exact absurd runs (together copy finished side)

/-- When finished copies leave the write side of their destination open, a run passes on the end of
a stream in every state exactly when no copy finishes before the other is over. -/
theorem throughout_passesOnEnd_iff {policy : CopyPolicy} (leavesOpen : policy.shutsDown = false)
    {actions : List (DuplexAction α)} {final : Duplex α}
    (ran : Runs.run (step policy) start actions = some final) :
    Runs.Throughout (step policy) PassesOnEnd start actions ↔
      Runs.Meets (step policy) FinishesLast start actions := by
  have unshut : (start : Duplex α).Unshut := fun _ => rfl
  have passes : (start : Duplex α).PassesOnEnd := by
    intro side finished
    contradiction
  exact Runs.throughout_iff_meets (step_unshut leavesOpen) (step_passesOnEnd_iff leavesOpen)
    unshut passes ran

/-- The peer on this side ends its stream only after it has seen the end of the other's, and no
copy fails. -/
def Patient (side : Side) (state : Duplex α) (action : DuplexAction α) : Prop :=
  (action = .close side → state.SeesEnd side) ∧ ∀ copy, action ≠ .fail copy

/-- The copy from this side runs, and cannot end before its peer does. -/
def Waits (side : Side) (state : Duplex α) : Prop :=
  (state.lane side).status = .running ∧ (state.lane side).closed = false ∧ state.Unshut

/-- What happens in the opposite direction leaves a waiting copy waiting, unless it shuts down a
write side. -/
theorem Waits.setLane_other {copy : Side} {lane : Lane α} {state : Duplex α}
    (waits : state.Waits copy.other) (unshut : (state.setLane copy lane).Unshut) :
    (state.setLane copy lane).Waits copy.other := by
  rw [Waits, Duplex.setLane_other]
  exact ⟨waits.1, waits.2.1, unshut⟩

/-- When finished copies leave the write side of their destination open, the copy from a patient
peer waits forever: nothing that can happen ends it. -/
theorem step_waits {policy : CopyPolicy} (leavesOpen : policy.shutsDown = false) (side : Side)
    (state : Duplex α) (action : DuplexAction α) (next : Duplex α) (waits : state.Waits side)
    (patient : state.Patient side action) (stepped : step policy state action = some next) :
    next.Waits side := by
  have ⟨runs, isOpen, unshut⟩ := waits
  have laterUnshut := step_unshut leavesOpen state action next unshut stepped
  have notClosing : action ≠ .close side := by
    intro closing
    cases patient.1 closing with
    | inl shutdown => simp [unshut _] at shutdown
    | inr bothOver => exact bothOver side runs
  cases step_effect stepped with
  | moved copy action lane status shutdown closed quiet =>
    cases Side.eq_or_eq_other side copy with
    | inl same =>
      subst same
      have stillOpen := closed.resolve_right notClosing
      refine ⟨?_, ?_, laterUnshut⟩
      · rw [setLane_self, status, runs]
      · rw [setLane_self, stillOpen, isOpen]
    | inr opposite =>
      subst opposite
      exact waits.setLane_other laterUnshut
  | finished copy copyRuns ended =>
    cases Side.eq_or_eq_other side copy with
    | inl same =>
      subst same
      rw [ended.1] at isOpen
      contradiction
    | inr opposite =>
      subst opposite
      exact waits.setLane_other laterUnshut
  | failed copy copyRuns => exact absurd rfl (patient.2 copy)

/-- So a run with a patient peer, from a state in which its copy waits, never ends that copy. -/
theorem run_waits {policy : CopyPolicy} (leavesOpen : policy.shutsDown = false) {side : Side}
    {state final : Duplex α} {actions : List (DuplexAction α)} (waits : state.Waits side)
    (patient : Runs.Meets (step policy) (Patient side) state actions)
    (ran : Runs.run (step policy) state actions = some final) : final.Waits side :=
  Runs.run_preserves (step_waits leavesOpen side) waits patient ran

/-- The copy from this side can finish in a run in which its peer is patient. -/
def CanFinish (policy : CopyPolicy) (side : Side) (state : Duplex α) : Prop :=
  ∃ final, Runs.Attains (step policy) (Patient side) state final ∧
    (final.lane side).status = .finished

/-- What can finish after an allowed step can finish before it. -/
theorem CanFinish.head {policy : CopyPolicy} {side : Side} {state next : Duplex α}
    {action : DuplexAction α} (patient : state.Patient side action)
    (stepped : step policy state action = some next) (can : next.CanFinish policy side) :
    state.CanFinish policy side := by
  have ⟨final, attains, finished⟩ := can
  exact ⟨final, .head patient stepped attains, finished⟩

/-- A copy that has delivered everything before the end of its stream can finish. -/
theorem canFinish_of_delivered (policy : CopyPolicy) {side : Side} {state : Duplex α}
    (runs : (state.lane side).status = .running)
    (ended : (state.lane side).closed = true ∧ (state.lane side).pending = [] ∧
      (state.lane side).buffered = []) : state.CanFinish policy side := by
  let next := state.setLane side ((state.lane side).finish policy.shutsDown ended)
  have stepped : step policy state (.finish side) = some next := by
    rw [step, dif_pos ended, if_pos runs]
  have patient : state.Patient side (.finish side) := by simp [Patient]
  refine ⟨next, .head patient stepped (.refl _ _ _), ?_⟩
  change ((state.setLane side _).lane side).status = .finished
  rw [setLane_self]
  rfl

/-- A copy that has read everything before the end of its stream can finish. -/
theorem canFinish_of_read (policy : CopyPolicy) {side : Side} {state : Duplex α}
    (runs : (state.lane side).status = .running) (closed : (state.lane side).closed = true)
    (noPending : (state.lane side).pending = []) : state.CanFinish policy side := by
  by_cases noBuffered : (state.lane side).buffered = []
  · exact canFinish_of_delivered policy runs ⟨closed, noPending, noBuffered⟩
  · let count := (state.lane side).buffered.length
    have enough : 0 < count ∧ count ≤ count := ⟨List.length_pos_of_ne_nil noBuffered, le_rfl⟩
    have stepped : step policy state (.deliver side count) =
        some (state.setLane side ((state.lane side).deliver count runs)) := by
      rw [step, dif_pos runs, if_pos enough]
    have patient : state.Patient side (.deliver side count) := by simp [Patient]
    refine .head patient stepped (canFinish_of_delivered policy ?_ ?_)
    · rw [setLane_self]
      exact runs
    · rw [setLane_self]
      exact ⟨closed, noPending, List.drop_length⟩

/-- A copy whose peer has ended its stream can finish. -/
theorem canFinish_of_closed (policy : CopyPolicy) {side : Side} {state : Duplex α}
    (runs : (state.lane side).status = .running) (closed : (state.lane side).closed = true) :
    state.CanFinish policy side := by
  by_cases noPending : (state.lane side).pending = []
  · exact canFinish_of_read policy runs closed noPending
  · let count := (state.lane side).pending.length
    have enough : 0 < count ∧ count ≤ count := ⟨List.length_pos_of_ne_nil noPending, le_rfl⟩
    have stepped : step policy state (.read side count) =
        some (state.setLane side ((state.lane side).read count runs)) := by
      rw [step, dif_pos runs, if_pos enough]
    have patient : state.Patient side (.read side count) := by simp [Patient]
    refine .head patient stepped (canFinish_of_read policy ?_ ?_ ?_)
    · rw [setLane_self]
      exact runs
    · rw [setLane_self]
      exact closed
    · rw [setLane_self]
      exact List.drop_length

/-- A copy whose peer sees the end of the other's stream can finish. -/
theorem SeesEnd.canFinish (policy : CopyPolicy) {side : Side} {state : Duplex α}
    (sees : state.SeesEnd side) (runs : (state.lane side).status = .running) :
    state.CanFinish policy side := by
  cases closed : (state.lane side).closed with
  | true => exact canFinish_of_closed policy runs closed
  | false =>
    have stepped : step policy state (.close side) =
        some (state.setLane side (state.lane side).close) := by rw [step, if_pos closed]
    have patient : state.Patient side (.close side) := by
      refine ⟨fun _ => sees, ?_⟩
      intro copy failing
      contradiction
    refine .head patient stepped (canFinish_of_closed policy ?_ ?_)
    · rw [setLane_self]
      exact runs
    · rw [setLane_self]
      rfl

/-- One copy has finished and the other is left waiting forever: as long as its peer is patient,
it runs. -/
def Hangs (policy : CopyPolicy) (side : Side) (state : Duplex α) : Prop :=
  (state.lane side.other).status = .finished ∧
    ∀ final, Runs.Attains (step policy) (Patient side) state final →
      (final.lane side).status = .running

/-- Where the end of a stream is passed on, no copy is left waiting forever. -/
theorem PassesOnEnd.not_hangs {state : Duplex α} (passes : state.PassesOnEnd)
    (policy : CopyPolicy) (side : Side) : ¬ state.Hangs policy side := by
  intro hangs
  have ⟨finished, forever⟩ := hangs
  have sees := (passes side.other finished).1
  rw [Side.other_other] at sees
  have ⟨final, attains, done⟩ := sees.canFinish policy (forever state (.refl _ _ _))
  have runs := forever final attains
  rw [done] at runs
  contradiction

/-- When finished copies leave the write side of their destination open, a copy whose peer has not
ended its stream when the other copy finishes is left waiting forever. -/
theorem Waits.hangs {policy : CopyPolicy} (leavesOpen : policy.shutsDown = false) {side : Side}
    {state : Duplex α} (finished : (state.lane side.other).status = .finished)
    (waits : state.Waits side) : state.Hangs policy side := by
  refine ⟨finished, ?_⟩
  intro final attains
  have ⟨actions, patient, ran⟩ := attains
  exact (run_waits leavesOpen waits patient ran).1

/-- Two states that agree do so after the same direction of both was replaced by lanes that
agree. -/
theorem Agrees.setLane {state twin : Duplex α} (agrees : state.Agrees twin) {side : Side}
    {lane other : Lane α} (replaced : lane.Agrees other) :
    (state.setLane side lane).Agrees (twin.setLane side other) := by
  intro copy
  cases Side.eq_or_eq_other copy side with
  | inl same =>
    rw [same, setLane_self, setLane_self]
    exact replaced
  | inr opposite =>
    rw [opposite, setLane_other, setLane_other]
    exact agrees side.other

/-- As long as no copy fails, a step under one policy is one under every other, and states that
agree go on to agree. -/
theorem step_agrees (policy other : CopyPolicy) (state twin : Duplex α)
    (action counterpart : DuplexAction α) (next : Duplex α) (agrees : state.Agrees twin)
    (quiet : counterpart = action ∧ ∀ copy, action ≠ .fail copy)
    (stepped : step policy state action = some next) :
    ∃ next', step other twin counterpart = some next' ∧ next.Agrees next' := by
  have ⟨same, noFailure⟩ := quiet
  subst same
  cases counterpart with
  | send side items =>
    have lanes := agrees side
    simp only [step, Option.dite_none_right_eq_some, Option.some.injEq] at stepped
    obtain ⟨isOpen, rfl⟩ := stepped
    have isOpen' : (twin.lane side).closed = false := lanes.closed ▸ isOpen
    refine ⟨twin.setLane side ((twin.lane side).send items isOpen'), dif_pos isOpen', ?_⟩
    apply agrees.setLane
    exact
      { lanes with
        sent := congrArg (· ++ items) lanes.sent
        pending := congrArg (· ++ items) lanes.pending }
  | close side =>
    have lanes := agrees side
    obtain ⟨isOpen, rfl⟩ := Runs.guarded.mp stepped
    have isOpen' : (twin.lane side).closed = false := lanes.closed ▸ isOpen
    refine ⟨twin.setLane side (twin.lane side).close, if_pos isOpen', ?_⟩
    apply agrees.setLane
    exact { lanes with closed := rfl }
  | read side count =>
    have lanes := agrees side
    simp only [step, Option.dite_none_right_eq_some] at stepped
    have ⟨runs, enough⟩ := stepped
    obtain ⟨fits, rfl⟩ := Runs.guarded.mp enough
    have runs' : (twin.lane side).status = .running := lanes.status ▸ runs
    rw [lanes.pending] at fits
    refine ⟨twin.setLane side ((twin.lane side).read count runs'), ?_, ?_⟩
    · rw [step, dif_pos runs', if_pos fits]
    · apply agrees.setLane
      have taken := congrArg (List.take count) lanes.pending
      exact
        { lanes with
          pending := congrArg (List.drop count) lanes.pending
          buffered := congrArg₂ (· ++ ·) lanes.buffered taken }
  | deliver side count =>
    have lanes := agrees side
    simp only [step, Option.dite_none_right_eq_some] at stepped
    have ⟨runs, enough⟩ := stepped
    obtain ⟨fits, rfl⟩ := Runs.guarded.mp enough
    have runs' : (twin.lane side).status = .running := lanes.status ▸ runs
    rw [lanes.buffered] at fits
    refine ⟨twin.setLane side ((twin.lane side).deliver count runs'), ?_, ?_⟩
    · rw [step, dif_pos runs', if_pos fits]
    · apply agrees.setLane
      have taken := congrArg (List.take count) lanes.buffered
      exact
        { lanes with
          buffered := congrArg (List.drop count) lanes.buffered
          delivered := congrArg₂ (· ++ ·) lanes.delivered taken }
  | finish side =>
    have lanes := agrees side
    simp only [step, Option.dite_none_right_eq_some] at stepped
    have ⟨ended, running⟩ := stepped
    obtain ⟨runs, rfl⟩ := Runs.guarded.mp running
    have runs' : (twin.lane side).status = .running := lanes.status ▸ runs
    have ended' := ended
    rw [lanes.closed, lanes.pending, lanes.buffered] at ended'
    refine ⟨twin.setLane side ((twin.lane side).finish other.shutsDown ended'), ?_, ?_⟩
    · rw [step, dif_pos ended', if_pos runs']
    · apply agrees.setLane
      exact { lanes with status := rfl }
  | fail side => exact absurd rfl (noFailure side)

/-- So a run without a failure under one policy is one under every other. -/
theorem run_agrees (policy other : CopyPolicy) {state twin final : Duplex α}
    {actions : List (DuplexAction α)} (agrees : state.Agrees twin)
    (quiet : ∀ action ∈ actions, ∀ copy, action ≠ .fail copy)
    (ran : Runs.run (step policy) state actions = some final) :
    ∃ final', Runs.run (step other) twin actions = some final' ∧ final.Agrees final' := by
  have same : List.Forall₂ (fun action counterpart : DuplexAction α =>
      counterpart = action ∧ ∀ copy, action ≠ .fail copy) actions actions :=
    List.forall₂_same.mpr fun action member => ⟨rfl, quiet action member⟩
  exact Runs.run_simulates (step_agrees policy other) agrees same ran

/-- A copy that has failed stays so. -/
theorem step_failed {policy : CopyPolicy} {side : Side} (state : Duplex α)
    (action : DuplexAction α) (next : Duplex α) (failed : (state.lane side).status = .failed)
    (stepped : step policy state action = some next) : (next.lane side).status = .failed := by
  cases step_effect stepped with
  | moved copy action lane status shutdown closed quiet =>
    cases Side.eq_or_eq_other side copy with
    | inl same => rw [same, setLane_self, status, ← same, failed]
    | inr opposite => rw [opposite, setLane_other, ← opposite, failed]
  | finished copy runs ended =>
    cases Side.eq_or_eq_other side copy with
    | inl same =>
      rw [← same, failed] at runs
      contradiction
    | inr opposite => rw [opposite, setLane_other, ← opposite, failed]
  | failed copy runs =>
    have stays : (state.lane side).fail.status = .failed := by
      change (if (state.lane side).status = .running then CopyStatus.failed
        else (state.lane side).status) = _
      rw [failed]
      rfl
    unfold failCopy
    split
    · exact stays
    · cases Side.eq_or_eq_other side copy with
      | inl same =>
        rw [same, setLane_self, ← same]
        exact stays
      | inr opposite => rw [opposite, setLane_other, ← opposite, failed]

/-- A copy that fails in a run has failed at its end. -/
theorem run_failed {policy : CopyPolicy} {side : Side} {state final : Duplex α}
    {actions : List (DuplexAction α)} (member : .fail side ∈ actions)
    (ran : Runs.run (step policy) state actions = some final) :
    (final.lane side).status = .failed := by
  induction actions generalizing state with
  | nil => contradiction
  | cons action actions ih =>
    rcases Runs.run_cons.mp ran with ⟨next, stepped, later⟩
    cases List.mem_cons.mp member with
    | inl here =>
      subst here
      obtain ⟨runs, rfl⟩ := Runs.guarded.mp stepped
      have failed : ((state.failCopy policy side).lane side).status = .failed := by
        have fails : (state.lane side).fail.status = .failed := if_pos runs
        unfold failCopy
        split
        · exact fails
        · rw [setLane_self]
          exact fails
      exact Runs.run_invariant step_failed failed later
    | inr rest => exact ih rest later

/-- When a run ends with both copies finished, the same run under another policy does. -/
theorem run_finishes (policy other : CopyPolicy) {actions : List (DuplexAction α)}
    {final : Duplex α} (ran : Runs.run (step policy) start actions = some final)
    (finished : ∀ side, (final.lane side).status = .finished) :
    ∃ final', Runs.run (step other) start actions = some final' ∧ final.Agrees final' := by
  have quiet : ∀ action ∈ actions, ∀ copy, action ≠ .fail copy := by
    intro action member copy fails
    subst fails
    have failed := run_failed member ran
    rw [finished copy] at failed
    contradiction
  have same : (start : Duplex α).Agrees start := fun _ => ⟨rfl, rfl, rfl, rfl, rfl, rfl⟩
  exact run_agrees policy other same quiet ran

end Duplex

end TrojanRust.Bytes
