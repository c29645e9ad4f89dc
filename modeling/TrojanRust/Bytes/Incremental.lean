import Mathlib

/-!
# Verdicts on growing buffers

A parser is called again on a buffer each time the buffer has grown, and answers with a verdict
or asks for more. When a verdict does not change under any continuation, the answers along every
run of growing buffers are a number of requests for more, followed by one constant verdict.
-/

namespace TrojanRust.Bytes

variable {α β : Type}

/-- An answer that does not ask for more is the answer on every longer buffer. -/
def Final (answer : List α → β) (asksForMore : β → Prop) : Prop :=
  ∀ buf more, ¬ asksForMore (answer buf) → answer (buf ++ more) = answer buf

/-- Every buffer of the run begins the next one. -/
def Grows (buffers : Nat → List α) : Prop := ∀ i, buffers i <+: buffers (i + 1)

/-- The answers along the run all ask for more, or do so up to some buffer and are constant from
that buffer on. -/
def SettlesAlong (answer : List α → β) (asksForMore : β → Prop) (buffers : Nat → List α) :
    Prop :=
  (∀ i, asksForMore (answer (buffers i))) ∨
    ∃ decided, (∀ i, i < decided → asksForMore (answer (buffers i))) ∧
      ¬ asksForMore (answer (buffers decided)) ∧
      ∀ i, decided ≤ i → answer (buffers i) = answer (buffers decided)

/-- An earlier buffer begins every later one. -/
theorem Grows.earlier {buffers : Nat → List α} (grows : Grows buffers) {first later : Nat}
    (order : first ≤ later) : buffers first <+: buffers later := by
  induction order with
  | refl => exact List.prefix_rfl
  | step order ih => exact ih.trans (grows _)

/-- Final verdicts settle along every run of growing buffers. -/
theorem Final.settlesAlong {answer : List α → β} {asksForMore : β → Prop}
    (final : Final answer asksForMore) {buffers : Nat → List α} (grows : Grows buffers) :
    SettlesAlong answer asksForMore buffers := by
  by_cases waits : ∀ i, asksForMore (answer (buffers i))
  · exact .inl waits
  · have decides : ∃ i, ¬ asksForMore (answer (buffers i)) := not_forall.mp waits
    -- The first buffer that is decided.
    obtain ⟨decided, isDecided, first⟩ : ∃ decided, ¬ asksForMore (answer (buffers decided)) ∧
        ∀ i, i < decided → asksForMore (answer (buffers i)) := by
      classical
      exact ⟨Nat.find decides, Nat.find_spec decides,
        fun i earlier => not_not.mp (Nat.find_min decides earlier)⟩
    refine .inr ⟨decided, first, isDecided, ?_⟩
    intro i order
    have ⟨more, longer⟩ := grows.earlier order
    rw [← longer]
    exact final _ more isDecided

end TrojanRust.Bytes
