import Mathlib

/-!
# Byte sources

A source hands out the bytes of a stream in chunks whose sizes it chooses, up to the capacity
that each read asks for. A lawful source neither loses nor repeats a byte, so what is read from
it to the end does not depend on the capacities or on the sizes of the chunks.
-/

namespace TrojanRust.Bytes

variable {σ ι : Type}

/-- Reading from a state, and the bytes that the state still holds. -/
structure Source (σ ι : Type) where
  /-- Read up to a capacity: a chunk, or the reason why there is none. -/
  read : σ → Nat → Except ι (List UInt8) × σ
  /-- The bytes that have not been read. -/
  remaining : σ → List UInt8
  /-- What is reported when all bytes have been read: nothing at a regular end. -/
  ending : σ → Option ι

namespace Source

/-- What every read of a source that behaves like a stream does. -/
structure Lawful (source : Source σ ι) : Prop where
  /-- A chunk is taken off the front, and is no longer than asked for. -/
  chunk : ∀ {state capacity bytes next}, source.read state capacity = (.ok bytes, next) →
    source.remaining state = bytes ++ source.remaining next ∧ bytes.length ≤ capacity ∧
      source.ending next = source.ending state
  /-- A read that asks for bytes gets some while there are any. -/
  progress : ∀ {state capacity}, 0 < capacity → source.remaining state ≠ [] →
    ∃ bytes next, bytes ≠ [] ∧ source.read state capacity = (.ok bytes, next)
  /-- When there are none, the read reports how the stream ended. -/
  ended : ∀ {state capacity}, 0 < capacity → source.remaining state = [] →
    (source.read state capacity).1 =
      match source.ending state with
      | none => .ok []
      | some reason => .error reason

/-- Read until an empty chunk, asking for bytes each time. -/
inductive ReadsToEnd (source : Source σ ι) : σ → List UInt8 → Prop
  | stop {state next : σ} {capacity : Nat} (positive : 0 < capacity)
      (empty : source.read state capacity = (.ok [], next)) : ReadsToEnd source state []
  | chunk {state next : σ} {capacity : Nat} {bytes more : List UInt8} (positive : 0 < capacity)
      (nonempty : bytes ≠ []) (read : source.read state capacity = (.ok bytes, next))
      (later : ReadsToEnd source next more) : ReadsToEnd source state (bytes ++ more)

/-- Whatever the capacities are, reading to the end gives the bytes that the source held. -/
theorem ReadsToEnd.eq_remaining {source : Source σ ι} (lawful : source.Lawful) {state : σ}
    {bytes : List UInt8} (reads : source.ReadsToEnd state bytes) :
    bytes = source.remaining state := by
  induction reads with
  | stop positive empty =>
    by_contra more
    have ⟨bytes, next, nonempty, read⟩ := lawful.progress positive (Ne.symm more)
    rw [empty] at read
    simp only [Prod.mk.injEq, Except.ok.injEq] at read
    exact nonempty read.1.symm
  | chunk positive nonempty read later ih => rw [ih, (lawful.chunk read).1]

/-- A source that ends regularly can be read to the end with any capacity. -/
theorem exists_readsToEnd {source : Source σ ι} (lawful : source.Lawful) (capacity : Nat)
    (positive : 0 < capacity) (state : σ) (regular : source.ending state = none) :
    source.ReadsToEnd state (source.remaining state) := by
  by_cases empty : source.remaining state = []
  · have ended := lawful.ended positive empty
    simp only [regular] at ended
    rw [empty]
    exact .stop positive (Prod.ext ended rfl)
  · have ⟨bytes, next, nonempty, read⟩ := lawful.progress positive empty
    have ⟨split, _, kept⟩ := lawful.chunk read
    have shorter : (source.remaining next).length < (source.remaining state).length := by
      have some := List.length_pos_of_ne_nil nonempty
      rw [split, List.length_append]
      omega
    have later := exists_readsToEnd lawful capacity positive next (kept.trans regular)
    rw [split]
    exact .chunk positive nonempty read later
  termination_by (source.remaining state).length

/-- What is read to the end of a source that ends regularly is exactly what it holds. -/
theorem readsToEnd_iff {source : Source σ ι} (lawful : source.Lawful) {state : σ}
    (regular : source.ending state = none) (bytes : List UInt8) :
    source.ReadsToEnd state bytes ↔ bytes = source.remaining state := by
  constructor
  · exact fun reads => reads.eq_remaining lawful
  · intro same
    rw [same]
    exact exists_readsToEnd lawful 1 Nat.one_pos state regular

end Source

end TrojanRust.Bytes
