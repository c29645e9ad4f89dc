import TrojanRust.Bytes.Reader

/-!
# Streams of frames

A frame reader returns an item, or nothing when its stream ended between two items. `drain`
calls it until one of the two other outcomes: the regular end, or a failure. A stream that is a
concatenation of spelled items is drained item by item, and a cut anywhere in it loses exactly
the items that the cut does not leave whole.
-/

namespace TrojanRust.Bytes

namespace Reader

variable {ι ε α γ : Type}

/-- What is left of a stream is a suffix of it. -/
theorem run_rest_suffix (stop : ι) (reader : Reader ι ε α) (bytes : List UInt8) :
    (reader.run stop bytes).2 <:+ bytes := by
  induction reader generalizing bytes with
  | done result => exact List.suffix_rfl
  | readExact count resume ih =>
    by_cases fits : count ≤ bytes.length
    · simp only [run, dif_pos fits]
      exact (ih _ _).trans (List.drop_suffix count bytes)
    · simp only [run, dif_neg fits]
      exact (ih _ _).trans List.nil_suffix

/-- Every item takes at least one byte out of the stream. -/
def Consuming (reader : Reader ι ε (Option α)) : Prop :=
  ∀ stop bytes item rest, reader.run stop bytes = (.ok (some item), rest) →
    rest.length < bytes.length

/-- Read items until the stream ends between two of them or the reader fails. -/
def drain (reader : Reader ι ε (Option α)) (consuming : reader.Consuming) (stop : ι)
    (bytes : List UInt8) : List α × Except ε Unit :=
  match _outcome : reader.run stop bytes with
  | (.ok (some item), rest) =>
    let later := drain reader consuming stop rest
    (item :: later.1, later.2)
  | (.ok none, _) => ([], .ok ())
  | (.error failure, _) => ([], .error failure)
  termination_by bytes.length
  decreasing_by exact consuming stop bytes item rest _outcome

/-- An item that was read comes before the items of the rest. -/
theorem drain_item {reader : Reader ι ε (Option α)} (consuming : reader.Consuming) {stop : ι}
    {bytes rest : List UInt8} {item : α}
    (read : reader.run stop bytes = (.ok (some item), rest)) :
    reader.drain consuming stop bytes =
      (item :: (reader.drain consuming stop rest).1, (reader.drain consuming stop rest).2) := by
  rw [drain]
  split
  · rename_i found left outcome
    rw [read] at outcome
    simp only [Prod.mk.injEq, Except.ok.injEq, Option.some.injEq] at outcome
    obtain ⟨rfl, rfl⟩ := outcome
    rfl
  · rename_i outcome
    simp [read] at outcome
  · rename_i outcome
    simp [read] at outcome

/-- The regular end gives no further item. -/
theorem drain_closed {reader : Reader ι ε (Option α)} (consuming : reader.Consuming) {stop : ι}
    {bytes rest : List UInt8} (closed : reader.run stop bytes = (.ok none, rest)) :
    reader.drain consuming stop bytes = ([], .ok ()) := by
  rw [drain]
  split <;> simp_all

/-- A failure gives no further item. -/
theorem drain_failed {reader : Reader ι ε (Option α)} (consuming : reader.Consuming) {stop : ι}
    {bytes rest : List UInt8} {failure : ε}
    (failed : reader.run stop bytes = (.error failure, rest)) :
    reader.drain consuming stop bytes = ([], .error failure) := by
  rw [drain]
  split <;> simp_all

/-- A family of items, each with the bytes that spell it to a frame reader. On a stream that
stops for `stop` the reader ends regularly between items, and fails inside one. -/
structure Framing (reader : Reader ι ε (Option α)) (stop : ι) (failure : ε) (item : γ → α)
    (wire : γ → List UInt8) : Prop where
  consuming : reader.Consuming
  /-- Every item is read from its bytes. -/
  spelled : ∀ frame, reader.Reads (wire frame) (some (item frame))
  /-- The stream may end before an item. -/
  ended : (reader.run stop []).1 = .ok none
  /-- The stream must not end inside an item. -/
  torn : ∀ frame part, part <+: wire frame → part ≠ wire frame → part ≠ [] →
    (reader.run stop part).1 = .error failure

namespace Framing

variable {reader : Reader ι ε (Option α)} {stop : ι} {failure : ε} {item : γ → α}
  {wire : γ → List UInt8}

/-- An item at the front of a stream comes before the items of the rest. -/
theorem drain_cons (framing : Framing reader stop failure item wire) (frame : γ)
    (rest : List UInt8) :
    reader.drain framing.consuming stop (wire frame ++ rest) =
      (item frame :: (reader.drain framing.consuming stop rest).1,
        (reader.drain framing.consuming stop rest).2) :=
  drain_item _ ((framing.spelled frame).run stop rest)

/-- An exhausted stream holds no item and has ended regularly. -/
theorem drain_nil (framing : Framing reader stop failure item wire) :
    reader.drain framing.consuming stop [] = ([], .ok ()) := by
  have closed : reader.run stop [] = (.ok none, (reader.run stop []).2) := by
    rw [← framing.ended]
  exact drain_closed _ closed

/-- A stream that ends inside its first item holds no item and has failed. -/
theorem drain_torn (framing : Framing reader stop failure item wire) {frame : γ}
    {part : List UInt8} (front : part <+: wire frame) (proper : part ≠ wire frame)
    (nonempty : part ≠ []) :
    reader.drain framing.consuming stop part = ([], .error failure) := by
  have failed : reader.run stop part = (.error failure, (reader.run stop part).2) := by
    rw [← framing.torn frame part front proper nonempty]
  exact drain_failed _ failed

/-- A stream cut inside its first item holds no item, and has failed unless nothing is left. -/
theorem drain_cut (framing : Framing reader stop failure item wire) (frame : γ)
    (rest : List UInt8) {cut : Nat} (inside : cut < (wire frame).length) :
    reader.drain framing.consuming stop ((wire frame ++ rest).take cut) =
      ([], if 0 = cut then .ok () else .error failure) := by
  rw [List.take_append_of_le_length (by omega)]
  by_cases zero : 0 = cut
  · rw [← zero, List.take_zero, framing.drain_nil, if_pos rfl]
  · have short : ((wire frame).take cut).length = cut := by
      rw [List.length_take]
      omega
    have proper : (wire frame).take cut ≠ wire frame := by
      intro same
      rw [same] at short
      omega
    have nonempty : (wire frame).take cut ≠ [] := by
      intro empty
      rw [empty] at short
      exact zero short
    rw [framing.drain_torn (List.take_prefix _ _) proper nonempty, if_neg zero]

/-- Frame `i` lies wholly in the first `cut` bytes of the stream of these frames. -/
def Within (wire : γ → List UInt8) (frames : List γ) (cut i : Nat) : Prop :=
  ((frames.take (i + 1)).flatMap wire).length ≤ cut

/-- A stream of frames cut after any number of bytes is drained to exactly the items that lie
wholly before the cut. It ends regularly when the cut falls between two items and fails when it
falls inside one. -/
theorem drain_take (framing : Framing reader stop failure item wire) (frames : List γ)
    (cut : Nat) (inside : cut ≤ (frames.flatMap wire).length) :
    ∃ count ≤ frames.length, (∀ i < frames.length, i < count ↔ Within wire frames cut i) ∧
      reader.drain framing.consuming stop ((frames.flatMap wire).take cut) =
        ((frames.take count).map item,
          if ((frames.take count).flatMap wire).length = cut then .ok ()
          else .error failure) := by
  induction frames generalizing cut with
  | nil =>
    have zero : cut = 0 := by simpa using inside
    refine ⟨0, Nat.le_refl 0, by simp, ?_⟩
    simp [zero, framing.drain_nil]
  | cons frame frames ih =>
    rw [List.flatMap_cons]
    rw [List.flatMap_cons, List.length_append] at inside
    by_cases whole : (wire frame).length ≤ cut
    · have ⟨count, bounded, within, drained⟩ := ih (cut - (wire frame).length) (by omega)
      refine ⟨count + 1, by simpa using bounded, ?_, ?_⟩
      · intro i bound
        cases i with
        | zero => simp [Within, whole]
        | succ i =>
          have later := within i (by simpa using bound)
          simp only [Within, List.take_succ_cons, List.flatMap_cons, List.length_append] at *
          omega
      · have split : (wire frame ++ frames.flatMap wire).take cut =
            wire frame ++ (frames.flatMap wire).take (cut - (wire frame).length) := by
          rw [List.take_append, List.take_of_length_le whole]
        have boundary : ((frames.take count).flatMap wire).length = cut - (wire frame).length ↔
            (((frame :: frames).take (count + 1)).flatMap wire).length = cut := by
          rw [List.take_succ_cons, List.flatMap_cons, List.length_append]
          omega
        rw [split, framing.drain_cons, drained, List.take_succ_cons, List.map_cons]
        simp only [boundary, List.take_succ_cons]
    · refine ⟨0, Nat.zero_le _, ?_, ?_⟩
      · intro i bound
        simp only [Within, List.take_succ_cons, List.flatMap_cons, List.length_append]
        omega
      · rw [framing.drain_cut frame _ (by omega)]
        rfl

end Framing

end Reader

end TrojanRust.Bytes
