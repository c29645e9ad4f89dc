import Mathlib

/-!
# Readers of a text

A reader takes a value off the front of a text or fails. Two facts say how it behaves inside of a
longer text: what it leaves is the end of what it was given, and a text that is followed by a
symbol it never takes is read as it is alone. The combinators keep both.
-/

namespace TrojanRust.Bytes

/-- A reader of texts of these symbols. -/
abbrev TextReader (τ : Type) := StateT (List τ) Option

namespace TextReader

variable {τ α β : Type} {stop : τ}

/-- A reader that leaves the end of its text, and stops in front of this symbol. -/
structure StopsAt (stop : τ) (reader : TextReader τ α) : Prop where
  ends : ∀ {text rest : List τ} {value : α}, reader text = some (value, rest) → rest <:+ text
  alone : ∀ text rest : List τ, reader (text ++ stop :: rest) =
    (reader text).map fun read => (read.1, read.2 ++ stop :: rest)

/-- A sequence returns a value when its first reader returns one from which the second goes on. -/
theorem bind_eq_some {reader : TextReader τ α} {next : α → TextReader τ β} {text rest : List τ}
    {value : β} : (reader >>= next) text = some (value, rest) ↔
      ∃ middle after, reader text = some (middle, after) ∧
        next middle after = some (value, rest) := by
  show (reader text).bind _ = _ ↔ _
  cases reader text with
  | none => simp
  | some read =>
    rcases read with ⟨middle, after⟩
    simp

/-- A sequence whose first reader returns a value goes on with it. -/
theorem bind_of_some {reader : TextReader τ α} {text after : List τ} {middle : α}
    (read : reader text = some (middle, after)) (next : α → TextReader τ β) :
    (reader >>= next) text = next middle after := by
  show (reader text).bind _ = _
  rw [read]
  rfl

/-- A sequence whose first reader fails is a failure. -/
theorem bind_of_none {reader : TextReader τ α} {text : List τ} (read : reader text = none)
    (next : α → TextReader τ β) : (reader >>= next) text = none := by
  show (reader text).bind _ = _
  rw [read]
  rfl

/-- The first of two readers is preferred. -/
theorem orElse_of_some {left right : TextReader τ α} {text rest : List τ} {value : α}
    (read : left text = some (value, rest)) : (left <|> right) text = some (value, rest) := by
  show (left text <|> right text) = _
  rw [read]
  rfl

/-- The second of two readers reads when the first one fails. -/
theorem orElse_of_none {left right : TextReader τ α} {text : List τ} (read : left text = none) :
    (left <|> right) text = right text := by
  show (left text <|> right text) = _
  rw [read]
  rfl

/-- Read the whole of a text. -/
def whole (reader : TextReader τ α) (text : List τ) : Option α :=
  match reader text with
  | some (value, []) => some value
  | _ => none

/-- Nothing of a text that is read as a whole is left. -/
theorem whole_eq_some {reader : TextReader τ α} {text : List τ} {value : α} :
    whole reader text = some value ↔ reader text = some (value, []) := by
  unfold whole
  split
  · rename_i found read
    simp [read]
  · rename_i unread
    constructor
    · intro found
      contradiction
    · intro read
      exact absurd read (unread value)

namespace StopsAt

/-- Nothing is taken by a value. -/
theorem pure (value : α) : StopsAt stop (Pure.pure value : TextReader τ α) where
  ends := by
    intro text rest found read
    cases read
    exact List.suffix_rfl
  alone text rest := rfl

/-- Nothing is taken by a failure. -/
theorem failure : StopsAt stop (Alternative.failure : TextReader τ α) where
  ends := by
    intro text rest found read
    contradiction
  alone text rest := rfl

/-- A sequence stops where its parts do. -/
theorem bind {reader : TextReader τ α} {next : α → TextReader τ β} (first : StopsAt stop reader)
    (second : ∀ value, StopsAt stop (next value)) : StopsAt stop (reader >>= next) where
  ends := by
    intro text rest value read
    have ⟨middle, after, taken, later⟩ := bind_eq_some.mp read
    exact ((second middle).ends later).trans (first.ends taken)
  alone := by
    intro text rest
    have here := first.alone text rest
    cases read : reader text with
    | none =>
      rw [read] at here
      rw [bind_of_none read, bind_of_none here]
      rfl
    | some found =>
      rw [read] at here
      rw [bind_of_some read, bind_of_some here]
      exact (second found.1).alone found.2 rest

/-- A reader that was chosen stops where each of the two does. -/
theorem ite {condition : Prop} [Decidable condition] {left right : TextReader τ α}
    (first : StopsAt stop left) (second : StopsAt stop right) :
    StopsAt stop (if condition then left else right) := by
  split
  · exact first
  · exact second

/-- A reader that cannot fail stops where its function does. -/
theorem total {read : List τ → α × List τ} (ends : ∀ text, (read text).2 <:+ text)
    (alone : ∀ text rest, read (text ++ stop :: rest) =
      ((read text).1, (read text).2 ++ stop :: rest)) :
    StopsAt stop (fun text => some (read text) : TextReader τ α) where
  ends := by
    intro text rest value found
    have same : rest = (read text).2 := by
      rw [Option.some.inj found]
    rw [same]
    exact ends text
  alone := by
    intro text rest
    show some (read (text ++ stop :: rest)) = some _
    rw [alone]

variable {reader : TextReader τ α}

/-- A text that is read as a whole is also read in front of the symbol. -/
theorem before (stops : StopsAt stop reader) {text : List τ} {value : α}
    (whole : reader text = some (value, [])) (rest : List τ) :
    reader (text ++ stop :: rest) = some (value, stop :: rest) := by
  rw [stops.alone, whole]
  rfl

/-- When the symbol is what comes next, what was taken is read as a whole. -/
theorem taken (stops : StopsAt stop reader) {text rest : List τ} {value : α}
    (read : reader text = some (value, stop :: rest)) :
    ∃ front, text = front ++ stop :: rest ∧ reader front = some (value, []) := by
  rcases stops.ends read with ⟨front, rfl⟩
  refine ⟨front, rfl, ?_⟩
  rw [stops.alone] at read
  have ⟨found, tried, same⟩ := Option.map_eq_some_iff.mp read
  simp only [Prod.mk.injEq] at same
  have nothing : found.2 = [] := by
    have length := congrArg List.length same.2
    rw [List.length_append] at length
    exact List.eq_nil_of_length_eq_zero (by omega)
  rw [tried, ← same.1, ← nothing]

/-- The symbol is in no text that is read as a whole. -/
theorem not_mem (stops : StopsAt stop reader) {text : List τ} {value : α}
    (whole : reader text = some (value, [])) : stop ∉ text := by
  intro member
  have ⟨front, rest, split⟩ := List.append_of_mem member
  rw [split, stops.alone] at whole
  have ⟨found, _, same⟩ := Option.map_eq_some_iff.mp whole
  simp at same

end StopsAt

end TextReader

end TrojanRust.Bytes
