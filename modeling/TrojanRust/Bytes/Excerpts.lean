import TrojanRust.Bytes.Frames

/-!
# Interrupted readings of a stream

A reader that is dropped while it waits loses what it has taken, and the next one starts behind
that, maybe in the middle of an item. What several readers take of one stream is then an excerpt
of it: items in order, each from a stretch of its own, and a lost stretch for each reader that was
dropped.
-/

namespace TrojanRust.Bytes.Reader

variable {ι ε α : Type}

/-- The bytes are cut into the spellings of these items, in order, and this many stretches between
them that were lost with a reader that still waited. -/
inductive Excerpted (reader : Reader ι ε (Option α)) : List UInt8 → List α → Nat → Prop
  | start : Excerpted reader [] [] 0
  | takes {bytes : List UInt8} {items : List α} {lost : Nat}
      (before : Excerpted reader bytes items lost) (wire : List UInt8) (item : α)
      (reads : reader.Reads wire (some item)) :
    Excerpted reader (bytes ++ wire) (items ++ [item]) lost
  | loses {bytes : List UInt8} {items : List α} {lost : Nat}
      (before : Excerpted reader bytes items lost) (part held : List UInt8)
      (waiting : Reader ι ε (Option α)) (waits : reader.feed part = .pending waiting held) :
    Excerpted reader (bytes ++ part) items (lost + 1)

/-- An excerpt that has lost nothing is what the stream is drained to. -/
theorem Excerpted.drain {reader : Reader ι ε (Option α)} (consuming : reader.Consuming) (stop : ι)
    {bytes : List UInt8} {items : List α} {lost : Nat}
    (excerpted : reader.Excerpted bytes items lost) (nothing : lost = 0) (rest : List UInt8) :
    reader.drain consuming stop (bytes ++ rest) =
      (items ++ (reader.drain consuming stop rest).1, (reader.drain consuming stop rest).2) := by
  induction excerpted generalizing rest with
  | start => rfl
  | takes before wire item reads ih =>
    have last := drain_item consuming (reads.run stop rest)
    rw [List.append_assoc, ih nothing, last, List.append_assoc]
    rfl
  | loses before part held waiting waits ih => contradiction

end TrojanRust.Bytes.Reader
