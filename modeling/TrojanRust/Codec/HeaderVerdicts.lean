import TrojanRust.Bytes.Incremental
import TrojanRust.Codec.HeaderLaws

/-!
# Verdicts of the buffered parsers

Neither parser changes its verdict when the buffer grows, and neither panics on any buffer. A
length that is reported is inside the buffer, and the bytes up to it decide alone.
-/

namespace TrojanRust

open TrojanRust.Bytes

namespace Address

/-- The parser asks for more when it reports no length. -/
def AsksForMore (answer : Result (Address × Option Nat)) : Prop :=
  ∃ address, answer = .ok (address, none)

/-- The verdict on an address is final. -/
theorem parseFromBuf_final : Final parseFromBuf AsksForMore := by
  intro buf more answered
  apply parseFromBuf_append
  intro short
  exact answered ⟨_, parseFromBuf_short short⟩

/-- A reported length is inside the buffer, and the bytes up to it decide. -/
theorem parseFromBuf_take {buf : List UInt8} {address : Address} {n : Nat}
    (accepted : parseFromBuf buf = .ok (address, some n)) :
    n ≤ buf.length ∧ ∀ other : List UInt8, other.take n = buf.take n →
      parseFromBuf other = .ok (address, some n) := by
  obtain ⟨wire, rest, rfl, rfl, spells⟩ := (parseFromBuf_eq_some _ _ _).mp accepted
  refine ⟨by simp, ?_⟩
  intro other same
  rw [List.take_left' rfl] at same
  rw [← List.take_append_drop wire.length other, same]
  exact parseFromBuf_complete spells _

/-- Parsing an address never panics. -/
theorem parseFromBuf_ne_panic (buf : List UInt8) : parseFromBuf buf ≠ .error .panic := by
  cases shape buf with
  | complete address wire rest spells => simp [parseFromBuf_complete spells]
  | badName len name port rest sized invalid =>
    simp [parseFromBuf_badName len name port rest sized invalid]
  | badType kind payload notIpv4 notDomain notIpv6 =>
    simp [parseFromBuf_badType kind payload notIpv4 notDomain notIpv6]
  | short buf short => simp [parseFromBuf_short short]

end Address

namespace Header

/-- The verdict on a header is final. -/
theorem tryParseFromBuf_final : Final tryParseFromBuf (· = .ok none) := by
  intro buf more answered
  cases verdict : tryParseFromBuf buf with
  | error fault => exact tryParseFromBuf_error_append verdict more
  | ok accepted =>
    cases accepted with
    | none => exact absurd verdict answered
    | some header => exact tryParseFromBuf_some_append verdict more

/-- More bytes do not move the end of an accepted header. -/
theorem computeHeaderEnd_append {buf : List UInt8} {header : Header}
    (accepted : tryParseFromBuf buf = .ok (some header)) (more : List UInt8) :
    computeHeaderEnd header (buf ++ more) = computeHeaderEnd header buf := by
  obtain ⟨wire, rest, rfl, spells⟩ := (tryParseFromBuf_eq_some _ _).mp accepted
  rw [List.append_assoc, computeHeaderEnd_complete spells, computeHeaderEnd_complete spells]

/-- A verdict of either buffered parser is final: an acceptance, with the same end of the header
or the same length of the address, and a refusal, with the same error, are the verdict on every
longer buffer. Along every run of growing buffers the parser asks for more a number of times, or
forever, and then stays at one verdict. -/
theorem verdicts_final :
    ((∀ buf more header, tryParseFromBuf buf = .ok (some header) →
        tryParseFromBuf (buf ++ more) = .ok (some header) ∧
          computeHeaderEnd header (buf ++ more) = computeHeaderEnd header buf) ∧
      (∀ buf more fault, tryParseFromBuf buf = .error fault →
        tryParseFromBuf (buf ++ more) = .error fault) ∧
      ∀ buffers, Grows buffers → SettlesAlong tryParseFromBuf (· = .ok none) buffers) ∧
    (∀ buf more address n, Address.parseFromBuf buf = .ok (address, some n) →
        Address.parseFromBuf (buf ++ more) = .ok (address, some n)) ∧
      (∀ buf more fault, Address.parseFromBuf buf = .error fault →
        Address.parseFromBuf (buf ++ more) = .error fault) ∧
      ∀ buffers, Grows buffers →
        SettlesAlong Address.parseFromBuf Address.AsksForMore buffers := by
  refine ⟨⟨?_, ?_, ?_⟩, ?_, ?_, ?_⟩
  · intro buf more header accepted
    exact ⟨tryParseFromBuf_some_append accepted more, computeHeaderEnd_append accepted more⟩
  · intro buf more fault refused
    exact tryParseFromBuf_error_append refused more
  · intro buffers grows
    exact tryParseFromBuf_final.settlesAlong grows
  · intro buf more address n accepted
    have answered : ¬ Address.AsksForMore (Address.parseFromBuf buf) := by
      simp [Address.AsksForMore, accepted]
    rw [Address.parseFromBuf_final buf more answered, accepted]
  · intro buf more fault refused
    have answered : ¬ Address.AsksForMore (Address.parseFromBuf buf) := by
      simp [Address.AsksForMore, refused]
    rw [Address.parseFromBuf_final buf more answered, refused]
  · intro buffers grows
    exact Address.parseFromBuf_final.settlesAlong grows

/-- What the header parser fails with is an error. -/
theorem error_of_fault {buf : List UInt8} {fault : Fault}
    (failed : tryParseFromBuf buf = .error fault) : ∃ error, fault = .err error := by
  have refused := (tryParseFromBuf_eq_error buf fault).mp failed
  have ⟨error, _, same, _⟩ := readFrom_refuses .unexpectedEof refused
  exact ⟨error, same⟩

/-- Parsing a header never panics. -/
theorem tryParseFromBuf_ne_panic (buf : List UInt8) : tryParseFromBuf buf ≠ .error .panic := by
  intro panicked
  have ⟨error, same⟩ := error_of_fault panicked
  contradiction

/-- The end of an accepted header is computed from the length of its address, it is inside the
buffer, and the bytes up to it decide. -/
theorem computeHeaderEnd_take {buf : List UInt8} {header : Header}
    (accepted : tryParseFromBuf buf = .ok (some header)) :
    ∃ n addrLen, computeHeaderEnd header buf = .ok n ∧ 59 < buf.length ∧
      Address.parseFromBuf (buf.drop 59) = .ok (header.address, some addrLen) ∧
      n = 59 + addrLen + 2 ∧ n ≤ buf.length ∧
      ∀ other : List UInt8, other.take n = buf.take n →
        tryParseFromBuf other = .ok (some header) ∧ computeHeaderEnd header other = .ok n := by
  obtain ⟨wire, rest, rfl, spells⟩ := (tryParseFromBuf_eq_some _ _).mp accepted
  have computed := computeHeaderEnd_complete spells header rest
  have whole := spells
  have ⟨target, hex, address, written⟩ := spells
  have size : wire.length = 59 + target.length + 2 := by
    rw [written, commandLine_length, List.length_append, Vector.length_toList]
    omega
  have after : (wire ++ rest).drop 59 = target ++ (crlf.toList ++ rest) := by
    rw [written, commandLine_append, commandLine_eq_append, List.append_assoc,
      List.drop_left' (by simp)]
  refine ⟨wire.length, target.length, computed, ?_, ?_, size, by simp, ?_⟩
  · rw [List.length_append]
    omega
  · rw [after]
    exact Address.parseFromBuf_complete address _
  · intro other same
    rw [List.take_left' rfl] at same
    rw [← List.take_append_drop wire.length other, same]
    exact ⟨tryParseFromBuf_complete whole _, computeHeaderEnd_complete whole header _⟩

end Header

end TrojanRust
