import TrojanRust.Codec.Vision

/-!
# The time window of Vision requests

The time test reinterprets the clock and the timestamp as signed words, subtracts and takes the
absolute value. On timestamps below half their range nothing overflows and the window is 300
seconds to either side. From half the range on the timestamp counts as negative; the difference
then overflows when it is 2^63 seconds or more, and at exactly 2^63 seconds a build that wraps
around lets the request through.
-/

namespace TrojanRust

namespace VisionAuthRequest

/-- The time test computes over the integers: both words keep their value as signed words,
the difference and its absolute value are computed exactly, and what is let through is what is
at most 300 seconds away. -/
structure ExactTimeTest (profile : BuildProfile) (currentTime timestamp : UInt64) : Prop where
  current : asI64 currentTime = currentTime.toNat
  stamped : asI64 timestamp = timestamp.toNat
  difference : i64Result profile (asI64 currentTime - asI64 timestamp) =
    .ok (asI64 currentTime - asI64 timestamp)
  distance : i64Result profile |asI64 currentTime - asI64 timestamp| =
    .ok |asI64 currentTime - asI64 timestamp|
  verdict : LetsThrough profile currentTime timestamp ↔
    |(currentTime.toNat : Int) - timestamp.toNat| ≤ 300

/-- Words from half their range on are negative as signed words. -/
theorem asI64_of_le {value : UInt64} (large : 2 ^ 63 ≤ value.toNat) :
    asI64 value = value.toNat - 2 ^ 64 := if_neg (by omega)

/-- A request is let through when the age is known and at most 300 seconds. -/
theorem letsThrough_of_age {profile : BuildProfile} {currentTime timestamp : UInt64} {age : Int}
    (known : timestampAge profile currentTime timestamp = .ok age) :
    LetsThrough profile currentTime timestamp ↔ age ≤ 300 := by
  simp [LetsThrough, known]

/-- For clocks below half their range, the time test is exact on the timestamps below half their
range and on no other. -/
theorem exactTimeTest_iff (profile : BuildProfile) (currentTime timestamp : UInt64)
    (current : currentTime.toNat < 2 ^ 63) :
    ExactTimeTest profile currentTime timestamp ↔ timestamp.toNat < 2 ^ 63 := by
  constructor
  · intro exact
    have same := exact.stamped
    by_contra large
    rw [asI64_of_le (by omega)] at same
    omega
  · intro stamped
    have known := timestampAge_of_lt profile current stamped
    rw [Int.natCast_natAbs] at known
    have signedCurrent := asI64_of_lt current
    have signedStamp := asI64_of_lt stamped
    have difference : -2 ^ 63 ≤ asI64 currentTime - asI64 timestamp ∧
        asI64 currentTime - asI64 timestamp < 2 ^ 63 := by omega
    have distance : -2 ^ 63 ≤ |asI64 currentTime - asI64 timestamp| ∧
        |asI64 currentTime - asI64 timestamp| < 2 ^ 63 := by
      have positive := abs_nonneg (asI64 currentTime - asI64 timestamp)
      have bound := abs_lt.mpr ⟨by omega, difference.2⟩
      omega
    exact
      { current := signedCurrent
        stamped := signedStamp
        difference := i64Result_of_fits profile difference
        distance := i64Result_of_fits profile distance
        verdict := letsThrough_of_age known }

/-- A current request passes the exact test in a build that checks for overflow. -/
theorem exactTimeTest_current : ExactTimeTest .debug 1700000000 1700000300 :=
  (exactTimeTest_iff .debug 1700000000 1700000300 (by decide)).mpr (by decide)

/-- A result from half the range of a word on wraps around once. -/
theorem i64Result_release_of_le {exact : Int} (large : 2 ^ 63 ≤ exact)
    (word : exact < 2 ^ 64) : i64Result .release exact = .ok (exact - 2 ^ 64) := by
  have wraps : ¬ (-2 ^ 63 ≤ exact ∧ exact < 2 ^ 63) := by omega
  have wrapped : Int.bmod exact (2 ^ 64) = exact - 2 ^ 64 := by
    rw [Int.bmod_eq_emod]
    split
    · omega
    · omega
  rw [i64Result, if_neg wraps, wrapped]

/-- A timestamp from half the range on panics a build that checks for overflow, when the clock
and it are 2^63 seconds or more apart as signed words. -/
theorem timestampAge_debug_of_le {currentTime timestamp : UInt64}
    (current : currentTime.toNat < 2 ^ 63) (large : 2 ^ 63 ≤ timestamp.toNat)
    (far : 2 ^ 63 ≤ currentTime.toNat + 2 ^ 64 - timestamp.toNat) :
    timestampAge .debug currentTime timestamp = .error .panic := by
  have overflows : ¬ (-2 ^ 63 ≤ asI64 currentTime - asI64 timestamp ∧
      asI64 currentTime - asI64 timestamp < 2 ^ 63) := by
    rw [asI64_of_lt current, asI64_of_le large]
    omega
  rw [timestampAge, i64Result, if_neg overflows]
  rfl

/-- A build that wraps around lets a timestamp from half the range on through when it is close
to the clock as a signed word, when it is exactly 2^63 seconds from it, and when it is close to
the clock as it is. -/
theorem letsThrough_release_of_le {currentTime timestamp : UInt64}
    (current : currentTime.toNat < 2 ^ 63) (large : 2 ^ 63 ≤ timestamp.toNat) :
    LetsThrough .release currentTime timestamp ↔
      currentTime.toNat + 2 ^ 64 - timestamp.toNat ≤ 300 ∨
        currentTime.toNat + 2 ^ 63 = timestamp.toNat ∨
          timestamp.toNat ≤ currentTime.toNat + 300 := by
  have word := timestamp.toNat_lt
  have signed : asI64 currentTime - asI64 timestamp =
      ((currentTime.toNat + 2 ^ 64 - timestamp.toNat : Nat) : Int) := by
    rw [asI64_of_lt current, asI64_of_le large]
    omega
  generalize apart : currentTime.toNat + 2 ^ 64 - timestamp.toNat = difference at signed
  by_cases fits : difference < 2 ^ 63
  · have known : timestampAge .release currentTime timestamp = .ok (difference : Int) := by
      rw [timestampAge, signed, i64Result_of_fits .release (by omega), ok_bind, Int.natAbs_natCast,
        i64Result_of_fits .release (by omega)]
    rw [letsThrough_of_age known]
    omega
  · have wrapped : i64Result .release (difference : Int) = .ok ((difference : Int) - 2 ^ 64) := by
      apply i64Result_release_of_le
      · omega
      · omega
    by_cases minimal : difference = 2 ^ 63
    · have known : timestampAge .release currentTime timestamp = .ok (-2 ^ 63) := by
        rw [timestampAge, signed, wrapped, ok_bind, minimal]
        decide
      rw [letsThrough_of_age known]
      omega
    · have distance : (((difference : Int) - 2 ^ 64).natAbs : Int) = 2 ^ 64 - difference := by
        omega
      have known : timestampAge .release currentTime timestamp = .ok (2 ^ 64 - difference) := by
        rw [timestampAge, signed, wrapped, ok_bind, distance,
          i64Result_of_fits .release (by omega)]
      rw [letsThrough_of_age known]
      omega

/-- A timestamp 2^63 seconds after the clock is let through by a build that wraps around, and
panics one that checks for overflow. -/
theorem exactTimeTest_fails :
    (1700000000 : UInt64).toNat < 2 ^ 63 ∧
    ¬ ExactTimeTest .release 1700000000 9223372038554775808 ∧
    LetsThrough .release 1700000000 9223372038554775808 ∧
    timestampAge .debug 1700000000 9223372038554775808 = .error .panic ∧
    ¬ |((1700000000 : UInt64).toNat : Int) - (9223372038554775808 : UInt64).toNat| ≤ 300 := by
  refine ⟨by decide, ?_, ?_, ?_, by decide⟩
  · intro exact
    exact absurd exact.stamped (by decide)
  · exact (letsThrough_release_of_le (by decide) (by decide)).mpr (.inr (.inl rfl))
  · exact timestampAge_debug_of_le (by decide) (by decide) (by decide)

end VisionAuthRequest

end TrojanRust
