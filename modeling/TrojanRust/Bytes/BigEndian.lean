import Mathlib

/-!
# Big-endian digits

Network byte order at any width: the most significant base-256 digit comes first. The two
directions are inverse on words that fit their width and on digit lists of that width, so
fixed-width unsigned words instantiate both laws without enumerating their values.
-/

namespace TrojanRust.Bytes

/-- Read digits, most significant first. -/
def beNat (digits : List UInt8) : Nat :=
  digits.foldl (fun high digit => 256 * high + digit.toNat) 0

/-- Write the lowest `width` digits of a value, most significant first. -/
def beBytes : Nat → Nat → List UInt8
  | 0, _ => []
  | width + 1, value => beBytes width (value / 256) ++ [UInt8.ofNat value]

/-- The lowest `width` digits of a value as a fixed-size array. -/
def beVector (width value : Nat) : Vector UInt8 width :=
  ⟨(beBytes width value).toArray, by
    induction width generalizing value with
    | zero => rfl
    | succ width ih => simpa [beBytes] using ih (value / 256)⟩

/-- The fixed-size array holds the digits. -/
@[simp]
theorem beVector_toList (width value : Nat) :
    (beVector width value).toList = beBytes width value := rfl

/-- The last digit read is the least significant one. -/
theorem beNat_append_singleton (digits : List UInt8) (digit : UInt8) :
    beNat (digits ++ [digit]) = 256 * beNat digits + digit.toNat := by
  simp [beNat]

/-- A digit list is below the power of its own length. -/
theorem beNat_lt (digits : List UInt8) : beNat digits < 256 ^ digits.length := by
  induction digits using List.reverseRecOn with
  | nil => simp [beNat]
  | append_singleton digits digit ih =>
    have small := digit.toNat_lt
    rw [beNat_append_singleton, List.length_append, List.length_singleton, Nat.pow_succ]
    omega

/-- A value that fits its width is read back from its digits. -/
theorem beNat_beBytes (width value : Nat) (fits : value < 256 ^ width) :
    beNat (beBytes width value) = value := by
  induction width generalizing value with
  | zero =>
    have zero : value = 0 := by simpa using fits
    simp [beBytes, beNat, zero]
  | succ width ih =>
    have high : value / 256 < 256 ^ width := by
      rw [Nat.div_lt_iff_lt_mul (by decide)]
      simpa [Nat.pow_succ] using fits
    rw [beBytes, beNat_append_singleton, ih _ high, UInt8.toNat_ofNat']
    omega

/-- Digits of the declared width are written back from their value. -/
theorem beBytes_beNat (digits : List UInt8) : beBytes digits.length (beNat digits) = digits := by
  induction digits using List.reverseRecOn with
  | nil => rfl
  | append_singleton digits digit ih =>
    have small := digit.toNat_lt
    have quotient : (256 * beNat digits + digit.toNat) / 256 = beNat digits := by omega
    have last : UInt8.ofNat (256 * beNat digits + digit.toNat) = digit := by
      apply UInt8.toNat_inj.mp
      rw [UInt8.toNat_ofNat']
      omega
    rw [List.length_append, List.length_singleton, beBytes, beNat_append_singleton, quotient,
      ih, last]

end TrojanRust.Bytes
