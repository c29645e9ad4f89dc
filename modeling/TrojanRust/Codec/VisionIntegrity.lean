import TrojanRust.Codec.Vision

/-!
# The integrity hash of Vision requests

The check hashes an encoding of the request that was parsed, not the bytes that were received.
Both are the same bytes on every request that is accepted: an accepted target is spelled in the
one way in which the encoder writes it, and a target that the encoder does not write is refused
by the check. The hash is therefore a hash of the wire, and altering a signed byte of an
accepted request takes a collision.
-/

namespace TrojanRust

open TrojanRust.Bytes

/-- Two different values have the same hash. -/
def Collides {α β : Type} (hash : α → β) (left right : α) : Prop :=
  left ≠ right ∧ hash left = hash right

/-- An address that the encoder writes is spelled only as it writes it. -/
theorem Address.Spells.eq_encode {address : Address} {wire target : List UInt8}
    (spells : address.Spells wire) (encoded : address.encode = .ok target) : target = wire := by
  have named := ((Address.encode_eq_ok_iff address target).mp ⟨encoded, spells.flowFree⟩).2
  have written := ((Address.encode_eq_ok_iff address wire).mpr ⟨spells, named⟩).1
  rw [encoded] at written
  exact Except.ok.inj written

namespace VisionAuthRequest

/-- What was consumed of an accepted request are the bytes that the encoder signs for it,
followed by their hash. -/
theorem readFrom_signed (env : VisionEnv) (stop : ErrorKind) {wire rest : List UInt8}
    {request : VisionAuthRequest}
    (accepted : (readFrom env).run stop (wire ++ rest) = (.ok request, rest)) :
    ∃ target, request.address.encode = .ok target ∧
      wire = request.signedBytes target ++ (env.sha224 (request.signedBytes target)).toList := by
  have ⟨⟨consumed, split, fields⟩, checked⟩ := (readFrom_iff env stop _ _ _).mp accepted
  obtain rfl := List.append_cancel_right split
  obtain ⟨_, _, _, target, spells, rfl⟩ := (reads_readFields _ _).mp fields
  have verified := ((check_iff env request).mp checked).2
  have ⟨written, encoded, hashed⟩ := (verifyIntegrity_iff env request).mp verified
  obtain rfl := spells.eq_encode encoded
  exact ⟨written, encoded, by rw [wire, hashed]⟩

/-- What follows the signed front of the consumed bytes is the hash. -/
theorem hash_after {bytes hash : List UInt8} {n : Nat} (consumed : n ≤ bytes.length)
    (whole : bytes.take n = bytes.take (n - 28) ++ hash) :
    (bytes.take n).drop (n - 28) = hash := by
  have size : (bytes.take (n - 28)).length = n - 28 := by
    rw [List.length_take]
    omega
  rw [whole, List.drop_left' size]

/-- The bytes consumed of an accepted request end with the hash of those before it, and are what
the encoder writes. -/
theorem readFrom_take (env : VisionEnv) (stop : ErrorKind) {bytes : List UInt8} {n : Nat}
    {request : VisionAuthRequest} (consumed : n ≤ bytes.length)
    (accepted : (readFrom env).run stop bytes = (.ok request, bytes.drop n)) :
    28 ≤ n ∧ bytes.take n = bytes.take (n - 28) ++ (env.sha224 (bytes.take (n - 28))).toList ∧
      request.encode env = .ok (bytes.take n) := by
  have whole : bytes = bytes.take n ++ bytes.drop n := (List.take_append_drop n bytes).symm
  have run : (readFrom env).run stop (bytes.take n ++ bytes.drop n) =
      (.ok request, bytes.drop n) := by rwa [← whole]
  have ⟨target, encoded, wire⟩ := readFrom_signed env stop run
  have size : n = (request.signedBytes target).length + 28 := by
    have lengths := congrArg List.length wire
    rw [List.length_append, Vector.length_toList, List.length_take] at lengths
    omega
  have front : bytes.take (n - 28) = request.signedBytes target := by
    have shorter : n - 28 = min (n - 28) n := by omega
    have cut : n - 28 = (request.signedBytes target).length := by omega
    rw [shorter, ← List.take_take, wire, cut, List.take_left' rfl]
  have long : 28 ≤ n := by omega
  refine ⟨long, ?_, ?_⟩
  · rw [front, wire]
  · rw [encode_eq env encoded, wire]

/-- The integrity hash covers every byte on the wire. The last 28 of the bytes consumed for an
accepted request are the hash of the bytes before them, and its encoding is what was consumed.
Another accepted request, under the same hash function, at any clock and in any build, that was
signed over the same bytes is the same bytes; one that was signed over other bytes and holds the
same hash is a collision of the hash function. -/
theorem readFrom_covers (sha224 : List UInt8 → Vector UInt8 28) (profile : BuildProfile)
    (clock : Option UInt64) (stop : ErrorKind) (bytes : List UInt8) (n : Nat)
    (request : VisionAuthRequest) (consumed : n ≤ bytes.length)
    (accepted : (readFrom ⟨sha224, profile, clock⟩).run stop bytes =
      (.ok request, bytes.drop n)) :
    28 ≤ n ∧
    (bytes.take n).drop (n - 28) = (sha224 (bytes.take (n - 28))).toList ∧
    request.encode ⟨sha224, profile, clock⟩ = .ok (bytes.take n) ∧
    ∀ (profile' : BuildProfile) (clock' : Option UInt64) (stop' : ErrorKind)
      (other : List UInt8) (m : Nat) (read : VisionAuthRequest), m ≤ other.length →
      (readFrom ⟨sha224, profile', clock'⟩).run stop' other = (.ok read, other.drop m) →
      (other.take (m - 28) = bytes.take (n - 28) → other.take m = bytes.take n) ∧
      (other.take (m - 28) ≠ bytes.take (n - 28) →
        (other.take m).drop (m - 28) = (bytes.take n).drop (n - 28) →
        Collides sha224 (other.take (m - 28)) (bytes.take (n - 28))) := by
  have ⟨long, whole, encoded⟩ := readFrom_take _ stop consumed accepted
  have hash := hash_after consumed whole
  refine ⟨long, hash, encoded, ?_⟩
  intro profile' clock' stop' other m read consumedOther acceptedOther
  have ⟨_, wholeOther, _⟩ := readFrom_take _ stop' consumedOther acceptedOther
  have hashOther := hash_after consumedOther wholeOther
  constructor
  · intro sameSigned
    rw [wholeOther, whole, sameSigned]
  · intro altered sameHash
    have equal : sha224 (other.take (m - 28)) = sha224 (bytes.take (n - 28)) := by
      apply Vector.toList_inj.mp
      rw [← hashOther, sameHash, hash]
    exact ⟨altered, equal⟩

/-- Under a hash function that sums the bytes, swapping two digits of the password hash of an
accepted request gives an accepted request, and the signed bytes collide. -/
theorem readFrom_covers_swapped :
    Collides (fun bytes : List UInt8 => Vector.replicate 28 bytes.sum)
      ([0xfe, 0x01, 0x01, 0x01, 0x0a, 0x00, 0x00, 0x01, 0x00, 0x50, 0x00, 0x00, 0x00, 0x00, 0x00,
        0x00, 0x00, 0x00, 0x62, 0x61] ++ List.replicate 54 0x61)
      ([0xfe, 0x01, 0x01, 0x01, 0x0a, 0x00, 0x00, 0x01, 0x00, 0x50, 0x00, 0x00, 0x00, 0x00, 0x00,
        0x00, 0x00, 0x00, 0x61, 0x62] ++ List.replicate 54 0x61) := by
  obtain ⟨-, -, -, others⟩ := readFrom_covers (fun bytes => Vector.replicate 28 bytes.sum)
    .release (some 0) .unexpectedEof
    ([0xfe, 0x01, 0x01, 0x01, 0x0a, 0x00, 0x00, 0x01, 0x00, 0x50, 0x00, 0x00, 0x00, 0x00, 0x00,
      0x00, 0x00, 0x00, 0x61, 0x62] ++ List.replicate 54 0x61 ++ List.replicate 28 0x95)
    102
    ⟨0xfe, 0x01, .connect, .ipv4 (.v4 (.new 10 0 0 1) 80), 0,
      ⟨#[0x61, 0x62] ++ Array.replicate 54 0x61, by decide⟩, Vector.replicate 28 0x95⟩
    (by decide) (by decide +kernel)
  exact (others .debug (some 300) .other
    ([0xfe, 0x01, 0x01, 0x01, 0x0a, 0x00, 0x00, 0x01, 0x00, 0x50, 0x00, 0x00, 0x00, 0x00, 0x00,
      0x00, 0x00, 0x00, 0x62, 0x61] ++ List.replicate 54 0x61 ++ List.replicate 28 0x95)
    102
    ⟨0xfe, 0x01, .connect, .ipv4 (.v4 (.new 10 0 0 1) 80), 0,
      ⟨#[0x62, 0x61] ++ Array.replicate 54 0x61, by decide⟩, Vector.replicate 28 0x95⟩
    (by decide) (by decide +kernel)).2 (by decide) (by decide)

end VisionAuthRequest

end TrojanRust
