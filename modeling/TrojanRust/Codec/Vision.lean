import TrojanRust.Codec.Address
import TrojanRust.Reality.Vision

/-!
# Round trips of Vision requests

The reader of a request is its fields followed by checks that read nothing. The fields are
spelled by what the encoder writes; a request that was issued at one clock passes the checks at
every clock close to it, because the hash is computed over the same bytes each time.
-/

namespace TrojanRust

open TrojanRust.Bytes

/-- Words below half their range keep their value as signed words. -/
theorem asI64_of_lt {value : UInt64} (small : value.toNat < 2 ^ 63) :
    asI64 value = value.toNat := if_pos small

/-- A result within the signed range is exact in every build profile. -/
theorem i64Result_of_fits (profile : BuildProfile) {exact : Int}
    (fits : -2 ^ 63 ≤ exact ∧ exact < 2 ^ 63) : i64Result profile exact = .ok exact :=
  if_pos fits

namespace VisionAuthRequest

/-- Between clocks below half their range, the age of a timestamp is the distance. -/
theorem timestampAge_of_lt (profile : BuildProfile) {currentTime timestamp : UInt64}
    (current : currentTime.toNat < 2 ^ 63) (stamped : timestamp.toNat < 2 ^ 63) :
    timestampAge profile currentTime timestamp =
      .ok ((currentTime.toNat : Int) - timestamp.toNat).natAbs := by
  have difference : -2 ^ 63 ≤ (currentTime.toNat : Int) - timestamp.toNat ∧
      (currentTime.toNat : Int) - timestamp.toNat < 2 ^ 63 := by omega
  have distance : -2 ^ 63 ≤ (((currentTime.toNat : Int) - timestamp.toNat).natAbs : Int) ∧
      (((currentTime.toNat : Int) - timestamp.toNat).natAbs : Int) < 2 ^ 63 := by omega
  rw [timestampAge, asI64_of_lt current, asI64_of_lt stamped,
    i64Result_of_fits profile difference, ok_bind, i64Result_of_fits profile distance]

/-- The bytes before the integrity hash, for a spelling of the target. -/
def signedBytes (request : VisionAuthRequest) (target : List UInt8) : List UInt8 :=
  request.magic :: request.version :: request.command.asU8 ::
    (target ++ ((u64ToBeBytes request.timestamp).toList ++ request.passwordHash.toList))

/-- The bytes of a request: those that are signed, and the hash. -/
def wire (request : VisionAuthRequest) (target : List UInt8) : List UInt8 :=
  request.signedBytes target ++ request.integrityHash.toList

/-- The bytes of a request, in the order that its fields are read. -/
theorem wire_eq (request : VisionAuthRequest) (target : List UInt8) :
    request.wire target = [request.magic] ++ ([request.version] ++ ([request.command.asU8] ++
      (target ++ ((u64ToBeBytes request.timestamp).toList ++
        (request.passwordHash.toList ++ request.integrityHash.toList))))) := by
  simp [wire, signedBytes]

/-- The fields of a request are spelled by its bytes, for any spelling of the target. -/
theorem reads_readFields (bytes : List UInt8) (request : VisionAuthRequest) :
    readFields.Reads bytes request ↔
      request.magic = visionMagicHeader ∧ request.version = visionVersion ∧
        request.passwordHash.toList.all isAsciiHexdigit ∧
        ∃ target, request.address.Spells target ∧ bytes = request.wire target := by
  unfold readFields
  constructor
  · intro reads
    rw [Reader.reads_bind] at reads
    simp only [reads_readU8] at reads
    obtain ⟨_, _, magic, rfl, rfl, afterMagic⟩ := reads
    split at afterMagic
    · exact absurd afterMagic (Reader.reads_fail _ _ _)
    · rename_i isMagic
      rw [Reader.reads_bind] at afterMagic
      simp only [reads_readU8] at afterMagic
      obtain ⟨_, _, version, rfl, rfl, afterVersion⟩ := afterMagic
      split at afterVersion
      · exact absurd afterVersion (Reader.reads_fail _ _ _)
      · rename_i isVersion
        simp only [Reader.reads_bind, reads_readU8, reads_readU64, reads_readExact,
          Reader.reads_lift, Command.fromU8_eq_ok, Address.reads_readFrom] at afterVersion
        obtain ⟨_, _, value, rfl, rfl, _, _, command, rfl, ⟨rfl, rfl⟩, target, _, address, rfl,
          spells, _, _, timestamp, rfl, rfl, _, _, passwordHash, rfl, rfl, last⟩ := afterVersion
        split at last
        · exact absurd last (Reader.reads_fail _ _ _)
        · rename_i isHex
          simp only [Reader.reads_bind, reads_readExact, Reader.reads_pure] at last
          obtain ⟨_, _, integrityHash, rfl, rfl, rfl, rfl⟩ := last
          refine ⟨not_not.mp isMagic, not_not.mp isVersion, not_not.mp isHex, target, spells, ?_⟩
          simp [wire, signedBytes]
  · rintro ⟨isMagic, isVersion, isHex, target, spells, rfl⟩
    rw [request.wire_eq target]
    apply (readU8_reads request.magic).bind
    rw [if_neg (not_not.mpr isMagic)]
    apply (readU8_reads request.version).bind
    rw [if_neg (not_not.mpr isVersion)]
    apply (readU8_reads request.command.asU8).bind
    rw [Reader.reads_lift_bind]
    refine ⟨request.command, Command.fromU8_asU8 _, ?_⟩
    apply ((Address.reads_readFrom _ _).mpr spells).bind
    apply (readU64_reads request.timestamp).bind
    apply (readExact_reads request.passwordHash).bind
    rw [if_neg (not_not.mpr isHex), Reader.reads_bind_pure]
    exact ⟨request.integrityHash, readExact_reads _, rfl⟩

/-- Every field of a request is indispensable. -/
theorem strict_readFields : readFields.Strict ioFault := by
  refine strict_readU8.bind fun magic => ?_
  split
  · exact Reader.strict_fail _ _
  · refine strict_readU8.bind fun version => ?_
    split
    · exact Reader.strict_fail _ _
    · refine strict_readU8.bind fun value => (Reader.strict_lift _ _).bind fun command =>
        Address.strict_readFrom.bind fun address => strict_readU64.bind fun timestamp =>
          (strict_readExact _).bind fun passwordHash => ?_
      split
      · exact Reader.strict_fail _ _
      · exact (strict_readExact _).bind fun integrityHash => Reader.strict_pure _ _

/-- A request is read when its fields are and it passes the checks. -/
theorem run_readFrom (env : VisionEnv) (stop : ErrorKind) {bytes rest : List UInt8}
    {request : VisionAuthRequest} (fields : readFields.run stop bytes = (.ok request, rest)) :
    (readFrom env).run stop bytes = ((fun _ => request) <$> request.check env, rest) := by
  rw [readFrom, Reader.run_bind, fields]
  dsimp only
  rw [Reader.run_bind, Reader.run_lift]
  cases request.check env <;> rfl

/-- Fields that are refused refuse the request. -/
theorem run_readFrom_error (env : VisionEnv) (stop : ErrorKind) {bytes rest : List UInt8}
    {fault : Fault} (fields : readFields.run stop bytes = (.error fault, rest)) :
    (readFrom env).run stop bytes = (.error fault, rest) := by
  rw [readFrom, Reader.run_bind, fields]

/-- The signed bytes are written for the encoding of the target. -/
theorem encodedWithoutIntegrityHash_eq {request : VisionAuthRequest} {target : List UInt8}
    (encoded : request.address.encode = .ok target) :
    request.encodedWithoutIntegrityHash = .ok (request.signedBytes target) := by
  rw [encodedWithoutIntegrityHash, encoded]
  rfl

/-- The encoder writes the signed bytes and their hash, whatever hash the request holds. -/
theorem encode_eq (env : VisionEnv) {request : VisionAuthRequest} {target : List UInt8}
    (encoded : request.address.encode = .ok target) :
    request.encode env = .ok (request.signedBytes target ++
      (env.sha224 (request.signedBytes target)).toList) := by
  have hashed : { request with
      integrityHash := env.sha224 (request.signedBytes target) }.encodedWithoutIntegrityHash =
        .ok (request.signedBytes target) := encodedWithoutIntegrityHash_eq encoded
  rw [encode, withIntegrityHash, encodedWithoutIntegrityHash_eq encoded, ok_bind]
  change encodeWithIntegrityHash _ = _
  rw [encodeWithIntegrityHash, hashed]
  rfl

/-- The time test of a request: the age of its timestamp is computed and is at most 300 seconds. -/
def LetsThrough (profile : BuildProfile) (currentTime timestamp : UInt64) : Prop :=
  ∃ age, timestampAge profile currentTime timestamp = .ok age ∧ age ≤ 300

/-- A request verifies when it holds the hash of what the encoder signs for it. -/
theorem verifyIntegrity_iff (env : VisionEnv) (request : VisionAuthRequest) :
    request.verifyIntegrity env = .ok () ↔
      ∃ target, request.address.encode = .ok target ∧
        env.sha224 (request.signedBytes target) = request.integrityHash := by
  unfold verifyIntegrity
  cases encoded : request.address.encode with
  | error fault => simp [encodedWithoutIntegrityHash, encoded]
  | ok target =>
    rw [encodedWithoutIntegrityHash_eq encoded, ok_bind]
    by_cases same : env.sha224 (request.signedBytes target) = request.integrityHash
    · simp [same, pure, Except.pure]
    · simp [same, err]

/-- A request passes the checks when the clock is running and the time test lets it through,
and when it verifies. -/
theorem check_iff (env : VisionEnv) (request : VisionAuthRequest) :
    request.check env = .ok () ↔
      (∃ seconds, env.clock = some seconds ∧
        LetsThrough env.profile seconds request.timestamp) ∧
      request.verifyIntegrity env = .ok () := by
  unfold check currentUnixTimestamp LetsThrough
  cases env.clock with
  | none => simp [err]
  | some seconds =>
    cases aged : timestampAge env.profile seconds request.timestamp with
    | error fault => simp [aged]
    | ok age =>
      by_cases expired : 300 < age
      · simp [aged, expired, err]
      · have fresh : age ≤ 300 := by omega
        simp [aged, expired, fresh]

/-- A request is accepted exactly from the spelling of its fields, when it passes the checks. -/
theorem readFrom_iff (env : VisionEnv) (stop : ErrorKind) (bytes rest : List UInt8)
    (request : VisionAuthRequest) :
    (readFrom env).run stop bytes = (.ok request, rest) ↔
      (∃ wire, bytes = wire ++ rest ∧ readFields.Reads wire request) ∧
        request.check env = .ok () := by
  rw [← strict_readFields.run_ok_iff stop]
  constructor
  · intro accepted
    cases fields : readFields.run stop bytes with
    | mk outcome left =>
      cases outcome with
      | error fault =>
        rw [run_readFrom_error env stop fields] at accepted
        simp at accepted
      | ok read =>
        rw [run_readFrom env stop fields] at accepted
        cases checked : read.check env with
        | error fault => simp [checked] at accepted
        | ok passed =>
          rw [checked] at accepted
          obtain ⟨rfl, rfl⟩ : read = request ∧ left = rest := by simpa using accepted
          exact ⟨rfl, checked⟩
  · intro accepted
    have ⟨fields, checked⟩ := accepted
    rw [run_readFrom env stop fields, checked]
    rfl

/-- The password hash of a text of 56 hex digits is its bytes. -/
theorem parsePasswordHash_eq {value : String} (sized : (asBytes value).length = 56)
    (hex : (asBytes value).all isAsciiHexdigit) :
    ∃ hash : Vector UInt8 56, parsePasswordHash value = .ok hash ∧ hash.toList = asBytes value := by
  have allowed : ¬ ((asBytes value).length ≠ visionPasswordHexLen ∨
      ¬ (asBytes value).all isAsciiHexdigit) := by
    rintro (wrong | wrong)
    · exact wrong sized
    · exact wrong hex
  refine ⟨⟨(asBytes value).toArray, sized⟩, ?_, rfl⟩
  rw [parsePasswordHash, if_neg allowed, copyFromSlice, dif_pos sized]

/-- A request is issued with the time of its clock and the hash of its signed bytes. -/
theorem new_eq (env : VisionEnv) {seconds : UInt64} (clock : env.clock = some seconds)
    (command : Command) {address : Address} {target : List UInt8}
    (encoded : address.encode = .ok target) {value : String} {hash : Vector UInt8 56}
    (parsed : parsePasswordHash value = .ok hash) (unsigned : VisionAuthRequest)
    (fields : unsigned =
      ⟨visionMagicHeader, visionVersion, command, address, seconds, hash,
        Vector.replicate visionHashLen 0⟩) :
    new env command address value =
      .ok { unsigned with integrityHash := env.sha224 (unsigned.signedBytes target) } := by
  have base : unsigned.encodedWithoutIntegrityHash = .ok (unsigned.signedBytes target) := by
    apply encodedWithoutIntegrityHash_eq
    rw [fields]
    exact encoded
  rw [new, parsed, ok_bind, currentUnixTimestamp, clock]
  dsimp only
  rw [ok_bind, ← fields, withIntegrityHash, base]
  rfl

/-- A request that holds the hash of its signed bytes passes the checks at every clock that is
at most 300 seconds away from its timestamp. -/
theorem check_eq_ok (env : VisionEnv) {request : VisionAuthRequest} {target : List UInt8}
    (encoded : request.address.encode = .ok target)
    (signed : request.integrityHash = env.sha224 (request.signedBytes target))
    {seconds : UInt64} (clock : env.clock = some seconds)
    (current : seconds.toNat < 2 ^ 63) (stamped : request.timestamp.toNat < 2 ^ 63)
    (close : ((seconds.toNat : Int) - request.timestamp.toNat).natAbs ≤ 300) :
    request.check env = .ok () := by
  have aged := timestampAge_of_lt env.profile current stamped
  have verified := (verifyIntegrity_iff env request).mpr ⟨target, encoded, signed.symm⟩
  exact (check_iff env request).mpr ⟨⟨seconds, clock, _, aged, by omega⟩, verified⟩

/-- A request issued at one clock is encoded, and read back at every clock at most 300 seconds
away: every field is as it was issued, and exactly the bytes of the encoding are consumed. No
proper front of the encoding is read, at any clock, and the encoding does not depend on the
hash that the request held. The hash is any function, and no build profile makes a
difference. -/
theorem readFrom_encode (sha224 : List UInt8 → Vector UInt8 28) (profile : BuildProfile)
    (command : Command) (address : Address) (target : List UInt8) (value : String)
    (issued : UInt64) (encoded : address.encode = .ok target) (flowFree : address.FlowFree)
    (sized : (asBytes value).length = 56) (hex : (asBytes value).all isAsciiHexdigit)
    (early : issued.toNat < 2 ^ 62) :
    ∃ request bytes,
      new ⟨sha224, profile, some issued⟩ command address value = .ok request ∧
      request.encode ⟨sha224, profile, some issued⟩ = .ok bytes ∧
      (request.command = command ∧ request.address = address ∧ request.timestamp = issued ∧
        request.passwordHash.toList = asBytes value) ∧
      (∀ (seconds : UInt64) (stop : ErrorKind) (rest : List UInt8),
        ((seconds.toNat : Int) - issued.toNat).natAbs ≤ 300 →
        (readFrom ⟨sha224, profile, some seconds⟩).run stop (bytes ++ rest) =
          (.ok request, rest)) ∧
      (∀ (clock : Option UInt64) (stop : ErrorKind) (part : List UInt8), part <+: bytes →
        part ≠ bytes →
        ∃ error, ((readFrom ⟨sha224, profile, clock⟩).run stop part).1 = .error (.err error)) ∧
      ∀ (hash : Vector UInt8 28) (clock : Option UInt64),
        encode ⟨sha224, profile, clock⟩ { request with integrityHash := hash } = .ok bytes := by
  have ⟨hash, parsed, kept⟩ := parsePasswordHash_eq sized hex
  have spells := ((Address.encode_eq_ok_iff address target).mp ⟨encoded, flowFree⟩).1
  let unsigned : VisionAuthRequest :=
    ⟨visionMagicHeader, visionVersion, command, address, issued, hash,
      Vector.replicate visionHashLen 0⟩
  let request : VisionAuthRequest :=
    { unsigned with integrityHash := sha224 (unsigned.signedBytes target) }
  have spelled : request.passwordHash.toList.all isAsciiHexdigit := by
    change hash.toList.all isAsciiHexdigit
    rw [kept]
    exact hex
  have fields : readFields.Reads (request.wire target) request :=
    (reads_readFields _ _).mpr ⟨rfl, rfl, spelled, target, spells, rfl⟩
  refine ⟨request, request.wire target, new_eq _ rfl command encoded parsed unsigned rfl,
    encode_eq _ encoded, ⟨rfl, rfl, rfl, kept⟩, ?_, ?_, ?_⟩
  · intro seconds stop rest close
    have stamped : request.timestamp = issued := rfl
    have checked : request.check ⟨sha224, profile, some seconds⟩ = .ok () :=
      check_eq_ok _ encoded rfl rfl (by omega) (by rw [stamped]; omega) close
    rw [run_readFrom _ stop (fields.run stop rest), checked]
    rfl
  · intro clock stop part front proper
    have refused := fields.run_front strict_readFields stop front proper
    exact ⟨_, congrArg Prod.fst (run_readFrom_error _ stop refused)⟩
  · intro other clock
    exact encode_eq ⟨sha224, profile, clock⟩ encoded

/-- A request for a domain, issued in 2023 under a hash function that sums the bytes. -/
theorem readFrom_encode_domain :
    ∃ request bytes,
      new ⟨fun bytes => Vector.replicate 28 bytes.sum, .release, some 1700000000⟩ .connect
        (.domain "a.b" 443) (String.ofList (List.replicate 56 'a')) = .ok request ∧
      (readFrom ⟨fun bytes => Vector.replicate 28 bytes.sum, .release, some 1700000300⟩).run
        .unexpectedEof (bytes ++ [7]) = (.ok request, [7]) := by
  obtain ⟨request, bytes, issued, -, -, reads, -, -⟩ :=
    readFrom_encode (fun bytes => Vector.replicate 28 bytes.sum) .release .connect
      (.domain "a.b" 443) [3, 3, 97, 46, 98, 1, 187] (String.ofList (List.replicate 56 'a'))
      1700000000 (by decide +kernel) trivial (by decide +kernel) (by decide +kernel) (by decide)
  exact ⟨request, bytes, issued, reads 1700000300 .unexpectedEof [7] (by decide)⟩

end VisionAuthRequest

end TrojanRust
