import TrojanRust.Protocol.Address

/-!
# Vision authentication requests

A Vision request carries a command and a target like a Trojan header, and a timestamp, a
password hash and an integrity hash over everything before it. The hash function, the clock and
the overflow checks of the build are an environment that every function takes what it uses of.
-/

namespace TrojanRust

open TrojanRust.Bytes

/-- The overflow checks that a build profile compiles in. -/
inductive BuildProfile where
  /-- Overflow panics. -/
  | debug
  /-- Overflow wraps around. -/
  | release
  deriving DecidableEq, Repr

/-- `value as i64`. -/
def asI64 (value : UInt64) : Int :=
  if value.toNat < 2 ^ 63 then value.toNat else value.toNat - 2 ^ 64

/-- The result of an `i64` operation whose exact value is known. -/
def i64Result (profile : BuildProfile) (exact : Int) : Result Int :=
  if -2 ^ 63 ≤ exact ∧ exact < 2 ^ 63 then .ok exact
  else
    match profile with
    | .debug => .error .panic
    | .release => .ok (Int.bmod exact (2 ^ 64))

/-- What Vision functions use of their surroundings. -/
structure VisionEnv where
  /-- `Sha224` of a byte string. -/
  sha224 : List UInt8 → Vector UInt8 28
  profile : BuildProfile
  /-- Seconds since the epoch, unless the clock is before it. -/
  clock : Option UInt64

/-- `VISION_MAGIC_HEADER`. -/
def visionMagicHeader : UInt8 := 0xfe

/-- `VISION_VERSION`. -/
def visionVersion : UInt8 := 0x01

/-- `VISION_PASSWORD_HEX_LEN`. -/
abbrev visionPasswordHexLen : Nat := 56

/-- `VISION_HASH_LEN`. -/
abbrev visionHashLen : Nat := 28

/-- `VisionAuthRequest`. -/
structure VisionAuthRequest where
  magic : UInt8
  version : UInt8
  command : Command
  address : Address
  /-- Seconds since the epoch, by the clock of the client. -/
  timestamp : UInt64
  /-- Hash in hex, as the client spelled it. -/
  passwordHash : Vector UInt8 56
  integrityHash : Vector UInt8 28
  deriving DecidableEq, Repr

/-- `current_unix_timestamp`. -/
def currentUnixTimestamp (env : VisionEnv) : Result UInt64 :=
  match env.clock with
  | some seconds => .ok seconds
  | none => err (.protocol "System clock before UNIX_EPOCH")

/-- `parse_password_hash`. -/
def parsePasswordHash (value : String) : Result (Vector UInt8 56) :=
  if (asBytes value).length ≠ visionPasswordHexLen ∨ ¬ (asBytes value).all isAsciiHexdigit then
    err (.protocol "Vision password hash must be 56 hex characters")
  else copyFromSlice visionPasswordHexLen (asBytes value)

namespace VisionAuthRequest

/-- `encoded_without_integrity_hash`. -/
def encodedWithoutIntegrityHash (request : VisionAuthRequest) : Result (List UInt8) := do
  let addrBytes ← request.address.encode
  return request.magic :: request.version :: request.command.asU8 ::
    (addrBytes ++ ((u64ToBeBytes request.timestamp).toList ++ request.passwordHash.toList))

/-- `with_integrity_hash`. -/
def withIntegrityHash (env : VisionEnv) (request : VisionAuthRequest) :
    Result VisionAuthRequest := do
  let base ← request.encodedWithoutIntegrityHash
  return { request with integrityHash := env.sha224 base }

/-- `encode_with_integrity_hash`. -/
def encodeWithIntegrityHash (request : VisionAuthRequest) : Result (List UInt8) := do
  let buf ← request.encodedWithoutIntegrityHash
  return buf ++ request.integrityHash.toList

/-- `VisionAuthRequest::encode`. -/
def encode (env : VisionEnv) (request : VisionAuthRequest) : Result (List UInt8) := do
  let request ← request.withIntegrityHash env
  request.encodeWithIntegrityHash

/-- `verify_integrity`. -/
def verifyIntegrity (env : VisionEnv) (request : VisionAuthRequest) : Result Unit := do
  let base ← request.encodedWithoutIntegrityHash
  if env.sha224 base ≠ request.integrityHash then
    err (.protocol "Vision integrity check failed")
  else return ()

/-- `VisionAuthRequest::new`. -/
def new (env : VisionEnv) (command : Command) (address : Address) (passwordHashHex : String) :
    Result VisionAuthRequest := do
  let passwordHash ← parsePasswordHash passwordHashHex
  let timestamp ← currentUnixTimestamp env
  withIntegrityHash env
    { magic := visionMagicHeader
      version := visionVersion
      command
      address
      timestamp
      passwordHash
      integrityHash := Vector.replicate visionHashLen 0 }

/-- `VisionAuthRequest::read_from` up to its last read. -/
def readFields : StreamReader VisionAuthRequest := do
  let magic ← readU8
  if magic ≠ visionMagicHeader then
    .fail (.err (.protocol ("Invalid Vision magic header: " ++
      String.ofList (Nat.toDigits 16 magic.toNat))))
  else do
    let version ← readU8
    if version ≠ visionVersion then
      .fail (.err (.protocol ("Unsupported Vision version: " ++ toString version.toNat)))
    else do
      let cmdByte ← readU8
      let command ← Command.fromU8 cmdByte
      let address ← Address.readFrom
      let timestamp ← readU64
      let passwordHash ← readExact visionPasswordHexLen
      if ¬ passwordHash.toList.all isAsciiHexdigit then
        .fail (.err (.protocol "Invalid Vision password hash format"))
      else do
        let integrityHash ← readExact visionHashLen
        return { magic, version, command, address, timestamp, passwordHash, integrityHash }

/-- `(current_time as i64 - timestamp as i64).abs()`. -/
def timestampAge (profile : BuildProfile) (currentTime timestamp : UInt64) : Result Int := do
  let difference ← i64Result profile (asI64 currentTime - asI64 timestamp)
  i64Result profile difference.natAbs

/-- `VisionAuthRequest::read_from` after its last read. -/
def check (env : VisionEnv) (request : VisionAuthRequest) : Result Unit := do
  let currentTime ← currentUnixTimestamp env
  let age ← timestampAge env.profile currentTime request.timestamp
  if 300 < age then err (.protocol "Timestamp expired")
  else request.verifyIntegrity env

/-- `VisionAuthRequest::read_from`. -/
def readFrom (env : VisionEnv) : StreamReader VisionAuthRequest := do
  let request ← readFields
  request.check env
  return request

end VisionAuthRequest

/-- `VisionProtocol::is_vision_packet`. -/
def VisionProtocol.isVisionPacket (data : List UInt8) : Bool :=
  2 ≤ data.length && data[0]? == some visionMagicHeader && data[1]? == some visionVersion

end TrojanRust
