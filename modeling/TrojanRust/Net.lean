import TrojanRust.Bytes.BigEndian
import TrojanRust.Error

/-!
# Standard-library values

Fixed-width words in network order, UTF-8 strings, ASCII classes and IP socket addresses, as
the crate uses them. `Ipv6Addr::new` assembles eight groups while `Ipv6Addr::from` keeps the
sixteen octets; both are given here so that a decoder states which one it calls.
-/

namespace TrojanRust

open TrojanRust.Bytes

/-- `u8::from_be_bytes`, the byte that `read_u8` finds in the array it fills. -/
def u8FromBeBytes (bytes : Vector UInt8 1) : UInt8 := bytes[0]

/-- `u16::from_be_bytes`. -/
def u16FromBeBytes (bytes : Vector UInt8 2) : UInt16 := UInt16.ofNat (beNat bytes.toList)

/-- `u16::to_be_bytes`. -/
def u16ToBeBytes (word : UInt16) : Vector UInt8 2 := beVector 2 word.toNat

/-- `u64::from_be_bytes`, which `read_u64` applies to eight bytes. -/
def u64FromBeBytes (bytes : Vector UInt8 8) : UInt64 := UInt64.ofNat (beNat bytes.toList)

/-- `u64::to_be_bytes`, which `put_u64` writes. -/
def u64ToBeBytes (word : UInt64) : Vector UInt8 8 := beVector 8 word.toNat

/-- Digits of a fixed-size array are written back from their value. -/
theorem beVector_beNat {width : Nat} (bytes : Vector UInt8 width) :
    beVector width (beNat bytes.toList) = bytes := by
  apply Vector.toList_inj.mp
  have same := beBytes_beNat bytes.toList
  rwa [Vector.length_toList] at same

/-- A half word is read back from its digits. -/
@[simp]
theorem u16FromBeBytes_toBeBytes (word : UInt16) : u16FromBeBytes (u16ToBeBytes word) = word := by
  rw [u16FromBeBytes, u16ToBeBytes, beVector_toList, beNat_beBytes 2 _ word.toNat_lt,
    UInt16.ofNat_toNat]

/-- Two digits are written back from their half word. -/
@[simp]
theorem u16ToBeBytes_fromBeBytes (bytes : Vector UInt8 2) :
    u16ToBeBytes (u16FromBeBytes bytes) = bytes := by
  have fits : beNat bytes.toList < 2 ^ 16 := by
    simpa using beNat_lt bytes.toList
  rw [u16ToBeBytes, u16FromBeBytes, UInt16.toNat_ofNat', Nat.mod_eq_of_lt fits, beVector_beNat]

/-- A long word is read back from its digits. -/
@[simp]
theorem u64FromBeBytes_toBeBytes (word : UInt64) : u64FromBeBytes (u64ToBeBytes word) = word := by
  rw [u64FromBeBytes, u64ToBeBytes, beVector_toList, beNat_beBytes 8 _ word.toNat_lt,
    UInt64.ofNat_toNat]

/-- Eight digits are written back from their long word. -/
@[simp]
theorem u64ToBeBytes_fromBeBytes (bytes : Vector UInt8 8) :
    u64ToBeBytes (u64FromBeBytes bytes) = bytes := by
  have fits : beNat bytes.toList < 2 ^ 64 := by
    simpa using beNat_lt bytes.toList
  rw [u64ToBeBytes, u64FromBeBytes, UInt64.toNat_ofNat', Nat.mod_eq_of_lt fits, beVector_beNat]

/-- `reader.read_u8().await?`. -/
def readU8 : StreamReader UInt8 := do
  let bytes ← readExact 1
  return u8FromBeBytes bytes

/-- `reader.read_u16().await?`. -/
def readU16 : StreamReader UInt16 := do
  let bytes ← readExact 2
  return u16FromBeBytes bytes

/-- `reader.read_u64().await?`. -/
def readU64 : StreamReader UInt64 := do
  let bytes ← readExact 8
  return u64FromBeBytes bytes

/-- An array is spelled by its bytes. -/
@[simp]
theorem reads_readExact (count : Nat) (wire : List UInt8) (value : Vector UInt8 count) :
    (readExact count).Reads wire value ↔ wire = value.toList :=
  Reader.reads_exact _ _ _ _

/-- The one byte of a piece. -/
theorem single_toList (bytes : Vector UInt8 1) : bytes.toList = [u8FromBeBytes bytes] := by
  have ⟨⟨list⟩, size⟩ := bytes
  match list, size with
  | [_], _ => rfl

/-- One byte spells itself. -/
@[simp]
theorem reads_readU8 (wire : List UInt8) (byte : UInt8) :
    readU8.Reads wire byte ↔ wire = [byte] := by
  simp only [readU8, Reader.reads_bind_pure, reads_readExact]
  constructor
  · rintro ⟨bytes, rfl, rfl⟩
    exact single_toList bytes
  · rintro rfl
    exact ⟨#v[byte], rfl, rfl⟩

/-- A half word is spelled by its two digits. -/
@[simp]
theorem reads_readU16 (wire : List UInt8) (word : UInt16) :
    readU16.Reads wire word ↔ wire = (u16ToBeBytes word).toList := by
  simp only [readU16, Reader.reads_bind_pure, reads_readExact]
  constructor
  · rintro ⟨bytes, rfl, rfl⟩
    rw [u16ToBeBytes_fromBeBytes]
  · rintro rfl
    exact ⟨u16ToBeBytes word, rfl, u16FromBeBytes_toBeBytes word⟩

/-- A long word is spelled by its eight digits. -/
@[simp]
theorem reads_readU64 (wire : List UInt8) (word : UInt64) :
    readU64.Reads wire word ↔ wire = (u64ToBeBytes word).toList := by
  simp only [readU64, Reader.reads_bind_pure, reads_readExact]
  constructor
  · rintro ⟨bytes, rfl, rfl⟩
    rw [u64ToBeBytes_fromBeBytes]
  · rintro rfl
    exact ⟨u64ToBeBytes word, rfl, u64FromBeBytes_toBeBytes word⟩

/-- An array is read from its bytes. -/
theorem readExact_reads {count : Nat} (bytes : Vector UInt8 count) :
    (readExact count).Reads bytes.toList bytes := (reads_readExact _ _ _).mpr rfl

/-- A byte is read from itself. -/
theorem readU8_reads (byte : UInt8) : readU8.Reads [byte] byte := (reads_readU8 _ _).mpr rfl

/-- A half word is read from its digits. -/
theorem readU16_reads (word : UInt16) : readU16.Reads (u16ToBeBytes word).toList word :=
  (reads_readU16 _ _).mpr rfl

/-- A long word is read from its digits. -/
theorem readU64_reads (word : UInt64) : readU64.Reads (u64ToBeBytes word).toList word :=
  (reads_readU64 _ _).mpr rfl

/-- The bytes of an exact read are indispensable. -/
theorem strict_readExact (count : Nat) : (readExact count).Strict ioFault :=
  Reader.strict_exact _ _

/-- A byte is indispensable. -/
theorem strict_readU8 : readU8.Strict ioFault :=
  (strict_readExact 1).bind fun _ => Reader.strict_pure _ _

/-- Both digits of a half word are indispensable. -/
theorem strict_readU16 : readU16.Strict ioFault :=
  (strict_readExact 2).bind fun _ => Reader.strict_pure _ _

/-- All digits of a long word are indispensable. -/
theorem strict_readU64 : readU64.Strict ioFault :=
  (strict_readExact 8).bind fun _ => Reader.strict_pure _ _

/-- A reader that ends with a value or an error, and never panics. -/
abbrev Safe {α : Type} (reader : StreamReader α) : Prop := reader.Raises (· ≠ .panic)

/-- An exact read never panics. -/
theorem safe_readExact (count : Nat) : Safe (readExact count) :=
  Reader.raises_exact _ _ _ fun stop => by simp [ioFault]

/-- Reading a byte never panics. -/
theorem safe_readU8 : Safe readU8 := (safe_readExact 1).bind fun _ => Reader.raises_pure _ _

/-- Reading a half word never panics. -/
theorem safe_readU16 : Safe readU16 := (safe_readExact 2).bind fun _ => Reader.raises_pure _ _

/-- `str::as_bytes`. -/
def asBytes (text : String) : List UInt8 := text.toByteArray.data.toList

/-- `String::from_utf8`, without its error value. -/
def fromUtf8 (bytes : List UInt8) : Option String := String.fromUTF8? ⟨bytes.toArray⟩

/-- Strings are determined by their bytes. -/
theorem asBytes_inj {left right : String} (same : asBytes left = asBytes right) :
    left = right := by
  apply String.toByteArray_inj.mp
  apply ByteArray.ext
  exact Array.toList_inj.mp same

/-- A string without bytes is the empty string. -/
theorem asBytes_eq_nil (text : String) : asBytes text = [] ↔ text = "" := by
  constructor
  · intro empty
    exact asBytes_inj (by rw [empty]; rfl)
  · rintro rfl
    rfl

/-- The empty string has no bytes. -/
@[simp]
theorem asBytes_empty : asBytes "" = [] := rfl

/-- The bytes of two strings in a row. -/
theorem asBytes_append (left right : String) :
    asBytes (left ++ right) = asBytes left ++ asBytes right := by
  rw [asBytes, String.toByteArray_append, ByteArray.data_append, Array.toList_append]
  rfl

/-- Decoding succeeds exactly on the bytes of the string it returns. -/
theorem fromUtf8_eq_some (bytes : List UInt8) (text : String) :
    fromUtf8 bytes = some text ↔ bytes = asBytes text := by
  simp only [fromUtf8, String.fromUTF8?]
  constructor
  · intro decoded
    split at decoded
    · obtain rfl := Option.some.inj decoded
      rfl
    · contradiction
  · rintro rfl
    have valid : (⟨(asBytes text).toArray⟩ : ByteArray).IsValidUTF8 := text.isValidUTF8
    rw [dif_pos valid]
    rfl

/-- `u8::is_ascii_hexdigit`. -/
def isAsciiHexdigit (byte : UInt8) : Bool :=
  (0x30 ≤ byte && byte ≤ 0x39) || (0x41 ≤ byte && byte ≤ 0x46) || (0x61 ≤ byte && byte ≤ 0x66)

/-- `u8::to_ascii_lowercase`. -/
def toAsciiLowercase (byte : UInt8) : UInt8 :=
  if 0x41 ≤ byte ∧ byte ≤ 0x5a then byte + 0x20 else byte

/-- `<[u8]>::eq_ignore_ascii_case`. -/
def eqIgnoreAsciiCase (left right : List UInt8) : Bool :=
  left.map toAsciiLowercase == right.map toAsciiLowercase

/-- `std::net::Ipv4Addr`. -/
structure Ipv4Addr where
  /-- Address bytes in network order. -/
  octets : Vector UInt8 4
  deriving DecidableEq, Repr

/-- `Ipv4Addr::new`. -/
def Ipv4Addr.new (a b c d : UInt8) : Ipv4Addr := ⟨#v[a, b, c, d]⟩

/-- `std::net::Ipv6Addr`. -/
structure Ipv6Addr where
  /-- Address bytes in network order. -/
  octets : Vector UInt8 16
  deriving DecidableEq, Repr

/-- `Ipv6Addr::new`: eight groups, each stored most significant byte first. -/
def Ipv6Addr.new (a b c d e f g h : UInt16) : Ipv6Addr where
  octets :=
    ⟨([a, b, c, d, e, f, g, h].flatMap fun group => (u16ToBeBytes group).toList).toArray,
      by simp⟩

/-- `std::net::IpAddr`. -/
inductive IpAddr where
  | v4 (ip : Ipv4Addr)
  | v6 (ip : Ipv6Addr)
  deriving DecidableEq, Repr

/-- `std::net::SocketAddr`. -/
inductive SocketAddr where
  | v4 (ip : Ipv4Addr) (port : UInt16)
  | v6 (ip : Ipv6Addr) (port : UInt16) (flowinfo scopeId : UInt32)
  deriving DecidableEq, Repr

/-- `SocketAddr::new`, which leaves flow information and scope at zero. -/
def SocketAddr.new : IpAddr → UInt16 → SocketAddr
  | .v4 ip, port => .v4 ip port
  | .v6 ip, port => .v6 ip port 0 0

/-- `SocketAddr::ip`. -/
def SocketAddr.ip : SocketAddr → IpAddr
  | .v4 ip _ => .v4 ip
  | .v6 ip _ _ _ => .v6 ip

/-- `SocketAddr::port`. -/
def SocketAddr.port : SocketAddr → UInt16
  | .v4 _ port => port
  | .v6 _ port _ _ => port

end TrojanRust
