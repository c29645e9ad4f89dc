import TrojanRust.Net

/-!
# Commands and target addresses

The source's three address codecs: `readFrom` reads an address from a stream, `parseFromBuf`
from a buffer that may not hold all of it yet, and `encode` writes one. They are embedded
separately, as they are written, with the bounds checks and length tests of each; what they
have in common is proved from the grammar `Address.Spells` in the next modules.
-/

namespace TrojanRust

open TrojanRust.Bytes

/-- `Command`. -/
inductive Command where
  | connect
  | udpAssociate
  deriving DecidableEq, Repr

/-- `Command::from_u8`. -/
def Command.fromU8 (value : UInt8) : Result Command :=
  if value = 0x01 then .ok .connect
  else if value = 0x03 then .ok .udpAssociate
  else err (.invalidCommand value)

/-- `Command::as_u8`. -/
def Command.asU8 : Command → UInt8
  | .connect => 0x01
  | .udpAssociate => 0x03

/-- A byte is a command exactly when it is that command's discriminant. -/
theorem Command.fromU8_eq_ok (value : UInt8) (command : Command) :
    Command.fromU8 value = .ok command ↔ value = command.asU8 := by
  unfold Command.fromU8
  split
  · rename_i connect
    subst connect
    cases command <;> simp [Command.asU8]
  · rename_i notConnect
    split
    · rename_i associate
      subst associate
      cases command <;> simp [Command.asU8]
    · rename_i notAssociate
      cases command <;> simp [Command.asU8, err, notConnect, notAssociate]

/-- Every command is read back from its byte. -/
@[simp]
theorem Command.fromU8_asU8 (command : Command) : Command.fromU8 command.asU8 = .ok command :=
  (Command.fromU8_eq_ok _ _).mpr rfl

/-- A refused command byte is reported as it was read. -/
theorem Command.fromU8_eq_error (value : UInt8) (fault : Fault)
    (refused : Command.fromU8 value = .error fault) :
    fault = .err (.invalidCommand value) := by
  unfold Command.fromU8 at refused
  split at refused
  · contradiction
  · split at refused
    · contradiction
    · simpa [err] using refused.symm

/-- `Address`. -/
inductive Address where
  | ipv4 (addr : SocketAddr)
  | ipv6 (addr : SocketAddr)
  | domain (name : String) (port : UInt16)
  deriving DecidableEq, Repr

namespace Address

/-- `Address::TYPE_IPV4`. -/
abbrev typeIpv4 : UInt8 := 0x01

/-- `Address::TYPE_DOMAIN`. -/
abbrev typeDomain : UInt8 := 0x03

/-- `Address::TYPE_IPV6`. -/
abbrev typeIpv6 : UInt8 := 0x04

/-- `String::from_utf8(bytes).map_err(|_| TrojanError::InvalidUtf8)`. -/
def domainFromUtf8 (bytes : List UInt8) : Result String :=
  match fromUtf8 bytes with
  | some name => .ok name
  | none => err .invalidUtf8

/-- `Address::read_from`. -/
def readFrom : StreamReader Address := do
  let addrType ← readU8
  if addrType = typeIpv4 then
    let buf ← readExact 4
    let ip := Ipv4Addr.new buf[0] buf[1] buf[2] buf[3]
    let port ← readU16
    return .ipv4 (.new (.v4 ip) port)
  else if addrType = typeDomain then
    let len ← readU8
    let buf ← readExact len.toNat
    let domain ← domainFromUtf8 buf.toList
    let port ← readU16
    return .domain domain port
  else if addrType = typeIpv6 then
    let buf ← readExact 16
    let ip := Ipv6Addr.new
      (u16FromBeBytes #v[buf[0], buf[1]])
      (u16FromBeBytes #v[buf[2], buf[3]])
      (u16FromBeBytes #v[buf[4], buf[5]])
      (u16FromBeBytes #v[buf[6], buf[7]])
      (u16FromBeBytes #v[buf[8], buf[9]])
      (u16FromBeBytes #v[buf[10], buf[11]])
      (u16FromBeBytes #v[buf[12], buf[13]])
      (u16FromBeBytes #v[buf[14], buf[15]])
    let port ← readU16
    return .ipv6 (.new (.v6 ip) port)
  else .fail (.err (.invalidAddressType addrType))

/-- What `Address::parse_from_buf` returns for "more bytes are needed": an address that is not
to be used, and no length. -/
def needMore : Address × Option Nat := (.domain "" 0, none)

/-- `Address::parse_from_buf`. -/
def parseFromBuf (buf : List UInt8) : Result (Address × Option Nat) :=
  if buf.isEmpty then return needMore
  else do
    let addrType ← index buf 0
    let payload ← sliceFrom buf 1
    if addrType = typeIpv4 then
      if payload.length < 6 then return needMore
      else do
        let ip := Ipv4Addr.new (← index payload 0) (← index payload 1) (← index payload 2)
          (← index payload 3)
        let port := u16FromBeBytes #v[← index payload 4, ← index payload 5]
        return (.ipv4 (.new (.v4 ip) port), some (1 + 6))
    else if addrType = typeDomain then
      if payload.isEmpty then return needMore
      else do
        let domainLen := (← index payload 0).toNat
        if payload.length < 1 + domainLen + 2 then return needMore
        else do
          let domainBytes ← slice payload 1 (1 + domainLen)
          let domain ← domainFromUtf8 domainBytes
          let port := u16FromBeBytes
            #v[← index payload (1 + domainLen), ← index payload (1 + domainLen + 1)]
          return (.domain domain port, some (1 + 1 + domainLen + 2))
    else if addrType = typeIpv6 then
      if payload.length < 18 then return needMore
      else do
        let ip := Ipv6Addr.new
          (u16FromBeBytes #v[← index payload 0, ← index payload 1])
          (u16FromBeBytes #v[← index payload 2, ← index payload 3])
          (u16FromBeBytes #v[← index payload 4, ← index payload 5])
          (u16FromBeBytes #v[← index payload 6, ← index payload 7])
          (u16FromBeBytes #v[← index payload 8, ← index payload 9])
          (u16FromBeBytes #v[← index payload 10, ← index payload 11])
          (u16FromBeBytes #v[← index payload 12, ← index payload 13])
          (u16FromBeBytes #v[← index payload 14, ← index payload 15])
        let port := u16FromBeBytes #v[← index payload 16, ← index payload 17]
        return (.ipv6 (.new (.v6 ip) port), some (1 + 18))
    else err (.invalidAddressType addrType)

/-- `Address::encode`. Each IP variant may hold a socket address of the other family, which is
refused. -/
def encode : Address → Result (List UInt8)
  | .ipv4 (.v4 ip port) => return typeIpv4 :: (ip.octets.toList ++ (u16ToBeBytes port).toList)
  | .ipv4 (.v6 ..) =>
    err (.protocol "Address::IPv4 variant contains non-IPv4 socket address")
  | .domain name port =>
    if (asBytes name).isEmpty ∨ 255 < (asBytes name).length then
      err (.protocol "Domain length must be between 1 and 255 bytes")
    else
      return typeDomain :: UInt8.ofNat (asBytes name).length ::
        (asBytes name ++ (u16ToBeBytes port).toList)
  | .ipv6 (.v6 ip port _ _) =>
    return typeIpv6 :: (ip.octets.toList ++ (u16ToBeBytes port).toList)
  | .ipv6 (.v4 ..) =>
    err (.protocol "Address::IPv6 variant contains non-IPv6 socket address")

end Address

/-- The first four bytes, handed over one by one, are the address itself. -/
@[simp]
theorem Ipv4Addr.new_octets (octets : Vector UInt8 4) :
    Ipv4Addr.new octets[0] octets[1] octets[2] octets[3] = ⟨octets⟩ := by
  have ⟨⟨list⟩, size⟩ := octets
  match list, size with
  | [_, _, _, _], _ => rfl

/-- Grouping sixteen bytes in network order and splitting the groups again changes nothing. -/
@[simp]
theorem Ipv6Addr.new_groups (octets : Vector UInt8 16) :
    Ipv6Addr.new
      (u16FromBeBytes #v[octets[0], octets[1]]) (u16FromBeBytes #v[octets[2], octets[3]])
      (u16FromBeBytes #v[octets[4], octets[5]]) (u16FromBeBytes #v[octets[6], octets[7]])
      (u16FromBeBytes #v[octets[8], octets[9]]) (u16FromBeBytes #v[octets[10], octets[11]])
      (u16FromBeBytes #v[octets[12], octets[13]]) (u16FromBeBytes #v[octets[14], octets[15]]) =
      ⟨octets⟩ := by
  simp only [Ipv6Addr.new, List.flatMap_cons, List.flatMap_nil, u16ToBeBytes_fromBeBytes]
  have ⟨⟨list⟩, size⟩ := octets
  match list, size with
  | [_, _, _, _, _, _, _, _, _, _, _, _, _, _, _, _], _ => rfl

end TrojanRust
