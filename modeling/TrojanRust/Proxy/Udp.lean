import TrojanRust.Protocol.Address

/-!
# UDP frames

The frame codec of the UDP path and its own address reader, which is written independently
of `Address.readFrom`: it takes the type byte as an argument and refuses an empty domain.
The first byte of a frame is read apart from the others, because the end of the stream there
is the regular end of the session and anywhere later an error.
-/

namespace TrojanRust

open TrojanRust.Bytes

/-- `CRLF` of `udp.rs`. -/
def crlf : Vector UInt8 2 := ⟨#[0x0d, 0x0a], Eq.refl 2⟩

/-- `UDP_BUFFER_SIZE`. -/
def udpBufferSize : Nat := 65535

/-- `UDP_MAX_PAYLOAD_LEN`. -/
def udpMaxPayloadLen : Nat := 65535

/-- `UdpFrame`. -/
structure UdpFrame where
  /-- Target of a frame from the client. -/
  address : Address
  /-- Datagram to be sent. -/
  payload : List UInt8
  deriving DecidableEq, Repr

/-- `read_target_address`. -/
def readTargetAddress (atyp : UInt8) : StreamReader Address :=
  if atyp = Address.typeIpv4 then do
    let octets ← readExact 4
    let port ← readU16
    return .ipv4 (.new (.v4 ⟨octets⟩) port)
  else if atyp = Address.typeDomain then do
    let len ← readU8
    if len = 0 then .fail (.err (.protocol "Invalid domain length in UDP frame"))
    else do
      let domainBuf ← readExact len.toNat
      let domain ← Address.domainFromUtf8 domainBuf.toList
      let port ← readU16
      return .domain domain port
  else if atyp = Address.typeIpv6 then do
    let octets ← readExact 16
    let port ← readU16
    return .ipv6 (.new (.v6 ⟨octets⟩) port)
  else .fail (.err (.invalidAddressType atyp))

/-- `read_udp_frame` after its first byte. -/
def readUdpFrameBody (atyp : UInt8) : StreamReader UdpFrame := do
  let address ← readTargetAddress atyp
  let payloadLen ← readU16
  let delimiter ← readExact 2
  if delimiter ≠ crlf then .fail (.err (.protocol "Invalid UDP CRLF delimiter"))
  else do
    let payload ← readExact payloadLen.toNat
    return ⟨address, payload.toList⟩

/-- `read_udp_frame`. -/
def readUdpFrame : StreamReader (Option UdpFrame) := do
  match ← Reader.attempt 1 with
  | .ok atyp => do
    let frame ← readUdpFrameBody (u8FromBeBytes atyp)
    return some frame
  | .error .unexpectedEof => return none
  | .error kind => .fail (ioFault kind)

/-- `build_udp_frame`. -/
def buildUdpFrame (addr : SocketAddr) (payload : List UInt8) : Result (List UInt8) :=
  if udpMaxPayloadLen < payload.length then
    err (.protocol "UDP payload exceeds protocol limit")
  else
    let source := match addr with
      | .v4 ip port => Address.typeIpv4 :: (ip.octets.toList ++ (u16ToBeBytes port).toList)
      | .v6 ip port _ _ => Address.typeIpv6 :: (ip.octets.toList ++ (u16ToBeBytes port).toList)
    return source ++ (u16ToBeBytes (UInt16.ofNat payload.length)).toList ++ crlf.toList ++ payload

/-- `resolve_target`, over the answers of `lookup_host`. -/
def resolveTarget (lookupHost : String → UInt16 → Except String (List SocketAddr)) :
    Address → Result SocketAddr
  | .ipv4 addr => .ok addr
  | .ipv6 addr => .ok addr
  | .domain domain port =>
    match lookupHost domain port with
    | .error e => err (.remoteConnectFailed ("failed to resolve " ++ domain ++ ":" ++
        toString port ++ " (" ++ e ++ ")"))
    | .ok [] => err (.remoteConnectFailed ("DNS resolved no addresses for " ++ domain ++ ":" ++
        toString port))
    | .ok (addr :: _) => .ok addr

end TrojanRust
