import TrojanRust.Protocol.Address

/-!
# The Trojan request header

A header is a password hash in hex, a line break, a command byte, a target address and another
line break. The source parses it twice: `readFrom` from a stream, and `tryParseFromBuf` from
the bytes peeked so far, which may end anywhere. A third function, `computeHeaderEnd` of the
server, finds out how many of the peeked bytes the header took by parsing the address again.
-/

namespace TrojanRust

open TrojanRust.Bytes

/-- `PEEK_SIZE`. -/
def peekSize : Nat := 512

/-- `Header`. -/
structure Header where
  /-- Hash in hex, as the client spelled it. -/
  passwordHash : Vector UInt8 56
  command : Command
  address : Address
  deriving DecidableEq, Repr

namespace Header

/-- `Header::CRLF`. -/
def crlf : Vector UInt8 2 := #v[0x0d, 0x0a]

/-- `Header::PASSWORD_HEX_LEN`. -/
abbrev passwordHexLen : Nat := 56

/-- `expect_crlf`. -/
def expectCrlf (field : String) : StreamReader Unit := do
  let delimiter ← readExact 2
  if delimiter ≠ crlf then .fail (.err (.protocol ("Invalid CRLF after " ++ field)))
  else return ()

/-- `Header::read_from`. -/
def readFrom : StreamReader Header := do
  let passwordHash ← readExact passwordHexLen
  if ¬ passwordHash.toList.all isAsciiHexdigit then
    .fail (.err (.protocol "Invalid password hash format: expected 56-byte hex string"))
  else do
    expectCrlf "password hash"
    let cmdByte ← readU8
    let command ← Command.fromU8 cmdByte
    let address ← Address.readFrom
    expectCrlf "target address"
    return ⟨passwordHash, command, address⟩

/-- `buf[pos] != 0x0d || buf[pos + 1] != 0x0a`. -/
def missesCrlf (buf : List UInt8) (pos : Nat) : Result Bool := do
  if (← index buf pos) ≠ 0x0d then return true
  else return (← index buf (pos + 1)) ≠ 0x0a

/-- `Header::try_parse_from_buf`. -/
def tryParseFromBuf (buf : List UInt8) : Result (Option Header) :=
  if buf.length < passwordHexLen + 2 then return none
  else do
    let passwordHashSlice ← slice buf 0 passwordHexLen
    if ¬ passwordHashSlice.all isAsciiHexdigit then
      err (.protocol "Invalid password hash: not hex digits")
    else do
      let passwordHash ← copyFromSlice passwordHexLen passwordHashSlice
      let pos := passwordHexLen
      if buf.length < pos + 2 then return none
      else if ← missesCrlf buf pos then
        err (.protocol "Missing CRLF after password hash")
      else do
        let pos := pos + 2
        if buf.length < pos + 1 then return none
        else do
          let command ← Command.fromU8 (← index buf pos)
          let pos := pos + 1
          match ← Address.parseFromBuf (← sliceFrom buf pos) with
          | (_, none) => return none
          | (address, some addrEnd) =>
            let pos := pos + addrEnd
            if buf.length < pos + 2 then return none
            else if ← missesCrlf buf pos then
              err (.protocol "Missing CRLF after target address")
            else return some ⟨passwordHash, command, address⟩

/-- `Header::verify_password`. -/
def verifyPassword (header : Header) (passwordHashes : List String) : Bool :=
  passwordHashes.any fun expected =>
    (asBytes expected).length == passwordHexLen &&
      eqIgnoreAsciiCase (asBytes expected) header.passwordHash.toList

end Header

/-- `compute_header_end`. -/
def computeHeaderEnd (_header : Header) (buf : List UInt8) : Result Nat :=
  let addrStart := Header.passwordHexLen + 2 + 1
  if buf.length ≤ addrStart then return buf.length
  else do
    match Address.parseFromBuf (← sliceFrom buf addrStart) with
    | .ok (_, some addrLen) => return addrStart + addrLen + 2
    | .ok (_, none) => return buf.length
    | .error (.err _) => return buf.length
    | .error .panic => .error .panic

end TrojanRust
