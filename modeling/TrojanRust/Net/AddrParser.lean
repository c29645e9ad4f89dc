import TrojanRust.Bytes.TextReader
import TrojanRust.Net

/-!
# Socket addresses as text

The parser behind `str::parse::<SocketAddr>`, the parser of port numbers, and the split at a last
separator. Every reader either takes a front of the text or fails and takes nothing, so trying one
reader and then another needs no restoring.
-/

namespace TrojanRust

open TrojanRust.Bytes

/-- A reader of the standard library's address parser. -/
abbrev AddrParser := StateT (List UInt8) Option

namespace AddrParser

/-- `read_char`. -/
def readChar : AddrParser UInt8
  | [] => none
  | byte :: rest => some (byte, rest)

/-- `read_given_char`. -/
def readGivenChar (target : UInt8) : AddrParser Unit := do
  let byte ← readChar
  if byte = target then return () else failure

/-- `read_separator`: the first item has no separator in front. -/
def readSeparator {α : Type} (separator : UInt8) (index : Nat) (inner : AddrParser α) :
    AddrParser α := do
  if 0 < index then readGivenChar separator
  inner

/-- `char::to_digit`. -/
def toDigit (radix : Nat) (byte : UInt8) : Option Nat :=
  let digit :=
    if 0x30 ≤ byte ∧ byte ≤ 0x39 then byte.toNat - 0x30
    else if 0x61 ≤ byte ∧ byte ≤ 0x7a then byte.toNat - 0x61 + 10
    else if 0x41 ≤ byte ∧ byte ≤ 0x5a then byte.toNat - 0x41 + 10
    else radix
  if digit < radix then some digit else none

/-- The digits that a text starts with, and what follows them. -/
def readDigits (radix : Nat) : List UInt8 → List Nat × List UInt8
  | [] => ([], [])
  | byte :: rest =>
    match toDigit radix byte with
    | some digit =>
      let (digits, after) := readDigits radix rest
      (digit :: digits, after)
    | none => ([], byte :: rest)

/-- The number that digits spell, most significant first. -/
def ofDigits (radix : Nat) (digits : List Nat) : Nat :=
  digits.foldl (fun number digit => number * radix + digit) 0

/-- `read_number` of a type that holds the numbers below a bound. A number that fits has
overflowed at none of its digits. -/
def readNumber (radix : Nat) (maxDigits : Option Nat) (allowZeroPrefix : Bool) (bound : Nat) :
    AddrParser Nat := fun text =>
  let (digits, rest) := readDigits radix text
  if maxDigits.any (· < digits.length) then none
  else if digits.isEmpty then none
  else if ¬ allowZeroPrefix ∧ digits.head? = some 0 ∧ 1 < digits.length then none
  else if bound ≤ ofDigits radix digits then none
  else some (ofDigits radix digits, rest)

/-- `read_ipv4_addr`. -/
def readIpv4Addr : AddrParser Ipv4Addr := do
  let octet := fun index => readSeparator 0x2e index (readNumber 10 (some 3) false (2 ^ 8))
  let a ← octet 0
  let b ← octet 1
  let c ← octet 2
  let d ← octet 3
  return .new (.ofNat a) (.ofNat b) (.ofNat c) (.ofNat d)

/-- The groups that octets make up in pairs. -/
def groupsOf : List UInt8 → List UInt16
  | high :: low :: rest => UInt16.ofNat (high.toNat * 2 ^ 8 + low.toNat) :: groupsOf rest
  | _ => []

/-- `read_groups` from the group with this index on, of which so many are left. Also says whether
the last two groups were an embedded IPv4 address. -/
def readGroups (index : Nat) : Nat → List UInt8 → (List UInt16 × Bool) × List UInt8
  | 0, text => (([], false), text)
  | left + 1, text =>
    -- An embedded address takes two groups.
    match if 0 < left then readSeparator 0x3a index readIpv4Addr text else none with
    | some (ip, rest) => ((groupsOf ip.octets.toList, true), rest)
    | none =>
      match readSeparator 0x3a index (readNumber 16 (some 4) true (2 ^ 16)) text with
      | some (group, rest) =>
        let ((groups, embedded), after) := readGroups (index + 1) left rest
        ((.ofNat group :: groups, embedded), after)
      | none => (([], false), text)

/-- `Ipv6Addr::from` of eight groups. -/
def ipv6FromGroups : List UInt16 → AddrParser Ipv6Addr
  | [a, b, c, d, e, f, g, h] => return .new a b c d e f g h
  | _ => failure

/-- `read_ipv6_addr`: eight groups, or a front and a back with zeros between them. -/
def readIpv6Addr : AddrParser Ipv6Addr := do
  let (head, embedded) ← fun text => some (readGroups 0 8 text)
  if head.length = 8 then ipv6FromGroups head
  else if embedded then failure
  else do
    readGivenChar 0x3a
    readGivenChar 0x3a
    let (tail, _) ← fun text => some (readGroups 0 (8 - (head.length + 1)) text)
    ipv6FromGroups (head ++ List.replicate (8 - tail.length - head.length) 0 ++ tail)

/-- `read_port`. -/
def readPort : AddrParser UInt16 := do
  readGivenChar 0x3a
  let port ← readNumber 10 none true (2 ^ 16)
  return .ofNat port

/-- `read_scope_id`. -/
def readScopeId : AddrParser UInt32 := do
  readGivenChar 0x25
  let scopeId ← readNumber 10 none true (2 ^ 32)
  return .ofNat scopeId

/-- `read_socket_addr_v4`. -/
def readSocketAddrV4 : AddrParser SocketAddr := do
  let ip ← readIpv4Addr
  let port ← readPort
  return .v4 ip port

/-- `read_socket_addr_v6`. -/
def readSocketAddrV6 : AddrParser SocketAddr := do
  readGivenChar 0x5b
  let ip ← readIpv6Addr
  let scopeId ← readScopeId <|> return 0
  readGivenChar 0x5d
  let port ← readPort
  return .v6 ip port 0 scopeId

/-- `read_socket_addr`. -/
def readSocketAddr : AddrParser SocketAddr := readSocketAddrV4 <|> readSocketAddrV6

end AddrParser

/-- `str::parse::<SocketAddr>`, without its error value. The whole text has to be read. -/
def SocketAddr.fromStr (text : String) : Option SocketAddr :=
  match AddrParser.readSocketAddr (asBytes text) with
  | some (addr, []) => some addr
  | _ => none

/-- `str::parse::<Ipv4Addr>`, without its error value. -/
def ipv4FromStr (text : List UInt8) : Option Ipv4Addr :=
  TextReader.whole AddrParser.readIpv4Addr text

/-- `str::parse::<Ipv6Addr>`, without its error value. -/
def ipv6FromStr (text : List UInt8) : Option Ipv6Addr :=
  TextReader.whole AddrParser.readIpv6Addr text

/-- `str::parse::<u16>`, without its error value: digits after an optional plus sign. -/
def u16FromStr (text : List UInt8) : Option UInt16 :=
  let unsigned := if text.head? = some 0x2b then text.tail else text
  match AddrParser.readDigits 10 unsigned with
  | ([], _) => none
  | (digits, []) =>
    if AddrParser.ofDigits 10 digits < 2 ^ 16 then some (.ofNat (AddrParser.ofDigits 10 digits))
    else none
  | _ => none

/-- `str::rsplit_once` at a separator of one byte. -/
def rsplitOnce (separator : UInt8) : List UInt8 → Option (List UInt8 × List UInt8)
  | [] => none
  | byte :: rest =>
    match rsplitOnce separator rest with
    | some (before, after) => some (byte :: before, after)
    | none => if byte = separator then some ([], rest) else none

/-- Groups around a gap, of which the last two are an IPv4 address, with a scope. -/
example : SocketAddr.fromStr "[fe80::1:10.0.0.1%7]:443" =
    some (.v6 (.new 0xfe80 0 0 0 0 1 0x0a00 0x0001) 443 0 7) := by decide +kernel

end TrojanRust
