import TrojanRust.Net.AddrParserLaws

/-!
# Hosts and ports

What a host and a port are resolved by. A text is tried as a socket address before it is split at
its last colon; a host, be it from a text or from a pair, is tried as an IP address before it is
looked up by name. A socket address is an IPv4 address, or an IPv6 address in brackets, in front
of a port, and so a text can mean an address where the pair that it was printed from is a name.
-/

namespace TrojanRust

open TrojanRust.Bytes TrojanRust.Bytes.TextReader

/-- An address, or the name and port that a resolver is asked for. -/
inductive Endpoint where
  | literal (addr : SocketAddr)
  | name (host : List UInt8) (port : UInt16)
  deriving DecidableEq, Repr

/-- The addresses that a name has, or why there are none. -/
abbrev Resolver := List UInt8 → UInt16 → Except String (List SocketAddr)

namespace Endpoint

/-- The port of an endpoint. -/
def port : Endpoint → UInt16
  | .literal addr => addr.port
  | .name _ port => port

/-- `ToSocketAddrs` of a host and a port, up to the resolver. -/
def ofHost (host : List UInt8) (port : UInt16) : Endpoint :=
  match ipv4FromStr host with
  | some ip => .literal (.new (.v4 ip) port)
  | none =>
    match ipv6FromStr host with
    | some ip => .literal (.new (.v6 ip) port)
    | none => .name host port

/-- `ToSocketAddrs` of a text, up to the resolver. -/
def ofText (text : String) : Except String Endpoint :=
  match SocketAddr.fromStr text with
  | some addr => .ok (.literal addr)
  | none =>
    match rsplitOnce 0x3a (asBytes text) with
    | none => .error "invalid socket address"
    | some (host, port) =>
      match u16FromStr port with
      | none => .error "invalid port value"
      | some port => .ok (ofHost host port)

/-- The addresses of an endpoint. -/
def addrs (resolver : Resolver) : Endpoint → Except String (List SocketAddr)
  | .literal addr => .ok [addr]
  | .name host port => resolver host port

/-- The port of a pair is kept. -/
@[simp]
theorem ofHost_port (host : List UInt8) (port : UInt16) : (ofHost host port).port = port := by
  unfold ofHost
  split
  · rfl
  · split
    · rfl
    · rfl

end Endpoint

/-- A text that is an IPv6 address in square brackets, perhaps with a scope. -/
inductive Brackets : List UInt8 → Ipv6Addr → UInt32 → Prop
  | plain {text : List UInt8} {ip : Ipv6Addr} (address : ipv6FromStr text = some ip) :
    Brackets (0x5b :: (text ++ [0x5d])) ip 0
  | withScope {text digits : List UInt8} {ip : Ipv6Addr} {scope : Nat}
      (address : ipv6FromStr text = some ip)
      (number : AddrParser.readNumber 10 none true (2 ^ 32) digits = some (scope, [])) :
    Brackets (0x5b :: (text ++ 0x25 :: (digits ++ [0x5d]))) ip (.ofNat scope)

/-- It starts with the opening bracket. -/
theorem Brackets.opening {host : List UInt8} {ip : Ipv6Addr} {scope : UInt32}
    (brackets : Brackets host ip scope) : ∃ rest, host = 0x5b :: rest := by
  cases brackets with
  | plain address => exact ⟨_, rfl⟩
  | withScope address number => exact ⟨_, rfl⟩

namespace AddrParser

/-- The port at the end of a socket address is a colon and a number. -/
theorem readPort_eq_some {text : List UInt8} {port : UInt16} :
    readPort text = some (port, []) ↔ ∃ digits number, text = 0x3a :: digits ∧
      readNumber 10 none true (2 ^ 16) digits = some (number, []) ∧ port = .ofNat number := by
  constructor
  · intro read
    have ⟨_, digits, colon, read⟩ := bind_eq_some.mp read
    have ⟨number, rest, spelled, read⟩ := bind_eq_some.mp read
    cases read
    exact ⟨digits, number, readGivenChar_eq_some.mp colon, spelled, rfl⟩
  · intro read
    have ⟨digits, number, split, spelled, same⟩ := read
    subst split same
    have colon : readGivenChar 0x3a (0x3a :: digits) = some ((), digits) :=
      readGivenChar_eq_some.mpr rfl
    exact bind_eq_some.mpr ⟨(), digits, colon, bind_eq_some.mpr ⟨number, [], spelled, rfl⟩⟩

/-- An IPv4 socket address is an IPv4 address in front of a port. -/
theorem readSocketAddrV4_eq_some {text : List UInt8} {addr : SocketAddr} :
    readSocketAddrV4 text = some (addr, []) ↔ ∃ host digits ip number,
      text = host ++ 0x3a :: digits ∧ ipv4FromStr host = some ip ∧
        readNumber 10 none true (2 ^ 16) digits = some (number, []) ∧
          addr = .v4 ip (.ofNat number) := by
  have stops : StopsAt 0x3a readIpv4Addr := readIpv4Addr_stops (by decide) (by decide)
  constructor
  · intro read
    have ⟨ip, afterIp, address, read⟩ := bind_eq_some.mp read
    have ⟨port, rest, ended, read⟩ := bind_eq_some.mp read
    cases read
    have ⟨digits, number, split, spelled, same⟩ := readPort_eq_some.mp ended
    subst split same
    have ⟨host, split, whole⟩ := stops.taken address
    exact ⟨host, digits, ip, number, split, whole_eq_some.mpr whole, spelled, rfl⟩
  · intro read
    have ⟨host, digits, ip, number, split, whole, spelled, same⟩ := read
    subst split same
    have address := stops.before (whole_eq_some.mp whole) digits
    have ended := readPort_eq_some.mpr ⟨digits, number, rfl, spelled, rfl⟩
    exact bind_eq_some.mpr ⟨ip, _, address, bind_eq_some.mpr ⟨_, [], ended, rfl⟩⟩

/-- In front of a closing bracket stands a scope, or nothing. -/
theorem readScopeId_closing {text rest : List UInt8} {scope : UInt32} :
    (readScopeId <|> return 0) text = some (scope, 0x5d :: rest) ↔
      text = 0x5d :: rest ∧ scope = 0 ∨
        ∃ digits number, text = 0x25 :: (digits ++ 0x5d :: rest) ∧
          readNumber 10 none true (2 ^ 32) digits = some (number, []) ∧
            scope = .ofNat number := by
  have stops : StopsAt 0x5d (readNumber 10 none true (2 ^ 32)) :=
    readNumber_stops foreign_closing.notDecimal _ _ _
  constructor
  · intro read
    cases tried : readScopeId text with
    | none =>
      rw [orElse_of_none tried] at read
      cases read
      exact .inl ⟨rfl, rfl⟩
    | some found =>
      rcases found with ⟨value, after⟩
      rw [orElse_of_some tried] at read
      cases read
      have ⟨_, numbered, percent, tried⟩ := bind_eq_some.mp tried
      have ⟨number, after, spelled, tried⟩ := bind_eq_some.mp tried
      cases tried
      have ⟨digits, split, whole⟩ := stops.taken spelled
      rw [readGivenChar_eq_some, split] at percent
      exact .inr ⟨digits, number, percent, whole, rfl⟩
  · intro read
    rcases read with ⟨split, same⟩ | ⟨digits, number, split, whole, same⟩
    · subst split same
      have percent : readGivenChar 0x25 (0x5d :: rest) = none := by
        rw [readGivenChar_cons, if_neg (by decide)]
      exact orElse_of_none (bind_of_none percent _)
    · subst split same
      have percent : readGivenChar 0x25 (0x25 :: (digits ++ 0x5d :: rest)) =
          some ((), digits ++ 0x5d :: rest) := readGivenChar_eq_some.mpr rfl
      have spelled := stops.before whole rest
      apply orElse_of_some
      exact bind_eq_some.mpr ⟨(), _, percent, bind_eq_some.mpr ⟨number, _, spelled, rfl⟩⟩

/-- A text starts with a bracketed address when its parts are read one after the other. -/
theorem brackets_iff {text rest : List UInt8} {ip : Ipv6Addr} {scope : UInt32} :
    (∃ host, text = host ++ rest ∧ Brackets host ip scope) ↔
      ∃ afterOpening afterIp, text = 0x5b :: afterOpening ∧
        readIpv6Addr afterOpening = some (ip, afterIp) ∧
          (readScopeId <|> return 0) afterIp = some (scope, 0x5d :: rest) := by
  have closing := readIpv6Addr_stops foreign_closing
  have percent := readIpv6Addr_stops foreign_percent
  constructor
  · intro read
    have ⟨host, split, brackets⟩ := read
    subst split
    cases brackets with
    | plain address =>
      have before := closing.before (whole_eq_some.mp address) rest
      exact ⟨_, _, by simp, before, readScopeId_closing.mpr (.inl ⟨rfl, rfl⟩)⟩
    | @withScope _ digits _ _ address number =>
      have before := percent.before (whole_eq_some.mp address) (digits ++ 0x5d :: rest)
      exact ⟨_, _, by simp, before,
        readScopeId_closing.mpr (.inr ⟨_, _, rfl, number, rfl⟩)⟩
  · intro read
    have ⟨afterOpening, afterIp, opening, address, zone⟩ := read
    subst opening
    rcases readScopeId_closing.mp zone with ⟨split, same⟩ | ⟨digits, number, split, zoned, same⟩
    · subst split same
      have ⟨front, split, whole⟩ := closing.taken address
      exact ⟨_, by simp [split], .plain (whole_eq_some.mpr whole)⟩
    · subst split same
      have ⟨front, split, whole⟩ := percent.taken address
      exact ⟨_, by simp [split], .withScope (whole_eq_some.mpr whole) zoned⟩

/-- An IPv6 socket address is an IPv6 address in brackets in front of a port. -/
theorem readSocketAddrV6_eq_some {text : List UInt8} {addr : SocketAddr} :
    readSocketAddrV6 text = some (addr, []) ↔ ∃ host digits ip scope number,
      text = host ++ 0x3a :: digits ∧ Brackets host ip scope ∧
        readNumber 10 none true (2 ^ 16) digits = some (number, []) ∧
          addr = .v6 ip (.ofNat number) 0 scope := by
  constructor
  · intro read
    have ⟨_, afterOpening, opened, read⟩ := bind_eq_some.mp read
    have ⟨ip, afterIp, address, read⟩ := bind_eq_some.mp read
    have ⟨scope, afterScope, zone, read⟩ := bind_eq_some.mp read
    have ⟨_, afterClosing, closed, read⟩ := bind_eq_some.mp read
    have ⟨port, rest, ended, read⟩ := bind_eq_some.mp read
    cases read
    have ⟨digits, number, split, spelled, same⟩ := readPort_eq_some.mp ended
    rw [readGivenChar_eq_some] at opened closed
    subst split same closed
    have ⟨host, split, brackets⟩ := brackets_iff.mpr ⟨_, _, opened, address, zone⟩
    exact ⟨host, digits, ip, scope, number, split, brackets, spelled, rfl⟩
  · intro read
    have ⟨host, digits, ip, scope, number, split, brackets, spelled, same⟩ := read
    have ⟨afterOpening, afterIp, opening, address, zone⟩ := brackets_iff.mp ⟨host, split, brackets⟩
    subst opening same
    have opened : readGivenChar 0x5b (0x5b :: afterOpening) = some ((), afterOpening) :=
      readGivenChar_eq_some.mpr rfl
    have closed : readGivenChar 0x5d (0x5d :: 0x3a :: digits) = some ((), 0x3a :: digits) :=
      readGivenChar_eq_some.mpr rfl
    have ended := readPort_eq_some.mpr ⟨digits, number, rfl, spelled, rfl⟩
    exact bind_eq_some.mpr ⟨_, _, opened, bind_eq_some.mpr ⟨_, _, address, bind_eq_some.mpr
      ⟨_, _, zone, bind_eq_some.mpr ⟨_, _, closed, bind_eq_some.mpr ⟨_, [], ended, rfl⟩⟩⟩⟩⟩

/-- No IPv4 address starts with an opening bracket. -/
theorem readIpv4Addr_opening (text : List UInt8) : readIpv4Addr (0x5b :: text) = none :=
  (readIpv4Addr_stops foreign_opening.notDot foreign_opening.notDecimal).alone [] text

end AddrParser

/-- A text in brackets is no IPv4 address. -/
theorem ipv4FromStr_opening (text : List UInt8) : ipv4FromStr (0x5b :: text) = none := by
  rw [ipv4FromStr, whole, AddrParser.readIpv4Addr_opening]

/-- A text in brackets is no IPv6 address. -/
theorem ipv6FromStr_opening (text : List UInt8) : ipv6FromStr (0x5b :: text) = none := by
  have read : AddrParser.readIpv6Addr (0x5b :: text) = none :=
    (AddrParser.readIpv6Addr_stops AddrParser.foreign_opening).alone [] text
  rw [ipv6FromStr, whole, read]

/-- A socket address is read as a whole. -/
theorem SocketAddr.fromStr_eq_whole (text : String) :
    SocketAddr.fromStr text = whole AddrParser.readSocketAddr (asBytes text) := by
  unfold SocketAddr.fromStr whole
  cases AddrParser.readSocketAddr (asBytes text) with
  | none => rfl
  | some found =>
    rcases found with ⟨addr, rest⟩
    cases rest with
    | nil => rfl
    | cons byte rest => rfl

/-- A text is a socket address when it is an IPv4 address, or an IPv6 address in brackets, in
front of a port. -/
theorem SocketAddr.fromStr_eq_some {text : String} {addr : SocketAddr} :
    SocketAddr.fromStr text = some addr ↔ ∃ host digits number,
      asBytes text = host ++ 0x3a :: digits ∧
        AddrParser.readNumber 10 none true (2 ^ 16) digits = some (number, []) ∧
          ((∃ ip, ipv4FromStr host = some ip ∧ addr = .v4 ip (.ofNat number)) ∨
            ∃ ip scope, Brackets host ip scope ∧ addr = .v6 ip (.ofNat number) 0 scope) := by
  have read : SocketAddr.fromStr text = some addr ↔
      AddrParser.readSocketAddr (asBytes text) = some (addr, []) := by
    rw [SocketAddr.fromStr_eq_whole, whole_eq_some]
  rw [read]
  constructor
  · intro found
    cases tried : AddrParser.readSocketAddrV4 (asBytes text) with
    | none =>
      have v6 : AddrParser.readSocketAddrV6 (asBytes text) = some (addr, []) :=
        (orElse_of_none tried).symm.trans found
      have ⟨host, digits, ip, scope, number, split, brackets, spelled, same⟩ :=
        AddrParser.readSocketAddrV6_eq_some.mp v6
      exact ⟨host, digits, number, split, spelled, .inr ⟨ip, scope, brackets, same⟩⟩
    | some taken =>
      have same : some taken = some (addr, []) := (orElse_of_some tried).symm.trans found
      have ⟨host, digits, ip, number, split, whole, spelled, same⟩ :=
        AddrParser.readSocketAddrV4_eq_some.mp (tried.trans same)
      exact ⟨host, digits, number, split, spelled, .inl ⟨ip, whole, same⟩⟩
  · intro found
    have ⟨host, digits, number, split, spelled, address⟩ := found
    rcases address with ⟨ip, whole, same⟩ | ⟨ip, scope, brackets, same⟩
    · have v4 := AddrParser.readSocketAddrV4_eq_some.mpr
        ⟨host, digits, ip, number, split, whole, spelled, same⟩
      exact orElse_of_some v4
    · have v6 := AddrParser.readSocketAddrV6_eq_some.mpr
        ⟨host, digits, ip, scope, number, split, brackets, spelled, same⟩
      have ⟨rest, opening⟩ := brackets.opening
      have v4 : AddrParser.readSocketAddrV4 (asBytes text) = none := by
        rw [split, opening]
        exact bind_of_none (AddrParser.readIpv4Addr_opening _) _
      exact (orElse_of_none v4).trans v6

/-- No colon is in the printed port of a text. -/
theorem colon_not_mem_port (port : UInt16) : 0x3a ∉ asBytes (toString port.toNat) :=
  (AddrParser.readNumber_stops (by decide) none true (2 ^ 16)).not_mem
    (AddrParser.readNumber_toString port)

/-- The bytes of a printed host and port. -/
theorem asBytes_hostPort (host : String) (port : UInt16) :
    asBytes (host ++ ":" ++ toString port.toNat) =
      asBytes host ++ 0x3a :: asBytes (toString port.toNat) := by
  have colon : asBytes ":" = [0x3a] := by decide +kernel
  rw [asBytes_append, asBytes_append, colon, List.append_assoc]
  rfl

/-- A printed host and port is a socket address when the host is an IPv4 address, or an IPv6
address in brackets. -/
theorem SocketAddr.fromStr_hostPort {host : String} {port : UInt16} {addr : SocketAddr} :
    SocketAddr.fromStr (host ++ ":" ++ toString port.toNat) = some addr ↔
      (∃ ip, ipv4FromStr (asBytes host) = some ip ∧ addr = .v4 ip port) ∨
        ∃ ip scope, Brackets (asBytes host) ip scope ∧ addr = .v6 ip port 0 scope := by
  rw [SocketAddr.fromStr_eq_some, asBytes_hostPort]
  have printed := AddrParser.readNumber_toString port
  constructor
  · intro found
    have ⟨front, digits, number, split, spelled, address⟩ := found
    have colon : 0x3a ∉ digits :=
      (AddrParser.readNumber_stops (by decide) none true (2 ^ 16)).not_mem spelled
    have ⟨sameHost, sameDigits⟩ := split_unique split (colon_not_mem_port port) colon
    subst sameHost sameDigits
    rw [printed] at spelled
    cases spelled
    rwa [UInt16.ofNat_toNat] at address
  · intro address
    refine ⟨asBytes host, _, port.toNat, rfl, printed, ?_⟩
    rwa [UInt16.ofNat_toNat]

namespace Endpoint

/-- A printed IPv6 address in brackets is an address and no name. -/
theorem ofText_brackets {host : String} {ip : Ipv6Addr} {scope : UInt32}
    (brackets : Brackets (asBytes host) ip scope) (port : UInt16) :
    ofText (host ++ ":" ++ toString port.toNat) = .ok (.literal (.v6 ip port 0 scope)) := by
  have parsed := SocketAddr.fromStr_hostPort.mpr (.inr ⟨ip, scope, brackets, Eq.refl
    (SocketAddr.v6 ip port 0 scope)⟩)
  rw [ofText, parsed]

/-- As a host it is a name and no address. -/
theorem ofHost_brackets {host : List UInt8} {ip : Ipv6Addr} {scope : UInt32}
    (brackets : Brackets host ip scope) (port : UInt16) : ofHost host port = .name host port := by
  have ⟨rest, opening⟩ := brackets.opening
  rw [opening, ofHost, ipv4FromStr_opening, ipv6FromStr_opening]

/-- Every other host and port is printed as a text that means the same. -/
theorem ofText_hostPort {host : String} (plain : ¬ ∃ ip scope, Brackets (asBytes host) ip scope)
    (port : UInt16) :
    ofText (host ++ ":" ++ toString port.toNat) = .ok (ofHost (asBytes host) port) := by
  cases parsed : SocketAddr.fromStr (host ++ ":" ++ toString port.toNat) with
  | none =>
    have split := rsplitOnce_append (asBytes host) (colon_not_mem_port port)
    have number := u16FromStr_of_number (AddrParser.readNumber_toString port)
    rw [UInt16.ofNat_toNat] at number
    rw [ofText, parsed, asBytes_hostPort, split]
    dsimp only
    rw [number]
  | some addr =>
    rcases SocketAddr.fromStr_hostPort.mp parsed with ⟨ip, address, same⟩ | ⟨ip, scope, brackets, _⟩
    · rw [ofText, parsed, ofHost, address, same]
      rfl
    · exact absurd ⟨ip, scope, brackets⟩ plain

end Endpoint

end TrojanRust
