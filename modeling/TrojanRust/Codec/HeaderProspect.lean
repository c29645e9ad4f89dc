import TrojanRust.Codec.HeaderLaws

/-!
# What a request for more bytes promises

The buffered parser looks at a field only when all of its bytes have arrived, so it may ask for
more although the bytes that are there already rule a header out. `Header.Doomed` lists where
this happens; every other buffer on which the parser asks for more can be completed to a
header.
-/

namespace TrojanRust

open TrojanRust.Bytes

namespace Address

/-- The bytes after a length byte can begin a domain of that length. -/
def NameCompletes (len : UInt8) (payload : List UInt8) : Prop :=
  ∃ name, (asBytes name).length = len.toNat ∧ payload.take len.toNat <+: asBytes name

/-- Bytes that are too few for a host and a port begin one. -/
theorem host_completes (count : Nat) (payload : List UInt8) (short : payload.length < count + 2) :
    ∃ (octets : Vector UInt8 count) (port : UInt16),
      payload <+: octets.toList ++ (u16ToBeBytes port).toList := by
  have padded : count + 2 ≤
      (payload ++ List.replicate (count + 2 - payload.length) (0 : UInt8)).length := by
    rw [List.length_append, List.length_replicate]
    omega
  have ⟨octets, port, rest, split⟩ := split_host count _ padded
  have none : rest = [] := by
    have lengths := congrArg List.length split
    simp only [List.length_append, List.length_replicate, Vector.length_toList] at lengths
    apply List.length_eq_zero_iff.mp
    omega
  rw [none, List.append_nil] at split
  exact ⟨octets, port, _, split⟩

/-- Bytes that are too few for a domain and its port begin one exactly when they can begin the
domain. -/
theorem name_completes (len : UInt8) (payload : List UInt8)
    (short : payload.length < len.toNat + 2) (completes : NameCompletes len payload) :
    ∃ (name : String) (port : UInt16), (asBytes name).length = len.toNat ∧
      payload <+: asBytes name ++ (u16ToBeBytes port).toList := by
  have ⟨name, sized, front⟩ := completes
  by_cases inside : payload.length ≤ len.toNat
  · rw [List.take_of_length_le inside] at front
    exact ⟨name, 0, sized, front.trans (List.prefix_append _ _)⟩
  · -- The name is complete and one byte of the port is there.
    have taken : payload.take len.toNat = asBytes name := by
      apply front.eq_of_length
      rw [List.length_take, sized]
      omega
    have one : (payload.drop len.toNat).length < 0 + 2 := by
      rw [List.length_drop]
      omega
    have ⟨octets, port, more, split⟩ := host_completes 0 (payload.drop len.toNat) one
    have noBytes : octets.toList = [] := List.length_eq_zero_iff.mp Vector.length_toList
    refine ⟨name, port, sized, more, ?_⟩
    rw [noBytes, List.nil_append] at split
    rw [← taken, ← split, ← List.append_assoc, List.take_append_drop]

/-- A buffer that ends too early begins a spelling, unless it ends in a domain that cannot be
completed. -/
theorem Short.completes {part : List UInt8} (short : Short part)
    (name : ∀ len payload, part = 0x03 :: len :: payload → NameCompletes len payload) :
    ∃ (address : Address) (target : List UInt8), address.Spells target ∧ part <+: target := by
  cases short with
  | empty =>
    have spells := Spells.domain "" 0 0 rfl
    exact ⟨_, _, spells, List.nil_prefix⟩
  | ipv4 payload short =>
    have ⟨octets, port, front⟩ := host_completes 4 payload short
    exact ⟨_, _, .ipv4 ⟨octets⟩ port, List.cons_prefix_cons.mpr ⟨rfl, front⟩⟩
  | ipv6 payload short =>
    have ⟨octets, port, front⟩ := host_completes 16 payload short
    exact ⟨_, _, .ipv6 ⟨octets⟩ port, List.cons_prefix_cons.mpr ⟨rfl, front⟩⟩
  | noLength =>
    have spells := Spells.domain "" 0 0 rfl
    exact ⟨_, _, spells, List.cons_prefix_cons.mpr ⟨rfl, List.nil_prefix⟩⟩
  | name len payload short =>
    have ⟨text, port, sized, front⟩ := name_completes len payload short (name len payload rfl)
    refine ⟨_, _, .domain text len port sized, ?_⟩
    exact List.cons_prefix_cons.mpr ⟨rfl, List.cons_prefix_cons.mpr ⟨rfl, front⟩⟩

end Address

namespace Header

/-- Some continuation of the buffer is accepted. -/
def Hopeful (buf : List UInt8) : Prop :=
  ∃ more header, tryParseFromBuf (buf ++ more) = .ok (some header)

/-- The buffers on which the parser asks for more although no continuation is a header: those
whose hash has a byte that is not in hex or is not followed by a carriage return, but that are
too short to be looked at; those that end in a domain whose bytes cannot begin a text of the
announced length; and those that end with one byte after the address that is no carriage
return. -/
inductive Doomed : List UInt8 → Prop
  | hash (buf : List UInt8) (short : buf.length < 58)
      (wrong : ¬ ((buf.take 56).all isAsciiHexdigit ∧ buf.drop 56 <+: [0x0d, 0x0a])) :
    Doomed buf
  | name (hash : Vector UInt8 56) (command : Command) (len : UInt8) (payload : List UInt8)
      (hex : hash.toList.all isAsciiHexdigit) (short : payload.length < len.toNat + 2)
      (wrong : ¬ Address.NameCompletes len payload) :
    Doomed (commandLine hash command.asU8 (0x03 :: len :: payload))
  | ending (hash : Vector UInt8 56) (command : Command) (address : Address)
      (target : List UInt8) (hex : hash.toList.all isAsciiHexdigit)
      (spells : address.Spells target) (byte : UInt8) (wrong : byte ≠ 0x0d) :
    Doomed (commandLine hash command.asU8 (target ++ [byte]))

/-- A buffer with a future begins, or begins with, a header. -/
theorem Hopeful.spelled {buf : List UInt8} (hopeful : Hopeful buf) :
    ∃ (hash : Vector UInt8 56) (command : Command) (address : Address)
      (target more rest : List UInt8), hash.toList.all isAsciiHexdigit ∧ address.Spells target ∧
      buf ++ more = commandLine hash command.asU8 (target ++ (crlf.toList ++ rest)) := by
  have ⟨more, header, parsed⟩ := hopeful
  obtain ⟨wire, rest, split, target, hex, spells, rfl⟩ := (tryParseFromBuf_eq_some _ _).mp parsed
  exact ⟨header.passwordHash, header.command, header.address, target, more, rest, hex, spells,
    by rw [split, commandLine_append, List.append_assoc]⟩

/-- A command line determines its parts. -/
theorem commandLine_inj {hash other : Vector UInt8 56} {value byte : UInt8}
    {part tail : List UInt8} (same : commandLine hash value part = commandLine other byte tail) :
    hash = other ∧ value = byte ∧ part = tail := by
  have split := List.append_inj same (by simp)
  have ⟨hashes, later⟩ := split
  have lines := List.append_inj later rfl
  have ⟨_, bytes⟩ := lines
  have ⟨values, parts⟩ := List.cons.inj bytes
  exact ⟨Vector.toList_inj.mp hashes, values, parts⟩

/-- A buffer whose first fields are not right has no future. -/
theorem hash_of_hopeful {buf : List UInt8} (hopeful : Hopeful buf) (short : buf.length < 58) :
    (buf.take 56).all isAsciiHexdigit ∧ buf.drop 56 <+: [0x0d, 0x0a] := by
  have ⟨hash, command, address, target, more, rest, hex, spells, split⟩ := hopeful.spelled
  have front : buf <+: hash.toList ++ [0x0d, 0x0a] := by
    have whole : buf <+: (hash.toList ++ [0x0d, 0x0a]) ++
        command.asU8 :: (target ++ (crlf.toList ++ rest)) :=
      ⟨more, by rw [split]; simp [commandLine, crlf]⟩
    apply List.prefix_of_prefix_length_le whole (List.prefix_append _ _)
    simp only [List.length_append, Vector.length_toList, List.length_cons, List.length_nil]
    omega
  constructor
  · have taken : buf.take 56 <+: hash.toList := by
      have both := front.take 56
      rwa [List.take_left' (by simp)] at both
    rw [List.all_eq_true] at hex ⊢
    intro byte member
    exact hex byte (taken.subset member)
  · have dropped := front.drop 56
    rwa [List.drop_left' (by simp)] at dropped

/-- A buffer that ends in a domain with a future can complete the domain. -/
theorem name_of_hopeful {hash : Vector UInt8 56} {value len : UInt8} {payload : List UInt8}
    (hopeful : Hopeful (commandLine hash value (0x03 :: len :: payload))) :
    Address.NameCompletes len payload := by
  have ⟨_, command, address, target, more, rest, _, spells, split⟩ := hopeful.spelled
  rw [commandLine_append] at split
  have ⟨_, _, parts⟩ := commandLine_inj split
  cases spells with
  | ipv4 ip port => simp at parts
  | ipv6 ip port => simp at parts
  | domain name size port sized =>
    simp only [List.cons_append, List.cons.injEq, true_and, List.append_assoc] at parts
    obtain ⟨rfl, same⟩ := parts
    refine ⟨name, sized, ?_⟩
    have whole : payload <+: asBytes name ++
        ((u16ToBeBytes port).toList ++ (crlf.toList ++ rest)) := ⟨more, same⟩
    have both := whole.take len.toNat
    rwa [List.take_left' sized] at both

/-- A buffer that ends with one byte after its address has a future only when that byte is a
carriage return. -/
theorem ending_of_hopeful {hash : Vector UInt8 56} {value byte : UInt8} {address : Address}
    {target : List UInt8} (spells : address.Spells target)
    (hopeful : Hopeful (commandLine hash value (target ++ [byte]))) : byte = 0x0d := by
  have ⟨_, command, other, spelling, more, rest, _, again, split⟩ := hopeful.spelled
  rw [commandLine_append, List.append_assoc] at split
  have ⟨_, _, parts⟩ := commandLine_inj split
  have ⟨_, _, same⟩ := spells.unique again parts
  have heads := congrArg List.head? same
  simpa [crlf] using heads

/-- A doomed buffer has no future. -/
theorem Doomed.not_hopeful {buf : List UInt8} (doomed : Doomed buf) : ¬ Hopeful buf := by
  intro hopeful
  cases doomed with
  | hash buf short wrong => exact wrong (hash_of_hopeful hopeful short)
  | name hash command len payload hex short wrong => exact wrong (name_of_hopeful hopeful)
  | ending hash command address target hex spells byte wrong =>
    exact wrong (ending_of_hopeful spells hopeful)

/-- The front of a spelling has a future. -/
theorem Spells.hopeful {header : Header} {wire buf : List UInt8} (spells : header.Spells wire)
    (front : buf <+: wire) : Hopeful buf := by
  obtain ⟨more, rfl⟩ := front
  refine ⟨more, header, ?_⟩
  have parsed := tryParseFromBuf_complete spells []
  rwa [List.append_nil] at parsed

/-- A hash in hex and the front of a line break have a future. -/
theorem hopeful_hash {buf : List UInt8} (hash : Vector UInt8 56)
    (hex : hash.toList.all isAsciiHexdigit) (front : buf <+: hash.toList ++ [0x0d, 0x0a]) :
    Hopeful buf := by
  have target := Address.Spells.domain "" 0 0 rfl
  have spells : Header.Spells ⟨hash, .connect, .domain "" 0⟩ _ := ⟨_, hex, target, rfl⟩
  apply spells.hopeful
  apply front.trans
  rw [commandLine, ← List.append_assoc]
  exact List.prefix_append _ _

/-- A short buffer that is right as far as it goes has a future. -/
theorem hopeful_short {buf : List UInt8} (short : buf.length < 58)
    (right : (buf.take 56).all isAsciiHexdigit ∧ buf.drop 56 <+: [0x0d, 0x0a]) :
    Hopeful buf := by
  have ⟨hex, delimiter⟩ := right
  -- Zeros complete a hash that is not all there.
  have padded : 56 ≤ (buf.take 56 ++ List.replicate (56 - buf.length) (0x30 : UInt8)).length := by
    simp only [List.length_append, List.length_take, List.length_replicate]
    omega
  have ⟨hash, rest, split⟩ := Reader.exists_piece _ 56 padded
  have none : rest = [] := by
    have lengths := congrArg List.length split
    simp only [List.length_append, List.length_take, List.length_replicate,
      Vector.length_toList] at lengths
    apply List.length_eq_zero_iff.mp
    omega
  rw [none, List.append_nil] at split
  have allHex : hash.toList.all isAsciiHexdigit := by
    rw [← split, List.all_append, hex, Bool.true_and, List.all_replicate]
    simp [isAsciiHexdigit]
  apply hopeful_hash hash allHex
  rw [← split]
  by_cases inside : buf.length ≤ 56
  · rw [List.take_of_length_le inside, List.append_assoc]
    exact List.prefix_append _ _
  · have full : 56 - buf.length = 0 := by omega
    rw [full, List.replicate_zero, List.append_nil]
    conv_lhs => rw [← List.take_append_drop 56 buf]
    exact (List.prefix_append_right_inj _).mpr delimiter

/-- The front of an address has a future. -/
theorem hopeful_address {hash : Vector UInt8 56} {command : Command} {address : Address}
    {part target : List UInt8} (hex : hash.toList.all isAsciiHexdigit)
    (spells : address.Spells target) (front : part <+: target ++ crlf.toList) :
    Hopeful (commandLine hash command.asU8 part) := by
  have header : Header.Spells ⟨hash, command, address⟩ _ := ⟨target, hex, spells, rfl⟩
  apply header.hopeful
  have ⟨more, whole⟩ := front
  exact ⟨more, by rw [commandLine_append, whole]⟩

/-- An unfinished buffer has a future unless it is doomed. -/
theorem Unfinished.hopeful {buf : List UInt8} (unfinished : Unfinished buf)
    (notDoomed : ¬ Doomed buf) : Hopeful buf := by
  cases unfinished with
  | hash buf short =>
    apply hopeful_short short
    by_contra wrong
    exact notDoomed (.hash buf short wrong)
  | command hash hex =>
    apply hopeful_hash hash hex
    simp [crlf]
  | address hash command part hex short =>
    have name : ∀ len payload, part = 0x03 :: len :: payload →
        Address.NameCompletes len payload := by
      rintro len payload rfl
      by_contra wrong
      cases short with
      | name _ _ missing => exact notDoomed (.name hash command len payload hex missing wrong)
    obtain ⟨address, target, spells, front⟩ := short.completes name
    exact hopeful_address hex spells (front.trans (List.prefix_append _ _))
  | ending hash command address target rest hex spells short =>
    apply hopeful_address hex spells
    rw [List.prefix_append_right_inj]
    cases rest with
    | nil => exact List.nil_prefix
    | cons byte more =>
      have single : more = [] := by
        apply List.length_eq_zero_iff.mp
        rw [List.length_cons] at short
        omega
      rw [single] at notDoomed ⊢
      have isReturn : byte = 0x0d := by
        by_contra wrong
        exact notDoomed (.ending hash command address target hex spells byte wrong)
      rw [isReturn]
      decide

/-- When the parser asks for more, some continuation is a header exactly when the buffer is not
doomed; and a buffer that no continuation turns into a header is refused with an error unless
it is doomed. -/
theorem asksForMore_hopeful_iff (buf : List UInt8) :
    (tryParseFromBuf buf = .ok none →
      ((∃ more header, tryParseFromBuf (buf ++ more) = .ok (some header)) ↔ ¬ Doomed buf)) ∧
    ((∀ more header, tryParseFromBuf (buf ++ more) ≠ .ok (some header)) → ¬ Doomed buf →
      ∃ error, tryParseFromBuf buf = .error (.err error)) := by
  constructor
  · intro asksForMore
    constructor
    · intro hopeful doomed
      exact doomed.not_hopeful hopeful
    · intro notDoomed
      exact ((tryParseFromBuf_eq_none buf).mp asksForMore).hopeful notDoomed
  · intro hopeless notDoomed
    cases verdict : tryParseFromBuf buf with
    | error fault =>
      have refused := (tryParseFromBuf_eq_error buf fault).mp verdict
      have ⟨error, _, same, _⟩ := readFrom_refuses .unexpectedEof refused
      exact ⟨error, by rw [same]⟩
    | ok accepted =>
      cases accepted with
      | none =>
        have unfinished := (tryParseFromBuf_eq_none buf).mp verdict
        have ⟨more, header, parsed⟩ := unfinished.hopeful notDoomed
        exact absurd parsed (hopeless more header)
      | some header => exact absurd (by rwa [List.append_nil]) (hopeless [] header)

/-- The first line of an HTTP request has no future as a header, and the parser asks for
more. -/
theorem asksForMore_http :
    tryParseFromBuf [0x47, 0x45, 0x54, 0x20, 0x2f, 0x0d, 0x0a] = .ok none ∧
    ∀ more header,
      tryParseFromBuf ([0x47, 0x45, 0x54, 0x20, 0x2f, 0x0d, 0x0a] ++ more) ≠ .ok (some header) := by
  have short : ([0x47, 0x45, 0x54, 0x20, 0x2f, 0x0d, 0x0a] : List UInt8).length < 58 := by decide
  refine ⟨tryParseFromBuf_short short, ?_⟩
  intro more header parsed
  have doomed : Doomed [0x47, 0x45, 0x54, 0x20, 0x2f, 0x0d, 0x0a] :=
    .hash _ short (by decide)
  exact doomed.not_hopeful ⟨more, header, parsed⟩

end Header

end TrojanRust
