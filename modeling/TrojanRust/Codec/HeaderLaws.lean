import TrojanRust.Codec.Header

/-!
# Agreement of the header parsers

The stream reader spells headers by the same grammar as the buffered parser accepts, the end
that the server computes is the length of the spelling, and a buffer that one of the two
parsers refuses is refused by the other for the same reason. The stream reader fails on every
buffer on which the buffered parser asks for more.
-/

namespace TrojanRust

open TrojanRust.Bytes

namespace Header

/-- An expected line break is spelled by itself. -/
theorem reads_expectCrlf (field : String) (wire : List UInt8) (done : Unit) :
    (expectCrlf field).Reads wire done ↔ wire = crlf.toList := by
  unfold expectCrlf
  constructor
  · intro reads
    obtain ⟨first, second, delimiter, rfl, read, checked⟩ :=
      (Reader.reads_bind _ _ _ _).mp reads
    obtain rfl := (reads_readExact _ _ _).mp read
    split at checked
    · exact absurd checked (Reader.reads_fail _ _ _)
    · rename_i isCrlf
      obtain ⟨rfl, _⟩ := (Reader.reads_pure _ _ _).mp checked
      rw [List.append_nil, not_not.mp isCrlf]
  · rintro rfl
    rw [← List.append_nil crlf.toList]
    apply (readExact_reads crlf).bind
    rw [if_neg (by simp)]
    exact (Reader.reads_pure _ _ _).mpr ⟨rfl, rfl⟩

/-- The stream reader spells headers by the grammar. -/
theorem reads_readFrom (wire : List UInt8) (header : Header) :
    readFrom.Reads wire header ↔ header.Spells wire := by
  unfold readFrom
  constructor
  · intro reads
    obtain ⟨first, second, hash, rfl, readHash, later⟩ := (Reader.reads_bind _ _ _ _).mp reads
    obtain rfl := (reads_readExact _ _ _).mp readHash
    split at later
    · exact absurd later (Reader.reads_fail _ _ _)
    · rename_i isHex
      simp only [Reader.reads_bind, reads_expectCrlf, reads_readU8, Reader.reads_lift,
        Command.fromU8_eq_ok, Address.reads_readFrom, Reader.reads_pure] at later
      obtain ⟨_, _, _, rfl, rfl, _, _, value, rfl, rfl, _, _, command, rfl, ⟨rfl, rfl⟩, target, _,
        address, rfl, spells, _, _, _, rfl, rfl, rfl, rfl⟩ := later
      exact ⟨target, not_not.mp isHex, spells, by simp [commandLine]⟩
  · rintro ⟨target, hex, spells, rfl⟩
    apply (readExact_reads header.passwordHash).bind
    rw [if_neg (not_not.mpr hex)]
    apply ((reads_expectCrlf _ _ ()).mpr rfl).bind
    apply (readU8_reads header.command.asU8).bind
    rw [Reader.reads_lift_bind]
    refine ⟨header.command, Command.fromU8_asU8 _, ?_⟩
    apply ((Address.reads_readFrom _ _).mpr spells).bind
    rw [Reader.reads_bind_pure]
    exact ⟨(), (reads_expectCrlf _ _ _).mpr rfl, rfl⟩

/-- Both bytes of a line break are indispensable. -/
theorem strict_expectCrlf (field : String) : (expectCrlf field).Strict ioFault := by
  refine (strict_readExact 2).bind fun delimiter => ?_
  split
  · exact Reader.strict_fail _ _
  · exact Reader.strict_pure _ _

/-- Every piece of a header is indispensable. -/
theorem strict_readFrom : readFrom.Strict ioFault := by
  refine (strict_readExact _).bind fun hash => ?_
  split
  · exact Reader.strict_fail _ _
  · exact (strict_expectCrlf _).bind fun _ => strict_readU8.bind fun value =>
      (Reader.strict_lift _ _).bind fun command => Address.strict_readFrom.bind fun address =>
        (strict_expectCrlf _).bind fun _ => Reader.strict_pure _ _

/-- Expecting a line break never panics. -/
theorem safe_expectCrlf (field : String) : Safe (expectCrlf field) := by
  refine (safe_readExact 2).bind fun delimiter => ?_
  split
  · simp
  · exact Reader.raises_pure _ _

/-- Reading a header never panics. -/
theorem safe_readFrom : Safe readFrom := by
  refine (safe_readExact _).bind fun hash => ?_
  split
  · simp
  · refine (safe_expectCrlf _).bind fun _ => safe_readU8.bind fun value => Reader.Raises.bind ?_
      fun command => Address.safe_readFrom.bind fun address =>
        (safe_expectCrlf _).bind fun _ => Reader.raises_pure _ _
    apply Reader.raises_lift
    intro fault refused
    simp [Command.fromU8_eq_error _ _ refused]

/-- A buffer holds at most one spelling at its front. -/
theorem Spells.unique {header other : Header} {wire spelling rest tail : List UInt8}
    (spells : header.Spells wire) (again : other.Spells spelling)
    (same : wire ++ rest = spelling ++ tail) :
    wire = spelling ∧ header = other ∧ rest = tail :=
  ((reads_readFrom _ _).mpr spells).unique ((reads_readFrom _ _).mpr again) same

/-- The computed end of a header is the end of its spelling. -/
theorem computeHeaderEnd_complete {header : Header} {wire : List UInt8}
    (spells : header.Spells wire) (known : Header) (rest : List UInt8) :
    computeHeaderEnd known (wire ++ rest) = .ok wire.length := by
  obtain ⟨target, hex, address, rfl⟩ := spells
  have long : ¬ (commandLine header.passwordHash header.command.asU8
      (target ++ (crlf.toList ++ rest))).length ≤ 59 := by
    simp only [commandLine_length, List.length_append, Vector.length_toList]
    omega
  rw [commandLine_append, List.append_assoc, computeHeaderEnd, if_neg long,
    sliceFrom_commandLine, ok_bind, Address.parseFromBuf_complete address]
  simp only [commandLine_length, List.length_append, Vector.length_toList, passwordHexLen, pure,
    Except.pure, Except.ok.injEq]
  omega

/-- A target and the rest of a buffer, cut out of it by a header. -/
def Decomposes (header : Header) (buf target rest : List UInt8) : Prop :=
  header.passwordHash.toList.all isAsciiHexdigit ∧ header.address.Spells target ∧
    buf = header.passwordHash.toList ++ [0x0d, 0x0a] ++ [header.command.asU8] ++ target ++
      [0x0d, 0x0a] ++ rest

/-- A decomposition is a spelling and a rest. -/
theorem decomposes_iff (header : Header) (buf rest : List UInt8) :
    (∃ target, header.Decomposes buf target rest) ↔
      ∃ wire, buf = wire ++ rest ∧ header.Spells wire := by
  have parts : ∀ target : List UInt8,
      header.passwordHash.toList ++ [0x0d, 0x0a] ++ [header.command.asU8] ++ target ++
        [0x0d, 0x0a] ++ rest =
      commandLine header.passwordHash header.command.asU8 (target ++ crlf.toList) ++ rest := by
    intro target
    simp [commandLine, crlf]
  constructor
  · rintro ⟨target, hex, spells, rfl⟩
    exact ⟨_, parts target, target, hex, spells, rfl⟩
  · rintro ⟨wire, rfl, target, hex, spells, rfl⟩
    exact ⟨target, hex, spells, (parts target).symm⟩

/-- The buffered parser accepts exactly the buffers that a header decomposes. There is at most
one decomposition of a buffer, and the computed end of the header is where its rest begins. -/
theorem tryParseFromBuf_grammar (buf : List UInt8) (header : Header) :
    (tryParseFromBuf buf = .ok (some header) ↔
      ∃ target rest, header.Decomposes buf target rest) ∧
    ∀ target rest, header.Decomposes buf target rest →
      computeHeaderEnd header buf = .ok (buf.length - rest.length) ∧
      ∀ (other : Header) (otherTarget otherRest : List UInt8),
        other.Decomposes buf otherTarget otherRest →
          other = header ∧ otherTarget = target ∧ otherRest = rest := by
  constructor
  · rw [tryParseFromBuf_eq_some]
    constructor
    · intro spelled
      have ⟨wire, rest, split, spells⟩ := spelled
      have ⟨target, found⟩ := (decomposes_iff header buf rest).mpr ⟨wire, split, spells⟩
      exact ⟨target, rest, found⟩
    · intro found
      have ⟨target, rest, parts⟩ := found
      have ⟨wire, split, spells⟩ := (decomposes_iff header buf rest).mp ⟨target, parts⟩
      exact ⟨wire, rest, split, spells⟩
  · intro target rest parts
    have ⟨wire, split, spells⟩ := (decomposes_iff header buf rest).mp ⟨target, parts⟩
    constructor
    · have size : buf.length - rest.length = wire.length := by
        rw [split, List.length_append]
        omega
      rw [size, split]
      exact computeHeaderEnd_complete spells header rest
    · intro other otherTarget otherRest otherParts
      have ⟨spelling, otherSplit, again⟩ :=
        (decomposes_iff other buf otherRest).mp ⟨otherTarget, otherParts⟩
      have same : wire ++ rest = spelling ++ otherRest := by rw [← split, otherSplit]
      obtain ⟨_, rfl, rfl⟩ := spells.unique again same
      have targets := parts.2.2.symm.trans otherParts.2.2
      simp only [List.append_assoc, List.append_cancel_left_eq] at targets
      exact ⟨rfl, (List.append_cancel_right targets).symm, rfl⟩

/-- A piece at the front of a stream is read. -/
theorem run_readExact_front {count : Nat} (stop : ErrorKind) (front : Vector UInt8 count)
    (rest : List UInt8) : (readExact count).run stop (front.toList ++ rest) = (.ok front, rest) :=
  (readExact_reads front).run stop rest

/-- The byte at the front of a stream is read. -/
theorem run_readU8_front (stop : ErrorKind) (byte : UInt8) (rest : List UInt8) :
    readU8.run stop (byte :: rest) = (.ok byte, rest) :=
  (readU8_reads byte).run stop rest

/-- Two bytes at the front of a stream are tested for a line break. -/
theorem run_expectCrlf_front (stop : ErrorKind) (field : String) (delimiter : Vector UInt8 2)
    (rest : List UInt8) :
    (expectCrlf field).run stop (delimiter.toList ++ rest) =
      (if delimiter = crlf then .ok ()
        else .error (.err (.protocol ("Invalid CRLF after " ++ field))), rest) := by
  rw [expectCrlf, Reader.run_bind, run_readExact_front]
  by_cases isCrlf : delimiter = crlf
  · simp [isCrlf]
  · simp [isCrlf]

/-- A refused address is refused by the stream reader with the same error. -/
theorem run_readFrom_badAddress (stop : ErrorKind) (part : List UInt8) (fault : Fault)
    (refused : Address.parseFromBuf part = .error fault) :
    (Address.readFrom.run stop part).1 = .error fault := by
  cases Address.shape part with
  | complete address target rest spells =>
    rw [Address.parseFromBuf_complete spells] at refused
    contradiction
  | badName len name port rest sized invalid =>
    rw [Address.parseFromBuf_badName len name port rest sized invalid] at refused
    obtain rfl := Except.error.inj refused
    have notIpv4 : (0x03 : UInt8) ≠ Address.typeIpv4 := by decide
    have front : (readExact len.toNat).run stop (name ++ ((u16ToBeBytes port).toList ++ rest)) =
        (.ok ⟨name.toArray, sized⟩, (u16ToBeBytes port).toList ++ rest) :=
      (readExact_reads ⟨name.toArray, sized⟩).run stop _
    have bad : Address.domainFromUtf8 (Vector.mk name.toArray sized).toList =
        .error (.err .invalidUtf8) := by
      change Address.domainFromUtf8 name = _
      simp [Address.domainFromUtf8, invalid, err]
    rw [Address.readFrom, Reader.run_bind, run_readU8_front]
    dsimp only
    rw [if_neg notIpv4, if_pos rfl, Reader.run_bind, run_readU8_front]
    dsimp only
    rw [Reader.run_bind, front]
    dsimp only
    rw [Reader.run_bind, Reader.run_lift, bad]
  | badType kind payload notIpv4 notDomain notIpv6 =>
    rw [Address.parseFromBuf_badType kind payload notIpv4 notDomain notIpv6] at refused
    obtain rfl := Except.error.inj refused
    rw [Address.readFrom, Reader.run_bind, run_readU8_front]
    dsimp only
    rw [if_neg notIpv4, if_neg notDomain, if_neg notIpv6, Reader.run_fail]
  | short part short =>
    rw [Address.parseFromBuf_short short] at refused
    contradiction

/-- After a hash in hex and a line break, the stream reader goes on with the command. -/
theorem run_readFrom_commandLine (stop : ErrorKind) (hash : Vector UInt8 56) (value : UInt8)
    (part : List UInt8) (hex : hash.toList.all isAsciiHexdigit) :
    readFrom.run stop (commandLine hash value part) =
      match Command.fromU8 value with
      | .error fault => (.error fault, part)
      | .ok command =>
        match Address.readFrom.run stop part with
        | (.error fault, rest) => (.error fault, rest)
        | (.ok address, rest) =>
          match (expectCrlf "target address").run stop rest with
          | (.error fault, rest) => (.error fault, rest)
          | (.ok _, rest) => (.ok ⟨hash, command, address⟩, rest) := by
  have allowed : ¬ ¬ hash.toList.all isAsciiHexdigit := not_not.mpr hex
  rw [commandLine, readFrom, Reader.run_bind, run_readExact_front]
  dsimp only
  rw [if_neg allowed, Reader.run_bind, run_expectCrlf_front, if_pos rfl]
  dsimp only
  rw [Reader.run_bind, run_readU8_front]
  dsimp only
  rw [Reader.run_bind, Reader.run_lift]
  cases Command.fromU8 value with
  | error fault => rfl
  | ok command =>
    dsimp only
    rw [Reader.run_bind]
    cases Address.readFrom.run stop part with
    | mk outcome rest =>
      cases outcome with
      | error fault => rfl
      | ok address =>
        dsimp only
        rw [Reader.run_bind]
        cases (expectCrlf "target address").run stop rest with
        | mk checked left => cases checked <;> rfl

end Header

/-- An error without its text: the variant, and the byte that it reports. -/
def TrojanError.withoutText : TrojanError → TrojanError
  | .tls _ => .tls ""
  | .protocol _ => .protocol ""
  | .config _ => .config ""
  | .remoteConnectFailed _ => .remoteConnectFailed ""
  | .join _ => .join ""
  | error => error

namespace Header

/-- A refused buffer is refused by the stream reader with the same error, but for its text, and
neither parser panics. -/
theorem readFrom_refuses {buf : List UInt8} {fault : Fault} (stop : ErrorKind)
    (refused : Refused buf fault) :
    ∃ error other, fault = .err error ∧ (readFrom.run stop buf).1 = .error (.err other) ∧
      other.withoutText = error.withoutText := by
  cases refused with
  | hash hash delimiter rest notHex =>
    have read : (readFrom.run stop (hash.toList ++ (delimiter.toList ++ rest))).1 =
        .error (.err (.protocol
          "Invalid password hash format: expected 56-byte hex string")) := by
      rw [readFrom, Reader.run_bind, run_readExact_front]
      dsimp only
      rw [if_pos notHex, Reader.run_fail]
    exact ⟨_, _, rfl, read, rfl⟩
  | lineBreak hash delimiter rest hex wrong =>
    have allowed : ¬ ¬ hash.toList.all isAsciiHexdigit := not_not.mpr hex
    have read : (readFrom.run stop (hash.toList ++ (delimiter.toList ++ rest))).1 =
        .error (.err (.protocol ("Invalid CRLF after " ++ "password hash"))) := by
      rw [readFrom, Reader.run_bind, run_readExact_front]
      dsimp only
      rw [if_neg allowed, Reader.run_bind, run_expectCrlf_front, if_neg wrong]
    exact ⟨_, _, rfl, read, rfl⟩
  | command hash value part hex unknown =>
    have read : (readFrom.run stop (commandLine hash value part)).1 =
        .error (.err (.invalidCommand value)) := by
      rw [run_readFrom_commandLine stop hash value part hex, unknown]
    exact ⟨_, _, rfl, read, rfl⟩
  | address hash command part hex fault wrong =>
    have address := run_readFrom_badAddress stop part fault wrong
    have read : (readFrom.run stop (commandLine hash command.asU8 part)).1 = .error fault := by
      rw [run_readFrom_commandLine stop hash _ part hex, Command.fromU8_asU8]
      cases outcome : Address.readFrom.run stop part with
      | mk result rest =>
        rw [outcome] at address
        dsimp only at address
        rw [address]
    have noPanic := Address.safe_readFrom.run stop part address
    cases fault with
    | panic => contradiction
    | err error => exact ⟨error, error, rfl, read, rfl⟩
  | ending hash command address target delimiter rest hex spells wrong =>
    have read : (readFrom.run stop
        (commandLine hash command.asU8 (target ++ (delimiter.toList ++ rest)))).1 =
        .error (.err (.protocol ("Invalid CRLF after " ++ "target address"))) := by
      have known := ((Address.reads_readFrom _ _).mpr spells).run stop (delimiter.toList ++ rest)
      rw [run_readFrom_commandLine stop hash _ _ hex, Command.fromU8_asU8, known]
      dsimp only
      rw [run_expectCrlf_front, if_neg wrong]
    exact ⟨_, _, rfl, read, rfl⟩

/-- The two parsers and the computed end of the header agree on every byte string: they accept
the same headers with the same length, they refuse with the same error but for its text, and
where the buffered parser asks for more, the stream that ends there is an error. -/
theorem readFrom_agrees (bytes : List UInt8) :
    (∀ header n, (readFrom.run .unexpectedEof bytes = (.ok header, bytes.drop n) ∧
        n ≤ bytes.length) ↔
      (tryParseFromBuf bytes = .ok (some header) ∧ computeHeaderEnd header bytes = .ok n)) ∧
    (∀ error, tryParseFromBuf bytes = .error (.err error) →
      ∃ other, (readFrom.run .unexpectedEof bytes).1 = .error (.err other) ∧
        other.withoutText = error.withoutText) ∧
    (tryParseFromBuf bytes = .ok none →
      ∃ other, (readFrom.run .unexpectedEof bytes).1 = .error (.err other)) := by
  have ran := strict_readFrom.run_ok_iff .unexpectedEof bytes
  refine ⟨fun header n => ⟨?_, ?_⟩, ?_, ?_⟩
  · intro accepted
    have ⟨read, inside⟩ := accepted
    have ⟨wire, split, reads⟩ := (ran _ header).mp read
    have spells := (reads_readFrom _ _).mp reads
    have size : wire.length = n := by
      have lengths := congrArg List.length split
      rw [List.length_append, List.length_drop] at lengths
      omega
    have parsed := tryParseFromBuf_complete spells (bytes.drop n)
    have computed := computeHeaderEnd_complete spells header (bytes.drop n)
    rw [← split] at parsed computed
    rw [size] at computed
    exact ⟨parsed, computed⟩
  · intro accepted
    have ⟨parsed, computed⟩ := accepted
    obtain ⟨wire, rest, rfl, spells⟩ := (tryParseFromBuf_eq_some _ _).mp parsed
    rw [computeHeaderEnd_complete spells header rest] at computed
    obtain rfl := Except.ok.inj computed
    rw [List.drop_left' rfl]
    exact ⟨((reads_readFrom _ _).mpr spells).run _ rest, by simp⟩
  · intro error failed
    have refused := (tryParseFromBuf_eq_error bytes _).mp failed
    have ⟨known, other, same, read, variant⟩ := readFrom_refuses .unexpectedEof refused
    obtain rfl := Fault.err.inj same
    exact ⟨other, read, variant⟩
  · intro asksForMore
    cases outcome : (readFrom.run .unexpectedEof bytes).1 with
    | ok header =>
      have read : readFrom.run .unexpectedEof bytes =
          (.ok header, (readFrom.run .unexpectedEof bytes).2) := by rw [← outcome]
      have ⟨wire, split, reads⟩ := (ran _ header).mp read
      have parsed := tryParseFromBuf_complete ((reads_readFrom _ _).mp reads)
        (readFrom.run .unexpectedEof bytes).2
      rw [← split, asksForMore] at parsed
      simp at parsed
    | error fault =>
      have noPanic := safe_readFrom.run _ _ outcome
      cases fault with
      | panic => contradiction
      | err other => exact ⟨other, rfl⟩

end Header

end TrojanRust
