import TrojanRust.Codec.Address
import TrojanRust.Protocol.Header

/-!
# The header grammar and its parsers

`Header.Spells` is the grammar of a request header. Every buffer has a `Header.Shape`, which
says how far along the grammar it gets and where it leaves it; the verdicts of the buffered
parser and of the stream reader on a buffer are read off its shape.
-/

namespace TrojanRust

open TrojanRust.Bytes

namespace Header

/-- A hash, a line break, a byte in the place of the command, and what follows it. -/
def commandLine (hash : Vector UInt8 56) (value : UInt8) (part : List UInt8) : List UInt8 :=
  hash.toList ++ (crlf.toList ++ value :: part)

/-- A header is spelled by its hash, which is in hex, a line break, its command, a spelling of
its address, and a line break. -/
def Spells (header : Header) (wire : List UInt8) : Prop :=
  ∃ target, header.passwordHash.toList.all isAsciiHexdigit ∧ header.address.Spells target ∧
    wire = commandLine header.passwordHash header.command.asU8 (target ++ crlf.toList)

/-- The hash, the line break and the command byte are 59 bytes. -/
@[simp]
theorem commandLine_length (hash : Vector UInt8 56) (value : UInt8) (part : List UInt8) :
    (commandLine hash value part).length = 59 + part.length := by
  simp only [commandLine, List.length_append, List.length_cons, Vector.length_toList]
  omega

/-- What follows a command line is the end of a longer one. -/
@[simp]
theorem commandLine_append (hash : Vector UInt8 56) (value : UInt8) (part rest : List UInt8) :
    commandLine hash value part ++ rest = commandLine hash value (part ++ rest) := by
  simp [commandLine]

/-- The three bytes between the hash and the address. -/
theorem commandLine_eq_append (hash : Vector UInt8 56) (value : UInt8) (part : List UInt8) :
    commandLine hash value part = commandLine hash value [] ++ part := by
  rw [commandLine_append, List.nil_append]

/-- What follows the command byte starts at offset 59. -/
theorem sliceFrom_commandLine (hash : Vector UInt8 56) (value : UInt8) (part : List UInt8) :
    sliceFrom (commandLine hash value part) 59 = .ok part := by
  rw [commandLine_eq_append]
  have after := sliceFrom_after (commandLine hash value []) part
  rwa [commandLine_length, List.length_nil] at after

/-- The command byte is at offset 58. -/
theorem index_commandLine (hash : Vector UInt8 56) (value : UInt8) (part : List UInt8) :
    index (commandLine hash value part) 58 = .ok value := by
  have sized : (hash.toList ++ crlf.toList).length = 58 := by simp
  rw [commandLine, ← List.append_assoc, index_after _ _ (by omega), sized, Nat.sub_self,
    index_cons_zero]

/-- The break test looks at the two bytes after the front it is told to skip. -/
theorem missesCrlf_after (front rest : List UInt8) (delimiter : Vector UInt8 2) :
    missesCrlf (front ++ (delimiter.toList ++ rest)) front.length =
      .ok (decide (delimiter ≠ crlf)) := by
  have second : front.length + 1 - front.length = 1 := by omega
  have isBreak : delimiter = crlf ↔ delimiter[0] = 0x0d ∧ delimiter[1] = 0x0a := by
    have ⟨⟨list⟩, size⟩ := delimiter
    match list, size with
    | [_, _], _ => simp [crlf]
  unfold missesCrlf
  rw [index_after _ _ (Nat.le_refl _), Nat.sub_self, index_front _ _ (by decide), ok_bind,
    index_after _ _ (Nat.le_add_right _ _), second, index_front _ _ (by decide), ok_bind]
  simp only [ne_eq, isBreak, ite_not]
  by_cases isReturn : delimiter[0] = 0x0d
  · simp [isReturn, pure, Except.pure]
  · simp [isReturn, pure, Except.pure]

/-- A buffer that cannot hold a hash and a line break asks for more. -/
theorem tryParseFromBuf_short {buf : List UInt8} (short : buf.length < 58) :
    tryParseFromBuf buf = .ok none := by
  rw [tryParseFromBuf, if_pos short]
  rfl

/-- The slice that is tested for hex digits is the hash. -/
theorem slice_hash (hash : Vector UInt8 56) (rest : List UInt8) :
    slice (hash.toList ++ rest) 0 56 = .ok hash.toList := by
  have middle := slice_middle [] hash.toList rest
  simpa using middle

/-- A hash and a pair of bytes pass the first length test. -/
theorem not_short (hash : Vector UInt8 56) (delimiter : Vector UInt8 2) (rest : List UInt8) :
    ¬ (hash.toList ++ (delimiter.toList ++ rest)).length < 58 := by
  simp only [List.length_append, Vector.length_toList]
  omega

/-- A hash that is not in hex is refused. -/
theorem tryParseFromBuf_badHash (hash : Vector UInt8 56) (delimiter : Vector UInt8 2)
    (rest : List UInt8) (notHex : ¬ hash.toList.all isAsciiHexdigit) :
    tryParseFromBuf (hash.toList ++ (delimiter.toList ++ rest)) =
      .error (.err (.protocol "Invalid password hash: not hex digits")) := by
  rw [tryParseFromBuf, if_neg (not_short hash delimiter rest), slice_hash, ok_bind,
    if_pos notHex]
  rfl

/-- The first break test looks at the two bytes after the hash. -/
theorem missesCrlf_hash (hash : Vector UInt8 56) (delimiter : Vector UInt8 2)
    (rest : List UInt8) :
    missesCrlf (hash.toList ++ (delimiter.toList ++ rest)) 56 =
      .ok (decide (delimiter ≠ crlf)) := by
  have after := missesCrlf_after hash.toList rest delimiter
  rwa [Vector.length_toList] at after

/-- A hash in hex that no line break follows is refused. -/
theorem tryParseFromBuf_badBreak (hash : Vector UInt8 56) (delimiter : Vector UInt8 2)
    (rest : List UInt8) (hex : hash.toList.all isAsciiHexdigit) (wrong : delimiter ≠ crlf) :
    tryParseFromBuf (hash.toList ++ (delimiter.toList ++ rest)) =
      .error (.err (.protocol "Missing CRLF after password hash")) := by
  have allowed : ¬ ¬ hash.toList.all isAsciiHexdigit := not_not.mpr hex
  have misses : decide (delimiter ≠ crlf) = true := decide_eq_true wrong
  rw [tryParseFromBuf, if_neg (not_short hash delimiter rest), slice_hash, ok_bind,
    if_neg allowed, copyFromSlice_toList, ok_bind]
  dsimp only
  rw [if_neg (not_short hash delimiter rest), missesCrlf_hash, ok_bind, if_pos misses]
  rfl

/-- After a line break, the command byte and the address decide; an address that was parsed is
followed by the second break test. -/
theorem tryParseFromBuf_crlf (hash : Vector UInt8 56) (rest : List UInt8)
    (hex : hash.toList.all isAsciiHexdigit) :
    tryParseFromBuf (hash.toList ++ (crlf.toList ++ rest)) =
      if (hash.toList ++ (crlf.toList ++ rest)).length < 59 then .ok none
      else (do
        let command ← Command.fromU8 (← index (hash.toList ++ (crlf.toList ++ rest)) 58)
        match ← Address.parseFromBuf (← sliceFrom (hash.toList ++ (crlf.toList ++ rest)) 59) with
        | (_, none) => .ok none
        | (address, some addrEnd) =>
          if (hash.toList ++ (crlf.toList ++ rest)).length < 59 + addrEnd + 2 then .ok none
          else if ← missesCrlf (hash.toList ++ (crlf.toList ++ rest)) (59 + addrEnd) then
            err (.protocol "Missing CRLF after target address")
          else .ok (some ⟨hash, command, address⟩)) := by
  have allowed : ¬ ¬ hash.toList.all isAsciiHexdigit := not_not.mpr hex
  have found : ¬ decide (crlf ≠ crlf) = true := by simp
  rw [tryParseFromBuf, if_neg (not_short hash crlf rest), slice_hash, ok_bind,
    if_neg allowed, copyFromSlice_toList, ok_bind]
  dsimp only
  rw [if_neg (not_short hash crlf rest), missesCrlf_hash, ok_bind, if_neg found]
  rfl

/-- A hash and a line break alone ask for more. -/
theorem tryParseFromBuf_noCommand (hash : Vector UInt8 56)
    (hex : hash.toList.all isAsciiHexdigit) :
    tryParseFromBuf (hash.toList ++ (crlf.toList ++ [])) = .ok none := by
  rw [tryParseFromBuf_crlf hash [] hex, if_pos (by simp)]

/-- What follows the command byte is parsed as an address and a line break. -/
theorem tryParseFromBuf_commandLine (hash : Vector UInt8 56) (value : UInt8)
    (part : List UInt8) (hex : hash.toList.all isAsciiHexdigit) :
    tryParseFromBuf (commandLine hash value part) = (do
      let command ← Command.fromU8 value
      match ← Address.parseFromBuf part with
      | (_, none) => .ok none
      | (address, some addrEnd) =>
        if part.length < addrEnd + 2 then .ok none
        else if ← missesCrlf (commandLine hash value part) (59 + addrEnd) then
          err (.protocol "Missing CRLF after target address")
        else .ok (some ⟨hash, command, address⟩)) := by
  have long : ¬ (commandLine hash value part).length < 59 := by
    rw [commandLine_length]
    omega
  have room : ∀ addrEnd, (commandLine hash value part).length < 59 + addrEnd + 2 ↔
      part.length < addrEnd + 2 := by
    intro addrEnd
    rw [commandLine_length]
    omega
  have parsed := tryParseFromBuf_crlf hash (value :: part) hex
  rw [← commandLine, if_neg long, index_commandLine, sliceFrom_commandLine] at parsed
  simpa only [ok_bind, room] using parsed

/-- A byte that is no command is refused as such. -/
theorem tryParseFromBuf_badCommand (hash : Vector UInt8 56) (value : UInt8)
    (part : List UInt8) (hex : hash.toList.all isAsciiHexdigit)
    (refused : Command.fromU8 value = .error (.err (.invalidCommand value))) :
    tryParseFromBuf (commandLine hash value part) =
      .error (.err (.invalidCommand value)) := by
  rw [tryParseFromBuf_commandLine hash value part hex, refused, error_bind]

/-- An address that ends too early asks for more. -/
theorem tryParseFromBuf_openAddress (hash : Vector UInt8 56) (command : Command)
    (part : List UInt8) (hex : hash.toList.all isAsciiHexdigit) (short : Address.Short part) :
    tryParseFromBuf (commandLine hash command.asU8 part) = .ok none := by
  rw [tryParseFromBuf_commandLine hash command.asU8 part hex, Command.fromU8_asU8, ok_bind,
    Address.parseFromBuf_short short]
  rfl

/-- A refused address refuses the header. -/
theorem tryParseFromBuf_badAddress (hash : Vector UInt8 56) (command : Command)
    (part : List UInt8) (hex : hash.toList.all isAsciiHexdigit) (fault : Fault)
    (refused : Address.parseFromBuf part = .error fault) :
    tryParseFromBuf (commandLine hash command.asU8 part) = .error fault := by
  rw [tryParseFromBuf_commandLine hash command.asU8 part hex, Command.fromU8_asU8, ok_bind,
    refused, error_bind]

/-- An address without two more bytes asks for more. -/
theorem tryParseFromBuf_openEnd (hash : Vector UInt8 56) (command : Command)
    {address : Address} {target : List UInt8} (rest : List UInt8)
    (hex : hash.toList.all isAsciiHexdigit) (spells : address.Spells target)
    (short : rest.length < 2) :
    tryParseFromBuf (commandLine hash command.asU8 (target ++ rest)) = .ok none := by
  have missing : (target ++ rest).length < target.length + 2 := by
    rw [List.length_append]
    omega
  rw [tryParseFromBuf_commandLine hash command.asU8 _ hex, Command.fromU8_asU8, ok_bind,
    Address.parseFromBuf_complete spells, ok_bind]
  dsimp only
  rw [if_pos missing]

/-- After an address, the next two bytes decide. -/
theorem tryParseFromBuf_end (hash : Vector UInt8 56) (command : Command)
    {address : Address} {target : List UInt8} (delimiter : Vector UInt8 2) (rest : List UInt8)
    (hex : hash.toList.all isAsciiHexdigit) (spells : address.Spells target) :
    tryParseFromBuf (commandLine hash command.asU8 (target ++ (delimiter.toList ++ rest))) =
      if delimiter = crlf then .ok (some ⟨hash, command, address⟩)
      else .error (.err (.protocol "Missing CRLF after target address")) := by
  have enough : ¬ (target ++ (delimiter.toList ++ rest)).length < target.length + 2 := by
    simp only [List.length_append, Vector.length_toList]
    omega
  have decides : missesCrlf
      (commandLine hash command.asU8 (target ++ (delimiter.toList ++ rest)))
      (59 + target.length) = .ok (decide (delimiter ≠ crlf)) := by
    have after := missesCrlf_after (commandLine hash command.asU8 target) rest delimiter
    rwa [commandLine_length, commandLine_append] at after
  rw [tryParseFromBuf_commandLine hash command.asU8 _ hex, Command.fromU8_asU8, ok_bind,
    Address.parseFromBuf_complete spells, ok_bind]
  dsimp only
  rw [if_neg enough, decides, ok_bind]
  by_cases isCrlf : delimiter = crlf
  · simp [isCrlf]
  · simp [isCrlf, err]

/-- The buffers in which nothing that was looked at is wrong and the next field is incomplete. -/
inductive Unfinished : List UInt8 → Prop
  | hash (buf : List UInt8) (short : buf.length < 58) : Unfinished buf
  | command (hash : Vector UInt8 56) (hex : hash.toList.all isAsciiHexdigit) :
    Unfinished (hash.toList ++ (crlf.toList ++ []))
  | address (hash : Vector UInt8 56) (command : Command) (part : List UInt8)
      (hex : hash.toList.all isAsciiHexdigit) (short : Address.Short part) :
    Unfinished (commandLine hash command.asU8 part)
  | ending (hash : Vector UInt8 56) (command : Command) (address : Address)
      (target rest : List UInt8) (hex : hash.toList.all isAsciiHexdigit)
      (spells : address.Spells target) (short : rest.length < 2) :
    Unfinished (commandLine hash command.asU8 (target ++ rest))

/-- The buffers with a complete field that is wrong, and what is reported of the first one. -/
inductive Refused : List UInt8 → Fault → Prop
  | hash (hash : Vector UInt8 56) (delimiter : Vector UInt8 2) (rest : List UInt8)
      (notHex : ¬ hash.toList.all isAsciiHexdigit) :
    Refused (hash.toList ++ (delimiter.toList ++ rest))
      (.err (.protocol "Invalid password hash: not hex digits"))
  | lineBreak (hash : Vector UInt8 56) (delimiter : Vector UInt8 2) (rest : List UInt8)
      (hex : hash.toList.all isAsciiHexdigit) (wrong : delimiter ≠ crlf) :
    Refused (hash.toList ++ (delimiter.toList ++ rest))
      (.err (.protocol "Missing CRLF after password hash"))
  | command (hash : Vector UInt8 56) (value : UInt8) (part : List UInt8)
      (hex : hash.toList.all isAsciiHexdigit)
      (unknown : Command.fromU8 value = .error (.err (.invalidCommand value))) :
    Refused (commandLine hash value part) (.err (.invalidCommand value))
  | address (hash : Vector UInt8 56) (command : Command) (part : List UInt8)
      (hex : hash.toList.all isAsciiHexdigit) (fault : Fault)
      (wrong : Address.parseFromBuf part = .error fault) :
    Refused (commandLine hash command.asU8 part) fault
  | ending (hash : Vector UInt8 56) (command : Command) (address : Address)
      (target : List UInt8) (delimiter : Vector UInt8 2) (rest : List UInt8)
      (hex : hash.toList.all isAsciiHexdigit) (spells : address.Spells target)
      (wrong : delimiter ≠ crlf) :
    Refused (commandLine hash command.asU8 (target ++ (delimiter.toList ++ rest)))
      (.err (.protocol "Missing CRLF after target address"))

/-- Everything a buffer that should start with a header can start with. -/
inductive Shape : List UInt8 → Prop
  | unfinished (buf : List UInt8) (unfinished : Unfinished buf) : Shape buf
  | refused (buf : List UInt8) (fault : Fault) (refused : Refused buf fault) : Shape buf
  | complete (header : Header) (wire rest : List UInt8) (spells : header.Spells wire) :
    Shape (wire ++ rest)

/-- What follows a command and a complete address has a shape. -/
theorem shape_target (hash : Vector UInt8 56) (command : Command) {address : Address}
    {target : List UInt8} (rest : List UInt8) (hex : hash.toList.all isAsciiHexdigit)
    (spells : address.Spells target) :
    Shape (commandLine hash command.asU8 (target ++ rest)) := by
  by_cases short : rest.length < 2
  · exact .unfinished _ (.ending hash command address target rest hex spells short)
  · obtain ⟨delimiter, more, rfl⟩ := Reader.exists_piece rest 2 (by omega)
    by_cases isCrlf : delimiter = crlf
    · have complete := Shape.complete ⟨hash, command, address⟩ _ more ⟨target, hex, spells, rfl⟩
      simpa [isCrlf] using complete
    · exact .refused _ _ (.ending hash command address target delimiter more hex spells isCrlf)

/-- Every buffer has a shape. -/
theorem shape (buf : List UInt8) : Shape buf := by
  by_cases short : buf.length < 58
  · exact .unfinished buf (.hash buf short)
  · obtain ⟨hash, later, rfl⟩ := Reader.exists_piece buf 56 (by omega)
    have enough : 2 ≤ later.length := by
      simp only [List.length_append, Vector.length_toList] at short
      omega
    obtain ⟨delimiter, rest, rfl⟩ := Reader.exists_piece later 2 enough
    by_cases hex : hash.toList.all isAsciiHexdigit
    · by_cases isCrlf : delimiter = crlf
      · subst isCrlf
        cases rest with
        | nil => exact .unfinished _ (.command hash hex)
        | cons value part =>
          cases known : Command.fromU8 value with
          | error fault =>
            obtain rfl := Command.fromU8_eq_error value fault known
            exact .refused _ _ (.command hash value part hex known)
          | ok command =>
            obtain rfl := (Command.fromU8_eq_ok value command).mp known
            cases Address.shape part with
            | complete address target rest spells =>
              exact shape_target hash command rest hex spells
            | badName len name port rest sized invalid =>
              have wrong := Address.parseFromBuf_badName len name port rest sized invalid
              exact .refused _ _ (.address hash command _ hex _ wrong)
            | badType kind payload notIpv4 notDomain notIpv6 =>
              have wrong := Address.parseFromBuf_badType kind payload notIpv4 notDomain notIpv6
              exact .refused _ _ (.address hash command _ hex _ wrong)
            | short part short => exact .unfinished _ (.address hash command part hex short)
      · exact .refused _ _ (.lineBreak hash delimiter rest hex isCrlf)
    · exact .refused _ _ (.hash hash delimiter rest hex)

/-- The buffered parser accepts every spelling, whatever follows it. -/
theorem tryParseFromBuf_complete {header : Header} {wire : List UInt8}
    (spells : header.Spells wire) (rest : List UInt8) :
    tryParseFromBuf (wire ++ rest) = .ok (some header) := by
  obtain ⟨target, hex, address, rfl⟩ := spells
  rw [commandLine_append, List.append_assoc,
    tryParseFromBuf_end header.passwordHash header.command crlf rest hex address, if_pos rfl]

/-- The buffered parser asks for more on every unfinished buffer. -/
theorem tryParseFromBuf_unfinished {buf : List UInt8} (unfinished : Unfinished buf) :
    tryParseFromBuf buf = .ok none := by
  cases unfinished with
  | hash buf short => exact tryParseFromBuf_short short
  | command hash hex => exact tryParseFromBuf_noCommand hash hex
  | address hash command part hex short =>
    exact tryParseFromBuf_openAddress hash command part hex short
  | ending hash command address target rest hex spells short =>
    exact tryParseFromBuf_openEnd hash command rest hex spells short

/-- The buffered parser reports what is wrong with a refused buffer. -/
theorem tryParseFromBuf_refused {buf : List UInt8} {fault : Fault}
    (refused : Refused buf fault) : tryParseFromBuf buf = .error fault := by
  cases refused with
  | hash hash delimiter rest notHex => exact tryParseFromBuf_badHash hash delimiter rest notHex
  | lineBreak hash delimiter rest hex wrong =>
    exact tryParseFromBuf_badBreak hash delimiter rest hex wrong
  | command hash value part hex unknown =>
    exact tryParseFromBuf_badCommand hash value part hex unknown
  | address hash command part hex fault wrong =>
    exact tryParseFromBuf_badAddress hash command part hex fault wrong
  | ending hash command address target delimiter rest hex spells wrong =>
    rw [tryParseFromBuf_end hash command delimiter rest hex spells, if_neg wrong]

/-- The buffered parser asks for more exactly on the unfinished buffers. -/
theorem tryParseFromBuf_eq_none (buf : List UInt8) :
    tryParseFromBuf buf = .ok none ↔ Unfinished buf := by
  constructor
  · intro asksForMore
    cases shape buf with
    | unfinished buf unfinished => exact unfinished
    | refused buf fault refused => simp [tryParseFromBuf_refused refused] at asksForMore
    | complete header wire rest spells => simp [tryParseFromBuf_complete spells] at asksForMore
  · exact tryParseFromBuf_unfinished

/-- The buffered parser fails exactly on the refused buffers, with what is wrong. -/
theorem tryParseFromBuf_eq_error (buf : List UInt8) (fault : Fault) :
    tryParseFromBuf buf = .error fault ↔ Refused buf fault := by
  constructor
  · intro failed
    cases shape buf with
    | unfinished buf unfinished => simp [tryParseFromBuf_unfinished unfinished] at failed
    | refused buf known refused =>
      rw [tryParseFromBuf_refused refused] at failed
      exact Except.error.inj failed ▸ refused
    | complete header wire rest spells => simp [tryParseFromBuf_complete spells] at failed
  · exact tryParseFromBuf_refused

/-- The buffered parser accepts exactly the buffers that start with a spelling. -/
theorem tryParseFromBuf_eq_some (buf : List UInt8) (header : Header) :
    tryParseFromBuf buf = .ok (some header) ↔
      ∃ wire rest, buf = wire ++ rest ∧ header.Spells wire := by
  constructor
  · intro accepted
    cases shape buf with
    | unfinished buf unfinished => simp [tryParseFromBuf_unfinished unfinished] at accepted
    | refused buf fault refused => simp [tryParseFromBuf_refused refused] at accepted
    | complete found wire rest spells =>
      rw [tryParseFromBuf_complete spells] at accepted
      simp only [Except.ok.injEq, Option.some.injEq] at accepted
      subst accepted
      exact ⟨wire, rest, rfl, spells⟩
  · rintro ⟨wire, rest, rfl, spells⟩
    exact tryParseFromBuf_complete spells rest

/-- An unfinished buffer is shorter than 320 bytes. -/
theorem Unfinished.length_lt {buf : List UInt8} (unfinished : Unfinished buf) :
    buf.length < 320 := by
  cases unfinished with
  | hash buf short => omega
  | command hash hex => simp
  | address hash command part hex short =>
    have bound := short.length_lt
    rw [commandLine_length]
    omega
  | ending hash command address target rest hex spells short =>
    have bound := spells.length_le
    rw [commandLine_length, List.length_append]
    omega

/-- More bytes do not change what is wrong. -/
theorem Refused.append {buf : List UInt8} {fault : Fault} (refused : Refused buf fault)
    (more : List UInt8) : Refused (buf ++ more) fault := by
  cases refused with
  | hash hash delimiter rest notHex =>
    rw [List.append_assoc, List.append_assoc]
    exact .hash hash delimiter _ notHex
  | lineBreak hash delimiter rest hex wrong =>
    rw [List.append_assoc, List.append_assoc]
    exact .lineBreak hash delimiter _ hex wrong
  | command hash value part hex unknown =>
    rw [commandLine_append]
    exact .command hash value _ hex unknown
  | address hash command part hex fault wrong =>
    have decided : ¬ Address.Short part := by
      intro short
      rw [Address.parseFromBuf_short short] at wrong
      contradiction
    rw [← Address.parseFromBuf_append decided more] at wrong
    rw [commandLine_append]
    exact .address hash command _ hex fault wrong
  | ending hash command address target delimiter rest hex spells wrong =>
    rw [commandLine_append, List.append_assoc, List.append_assoc]
    exact .ending hash command address target delimiter _ hex spells wrong

/-- More bytes do not change a refusal. -/
theorem tryParseFromBuf_error_append {buf : List UInt8} {fault : Fault}
    (failed : tryParseFromBuf buf = .error fault) (more : List UInt8) :
    tryParseFromBuf (buf ++ more) = .error fault := by
  have refused := (tryParseFromBuf_eq_error buf fault).mp failed
  exact tryParseFromBuf_refused (refused.append more)

/-- More bytes do not change an acceptance. -/
theorem tryParseFromBuf_some_append {buf : List UInt8} {header : Header}
    (accepted : tryParseFromBuf buf = .ok (some header)) (more : List UInt8) :
    tryParseFromBuf (buf ++ more) = .ok (some header) := by
  obtain ⟨wire, rest, rfl, spells⟩ := (tryParseFromBuf_eq_some _ _).mp accepted
  rw [List.append_assoc]
  exact tryParseFromBuf_complete spells _

end Header

end TrojanRust
