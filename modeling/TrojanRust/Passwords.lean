import TrojanRust.Custody

/-!
# Who is served

A header carries no password but its SHA-224 hash in hex, and the configuration holds such hashes.
When it was made of the passwords of some users, the server serves exactly the clients whose
password has the digest of one of theirs, whatever case they write the hash in. The hash function
and the hex encoder are parameters, as other crates provide them.
-/

namespace TrojanRust

open TrojanRust.Bytes

/-- `hex::encode`, with what is documented of it. -/
structure HexEncoder where
  encode : List UInt8 → String
  /-- A byte is two digits. -/
  sized : ∀ bytes, (asBytes (encode bytes)).length = 2 * bytes.length
  /-- The digits are those of hexadecimal numbers, in lower case. -/
  digits : ∀ bytes, ∀ digit ∈ asBytes (encode bytes),
    isAsciiHexdigit digit = true ∧ toAsciiLowercase digit = digit
  /-- The bytes can be decoded. -/
  decodable : Function.Injective encode

/-- `Header::hash_password`, with the hash function of the crate that it calls. -/
def Header.hashPassword (sha224 : List UInt8 → Vector UInt8 28) (hex : HexEncoder)
    (password : String) : String :=
  hex.encode (sha224 (asBytes password)).toList

/-- A password has the digest of a user's. -/
def SharesDigest (sha224 : List UInt8 → Vector UInt8 28) (users : List String)
    (password : String) : Prop :=
  ∃ user ∈ users, sha224 (asBytes user) = sha224 (asBytes password)

section

variable {sha224 : List UInt8 → Vector UInt8 28} {hex : HexEncoder}

/-- A hashed password has the length of a digest in hex. -/
theorem asBytes_hashPassword_length (password : String) :
    (asBytes (Header.hashPassword sha224 hex password)).length = 56 := by
  rw [Header.hashPassword, hex.sized, Vector.length_toList]

/-- A hashed password is in lower case. -/
theorem asBytes_hashPassword_lower (password : String) :
    (asBytes (Header.hashPassword sha224 hex password)).map toAsciiLowercase =
      asBytes (Header.hashPassword sha224 hex password) := by
  have same : (asBytes (Header.hashPassword sha224 hex password)).map toAsciiLowercase =
      (asBytes (Header.hashPassword sha224 hex password)).map id := by
    apply List.map_congr_left
    intro digit member
    exact (hex.digits _ digit member).2
  rw [same, List.map_id]

/-- Hashed passwords are told apart by their digests. -/
theorem hashPassword_inj {password other : String} :
    Header.hashPassword sha224 hex password = Header.hashPassword sha224 hex other ↔
      sha224 (asBytes password) = sha224 (asBytes other) := by
  unfold Header.hashPassword
  rw [hex.decodable.eq_iff]
  exact Vector.toList_inj

/-- A byte is a hex digit when it is one in lower case. -/
theorem isAsciiHexdigit_of_lower {byte : UInt8}
    (lower : isAsciiHexdigit (toAsciiLowercase byte) = true) : isAsciiHexdigit byte = true := by
  have every : ∀ number : Fin 256, isAsciiHexdigit (toAsciiLowercase (.ofNat number.val)) = true →
      isAsciiHexdigit (.ofNat number.val) = true := by decide +kernel
  have found := every ⟨byte.toNat, byte.toNat_lt⟩
  simp only [UInt8.ofNat_toNat] at found
  exact found lower

/-- A hash that a client writes in any case consists of hex digits. -/
theorem all_isAsciiHexdigit_of_lower {written : List UInt8} {password : String}
    (hashed : written.map toAsciiLowercase = asBytes (Header.hashPassword sha224 hex password)) :
    written.all isAsciiHexdigit := by
  apply List.all_eq_true.mpr
  intro byte member
  apply isAsciiHexdigit_of_lower
  have among : toAsciiLowercase byte ∈ written.map toAsciiLowercase := List.mem_map_of_mem member
  rw [hashed] at among
  exact (hex.digits _ _ among).1

/-- A header with the hash of a password is authorized when the password has the digest of a
user's. -/
theorem Header.authorized_hashed {header : Header} {users : List String} {password : String}
    (hashed : header.passwordHash.toList.map toAsciiLowercase =
      asBytes (hashPassword sha224 hex password)) :
    header.Authorized (users.map (hashPassword sha224 hex)) ↔
      SharesDigest sha224 users password := by
  constructor
  · intro authorized
    rcases authorized with ⟨known, member, sized, same⟩
    rcases List.mem_map.mp member with ⟨user, among, rfl⟩
    rw [asBytes_hashPassword_lower, hashed] at same
    exact ⟨user, among, hashPassword_inj.mp (asBytes_inj same)⟩
  · intro shares
    rcases shares with ⟨user, among, digest⟩
    refine ⟨_, List.mem_map_of_mem among, asBytes_hashPassword_length user, ?_⟩
    have equal : hashPassword sha224 hex user = hashPassword sha224 hex password :=
      hashPassword_inj.mpr digest
    rw [asBytes_hashPassword_lower, hashed, equal]

/-- A client that starts with the hash of a password, in any case, is not admitted with another
one. -/
theorem Admits.sharesDigest {users : List String} {sent written more rest : List UInt8}
    {header : Header} {password : String}
    (admits : Admits (users.map (Header.hashPassword sha224 hex)) sent header rest)
    (sends : sent = written ++ more)
    (hashed : written.map toAsciiLowercase = asBytes (Header.hashPassword sha224 hex password)) :
    SharesDigest sha224 users password := by
  rcases admits with ⟨wire, split, ⟨target, digits, spells, line⟩, authorized⟩
  have sized : written.length = header.passwordHash.toList.length := by
    have lengths := congrArg List.length hashed
    rw [List.length_map, asBytes_hashPassword_length] at lengths
    rw [lengths, Vector.length_toList]
  have front : header.passwordHash.toList <+: written ++ more := by
    rw [← sends, split, line, Header.commandLine, List.append_assoc]
    exact List.prefix_append _ _
  have same : header.passwordHash.toList = written :=
    (List.prefix_of_prefix_length_le front (List.prefix_append _ _) sized.ge).eq_of_length
      sized.symm
  rw [← same] at hashed
  exact (Header.authorized_hashed hashed).mp authorized

/-- A client that sends the hash of a password with the digest of a user's is admitted, with every
command and every address that the encoder writes. -/
theorem SharesDigest.admits {users : List String} {written target : List UInt8}
    {password : String} (shares : SharesDigest sha224 users password)
    (hashed : written.map toAsciiLowercase = asBytes (Header.hashPassword sha224 hex password))
    (command : Command) {address : Address} (encoded : address.encode = .ok target)
    (rest : List UInt8) :
    ∃ header, Admits (users.map (Header.hashPassword sha224 hex))
      (written ++ [0x0d, 0x0a] ++ [command.asU8] ++ target ++ [0x0d, 0x0a] ++ rest) header
      rest := by
  have sized : written.length = 56 := by
    have lengths := congrArg List.length hashed
    rwa [List.length_map, asBytes_hashPassword_length] at lengths
  rcases Address.spells_of_encode encoded with ⟨spelled, spells, _⟩
  let header : Header := ⟨⟨written.toArray, sized⟩, command, spelled⟩
  have decomposes : header.Decomposes
      (written ++ [0x0d, 0x0a] ++ [command.asU8] ++ target ++ [0x0d, 0x0a] ++ rest) target rest :=
    ⟨all_isAsciiHexdigit_of_lower hashed, spells, rfl⟩
  rcases (Header.decomposes_iff header _ rest).mp ⟨target, decomposes⟩ with ⟨wire, split, spelling⟩
  have same : header.passwordHash.toList.map toAsciiLowercase =
      asBytes (Header.hashPassword sha224 hex password) := hashed
  have authorized := (Header.authorized_hashed same).mpr shares
  exact ⟨header, wire, split, spelling, authorized⟩

/-- When the configuration holds the hashes of the users' passwords, the clients that are served are
those whose password has the digest of one of theirs. In every run of the connection of a client
that starts with the hash of another password, no session exists and no target is sent anything;
and one that goes on from the hash of such a password with any command and any address that can be
encoded is never handed to the fallback, and its target is sent a front of what follows. -/
theorem Connection.run_serves_users {config : Config} {users : List String}
    {peerAddr : SocketAddr} {stream : ClientStream} {written more : List UInt8}
    {password : String} {actions : List ConnectionAction} {final : Connection}
    (configured : config.passwords = users.map (Header.hashPassword sha224 hex))
    (sends : stream.bytes = written ++ more)
    (hashed : written.map toAsciiLowercase = asBytes (Header.hashPassword sha224 hex password))
    (ran : Runs.run (step config) (start peerAddr stream) actions = some final) :
    (¬ SharesDigest sha224 users password →
      final.stage.session = none ∧ final.stage.toTarget = []) ∧
    (SharesDigest sha224 users password →
      ∀ (command : Command) (address : Address) (target rest : List UInt8),
        address.encode = .ok target →
        more = [0x0d, 0x0a] ++ [command.asU8] ++ target ++ [0x0d, 0x0a] ++ rest →
          final.stage.toBackend = [] ∧ final.stage.toTarget <+: rest) := by
  have traces := (run_follows ran).traces
  constructor
  · intro stranger
    have refused : ∀ header rest, ¬ Admits config.passwords stream.bytes header rest := by
      intro header rest admits
      rw [configured] at admits
      exact stranger (admits.sharesDigest sends hashed)
    refine ⟨?_, traces.toTarget_eq_nil refused⟩
    cases proxied : final.stage.session with
    | none => rfl
    | some session =>
      rcases traces.serves proxied with ⟨header, rest, admits, _⟩
      exact absurd admits (refused header rest)
  · intro shares command address target rest encoded continues
    rcases shares.admits hashed command encoded rest with ⟨header, admits⟩
    have whole : stream.bytes =
        written ++ [0x0d, 0x0a] ++ [command.asU8] ++ target ++ [0x0d, 0x0a] ++ rest := by
      rw [sends, continues]
      simp
    rw [← whole, ← configured] at admits
    exact traces.serves_admitted admits

end

/-- A hex digit in lower case. -/
def lowerDigit (number : Nat) : String := String.ofList [number.digitChar]

/-- A digit is one byte, which is a hex digit in lower case. -/
theorem asBytes_lowerDigit {number : Nat} (small : number < 16) :
    ∃ digit, asBytes (lowerDigit number) = [digit] ∧ isAsciiHexdigit digit = true ∧
      toAsciiLowercase digit = digit := by
  have every : ∀ number : Fin 16, (asBytes (lowerDigit number.val)).length = 1 ∧
      ∀ digit ∈ asBytes (lowerDigit number.val),
        isAsciiHexdigit digit = true ∧ toAsciiLowercase digit = digit := by decide +kernel
  rcases every ⟨number, small⟩ with ⟨single, lower⟩
  rcases List.length_eq_one_iff.mp single with ⟨digit, known⟩
  exact ⟨digit, known, lower digit (by rw [known]; exact List.mem_cons_self)⟩

/-- The two digits of a byte. -/
def hexPair (byte : UInt8) : String :=
  lowerDigit (byte.toNat / 16) ++ lowerDigit (byte.toNat % 16)

/-- The digits of a byte are two hex digits in lower case that are read as its halves. -/
theorem hexPair_digits (byte : UInt8) :
    (asBytes (hexPair byte)).length = 2 ∧
      (∀ digit ∈ asBytes (hexPair byte),
        isAsciiHexdigit digit = true ∧ toAsciiLowercase digit = digit) ∧
      AddrParser.readDigits 16 (asBytes (hexPair byte)) =
        ([byte.toNat / 16, byte.toNat % 16], []) := by
  have bound := byte.toNat_lt
  have high : byte.toNat / 16 < 16 := by omega
  have low : byte.toNat % 16 < 16 := by omega
  have readHigh := AddrParser.readDigits_digitChar (Nat.le_refl 16) high
  have readLow := AddrParser.readDigits_digitChar (Nat.le_refl 16) low
  have read := AddrParser.readDigits_append readHigh (asBytes (lowerDigit (byte.toNat % 16)))
  rcases asBytes_lowerDigit high with ⟨first, firstKnown, firstLower⟩
  rcases asBytes_lowerDigit low with ⟨last, lastKnown, lastLower⟩
  have both : asBytes (hexPair byte) = [first, last] := by
    rw [hexPair, asBytes_append, firstKnown, lastKnown]
    rfl
  refine ⟨by rw [both]; rfl, ?_, ?_⟩
  · rw [both]
    simp [firstLower, lastLower]
  · change AddrParser.readDigits 16 (asBytes (lowerDigit (byte.toNat % 16))) = _ at readLow
    rw [readLow] at read
    rw [hexPair, asBytes_append]
    exact read

/-- Bytes have different digits. -/
theorem hexPair_inj {byte other : UInt8} (same : hexPair byte = hexPair other) : byte = other := by
  have read := (hexPair_digits byte).2.2
  rw [same, (hexPair_digits other).2.2] at read
  simp only [Prod.mk.injEq, List.cons.injEq, and_true] at read
  apply UInt8.toNat_inj.mp
  omega

/-- The digits of bytes, one after the other. -/
def lowerHexText : List UInt8 → String
  | [] => ""
  | byte :: bytes => hexPair byte ++ lowerHexText bytes

/-- A hex encoder. -/
def lowerHexEncoder : HexEncoder where
  encode := lowerHexText
  sized := by
    intro bytes
    induction bytes with
    | nil => rfl
    | cons byte bytes ih =>
      rw [lowerHexText, asBytes_append, List.length_append, ih, (hexPair_digits byte).1,
        List.length_cons]
      omega
  digits := by
    intro bytes
    induction bytes with
    | nil =>
      intro digit member
      contradiction
    | cons byte bytes ih =>
      intro digit member
      rw [lowerHexText, asBytes_append] at member
      rcases List.mem_append.mp member with first | later
      · exact (hexPair_digits byte).2.1 digit first
      · exact ih digit later
  decodable := by
    intro bytes
    induction bytes with
    | nil =>
      intro other same
      cases other with
      | nil => rfl
      | cons byte rest =>
        have lengths := congrArg (fun text => (asBytes text).length) same
        simp only [lowerHexText, asBytes_append, List.length_append, (hexPair_digits byte).1,
          asBytes_empty, List.length_nil] at lengths
        omega
    | cons byte bytes ih =>
      intro other same
      cases other with
      | nil =>
        have lengths := congrArg (fun text => (asBytes text).length) same
        simp only [lowerHexText, asBytes_append, List.length_append, (hexPair_digits byte).1,
          asBytes_empty, List.length_nil] at lengths
        omega
      | cons first rest =>
        have spelled := congrArg asBytes same
        simp only [lowerHexText, asBytes_append] at spelled
        have lengths : (asBytes (hexPair byte)).length = (asBytes (hexPair first)).length := by
          rw [(hexPair_digits byte).1, (hexPair_digits first).1]
        rcases List.append_inj spelled lengths with ⟨pair, others⟩
        rw [hexPair_inj (asBytes_inj pair), ih (asBytes_inj others)]

/-- With a hash function that sums the bytes, a client that writes the hash of a user's password in
upper case is served. -/
theorem Connection.run_serves_users_oneAnswer :
    ∃ final, Runs.run (step oneConfig) (start (.v4 (.new 127 0 0 1) 5000) oneClient) oneAnswer =
        some final ∧
      oneConfig.passwords = ["UU"].map (Header.hashPassword
        (fun bytes => Vector.replicate 28 bytes.sum) lowerHexEncoder) ∧
      final.stage.toBackend = [] ∧ final.stage.toTarget <+: [0x2a] := by
  rcases run_oneAnswer with ⟨final, ran, _⟩
  have configured : oneConfig.passwords = ["UU"].map (Header.hashPassword
      (fun bytes => Vector.replicate 28 bytes.sum) lowerHexEncoder) := by decide +kernel
  have sends : oneClient.bytes = List.replicate 56 0x41 ++
      ([0x0d, 0x0a] ++ [Command.connect.asU8] ++ [0x01, 0x0a, 0x00, 0x00, 0x01, 0x00, 0x50] ++
        [0x0d, 0x0a] ++ [0x2a]) := by decide +kernel
  have hashed : (List.replicate 56 0x41).map toAsciiLowercase =
      asBytes (Header.hashPassword (fun bytes => Vector.replicate 28 bytes.sum) lowerHexEncoder
        "UU") := by decide +kernel
  have encoded : (Address.ipv4 (.v4 (.new 10 0 0 1) 80)).encode =
      .ok [0x01, 0x0a, 0x00, 0x00, 0x01, 0x00, 0x50] := by decide
  have shares : SharesDigest (fun bytes => Vector.replicate 28 bytes.sum) ["UU"] "UU" :=
    ⟨"UU", List.mem_cons_self, rfl⟩
  have served := (run_serves_users configured sends hashed ran).2 shares .connect _ _ _ encoded rfl
  exact ⟨final, ran, configured, served⟩

end TrojanRust
