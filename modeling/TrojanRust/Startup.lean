import TrojanRust.Accept
import TrojanRust.Codec.Header
import TrojanRust.Dispatch

/-!
# Serving a validated configuration

What the server needs of its configuration is that its semaphore can be created and has a permit
for the first connection, and that every password can be used by a client. Validation implies
what is needed of the passwords. It does not look at the number of connections.
-/

namespace TrojanRust

open TrojanRust.Bytes

namespace Config

/-- The configurations that pass validation. -/
theorem validate_iff (fileExists : String → Bool) (config : Config) :
    config.validate fileExists = .ok () ↔
      config.passwords ≠ [] ∧ (SocketAddr.fromStr config.bindAddr).isSome ∧
        fileExists config.tlsCert ∧ fileExists config.tlsKey ∧
        (∀ password ∈ config.passwords, isPasswordHash password) ∧
        (SocketAddr.fromStr config.udpBindAddr).isSome ∧
        validateHostPort "fallback_addr" config.fallbackAddr = .ok () := by
  unfold validate
  simp only [check_eq_ok]
  simp [Option.isSome_iff_ne_none]

/-- A client can use a password: with every command and every address that the encoder writes,
the header that the password starts is parsed and passes the password check. -/
def Usable (config : Config) (password : String) : Prop :=
  ∀ (command : Command) (address : Address) (target : List UInt8),
    address.encode = .ok target →
    ∃ header : Header, Header.tryParseFromBuf (asBytes password ++ [0x0d, 0x0a] ++
        [command.asU8] ++ target ++ [0x0d, 0x0a]) = .ok (some header) ∧
      header.command = command ∧ (address.FlowFree → header.address = address) ∧
      header.verifyPassword config.passwords = true

/-- A configuration can be served: the server is created with a permit that its accept loop can
take for the first connection, and every password is usable. -/
structure Servable (config : Config) : Prop where
  created : ∃ server, Server.new config = .ok server ∧ 1 ≤ server.connectionLimit.permits ∧
    ∃ next, (Serving.start server).step .acquired = some next
  usable : ∀ password ∈ config.passwords, config.Usable password

/-- A configured password of 56 hex digits is usable. -/
theorem usable_of_isPasswordHash {config : Config} {password : String}
    (member : password ∈ config.passwords) (isHash : isPasswordHash password) :
    config.Usable password := by
  simp only [isPasswordHash, Bool.and_eq_true, beq_iff_eq] at isHash
  have ⟨sized, hex⟩ := isHash
  intro command address target encoded
  have ⟨spelled, spells, same⟩ := Address.spells_of_encode encoded
  let header : Header := ⟨⟨(asBytes password).toArray, sized⟩, command, spelled⟩
  have digits : header.passwordHash.toList = asBytes password := rfl
  have accepted : header.Spells (asBytes password ++ [0x0d, 0x0a] ++ [command.asU8] ++ target ++
      [0x0d, 0x0a]) := by
    refine ⟨target, by rwa [digits], spells, ?_⟩
    rw [Header.commandLine, digits]
    simp [header, Header.crlf]
  have parsed := Header.tryParseFromBuf_complete accepted []
  rw [List.append_nil] at parsed
  have authorized : header.Authorized config.passwords :=
    ⟨password, member, sized, by rw [digits]⟩
  exact ⟨header, parsed, rfl, same, (Header.verifyPassword_iff _ _).mpr authorized⟩

/-- The server is created when its semaphore is, with the permits that are configured. -/
theorem serverNew_of_le {config : Config} (bounded : config.maxConnections.toNat ≤ maxPermits) :
    Server.new config = .ok ⟨config, config.maxConnections.toNat, bounded⟩ := by
  rw [Server.new, Semaphore.new, dif_pos bounded]
  rfl

/-- Creating the server panics when more permits are configured than a semaphore counts. -/
theorem serverNew_of_gt {config : Config} (large : maxPermits < config.maxConnections.toNat) :
    Server.new config = .error .panic := by
  rw [Server.new, Semaphore.new, dif_neg (Nat.not_le.mpr large)]
  rfl

/-- A server with a first permit is created when that many permits are configured and counted. -/
theorem created_iff (config : Config) :
    (∃ server, Server.new config = .ok server ∧ 1 ≤ server.connectionLimit.permits ∧
      ∃ next, (Serving.start server).step .acquired = some next) ↔
      1 ≤ config.maxConnections.toNat ∧ config.maxConnections.toNat ≤ maxPermits := by
  by_cases bounded : config.maxConnections.toNat ≤ maxPermits
  · simp [serverNew_of_le bounded, Serving.acquires_iff, bounded]
  · simp [serverNew_of_gt (Nat.not_le.mp bounded), bounded]

/-- A validated configuration can be served exactly when its number of connections is at least
one and at most what a semaphore counts. -/
theorem servable_iff (fileExists : String → Bool) (config : Config)
    (valid : config.validate fileExists = .ok ()) :
    Servable config ↔
      1 ≤ config.maxConnections.toNat ∧ config.maxConnections.toNat ≤ maxPermits := by
  have ⟨_, _, _, _, hashes, _, _⟩ := (validate_iff fileExists config).mp valid
  constructor
  · intro servable
    exact (created_iff config).mp servable.created
  · intro range
    exact
      { created := (created_iff config).mpr range
        usable := fun password member => usable_of_isPasswordHash member (hashes password member) }

/-- The defaults, with files that exist and a password hash, can be served. -/
theorem servable_iff_withDefaults :
    Servable (withDefaults "certs/cert.pem" "certs/key.pem"
      ["5fd924625f6ab16a19cc9807c7c506ae1813490e4ba675f843d5a10e"]) :=
  (servable_iff (fun _ => true) _ (by decide +kernel)).mpr (by decide)

/-- Validation accepts no connections at all, which leaves a server that never takes one, and
more connections than a semaphore counts, on which the server panics. -/
theorem servable_fails :
    ∃ none many : Config, none.maxConnections = 0 ∧ many.maxConnections = 2 ^ 61 ∧
      none.validate (fun _ => true) = .ok () ∧ many.validate (fun _ => true) = .ok () ∧
      (∀ server, Server.new none = .ok server → (Serving.start server).step .acquired = .none) ∧
      Server.new many = .error .panic ∧ ¬ Servable none ∧ ¬ Servable many := by
  let base := withDefaults "certs/cert.pem" "certs/key.pem"
    ["5fd924625f6ab16a19cc9807c7c506ae1813490e4ba675f843d5a10e"]
  let none : Config := { base with maxConnections := 0 }
  let many : Config := { base with maxConnections := 2 ^ 61 }
  have tooFew : ¬ 1 ≤ none.maxConnections.toNat := by decide
  have tooMany : maxPermits < many.maxConnections.toNat := by decide +kernel
  refine ⟨none, many, rfl, rfl, by decide +kernel, by decide +kernel, ?_,
    serverNew_of_gt tooMany, ?_, ?_⟩
  · intro server created
    have permits := created
    rw [serverNew_of_le (by decide)] at permits
    obtain rfl := Except.ok.inj permits
    rfl
  · intro servable
    exact tooFew ((created_iff none).mp servable.created).1
  · intro servable
    exact Nat.not_le.mpr tooMany ((created_iff many).mp servable.created).2

end Config

end TrojanRust
