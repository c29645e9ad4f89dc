import TrojanRust.Codec.Address

/-!
# Round trips of the address codecs

What `Address::encode` writes, all three decoders read back, and none of them returns early on
a proper front of it. The converse depends on the decoder: the two header decoders accept the
empty domain, which neither the encoder nor the UDP reader does, and that is their only
difference.
-/

namespace TrojanRust

open TrojanRust.Bytes

namespace Address

/-- A spelling is read back by the stream reader of the headers. -/
theorem Spells.run_readFrom {address : Address} {wire : List UInt8}
    (spells : address.Spells wire) (stop : ErrorKind) (rest : List UInt8) :
    readFrom.run stop (wire ++ rest) = (.ok address, rest) :=
  ((reads_readFrom _ _).mpr spells).run stop rest

/-- A spelling that is not an empty domain is read back by the UDP reader. -/
theorem Spells.run_readUdpTarget {address : Address} {wire : List UInt8}
    (spells : address.Spells wire) (named : address.IsNamed) (stop : ErrorKind)
    (rest : List UInt8) : readUdpTarget.run stop (wire ++ rest) = (.ok address, rest) :=
  ((reads_readUdpTarget _ _).mpr ⟨spells, named⟩).run stop rest

/-- Every decoder undoes the encoder and consumes exactly its bytes. On a proper front of an
encoding the buffered parser asks for more and the stream readers fail with the reason for
which the stream stopped, so no encoding is a proper front of another and no two addresses
share one. -/
theorem decoders_undo_encode (address : Address) (wire : List UInt8)
    (encoded : address.encode = .ok wire) (flowFree : address.FlowFree) :
    (∀ rest, parseFromBuf (wire ++ rest) = .ok (address, some wire.length)) ∧
    (∀ stop rest, readFrom.run stop (wire ++ rest) = (.ok address, rest)) ∧
    (∀ stop rest, readUdpTarget.run stop (wire ++ rest) = (.ok address, rest)) ∧
    (∀ part, part <+: wire → part ≠ wire →
      parseFromBuf part = .ok needMore ∧
      ∀ stop, (readFrom.run stop part).1 = .error (.err (.io stop)) ∧
        (readUdpTarget.run stop part).1 = .error (.err (.io stop))) ∧
    (∀ other spelling, other.encode = .ok spelling → other.FlowFree →
      (wire <+: spelling → wire = spelling) ∧ (wire = spelling → address = other)) := by
  have ⟨spells, named⟩ := (encode_eq_ok_iff address wire).mp ⟨encoded, flowFree⟩
  have readsFrom := (reads_readFrom wire address).mpr spells
  have readsTarget := (reads_readUdpTarget wire address).mpr ⟨spells, named⟩
  refine ⟨parseFromBuf_complete spells, spells.run_readFrom, spells.run_readUdpTarget named,
    fun part front proper => ⟨parseFromBuf_short (spells.front_short front proper),
      fun stop => ⟨?_, ?_⟩⟩, fun other spelling again otherFree => ⟨?_, ?_⟩⟩
  · rw [readsFrom.run_front strict_readFrom stop front proper]
    rfl
  · rw [readsTarget.run_front strict_readUdpTarget stop front proper]
    rfl
  · rintro ⟨more, whole⟩
    have other := ((encode_eq_ok_iff _ _).mp ⟨again, otherFree⟩).1
    have same : wire ++ more = spelling ++ [] := by rw [whole, List.append_nil]
    exact (spells.unique other same).1
  · rintro rfl
    have other := ((encode_eq_ok_iff _ _).mp ⟨again, otherFree⟩).1
    have same : wire ++ [] = wire ++ [] := rfl
    exact (spells.unique other same).2.1

/-- The hypotheses hold of a domain and its port. -/
theorem decoders_undo_encode_domain :
    (domain "a" 443).encode = .ok [0x03, 0x01, 0x61, 0x01, 0xbb] ∧
      parseFromBuf ([0x03, 0x01, 0x61, 0x01, 0xbb] ++ [0x0d, 0x0a]) =
        .ok (domain "a" 443, some 5) :=
  have encoded : (domain "a" 443).encode = .ok [0x03, 0x01, 0x61, 0x01, 0xbb] := by decide
  ⟨encoded, (decoders_undo_encode (domain "a" 443) _ encoded (by decide)).1 [0x0d, 0x0a]⟩

end Address

/-- The three decoders of an address. -/
inductive AddressDecoder where
  | parseFromBuf
  | readFrom
  | readUdpTarget
  deriving DecidableEq, Repr

namespace AddressDecoder

/-- The stream reader of a decoder that is one. -/
def accepted (reader : StreamReader Address) (bytes : List UInt8) : Option (Address × Nat) :=
  match reader.run .unexpectedEof bytes with
  | (.ok address, rest) => some (address, bytes.length - rest.length)
  | (.error _, _) => none

/-- The address a decoder accepts at the front of a byte string that is all there is, and the
number of bytes it consumes. -/
def accepts : AddressDecoder → List UInt8 → Option (Address × Nat)
  | .parseFromBuf, bytes =>
    match Address.parseFromBuf bytes with
    | .ok (address, some n) => some (address, n)
    | _ => none
  | .readFrom, bytes => accepted Address.readFrom bytes
  | .readUdpTarget, bytes => accepted Address.readUdpTarget bytes

/-- A strict reader accepts exactly the byte strings that start with what it reads. -/
theorem accepted_eq_some {reader : StreamReader Address} (strict : reader.Strict ioFault)
    (bytes : List UInt8) (address : Address) (n : Nat) :
    accepted reader bytes = some (address, n) ↔
      ∃ wire rest, bytes = wire ++ rest ∧ n = wire.length ∧ reader.Reads wire address := by
  have ran := fun rest => strict.run_ok_iff .unexpectedEof bytes rest address
  unfold accepted
  constructor
  · intro found
    split at found
    · rename_i value rest known
      simp only [Option.some.injEq, Prod.mk.injEq] at found
      obtain ⟨rfl, rfl⟩ := found
      obtain ⟨wire, rfl, reads⟩ := (ran rest).mp known
      exact ⟨wire, rest, rfl, by simp, reads⟩
    · contradiction
  · rintro ⟨wire, rest, rfl, rfl, reads⟩
    rw [(ran rest).mpr ⟨wire, rfl, reads⟩]
    simp

/-- Every decoder accepts what the grammar spells, and the UDP reader no empty domain. -/
theorem accepts_eq_some (decoder : AddressDecoder) (bytes : List UInt8) (address : Address)
    (n : Nat) :
    decoder.accepts bytes = some (address, n) ↔
      ∃ wire rest, bytes = wire ++ rest ∧ n = wire.length ∧ address.Spells wire ∧
        (decoder = .readUdpTarget → address.IsNamed) := by
  cases decoder with
  | parseFromBuf =>
    have parsed := Address.parseFromBuf_eq_some bytes address n
    simp only [reduceCtorEq, false_implies, and_true, ← parsed, accepts]
    split
    · rename_i found size known
      simp [known]
    · rename_i refused
      simp only [reduceCtorEq, false_iff]
      exact refused address n
  | readFrom =>
    simp only [accepts, accepted_eq_some Address.strict_readFrom, Address.reads_readFrom,
      reduceCtorEq, false_implies, and_true]
  | readUdpTarget =>
    simp only [accepts, accepted_eq_some Address.strict_readUdpTarget,
      Address.reads_readUdpTarget, forall_const]

/-- A decoder accepts at the front of these bytes only what the encoder writes. -/
def OnlyEncodings (decoder : AddressDecoder) (bytes : List UInt8) : Prop :=
  ∀ address n, decoder.accepts bytes = some (address, n) →
    address.encode = .ok (bytes.take n)

/-- All decoders accept the same at the front of these bytes. -/
def SameLanguage (bytes : List UInt8) : Prop :=
  ∀ left right : AddressDecoder, left.accepts bytes = right.accepts bytes

/-- A domain of length zero with its port. -/
def StartsEmptyDomain (bytes : List UInt8) : Prop :=
  [0x03, 0x00] <+: bytes ∧ 4 ≤ bytes.length

/-- Whether an empty domain starts the bytes is decided by the first four. -/
instance : DecidablePred StartsEmptyDomain :=
  fun bytes => inferInstanceAs (Decidable ([0x03, 0x00] <+: bytes ∧ 4 ≤ bytes.length))

/-- An empty domain at the front is exactly a spelling that is not named. -/
theorem startsEmptyDomain_iff (bytes : List UInt8) :
    StartsEmptyDomain bytes ↔
      ∃ (address : Address) (wire rest : List UInt8),
        bytes = wire ++ rest ∧ address.Spells wire ∧ ¬ address.IsNamed := by
  constructor
  · rintro ⟨⟨tail, rfl⟩, long⟩
    have enough : 0 + 2 ≤ tail.length := by simpa using long
    obtain ⟨octets, port, rest, rfl⟩ := Address.split_host 0 tail enough
    have noBytes : octets.toList = [] := List.length_eq_zero_iff.mp Vector.length_toList
    refine ⟨.domain "" port, _, rest, ?_, .domain "" 0 port rfl, fun named => named rfl⟩
    simp [noBytes]
  · rintro ⟨address, wire, rest, rfl, spells, unnamed⟩
    cases spells with
    | ipv4 ip port => exact absurd trivial unnamed
    | ipv6 ip port => exact absurd trivial unnamed
    | domain name len port sized =>
      have empty : name = "" := by
        by_contra named
        exact unnamed named
      subst empty
      obtain rfl : len = 0 := UInt8.toNat_inj.mp (by rw [← sized]; rfl)
      refine ⟨⟨(u16ToBeBytes port).toList ++ rest, by simp⟩, ?_⟩
      simp

/-- What the UDP reader accepts is always an encoding; so is what any decoder accepts when the
bytes do not start with an empty domain. -/
theorem onlyEncodings_of_named (decoder : AddressDecoder) (bytes : List UInt8)
    (allowed : decoder = .readUdpTarget ∨ ¬ StartsEmptyDomain bytes) :
    decoder.OnlyEncodings bytes := by
  intro address n accepted
  obtain ⟨wire, rest, rfl, rfl, spells, udpNamed⟩ := (accepts_eq_some _ _ _ _).mp accepted
  have named : address.IsNamed := by
    rcases allowed with udp | nonempty
    · exact udpNamed udp
    · by_contra unnamed
      exact nonempty ((startsEmptyDomain_iff _).mpr ⟨address, wire, rest, rfl, spells, unnamed⟩)
  rw [((Address.encode_eq_ok_iff address wire).mpr ⟨spells, named⟩).1, List.take_left' rfl]

/-- A decoder accepts only encodings exactly when it is the UDP reader or the bytes do not start
with an empty domain, and the decoders agree exactly when they do not. -/
theorem onlyEncodings_iff (bytes : List UInt8) :
    (∀ decoder : AddressDecoder, decoder.OnlyEncodings bytes ↔
      decoder = .readUdpTarget ∨ ¬ StartsEmptyDomain bytes) ∧
    (SameLanguage bytes ↔ ¬ StartsEmptyDomain bytes) := by
  have header : ∀ decoder : AddressDecoder, decoder ≠ .readUdpTarget → StartsEmptyDomain bytes →
      ∃ address n, decoder.accepts bytes = some (address, n) ∧ ¬ address.IsNamed ∧
        address.Spells (bytes.take n) := by
    intro decoder notUdp starts
    obtain ⟨address, wire, rest, rfl, spells, unnamed⟩ := (startsEmptyDomain_iff _).mp starts
    refine ⟨address, wire.length, (accepts_eq_some _ _ _ _).mpr ⟨wire, rest, rfl, rfl, spells,
      fun udp => absurd udp notUdp⟩, unnamed, ?_⟩
    rwa [List.take_left' rfl]
  refine ⟨fun decoder => ⟨fun only => ?_, onlyEncodings_of_named decoder bytes⟩, ?_, ?_⟩
  · by_contra refused
    rw [not_or, not_not] at refused
    have ⟨address, n, accepted, unnamed, spells⟩ := header decoder refused.1 refused.2
    have encoded := only address n accepted
    exact unnamed ((Address.encode_eq_ok_iff _ _).mp ⟨encoded, spells.flowFree⟩).2
  · intro same starts
    have ⟨address, n, accepted, unnamed, _⟩ := header .parseFromBuf (by decide) starts
    rw [same .parseFromBuf .readUdpTarget, accepts_eq_some] at accepted
    have ⟨_, _, _, _, _, named⟩ := accepted
    exact unnamed (named rfl)
  · intro nonempty left right
    have named : ∀ (address : Address) (wire rest : List UInt8), bytes = wire ++ rest →
        address.Spells wire → address.IsNamed := by
      intro address wire rest split spells
      by_contra unnamed
      exact nonempty ((startsEmptyDomain_iff _).mpr ⟨address, wire, rest, split, spells, unnamed⟩)
    have through : ∀ (one another : AddressDecoder) (found : Address × Nat),
        one.accepts bytes = some found → another.accepts bytes = some found := by
      intro one another found accepted
      have ⟨wire, rest, split, size, spells, _⟩ := (accepts_eq_some _ _ _ _).mp accepted
      exact (accepts_eq_some _ _ _ _).mpr
        ⟨wire, rest, split, size, spells, fun _ => named _ wire rest split spells⟩
    exact Option.ext fun found => ⟨through left right found, through right left found⟩

/-- Both header decoders accept the empty domain with port 443, which the encoder cannot write
and the UDP reader refuses. -/
theorem emptyDomain_accepted :
    AddressDecoder.parseFromBuf.accepts [0x03, 0x00, 0x01, 0xbb] = some (.domain "" 443, 4) ∧
    AddressDecoder.readFrom.accepts [0x03, 0x00, 0x01, 0xbb] = some (.domain "" 443, 4) ∧
    AddressDecoder.readUdpTarget.accepts [0x03, 0x00, 0x01, 0xbb] = none ∧
    (Address.domain "" 443).encode =
      err (.protocol "Domain length must be between 1 and 255 bytes") ∧
    ¬ AddressDecoder.parseFromBuf.OnlyEncodings [0x03, 0x00, 0x01, 0xbb] ∧
    ¬ AddressDecoder.readFrom.OnlyEncodings [0x03, 0x00, 0x01, 0xbb] ∧
    ¬ SameLanguage [0x03, 0x00, 0x01, 0xbb] := by
  have parsed : AddressDecoder.parseFromBuf.accepts [0x03, 0x00, 0x01, 0xbb] =
      some (.domain "" 443, 4) := by decide +kernel
  have read : AddressDecoder.readFrom.accepts [0x03, 0x00, 0x01, 0xbb] =
      some (.domain "" 443, 4) := by decide +kernel
  have refused : AddressDecoder.readUdpTarget.accepts [0x03, 0x00, 0x01, 0xbb] = none := by
    decide +kernel
  have encoded : (Address.domain "" 443).encode =
      err (.protocol "Domain length must be between 1 and 255 bytes") := by decide +kernel
  refine ⟨parsed, read, refused, encoded, fun only => ?_, fun only => ?_, fun same => ?_⟩
  · have written := only _ _ parsed
    rw [encoded] at written
    contradiction
  · have written := only _ _ read
    rw [encoded] at written
    contradiction
  · have both := same .parseFromBuf .readUdpTarget
    rw [parsed, refused] at both
    contradiction

end AddressDecoder

end TrojanRust
