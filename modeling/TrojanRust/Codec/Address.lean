import TrojanRust.Proxy.Udp

/-!
# The address grammar and its codecs

`Address.Spells` is the grammar of a target address, independent of any decoder. Both stream
readers spell addresses by it, the buffered parser accepts its members and nothing else, and
the encoder writes them. `AddressShape` lists everything a buffer can start with, so a fact
about `parseFromBuf` or about a stream reader on an arbitrary buffer is one case analysis.
-/

namespace TrojanRust

open TrojanRust.Bytes

/-- Decoding a domain succeeds exactly on the bytes of the name it returns. -/
theorem Address.domainFromUtf8_eq_ok (bytes : List UInt8) (name : String) :
    Address.domainFromUtf8 bytes = .ok name ↔ bytes = asBytes name := by
  rw [← fromUtf8_eq_some]
  unfold Address.domainFromUtf8
  cases fromUtf8 bytes <;> simp [err]

namespace Address

/-- The byte strings that spell an address: a type byte, the host, and the port in network
order. A domain is preceded by its length and may be empty. -/
inductive Spells : Address → List UInt8 → Prop
  | ipv4 (ip : Ipv4Addr) (port : UInt16) :
    Spells (.ipv4 (.v4 ip port)) (0x01 :: (ip.octets.toList ++ (u16ToBeBytes port).toList))
  | ipv6 (ip : Ipv6Addr) (port : UInt16) :
    Spells (.ipv6 (.v6 ip port 0 0)) (0x04 :: (ip.octets.toList ++ (u16ToBeBytes port).toList))
  | domain (name : String) (len : UInt8) (port : UInt16)
      (sized : (asBytes name).length = len.toNat) :
    Spells (.domain name port) (0x03 :: len :: (asBytes name ++ (u16ToBeBytes port).toList))

/-- An IP host and port are spelled by the octets and the two digits of the port. -/
theorem reads_host {count : Nat} (host : Vector UInt8 count → UInt16 → Address)
    (wire : List UInt8) (address : Address) :
    (do
      let octets ← readExact count
      let port ← readU16
      return host octets port : StreamReader Address).Reads wire address ↔
      ∃ octets port, wire = octets.toList ++ (u16ToBeBytes port).toList ∧
        host octets port = address := by
  rw [Reader.reads_bind]
  simp only [Reader.reads_bind_pure, reads_readExact, reads_readU16]
  constructor
  · rintro ⟨_, _, octets, rfl, rfl, port, rfl, same⟩
    exact ⟨octets, port, rfl, same⟩
  · rintro ⟨octets, port, rfl, same⟩
    exact ⟨_, _, octets, rfl, rfl, port, rfl, same⟩

/-- A domain and port after the length byte are spelled by the bytes of the name and the two
digits of the port. -/
theorem reads_name (count : Nat) (wire : List UInt8) (address : Address) :
    (do
      let buf ← readExact count
      let domain ← domainFromUtf8 buf.toList
      let port ← readU16
      return .domain domain port : StreamReader Address).Reads wire address ↔
      ∃ name port, (asBytes name).length = count ∧
        wire = asBytes name ++ (u16ToBeBytes port).toList ∧ .domain name port = address := by
  rw [Reader.reads_bind]
  simp only [Reader.reads_lift_bind, Reader.reads_bind_pure, reads_readExact, reads_readU16,
    domainFromUtf8_eq_ok]
  constructor
  · rintro ⟨_, _, buf, rfl, rfl, name, decoded, port, rfl, same⟩
    refine ⟨name, port, ?_, by rw [decoded], same⟩
    rw [← decoded, Vector.length_toList]
  · rintro ⟨name, port, sized, rfl, same⟩
    exact ⟨_, _, ⟨(asBytes name).toArray, sized⟩, rfl, rfl, name, rfl, port, rfl, same⟩

/-- The stream reader of the Trojan and Vision headers spells addresses by the grammar. -/
theorem reads_readFrom (wire : List UInt8) (address : Address) :
    readFrom.Reads wire address ↔ address.Spells wire := by
  simp only [readFrom, Ipv4Addr.new_octets, Ipv6Addr.new_groups]
  constructor
  · intro reads
    obtain ⟨first, second, kind, rfl, tag, body⟩ := (Reader.reads_bind _ _ _ _).mp reads
    obtain rfl := (reads_readU8 _ _).mp tag
    split at body
    · rename_i isIpv4
      obtain ⟨octets, port, rfl, rfl⟩ := (reads_host _ _ _).mp body
      subst isIpv4
      exact .ipv4 ⟨octets⟩ port
    · split at body
      · rename_i isDomain
        obtain ⟨first, second, len, rfl, prefixed, named⟩ := (Reader.reads_bind _ _ _ _).mp body
        obtain rfl := (reads_readU8 _ _).mp prefixed
        obtain ⟨name, port, sized, rfl, rfl⟩ := (reads_name _ _ _).mp named
        subst isDomain
        exact .domain name len port sized
      · split at body
        · rename_i isIpv6
          obtain ⟨octets, port, rfl, rfl⟩ := (reads_host _ _ _).mp body
          subst isIpv6
          exact .ipv6 ⟨octets⟩ port
        · exact absurd body (Reader.reads_fail _ _ _)
  · intro spells
    cases spells with
    | ipv4 ip port =>
      exact (readU8_reads 0x01).bind ((reads_host _ _ _).mpr ⟨ip.octets, port, rfl, rfl⟩)
    | ipv6 ip port =>
      exact (readU8_reads 0x04).bind ((reads_host _ _ _).mpr ⟨ip.octets, port, rfl, rfl⟩)
    | domain name len port sized =>
      have named := (reads_name _ _ _).mpr ⟨name, port, sized, rfl, rfl⟩
      exact (readU8_reads 0x03).bind ((readU8_reads len).bind named)

/-- A domain, when the address is one, is not empty. -/
def IsNamed : Address → Prop
  | .domain name _ => name ≠ ""
  | _ => True

/-- Whether a domain is empty is decided by its text. -/
instance : DecidablePred IsNamed
  | .domain name _ => inferInstanceAs (Decidable (name ≠ ""))
  | .ipv4 _ => .isTrue trivial
  | .ipv6 _ => .isTrue trivial

/-- The type byte followed by `read_target_address`, as a UDP frame starts. -/
def readUdpTarget : StreamReader Address := do
  let atyp ← readU8
  readTargetAddress atyp

/-- The address reader of the UDP path spells addresses by the same grammar, but for the empty
domain. -/
theorem reads_readUdpTarget (wire : List UInt8) (address : Address) :
    readUdpTarget.Reads wire address ↔ address.Spells wire ∧ address.IsNamed := by
  simp only [readUdpTarget, readTargetAddress]
  constructor
  · intro reads
    obtain ⟨first, second, kind, rfl, tag, body⟩ := (Reader.reads_bind _ _ _ _).mp reads
    obtain rfl := (reads_readU8 _ _).mp tag
    split at body
    · rename_i isIpv4
      obtain ⟨octets, port, rfl, rfl⟩ := (reads_host _ _ _).mp body
      subst isIpv4
      exact ⟨.ipv4 ⟨octets⟩ port, trivial⟩
    · split at body
      · rename_i isDomain
        obtain ⟨first, second, len, rfl, prefixed, named⟩ := (Reader.reads_bind _ _ _ _).mp body
        obtain rfl := (reads_readU8 _ _).mp prefixed
        split at named
        · exact absurd named (Reader.reads_fail _ _ _)
        · rename_i positive
          obtain ⟨name, port, sized, rfl, rfl⟩ := (reads_name _ _ _).mp named
          subst isDomain
          refine ⟨.domain name len port sized, fun empty => positive ?_⟩
          apply UInt8.toNat_inj.mp
          rw [← sized, (asBytes_eq_nil name).mpr empty]
          rfl
      · split at body
        · rename_i isIpv6
          obtain ⟨octets, port, rfl, rfl⟩ := (reads_host _ _ _).mp body
          subst isIpv6
          exact ⟨.ipv6 ⟨octets⟩ port, trivial⟩
        · exact absurd body (Reader.reads_fail _ _ _)
  · rintro ⟨spells, named⟩
    cases spells with
    | ipv4 ip port =>
      exact (readU8_reads 0x01).bind ((reads_host _ _ _).mpr ⟨ip.octets, port, rfl, rfl⟩)
    | ipv6 ip port =>
      exact (readU8_reads 0x04).bind ((reads_host _ _ _).mpr ⟨ip.octets, port, rfl, rfl⟩)
    | domain name len port sized =>
      have positive : len ≠ 0 := by
        rintro rfl
        exact named ((asBytes_eq_nil name).mp (List.length_eq_zero_iff.mp sized))
      apply (readU8_reads 0x03).bind
      apply (readU8_reads len).bind
      rw [if_neg positive]
      exact (reads_name _ _ _).mpr ⟨name, port, sized, rfl, rfl⟩

/-- The octets and the port of a host are indispensable. -/
theorem strict_host {count : Nat} (host : Vector UInt8 count → UInt16 → Address) :
    (do
      let octets ← readExact count
      let port ← readU16
      return host octets port : StreamReader Address).Strict ioFault :=
  (strict_readExact count).bind fun _ => strict_readU16.bind fun _ => Reader.strict_pure _ _

/-- The bytes and the port of a domain are indispensable. -/
theorem strict_name (count : Nat) :
    (do
      let buf ← readExact count
      let domain ← domainFromUtf8 buf.toList
      let port ← readU16
      return .domain domain port : StreamReader Address).Strict ioFault :=
  (strict_readExact count).bind fun _ => (Reader.strict_lift _ _).bind fun _ =>
    strict_readU16.bind fun _ => Reader.strict_pure _ _

/-- Every piece of an address is indispensable. -/
theorem strict_readFrom : readFrom.Strict ioFault := by
  refine strict_readU8.bind fun kind => ?_
  split
  · exact strict_host _
  · split
    · exact strict_readU8.bind fun len => strict_name len.toNat
    · split
      · exact strict_host _
      · exact Reader.strict_fail _ _

/-- Every piece of the target of a frame is indispensable. -/
theorem strict_readTargetAddress (atyp : UInt8) : (readTargetAddress atyp).Strict ioFault := by
  unfold readTargetAddress
  split
  · exact strict_host _
  · split
    · refine strict_readU8.bind fun len => ?_
      split
      · exact Reader.strict_fail _ _
      · exact strict_name len.toNat
    · split
      · exact strict_host _
      · exact Reader.strict_fail _ _

/-- So is its type byte. -/
theorem strict_readUdpTarget : readUdpTarget.Strict ioFault :=
  strict_readU8.bind strict_readTargetAddress

/-- A domain that is not UTF-8 is the only failure of decoding one. -/
theorem domainFromUtf8_eq_error (bytes : List UInt8) (fault : Fault)
    (refused : domainFromUtf8 bytes = .error fault) : fault = .err .invalidUtf8 := by
  unfold domainFromUtf8 at refused
  cases decoded : fromUtf8 bytes with
  | some name => simp [decoded] at refused
  | none => simpa [decoded, err] using refused.symm

/-- Reading an address never panics. -/
theorem safe_readFrom : Safe readFrom := by
  refine safe_readU8.bind fun kind => ?_
  split
  · exact (safe_readExact 4).bind fun _ => safe_readU16.bind fun _ => Reader.raises_pure _ _
  · split
    · refine safe_readU8.bind fun len => (safe_readExact _).bind fun buf => Reader.Raises.bind ?_
        fun name => safe_readU16.bind fun _ => Reader.raises_pure _ _
      apply Reader.raises_lift
      intro fault refused
      simp [domainFromUtf8_eq_error _ _ refused]
    · split
      · exact (safe_readExact 16).bind fun _ => safe_readU16.bind fun _ => Reader.raises_pure _ _
      · simp

/-- Flow information and scope, which the wire does not carry, are zero. -/
def FlowFree : Address → Prop
  | .ipv6 (.v6 _ _ flowinfo scopeId) => flowinfo = 0 ∧ scopeId = 0
  | _ => True

/-- Whether flow information and scope are zero is decided by the two words. -/
instance : DecidablePred FlowFree
  | .ipv6 (.v6 _ _ flowinfo scopeId) =>
    inferInstanceAs (Decidable (flowinfo = 0 ∧ scopeId = 0))
  | .ipv6 (.v4 ..) => .isTrue trivial
  | .ipv4 _ => .isTrue trivial
  | .domain .. => .isTrue trivial

/-- The grammar spells no flow information. -/
theorem Spells.flowFree {address : Address} {wire : List UInt8} (spells : address.Spells wire) :
    address.FlowFree := by
  cases spells with
  | ipv4 ip port => trivial
  | ipv6 ip port => exact ⟨rfl, rfl⟩
  | domain name len port sized => trivial

/-- The encoder writes the grammar: on addresses without flow information it succeeds exactly
where the grammar has a spelling that is not an empty domain, and writes that spelling. -/
theorem encode_eq_ok_iff (address : Address) (wire : List UInt8) :
    address.encode = .ok wire ∧ address.FlowFree ↔ address.Spells wire ∧ address.IsNamed := by
  constructor
  · rintro ⟨encoded, flowFree⟩
    unfold encode at encoded
    split at encoded
    · obtain rfl := Except.ok.inj encoded
      exact ⟨.ipv4 _ _, trivial⟩
    · contradiction
    · rename_i name port
      split at encoded
      · contradiction
      · rename_i sized
        simp only [not_or, List.isEmpty_iff, asBytes_eq_nil, Nat.not_lt] at sized
        obtain rfl := Except.ok.inj encoded
        refine ⟨.domain name _ port ?_, sized.1⟩
        rw [UInt8.toNat_ofNat']
        omega
    · obtain rfl := Except.ok.inj encoded
      obtain ⟨rfl, rfl⟩ := flowFree
      exact ⟨.ipv6 _ _, trivial⟩
    · contradiction
  · rintro ⟨spells, named⟩
    cases spells with
    | ipv4 ip port => exact ⟨rfl, trivial⟩
    | ipv6 ip port => exact ⟨rfl, rfl, rfl⟩
    | domain name len port sized =>
      have small := len.toNat_lt
      have fits : ¬((asBytes name).isEmpty ∨ 255 < (asBytes name).length) := by
        rw [List.isEmpty_iff, asBytes_eq_nil]
        rintro (empty | long)
        · exact named empty
        · omega
      refine ⟨?_, trivial⟩
      rw [encode, if_neg fits, sized, UInt8.ofNat_toNat]
      rfl

/-- What the encoder writes is a spelling, of the same address when that has no flow
information. -/
theorem spells_of_encode {address : Address} {wire : List UInt8}
    (encoded : address.encode = .ok wire) :
    ∃ spelled : Address, spelled.Spells wire ∧ (address.FlowFree → spelled = address) := by
  by_cases flowFree : address.FlowFree
  · have spells := ((encode_eq_ok_iff address wire).mp ⟨encoded, flowFree⟩).1
    exact ⟨address, spells, fun _ => rfl⟩
  · cases address with
    | ipv4 addr => exact absurd trivial flowFree
    | domain name port => exact absurd trivial flowFree
    | ipv6 addr =>
      cases addr with
      | v4 ip port => contradiction
      | v6 ip port flowinfo scopeId =>
        obtain rfl := Except.ok.inj encoded
        exact ⟨.ipv6 (.v6 ip port 0 0), .ipv6 ip port, fun free => absurd free flowFree⟩

/-- Buffers that end before the address they start does: nothing at all, a type byte without
its host and port, or a domain without its announced length. -/
inductive Short : List UInt8 → Prop
  | empty : Short []
  | ipv4 (payload : List UInt8) (short : payload.length < 4 + 2) : Short (0x01 :: payload)
  | ipv6 (payload : List UInt8) (short : payload.length < 16 + 2) : Short (0x04 :: payload)
  | noLength : Short [0x03]
  | name (len : UInt8) (payload : List UInt8) (short : payload.length < len.toNat + 2) :
    Short (0x03 :: len :: payload)

/-- Everything a buffer that should start with an address can start with. -/
inductive Shape : List UInt8 → Prop
  | complete (address : Address) (wire rest : List UInt8) (spells : address.Spells wire) :
    Shape (wire ++ rest)
  | badName (len : UInt8) (name : List UInt8) (port : UInt16) (rest : List UInt8)
      (sized : name.length = len.toNat) (invalid : fromUtf8 name = none) :
    Shape (0x03 :: len :: (name ++ ((u16ToBeBytes port).toList ++ rest)))
  | badType (kind : UInt8) (payload : List UInt8) (notIpv4 : kind ≠ typeIpv4)
      (notDomain : kind ≠ typeDomain) (notIpv6 : kind ≠ typeIpv6) : Shape (kind :: payload)
  | short (buf : List UInt8) (short : Short buf) : Shape buf

/-- A buffer that holds `count` bytes and a port is those bytes, that port and a rest. -/
theorem split_host (count : Nat) (payload : List UInt8) (enough : count + 2 ≤ payload.length) :
    ∃ (octets : Vector UInt8 count) (port : UInt16) (rest : List UInt8),
      payload = octets.toList ++ ((u16ToBeBytes port).toList ++ rest) := by
  have later : 2 ≤ (payload.drop count).length := by
    rw [List.length_drop]
    omega
  refine ⟨Reader.piece payload count (by omega),
    u16FromBeBytes (Reader.piece (payload.drop count) 2 later), (payload.drop count).drop 2, ?_⟩
  rw [u16ToBeBytes_fromBeBytes, Reader.piece_toList, Reader.piece_toList,
    List.take_append_drop, List.take_append_drop]

/-- Every buffer has a shape. -/
theorem shape (buf : List UInt8) : Shape buf := by
  cases buf with
  | nil => exact .short _ .empty
  | cons kind payload =>
    by_cases isIpv4 : kind = typeIpv4
    · subst isIpv4
      by_cases short : payload.length < 4 + 2
      · exact .short _ (.ipv4 payload short)
      · obtain ⟨octets, port, rest, rfl⟩ := split_host 4 payload (by omega)
        simpa using Shape.complete _ _ rest (.ipv4 ⟨octets⟩ port)
    · by_cases isDomain : kind = typeDomain
      · subst isDomain
        cases payload with
        | nil => exact .short _ .noLength
        | cons len payload =>
          by_cases short : payload.length < len.toNat + 2
          · exact .short _ (.name len payload short)
          · obtain ⟨bytes, port, rest, rfl⟩ := split_host len.toNat payload (by omega)
            have sized : bytes.toList.length = len.toNat := Vector.length_toList
            cases decoded : fromUtf8 bytes.toList with
            | none => exact .badName len bytes.toList port rest sized decoded
            | some name =>
              have same := (fromUtf8_eq_some _ _).mp decoded
              rw [same] at sized ⊢
              simpa using Shape.complete _ _ rest (.domain name len port sized)
      · by_cases isIpv6 : kind = typeIpv6
        · subst isIpv6
          by_cases short : payload.length < 16 + 2
          · exact .short _ (.ipv6 payload short)
          · obtain ⟨octets, port, rest, rfl⟩ := split_host 16 payload (by omega)
            simpa using Shape.complete _ _ rest (.ipv6 ⟨octets⟩ port)
        · exact .badType kind payload isIpv4 isDomain isIpv6

/-- The two digits of a port, handed over one by one, are the port. -/
@[simp]
theorem u16FromBeBytes_digits (port : UInt16) :
    u16FromBeBytes #v[(u16ToBeBytes port)[0], (u16ToBeBytes port)[1]] = port := by
  have digits : #v[(u16ToBeBytes port)[0], (u16ToBeBytes port)[1]] = u16ToBeBytes port := by
    generalize u16ToBeBytes port = bytes
    have ⟨⟨list⟩, size⟩ := bytes
    match list, size with
    | [_, _], _ => rfl
  rw [digits, u16FromBeBytes_toBeBytes]

/-- The byte after a host is the high digit of the port. -/
theorem index_high (host : List UInt8) (port : UInt16) (rest : List UInt8) {i : Nat}
    (after : host.length = i) :
    index (host ++ ((u16ToBeBytes port).toList ++ rest)) i = .ok (u16ToBeBytes port)[0] := by
  rw [index_after _ _ (by omega), after, Nat.sub_self, index_front _ _ (by decide)]

/-- The second byte after a host is the low digit of the port. -/
theorem index_low (host : List UInt8) (port : UInt16) (rest : List UInt8) {i : Nat}
    (after : host.length + 1 = i) :
    index (host ++ ((u16ToBeBytes port).toList ++ rest)) i = .ok (u16ToBeBytes port)[1] := by
  have second : i - host.length = 1 := by omega
  rw [index_after _ _ (by omega), second, index_front _ _ (by decide)]

/-- Host bytes, a port and a rest hold at least the host and the port. -/
theorem host_length (host : List UInt8) (port : UInt16) (rest : List UInt8) {count : Nat}
    (sized : host.length = count) :
    ¬ (host ++ ((u16ToBeBytes port).toList ++ rest)).length < count + 2 := by
  simp only [List.length_append, Vector.length_toList]
  omega

/-- On a buffer that holds a domain and its port, the bytes of the domain decide. -/
theorem parseFromBuf_domain (len : UInt8) (name : List UInt8) (port : UInt16)
    (rest : List UInt8) (sized : name.length = len.toNat) :
    parseFromBuf (0x03 :: len :: (name ++ ((u16ToBeBytes port).toList ++ rest))) = (do
      let domain ← domainFromUtf8 name
      return (.domain domain port, some (1 + 1 + len.toNat + 2))) := by
  have notIpv4 : (0x03 : UInt8) ≠ typeIpv4 := by decide
  have headed : (len :: name).length = 1 + len.toNat := by
    rw [List.length_cons, sized]
    omega
  have enough := host_length (len :: name) port rest headed
  have text : slice (len :: (name ++ ((u16ToBeBytes port).toList ++ rest))) 1
      (1 + len.toNat) = .ok name := by
    rw [← sized]
    exact slice_middle [len] name _
  have high := index_high (len :: name) port rest headed
  have low := index_low (len :: name) port rest (congrArg (· + 1) headed)
  rw [List.cons_append] at enough high low
  rw [parseFromBuf, if_neg (by simp), index_cons_zero, ok_bind, sliceFrom_cons_one, ok_bind,
    if_neg notIpv4, if_pos rfl, if_neg (by simp), index_cons_zero, ok_bind, if_neg enough, text,
    ok_bind]
  simp only [high, low, ok_bind, u16FromBeBytes_digits]

/-- The buffered parser accepts every spelling, whatever follows it, and reports its length. -/
theorem parseFromBuf_complete {address : Address} {wire : List UInt8}
    (spells : address.Spells wire) (rest : List UInt8) :
    parseFromBuf (wire ++ rest) = .ok (address, some wire.length) := by
  cases spells with
  | ipv4 ip port =>
    have sized : ip.octets.toList.length = 4 := Vector.length_toList
    have enough := host_length _ port rest sized
    rw [List.cons_append, List.append_assoc, parseFromBuf, if_neg (by simp), index_cons_zero,
      ok_bind, sliceFrom_cons_one, ok_bind, if_pos rfl, if_neg enough]
    simp (disch := decide) only [ok_bind, index_front, index_high _ port rest sized,
      index_low _ port rest (congrArg (· + 1) sized), Ipv4Addr.new_octets,
      u16FromBeBytes_digits]
    simp [SocketAddr.new, pure, Except.pure]
  | ipv6 ip port =>
    have sized : ip.octets.toList.length = 16 := Vector.length_toList
    have enough := host_length _ port rest sized
    have notIpv4 : (0x04 : UInt8) ≠ typeIpv4 := by decide
    have notDomain : (0x04 : UInt8) ≠ typeDomain := by decide
    rw [List.cons_append, List.append_assoc, parseFromBuf, if_neg (by simp), index_cons_zero,
      ok_bind, sliceFrom_cons_one, ok_bind, if_neg notIpv4, if_neg notDomain, if_pos rfl,
      if_neg enough]
    simp (disch := decide) only [ok_bind, index_front, index_high _ port rest sized,
      index_low _ port rest (congrArg (· + 1) sized), Ipv6Addr.new_groups,
      u16FromBeBytes_digits]
    simp [SocketAddr.new, pure, Except.pure]
  | domain name len port sized =>
    have decoded := (domainFromUtf8_eq_ok (asBytes name) name).mpr rfl
    rw [List.cons_append, List.cons_append, List.append_assoc,
      parseFromBuf_domain len (asBytes name) port rest sized, decoded, ok_bind]
    simp only [List.length_cons, List.length_append, Vector.length_toList, sized, pure,
      Except.pure, Except.ok.injEq, Prod.mk.injEq, Option.some.injEq, true_and]
    omega

/-- A complete domain that is not UTF-8 is refused, whatever follows it. -/
theorem parseFromBuf_badName (len : UInt8) (name : List UInt8) (port : UInt16)
    (rest : List UInt8) (sized : name.length = len.toNat) (invalid : fromUtf8 name = none) :
    parseFromBuf (0x03 :: len :: (name ++ ((u16ToBeBytes port).toList ++ rest))) =
      .error (.err .invalidUtf8) := by
  have refused : domainFromUtf8 name = .error (.err .invalidUtf8) := by
    simp [domainFromUtf8, invalid, err]
  rw [parseFromBuf_domain len name port rest sized, refused, error_bind]

/-- An unknown type byte is refused, whatever follows it. -/
theorem parseFromBuf_badType (kind : UInt8) (payload : List UInt8) (notIpv4 : kind ≠ typeIpv4)
    (notDomain : kind ≠ typeDomain) (notIpv6 : kind ≠ typeIpv6) :
    parseFromBuf (kind :: payload) = .error (.err (.invalidAddressType kind)) := by
  rw [parseFromBuf, if_neg (by simp), index_cons_zero, ok_bind, sliceFrom_cons_one, ok_bind,
    if_neg notIpv4, if_neg notDomain, if_neg notIpv6]
  rfl

/-- A buffer that ends too early asks for more. -/
theorem parseFromBuf_short {buf : List UInt8} (short : Short buf) :
    parseFromBuf buf = .ok needMore := by
  have domainNotIpv4 : (0x03 : UInt8) ≠ typeIpv4 := by decide
  cases short with
  | empty => rfl
  | ipv4 payload short =>
    rw [parseFromBuf, if_neg (by simp), index_cons_zero, ok_bind, sliceFrom_cons_one, ok_bind,
      if_pos rfl, if_pos short]
    rfl
  | ipv6 payload short =>
    have notIpv4 : (0x04 : UInt8) ≠ typeIpv4 := by decide
    have notDomain : (0x04 : UInt8) ≠ typeDomain := by decide
    rw [parseFromBuf, if_neg (by simp), index_cons_zero, ok_bind, sliceFrom_cons_one, ok_bind,
      if_neg notIpv4, if_neg notDomain, if_pos rfl, if_pos short]
    rfl
  | noLength => rfl
  | name len payload short =>
    have missing : (len :: payload).length < 1 + len.toNat + 2 := by
      rw [List.length_cons]
      omega
    rw [parseFromBuf, if_neg (by simp), index_cons_zero, ok_bind, sliceFrom_cons_one, ok_bind,
      if_neg domainNotIpv4, if_pos rfl, if_neg (by simp), index_cons_zero, ok_bind,
      if_pos missing]
    rfl

/-- A buffer holds at most one spelling at its front. -/
theorem Spells.unique {address other : Address} {wire spelling rest tail : List UInt8}
    (spells : address.Spells wire) (again : other.Spells spelling)
    (same : wire ++ rest = spelling ++ tail) :
    wire = spelling ∧ address = other ∧ rest = tail :=
  ((reads_readFrom _ _).mpr spells).unique ((reads_readFrom _ _).mpr again) same

/-- The buffered parser accepts exactly the buffers that start with a spelling. -/
theorem parseFromBuf_eq_some (buf : List UInt8) (address : Address) (n : Nat) :
    parseFromBuf buf = .ok (address, some n) ↔
      ∃ wire rest, buf = wire ++ rest ∧ n = wire.length ∧ address.Spells wire := by
  constructor
  · intro accepted
    cases shape buf with
    | complete found wire rest spells =>
      rw [parseFromBuf_complete spells] at accepted
      simp only [Except.ok.injEq, Prod.mk.injEq, Option.some.injEq] at accepted
      obtain ⟨rfl, rfl⟩ := accepted
      exact ⟨wire, rest, rfl, rfl, spells⟩
    | badName len name port rest sized invalid =>
      rw [parseFromBuf_badName len name port rest sized invalid] at accepted
      contradiction
    | badType kind payload notIpv4 notDomain notIpv6 =>
      rw [parseFromBuf_badType kind payload notIpv4 notDomain notIpv6] at accepted
      contradiction
    | short buf short =>
      rw [parseFromBuf_short short] at accepted
      simp [needMore] at accepted
  · rintro ⟨wire, rest, rfl, rfl, spells⟩
    exact parseFromBuf_complete spells rest

/-- Once a buffer does not end too early, more bytes do not change the verdict on it. -/
theorem parseFromBuf_append {buf : List UInt8} (decided : ¬ Short buf) (more : List UInt8) :
    parseFromBuf (buf ++ more) = parseFromBuf buf := by
  cases shape buf with
  | complete found wire rest spells =>
    rw [List.append_assoc, parseFromBuf_complete spells, parseFromBuf_complete spells]
  | badName len name port rest sized invalid =>
    rw [List.cons_append, List.cons_append, List.append_assoc, List.append_assoc,
      parseFromBuf_badName len name port _ sized invalid,
      parseFromBuf_badName len name port _ sized invalid]
  | badType kind payload notIpv4 notDomain notIpv6 =>
    rw [List.cons_append, parseFromBuf_badType kind _ notIpv4 notDomain notIpv6,
      parseFromBuf_badType kind _ notIpv4 notDomain notIpv6]
  | short buf short => contradiction

/-- Every proper front of a spelling ends too early. -/
theorem Spells.front_short {address : Address} {wire part : List UInt8}
    (spells : address.Spells wire) (front : part <+: wire) (proper : part ≠ wire) :
    Short part := by
  by_contra decided
  obtain ⟨more, rfl⟩ := front
  have whole := parseFromBuf_complete spells []
  rw [List.append_nil, parseFromBuf_append decided] at whole
  have ⟨found, rest, split, size, _⟩ := (parseFromBuf_eq_some _ _ _).mp whole
  have longer : part.length = found.length + rest.length := by rw [split, List.length_append]
  rw [List.length_append] at size
  have empty : more = [] := List.length_eq_zero_iff.mp (by omega)
  exact proper (by rw [empty, List.append_nil])

/-- The longest spelling is a domain of 255 bytes. -/
theorem Spells.length_le {address : Address} {wire : List UInt8}
    (spells : address.Spells wire) : wire.length ≤ 259 := by
  cases spells with
  | ipv4 ip port => simp
  | ipv6 ip port => simp
  | domain name len port sized =>
    have small := len.toNat_lt
    simp only [List.length_cons, List.length_append, Vector.length_toList, sized]
    omega

/-- A buffer that ends too early is shorter than the longest spelling. -/
theorem Short.length_lt {part : List UInt8} (short : Short part) : part.length < 259 := by
  cases short with
  | empty => simp
  | ipv4 payload short =>
    rw [List.length_cons]
    omega
  | ipv6 payload short =>
    rw [List.length_cons]
    omega
  | noLength => simp
  | name len payload short =>
    have small := len.toNat_lt
    rw [List.length_cons, List.length_cons]
    omega

end Address

end TrojanRust
