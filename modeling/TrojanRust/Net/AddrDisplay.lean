import TrojanRust.Net.Endpoint
import TrojanRust.Protocol.Address

/-!
# Socket addresses as they are printed

The formatter of IP addresses and socket addresses, which leaves out the longest run of zero
groups and prints the IPv4 address that an IPv6 address may stand for. Whatever it leaves out is
put back by the parser: an address that was printed is read back, without its flow information,
which is not printed.
-/

namespace TrojanRust

open TrojanRust.Bytes TrojanRust.Bytes.TextReader

/-- `Display` of an IPv4 address. -/
def Ipv4Addr.display (ip : Ipv4Addr) : String :=
  ".".intercalate (ip.octets.toList.map fun octet => toString octet.toNat)

/-- `{:x}` of a group. -/
def lowerHex (group : UInt16) : String := String.ofList (Nat.toDigits 16 group.toNat)

/-- `Ipv6Addr::segments`. -/
def Ipv6Addr.segments (ip : Ipv6Addr) : List UInt16 := AddrParser.groupsOf ip.octets.toList

/-- `Ipv6Addr::to_ipv4_mapped`. -/
def Ipv6Addr.toIpv4Mapped (ip : Ipv6Addr) : Option Ipv4Addr :=
  match ip.octets.toList with
  | [0, 0, 0, 0, 0, 0, 0, 0, 0, 0, 0xff, 0xff, a, b, c, d] => some (.new a b c d)
  | _ => none

/-- The formatter's `Span`: groups in a row, from an index on. -/
structure Span where
  start : Nat
  len : Nat
  deriving DecidableEq, Repr

/-- One turn of the formatter's loop over the groups and their indices. Of the two spans the first
is the longest run of zeros so far, and the second the run that the next group may go on. -/
def Span.scanSegment (spans : Span × Span) (item : UInt16 × Nat) : Span × Span :=
  let (longest, current) := spans
  let (segment, i) := item
  if segment = 0 then
    let current : Span := ⟨if current.len = 0 then i else current.start, current.len + 1⟩
    if longest.len < current.len then (current, current) else (longest, current)
  else (longest, ⟨0, 0⟩)

/-- The longest run of zeros, the first of several. -/
def zeroes (segments : List UInt16) : Span :=
  (segments.zipIdx.foldl Span.scanSegment (⟨0, 0⟩, ⟨0, 0⟩)).1

/-- The groups after the first one, each after a colon. -/
def fmtTail : List UInt16 → String
  | [] => ""
  | segment :: tail => ":" ++ lowerHex segment ++ fmtTail tail

/-- `fmt_subslice`: groups with colons between them. -/
def fmtSubslice : List UInt16 → String
  | [] => ""
  | first :: tail => lowerHex first ++ fmtTail tail

/-- `Display` of an IPv6 address. -/
def Ipv6Addr.display (ip : Ipv6Addr) : String :=
  match ip.toIpv4Mapped with
  | some ipv4 => "::ffff:" ++ ipv4.display
  | none =>
    let segments := ip.segments
    let zeroes := zeroes segments
    if 1 < zeroes.len then
      fmtSubslice (segments.take zeroes.start) ++ "::" ++
        fmtSubslice (segments.drop (zeroes.start + zeroes.len))
    else fmtSubslice segments

/-- `Display` of an IP address. -/
def IpAddr.display : IpAddr → String
  | .v4 ip => ip.display
  | .v6 ip => ip.display

/-- `Display` of a socket address. -/
def SocketAddr.display : SocketAddr → String
  | .v4 ip port => ip.display ++ ":" ++ toString port.toNat
  | .v6 ip port _ scopeId =>
    if scopeId = 0 then "[" ++ ip.display ++ "]" ++ ":" ++ toString port.toNat
    else "[" ++ ip.display ++ "%" ++ toString scopeId.toNat ++ "]" ++ ":" ++ toString port.toNat

/-- The same address without its flow information. -/
def SocketAddr.withoutFlow : SocketAddr → SocketAddr
  | .v4 ip port => .v4 ip port
  | .v6 ip port _ scopeId => .v6 ip port 0 scopeId

/-- The first of two runs of zeros is left out, a single zero is printed, and a mapped address is
printed as the IPv4 address it stands for. -/
example : (Ipv6Addr.new 0x2001 0xdb8 0 0 1 0 0 1).display = "2001:db8::1:0:0:1" ∧
    (Ipv6Addr.new 0xfe80 0 1 2 3 4 5 6).display = "fe80:0:1:2:3:4:5:6" ∧
    (Ipv6Addr.new 0 0 0 0 0 0xffff 0x0a00 0x0001).display = "::ffff:10.0.0.1" := by
  decide +kernel

/-- A run of zeros in a list of groups. -/
def Span.Zeros (span : Span) (segments : List UInt16) : Prop :=
  ∃ front back, segments = front ++ List.replicate span.len 0 ++ back ∧
    (0 < span.len → front.length = span.start)

/-- A run of zeros at the end of a list of groups. -/
def Span.Trails (span : Span) (segments : List UInt16) : Prop :=
  ∃ front, segments = front ++ List.replicate span.len 0 ∧
    (0 < span.len → front.length = span.start)

/-- A run goes on with the next zero. -/
theorem Span.Trails.zero {span : Span} {segments : List UInt16} (trails : span.Trails segments) :
    Span.Trails ⟨if span.len = 0 then segments.length else span.start, span.len + 1⟩
      (segments ++ [0]) := by
  have ⟨front, split, place⟩ := trails
  refine ⟨front, ?_, fun _ => ?_⟩
  · rw [List.replicate_succ', ← List.append_assoc, ← split]
  · show front.length = if span.len = 0 then segments.length else span.start
    split
    · rename_i empty
      rw [split, empty]
      simp
    · rename_i nonempty
      exact place (by omega)

/-- What the loop has found of the groups that it has seen: the longest run is a run of zeros,
and the current one is at the end. -/
theorem scan_zeros (segments : List UInt16) :
    (segments.zipIdx.foldl Span.scanSegment (⟨0, 0⟩, ⟨0, 0⟩)).1.Zeros segments ∧
      (segments.zipIdx.foldl Span.scanSegment (⟨0, 0⟩, ⟨0, 0⟩)).2.Trails segments := by
  induction segments using List.reverseRecOn with
  | nil => exact ⟨⟨[], [], rfl, fun found => absurd found (by decide)⟩,
      [], rfl, fun found => absurd found (by decide)⟩
  | append_singleton seen segment ih =>
    rw [List.zipIdx_append, List.foldl_append]
    generalize seen.zipIdx.foldl Span.scanSegment (⟨0, 0⟩, ⟨0, 0⟩) = spans at ih ⊢
    rcases spans with ⟨longest, current⟩
    have ⟨⟨front, back, split, place⟩, trails⟩ := ih
    have kept : longest.Zeros (seen ++ [segment]) :=
      ⟨front, back ++ [segment], by rw [split, List.append_assoc _ back], place⟩
    simp only [List.zipIdx_singleton, Nat.zero_add, List.foldl_cons, List.foldl_nil,
      Span.scanSegment]
    by_cases zero : segment = 0
    · subst zero
      have longer := trails.zero
      rw [if_pos rfl]
      split
      · have ⟨before, ended, start⟩ := longer
        exact ⟨⟨before, [], by rw [List.append_nil]; exact ended, start⟩, longer⟩
      · exact ⟨kept, longer⟩
    · rw [if_neg zero]
      exact ⟨kept, seen ++ [segment], by simp, fun found => absurd found (Nat.lt_irrefl 0)⟩

/-- What is left out is a run of zeros, so it can be put back. -/
theorem zeroes_split (segments : List UInt16) (found : 0 < (zeroes segments).len) :
    segments = segments.take (zeroes segments).start ++ List.replicate (zeroes segments).len 0 ++
      segments.drop ((zeroes segments).start + (zeroes segments).len) := by
  have zeros : (zeroes segments).Zeros segments := (scan_zeros segments).1
  generalize zeroes segments = span at zeros found ⊢
  have ⟨front, back, split, place⟩ := zeros
  subst split
  rw [← place found]
  simp

/-- `readSeparator` takes its separator in front of every item but the first. -/
theorem AddrParser.readSeparator_lead {α : Type} (separator : UInt8) (index : Nat)
    (inner : AddrParser α) (text : List UInt8) :
    readSeparator separator index inner ((if 0 < index then [separator] else []) ++ text) =
      inner text := by
  show (if 0 < index then readGivenChar separator >>= fun _ => inner else inner) _ = _
  split
  · have taken : readGivenChar separator (separator :: text) = some ((), text) :=
      readGivenChar_eq_some.mpr rfl
    exact bind_of_some taken _
  · rfl

namespace AddrParser

/-- An octet is read back. -/
theorem readNumber_octet (octet : UInt8) :
    readNumber 10 (some 3) false (2 ^ 8) (asBytes (toString octet.toNat)) =
      some (octet.toNat, []) := by
  have octets : ∀ octet : Fin 256, readNumber 10 (some 3) false (2 ^ 8)
      (asBytes (toString octet.val)) = some (octet.val, []) := by decide +kernel
  exact octets ⟨octet.toNat, octet.toNat_lt⟩

/-- A group is read back. -/
theorem readNumber_lowerHex (group : UInt16) :
    readNumber 16 (some 4) true (2 ^ 16) (asBytes (lowerHex group)) =
      some (group.toNat, []) := by
  have ⟨digits, printed, read, spelled⟩ := readDigits_toDigits (by decide) (by decide : 1 < 16)
    group.toNat
  have short : (Nat.toDigits 16 group.toNat).length ≤ 4 :=
    (Nat.length_toDigits_le_iff (by decide) (by decide)).mpr group.toNat_lt
  have some_digit : 0 < (Nat.toDigits 16 group.toNat).length := Nat.length_toDigits_pos
  have fits : ¬ 2 ^ 16 ≤ ofDigits 16 digits := by
    rw [spelled]
    exact Nat.not_le.mpr group.toNat_lt
  have accepted : numberOf 16 (some 4) true (2 ^ 16) digits = some group.toNat := by
    have nonempty : digits ≠ [] := List.ne_nil_of_length_pos (by omega)
    rw [numberOf, if_neg (by simp; omega), if_neg (by simpa using nonempty), if_neg (by simp),
      if_neg fits, spelled]
  rw [readNumber_eq, lowerHex, read, accepted]
  rfl

/-- Without a dot there is no IPv4 address. -/
theorem readIpv4Addr_eq_none {text : List UInt8} (undotted : 0x2e ∉ text) :
    readIpv4Addr text = none := by
  have stops : StopsAt 0x5d (readSeparator 0x2e 0 (readNumber 10 (some 3) false (2 ^ 8))) :=
    readSeparator_stops (by decide) 0 (readNumber_stops (by decide) _ _ _)
  cases read : readSeparator 0x2e 0 (readNumber 10 (some 3) false (2 ^ 8)) text with
  | none => exact bind_of_none read _
  | some found =>
    rcases found with ⟨first, rest⟩
    have absent : 0x2e ∉ rest := fun member => undotted ((stops.ends read).subset member)
    have dot : readGivenChar 0x2e rest = none := by
      cases taken : readGivenChar 0x2e rest with
      | none => rfl
      | some found =>
        rw [readGivenChar_eq_some.mp taken] at absent
        exact absurd List.mem_cons_self absent
    have second : readSeparator 0x2e 1 (readNumber 10 (some 3) false (2 ^ 8)) rest = none :=
      bind_of_none dot _
    exact (bind_of_some read _).trans (bind_of_none second _)

/-- Four octets with dots between them are read back. -/
theorem readIpv4Addr_octets (a b c d : UInt8) :
    readIpv4Addr (asBytes (toString a.toNat) ++ 0x2e :: (asBytes (toString b.toNat) ++
      0x2e :: (asBytes (toString c.toNat) ++ 0x2e :: asBytes (toString d.toNat)))) =
        some (.new a b c d, []) := by
  have stops : StopsAt 0x2e (readNumber 10 (some 3) false (2 ^ 8)) :=
    readNumber_stops (by decide) _ _ _
  have first := fun (octet : UInt8) (rest : List UInt8) =>
    stops.before (readNumber_octet octet) rest
  have later : ∀ (index : Nat) (octet : UInt8) (rest : List UInt8), 0 < index →
      readSeparator 0x2e index (readNumber 10 (some 3) false (2 ^ 8))
        (0x2e :: (asBytes (toString octet.toNat) ++ 0x2e :: rest)) =
          some (octet.toNat, 0x2e :: rest) := by
    intro index octet rest positive
    have lead := readSeparator_lead 0x2e index (readNumber 10 (some 3) false (2 ^ 8))
      (asBytes (toString octet.toNat) ++ 0x2e :: rest)
    rw [if_pos positive] at lead
    exact lead.trans (first octet rest)
  have last := readSeparator_lead 0x2e 3 (readNumber 10 (some 3) false (2 ^ 8))
    (asBytes (toString d.toNat))
  rw [readNumber_octet] at last
  apply (bind_of_some (first a _) _).trans
  apply (bind_of_some (later 1 b _ (by decide)) _).trans
  apply (bind_of_some (later 2 c _ (by decide)) _).trans
  apply (bind_of_some last _).trans
  show some (Ipv4Addr.new (.ofNat a.toNat) (.ofNat b.toNat) (.ofNat c.toNat) (.ofNat d.toNat),
    ([] : List UInt8)) = _
  simp only [UInt8.ofNat_toNat]

/-- An IPv4 address is read back. -/
theorem readIpv4Addr_display (ip : Ipv4Addr) :
    readIpv4Addr (asBytes ip.display) = some (ip, []) := by
  have dot : asBytes "." = [0x2e] := by decide +kernel
  rcases ip with ⟨⟨⟨list⟩, size⟩⟩
  match list, size with
  | [a, b, c, d], _ =>
    have read := readIpv4Addr_octets a b c d
    show readIpv4Addr (asBytes (toString a.toNat ++ "." ++ toString b.toNat ++ "." ++
      toString c.toNat ++ "." ++ toString d.toNat)) = _
    simp only [asBytes_append, dot, List.append_assoc, List.cons_append, List.nil_append]
    exact read

/-- A text in front of which a group ends: nothing, or a colon. -/
def EndsGroup (text : List UInt8) : Prop := text = [] ∨ ∃ after, text = 0x3a :: after

/-- A reader that stops at colons reads a text as it does in front of the end of a group. -/
theorem EndsGroup.alone {α : Type} {reader : AddrParser α} {rest : List UInt8}
    (ends : EndsGroup rest) (stops : StopsAt 0x3a reader) (text : List UInt8) :
    reader (text ++ rest) = (reader text).map fun read => (read.1, read.2 ++ rest) := by
  rcases ends with ended | ⟨after, colon⟩
  · subst ended
    simp
  · subst colon
    exact stops.alone text after

/-- A separator in front of every item but the first. -/
abbrev lead (index : Nat) : List UInt8 := if 0 < index then [0x3a] else []

/-- A group is read, and is no address. -/
theorem readGroup_lowerHex (index : Nat) (group : UInt16) {rest : List UInt8}
    (ends : EndsGroup rest) :
    readSeparator 0x3a index readIpv4Addr (lead index ++ (asBytes (lowerHex group) ++ rest)) =
        none ∧
      readSeparator 0x3a index (readNumber 16 (some 4) true (2 ^ 16))
        (lead index ++ (asBytes (lowerHex group) ++ rest)) = some (group.toNat, rest) := by
  have undotted : 0x2e ∉ asBytes (lowerHex group) :=
    (readNumber_stops (by decide) _ _ _).not_mem (readNumber_lowerHex group)
  rw [readSeparator_lead, readSeparator_lead,
    ends.alone (readIpv4Addr_stops (by decide) (by decide)),
    ends.alone (readNumber_stops (by decide) _ _ _), readIpv4Addr_eq_none undotted,
    readNumber_lowerHex]
  exact ⟨rfl, rfl⟩

/-- Groups go on after the first one. -/
theorem readGroups_cons (index left : Nat) (group : UInt16) {rest : List UInt8}
    (ends : EndsGroup rest) :
    readGroups index (left + 1) (lead index ++ (asBytes (lowerHex group) ++ rest)) =
      ((group :: (readGroups (index + 1) left rest).1.1,
        (readGroups (index + 1) left rest).1.2), (readGroups (index + 1) left rest).2) := by
  have ⟨address, number⟩ := readGroup_lowerHex index group ends
  have noAddress : (if 0 < left then readSeparator 0x3a index readIpv4Addr
      (lead index ++ (asBytes (lowerHex group) ++ rest)) else none) = none := by
    split
    · exact address
    · rfl
  rw [readGroups, noAddress]
  dsimp only
  rw [number]
  dsimp only
  rw [UInt16.ofNat_toNat]

/-- Groups end with the text, or at two colons. -/
def EndsGroups (text : List UInt8) : Prop := text = [] ∨ ∃ after, text = 0x3a :: 0x3a :: after

/-- What ends all groups ends the last one. -/
theorem EndsGroups.endsGroup {text : List UInt8} (ends : EndsGroups text) : EndsGroup text := by
  rcases ends with ended | ⟨after, colons⟩
  · exact .inl ended
  · exact .inr ⟨_, colons⟩

/-- No group is read where they end. -/
theorem readGroups_ended (index left : Nat) {text : List UInt8} (ends : EndsGroups text) :
    readGroups index left text = (([], false), text) := by
  cases left with
  | zero => rfl
  | succ left =>
    have nothing : ∀ {α : Type} {reader : AddrParser α}, StopsAt 0x3a reader → reader [] = none →
        readSeparator 0x3a index reader text = none := by
      intro α reader stops empty
      have here : ∀ rest, EndsGroup rest → reader rest = none := by
        intro rest group
        have alone := group.alone stops []
        rw [empty, List.nil_append] at alone
        exact alone
      show (if 0 < index then readGivenChar 0x3a >>= fun _ => reader else reader) text = none
      split
      · rcases ends with ended | ⟨after, colons⟩
        · subst ended
          rfl
        · subst colons
          have taken : readGivenChar 0x3a (0x3a :: 0x3a :: after) = some ((), 0x3a :: after) :=
            readGivenChar_eq_some.mpr rfl
          exact (bind_of_some taken _).trans (here _ (.inr ⟨after, rfl⟩))
      · exact here text ends.endsGroup
    have noAddress : (if 0 < left then readSeparator 0x3a index readIpv4Addr text else none) =
        none := by
      split
      · exact nothing (readIpv4Addr_stops (by decide) (by decide)) rfl
      · rfl
    have noGroup : readSeparator 0x3a index (readNumber 16 (some 4) true (2 ^ 16)) text = none :=
      nothing (readNumber_stops (by decide) (some 4) true (2 ^ 16)) rfl
    rw [readGroups, noAddress]
    dsimp only
    rw [noGroup]

/-- The groups after the first one start with a colon, which ends the first one. -/
theorem endsGroup_fmtTail (groups : List UInt16) {rest : List UInt8} (ends : EndsGroups rest) :
    EndsGroup (asBytes (fmtTail groups) ++ rest) := by
  cases groups with
  | nil => exact ends.endsGroup
  | cons group groups =>
    have colon : asBytes ":" = [0x3a] := by decide +kernel
    rw [fmtTail, String.append_assoc, asBytes_append, colon]
    exact .inr ⟨_, rfl⟩

/-- Groups after the first one are read back. -/
theorem readGroups_fmtTail {groups : List UInt16} {index left : Nat} {rest : List UInt8}
    (later : 0 < index) (fits : groups.length ≤ left) (ends : EndsGroups rest) :
    readGroups index left (asBytes (fmtTail groups) ++ rest) = ((groups, false), rest) := by
  induction groups generalizing index left with
  | nil =>
    rw [fmtTail, asBytes_empty, List.nil_append]
    exact readGroups_ended index left ends
  | cons group groups ih =>
    cases left with
    | zero => contradiction
    | succ left =>
      have colon : asBytes ":" = lead index := by
        rw [lead, if_pos later]
        decide +kernel
      rw [fmtTail, asBytes_append, asBytes_append, colon, List.append_assoc, List.append_assoc,
        readGroups_cons index left group (endsGroup_fmtTail groups ends),
        ih (Nat.succ_pos index) (Nat.le_of_succ_le_succ fits)]

/-- Groups with colons between them are read back. -/
theorem readGroups_fmtSubslice {groups : List UInt16} {left : Nat} {rest : List UInt8}
    (fits : groups.length ≤ left) (ends : EndsGroups rest) :
    readGroups 0 left (asBytes (fmtSubslice groups) ++ rest) = ((groups, false), rest) := by
  cases groups with
  | nil =>
    rw [fmtSubslice, asBytes_empty, List.nil_append]
    exact readGroups_ended 0 left ends
  | cons first tail =>
    cases left with
    | zero => contradiction
    | succ left =>
      have head := readGroups_cons 0 left first (endsGroup_fmtTail tail ends)
      rw [readGroups_fmtTail Nat.one_pos (Nat.le_of_succ_le_succ fits) ends] at head
      rw [fmtSubslice, asBytes_append, List.append_assoc]
      exact head

/-- A group in network order is the word that its two bytes make up. -/
theorem ofNat_group (high low : UInt8) :
    UInt16.ofNat (high.toNat * 2 ^ 8 + low.toNat) = u16FromBeBytes #v[high, low] := by
  show _ = UInt16.ofNat (beNat [high, low])
  congr 1
  simp [beNat, Nat.mul_comm]

/-- The eight groups of an address make it up. -/
theorem ipv6FromGroups_segments (ip : Ipv6Addr) (text : List UInt8) :
    ip.segments.length = 8 ∧ ipv6FromGroups ip.segments text = some (ip, text) := by
  have same := Ipv6Addr.new_groups ip.octets
  rcases ip with ⟨⟨⟨list⟩, size⟩⟩
  match list, size with
  | [_, _, _, _, _, _, _, _, _, _, _, _, _, _, _, _], _ =>
    refine ⟨rfl, ?_⟩
    rw [Ipv6Addr.segments]
    simp only [Vector.toList_mk, groupsOf, ofNat_group]
    exact congrArg (fun ip => some (ip, text)) same

/-- A text that starts with all groups is an address of them. -/
theorem readIpv6Addr_of_all {text rest : List UInt8} {groups : List UInt16} {embedded : Bool}
    (read : readGroups 0 8 text = ((groups, embedded), rest)) (all : groups.length = 8) :
    readIpv6Addr text = ipv6FromGroups groups rest := by
  unfold readIpv6Addr
  apply (bind_of_some (congrArg some read) _).trans
  dsimp only
  rw [if_pos all]

/-- A text with two colons between its groups is an address with zeros there. -/
theorem readIpv6Addr_of_gap {text after rest : List UInt8} {head tail : List UInt16}
    {embedded : Bool} (front : readGroups 0 8 text = ((head, false), 0x3a :: 0x3a :: after))
    (gap : head.length < 8)
    (back : readGroups 0 (8 - (head.length + 1)) after = ((tail, embedded), rest)) :
    readIpv6Addr text = ipv6FromGroups
      (head ++ List.replicate (8 - tail.length - head.length) 0 ++ tail) rest := by
  have short : ¬ head.length = 8 := by omega
  have colon : ∀ text, readGivenChar 0x3a (0x3a :: text) = some ((), text) :=
    fun text => readGivenChar_eq_some.mpr rfl
  unfold readIpv6Addr
  apply (bind_of_some (congrArg some front) _).trans
  dsimp only
  rw [if_neg short, if_neg Bool.false_ne_true]
  apply (bind_of_some (colon _) _).trans
  apply (bind_of_some (colon _) _).trans
  apply (bind_of_some (congrArg some back) _).trans
  rfl

/-- A mapped address in groups: zeros, a marker, and the address that it stands for. -/
theorem segments_of_mapped {ip : Ipv6Addr} {ipv4 : Ipv4Addr}
    (mapped : ip.toIpv4Mapped = some ipv4) :
    ip.segments = List.replicate 5 0 ++ 0xffff :: groupsOf ipv4.octets.toList := by
  unfold Ipv6Addr.toIpv4Mapped at mapped
  rw [Ipv6Addr.segments]
  split at mapped
  · rename_i a b c d octets
    cases mapped
    rw [octets]
    rfl
  · contradiction

/-- An IPv4 address takes two groups. -/
theorem length_groupsOf (ip : Ipv4Addr) : (groupsOf ip.octets.toList).length = 2 := by
  rcases ip with ⟨⟨⟨list⟩, size⟩⟩
  match list, size with
  | [_, _, _, _], _ => rfl

/-- An IPv4 address at the end of the groups is read as two of them. -/
theorem readGroups_embedded {index left : Nat} (later : 0 < index) (room : 0 < left)
    (ip : Ipv4Addr) : readGroups index (left + 1) (0x3a :: asBytes ip.display) =
      ((groupsOf ip.octets.toList, true), []) := by
  have read := readSeparator_lead 0x3a index readIpv4Addr (asBytes ip.display)
  rw [if_pos later, readIpv4Addr_display] at read
  rw [readGroups, if_pos room]
  change readSeparator 0x3a index readIpv4Addr (0x3a :: asBytes ip.display) = _ at read
  rw [read]

/-- A mapped address is read back from the IPv4 address it stands for. -/
theorem readIpv6Addr_mapped {ip : Ipv6Addr} {ipv4 : Ipv4Addr}
    (mapped : ip.toIpv4Mapped = some ipv4) :
    readIpv6Addr (0x3a :: 0x3a :: (asBytes (lowerHex 0xffff) ++ 0x3a :: asBytes ipv4.display)) =
      some (ip, []) := by
  have ⟨_, whole⟩ := ipv6FromGroups_segments ip []
  have embedded : readGroups 1 6 (0x3a :: asBytes ipv4.display) =
      ((groupsOf ipv4.octets.toList, true), []) :=
    readGroups_embedded (by decide) (by decide) ipv4
  have back := readGroups_cons 0 6 0xffff (.inr ⟨asBytes ipv4.display, rfl⟩)
  rw [Nat.zero_add, embedded] at back
  have read := readIpv6Addr_of_gap (readGroups_ended 0 8 (.inr ⟨_, rfl⟩)) (by decide) back
  rw [List.length_cons, length_groupsOf] at read
  rw [segments_of_mapped mapped] at whole
  exact read.trans whole

/-- Groups around a gap of zeros are read back. -/
theorem readIpv6Addr_gap {ip : Ipv6Addr} {front back : List UInt16} {len : Nat}
    (split : ip.segments = front ++ List.replicate len 0 ++ back) (several : 1 < len) :
    readIpv6Addr (asBytes (fmtSubslice front ++ "::" ++ fmtSubslice back)) = some (ip, []) := by
  have ⟨eight, whole⟩ := ipv6FromGroups_segments ip []
  have colons : asBytes "::" = [0x3a, 0x3a] := by decide +kernel
  have sizes := congrArg List.length split
  simp only [List.length_append, List.length_replicate, eight] at sizes
  have head : readGroups 0 8 (asBytes (fmtSubslice front) ++
      0x3a :: 0x3a :: asBytes (fmtSubslice back)) = ((front, false), _) :=
    readGroups_fmtSubslice (by omega) (.inr ⟨_, rfl⟩)
  have tail : readGroups 0 (8 - (front.length + 1)) (asBytes (fmtSubslice back) ++ []) =
      ((back, false), []) := readGroups_fmtSubslice (by omega) (.inl rfl)
  rw [List.append_nil] at tail
  have read := readIpv6Addr_of_gap head (by omega) tail
  have zeros : 8 - back.length - front.length = len := by omega
  rw [zeros, ← split, whole] at read
  rw [asBytes_append, asBytes_append, colons, List.append_assoc]
  exact read

/-- An IPv6 address is read back. -/
theorem readIpv6Addr_display (ip : Ipv6Addr) :
    readIpv6Addr (asBytes ip.display) = some (ip, []) := by
  unfold Ipv6Addr.display
  cases mapped : ip.toIpv4Mapped with
  | some ipv4 =>
    have marker : asBytes "::ffff:" = 0x3a :: 0x3a :: (asBytes (lowerHex 0xffff) ++ [0x3a]) := by
      decide +kernel
    have read := readIpv6Addr_mapped mapped
    dsimp only
    rw [asBytes_append, marker, List.cons_append, List.cons_append, List.append_assoc]
    exact read
  | none =>
    dsimp only
    split
    · rename_i several
      exact readIpv6Addr_gap (zeroes_split ip.segments (Nat.lt_of_succ_lt several)) several
    · have ⟨eight, whole⟩ := ipv6FromGroups_segments ip []
      have all : readGroups 0 8 (asBytes (fmtSubslice ip.segments) ++ []) =
          ((ip.segments, false), []) :=
        readGroups_fmtSubslice (Nat.le_of_eq eight) (.inl rfl)
      rw [List.append_nil] at all
      exact (readIpv6Addr_of_all all eight).trans whole

/-- No text is both kinds of address: an IPv4 address on its own is two groups, not eight. -/
theorem readIpv6Addr_of_ipv4 {text : List UInt8} {ip : Ipv4Addr}
    (read : readIpv4Addr text = some (ip, [])) : readIpv6Addr text = none := by
  have groups : readGroups 0 8 text = ((groupsOf ip.octets.toList, true), []) := by
    have address : readSeparator 0x3a 0 readIpv4Addr text = some (ip, []) := read
    rw [readGroups, if_pos (by decide), address]
  have two : ¬ (groupsOf ip.octets.toList).length = 8 := by
    rw [length_groupsOf]
    decide
  unfold readIpv6Addr
  apply (bind_of_some (congrArg some groups) _).trans
  dsimp only
  rw [if_neg two, if_pos rfl]
  rfl

end AddrParser

/-- A printed IPv4 address is parsed as itself. -/
@[simp]
theorem ipv4FromStr_display (ip : Ipv4Addr) : ipv4FromStr (asBytes ip.display) = some ip :=
  whole_eq_some.mpr (AddrParser.readIpv4Addr_display ip)

/-- A printed IPv6 address is parsed as itself. -/
@[simp]
theorem ipv6FromStr_display (ip : Ipv6Addr) : ipv6FromStr (asBytes ip.display) = some ip :=
  whole_eq_some.mpr (AddrParser.readIpv6Addr_display ip)

/-- A text that is parsed as an IPv6 address is not parsed as an IPv4 address. -/
theorem ipv4FromStr_of_ipv6 {text : List UInt8} {ip : Ipv6Addr}
    (parsed : ipv6FromStr text = some ip) : ipv4FromStr text = none := by
  cases other : ipv4FromStr text with
  | none => rfl
  | some ipv4 =>
    have fails := AddrParser.readIpv6Addr_of_ipv4 (whole_eq_some.mp other)
    rw [ipv6FromStr, whole, fails] at parsed
    contradiction

/-- A printed socket address is parsed as itself, without its flow information. -/
theorem SocketAddr.fromStr_display (addr : SocketAddr) :
    SocketAddr.fromStr addr.display = some addr.withoutFlow := by
  have opening : asBytes "[" = [0x5b] := by decide +kernel
  have percent : asBytes "%" = [0x25] := by decide +kernel
  have closing : asBytes "]" = [0x5d] := by decide +kernel
  cases addr with
  | v4 ip port => exact fromStr_hostPort.mpr (.inl ⟨ip, ipv4FromStr_display ip, rfl⟩)
  | v6 ip port flowinfo scopeId =>
    rw [SocketAddr.display]
    split
    · rename_i unscoped
      have brackets := Brackets.plain (ipv6FromStr_display ip)
      apply fromStr_hostPort.mpr
      refine .inr ⟨ip, 0, ?_, by rw [SocketAddr.withoutFlow, unscoped]⟩
      rw [asBytes_append, asBytes_append, opening, closing, List.append_assoc]
      exact brackets
    · have brackets := Brackets.withScope (ipv6FromStr_display ip)
        (AddrParser.readNumber_decimal scopeId.toNat_lt)
      rw [UInt32.ofNat_toNat] at brackets
      apply fromStr_hostPort.mpr
      refine .inr ⟨ip, scopeId, ?_, rfl⟩
      simp only [asBytes_append, opening, percent, closing, List.append_assoc]
      exact brackets

end TrojanRust
