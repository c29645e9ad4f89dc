import TrojanRust.Net.AddrParser

/-!
# What an address parser leaves

Each reader of the address parser stops in front of every byte that it never takes, so an address
inside of a longer text is read as it is alone. A number that was printed is read back.
-/

namespace TrojanRust

open TrojanRust.Bytes TrojanRust.Bytes.TextReader

namespace AddrParser

variable {stop : UInt8}

/-- A given character is read off a text that starts with it. -/
theorem readGivenChar_cons (target byte : UInt8) (text : List UInt8) :
    readGivenChar target (byte :: text) = if byte = target then some ((), text) else none := by
  show (if byte = target then Pure.pure () else failure : AddrParser Unit) text = _
  split
  · rfl
  · rfl

/-- A given character is read off no other text. -/
theorem readGivenChar_eq_some {target : UInt8} {text rest : List UInt8} {value : Unit} :
    readGivenChar target text = some (value, rest) ↔ text = target :: rest := by
  cases text with
  | nil =>
    constructor
    · intro read
      contradiction
    · intro split
      contradiction
  | cons byte text =>
    rw [readGivenChar_cons]
    by_cases given : byte = target
    · simp [given]
    · simp [given]

/-- The reader of a given character stops in front of every other. -/
theorem readGivenChar_stops {target : UInt8} (other : stop ≠ target) :
    StopsAt stop (readGivenChar target) where
  ends := by
    intro text rest value read
    rw [readGivenChar_eq_some.mp read]
    exact List.suffix_cons _ _
  alone := by
    intro text rest
    cases text with
    | nil =>
      rw [List.nil_append, readGivenChar_cons, if_neg other]
      rfl
    | cons byte text =>
      rw [List.cons_append, readGivenChar_cons, readGivenChar_cons]
      split
      · rfl
      · rfl

/-- A separator is a given character in front of a later item. -/
theorem readSeparator_stops {α : Type} {separator : UInt8} (other : stop ≠ separator) (index : Nat)
    {inner : AddrParser α} (stops : StopsAt stop inner) :
    StopsAt stop (readSeparator separator index inner) := by
  show StopsAt stop (if 0 < index then readGivenChar separator >>= fun _ => inner else inner)
  exact ((readGivenChar_stops other).bind fun _ => stops).ite stops

/-- A digit is taken. -/
theorem readDigits_cons_of_some {radix digit : Nat} {byte : UInt8}
    (known : toDigit radix byte = some digit) (text : List UInt8) :
    readDigits radix (byte :: text) =
      (digit :: (readDigits radix text).1, (readDigits radix text).2) := by
  rw [readDigits, known]

/-- Any other byte ends the digits. -/
theorem readDigits_cons_of_none {radix : Nat} {byte : UInt8} (known : toDigit radix byte = none)
    (text : List UInt8) : readDigits radix (byte :: text) = ([], byte :: text) := by
  rw [readDigits, known]

/-- Digits are followed by what is left of the text. -/
theorem readDigits_ends (radix : Nat) (text : List UInt8) :
    (readDigits radix text).2 <:+ text := by
  induction text with
  | nil => exact List.suffix_rfl
  | cons byte text ih =>
    cases known : toDigit radix byte with
    | none =>
      rw [readDigits_cons_of_none known]
    | some digit =>
      rw [readDigits_cons_of_some known]
      exact ih.trans (List.suffix_cons _ _)

/-- Digits stop in front of a byte that is none. -/
theorem readDigits_alone {radix : Nat} (notDigit : toDigit radix stop = none)
    (text rest : List UInt8) :
    readDigits radix (text ++ stop :: rest) =
      ((readDigits radix text).1, (readDigits radix text).2 ++ stop :: rest) := by
  induction text with
  | nil =>
    rw [List.nil_append, readDigits_cons_of_none notDigit]
    rfl
  | cons byte text ih =>
    rw [List.cons_append]
    cases known : toDigit radix byte with
    | none =>
      rw [readDigits_cons_of_none known, readDigits_cons_of_none known]
      rfl
    | some digit =>
      rw [readDigits_cons_of_some known, readDigits_cons_of_some known, ih]

/-- The number that digits are accepted as. -/
def numberOf (radix : Nat) (maxDigits : Option Nat) (allowZeroPrefix : Bool) (bound : Nat)
    (digits : List Nat) : Option Nat :=
  if maxDigits.any (· < digits.length) then none
  else if digits.isEmpty then none
  else if ¬ allowZeroPrefix ∧ digits.head? = some 0 ∧ 1 < digits.length then none
  else if bound ≤ ofDigits radix digits then none
  else some (ofDigits radix digits)

/-- Digits are accepted as the number that they spell. -/
theorem numberOf_eq_some {radix bound number : Nat} {maxDigits : Option Nat}
    {allowZeroPrefix : Bool} {digits : List Nat}
    (accepted : numberOf radix maxDigits allowZeroPrefix bound digits = some number) :
    digits ≠ [] ∧ number < bound ∧ ofDigits radix digits = number := by
  unfold numberOf at accepted
  split_ifs at accepted with _ empty _ large
  cases accepted
  exact ⟨by simpa using empty, Nat.not_le.mp large, rfl⟩

/-- A number is read by its digits alone. -/
theorem readNumber_eq (radix : Nat) (maxDigits : Option Nat) (allowZeroPrefix : Bool)
    (bound : Nat) (text : List UInt8) :
    readNumber radix maxDigits allowZeroPrefix bound text =
      (numberOf radix maxDigits allowZeroPrefix bound (readDigits radix text).1).map
        fun number => (number, (readDigits radix text).2) := by
  unfold readNumber numberOf
  rcases readDigits radix text with ⟨digits, rest⟩
  dsimp only
  split_ifs
  all_goals rfl

/-- A number stops in front of a byte that is no digit. -/
theorem readNumber_stops {radix : Nat} (notDigit : toDigit radix stop = none)
    (maxDigits : Option Nat) (allowZeroPrefix : Bool) (bound : Nat) :
    StopsAt stop (readNumber radix maxDigits allowZeroPrefix bound) where
  ends := by
    intro text rest value read
    rw [readNumber_eq] at read
    have ⟨number, accepted, same⟩ := Option.map_eq_some_iff.mp read
    cases same
    exact readDigits_ends radix text
  alone := by
    intro text rest
    rw [readNumber_eq, readNumber_eq, readDigits_alone notDigit, Option.map_map]
    rfl

/-- An IPv4 address stops in front of a byte that is neither a dot nor a digit. -/
theorem readIpv4Addr_stops (notDot : stop ≠ 0x2e) (notDigit : toDigit 10 stop = none) :
    StopsAt stop readIpv4Addr := by
  have octet := fun index => readSeparator_stops notDot index
    (readNumber_stops notDigit (some 3) false (2 ^ 8))
  exact (octet 0).bind fun _ => (octet 1).bind fun _ => (octet 2).bind fun _ =>
    (octet 3).bind fun _ => .pure _

/-- A byte that no IP address contains. -/
structure Foreign (byte : UInt8) : Prop where
  notDot : byte ≠ 0x2e
  notColon : byte ≠ 0x3a
  notDecimal : toDigit 10 byte = none
  notDigit : toDigit 16 byte = none

/-- A group stops in front of a foreign byte, and so does an embedded address. -/
theorem readGroup_stops (foreign : Foreign stop) (index : Nat) :
    StopsAt stop (readSeparator 0x3a index readIpv4Addr) ∧
      StopsAt stop (readSeparator 0x3a index (readNumber 16 (some 4) true (2 ^ 16))) :=
  ⟨readSeparator_stops foreign.notColon index
      (readIpv4Addr_stops foreign.notDot foreign.notDecimal),
    readSeparator_stops foreign.notColon index (readNumber_stops foreign.notDigit _ _ _)⟩

/-- An opening bracket is foreign. -/
theorem foreign_opening : Foreign 0x5b := ⟨by decide, by decide, by decide, by decide⟩

/-- A closing bracket is foreign. -/
theorem foreign_closing : Foreign 0x5d := ⟨by decide, by decide, by decide, by decide⟩

/-- A percent sign is foreign. -/
theorem foreign_percent : Foreign 0x25 := ⟨by decide, by decide, by decide, by decide⟩

/-- Groups are followed by what is left of the text. -/
theorem readGroups_ends (left index : Nat) (text : List UInt8) :
    (readGroups index left text).2 <:+ text := by
  induction left generalizing index text with
  | zero => exact List.suffix_rfl
  | succ left ih =>
    have ⟨address, group⟩ := readGroup_stops foreign_closing index
    have embedded : ∀ found, (if 0 < left then readSeparator 0x3a index readIpv4Addr text
        else none) = some found → found.2 <:+ text := by
      intro found read
      split at read
      · exact address.ends read
      · contradiction
    unfold readGroups
    cases tried : if 0 < left then readSeparator 0x3a index readIpv4Addr text else none with
    | some found => exact embedded found tried
    | none =>
      cases read : readSeparator 0x3a index (readNumber 16 (some 4) true (2 ^ 16)) text with
      | none => exact List.suffix_rfl
      | some found => exact (ih (index + 1) found.2).trans (group.ends read)

/-- Groups stop in front of a foreign byte. -/
theorem readGroups_alone (foreign : Foreign stop) (left index : Nat) (text rest : List UInt8) :
    readGroups index left (text ++ stop :: rest) =
      ((readGroups index left text).1, (readGroups index left text).2 ++ stop :: rest) := by
  induction left generalizing index text with
  | zero => rfl
  | succ left ih =>
    have ⟨address, group⟩ := readGroup_stops foreign index
    have embedded : (if 0 < left then readSeparator 0x3a index readIpv4Addr (text ++ stop :: rest)
        else none) = (if 0 < left then readSeparator 0x3a index readIpv4Addr text else none).map
          fun read => (read.1, read.2 ++ stop :: rest) := by
      split
      · exact address.alone text rest
      · rfl
    unfold readGroups
    rw [embedded, group.alone]
    cases if 0 < left then readSeparator 0x3a index readIpv4Addr text else none with
    | some found => rfl
    | none =>
      cases readSeparator 0x3a index (readNumber 16 (some 4) true (2 ^ 16)) text with
      | none => rfl
      | some found =>
        have later := ih (index + 1) found.2
        dsimp only [Option.map]
        rw [later]

/-- So does the address that they make up. -/
theorem ipv6FromGroups_stops (groups : List UInt16) : StopsAt stop (ipv6FromGroups groups) := by
  unfold ipv6FromGroups
  split
  · exact .pure _
  · exact .failure

/-- An IPv6 address stops in front of a foreign byte. -/
theorem readIpv6Addr_stops (foreign : Foreign stop) : StopsAt stop readIpv6Addr := by
  have groups := fun left => StopsAt.total (readGroups_ends left 0)
    (readGroups_alone foreign left 0)
  have colon := readGivenChar_stops foreign.notColon
  exact (groups 8).bind fun head => (ipv6FromGroups_stops head.1).ite <| StopsAt.failure.ite <|
    colon.bind fun _ => colon.bind fun _ => (groups _).bind fun tail => ipv6FromGroups_stops _

/-- A text of digits goes on with the digits that follow it. -/
theorem readDigits_append {radix : Nat} {front : List UInt8} {digits : List Nat}
    (whole : readDigits radix front = (digits, [])) (text : List UInt8) :
    readDigits radix (front ++ text) =
      (digits ++ (readDigits radix text).1, (readDigits radix text).2) := by
  induction front generalizing digits with
  | nil =>
    cases whole
    rfl
  | cons byte front ih =>
    rw [List.cons_append]
    cases known : toDigit radix byte with
    | none =>
      rw [readDigits_cons_of_none known] at whole
      simp at whole
    | some digit =>
      rw [readDigits_cons_of_some known] at whole ⊢
      simp only [Prod.mk.injEq] at whole
      have later : readDigits radix front = ((readDigits radix front).1, []) :=
        Prod.ext rfl whole.2
      rw [ih later, ← whole.1]
      rfl

/-- A digit is printed as itself. -/
theorem readDigits_digitChar {radix number : Nat} (known : radix ≤ 16) (small : number < radix) :
    readDigits radix (asBytes (String.ofList [number.digitChar])) = ([number], []) := by
  have digits : ∀ radix : Fin 17, ∀ digit : Fin 16, digit.val < radix.val →
      readDigits radix.val (asBytes (String.ofList [digit.val.digitChar])) =
        ([digit.val], []) := by decide +kernel
  exact digits ⟨radix, by omega⟩ ⟨number, by omega⟩ small

/-- A number is printed as digits that spell it, as many as are printed. -/
theorem readDigits_toDigits {radix : Nat} (known : radix ≤ 16) (several : 1 < radix)
    (number : Nat) : ∃ digits, digits.length = (Nat.toDigits radix number).length ∧
      readDigits radix (asBytes (String.ofList (Nat.toDigits radix number))) = (digits, []) ∧
      ofDigits radix digits = number := by
  induction number using Nat.strongRecOn with
  | ind number ih =>
    by_cases small : number < radix
    · rw [Nat.toDigits_of_lt_base small]
      refine ⟨[number], rfl, readDigits_digitChar known small, ?_⟩
      show 0 * radix + number = number
      omega
    · -- The last digit follows the others.
      have ⟨digits, printed, read, spelled⟩ :=
        ih (number / radix) (Nat.div_lt_self (by omega) several)
      have last := readDigits_digitChar known (Nat.mod_lt number (by omega : 0 < radix))
      rw [Nat.toDigits_of_base_le several (Nat.not_lt.mp small)]
      refine ⟨digits ++ [number % radix], ?_, ?_, ?_⟩
      · rw [List.length_append, List.length_append, printed]
        rfl
      · rw [String.ofList_append, asBytes_append, readDigits_append read, last]
      · have number_eq := Nat.div_add_mod' number radix
        rw [ofDigits, List.foldl_append]
        rw [ofDigits] at spelled
        rw [spelled]
        exact number_eq

/-- A number is printed in decimal as digits that spell it. -/
theorem readDigits_toString (number : Nat) :
    ∃ digits, digits ≠ [] ∧ readDigits 10 (asBytes (toString number)) = (digits, []) ∧
      ofDigits 10 digits = number := by
  have ⟨digits, printed, read, spelled⟩ :=
    readDigits_toDigits (by decide) (by decide : 1 < 10) number
  refine ⟨digits, ?_, ?_, spelled⟩
  · apply List.ne_nil_of_length_pos
    rw [printed]
    exact Nat.length_toDigits_pos
  · rw [Nat.toString_eq_ofList_toDigits]
    exact read

/-- A printed number is read back as a number of every type that holds it. -/
theorem readNumber_decimal {number bound : Nat} (fits : number < bound) :
    readNumber 10 none true bound (asBytes (toString number)) = some (number, []) := by
  have ⟨digits, nonempty, read, spelled⟩ := readDigits_toString number
  have small : ¬ bound ≤ ofDigits 10 digits := by
    rw [spelled]
    exact Nat.not_le.mpr fits
  have accepted : numberOf 10 none true bound digits = some number := by
    rw [numberOf, if_neg (by simp), if_neg (by simpa using nonempty), if_neg (by simp),
      if_neg small, spelled]
  rw [readNumber_eq, read, accepted]
  rfl

/-- A printed port number is read back. -/
theorem readNumber_toString (port : UInt16) :
    readNumber 10 none true (2 ^ 16) (asBytes (toString port.toNat)) =
      some (port.toNat, []) := readNumber_decimal port.toNat_lt

end AddrParser

/-- A text that is read as a port number is parsed as one. -/
theorem u16FromStr_of_number {text : List UInt8} {number : Nat}
    (read : AddrParser.readNumber 10 none true (2 ^ 16) text = some (number, [])) :
    u16FromStr text = some (.ofNat number) := by
  rw [AddrParser.readNumber_eq] at read
  have ⟨found, accepted, same⟩ := Option.map_eq_some_iff.mp read
  simp only [Prod.mk.injEq] at same
  have ⟨nonempty, fits, spelled⟩ := AddrParser.numberOf_eq_some accepted
  -- The text starts with a digit, so it has no sign.
  have unsigned : text.head? ≠ some 0x2b := by
    intro sign
    cases text with
    | nil => contradiction
    | cons byte text =>
      cases Option.some.inj sign
      exact nonempty rfl
  unfold u16FromStr
  rw [if_neg unsigned]
  dsimp only
  generalize AddrParser.readDigits 10 text = taken at same nonempty spelled ⊢
  rcases taken with ⟨digits, rest⟩
  cases digits with
  | nil => contradiction
  | cons digit digits =>
    have ended : rest = [] := same.2
    have small : AddrParser.ofDigits 10 (digit :: digits) < 2 ^ 16 := spelled ▸ fits
    subst ended
    dsimp only at spelled ⊢
    rw [if_pos small, spelled, same.1]

/-- Without the separator a text is not split. -/
theorem rsplitOnce_eq_none {separator : UInt8} {text : List UInt8} (absent : separator ∉ text) :
    rsplitOnce separator text = none := by
  induction text with
  | nil => rfl
  | cons byte text ih =>
    have other := List.ne_of_not_mem_cons absent
    rw [rsplitOnce, ih (List.not_mem_of_not_mem_cons absent)]
    exact if_neg other.symm

/-- A text is split at the separator that no other follows. -/
theorem rsplitOnce_append {separator : UInt8} (before : List UInt8) {after : List UInt8}
    (absent : separator ∉ after) :
    rsplitOnce separator (before ++ separator :: after) = some (before, after) := by
  induction before with
  | nil =>
    rw [List.nil_append, rsplitOnce, rsplitOnce_eq_none absent]
    exact if_pos rfl
  | cons byte before ih =>
    rw [List.cons_append, rsplitOnce, ih]

/-- The place of the last separator is unique. -/
theorem split_unique {separator : UInt8} {before after front back : List UInt8}
    (same : before ++ separator :: after = front ++ separator :: back)
    (absent : separator ∉ after) (missing : separator ∉ back) :
    before = front ∧ after = back := by
  have split := rsplitOnce_append before absent
  rw [same, rsplitOnce_append front missing] at split
  cases split
  exact ⟨rfl, rfl⟩

end TrojanRust
