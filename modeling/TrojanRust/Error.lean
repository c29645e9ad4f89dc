import TrojanRust.Bytes.Reader

/-!
# Failures, results and bounds-checked slices

Rust tells an error value from a panic, and so does this model: `Fault.err` is what `?`
propagates and `Fault.panic` is the abort that an out-of-range index or slice raises. Every
index and slice expression of the modelled functions goes through the checked operations
here, so their absence of panics is a theorem about the definitions and not an assumption.
-/

namespace TrojanRust

open TrojanRust.Bytes

/-- `io::ErrorKind`, as far as the code distinguishes kinds. -/
inductive ErrorKind where
  | unexpectedEof
  | wouldBlock
  | other
  deriving DecidableEq, Repr

/-- `TrojanError`. An I/O error is kept by its kind. -/
inductive TrojanError where
  | io (kind : ErrorKind)
  | tls (message : String)
  | protocol (message : String)
  | authenticationFailed
  | invalidAddressType (value : UInt8)
  | invalidCommand (value : UInt8)
  | config (message : String)
  | timeout
  | invalidUtf8
  | remoteConnectFailed (message : String)
  | join (message : String)
  deriving DecidableEq, Repr

/-- The two ways a call ends without a value. -/
inductive Fault where
  /-- `Err(error)`. -/
  | err (error : TrojanError)
  /-- The thread panicked. -/
  | panic
  deriving DecidableEq, Repr

/-- `Result<T, TrojanError>` of a call that may also panic. -/
abbrev Result := Except Fault

/-- Equality of outcomes is decidable when values have decidable equality. -/
instance decidableEqExcept {ε α : Type} [DecidableEq ε] [DecidableEq α] :
    DecidableEq (Except ε α)
  | .ok left, .ok right => decidable_of_iff (left = right) (by simp)
  | .error left, .error right => decidable_of_iff (left = right) (by simp)
  | .ok _, .error _ => isFalse (by simp)
  | .error _, .ok _ => isFalse (by simp)

/-- `Err(error)`. -/
def err {α : Type} (error : TrojanError) : Result α := .error (.err error)

/-- `buf[i]`. -/
def index (buf : List UInt8) (i : Nat) : Result UInt8 :=
  match buf[i]? with
  | some byte => .ok byte
  | none => .error .panic

/-- `&buf[start..stop]`. -/
def slice (buf : List UInt8) (start stop : Nat) : Result (List UInt8) :=
  if start ≤ stop ∧ stop ≤ buf.length then .ok ((buf.take stop).drop start) else .error .panic

/-- `&buf[start..]`. -/
def sliceFrom (buf : List UInt8) (start : Nat) : Result (List UInt8) :=
  if start ≤ buf.length then .ok (buf.drop start) else .error .panic

/-- `array.copy_from_slice(source)` into an array of `count` bytes. -/
def copyFromSlice (count : Nat) (source : List UInt8) : Result (Vector UInt8 count) :=
  if same : source.length = count then .ok ⟨source.toArray, by simp [same]⟩
  else .error .panic

/-- A call that returned a value passes it on. -/
@[simp]
theorem ok_bind {α β : Type} (value : α) (next : α → Result β) :
    (Except.ok value >>= next) = next value := rfl

/-- A call that failed ends its caller. -/
@[simp]
theorem error_bind {α β : Type} (fault : Fault) (next : α → Result β) :
    (Except.error fault >>= next) = .error fault := rfl

/-- A check is passed when its condition is false, and what follows it then decides. -/
theorem check_eq_ok {α : Type} {condition : Prop} [Decidable condition] {error : TrojanError}
    {next : Result α} {value : α} :
    (if condition then err error else next) = .ok value ↔ ¬ condition ∧ next = .ok value := by
  by_cases holds : condition
  · simp [holds, err]
  · simp [holds]

/-- The first byte is inside a buffer that has one. -/
@[simp]
theorem index_cons_zero (byte : UInt8) (rest : List UInt8) :
    index (byte :: rest) 0 = .ok byte := rfl

/-- The slice behind the first byte is inside a buffer that has one. -/
@[simp]
theorem sliceFrom_cons_one (byte : UInt8) (rest : List UInt8) :
    sliceFrom (byte :: rest) 1 = .ok rest := by
  simp [sliceFrom]

/-- An index inside a leading array reads that array. -/
theorem index_front {count : Nat} (front : Vector UInt8 count) (rest : List UInt8) {i : Nat}
    (inside : i < count) : index (front.toList ++ rest) i = .ok front[i] := by
  have bound : i < front.toList.length := by simpa using inside
  rw [index, List.getElem?_append_left bound, List.getElem?_eq_getElem bound]
  simp

/-- An index past a leading part reads what follows it. -/
theorem index_after (front rest : List UInt8) {i : Nat} (past : front.length ≤ i) :
    index (front ++ rest) i = index rest (i - front.length) := by
  rw [index, index, List.getElem?_append_right past]

/-- The slice between a leading part and a trailing one is the part in the middle. -/
theorem slice_middle (front middle rest : List UInt8) :
    slice (front ++ (middle ++ rest)) front.length (front.length + middle.length) =
      .ok middle := by
  have inside : front.length + middle.length ≤ (front ++ (middle ++ rest)).length := by
    simp only [List.length_append]
    omega
  rw [slice, if_pos ⟨Nat.le_add_right _ _, inside⟩, ← List.append_assoc,
    List.take_left' (by simp), List.drop_left' rfl]

/-- The slice from the end of a leading part is what follows it. -/
theorem sliceFrom_after (front rest : List UInt8) :
    sliceFrom (front ++ rest) front.length = .ok rest := by
  rw [sliceFrom, if_pos (by simp), List.drop_left' rfl]

/-- Copying the bytes of an array returns that array. -/
@[simp]
theorem copyFromSlice_toList {count : Nat} (bytes : Vector UInt8 count) :
    copyFromSlice count bytes.toList = .ok bytes := by
  simp only [copyFromSlice, Vector.length_toList, ↓reduceDIte, Except.ok.injEq]
  apply Vector.toList_inj.mp
  simp [Vector.toList]

/-- A reader of the crate: its stream gives an `ErrorKind` for stopping, and it fails with a
`Fault`. -/
abbrev StreamReader := Reader ErrorKind Fault

/-- `From<io::Error> for TrojanError`, as `?` applies it to a failed read. -/
def ioFault (kind : ErrorKind) : Fault := .err (.io kind)

/-- `reader.read_exact(&mut buf).await?` for a buffer of `count` bytes. -/
def readExact (count : Nat) : StreamReader (Vector UInt8 count) := Reader.exact ioFault count

end TrojanRust
