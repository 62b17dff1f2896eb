import Mathlib

/-!
# Rust values and how a call ends

`Outcome` is how a call of the library ends: `ok` and `err` are the two arms of the `Result`
it returns, `panic` an `unwrap` that failed, and `undefined` undefined behaviour (a `set_len`
past what was allocated or written, a kernel write past an allocation). Machine words are
`BitVec`s of the C types' widths. `CString` carries its no-interior-NUL invariant and `Vec` its
length bound, so that neither can be built broken: `CString.new` is the checked way in, and
`setLen` the unchecked one, whose broken preconditions end in `undefined`.
-/

namespace Keyutils

/-- `libc::c_long`, what the `keyctl` calls return. -/
abbrev CLong := BitVec 64

/-- `key_serial_t` (`i32`), the kernel's name for a key or keyring. -/
abbrev KeySerial := BitVec 32

/-- `errno::Errno`: the system error code a failed call leaves behind. -/
abbrev Errno := BitVec 32

/-- `libc::EINVAL`. -/
def EINVAL : Errno := 22

/-- `libc::ENOKEY`. -/
def ENOKEY : Errno := 126

/-- How a call of the library ends. -/
inductive Outcome (α : Type) where
  | ok (a : α)
  | err (e : Errno)
  | panic
  | undefined
  deriving DecidableEq, Repr

namespace Outcome

variable {α β : Type}

def bind : Outcome α → (α → Outcome β) → Outcome β
  | ok a, f => f a
  | err e, _ => err e
  | panic, _ => panic
  | undefined, _ => undefined

instance : Monad Outcome where
  pure := ok
  bind := bind

@[simp] theorem pure_eq (a : α) : (pure a : Outcome α) = ok a := rfl
@[simp] theorem ok_bind (a : α) (f : α → Outcome β) : (ok a >>= f) = f a := rfl
@[simp] theorem err_bind (e : Errno) (f : α → Outcome β) : (err e >>= f) = err e := rfl
@[simp] theorem panic_bind (f : α → Outcome β) : (panic >>= f) = panic := rfl
@[simp] theorem undefined_bind (f : α → Outcome β) : (undefined >>= f) = undefined := rfl

theorem bind_eq_ok {o : Outcome α} {f : α → Outcome β} {b : β} :
    (o >>= f) = ok b ↔ ∃ a, o = ok a ∧ f a = ok b := by
  cases o <;> simp

/-- The call returned (`Ok` or `Err`) instead of aborting. -/
def Returned : Outcome α → Prop
  | ok _ | err _ => True
  | panic | undefined => False

@[simp] theorem returned_ok (a : α) : (ok a).Returned := trivial
@[simp] theorem returned_err (e : Errno) : (err e : Outcome α).Returned := trivial
@[simp] theorem not_returned_panic : ¬ (panic : Outcome α).Returned := id
@[simp] theorem not_returned_undefined : ¬ (undefined : Outcome α).Returned := id

theorem returned_of_bind {o : Outcome α} {f : α → Outcome β} (h : (o >>= f).Returned) :
    o.Returned := by
  cases o <;> simp_all

/-- The call returned `Ok`. -/
def isOk : Outcome α → Bool
  | ok _ => true
  | _ => false

end Outcome

/-- `Option::unwrap`. -/
def unwrap {α : Type} : Option α → Outcome α
  | some a => .ok a
  | none => .panic

/-- A `CString`: bytes with no interior NUL (the terminator is implicit). -/
structure CString where
  bytes : List UInt8
  no_nul : 0 ∉ bytes
  deriving DecidableEq

/-- `CString::new`: `None` (a `NulError`) when the bytes hold a NUL. -/
def CString.new (bytes : List UInt8) : Option CString :=
  if h : 0 ∈ bytes then none else some ⟨bytes, h⟩

theorem CString.new_isSome {bytes : List UInt8} : (CString.new bytes).isSome ↔ 0 ∉ bytes := by
  unfold CString.new; split <;> simp_all

/-- `s.as_bytes()`: the UTF-8 encoding of a `&str`. -/
def utf8 (s : String) : List UInt8 := s.data.flatMap String.utf8EncodeChar

/-- The characters a byte slice encodes, decoded one at a time from the front; `none` at the
first byte sequence that is not a UTF-8 character. Each character takes at least one byte, so
`fuel` at least the slice's length decodes it all. -/
def decodeUtf8 : (fuel : Nat) → List UInt8 → Option (List Char)
  | _, [] => some []
  | 0, _ :: _ => none
  | fuel + 1, bytes@(_ :: _) => do
    let c ← String.utf8DecodeChar? ⟨bytes.toArray⟩ 0
    let rest ← decodeUtf8 fuel (bytes.drop c.utf8Size)
    pure (c :: rest)

/-- `str::from_utf8`: the string a byte slice encodes, if it is valid UTF-8. -/
def fromUtf8 (bytes : List UInt8) : Option String := String.mk <$> decodeUtf8 bytes.length bytes

/-- A `Vec<T>`: its capacity and its `len` elements, all initialised. -/
structure Vec (α : Type) where
  capacity : Nat
  elems : List α
  len_le : elems.length ≤ capacity

/-- `buffer.set_len(len)` on a buffer of `capacity` elements whose first elements `init` were
written: undefined unless `len` is within both. -/
def setLen {α : Type} (capacity : Nat) (init : List α) (len : Nat) : Outcome (Vec α) :=
  if h : len ≤ capacity ∧ len ≤ init.length then
    .ok ⟨capacity, init.take len, by rw [List.length_take]; omega⟩
  else .undefined

theorem setLen_eq_ok {α : Type} {capacity len : Nat} {init : List α} {v : Vec α} :
    setLen capacity init len = .ok v ↔
      len ≤ capacity ∧ len ≤ init.length ∧ v.capacity = capacity ∧ v.elems = init.take len := by
  unfold setLen
  split
  · constructor
    · rintro ⟨⟩; simp_all
    · rintro ⟨-, -, h1, h2⟩; cases v; simp_all
  · simp only [reduceCtorEq, false_iff]; omega

theorem setLen_eq_undefined {α : Type} {capacity len : Nat} {init : List α} :
    setLen capacity init len = .undefined ↔ capacity < len ∨ init.length < len := by
  unfold setLen
  split
  · simp only [reduceCtorEq, false_iff]; omega
  · exact iff_of_true rfl (by omega)

end Keyutils
