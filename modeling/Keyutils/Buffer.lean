import Keyutils.Kernel

/-!
# The size-then-fill query

Five calls return data whose size is not known in advance: `Keyring::read`,
`Keyring::description_raw`, `Keyring::security`, `Key::read` and `Key::compute_dh`. Each asks for
the size with a null buffer, allocates a `Vec` of that capacity, asks again to fill it, and sets
the `Vec`'s length from what the second call returned. `sizeThenFill` is that pattern; the
members differ in the element size, in how the bytes written read as elements, in the capacity
requested from the first size (`Keyring::read` divides it by four) and in the length set from
the second (`description_raw` subtracts one for the terminator).

Between the two calls the object can change. If it shrinks or stays, the query returns what the
kernel copied (`sizeThenFill_of_fits`). If it grows, the kernel reports the new size and copies
nothing past the buffer, and `set_len` goes past the capacity (`sizeThenFill_undefined`); so does
`description_raw` at a reported size of 0, where `actual_sz - 1` wraps, and `Keyring::read`
hands the kernel more bytes than it allocated when the size is not a multiple of four. At a size
of whole serials that did not grow, `Keyring::read` gets the serials the kernel wrote
(`Keyring.readBuffer_of_fits`).
-/

namespace Keyutils

/-- `Vec::with_capacity(capacity)` for elements of `elemSize` bytes: past `isize::MAX` bytes it
panics. Below, the model assumes that the allocator finds the memory: `Vec::with_capacity`
aborts the process when it cannot, and that is not modelled. -/
def withCapacity (capacity elemSize : Nat) : Outcome Nat :=
  if 2 ^ 63 ≤ capacity * elemSize then .panic else .ok capacity

/-- The kernel copying `bytes` into a buffer of `alloc` bytes: past its end it overwrites
memory that is not the buffer's. -/
def writeBuffer (alloc : Nat) (bytes : List UInt8) : Outcome (List UInt8) :=
  if alloc < bytes.length then .undefined else .ok bytes

/-- The size-then-fill pattern over the call `call buffer buflen`. -/
def sizeThenFill {α : Type} (call : Option Nat → Nat → Syscall) (elemSize : Nat)
    (decode : List UInt8 → List α) (capacity len : CLong → Nat) : Sys (Vec α) := do
  let r ← syscall (call none 0)
  let sz ← checkCallRet r.ret
  let cap ← liftM (withCapacity (capacity sz) elemSize)
  let r ← syscall (call (some (cap * elemSize)) sz.toNat)
  let written ← liftM (writeBuffer (cap * elemSize) (r.data.take sz.toNat))
  let actualSz ← checkCallRet r.ret
  liftM (setLen cap (decode written) (len actualSz))

/-- The `key_serial_t`s that whole groups of four bytes hold (little-endian). -/
def serialsOfBytes : List UInt8 → List KeySerial
  | b0 :: b1 :: b2 :: b3 :: rest =>
    (b3.toBitVec ++ b2.toBitVec ++ b1.toBitVec ++ b0.toBitVec) :: serialsOfBytes rest
  | _ => []

theorem length_serialsOfBytes : ∀ l : List UInt8, (serialsOfBytes l).length = l.length / 4
  | _ :: _ :: _ :: _ :: rest => by
    simp only [serialsOfBytes, List.length_cons, length_serialsOfBytes rest]; omega
  | [] | [_] | [_, _] | [_, _, _] => by simp [serialsOfBytes]

/-- The first `n` serials are read from the first `4 * n` bytes. -/
theorem serialsOfBytes_take : ∀ (n : Nat) (l : List UInt8),
    serialsOfBytes (l.take (4 * n)) = (serialsOfBytes l).take n
  | 0, l => by simp [serialsOfBytes]
  | n + 1, b0 :: b1 :: b2 :: b3 :: rest => congrArg (_ :: ·) (serialsOfBytes_take n rest)
  | n + 1, [] | n + 1, [_] | n + 1, [_, _] | n + 1, [_, _, _] => by
    simp [serialsOfBytes, Nat.mul_succ]

/-- The first half of `Keyring::read`: the children's serials, read into a
`Vec<key_serial_t>`. -/
def Keyring.readBuffer (self : Keyring) : Sys (Vec KeySerial) :=
  sizeThenFill (.read self.id) 4 serialsOfBytes (fun sz => sz.toNat / 4) (fun a => a.toNat / 4)

/-- `Keyring::description_raw`. -/
def Keyring.descriptionRaw (self : Keyring) : Sys String := do
  let buffer ←
    sizeThenFill (.describe self.id) 1 (fun bytes => bytes) (·.toNat) (fun a => (a - 1).toNat)
  liftM (unwrap (fromUtf8 buffer.elems))

/-- `Keyring::security`. -/
def Keyring.security (self : Keyring) : Sys String := do
  let buffer ← sizeThenFill (.getSecurity self.id) 1 (fun bytes => bytes) (·.toNat) (·.toNat)
  liftM (unwrap (fromUtf8 buffer.elems))

/-- `Key::read`. -/
def Key.read (self : Key) : Sys (Vec UInt8) :=
  sizeThenFill (.read self.id) 1 (fun bytes => bytes) (·.toNat) (·.toNat)

/-- `Key::compute_dh`. -/
def Key.computeDh (priv prime base : Key) : Sys (Vec UInt8) :=
  sizeThenFill (.dhCompute priv.id prime.id base.id) 1 (fun bytes => bytes) (·.toNat) (·.toNat)

section Query

variable {α : Type} (call : Option Nat → Nat → Syscall) (elemSize : Nat)
  (decode : List UInt8 → List α) (capacity len : CLong → Nat) {K : Kernel} {e : Errno}
  {sz a : CLong}

theorem run_sizeThenFill :
    (sizeThenFill call elemSize decode capacity len).run K e =
      ((K (call none 0)).check >>= fun sz =>
        withCapacity (capacity sz) elemSize >>= fun cap =>
        writeBuffer (cap * elemSize) ((K (call (some (cap * elemSize)) sz.toNat)).data.take
          sz.toNat) >>= fun written =>
        (K (call (some (cap * elemSize)) sz.toNat)).check >>= fun a =>
        setLen cap (decode written) (len a)) := by
  simp only [sizeThenFill, Sys.run_bind, run_syscall, Outcome.ok_bind, Sys.liftM_eq,
    Sys.run_done, Sys.errnoAfter_done, errnoAfter_syscall, run_checkCallRet_reply]

/-- Both calls succeed and the first size is allocatable: the query comes down to the kernel's
write and `set_len`. -/
theorem run_sizeThenFill_of_ok (hsz : (K (call none 0)).ret = sz) (hsz1 : sz ≠ -1)
    (hcap : capacity sz * elemSize < 2 ^ 63)
    (ha : (K (call (some (capacity sz * elemSize)) sz.toNat)).ret = a) (ha1 : a ≠ -1) :
    (sizeThenFill call elemSize decode capacity len).run K e =
      (writeBuffer (capacity sz * elemSize)
        ((K (call (some (capacity sz * elemSize)) sz.toNat)).data.take sz.toNat) >>= fun w =>
        setLen (capacity sz) (decode w) (len a)) := by
  have hc : (K (call none 0)).check = .ok sz := by rw [Reply.check_of_ne (hsz ▸ hsz1), hsz]
  have hc' : (K (call (some (capacity sz * elemSize)) sz.toNat)).check = .ok a := by
    rw [Reply.check_of_ne (ha ▸ ha1), ha]
  rw [run_sizeThenFill, hc, Outcome.ok_bind, withCapacity, if_neg (by omega), Outcome.ok_bind]
  cases writeBuffer _ _ <;> simp [hc']

/-- **`set_len` past the capacity.** Once both calls succeed, a length set past the capacity
the first size allocated is undefined behaviour, whatever the kernel copied. -/
theorem sizeThenFill_undefined (hsz : (K (call none 0)).ret = sz) (hsz1 : sz ≠ -1)
    (hcap : capacity sz * elemSize < 2 ^ 63)
    (ha : (K (call (some (capacity sz * elemSize)) sz.toNat)).ret = a) (ha1 : a ≠ -1)
    (hlen : capacity sz < len a) :
    (sizeThenFill call elemSize decode capacity len).run K e = .undefined := by
  rw [run_sizeThenFill_of_ok call elemSize decode capacity len hsz hsz1 hcap ha ha1, writeBuffer]
  split <;> simp [setLen_eq_undefined.mpr (.inl hlen)]

/-- **The query when the data fits.** Once both calls succeed, the kernel's write stays in the
buffer and the length set is within the capacity and what was written, the query returns that
many of the elements written. -/
theorem sizeThenFill_of_fits (hsz : (K (call none 0)).ret = sz) (hsz1 : sz ≠ -1)
    (hcap : capacity sz * elemSize < 2 ^ 63)
    (ha : (K (call (some (capacity sz * elemSize)) sz.toNat)).ret = a) (ha1 : a ≠ -1)
    (hw : ((K (call (some (capacity sz * elemSize)) sz.toNat)).data.take sz.toNat).length ≤
      capacity sz * elemSize)
    (hlen : len a ≤ capacity sz)
    (hinit : len a ≤ (decode ((K (call (some (capacity sz * elemSize)) sz.toNat)).data.take
      sz.toNat)).length) :
    ∃ v, (sizeThenFill call elemSize decode capacity len).run K e = .ok v ∧
      v.capacity = capacity sz ∧
      v.elems = (decode ((K (call (some (capacity sz * elemSize)) sz.toNat)).data.take
        sz.toNat)).take (len a) := by
  rw [run_sizeThenFill_of_ok call elemSize decode capacity len hsz hsz1 hcap ha ha1, writeBuffer,
    if_neg (by omega), Outcome.ok_bind]
  rw [setLen, dif_pos ⟨hlen, hinit⟩]
  exact ⟨_, rfl, rfl, rfl⟩

end Query

/-! ## The members -/

section Members

variable {call : Option Nat → Nat → Syscall} {K : Kernel} {e : Errno} {sz a : CLong}

theorem ne_neg_one_of_toNat_lt {x : CLong} (h : x.toNat < 2 ^ 63) : x ≠ -1 := by
  rintro rfl; exact absurd h (by decide)

/-- A byte query (`Key::read`, `security`, `compute_dh`) whose object grew between the two calls
sets a length past its capacity. -/
theorem byteQuery_undefined_of_grown (hsz : (K (call none 0)).ret = sz) (hnn : sz.toNat < 2 ^ 63)
    (ha : (K (call (some sz.toNat) sz.toNat)).ret = a) (ha1 : a ≠ -1)
    (hgrew : sz.toNat < a.toNat) :
    (sizeThenFill call 1 (fun bytes => bytes) (·.toNat) (·.toNat)).run K e = .undefined :=
  sizeThenFill_undefined call 1 _ (·.toNat) (·.toNat) hsz (ne_neg_one_of_toNat_lt hnn)
    (by simpa using hnn) (by simpa using ha) ha1 hgrew

/-- A byte query whose object did not grow returns the bytes the kernel copied. -/
theorem byteQuery_of_fits (hsz : (K (call none 0)).ret = sz) (hnn : sz.toNat < 2 ^ 63)
    (ha : (K (call (some sz.toNat) sz.toNat)).ret = a) (ha1 : a ≠ -1)
    (hfit : a.toNat ≤ sz.toNat) (hcopied : a.toNat ≤ (K (call (some sz.toNat) sz.toNat)).data.length) :
    ∃ v, (sizeThenFill call 1 (fun bytes => bytes) (·.toNat) (·.toNat)).run K e = .ok v ∧
      v.capacity = sz.toNat ∧ v.elems = (K (call (some sz.toNat) sz.toNat)).data.take a.toNat := by
  obtain ⟨v, hv, hcap, helems⟩ := sizeThenFill_of_fits call 1 (fun bytes => bytes) (·.toNat)
    (·.toNat) hsz (ne_neg_one_of_toNat_lt hnn) (by simpa using hnn) (by simpa using ha) ha1
    (by rw [List.length_take, Nat.mul_one]; exact Nat.min_le_left _ _) hfit
    (by simp only [Nat.mul_one, List.length_take]; omega)
  refine ⟨v, hv, hcap, ?_⟩
  simpa [List.take_take, Nat.min_eq_left hfit] using helems

/-- `Key::read` of a key that did not grow returns the payload bytes the kernel copied. Like the
model, this assumes that the allocator finds the memory for the size the kernel reported
(`Vec::with_capacity` aborts when it cannot). -/
theorem Key.read_of_fits (self : Key) (hsz : (K (.read self.id none 0)).ret = sz)
    (hnn : sz.toNat < 2 ^ 63) (ha : (K (.read self.id (some sz.toNat) sz.toNat)).ret = a)
    (ha1 : a ≠ -1) (hfit : a.toNat ≤ sz.toNat)
    (hcopied : a.toNat ≤ (K (.read self.id (some sz.toNat) sz.toNat)).data.length) :
    ∃ v, self.read.run K e = .ok v ∧ v.capacity = sz.toNat ∧
      v.elems = (K (.read self.id (some sz.toNat) sz.toNat)).data.take a.toNat :=
  byteQuery_of_fits hsz hnn ha ha1 hfit hcopied

/-- A kernel whose key holds 4 bytes and copies them all. -/
def quietKernel : Kernel
  | .read _ _ _ => ⟨4, 0, [1, 2, 3, 4]⟩
  | _ => ⟨-1, 22, []⟩

theorem quietKernel_read :
    ∃ v, (Key.new 1).read.run quietKernel 0 = .ok v ∧ v.capacity = 4 ∧ v.elems = [1, 2, 3, 4] :=
  (Key.new 1).read_of_fits rfl (by decide) rfl (by decide) (by decide) (by decide)

/-- `Keyring::read` allocates `sz / 4` serials but hands the kernel `sz` bytes: a size that is
not a multiple of four lets the kernel write past the buffer. -/
theorem Keyring.readBuffer_undefined_of_unaligned (self : Keyring)
    (hsz : (K (.read self.id none 0)).ret = sz) (hnn : sz.toNat < 2 ^ 63)
    (hrem : sz.toNat % 4 ≠ 0)
    (hdata : sz.toNat ≤ (K (.read self.id (some (sz.toNat / 4 * 4)) sz.toNat)).data.length) :
    self.readBuffer.run K e = .undefined := by
  have hcap : ¬ 2 ^ 63 ≤ sz.toNat / 4 * 4 := by omega
  have hover : sz.toNat / 4 * 4 <
      ((K (.read self.id (some (sz.toNat / 4 * 4)) sz.toNat)).data.take sz.toNat).length := by
    rw [List.length_take]; omega
  simp only [Keyring.readBuffer, run_sizeThenFill, Reply.check_of_ne
    (hsz ▸ ne_neg_one_of_toNat_lt hnn), hsz, Outcome.ok_bind, withCapacity, if_neg hcap,
    writeBuffer, if_pos hover, Outcome.undefined_bind]

/-- A kernel answering a read with 6 bytes, half a serial past the buffer of one serial. -/
def unalignedKernel : Kernel
  | .read _ _ _ => ⟨6, 0, [5, 0, 0, 0, 6, 0]⟩
  | _ => ⟨-1, 22, []⟩

theorem unalignedKernel_readBuffer :
    (Keyring.new 1).readBuffer.run unalignedKernel 0 = .undefined :=
  (Keyring.new 1).readBuffer_undefined_of_unaligned rfl (by decide) (by decide) (by decide)

/-- `Keyring::read` of a keyring that did not change between the two calls, at a size of whole
serials: the buffer holds the first serials the kernel wrote, as many as it reported. Like the
model, this assumes that the allocator finds the memory for that size (`Vec::with_capacity`
aborts when it cannot). -/
theorem Keyring.readBuffer_of_fits (self : Keyring) (hsz : (K (.read self.id none 0)).ret = sz)
    (hnn : sz.toNat < 2 ^ 63) (halign : sz.toNat % 4 = 0)
    (ha : (K (.read self.id (some sz.toNat) sz.toNat)).ret = a) (ha1 : a ≠ -1)
    (hfit : a.toNat ≤ sz.toNat)
    (hcopied : a.toNat ≤ (K (.read self.id (some sz.toNat) sz.toNat)).data.length) :
    ∃ v, self.readBuffer.run K e = .ok v ∧ v.capacity = sz.toNat / 4 ∧
      v.elems = (serialsOfBytes (K (.read self.id (some sz.toNat) sz.toNat)).data).take
        (a.toNat / 4) := by
  have hcap : sz.toNat / 4 * 4 = sz.toNat := Nat.div_mul_cancel (Nat.dvd_of_mod_eq_zero halign)
  have hbytes := serialsOfBytes_take (sz.toNat / 4)
    (K (.read self.id (some sz.toNat) sz.toNat)).data
  rw [Nat.mul_comm, hcap] at hbytes
  obtain ⟨v, hv, hvcap, helems⟩ := sizeThenFill_of_fits (K := K) (e := e) (.read self.id) 4
    serialsOfBytes (·.toNat / 4) (·.toNat / 4) hsz (ne_neg_one_of_toNat_lt hnn)
    (by show sz.toNat / 4 * 4 < 2 ^ 63; omega) (by rwa [hcap]) ha1
    (by rw [hcap, List.length_take]; exact Nat.min_le_left _ _) (Nat.div_le_div_right hfit)
    (by rw [hcap, length_serialsOfBytes, List.length_take]; exact Nat.div_le_div_right (by omega))
  refine ⟨v, hv, hvcap, ?_⟩
  rw [helems, hcap, hbytes, List.take_take, Nat.min_eq_left (Nat.div_le_div_right hfit)]

theorem quietKernel_readBuffer :
    ∃ v, (Keyring.new 1).readBuffer.run quietKernel 0 = .ok v ∧ v.capacity = 1 ∧
      v.elems = [0x04030201] :=
  let ⟨v, hv, hcap, helems⟩ := (Keyring.new 1).readBuffer_of_fits (K := quietKernel) (e := 0)
    rfl (by decide) (by decide) rfl (by decide) (by decide) (by decide)
  ⟨v, hv, hcap, helems.trans (by decide)⟩

end Members

end Keyutils
