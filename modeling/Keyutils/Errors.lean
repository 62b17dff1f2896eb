import Keyutils.Read
import Keyutils.Manager

/-!
# Where an error comes from

Every `Err` the library returns is built by `check_call`, `check_call_ret` or
`check_call_ret_serial` from `errno::errno()`, read right after the call whose returned word it
checks, before any other call. So an error is always the `errno` left by the library's last
call, a call that failed by its C return convention: `-1` as a `long`, or as a `key_serial_t`
for the calls that return one (`Syscall.Failed`). No error is stale, and the library makes up
none of its own except the `EINVAL` of `Keyring::description` for a record of fewer than five
fields (`errors_from_kernel`).

`Sys.ErrAfter made failed p` is this judgement for a program `p`, which may also make up the
errors in `made`; `failed` covers a check at the start of `p`, which reads the `errno` it was
started with. A call followed by a check of its reply has no such start (`errFrom_call`), a
pure step adds no error (`errAfter_done`, `errAfter_done_bind`), and `>>=` keeps the judgement
(`ErrAfter.bind`); each operation gets it from the shape of its body.
-/

namespace Keyutils

/-- Whether the C function behind a call returns `key_serial_t`; the others return `long`. -/
def Syscall.returnsSerial : Syscall → Bool
  | .getKeyringID .. | .joinSessionKeyring _ | .addKey .. | .requestKey .. => true
  | _ => false

/-- The call failed: it returned `-1` as a value of its C return type. -/
def Syscall.Failed (s : Syscall) (r : Reply) : Prop :=
  if s.returnsSerial then r.serial = -1 else r.ret = -1

namespace Sys

variable {α β : Type} {made : Errno → Prop} {c : Prop}

/-- Every `Err` the program returns is one it `made` itself, or the `errno` its last call left
after failing, or, when `failed` holds and the program issued no call, the `errno` it started
with. -/
def ErrAfter (made : Errno → Prop) (failed : Prop) (p : Sys α) : Prop :=
  ∀ K e x, p.run K e = .err x → made x ∨ (failed ∧ x = e ∧ p.trace K e = []) ∨
    ∃ s, (p.trace K e).getLast? = some s ∧ s.Failed (K s) ∧ (K s).errno = x

/-- Every `Err` the program returns is one it `made` itself, or the `errno` its last call left
after failing. -/
def ErrFrom (made : Errno → Prop) (p : Sys α) : Prop := p.ErrAfter made False

theorem ErrAfter.mono {made' : Errno → Prop} {c' : Prop} {p : Sys α} (h : p.ErrAfter made c)
    (hm : ∀ x, made x → made' x) (hc : c → c') : p.ErrAfter made' c' := by
  intro K e x hx
  rcases h K e x hx with h | ⟨h1, h2⟩ | h
  · exact .inl (hm x h)
  · exact .inr (.inl ⟨hc h1, h2⟩)
  · exact .inr (.inr h)

theorem errAfter_of_ne_err {p : Sys α} (h : ∀ K e x, p.run K e ≠ .err x) : p.ErrAfter made c :=
  fun K e x hx => absurd hx (h K e x)

theorem errAfter_done {o : Outcome α} (ho : ∀ x, o = .err x → made x) :
    (done o).ErrAfter made c := fun _ _ x hx => .inl (ho x hx)

/-- A check reads the `errno` it starts with. -/
theorem errAfter_checkCall (res : CLong) (v : α) :
    (checkCall res v).ErrAfter made (res = -1) := by
  intro K e x hx
  simp only [run_checkCall] at hx
  split at hx
  · cases hx; exact .inr (.inl ⟨‹_›, rfl, by simp⟩)
  · cases hx

/-- A call whose reply the rest checks first: a check at the start of the rest reads the
`errno` the call left. -/
theorem errFrom_call {s : Syscall} {f : Reply → Sys α}
    (hf : ∀ r, (f r).ErrAfter made (s.Failed r)) : (syscall s >>= f).ErrFrom made := by
  intro K e x hx
  simp only [run_bind, run_syscall, Outcome.ok_bind, errnoAfter_syscall] at hx
  rcases hf (K s) K _ x hx with h | ⟨h1, rfl, h3⟩ | ⟨s', h1, h2⟩
  · exact .inl h
  · exact .inr (.inr ⟨s, by simp [h3], h1, rfl⟩)
  · refine .inr (.inr ⟨s', ?_, h2⟩)
    simp only [trace_bind, trace_syscall, run_syscall, errnoAfter_syscall, List.getLast?_append,
      h1]
    rfl

theorem ErrAfter.bind {p : Sys α} {f : α → Sys β} (hp : p.ErrAfter made c)
    (hf : ∀ a, (f a).ErrFrom made) : (p >>= f).ErrAfter made c := by
  intro K e x hx
  rw [run_bind] at hx
  cases hr : p.run K e with
  | ok a =>
    rw [hr, Outcome.ok_bind] at hx
    rcases hf a K _ x hx with h | ⟨h, -⟩ | ⟨s, h1, h2⟩
    · exact .inl h
    · exact h.elim
    · refine .inr (.inr ⟨s, ?_, h2⟩)
      simp only [trace_bind, hr, List.getLast?_append, h1]
      rfl
  | err y =>
    rw [hr, Outcome.err_bind] at hx
    cases hx
    rcases hp K e x hr with h | ⟨h1, h2, h3⟩ | ⟨s, h1, h2⟩
    · exact .inl h
    · exact .inr (.inl ⟨h1, h2, by simp [trace_bind, hr, h3]⟩)
    · exact .inr (.inr ⟨s, by simpa [trace_bind, hr] using h1, h2⟩)
  | panic | undefined => rw [hr] at hx; cases hx

theorem errAfter_done_bind {o : Outcome α} {f : α → Sys β} (ho : ∀ x, o ≠ .err x)
    (hf : ∀ a, (f a).ErrAfter made c) : (done o >>= f).ErrAfter made c := by
  cases o with
  | ok a => exact hf a
  | err x => exact absurd rfl (ho x)
  | panic | undefined => exact errAfter_done fun _ h => by cases h

end Sys

open Sys

/-! ## The steps that make no error -/

theorem unwrap_ne_err {α : Type} (o : Option α) (x : Errno) : unwrap o ≠ .err x := by
  cases o <;> simp [unwrap]

theorem withCapacity_ne_err (capacity elemSize : Nat) (x : Errno) :
    withCapacity capacity elemSize ≠ .err x := by
  unfold withCapacity; split <;> simp

theorem writeBuffer_ne_err (alloc : Nat) (bytes : List UInt8) (x : Errno) :
    writeBuffer alloc bytes ≠ .err x := by
  unfold writeBuffer; split <;> simp

theorem setLen_ne_err {α : Type} (capacity : Nat) (init : List α) (len : Nat) (x : Errno) :
    setLen capacity init len ≠ .err x := by
  unfold setLen; split <;> simp

theorem parse_ne_err (desc : String) (x : Errno) : Description.parse desc ≠ .err x := by
  unfold Description.parse
  split
  · cases fromStrRadix _ .decimal <;> cases fromStrRadix _ .decimal <;>
      cases fromStrRadix _ .hex <;> simp [unwrap]
  · simp

/-! ## The shapes of the operations -/

section Shapes

variable {α : Type} {made : Errno → Prop} {c : Prop} {s : Syscall}

theorem failed_of_ret {r : Reply} (hs : s.returnsSerial = false) (h : r.ret = -1) :
    s.Failed r := by
  simp [Syscall.Failed, hs, h]

theorem failed_of_serial {r : Reply} (hs : s.returnsSerial = true)
    (h : r.serial.signExtend 64 = -1) : s.Failed r := by
  simp only [Syscall.Failed, hs, if_true]; exact signExtend_eq_neg_one_iff.mp h

theorem errFrom_callChecked (hs : s.returnsSerial = false) (value : CLong → α) :
    (callChecked s value).ErrFrom made :=
  errFrom_call fun r => (errAfter_checkCall r.ret _).mono (fun _ => id) (failed_of_ret hs)

theorem errFrom_callSerial (hs : s.returnsSerial = true) (value : KeySerial → α) :
    (callSerial s value).ErrFrom made :=
  errFrom_call fun _ => (errAfter_checkCall _ _).mono (fun _ => id) (failed_of_serial hs)

theorem errAfter_cstring_bind {str : String} {f : CString → Sys α}
    (hf : ∀ cs, (f cs).ErrAfter made c) : (cstring str >>= f).ErrAfter made c :=
  errAfter_done_bind (unwrap_ne_err _) hf

/-- A check of the reply right after its call. -/
theorem errAfter_checkCallRet {r : Reply} (hs : s.returnsSerial = false) :
    (checkCallRet r.ret).ErrAfter made (s.Failed r) :=
  (errAfter_checkCall r.ret r.ret).mono (fun _ => id) (failed_of_ret hs)

theorem errFrom_sizeThenFill {call : Option Nat → Nat → Syscall}
    (hs : ∀ b n, (call b n).returnsSerial = false) (elemSize : Nat)
    (decode : List UInt8 → List α) (capacity len : CLong → Nat) :
    (sizeThenFill call elemSize decode capacity len).ErrFrom made :=
  errFrom_call fun _ => (errAfter_checkCallRet (hs _ _)).bind fun _ =>
    errAfter_done_bind (withCapacity_ne_err _ _) fun _ => errFrom_call fun _ =>
      errAfter_done_bind (writeBuffer_ne_err _ _) fun _ => (errAfter_checkCallRet (hs _ _)).bind
        fun _ => errAfter_done fun _ h => absurd h (setLen_ne_err _ _ _ _)

/-- `search_impl` followed by `check_call` on its result: the two checks are the one
(`recheck_of_checked`), made right after the search. -/
theorem errFrom_search (self : Keyring) (type_ description : String) (value : CLong → α) :
    (self.searchImpl type_ description >>= fun res => checkCall res (value res)).ErrFrom made := by
  simp only [Keyring.searchImpl, Sys.bind_assoc, recheck_of_checked]
  exact errAfter_cstring_bind fun _ => errAfter_cstring_bind fun _ =>
    errFrom_callChecked (by rfl) value

theorem errFrom_request (self : Keyring) (type_ description : String) (value : KeySerial → α) :
    (self.requestImpl type_ description >>= fun res =>
      checkCall (res.signExtend 64) (value res)).ErrFrom made := by
  simp only [Keyring.requestImpl, Sys.bind_assoc, recheck_of_checked_serial]
  exact errAfter_cstring_bind fun _ => errAfter_cstring_bind fun _ =>
    errFrom_callSerial (by rfl) value

theorem errFrom_requestFallback (self : Keyring) (type_ description info : String)
    (value : KeySerial → α) :
    (self.requestFallbackImpl type_ description info >>= fun res =>
      checkCall (res.signExtend 64) (value res)).ErrFrom made := by
  simp only [Keyring.requestFallbackImpl, Sys.bind_assoc, recheck_of_checked_serial]
  exact errAfter_cstring_bind fun _ => errAfter_cstring_bind fun _ => errAfter_cstring_bind fun _ =>
    errFrom_callSerial (by rfl) value

theorem errFrom_addKey (self : Keyring) (kt : KeyType) (description : kt.Description)
    (payload : kt.Payload) : (self.addKey kt description payload).ErrFrom made :=
  errAfter_cstring_bind fun _ => errAfter_cstring_bind fun _ => errFrom_callSerial (by rfl) _

theorem errFrom_description (self : Keyring) : self.description.ErrFrom (· = EINVAL) :=
  (errFrom_sizeThenFill (fun _ _ => by rfl) _ _ _ _ |>.bind fun _ =>
    errAfter_done fun _ h => absurd h (unwrap_ne_err _ _)).bind fun _ =>
    errAfter_done_bind (parse_ne_err _) fun parsed => errAfter_done fun _ h => by
      cases parsed <;> cases h; rfl

end Shapes

/-- The program returns no `Err` but the `errno` of its last call, a call that failed. -/
def Sys.KernelErrors {α : Type} (p : Sys α) : Prop := p.ErrFrom fun _ => False

/-- **Every error is the kernel's.** For every kernel, an `Err` that an operation of the library
returns is the `errno` its last call left, and that call failed by its C return convention. The
one exception is `Keyring::description` (and `Key::description`), which also returns `EINVAL`
for a record it cannot read. -/
theorem errors_from_kernel :
    (∀ {D : Type} (serial : D → BitVec 32) (ofSerial : BitVec 32 → Option D) (keyring : D),
      (Keyring.setDefault serial ofSerial keyring).KernelErrors) ∧
    (∀ id create, (Keyring.getKeyring id create).KernelErrors ∧
      (Keyring.attach id).KernelErrors ∧ (Keyring.attachOrCreate id).KernelErrors ∧
      (Key.requestKeyAuthKey create).KernelErrors) ∧
    Keyring.joinAnonymousSession.KernelErrors ∧
    (∀ name, (Keyring.joinSession name).KernelErrors) ∧
    (∀ d, (Keyring.request d).KernelErrors ∧ (Key.request d).KernelErrors) ∧
    (∀ d info, (Keyring.requestWithFallback d info).KernelErrors ∧
      (Key.requestWithFallback d info).KernelErrors) ∧
    (∀ self : Keyring, self.clear.KernelErrors ∧ self.revoke.KernelErrors ∧
      self.invalidate.KernelErrors ∧ self.attachPersistent.KernelErrors ∧
      self.read.KernelErrors ∧
      self.security.KernelErrors ∧ self.description.ErrFrom (· = EINVAL) ∧
      (∀ key : Key, (self.linkKey key).KernelErrors ∧ (self.unlinkKey key).KernelErrors) ∧
      (∀ keyring : Keyring,
        (self.linkKeyring keyring).KernelErrors ∧ (self.unlinkKeyring keyring).KernelErrors) ∧
      (∀ v, (self.chown v).KernelErrors ∧ (self.chgrp v).KernelErrors ∧
        (self.setPermissions v).KernelErrors ∧ (self.setTimeout v).KernelErrors) ∧
      (∀ d, (self.searchForKey d).KernelErrors ∧ (self.searchForKeyring d).KernelErrors ∧
        (self.requestKey d).KernelErrors ∧ (self.requestKeyring d).KernelErrors ∧
        (self.addKeyring d).KernelErrors) ∧
      (∀ d info, (self.requestKeyWithFallback d info).KernelErrors ∧
        (self.requestKeyringWithFallback d info).KernelErrors) ∧
      (∀ (kt : KeyType) d p, (self.addKey kt d p).KernelErrors)) ∧
    (∀ self : Key, self.revoke.KernelErrors ∧ self.invalidate.KernelErrors ∧
      self.read.KernelErrors ∧ self.security.KernelErrors ∧ self.manage.KernelErrors ∧
      self.description.ErrFrom (· = EINVAL) ∧ (∀ data, (self.update data).KernelErrors) ∧
      (∀ v, (self.chown v).KernelErrors ∧ (self.chgrp v).KernelErrors ∧
        (self.setPermissions v).KernelErrors ∧ (self.setTimeout v).KernelErrors)) ∧
    (∀ priv prime base : Key, (Key.computeDh priv prime base).KernelErrors) ∧
    (∀ (m : KeyManager) (keyring : Keyring),
      (∀ payload, (m.instantiate keyring payload).KernelErrors) ∧
      (∀ timeout error, (m.reject keyring timeout error).KernelErrors) ∧
      (∀ timeout, (m.negate keyring timeout).KernelErrors)) := by
  have checked {α : Type} {s : Syscall} (hs : s.returnsSerial = false) (v : CLong → α) :
      (callChecked s v).KernelErrors := errFrom_callChecked hs v
  have serial {α : Type} {s : Syscall} (hs : s.returnsSerial = true) (v : KeySerial → α) :
      (callSerial s v).KernelErrors := errFrom_callSerial hs v
  have query {α : Type} {call : Option Nat → Nat → Syscall}
      (hs : ∀ b n, (call b n).returnsSerial = false) (elemSize : Nat)
      (decode : List UInt8 → List α) (capacity len : CLong → Nat) :
      (sizeThenFill call elemSize decode capacity len).KernelErrors :=
    errFrom_sizeThenFill hs elemSize decode capacity len
  have security (self : Keyring) : self.security.KernelErrors :=
    (query (fun _ _ => by rfl) _ _ _ _).bind fun _ =>
      errAfter_done fun _ h => absurd h (unwrap_ne_err _ _)
  have pureStep {α : Type} (a : α) : (pure a : Sys α).KernelErrors :=
    errAfter_done fun _ h => by cases h
  refine ⟨fun _ _ _ => errFrom_call fun _ => (errAfter_checkCallRet (by rfl)).bind fun _ =>
      errAfter_done fun _ h => absurd h (unwrap_ne_err _ _),
    fun _ _ => ⟨serial (by rfl) _, serial (by rfl) _, serial (by rfl) _, serial (by rfl) _⟩,
    serial (by rfl) _, fun _ => errAfter_cstring_bind fun _ => serial (by rfl) _,
    fun _ => ⟨errFrom_request _ _ _ _, errFrom_request _ _ _ _⟩,
    fun _ _ => ⟨errFrom_requestFallback _ _ _ _ _, errFrom_requestFallback _ _ _ _ _⟩,
    fun self => ⟨checked (by rfl) _, checked (by rfl) _, checked (by rfl) _, checked (by rfl) _,
      (query (fun _ _ => by rfl) _ _ _ _).bind fun _ =>
        (errAfter_of_ne_err fun K e x => partitionM_ne_err isKeyring K
          (fun key _ => run_isKeyring_ne_err K key) e x).bind fun _ => pureStep _,
      security self, errFrom_description self,
      fun _ => ⟨checked (by rfl) _, checked (by rfl) _⟩,
      fun _ => ⟨checked (by rfl) _, checked (by rfl) _⟩,
      fun _ => ⟨checked (by rfl) _, checked (by rfl) _, checked (by rfl) _, checked (by rfl) _⟩,
      fun _ => ⟨errFrom_search _ _ _ _, errFrom_search _ _ _ _, errFrom_request _ _ _ _,
        errFrom_request _ _ _ _, (errFrom_addKey _ _ _ _).bind fun _ => pureStep _⟩,
      fun _ _ => ⟨errFrom_requestFallback _ _ _ _ _, errFrom_requestFallback _ _ _ _ _⟩,
      fun _ _ _ => errFrom_addKey _ _ _ _⟩,
    fun self => ⟨checked (s := .revoke self.id) (by rfl) fun _ => (),
      checked (s := .invalidate self.id) (by rfl) fun _ => (), query (fun _ _ => by rfl) _ _ _ _,
      security _, checked (by rfl) _, errFrom_description _, fun _ => checked (by rfl) _,
      fun _ => ⟨checked (s := .chown self.id _ _) (by rfl) fun _ => (),
        checked (s := .chown self.id _ _) (by rfl) fun _ => (),
        checked (s := .setperm self.id _) (by rfl) fun _ => (),
        checked (s := .setTimeout self.id _) (by rfl) fun _ => ()⟩⟩,
    fun _ _ _ => query (fun _ _ => by rfl) _ _ _ _,
    fun m keyring => ⟨fun payload =>
      checked (s := .instantiate m.key.id payload keyring.id) (by rfl) fun _ => (),
      fun timeout error =>
        checked (s := .reject m.key.id timeout error keyring.id) (by rfl) fun _ => (),
      fun timeout => checked (s := .negate m.key.id timeout keyring.id) (by rfl) fun _ => ()⟩⟩

end Keyutils
