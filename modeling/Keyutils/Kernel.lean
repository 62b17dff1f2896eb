import Keyutils.Rust

/-!
# Calls into the kernel

The library is a client of the kernel's key facility, reached through `libkeyutils`. A
`Syscall` is one such call with its arguments as the library marshals them, and a `Reply` the
kernel's answer: the word the call returns, the `errno` it leaves, and for a buffer call the
bytes it copies out.

`Sys α` is a program of the library: it issues calls and continues on their replies, and ends
in an `Outcome`. A `Kernel` answers each call, and `Sys.run` / `Sys.trace` are the outcome and
the calls of a program against it. The kernel is arbitrary: a theorem over every `Kernel` holds
for every answer the kernel (and every process racing with the caller) can give, the two calls
of a size-then-fill query being distinct calls with answers of their own.

Each call sets the calling thread's `errno`, which `Sys.run` carries along. `check_call`,
`check_call_ret` and `check_call_ret_serial` read it when the word they check is `-1`; run right
after the call, they see that call's error (`run_checkCallRet_reply`).
-/

namespace Keyutils

/-- One call into `libkeyutils`, with its arguments as the library passes them. A buffer
argument is `none` for a null pointer, or the number of bytes allocated behind the pointer. -/
inductive Syscall where
  | setReqkeyKeyring (reqkeyDefl : BitVec 32)
  | getKeyringID (id : KeySerial) (create : Bool)
  | joinSessionKeyring (name : Option CString)
  | clear (ringid : KeySerial)
  | link (id ringid : KeySerial)
  | unlink (id ringid : KeySerial)
  | search (ringid : KeySerial) (type description : CString) (destringid : KeySerial)
  | read (id : KeySerial) (buffer : Option Nat) (buflen : Nat)
  | getPersistent (uid : BitVec 32) (id : KeySerial)
  | addKey (type description : CString) (payload : List UInt8) (ringid : KeySerial)
  | requestKey (type description : CString) (calloutInfo : Option CString)
      (destringid : KeySerial)
  | update (id : KeySerial) (payload : List UInt8)
  | revoke (id : KeySerial)
  | chown (id : KeySerial) (uid gid : BitVec 32)
  | setperm (id : KeySerial) (perm : BitVec 32)
  | describe (id : KeySerial) (buffer : Option Nat) (buflen : Nat)
  | setTimeout (id : KeySerial) (timeout : BitVec 32)
  | getSecurity (id : KeySerial) (buffer : Option Nat) (buflen : Nat)
  | invalidate (id : KeySerial)
  | assumeAuthority (id : KeySerial)
  | dhCompute (priv prime base : KeySerial) (buffer : Option Nat) (buflen : Nat)
  | instantiate (id : KeySerial) (payload : List UInt8) (ringid : KeySerial)
  | reject (id : KeySerial) (timeout error : BitVec 32) (ringid : KeySerial)
  | negate (id : KeySerial) (timeout : BitVec 32) (ringid : KeySerial)

/-- The kernel's answer to one call. A buffer call copies at most as many of `data` as the
length it was given; a call whose C type is `key_serial_t` returns the low half of `ret`. -/
structure Reply where
  ret : CLong
  errno : Errno
  data : List UInt8

/-- The `key_serial_t` a call returns. -/
def Reply.serial (r : Reply) : KeySerial := r.ret.setWidth 32

/-- The kernel, as the answer it gives to each call. -/
abbrev Kernel := Syscall → Reply

/-- A program of the library: it ends in an outcome, issues a call and continues on the reply,
or reads the calling thread's `errno` (which each call sets). -/
inductive Sys (α : Type) where
  | done (o : Outcome α)
  | call (s : Syscall) (k : Reply → Sys α)
  | errno (k : Errno → Sys α)

namespace Sys

variable {α β : Type}

def bind : Sys α → (α → Sys β) → Sys β
  | done (.ok a), f => f a
  | done (.err e), _ => done (.err e)
  | done .panic, _ => done .panic
  | done .undefined, _ => done .undefined
  | call s k, f => call s fun r => (k r).bind f
  | errno k, f => errno fun e => (k e).bind f

instance : Monad Sys where
  pure a := done (.ok a)
  bind := bind

instance : MonadLift Outcome Sys := ⟨done⟩

/-- The outcome of a program against the kernel `K`, the thread's `errno` being `e` before it. -/
def run (K : Kernel) (e : Errno) : Sys α → Outcome α
  | done o => o
  | call s k => (k (K s)).run K (K s).errno
  | errno k => (k e).run K e

/-- The thread's `errno` once the program has run. -/
def errnoAfter (K : Kernel) (e : Errno) : Sys α → Errno
  | done _ => e
  | call s k => (k (K s)).errnoAfter K (K s).errno
  | errno k => (k e).errnoAfter K e

/-- The calls a program issues against the kernel `K`, in order. -/
def trace (K : Kernel) (e : Errno) : Sys α → List Syscall
  | done _ => []
  | call s k => s :: (k (K s)).trace K (K s).errno
  | errno k => (k e).trace K e

/-- `Result::unwrap` on what a program returns: an `Err` becomes a panic. -/
def unwrap : Sys α → Sys α
  | done (.err _) => done .panic
  | done o => done o
  | call s k => call s fun r => (k r).unwrap
  | errno k => errno fun e => (k e).unwrap

/-- The program returns (`Ok` or `Err`) against every kernel. -/
def Returns (p : Sys α) : Prop := ∀ K e, (p.run K e).Returned

variable (K : Kernel) (e : Errno)

@[simp] theorem run_done (o : Outcome α) : (done o).run K e = o := rfl
@[simp] theorem run_call (s : Syscall) (k : Reply → Sys α) :
    (call s k).run K e = (k (K s)).run K (K s).errno := rfl
@[simp] theorem run_errno (k : Errno → Sys α) : (errno k).run K e = (k e).run K e := rfl
@[simp] theorem errnoAfter_done (o : Outcome α) : (done o).errnoAfter K e = e := rfl
@[simp] theorem errnoAfter_call (s : Syscall) (k : Reply → Sys α) :
    (call s k).errnoAfter K e = (k (K s)).errnoAfter K (K s).errno := rfl
@[simp] theorem errnoAfter_errno (k : Errno → Sys α) :
    (errno k).errnoAfter K e = (k e).errnoAfter K e := rfl
@[simp] theorem trace_done (o : Outcome α) : (done o).trace K e = [] := rfl
@[simp] theorem trace_call (s : Syscall) (k : Reply → Sys α) :
    (call s k).trace K e = s :: (k (K s)).trace K (K s).errno := rfl
@[simp] theorem trace_errno (k : Errno → Sys α) : (errno k).trace K e = (k e).trace K e := rfl
@[simp] theorem pure_eq (a : α) : (pure a : Sys α) = done (.ok a) := rfl
@[simp] theorem ok_bind (a : α) (f : α → Sys β) : (done (.ok a) >>= f) = f a := rfl
@[simp] theorem panic_bind (f : α → Sys β) : (done .panic >>= f) = done .panic := rfl
@[simp] theorem liftM_eq (o : Outcome α) : (liftM o : Sys α) = done o := rfl
@[simp] theorem monadLift_eq (o : Outcome α) : (MonadLift.monadLift o : Sys α) = done o := rfl

@[simp] theorem run_bind (p : Sys α) (f : α → Sys β) :
    (p >>= f).run K e = (p.run K e >>= fun a => (f a).run K (p.errnoAfter K e)) := by
  induction p generalizing e with
  | done o => cases o <;> rfl
  | call s k ih => exact ih _ _
  | errno k ih => exact ih _ _

@[simp] theorem trace_bind (p : Sys α) (f : α → Sys β) :
    (p >>= f).trace K e = p.trace K e ++ (match p.run K e with
      | .ok a => (f a).trace K (p.errnoAfter K e)
      | _ => []) := by
  induction p generalizing e with
  | done o => cases o <;> rfl
  | call s k ih => simp only [trace_call, run_call, errnoAfter_call, List.cons_append, ← ih]; rfl
  | errno k ih => exact ih _ _

@[simp] theorem trace_bind_pure (p : Sys α) (f : α → β) :
    (p >>= fun a => pure (f a)).trace K e = p.trace K e := by
  rw [trace_bind]; split <;> simp

@[simp] theorem run_unwrap (p : Sys α) :
    p.unwrap.run K e = match p.run K e with
      | .err _ => .panic
      | o => o := by
  induction p generalizing e with
  | done o => cases o <;> rfl
  | call s k ih => exact ih _ _
  | errno k ih => exact ih _ _

theorem bind_assoc {γ : Type} (p : Sys α) (f : α → Sys β) (g : β → Sys γ) :
    p >>= f >>= g = p >>= fun a => f a >>= g := by
  induction p with
  | done o => cases o <;> rfl
  | call s k ih => exact congrArg (call s) (funext ih)
  | errno k ih => exact congrArg errno (funext ih)

theorem returns_bind {p : Sys α} {f : α → Sys β} (hp : p.Returns) (hf : ∀ a, (f a).Returns) :
    (p >>= f).Returns := by
  intro K e
  have := hp K e
  rw [run_bind]
  cases h : p.run K e <;> simp_all [hf _ K _]

/-- A continuation that always returns adds no abort: the program returns exactly when its
first part does. -/
theorem returns_bind_iff {p : Sys α} {f : α → Sys β} (hf : ∀ a, (f a).Returns) :
    (p >>= f).Returns ↔ p.Returns := by
  refine ⟨fun h K e => ?_, fun hp => returns_bind hp hf⟩
  have := h K e
  rw [run_bind] at this
  cases hp : p.run K e <;> simp_all

theorem returns_done_ok (a : α) : (done (.ok a)).Returns := fun _ _ => trivial

theorem not_returns_panic : ¬ (done .panic : Sys α).Returns := fun h => h (fun _ => ⟨0, 0, []⟩) 0

@[simp] theorem trace_unwrap (p : Sys α) : p.unwrap.trace K e = p.trace K e := by
  induction p generalizing e with
  | done o => cases o <;> rfl
  | call s k ih => simp only [unwrap, trace_call, ih]
  | errno k ih => simp only [unwrap, trace_errno, ih]

end Sys

/-- Issue one call and return the kernel's reply. -/
def syscall (s : Syscall) : Sys Reply := .call s fun r => .done (.ok r)

/-- `errno::errno()`: the calling thread's `errno`. -/
def readErrno : Sys Errno := .errno fun e => .done (.ok e)

section Calls

variable (K : Kernel) (e : Errno)

@[simp] theorem run_syscall (s : Syscall) : (syscall s).run K e = .ok (K s) := rfl
@[simp] theorem errnoAfter_syscall (s : Syscall) : (syscall s).errnoAfter K e = (K s).errno := rfl
@[simp] theorem trace_syscall (s : Syscall) : (syscall s).trace K e = [s] := rfl

/-- `check_call`: `Err(errno::errno())` when the call returned `-1`, else `Ok(value)`. -/
def checkCall {α : Type} (res : CLong) (value : α) : Sys α :=
  if res = -1 then readErrno >>= fun e => .done (.err e) else pure value

/-- `check_call_ret`: `check_call` returning the word itself. -/
def checkCallRet (res : CLong) : Sys CLong := checkCall res res

/-- `check_call_ret_serial`: the same check on a `key_serial_t`. -/
def checkCallRetSerial (res : KeySerial) : Sys KeySerial :=
  if res = -1 then readErrno >>= fun e => .done (.err e) else pure res

variable {α : Type} (res : CLong) (value : α)

@[simp] theorem run_checkCall :
    (checkCall res value).run K e = if res = -1 then .err e else .ok value := by
  unfold checkCall; split <;> rfl

@[simp] theorem errnoAfter_checkCall : (checkCall res value).errnoAfter K e = e := by
  unfold checkCall; split <;> rfl

@[simp] theorem trace_checkCall : (checkCall res value).trace K e = [] := by
  unfold checkCall; split <;> rfl

@[simp] theorem run_checkCallRetSerial (res : KeySerial) :
    (checkCallRetSerial res).run K e = if res = -1 then .err e else .ok res := by
  unfold checkCallRetSerial; split <;> rfl

@[simp] theorem errnoAfter_checkCallRetSerial (res : KeySerial) :
    (checkCallRetSerial res).errnoAfter K e = e := by
  unfold checkCallRetSerial; split <;> rfl

@[simp] theorem trace_checkCallRetSerial (res : KeySerial) :
    (checkCallRetSerial res).trace K e = [] := by
  unfold checkCallRetSerial; split <;> rfl

end Calls

theorem signExtend_eq_neg_one_iff {x : KeySerial} : x.signExtend 64 = -1 ↔ x = -1 := by
  refine ⟨fun hs => ?_, fun h => h ▸ by decide⟩
  rw [show (-1 : CLong) = .allOnes 64 by decide] at hs
  rw [show (-1 : KeySerial) = .allOnes 32 by decide]
  apply BitVec.eq_of_getLsbD_eq
  intro i
  have := congrArg (·.getLsbD i) hs
  simp only [BitVec.getLsbD_signExtend, BitVec.getLsbD_allOnes] at this ⊢
  simpa [i.isLt, show (i : Nat) < 64 by omega] using this

theorem returns_syscall (s : Syscall) : (syscall s).Returns := fun _ _ => trivial

theorem checkCallRetSerial_returns (res : KeySerial) : (checkCallRetSerial res).Returns := by
  intro K e; simp only [run_checkCallRetSerial]; split <;> trivial

/-- What `check_call_ret` makes of a reply read right after its call. -/
def Reply.check (r : Reply) : Outcome CLong := if r.ret = -1 then .err r.errno else .ok r.ret

@[simp] theorem run_checkCallRet_reply (K : Kernel) (r : Reply) :
    (checkCallRet r.ret).run K r.errno = r.check := run_checkCall K r.errno r.ret r.ret

theorem Reply.check_of_ne {r : Reply} (h : r.ret ≠ -1) : r.check = .ok r.ret := if_neg h

theorem checkCall_returns {α : Type} (res : CLong) (value : α) : (checkCall res value).Returns := by
  intro K e; simp only [run_checkCall]; split <;> trivial

/-! ## Handles -/

/-- `Keyring`: a kernel keyring, named by its serial. -/
structure Keyring where
  id : KeySerial
  deriving DecidableEq, Repr

/-- `Key`: a kernel key, named by its serial. -/
structure Key where
  id : KeySerial
  deriving DecidableEq, Repr

/-- `Keyring::new`. -/
def Keyring.new (id : KeySerial) : Keyring := ⟨id⟩

/-- `Key::new`. -/
def Key.new (id : KeySerial) : Key := ⟨id⟩

end Keyutils
