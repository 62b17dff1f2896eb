import Keyutils.Ops

/-!
# Managing a key request

`Key::manage` assumes the authority to answer the kernel's request for a key and returns a
`KeyManager`; `KeyManager::instantiate`, `reject` and `negate` take the manager by value and
issue the call that resolves the request. Taking `self` moves the manager, so one value resolves
at most once; but `KeyManager` derives `Clone`, and `manage` borrows its key, so a client can
hold any number of managers for one key.

A client run is a sequence of operations over the values the client holds (`Client.step`), each
run against a kernel of its own, so that the kernel may change between them. The managers a
client holds and the resolving calls it issued are conserved: each resolving call used up one
manager, and each manager came from `manage` or from a clone (`reachable_accounted`). So a key
is resolved at most as many times as managers of it were made (`resolutions_le_made`), and a
clone, or a second `manage`, resolves one key twice (`resolved_twice`).
-/

namespace Keyutils

/-- `KeyManager`. -/
structure KeyManager where
  key : Key
  deriving DecidableEq, Repr

/-- `KeyManager::new`. -/
def KeyManager.new (key : Key) : KeyManager := ⟨key⟩

/-- `Key::manage`. -/
def Key.manage (self : Key) : Sys KeyManager :=
  callChecked (.assumeAuthority self.id) fun _ => KeyManager.new (Key.new self.id)

/-- A call that resolves the request for the manager's key, made from its serial. -/
def KeyManager.resolve (self : KeyManager) (call : KeySerial → Syscall) : Sys Unit :=
  callChecked (call self.key.id) fun _ => ()

/-- `KeyManager::instantiate`. -/
def KeyManager.instantiate (self : KeyManager) (keyring : Keyring) (payload : List UInt8) :
    Sys Unit :=
  self.resolve fun id => .instantiate id payload keyring.id

/-- `KeyManager::reject`; `errval as u32` keeps the bits of the error. -/
def KeyManager.reject (self : KeyManager) (keyring : Keyring) (timeout : BitVec 32)
    (error : Errno) : Sys Unit :=
  self.resolve fun id => .reject id timeout error keyring.id

/-- `KeyManager::negate`. -/
def KeyManager.negate (self : KeyManager) (keyring : Keyring) (timeout : BitVec 32) : Sys Unit :=
  self.resolve fun id => .negate id timeout keyring.id

/-- The key whose request a call resolves: `keyctl_instantiate`, `keyctl_reject` and
`keyctl_negate`. -/
def Syscall.resolved : Syscall → Option KeySerial
  | .instantiate id _ _ | .reject id _ _ _ | .negate id _ _ => some id
  | _ => none

/-- The resolving calls for the key `id` among `calls`. -/
def resolutions (id : KeySerial) (calls : List Syscall) : Nat :=
  calls.countP fun s => s.resolved = some id

/-! ## One call -/

section Calls

variable (K : Kernel) (e : Errno)

@[simp] theorem run_manage (self : Key) :
    self.manage.run K e =
      if (K (.assumeAuthority self.id)).ret = -1 then .err (K (.assumeAuthority self.id)).errno
      else .ok ⟨self⟩ :=
  run_callChecked K e _ _

@[simp] theorem trace_manage (self : Key) : self.manage.trace K e = [.assumeAuthority self.id] :=
  trace_callChecked K e _ _

@[simp] theorem trace_resolve (self : KeyManager) (call : KeySerial → Syscall) :
    (self.resolve call).trace K e = [call self.key.id] :=
  trace_callChecked K e _ _

@[simp] theorem resolutions_nil (id : KeySerial) : resolutions id [] = 0 := rfl

@[simp] theorem resolutions_append (id : KeySerial) (xs ys : List Syscall) :
    resolutions id (xs ++ ys) = resolutions id xs + resolutions id ys :=
  List.countP_append _ _ _

@[simp] theorem resolutions_assumeAuthority (id k : KeySerial) :
    resolutions id [.assumeAuthority k] = 0 := rfl

end Calls

/-! ## Client runs -/

/-- A value of the API that a client holds. -/
inductive Held where
  | key (k : Key)
  | manager (m : KeyManager)
  deriving DecidableEq, Repr

/-- The serial of a held manager. -/
def Held.managed : Held → List KeySerial
  | .manager m => [m.key.id]
  | .key _ => []

/-- The serials of the managers among held values. -/
def managers (held : List Held) : List KeySerial := held.flatMap Held.managed

/-- A client: the values it holds, its thread's `errno`, the calls it has issued, and the
serials of the managers its operations made (by `manage` or by a clone). -/
structure Client where
  held : List Held
  errno : Errno
  issued : List Syscall
  made : List KeySerial

/-- A client that holds `held` and has done nothing yet. -/
def Client.start (held : List Held) : Client := ⟨held, 0, [], []⟩

/-- A public operation on the values at given positions of the client's holdings. -/
inductive Op where
  | manage (i : Nat)
  | clone (i : Nat)
  | instantiate (i : Nat) (keyring : Keyring) (payload : List UInt8)
  | reject (i : Nat) (keyring : Keyring) (timeout : BitVec 32) (error : Errno)
  | negate (i : Nat) (keyring : Keyring) (timeout : BitVec 32)

/-- `key.manage()` on a held key, which stays held; the manager it returns is kept. -/
def Client.manage (c : Client) (K : Kernel) (k : Key) : Client :=
  let made := match k.manage.run K c.errno with
    | .ok m => [m]
    | _ => []
  { held := c.held ++ made.map .manager, errno := k.manage.errnoAfter K c.errno,
    issued := c.issued ++ k.manage.trace K c.errno, made := c.made ++ made.map (·.key.id) }

/-- A call that takes the held manager at `i` by value: the manager moves out of the holdings. -/
def Client.consume (c : Client) (K : Kernel) (i : Nat) (call : KeyManager → Sys Unit) :
    Option Client :=
  match c.held[i]? with
  | some (.manager m) => some
    { c with
      held := c.held.eraseIdx i
      errno := (call m).errnoAfter K c.errno
      issued := c.issued ++ (call m).trace K c.errno }
  | _ => none

/-- The client after one operation against the kernel `K`; `none` when the value at the position
is not of the type the operation takes. -/
def Client.step (K : Kernel) (c : Client) : Op → Option Client
  | .manage i =>
    match c.held[i]? with
    | some (.key k) => some (c.manage K k)
    | _ => none
  | .clone i =>
    match c.held[i]? with
    | some v => some { c with held := c.held ++ [v], made := c.made ++ v.managed }
    | none => none
  | .instantiate i keyring payload => c.consume K i fun m => m.instantiate keyring payload
  | .reject i keyring timeout error => c.consume K i fun m => m.reject keyring timeout error
  | .negate i keyring timeout => c.consume K i fun m => m.negate keyring timeout

/-- The clients a run from `init` reaches, each operation against a kernel of its own. -/
inductive Reachable (init : Client) : Client → Prop
  | init : Reachable init init
  | step {c c' : Client} (K : Kernel) (op : Op) :
      Reachable init c → c.step K op = some c' → Reachable init c'

/-- A run of the operations `ops` in turn, each against the kernel `K`. -/
def Client.run (K : Kernel) (c : Client) : List Op → Option Client
  | [] => some c
  | op :: ops => (c.step K op).bind fun c' => c'.run K ops

theorem Reachable.run {init c c' : Client} {K : Kernel} {ops : List Op} (h : Reachable init c)
    (hrun : c.run K ops = some c') : Reachable init c' := by
  induction ops generalizing c with
  | nil => cases hrun; exact h
  | cons op ops ih =>
    obtain ⟨c1, h1, h2⟩ := Option.bind_eq_some.mp hrun
    exact ih (.step K op h h1) h2

/-- A kernel that accepts every call. -/
def acceptingKernel : Kernel := fun _ => ⟨0, 0, []⟩

/-- A client holding the key 5 manages it, clones the manager, and resolves the request with
each of the two managers. -/
def cloneRun : List Op := [.manage 0, .clone 1, .instantiate 1 ⟨1⟩ [], .negate 1 ⟨1⟩ 60]

/-! ## Conservation of managers -/

/-- The managers of the key `id` that a client has used up in a resolving call or still holds. -/
def Client.accounted (c : Client) (id : KeySerial) : Nat :=
  resolutions id c.issued + (managers c.held).count id

@[simp] theorem managers_append (xs ys : List Held) :
    managers (xs ++ ys) = managers xs ++ managers ys := List.flatMap_append _ _ _

theorem count_managers_eraseIdx {held : List Held} {i : Nat} {m : KeyManager}
    (h : held[i]? = some (.manager m)) (id : KeySerial) :
    (managers held).count id =
      (managers (held.eraseIdx i)).count id + if m.key.id = id then 1 else 0 := by
  obtain ⟨hi, hm⟩ := List.getElem?_eq_some_iff.mp h
  have hsplit : held = held.take i ++ .manager m :: held.drop (i + 1) := by
    rw [← hm, List.getElem_cons_drop, List.take_append_drop]
  rw [List.eraseIdx_eq_take_drop_succ]
  conv_lhs => rw [hsplit]
  simp only [managers, List.flatMap_append, List.flatMap_cons, Held.managed, List.count_append,
    List.singleton_append, List.count_cons, beq_iff_eq]
  omega

/-- A resolving call uses up the manager it consumes. -/
theorem consume_accounted {K : Kernel} {c c' : Client} {i : Nat} (call : KeySerial → Syscall)
    (hcall : ∀ id, (call id).resolved = some id)
    (h : c.consume K i (fun m => m.resolve call) = some c') (id : KeySerial) :
    c'.accounted id = c.accounted id ∧ c'.made = c.made := by
  unfold Client.consume at h
  split at h
  · rename_i m hm
    cases h
    have hres : resolutions id [call m.key.id] = if m.key.id = id then 1 else 0 := by
      simp only [resolutions, List.countP_cons, List.countP_nil, hcall, Option.some.injEq,
        decide_eq_true_eq, Nat.zero_add]
    simp only [Client.accounted, resolutions_append, trace_resolve, hres,
      count_managers_eraseIdx hm id, and_true]
    omega
  · cases h

/-- **One operation.** Each step adds to the managers used up or held exactly the managers it
made. -/
theorem step_accounted {K : Kernel} {c c' : Client} {op : Op} (h : c.step K op = some c')
    (id : KeySerial) : c'.accounted id + c.made.count id = c.accounted id + c'.made.count id := by
  cases op with
  | manage i =>
    simp only [Client.step] at h
    split at h
    · cases h
      simp only [Client.manage, Client.accounted, resolutions_append, trace_manage,
        resolutions_assumeAuthority, managers_append, List.count_append]
      split <;> simp [managers, Held.managed, List.count_singleton']
      omega
    · cases h
  | clone i =>
    simp only [Client.step] at h
    split at h
    · rename_i v _
      cases h
      simp only [Client.accounted, managers_append, List.count_append]
      cases v <;> simp [managers, Held.managed, List.count_singleton']
      omega
    · cases h
  | instantiate i keyring payload =>
    obtain ⟨ha, hm⟩ := consume_accounted (.instantiate · payload keyring.id) (fun _ => rfl) h id
    rw [ha, hm]
  | reject i keyring timeout error =>
    obtain ⟨ha, hm⟩ := consume_accounted (.reject · timeout error keyring.id) (fun _ => rfl) h id
    rw [ha, hm]
  | negate i keyring timeout =>
    obtain ⟨ha, hm⟩ := consume_accounted (.negate · timeout keyring.id) (fun _ => rfl) h id
    rw [ha, hm]

/-- **Managers are conserved.** Along every run, whatever each kernel answers, the resolving
calls issued for a key and the managers of it still held add up to the managers of it held at
the start and made since. -/
theorem reachable_accounted {init c : Client} (h : Reachable init c) (id : KeySerial) :
    c.accounted id + init.made.count id = init.accounted id + c.made.count id := by
  induction h with
  | init => rfl
  | step K op _ hstep ih =>
    have := step_accounted hstep id
    omega

/-- **No more resolutions than managers.** A run from a client that has done nothing yet
resolves a key at most as many times as it held managers of it at the start or made them. -/
theorem resolutions_le_made {held : List Held} {c : Client} (h : Reachable (Client.start held) c)
    (id : KeySerial) : resolutions id c.issued ≤ (managers held).count id + c.made.count id := by
  have := reachable_accounted h id
  simp only [Client.accounted, Client.start, resolutions_nil, List.count_nil] at this
  omega

theorem cloneRun_resolutions_le_made :
    ∃ c, Reachable (Client.start [.key (Key.new 5)]) c ∧ resolutions 5 c.issued ≤ 0 + 2 :=
  have h := Reachable.run .init (rfl : (Client.start [.key (Key.new 5)]).run acceptingKernel
    cloneRun = some _)
  ⟨_, h, resolutions_le_made h 5⟩

/-- **A key resolved twice.** The derived `Clone` of `KeyManager` lets a client that holds one
key resolve its request twice: `manage`, clone the manager, `instantiate` with one copy and
`negate` with the other. -/
theorem resolved_twice :
    ∃ c, Reachable (Client.start [.key (Key.new 5)]) c ∧ resolutions 5 c.issued = 2 :=
  ⟨_, Reachable.run .init (rfl : (Client.start [.key (Key.new 5)]).run acceptingKernel cloneRun =
    some _), rfl⟩

/-- `manage` borrows its key, so calling it twice also gives two managers. -/
example : ((Client.start [.key (Key.new 5)]).run acceptingKernel
    [.manage 0, .manage 0, .instantiate 1 ⟨1⟩ [], .negate 1 ⟨1⟩ 60]).map
      (fun c => resolutions 5 c.issued) = some 2 := rfl

end Keyutils
