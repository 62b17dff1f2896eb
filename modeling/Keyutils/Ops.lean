import Keyutils.Buffer

/-!
# Keyring and key operations

Most operations make one call and `check_call` its reply: `callChecked` for a call returning a
`c_long`, `callSerial` for one returning a `key_serial_t`, each source function being one of
them at its own call and value. `Key`'s attribute and lifetime operations delegate to the
`Keyring` operation on the same serial.

The operations that take text marshal it with `CString::new(..).unwrap()` (`cstring`) before
their call, so an interior NUL byte panics. `search_for_key` and the `request_*` family check the
reply twice, `check_call_ret` then `check_call`; the second check never fails
(`recheck_of_checked`).
-/

namespace Keyutils

/-! ## The shapes of a call -/

/-- One call, its reply `check_call`ed into a value made from the returned word. -/
def callChecked {α : Type} (s : Syscall) (value : CLong → α) : Sys α := do
  let r ← syscall s
  checkCall r.ret (value r.ret)

/-- One call returning a `key_serial_t`: `check_call(res as c_long, value(res))`. -/
def callSerial {α : Type} (s : Syscall) (value : KeySerial → α) : Sys α := do
  let r ← syscall s
  checkCall (r.serial.signExtend 64) (value r.serial)

/-- `CString::new(s).unwrap()` on a `&str`. -/
def cstring (s : String) : Sys CString := liftM (unwrap (CString.new (utf8 s)))

section Shapes

variable {α β : Type} (K : Kernel) (e : Errno) (s : Syscall)

@[simp] theorem run_callChecked (value : CLong → α) :
    (callChecked s value).run K e =
      if (K s).ret = -1 then .err (K s).errno else .ok (value (K s).ret) := by
  simp [callChecked]

@[simp] theorem trace_callChecked (value : CLong → α) : (callChecked s value).trace K e = [s] := by
  simp [callChecked]

@[simp] theorem run_callSerial (value : KeySerial → α) :
    (callSerial s value).run K e =
      if (K s).serial = -1 then .err (K s).errno else .ok (value (K s).serial) := by
  simp only [callSerial, Sys.run_bind, run_syscall, Outcome.ok_bind, errnoAfter_syscall,
    run_checkCall, signExtend_eq_neg_one_iff]

@[simp] theorem trace_callSerial (value : KeySerial → α) : (callSerial s value).trace K e = [s] := by
  simp [callSerial]

theorem callChecked_returns (value : CLong → α) : (callChecked s value).Returns :=
  Sys.returns_bind (returns_syscall s) fun _ => checkCall_returns _ _

theorem callSerial_returns (value : KeySerial → α) : (callSerial s value).Returns :=
  Sys.returns_bind (returns_syscall s) fun _ => checkCall_returns _ _

/-- Checking again a word that `check_call_ret` let through changes nothing: the two checks are
the one `check_call`. -/
theorem recheck_of_checked (res : CLong) (value : CLong → β) :
    checkCallRet res >>= (fun r => checkCall r (value r)) = checkCall res (value res) := by
  unfold checkCallRet checkCall
  split
  · rfl
  · exact if_neg ‹_›

/-- The same for `check_call_ret_serial` followed by `check_call` on the widened serial. -/
theorem recheck_of_checked_serial (res : KeySerial) (value : KeySerial → β) :
    checkCallRetSerial res >>= (fun r => checkCall (r.signExtend 64) (value r)) =
      checkCall (res.signExtend 64) (value res) := by
  unfold checkCallRetSerial checkCall
  simp only [signExtend_eq_neg_one_iff]
  split
  · rfl
  · exact if_neg ‹_›

/-- Marshalling a string aborts exactly when its bytes hold a NUL; past it, the program is
its continuation on the marshalled string. -/
theorem returns_cstring_bind {s : String} {f : CString → Sys β} :
    (cstring s >>= f).Returns ↔ ∃ h : 0 ∉ utf8 s, (f ⟨utf8 s, h⟩).Returns := by
  unfold cstring CString.new
  split
  · exact iff_of_false Sys.not_returns_panic fun ⟨h, _⟩ => h ‹_›
  · exact ⟨fun h => ⟨‹_›, h⟩, fun ⟨_, h⟩ => h⟩

end Shapes

/-! ## `Keyring` -/

/-- `Keyring::set_default`. `DefaultKeyring` belongs to the `constants` module, which is not
part of the source here: `serial` is its `serial()` and `ofSerial` its `from`, `none` where
`from` panics on a number it does not know. -/
def Keyring.setDefault {D : Type} (serial : D → BitVec 32) (ofSerial : BitVec 32 → Option D)
    (keyring : D) : Sys D := do
  let r ← syscall (.setReqkeyKeyring (serial keyring))
  let ret ← checkCallRet r.ret
  liftM (unwrap (ofSerial (ret.setWidth 32)))

/-- `Keyring::get_keyring`; the special keyring is given by its serial (`id.serial()`). -/
def Keyring.getKeyring (id : KeySerial) (create : Bool) : Sys Keyring :=
  callSerial (.getKeyringID id create) Keyring.new

/-- `Keyring::attach`. -/
def Keyring.attach (id : KeySerial) : Sys Keyring := Keyring.getKeyring id false

/-- `Keyring::attach_or_create`. -/
def Keyring.attachOrCreate (id : KeySerial) : Sys Keyring := Keyring.getKeyring id true

/-- `Keyring::join_anonymous_session`. -/
def Keyring.joinAnonymousSession : Sys Keyring := callSerial (.joinSessionKeyring none) Keyring.new

/-- `Keyring::join_session`. -/
def Keyring.joinSession (name : String) : Sys Keyring := do
  let nameCstr ← cstring name
  callSerial (.joinSessionKeyring (some nameCstr)) Keyring.new

/-- `Keyring::clear`. -/
def Keyring.clear (self : Keyring) : Sys Unit := callChecked (.clear self.id) fun _ => ()

/-- `Keyring::link_key`. -/
def Keyring.linkKey (self : Keyring) (key : Key) : Sys Unit :=
  callChecked (.link key.id self.id) fun _ => ()

/-- `Keyring::unlink_key`. -/
def Keyring.unlinkKey (self : Keyring) (key : Key) : Sys Unit :=
  callChecked (.unlink key.id self.id) fun _ => ()

/-- `Keyring::link_keyring`. -/
def Keyring.linkKeyring (self keyring : Keyring) : Sys Unit :=
  callChecked (.link keyring.id self.id) fun _ => ()

/-- `Keyring::unlink_keyring`. -/
def Keyring.unlinkKeyring (self keyring : Keyring) : Sys Unit :=
  callChecked (.unlink keyring.id self.id) fun _ => ()

/-- `Keyring::search_impl`. -/
def Keyring.searchImpl (self : Keyring) (type_ description : String) : Sys CLong := do
  let typeCstr ← cstring type_
  let descCstr ← cstring description
  let r ← syscall (.search self.id typeCstr descCstr self.id)
  checkCallRet r.ret

/-- `Keyring::search_for_key`. -/
def Keyring.searchForKey (self : Keyring) (description : String) : Sys Key := do
  let res ← self.searchImpl "user" description
  checkCall res (Key.new (res.setWidth 32))

/-- `Keyring::search_for_keyring`. -/
def Keyring.searchForKeyring (self : Keyring) (description : String) : Sys Keyring := do
  let res ← self.searchImpl "keyring" description
  checkCall res (Keyring.new (res.setWidth 32))

/-- `Keyring::attach_persistent`: `keyctl_get_persistent(!0, self.id)`. -/
def Keyring.attachPersistent (self : Keyring) : Sys Keyring :=
  callChecked (.getPersistent (~~~0) self.id) fun res => Keyring.new (res.setWidth 32)

/-- A key type (the `KeyType` trait): its name, and how a description and a payload are rendered
for the kernel. -/
structure KeyType where
  name : String
  Description : Type
  Payload : Type
  description : Description → String
  payload : Payload → List UInt8

/-- `Keyring::add_key_impl`. -/
def Keyring.addKeyImpl (self : Keyring) (kt : KeyType) (description : kt.Description)
    (payload : kt.Payload) : Sys Key := do
  let typeCstr ← cstring kt.name
  let descCstr ← cstring (kt.description description)
  let payload := kt.payload payload
  callSerial (.addKey typeCstr descCstr payload self.id) Key.new

/-- `Keyring::add_key` (its borrows are the values themselves here). -/
def Keyring.addKey (self : Keyring) (kt : KeyType) (description : kt.Description)
    (payload : kt.Payload) : Sys Key :=
  self.addKeyImpl kt description payload

/-- Modelled from the spec: `keytypes::Keyring`, which is not part of the source here, the
built-in key type named `keyring`; its description is the text itself and its payload `()` is
empty. -/
def keyringType : KeyType where
  name := "keyring"
  Description := String
  Payload := Unit
  description := fun d => d
  payload := fun _ => []

/-- `Keyring::add_keyring`. -/
def Keyring.addKeyring (self : Keyring) (description : String) : Sys Keyring := do
  let key ← self.addKey keyringType description ()
  pure (Keyring.new key.id)

/-- `Keyring::request_impl`. -/
def Keyring.requestImpl (self : Keyring) (type_ description : String) : Sys KeySerial := do
  let typeCstr ← cstring type_
  let descCstr ← cstring description
  let r ← syscall (.requestKey typeCstr descCstr none self.id)
  checkCallRetSerial r.serial

/-- `Keyring::request_key`. -/
def Keyring.requestKey (self : Keyring) (description : String) : Sys Key := do
  let res ← self.requestImpl "user" description
  checkCall (res.signExtend 64) (Key.new res)

/-- `Keyring::request_keyring`. -/
def Keyring.requestKeyring (self : Keyring) (description : String) : Sys Keyring := do
  let res ← self.requestImpl "keyring" description
  checkCall (res.signExtend 64) (Keyring.new res)

/-- `Keyring::request_fallback_impl`. -/
def Keyring.requestFallbackImpl (self : Keyring) (type_ description info : String) :
    Sys KeySerial := do
  let typeCstr ← cstring type_
  let descCstr ← cstring description
  let infoCstr ← cstring info
  let r ← syscall (.requestKey typeCstr descCstr (some infoCstr) self.id)
  checkCallRetSerial r.serial

/-- `Keyring::request_key_with_fallback`. -/
def Keyring.requestKeyWithFallback (self : Keyring) (description info : String) : Sys Key := do
  let res ← self.requestFallbackImpl "user" description info
  checkCall (res.signExtend 64) (Key.new res)

/-- `Keyring::request_keyring_with_fallback`. -/
def Keyring.requestKeyringWithFallback (self : Keyring) (description info : String) :
    Sys Keyring := do
  let res ← self.requestFallbackImpl "keyring" description info
  checkCall (res.signExtend 64) (Keyring.new res)

/-- `Keyring::request`. -/
def Keyring.request (description : String) : Sys Keyring :=
  (Keyring.new 0).requestKeyring description

/-- `Keyring::request_with_fallback`. -/
def Keyring.requestWithFallback (description info : String) : Sys Keyring :=
  (Keyring.new 0).requestKeyringWithFallback description info

/-- `Keyring::revoke`. -/
def Keyring.revoke (self : Keyring) : Sys Unit := callChecked (.revoke self.id) fun _ => ()

/-- `Keyring::chown`: `keyctl_chown(self.id, uid, !0)`. -/
def Keyring.chown (self : Keyring) (uid : BitVec 32) : Sys Unit :=
  callChecked (.chown self.id uid (~~~0)) fun _ => ()

/-- `Keyring::chgrp`: `keyctl_chown(self.id, !0, gid)`. -/
def Keyring.chgrp (self : Keyring) (gid : BitVec 32) : Sys Unit :=
  callChecked (.chown self.id (~~~0) gid) fun _ => ()

/-- `Keyring::set_permissions`. -/
def Keyring.setPermissions (self : Keyring) (perms : BitVec 32) : Sys Unit :=
  callChecked (.setperm self.id perms) fun _ => ()

/-- `Keyring::set_timeout`. -/
def Keyring.setTimeout (self : Keyring) (timeout : BitVec 32) : Sys Unit :=
  callChecked (.setTimeout self.id timeout) fun _ => ()

/-- `Keyring::invalidate`. -/
def Keyring.invalidate (self : Keyring) : Sys Unit :=
  callChecked (.invalidate self.id) fun _ => ()

/-! ## `Key` -/

/-- `KEY_SPEC_REQKEY_AUTH_KEY` of `libkeyutils` (not part of the source here): the kernel's
name for the authorisation key of the request being serviced. -/
def KEY_SPEC_REQKEY_AUTH_KEY : KeySerial := -7

/-- `Key::request_key_auth_key`: the serial of the authorisation key, by one
`keyctl_get_keyring_ID` call. (Its doc comment, copied from `Key::request`, speaks of a search
by description; the function takes none and searches nothing.) -/
def Key.requestKeyAuthKey (create : Bool) : Sys Key :=
  callSerial (.getKeyringID KEY_SPEC_REQKEY_AUTH_KEY create) Key.new

/-- `Key::request`. -/
def Key.request (description : String) : Sys Key := (Keyring.new 0).requestKey description

/-- `Key::request_with_fallback`. -/
def Key.requestWithFallback (description info : String) : Sys Key :=
  (Keyring.new 0).requestKeyWithFallback description info

/-- `Key::update`. -/
def Key.update (self : Key) (data : List UInt8) : Sys Unit :=
  callChecked (.update self.id data) fun _ => ()

/-- `Key::revoke`. -/
def Key.revoke (self : Key) : Sys Unit := (Keyring.new self.id).revoke

/-- `Key::chown`. -/
def Key.chown (self : Key) (uid : BitVec 32) : Sys Unit := (Keyring.new self.id).chown uid

/-- `Key::chgrp`. -/
def Key.chgrp (self : Key) (gid : BitVec 32) : Sys Unit := (Keyring.new self.id).chgrp gid

/-- `Key::set_permissions`. -/
def Key.setPermissions (self : Key) (perms : BitVec 32) : Sys Unit :=
  (Keyring.new self.id).setPermissions perms

/-- `Key::set_timeout`. -/
def Key.setTimeout (self : Key) (timeout : BitVec 32) : Sys Unit :=
  (Keyring.new self.id).setTimeout timeout

/-- `Key::security`. -/
def Key.security (self : Key) : Sys String := (Keyring.new self.id).security

/-- `Key::invalidate`. -/
def Key.invalidate (self : Key) : Sys Unit := (Keyring.new self.id).invalidate

/-- **The second check is redundant.** `search_for_key`, `request_key` and their siblings check
the kernel's answer with `check_call_ret` and check the result again with `check_call`; each is
the program that marshals its strings and makes the one checked call. -/
theorem doubleCheck_eq :
    (∀ (self : Keyring) d, self.searchForKey d = (do
      let typeCstr ← cstring "user"
      let descCstr ← cstring d
      callChecked (.search self.id typeCstr descCstr self.id) fun res => Key.new (res.setWidth 32))) ∧
    (∀ (self : Keyring) d, self.searchForKeyring d = (do
      let typeCstr ← cstring "keyring"
      let descCstr ← cstring d
      callChecked (.search self.id typeCstr descCstr self.id) fun res =>
        Keyring.new (res.setWidth 32))) ∧
    (∀ (self : Keyring) d, self.requestKey d = (do
      let typeCstr ← cstring "user"
      let descCstr ← cstring d
      callSerial (.requestKey typeCstr descCstr none self.id) Key.new)) ∧
    (∀ (self : Keyring) d, self.requestKeyring d = (do
      let typeCstr ← cstring "keyring"
      let descCstr ← cstring d
      callSerial (.requestKey typeCstr descCstr none self.id) Keyring.new)) ∧
    (∀ (self : Keyring) d info, self.requestKeyWithFallback d info = (do
      let typeCstr ← cstring "user"
      let descCstr ← cstring d
      let infoCstr ← cstring info
      callSerial (.requestKey typeCstr descCstr (some infoCstr) self.id) Key.new)) ∧
    (∀ (self : Keyring) d info, self.requestKeyringWithFallback d info = (do
      let typeCstr ← cstring "keyring"
      let descCstr ← cstring d
      let infoCstr ← cstring info
      callSerial (.requestKey typeCstr descCstr (some infoCstr) self.id) Keyring.new)) := by
  refine ⟨fun _ _ => ?_, fun _ _ => ?_, fun _ _ => ?_, fun _ _ => ?_, fun _ _ _ => ?_,
    fun _ _ _ => ?_⟩ <;>
  simp only [Keyring.searchForKey, Keyring.searchForKeyring, Keyring.searchImpl,
    Keyring.requestKey, Keyring.requestKeyring, Keyring.requestImpl,
    Keyring.requestKeyWithFallback, Keyring.requestKeyringWithFallback,
    Keyring.requestFallbackImpl, Sys.bind_assoc, recheck_of_checked, recheck_of_checked_serial,
    callChecked, callSerial, Reply.serial]

/-! ## Marshalling -/

section Marshalling

variable {β : Type}

theorem returns_cstring_bind_iff {s : String} {f : CString → Sys β} (hf : ∀ c, (f c).Returns) :
    (cstring s >>= f).Returns ↔ 0 ∉ utf8 s := by
  simp only [returns_cstring_bind, hf, exists_prop, and_true]

theorem returns_two_cstrings {s t : String} {f : CString → CString → Sys β}
    (hf : ∀ c d, (f c d).Returns) :
    (cstring s >>= fun c => cstring t >>= f c).Returns ↔ 0 ∉ utf8 s ∧ 0 ∉ utf8 t := by
  simp only [returns_cstring_bind, returns_cstring_bind_iff (hf _), exists_prop]

/-- A string with a NUL panics at its marshalling: the program is that panic, and issues no
call. -/
theorem cstring_bind_of_mem {s : String} {f : CString → Sys β} (h : 0 ∈ utf8 s) :
    cstring s >>= f = .done .panic := by
  simp [cstring, CString.new, h, unwrap]

/-- A `check_call` after a program adds no abort. -/
theorem returns_bind_check {α : Type} {p : Sys α} {v : α → CLong} {f : α → β} :
    (p >>= fun a => checkCall (v a) (f a)).Returns ↔ p.Returns :=
  Sys.returns_bind_iff fun _ => checkCall_returns _ _

theorem utf8_user_no_nul : 0 ∉ utf8 "user" := by decide

theorem utf8_keyring_no_nul : 0 ∉ utf8 "keyring" := by decide

theorem Keyring.searchImpl_returns_iff (self : Keyring) (type_ description : String) :
    (self.searchImpl type_ description).Returns ↔ 0 ∉ utf8 type_ ∧ 0 ∉ utf8 description :=
  returns_two_cstrings fun _ _ => Sys.returns_bind (returns_syscall _) fun _ => checkCall_returns _ _

theorem Keyring.requestImpl_returns_iff (self : Keyring) (type_ description : String) :
    (self.requestImpl type_ description).Returns ↔ 0 ∉ utf8 type_ ∧ 0 ∉ utf8 description :=
  returns_two_cstrings fun _ _ =>
    Sys.returns_bind (returns_syscall _) fun _ => checkCallRetSerial_returns _

theorem Keyring.requestFallbackImpl_returns_iff (self : Keyring) (type_ description info : String) :
    (self.requestFallbackImpl type_ description info).Returns ↔
      0 ∉ utf8 type_ ∧ 0 ∉ utf8 description ∧ 0 ∉ utf8 info := by
  rw [Keyring.requestFallbackImpl, returns_cstring_bind]
  simp only [returns_two_cstrings fun _ _ =>
    Sys.returns_bind (returns_syscall _) fun _ => checkCallRetSerial_returns _, exists_prop]

theorem Keyring.addKey_returns_iff (self : Keyring) (kt : KeyType) (description : kt.Description)
    (payload : kt.Payload) :
    (self.addKey kt description payload).Returns ↔
      0 ∉ utf8 kt.name ∧ 0 ∉ utf8 (kt.description description) :=
  returns_two_cstrings fun _ _ => callSerial_returns _ _

/-- **Marshalling aborts exactly on a NUL.** Each operation that hands text to the kernel
returns `Ok` or `Err` against every kernel exactly when the strings it marshals hold no NUL
byte: the session name, the description, the fallback information, and for `add_key` the key
type's name and the description the key type renders. -/
theorem returns_iff_no_nul :
    (∀ name, (Keyring.joinSession name).Returns ↔ 0 ∉ utf8 name) ∧
    (∀ (self : Keyring) d, (self.searchForKey d).Returns ↔ 0 ∉ utf8 d) ∧
    (∀ (self : Keyring) d, (self.searchForKeyring d).Returns ↔ 0 ∉ utf8 d) ∧
    (∀ (self : Keyring) d, (self.requestKey d).Returns ↔ 0 ∉ utf8 d) ∧
    (∀ (self : Keyring) d, (self.requestKeyring d).Returns ↔ 0 ∉ utf8 d) ∧
    (∀ (self : Keyring) d info,
      (self.requestKeyWithFallback d info).Returns ↔ 0 ∉ utf8 d ∧ 0 ∉ utf8 info) ∧
    (∀ (self : Keyring) d info,
      (self.requestKeyringWithFallback d info).Returns ↔ 0 ∉ utf8 d ∧ 0 ∉ utf8 info) ∧
    (∀ d, (Keyring.request d).Returns ↔ 0 ∉ utf8 d) ∧
    (∀ d info, (Keyring.requestWithFallback d info).Returns ↔ 0 ∉ utf8 d ∧ 0 ∉ utf8 info) ∧
    (∀ d, (Key.request d).Returns ↔ 0 ∉ utf8 d) ∧
    (∀ d info, (Key.requestWithFallback d info).Returns ↔ 0 ∉ utf8 d ∧ 0 ∉ utf8 info) ∧
    (∀ (self : Keyring) (kt : KeyType) d p,
      (self.addKey kt d p).Returns ↔ 0 ∉ utf8 kt.name ∧ 0 ∉ utf8 (kt.description d)) ∧
    (∀ (self : Keyring) d, (self.addKeyring d).Returns ↔ 0 ∉ utf8 d) := by
  have search (self : Keyring) {t : String} (ht : 0 ∉ utf8 t) (d : String) {α : Type}
      {f : CLong → α} : (self.searchImpl t d >>= fun a => checkCall a (f a)).Returns ↔ 0 ∉ utf8 d :=
    returns_bind_check.trans ((self.searchImpl_returns_iff t d).trans (and_iff_right ht))
  have request (self : Keyring) {t : String} (ht : 0 ∉ utf8 t) (d : String) {α : Type}
      {f : KeySerial → α} :
      (self.requestImpl t d >>= fun a => checkCall (a.signExtend 64) (f a)).Returns ↔
        0 ∉ utf8 d :=
    returns_bind_check.trans ((self.requestImpl_returns_iff t d).trans (and_iff_right ht))
  have fallback (self : Keyring) {t : String} (ht : 0 ∉ utf8 t) (d info : String) {α : Type}
      {f : KeySerial → α} :
      (self.requestFallbackImpl t d info >>= fun a => checkCall (a.signExtend 64) (f a)).Returns ↔
        0 ∉ utf8 d ∧ 0 ∉ utf8 info :=
    returns_bind_check.trans
      ((self.requestFallbackImpl_returns_iff t d info).trans (and_iff_right ht))
  exact ⟨fun _ => returns_cstring_bind_iff fun _ => callSerial_returns _ _,
    fun self d => search self utf8_user_no_nul d, fun self d => search self utf8_keyring_no_nul d,
    fun self d => request self utf8_user_no_nul d, fun self d => request self utf8_keyring_no_nul d,
    fun self d i => fallback self utf8_user_no_nul d i,
    fun self d i => fallback self utf8_keyring_no_nul d i,
    fun d => request _ utf8_keyring_no_nul d, fun d i => fallback _ utf8_keyring_no_nul d i,
    fun d => request _ utf8_user_no_nul d, fun d i => fallback _ utf8_user_no_nul d i,
    Keyring.addKey_returns_iff,
    fun self d => (Sys.returns_bind_iff fun _ => Sys.returns_done_ok _).trans
      ((self.addKey_returns_iff keyringType d ()).trans (and_iff_right utf8_keyring_no_nul))⟩

/-- `join_session` on a name with a NUL is a panic, before any call. -/
theorem joinSession_nul_panics : Keyring.joinSession "a\x00b" = .done .panic :=
  cstring_bind_of_mem (by decide)

end Marshalling

end Keyutils
