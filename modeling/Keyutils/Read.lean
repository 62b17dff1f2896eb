import Keyutils.Buffer
import Keyutils.Description
import Keyutils.Utf8

/-!
# Describing a key and listing a keyring

`Keyring::description` parses the record `description_raw` reads, an unparsable record being
`Err(EINVAL)`. `Keyring::read` reads the keyring's children and partitions them by the type
their description reports, with `key.description().unwrap()` inside the partition: the lookups
are calls in their own right, issued one child after another (`partitionM`).

When every lookup succeeds, `read` returns the children split by type, each list in the
kernel's order (`Keyring.read_partition`). When one fails with an error, the `unwrap` aborts the
whole listing instead of returning the error (`Keyring.read_aborts_of_lookup_err`); a listing
that returns `Err` has failed at the read itself (`Keyring.read_err_iff`). The calls a listing
makes are the read's and one lookup per child, in order, up to the first that fails
(`Keyring.trace_read`).

A record the kernel reports whole, at one size at both calls, reaches the parser as the string
the kernel wrote (`Keyring.description_of_record`, through the UTF-8 round trip): what
`description` returns is then exactly what `Description::parse` makes of that record. The
security label is read the same way but keeps the kernel's terminating NUL
(`Keyring.security_of_label`). A record that is not UTF-8 makes the lookup panic, and with it
the listing of every keyring holding the key (`Keyring.read_aborts_of_not_utf8`).
-/

namespace Keyutils

/-- `Option::ok_or`. -/
def okOr {α : Type} (o : Option α) (err : Errno) : Outcome α :=
  match o with
  | some a => .ok a
  | none => .err err

/-- `Keyring::description`. -/
def Keyring.description (self : Keyring) : Sys Description := do
  let desc ← self.descriptionRaw
  let parsed ← liftM (Description.parse desc)
  liftM (okOr parsed EINVAL)

/-- `Key::description`. -/
def Key.description (self : Key) : Sys Description := (Keyring.new self.id).description

/-- `Iterator::partition` with a predicate that issues calls: the elements in order, into those
the predicate holds of and those it does not. -/
def partitionM {α : Type} (p : α → Sys Bool) : List α → Sys (List α × List α)
  | [] => pure ([], [])
  | a :: as => do
    let b ← p a
    let rest ← partitionM p as
    pure (if b then (a :: rest.1, rest.2) else (rest.1, a :: rest.2))

/-- Whether a child is a keyring: `key.description().unwrap().type_ == "keyring"`. -/
def isKeyring (key : Key) : Sys Bool := do
  let d ← key.description.unwrap
  pure (d.type_ == "keyring")

/-- `Keyring::read`. -/
def Keyring.read (self : Keyring) : Sys (List Key × List Keyring) := do
  let buffer ← self.readBuffer
  let keys ← partitionM isKeyring (buffer.elems.map Key.new)
  pure (keys.2, keys.1.map fun key => Keyring.new key.id)

/-! ## The queries after their object grew -/

section Grown

variable {K : Kernel} {e : Errno} {sz a : CLong}

/-- **The five queries after their object grew.** For every kernel whose size probe answers
`sz ≥ 0` and whose fill then answers a larger size `a`, each query calls `set_len` past the
capacity it allocated from `sz`: `Keyring::read` once `a` holds a whole serial more,
`description_raw` once `a - 1` is past `sz` (also at `a = 0`, where `actual_sz - 1` wraps), the
byte queries as soon as `a > sz`. -/
theorem queries_undefined_of_grown (hnn : sz.toNat < 2 ^ 63) (ha1 : a ≠ -1) :
    (∀ self : Keyring, (K (.read self.id none 0)).ret = sz →
      (K (.read self.id (some (sz.toNat / 4 * 4)) sz.toNat)).ret = a →
      sz.toNat / 4 < a.toNat / 4 → self.read.run K e = .undefined) ∧
    (∀ self : Keyring, (K (.describe self.id none 0)).ret = sz →
      (K (.describe self.id (some sz.toNat) sz.toNat)).ret = a →
      sz.toNat < (a - 1).toNat → self.description.run K e = .undefined) ∧
    (∀ self : Keyring, (K (.getSecurity self.id none 0)).ret = sz →
      (K (.getSecurity self.id (some sz.toNat) sz.toNat)).ret = a →
      sz.toNat < a.toNat → self.security.run K e = .undefined) ∧
    (∀ self : Key, (K (.read self.id none 0)).ret = sz →
      (K (.read self.id (some sz.toNat) sz.toNat)).ret = a →
      sz.toNat < a.toNat → self.read.run K e = .undefined) ∧
    (∀ priv prime base : Key, (K (.dhCompute priv.id prime.id base.id none 0)).ret = sz →
      (K (.dhCompute priv.id prime.id base.id (some sz.toNat) sz.toNat)).ret = a →
      sz.toNat < a.toNat → (Key.computeDh priv prime base).run K e = .undefined) := by
  have hsz1 := ne_neg_one_of_toNat_lt hnn
  have hbyte : sz.toNat * 1 < 2 ^ 63 := by simpa using hnn
  refine ⟨fun self hsz ha hlen => ?_, fun self hsz ha hlen => ?_, fun self hsz ha hlen => ?_,
    fun self hsz ha hlen => byteQuery_undefined_of_grown hsz hnn ha ha1 hlen,
    fun priv prime base hsz ha hlen => byteQuery_undefined_of_grown hsz hnn ha ha1 hlen⟩
  · have hbuf := sizeThenFill_undefined (e := e) _ 4 serialsOfBytes (fun sz => sz.toNat / 4)
      (fun a => a.toNat / 4) hsz hsz1 (show sz.toNat / 4 * 4 < 2 ^ 63 by omega) ha ha1 hlen
    simp only [Keyring.read, Keyring.readBuffer, Sys.run_bind, hbuf, Outcome.undefined_bind]
  · have hbuf := sizeThenFill_undefined (e := e) _ 1 (fun bytes => bytes) (·.toNat)
      (fun a => (a - 1).toNat) hsz hsz1 hbyte (by simpa using ha) ha1 hlen
    simp only [Keyring.description, Keyring.descriptionRaw, Sys.run_bind, hbuf,
      Outcome.undefined_bind]
  · have hbuf := sizeThenFill_undefined (e := e) _ 1 (fun bytes => bytes) (·.toNat) (·.toNat)
      hsz hsz1 hbyte (by simpa using ha) ha1 hlen
    simp only [Keyring.security, Sys.run_bind, hbuf, Outcome.undefined_bind]

/-- A kernel in which a key is linked into keyring 1 and its description cleared between the
probe and the fill: each size grows from 4 to 8, or drops to 0. -/
def growingKernel : Kernel
  | .read _ none _ => ⟨4, 0, []⟩
  | .describe _ none _ => ⟨4, 0, []⟩
  | .describe _ (some _) _ => ⟨0, 0, []⟩
  | _ => ⟨8, 0, []⟩

theorem growingKernel_undefined :
    (Keyring.new 1).read.run growingKernel 0 = .undefined ∧
    (Keyring.new 1).description.run growingKernel 0 = .undefined ∧
    (Key.new 1).read.run growingKernel 0 = .undefined :=
  have h8 := @queries_undefined_of_grown growingKernel 0 4 8 (by decide) (by decide)
  have h0 := @queries_undefined_of_grown growingKernel 0 4 0 (by decide) (by decide)
  ⟨h8.1 _ rfl rfl (by decide), h0.2.1 _ rfl rfl (by decide), h8.2.2.2.1 _ rfl rfl (by decide)⟩

end Grown

/-! ## The partition -/

section Partition

variable {α : Type} (p : α → Sys Bool) (K : Kernel)

theorem run_partitionM_of_ok {as : List α} {b : α → Bool}
    (hb : ∀ a ∈ as, ∀ e, (p a).run K e = .ok (b a)) (e : Errno) :
    (partitionM p as).run K e = .ok (as.filter b, as.filter fun a => !b a) := by
  induction as generalizing e with
  | nil => rfl
  | cons a as ih =>
    simp only [partitionM, Sys.run_bind, hb a (.head _), Outcome.ok_bind,
      ih (fun a h => hb a (.tail _ h)), Sys.pure_eq, Sys.run_done]
    cases h : b a <;> simp [List.filter_cons, h]

/-- A predicate that never returns `Err` and aborts at one element aborts the partition. -/
theorem partitionM_not_returned {as : List α} {a : α} (ha : a ∈ as)
    (hnerr : ∀ x ∈ as, ∀ e err, (p x).run K e ≠ .err err)
    (habort : ∀ e, ¬ ((p a).run K e).Returned) (e : Errno) :
    ¬ ((partitionM p as).run K e).Returned := by
  induction as generalizing e with
  | nil => cases ha
  | cons x xs ih =>
    simp only [partitionM, Sys.run_bind]
    cases hx : (p x).run K e with
    | ok b =>
      have hxs : a ∈ xs := by
        rcases List.mem_cons.mp ha with rfl | h
        · exact absurd (hx ▸ trivial) (habort e)
        · exact h
      exact fun h => ih hxs (fun y hy => hnerr y (.tail _ hy)) _ (Outcome.returned_of_bind h)
    | err err => exact absurd hx (hnerr x (.head _) e err)
    | panic | undefined => exact id

theorem partitionM_ne_err {as : List α} (hnerr : ∀ x ∈ as, ∀ e err, (p x).run K e ≠ .err err)
    (e err : Errno) : (partitionM p as).run K e ≠ .err err := by
  induction as generalizing e err with
  | nil => simp [partitionM]
  | cons x xs ih =>
    simp only [partitionM, Sys.run_bind]
    cases hx : (p x).run K e with
    | ok b =>
      simp only [Outcome.ok_bind, Sys.run_bind]
      cases h : (partitionM p xs).run K _ with
      | ok r => simp
      | err err' => exact absurd h (ih (fun y hy => hnerr y (.tail _ hy)) _ _)
      | panic | undefined => simp
    | err err' => exact absurd hx (hnerr x (.head _) e err')
    | panic | undefined => simp

/-- The elements a loop over `as` runs `f` on when it stops at the first that does not return
`Ok`: in order, up to and including that one. -/
def runPrefix {β : Type} (f : α → Sys β) (e : Errno) (as : List α) : List α :=
  as.takeWhile (fun a => ((f a).run K e).isOk) ++
    (as.dropWhile fun a => ((f a).run K e).isOk).take 1

/-- The calls of the partition, for a predicate whose calls do not depend on the `errno` before
it: the predicate's calls on each element in turn, up to and including the first element at
which it does not return `Ok`. -/
theorem trace_partitionM (hrun : ∀ a e e', (p a).run K e = (p a).run K e')
    (htrace : ∀ a e e', (p a).trace K e = (p a).trace K e') :
    ∀ (as : List α) (e e0 : Errno), (partitionM p as).trace K e =
      (runPrefix K p e0 as).flatMap fun a => (p a).trace K e0
  | [], _, _ => rfl
  | a :: as, e, e0 => by
    rw [partitionM, Sys.trace_bind, hrun a e e0, htrace a e e0]
    cases h : (p a).run K e0 with
    | ok b =>
      simp only [Sys.trace_bind_pure, trace_partitionM hrun htrace as _ e0, runPrefix,
        List.takeWhile_cons, List.dropWhile_cons, h, Outcome.isOk, if_true, List.cons_append,
        List.flatMap_cons]
    | err _ | panic | undefined =>
      simp [runPrefix, List.takeWhile_cons, List.dropWhile_cons, h, Outcome.isOk]

end Partition

/-! ## Listing a keyring -/

section Read

variable (K : Kernel) (e : Errno)

/-- The lookup starts with a call, so its outcome does not depend on the `errno` before it. -/
theorem Key.run_description_errno (self : Key) (e' : Errno) :
    self.description.run K e = self.description.run K e' := rfl

theorem run_isKeyring_of_ok {key : Key} {d : Description} (h : key.description.run K e = .ok d)
    (e' : Errno) : (isKeyring key).run K e' = .ok (d.type_ == "keyring") := by
  simp [isKeyring, Key.run_description_errno K e' key e, h]

theorem run_isKeyring_of_err {key : Key} {err : Errno} (h : key.description.run K e = .err err)
    (e' : Errno) : ¬ ((isKeyring key).run K e').Returned := by
  simp [isKeyring, Key.run_description_errno K e' key e, h]

theorem run_isKeyring_ne_err (key : Key) (e' err : Errno) :
    (isKeyring key).run K e' ≠ .err err := by
  simp only [isKeyring, Sys.run_bind, Sys.run_unwrap]
  cases key.description.run K e' <;> simp

theorem isOk_run_isKeyring (key : Key) :
    ((isKeyring key).run K e).isOk = (key.description.run K e).isOk := by
  simp only [isKeyring, Sys.run_bind, Sys.run_unwrap]
  cases key.description.run K e <;> rfl

theorem trace_isKeyring (key : Key) : (isKeyring key).trace K e = key.description.trace K e := by
  simp only [isKeyring, Sys.trace_bind_pure, Sys.trace_unwrap]

variable {K e} (self : Keyring) {buffer : Vec KeySerial}

/-- **Listing a keyring.** When the read returns the serials `buffer` and the description of
every child reads back, `read` returns the children that are not keyrings and those that are,
each in the kernel's order. -/
theorem Keyring.read_partition (hbuf : self.readBuffer.run K e = .ok buffer)
    (desc : KeySerial → Description)
    (hdesc : ∀ id ∈ buffer.elems, (Key.new id).description.run K e = .ok (desc id)) :
    self.read.run K e = .ok
      ((buffer.elems.filter fun id => !((desc id).type_ == "keyring")).map Key.new,
        (buffer.elems.filter fun id => (desc id).type_ == "keyring").map Keyring.new) := by
  have hb : ∀ key ∈ buffer.elems.map Key.new, ∀ e',
      (isKeyring key).run K e' = .ok ((desc key.id).type_ == "keyring") := by
    rintro _ hk e'
    obtain ⟨id, hid, rfl⟩ := List.mem_map.mp hk
    exact run_isKeyring_of_ok K e (hdesc id hid) e'
  simp only [Keyring.read, Sys.run_bind, hbuf, Outcome.ok_bind, run_partitionM_of_ok _ K hb,
    Sys.pure_eq, Sys.run_done, List.filter_map, List.map_map]
  rfl

/-- A kernel in which keyring 1 holds the user key 5 and the keyring 6. -/
def listingKernel : Kernel
  | .read _ _ _ => ⟨8, 0, [5, 0, 0, 0, 6, 0, 0, 0]⟩
  | .describe id _ _ =>
    let s := if id = 5 then "user;0;0;3f010000;a" else "keyring;0;0;3f030000;b"
    ⟨BitVec.ofNat 64 ((utf8 s).length + 1), 0, utf8 s ++ [0]⟩
  | _ => ⟨-1, 22, []⟩

/-- The descriptions `listingKernel` gives. -/
def listingDesc (id : KeySerial) : Description :=
  if id = 5 then ⟨"user", 0, 0, 0x3f010000, "a"⟩ else ⟨"keyring", 0, 0, 0x3f030000, "b"⟩

theorem listingKernel_read :
    (Keyring.new 1).read.run listingKernel 0 = .ok ([Key.new 5], [Keyring.new 6]) :=
  @Keyring.read_partition listingKernel 0 (Keyring.new 1) ⟨2, [5, 6], by decide⟩ rfl listingDesc
    fun id hid => by
      rcases List.mem_pair.mp hid with rfl | rfl <;> rfl

/-- **A failed lookup aborts the listing.** When the description of one child fails with an
error (a child the caller may not view, one revoked or unlinked since the read, a record of
fewer than five fields), `read` neither returns the lists nor passes the error on: the `unwrap`
in the partition aborts. -/
theorem Keyring.read_aborts_of_lookup_err (hbuf : self.readBuffer.run K e = .ok buffer)
    {id : KeySerial} (hmem : id ∈ buffer.elems) {err : Errno}
    (herr : (Key.new id).description.run K e = .err err) :
    ¬ (self.read.run K e).Returned := by
  simp only [Keyring.read, Sys.run_bind, hbuf, Outcome.ok_bind]
  exact fun h => partitionM_not_returned isKeyring K (List.mem_map_of_mem Key.new hmem)
    (fun x _ => run_isKeyring_ne_err K x) (run_isKeyring_of_err K e herr) _
    (Outcome.returned_of_bind h)

/-- A kernel in which keyring 1 holds the key 5, which the caller may not view (`EACCES`). -/
def hiddenChildKernel : Kernel
  | .read _ _ _ => ⟨4, 0, [5, 0, 0, 0]⟩
  | _ => ⟨-1, 13, []⟩

theorem hiddenChildKernel_read_aborts :
    ¬ ((Keyring.new 1).read.run hiddenChildKernel 0).Returned :=
  @Keyring.read_aborts_of_lookup_err hiddenChildKernel 0 (Keyring.new 1) ⟨1, [5], by decide⟩ rfl
    5 (List.mem_singleton_self 5) 13 rfl

/-- `read` returns an error only when the read of the keyring itself failed with it. -/
theorem Keyring.read_err_iff (err : Errno) :
    self.read.run K e = .err err ↔ self.readBuffer.run K e = .err err := by
  simp only [Keyring.read, Sys.run_bind]
  cases self.readBuffer.run K e with
  | ok buffer =>
    simp only [Outcome.ok_bind, reduceCtorEq, iff_false]
    have hne := @partitionM_ne_err Key isKeyring K (buffer.elems.map Key.new)
      fun x _ => run_isKeyring_ne_err K x
    cases h : (partitionM isKeyring (buffer.elems.map Key.new)).run K _ with
    | err err' => exact absurd h (hne _ _)
    | ok _ | panic | undefined => simp
  | err e' => simp
  | panic | undefined => simp

/-- **The calls of a listing.** `read` issues the calls of the keyring's read and then, for the
children in the kernel's order, the calls of one description lookup each, up to and including
the first lookup that fails, and nothing else. A read that fails looks no child up. -/
theorem Keyring.trace_read (self : Keyring) :
    self.read.trace K e = self.readBuffer.trace K e ++ match self.readBuffer.run K e with
      | .ok buffer => (runPrefix K Key.description e (buffer.elems.map Key.new)).flatMap
          fun key => key.description.trace K e
      | _ => [] := by
  rw [Keyring.read, Sys.trace_bind]
  cases self.readBuffer.run K e with
  | ok buffer =>
    simp only [Sys.trace_bind_pure,
      trace_partitionM isKeyring K (fun _ _ _ => rfl) (fun _ _ _ => rfl) _ _ e, runPrefix,
      isOk_run_isKeyring, trace_isKeyring]
  | err _ | panic | undefined => rfl

/-- Listing keyring 1 of `listingKernel` makes its two reads and two lookups of two calls each;
in `hiddenChildKernel` the one lookup fails at its first call, and the listing stops there. -/
example : ((Keyring.new 1).read.trace listingKernel 0).length = 6 ∧
    ((Keyring.new 1).read.trace hiddenChildKernel 0).length = 3 := by decide

end Read

/-! ## The strings the kernel reports -/

theorem sub_one_toNat {x : CLong} (h : 0 < x.toNat) : (x - 1).toNat = x.toNat - 1 :=
  BitVec.toNat_sub_of_le (BitVec.le_def.mpr h)

/-- The record's bytes, reported with their NUL at one size at both calls, reach
`str::from_utf8` whole. -/
theorem Keyring.run_description_of_bytes (self : Keyring) {K : Kernel} {e : Errno} {sz : CLong}
    (bytes : List UInt8) (hsz : (K (.describe self.id none 0)).ret = sz)
    (hlen : sz.toNat = bytes.length + 1) (hnn : sz.toNat < 2 ^ 63)
    (ha : (K (.describe self.id (some sz.toNat) sz.toNat)).ret = sz)
    (hdata : (K (.describe self.id (some sz.toNat) sz.toNat)).data = bytes ++ [0]) :
    self.description.run K e = (unwrap (fromUtf8 bytes) >>= fun s =>
      Description.parse s >>= fun parsed => okOr parsed EINVAL) := by
  have h1 : (sz - 1).toNat = bytes.length := by rw [sub_one_toNat (by omega), hlen]; rfl
  have hbytes : (bytes ++ [0]).take sz.toNat = bytes ++ [0] :=
    List.take_of_length_le (by simp [hlen])
  obtain ⟨v, hv, -, helems⟩ := sizeThenFill_of_fits (K := K) (e := e) (.describe self.id) 1
    (fun bytes => bytes) (·.toNat) (fun a => (a - 1).toNat) hsz (ne_neg_one_of_toNat_lt hnn)
    (by simpa using hnn) (by simpa using ha) (ne_neg_one_of_toNat_lt hnn)
    (by simp only [Nat.mul_one, hdata, hbytes]; simp [hlen])
    (by show (sz - 1).toNat ≤ sz.toNat; omega)
    (by simp only [Nat.mul_one, hdata, hbytes, h1, List.length_append]; omega)
  simp only [Nat.mul_one, hdata, hbytes, h1, List.take_left] at helems
  simp only [Keyring.description, Keyring.descriptionRaw, Sys.run_bind, hv, Outcome.ok_bind,
    Sys.liftM_eq, Sys.run_done, helems]

/-- **A whole record reaches the parser.** When the kernel reports the record `s` with its NUL,
at the same size at the probe and the fill, `Keyring::description` returns what
`Description::parse` makes of `s`. Like the model, this assumes that the allocator finds the
memory for that size (`Vec::with_capacity` aborts when it cannot). -/
theorem Keyring.description_of_record (self : Keyring) {K : Kernel} {e : Errno} {sz : CLong}
    (s : String) (hsz : (K (.describe self.id none 0)).ret = sz)
    (hlen : sz.toNat = (utf8 s).length + 1) (hnn : sz.toNat < 2 ^ 63)
    (ha : (K (.describe self.id (some sz.toNat) sz.toNat)).ret = sz)
    (hdata : (K (.describe self.id (some sz.toNat) sz.toNat)).data = utf8 s ++ [0]) :
    self.description.run K e = (Description.parse s >>= fun parsed => okOr parsed EINVAL) := by
  rw [self.run_description_of_bytes (utf8 s) hsz hlen hnn ha hdata, fromUtf8_utf8]; rfl

/-- A kernel in which key 5 is a user key of uid 1000 described as `keyring;0;0;3f3f0000;x`. -/
def forgedKernel : Kernel
  | .describe _ _ _ =>
    let s := describeRecord "user" 1000 1000 0x3f010000 "keyring;0;0;3f3f0000;x"
    ⟨BitVec.ofNat 64 ((utf8 s).length + 1), 0, utf8 s ++ [0]⟩
  | _ => ⟨-1, 22, []⟩

theorem forgedKernel_description :
    (Keyring.new 5).description.run forgedKernel 0 = .ok ⟨"keyring", 0, 0, 0x3f3f0000, "x"⟩ :=
  ((Keyring.new 5).description_of_record (K := forgedKernel) (e := 0)
    (describeRecord "user" 1000 1000 0x3f010000 "keyring;0;0;3f3f0000;x") rfl rfl (by decide) rfl
    rfl).trans (by decide)

/-- **`security` keeps the terminator.** When the kernel reports the label `s` with its NUL and
counts the NUL in the size, as it does for `describe`, `Keyring::security` returns `s` with a NUL
character at its end: it sets the length to the size the kernel reported, where
`description_raw` sets one less. Like the model, this assumes that the allocator finds the
memory for that size (`Vec::with_capacity` aborts when it cannot). -/
theorem Keyring.security_of_label (self : Keyring) {K : Kernel} {e : Errno} {sz : CLong}
    (s : String) (hsz : (K (.getSecurity self.id none 0)).ret = sz)
    (hlen : sz.toNat = (utf8 s).length + 1) (hnn : sz.toNat < 2 ^ 63)
    (ha : (K (.getSecurity self.id (some sz.toNat) sz.toNat)).ret = sz)
    (hdata : (K (.getSecurity self.id (some sz.toNat) sz.toNat)).data = utf8 s ++ [0]) :
    self.security.run K e = .ok (s.push '\x00') := by
  obtain ⟨v, hv, -, helems⟩ := byteQuery_of_fits (e := e) hsz hnn ha
    (ne_neg_one_of_toNat_lt hnn) le_rfl (by rw [hdata]; simp [hlen])
  rw [hdata, List.take_of_length_le (by simp [hlen])] at helems
  simp only [Keyring.security, Sys.run_bind, hv, Outcome.ok_bind, Sys.liftM_eq, Sys.run_done,
    helems, fromUtf8_utf8_nul, unwrap]

/-- A kernel with no security module: a key's label is empty, reported as its NUL alone. -/
def noLabelKernel : Kernel
  | .getSecurity _ _ _ => ⟨1, 0, [0]⟩
  | _ => ⟨-1, 95, []⟩

theorem noLabelKernel_security : (Keyring.new 5).security.run noLabelKernel 0 = .ok "\x00" :=
  (Keyring.new 5).security_of_label (K := noLabelKernel) (e := 0) "" rfl rfl (by decide) rfl rfl

/-- **A description that is not UTF-8 aborts.** The kernel takes any bytes but NUL in a key's
description. When the record it reports for a child is not UTF-8, the child's description
panics in `str::from_utf8(..).unwrap()` instead of returning `Err`, and so the listing of every
keyring that holds the child aborts. -/
theorem Keyring.read_aborts_of_not_utf8 {K : Kernel} {e : Errno} (self : Keyring)
    {buffer : Vec KeySerial} (hbuf : self.readBuffer.run K e = .ok buffer) {id : KeySerial}
    (hmem : id ∈ buffer.elems) {sz : CLong} (bytes : List UInt8)
    (hsz : (K (.describe id none 0)).ret = sz) (hlen : sz.toNat = bytes.length + 1)
    (hnn : sz.toNat < 2 ^ 63) (ha : (K (.describe id (some sz.toNat) sz.toNat)).ret = sz)
    (hdata : (K (.describe id (some sz.toNat) sz.toNat)).data = bytes ++ [0])
    (hbad : fromUtf8 bytes = none) :
    (Key.new id).description.run K e = .panic ∧ ¬ (self.read.run K e).Returned := by
  have hpanic (e' : Errno) : (Key.new id).description.run K e' = .panic := by
    show (Keyring.new id).description.run K e' = .panic
    rw [(Keyring.new id).run_description_of_bytes bytes hsz hlen hnn ha hdata, hbad]
    rfl
  refine ⟨hpanic e, fun h => ?_⟩
  simp only [Keyring.read, Sys.run_bind, hbuf, Outcome.ok_bind] at h
  exact partitionM_not_returned isKeyring K (List.mem_map_of_mem Key.new hmem)
    (fun x _ => run_isKeyring_ne_err K x) (fun e' => by simp [isKeyring, hpanic e']) _
    (Outcome.returned_of_bind h)

/-- A kernel in which keyring 1 holds the key 5, described by a byte that is not UTF-8. -/
def binaryKernel : Kernel
  | .read _ _ _ => ⟨4, 0, [5, 0, 0, 0]⟩
  | .describe _ _ _ =>
    let bytes := utf8 "user;0;0;3f010000;" ++ [0xff]
    ⟨BitVec.ofNat 64 (bytes.length + 1), 0, bytes ++ [0]⟩
  | _ => ⟨-1, 22, []⟩

theorem binaryKernel_read_aborts :
    (Key.new 5).description.run binaryKernel 0 = .panic ∧
      ¬ ((Keyring.new 1).read.run binaryKernel 0).Returned :=
  @Keyring.read_aborts_of_not_utf8 binaryKernel 0 (Keyring.new 1) ⟨1, [5], by decide⟩ rfl 5
    (List.mem_singleton_self 5) _ (utf8 "user;0;0;3f010000;" ++ [0xff]) rfl (by decide)
    (by decide) rfl rfl rfl

/-- **A reported description holds no `;`.** Whatever the kernel answers, a description that
`Keyring::description` returns is the text after the record's last `;`: a key whose
description holds a `;` is never reported as it is. -/
theorem Keyring.description_no_semicolon (self : Keyring) {K : Kernel} {e : Errno}
    {x : Description} (h : self.description.run K e = .ok x) : ';' ∉ x.description.data := by
  simp only [Keyring.description, Sys.run_bind, Sys.liftM_eq, Sys.run_done,
    Outcome.bind_eq_ok] at h
  obtain ⟨_, -, parsed, hparse, hx⟩ := h
  cases parsed with
  | some d => cases hx; exact parse_description_no_semicolon hparse
  | none => cases hx

theorem listingKernel_description_no_semicolon : ';' ∉ (listingDesc 5).description.data :=
  (Keyring.new 5).description_no_semicolon (K := listingKernel) (e := 0) rfl

end Keyutils
