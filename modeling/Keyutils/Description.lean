import Keyutils.Rust

/-!
# The description record

`keyctl_describe` answers with a record `type;uid;gid;perm;description`. `Description.parse`
splits it at every `;`, reverses the pieces and reads the five fields from the end, so that
fields the kernel may add at the front are skipped. The owners are read by `str::parse::<u32>`
and the mask by `u32::from_str_radix(_, 16)`, both `unwrap`ped; `fromStrRadix` is that parser,
down to its radix assertion (`Radix`), its `+` sign and its `u32` overflow checks, which reject
exactly the numbers past `u32::MAX` (`fromStrRadix_eq_u32OfDigits`), so that the parse reads
each field as the number it denotes or panics (`parse_eq_u32OfDigits`).

`describeRecord` is the record the kernel writes, with the owners printed by `%d`. A record
whose type and description hold no `;` parses back to its fields when both owners are below
`2 ^ 31`, and panics otherwise, on the `-` of the negative number printed
(`parse_describeRecord`). Prepending fields to a record of at least five pieces does not change
what it parses to (`parse_prepend`). A parsed description holds no `;`, so a description that
holds one is never read back (`parse_describeRecord_of_semicolon`): it shifts every field it
is read into.
-/

namespace Keyutils

/-! ## `from_str_radix` -/

/-- The arm of `char::to_digit` that reads `0-9`, `a-z` and `A-Z` as 0 to 35. -/
def charValue (c : Char) : Option Nat :=
  if '0' ≤ c ∧ c ≤ '9' then some (c.toNat - '0'.toNat)
  else if 'a' ≤ c ∧ c ≤ 'z' then some (c.toNat - 'a'.toNat + 10)
  else if 'A' ≤ c ∧ c ≤ 'Z' then some (c.toNat - 'A'.toNat + 10)
  else none

/-- `char::to_digit(radix)`. -/
def toDigit (c : Char) (radix : Nat) : Option Nat := (charValue c).filter (· < radix)

/-- The digit loop of `from_str_radix` for `u32`: each digit is `checked_mul`ed and
`checked_add`ed into `acc`, and an overflow is an error. -/
def digitsVal (radix acc : Nat) : List Char → Option Nat
  | [] => some acc
  | c :: cs => (toDigit c radix).bind fun x =>
    if acc * radix + x < 2 ^ 32 then digitsVal radix (acc * radix + x) cs else none

/-- A radix `from_str_radix` accepts. It asserts `2 ≤ radix ≤ 36` and panics on any other, so
a radix here carries that bound and an asserting call cannot be built. -/
structure Radix where
  val : Nat
  two_le : 2 ≤ val
  le_thirty_six : val ≤ 36

/-- The radix of `str::parse::<u32>`. -/
def Radix.decimal : Radix := ⟨10, by decide, by decide⟩

/-- The radix `Description::parse` reads the mask in. -/
def Radix.hex : Radix := ⟨16, by decide, by decide⟩

@[simp] theorem Radix.decimal_val : Radix.decimal.val = 10 := rfl

@[simp] theorem Radix.hex_val : Radix.hex.val = 16 := rfl

/-- `u32::from_str_radix(src, radix)`, which `str::parse::<u32>` is at radix 10: an optional
`+`, then at least one digit. -/
def fromStrRadix (src : List Char) (radix : Radix) : Option (BitVec 32) :=
  match src with
  | [] => none
  | c :: rest =>
    let digits := if c = '+' then rest else src
    if digits = [] then none else (digitsVal radix.val 0 digits).map (BitVec.ofNat 32)

theorem charValue_digitChar {d : Nat} (h : d < 16) : charValue (Nat.digitChar d) = some d := by
  have all : ∀ d : Fin 16, charValue (Nat.digitChar d) = some d := by decide
  exact all ⟨d, h⟩

theorem toDigit_digitChar {d radix : Nat} (h : d < radix) (hr : radix ≤ 16) :
    toDigit (Nat.digitChar d) radix = some d := by
  simp [toDigit, charValue_digitChar (by omega : d < 16), h]

/-- A digit below sixteen prints as no character other than the hex digits. -/
theorem digitChar_ne {d : Nat} (h : d < 16) {ch : Char} (hch : ch ∉ "0123456789abcdef".data) :
    Nat.digitChar d ≠ ch := by
  have all : ∀ d : Fin 16, Nat.digitChar d ∈ "0123456789abcdef".data := by decide
  exact fun he => hch (he ▸ all ⟨d, h⟩)

theorem digitsVal_append (radix acc : Nat) (cs ds : List Char) :
    digitsVal radix acc (cs ++ ds) = (digitsVal radix acc cs).bind (digitsVal radix · ds) := by
  induction cs generalizing acc with
  | nil => rfl
  | cons c cs ih =>
    simp only [List.cons_append, digitsVal, Option.bind_assoc]
    congr 1; funext x; split <;> simp [ih]

theorem digitsVal_zero_leading {radix : Nat} (hr : 0 < radix) (k : Nat) (cs : List Char) :
    digitsVal radix 0 (List.replicate k '0' ++ cs) = digitsVal radix 0 cs := by
  induction k with
  | zero => rfl
  | succ k ih =>
    have h0 : toDigit '0' radix = some 0 := by
      simp [toDigit, show charValue '0' = some 0 by decide, Option.filter, hr]
    simpa [List.replicate_succ, digitsVal, h0] using ih

/-! ## `Nat.toDigits` reads back -/

theorem toDigitsCore_append (b : Nat) : ∀ (f n : Nat) (ds : List Char),
    Nat.toDigitsCore b f n ds = Nat.toDigitsCore b f n [] ++ ds
  | 0, _, _ => rfl
  | f + 1, n, ds => by
    simp only [Nat.toDigitsCore]
    split
    · rfl
    · rw [toDigitsCore_append b f _ (_ :: ds), toDigitsCore_append b f _ [_]]; simp

theorem mem_toDigitsCore {b : Nat} (hb : 0 < b) : ∀ {f n : Nat} {ds : List Char} {ch : Char},
    ch ∈ Nat.toDigitsCore b f n ds → ch ∈ ds ∨ ∃ d < b, ch = Nat.digitChar d
  | 0, _, _, _, h => .inl h
  | f + 1, n, ds, ch, h => by
    simp only [Nat.toDigitsCore] at h
    split at h
    · rcases List.mem_cons.mp h with rfl | h
      · exact .inr ⟨_, Nat.mod_lt _ hb, rfl⟩
      · exact .inl h
    · rcases mem_toDigitsCore hb h with h | h
      · rcases List.mem_cons.mp h with rfl | h
        · exact .inr ⟨_, Nat.mod_lt _ hb, rfl⟩
        · exact .inl h
      · exact .inr h

theorem toDigits_ne_nil (b n : Nat) : Nat.toDigits b n ≠ [] := by
  simp only [Nat.toDigits, Nat.toDigitsCore]
  split
  · simp
  · rw [toDigitsCore_append]; simp

theorem digitsVal_toDigitsCore {b : Nat} (hb : 2 ≤ b) (hb16 : b ≤ 16) :
    ∀ {f n : Nat}, n < b ^ f → n < 2 ^ 32 → digitsVal b 0 (Nat.toDigitsCore b f n []) = some n
  | 0, n, h, _ => by
    obtain rfl : n = 0 := by simpa using h
    rfl
  | f + 1, n, h, h32 => by
    have hd : n % b < b := Nat.mod_lt _ (by omega)
    have h32' : n < 4294967296 := h32
    simp only [Nat.toDigitsCore]
    split
    · rename_i hq
      have hn : n < b := (Nat.div_eq_zero_iff (by omega)).mp hq
      simp [digitsVal, Nat.mod_eq_of_lt hn, toDigit_digitChar hn hb16, h32']
    · have hf : n / b < b ^ f := by
        rw [Nat.div_lt_iff_lt_mul (by omega), ← Nat.pow_succ]; exact h
      rw [toDigitsCore_append, digitsVal_append,
        digitsVal_toDigitsCore hb hb16 hf (lt_of_le_of_lt (Nat.div_le_self n b) h32)]
      simp [digitsVal, toDigit_digitChar hd hb16, Nat.div_add_mod', h32']

/-- `from_str_radix` reads back what `Nat.toDigits` prints, leading zeros or not. -/
theorem fromStrRadix_toDigits {b : Radix} (hb16 : b.val ≤ 16) (k : Nat) (x : BitVec 32) :
    fromStrRadix (List.replicate k '0' ++ Nat.toDigits b.val x.toNat) b = some x := by
  have hb := b.two_le
  have hval : digitsVal b.val 0 (List.replicate k '0' ++ Nat.toDigits b.val x.toNat) =
      some x.toNat := by
    rw [digitsVal_zero_leading (by omega)]
    have := Nat.lt_pow_self (show 1 < b.val by omega) (x.toNat + 1)
    exact digitsVal_toDigitsCore hb hb16 (by omega) x.isLt
  obtain ⟨c, rest, hcr⟩ := List.exists_cons_of_ne_nil
    (List.append_ne_nil_of_right_ne_nil (List.replicate k '0') (toDigits_ne_nil b.val x.toNat))
  have hc : c ≠ '+' := by
    have hmem : c ∈ List.replicate k '0' ++ Nat.toDigits b.val x.toNat := by simp [hcr]
    rcases List.mem_append.mp hmem with h | h
    · rw [List.eq_of_mem_replicate h]; decide
    · rcases mem_toDigitsCore (by omega) h with h | ⟨d, hd, rfl⟩
      · cases h
      · exact digitChar_ne (by omega) (by decide)
  rw [hcr] at hval ⊢
  simp [fromStrRadix, hc, hval]

/-! ## The checked loop against the number it reads

`u32OfDigits` says what `from_str_radix` is for: the number the digits denote, when it fits. The
loop computes it by Horner's rule with a check at every digit; since the running value only
grows, checking at every digit rejects exactly the numbers that a check at the end would. -/

/-- What `u32::from_str_radix` reads: after an optional `+`, a nonempty run of digits of the
radix, taken as the number it denotes (`Nat.ofDigits`, which lists the least significant digit
first), when that number fits in a `u32`. -/
def u32OfDigits (src : List Char) (radix : Nat) : Option (BitVec 32) :=
  let digits := if src.head? = some '+' then src.tail else src
  if digits = [] then none else
    match digits.mapM (toDigit · radix) with
    | some ds => if Nat.ofDigits radix ds.reverse < 2 ^ 32 then
        some (BitVec.ofNat 32 (Nat.ofDigits radix ds.reverse)) else none
    | none => none

theorem toDigit_lt {c : Char} {radix x : Nat} (h : toDigit c radix = some x) : x < radix :=
  of_decide_eq_true (Option.filter_eq_some.mp h).2

theorem le_foldl_horner {radix : Nat} (hr : 0 < radix) :
    ∀ (acc : Nat) (ds : List Nat), acc ≤ ds.foldl (fun a d => a * radix + d) acc
  | _, [] => le_rfl
  | acc, d :: ds => by
    have := le_foldl_horner hr (acc * radix + d) ds
    have : acc ≤ acc * radix := Nat.le_mul_of_pos_right acc hr
    simp only [List.foldl_cons]; omega

theorem foldl_horner (radix : Nat) : ∀ (acc : Nat) (ds : List Nat),
    ds.foldl (fun a d => a * radix + d) acc =
      acc * radix ^ ds.length + Nat.ofDigits radix ds.reverse
  | acc, [] => by simp
  | acc, d :: ds => by
    rw [List.foldl_cons, foldl_horner radix _ ds, List.reverse_cons, Nat.ofDigits_append,
      Nat.ofDigits_singleton, List.length_reverse, List.length_cons, Nat.pow_succ]
    ring

/-- The digit loop is the unbounded Horner sum, checked once at the end. -/
theorem digitsVal_eq {radix acc : Nat} (hacc : acc < 2 ^ 32) (cs : List Char) :
    digitsVal radix acc cs =
      ((cs.mapM (toDigit · radix)).map (·.foldl (fun a d => a * radix + d) acc)).filter
        (· < 2 ^ 32) := by
  induction cs generalizing acc with
  | nil => simp only [digitsVal, List.mapM_nil]; simpa [Option.filter] using hacc
  | cons c cs ih =>
    cases hc : toDigit c radix with
    | none => simp only [digitsVal, hc, List.mapM_cons]; rfl
    | some x =>
      simp only [digitsVal, hc, Option.some_bind, List.mapM_cons]
      split
      · rw [ih ‹_›]
        cases cs.mapM (toDigit · radix) <;> rfl
      · cases hds : cs.mapM (toDigit · radix) with
        | none => rfl
        | some ds =>
          have := le_foldl_horner (Nat.zero_lt_of_lt (toDigit_lt hc)) (acc * radix + x) ds
          simp only [Option.filter, Option.bind_eq_bind, Option.some_bind, Option.pure_def,
            Option.map_some', List.foldl_cons, decide_eq_true_eq]
          rw [if_neg (by omega)]

/-- `from_str_radix` never wraps: with its `checked_mul` and `checked_add` at every digit, the
parser returns the number its digits denote exactly when that number fits in a `u32`, and an
error for every larger one. -/
theorem fromStrRadix_eq_u32OfDigits (src : List Char) (radix : Radix) :
    fromStrRadix src radix = u32OfDigits src radix.val := by
  have hdigits : ∀ digits : List Char,
      (digitsVal radix.val 0 digits).map (BitVec.ofNat 32) =
        match digits.mapM (toDigit · radix.val) with
        | some ds => if Nat.ofDigits radix.val ds.reverse < 2 ^ 32 then
            some (BitVec.ofNat 32 (Nat.ofDigits radix.val ds.reverse)) else none
        | none => none := by
    intro digits
    rw [digitsVal_eq (by decide)]
    cases digits.mapM (toDigit · radix.val) with
    | none => rfl
    | some ds =>
      simp only [Option.map_some', foldl_horner, Nat.zero_mul, Nat.zero_add, Option.filter,
        decide_eq_true_eq]
      split <;> rfl
  match src with
  | [] => rfl
  | c :: rest =>
    simp only [fromStrRadix, u32OfDigits, List.head?_cons, Option.some.injEq, List.tail_cons]
    generalize (if c = '+' then rest else c :: rest) = digits
    split_ifs
    · rfl
    · exact hdigits digits

/-- `u32::MAX` is read; one more overflows. -/
example : fromStrRadix "4294967295".toList .decimal = some 0xffffffff ∧
    fromStrRadix "4294967296".toList .decimal = none := by decide

/-! ## `Description::parse` -/

/-- `Description`: the metadata of a key or keyring. -/
structure Description where
  type_ : String
  uid : BitVec 32
  gid : BitVec 32
  perms : BitVec 32
  description : String
  deriving DecidableEq, Repr

/-- `Description::parse`. The pieces are matched from the end of the reversed split, and fewer
than five give `None`. For more than five the source first prints a warning with `println!`,
which is left out: the model assumes that writing to stdout succeeds (`println!` panics when it
fails), and the warning changes nothing else. -/
def Description.parse (desc : String) : Outcome (Option Description) :=
  match (desc.data.splitOn ';').reverse with
  | description :: perms :: gid :: uid :: type_ :: _ => do
    let uid ← unwrap (fromStrRadix uid .decimal)
    let gid ← unwrap (fromStrRadix gid .decimal)
    let perms ← unwrap (fromStrRadix perms .hex)
    pure (some ⟨⟨type_⟩, uid, gid, perms, ⟨description⟩⟩)
  | _ => pure none

/-- **The fields are read as the numbers they denote.** In a record of at least five pieces, the
uid and gid pieces are read as decimal and the perm piece as hex numbers, each after an optional
`+`: the parse returns them when all three fit in a `u32` and panics otherwise, never wrapping a
larger number. -/
theorem parse_eq_u32OfDigits {desc : String} {description perms gid uid type_ : List Char}
    {rest : List (List Char)}
    (h : (desc.data.splitOn ';').reverse = description :: perms :: gid :: uid :: type_ :: rest) :
    Description.parse desc =
      match u32OfDigits uid 10, u32OfDigits gid 10, u32OfDigits perms 16 with
      | some uid, some gid, some perms => .ok (some ⟨⟨type_⟩, uid, gid, perms, ⟨description⟩⟩)
      | _, _, _ => .panic := by
  simp only [Description.parse, h, fromStrRadix_eq_u32OfDigits, Radix.decimal_val,
    Radix.hex_val]
  cases u32OfDigits uid 10 <;> cases u32OfDigits gid 10 <;> cases u32OfDigits perms 16 <;> rfl

/-- An owner of `u32::MAX` is read; one more panics rather than wrapping to `0`. -/
theorem parse_owner_past_u32_max :
    Description.parse "user;4294967295;0;3f010000;k" =
      .ok (some ⟨"user", 0xffffffff, 0, 0x3f010000, "k"⟩) ∧
    Description.parse "user;4294967296;0;3f010000;k" = .panic :=
  ⟨(@parse_eq_u32OfDigits "user;4294967295;0;3f010000;k" _ _ _ _ _ _ rfl).trans (by decide),
    (@parse_eq_u32OfDigits "user;4294967296;0;3f010000;k" _ _ _ _ _ _ rfl).trans (by decide)⟩

/-- `printf`'s `%d` of a 32-bit word: its value as a C `int`, in decimal, so that a word at or
above `2 ^ 31` prints as a negative number. -/
def formatInt (x : BitVec 32) : String := toString x.toInt

/-- The record `keyctl_describe` writes with the format `%s;%d;%d;%08x;%s`: the owners as signed
decimals, the mask as eight hex digits. -/
def describeRecord (type_ : String) (uid gid perms : BitVec 32) (description : String) :
    String :=
  type_ ++ ";" ++ formatInt uid ++ ";" ++ formatInt gid ++ ";" ++
    ⟨(Nat.toDigits 16 perms.toNat).leftpad 8 '0'⟩ ++ ";" ++ description

theorem splitOnP_append_cons {α : Type} (p : α → Bool) {sep : α} (hsep : p sep)
    (xs ys : List α) : (xs ++ sep :: ys).splitOnP p = xs.splitOnP p ++ ys.splitOnP p := by
  induction xs with
  | nil => simp [hsep]
  | cons x xs ih =>
    rw [List.cons_append, List.splitOnP_cons, List.splitOnP_cons, ih]
    split
    · rfl
    · obtain ⟨l, ls, h⟩ := List.exists_cons_of_ne_nil (List.splitOnP_ne_nil p xs)
      rw [h]; rfl

theorem splitOn_append_semicolon (xs ys : List Char) :
    (xs ++ ';' :: ys).splitOn ';' = xs.splitOn ';' ++ ys.splitOn ';' :=
  splitOnP_append_cons _ (by decide) xs ys

theorem splitOn_of_not_mem {xs : List Char} (h : ';' ∉ xs) : xs.splitOn ';' = [xs] :=
  List.splitOnP_eq_single _ _ fun x hx hx' => h (by rw [beq_iff_eq] at hx'; exact hx' ▸ hx)

theorem semicolon_not_mem_toDigits {b : Nat} (hb : 0 < b) (hb16 : b ≤ 16) (n k : Nat) :
    ';' ∉ List.replicate k '0' ++ Nat.toDigits b n := by
  intro h
  rcases List.mem_append.mp h with h | h
  · exact absurd (List.eq_of_mem_replicate h) (by decide)
  · rcases mem_toDigitsCore hb h with h | ⟨d, hd, he⟩
    · cases h
    · exact digitChar_ne (by omega) (by decide) he.symm

theorem formatInt_of_lt {x : BitVec 32} (h : x.toNat < 2 ^ 31) :
    (formatInt x).data = Nat.toDigits 10 x.toNat := by
  have : x.toInt = Int.ofNat x.toNat := by
    rw [BitVec.toInt_eq_toNat_cond, if_pos (by omega)]; rfl
  rw [formatInt, this]; rfl

theorem formatInt_of_le {x : BitVec 32} (h : 2 ^ 31 ≤ x.toNat) :
    (formatInt x).data = '-' :: Nat.toDigits 10 (2 ^ 32 - x.toNat) := by
  have : x.toInt = Int.negSucc (2 ^ 32 - x.toNat - 1) := by
    rw [BitVec.toInt_eq_toNat_cond, if_neg (by omega), Int.negSucc_eq]; push_cast; omega
  rw [formatInt, this]
  show ("-" ++ Nat.repr (2 ^ 32 - x.toNat - 1 + 1)).data = _
  rw [Nat.sub_add_cancel (by omega)]; rfl

theorem semicolon_not_mem_formatInt (x : BitVec 32) : ';' ∉ (formatInt x).data := by
  have h10 := semicolon_not_mem_toDigits (b := 10) (by decide) (by decide)
  by_cases h : x.toNat < 2 ^ 31
  · simpa [formatInt_of_lt h] using h10 x.toNat 0
  · simpa [formatInt_of_le (Nat.le_of_not_lt h)] using h10 (2 ^ 32 - x.toNat) 0

/-- An owner printed by `%d` reads back below `2 ^ 31`; at or above, its `-` is no digit. -/
theorem fromStrRadix_formatInt (x : BitVec 32) :
    fromStrRadix (formatInt x).data .decimal = if x.toNat < 2 ^ 31 then some x else none := by
  by_cases h : x.toNat < 2 ^ 31
  · rw [formatInt_of_lt h, if_pos h]
    exact fromStrRadix_toDigits (b := .decimal) (by decide) 0 x
  · rw [formatInt_of_le (Nat.le_of_not_lt h), if_neg h]; rfl

/-- **Parsing the kernel's record.** A record whose type and description hold no `;` parses
back to exactly its fields when both owners are below `2 ^ 31`. An owner at or above prints as
a negative number, and its `-` makes the parse panic. -/
theorem parse_describeRecord {type_ description : String} (ht : ';' ∉ type_.data)
    (hd : ';' ∉ description.data) (uid gid perms : BitVec 32) :
    Description.parse (describeRecord type_ uid gid perms description) =
      if uid.toNat < 2 ^ 31 ∧ gid.toNat < 2 ^ 31 then
        .ok (some ⟨type_, uid, gid, perms, description⟩)
      else .panic := by
  have hs : ((describeRecord type_ uid gid perms description).data.splitOn ';').reverse =
      [description.data, (Nat.toDigits 16 perms.toNat).leftpad 8 '0',
        (formatInt gid).data, (formatInt uid).data, type_.data] := by
    simp only [describeRecord, String.data_append, List.append_assoc, List.cons_append,
      List.singleton_append, List.nil_append]
    rw [splitOn_append_semicolon, splitOn_append_semicolon, splitOn_append_semicolon,
      splitOn_append_semicolon, splitOn_of_not_mem ht, splitOn_of_not_mem hd,
      splitOn_of_not_mem (semicolon_not_mem_formatInt uid),
      splitOn_of_not_mem (semicolon_not_mem_formatInt gid),
      splitOn_of_not_mem (show ';' ∉ List.leftpad 8 '0' _ from
        semicolon_not_mem_toDigits (b := 16) (by decide) (by decide) _ _)]
    rfl
  have hp : fromStrRadix ((Nat.toDigits 16 perms.toNat).leftpad 8 '0') .hex = some perms :=
    fromStrRadix_toDigits (b := .hex) (by decide) _ perms
  simp only [Description.parse, hs, fromStrRadix_formatInt, hp]
  by_cases hu : uid.toNat < 2 ^ 31 <;> by_cases hg : gid.toNat < 2 ^ 31 <;>
    simp only [hu, hg, if_true, if_false, and_self, and_false, false_and] <;> rfl

/-- The test key's record reads back; a record whose uid is `2 ^ 32 - 2` prints it as `-2`, and
the parse panics. -/
theorem parse_describeRecord_test_key :
    Description.parse (describeRecord "user" 1000 1000 0x3f010000 "test:ruskey:describe_key") =
      .ok (some ⟨"user", 1000, 1000, 0x3f010000, "test:ruskey:describe_key"⟩) ∧
    Description.parse (describeRecord "user" 0xfffffffe 1000 0x3f010000 "k") = .panic :=
  ⟨(parse_describeRecord (by decide) (by decide) 1000 1000 0x3f010000).trans (by decide),
    (parse_describeRecord (by decide) (by decide) 0xfffffffe 1000 0x3f010000).trans
      (by decide)⟩

/-- **Fields added at the front are skipped.** Prepending any text and a `;` to a record of at
least five pieces leaves its outcome as it was: the same description, or the same panic. -/
theorem parse_prepend (f s : String) (hs : 5 ≤ (s.data.splitOn ';').length) :
    Description.parse (f ++ ";" ++ s) = Description.parse s := by
  have hsplit : ((f ++ ";" ++ s).data.splitOn ';').reverse =
      (s.data.splitOn ';').reverse ++ (f.data.splitOn ';').reverse := by
    simp [splitOn_append_semicolon]
  rw [← List.length_reverse] at hs
  rcases hr : (s.data.splitOn ';').reverse with
      _ | ⟨a, _ | ⟨b, _ | ⟨c, _ | ⟨d, _ | ⟨e, rest⟩⟩⟩⟩⟩ <;> rw [hr] at hs <;> simp at hs
  simp only [Description.parse, hsplit, hr, List.cons_append]

theorem parse_prepend_new_field :
    Description.parse ("new" ++ ";" ++ "user;0;0;3f010000;k") =
      Description.parse "user;0;0;3f010000;k" :=
  parse_prepend "new" "user;0;0;3f010000;k" (by decide)

theorem not_mem_of_mem_splitOnP {α : Type} (p : α → Bool) :
    ∀ {xs x : List α}, x ∈ xs.splitOnP p → ∀ a ∈ x, p a = false
  | [], x, hx => by simp only [List.splitOnP_nil, List.mem_singleton] at hx; simp [hx]
  | y :: ys, x, hx => by
    rw [List.splitOnP_cons] at hx
    split at hx
    · rcases List.mem_cons.mp hx with rfl | h
      · simp
      · exact not_mem_of_mem_splitOnP p h
    · obtain ⟨l, ls, h⟩ := List.exists_cons_of_ne_nil (List.splitOnP_ne_nil p ys)
      rw [h] at hx
      rcases List.mem_cons.mp hx with rfl | hx
      · have hl := not_mem_of_mem_splitOnP p (h ▸ List.mem_cons_self l ls)
        rintro a (_ | ⟨_, ha⟩)
        · simpa using ‹¬p y = true›
        · exact hl a ha
      · exact not_mem_of_mem_splitOnP p (h ▸ List.mem_cons_of_mem l hx)

/-- A parsed description is the text after the record's last `;`, so it holds no `;`. -/
theorem parse_description_no_semicolon {desc : String} {x : Description}
    (h : Description.parse desc = .ok (some x)) : ';' ∉ x.description.data := by
  unfold Description.parse at h
  split at h
  · rename_i description _ _ _ _ _ hr
    obtain ⟨_, -, _, -, _, -, h⟩ := by simpa only [Outcome.bind_eq_ok] using h
    cases h
    have hmem : description ∈ desc.data.splitOn ';' := by
      rw [← List.mem_reverse, hr]; exact List.mem_cons_self _ _
    intro hs
    simpa using not_mem_of_mem_splitOnP _ hmem ';' hs
  · cases h

/-- **A description holding `;` is never read back.** For every record whose description holds
a `;`, the parse does not return the record's fields. -/
theorem parse_describeRecord_of_semicolon {description : String} (hd : ';' ∈ description.data)
    (type_ : String) (uid gid perms : BitVec 32) :
    Description.parse (describeRecord type_ uid gid perms description) ≠
      .ok (some ⟨type_, uid, gid, perms, description⟩) :=
  fun h => parse_description_no_semicolon h hd

/-- A user key described as `keyring;0;0;3f3f0000;x` reads back as a root-owned keyring, and
one described as `a;b` makes the owner parser panic on the mask. -/
theorem parse_describeRecord_forged :
    Description.parse (describeRecord "user" 1000 1000 0x3f010000 "keyring;0;0;3f3f0000;x") =
      .ok (some ⟨"keyring", 0, 0, 0x3f3f0000, "x"⟩) ∧
    Description.parse (describeRecord "user" 1000 1000 0x3f010000 "keyring;0;0;3f3f0000;x") ≠
      .ok (some ⟨"user", 1000, 1000, 0x3f010000, "keyring;0;0;3f3f0000;x"⟩) ∧
    Description.parse (describeRecord "user" 1000 1000 0x3f010000 "a;b") = .panic :=
  ⟨by decide, parse_describeRecord_of_semicolon (by decide) _ _ _ _, by decide⟩

end Keyutils
