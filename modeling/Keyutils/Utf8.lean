import Keyutils.Rust

/-!
# UTF-8 round trip

`fromUtf8` models `str::from_utf8` by Lean's own decoder, one character at a time. Rust strings
reach the kernel as their UTF-8 bytes (`utf8`) and come back through `from_utf8`; this module
shows that the way back undoes the way there (`fromUtf8_utf8`), so that a string the kernel
returns unchanged reads back as the string given.

The proof follows the encoder's four cases (`decodeChar_encode`). Each byte the encoder writes is
a tag above some low bits of the code point (`tagged_byte`); the decoder reads the tag to choose
the case (`lead2_decode`, `cont_decode`, ...) and lays the low bits side by side again, where
`|||` is `+` (`or_eq_add`).
-/

namespace Keyutils

open String

/-! ## Machine words -/

theorem byteArray_get_toArray (xs : List UInt8) (i : Nat) :
    (⟨xs.toArray⟩ : ByteArray)[i]? = xs[i]? := by
  simp only [getElem?, decidableGetElem?, ByteArray.size, Array.size_toArray]
  split <;> rfl

theorem uint8_toNat_or (a b : UInt8) : (a ||| b).toNat = a.toNat ||| b.toNat :=
  BitVec.toNat_or _ _

theorem uint32_toNat_or (a b : UInt32) : (a ||| b).toNat = a.toNat ||| b.toNat :=
  BitVec.toNat_or _ _

theorem uint8_toNat_ofNat (n : Nat) : (UInt8.ofNat n).toNat = n % 256 := BitVec.toNat_ofNat _ _

theorem uint32_toNat_shiftRight (x k : UInt32) :
    (x >>> k).toNat = x.toNat / 2 ^ (k.toNat % 32) := by
  show (x.toBitVec >>> (UInt32.mod k 32).toBitVec).toNat = _
  rw [BitVec.ushiftRight_eq', BitVec.toNat_ushiftRight, Nat.shiftRight_eq_div_pow]
  rfl

theorem uint32_toNat_shiftLeft (x k : UInt32) :
    (x <<< k).toNat = x.toNat * 2 ^ (k.toNat % 32) % 2 ^ 32 := by
  show (x.toBitVec <<< (UInt32.mod k 32).toBitVec).toNat = _
  rw [BitVec.shiftLeft_eq', BitVec.toNat_shiftLeft, Nat.shiftLeft_eq]
  rfl

theorem uint32_le_iff {a b : UInt32} : a ≤ b ↔ a.toNat ≤ b.toNat := by
  rw [UInt32.le_def, BitVec.le_def]; rfl

theorem uint32_lt_iff {a b : UInt32} : a < b ↔ a.toNat < b.toNat := by
  rw [UInt32.lt_def, BitVec.lt_def]; rfl

theorem shr_toUInt8 (x k : UInt32) :
    (x >>> k).toUInt8 = UInt8.ofNat (x.toNat / 2 ^ (k.toNat % 32)) := by
  show UInt8.ofNat (x >>> k).toNat = _; rw [uint32_toNat_shiftRight]

/-- Bits laid above `k` low bits: `|||` is `+`. -/
theorem or_eq_add {x y : Nat} (k : Nat) (hx : x % 2 ^ k = 0) (hy : y < 2 ^ k) :
    x ||| y = x + y := by
  rw [← Nat.div_add_mod x (2 ^ k), hx, Nat.add_zero]; exact (Nat.mul_add_lt_is_or hy _).symm

/-! ## The bytes the encoder writes -/

/-- The byte the encoder builds as `n & mask | tag`: with `mask` the low `j` bits and `tag`
clear on them, it is the tag plus the low `j` bits of `n`. -/
theorem tagged_byte (n : Nat) (mask tag : UInt8) (j : Nat) (hj : j ≤ 8)
    (hm : mask.toNat = 2 ^ j - 1) (ht : tag.toNat % 2 ^ j = 0) :
    UInt8.ofNat n &&& mask ||| tag = UInt8.ofNat (tag.toNat + n % 2 ^ j) := by
  have hp := Nat.two_pow_pos j
  have hb : 2 ^ j ≤ 256 - tag.toNat :=
    Nat.le_of_dvd (by have := tag.toNat_lt; omega)
      (Nat.dvd_sub' (Nat.pow_dvd_pow 2 hj) (Nat.dvd_of_mod_eq_zero ht))
  apply UInt8.ext
  simp only [uint8_toNat_or, UInt8.and_toNat, uint8_toNat_ofNat, hm]
  rw [Nat.and_pow_two_sub_one_eq_mod, Nat.mod_mod_of_dvd n (Nat.pow_dvd_pow 2 hj : 2 ^ j ∣ 2 ^ 8),
    Nat.or_comm, or_eq_add j ht (Nat.mod_lt _ hp)]
  have := Nat.mod_lt n hp
  omega

/-! ## How the decoder reads them -/

theorem ascii_decode {k : Nat} (hk : k < 128) : (UInt8.ofNat k &&& 0x80 == 0) = true :=
  (by decide : ∀ k : Fin 128, (UInt8.ofNat k &&& 0x80 == 0) = true) ⟨k, hk⟩

theorem cont_decode {k : Nat} (hk : k < 64) :
    (UInt8.ofNat (0x80 + k) &&& 0xc0 == 0x80) = true ∧
      (UInt8.ofNat (0x80 + k) &&& 0x3f).toNat = k :=
  (by decide : ∀ k : Fin 64, (UInt8.ofNat (0x80 + k) &&& 0xc0 == 0x80) = true ∧
    (UInt8.ofNat (0x80 + k) &&& 0x3f).toNat = k) ⟨k, hk⟩

theorem lead2_decode {a : Nat} (ha : a < 32) :
    (UInt8.ofNat (0xc0 + a) &&& 0x80 == 0) = false ∧
      (UInt8.ofNat (0xc0 + a) &&& 0xe0 == 0xc0) = true ∧
      (UInt8.ofNat (0xc0 + a) &&& 0x1f).toNat = a :=
  (by decide : ∀ k : Fin 32, (UInt8.ofNat (0xc0 + k) &&& 0x80 == 0) = false ∧
    (UInt8.ofNat (0xc0 + k) &&& 0xe0 == 0xc0) = true ∧
    (UInt8.ofNat (0xc0 + k) &&& 0x1f).toNat = k) ⟨a, ha⟩

theorem lead3_decode {a : Nat} (ha : a < 16) :
    (UInt8.ofNat (0xe0 + a) &&& 0x80 == 0) = false ∧
      (UInt8.ofNat (0xe0 + a) &&& 0xe0 == 0xc0) = false ∧
      (UInt8.ofNat (0xe0 + a) &&& 0xf0 == 0xe0) = true ∧
      (UInt8.ofNat (0xe0 + a) &&& 0x0f).toNat = a :=
  (by decide : ∀ k : Fin 16, (UInt8.ofNat (0xe0 + k) &&& 0x80 == 0) = false ∧
    (UInt8.ofNat (0xe0 + k) &&& 0xe0 == 0xc0) = false ∧
    (UInt8.ofNat (0xe0 + k) &&& 0xf0 == 0xe0) = true ∧
    (UInt8.ofNat (0xe0 + k) &&& 0x0f).toNat = k) ⟨a, ha⟩

theorem lead4_decode {a : Nat} (ha : a < 8) :
    (UInt8.ofNat (0xf0 + a) &&& 0x80 == 0) = false ∧
      (UInt8.ofNat (0xf0 + a) &&& 0xe0 == 0xc0) = false ∧
      (UInt8.ofNat (0xf0 + a) &&& 0xf0 == 0xe0) = false ∧
      (UInt8.ofNat (0xf0 + a) &&& 0xf8 == 0xf0) = true ∧
      (UInt8.ofNat (0xf0 + a) &&& 0x07).toNat = a :=
  (by decide : ∀ k : Fin 8, (UInt8.ofNat (0xf0 + k) &&& 0x80 == 0) = false ∧
    (UInt8.ofNat (0xf0 + k) &&& 0xe0 == 0xc0) = false ∧
    (UInt8.ofNat (0xf0 + k) &&& 0xf0 == 0xe0) = false ∧
    (UInt8.ofNat (0xf0 + k) &&& 0xf8 == 0xf0) = true ∧
    (UInt8.ofNat (0xf0 + k) &&& 0x07).toNat = k) ⟨a, ha⟩

/-! ## One character, case by case -/

section Char

variable (c : Char) (rest : List UInt8)

theorem toUInt8_val : c.val.toUInt8 = UInt8.ofNat c.val.toNat := rfl

/-- Below `0x80` the character is its one byte. -/
theorem decode_one (h : c.val.toNat < 0x80) :
    utf8DecodeChar? ⟨(utf8EncodeChar c ++ rest).toArray⟩ 0 = some c := by
  have hv : c.val ≤ 0x7f := by rw [uint32_le_iff]; show c.val.toNat ≤ 127; omega
  simp only [utf8EncodeChar, hv, if_true, List.singleton_append, utf8DecodeChar?,
    byteArray_get_toArray, List.getElem?_cons_zero, Option.bind_eq_bind, Option.some_bind,
    toUInt8_val, ascii_decode h]
  exact congrArg some (Char.ext (UInt32.ext (by
    simp only [UInt8.toUInt32_toNat, uint8_toNat_ofNat]; omega)))

/-- Below `0x800`: a lead byte with five bits and a continuation byte with six. -/
theorem decode_two (h1 : 0x80 ≤ c.val.toNat) (h2 : c.val.toNat < 0x800) :
    utf8DecodeChar? ⟨(utf8EncodeChar c ++ rest).toArray⟩ 0 = some c := by
  have hv1 : ¬ c.val ≤ 0x7f := by rw [uint32_le_iff]; show ¬ c.val.toNat ≤ 127; omega
  have hv2 : c.val ≤ 0x7ff := by rw [uint32_le_iff]; show c.val.toNat ≤ 2047; omega
  obtain ⟨l1, l2, l3⟩ := lead2_decode (a := c.val.toNat / 64) (by omega)
  obtain ⟨k1, k2⟩ := cont_decode (k := c.val.toNat % 64) (Nat.mod_lt _ (by decide))
  simp only [utf8EncodeChar, hv1, hv2, if_false, if_true, shr_toUInt8, toUInt8_val,
    tagged_byte _ 0x1f 0xc0 5 (by decide) (by decide) (by decide),
    tagged_byte _ 0x3f 0x80 6 (by decide) (by decide) (by decide),
    UInt8.reduceToNat, UInt32.toNat_ofNat, UInt32.size, Nat.reduceMod, Nat.reducePow,
    Nat.mod_eq_of_lt (show c.val.toNat / 64 < 32 by omega), List.cons_append, List.nil_append,
    utf8DecodeChar?, byteArray_get_toArray, List.getElem?_cons_zero, List.getElem?_cons_succ,
    Option.bind_eq_bind, Option.some_bind, l1, l2, k1]
  have hr : (UInt8.ofNat (192 + c.val.toNat / 64) &&& 31).toUInt32 <<< 6 |||
      (UInt8.ofNat (128 + c.val.toNat % 64) &&& 63).toUInt32 = c.val := by
    apply UInt32.ext
    simp only [uint32_toNat_or, uint32_toNat_shiftLeft, UInt8.toUInt32_toNat, l3, k2,
      UInt32.toNat_ofNat, UInt32.size, Nat.reduceMod, Nat.reducePow,
      Nat.mod_eq_of_lt (show c.val.toNat / 64 * 64 < 4294967296 by omega)]
    rw [or_eq_add 6 (by omega) (by omega)]
    omega
  simp only [hr]
  have g : (128 : UInt32) ≤ c.val ∧ c.val < 55296 := by
    rw [uint32_le_iff, uint32_lt_iff]; show 128 ≤ c.val.toNat ∧ c.val.toNat < 55296; omega
  simp only [Bool.false_eq_true, if_false, guard, if_true, g, dite_true, Option.pure_def,
    Option.some_bind]

/-- Below `0x10000`: four bits, then two continuation bytes. The decoder also rejects the
surrogates, which a `Char` never is. -/
theorem decode_three (h1 : 0x800 ≤ c.val.toNat) (h2 : c.val.toNat < 0x10000) :
    utf8DecodeChar? ⟨(utf8EncodeChar c ++ rest).toArray⟩ 0 = some c := by
  have hv1 : ¬ c.val ≤ 0x7f := by rw [uint32_le_iff]; show ¬ c.val.toNat ≤ 127; omega
  have hv2 : ¬ c.val ≤ 0x7ff := by rw [uint32_le_iff]; show ¬ c.val.toNat ≤ 2047; omega
  have hv3 : c.val ≤ 0xffff := by rw [uint32_le_iff]; show c.val.toNat ≤ 65535; omega
  obtain ⟨l1, l2, l3, l4⟩ := lead3_decode (a := c.val.toNat / 4096) (by omega)
  obtain ⟨k1, k2⟩ := cont_decode (k := c.val.toNat / 64 % 64) (Nat.mod_lt _ (by decide))
  obtain ⟨m1, m2⟩ := cont_decode (k := c.val.toNat % 64) (Nat.mod_lt _ (by decide))
  simp only [utf8EncodeChar, hv1, hv2, hv3, if_false, if_true, shr_toUInt8, toUInt8_val,
    tagged_byte _ 0x0f 0xe0 4 (by decide) (by decide) (by decide),
    tagged_byte _ 0x3f 0x80 6 (by decide) (by decide) (by decide),
    UInt8.reduceToNat, UInt32.toNat_ofNat, UInt32.size, Nat.reduceMod, Nat.reducePow,
    Nat.mod_eq_of_lt (show c.val.toNat / 4096 < 16 by omega), List.cons_append,
    List.nil_append, utf8DecodeChar?, byteArray_get_toArray, List.getElem?_cons_zero,
    List.getElem?_cons_succ, Option.bind_eq_bind, Option.some_bind, l1, l2, l3, k1, m1]
  have hr : (UInt8.ofNat (224 + c.val.toNat / 4096) &&& 15).toUInt32 <<< 12 |||
      (UInt8.ofNat (128 + c.val.toNat / 64 % 64) &&& 63).toUInt32 <<< 6 |||
      (UInt8.ofNat (128 + c.val.toNat % 64) &&& 63).toUInt32 = c.val := by
    apply UInt32.ext
    simp only [uint32_toNat_or, uint32_toNat_shiftLeft, UInt8.toUInt32_toNat, l4, k2, m2,
      UInt32.toNat_ofNat, UInt32.size, Nat.reduceMod, Nat.reducePow,
      Nat.mod_eq_of_lt (show c.val.toNat / 4096 * 4096 < 4294967296 by omega),
      Nat.mod_eq_of_lt (show c.val.toNat / 64 % 64 * 64 < 4294967296 by omega)]
    rw [or_eq_add (x := c.val.toNat / 4096 * 4096) 12 (by omega) (by omega),
      or_eq_add 6 (by omega) (by omega)]
    omega
  simp only [hr]
  have g1 : (2048 : UInt32) ≤ c.val := by rw [uint32_le_iff]; show 2048 ≤ c.val.toNat; omega
  have g2 : c.val < 55296 ∨ 57343 < c.val ∧ c.val < 1114112 := by
    have := c.valid
    rw [uint32_lt_iff, uint32_lt_iff, uint32_lt_iff]
    show c.val.toNat < 55296 ∨ 57343 < c.val.toNat ∧ c.val.toNat < 1114112; omega
  simp only [Bool.false_eq_true, if_false, guard, if_true, Bool.and_true, g1, g2, dite_true,
    Option.pure_def, Option.some_bind]

/-- Above: three bits, then three continuation bytes. -/
theorem decode_four (h1 : 0x10000 ≤ c.val.toNat) :
    utf8DecodeChar? ⟨(utf8EncodeChar c ++ rest).toArray⟩ 0 = some c := by
  have hs : c.val.toNat < 0x110000 := by rcases c.valid with h | h <;> omega
  have hv1 : ¬ c.val ≤ 0x7f := by rw [uint32_le_iff]; show ¬ c.val.toNat ≤ 127; omega
  have hv2 : ¬ c.val ≤ 0x7ff := by rw [uint32_le_iff]; show ¬ c.val.toNat ≤ 2047; omega
  have hv3 : ¬ c.val ≤ 0xffff := by rw [uint32_le_iff]; show ¬ c.val.toNat ≤ 65535; omega
  obtain ⟨l1, l2, l3, l4, l5⟩ := lead4_decode (a := c.val.toNat / 262144) (by omega)
  obtain ⟨k1, k2⟩ := cont_decode (k := c.val.toNat / 4096 % 64) (Nat.mod_lt _ (by decide))
  obtain ⟨m1, m2⟩ := cont_decode (k := c.val.toNat / 64 % 64) (Nat.mod_lt _ (by decide))
  obtain ⟨n1, n2⟩ := cont_decode (k := c.val.toNat % 64) (Nat.mod_lt _ (by decide))
  simp only [utf8EncodeChar, hv1, hv2, hv3, if_false, shr_toUInt8, toUInt8_val,
    tagged_byte _ 0x07 0xf0 3 (by decide) (by decide) (by decide),
    tagged_byte _ 0x3f 0x80 6 (by decide) (by decide) (by decide),
    UInt8.reduceToNat, UInt32.toNat_ofNat, UInt32.size, Nat.reduceMod, Nat.reducePow,
    Nat.mod_eq_of_lt (show c.val.toNat / 262144 < 8 by omega), List.cons_append,
    List.nil_append, utf8DecodeChar?, byteArray_get_toArray, List.getElem?_cons_zero,
    List.getElem?_cons_succ, Option.bind_eq_bind, Option.some_bind, l1, l2, l3, l4, k1, m1, n1]
  have hr : (UInt8.ofNat (240 + c.val.toNat / 262144) &&& 7).toUInt32 <<< 18 |||
      (UInt8.ofNat (128 + c.val.toNat / 4096 % 64) &&& 63).toUInt32 <<< 12 |||
      (UInt8.ofNat (128 + c.val.toNat / 64 % 64) &&& 63).toUInt32 <<< 6 |||
      (UInt8.ofNat (128 + c.val.toNat % 64) &&& 63).toUInt32 = c.val := by
    apply UInt32.ext
    simp only [uint32_toNat_or, uint32_toNat_shiftLeft, UInt8.toUInt32_toNat, l5, k2, m2, n2,
      UInt32.toNat_ofNat, UInt32.size, Nat.reduceMod, Nat.reducePow,
      Nat.mod_eq_of_lt (show c.val.toNat / 262144 * 262144 < 4294967296 by omega),
      Nat.mod_eq_of_lt (show c.val.toNat / 4096 % 64 * 4096 < 4294967296 by omega),
      Nat.mod_eq_of_lt (show c.val.toNat / 64 % 64 * 64 < 4294967296 by omega)]
    rw [or_eq_add (x := c.val.toNat / 262144 * 262144) 18 (by omega) (by omega),
      or_eq_add (x := c.val.toNat / 262144 * 262144 + c.val.toNat / 4096 % 64 * 4096) 12
        (by omega) (by omega),
      or_eq_add 6 (by omega) (by omega)]
    omega
  simp only [hr]
  have g : (65536 : UInt32) ≤ c.val ∧ c.val < 1114112 := by
    rw [uint32_le_iff, uint32_lt_iff]; show 65536 ≤ c.val.toNat ∧ c.val.toNat < 1114112; omega
  simp only [Bool.false_eq_true, if_false, guard, if_true, Bool.and_true, g, dite_true,
    Option.pure_def, Option.some_bind, and_self]

/-- The decoder reads back the character the encoder wrote, whatever follows it. -/
theorem decodeChar_encode : utf8DecodeChar? ⟨(utf8EncodeChar c ++ rest).toArray⟩ 0 = some c := by
  by_cases h1 : c.val.toNat < 0x80
  · exact decode_one c rest h1
  by_cases h2 : c.val.toNat < 0x800
  · exact decode_two c rest (by omega) h2
  by_cases h3 : c.val.toNat < 0x10000
  · exact decode_three c rest (by omega) h3
  · exact decode_four c rest (by omega)

end Char

/-! ## Strings -/

theorem decodeUtf8_flatMap :
    ∀ (cs : List Char) (fuel : Nat), (cs.flatMap utf8EncodeChar).length ≤ fuel →
      decodeUtf8 fuel (cs.flatMap utf8EncodeChar) = some cs
  | [], fuel, _ => by cases fuel <;> rfl
  | c :: cs, fuel, hlen => by
    have hsize := length_utf8EncodeChar c
    have hpos := c.utf8Size_pos
    obtain ⟨b, bs, hb⟩ := List.exists_cons_of_ne_nil (List.ne_nil_of_length_pos (hsize ▸ hpos))
    simp only [List.flatMap_cons, List.length_append] at hlen ⊢
    obtain ⟨fuel, rfl⟩ : ∃ f, fuel = f + 1 := ⟨fuel - 1, by omega⟩
    rw [hb, List.cons_append, decodeUtf8, ← List.cons_append, ← hb]
    simp only [Option.bind_eq_bind, decodeChar_encode, Option.some_bind,
      List.drop_left' hsize, decodeUtf8_flatMap cs fuel (by omega), Option.pure_def]

/-- **`from_utf8` undoes `as_bytes`.** -/
theorem fromUtf8_utf8 (s : String) : fromUtf8 (utf8 s) = some s := by
  simp only [fromUtf8, utf8, decodeUtf8_flatMap s.data _ le_rfl, Option.map_eq_map,
    Option.map_some']

theorem utf8_push (s : String) (c : Char) :
    utf8 (s.push c) = utf8 s ++ String.utf8EncodeChar c := by
  simp [utf8, String.push]

/-- Bytes ending in a NUL read back with the NUL kept as the last character. -/
theorem fromUtf8_utf8_nul (s : String) : fromUtf8 (utf8 s ++ [0]) = some (s.push '\x00') := by
  rw [← fromUtf8_utf8 (s.push '\x00'), utf8_push]; rfl

end Keyutils
