import Mathlib.Tactic.SplitIfs
import Introspection.Text.Utf8

/-!
# Decoding what encoding wrote

The decoder reads back exactly the characters of every text: at the start of each encoded
character `decodeAt` finds its code point and width, so the units of an encoded text are its
characters and `lossy s.toUTF8 = s`. A text without the NUL character encodes without a zero
byte, which is what lets it stand as a NUL-terminated string. Conversely every sequence the
decoder accepts is the encoding of the character it reads (`decodeAt_encodes`), so the units of
any byte string spell its bytes (`units_spell`).
-/

namespace Introspection.Text.Utf8

/-! ## Bit assembly -/

private theorem or_eq_add {a b k : Nat} (ha : a % 2 ^ k = 0) (hb : b < 2 ^ k) :
    a ||| b = a + b := by
  obtain ⟨q, rfl⟩ : ∃ q, a = 2 ^ k * q :=
    ⟨a / 2 ^ k, (Nat.mul_div_cancel' (Nat.dvd_of_mod_eq_zero ha)).symm⟩
  exact (Nat.two_pow_add_eq_or_of_lt hb q).symm

private theorem and_7 (x : Nat) : x &&& 7 = x % 8 := Nat.and_two_pow_sub_one_eq_mod x 3
private theorem and_15 (x : Nat) : x &&& 15 = x % 16 := Nat.and_two_pow_sub_one_eq_mod x 4
private theorem and_31 (x : Nat) : x &&& 31 = x % 32 := Nat.and_two_pow_sub_one_eq_mod x 5
private theorem and_63 (x : Nat) : x &&& 63 = x % 64 := Nat.and_two_pow_sub_one_eq_mod x 6

private theorem join2 (x y : Nat) (hy : y < 64) : x <<< 6 ||| y = x * 64 + y := by
  rw [Nat.shiftLeft_eq]
  exact @or_eq_add (x * 2 ^ 6) y 6 (by simp) hy

private theorem join3 (x y z : Nat) (hy : y < 64) (hz : z < 64) :
    x <<< 12 ||| y <<< 6 ||| z = x * 4096 + y * 64 + z := by
  rw [Nat.shiftLeft_eq, Nat.shiftLeft_eq,
    @or_eq_add (x * 2 ^ 12) (y * 2 ^ 6) 12 (by simp) (by simp; omega),
    @or_eq_add (x * 2 ^ 12 + y * 2 ^ 6) z 6 (by simp; omega) (by simp; omega)]

private theorem join4 (x y z u : Nat) (hy : y < 64) (hz : z < 64) (hu : u < 64) :
    x <<< 18 ||| y <<< 12 ||| z <<< 6 ||| u = x * 262144 + y * 4096 + z * 64 + u := by
  rw [Nat.shiftLeft_eq, Nat.shiftLeft_eq, Nat.shiftLeft_eq,
    @or_eq_add (x * 2 ^ 18) (y * 2 ^ 12) 18 (by simp) (by simp; omega),
    @or_eq_add (x * 2 ^ 18 + y * 2 ^ 12) (z * 2 ^ 6) 12 (by simp; omega) (by simp; omega),
    @or_eq_add (x * 2 ^ 18 + y * 2 ^ 12 + z * 2 ^ 6) u 6 (by simp; omega) (by simp; omega)]

/-! ## One character -/

section Decode

variable (s : ByteArray) (i v : Nat)

theorem decodeAt_one (hv : v ≤ 0x7f) (h0 : (s.get! i).toNat = v) (hs : i + 1 ≤ s.size) :
    decodeAt s i = some (v, 1) := by
  simp only [decodeAt, Nat.add_zero, UInt8.lt_iff_toNat_lt, h0]
  simp [hs]
  omega

theorem decodeAt_two (hlo : 0x80 ≤ v) (hhi : v ≤ 0x7ff)
    (h0 : (s.get! i).toNat = v / 64 % 32 + 0xc0) (h1 : (s.get! (i + 1)).toNat = v % 64 + 0x80)
    (hs : i + 2 ≤ s.size) : decodeAt s i = some (v, 2) := by
  simp only [decodeAt, Nat.add_zero, within, UInt8.lt_iff_toNat_lt, UInt8.le_iff_toNat_le,
    UInt8.toNat_and, h0, h1]
  simp [hs]
  refine ⟨by omega, ?_⟩
  rw [if_neg (by omega), if_pos (by omega), if_pos (by omega), and_31, and_63,
    join2 _ _ (by omega)]
  congr 2
  omega

theorem decodeAt_three (hlo : 0x800 ≤ v) (hhi : v ≤ 0xffff) (hsur : v < 0xd800 ∨ 0xdfff < v)
    (h0 : (s.get! i).toNat = v / 4096 % 16 + 0xe0)
    (h1 : (s.get! (i + 1)).toNat = v / 64 % 64 + 0x80)
    (h2 : (s.get! (i + 2)).toNat = v % 64 + 0x80) (hs : i + 3 ≤ s.size) :
    decodeAt s i = some (v, 3) := by
  simp only [decodeAt, Nat.add_zero, within, UInt8.lt_iff_toNat_lt, UInt8.le_iff_toNat_le,
    UInt8.toNat_and, h0, h1, h2]
  simp [hs, ← UInt8.toNat_inj, h0]
  refine ⟨by omega, ?_⟩
  rw [if_neg (by omega), if_pos (by omega), if_pos (by split <;> (try split) <;> simp <;> omega),
    and_15, and_63, and_63, join3 _ _ _ (by omega) (by omega)]
  congr 2
  omega

theorem decodeAt_four (hlo : 0x10000 ≤ v) (hhi : v < 0x110000)
    (h0 : (s.get! i).toNat = v / 262144 % 8 + 0xf0)
    (h1 : (s.get! (i + 1)).toNat = v / 4096 % 64 + 0x80)
    (h2 : (s.get! (i + 2)).toNat = v / 64 % 64 + 0x80)
    (h3 : (s.get! (i + 3)).toNat = v % 64 + 0x80) (hs : i + 4 ≤ s.size) :
    decodeAt s i = some (v, 4) := by
  simp only [decodeAt, Nat.add_zero, within, UInt8.lt_iff_toNat_lt, UInt8.le_iff_toNat_le,
    UInt8.toNat_and, h0, h1, h2, h3]
  simp [hs, ← UInt8.toNat_inj, h0]
  refine ⟨by omega, ?_⟩
  rw [if_neg (by omega), if_pos (by omega), if_pos (by split <;> (try split) <;> simp <;> omega),
    and_7, and_63, and_63, and_63, join4 _ _ _ _ (by omega) (by omega) (by omega)]
  congr 2
  omega

end Decode

/-! ## Encoded characters -/

section Encode

variable {c : Char}

theorem encodeChar_of_le_7f (h : c.toNat ≤ 0x7f) :
    String.utf8EncodeChar c = [UInt8.ofNat c.toNat] := by
  simp only [String.utf8EncodeChar, Char.toNat_val, h, ↓reduceIte]

theorem encodeChar_of_le_7ff (h₁ : 0x7f < c.toNat) (h₂ : c.toNat ≤ 0x7ff) :
    String.utf8EncodeChar c =
      [UInt8.ofNat (c.toNat / 64 % 32 + 0xc0), UInt8.ofNat (c.toNat % 64 + 0x80)] := by
  simp only [String.utf8EncodeChar, Char.toNat_val, Nat.not_le.2 h₁, h₂, ↓reduceIte]

theorem encodeChar_of_le_ffff (h₁ : 0x7ff < c.toNat) (h₂ : c.toNat ≤ 0xffff) :
    String.utf8EncodeChar c =
      [UInt8.ofNat (c.toNat / 4096 % 16 + 0xe0), UInt8.ofNat (c.toNat / 64 % 64 + 0x80),
        UInt8.ofNat (c.toNat % 64 + 0x80)] := by
  simp only [String.utf8EncodeChar, Char.toNat_val, Nat.not_le.2 h₁, h₂,
    show ¬ c.toNat ≤ 0x7f by omega, ↓reduceIte]

theorem encodeChar_of_gt_ffff (h : 0xffff < c.toNat) :
    String.utf8EncodeChar c =
      [UInt8.ofNat (c.toNat / 262144 % 8 + 0xf0), UInt8.ofNat (c.toNat / 4096 % 64 + 0x80),
        UInt8.ofNat (c.toNat / 64 % 64 + 0x80), UInt8.ofNat (c.toNat % 64 + 0x80)] := by
  simp only [String.utf8EncodeChar, Char.toNat_val, Nat.not_le.2 h,
    show ¬ c.toNat ≤ 0x7f by omega, show ¬ c.toNat ≤ 0x7ff by omega, ↓reduceIte]

theorem decodeAt_encodeChar (s : ByteArray) (i : Nat)
    (h : ∀ j (hj : j < (String.utf8EncodeChar c).length),
      s.get! (i + j) = (String.utf8EncodeChar c)[j])
    (hs : i + (String.utf8EncodeChar c).length ≤ s.size) :
    decodeAt s i = some (c.toNat, (String.utf8EncodeChar c).length) := by
  have hvalid : c.toNat < 0xd800 ∨ (0xdfff < c.toNat ∧ c.toNat < 0x110000) := c.valid
  have val : ∀ j (hj : j < (String.utf8EncodeChar c).length),
      (s.get! (i + j)).toNat = ((String.utf8EncodeChar c)[j]).toNat := fun j hj => by rw [h j hj]
  by_cases h1 : c.toNat ≤ 0x7f
  · rw [encodeChar_of_le_7f h1] at val hs ⊢
    have b0 := val 0 (by simp)
    simp only [Nat.add_zero, List.getElem_cons_zero, UInt8.toNat_ofNat'] at b0
    exact decodeAt_one s i _ h1 (by omega) hs
  by_cases h2 : c.toNat ≤ 0x7ff
  · rw [encodeChar_of_le_7ff (by omega) h2] at val hs ⊢
    have b0 := val 0 (by simp)
    have b1 := val 1 (by simp)
    simp only [Nat.add_zero, List.getElem_cons_zero, List.getElem_cons_succ,
      UInt8.toNat_ofNat'] at b0 b1
    exact decodeAt_two s i _ (by omega) h2 (by omega) (by omega) hs
  by_cases h3 : c.toNat ≤ 0xffff
  · rw [encodeChar_of_le_ffff (by omega) h3] at val hs ⊢
    have b0 := val 0 (by simp)
    have b1 := val 1 (by simp)
    have b2 := val 2 (by simp)
    simp only [Nat.add_zero, List.getElem_cons_zero, List.getElem_cons_succ,
      UInt8.toNat_ofNat'] at b0 b1 b2
    exact decodeAt_three s i _ (by omega) h3 (by omega) (by omega) (by omega) (by omega) hs
  · rw [encodeChar_of_gt_ffff (by omega)] at val hs ⊢
    have b0 := val 0 (by simp)
    have b1 := val 1 (by simp)
    have b2 := val 2 (by simp)
    have b3 := val 3 (by simp)
    simp only [Nat.add_zero, List.getElem_cons_zero, List.getElem_cons_succ,
      UInt8.toNat_ofNat'] at b0 b1 b2 b3
    exact decodeAt_four s i _ (by omega) (by omega) (by omega) (by omega) (by omega) (by omega) hs

end Encode

/-! ## Texts -/

theorem get!_toByteArray (l : List UInt8) {i : Nat} (h : i < l.length) :
    l.toByteArray.get! i = l[i] := by
  rw [ByteArray.get!, List.data_toByteArray]
  simp [h]

theorem unitsFrom_of_decodeAt {s : ByteArray} {i c w : Nat} (hi : i < s.size)
    (hd : decodeAt s i = some (c, w)) (hw : 0 < w) :
    unitsFrom s i = .point c w :: unitsFrom s (i + w) := by
  rw [unitsFrom, dif_pos hi]
  split
  · rename_i c' w' hd'
    rw [hd] at hd'
    cases hd'
    simp [hw]
  · rename_i hd'
    rw [hd] at hd'
    cases hd'

theorem unitsFrom_size (s : ByteArray) : unitsFrom s s.size = [] := by
  rw [unitsFrom]
  simp

theorem unitsFrom_encode (cs : List Char) (pre : List UInt8) :
    unitsFrom (pre ++ cs.flatMap String.utf8EncodeChar).toByteArray pre.length =
      cs.map fun c => .point c.toNat (String.utf8EncodeChar c).length := by
  induction cs generalizing pre with
  | nil => simpa using unitsFrom_size (pre.toByteArray)
  | cons c cs ih =>
      have hne : 0 < (String.utf8EncodeChar c).length :=
        List.length_pos_iff.2 String.utf8EncodeChar_ne_nil
      have hlen : (String.utf8EncodeChar c).length = c.utf8Size := by simp
      have hassoc : pre ++ (c :: cs).flatMap String.utf8EncodeChar =
          (pre ++ String.utf8EncodeChar c) ++ cs.flatMap String.utf8EncodeChar := by simp
      rw [hassoc]
      have hd := @decodeAt_encodeChar c
        ((pre ++ String.utf8EncodeChar c) ++ cs.flatMap String.utf8EncodeChar).toByteArray
        pre.length (fun j hj => by
          rw [get!_toByteArray _ (by simp; omega)]
          simp [List.getElem_append_right, List.getElem_append_left hj])
        (by simp)
      rw [unitsFrom_of_decodeAt (by simp; omega) hd hne, ← List.length_append, ih]
      rfl

theorem toUTF8_eq_flatMap (s : String) :
    s.toUTF8 = (s.toList.flatMap String.utf8EncodeChar).toByteArray := by
  rw [String.toUTF8_eq_toByteArray, ← String.utf8Encode_toList, List.utf8Encode]

theorem lossy_toUTF8 (s : String) : lossy s.toUTF8 = s := by
  have hbytes : s.toUTF8 = ([] ++ s.toList.flatMap String.utf8EncodeChar).toByteArray := by
    rw [toUTF8_eq_flatMap, List.nil_append]
  rw [lossy, units, hbytes, show (0 : Nat) = ([] : List UInt8).length from rfl,
    unitsFrom_encode, List.map_map]
  conv => rhs; rw [← String.ofList_toList (s := s)]
  congr 1
  simp [Function.comp_def, charOf, Char.ofNat_toNat]

theorem encodeChar_ascii {c : Char} {b : UInt8} (hb : b ∈ String.utf8EncodeChar c)
    (hlt : b.toNat < 0x80) : c.toNat = b.toNat := by
  by_cases h1 : c.toNat ≤ 0x7f
  · rw [encodeChar_of_le_7f h1, List.mem_singleton] at hb
    subst hb
    simp [UInt8.toNat_ofNat']
    omega
  by_cases h2 : c.toNat ≤ 0x7ff
  · rw [encodeChar_of_le_7ff (by omega) h2] at hb
    simp only [List.mem_cons, List.not_mem_nil, or_false] at hb
    rcases hb with rfl | rfl <;> simp [UInt8.toNat_ofNat'] at hlt <;> omega
  by_cases h3 : c.toNat ≤ 0xffff
  · rw [encodeChar_of_le_ffff (by omega) h3] at hb
    simp only [List.mem_cons, List.not_mem_nil, or_false] at hb
    rcases hb with rfl | rfl | rfl <;> simp [UInt8.toNat_ofNat'] at hlt <;> omega
  · rw [encodeChar_of_gt_ffff (by omega)] at hb
    simp only [List.mem_cons, List.not_mem_nil, or_false] at hb
    rcases hb with rfl | rfl | rfl | rfl <;> simp [UInt8.toNat_ofNat'] at hlt <;> omega

theorem encodeChar_ne_zero {c : Char} (hc : c ≠ '\x00') : ∀ b ∈ String.utf8EncodeChar c, b ≠ 0 := by
  intro b hb h0
  subst h0
  exact hc (Char.toNat_inj.1 (encodeChar_ascii hb (by decide)))

theorem flatMap_encodeChar_ne_zero {cs : List Char} (h : '\x00' ∉ cs) :
    ∀ b ∈ cs.flatMap String.utf8EncodeChar, b ≠ 0 := by
  intro b hb
  obtain ⟨c, hc, hbc⟩ := List.mem_flatMap.1 hb
  exact encodeChar_ne_zero (fun e => h (e ▸ hc)) b hbc

/-! ## Decoded sequences

The converse of `decodeAt_encodeChar`: whatever `decodeAt` reads is the encoding of a character,
so the units of any byte string spell it back, character by character and stray byte by stray
byte. -/

theorem toNat_charOf {n : Nat} (h : n < 0xd800 ∨ (0xdfff < n ∧ n < 0x110000)) :
    (Char.ofNat n).toNat = n := by
  rw [Char.ofNat, dif_pos h]
  rfl

theorem ofNat_byte (b : UInt8) {n : Nat} (h : n = b.toNat) : UInt8.ofNat n = b := by
  subst h; exact UInt8.ofNat_toNat

/-- The `w` bytes at `i` are the encoding of the character with code point `c`. -/
def Encodes (s : ByteArray) (i c w : Nat) : Prop :=
  i + w ≤ s.size ∧ (Char.ofNat c).toNat = c ∧
    String.utf8EncodeChar (Char.ofNat c) = (List.range w).map fun j => s.get! (i + j)

section Sequences

variable {s : ByteArray} {i : Nat}

theorem encodes_one (hs : i + 1 ≤ s.size) (h0 : (s.get! i).toNat < 0x80) :
    Encodes s i (s.get! i).toNat 1 := by
  have hc : (Char.ofNat (s.get! i).toNat).toNat = (s.get! i).toNat := toNat_charOf (by omega)
  refine ⟨hs, hc, ?_⟩
  rw [encodeChar_of_le_7f (by omega), hc, UInt8.ofNat_toNat]
  rfl

theorem encodes_two (hs : i + 2 ≤ s.size) (h0 : 0xc2 ≤ (s.get! i).toNat ∧ (s.get! i).toNat ≤ 0xdf)
    (h1 : 0x80 ≤ (s.get! (i + 1)).toNat ∧ (s.get! (i + 1)).toNat ≤ 0xbf) :
    Encodes s i (((s.get! i).toNat &&& 31) <<< 6 ||| (s.get! (i + 1)).toNat &&& 63) 2 := by
  generalize hn : ((s.get! i).toNat &&& 31) <<< 6 ||| (s.get! (i + 1)).toNat &&& 63 = n
  rw [Nat.and_two_pow_sub_one_eq_mod _ 5, Nat.and_two_pow_sub_one_eq_mod _ 6,
    join2 _ _ (Nat.mod_lt _ (by decide))] at hn
  have hc : (Char.ofNat n).toNat = n := toNat_charOf (by omega)
  refine ⟨hs, hc, ?_⟩
  rw [encodeChar_of_le_7ff (by omega) (by omega), hc, ofNat_byte (s.get! i) (by omega),
    ofNat_byte (s.get! (i + 1)) (by omega)]
  rfl

theorem encodes_three (hs : i + 3 ≤ s.size)
    (h0 : 0xe0 ≤ (s.get! i).toNat ∧ (s.get! i).toNat ≤ 0xef)
    (h1 : 0x80 ≤ (s.get! (i + 1)).toNat ∧ (s.get! (i + 1)).toNat ≤ 0xbf)
    (h2 : 0x80 ≤ (s.get! (i + 2)).toNat ∧ (s.get! (i + 2)).toNat ≤ 0xbf)
    (hlo : (s.get! i).toNat = 0xe0 → 0xa0 ≤ (s.get! (i + 1)).toNat)
    (hsur : (s.get! i).toNat = 0xed → (s.get! (i + 1)).toNat ≤ 0x9f) :
    Encodes s i (((s.get! i).toNat &&& 15) <<< 12 ||| ((s.get! (i + 1)).toNat &&& 63) <<< 6 |||
      (s.get! (i + 2)).toNat &&& 63) 3 := by
  generalize hn : ((s.get! i).toNat &&& 15) <<< 12 ||| ((s.get! (i + 1)).toNat &&& 63) <<< 6 |||
    (s.get! (i + 2)).toNat &&& 63 = n
  rw [Nat.and_two_pow_sub_one_eq_mod _ 4, Nat.and_two_pow_sub_one_eq_mod _ 6,
    Nat.and_two_pow_sub_one_eq_mod _ 6,
    join3 _ _ _ (Nat.mod_lt _ (by decide)) (Nat.mod_lt _ (by decide))] at hn
  have hc : (Char.ofNat n).toNat = n := toNat_charOf (by omega)
  refine ⟨hs, hc, ?_⟩
  rw [encodeChar_of_le_ffff (by omega) (by omega), hc, ofNat_byte (s.get! i) (by omega),
    ofNat_byte (s.get! (i + 1)) (by omega), ofNat_byte (s.get! (i + 2)) (by omega)]
  rfl

theorem encodes_four (hs : i + 4 ≤ s.size)
    (h0 : 0xf0 ≤ (s.get! i).toNat ∧ (s.get! i).toNat ≤ 0xf4)
    (h1 : 0x80 ≤ (s.get! (i + 1)).toNat ∧ (s.get! (i + 1)).toNat ≤ 0xbf)
    (h2 : 0x80 ≤ (s.get! (i + 2)).toNat ∧ (s.get! (i + 2)).toNat ≤ 0xbf)
    (h3 : 0x80 ≤ (s.get! (i + 3)).toNat ∧ (s.get! (i + 3)).toNat ≤ 0xbf)
    (hlo : (s.get! i).toNat = 0xf0 → 0x90 ≤ (s.get! (i + 1)).toNat)
    (hhi : (s.get! i).toNat = 0xf4 → (s.get! (i + 1)).toNat ≤ 0x8f) :
    Encodes s i (((s.get! i).toNat &&& 7) <<< 18 ||| ((s.get! (i + 1)).toNat &&& 63) <<< 12 |||
      ((s.get! (i + 2)).toNat &&& 63) <<< 6 ||| (s.get! (i + 3)).toNat &&& 63) 4 := by
  generalize hn : ((s.get! i).toNat &&& 7) <<< 18 ||| ((s.get! (i + 1)).toNat &&& 63) <<< 12 |||
    ((s.get! (i + 2)).toNat &&& 63) <<< 6 ||| (s.get! (i + 3)).toNat &&& 63 = n
  rw [Nat.and_two_pow_sub_one_eq_mod _ 3, Nat.and_two_pow_sub_one_eq_mod _ 6,
    Nat.and_two_pow_sub_one_eq_mod _ 6, Nat.and_two_pow_sub_one_eq_mod _ 6,
    join4 _ _ _ _ (Nat.mod_lt _ (by decide)) (Nat.mod_lt _ (by decide))
      (Nat.mod_lt _ (by decide))] at hn
  have hc : (Char.ofNat n).toNat = n := toNat_charOf (by omega)
  refine ⟨hs, hc, ?_⟩
  rw [encodeChar_of_gt_ffff (by omega), hc, ofNat_byte (s.get! i) (by omega),
    ofNat_byte (s.get! (i + 1)) (by omega), ofNat_byte (s.get! (i + 2)) (by omega),
    ofNat_byte (s.get! (i + 3)) (by omega)]
  rfl

theorem decodeAt_encodes {c w : Nat} (h : decodeAt s i = some (c, w)) : Encodes s i c w := by
  unfold decodeAt at h
  simp only [within, UInt8.lt_iff_toNat_lt, UInt8.le_iff_toNat_le, UInt8.toNat_and,
    Nat.add_zero, UInt8.reduceToNat] at h
  split_ifs at h <;> simp only [Option.some.injEq, Prod.mk.injEq] at h <;>
    obtain ⟨rfl, rfl⟩ := h <;>
    simp only [Bool.not_eq_true', decide_eq_false_iff_not, Nat.not_le, Bool.and_eq_true,
      decide_eq_true_eq, beq_iff_eq, ← UInt8.toNat_inj, UInt8.reduceToNat] at *
  · exact encodes_one (by omega) (by omega)
  · exact encodes_two (by omega) (by omega) (by omega)
  any_goals exact encodes_three (by omega) (by omega) (by omega) (by omega) (by omega) (by omega)
  all_goals
    exact encodes_four (by omega) (by omega) (by omega) (by omega) (by omega) (by omega) (by omega)

end Sequences

theorem get!_data (s : ByteArray) (k : Nat) : s.get! k = s.data[k]! := by
  cases s
  rfl

theorem range_map_get! {s : ByteArray} {i w : Nat} (hs : i + w ≤ s.size) :
    ((List.range w).map fun j => s.get! (i + j)) = (s.data.toList.drop i).take w := by
  apply List.ext_getElem
  · have hsz : s.size = s.data.size := rfl
    simp only [List.length_map, List.length_range, List.length_take, List.length_drop,
      Array.length_toList]
    omega
  · intro j h₁ h₂
    have hj : i + j < s.data.size := by simp at h₁; exact Nat.lt_of_lt_of_le (by omega) hs
    simp only [List.getElem_map, List.getElem_range, List.getElem_take, List.getElem_drop,
      Array.getElem_toList, get!_data, getElem!_pos s.data (i + j) hj]

theorem unitsFrom_spells (s : ByteArray) (i : Nat) :
    (unitsFrom s i).flatMap Piece.bytes = s.data.toList.drop i ∧
      ∀ c w, Piece.point c w ∈ unitsFrom s i → (Char.ofNat c).toNat = c := by
  fun_induction unitsFrom s i with
  | case1 i hi c w hd hw ih =>
    obtain ⟨hfit, hc, henc⟩ := decodeAt_encodes hd
    refine ⟨?_, ?_⟩
    · rw [List.flatMap_cons, ih.1, Piece.bytes, henc, range_map_get! hfit, ← List.drop_drop,
        List.take_append_drop]
    · intro c' w' hmem
      rcases List.mem_cons.1 hmem with heq | hmem
      · cases heq
        exact hc
      · exact ih.2 c' w' hmem
  | case2 i hi c w hd hw =>
    obtain ⟨-, -, henc⟩ := decodeAt_encodes hd
    rw [show w = 0 by omega, List.range_zero, List.map_nil] at henc
    exact absurd henc String.utf8EncodeChar_ne_nil
  | case3 i hi hd ih =>
    have hi' : i < s.data.toList.length := by simpa using hi
    refine ⟨?_, ?_⟩
    · rw [List.flatMap_cons, ih.1, Piece.bytes, List.drop_eq_getElem_cons hi', get!_data,
        getElem!_pos s.data i hi]
      simp
    · intro c w hmem
      rcases List.mem_cons.1 hmem with heq | hmem
      · cases heq
      · exact ih.2 c w hmem
  | case4 i hi =>
    refine ⟨?_, by simp⟩
    rw [List.flatMap_nil, List.drop_eq_nil_of_le (by simpa using Nat.le_of_not_lt hi)]

theorem units_spell (s : ByteArray) : (units s).flatMap Piece.bytes = s.data.toList :=
  (unitsFrom_spells s 0).1

theorem units_valid (s : ByteArray) {c w : Nat} (h : Piece.point c w ∈ units s) :
    (Char.ofNat c).toNat = c :=
  (unitsFrom_spells s 0).2 c w h

theorem isValid_toUTF8 (s : String) : isValid s.toUTF8 = true := by
  have hbytes : s.toUTF8 = ([] ++ s.toList.flatMap String.utf8EncodeChar).toByteArray := by
    rw [toUTF8_eq_flatMap, List.nil_append]
  rw [isValid, units, hbytes, show (0 : Nat) = ([] : List UInt8).length from rfl,
    unitsFrom_encode]
  simp

theorem toUTF8_lossy {s : ByteArray} (h : isValid s = true) : (lossy s).toUTF8 = s := by
  rw [toUTF8_eq_flatMap, lossy, String.toList_ofList, List.flatMap_map]
  calc _ = ((units s).flatMap Piece.bytes).toByteArray := by
        rw [List.flatMap_def, List.flatMap_def, List.map_congr_left fun u hu => ?_]
        cases u with
        | point c w => rfl
        | invalid b => exact absurd (List.all_eq_true.1 h _ hu) (by simp)
    _ = s := by
        rw [units_spell]
        ext1
        simp

/-! ## Cutting a byte string

What `decodeAt` reads at an offset is fixed by the sequences the bytes from there encode
(`decodeAt_of_encodes` is the converse of `decodeAt_encodes`). So the end of a byte string
decodes the same whatever stands before it (`unitsFrom_append_right`), and a byte string cut just
before an ASCII byte, which no sequence runs into, decodes as its two pieces one after the other
(`units_append`). -/

theorem decodeAt_of_encodes {s : ByteArray} {i c w : Nat} (h : Encodes s i c w) :
    decodeAt s i = some (c, w) := by
  obtain ⟨hs, hc, henc⟩ := h
  have hlen : (String.utf8EncodeChar (Char.ofNat c)).length = w := by simp [henc]
  have hbytes : ∀ j (hj : j < (String.utf8EncodeChar (Char.ofNat c)).length),
      s.get! (i + j) = (String.utf8EncodeChar (Char.ofNat c))[j] := fun j hj => by
    rw [List.getElem_of_eq henc hj, List.getElem_map, List.getElem_range]
  rw [decodeAt_encodeChar s i hbytes (by rw [hlen]; exact hs), hc, hlen]

/-- Two offsets where the same sequences are encoded decode alike. -/
theorem decodeAt_congr {s t : ByteArray} {i j : Nat}
    (h : ∀ c w, Encodes s i c w ↔ Encodes t j c w) : decodeAt s i = decodeAt t j := by
  cases hs : decodeAt s i with
  | some p => exact (decodeAt_of_encodes ((h p.1 p.2).1 (decodeAt_encodes hs))).symm
  | none =>
    cases ht : decodeAt t j with
    | none => rfl
    | some p =>
      rw [decodeAt_of_encodes ((h p.1 p.2).2 (decodeAt_encodes ht))] at hs
      cases hs

theorem width_pos_of_decodeAt {s : ByteArray} {i c w : Nat} (h : decodeAt s i = some (c, w)) :
    0 < w := by
  obtain ⟨-, -, henc⟩ := decodeAt_encodes h
  have hne := congrArg List.length henc
  simp only [List.length_map, List.length_range] at hne
  exact hne ▸ List.length_pos_iff.2 String.utf8EncodeChar_ne_nil

theorem unitsFrom_of_none {s : ByteArray} {i : Nat} (hi : i < s.size) (hd : decodeAt s i = none) :
    unitsFrom s i = .invalid (s.get! i) :: unitsFrom s (i + 1) := by
  rw [unitsFrom, dif_pos hi]
  split
  · rename_i hd'
    rw [hd] at hd'
    cases hd'
  · rfl

theorem unitsFrom_of_le {s : ByteArray} {i : Nat} (hi : s.size ≤ i) : unitsFrom s i = [] := by
  rw [unitsFrom, dif_neg (Nat.not_lt.2 hi)]

theorem encodes_toByteArray {l : List UInt8} {i c w : Nat} :
    Encodes l.toByteArray i c w ↔ i + w ≤ l.length ∧ (Char.ofNat c).toNat = c ∧
      String.utf8EncodeChar (Char.ofNat c) = (l.drop i).take w := by
  have hdata : l.toByteArray.data.toList = l := by simp
  constructor
  · rintro ⟨hs, hc, henc⟩
    rw [henc, range_map_get! hs, hdata]
    exact ⟨by simpa using hs, hc, rfl⟩
  · rintro ⟨hs, hc, henc⟩
    have hs' : i + w ≤ l.toByteArray.size := by simpa using hs
    exact ⟨hs', hc, by rw [henc, range_map_get! hs', hdata]⟩

section Append

variable {a b : List UInt8}

theorem encodes_append_right {j c w : Nat} :
    Encodes (a ++ b).toByteArray (a.length + j) c w ↔ Encodes b.toByteArray j c w := by
  rw [encodes_toByteArray, encodes_toByteArray, List.drop_append,
    List.drop_eq_nil_of_le (by omega), List.nil_append, Nat.add_sub_cancel_left,
    List.length_append]
  constructor
  · rintro ⟨hs, hrest⟩
    exact ⟨by omega, hrest⟩
  · rintro ⟨hs, hrest⟩
    exact ⟨by omega, hrest⟩

theorem unitsFrom_append_right (j : Nat) :
    unitsFrom (a ++ b).toByteArray (a.length + j) = unitsFrom b.toByteArray j := by
  have hsize : (a ++ b).toByteArray.size = a.length + b.toByteArray.size := by simp
  fun_induction unitsFrom b.toByteArray j with
  | case1 j hj c w hd hw ih =>
    have hd' : decodeAt (a ++ b).toByteArray (a.length + j) = some (c, w) :=
      (decodeAt_congr fun _ _ => encodes_append_right).trans hd
    rw [unitsFrom_of_decodeAt (by omega) hd' hw, Nat.add_assoc, ih]
  | case2 j hj c w hd hw => exact absurd (width_pos_of_decodeAt hd) hw
  | case3 j hj hd ih =>
    have hd' : decodeAt (a ++ b).toByteArray (a.length + j) = none :=
      (decodeAt_congr fun _ _ => encodes_append_right).trans hd
    have hbyte : (a ++ b).toByteArray.get! (a.length + j) = b.toByteArray.get! j := by
      have hj' : j < b.length := by simpa using hj
      rw [get!_toByteArray _ (by simp; omega), get!_toByteArray _ hj',
        List.getElem_append_right (by omega)]
      simp
    rw [unitsFrom_of_none (by omega) hd', hbyte, Nat.add_assoc, ih]
  | case4 j hj => exact unitsFrom_of_le (by omega)

/-- A sequence that starts before an ASCII byte ends before it: every byte of an encoding but
the first is at least `0x80`. -/
theorem encodes_append_left {i c w : Nat} (hi : i < a.length) (hb : ∀ x ∈ b.head?, x.toNat < 0x80)
    (h : Encodes (a ++ b).toByteArray i c w) : Encodes a.toByteArray i c w := by
  rw [encodes_toByteArray] at h ⊢
  obtain ⟨hs, hc, henc⟩ := h
  have hfit : i + w ≤ a.length := by
    refine Nat.not_lt.1 fun hlt => ?_
    obtain ⟨x, rest, rfl⟩ : ∃ x rest, b = x :: rest := List.exists_cons_of_length_pos (by
      simp only [List.length_append] at hs; omega)
    -- the byte after `a` is ASCII and stands inside the sequence, so the character is ASCII
    have hmem : x ∈ String.utf8EncodeChar (Char.ofNat c) := by
      obtain ⟨k, hk⟩ : ∃ k, w - (a.drop i).length = k + 1 :=
        ⟨w - (a.drop i).length - 1, by simp only [List.length_drop]; omega⟩
      rw [henc, List.drop_append_of_le_length (Nat.le_of_lt hi), List.take_append,
        hk, List.take_succ_cons]
      exact List.mem_append_right _ List.mem_cons_self
    have hx := hb x rfl
    have hascii := encodeChar_ascii hmem hx
    have hone : (String.utf8EncodeChar (Char.ofNat c)).length = 1 := by
      rw [encodeChar_of_le_7f (by omega)]
      rfl
    have hlen := congrArg List.length henc
    simp only [List.length_take, List.length_drop, List.length_append, List.length_cons] at hlen hs
    omega
  refine ⟨hfit, hc, ?_⟩
  rw [henc, List.drop_append_of_le_length (Nat.le_of_lt hi),
    List.take_append_of_le_length (by simp; omega)]

theorem unitsFrom_append {i : Nat} (hi : i ≤ a.length) (hb : ∀ x ∈ b.head?, x.toNat < 0x80) :
    unitsFrom (a ++ b).toByteArray i = unitsFrom a.toByteArray i ++ unitsFrom b.toByteArray 0 := by
  have hsize : a.toByteArray.size = a.length := by simp
  fun_induction unitsFrom a.toByteArray i with
  | case1 i hlt c w hd hw ih =>
    have henc := encodes_toByteArray.1 (decodeAt_encodes hd)
    have hd' : decodeAt (a ++ b).toByteArray i = some (c, w) := by
      refine decodeAt_of_encodes (encodes_toByteArray.2 ⟨by simp; omega, ?_⟩)
      rw [List.drop_append_of_le_length (by omega), List.take_append_of_le_length (by simp; omega)]
      exact henc.2
    rw [unitsFrom_of_decodeAt (by simp; omega) hd' hw, ih (by omega), List.cons_append]
  | case2 i hlt c w hd hw => exact absurd (width_pos_of_decodeAt hd) hw
  | case3 i hlt hd ih =>
    have hd' : decodeAt (a ++ b).toByteArray i = none := by
      cases h : decodeAt (a ++ b).toByteArray i with
      | none => rfl
      | some p =>
        rw [decodeAt_of_encodes (encodes_append_left (by omega) hb (decodeAt_encodes h))] at hd
        cases hd
    have hbyte : (a ++ b).toByteArray.get! i = a.toByteArray.get! i := by
      rw [get!_toByteArray _ (by simp; omega), get!_toByteArray _ (by omega),
        List.getElem_append_left]
    rw [unitsFrom_of_none (by simp; omega) hd', hbyte, ih (by omega), List.cons_append]
  | case4 i hge =>
    obtain rfl : i = a.length := by omega
    rw [List.nil_append]
    exact unitsFrom_append_right 0

/-- A byte string cut before an ASCII byte decodes piece by piece. -/
theorem units_append (hb : ∀ x ∈ b.head?, x.toNat < 0x80) :
    units (a ++ b).toByteArray = units a.toByteArray ++ units b.toByteArray :=
  unitsFrom_append (Nat.zero_le _) hb

/-- An ASCII byte is a unit of its own, whatever follows it. -/
theorem units_cons_ascii {x : UInt8} (hx : x.toNat < 0x80) :
    units (x :: b).toByteArray = .point x.toNat 1 :: units b.toByteArray := by
  have hd : decodeAt (x :: b).toByteArray 0 = some (x.toNat, 1) := by
    have hget : ((x :: b).toByteArray.get! 0) = x := get!_toByteArray _ (by simp)
    have h := encodes_one (s := (x :: b).toByteArray) (i := 0) (by simp) (by rw [hget]; exact hx)
    rw [hget] at h
    exact decodeAt_of_encodes h
  have hrest : unitsFrom (x :: b).toByteArray 1 = unitsFrom b.toByteArray 0 :=
    unitsFrom_append_right (a := [x]) 0
  rw [units, unitsFrom_of_decodeAt (by simp) hd Nat.one_pos, hrest]
  rfl

end Append

theorem units_toUTF8 (s : String) :
    units s.toUTF8 = s.toList.map fun c => .point c.toNat (String.utf8EncodeChar c).length := by
  rw [units, toUTF8_eq_flatMap, ← List.nil_append (s.toList.flatMap _),
    show (0 : Nat) = ([] : List UInt8).length from rfl, unitsFrom_encode]

theorem units_data_toByteArray (w : ByteArray) : units w.data.toList.toByteArray = units w := by
  congr 1
  ext1
  simp


end Introspection.Text.Utf8
