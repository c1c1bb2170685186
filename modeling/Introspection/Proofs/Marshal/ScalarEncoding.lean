import Introspection.Marshal.Convert

/-!
# Scalar encodings

The encoders behind the scalar conversions. A signed slot takes the integers of its range but no
raw address, an unsigned slot the integers from zero to below `2 ^ bits`, and a character slot the
code points up to `0x10FFFF` and the strings of one character other than U+FFFD. An enum or flags
value converts as its integer, and a number a slot does not take fails with an overflow cause.

Reading a payload back as an integer type keeps its low bits with the type's sign
(`IntType.wrap`): the reading lies in the type's range, a value of the range reads as itself, and
for the eight fixed-width integer tags the 64 bits of the reading are the slot's canonical form of
the payload (`slot_of_intTag`).
-/

namespace Introspection.IntType

/-! ## Integer types -/

theorem wrap_of_mem {t : IntType} {x : Int} (hlo : t.min ≤ x) (hhi : x ≤ t.max) :
    t.wrap x = x := by
  cases t <;> simp only [wrap, min, max, bits, signed, Bool.true_and, Bool.false_and,
    Bool.false_eq_true, if_true, if_false] at * <;> grind

theorem wrap_emod (t : IntType) (x : Int) {m : Nat} (hm : t.bits ≤ m) :
    t.wrap (x % 2 ^ m) = t.wrap x := by
  have hdvd : (2 : Int) ^ t.bits ∣ 2 ^ m := by exact_mod_cast Nat.pow_dvd_pow 2 hm
  simp only [wrap, Int.emod_emod_of_dvd x hdvd]

theorem wrap_bits64 (t : IntType) (x : Int) : t.wrap (Value.bits64 x) = t.wrap x := by
  have h : ((Value.bits64 x : Nat) : Int) = x % 2 ^ 64 := by
    unfold Value.bits64; omega
  rw [h, wrap_emod]
  cases t <;> decide

theorem bits_le (t : IntType) : t.bits ≤ 64 := by
  cases t <;> decide

theorem range_of_signed {t : IntType} (hs : t.signed = true) :
    t.min = (Marshal.signedRange t.bits).1 ∧ t.max = (Marshal.signedRange t.bits).2 := by
  simp [min, max, hs, Marshal.signedRange]

theorem range_of_unsigned {t : IntType} (hs : t.signed = false) :
    t.min = 0 ∧ t.max = 2 ^ t.bits - 1 := by
  simp [min, max, hs]

theorem bits64_of_nonneg {x : Int} (h0 : 0 ≤ x) (h : x < 2 ^ 64) : Value.bits64 x = x.toNat := by
  unfold Value.bits64
  rw [Int.emod_eq_of_lt h0 h]

end Introspection.IntType

namespace Introspection.Text.Utf8

end Introspection.Text.Utf8

namespace Introspection.Marshal

open Introspection.Typelib Introspection.Native Introspection.Loaded

/-! ## Fixed-width integer tags -/

/-- The fixed-width integer tags, each with the host integer type of its values. -/
def intTags : List (TypeTag × IntType) :=
  [(.int8, .int8), (.uint8, .uint8), (.int16, .int16), (.uint16, .uint16),
    (.int32, .int32), (.uint32, .uint32), (.int64, .int64), (.uint64, .uint64)]

theorem slot_of_intTag {tag : TypeTag} {t : IntType} (h : (tag, t) ∈ intTags) :
    ∃ k, tagKind? tag = some k ∧ (∀ w, 8 * k.size w = t.bits) ∧
      ∀ a : Nat, Value.bits64 (t.wrap a) = k.normalize a := by
  simp only [intTags, List.mem_cons, Prod.mk.injEq, List.not_mem_nil, or_false] at h
  obtain ⟨rfl, rfl⟩ | ⟨rfl, rfl⟩ | ⟨rfl, rfl⟩ | ⟨rfl, rfl⟩ | ⟨rfl, rfl⟩ | ⟨rfl, rfl⟩ | ⟨rfl, rfl⟩ |
    ⟨rfl, rfl⟩ := h <;>
    refine ⟨_, rfl, fun _ => rfl, fun a => ?_⟩ <;>
    simp only [Value.bits64, IntType.wrap, IntType.bits, IntType.signed, ValueKind.normalize,
      Bool.true_and, Bool.false_and, Bool.false_eq_true, if_false, Nat.reduceSub, Nat.reducePow,
      Int.reducePow] <;>
    (repeat' split) <;> grind

/-- The failure of a number outside the range of the type it is converted to: a conversion error
whose cause is an overflow. -/
def overflowFailure (o : Options) (v : Value) (ty : String) : Failure :=
  conversionError o v ty (some (.overflow .encode o.path v ty)) "out of range"

section
variable (ty : String) (o : Options)

theorem encodeSigned_int (t : IntType) (x : Int) {bits : Nat} (hb : bits ≤ 64) :
    encodeSigned (.int t x) ty bits o =
      if t ≠ .uintptr ∧ (signedRange bits).1 ≤ x ∧ x ≤ (signedRange bits).2 then
        .ok (Value.bits64 x)
      else .error (overflowFailure o (.int t x) ty) := by
  have hpow : (2 : Int) ^ (bits - 1) ≤ 2 ^ 63 := by
    exact_mod_cast Nat.pow_le_pow_right (by decide) (by omega)
  have hhi : (signedRange bits).2 = 2 ^ (bits - 1) - 1 := rfl
  simp only [encodeSigned, encodeSigned.fail, Value.integer?, Value.toInt64?, Value.isNumber,
    if_true, overflowFailure]
  by_cases hu : t = .uintptr
  ·
    simp [hu]
  rw [if_neg (by simpa using hu)]
  by_cases hbig : (!t.signed && decide (x > IntType.int64.max)) = true
  ·
    have hx : IntType.int64.max < x := by
      simp only [Bool.and_eq_true, decide_eq_true_eq] at hbig; exact hbig.2
    have hmax : IntType.int64.max = 2 ^ 63 - 1 := rfl
    rw [if_pos hbig, if_neg fun h => absurd h.2.2 (by omega)]
  · rw [if_neg hbig]
    dsimp only
    simp only [Bool.or_eq_true, decide_eq_true_eq]
    by_cases hr : (signedRange bits).1 ≤ x ∧ x ≤ (signedRange bits).2
    · rw [if_neg (by omega), if_pos ⟨hu, hr⟩]
    · rw [if_pos (by omega), if_neg fun h => hr h.2]

theorem encodeUnsigned_int (t : IntType) (x : Int) (bits : Nat) :
    encodeUnsigned (.int t x) ty bits o =
      if 0 ≤ x ∧ x < 2 ^ bits then .ok x.toNat
      else .error (overflowFailure o (.int t x) ty) := by
  simp only [encodeUnsigned, encodeUnsigned.fail, Value.integer?, Value.toUInt64?,
    Value.isNumber, if_true, overflowFailure]
  by_cases hneg : x < 0
  · rw [if_pos hneg, if_neg fun h => absurd h.1 (by omega)]
  · rw [if_neg hneg]
    dsimp only
    by_cases hr : x < 2 ^ bits
    · have hfit : ¬(x.toNat ≥ 2 ^ bits) := by
        have : ((2 ^ bits : Nat) : Int) = 2 ^ bits := by push_cast; rfl
        omega
      rw [if_neg hfit, if_pos ⟨by omega, hr⟩]
    · have hfit : x.toNat ≥ 2 ^ bits := by
        have : ((2 ^ bits : Nat) : Int) = 2 ^ bits := by push_cast; rfl
        omega
      rw [if_pos hfit, if_neg fun h => hr h.2]

theorem encodeSigned_integer {v : Value} {i : Int} (h : v.integer? = some i) (bits : Nat) :
    encodeSigned v ty bits o = encodeSigned (.int .int64 i) ty bits o := by
  unfold encodeSigned
  rw [h]
  rfl

theorem encodeUnsigned_integer {v : Value} {i : Int} (h : v.integer? = some i) (bits : Nat) :
    encodeUnsigned v ty bits o = encodeUnsigned (.int .int64 i) ty bits o := by
  unfold encodeUnsigned
  rw [h]
  rfl

theorem integer_of_isNumber {v : Value} (hv : v.isNumber = true) : v.integer? = none := by
  cases v <;> simp_all [Value.isNumber, Value.integer?]

theorem encodeSigned_number {v : Value} (hv : v.isNumber = true) (bits : Nat) :
    (∃ p, encodeSigned v ty bits o = .ok p) ∨
      encodeSigned v ty bits o = .error (overflowFailure o v ty) := by
  simp only [encodeSigned, encodeSigned.fail, integer_of_isNumber hv, hv, if_true,
    overflowFailure]
  split
  · split
    · exact .inr rfl
    · exact .inl ⟨_, rfl⟩
  · exact .inr rfl

theorem encodeUnsigned_number {v : Value} (hv : v.isNumber = true) (bits : Nat) :
    (∃ p, encodeUnsigned v ty bits o = .ok p) ∨
      encodeUnsigned v ty bits o = .error (overflowFailure o v ty) := by
  simp only [encodeUnsigned, encodeUnsigned.fail, integer_of_isNumber hv, hv, if_true,
    overflowFailure]
  split
  · split
    · exact .inr rfl
    · exact .inl ⟨_, rfl⟩
  · exact .inr rfl

theorem encodeSigned_other {v : Value} (hn : v.isNumber = false) (hi : v.integer? = none)
    (bits : Nat) :
    encodeSigned v ty bits o = .error (conversionError o v ty none "want integer") := by
  have hnone : v.toInt64? = none := by
    cases v <;> simp_all [Value.isNumber, Value.toInt64?]
  simp only [encodeSigned, encodeSigned.fail, hi, hnone, hn, Bool.false_eq_true, if_false]

theorem encodeUnsigned_other {v : Value} (hn : v.isNumber = false) (hi : v.integer? = none)
    (bits : Nat) :
    encodeUnsigned v ty bits o =
      .error (conversionError o v ty none "want unsigned integer") := by
  have hnone : v.toUInt64? = none := by
    cases v <;> simp_all [Value.isNumber, Value.toUInt64?]
  simp only [encodeUnsigned, encodeUnsigned.fail, hi, hnone, hn, Bool.false_eq_true, if_false]

theorem encodeUnichar_int (t : IntType) (x : Int) :
    encodeUnichar (.int t x) ty o =
      if 0 ≤ x ∧ x ≤ 0x10FFFF then .ok x.toNat
      else .error (conversionError o (.int t x) ty none "want rune") := by
  simp only [encodeUnichar, Value.toUInt64?]
  by_cases hneg : x < 0
  · rw [if_pos hneg, if_neg fun h => absurd h.1 (by omega)]
  · rw [if_neg hneg]
    dsimp only
    by_cases hr : x ≤ 0x10FFFF
    · rw [if_neg (by omega), if_pos ⟨by omega, hr⟩]
    · rw [if_pos (by omega), if_neg fun h => hr h.2]

theorem encodeUnichar_str (b : ByteArray) (c : Nat) :
    encodeUnichar (.str b) ty o = .ok c ↔
      Text.Utf8.decodeAt b 0 = some (c, b.size) ∧ c ≠ 0xFFFD := by
  simp only [encodeUnichar]
  split
  · rename_i c' w hdec
    split
    · rename_i hok
      simp only [Bool.and_eq_true, beq_iff_eq, bne_iff_ne, ne_eq] at hok
      simp only [Except.ok.injEq, hdec, Option.some.injEq, Prod.mk.injEq]
      constructor
      · rintro rfl; exact ⟨⟨rfl, hok.1⟩, hok.2⟩
      · rintro ⟨⟨rfl, -⟩, -⟩; rfl
    · rename_i hbad
      simp only [Bool.and_eq_true, beq_iff_eq, bne_iff_ne, ne_eq, not_and,
        Decidable.not_not] at hbad
      simp only [reduceCtorEq, false_iff, hdec, Option.some.injEq, Prod.mk.injEq, not_and]
      rintro ⟨rfl, rfl⟩ hc
      exact hc (hbad rfl)
  · rename_i hdec
    simp [hdec]

theorem toFloat?_isSome (v : Value) :
    v.toFloat?.isSome = true ↔ v.isNumber = true ∧ ∀ x, v = .int .uintptr x → 0 ≤ x := by
  cases v with
  | int t x =>
    simp only [Value.toFloat?, Value.toInt64?, Value.toUInt64?, Value.isNumber, Value.int.injEq,
      true_and]
    by_cases hu : t = .uintptr
    · subst hu
      by_cases hx : x < 0
      · simp [hx]
      · simp [hx]; omega
    ·
      have hmax : IntType.int64.max = 2 ^ 63 - 1 := rfl
      split <;> simp_all
      omega
  | float32 x => simp [Value.toFloat?, Value.isNumber]
  | float64 x => simp [Value.toFloat?, Value.isNumber]
  | _ => simp [Value.toFloat?, Value.toInt64?, Value.toUInt64?, Value.isNumber]

end

end Introspection.Marshal
