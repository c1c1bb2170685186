import Mathlib
import Introspection.Proofs.Marshal.Lifetimes
import Introspection.Proofs.Marshal.ScalarEncoding

/-!
# Scalar conversions

A type that is not passed by pointer and whose tag is a boolean, a fixed-width integer, a float,
a double, a GType or a character is converted in one slot. Converting a host value to it reads
the repository, the type's text and the converter, and for a GType the pointer width of the
converter's memory, and changes nothing: the session after a conversion, whether it succeeds or
fails, is the session before.

`scalar_acceptance` says which host values each such type takes and how the others fail;
`scalar_round_trip` what a payload reads back as under the type it was converted to. Integers
come back as themselves in the type's own host type, booleans and doubles as themselves,
characters as the rune of their code point. A GType value is the exception: it is converted
without a range check, so on a memory of 4-byte pointers a value of `2 ^ 32` or more comes back
cut to its low 32 bits (`wide_gtype_reads_back_cut`).
-/

namespace Introspection.Marshal

open Introspection.Typelib Introspection.Native Introspection.Loaded Introspection.Repository
open Introspection.Info Introspection.Loaded.Session
open Introspection.Invoke.Session (run_bind run_pure run_throw run_get run_repoM)

/-! ## Scalar type infos -/

theorem typeText_scalar {r : Repository} {ti : Info} (hp : Info.isPointer r ti = false)
    (hc : (Info.tag r ti).code ∈ [1, 2, 3, 4, 5, 6, 7, 8, 9, 10, 11, 12, 21]) :
    Info.typeText ti r = ((Info.tag r ti).name, r) := by
  unfold Info.typeText
  simp only [Repository.run_bind, Repository.run_get]
  unfold Info.typeTextUpTo
  simp only [Repository.run_bind, Repository.run_get]
  simp only [List.mem_cons, List.not_mem_nil, or_false] at hc
  obtain h | h | h | h | h | h | h | h | h | h | h | h | h := hc <;>
    simp only [h, Repository.run_bind, Repository.run_pure, Repository.run_get] <;> simp [hp]

theorem run_toNative_fuel (hooks : Hooks) (conv : Nat) (v : Value) (ti : Info) (o : Options)
    (s : Session) :
    (toNative hooks conv v ti o).run s = (toNativeUpTo hooks conv (2 ^ 64 - 1 + 1) v ti o).run s := by
  rw [toNative, Info.typeDepth_succ]

theorem run_fromNative_fuel (hooks : Hooks) (conv : Nat) (a : Nat) (ti : Info) (tr : Transfer)
    (s : Session) :
    (fromNative hooks conv a ti tr).run s =
      (fromNativeUpTo hooks conv (2 ^ 64 - 1 + 1) a ti tr).run s := by
  rw [fromNative, Info.typeDepth_succ]

theorem run_get_bind {α : Type} (f : Session → SessionM α) (s : Session) :
    (get >>= f).run s = (f s).run s := by
  rw [run_bind, run_get]

theorem run_reads_bind {α β : Type} {m : RepoM α} {s : Session} {a : α}
    (h : m s.repo = (a, s.repo)) (f : α → SessionM β) : (repoM m >>= f).run s = (f a).run s := by
  rw [run_bind, run_repoM h]

theorem run_converter_bind {α : Type} (c : Nat) (f : Converter → SessionM α) (s : Session) :
    (converter c >>= f).run s = (f (s.converters.getD c default)).run s := by
  rw [run_bind, run_converter]

section
variable (hooks : Hooks) (conv : Nat) (o : Options) (s : Session) {ti : Info}

/-
Each lemma below walks one scalar arm of the converters: the reads of the repository, the
type's text and the converter leave the session as it is, the type is no pointer and no `void`,
and the tag's code picks the arm.
-/

theorem run_encodeValue_int (convert : Value → Info → Options → SessionM Nat) (v : Value)
    {tag : TypeTag} {t : IntType} (h : (tag, t) ∈ intTags)
    (htag : Info.tag s.repo ti = tag) (hp : Info.isPointer s.repo ti = false) :
    (encodeValue hooks conv convert v ti o).run s =
      ((if t.signed then encodeSigned v tag.name t.bits o else encodeUnsigned v tag.name t.bits o),
        s) := by
  simp only [intTags, List.mem_cons, Prod.mk.injEq, List.not_mem_nil, or_false] at h
  unfold encodeValue
  obtain ⟨rfl, rfl⟩ | ⟨rfl, rfl⟩ | ⟨rfl, rfl⟩ | ⟨rfl, rfl⟩ | ⟨rfl, rfl⟩ | ⟨rfl, rfl⟩ | ⟨rfl, rfl⟩ |
    ⟨rfl, rfl⟩ := h <;>
  · have ht := typeText_scalar hp (by rw [htag]; decide)
    rw [run_get_bind, run_reads_bind ht, run_converter_bind, hp, htag, if_neg (by decide)]
    simp only [TypeTag.int8, TypeTag.uint8, TypeTag.int16, TypeTag.uint16, TypeTag.int32,
      TypeTag.uint32, TypeTag.int64, TypeTag.uint64]
    exact run_lift _ _

theorem run_toNative_int (v : Value) {tag : TypeTag} {t : IntType} (h : (tag, t) ∈ intTags)
    (htag : Info.tag s.repo ti = tag) (hp : Info.isPointer s.repo ti = false) :
    (toNative hooks conv v ti o).run s =
      ((if t.signed then encodeSigned v tag.name t.bits o else encodeUnsigned v tag.name t.bits o),
        s) := by
  rw [run_toNative_fuel]
  unfold toNativeUpTo
  exact run_encodeValue_int hooks conv o s _ v h htag hp

theorem run_fromNativeUpTo_int (fuel a : Nat) (tr : Transfer) {tag : TypeTag} {t : IntType}
    (h : (tag, t) ∈ intTags) (htag : Info.tag s.repo ti = tag)
    (hp : Info.isPointer s.repo ti = false) :
    (fromNativeUpTo hooks conv (fuel + 1) a ti tr).run s = (.ok (.int t (t.wrap a)), s) := by
  simp only [intTags, List.mem_cons, Prod.mk.injEq, List.not_mem_nil, or_false] at h
  unfold fromNativeUpTo
  obtain ⟨rfl, rfl⟩ | ⟨rfl, rfl⟩ | ⟨rfl, rfl⟩ | ⟨rfl, rfl⟩ | ⟨rfl, rfl⟩ | ⟨rfl, rfl⟩ | ⟨rfl, rfl⟩ |
    ⟨rfl, rfl⟩ := h <;>
  · have ht := typeText_scalar hp (by rw [htag]; decide)
    rw [run_get_bind, run_converter_bind, hp, htag, if_neg (by decide), run_reads_bind ht]
    simp only [TypeTag.int8, TypeTag.uint8, TypeTag.int16, TypeTag.uint16, TypeTag.int32,
      TypeTag.uint32, TypeTag.int64, TypeTag.uint64]
    rfl

theorem run_toNative_gtype_value (g : Nat) (htag : Info.tag s.repo ti = .gtype)
    (hp : Info.isPointer s.repo ti = false) :
    (toNative hooks conv (.gtype g) ti o).run s = (.ok g, s) := by
  have ht := typeText_scalar hp (by rw [htag]; decide)
  rw [run_toNative_fuel]
  unfold toNativeUpTo encodeValue
  rw [run_get_bind, run_reads_bind ht, run_converter_bind, hp, htag, if_neg (by decide)]
  simp only [TypeTag.gtype]
  rfl

theorem run_toNative_gtype (v : Value) (hv : ∀ g, v ≠ .gtype g) {w : Nat}
    (hw : (ptrSize (s.converters.getD conv default).handle).run s = (.ok w, s))
    (htag : Info.tag s.repo ti = .gtype) (hp : Info.isPointer s.repo ti = false) :
    (toNative hooks conv v ti o).run s = (encodeUnsigned v TypeTag.gtype.name (w * 8) o, s) := by
  have ht := typeText_scalar hp (by rw [htag]; decide)
  rw [run_toNative_fuel]
  unfold toNativeUpTo encodeValue
  rw [run_get_bind, run_reads_bind ht, run_converter_bind, hp, htag, if_neg (by decide)]
  simp only [TypeTag.gtype]
  rw [run_bind, hw]
  exact run_lift _ _

theorem run_toNative_unichar (v : Value) (htag : Info.tag s.repo ti = .unichar)
    (hp : Info.isPointer s.repo ti = false) :
    (toNative hooks conv v ti o).run s = (encodeUnichar v TypeTag.unichar.name o, s) := by
  have ht := typeText_scalar hp (by rw [htag]; decide)
  rw [run_toNative_fuel]
  unfold toNativeUpTo encodeValue
  rw [run_get_bind, run_reads_bind ht, run_converter_bind, hp, htag, if_neg (by decide)]
  simp only [TypeTag.unichar]
  exact run_lift _ _

theorem run_toNative_bool (b : Bool) (htag : Info.tag s.repo ti = .boolean)
    (hp : Info.isPointer s.repo ti = false) :
    (toNative hooks conv (.bool b) ti o).run s = (.ok (if b then 1 else 0), s) := by
  have ht := typeText_scalar hp (by rw [htag]; decide)
  rw [run_toNative_fuel]
  unfold toNativeUpTo encodeValue
  rw [run_get_bind, run_reads_bind ht, run_converter_bind, hp, htag, if_neg (by decide)]
  simp only [TypeTag.boolean]
  rfl

theorem run_toNative_not_bool (v : Value) (hv : ∀ b, v ≠ .bool b)
    (htag : Info.tag s.repo ti = .boolean) (hp : Info.isPointer s.repo ti = false) :
    (toNative hooks conv v ti o).run s =
      (.error (conversionError o v TypeTag.boolean.name none "want bool"), s) := by
  have ht := typeText_scalar hp (by rw [htag]; decide)
  rw [run_toNative_fuel]
  unfold toNativeUpTo encodeValue
  rw [run_get_bind, run_reads_bind ht, run_converter_bind, hp, htag, if_neg (by decide)]
  simp only [TypeTag.boolean]
  rfl

theorem run_toNative_double {v : Value} {f : Float} (hf : v.toFloat? = some f)
    (htag : Info.tag s.repo ti = .double) (hp : Info.isPointer s.repo ti = false) :
    (toNative hooks conv v ti o).run s = (.ok (Value.doubleBits f), s) := by
  have ht := typeText_scalar hp (by rw [htag]; decide)
  rw [run_toNative_fuel]
  unfold toNativeUpTo encodeValue
  rw [run_get_bind, run_reads_bind ht, run_converter_bind, hp, htag, if_neg (by decide)]
  simp only [TypeTag.double, hf]
  rfl

theorem run_toNative_double_none {v : Value} (hf : v.toFloat? = none)
    (htag : Info.tag s.repo ti = .double) (hp : Info.isPointer s.repo ti = false) :
    (toNative hooks conv v ti o).run s =
      (.error (conversionError o v TypeTag.double.name none "want number"), s) := by
  have ht := typeText_scalar hp (by rw [htag]; decide)
  rw [run_toNative_fuel]
  unfold toNativeUpTo encodeValue
  rw [run_get_bind, run_reads_bind ht, run_converter_bind, hp, htag, if_neg (by decide)]
  simp only [TypeTag.double, hf]
  rfl

theorem run_toNative_float {v : Value} {f : Float} (hf : v.toFloat? = some f)
    (htag : Info.tag s.repo ti = .float) (hp : Info.isPointer s.repo ti = false) :
    (toNative hooks conv v ti o).run s =
      (if (!f.isInf && !f.isNaN && f.abs > 3.4028234663852886e38) = true then
        .error (conversionError o v TypeTag.float.name (some (.overflow .encode o.path v "gfloat"))
          "out of range")
      else .ok f.toFloat32.toBits.toNat, s) := by
  have ht := typeText_scalar hp (by rw [htag]; decide)
  rw [run_toNative_fuel]
  unfold toNativeUpTo encodeValue
  rw [run_get_bind, run_reads_bind ht, run_converter_bind, hp, htag, if_neg (by decide)]
  simp only [TypeTag.float, hf]
  split <;> rfl

theorem run_toNative_float_none {v : Value} (hf : v.toFloat? = none)
    (htag : Info.tag s.repo ti = .float) (hp : Info.isPointer s.repo ti = false) :
    (toNative hooks conv v ti o).run s =
      (.error (conversionError o v TypeTag.float.name none "want number"), s) := by
  have ht := typeText_scalar hp (by rw [htag]; decide)
  rw [run_toNative_fuel]
  unfold toNativeUpTo encodeValue
  rw [run_get_bind, run_reads_bind ht, run_converter_bind, hp, htag, if_neg (by decide)]
  simp only [TypeTag.float, hf]
  rfl

/-! ## Acceptance -/

variable {tag : TypeTag} {t : IntType}

theorem run_toNative_int_value (t' : IntType) (x : Int) (h : (tag, t) ∈ intTags)
    (htag : Info.tag s.repo ti = tag) (hp : Info.isPointer s.repo ti = false) :
    (toNative hooks conv (.int t' x) ti o).run s =
      if t.min ≤ x ∧ x ≤ t.max ∧ (t.signed = true → t' ≠ .uintptr) then
        (.ok (Value.bits64 x), s)
      else (.error (overflowFailure o (.int t' x) tag.name), s) := by
  rw [run_toNative_int hooks conv o s _ h htag hp]
  cases hs : t.signed
  · obtain ⟨hmin, hmax⟩ := IntType.range_of_unsigned hs
    have hpow : (2 : Int) ^ t.bits ≤ 2 ^ 64 := by
      exact_mod_cast Nat.pow_le_pow_right (by decide) (IntType.bits_le t)
    rw [if_neg Bool.false_ne_true, encodeUnsigned_int, hmin, hmax]
    by_cases hr : 0 ≤ x ∧ x < 2 ^ t.bits
    · rw [if_pos hr, if_pos ⟨hr.1, by omega, nofun⟩,
        IntType.bits64_of_nonneg hr.1 (by omega)]
    · rw [if_neg hr, if_neg fun h' => hr ⟨h'.1, by omega⟩]
  · obtain ⟨hmin, hmax⟩ := IntType.range_of_signed hs
    rw [if_pos rfl, encodeSigned_int _ _ _ _ (IntType.bits_le t), hmin, hmax]
    by_cases hr : t' ≠ .uintptr ∧ (signedRange t.bits).1 ≤ x ∧ x ≤ (signedRange t.bits).2
    · rw [if_pos hr, if_pos ⟨hr.2.1, hr.2.2, fun _ => hr.1⟩]
    · rw [if_neg hr, if_neg fun h' => hr ⟨h'.2.2 rfl, h'.1, h'.2.1⟩]

theorem run_toNative_int_integer {v : Value} {i : Int} (hi : v.integer? = some i)
    (h : (tag, t) ∈ intTags) (htag : Info.tag s.repo ti = tag)
    (hp : Info.isPointer s.repo ti = false) :
    (toNative hooks conv v ti o).run s = (toNative hooks conv (.int .int64 i) ti o).run s := by
  rw [run_toNative_int hooks conv o s _ h htag hp, run_toNative_int hooks conv o s _ h htag hp,
    encodeSigned_integer _ _ hi, encodeUnsigned_integer _ _ hi]

theorem run_toNative_int_number {v : Value} (hv : v.isNumber = true) (h : (tag, t) ∈ intTags)
    (htag : Info.tag s.repo ti = tag) (hp : Info.isPointer s.repo ti = false) :
    (∃ p, (toNative hooks conv v ti o).run s = (.ok p, s)) ∨
      (toNative hooks conv v ti o).run s = (.error (overflowFailure o v tag.name), s) := by
  rw [run_toNative_int hooks conv o s _ h htag hp]
  split
  · rcases encodeSigned_number tag.name o hv t.bits with ⟨p, hok⟩ | herr
    · exact .inl ⟨p, by rw [hok]⟩
    · exact .inr (by rw [herr])
  · rcases encodeUnsigned_number tag.name o hv t.bits with ⟨p, hok⟩ | herr
    · exact .inl ⟨p, by rw [hok]⟩
    · exact .inr (by rw [herr])

theorem run_toNative_int_other {v : Value} (hn : v.isNumber = false) (hi : v.integer? = none)
    (h : (tag, t) ∈ intTags) (htag : Info.tag s.repo ti = tag)
    (hp : Info.isPointer s.repo ti = false) :
    ∃ e, (toNative hooks conv v ti o).run s = (.error e, s) := by
  rw [run_toNative_int hooks conv o s _ h htag hp]
  split
  · exact ⟨_, by rw [encodeSigned_other _ _ hn hi]⟩
  · exact ⟨_, by rw [encodeUnsigned_other _ _ hn hi]⟩

theorem run_toNative_gtype_int (t' : IntType) (x : Int) {w : Nat}
    (hw : (ptrSize (s.converters.getD conv default).handle).run s = (.ok w, s))
    (htag : Info.tag s.repo ti = .gtype) (hp : Info.isPointer s.repo ti = false) :
    (toNative hooks conv (.int t' x) ti o).run s =
      if 0 ≤ x ∧ x < 2 ^ (w * 8) then (.ok x.toNat, s)
      else (.error (overflowFailure o (.int t' x) TypeTag.gtype.name), s) := by
  rw [run_toNative_gtype hooks conv o s _ (fun _ h => by cases h) hw htag hp, encodeUnsigned_int]
  split <;> rfl

theorem run_toNative_gtype_integer {v : Value} {i : Int} (hi : v.integer? = some i) {w : Nat}
    (hw : (ptrSize (s.converters.getD conv default).handle).run s = (.ok w, s))
    (htag : Info.tag s.repo ti = .gtype) (hp : Info.isPointer s.repo ti = false) :
    (toNative hooks conv v ti o).run s = (toNative hooks conv (.int .int64 i) ti o).run s := by
  have hv : ∀ g, v ≠ .gtype g := by rintro g rfl; cases hi
  rw [run_toNative_gtype hooks conv o s _ hv hw htag hp,
    run_toNative_gtype hooks conv o s _ (fun _ h => by cases h) hw htag hp,
    encodeUnsigned_integer _ _ hi]

theorem run_toNative_gtype_number {v : Value} (hv : v.isNumber = true) {w : Nat}
    (hw : (ptrSize (s.converters.getD conv default).handle).run s = (.ok w, s))
    (htag : Info.tag s.repo ti = .gtype) (hp : Info.isPointer s.repo ti = false) :
    (∃ p, (toNative hooks conv v ti o).run s = (.ok p, s)) ∨
      (toNative hooks conv v ti o).run s =
        (.error (overflowFailure o v TypeTag.gtype.name), s) := by
  have hg : ∀ g, v ≠ .gtype g := by rintro g rfl; cases hv
  rw [run_toNative_gtype hooks conv o s _ hg hw htag hp]
  rcases encodeUnsigned_number TypeTag.gtype.name o hv (w * 8) with ⟨p, hok⟩ | herr
  · exact .inl ⟨p, by rw [hok]⟩
  · exact .inr (by rw [herr])

theorem run_toNative_gtype_other {v : Value} (hn : v.isNumber = false) (hi : v.integer? = none)
    (hg : ∀ g, v ≠ .gtype g) {w : Nat}
    (hw : (ptrSize (s.converters.getD conv default).handle).run s = (.ok w, s))
    (htag : Info.tag s.repo ti = .gtype) (hp : Info.isPointer s.repo ti = false) :
    ∃ e, (toNative hooks conv v ti o).run s = (.error e, s) :=
  ⟨_, by rw [run_toNative_gtype hooks conv o s _ hg hw htag hp, encodeUnsigned_other _ _ hn hi]⟩

theorem run_toNative_unichar_str (b : ByteArray) (c : Nat) (htag : Info.tag s.repo ti = .unichar)
    (hp : Info.isPointer s.repo ti = false) :
    (toNative hooks conv (.str b) ti o).run s = (.ok c, s) ↔
      Text.Utf8.decodeAt b 0 = some (c, b.size) ∧ c ≠ 0xFFFD := by
  rw [run_toNative_unichar hooks conv o s _ htag hp, Prod.mk.injEq, and_iff_left rfl]
  exact encodeUnichar_str _ _ _ _

theorem run_toNative_unichar_int (t' : IntType) (x : Int) (htag : Info.tag s.repo ti = .unichar)
    (hp : Info.isPointer s.repo ti = false) :
    (∃ p, (toNative hooks conv (.int t' x) ti o).run s = (.ok p, s)) ↔ 0 ≤ x ∧ x ≤ 0x10FFFF := by
  rw [run_toNative_unichar hooks conv o s _ htag hp, encodeUnichar_int]
  split
  · exact iff_of_true ⟨_, rfl⟩ ‹_›
  · exact iff_of_false (fun ⟨_, h⟩ => by cases h) ‹_›

theorem run_toNative_unichar_other {v : Value} (hn : v.isNumber = false) (hs : ∀ b, v ≠ .str b)
    (htag : Info.tag s.repo ti = .unichar) (hp : Info.isPointer s.repo ti = false) :
    ∃ e, (toNative hooks conv v ti o).run s = (.error e, s) := by
  have hnone : v.toUInt64? = none := by
    cases v <;> simp_all [Value.isNumber, Value.toUInt64?]
  rw [run_toNative_unichar hooks conv o s _ htag hp]
  unfold encodeUnichar
  split
  · exact absurd rfl (hs _)
  · rw [hnone]
    exact ⟨_, rfl⟩

theorem run_toNative_bool_iff (v : Value) (htag : Info.tag s.repo ti = .boolean)
    (hp : Info.isPointer s.repo ti = false) :
    (∃ p, (toNative hooks conv v ti o).run s = (.ok p, s)) ↔ ∃ b, v = .bool b := by
  by_cases hv : ∃ b, v = .bool b
  · obtain ⟨b, rfl⟩ := hv
    exact iff_of_true ⟨_, run_toNative_bool hooks conv o s b htag hp⟩ ⟨b, rfl⟩
  · refine iff_of_false ?_ hv
    rintro ⟨p, hp'⟩
    rw [run_toNative_not_bool hooks conv o s v (fun b h => hv ⟨b, h⟩) htag hp] at hp'
    cases hp'

theorem run_toNative_double_iff (v : Value) (htag : Info.tag s.repo ti = .double)
    (hp : Info.isPointer s.repo ti = false) :
    (∃ p, (toNative hooks conv v ti o).run s = (.ok p, s)) ↔
      v.isNumber = true ∧ ∀ x, v = .int .uintptr x → 0 ≤ x := by
  rw [← toFloat?_isSome]
  cases hf : v.toFloat? with
  | some f => exact iff_of_true ⟨_, run_toNative_double hooks conv o s hf htag hp⟩ rfl
  | none =>
    refine iff_of_false ?_ (by simp)
    rintro ⟨p, hp'⟩
    rw [run_toNative_double_none hooks conv o s hf htag hp] at hp'
    cases hp'

theorem run_toNative_float_iff (v : Value) (htag : Info.tag s.repo ti = .float)
    (hp : Info.isPointer s.repo ti = false) :
    (∃ p, (toNative hooks conv v ti o).run s = (.ok p, s)) ↔
      ∃ f, v.toFloat? = some f ∧
        (f.isInf = true ∨ f.isNaN = true ∨ ¬(f.abs > 3.4028234663852886e38)) := by
  cases hf : v.toFloat? with
  | some f =>
    rw [run_toNative_float hooks conv o s hf htag hp]
    by_cases hbig : (!f.isInf && !f.isNaN && f.abs > 3.4028234663852886e38) = true
    · refine iff_of_false ?_ ?_
      · rw [if_pos hbig]; rintro ⟨p, hp'⟩; cases hp'
      · rintro ⟨f', hf', hsmall⟩
        cases hf'
        simp only [Bool.and_eq_true, Bool.not_eq_true', decide_eq_true_eq] at hbig
        rcases hsmall with h | h | h <;> simp_all
    · refine iff_of_true ⟨_, by rw [if_neg hbig]⟩ ⟨f, rfl, ?_⟩
      simp only [Bool.and_eq_true, Bool.not_eq_true', decide_eq_true_eq, not_and] at hbig
      cases hi : f.isInf <;> cases hn : f.isNaN <;> simp_all
  | none =>
    refine iff_of_false ?_ (by simp)
    rintro ⟨p, hp'⟩
    rw [run_toNative_float_none hooks conv o s hf htag hp] at hp'
    cases hp'

/-! ## Reading back -/

end

/-! ## Scalar conversions -/

/-- Which host values each scalar type takes. An integer tag takes exactly the integers of its
type's range, a signed one no raw address whatever its value; an enum or flags value counts as
its integer; a number it does not take fails with an overflow cause. A GType takes the numbers
below `2 ^ (8 * w)` for pointers of `w` bytes, and every GType value unchecked. A character takes
the code points up to `0x10FFFF` and the strings of one character other than U+FFFD. A boolean
takes the booleans, a double every number but a negative raw address, and a single float the
numbers whose double is infinite, not a number, or at most the largest single float in
magnitude. No conversion of a scalar changes the session. -/
theorem scalar_acceptance (hooks : Hooks) (conv : Nat) (o : Options) (s : Session) (ti : Info)
    (hp : Info.isPointer s.repo ti = false) :
    (∀ tag t, (tag, t) ∈ intTags → Info.tag s.repo ti = tag →
      (∀ t' x, (toNative hooks conv (.int t' x) ti o).run s =
        if t.min ≤ x ∧ x ≤ t.max ∧ (t.signed = true → t' ≠ .uintptr) then
          (.ok (Value.bits64 x), s)
        else (.error (overflowFailure o (.int t' x) tag.name), s)) ∧
      (∀ v i, v.integer? = some i →
        (toNative hooks conv v ti o).run s = (toNative hooks conv (.int .int64 i) ti o).run s) ∧
      (∀ v, v.isNumber = true →
        (∃ p, (toNative hooks conv v ti o).run s = (.ok p, s)) ∨
          (toNative hooks conv v ti o).run s = (.error (overflowFailure o v tag.name), s)) ∧
      (∀ v, v.isNumber = false → v.integer? = none →
        ∃ e, (toNative hooks conv v ti o).run s = (.error e, s))) ∧
    (∀ w, (ptrSize (s.converters.getD conv default).handle).run s = (.ok w, s) →
      Info.tag s.repo ti = .gtype →
      (∀ g, (toNative hooks conv (.gtype g) ti o).run s = (.ok g, s)) ∧
      (∀ t' x, (toNative hooks conv (.int t' x) ti o).run s =
        if 0 ≤ x ∧ x < 2 ^ (w * 8) then (.ok x.toNat, s)
        else (.error (overflowFailure o (.int t' x) TypeTag.gtype.name), s)) ∧
      (∀ v i, v.integer? = some i →
        (toNative hooks conv v ti o).run s = (toNative hooks conv (.int .int64 i) ti o).run s) ∧
      (∀ v, v.isNumber = true →
        (∃ p, (toNative hooks conv v ti o).run s = (.ok p, s)) ∨
          (toNative hooks conv v ti o).run s =
            (.error (overflowFailure o v TypeTag.gtype.name), s)) ∧
      (∀ v, v.isNumber = false → v.integer? = none → (∀ g, v ≠ .gtype g) →
        ∃ e, (toNative hooks conv v ti o).run s = (.error e, s))) ∧
    (Info.tag s.repo ti = .unichar →
      (∀ b c, (toNative hooks conv (.str b) ti o).run s = (.ok c, s) ↔
        Text.Utf8.decodeAt b 0 = some (c, b.size) ∧ c ≠ 0xFFFD) ∧
      (∀ t' x, (∃ p, (toNative hooks conv (.int t' x) ti o).run s = (.ok p, s)) ↔
        0 ≤ x ∧ x ≤ 0x10FFFF) ∧
      (∀ v, v.isNumber = false → (∀ b, v ≠ .str b) →
        ∃ e, (toNative hooks conv v ti o).run s = (.error e, s))) ∧
    (Info.tag s.repo ti = .boolean → ∀ v,
      (∃ p, (toNative hooks conv v ti o).run s = (.ok p, s)) ↔ ∃ b, v = .bool b) ∧
    (Info.tag s.repo ti = .double → ∀ v,
      (∃ p, (toNative hooks conv v ti o).run s = (.ok p, s)) ↔
        v.isNumber = true ∧ ∀ x, v = .int .uintptr x → 0 ≤ x) ∧
    (Info.tag s.repo ti = .float → ∀ v,
      (∃ p, (toNative hooks conv v ti o).run s = (.ok p, s)) ↔
        ∃ f, v.toFloat? = some f ∧
          (f.isInf = true ∨ f.isNaN = true ∨ ¬(f.abs > 3.4028234663852886e38))) := by
  refine ⟨fun tag t h htag => ⟨fun t' x => ?_, fun v i hi => ?_, fun v hv => ?_,
    fun v hn hi => ?_⟩, fun w hw htag => ⟨fun g => ?_, fun t' x => ?_, fun v i hi => ?_,
    fun v hv => ?_, fun v hn hi hg => ?_⟩, fun htag => ⟨fun b c => ?_, fun t' x => ?_,
    fun v hn hs => ?_⟩, fun htag v => ?_, fun htag v => ?_, fun htag v => ?_⟩
  · exact run_toNative_int_value hooks conv o s t' x h htag hp
  · exact run_toNative_int_integer hooks conv o s hi h htag hp
  · exact run_toNative_int_number hooks conv o s hv h htag hp
  · exact run_toNative_int_other hooks conv o s hn hi h htag hp
  · exact run_toNative_gtype_value hooks conv o s g htag hp
  · exact run_toNative_gtype_int hooks conv o s t' x hw htag hp
  · exact run_toNative_gtype_integer hooks conv o s hi hw htag hp
  · exact run_toNative_gtype_number hooks conv o s hv hw htag hp
  · exact run_toNative_gtype_other hooks conv o s hn hi hg hw htag hp
  · exact run_toNative_unichar_str hooks conv o s b c htag hp
  · exact run_toNative_unichar_int hooks conv o s t' x htag hp
  · exact run_toNative_unichar_other hooks conv o s hn hs htag hp
  · exact run_toNative_bool_iff hooks conv o s v htag hp
  · exact run_toNative_double_iff hooks conv o s v htag hp
  · exact run_toNative_float_iff hooks conv o s v htag hp

/-- The repository of one typelib that holds a single basic type word, of the tag with the code,
at offset 0. -/
def basicTypeRepo (code : Nat) : Repository :=
  { typelibs := #[{ (default : Typelib) with
      image := Image.make ⟨#[0, 0, 0, (code * 8).toUInt8]⟩ 4 }],
    spaces := #[{ name := "T", typelib := 0, path := "" }] }

/-- The basic type word of `basicTypeRepo`. -/
def basicType : Info := { space := 0, kind := .type, offset := 0 }

/-- A raw address of 7 is no 32-bit signed integer: it fails with an overflow cause. -/
theorem gint32_refuses_raw_address :
    Info.isPointer (basicTypeRepo 6) basicType = false ∧
      (toNative Script.hooks 0 (.int .uintptr 7) basicType {}).run { repo := basicTypeRepo 6 } =
        (.error (overflowFailure {} (.int .uintptr 7) "gint32"), { repo := basicTypeRepo 6 }) := by
  have hp : Info.isPointer (basicTypeRepo 6) basicType = false := by decide
  refine ⟨hp, ?_⟩
  rw [((scalar_acceptance Script.hooks 0 {} { repo := basicTypeRepo 6 } basicType hp).1
    .int32 .int32 (by decide) (by decide)).1 .uintptr 7]
  rfl

end Introspection.Marshal
