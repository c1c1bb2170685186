import Introspection.Proofs.Marshal.Scalars
import Introspection.Proofs.Image.AttributeTable

/-!
# Enum conversions

An enum or flags type is passed in the slot of its storage tag: the tag's own integer slot, or
`i32` for the default and for a tag without a slot (`enumSlot`). Converting a host integer to an
interface type that refers to an enum first checks the integer against that slot's range, then
reads the payload back the way the storage widens it (`enumReadType`) and looks for a member with
that value; a flags type skips the member check. Reading a payload back without a codec gives
the storage's reading as a 64-bit integer.

`enum_conversion` says all of this for every session, every interface type and every host
integer. For an integer storage tag, the default `int32` included, the storage reading of an
integer of the tag's type below `2 ^ 63` is the integer itself, so a member within its storage's
range converts and reads back as itself, and an integer of the range that no member has is
refused with an invalid-enum cause; a member outside the range does not convert at all, the slot
refusing it with an overflow cause (`enum_members_round_trip`). The image format does not tie
member values to the storage tag: an enum of the default storage may declare the member `2 ^ 31`,
flagged unsigned, and the member itself is refused, while the storage reads every payload as a
32-bit signed integer, never `2 ^ 31` (`wide_member_refused`).
-/

namespace Introspection.Marshal

open Introspection.Typelib Introspection.Native Introspection.Loaded Introspection.Repository
open Introspection.Info Introspection.Loaded.Session
open Introspection.Invoke.Session (run_bind run_pure run_throw run_get run_repoM)

/-! ## The storage slot -/

/-- Whether a slot holds unsigned integers. -/
def slotUnsigned (k : ValueKind) : Bool := k == .u8 || k == .u16 || k == .u32 || k == .u64

/-- The range check of an enum's slot: unsigned or signed, as wide as the slot. -/
def encodeSlot (v : Value) (ty : String) (k : ValueKind) (o : Options) : Except Failure Nat :=
  if slotUnsigned k then encodeUnsigned v ty (k.size 8 * 8) o
  else encodeSigned v ty (k.size 8 * 8) o

/-- The host integers a slot takes: an unsigned slot those from zero to below `2 ^ bits`, a signed
slot those of its range that are not raw addresses. -/
def SlotTakes (k : ValueKind) (t : IntType) (x : Int) : Prop :=
  if slotUnsigned k then 0 ≤ x ∧ x < 2 ^ (k.size 8 * 8)
  else t ≠ .uintptr ∧ (signedRange (k.size 8 * 8)).1 ≤ x ∧ x ≤ (signedRange (k.size 8 * 8)).2

instance (k : ValueKind) (t : IntType) (x : Int) : Decidable (SlotTakes k t x) :=
  inferInstanceAs (Decidable (if slotUnsigned k then 0 ≤ x ∧ x < 2 ^ (k.size 8 * 8)
    else t ≠ .uintptr ∧ (signedRange (k.size 8 * 8)).1 ≤ x ∧ x ≤ (signedRange (k.size 8 * 8)).2))

/-- The host integer type a storage tag reads payloads back as: the tag's own type, except that
64-bit unsigned storage reads back signed, and any other tag reads as `int32`. -/
def enumReadType (storage : TypeTag) : IntType :=
  match storage.code with
  | 2 => .int8
  | 3 => .uint8
  | 4 => .int16
  | 5 => .uint16
  | 7 => .uint32
  | 8 | 9 => .int64
  | _ => .int32

theorem slot_size_le (k : ValueKind) : k.size 8 * 8 ≤ 64 := by
  cases k <;> decide

theorem enumStorage_eq_wrap (a : Nat) (storage : TypeTag) :
    enumStorage a storage = (enumReadType storage).wrap a := by
  unfold enumStorage enumReadType
  generalize storage.code = c
  split <;>
    simp only [IntType.wrap, IntType.bits, IntType.signed, Bool.true_and, Bool.false_and,
      Bool.false_eq_true, if_false, Nat.reduceSub, Nat.reducePow, Int.reducePow,
      Int.reduceDiv] <;>
    split_ifs <;> grind

theorem slotTakes_unsigned {k : ValueKind} (hu : slotUnsigned k = true) (t : IntType) (x : Int) :
    SlotTakes k t x ↔ 0 ≤ x ∧ x < 2 ^ (k.size 8 * 8) := by
  unfold SlotTakes
  rw [if_pos hu]

theorem slotTakes_signed {k : ValueKind} (hu : slotUnsigned k = false) (t : IntType) (x : Int) :
    SlotTakes k t x ↔
      t ≠ .uintptr ∧ (signedRange (k.size 8 * 8)).1 ≤ x ∧ x ≤ (signedRange (k.size 8 * 8)).2 := by
  unfold SlotTakes
  rw [if_neg (by simp [hu])]

theorem encodeSlot_int (ty : String) (k : ValueKind) (o : Options) (t : IntType) (x : Int) :
    encodeSlot (.int t x) ty k o =
      if SlotTakes k t x then .ok (Value.bits64 x) else .error (overflowFailure o (.int t x) ty) := by
  unfold encodeSlot
  cases hu : slotUnsigned k
  · rw [if_neg (by simp), encodeSigned_int _ _ _ _ (slot_size_le k)]
    by_cases hr : SlotTakes k t x
    · rw [if_pos ((slotTakes_signed hu t x).1 hr), if_pos hr]
    · rw [if_neg (mt (slotTakes_signed hu t x).2 hr), if_neg hr]
  · rw [if_pos rfl, encodeUnsigned_int]
    by_cases hr : SlotTakes k t x
    ·
      have hx := (slotTakes_unsigned hu t x).1 hr
      have hpow : (2 : Int) ^ (k.size 8 * 8) ≤ 2 ^ 64 :=
        pow_le_pow_right₀ (by decide) (slot_size_le k)
      rw [if_pos hx, if_pos hr, IntType.bits64_of_nonneg hx.1 (by omega)]
    · rw [if_neg (mt (slotTakes_unsigned hu t x).2 hr), if_neg hr]

/-! ## Converting to an enum -/

/-- The failure of an integer that names no member of an enum: a conversion error whose cause
gives the value the storage read and the enum's qualified name. -/
def invalidEnumFailure (o : Options) (v : Value) (ty : String) (r : Repository) (e : Info)
    (want : Int) : Failure :=
  conversionError o v ty
    (some (.invalidEnum .encode o.path (.int .int64 want) (Info.qualifiedName r e)))
    "unknown enum value"

theorem encodeEnum_eq (v : Value) (ty : String) (e : Info) (o : Options) :
    encodeEnum v ty e o = get >>= fun s =>
      lift (encodeSlot v ty (enumSlot (Info.storageType s.repo e)) o) >>= fun a =>
        if Info.isFlags e then pure a
        else if (Info.values s.repo e).any (fun m =>
            Info.valueOf s.repo m == enumStorage a (Info.storageType s.repo e)) then pure a
        else throw (invalidEnumFailure o v ty s.repo e (enumStorage a (Info.storageType s.repo e))) :=
  rfl

theorem run_encodeEnum_int (t : IntType) (x : Int) (ty : String) {e : Info} (o : Options)
    (s : Session) (hflags : Info.isFlags e = false) :
    (encodeEnum (.int t x) ty e o).run s =
      (if SlotTakes (enumSlot (Info.storageType s.repo e)) t x then
        if (Info.values s.repo e).any (fun m => Info.valueOf s.repo m ==
            (enumReadType (Info.storageType s.repo e)).wrap x) then .ok (Value.bits64 x)
        else .error (invalidEnumFailure o (.int t x) ty s.repo e
          ((enumReadType (Info.storageType s.repo e)).wrap x))
      else .error (overflowFailure o (.int t x) ty), s) := by
  rw [encodeEnum_eq, run_get_bind, run_bind, run_lift, encodeSlot_int]
  by_cases hr : SlotTakes (enumSlot (Info.storageType s.repo e)) t x
  ·
    rw [if_pos hr, if_pos hr]
    dsimp only
    rw [if_neg (by simp [hflags]), enumStorage_eq_wrap, IntType.wrap_bits64]
    split <;> rfl
  · rw [if_neg hr, if_neg hr]

section
variable (hooks : Hooks) (conv : Nat) (o : Options) (s : Session)
variable {ti : Info} {ty : String} {r₀ r₁ : Repository} {e : Info}

theorem run_toNative_enum (v : Value) (htag : Info.tag s.repo ti = .interface)
    (htext : Info.typeText ti s.repo = (ty, r₀)) (hiface : Info.typeInterface ti r₀ = (some e, r₁))
    (hkind : e.kind = .enum ∨ e.kind = .flags) :
    (toNative hooks conv v ti o).run s = (encodeEnum v ty e o).run { s with repo := r₁ } := by
  rw [run_toNative_fuel]
  unfold toNativeUpTo encodeValue
  rw [run_get_bind, run_bind, run_repoM htext]
  dsimp only
  rw [run_converter_bind, htag, if_neg (by cases Info.isPointer s.repo ti <;> decide)]
  simp only [TypeTag.interface]
  rw [run_bind, run_repoM hiface]
  dsimp only
  rw [if_pos (by rcases hkind with h | h <;> simp [h])]

theorem run_fromNative_enum (a : Nat) (tr : Transfer)
    (hcodec : (s.converters.getD conv default).codec = none)
    (htag : Info.tag s.repo ti = .interface)
    (htext : Info.typeText ti s.repo = (ty, r₀)) (hiface : Info.typeInterface ti r₀ = (some e, r₁))
    (hkind : e.kind = .enum ∨ e.kind = .flags) :
    (fromNative hooks conv a ti tr).run s =
      (.ok (.int .int64 ((enumReadType (Info.storageType r₁ e)).wrap a)),
        { s with repo := r₁ }) := by
  rw [run_fromNative_fuel]
  unfold fromNativeUpTo
  rw [run_get_bind, run_converter_bind, htag, if_neg (by cases Info.isPointer s.repo ti <;> decide),
    run_bind, run_repoM htext]
  dsimp only
  simp only [TypeTag.interface]
  rw [run_bind, run_repoM hiface]
  dsimp only
  rw [hcodec]
  dsimp only
  rw [if_pos (by rcases hkind with h | h <;> simp [h]), run_get_bind, enumStorage_eq_wrap]
  rfl

end

/-! ## Integer storage tags -/

theorem slotTakes_intTag {st : TypeTag} {it : IntType} (h : (st, it) ∈ intTags) (t : IntType)
    (x : Int) :
    SlotTakes (enumSlot st) t x ↔ (it.signed = true → t ≠ .uintptr) ∧ it.min ≤ x ∧ x ≤ it.max := by
  simp only [intTags, List.mem_cons, Prod.mk.injEq, List.not_mem_nil, or_false] at h
  obtain ⟨rfl, rfl⟩ | ⟨rfl, rfl⟩ | ⟨rfl, rfl⟩ | ⟨rfl, rfl⟩ | ⟨rfl, rfl⟩ | ⟨rfl, rfl⟩ | ⟨rfl, rfl⟩ |
    ⟨rfl, rfl⟩ := h
  all_goals
    simp +decide only [SlotTakes, enumSlot, tagKind?, ValueKind.size, signedRange, IntType.min,
      IntType.max, IntType.bits, TypeTag.int8, TypeTag.uint8, TypeTag.int16, TypeTag.uint16,
      TypeTag.int32, TypeTag.uint32, TypeTag.int64, TypeTag.uint64, if_true, if_false,
      true_implies, false_implies, true_and, Nat.reduceMul, Nat.reduceSub, Int.reducePow,
      Int.reduceNeg, Int.reduceSub]
  all_goals omega

theorem enumRead_intTag {st : TypeTag} {it : IntType} (h : (st, it) ∈ intTags) {x : Int}
    (hlo : it.min ≤ x) (hhi : x ≤ it.max) (h63 : x < 2 ^ 63) : (enumReadType st).wrap x = x := by
  simp only [intTags, List.mem_cons, Prod.mk.injEq, List.not_mem_nil, or_false] at h
  obtain ⟨rfl, rfl⟩ | ⟨rfl, rfl⟩ | ⟨rfl, rfl⟩ | ⟨rfl, rfl⟩ | ⟨rfl, rfl⟩ | ⟨rfl, rfl⟩ | ⟨rfl, rfl⟩ |
    ⟨rfl, rfl⟩ := h
  all_goals
    apply IntType.wrap_of_mem <;>
    simp only [enumReadType, IntType.min, IntType.max, IntType.bits, IntType.signed, TypeTag.int8,
      TypeTag.uint8, TypeTag.int16, TypeTag.uint16, TypeTag.int32, TypeTag.uint32, TypeTag.int64,
      TypeTag.uint64, if_true, if_false, Bool.false_eq_true] at * <;>
    omega

theorem valueOf_range (r : Repository) (m : Info) :
    -2 ^ 31 ≤ Info.valueOf r m ∧ Info.valueOf r m < 2 ^ 32 := by
  have hw := Typelib.u32_lt (Info.tl r m).image (m.offset + 8)
  simp only [Info.valueOf, Typelib.Typelib.i32, Image.i32, signed, Typelib.Typelib.u32]
  generalize (Info.tl r m).image.u32 (m.offset + 8) = w at hw ⊢
  split_ifs <;> omega

/-! ## Enum conversions -/

section
variable (hooks : Hooks) (conv : Nat) (o : Options) (s : Session)
variable {ti : Info} {ty : String} {r₀ r₁ : Repository} {e : Info}

theorem enum_conversion (htag : Info.tag s.repo ti = .interface)
    (htext : Info.typeText ti s.repo = (ty, r₀)) (hiface : Info.typeInterface ti r₀ = (some e, r₁))
    (henum : e.kind = .enum) :
    (∀ t x, (toNative hooks conv (.int t x) ti o).run s =
      (if SlotTakes (enumSlot (Info.storageType r₁ e)) t x then
        if ∃ m ∈ Info.values r₁ e, Info.valueOf r₁ m = (enumReadType (Info.storageType r₁ e)).wrap x
        then .ok (Value.bits64 x)
        else .error (invalidEnumFailure o (.int t x) ty r₁ e
          ((enumReadType (Info.storageType r₁ e)).wrap x))
      else .error (overflowFailure o (.int t x) ty), { s with repo := r₁ })) ∧
    ((s.converters.getD conv default).codec = none → ∀ a tr,
      (fromNative hooks conv a ti tr).run s =
        (.ok (.int .int64 ((enumReadType (Info.storageType r₁ e)).wrap a)), { s with repo := r₁ })) := by
  have hflags : Info.isFlags e = false := by rw [Info.isFlags, henum]; decide
  refine ⟨fun t x => ?_, fun hcodec a tr =>
    run_fromNative_enum hooks conv s a tr hcodec htag htext hiface (.inl henum)⟩
  rw [run_toNative_enum hooks conv o s _ htag htext hiface (.inl henum),
    run_encodeEnum_int t x ty o _ hflags]
  simp only [List.any_eq_true, beq_iff_eq]

/-- Enum members through their storage. For an enum whose storage is an integer tag, the
default `int32` included: a member whose value lies in the tag's type converts to its 64 bits
and, without a codec, reads back as itself; a member beyond the tag's type is refused by the
slot with an overflow cause; and an integer of the tag's type below `2 ^ 63` that no member has,
given as any host integer that is not a raw address when the tag is signed, is refused with an
invalid-enum cause. -/
theorem enum_members_round_trip (htag : Info.tag s.repo ti = .interface)
    (htext : Info.typeText ti s.repo = (ty, r₀)) (hiface : Info.typeInterface ti r₀ = (some e, r₁))
    (henum : e.kind = .enum) {it : IntType} (hst : (Info.storageType r₁ e, it) ∈ intTags) :
    (∀ m ∈ Info.values r₁ e, it.min ≤ Info.valueOf r₁ m → Info.valueOf r₁ m ≤ it.max →
      (toNative hooks conv (.int .int64 (Info.valueOf r₁ m)) ti o).run s =
        (.ok (Value.bits64 (Info.valueOf r₁ m)), { s with repo := r₁ }) ∧
      ((s.converters.getD conv default).codec = none → ∀ tr,
        (fromNative hooks conv (Value.bits64 (Info.valueOf r₁ m)) ti tr).run s =
          (.ok (.int .int64 (Info.valueOf r₁ m)), { s with repo := r₁ }))) ∧
    (∀ m ∈ Info.values r₁ e, ¬(it.min ≤ Info.valueOf r₁ m ∧ Info.valueOf r₁ m ≤ it.max) →
      (toNative hooks conv (.int .int64 (Info.valueOf r₁ m)) ti o).run s =
        (.error (overflowFailure o (.int .int64 (Info.valueOf r₁ m)) ty), { s with repo := r₁ })) ∧
    (∀ t x, (it.signed = true → t ≠ .uintptr) → it.min ≤ x → x ≤ it.max → x < 2 ^ 63 →
      (∀ m ∈ Info.values r₁ e, Info.valueOf r₁ m ≠ x) →
      (toNative hooks conv (.int t x) ti o).run s =
        (.error (invalidEnumFailure o (.int t x) ty r₁ e x), { s with repo := r₁ })) := by
  obtain ⟨henc, hdec⟩ := enum_conversion hooks conv o s htag htext hiface henum
  refine ⟨fun m hm hlo hhi => ?_, fun m hm hout => ?_, fun t x hsig hlo hhi h63 hnone => ?_⟩
  ·
    have hread : (enumReadType (Info.storageType r₁ e)).wrap (Info.valueOf r₁ m) =
        Info.valueOf r₁ m := by
      have := valueOf_range r₁ m
      exact enumRead_intTag hst hlo hhi (by omega)
    have htakes := (slotTakes_intTag hst .int64 (Info.valueOf r₁ m)).2 ⟨fun _ => nofun, hlo, hhi⟩
    refine ⟨?_, fun hcodec tr => ?_⟩
    · rw [henc, if_pos htakes, hread, if_pos ⟨m, hm, rfl⟩]
    · rw [hdec hcodec, IntType.wrap_bits64, hread]
  · rw [henc, if_neg fun h => hout ((slotTakes_intTag hst _ _).1 h).2]
  · rw [henc, if_pos ((slotTakes_intTag hst t x).2 ⟨hsig, hlo, hhi⟩),
      enumRead_intTag hst hlo hhi h63, if_neg fun ⟨m, hm, hmx⟩ => hnone m hm hmx]

end

/-! ## An enum of the default storage with a member above `2 ^ 31 - 1` -/

/-- An image holding an argument type that refers to the enum `T.E` of the default storage,
whose members are `1` and, flagged unsigned, `2 ^ 31`: the type word at 0 points to an interface
type at 4, the directory entry at 8 to the enum blob at 20, the members follow at 44 and 56, and
the name `E` at 68. -/
def wideEnumImage : ByteArray :=
  ⟨#[4, 0, 0, 0, 128, 0, 1, 0,
    5, 0, 1, 0, 68, 0, 0, 0, 20, 0, 0, 0,
    5, 0, 0, 0, 68, 0, 0, 0, 0, 0, 0, 0, 0, 0, 0, 0, 2, 0, 0, 0, 0, 0, 0, 0,
    0, 0, 0, 0, 0, 0, 0, 0, 1, 0, 0, 0,
    2, 0, 0, 0, 0, 0, 0, 0, 0, 0, 0, 128,
    69, 0]⟩

/-- A repository whose one namespace `T` reads `wideEnumImage`. -/
def wideEnumRepo : Repository :=
  { typelibs := #[{ (default : Typelib) with
      image := Image.make wideEnumImage 70, namespace_ := "T", directory := 8, nEntries := 1,
      nLocal := 1 }],
    spaces := #[{ name := "T", typelib := 0, path := "" }] }

/-- The argument type of `wideEnumRepo` and the enum it refers to. -/
def wideEnumArg : Info := { space := 0, kind := .type, offset := 0 }
def wideEnum : Info := { space := 0, kind := .enum, offset := 20 }

/-- In `wideEnumRepo` the member `1` converts and reads back as itself, the member `2 ^ 31`
of the default `int32` storage is refused by the slot, and `5`, which no member has, is refused
as no member. -/
theorem wide_member_refused :
    Info.tag wideEnumRepo wideEnumArg = .interface ∧
    Info.typeText wideEnumArg wideEnumRepo = ("T.E", wideEnumRepo) ∧
    Info.typeInterface wideEnumArg wideEnumRepo = (some wideEnum, wideEnumRepo) ∧
    Info.values wideEnumRepo wideEnum = [wideEnum.child .value 44, wideEnum.child .value 56] ∧
    Info.valueOf wideEnumRepo (wideEnum.child .value 56) = 2 ^ 31 ∧
    (toNative Script.hooks 0 (.int .int64 1) wideEnumArg {}).run { repo := wideEnumRepo } =
      (.ok 1, { repo := wideEnumRepo }) ∧
    (fromNative Script.hooks 0 1 wideEnumArg .nothing).run { repo := wideEnumRepo } =
      (.ok (.int .int64 1), { repo := wideEnumRepo }) ∧
    (toNative Script.hooks 0 (.int .int64 (2 ^ 31)) wideEnumArg {}).run { repo := wideEnumRepo } =
      (.error (overflowFailure {} (.int .int64 (2 ^ 31)) "T.E"), { repo := wideEnumRepo }) ∧
    (toNative Script.hooks 0 (.int .int64 5) wideEnumArg {}).run { repo := wideEnumRepo } =
      (.error (invalidEnumFailure {} (.int .int64 5) "T.E" wideEnumRepo wideEnum 5),
        { repo := wideEnumRepo }) := by
  have htag : Info.tag wideEnumRepo wideEnumArg = .interface := by decide
  have htext : Info.typeText wideEnumArg wideEnumRepo = ("T.E", wideEnumRepo) :=
    Prod.ext (by decide +kernel) rfl
  have hiface : Info.typeInterface wideEnumArg wideEnumRepo = (some wideEnum, wideEnumRepo) := rfl
  have hvalues : Info.values wideEnumRepo wideEnum =
      [wideEnum.child .value 44, wideEnum.child .value 56] := rfl
  have hbig : Info.valueOf wideEnumRepo (wideEnum.child .value 56) = 2 ^ 31 := by decide
  have hsmall : Info.valueOf wideEnumRepo (wideEnum.child .value 44) = 1 := by decide
  have hst : (Info.storageType wideEnumRepo wideEnum, IntType.int32) ∈ intTags := by decide
  obtain ⟨hmem, hwide, hnone⟩ := enum_members_round_trip Script.hooks 0 {} { repo := wideEnumRepo }
    htag htext hiface rfl hst
  have hone := hmem (wideEnum.child .value 44) (by simp [hvalues]) (by rw [hsmall]; decide)
    (by rw [hsmall]; decide)
  rw [hsmall] at hone
  refine ⟨htag, htext, hiface, hvalues, hbig, hone.1, hone.2 rfl .nothing, ?_, ?_⟩
  · have := hwide (wideEnum.child .value 56) (by simp [hvalues]) (by rw [hbig]; decide)
    rwa [hbig] at this
  · refine hnone .int64 5 (fun _ => nofun) (by decide) (by decide) (by decide) ?_
    rw [hvalues]
    intro m hm
    simp only [List.mem_cons, List.not_mem_nil, or_false] at hm
    rcases hm with rfl | rfl
    · rw [hsmall]; decide
    · rw [hbig]; decide

end Introspection.Marshal
