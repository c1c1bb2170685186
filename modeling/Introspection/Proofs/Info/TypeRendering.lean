import Introspection.Info.Views
import Introspection.Typelib.Members
import Introspection.Proofs.Repository.Require

/-!
# Rendering a type that is its own element type

The text of a type follows its parameter types level by level (`Info.typeTextUpTo`), reading
each from a 32-bit slot of the type blob. The loader checks the header, the directory and the
attribute table but not the type blobs, so the slot of a C array blob may hold the blob's own
offset: the array is then its own element type. Each level of its text nests one more
`array<…>*`, eight characters, so the text at depth `d` has `8 * d` characters and no depth
renders the whole type; the text `Info.typeString` asks for, `Info.typeDepth` levels deep, has
`2 ^ 67` characters (`self_nested_array_text_unbounded`).
-/

namespace Introspection.Info

open Introspection.Typelib Introspection.Repository

/-- The text of a C array that is its own element type, rendered `d` levels deep. -/
def nestedArrayText : Nat → String
  | 0 => ""
  | d + 1 => "array<" ++ nestedArrayText d ++ ">*"

theorem length_nestedArrayText (d : Nat) : (nestedArrayText d).length = 8 * d := by
  induction d with
  | zero => rfl
  | succ d ih =>
    have hopen : "array<".length = 6 := rfl
    have hclose : ">*".length = 2 := rfl
    simp only [nestedArrayText, String.length_append, ih, hopen, hclose]
    omega

/-- The type blob at offset `b` of typelib `t` is a C array passed by pointer whose parameter
slot, at `b + 4`, holds `b` itself; `b` is a blob offset, not an inline basic type. -/
structure SelfNested (t : Typelib) (b : Nat) : Prop where
  blob : b % 2 ^ 24 ≠ 0
  array : t.u8 b / 8 % 32 = 15
  pointer : t.u8 b % 2 = 1
  cArray : t.u16 b / 2 ^ 11 % 4 = 0
  loops : t.u32 (b + 4) = b

/-- The type `i` reads its type word at its offset, and the word points to such a blob `b`. -/
structure NestsItself (r : Repository) (i : Info) (b : Nat) : Prop where
  blob : SelfNested (i.tl r) b
  notEmbedded : i.embedded = false
  slot : Info.slot r i = b

namespace NestsItself

variable {r : Repository} {i : Info} {b : Nat}

theorem param (h : NestsItself r i b) : NestsItself r (i.child .type (b + 4)) b where
  blob := h.blob
  notEmbedded := rfl
  slot := h.blob.loops

theorem isBasic (h : NestsItself r i b) : Info.isBasic r i = false := by
  simp [Info.isBasic, h.slot, h.blob.blob]

theorem tag (h : NestsItself r i b) : Info.tag r i = .array := by
  simp only [Info.tag, h.notEmbedded, h.isBasic, Bool.false_eq_true, ↓reduceIte, h.slot,
    h.blob.array]
  rfl

theorem isPointer (h : NestsItself r i b) : Info.isPointer r i = true := by
  simp [Info.isPointer, h.notEmbedded, h.isBasic, h.slot, Info.testBit, h.blob.pointer]

theorem arrayType (h : NestsItself r i b) : Info.arrayType r i = 0 := by
  simp only [Info.arrayType, Info.arrayFlags, h.tag, bne_self_eq_false, h.isBasic,
    Bool.or_false, Bool.false_eq_true, ↓reduceIte, h.slot, h.blob.cArray]

theorem nParams (h : NestsItself r i b) : Info.nParams r i = 1 := by
  simp only [Info.nParams, h.notEmbedded, h.isBasic, Bool.or_false, Bool.false_eq_true,
    ↓reduceIte, h.tag]
  rfl

theorem paramType (h : NestsItself r i b) :
    Info.paramType r i 0 = some (i.child .type (b + 4)) := by
  simp only [Info.paramType, h.nParams, Nat.lt_one_iff, ↓reduceIte, h.slot]

end NestsItself

theorem typeTextUpTo_nestsItself {r : Repository} {b : Nat} (d : Nat) :
    ∀ {i : Info}, NestsItself r i b → Info.typeTextUpTo i d r = (nestedArrayText d, r) := by
  induction d with
  | zero => intro i _; rfl
  | succ d ih =>
    intro i h
    have hcode : TypeTag.array.code = 15 := rfl
    unfold Info.typeTextUpTo
    simp only [Repository.run_bind, Repository.run_get, h.tag, hcode, h.arrayType, h.nParams,
      List.range_one, List.forIn_cons, List.forIn_nil, h.paramType, ih h.param,
      Repository.run_pure]
    have hname : TypeTag.array.name = "array" := rfl
    have hbasic : TypeTag.array.isBasic = false := rfl
    simp only [beq_self_eq_true, bne_self_eq_false, Bool.and_false, Bool.false_eq_true,
      ↓reduceIte, hname, List.nil_append, String.intercalate_singleton, h.isPointer, hbasic,
      Bool.not_false, Bool.and_true, Bool.true_or, nestedArrayText, String.append_assoc]
    have hopen : "array" ++ "<" = "array<" := rfl
    have hclose : ">" ++ "*" = ">*" := rfl
    rw [← String.append_assoc, hopen, hclose]

/-- A type whose C array blob is its own element type has no whole text: at every depth `d` its
text is `d` nested arrays, eight characters a level, so a deeper rendering is always longer, and
the text `typeString` renders, `typeDepth` levels deep, has `2 ^ 67` characters. -/
theorem self_nested_array_text_unbounded {r : Repository} {i : Info} {b : Nat}
    (h : NestsItself r i b) :
    (∀ d, Info.typeTextUpTo i d r = (nestedArrayText d, r) ∧
        (nestedArrayText d).length = 8 * d) ∧
      (Info.typeString i r).1.length = 2 ^ 67 := by
  refine ⟨fun d => ⟨typeTextUpTo_nestsItself d h, length_nestedArrayText d⟩, ?_⟩
  rw [Info.typeString, typeTextUpTo_nestsItself _ h, length_nestedArrayText, Info.typeDepth]

/-! ## An accepted image -/

/-- The image of namespace `T` with one function `f(a: array<gint32>*)`, its array type blob at
156 changed to list itself, at 160, as its element type; the argument's type word is at 152. -/
def selfNestedImage : ByteArray :=
  ⟨#[71, 79, 66, 74, 10, 77, 69, 84, 65, 68, 65, 84, 65, 13, 10, 26, 4, 0, 0, 0, 1, 0, 1, 0,
    164, 0, 0, 0, 0, 0, 0, 0, 176, 0, 0, 0, 0, 0, 0, 0, 190, 0, 0, 0, 180, 0, 0, 0,
    176, 0, 0, 0, 0, 0, 0, 0, 0, 0, 0, 0, 12, 0, 20, 0, 12, 0, 16, 0, 20, 0, 16, 0,
    16, 0, 16, 0, 12, 0, 12, 0, 24, 0, 16, 0, 8, 0, 24, 0, 32, 0, 60, 0, 40, 0, 40, 0,
    0, 0, 0, 0, 0, 0, 0, 0, 0, 0, 0, 0, 0, 0, 0, 0, 1, 0, 192, 255, 184, 0, 0, 0,
    186, 0, 0, 0, 132, 0, 0, 0, 1, 0, 0, 0, 0, 0, 0, 0, 0, 0, 1, 0, 182, 0, 0, 0,
    1, 0, 0, 0, 255, 255, 0, 0, 156, 0, 0, 0, 121, 0, 0, 0, 156, 0, 0, 0, 1, 0, 1, 0,
    184, 0, 0, 0, 112, 0, 0, 0, 49, 46, 48, 0, 84, 0, 97, 0, 102, 0, 116, 95, 102, 0]⟩

/-- A repository whose one namespace `T` reads `selfNestedImage`. -/
def selfNestedRepo : Repository :=
  { typelibs := #[{ (default : Typelib) with
      image := Image.make selfNestedImage 190, namespace_ := "T", directory := 164,
      nEntries := 1, nLocal := 1 }],
    spaces := #[{ name := "T", typelib := 0, path := "" }] }

/-- The type of the argument `a` of `f` in `selfNestedRepo`. -/
def selfNestedArg : Info := { space := 0, kind := .type, offset := 152 }

/-- The loader accepts `selfNestedImage`, and the type of `f`'s argument renders a level deeper
at every depth. -/
theorem self_nested_image_loads_unbounded :
    (load selfNestedImage).toOption.isSome = true ∧
      NestsItself selfNestedRepo selfNestedArg 156 ∧
      (∀ d, Info.typeTextUpTo selfNestedArg d selfNestedRepo =
          (nestedArrayText d, selfNestedRepo) ∧ (nestedArrayText d).length = 8 * d) ∧
        (Info.typeString selfNestedArg selfNestedRepo).1.length = 2 ^ 67 := by
  have hnest : NestsItself selfNestedRepo selfNestedArg 156 :=
    ⟨⟨by decide, by decide +kernel, by decide +kernel, by decide +kernel, by decide +kernel⟩, rfl,
      by decide +kernel⟩
  exact ⟨by decide +kernel, hnest, self_nested_array_text_unbounded hnest⟩

end Introspection.Info
