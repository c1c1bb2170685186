import Mathlib
import Introspection.Typelib.Build

/-!
# The natural layout of structs and unions

What a C compiler makes of a compound type, said without the emitter and in unbounded numbers.
Held by value, a type takes a size and an alignment: a pointer's for anything held through one
and for strings, lists, hash tables, arrays of no fixed size, callbacks, objects, interfaces and
entities of other namespaces; `n` bytes aligned to `n` for a scalar of `n` bytes; `k` elements
for an array of fixed size `k`; the storage of an enum; and the layout of a struct or union of
the namespace, declared or natural. Struct fields are placed in order, each at the smallest
multiple of its alignment not below the end of the one before, and union fields all at 0; the
alignment is the largest field alignment, 1 without fields, and the size is the end rounded up
to it.

`Laid` is this relation; a type that contains itself by value has no layout. `Agree` says when a
size and alignment computed in 32-bit arithmetic are the natural ones: the alignment always, the
size when the natural size, rounded up by its alignment, stays below `2 ^ 32`.
-/

namespace Introspection.Typelib

/-- The width in bytes of a scalar tag; `none` for the tags held in a pointer-sized slot
(strings, GTypes, errors, lists, hash tables, void) and for arrays and interfaces. -/
def TypeTag.width? (t : TypeTag) : Option Nat :=
  if t = .int8 ∨ t = .uint8 then some 1
  else if t = .int16 ∨ t = .uint16 then some 2
  else if t = .boolean ∨ t = .int32 ∨ t = .uint32 ∨ t = .float ∨ t = .unichar then some 4
  else if t = .int64 ∨ t = .uint64 ∨ t = .double then some 8
  else none

@[simp] theorem TypeTag.width?_array : TypeTag.array.width? = none := by decide
@[simp] theorem TypeTag.width?_interface : TypeTag.interface.width? = none := by decide

/-- The smallest multiple of `a` not below `n`; an alignment of 0 or 1 leaves `n` as it is. -/
def roundUp (n a : Nat) : Nat := if a ≤ 1 then n else (n + a - 1) / a * a

/-- Fields of sizes and alignments `xs` placed from `stop`, the largest alignment so far being
`align`: struct fields one after another, union fields all at 0. The offsets, the end and the
alignment. -/
def place (isUnion : Bool) : List (Nat × Nat) → Nat → Nat → List Nat × Nat × Nat
  | [], stop, align => ([], stop, align)
  | (s, a) :: xs, stop, align =>
    let pos := if isUnion then 0 else roundUp stop a
    let r := place isUnion xs (if isUnion then max s stop else pos + s) (max a align)
    (pos :: r.1, r.2)

/-- The natural layout of fields of sizes and alignments `xs`. -/
def naturalLayout (isUnion : Bool) (xs : List (Nat × Nat)) : Layout :=
  let r := place isUnion xs 0 1
  { offsets := r.1, size := roundUp r.2.1 r.2.2, align := r.2.2 }

/-- The fields of a compound type and how it is laid out: naturally, or as declared. -/
structure Compound where
  fields : List FieldDef
  isUnion : Bool
  explicit : Bool
  size : Nat
  alignment : Nat

/-- The declared layout of a compound: its fields' offsets and its size as 32-bit numbers and
its alignment as an 8-bit one, an alignment of 0 standing for 1. -/
def Compound.declared (c : Compound) : Layout :=
  { offsets := c.fields.map fun f => Emit.u32of f.offset, size := c.size % 2 ^ 32,
    align := if c.alignment % 256 == 0 then 1 else c.alignment % 256 }

namespace EntryDef

/-- The compound a struct or union holds by value. -/
def aggregate? : EntryDef → Option Compound
  | .struct d => some ⟨d.fields, false, d.explicitLayout, d.size, d.alignment⟩
  | .union d => some ⟨d.fields, true, d.explicitLayout, d.size, d.alignment⟩
  | _ => none

/-- The compound of an entry with fields: a struct, a union or an object. -/
def compound? : EntryDef → Option Compound
  | .object d => some ⟨d.fields, false, false, 0, 0⟩
  | ent => ent.aggregate?

/-- The storage tag of an enum or flags type. -/
def storage? : EntryDef → Option TypeTag
  | .enum d => some d.storage
  | _ => none

end EntryDef

/-- What layouts are computed against: the namespace, the pointer size and the local entries by
name. -/
structure LayoutEnv where
  space : String
  pointerSize : Nat
  locals : List (String × EntryDef)

/-- The local name a reference denotes: a plain name, or one qualified with this namespace. -/
def localName? (space name : String) : Option String :=
  match Emit.splitQualified name with
  | some (ns, n) => if ns == space then some n else none
  | none => some name

namespace LayoutEnv

/-- The local entry a reference denotes. -/
def entry? (env : LayoutEnv) (name : String) : Option EntryDef :=
  (localName? env.space name).bind fun n => env.locals.lookup n

/-- The size of an enum held by value: 4 bytes by default, else its storage's. -/
def storageWidth (env : LayoutEnv) (tag : TypeTag) : Nat :=
  if tag = .void then 4 else tag.width?.getD env.pointerSize

end LayoutEnv

/-- What is laid out: a type, a named entity or a field. -/
inductive Held where
  | type (t : TypeDef)
  | entity (name : String)
  | field (f : FieldDef)

/-- Held by value, `x` takes `s` bytes aligned to `a`. -/
inductive Laid (env : LayoutEnv) : Held → Nat → Nat → Prop
  | pointer {t : TypeDef} : t.pointer = true →
      Laid env (.type t) env.pointerSize env.pointerSize
  | scalar {t : TypeDef} {n : Nat} : t.pointer = false → t.tag.width? = some n →
      Laid env (.type t) n n
  | pointerSized {t : TypeDef} : t.pointer = false → t.tag.width? = none → t.tag ≠ .array →
      t.tag ≠ .interface → Laid env (.type t) env.pointerSize env.pointerSize
  | array {t : TypeDef} : t.pointer = false → t.tag = .array →
      t.params = [] ∨ t.fixedSize = none → Laid env (.type t) env.pointerSize env.pointerSize
  | fixedArray {t elem : TypeDef} {rest : List TypeDef} {k : Int} {s a : Nat} :
      t.pointer = false → t.tag = .array → t.params = elem :: rest → t.fixedSize = some k →
      0 ≤ k → Laid env (.type elem) s a → Laid env (.type t) (k.toNat * s) a
  | entity {t : TypeDef} {s a : Nat} : t.pointer = false → t.tag = .interface →
      Laid env (.entity t.iface) s a → Laid env (.type t) s a
  | elsewhere {name : String} : env.entry? name = none →
      Laid env (.entity name) env.pointerSize env.pointerSize
  | reference {name : String} {ent : EntryDef} : env.entry? name = some ent →
      ent.aggregate? = none → ent.storage? = none →
      Laid env (.entity name) env.pointerSize env.pointerSize
  | enum {name : String} {ent : EntryDef} {tag : TypeTag} : env.entry? name = some ent →
      ent.storage? = some tag → Laid env (.entity name) (env.storageWidth tag) (env.storageWidth tag)
  | declared {name : String} {ent : EntryDef} {c : Compound} : env.entry? name = some ent →
      ent.aggregate? = some c → c.explicit = true →
      Laid env (.entity name) c.declared.size c.declared.align
  | aggregate {name : String} {ent : EntryDef} {c : Compound} {sizes : List (Nat × Nat)} :
      env.entry? name = some ent → ent.aggregate? = some c → c.explicit = false →
      sizes.length = c.fields.length →
      (∀ x ∈ c.fields.zip sizes, Laid env (.field x.1) x.2.1 x.2.2) →
      Laid env (.entity name) (naturalLayout c.isUnion sizes).size
        (naturalLayout c.isUnion sizes).align
  | callback {f : FieldDef} : f.callback.isSome = true →
      Laid env (.field f) env.pointerSize env.pointerSize
  | field {f : FieldDef} {s a : Nat} : f.callback = none → Laid env (.type f.type) s a →
      Laid env (.field f) s a

/-- The fields of a compound take the sizes and alignments `sizes`, in order. -/
def FieldsLaid (env : LayoutEnv) (fields : List FieldDef) (sizes : List (Nat × Nat)) : Prop :=
  List.Forall₂ (fun f (sa : Nat × Nat) => Laid env (.field f) sa.1 sa.2) fields sizes

/-- The natural layout of a compound: the declared one, or that of its fields' natural sizes. -/
def CompoundLaid (env : LayoutEnv) (c : Compound) (L : Layout) : Prop :=
  if c.explicit then L = c.declared
  else ∃ sizes, FieldsLaid env c.fields sizes ∧ L = naturalLayout c.isUnion sizes

/-- A size and alignment that 32-bit arithmetic holds: the size rounded up past it by the
alignment stays within `2 ^ 32`. -/
def Fits (s a : Nat) : Prop := s + max a 1 ≤ 2 ^ 32

/-- A computed size and alignment agree with natural ones: the same alignment, and the same size
when the natural one fits. -/
def Agree (code nat : Nat × Nat) : Prop := code.2 = nat.2 ∧ (Fits nat.1 nat.2 → code.1 = nat.1)

/-- A computed layout agrees with a natural one: the same alignment, and all the same when the
natural size fits. -/
def Layout.Agrees (l L : Layout) : Prop := l.align = L.align ∧ (Fits L.size L.align → l = L)

/-! ## Rounding and placing -/

theorem le_roundUp (n a : Nat) : n ≤ roundUp n a := by
  unfold roundUp
  split
  · exact Nat.le_refl n
  · have := Nat.lt_div_mul_add (a := n + a - 1) (b := a) (by omega)
    omega

theorem alignUp_eq_roundUp {n a : Nat} (h : n + a ≤ 2 ^ 32) : Emit.alignUp n a = roundUp n a := by
  unfold Emit.alignUp roundUp
  split
  · rfl
  · have hlt : n + a - 1 < 2 ^ 32 := by omega
    have hle := Nat.div_mul_le_self (n + a - 1) a
    rw [Nat.mod_eq_of_lt hlt, Nat.mod_eq_of_lt (by omega)]

theorem scalarLayout_eq (p c : Nat) :
    Emit.scalarLayout p c = (((⟨c⟩ : TypeTag).width?).map fun n => (n, n)).getD (p, p) := by
  by_cases hc : c < 22
  · interval_cases c <;> rfl
  ·
    simp only [Emit.scalarLayout, TypeTag.width?, TypeTag.int8, TypeTag.uint8, TypeTag.int16,
      TypeTag.uint16, TypeTag.boolean, TypeTag.int32, TypeTag.uint32, TypeTag.float,
      TypeTag.unichar, TypeTag.int64, TypeTag.uint64, TypeTag.double, TypeTag.mk.injEq,
      beq_iff_eq, Bool.or_eq_true]
    split_ifs <;> first | omega | rfl

section Place

variable (isUnion : Bool)

theorem place_align_congr (xs : List (Nat × Nat)) (stop stop' align : Nat) :
    (place isUnion xs stop align).2.2 = (place isUnion xs stop' align).2.2 := by
  induction xs generalizing stop stop' align with
  | nil => rfl
  | cons x xs ih => exact ih _ _ _

theorem le_place_align (xs : List (Nat × Nat)) (stop align : Nat) :
    align ≤ (place isUnion xs stop align).2.2 := by
  induction xs generalizing stop align with
  | nil => exact Nat.le_refl align
  | cons x xs ih => exact Nat.le_trans (Nat.le_max_right x.2 align) (ih _ _)

theorem le_place_end (xs : List (Nat × Nat)) (stop align : Nat) :
    stop ≤ (place isUnion xs stop align).2.1 := by
  induction xs generalizing stop align with
  | nil => exact Nat.le_refl stop
  | cons x xs ih =>
      refine Nat.le_trans ?_ (ih _ _)
      cases isUnion
      · exact Nat.le_trans (le_roundUp stop x.2) (Nat.le_add_right _ _)
      · exact Nat.le_max_right x.1 stop

theorem naturalLayout_align_pos (xs : List (Nat × Nat)) : 1 ≤ (naturalLayout isUnion xs).align :=
  le_place_align isUnion xs 0 1

@[simp] theorem length_place (xs : List (Nat × Nat)) (stop align : Nat) :
    (place isUnion xs stop align).1.length = xs.length := by
  induction xs generalizing stop align with
  | nil => rfl
  | cons x xs ih => simp [place, ih]

end Place

theorem Compound.declared_align_pos (c : Compound) : 1 ≤ c.declared.align := by
  unfold Compound.declared
  dsimp only
  split
  · exact Nat.le_refl 1
  · rename_i h
    simp only [beq_iff_eq] at h
    omega

theorem CompoundLaid.declared {env : LayoutEnv} {c : Compound} {L : Layout}
    (h : CompoundLaid env c L) (hc : c.explicit = true) : L = c.declared := by
  unfold CompoundLaid at h
  rwa [if_pos hc] at h

theorem CompoundLaid.natural {env : LayoutEnv} {c : Compound} {L : Layout}
    (h : CompoundLaid env c L) (hc : ¬c.explicit = true) :
    ∃ sizes, FieldsLaid env c.fields sizes ∧ L = naturalLayout c.isUnion sizes := by
  unfold CompoundLaid at h
  rwa [if_neg hc] at h

theorem CompoundLaid.length_offsets {env : LayoutEnv} {c : Compound} {L : Layout}
    (h : CompoundLaid env c L) : L.offsets.length = c.fields.length := by
  by_cases hc : c.explicit = true
  · rw [h.declared hc]
    simp [Compound.declared]
  · obtain ⟨sizes, hsizes, rfl⟩ := h.natural hc
    simp [naturalLayout, hsizes.length_eq]

end Introspection.Typelib
