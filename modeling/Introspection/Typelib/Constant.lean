import Introspection.Typelib.Image
import Introspection.Typelib.Spec

/-!
# Constant values

A constant is stored as the little-endian bytes of its value: four bytes for booleans, the
width of its tag for integers, IEEE-754 bits for floats, and a NUL-terminated string for texts.
Encoding accepts the host values that fit a tag; decoding gives back a host value of the tag's
own type, or the raw bytes when they are too short or the tag has no decoding.
-/

namespace Introspection.Typelib

/-- The 64 bits an integer host value stores, for integer constants. -/
def constantBits? : Value → Option Nat
  | .int t v => if t == .uintptr then none else some (Value.bits64 v)
  | _ => none

/-- The double a numeric host value stands for, for float constants. -/
def constantFloat? : Value → Option Float
  | .float32 x => some x.toFloat
  | .float64 x => some x
  | .int t v =>
    match t with
    | .int | .int32 | .int64 => some (Float.ofInt v)
    | .uint32 | .uint64 => some (Float.ofNat v.toNat)
    | _ => none
  | _ => none

/-- The stored bytes of a constant of type `t`, or why the value does not fit. -/
def encodeConstant (t : TypeDef) (v : Value) : Except String ByteArray :=
  let le (width n : Nat) : ByteArray := ⟨(leBytes n width).toArray⟩
  let c := t.tag.code
  if c == TypeTag.boolean.code then
    match v with
    | .bool b => .ok (le 4 (if b then 1 else 0))
    | _ => .error ("want bool, got " ++ v.typeName)
  else if (2 ≤ c && c ≤ 9) || c == TypeTag.gtype.code || c == TypeTag.unichar.code then
    match constantBits? v with
    | none => .error ("want integer, got " ++ v.typeName)
    | some n =>
      let width :=
        if c == TypeTag.int8.code || c == TypeTag.uint8.code then 1
        else if c == TypeTag.int16.code || c == TypeTag.uint16.code then 2
        else if c == TypeTag.int32.code || c == TypeTag.uint32.code || c == TypeTag.unichar.code
          then 4
        else 8
      .ok (le width n)
  else if c == TypeTag.float.code then
    match constantFloat? v with
    | some f => .ok (le 4 f.toFloat32.toBits.toNat)
    | none => .error ("want number, got " ++ v.typeName)
  else if c == TypeTag.double.code then
    match constantFloat? v with
    | some f => .ok (le 8 f.toBits.toNat)
    | none => .error ("want number, got " ++ v.typeName)
  else if c == TypeTag.utf8.code || c == TypeTag.filename.code then
    match v with
    | .str s => .ok (s.push 0)
    | _ => .error ("want string, got " ++ v.typeName)
  else .error ("unsupported constant type " ++ t.tag.name)

def decodeConstant (tag : TypeTag) (raw : ByteArray) : Value :=
  let n := raw.size
  let word (w : Nat) : Nat := leAt raw 0 w
  let c := tag.code
  let asInt (t : IntType) (w : Nat) : Value :=
    if n ≥ w then .int t (t.wrap (word w)) else .bytes raw
  if c == TypeTag.boolean.code then
    if n ≥ 4 then .bool (word 4 != 0) else .bytes raw
  else if c == TypeTag.int8.code then asInt .int8 1
  else if c == TypeTag.uint8.code then asInt .uint8 1
  else if c == TypeTag.int16.code then asInt .int16 2
  else if c == TypeTag.uint16.code then asInt .uint16 2
  else if c == TypeTag.int32.code then asInt .int32 4
  else if c == TypeTag.uint32.code || c == TypeTag.unichar.code then asInt .uint32 4
  else if c == TypeTag.int64.code then asInt .int64 8
  else if c == TypeTag.uint64.code || c == TypeTag.gtype.code then asInt .uint64 8
  else if c == TypeTag.float.code then
    if n ≥ 4 then .float32 (Float32.ofBits (word 4).toUInt32) else .bytes raw
  else if c == TypeTag.double.code then
    if n ≥ 8 then .float64 (Float.ofBits (word 8).toUInt64) else .bytes raw
  else if c == TypeTag.utf8.code || c == TypeTag.filename.code then
    if n > 0 && byteAt raw (n - 1) == 0 then .str (raw.extract 0 (n - 1)) else .str raw
  else .bytes raw

theorem encodeConstant_bool (b : Bool) :
    encodeConstant (TypeDef.basic .boolean) (.bool b) =
      .ok ⟨(leBytes (if b then 1 else 0) 4).toArray⟩ := rfl

end Introspection.Typelib
