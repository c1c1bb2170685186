import Introspection.Value

/-!
# Numeric and sequence views of host values

Host values are converted to native numbers only when they are integers, or whole floats, that
fit the target: a signed view accepts every signed type and the unsigned ones below `2^63`
(but not raw addresses), an unsigned view every non-negative integer. Enum values and flags
give their integer. Strings and byte strings count as sequences of bytes.
-/

namespace Introspection.Value

/-- The integer of a value with an integer view (enum values and flags). -/
def integer? : Value → Option Int
  | .enumInt v | .enumMember _ v | .flags _ v => some v
  | _ => none

def wholeFloat? (x : Float) (lo hi : Float) : Option Int :=
  if x ≥ lo && x < hi && x == x.floor then
    if x < 0 then some (-((-x).toUInt64.toNat : Int)) else some x.toUInt64.toNat
  else none

/-- A value as a signed 64-bit integer, if it is an integer or whole float that fits. -/
def toInt64? : Value → Option Int
  | .int t v =>
    if t == .uintptr then none
    else if !t.signed && v > IntType.int64.max then none else some v
  | .float64 x => wholeFloat? x (-9223372036854775808.0) 9223372036854775808.0
  | .float32 x => wholeFloat? x.toFloat (-9223372036854775808.0) 9223372036854775808.0
  | _ => none

/-- A value as an unsigned 64-bit integer, if it is a non-negative integer or whole float
that fits. -/
def toUInt64? : Value → Option Nat
  | .int _ v => if v < 0 then none else some v.toNat
  | .float64 x => (wholeFloat? x 0 18446744073709551616.0).map Int.toNat
  | .float32 x => (wholeFloat? x.toFloat 0 18446744073709551616.0).map Int.toNat
  | _ => none

/-- Whether a value is a number: out-of-range numbers fail differently from other values. -/
def isNumber : Value → Bool
  | .int .. | .float32 _ | .float64 _ => true
  | _ => false

def toFloat? (v : Value) : Option Float :=
  match v with
  | .float64 x => some x
  | .float32 x => some x.toFloat
  | _ =>
    match v.toInt64? with
    | some i => some (Float.ofInt i)
    | none => v.toUInt64?.map Float.ofNat

/-- The bits of a double as a payload: a NaN is the quiet NaN whose lowest payload bit is set,
the NaN that the text `NaN` reads as. -/
def doubleBits (x : Float) : Nat :=
  if x.isNaN then 0x7FF8000000000001 else x.toBits.toNat

/-- The element count of a host array value: 0 for null, none for values that are not arrays. -/
def arrayLength? : Value → Option Nat
  | .null => some 0
  | .str s | .bytes s => some s.size
  | .list xs | .slice _ xs | .array _ xs => some xs.length
  | _ => none

def elements? : Value → Option (List Value)
  | .str s | .bytes s => some (s.toList.map fun b => .int .uint8 b.toNat)
  | .list xs | .slice _ xs | .array _ xs => some xs
  | _ => none

theorem integer_enumInt (v : Int) : integer? (.enumInt v) = some v := rfl

end Introspection.Value
