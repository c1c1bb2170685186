import Introspection.Powers

/-!
# Guest arithmetic

The numeric instructions of guest code on 64-bit slots. A 32-bit integer or single float
occupies the low half of its slot; floats are handled as bits.

Integers wrap; division by zero, the one overflowing signed division and float-to-integer
truncations out of range trap.

Float results follow the processor the guest runtime targets. An operation with a NaN operand
answers the first NaN operand, made quiet. An operation that makes a NaN from numbers answers
the default NaN, whose sign bit is set. Minimum and maximum answer the default NaN for any NaN
operand. Sign operations only touch the sign bit.
-/

namespace Introspection.Guest

/-- Why guest code stopped. -/
inductive Trap where
  | unreachable
  | divideByZero
  | overflow
  | invalidConversion
  | outOfBounds
  | stackOverflow
  | indirectTypeMismatch
  | invalidTableAccess
  | outOfFuel
  /-- The guest asked the host to end it with an exit code. -/
  | exit (code : Nat)
  deriving DecidableEq, Inhabited

def Trap.message : Trap → String
  | .unreachable => "unreachable"
  | .divideByZero => "integer divide by zero"
  | .overflow => "integer overflow"
  | .invalidConversion => "invalid conversion to integer"
  | .outOfBounds => "out of bounds memory access"
  | .stackOverflow => "stack overflow"
  | .indirectTypeMismatch => "indirect call type mismatch"
  | .invalidTableAccess => "invalid table access"
  | .outOfFuel => "execution budget exhausted"
  | .exit code => "module closed with exit_code(" ++ toString code ++ ")"

namespace Arith

/-! ## Slots -/

def lo (x : UInt64) : UInt32 := x.toUInt32

def ofLo (x : UInt32) : UInt64 := x.toUInt64

def ofBool (b : Bool) : UInt64 := if b then 1 else 0

def signed (bits : Nat) (x : Nat) : Int :=
  let v := x % 2 ^ bits
  if v < 2 ^ (bits - 1) then v else (v : Int) - 2 ^ bits

def wrap (bits : Nat) (i : Int) : Nat := (i % (2 ^ bits : Int)).toNat

def extend (src dst : Nat) (x : Nat) : UInt64 := (wrap dst (signed src x)).toUInt64

/-! ## Bit counting -/

def popCount : Nat → Nat → Nat
  | 0, _ => 0
  | n + 1, x => x % 2 + popCount n (x / 2)

def trailingZeros : Nat → Nat → Nat
  | 0, _ => 0
  | n + 1, x => if x % 2 == 1 then 0 else 1 + trailingZeros n (x / 2)

/-- The number of zero bits above the highest set bit of a `bits`-bit value. -/
def leadingZeros (bits : Nat) (x : Nat) : Nat :=
  if x == 0 then bits else bits - 1 - Nat.log2 x

def rotateLeft (bits : Nat) (x k : Nat) : Nat :=
  let k := k % bits
  (x * 2 ^ k + x / 2 ^ (bits - k)) % 2 ^ bits

/-! ## Integer operations -/

/-- A binary integer operation of `bits` bits on unsigned values, or its trap. -/
def intBinary (bits : Nat) (op : Nat) (a b : Nat) : Except Trap Nat :=
  let m := 2 ^ bits
  let sa := signed bits a
  let sb := signed bits b
  match op with
  | 0 => .ok ((a + b) % m)
  | 1 => .ok ((a + m - b) % m)
  | 2 => .ok ((a * b) % m)
  | 3 =>
    if b == 0 then .error .divideByZero
    else if sa == -(2 ^ (bits - 1) : Int) && sb == -1 then .error .overflow
    else .ok (wrap bits (sa.tdiv sb))
  | 4 => if b == 0 then .error .divideByZero else .ok (a / b)
  | 5 => if b == 0 then .error .divideByZero else .ok (wrap bits (sa.tmod sb))
  | 6 => if b == 0 then .error .divideByZero else .ok (a % b)
  | 7 => .ok (a &&& b)
  | 8 => .ok (a ||| b)
  | 9 => .ok (a ^^^ b)
  | 10 => .ok ((a * 2 ^ (b % bits)) % m)
  | 11 => .ok (wrap bits (sa / (2 ^ (b % bits) : Int)))
  | 12 => .ok (a / 2 ^ (b % bits))
  | 13 => .ok (rotateLeft bits a b)
  | _ => .ok (rotateLeft bits a (bits - b % bits))

def intCompare (bits : Nat) (op : Nat) (a b : Nat) : Bool :=
  let sa := signed bits a
  let sb := signed bits b
  match op with
  | 0 => a == b
  | 1 => a != b
  | 2 => sa < sb
  | 3 => a < b
  | 4 => sa > sb
  | 5 => a > b
  | 6 => sa ≤ sb
  | 7 => a ≤ b
  | 8 => sa ≥ sb
  | _ => a ≥ b

/-! ## Floats -/

/-- The layout of a binary float format: exponent and fraction widths. -/
structure Layout where
  expBits : Nat
  fracBits : Nat

def single : Layout := ⟨8, 23⟩

def double : Layout := ⟨11, 52⟩

namespace Layout

def width (l : Layout) : Nat := 1 + l.expBits + l.fracBits

def signBit (l : Layout) : Nat := 2 ^ (l.expBits + l.fracBits)

def isNaN (l : Layout) (x : Nat) : Bool :=
  (x / 2 ^ l.fracBits) % 2 ^ l.expBits == 2 ^ l.expBits - 1 && x % 2 ^ l.fracBits != 0

def quiet (l : Layout) (x : Nat) : Nat := x ||| 2 ^ (l.fracBits - 1)

/-- The default NaN: sign set, exponent all ones, only the quiet bit of the fraction. -/
def defaultNaN (l : Layout) : Nat :=
  l.signBit + (2 ^ l.expBits - 1) * 2 ^ l.fracBits + 2 ^ (l.fracBits - 1)

def magnitude (l : Layout) (x : Nat) : Nat := x % l.signBit

def negative (l : Layout) (x : Nat) : Bool := x / l.signBit % 2 == 1

end Layout

def toDouble (x : Nat) : Float := Float.ofBits x.toUInt64

def toSingle (x : Nat) : Float32 := Float32.ofBits x.toUInt32

/-- The result of an operation on operands none of which is a NaN, given as the bits of a
computed float: a NaN result is the default NaN. -/
def settle (l : Layout) (r : Nat) : Nat := if l.isNaN r then l.defaultNaN else r

/-- A binary float operation on bits, by the value operation of its width. -/
def floatBinary (l : Layout) (f : Nat → Nat → Nat) (a b : Nat) : Nat :=
  if l.isNaN a then l.quiet a
  else if l.isNaN b then l.quiet b
  else settle l (f a b)

def floatUnary (l : Layout) (f : Nat → Nat) (a : Nat) : Nat :=
  if l.isNaN a then l.quiet a else settle l (f a)

/-- The smaller or larger of two floats; a NaN operand gives the default NaN, and of two
zeros the minimum is negative and the maximum positive. -/
def floatMinMax (l : Layout) (lt : Nat → Nat → Bool) (isMax : Bool) (a b : Nat) : Nat :=
  if l.isNaN a || l.isNaN b then l.defaultNaN
  else if lt a b then (if isMax then b else a)
  else if lt b a then (if isMax then a else b)
  else if isMax then a &&& b else a ||| b

/-- Rounds a double to the nearest integer, ties to even, keeping the sign of zero. -/
def nearestDouble (x : Float) : Float :=
  if x.isNaN || x.isInf || x.abs ≥ 4503599627370496.0 then x
  else
    let f := x.floor
    let d := x - f
    let r := if d < 0.5 then f
      else if d > 0.5 then f + 1.0
      else if (f / 2.0).floor * 2.0 == f then f else f + 1.0
    if r == 0.0 then (if x < 0.0 || (1.0 / x) < 0.0 then -0.0 else 0.0) else r

/-- Rounds a single to the nearest integer, ties to even, keeping the sign of zero. -/
def nearestSingle (x : Float32) : Float32 :=
  (nearestDouble x.toFloat).toFloat32

def truncDouble (x : Float) : Float := if x < 0.0 then x.ceil else x.floor

/-- The double operations by their offset from `f64.abs`; single operations share them. -/
def doubleOp (op : Nat) (a b : Nat) : Nat :=
  let l := double
  match op with
  | 0 => l.magnitude a
  | 1 => a ^^^ l.signBit
  | 2 => floatUnary l (fun x => (toDouble x).ceil.toBits.toNat) a
  | 3 => floatUnary l (fun x => (toDouble x).floor.toBits.toNat) a
  | 4 => floatUnary l (fun x => (truncDouble (toDouble x)).toBits.toNat) a
  | 5 => floatUnary l (fun x => (nearestDouble (toDouble x)).toBits.toNat) a
  | 6 => floatUnary l (fun x => (toDouble x).sqrt.toBits.toNat) a
  | 7 => floatBinary l (fun x y => (toDouble x + toDouble y).toBits.toNat) a b
  | 8 => floatBinary l (fun x y => (toDouble x - toDouble y).toBits.toNat) a b
  | 9 => floatBinary l (fun x y => (toDouble x * toDouble y).toBits.toNat) a b
  | 10 => floatBinary l (fun x y => (toDouble x / toDouble y).toBits.toNat) a b
  | 11 => floatMinMax l (fun x y => toDouble x < toDouble y) false a b
  | 12 => floatMinMax l (fun x y => toDouble x < toDouble y) true a b
  | _ => l.magnitude a + (if l.negative b then l.signBit else 0)

def singleOp (op : Nat) (a b : Nat) : Nat :=
  let l := single
  match op with
  | 0 => l.magnitude a
  | 1 => a ^^^ l.signBit
  | 2 => floatUnary l (fun x => (toSingle x).ceil.toBits.toNat) a
  | 3 => floatUnary l (fun x => (toSingle x).floor.toBits.toNat) a
  | 4 => floatUnary l (fun x => (truncDouble (toSingle x).toFloat).toFloat32.toBits.toNat) a
  | 5 => floatUnary l (fun x => (nearestSingle (toSingle x)).toBits.toNat) a
  | 6 => floatUnary l (fun x => (toSingle x).sqrt.toBits.toNat) a
  | 7 => floatBinary l (fun x y => (toSingle x + toSingle y).toBits.toNat) a b
  | 8 => floatBinary l (fun x y => (toSingle x - toSingle y).toBits.toNat) a b
  | 9 => floatBinary l (fun x y => (toSingle x * toSingle y).toBits.toNat) a b
  | 10 => floatBinary l (fun x y => (toSingle x / toSingle y).toBits.toNat) a b
  | 11 => floatMinMax l (fun x y => toSingle x < toSingle y) false a b
  | 12 => floatMinMax l (fun x y => toSingle x < toSingle y) true a b
  | _ => l.magnitude a + (if l.negative b then l.signBit else 0)

/-- A float comparison; any comparison but inequality is false with a NaN. -/
def floatCompare (l : Layout) (op : Nat) (a b : Nat) : Bool :=
  let (x, y) := if l.width == 64 then (toDouble a, toDouble b)
    else ((toSingle a).toFloat, (toSingle b).toFloat)
  match op with
  | 0 => x == y
  | 1 => !(x == y)
  | 2 => x < y
  | 3 => y < x
  | 4 => x ≤ y
  | _ => y ≤ x

def asDouble (l : Layout) (x : Nat) : Float :=
  if l.width == 64 then toDouble x else (toSingle x).toFloat

/-- Truncates a float to an integer of `bits` bits, signed or not, trapping on NaN and on
values out of range; the saturating form clamps instead and takes NaN to zero. -/
def truncate (l : Layout) (bits : Nat) (isSigned saturating : Bool) (x : Nat) : Except Trap Nat :=
  let v := asDouble l x
  let lower : Int := if isSigned then -(2 ^ (bits - 1) : Int) else 0
  let upper : Int := if isSigned then 2 ^ (bits - 1) - 1 else 2 ^ bits - 1
  if v.isNaN then (if saturating then .ok 0 else .error .invalidConversion)
  else
    let t := truncDouble v
    let below := t < Float.ofInt lower
    let above := t ≥ Float.ofInt (upper + 1)
    if below then (if saturating then .ok (wrap bits lower) else .error .overflow)
    else if above then (if saturating then .ok (wrap bits upper) else .error .overflow)
    else
      let i : Int := if t < 0.0 then -((-t).toUInt64.toNat : Int) else t.toUInt64.toNat
      .ok (wrap bits i)

def convert (l : Layout) (i : Int) : Nat :=
  if l.width == 64 then (Float.ofInt i).toBits.toNat else (Float32.ofInt i).toBits.toNat

/-- A double narrowed to a single; a NaN keeps its sign and the top of its payload. -/
def demote (x : Nat) : Nat :=
  if double.isNaN x then
    (if double.negative x then single.signBit else 0) + 0x7FC00000 % single.signBit
      + (x % 2 ^ 52) / 2 ^ 29 % 2 ^ 22
  else (toDouble x).toFloat32.toBits.toNat

/-- A single widened to a double; a NaN keeps its sign and payload. -/
def promote (x : Nat) : Nat :=
  if single.isNaN x then
    (if single.negative x then double.signBit else 0) + 0x7FF8000000000000
      + (x % 2 ^ 22) * 2 ^ 29
  else (toSingle x).toFloat.toBits.toNat

/-! ## Instructions -/

def operandCount (op : Nat) : Nat :=
  if op == 0x45 || op == 0x50 then 1
  else if op ≤ 0x66 then 2
  else if op ≤ 0x69 then 1
  else if op ≤ 0x78 then 2
  else if op ≤ 0x7b then 1
  else if op ≤ 0x8a then 2
  else if op ≤ 0x91 then 1
  else if op ≤ 0x98 then 2
  else if op ≤ 0x9f then 1
  else if op ≤ 0xa6 then 2
  else 1

def unary (op : Nat) (a : Nat) : Except Trap Nat :=
  let a32 := a % 2 ^ 32
  match op with
  | 0x45 => .ok (if a32 == 0 then 1 else 0)
  | 0x50 => .ok (if a == 0 then 1 else 0)
  | 0x67 => .ok (leadingZeros 32 a32)
  | 0x68 => .ok (trailingZeros 32 a32)
  | 0x69 => .ok (popCount 32 a32)
  | 0x79 => .ok (leadingZeros 64 a)
  | 0x7a => .ok (trailingZeros 64 a)
  | 0x7b => .ok (popCount 64 a)
  | 0xa7 => .ok a32
  | 0xa8 => truncate single 32 true false a32
  | 0xa9 => truncate single 32 false false a32
  | 0xaa => truncate double 32 true false a
  | 0xab => truncate double 32 false false a
  | 0xac => .ok (wrap 64 (signed 32 a32))
  | 0xad => .ok a32
  | 0xae => truncate single 64 true false a32
  | 0xaf => truncate single 64 false false a32
  | 0xb0 => truncate double 64 true false a
  | 0xb1 => truncate double 64 false false a
  | 0xb2 => .ok (convert single (signed 32 a32))
  | 0xb3 => .ok (convert single a32)
  | 0xb4 => .ok (convert single (signed 64 a))
  | 0xb5 => .ok (convert single a)
  | 0xb6 => .ok (demote a)
  | 0xb7 => .ok (convert double (signed 32 a32))
  | 0xb8 => .ok (convert double a32)
  | 0xb9 => .ok (convert double (signed 64 a))
  | 0xba => .ok (convert double a)
  | 0xbb => .ok (promote a32)
  | 0xbc | 0xbe => .ok a32
  | 0xbd | 0xbf => .ok a
  | 0xc0 => .ok (wrap 32 (signed 8 a))
  | 0xc1 => .ok (wrap 32 (signed 16 a))
  | 0xc2 => .ok (wrap 64 (signed 8 a))
  | 0xc3 => .ok (wrap 64 (signed 16 a))
  | 0xc4 => .ok (wrap 64 (signed 32 a))
  | 0x100 => truncate single 32 true true a32
  | 0x101 => truncate single 32 false true a32
  | 0x102 => truncate double 32 true true a
  | 0x103 => truncate double 32 false true a
  | 0x104 => truncate single 64 true true a32
  | 0x105 => truncate single 64 false true a32
  | 0x106 => truncate double 64 true true a
  | 0x107 => truncate double 64 false true a
  | _ =>
    if 0x8b ≤ op && op ≤ 0x91 then .ok (singleOp (op - 0x8b) a32 0)
    else .ok (doubleOp (op - 0x99) a 0)

/-- Applies a two-operand numeric instruction; `b` is the top operand. -/
def binary (op : Nat) (a b : Nat) : Except Trap Nat :=
  let a32 := a % 2 ^ 32
  let b32 := b % 2 ^ 32
  if op ≤ 0x4f then .ok (if intCompare 32 (op - 0x46) a32 b32 then 1 else 0)
  else if op ≤ 0x5a then .ok (if intCompare 64 (op - 0x51) a b then 1 else 0)
  else if op ≤ 0x60 then .ok (if floatCompare single (op - 0x5b) a32 b32 then 1 else 0)
  else if op ≤ 0x66 then .ok (if floatCompare double (op - 0x61) a b then 1 else 0)
  else if op ≤ 0x78 then intBinary 32 (op - 0x6a) a32 b32
  else if op ≤ 0x8a then intBinary 64 (op - 0x7c) a b
  else if op ≤ 0x98 then .ok (singleOp (op - 0x8b) a32 b32)
  else .ok (doubleOp (op - 0x99) a b)

theorem popCount_zero (n : Nat) : popCount n 0 = 0 := by
  induction n with
  | zero => rfl
  | succ n ih => simp [popCount, ih]

end Arith

end Introspection.Guest
