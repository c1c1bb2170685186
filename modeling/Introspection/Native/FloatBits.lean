import Introspection.Text.Numeral

/-!
# Floating-point values as bit patterns

The math library's functions are computed on bit patterns of a binary format. A finite value is
an integer mantissa times a power of two, which makes the exact operations exact: the remainder
of a division, the integral and fractional parts, and the correctly rounded length of a vector.

A result that is not a number follows the processor's rule: a NaN operand, quieted, passes
through (the first one when there are several); an invalid operation on numbers gives the
default NaN, which has the sign bit set.
-/

namespace Introspection.Native

open Introspection.Text Introspection.Text.Numeral

namespace FloatBits

def signBit (f : Decimal.BinaryFormat) : Nat := 2 ^ (f.fracBits + f.expBits)

def topExponent (f : Decimal.BinaryFormat) : Nat := 2 ^ f.expBits - 1

def exponentField (f : Decimal.BinaryFormat) (b : Nat) : Nat := b / 2 ^ f.fracBits % 2 ^ f.expBits

def fractionField (f : Decimal.BinaryFormat) (b : Nat) : Nat := b % 2 ^ f.fracBits

def isNegative (f : Decimal.BinaryFormat) (b : Nat) : Bool := b / signBit f % 2 == 1

def isNaN (f : Decimal.BinaryFormat) (b : Nat) : Bool :=
  exponentField f b == topExponent f && fractionField f b != 0

def isInf (f : Decimal.BinaryFormat) (b : Nat) : Bool :=
  exponentField f b == topExponent f && fractionField f b == 0

def quiet (f : Decimal.BinaryFormat) (b : Nat) : Nat := b ||| 2 ^ (f.fracBits - 1)

def defaultNaN (f : Decimal.BinaryFormat) : Nat := signBit f + topExponent f * 2 ^ f.fracBits + 2 ^ (f.fracBits - 1)

/-- The NaN a result that is not a number takes: the first NaN operand, quieted, or the
default NaN. -/
def nanOf (f : Decimal.BinaryFormat) (operands : List Nat) : Nat :=
  match operands.find? (isNaN f) with
  | some b => quiet f b
  | none => defaultNaN f

def magnitude (f : Decimal.BinaryFormat) (b : Nat) : Nat := b % signBit f

def withSignOf (f : Decimal.BinaryFormat) (b s : Nat) : Nat :=
  magnitude f b + (if isNegative f s then signBit f else 0)

/-- The mantissa and exponent of a finite magnitude: the value is `m * 2 ^ e`. -/
def decompose (f : Decimal.BinaryFormat) (b : Nat) : Nat × Int :=
  let e := exponentField f b
  let frac := fractionField f b
  let emin : Int := 1 - (f.bias : Int) - (f.fracBits : Int)
  if e == 0 then (frac, emin) else (frac + 2 ^ f.fracBits, (e : Int) - 1 + emin)

/-- The pattern of `±m * 2 ^ e`, correctly rounded; `sticky` says the true value is a little
above. -/
def compose (f : Decimal.BinaryFormat) (neg : Bool) (m : Nat) (e : Int) (sticky : Bool) : Nat :=
  if e ≥ 0 then (rationalBits f neg (m * 2 ^ e.toNat) 1 sticky).1
  else (rationalBits f neg m (2 ^ (-e).toNat) sticky).1

def isqrt (n : Nat) : Nat :=
  go (2 ^ (n.log2 / 2 + 1)) (n.log2 + 2)
where
  go (x : Nat) : Nat → Nat
    | 0 => x
    | fuel + 1 =>
      let y := (x + n / x) / 2
      if y < x then go y fuel else x

/-- The length of the vector `(x, y)`, correctly rounded; infinite when either is infinite,
otherwise NaN when either is NaN. -/
def hypot (f : Decimal.BinaryFormat) (x y : Nat) : Nat :=
  if isInf f x || isInf f y then topExponent f * 2 ^ f.fracBits
  else if isNaN f x || isNaN f y then nanOf f [x, y]
  else
    let (mx, ex) := decompose f x
    let (my, ey) := decompose f y
    let e0 := min ex ey
    let n := mx * mx * 4 ^ (ex - e0).toNat + my * my * 4 ^ (ey - e0).toNat
    if n == 0 then 0
    else
      let j : Nat := 64
      let scaled := n * 4 ^ j
      let q := isqrt scaled
      compose f false q (e0 - (j : Int)) (q * q != scaled)

def trunc (f : Decimal.BinaryFormat) (b : Nat) : Nat :=
  if isNaN f b then quiet f b
  else if isInf f b then b
  else
    let (m, e) := decompose f b
    if e ≥ 0 then b
    else
      let i := m / 2 ^ (-e).toNat
      if i == 0 then withSignOf f 0 b else compose f (isNegative f b) i 0 false

def fmod (f : Decimal.BinaryFormat) (x y : Nat) : Nat :=
  if isNaN f x || isNaN f y then nanOf f [x, y]
  else if isInf f x || magnitude f y == 0 then defaultNaN f
  else if isInf f y then x
  else
    let (mx, ex) := decompose f x
    let (my, ey) := decompose f y
    let e0 := min ex ey
    let big := mx * 2 ^ (ex - e0).toNat
    let small := my * 2 ^ (ey - e0).toNat
    let r := big % small
    if r == 0 then withSignOf f 0 x else compose f (isNegative f x) r e0 false

/-- The fractional and integral parts, both with the sign of the value. -/
def modf (f : Decimal.BinaryFormat) (b : Nat) : Nat × Nat :=
  if isNaN f b then (quiet f b, quiet f b)
  else if isInf f b then (withSignOf f 0 b, b)
  else
    let i := trunc f b
    let (m, e) := decompose f b
    let (mi, ei) := decompose f i
    let e0 := min e ei
    let whole := m * 2 ^ (e - e0).toNat
    let part := mi * 2 ^ (ei - e0).toNat
    let r := whole - part
    (if r == 0 then withSignOf f 0 b else compose f (isNegative f b) r e0 false, i)

def integral (f : Decimal.BinaryFormat) (b : Nat) : Int :=
  let (m, e) := decompose f b
  let v : Int := if e ≥ 0 then (m * 2 ^ e.toNat : Nat) else (m / 2 ^ (-e).toNat : Nat)
  if isNegative f b then -v else v

/-- The nearest integer, halves away from zero, as a 64-bit register; the indefinite integer
when it is out of range or not a number. -/
def lround (f : Decimal.BinaryFormat) (rounded : Nat) : Nat :=
  if isNaN f rounded || isInf f rounded then 2 ^ 63
  else
    let v := integral f rounded
    if v < -(2 ^ 63) || v ≥ 2 ^ 63 then 2 ^ 63 else (v % 2 ^ 64).toNat

def fmax (f : Decimal.BinaryFormat) (x y : Nat) (greater : Bool) : Nat :=
  if isNaN f x && isNaN f y then quiet f x
  else if isNaN f x then y
  else if isNaN f y then x
  else if greater then x else y

theorem withSignOf_zero_magnitude (f : Decimal.BinaryFormat) (s : Nat) :
    magnitude f (withSignOf f 0 s) = 0 := by
  simp [withSignOf, magnitude, signBit]
  split <;> simp

end FloatBits

end Introspection.Native
