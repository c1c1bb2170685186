import Introspection.Text.Numeral

/-!
# Numerals of the C library

The C library reads numbers from the front of a string and reports how many bytes it used.
Both readers skip leading white space (space, tab, line feed, vertical tab, form feed, carriage
return) and take an optional sign.

Integers are read in a base from 2 to 36, or in the base their prefix names when the base is
zero: `0x` for sixteen, a leading `0` for eight, ten otherwise. A `0x` prefix without a digit
after it reads as the number zero ending before the `x`. A string without digits, and a base out
of range, read nothing.

Floating-point numbers are `inf`, `infinity` or `nan` in any case (`nan` may carry a bracketed
tag), hexadecimal with `0x`, an optional point and an optional binary exponent `p`, or decimal
with an optional point and an optional exponent `e`; an exponent letter without digits after it
is not part of the number. The value is the correctly rounded one.
-/

namespace Introspection.Native

open Introspection.Text Introspection.Text.Numeral

def isCSpace (c : UInt8) : Bool := c == 32 || (9 ≤ c && c ≤ 13)

def digitIn (base : Nat) (c : UInt8) : Option Nat :=
  let v := if isDigit c then some (c - byte '0').toNat
    else if byte 'a' ≤ lower c && lower c ≤ byte 'z' then some ((lower c - byte 'a').toNat + 10)
    else none
  v.bind fun d => if d < base then some d else none

/-- The leading white space and sign of a numeral: how many bytes they take and whether the
sign is minus. -/
def leadIn (s : List UInt8) : Nat × Bool :=
  let ws := (s.takeWhile isCSpace).length
  match s.drop ws with
  | c :: _ => if c == byte '-' then (ws + 1, true) else if c == byte '+' then (ws + 1, false)
              else (ws, false)
  | [] => (ws, false)

/-- Reads the digits of a base from the front of a text: their value and count. -/
def readBaseDigits (base : Nat) : List UInt8 → Nat → Nat → Nat × Nat
  | [], v, n => (v, n)
  | c :: rest, v, n =>
    match digitIn base c with
    | some d => readBaseDigits base rest (v * base + d) (n + 1)
    | none => (v, n)

/-- An integer read from the front of a text: its sign, its magnitude and the bytes used. -/
structure IntegerRead where
  neg : Bool
  magnitude : Nat
  used : Nat
  deriving Repr

/-- Reads an integer in a base (zero picks it from the prefix); nothing when no digits stand
where the number should start or the base is out of range. -/
def readInteger (s : List UInt8) (base : Nat) : Option IntegerRead :=
  if base == 1 || base > 36 then none
  else
    let (lead, neg) := leadIn s
    let body := s.drop lead
    let hexPrefix := match body with
      | z :: x :: _ => z == byte '0' && lower x == byte 'x' && (base == 0 || base == 16)
      | _ => false
    if hexPrefix then
      let (v, n) := readBaseDigits 16 (body.drop 2) 0 0
      if n == 0 then some { neg, magnitude := 0, used := lead + 1 }
      else some { neg, magnitude := v, used := lead + 2 + n }
    else
      let base := if base != 0 then base
        else match body with
          | z :: _ => if z == byte '0' then 8 else 10
          | [] => 10
      let (v, n) := readBaseDigits base body 0 0
      if n == 0 then none else some { neg, magnitude := v, used := lead + n }

/-- The signed 64-bit value of a read integer, saturated at the ends of the range. -/
def IntegerRead.signed (r : IntegerRead) : Int :=
  if r.neg then (if r.magnitude > 2 ^ 63 then -(2 ^ 63) else -(r.magnitude : Int))
  else if r.magnitude ≥ 2 ^ 63 then 2 ^ 63 - 1 else r.magnitude

/-- The unsigned 64-bit value of a read integer: negated modulo 2⁶⁴ after a minus, and the
largest value when the magnitude does not fit. -/
def IntegerRead.unsigned (r : IntegerRead) : Nat :=
  if r.magnitude ≥ 2 ^ 64 then 2 ^ 64 - 1
  else if r.neg then (2 ^ 64 - r.magnitude) % 2 ^ 64 else r.magnitude

/-- The digits of a mantissa: their value, how many there were and how many followed the
point. -/
structure MantissaDigits where
  value : Nat := 0
  count : Nat := 0
  afterPoint : Nat := 0
  sawPoint : Bool := false
  deriving Repr

/-- Reads mantissa digits of a base with at most one point; gives the digits and the bytes
used. -/
def readMantissaDigits (base : Nat) : List UInt8 → MantissaDigits → Nat → MantissaDigits × Nat
  | [], m, used => (m, used)
  | c :: rest, m, used =>
    if c == byte '.' && !m.sawPoint then readMantissaDigits base rest { m with sawPoint := true } (used + 1)
    else
      match digitIn base c with
      | some d =>
        readMantissaDigits base rest
          { m with value := m.value * base + d, count := m.count + 1,
                   afterPoint := if m.sawPoint then m.afterPoint + 1 else m.afterPoint } (used + 1)
      | none => (m, used)

/-- Reads an exponent after its letter: the signed value (capped far beyond every format) and
the bytes used, or nothing when no digit follows the letter and sign. -/
def readCExponent (s : List UInt8) : Option (Int × Nat) :=
  let (neg, signLen) := match s with
    | c :: _ => if c == byte '-' then (true, 1) else if c == byte '+' then (false, 1) else (false, 0)
    | [] => (false, 0)
  let digits := (s.drop signLen).takeWhile isDigit
  if digits.isEmpty then none
  else
    let v := digits.foldl (fun acc d => if acc < 100000 then acc * 10 + (d - byte '0').toNat else acc) 0
    some (if neg then -(v : Int) else v, signLen + digits.length)

/-- A floating-point number read from the front of a text: its bit pattern in a format and the
bytes used; nothing when the text does not start with one. -/
def readCFloat (f : Decimal.BinaryFormat) (s : List UInt8) : Option (Nat × Nat) :=
  let (lead, neg) := leadIn s
  let body := s.drop lead
  let signBit := if neg then 2 ^ (f.fracBits + f.expBits) else 0
  let word (w : String) : Nat := commonPrefixIgnoringCase body w.toList
  if word "inf" == 3 then
    let n := if word "infinity" == 8 then 8 else 3
    some (infinityBits f neg, lead + n)
  else if word "nan" == 3 then
    let tag := (body.drop 3)
    let tagLen := match tag with
      | c :: rest =>
        if c == byte '(' then
          let inner := rest.takeWhile fun b => isDigit b || (byte 'a' ≤ lower b && lower b ≤ byte 'z') || b == byte '_'
          match rest.drop inner.length with
          | d :: _ => if d == byte ')' then inner.length + 2 else 0
          | [] => 0
        else 0
      | [] => 0
    some (signBit + (2 ^ f.expBits - 1) * 2 ^ f.fracBits + 2 ^ (f.fracBits - 1), lead + 3 + tagLen)
  else
    let hex := match body with
      | z :: x :: rest =>
        z == byte '0' && lower x == byte 'x' &&
          (match rest with
           | c :: more => (digitIn 16 c).isSome ||
               (c == byte '.' && match more with
                 | d :: _ => (digitIn 16 d).isSome
                 | [] => false)
           | [] => false)
      | _ => false
    if hex then
      let (m, used) := readMantissaDigits 16 (body.drop 2) {} 0
      let afterMantissa := body.drop (2 + used)
      let (e, eLen) := match afterMantissa with
        | c :: rest => if lower c == byte 'p' then
            (match readCExponent rest with
             | some (e, n) => (e, n + 1)
             | none => (0, 0))
          else (0, 0)
        | [] => (0, 0)
      let m' : Mantissa := { neg, hex := true, digits := m.value, exp := e - 4 * (m.afterPoint : Int) }
      some ((hexBits f m').1, lead + 2 + used + eLen)
    else
      let (m, used) := readMantissaDigits 10 body {} 0
      if m.count == 0 then
        none
      else
        let afterMantissa := body.drop used
        let (e, eLen) := match afterMantissa with
          | c :: rest => if lower c == byte 'e' then
              (match readCExponent rest with
               | some (e, n) => (e, n + 1)
               | none => (0, 0))
            else (0, 0)
          | [] => (0, 0)
        let m' : Mantissa := { neg, digits := m.value, exp := e - (m.afterPoint : Int) }
        some ((decimalBits f m').1, lead + used + eLen)

theorem readInteger_base_one (s : List UInt8) : readInteger s 1 = none := rfl

end Introspection.Native
