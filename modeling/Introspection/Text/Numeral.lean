import Introspection.Text.Quote
import Introspection.Text.Decimal

/-!
# Reading numerals

Numerals are read from byte strings the way program literals are written:

* integers carry an optional sign, an optional base prefix (`0b`, `0o`, `0x`, or a bare leading
  `0` for octal) and digits of that base, and underscores may separate digits; a value that
  does not fit the requested width is out of range, and the reader stops at the first digit
  that overflows;
* floating-point numbers are decimal, with an optional exponent, or hexadecimal with a
  mandatory binary exponent, or one of the words `inf`, `infinity` and `nan` in any case; the
  value is rounded to the nearest number of the requested format, ties to even, and a finite
  numeral beyond the largest finite number is out of range;
* truth values are `1`, `t`, `T`, `true`, `True`, `TRUE` and their false counterparts.

A refusal names the reader, the text and whether the syntax or the range was wrong.
-/

namespace Introspection.Text.Numeral

open Introspection.Text Introspection.Text.Decimal

/-- Why a numeral is refused. -/
inductive Refusal where
  | malformed
  | range
  deriving DecidableEq, Repr, Inhabited

/-- A refused numeral: the reader that refused it, the text, and why. -/
structure Refused where
  reader : String
  text : ByteArray
  why : Refusal

def Refused.message (e : Refused) : String :=
  "strconv." ++ e.reader ++ ": parsing " ++ Quote.quoteBytes e.text ++ ": " ++
    (match e.why with
      | .malformed => "invalid syntax"
      | .range => "value out of range")

def byte (c : Char) : UInt8 := c.toNat.toUInt8

/-- An ASCII letter folded to lower case; other bytes keep their bit 5 set. -/
def lower (c : UInt8) : UInt8 := c ||| 0x20

def isDigit (c : UInt8) : Bool := byte '0' ≤ c && c ≤ byte '9'

/-- Whether underscores in a numeral only separate digits, or follow a base prefix. -/
def underscoreOK (s : List UInt8) : Bool :=
  let s := match s with
    | c :: rest => if c == byte '-' || c == byte '+' then rest else s
    | [] => []
  let (start, hex, body) := match s with
    | z :: p :: rest =>
      if z == byte '0' && (lower p == byte 'b' || lower p == byte 'o' || lower p == byte 'x')
      then ('0', lower p == byte 'x', rest) else ('^', false, s)
    | _ => ('^', false, s)
  let step : Option Char → UInt8 → Option Char := fun saw c =>
    match saw with
    | none => none
    | some saw =>
      if isDigit c || (hex && byte 'a' ≤ lower c && lower c ≤ byte 'f') then some '0'
      else if c == byte '_' then (if saw == '0' then some '_' else none)
      else if saw == '_' then none
      else some '!'
  match body.foldl step (some start) with
  | some saw => saw != '_'
  | none => false

def digitValue (c : UInt8) : Option Nat :=
  if isDigit c then some (c - byte '0').toNat
  else if byte 'a' ≤ lower c && lower c ≤ byte 'z' then some ((lower c - byte 'a').toNat + 10)
  else none

/-- Accumulates digits of a base up to `maxVal`: underscores are skipped when `separated`,
a byte that is no digit of the base is a syntax error, and the first digit that takes the
value past `maxVal` is a range error. -/
def accumulate (base maxVal : Nat) (separated : Bool) :
    List UInt8 → Nat → Bool → Except Refusal (Nat × Bool)
  | [], n, sawSep => .ok (n, sawSep)
  | c :: rest, n, sawSep =>
    if c == byte '_' && separated then accumulate base maxVal separated rest n true
    else match digitValue c with
      | none => .error .malformed
      | some d =>
        if d ≥ base then .error .malformed
        else if n * base + d > maxVal then .error .range
        else accumulate base maxVal separated rest (n * base + d) sawSep

def splitBase (s : List UInt8) : Nat × List UInt8 :=
  match s with
  | z :: p :: d :: rest =>
    if z == byte '0' then
      if lower p == byte 'b' then (2, d :: rest)
      else if lower p == byte 'o' then (8, d :: rest)
      else if lower p == byte 'x' then (16, d :: rest)
      else (8, p :: d :: rest)
    else (10, s)
  | z :: rest => if z == byte '0' then (8, rest) else (10, s)
  | [] => (10, [])

def readUnsigned (s : List UInt8) (bits : Nat) : Except Refusal Nat :=
  if s.isEmpty then .error .malformed
  else
    let (base, digits) := splitBase s
    match accumulate base (2 ^ bits - 1) true digits 0 false with
    | .error e => .error e
    | .ok (n, sawSep) => if sawSep && !underscoreOK s then .error .malformed else .ok n

def readSigned (s : List UInt8) (bits : Nat) : Except Refusal Int :=
  let (neg, body) := match s with
    | c :: rest =>
      if c == byte '+' then (false, rest) else if c == byte '-' then (true, rest) else (false, s)
    | [] => (false, [])
  if s.isEmpty then .error .malformed
  else
    let un : Except Refusal Nat := match readUnsigned body bits with
      | .ok n => .ok n
      | .error .range => .ok (2 ^ bits - 1)
      | .error .malformed => .error .malformed
    match un with
    | .error e => .error e
    | .ok un =>
      let cutoff := 2 ^ (bits - 1)
      if !neg && un ≥ cutoff then .error .range
      else if neg && un > cutoff then .error .range
      else if neg then .ok (-(un : Int)) else .ok un

def parseInt (s : ByteArray) (bits : Nat) : Except Refused Int :=
  (readSigned s.toList bits).mapError fun why => { reader := "ParseInt", text := s, why }

def parseUInt (s : ByteArray) (bits : Nat) : Except Refused Nat :=
  (readUnsigned s.toList bits).mapError fun why => { reader := "ParseUint", text := s, why }

def parseBool (s : ByteArray) : Except Refused Bool :=
  match String.fromUTF8? s with
  | some "1" | some "t" | some "T" | some "true" | some "True" | some "TRUE" => .ok true
  | some "0" | some "f" | some "F" | some "false" | some "False" | some "FALSE" => .ok false
  | _ => .error { reader := "ParseBool", text := s, why := .malformed }

/-! ## Floating-point numerals -/

def infinityBits (f : BinaryFormat) (neg : Bool) : Nat :=
  (if neg then 2 ^ (f.fracBits + f.expBits) else 0) + (2 ^ f.expBits - 1) * 2 ^ f.fracBits

/-- The bit pattern of the quiet NaN of a format: the lowest payload bit is set when the
fraction is wider than 32 bits, and is lost in narrower formats. -/
def nanBits (f : BinaryFormat) : Nat :=
  (2 ^ f.expBits - 1) * 2 ^ f.fracBits + 2 ^ (f.fracBits - 1) + (if f.fracBits > 32 then 1 else 0)

def atLeastPow2 (num den : Nat) (k : Int) : Bool :=
  if k ≥ 0 then num ≥ den * 2 ^ k.toNat else num * 2 ^ (-k).toNat ≥ den

/--
Rounds the positive rational `num / den` to the format, ties to even; `sticky` says the true
value lies an infinitesimal above the rational. Gives the bit pattern of the magnitude and
whether it overflowed to infinity.
-/
def roundBits (f : BinaryFormat) (num den : Nat) (sticky : Bool) : Nat × Bool :=
  let p := f.fracBits + 1
  let emin : Int := 1 - (f.bias : Int)
  let k0 : Int := (num.log2 : Int) - (den.log2 : Int)
  let k := if atLeastPow2 num den k0 then k0 else k0 - 1
  let e := max k emin
  let shift : Int := (p : Int) - 1 - e
  let (n, d) := if shift ≥ 0 then (num * 2 ^ shift.toNat, den) else (num, den * 2 ^ (-shift).toNat)
  let q := n / d
  let r := n % d
  let up := 2 * r > d || (2 * r == d && (sticky || q % 2 == 1))
  let q := if up then q + 1 else q
  let (q, e) := if q == 2 ^ p then (2 ^ (p - 1), e + 1) else (q, e)
  if e > (f.bias : Int) then (infinityBits f false, true)
  else if q < 2 ^ (p - 1) then (q, false)
  else (((e + f.bias).toNat) * 2 ^ f.fracBits + (q - 2 ^ (p - 1)), false)

/-- The bit pattern of `±num / den` in a format, and whether it overflowed. -/
def rationalBits (f : BinaryFormat) (neg : Bool) (num den : Nat) (sticky : Bool) :
    Nat × Bool :=
  let sign := if neg then 2 ^ (f.fracBits + f.expBits) else 0
  if num == 0 then (sign, false)
  else
    let (bits, overflows) := roundBits f num den sticky
    (sign + bits, overflows)

/-- The length of the common prefix of a text and a lower-case word, ignoring case. -/
def commonPrefixIgnoringCase : List UInt8 → List Char → Nat
  | c :: cs, w :: ws => if lower c == byte w then commonPrefixIgnoringCase cs ws + 1 else 0
  | _, _ => 0

/-- The special words: an optionally signed `inf` or `infinity`, or `nan`, with the length
they take. -/
def special? (s : List UInt8) : Option (Option Bool × Nat) :=
  let inf (neg : Bool) (rest : List UInt8) (signLen : Nat) : Option (Option Bool × Nat) :=
    let n := commonPrefixIgnoringCase rest "infinity".toList
    let n := if 3 < n && n < 8 then 3 else n
    if n == 3 || n == 8 then some (some neg, signLen + n) else none
  match s with
  | [] => none
  | c :: rest =>
    if c == byte '+' then inf false rest 1
    else if c == byte '-' then inf true rest 1
    else if lower c == byte 'i' then inf false s 0
    else if lower c == byte 'n' then
      if commonPrefixIgnoringCase s "nan".toList == 3 then some (none, 3) else none
    else none

/-- A numeral's mantissa digits and where it ends. -/
structure Mantissa where
  neg : Bool := false
  hex : Bool := false
  /-- The digits read, as a number. -/
  digits : Nat := 0
  /-- The power of the base (of two for hexadecimal) the digits are scaled by. -/
  exp : Int := 0
  /-- Whether digits beyond those kept were read (hexadecimal keeps sixteen). -/
  truncated : Bool := false
  /-- How many bytes the numeral takes. -/
  used : Nat := 0

/-- The state of reading mantissa digits. -/
structure DigitRun where
  /-- The digits kept, as a number. -/
  value : Nat := 0
  /-- How many digits were read, leading zeros included. -/
  count : Nat := 0
  /-- How many significant digits were kept. -/
  kept : Nat := 0
  /-- How many digits were read but not kept. -/
  dropped : Nat := 0
  /-- How many digits stood before the point, once a point was read. -/
  point : Option Nat := none
  sawDigit : Bool := false
  sawSeparator : Bool := false

/-- Reads the digits and point of a mantissa and gives the rest. A hexadecimal mantissa keeps
sixteen significant digits and drops the others; a decimal one keeps all. -/
def readDigits (hex : Bool) : List UInt8 → DigitRun → DigitRun × List UInt8
  | [], r => (r, [])
  | c :: rest, r =>
    if c == byte '_' then readDigits hex rest { r with sawSeparator := true }
    else if c == byte '.' then
      match r.point with
      | some _ => (r, c :: rest)
      | none => readDigits hex rest { r with point := some r.count }
    else
      let d? : Option Nat :=
        if isDigit c then some (c - byte '0').toNat
        else if hex && byte 'a' ≤ lower c && lower c ≤ byte 'f' then
          some ((lower c - byte 'a').toNat + 10)
        else none
      match d? with
      | none => (r, c :: rest)
      | some d =>
        let r := { r with count := r.count + 1, sawDigit := true }
        if hex && r.kept ≥ 16 then readDigits hex rest { r with dropped := r.dropped + 1 }
        else
          let significant := r.value > 0 || d > 0
          readDigits hex rest
            { r with value := r.value * (if hex then 16 else 10) + d,
                     kept := if significant then r.kept + 1 else r.kept }

def readExponent : List UInt8 → Nat → Bool → Nat × Bool × List UInt8
  | [], e, sep => (e, sep, [])
  | c :: rest, e, sep =>
    if c == byte '_' then readExponent rest e true
    else if isDigit c then
      readExponent rest (if e < 10000 then e * 10 + (c - byte '0').toNat else e) sep
    else (e, sep, c :: rest)

/-- Reads the longest numeral at the front of a text, or nothing when it has none. -/
def readMantissa (s : List UInt8) : Option Mantissa :=
  let (neg, afterSign) := match s with
    | c :: rest =>
      if c == byte '+' then (false, rest) else if c == byte '-' then (true, rest) else (false, s)
    | [] => (false, [])
  let (hex, body) := match afterSign with
    | z :: x :: r :: rest =>
      if z == byte '0' && lower x == byte 'x' then (true, r :: rest) else (false, afterSign)
    | _ => (false, afterSign)
  let (run, rest) := readDigits hex body {}
  if !run.sawDigit then none
  else
    let point : Int := (run.point.getD run.count : Int) - ((run.count - run.dropped : Nat) : Int)
    let point := if hex then point * 4 else point
    let expChar := if hex then byte 'p' else byte 'e'
    let withExp : Option (Int × Bool × List UInt8) :=
      match rest with
      | c :: more =>
        if lower c == expChar then
          let (esign, digits) := match more with
            | d :: r => if d == byte '+' then ((1 : Int), r)
                        else if d == byte '-' then (-1, r) else (1, more)
            | [] => (1, more)
          match digits with
          | d :: _ =>
            if isDigit d then
              let (e, sep2, after) := readExponent digits 0 false
              some (esign * e, sep2, after)
            else none
          | [] => none
        else if hex then none
        else some (0, false, rest)
      | [] => if hex then none else some (0, false, rest)
    match withExp with
    | none => none
    | some (e, sep2, after) =>
      let used := s.length - after.length
      if (run.sawSeparator || sep2) && !underscoreOK (s.take used) then none
      else some { neg, hex, digits := run.value, exp := point + e, truncated := run.dropped > 0,
                  used }

/-- The value of a decimal mantissa in a format: the bit pattern and whether it overflowed. -/
def decimalBits (f : BinaryFormat) (m : Mantissa) : Nat × Bool :=
  if m.digits == 0 then rationalBits f m.neg 0 1 false
  else
    let point := (toString m.digits).length + m.exp
    if point > 310 then (infinityBits f m.neg, true)
    else if point < -330 then rationalBits f m.neg 0 1 false
    else if m.exp ≥ 0 then rationalBits f m.neg (m.digits * 10 ^ m.exp.toNat) 1 false
    else rationalBits f m.neg m.digits (10 ^ (-m.exp).toNat) false

def hexBits (f : BinaryFormat) (m : Mantissa) : Nat × Bool :=
  if m.digits == 0 then rationalBits f m.neg 0 1 false
  else
    -- Exponents this far out are beyond every format, whatever the digits.
    if m.exp > 20000 then (infinityBits f m.neg, true)
    else if m.exp < -20000 then rationalBits f m.neg 0 1 false
    else if m.exp ≥ 0 then rationalBits f m.neg (m.digits * 2 ^ m.exp.toNat) 1 m.truncated
    else rationalBits f m.neg m.digits (2 ^ (-m.exp).toNat) m.truncated

def readFloat (f : BinaryFormat) (s : List UInt8) : Except Refusal Nat :=
  match special? s with
  | some (sign, n) =>
    if n != s.length then .error .malformed
    else match sign with
      | some neg => .ok (infinityBits f neg)
      | none => .ok (nanBits f)
  | none =>
    match readMantissa s with
    | none => .error .malformed
    | some m =>
      let (bits, overflows) := if m.hex then hexBits f m else decimalBits f m
      if m.used != s.length then .error .malformed
      else if overflows then .error .range
      else .ok bits

def parseFloat64 (s : ByteArray) : Except Refused Float :=
  match readFloat binary64 s.toList with
  | .ok bits => .ok (Float.ofBits bits.toUInt64)
  | .error why => .error { reader := "ParseFloat", text := s, why }

def parseFloat32 (s : ByteArray) : Except Refused Float32 :=
  match readFloat binary32 s.toList with
  | .ok bits => .ok (Float32.ofBits bits.toUInt32)
  | .error why => .error { reader := "ParseFloat", text := s, why }

end Introspection.Text.Numeral
