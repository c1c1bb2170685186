import Introspection.Text.Hex

/-!
# Shortest decimal text of binary floating-point numbers

A finite binary number `m · 2^e` is written with the fewest significant decimal digits that read
back as the same number, and of two such candidates the nearer one. The search is exact: for
each digit count the two neighbours of the value on that decimal grid are tested against the
interval of reals that round to the value, in natural-number arithmetic.

The general shape (`Shortest`) is then laid out in the general format: exponent notation when
the decimal exponent is below `-4` or at least `6`, at least two exponent digits, and the texts
`NaN`, `+Inf`, `-Inf` and `-0`.
-/

namespace Introspection.Text.Decimal

/-- The layout of a binary interchange format. -/
structure BinaryFormat where
  fracBits : Nat
  expBits : Nat
  bias : Nat

def binary64 : BinaryFormat := ⟨52, 11, 1023⟩

def binary32 : BinaryFormat := ⟨23, 8, 127⟩

/-- What a bit pattern stands for. -/
inductive Class where
  | nan
  | infinite (neg : Bool)
  | zero (neg : Bool)
  /-- `m · 2^e`, with `lowTight` set when the gap below is half the gap above. -/
  | finite (neg : Bool) (m : Nat) (e : Int) (lowTight : Bool)
  deriving Repr, DecidableEq

/-- Splits a bit pattern of the format into sign, exponent and fraction. -/
def BinaryFormat.classify (f : BinaryFormat) (bits : Nat) : Class :=
  let frac := bits % 2 ^ f.fracBits
  let ex := (bits / 2 ^ f.fracBits) % 2 ^ f.expBits
  let neg := (bits / 2 ^ (f.fracBits + f.expBits)) % 2 == 1
  if ex == 2 ^ f.expBits - 1 then
    if frac == 0 then .infinite neg else .nan
  else if ex == 0 then
    if frac == 0 then .zero neg
    else .finite neg frac (1 - (f.bias : Int) - f.fracBits) false
  else
    .finite neg (frac + 2 ^ f.fracBits) ((ex : Int) - f.bias - f.fracBits)
      (frac == 0 && ex > 1)

def pow2 (n : Int) : Nat := 2 ^ n.toNat

def pow10 (n : Int) : Nat := 10 ^ n.toNat

def compareScaled (d : Nat) (p : Int) (u : Nat) (s : Int) : Ordering :=
  compare (d * pow10 p * pow2 (-s)) (u * pow2 s * pow10 (-p))

def floorScaled (m : Nat) (e p : Int) : Nat :=
  (m * pow2 e * pow10 (-p)) / (pow2 (-e) * pow10 p)

/-- The decimal digits of a natural number, most significant first. -/
def digitsOf (n : Nat) : List Nat :=
  if n < 10 then [n] else digitsOf (n / 10) ++ [n % 10]
termination_by n
decreasing_by omega

/-- The exponent `k` with `10^k ≤ m · 2^e < 10^(k+1)`, found by counting digits. -/
def decimalExponent (m : Nat) (e : Int) : Int :=
  let whole := floorScaled m e 0
  if whole ≥ 1 then ((digitsOf whole).length : Int) - 1
  else
    -- The smallest `j` with `m · 2^e · 10^j ≥ 1`; a binary64 value needs at most 324.
    let j := (List.range 400).find? (fun (j : Nat) => floorScaled m e (-((j : Int) + 1)) ≥ 1)
    Int.neg ((j.getD 399 : Int) + 1)

/-- A decimal number `0.d₁d₂…dₙ × 10^point` with no trailing zero digit. -/
structure Shortest where
  digits : List Nat
  point : Int
  deriving Repr, DecidableEq

def trimZeros (ds : List Nat) : List Nat :=
  match (ds.reverse.dropWhile (· == 0)).reverse with
  | [] => [0]
  | t => t

def Shortest.ofScaled (d : Nat) (p : Int) : Shortest :=
  let ds := digitsOf d
  { digits := trimZeros ds, point := (ds.length : Int) + p }

/--
The fewest-digit decimal that rounds to `m · 2^e` and is nearest to it. The value rounds from
the open interval of half gaps around it, closed when `m` is even.
-/
def shortest (m : Nat) (e : Int) (lowTight : Bool) : Shortest :=
  let s := e - 2
  let v := 4 * m
  let lo := if lowTight then v - 1 else v - 2
  let hi := v + 2
  let closed := m % 2 == 0
  let k := decimalExponent m e
  let inside (d : Nat) (p : Int) : Bool :=
    let l := compareScaled d p lo s
    let h := compareScaled d p hi s
    (l == .gt || (closed && l == .eq)) && (h == .lt || (closed && h == .eq))
  let attempt (n : Nat) : Option Shortest :=
    let p := k - (n : Int) + 1
    let d := floorScaled m e p
    match inside d p, inside (d + 1) p with
    | true, true =>
      -- The nearer of the two, and of an exact tie the even one.
      match compareScaled (2 * d + 1) p (2 * v) s with
      | .gt => some (Shortest.ofScaled d p)
      | .lt => some (Shortest.ofScaled (d + 1) p)
      | .eq => some (Shortest.ofScaled (if d % 2 == 0 then d else d + 1) p)
    | true, false => some (Shortest.ofScaled d p)
    | false, true => some (Shortest.ofScaled (d + 1) p)
    | false, false => none
  match (List.range 17).findSome? (fun i => attempt (i + 1)) with
  | some r => r
  | none => Shortest.ofScaled (floorScaled m e (k - 16)) (k - 16)

def digitChar (d : Nat) : Char := Char.ofNat ('0'.toNat + d % 10)

/-- Exponent notation: one digit, the rest after a point, and a signed two-digit exponent. -/
def Shortest.exponentText (x : Shortest) : String :=
  let ds := x.digits.map digitChar
  let head := ds.headD '0'
  let tail := ds.drop 1
  let exp := x.point - 1
  let sign := if exp < 0 then '-' else '+'
  let mag := exp.natAbs
  let expDigits := (digitsOf mag).map digitChar
  let expDigits := if mag < 10 then '0' :: expDigits else expDigits
  String.ofList (head :: (if tail.isEmpty then [] else '.' :: tail) ++ 'e' :: sign :: expDigits)

/-- Positional notation with exactly the digits needed after the point. -/
def Shortest.positionalText (x : Shortest) : String :=
  let ds := x.digits.map digitChar
  let n := ds.length
  let whole : List Char :=
    if x.point ≤ 0 then ['0']
    else ds.take x.point.toNat ++ List.replicate (x.point.toNat - n) '0'
  let places := ((n : Int) - x.point).toNat
  let frac : List Char := (List.range places).map fun (i : Nat) =>
    let j := x.point + (i : Int)
    if j < 0 then '0' else ds.getD j.toNat '0'
  String.ofList (whole ++ (if places = 0 then [] else '.' :: frac))

/-- The general format of a shortest decimal: exponent notation outside `[-4, 6)`. -/
def Shortest.generalText (x : Shortest) : String :=
  let exp := x.point - 1
  if exp < -4 ∨ exp ≥ 6 then x.exponentText else x.positionalText

/-- The general-format text of a bit pattern of the given binary format. -/
def BinaryFormat.text (f : BinaryFormat) (bits : Nat) : String :=
  match f.classify bits with
  | .nan => "NaN"
  | .infinite neg => if neg then "-Inf" else "+Inf"
  | .zero neg => if neg then "-0" else "0"
  | .finite neg m e tight =>
    (if neg then "-" else "") ++ (shortest m e tight).generalText

def ofFloat (x : Float) : String := binary64.text x.toBits.toNat

def ofFloat32 (x : Float32) : String := binary32.text x.toBits.toNat

/-- The shortest decimal of a finite double, for other layouts of the same digits. -/
def shortestOfFloat? (x : Float) : Option (Bool × Shortest) :=
  match binary64.classify x.toBits.toNat with
  | .finite neg m e tight => some (neg, shortest m e tight)
  | _ => none

theorem digitsOf_ne_nil (n : Nat) : digitsOf n ≠ [] := by
  unfold digitsOf
  split <;> simp

end Introspection.Text.Decimal
