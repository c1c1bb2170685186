import Introspection.Failure

/-!
# Script documents

Scripts that drive the library, and the answers it gives, are trees of nulls, booleans, exact
decimal numbers, texts, arrays and keyed objects. A number is `mantissa · 10^(-exponent)`, so
integers of any size travel exactly.

Readers here are lenient in the way scripts are written: an integer may be given as a number or
as a decimal or `0x` text.
-/

namespace Introspection.Script

/-- A script document. -/
inductive Doc where
  | null
  | bool (b : Bool)
  | num (mantissa : Int) (exponent : Nat)
  /-- Negative zero: zero, except to a double. -/
  | negZero
  | str (s : String)
  | arr (xs : List Doc)
  | obj (kvs : List (String × Doc))
  /-- A list that was never made. It is written `null`, except in answers that settle absent
  lists to empty ones. -/
  | nilList
  deriving Inhabited

namespace Doc

def int (n : Int) : Doc := .num n 0

def nat (n : Nat) : Doc := .num n 0

/-- The member under a key, if the document is an object holding it. -/
def get? (d : Doc) (key : String) : Option Doc :=
  match d with
  | obj kvs => (kvs.find? (·.1 == key)).map (·.2)
  | _ => none

def field (d : Doc) (key : String) : Doc := (d.get? key).getD .null

def has (d : Doc) (key : String) : Bool := (d.get? key).isSome

def str? : Doc → Option String
  | str s => some s
  | _ => none

def bool? : Doc → Option Bool
  | bool b => some b
  | _ => none

def arr? : Doc → Option (List Doc)
  | arr xs => some xs
  | _ => none

def obj? : Doc → Option (List (String × Doc))
  | obj kvs => some kvs
  | _ => none

def isNull : Doc → Bool
  | null => true
  | _ => false

/-- The value of a decimal or `0x` integer text, with an optional minus sign. -/
def intOfText? (s : String) : Option Int :=
  let cs := s.toList
  let (neg, cs) := match cs with
    | '-' :: rest => (true, rest)
    | '+' :: rest => (false, rest)
    | _ => (false, cs)
  let mag : Option Nat := match cs with
    | '0' :: 'x' :: hex | '0' :: 'X' :: hex =>
      if hex.isEmpty then none else Text.Hex.natOfChars? hex
    | ds =>
      if ds.isEmpty || !ds.all Char.isDigit then none
      else some (ds.foldl (fun acc c => acc * 10 + (c.toNat - '0'.toNat)) 0)
  mag.map fun m => if neg then -(m : Int) else m

/-- The double a decimal text stands for, correctly rounded: an optional sign, digits with an
optional fraction, and an optional exponent. -/
def floatOfText? (s : String) : Option Float :=
  let cs := s.toList
  let (neg, cs) := match cs with
    | '-' :: rest => (true, rest)
    | '+' :: rest => (false, rest)
    | _ => (false, cs)
  let (mant, expPart) := cs.span fun c => c != 'e' && c != 'E'
  let (whole, frac) := mant.span (· != '.')
  let frac := frac.drop 1
  let digits := whole ++ frac
  let exp? : Option Int := match expPart with
    | [] => some 0
    | _ :: rest => intOfText? (String.ofList rest)
  if digits.isEmpty || !digits.all Char.isDigit || (mant.filter (· == '.')).length > 1 then none
  else exp?.map fun e =>
    let m := digits.foldl (fun acc c => acc * 10 + (c.toNat - '0'.toNat)) 0
    let shift : Int := e - frac.length
    let mag := if shift < 0 then Float.ofScientific m true shift.natAbs
      else Float.ofScientific m false shift.toNat
    if neg then -mag else mag

/-- The integer a number or an integer text stands for; a number with a fraction truncates. -/
def int? : Doc → Option Int
  | num m e => some (m.tdiv ((10 : Int) ^ e))
  | negZero => some 0
  | str s => intOfText? s
  | _ => none

def nat? (d : Doc) : Option Nat :=
  d.int?.bind fun i => if i < 0 then none else some i.toNat

def float? : Doc → Option Float
  | num m e =>
    let mag := Float.ofScientific m.natAbs true e
    some (if m < 0 then -mag else mag)
  | negZero => some (-0.0)
  | _ => none

def strOr (d : Doc) (key : String) (dflt : String) : String :=
  ((d.get? key).bind str?).getD dflt

def strD (d : Doc) (key : String) : String := d.strOr key ""

def flag (d : Doc) (key : String) : Bool := ((d.get? key).bind bool?).getD false

def intAt? (d : Doc) (key : String) : Option Int := (d.get? key).bind int?

def intD (d : Doc) (key : String) (dflt : Int) : Int := (d.intAt? key).getD dflt

/-- The elements under a key; none for an absent key or a non-array. -/
def list (d : Doc) (key : String) : List Doc := ((d.get? key).bind arr?).getD []

def strings (d : Doc) (key : String) : List String := (d.list key).filterMap str?

def ofStrings (xs : List String) : Doc := .arr (xs.map .str)

def ofOption {α : Type} (f : α → Doc) : Option α → Doc
  | some a => f a
  | none => .null

def set (d : Doc) (key : String) (v : Doc) : Doc :=
  match d with
  | obj kvs => obj ((kvs.filter (·.1 != key)) ++ [(key, v)])
  | other => other

def merge (d : Doc) (extra : List (String × Doc)) : Doc :=
  extra.foldl (fun acc (k, v) => acc.set k v) d

end Doc

end Introspection.Script
