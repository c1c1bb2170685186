import Introspection.Powers

/-!
# Hexadecimal text

Byte strings are written as lowercase hexadecimal, two digits per byte with the high half first,
and numbers as lowercase hexadecimal without leading zeros. Reading accepts either case and
refuses an odd number of digits or a character that is not a digit.
-/

namespace Introspection.Text.Hex

def alphabet : Array Char := #['0', '1', '2', '3', '4', '5', '6', '7', '8', '9',
  'a', 'b', 'c', 'd', 'e', 'f']

def digit (n : Nat) : Char := alphabet.getD (n % 16) '0'

def pair (b : UInt8) : List Char := [digit (b.toNat / 16), digit (b.toNat % 16)]

def ofBytes (data : ByteArray) : String := String.ofList (data.toList.flatMap pair)

def value? (c : Char) : Option Nat :=
  if '0' ≤ c ∧ c ≤ '9' then some (c.toNat - '0'.toNat)
  else if 'a' ≤ c ∧ c ≤ 'f' then some (c.toNat - 'a'.toNat + 10)
  else if 'A' ≤ c ∧ c ≤ 'F' then some (c.toNat - 'A'.toNat + 10)
  else none

def bytesOfChars : List Char → Option (List UInt8)
  | [] => some []
  | [_] => none
  | hi :: lo :: rest => do
    let h ← value? hi
    let l ← value? lo
    let tail ← bytesOfChars rest
    pure ((h * 16 + l).toUInt8 :: tail)

def toBytes? (text : String) : Option ByteArray :=
  (bytesOfChars text.toList).map fun bs => ByteArray.mk bs.toArray

/-- The digits of a natural number, most significant first, at least one. -/
def digitsOf (n : Nat) : List Char :=
  if n < 16 then [digit n] else digitsOf (n / 16) ++ [digit (n % 16)]
termination_by n
decreasing_by omega

/-- A number in lowercase hexadecimal without a marker or leading zeros. -/
def ofNat (n : Nat) : String := String.ofList (digitsOf n)

def natOfChars? (cs : List Char) : Option Nat :=
  cs.foldlM (fun acc c => (value? c).map fun v => acc * 16 + v) 0

theorem pair_length (b : UInt8) : (pair b).length = 2 := rfl

theorem bytesOfChars_nil : bytesOfChars [] = some [] := rfl

end Introspection.Text.Hex
