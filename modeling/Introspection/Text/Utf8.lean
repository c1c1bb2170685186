import Introspection.Text.Hex

/-!
# UTF-8 byte strings

Strings of the host side are byte strings that need not be valid UTF-8. Decoding follows the
standard's well-formed sequences: no overlong forms, no surrogates, nothing above `U+10FFFF`.
A byte that does not start a well-formed sequence decodes alone, as one replacement character.
-/

namespace Introspection.Text.Utf8

def replacement : Char := '�'

/-- Whether `b` is a continuation byte `10xxxxxx` within `[lo, hi]`. -/
def within (b : UInt8) (lo hi : UInt8) : Bool := lo ≤ b && b ≤ hi

/--
The sequence starting at `i`: its code point and length, or `none` when the byte at `i` does not
start a well-formed sequence.
-/
def decodeAt (s : ByteArray) (i : Nat) : Option (Nat × Nat) :=
  let byte (j : Nat) : UInt8 := s.get! (i + j)
  let fits (n : Nat) : Bool := i + n ≤ s.size
  if !fits 1 then none else
  let b0 := byte 0
  let cont (b : UInt8) : Nat := (b &&& 0x3F).toNat
  if b0 < 0x80 then some (b0.toNat, 1)
  else if within b0 0xC2 0xDF then
    if fits 2 && within (byte 1) 0x80 0xBF then
      some (((b0 &&& 0x1F).toNat <<< 6) ||| cont (byte 1), 2)
    else none
  else if within b0 0xE0 0xEF then
    let (lo, hi) : UInt8 × UInt8 :=
      if b0 == 0xE0 then (0xA0, 0xBF) else if b0 == 0xED then (0x80, 0x9F) else (0x80, 0xBF)
    if fits 3 && within (byte 1) lo hi && within (byte 2) 0x80 0xBF then
      some (((b0 &&& 0x0F).toNat <<< 12) ||| (cont (byte 1) <<< 6) ||| cont (byte 2), 3)
    else none
  else if within b0 0xF0 0xF4 then
    let (lo, hi) : UInt8 × UInt8 :=
      if b0 == 0xF0 then (0x90, 0xBF) else if b0 == 0xF4 then (0x80, 0x8F) else (0x80, 0xBF)
    if fits 4 && within (byte 1) lo hi && within (byte 2) 0x80 0xBF && within (byte 3) 0x80 0xBF then
      some (((b0 &&& 0x07).toNat <<< 18) ||| (cont (byte 1) <<< 12) ||| (cont (byte 2) <<< 6)
        ||| cont (byte 3), 4)
    else none
  else none

/-- One decoded unit: a code point of a well-formed sequence, or a byte that starts none. -/
inductive Piece where
  | point (c : Nat) (width : Nat)
  | invalid (b : UInt8)
  deriving Repr, DecidableEq

/-- The bytes a unit stands for: the encoding of its character, or the stray byte. -/
def Piece.bytes : Piece → List UInt8
  | .point c _ => String.utf8EncodeChar (Char.ofNat c)
  | .invalid b => [b]

def unitsFrom (s : ByteArray) (i : Nat) : List Piece :=
  if _h : i < s.size then
    match hd : decodeAt s i with
    | some (c, w) =>
      if _hw : 0 < w then .point c w :: unitsFrom s (i + w) else [.invalid (s.get! i)]
    | none => .invalid (s.get! i) :: unitsFrom s (i + 1)
  else []
termination_by s.size - i
decreasing_by all_goals omega

def units (s : ByteArray) : List Piece := unitsFrom s 0

def isValid (s : ByteArray) : Bool :=
  (units s).all fun | .point .. => true | .invalid _ => false

/-- The character of a code point; well-formed sequences never give a surrogate. -/
def charOf (c : Nat) : Char := Char.ofNat c

/-- The character a unit reads as: its own, or `U+FFFD` for a stray byte. -/
def Piece.char : Piece → Char
  | .point c _ => charOf c
  | .invalid _ => replacement

/-- The text of a byte string, each byte that starts no sequence replaced by `U+FFFD`. -/
def lossy (s : ByteArray) : String :=
  String.ofList ((units s).map fun
    | .point c _ => charOf c
    | .invalid _ => replacement)

def bytes (s : String) : ByteArray := s.toUTF8

def runeCount (s : ByteArray) : Nat := (units s).length

theorem units_empty : units ByteArray.empty = [] := by
  simp [units, unitsFrom]

end Introspection.Text.Utf8
