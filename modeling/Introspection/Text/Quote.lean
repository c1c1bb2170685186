import Introspection.Text.Utf8

/-!
# Double-quoted text

A byte string is quoted between double quotes. Printable characters stand for themselves; the
quote and the backslash are escaped; control characters take their one-letter escapes or `\xHH`;
other unprintable characters take `\uHHHH` or `\UHHHHHHHH`; a byte that starts no UTF-8 sequence
is written `\xHH`. Reading a quoted prefix accepts the same escapes and octal `\ooo`.
-/

namespace Introspection.Text.Quote

open Introspection.Text

/-- Ranges of code points that are not printable: controls, spaces other than the ASCII space,
format characters, surrogates, private use and noncharacters. -/
def unprintable : List (Nat × Nat) :=
  [(0x00, 0x1F), (0x7F, 0xA0), (0xAD, 0xAD), (0x378, 0x379), (0x380, 0x383), (0x38B, 0x38B),
   (0x38D, 0x38D), (0x3A2, 0x3A2), (0x61C, 0x61C), (0x6DD, 0x6DD), (0x70F, 0x70F),
   (0x1680, 0x1680), (0x180E, 0x180E), (0x2000, 0x200F), (0x2028, 0x202F), (0x205F, 0x206F),
   (0x3000, 0x3000), (0xD800, 0xF8FF), (0xFEFF, 0xFEFF), (0xFFF0, 0xFFFB), (0xFFFE, 0xFFFF),
   (0xE0000, 0xE0FFF), (0xF0000, 0x10FFFF)]

def isPrintable (c : Nat) : Bool :=
  !(unprintable.any fun (lo, hi) => lo ≤ c && c ≤ hi)

def hexPadded (width : Nat) (n : Nat) : List Char :=
  let ds := Hex.digitsOf n
  List.replicate (width - ds.length) '0' ++ ds

def escapePoint (c : Nat) : List Char :=
  if c == 0x22 then ['\\', '"']
  else if c == 0x5C then ['\\', '\\']
  else if isPrintable c then [Char.ofNat c]
  else if c == 7 then ['\\', 'a']
  else if c == 8 then ['\\', 'b']
  else if c == 12 then ['\\', 'f']
  else if c == 10 then ['\\', 'n']
  else if c == 13 then ['\\', 'r']
  else if c == 9 then ['\\', 't']
  else if c == 11 then ['\\', 'v']
  else if c < 0x20 || c == 0x7F then '\\' :: 'x' :: hexPadded 2 c
  else if c < 0x10000 then '\\' :: 'u' :: hexPadded 4 c
  else '\\' :: 'U' :: hexPadded 8 c

def quoteBytes (s : ByteArray) : String :=
  let body := (Utf8.units s).flatMap fun
    | .point c _ => escapePoint c
    | .invalid b => '\\' :: 'x' :: hexPadded 2 b.toNat
  String.ofList ('"' :: body ++ ['"'])

def quote (s : String) : String := quoteBytes s.toUTF8

/-- The value of `n` hexadecimal digits at the front, and the rest. -/
def takeHex (n : Nat) (cs : List Char) : Option (Nat × List Char) :=
  if cs.length < n then none
  else (Hex.natOfChars? (cs.take n)).map fun v => (v, cs.drop n)

def encodePoint (c : Nat) : List UInt8 := (String.singleton (Char.ofNat c)).toUTF8.toList

/--
Reads a double-quoted prefix: the bytes it stands for, its source length in characters, and the
rest of the text. Fails on a missing closing quote, a line break, or a bad escape.
-/
def quotedPrefix? (cs : List Char) : Option (List UInt8 × Nat × List Char) :=
  match cs with
  | '"' :: rest => go rest [] 1 (rest.length + 1)
  | _ => none
where
  go : List Char → List UInt8 → Nat → Nat → Option (List UInt8 × Nat × List Char)
  | _, _, _, 0 => none
  | [], _, _, _ + 1 => none
  | c :: rest, acc, used, fuel + 1 =>
    if c == '"' then some (acc, used + 1, rest)
    else if c == '\n' then none
    else if c != '\\' then go rest (acc ++ (String.singleton c).toUTF8.toList) (used + 1) fuel
    else match rest with
      | [] => none
      | e :: more =>
        let simple (b : Nat) := go more (acc ++ [b.toUInt8]) (used + 2) fuel
        match e with
        | 'a' => simple 7 | 'b' => simple 8 | 'f' => simple 12 | 'n' => simple 10
        | 'r' => simple 13 | 't' => simple 9 | 'v' => simple 11
        | '\\' => simple 0x5C | '"' => simple 0x22
        | 'x' => (takeHex 2 more).bind fun (v, after) =>
            go after (acc ++ [v.toUInt8]) (used + 4) fuel
        | 'u' => (takeHex 4 more).bind fun (v, after) =>
            if 0xD800 ≤ v && v ≤ 0xDFFF then none
            else go after (acc ++ encodePoint v) (used + 6) fuel
        | 'U' => (takeHex 8 more).bind fun (v, after) =>
            if v > 0x10FFFF || (0xD800 ≤ v && v ≤ 0xDFFF) then none
            else go after (acc ++ encodePoint v) (used + 10) fuel
        | d =>
          if '0' ≤ d && d ≤ '7' then
            match more with
            | d2 :: d3 :: after =>
              if '0' ≤ d2 && d2 ≤ '7' && '0' ≤ d3 && d3 ≤ '7' then
                let v := (d.toNat - 48) * 64 + (d2.toNat - 48) * 8 + (d3.toNat - 48)
                if v > 255 then none else go after (acc ++ [v.toUInt8]) (used + 4) fuel
              else none
            | _ => none
          else none

end Introspection.Text.Quote
