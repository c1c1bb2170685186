import Introspection.Text.Blank

/-!
# Upper case

Upper-casing maps each character to its simple upper-case mapping of the Unicode Character
Database (version 15.0), one character for one: a letter whose upper case takes more than one
character, such as `ß`, stays as it is. The mapping is given by ranges of code points, as the
standard's tables are usually compressed: in most ranges every character is shifted by the same
amount, and in the others upper- and lower-case letters alternate, each lower-case letter
following its upper-case pair.
-/

namespace Introspection.Text

/-- How the code points of one range find their upper case. -/
inductive UpperShift where
  /-- Each is shifted by a fixed amount. -/
  | add (d : Int)
  /-- Upper- and lower-case letters alternate from the range's first code point on, and each
  letter maps to the first of its pair. -/
  | pairs
  deriving Repr, DecidableEq

/-- The ranges of code points that have an upper case other than themselves, in increasing
order and disjoint. -/
def upperRanges : List (Nat × Nat × UpperShift) :=
  [(0x61, 0x7A, .add (-32)), (0xB5, 0xB5, .add 743), (0xE0, 0xF6, .add (-32)),
    (0xF8, 0xFE, .add (-32)), (0xFF, 0xFF, .add 121), (0x100, 0x12F, .pairs),
    (0x131, 0x131, .add (-232)), (0x132, 0x137, .pairs), (0x139, 0x148, .pairs),
    (0x14A, 0x177, .pairs), (0x179, 0x17E, .pairs), (0x17F, 0x17F, .add (-300)),
    (0x180, 0x180, .add 195), (0x182, 0x185, .pairs), (0x188, 0x188, .add (-1)),
    (0x18C, 0x18C, .add (-1)), (0x192, 0x192, .add (-1)), (0x195, 0x195, .add 97),
    (0x199, 0x199, .add (-1)), (0x19A, 0x19A, .add 163), (0x19E, 0x19E, .add 130),
    (0x1A0, 0x1A5, .pairs), (0x1A8, 0x1A8, .add (-1)), (0x1AD, 0x1AD, .add (-1)),
    (0x1B0, 0x1B0, .add (-1)), (0x1B3, 0x1B6, .pairs), (0x1B9, 0x1B9, .add (-1)),
    (0x1BD, 0x1BD, .add (-1)), (0x1BF, 0x1BF, .add 56), (0x1C5, 0x1C5, .add (-1)),
    (0x1C6, 0x1C6, .add (-2)), (0x1C8, 0x1C8, .add (-1)), (0x1C9, 0x1C9, .add (-2)),
    (0x1CB, 0x1CB, .add (-1)), (0x1CC, 0x1CC, .add (-2)), (0x1CD, 0x1DC, .pairs),
    (0x1DD, 0x1DD, .add (-79)), (0x1DE, 0x1EF, .pairs), (0x1F2, 0x1F2, .add (-1)),
    (0x1F3, 0x1F3, .add (-2)), (0x1F5, 0x1F5, .add (-1)), (0x1F8, 0x21F, .pairs),
    (0x222, 0x233, .pairs), (0x23C, 0x23C, .add (-1)), (0x23F, 0x240, .add 10815),
    (0x242, 0x242, .add (-1)), (0x246, 0x24F, .pairs), (0x250, 0x250, .add 10783),
    (0x251, 0x251, .add 10780), (0x252, 0x252, .add 10782), (0x253, 0x253, .add (-210)),
    (0x254, 0x254, .add (-206)), (0x256, 0x257, .add (-205)), (0x259, 0x259, .add (-202)),
    (0x25B, 0x25B, .add (-203)), (0x25C, 0x25C, .add 42319), (0x260, 0x260, .add (-205)),
    (0x261, 0x261, .add 42315), (0x263, 0x263, .add (-207)), (0x265, 0x265, .add 42280),
    (0x266, 0x266, .add 42308), (0x268, 0x268, .add (-209)), (0x269, 0x269, .add (-211)),
    (0x26A, 0x26A, .add 42308), (0x26B, 0x26B, .add 10743), (0x26C, 0x26C, .add 42305),
    (0x26F, 0x26F, .add (-211)), (0x271, 0x271, .add 10749), (0x272, 0x272, .add (-213)),
    (0x275, 0x275, .add (-214)), (0x27D, 0x27D, .add 10727), (0x280, 0x280, .add (-218)),
    (0x282, 0x282, .add 42307), (0x283, 0x283, .add (-218)), (0x287, 0x287, .add 42282),
    (0x288, 0x288, .add (-218)), (0x289, 0x289, .add (-69)), (0x28A, 0x28B, .add (-217)),
    (0x28C, 0x28C, .add (-71)), (0x292, 0x292, .add (-219)), (0x29D, 0x29D, .add 42261),
    (0x29E, 0x29E, .add 42258), (0x345, 0x345, .add 84), (0x370, 0x373, .pairs),
    (0x377, 0x377, .add (-1)), (0x37B, 0x37D, .add 130), (0x3AC, 0x3AC, .add (-38)),
    (0x3AD, 0x3AF, .add (-37)), (0x3B1, 0x3C1, .add (-32)), (0x3C2, 0x3C2, .add (-31)),
    (0x3C3, 0x3CB, .add (-32)), (0x3CC, 0x3CC, .add (-64)), (0x3CD, 0x3CE, .add (-63)),
    (0x3D0, 0x3D0, .add (-62)), (0x3D1, 0x3D1, .add (-57)), (0x3D5, 0x3D5, .add (-47)),
    (0x3D6, 0x3D6, .add (-54)), (0x3D7, 0x3D7, .add (-8)), (0x3D8, 0x3EF, .pairs),
    (0x3F0, 0x3F0, .add (-86)), (0x3F1, 0x3F1, .add (-80)), (0x3F2, 0x3F2, .add 7),
    (0x3F3, 0x3F3, .add (-116)), (0x3F5, 0x3F5, .add (-96)), (0x3F8, 0x3F8, .add (-1)),
    (0x3FB, 0x3FB, .add (-1)), (0x430, 0x44F, .add (-32)), (0x450, 0x45F, .add (-80)),
    (0x460, 0x481, .pairs), (0x48A, 0x4BF, .pairs), (0x4C1, 0x4CE, .pairs),
    (0x4CF, 0x4CF, .add (-15)), (0x4D0, 0x52F, .pairs), (0x561, 0x586, .add (-48)),
    (0x10D0, 0x10FA, .add 3008), (0x10FD, 0x10FF, .add 3008), (0x13F8, 0x13FD, .add (-8)),
    (0x1C80, 0x1C80, .add (-6254)), (0x1C81, 0x1C81, .add (-6253)), (0x1C82, 0x1C82, .add (-6244)),
    (0x1C83, 0x1C84, .add (-6242)), (0x1C85, 0x1C85, .add (-6243)), (0x1C86, 0x1C86, .add (-6236)),
    (0x1C87, 0x1C87, .add (-6181)), (0x1C88, 0x1C88, .add 35266), (0x1D79, 0x1D79, .add 35332),
    (0x1D7D, 0x1D7D, .add 3814), (0x1D8E, 0x1D8E, .add 35384), (0x1E00, 0x1E95, .pairs),
    (0x1E9B, 0x1E9B, .add (-59)), (0x1EA0, 0x1EFF, .pairs), (0x1F00, 0x1F07, .add 8),
    (0x1F10, 0x1F15, .add 8), (0x1F20, 0x1F27, .add 8), (0x1F30, 0x1F37, .add 8),
    (0x1F40, 0x1F45, .add 8), (0x1F51, 0x1F51, .add 8), (0x1F53, 0x1F53, .add 8),
    (0x1F55, 0x1F55, .add 8), (0x1F57, 0x1F57, .add 8), (0x1F60, 0x1F67, .add 8),
    (0x1F70, 0x1F71, .add 74), (0x1F72, 0x1F75, .add 86), (0x1F76, 0x1F77, .add 100),
    (0x1F78, 0x1F79, .add 128), (0x1F7A, 0x1F7B, .add 112), (0x1F7C, 0x1F7D, .add 126),
    (0x1F80, 0x1F87, .add 8), (0x1F90, 0x1F97, .add 8), (0x1FA0, 0x1FA7, .add 8),
    (0x1FB0, 0x1FB1, .add 8), (0x1FB3, 0x1FB3, .add 9), (0x1FBE, 0x1FBE, .add (-7205)),
    (0x1FC3, 0x1FC3, .add 9), (0x1FD0, 0x1FD1, .add 8), (0x1FE0, 0x1FE1, .add 8),
    (0x1FE5, 0x1FE5, .add 7), (0x1FF3, 0x1FF3, .add 9), (0x214E, 0x214E, .add (-28)),
    (0x2170, 0x217F, .add (-16)), (0x2184, 0x2184, .add (-1)), (0x24D0, 0x24E9, .add (-26)),
    (0x2C30, 0x2C5F, .add (-48)), (0x2C61, 0x2C61, .add (-1)), (0x2C65, 0x2C65, .add (-10795)),
    (0x2C66, 0x2C66, .add (-10792)), (0x2C67, 0x2C6C, .pairs), (0x2C73, 0x2C73, .add (-1)),
    (0x2C76, 0x2C76, .add (-1)), (0x2C80, 0x2CE3, .pairs), (0x2CEB, 0x2CEE, .pairs),
    (0x2CF3, 0x2CF3, .add (-1)), (0x2D00, 0x2D25, .add (-7264)), (0x2D27, 0x2D27, .add (-7264)),
    (0x2D2D, 0x2D2D, .add (-7264)), (0xA640, 0xA66D, .pairs), (0xA680, 0xA69B, .pairs),
    (0xA722, 0xA72F, .pairs), (0xA732, 0xA76F, .pairs), (0xA779, 0xA77C, .pairs),
    (0xA77E, 0xA787, .pairs), (0xA78C, 0xA78C, .add (-1)), (0xA790, 0xA793, .pairs),
    (0xA794, 0xA794, .add 48), (0xA796, 0xA7A9, .pairs), (0xA7B4, 0xA7C3, .pairs),
    (0xA7C7, 0xA7CA, .pairs), (0xA7D1, 0xA7D1, .add (-1)), (0xA7D6, 0xA7D9, .pairs),
    (0xA7F6, 0xA7F6, .add (-1)), (0xAB53, 0xAB53, .add (-928)), (0xAB70, 0xABBF, .add (-38864)),
    (0xFF41, 0xFF5A, .add (-32)), (0x10428, 0x1044F, .add (-40)), (0x104D8, 0x104FB, .add (-40)),
    (0x10597, 0x105A1, .add (-39)), (0x105A3, 0x105B1, .add (-39)), (0x105B3, 0x105B9, .add (-39)),
    (0x105BB, 0x105BC, .add (-39)), (0x10CC0, 0x10CF2, .add (-64)), (0x118C0, 0x118DF, .add (-32)),
    (0x16E60, 0x16E7F, .add (-32)), (0x1E922, 0x1E943, .add (-34))]

/-- The code point of the simple upper-case mapping of a code point. -/
def upperCode (c : Nat) : Nat :=
  match upperRanges.find? fun (lo, hi, _) => lo ≤ c && c ≤ hi with
  | some (_, _, .add d) => (c + d).toNat
  | some (lo, _, .pairs) => lo + (c - lo) / 2 * 2
  | none => c

/-- The upper case of a character. -/
def upperChar (c : Char) : Char := Char.ofNat (upperCode c.toNat)

/-- A text with each character upper-cased. -/
def upper (s : String) : String := s.map upperChar

end Introspection.Text
