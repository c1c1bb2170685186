import Introspection.Powers

/-!
# Blank characters

The blank characters are those of the Unicode `White_Space` property: the ASCII tab, line feed,
vertical tab, form feed, carriage return and space, the next line and no-break space of
Latin-1, and the Ogham, typographic, separator and ideographic spaces. Trimming a text removes
them from both ends.
-/

namespace Introspection.Text

def isBlank (c : Char) : Bool :=
  let n := c.toNat
  (9 ≤ n && n ≤ 13) || n == 0x20 || n == 0x85 || n == 0xA0 || n == 0x1680 ||
    (0x2000 ≤ n && n ≤ 0x200A) || n == 0x2028 || n == 0x2029 || n == 0x202F || n == 0x205F ||
    n == 0x3000

def trimBlank (s : String) : String :=
  String.ofList ((s.toList.dropWhile isBlank).reverse.dropWhile isBlank).reverse

/-- The pieces of a text between occurrences of a separator, empty pieces included. -/
def splitAt (s : String) (sep : Char) : List String :=
  (s.toList.splitOn sep).map String.ofList

end Introspection.Text
