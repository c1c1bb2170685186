import Introspection.Text.Numeral

/-!
# Block YAML documents

A document is a tree of mappings with fixed keys, sequences and scalars, written in block style
with two-space indentation; sequences under a key are indented below it, and an empty
collection is written in flow style (`[]`, `{}`).

Texts pick the plainest style that reads back as the same text:

* plain, unless the text would read back as another value (a number, a truth value in any of
  the spellings YAML has used, null, a date, a sexagesimal number) or its characters rule the
  plain style out (indicators at the start, `: ` or ` #` inside, surrounding blanks, tabs,
  characters outside the printable set);
* otherwise single-quoted, with quotes doubled, unless it holds tabs or unprintable characters;
* a text with a line break is a literal block, `|` with a chomping indicator, unless it has
  trailing spaces, a space before a break or unprintable characters;
* otherwise double-quoted with escapes.
-/

namespace Introspection.Text.Yaml

open Introspection.Text Introspection.Text.Numeral

/-- A node of a document. -/
inductive Node where
  /-- A scalar written as it stands: a number, a truth value or null. -/
  | raw (text : String)
  /-- A text, written in the style it needs. -/
  | text (s : String)
  | seq (items : List Node)
  | map (entries : List (String × Node))
  deriving Inhabited

/-! ## Resolving plain scalars -/

def reservedWords : List String :=
  ["true", "True", "TRUE", "false", "False", "FALSE", "", "~", "null", "Null", "NULL",
    ".nan", ".NaN", ".NAN", ".inf", ".Inf", ".INF", "+.inf", "+.Inf", "+.INF",
    "-.inf", "-.Inf", "-.INF"]

def oldTruthWords : List String :=
  ["y", "Y", "yes", "Yes", "YES", "on", "On", "ON", "n", "N", "no", "No", "NO",
    "off", "Off", "OFF"]

/-- Whether every character is a decimal digit and there is at least one. -/
def allDigits (cs : List Char) : Bool := !cs.isEmpty && cs.all Char.isDigit

/-- Whether a text matches `[-+]?(\.[0-9]+|[0-9]+(\.[0-9]*)?)([eE][-+]?[0-9]+)?`. -/
def isFloatShaped (s : String) : Bool :=
  let cs := s.toList
  let cs := match cs with
    | c :: rest => if c == '-' || c == '+' then rest else cs
    | [] => []
  let mant := cs.takeWhile fun c => c != 'e' && c != 'E'
  let expo := cs.drop mant.length
  let mantOk := match mant with
    | '.' :: frac => allDigits frac
    | _ =>
      let whole := mant.takeWhile Char.isDigit
      let rest := mant.drop whole.length
      !whole.isEmpty && (match rest with
        | [] => true
        | '.' :: frac => frac.all Char.isDigit
        | _ => false)
  let expoOk := match expo with
    | [] => true
    | _ :: more =>
      let more := match more with
        | c :: r => if c == '-' || c == '+' then r else more
        | [] => []
      allDigits more
  mantOk && expoOk

/-- Whether a text matches `[-+]?[0-9][0-9_]*(:[0-5]?[0-9])+(\.[0-9_]*)?`. -/
def isSexagesimal (s : String) : Bool :=
  let cs := s.toList
  let cs := match cs with
    | c :: rest => if c == '-' || c == '+' then rest else cs
    | [] => []
  let head := cs.takeWhile fun c => c.isDigit || c == '_'
  let afterHead := cs.drop head.length
  let frac := afterHead.dropWhile fun c => c != '.'
  let groups := afterHead.take (afterHead.length - frac.length)
  let headOk := match head with
    | c :: _ => c.isDigit
    | [] => false
  let parts := (String.ofList groups).splitOn ":"
  let groupOk (g : String) : Bool :=
    match g.toList with
    | [d] => d.isDigit
    | [a, b] => '0' ≤ a && a ≤ '5' && b.isDigit
    | _ => false
  let groupsOk := match parts with
    | "" :: gs => !gs.isEmpty && gs.all groupOk
    | _ => false
  let fracOk := match frac with
    | [] => true
    | _ :: more => more.all fun c => c.isDigit || c == '_'
  headOk && groupsOk && fracOk

def daysIn (year month : Nat) : Nat :=
  if month == 2 then
    if year % 4 == 0 && (year % 100 != 0 || year % 400 == 0) then 29 else 28
  else if month == 4 || month == 6 || month == 9 || month == 11 then 30
  else 31

/-- Whether a text is a calendar date `YYYY-M-D` with one- or two-digit month and day. -/
def isDate (s : String) : Bool :=
  match s.splitOn "-" with
  | [y, m, d] =>
    let digitsOk (t : String) (lo hi : Nat) := lo ≤ t.length && t.length ≤ hi && allDigits t.toList
    if digitsOk y 4 4 && digitsOk m 1 2 && digitsOk d 1 2 then
      let mo := m.toNat!
      let da := d.toNat!
      1 ≤ mo && mo ≤ 12 && 1 ≤ da && da ≤ daysIn y.toNat! mo
    else false
  | _ => false

/-- Whether digits read as an integer of a base without prefix, signed or not. -/
def readsInBase (base : Nat) (signed : Bool) (digits : List UInt8) : Bool :=
  let body := match digits with
    | c :: rest => if signed && (c == byte '-' || c == byte '+') then rest else digits
    | [] => []
  !body.isEmpty && (accumulate base (2 ^ 64 - 1) false body 0 false).toBool

/-- Whether a plain scalar of this text would read back as the same text. -/
def readsAsText (s : String) : Bool :=
  if reservedWords.contains s then false
  else
    match s.toList with
    | [] => false
    | c :: _ =>
      if "yYnNtTfFoO~".toList.contains c then true
      else if c == '.' then !(readFloat Decimal.binary64 s.toUTF8.toList).toBool
      else if c.isDigit || c == '+' || c == '-' then
        if isDate s then false
        else
          let plain := s.replace "_" ""
          let bytes := plain.toUTF8.toList
          if (readSigned bytes 64).toBool || (readUnsigned bytes 64).toBool then false
          else if isFloatShaped plain && (readFloat Decimal.binary64 bytes).toBool then false
          else if plain.startsWith "0b" then !readsInBase 2 true (bytes.drop 2)
          else if plain.startsWith "-0b" then !readsInBase 2 true (bytes.drop 3)
          else if plain.startsWith "0o" then !readsInBase 8 true (bytes.drop 2)
          else if plain.startsWith "-0o" then !readsInBase 8 true (bytes.drop 3)
          else true
      else true

/-! ## Styles -/

def isPrintable (c : Nat) : Bool :=
  c == 0x0A || (0x20 ≤ c && c ≤ 0x7E) || (0xA0 ≤ c && c ≤ 0xD7FF) ||
    (0xE000 ≤ c && c ≤ 0xFFFD && c != 0xFEFF)

def isBreak (c : Nat) : Bool := c == 0x0D || c == 0x0A || c == 0x85 || c == 0x2028 || c == 0x2029

def isBlank (c : Nat) : Bool := c == 0x20 || c == 0x09

/-- What the characters of a text allow. -/
structure Allowed where
  multiline : Bool := false
  plain : Bool := true
  singleQuoted : Bool := true
  block : Bool := true

/-- The facts about a text's characters that decide its styles. -/
structure Scan where
  blockIndicators : Bool := false
  lineBreaks : Bool := false
  special : Bool := false
  tabs : Bool := false
  leadingSpace : Bool := false
  leadingBreak : Bool := false
  trailingSpace : Bool := false
  trailingBreak : Bool := false
  breakSpace : Bool := false
  spaceBreak : Bool := false
  previousSpace : Bool := false
  previousBreak : Bool := false
  precededByBlank : Bool := true

def scanFrom : Nat → Scan → List Nat → Scan
  | _, st, [] => st
  | i, st, c :: rest =>
    let last := rest.isEmpty
    let followedByBlank := match rest with
      | [] => true
      | n :: _ => isBlank n
    let st :=
      if i == 0 then
        if "#,[]\x7b\x7d&*!|>'\"%@`".toList.map Char.toNat |>.contains c then
          { st with blockIndicators := true }
        else if (c == '?'.toNat || c == ':'.toNat || c == '-'.toNat) && followedByBlank then
          { st with blockIndicators := true }
        else st
      else if c == ':'.toNat && followedByBlank then { st with blockIndicators := true }
      else if c == '#'.toNat && st.precededByBlank then { st with blockIndicators := true }
      else st
    let st :=
      if c == 0x09 then { st with tabs := true }
      else if !isPrintable c then { st with special := true }
      else st
    let st :=
      if c == 0x20 then
        { st with leadingSpace := st.leadingSpace || i == 0,
                  trailingSpace := st.trailingSpace || last,
                  breakSpace := st.breakSpace || st.previousBreak,
                  previousSpace := true, previousBreak := false }
      else if isBreak c then
        { st with lineBreaks := true, leadingBreak := st.leadingBreak || i == 0,
                  trailingBreak := st.trailingBreak || last,
                  spaceBreak := st.spaceBreak || st.previousSpace,
                  previousSpace := false, previousBreak := true }
      else { st with previousSpace := false, previousBreak := false }
    scanFrom (i + 1) { st with precededByBlank := isBlank c || isBreak c || c == 0 } rest

/-- What the characters of a non-empty text allow in block context. -/
def allowed (s : String) : Allowed :=
  let cs := s.toList.map Char.toNat
  if cs.isEmpty then { plain := true, singleQuoted := true, block := false }
  else
    let st0 : Scan :=
      if s.startsWith "---" || s.startsWith "..." then { blockIndicators := true } else {}
    let st := scanFrom 0 st0 cs
    let edges := st.leadingSpace || st.leadingBreak || st.trailingSpace || st.trailingBreak
    let mixed := st.spaceBreak || st.tabs || st.special
    { multiline := st.lineBreaks
      plain := !(edges || st.breakSpace || mixed || st.lineBreaks || st.blockIndicators)
      singleQuoted := !(st.breakSpace || mixed)
      block := !(st.trailingSpace || st.spaceBreak || st.special) }

/-- How a text is written. -/
inductive Style where
  | plain
  | singleQuoted
  | doubleQuoted
  | literal
  deriving DecidableEq, Repr

def styleOf (s : String) : Style :=
  let a := allowed s
  let plainWanted := readsAsText s && !oldTruthWords.contains s && !isSexagesimal s
  let wanted := if s.contains '\n' then Style.literal
    else if plainWanted then .plain else .doubleQuoted
  match wanted with
  | .plain => if a.plain then .plain else if a.singleQuoted then .singleQuoted else .doubleQuoted
  | .literal => if a.block then .literal else .doubleQuoted
  | other => other

def hexDigits (width n : Nat) : String :=
  String.ofList ((List.range width).reverse.map fun k =>
    let d := n / 16 ^ k % 16
    Char.ofNat (if d < 10 then 48 + d else 55 + d))

def escape (c : Nat) : String :=
  match c with
  | 0x00 => "\\0" | 0x07 => "\\a" | 0x08 => "\\b" | 0x09 => "\\t" | 0x0A => "\\n"
  | 0x0B => "\\v" | 0x0C => "\\f" | 0x0D => "\\r" | 0x1B => "\\e" | 0x22 => "\\\""
  | 0x5C => "\\\\" | 0x85 => "\\N" | 0xA0 => "\\_" | 0x2028 => "\\L" | 0x2029 => "\\P"
  | _ =>
    if c ≤ 0xFF then "\\x" ++ hexDigits 2 c
    else if c ≤ 0xFFFF then "\\u" ++ hexDigits 4 c
    else "\\U" ++ hexDigits 8 c

def doubleQuoted (s : String) : String :=
  "\"" ++ String.join (s.toList.map fun ch =>
    let c := ch.toNat
    if !isPrintable c || c == 0xFEFF || isBreak c || c == 0x22 || c == 0x5C then escape c
    else ch.toString) ++ "\""

def singleQuoted (s : String) : String := "'" ++ s.replace "'" "''" ++ "'"

/-- The header of a literal block: the indentation hint when the text starts with a blank or
a break, and the chomping indicator. -/
def literalHeader (s : String) : String :=
  let cs := s.toList.map Char.toNat
  let hint := match cs with
    | c :: _ => if c == 0x20 || isBreak c then "2" else ""
    | [] => ""
  let chomp := match cs.reverse with
    | [] => "-"
    | [c] => if isBreak c then "+" else "-"
    | c :: d :: _ => if !isBreak c then "-" else if isBreak d then "+" else ""
  "|" ++ hint ++ chomp

/-- The lines of a literal block at an indentation; empty lines carry no indentation. -/
def literalBody (indent : Nat) (s : String) : String :=
  let pad := String.ofList (List.replicate indent ' ')
  let lines := s.splitOn "\n"
  let lines := if s.endsWith "\n" then lines.dropLast else lines
  String.join (lines.map fun l => if l.isEmpty then "\n" else pad ++ l ++ "\n")

/-! ## Writing documents -/

def spaces (n : Nat) : String := String.ofList (List.replicate n ' ')

/-- A scalar after a key or dash, with its continuation lines indented by `indent`; the text
ends with a line break. -/
def scalarText (indent : Nat) : Node → String
  | .raw t => t ++ "\n"
  | .text s =>
    match styleOf s with
    | .plain => s ++ "\n"
    | .singleQuoted => singleQuoted s ++ "\n"
    | .doubleQuoted => doubleQuoted s ++ "\n"
    | .literal => literalHeader s ++ "\n" ++ literalBody indent s
  | _ => "\n"

mutual

/-- The entries of a mapping at an indentation; `first` is written where the first key goes. -/
def mapText (indent : Nat) (first : String) : List (String × Node) → String
  | [] => ""
  | (k, v) :: rest =>
    first ++ k ++ ":" ++ valueText indent v ++ mapText indent (spaces indent) rest

/-- The items of a sequence at an indentation; `first` is written where the first dash goes. -/
def seqText (indent : Nat) (first : String) : List Node → String
  | [] => ""
  | item :: rest => first ++ "-" ++ itemText (indent + 2) item ++ seqText indent (spaces indent) rest

def valueText (indent : Nat) : Node → String
  | .seq [] => " []\n"
  | .map [] => " \x7b\x7d\n"
  | .seq items => "\n" ++ seqText (indent + 2) (spaces (indent + 2)) items
  | .map entries => "\n" ++ mapText (indent + 2) (spaces (indent + 2)) entries
  | .raw t => " " ++ scalarText (indent + 2) (.raw t)
  | .text s => " " ++ scalarText (indent + 2) (.text s)

def itemText (indent : Nat) : Node → String
  | .seq [] => " []\n"
  | .map [] => " \x7b\x7d\n"
  | .seq items => seqText indent " " items
  | .map entries => mapText indent " " entries
  | .raw t => " " ++ scalarText indent (.raw t)
  | .text s => " " ++ scalarText indent (.text s)

end

def render (entries : List (String × Node)) : String := mapText 0 "" entries

end Introspection.Text.Yaml
