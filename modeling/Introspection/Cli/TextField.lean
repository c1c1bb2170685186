import Introspection.Text.Width

/-!
# Text fields

A text field edits one line: its value is a list of characters with a cursor between them, shown
after a prompt in a window of a fixed width that scrolls to keep the cursor visible. An empty
field shows its placeholder instead.

Keys reach a field only while it has the focus. Typed or pasted characters are inserted at the
cursor, with tabs and line breaks turned into spaces and other control characters dropped;
backspace and delete remove the character before or at the cursor; left, right, home and end move
the cursor, and their control chords (`ctrl+b`, `ctrl+f`, `ctrl+a`, `ctrl+e`, `ctrl+h`,
`ctrl+d`) do the same. Word moves and deletions, and deletion up to either end of the value,
have chords of their own. Other keys change nothing.

A field is shown as its prompt, the visible part of the value with the cursor (a space at the
end), and spaces up to the width plus one column for the cursor.
-/

namespace Introspection.Cli

open Introspection.Text

/-- A key as a terminal reports it. -/
inductive Key where
  | enter
  | up
  | down
  | tab
  | esc
  | ctrlC
  | backspace
  | left
  | right
  | home
  | end_
  | delete
  | space
  /-- Characters typed or pasted at once. -/
  | chars (cs : List Char)
  deriving DecidableEq, Repr, Inhabited

namespace Key

def ofName (s : String) : Key :=
  match s with
  | "enter" => .enter | "up" => .up | "down" => .down | "tab" => .tab | "esc" => .esc
  | "ctrl+c" => .ctrlC | "backspace" => .backspace | "left" => .left | "right" => .right
  | "home" => .home | "end" => .end_ | "delete" => .delete | "space" => .space
  | other => .chars other.toList

def text : Key → String
  | enter => "enter" | up => "up" | down => "down" | tab => "tab" | esc => "esc"
  | ctrlC => "ctrl+c" | backspace => "backspace" | left => "left" | right => "right"
  | home => "home" | end_ => "end" | delete => "delete" | space => " "
  | chars cs => String.ofList cs

end Key

/-- A one-line text field. -/
structure TextField where
  prompt : String
  placeholder : String
  width : Nat
  value : List Char := []
  pos : Nat := 0
  focused : Bool := false
  /-- The first visible character. -/
  offset : Nat := 0
  /-- The position after the last visible character. -/
  offsetRight : Nat := 0
  deriving Inhabited, Repr

namespace TextField

def runWidth (cs : List Char) : Nat := cs.foldl (fun n c => n + charWidth c) 0

/-- Characters as a paste leaves them: tabs, carriage returns and line feeds become spaces,
other control characters and the replacement character are dropped. -/
def sanitize : List Char → List Char
  | [] => []
  | c :: rest =>
    if c == '\t' || c == '\n' || c == '\r' then ' ' :: sanitize rest
    else if c.toNat < 32 || (127 ≤ c.toNat && c.toNat < 160) || c == '�' then sanitize rest
    else c :: sanitize rest

/-- Counts characters from `i` rightward while their columns fit the width (with one spare
column for the cursor). -/
def fitRight (runes : List Char) (width : Nat) : Nat → Nat → Nat → Nat
  | 0, i, _ => i
  | fuel + 1, i, w =>
    if i < runes.length && w ≤ width then
      let w := w + charWidth (runes.getD i ' ')
      if w ≤ width + 1 then fitRight runes width fuel (i + 1) w else fitRight runes width fuel i w
    else i

def fitLeft (runes : List Char) (width : Nat) : Nat → Nat → Nat → Nat
  | 0, i, _ => i
  | fuel + 1, i, w =>
    if i > 0 && w < width then
      let w := w + charWidth (runes.getD i ' ')
      if w ≤ width then fitLeft runes width fuel (i - 1) w else fitLeft runes width fuel i w
    else i

def scroll (f : TextField) : TextField :=
  if f.width == 0 || runWidth f.value ≤ f.width then
    { f with offset := 0, offsetRight := f.value.length }
  else
    let f := { f with offsetRight := min f.offsetRight f.value.length }
    if f.pos < f.offset then
      let runes := f.value.drop f.pos
      let i := fitRight runes f.width (runes.length + 1) 0 0
      { f with offset := f.pos, offsetRight := f.pos + i }
    else if f.pos ≥ f.offsetRight then
      let runes := f.value.take f.pos
      let i := fitLeft runes f.width (runes.length + 1) (runes.length - 1) 0
      { f with offsetRight := f.pos, offset := f.pos - (runes.length - 1 - i) }
    else f

def setCursor (f : TextField) (pos : Nat) : TextField :=
  scroll { f with pos := min pos f.value.length }

def setValue (f : TextField) (value : List Char) : TextField :=
  let wasEmpty := f.value.isEmpty
  let f := { f with value }
  let f := if (f.pos == 0 && wasEmpty) || f.pos > value.length then setCursor f value.length else f
  scroll f

def insert (f : TextField) (cs : List Char) : TextField :=
  let paste := sanitize cs
  let head := f.value.take f.pos ++ paste
  let tail := f.value.drop f.pos
  setValue { f with pos := f.pos + paste.length } (head ++ tail)

def create (prompt placeholder : String) (width : Nat) : TextField :=
  { prompt := prompt, placeholder := placeholder, width := width }

def text (f : TextField) : String := String.ofList f.value

/-- Whether a character separates words: the blank characters of Unicode. -/
def isSpace (c : Char) : Bool :=
  c == ' ' || ('\t' ≤ c && c ≤ '\r') || c.toNat == 0x85 || c.toNat == 0xA0 ||
    c.toNat == 0x1680 || (0x2000 ≤ c.toNat && c.toNat ≤ 0x200A) || c.toNat == 0x2028 ||
    c.toNat == 0x2029 || c.toNat == 0x202F || c.toNat == 0x205F || c.toNat == 0x3000

/-- The number of characters to step over from the end of a run going left: first blanks,
then the word before them. -/
def wordLeftSteps (before : List Char) : Nat :=
  let rev := before.reverse
  let blanks := (rev.takeWhile isSpace).length
  blanks + ((rev.drop blanks).takeWhile (!isSpace ·)).length

/-- The number of characters to step over going right: first blanks, then the word after
them. -/
def wordRightSteps (after : List Char) : Nat :=
  let blanks := (after.takeWhile isSpace).length
  blanks + ((after.drop blanks).takeWhile (!isSpace ·)).length

def wordBackward (f : TextField) : TextField :=
  if f.pos == 0 || f.value.isEmpty then f
  else setCursor f (f.pos - wordLeftSteps (f.value.take f.pos))

def wordForward (f : TextField) : TextField :=
  if f.pos ≥ f.value.length || f.value.isEmpty then f
  else setCursor f (f.pos + wordRightSteps (f.value.drop f.pos))

/-- Steps left from `p` while the character at `p` is blank (or, with `blank` false, not
blank), never past the first character. -/
def stepLeft (v : List Char) (blank : Bool) : Nat → Nat
  | 0 => 0
  | p + 1 => if isSpace (v.getD (p + 1) ' ') == blank then stepLeft v blank p else p + 1

/-- Steps right from `p` while the character at `p` is blank (or, with `blank` false, not
blank), never past the end; `fuel` bounds the steps. -/
def stepRight (v : List Char) (blank : Bool) : Nat → Nat → Nat
  | 0, p => p
  | fuel + 1, p =>
    if p < v.length && isSpace (v.getD p ' ') == blank then stepRight v blank fuel (p + 1) else p

/-- Deletes the word before the cursor and the blanks between it and the cursor. A blank
before the word stays, unless it is the first character. The cursor passes the start of the
word before it comes back to the kept blank, which matters for scrolling. -/
def deleteWordBackward (f : TextField) : TextField :=
  if f.pos == 0 || f.value.isEmpty then f
  else
    let old := f.pos
    let afterBlanks := stepLeft f.value true (old - 1)
    let low := if afterBlanks == 0 then 0 else stepLeft f.value false afterBlanks
    let g := setCursor f low
    let g := if low > 0 then setCursor g (low + 1) else g
    { g with value := f.value.take g.pos ++ f.value.drop old }

/-- Deletes the blanks and the word after the cursor; the cursor stays. -/
def deleteWordForward (f : TextField) : TextField :=
  if f.pos ≥ f.value.length || f.value.isEmpty then f
  else
    let old := f.pos
    let n := f.value.length
    let pastBlanks := stepRight f.value true n (old + 1)
    let stop := stepRight f.value false n pastBlanks
    let g := setCursor f stop
    setCursor { g with value := f.value.take old ++ f.value.drop g.pos } old

/-- Handles a key; a field without the focus ignores it. Control and alternate chords typed
as text act like the keys of their names. -/
def update (f : TextField) (k : Key) : TextField :=
  if !f.focused then f
  else
    let f := match k.text with
      | "backspace" | "ctrl+h" =>
        if f.value.isEmpty then f
        else
          let f := { f with value := f.value.take (f.pos - 1) ++ f.value.drop f.pos }
          if f.pos > 0 then setCursor f (f.pos - 1) else f
      | "alt+left" | "ctrl+left" | "alt+b" => f.wordBackward
      | "left" | "ctrl+b" => if f.pos > 0 then setCursor f (f.pos - 1) else f
      | "alt+right" | "ctrl+right" | "alt+f" => f.wordForward
      | "right" | "ctrl+f" => if f.pos < f.value.length then setCursor f (f.pos + 1) else f
      | "home" | "ctrl+a" => setCursor f 0
      | "delete" | "ctrl+d" =>
        if !f.value.isEmpty && f.pos < f.value.length then
          { f with value := f.value.take f.pos ++ f.value.drop (f.pos + 1) }
        else f
      | "end" | "ctrl+e" => setCursor f f.value.length
      | "alt+backspace" | "ctrl+w" => f.deleteWordBackward
      | "alt+delete" | "alt+d" => f.deleteWordForward
      | "ctrl+k" => setCursor { f with value := f.value.take f.pos } f.pos
      | "ctrl+u" => setCursor { f with value := f.value.drop f.pos, offset := 0 } 0
      | "ctrl+v" | "ctrl+n" | "ctrl+p" => f
      | _ =>
        match k with
        | .chars cs => f.insert cs
        | _ => f
    scroll f

/-- Shows the placeholder: its first character under the cursor, the rest, and spaces up to the
width plus one. -/
def placeholderView (f : TextField) : String :=
  let p := f.placeholder.toList
  let first := String.ofList (p.take 1)
  let first := if first.isEmpty then " " else first
  if f.width == 0 then f.prompt ++ first ++ String.ofList (p.drop 1)
  else
    let minWidth := Text.width f.placeholder
    let avail : Int := (f.width : Int) - minWidth + 1
    let (minWidth, avail) := if avail < 0 then ((minWidth : Int) + avail, (0 : Int)) else ((minWidth : Int), avail)
    let shown := (p.take (f.width + 1)).drop 1 |>.take (minWidth.toNat - 1)
    f.prompt ++ first ++ String.ofList shown ++ String.ofList (List.replicate avail.toNat ' ')

/-- Shows the field: the prompt, the visible value with the cursor, and padding. -/
def view (f : TextField) : String :=
  if f.value.isEmpty && !f.placeholder.isEmpty then f.placeholderView
  else
    let visible := (f.value.take f.offsetRight).drop f.offset
    let pos := f.pos - f.offset
    let before := String.ofList (visible.take pos)
    let atCursor := if pos < visible.length then String.ofList ((visible.drop pos).take 1) else " "
    let after := if pos < visible.length then String.ofList (visible.drop (pos + 1)) else ""
    let w := runWidth visible
    let padding :=
      if f.width > 0 && w ≤ f.width then
        let pad := f.width - w
        let pad := if w + pad ≤ f.width && pos < visible.length then pad + 1 else pad
        String.ofList (List.replicate pad ' ')
      else ""
    f.prompt ++ before ++ atCursor ++ after ++ padding

theorem update_unfocused (f : TextField) (k : Key) (h : f.focused = false) : f.update k = f := by
  simp [update, h]

end TextField

end Introspection.Cli
