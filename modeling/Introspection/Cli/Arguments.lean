import Introspection.Info.Describe
import Introspection.Value
import Introspection.Text.Numeral
import Introspection.Text.Blank

/-!
# Arguments from text

A function called from the command line takes its in and inout arguments as texts, one per
parameter in order; out parameters are not given. Each text is read by the parameter's type:

* `null` is no value for any pointer type but texts and file names;
* truth values, sized integers (with base prefixes and digit separators), floating-point
  numbers, single characters, texts and file names are read as such;
* enum and flags types take a number, or member names joined with `|` (only the first for an
  enum);
* any other type cannot be read from text.

Results are printed one per line: strings quoted, null as `null`, enum members and flags by
name, wrappers by class and address, anything else in its default form.

A line of the shell splits into words at spaces and tabs; a word that starts with a double
quote runs to its closing quote and may use escapes.
-/

namespace Introspection.Cli

open Introspection.Typelib Introspection.Repository Introspection.Info Introspection.Text

/-- The reading of a text by a truth or number reader, or its refusal's message. -/
def readWith {α : Type} (r : Except Numeral.Refused α) (f : α → Value) : Except String Value :=
  match r with
  | .ok a => .ok (f a)
  | .error e => .error e.message

def signed64 (n : Nat) : Int := if n ≥ 2 ^ 63 then (n : Int) - 2 ^ 64 else n

/-- Reads a flags or enum value: a number, or member names joined with `|`; an enum takes only
the first name. -/
def enumArgument (r : Repository) (e : Info) (s : ByteArray) : Except String Value :=
  match Numeral.parseInt s 64 with
  | .ok v => .ok (.int .int64 v)
  | .error _ =>
    let parts := (Utf8.lossy s).splitOn "|"
    let parts := if e.kind == .flags then parts else parts.take 1
    let step (acc : Except String Int) (part : String) : Except String Int :=
      match acc with
      | .error m => .error m
      | .ok v =>
        let name := (trimBlank part).toLower
        match Info.findValue r e name with
        | some m => .ok (signed64 (Value.bits64 v ||| Value.bits64 (Info.valueOf r m)))
        | none =>
          .error (Info.qualifiedName r e ++ " has no member " ++ Quote.quote name)
    (parts.foldl step (.ok 0)).map (.int .int64 ·)

def argumentOf (ti : Info) (s : ByteArray) : RepoM (Except String Value) := do
  let r ← get
  let tag := Info.tag r ti
  if s.toList == "null".toUTF8.toList && Info.isPointer r ti && tag != .utf8 && tag != .filename then
    return .ok .null
  let signed (t : IntType) := readWith (Numeral.parseInt s t.bits) (.int t ·)
  let unsigned (t : IntType) := readWith (Numeral.parseUInt s t.bits) fun n => .int t n
  let notOne : Except String Value := .error (Quote.quoteBytes s ++ " is not a single character")
  if tag == .boolean then return readWith (Numeral.parseBool s) .bool
  if tag == .int8 then return signed .int8
  if tag == .uint8 then return unsigned .uint8
  if tag == .int16 then return signed .int16
  if tag == .uint16 then return unsigned .uint16
  if tag == .int32 then return signed .int32
  if tag == .uint32 then return unsigned .uint32
  if tag == .int64 then return signed .int64
  if tag == .uint64 || tag == .gtype then return unsigned .uint64
  if tag == .float then return readWith (Numeral.parseFloat32 s) .float32
  if tag == .double then return readWith (Numeral.parseFloat64 s) .float64
  if tag == .utf8 || tag == .filename then return .ok (.str s)
  if tag == .unichar then
    match Utf8.decodeAt s 0 with
    | some (c, n) =>
      return if n == s.size && c != Utf8.replacement.toNat then .ok (.int .int32 c) else notOne
    | none => return notOne
  if tag == .interface then
    if let some iface ← Info.typeInterface ti then
      if iface.kind == .enum || iface.kind == .flags then return enumArgument (← get) iface s
  return .error ("cannot parse " ++ (← Info.typeString ti) ++ " from text")

/-- Reads the in arguments of a callable from texts, one per in or inout parameter. -/
def argumentsOf (c : Info) (texts : List ByteArray) : RepoM (Except String (List Value)) := do
  let r ← get
  let params := (Info.args r c).filter fun a => Info.direction r a != .output
  let mut out : List Value := []
  for p in params do
    let name := Info.name (← get) p
    match texts.drop out.length with
    | [] => return .error ("missing argument " ++ Quote.quote name)
    | s :: _ =>
      match ← argumentOf (Info.argType p) s with
      | .ok v => out := out ++ [v]
      | .error m => return .error ("argument " ++ name ++ ": " ++ m)
  if out.length != texts.length then
    return .error (toString texts.length ++ " argument(s) given, " ++ toString out.length ++
      " expected")
  return .ok out

/-! ## Shell words -/

/-- Whether a unit of a line is a blank character; a stray byte is not blank. -/
def blankUnit : Utf8.Piece → Bool
  | .point c _ => isBlank (Utf8.charOf c)
  | .invalid _ => false

/-- The units of a line without the blank characters at either end. -/
def trimUnits (us : List Utf8.Piece) : List Utf8.Piece :=
  ((us.dropWhile blankUnit).reverse.dropWhile blankUnit).reverse

/-- Splits a line into words: unquoted words end at a space or tab, and a word that starts
with a double quote is read as a quoted string with escapes. The line is read as its UTF-8
units, each of which stands for its own bytes, so an unquoted word keeps the line's bytes,
stray ones included; a space, a tab and a quote are each a unit of their own. -/
def splitWords (line : ByteArray) : Except String (List ByteArray) :=
  go (trimUnits (Utf8.units line)) [] (line.size + 1)
where
  go (us : List Utf8.Piece) (acc : List ByteArray) (fuel : Nat) : Except String (List ByteArray) :=
    match fuel with
    | 0 => .ok acc
    | fuel + 1 =>
      match us with
      | [] => .ok acc
      | u :: _ =>
        if u != .point 0x22 1 then
          let word := us.takeWhile fun u => u != .point 0x20 1 && u != .point 0x09 1
          go (trimUnits (us.drop word.length))
            (acc ++ [(word.flatMap Utf8.Piece.bytes).toByteArray]) fuel
        else
          match Quote.quotedPrefix? (us.map Utf8.Piece.char) with
          | some (bytes, used, _) => go (trimUnits (us.drop used)) (acc ++ [bytes.toByteArray]) fuel
          | none => .error ("unterminated string: " ++ String.ofList (us.map Utf8.Piece.char))
  termination_by structural fuel

end Introspection.Cli
