import Introspection.Failure
import Introspection.Native.Kind
import Introspection.Guest.Module

/-!
# Declared guest signatures

Core WebAssembly types say only `i32` where a C function takes a signed or unsigned integer,
a character or a pointer. A guest library may declare the types of its exports in the
interface type notation, `func(a: s32, b: string) -> u32`, and each declared type becomes the
call slot a C function uses for it: strings travel as pointers, booleans as `i32`, characters
as `u32`.

A declaration is the word `func`, a parenthesized parameter list and optionally `->` and a
result; a trailing `;` and surrounding blanks are ignored. Each parameter is its type after the
last `:`. Only primitive types can be declared.
-/

namespace Introspection.Guest

open Introspection.Native

/-- A declared function type reduced to call slots. -/
structure Declared where
  text : String
  params : List ValueKind := []
  result : ValueKind := .void
  deriving Inhabited

def isBlank (c : Char) : Bool := c == ' ' || c == '\t' || c == '\n' || c == '\r' || c == '\x0c'

def trimBlanks (s : String) : String :=
  String.ofList ((s.toList.dropWhile isBlank).reverse.dropWhile isBlank).reverse

/-- A primitive type by name, as its call slot; `error-context` has none. -/
def primitiveSlot (name : String) : Except Failure ValueKind :=
  match name with
  | "bool" | "s32" => .ok .i32
  | "s8" => .ok .i8
  | "u8" => .ok .u8
  | "s16" => .ok .i16
  | "u16" => .ok .u16
  | "u32" | "char" => .ok .u32
  | "s64" => .ok .i64
  | "u64" => .ok .u64
  | "f32" | "float32" => .ok .f32
  | "f64" | "float64" => .ok .f64
  | "string" => .ok .ptr
  | "error-context" =>
    .error (.fault .parse .unsupported [] "wit.ErrorContext" "" "no native slot for WIT type" .null
      none)
  | other =>
    .error (.wrap .parse .invalidInput (.plain ("unknown primitive type " ++ Text.Quote.quote other))
      ("parse WIT type " ++ name))

/-- The slot of a type written in a declaration; failures name the type as written. -/
def typeSlot (written : String) : Except Failure ValueKind :=
  match primitiveSlot (trimBlanks written) with
  | .error (.wrap p k c _) => .error (.wrap p k c ("parse WIT type " ++ written))
  | other => other

/-- Splits a parameter list at commas outside brackets, dropping blank parts. -/
def splitParams (s : String) : List String :=
  let step := fun (acc : List String × Int × List Char) (c : Char) =>
    let (out, depth, cur) := acc
    if c == '(' || c == '<' then (out, depth + 1, c :: cur)
    else if c == ')' || c == '>' then (out, depth - 1, c :: cur)
    else if c == ',' && depth == 0 then
      let part := trimBlanks (String.ofList cur.reverse)
      (if part.isEmpty then out else out ++ [part], depth, [])
    else (out, depth, c :: cur)
  let (out, _, cur) := s.toList.foldl step ([], 0, [])
  let last := trimBlanks (String.ofList cur.reverse)
  if last.isEmpty then out else out ++ [last]

/-- The parameter list and result text of `func(...) -> r`, if the text has that shape. The
parameter list ends at the first `)`; the result is the rest after `->`, on one line. -/
def declarationParts (text : String) : Option (String × String) :=
  let cs := text.toList
  if cs.take 4 != "func".toList then none
  else
    let rest := (cs.drop 4).dropWhile isBlank
    match rest with
    | '(' :: more =>
      let params := more.takeWhile (· != ')')
      match more.dropWhile (· != ')') with
      | ')' :: tail =>
        if tail.isEmpty then some (String.ofList params, "")
        else
          let afterBlank := tail.dropWhile isBlank
          match afterBlank with
          | '-' :: '>' :: res =>
            if res.isEmpty || res.contains '\n' then none
            else
              let trimmed := res.dropWhile isBlank
              let result := if trimmed.isEmpty then res else trimmed
              some (String.ofList params, String.ofList result)
          | _ => none
      | _ => none
    | _ => none

def Declared.parse (text : String) : Except Failure Declared := do
  let text := trimBlanks text
  let text := trimBlanks (if text.endsWith ";" then (text.dropEnd 1).toString else text)
  match declarationParts text with
  | none => throw (.invalidInput .parse ("not a WIT function type: " ++ text))
  | some (params, res) =>
    let mut slots : List ValueKind := []
    for p in splitParams params do
      let written := match p.splitOn ":" with
        | [] => p
        | parts => parts.getLast!
      slots := slots ++ [← typeSlot written]
    let res := trimBlanks res
    let result ← if res.isEmpty || res == "()" then pure ValueKind.void else typeSlot res
    return { text, params := slots, result }

def lowerSlot (k : ValueKind) : ValType :=
  match k with
  | .i64 | .u64 => .i64
  | .f32 => .f32
  | .f64 => .f64
  | _ => .i32

/-- Whether a call slot may feed a declared slot: equal slots, or pointers and 32-bit unsigned
integers, which are the same in a 32-bit guest. -/
def slotFits (have_ want : ValueKind) : Bool :=
  have_ == want || (have_ == .ptr && want == .u32) || (have_ == .u32 && want == .ptr)

/-- A function type as `(i32, i32) -> i32`; `void` without results, `multi` with several. -/
def coreSignature (t : FuncType) : String :=
  let res := match t.results with
    | [] => "void"
    | [r] => r.name
    | _ => "multi"
  "(" ++ ", ".intercalate (t.params.map ValType.name) ++ ") -> " ++ res

def Declared.matches (d : Declared) (t : FuncType) : Bool :=
  t.params.length == d.params.length &&
    (t.params.zip d.params).all (fun (p, k) => lowerSlot k == p) &&
    (if d.result == .void then t.results.isEmpty
     else t.results.length == 1 && t.results.head? == some (lowerSlot d.result))

theorem splitParams_empty : splitParams "" = [] := by decide

end Introspection.Guest
