import Introspection.Script.Doc

/-!
# Documents as JSON text

Scripts and answers travel as JSON text, one document per line. Reading keeps what a double
can tell apart: a number is kept exactly as its digits and a power of ten, and a negative zero
keeps its sign. Strings decode every escape; a lone surrogate becomes U+FFFD. Writing is
compact: strings escape quotes, backslashes and control characters, and a number is written
as its digits and a negative power of ten.
-/

namespace Introspection.Script

namespace Doc

def isSpace (c : Char) : Bool := c == ' ' || c == '\t' || c == '\n' || c == '\r'

def hex4? (a b c d : Char) : Option Nat :=
  Text.Hex.natOfChars? [a, b, c, d]

/-- The characters of a string body up to its closing quote, and what follows. -/
def readString : List Char → List Char → Except String (String × List Char)
  | [], _ => .error "unterminated string"
  | '"' :: rest, acc => .ok (String.ofList acc.reverse, rest)
  | '\\' :: 'u' :: a :: b :: c :: d :: rest, acc =>
    match hex4? a b c d with
    | none => .error "invalid escape"
    | some hi =>
      if 0xD800 ≤ hi && hi < 0xDC00 then
        match _hr : rest with
        | '\\' :: 'u' :: e :: f :: g :: h :: rest' =>
          match hex4? e f g h with
          | some lo =>
            if 0xDC00 ≤ lo && lo < 0xE000 then
              readString rest' (Char.ofNat (0x10000 + (hi - 0xD800) * 0x400 + (lo - 0xDC00)) :: acc)
            else readString rest ('�' :: acc)
          | none => .error "invalid escape"
        | _ => readString rest ('�' :: acc)
      else if 0xDC00 ≤ hi && hi < 0xE000 then readString rest ('�' :: acc)
      else readString rest (Char.ofNat hi :: acc)
  | '\\' :: e :: rest, acc =>
    match e with
    | '"' => readString rest ('"' :: acc)
    | '\\' => readString rest ('\\' :: acc)
    | '/' => readString rest ('/' :: acc)
    | 'b' => readString rest ('\x08' :: acc)
    | 'f' => readString rest ('\x0c' :: acc)
    | 'n' => readString rest ('\n' :: acc)
    | 'r' => readString rest ('\r' :: acc)
    | 't' => readString rest ('\t' :: acc)
    | _ => .error "invalid escape"
  | c :: rest, acc => readString rest (c :: acc)
termination_by cs => cs.length
decreasing_by
  all_goals try simp_wf
  all_goals try subst _hr
  all_goals try simp
  all_goals omega

def digitsValue (ds : List Char) : Nat := ds.foldl (fun acc c => acc * 10 + (c.toNat - '0'.toNat)) 0

/-- A number: an optional minus, digits, an optional fraction and exponent. It becomes its
digits and a power of ten; a zero with a minus sign stays negative. -/
def readNumber (cs : List Char) : Except String (Doc × List Char) :=
  let (text, rest) := cs.span fun c => c.isDigit || c == '-' || c == '+' || c == '.' || c == 'e' || c == 'E'
  let (neg, body) := match text with
    | '-' :: b => (true, b)
    | b => (false, b)
  let (whole, afterWhole) := body.span Char.isDigit
  let (frac, afterFrac) := match afterWhole with
    | '.' :: more => more.span Char.isDigit
    | other => ([], other)
  let expPart := match afterFrac with
    | 'e' :: more | 'E' :: more => some more
    | _ => none
  let exp? : Option Int := match expPart with
    | none => if afterFrac.isEmpty then some 0 else none
    | some ('+' :: ds) => if ds.isEmpty || !ds.all Char.isDigit then none else some (digitsValue ds)
    | some ('-' :: ds) => if ds.isEmpty || !ds.all Char.isDigit then none else some (-(digitsValue ds : Int))
    | some ds => if ds.isEmpty || !ds.all Char.isDigit then none else some (digitsValue ds)
  let fracOk := match afterWhole with
    | '.' :: _ => !frac.isEmpty
    | _ => true
  match exp? with
  | some e =>
    if whole.isEmpty || !fracOk then .error "invalid number"
    else
      let m := digitsValue (whole ++ frac)
      let shift : Int := e - frac.length
      let d : Doc :=
        if m == 0 && neg then .negZero
        else
          let signed : Int := if neg then -(m : Int) else m
          if shift ≥ 0 then .num (signed * 10 ^ shift.toNat) 0 else .num signed shift.natAbs
      .ok (d, rest)
  | none => .error "invalid number"

mutual

def readValue : Nat → List Char → Except String (Doc × List Char)
  | 0, _ => .error "document nested too deeply"
  | fuel + 1, cs =>
    match cs.dropWhile isSpace with
    | 'n' :: 'u' :: 'l' :: 'l' :: rest => .ok (.null, rest)
    | 't' :: 'r' :: 'u' :: 'e' :: rest => .ok (.bool true, rest)
    | 'f' :: 'a' :: 'l' :: 's' :: 'e' :: rest => .ok (.bool false, rest)
    | '"' :: rest => (readString rest []).map fun (s, r) => (.str s, r)
    | '[' :: rest =>
      match rest.dropWhile isSpace with
      | ']' :: r => .ok (.arr [], r)
      | _ => (readItems fuel rest []).map fun (xs, r) => (.arr xs, r)
    | '{' :: rest =>
      match rest.dropWhile isSpace with
      | '}' :: r => .ok (.obj [], r)
      | _ => (readMembers fuel rest []).map fun (kvs, r) => (.obj kvs, r)
    | other => readNumber other

def readItems : Nat → List Char → List Doc → Except String (List Doc × List Char)
  | 0, _, _ => .error "document nested too deeply"
  | fuel + 1, cs, acc => do
    let (v, rest) ← readValue fuel cs
    match rest.dropWhile isSpace with
    | ',' :: more => readItems fuel more (v :: acc)
    | ']' :: more => .ok ((v :: acc).reverse, more)
    | _ => .error "expected , or ]"

def readMembers : Nat → List Char → List (String × Doc) → Except String (List (String × Doc) × List Char)
  | 0, _, _ => .error "document nested too deeply"
  | fuel + 1, cs, acc => do
    match cs.dropWhile isSpace with
    | '"' :: rest =>
      let (k, rest) ← readString rest []
      match rest.dropWhile isSpace with
      | ':' :: more =>
        let (v, rest) ← readValue fuel more
        match rest.dropWhile isSpace with
        | ',' :: more => readMembers fuel more ((k, v) :: acc)
        | '}' :: more => .ok (((k, v) :: acc).reverse, more)
        | _ => .error "expected , or \x7d"
      | _ => .error "expected :"
    | _ => .error "expected a member name"

end

def parse (s : String) : Except String Doc := do
  let cs := s.toList
  let (d, rest) ← readValue (cs.length + 1) cs
  if (rest.dropWhile isSpace).isEmpty then return d else throw "trailing text"

def quoteText (s : String) : String :=
  let esc (c : Char) : List Char :=
    if c == '"' then ['\\', '"']
    else if c == '\\' then ['\\', '\\']
    else if c.toNat < 0x20 then
      ['\\', 'u', '0', '0', Text.Hex.digit (c.toNat / 16), Text.Hex.digit (c.toNat % 16)]
    else [c]
  "\"" ++ String.ofList (s.toList.flatMap esc) ++ "\""

def render : Doc → String
  | null | nilList => "null"
  | bool b => if b then "true" else "false"
  | num m e => if e == 0 then toString m else toString m ++ "e-" ++ toString e
  | negZero => "-0"
  | str s => quoteText s
  | arr xs => "[" ++ ",".intercalate (xs.attach.map fun ⟨x, _⟩ => render x) ++ "]"
  | obj kvs => "\x7b" ++ ",".intercalate (kvs.attach.map fun ⟨(k, v), _⟩ => quoteText k ++ ":" ++ render v) ++ "\x7d"
termination_by d => sizeOf d
decreasing_by
  all_goals simp_wf
  all_goals first
    | (have hm := List.sizeOf_lt_of_mem ‹_›; omega)
    | (have hm := List.sizeOf_lt_of_mem ‹_›; simp at hm; omega)

end Doc

theorem Doc.render_null : Doc.render .null = "null" := by simp [Doc.render]

end Introspection.Script
