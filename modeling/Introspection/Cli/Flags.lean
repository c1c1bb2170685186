import Introspection.Text.Numeral

/-!
# Command-line flags

A flag has a long name, perhaps a one-letter shorthand, a kind and a usage line. Truth flags
take no value unless one is attached with `=`; text flags take the next argument or the text
after `=`; list flags take comma-separated values, quoted like CSV fields, and every use adds
to the list that the first use started.

Parsing walks the arguments once: `--` ends the flags, a lone `-` and every argument not
starting with `-` are positional, `--name`, `--name=value`, `-x`, `-xvalue`, `-x=value` and
clusters of shorthands `-vx` set flags. The first problem stops the walk with its message.

The usage lines of a set of flags are sorted by name and aligned on the widest name.
-/

namespace Introspection.Cli

open Introspection.Text

/-- What a flag holds. -/
inductive FlagKind where
  /-- A truth value; named alone it is true. -/
  | truth
  /-- One text. -/
  | text
  /-- A list of texts. -/
  | texts
  deriving DecidableEq, Repr, Inhabited

/-- A flag. -/
structure Flag where
  name : String
  short : Option Char := none
  kind : FlagKind
  usage : String
  /-- The value before any use, as shown in usage lines. -/
  initial : String := ""
  deriving Inhabited

/-- A flag's value. -/
inductive FlagValue where
  | truth (b : Bool)
  | text (s : String)
  | texts (xs : List String)
  deriving Inhabited

/-- The outcome of parsing: the values set, by flag name, and the positional arguments. -/
structure Parsed where
  values : List (String × FlagValue) := []
  args : List String := []
  deriving Inhabited

def Parsed.get? (p : Parsed) (name : String) : Option FlagValue := p.values.lookup name

def Parsed.flag (p : Parsed) (name : String) : Bool :=
  match p.get? name with
  | some (.truth b) => b
  | _ => false

def Parsed.text (p : Parsed) (name fallback : String) : String :=
  match p.get? name with
  | some (.text s) => s
  | _ => fallback

def Parsed.texts (p : Parsed) (name : String) : List String :=
  match p.get? name with
  | some (.texts xs) => xs
  | _ => []

/-! ## Comma-separated values -/

def bareQuote : String := "bare \" in non-quoted-field"
def strayQuote : String := "extraneous or missing \" in quoted-field"

def csvError (line col : Nat) (why : String) : String :=
  "parse error on line " ++ toString line ++ ", column " ++ toString col ++ ": " ++ why

/-- Where a record reader stands: at the start of a field, or inside quotes. -/
inductive CsvMode where
  | fieldStart
  | quoted (field : String)

/-- Reads fields until the record ends. An unquoted field ends at a comma or the end of the line
and may hold no quote; a quoted field doubles its quotes and may span lines. -/
def readFields (line col : Nat) : List Char → CsvMode → List String → Nat →
    Except String (List String)
  | _, _, acc, 0 => .ok acc
  | cs, .fieldStart, acc, fuel + 1 =>
    match cs with
    | '"' :: rest => readFields line (col + 1) rest (.quoted "") acc fuel
    | _ =>
      let field := cs.takeWhile fun c => c != ',' && c != '\n'
      let rest := cs.drop field.length
      match field.findIdx? (· == '"') with
      | some j => .error (csvError line (col + (String.ofList (field.take j)).utf8ByteSize) bareQuote)
      | none =>
        let acc := acc ++ [String.ofList field]
        match rest with
        | ',' :: more =>
          readFields line (col + (String.ofList field).utf8ByteSize + 1) more .fieldStart acc fuel
        | _ => .ok acc
  | cs, .quoted field, acc, fuel + 1 =>
    match cs with
    | [] => .error (csvError line col strayQuote)
    | '"' :: '"' :: rest => readFields line (col + 2) rest (.quoted (field.push '"')) acc fuel
    | '"' :: ',' :: rest => readFields line (col + 2) rest .fieldStart (acc ++ [field]) fuel
    | '"' :: '\n' :: _ => .ok (acc ++ [field])
    | ['"'] => .ok (acc ++ [field])
    | '"' :: _ => .error (csvError line col strayQuote)
    | '\n' :: rest => readFields (line + 1) 1 rest (.quoted (field.push '\n')) acc fuel
    | c :: rest => readFields line (col + c.utf8Size) rest (.quoted (field.push c)) acc fuel

/-- Reads the fields of the first record of a comma-separated text; blank lines before it are
skipped, and columns count bytes from one. -/
def readRecord (text : String) : Except String (List String) :=
  let lines := text.splitOn "\n"
  let skipped := (lines.takeWhile (· == "")).length
  let lines := lines.drop skipped
  if lines.isEmpty || lines == [""] then .error "EOF"
  else
    let chars := ("\n".intercalate lines).toList
    readFields (skipped + 1) 1 chars .fieldStart [] (chars.length + 2)

/-! ## Setting flags -/

/-- How a flag is named in messages: its shorthand and long name, or the long name. -/
def Flag.display (f : Flag) : String :=
  match f.short with
  | some c => "-" ++ c.toString ++ ", --" ++ f.name
  | none => "--" ++ f.name

def Parsed.set (p : Parsed) (f : Flag) (value : String) : Except String Parsed :=
  let fail (why : String) : Except String Parsed :=
    .error ("invalid argument " ++ Quote.quote value ++ " for " ++ Quote.quote f.display ++
      " flag: " ++ why)
  let put (v : FlagValue) : Parsed :=
    { p with values := (f.name, v) :: p.values.filter (·.1 != f.name) }
  match f.kind with
  | .truth =>
    match Numeral.parseBool value.toUTF8 with
    | .ok b => .ok (put (.truth b))
    | .error e => fail e.message
  | .text => .ok (put (.text value))
  | .texts =>
    let read := if value.isEmpty then .ok [] else readRecord value
    match read with
    | .error why => fail why
    | .ok xs =>
      match p.get? f.name with
      | some (.texts old) => .ok (put (.texts (old ++ xs)))
      | _ => .ok (put (.texts xs))

def Flag.optional (f : Flag) : Bool := f.kind == .truth

/-- A failure of parsing, or the request for help. -/
inductive ParseStop where
  | help
  | failed (message : String)

/-- Parses a long flag `--name` or `--name=value`, taking its value from the next argument when
it needs one. -/
def parseLong (flags : List Flag) (s : String) (rest : List String) (p : Parsed) :
    Except ParseStop (List String × Parsed) :=
  let name := (s.drop 2).toString
  if name.isEmpty || name.startsWith "-" || name.startsWith "=" then
    .error (.failed ("bad flag syntax: " ++ s))
  else
    let (key, attached) := match name.splitOn "=" with
      | k :: v :: more => (k, some ("=".intercalate (v :: more)))
      | _ => (name, none)
    match flags.find? (·.name == key) with
    | none =>
      if key == "help" then .error .help else .error (.failed ("unknown flag: --" ++ key))
    | some f =>
      let taken : Option (String × List String) := match attached with
        | some v => some (v, rest)
        | none =>
          if f.optional then some ("true", rest)
          else match rest with
            | v :: more => some (v, more)
            | [] => none
      match taken with
      | none => .error (.failed ("flag needs an argument: " ++ s))
      | some (v, more) =>
        match p.set f v with
        | .ok p => .ok (more, p)
        | .error m => .error (.failed m)

def shortText (c : Char) : String :=
  if c == '\'' then "'\\''"
  else
    let q := Quote.quote c.toString
    "'" ++ ((q.drop 1).dropEnd 1).toString.replace "\\\"" "\"" ++ "'"

/-- Parses a cluster of shorthands, each setting a flag; a shorthand that needs a value takes
the rest of the cluster, or the next argument. -/
def parseShorts (flags : List Flag) (cluster : String) :
    List Char → List String → Parsed → Nat → Except ParseStop (List String × Parsed)
  | [], rest, p, _ => .ok (rest, p)
  | _, rest, p, 0 => .ok (rest, p)
  | c :: more, rest, p, fuel + 1 =>
    let here := String.ofList (c :: more)
    match flags.find? (·.short == some c) with
    | none =>
      if c == 'h' then .error .help
      else .error (.failed ("unknown shorthand flag: " ++ shortText c ++ " in -" ++ here))
    | some f =>
      let step : Option (String × List Char × List String) :=
        match more with
        | '=' :: value => some (String.ofList value, [], rest)
        | _ =>
          if f.optional then some ("true", more, rest)
          else if !more.isEmpty then some (String.ofList more, [], rest)
          else match rest with
            | v :: after => some (v, [], after)
            | [] => none
      match step with
      | none => .error (.failed ("flag needs an argument: " ++ shortText c ++ " in -" ++ here))
      | some (v, left, rest') =>
        match p.set f v with
        | .error m => .error (.failed m)
        | .ok p => parseShorts flags cluster left rest' p fuel

def parseFlags (flags : List Flag) (args : List String) : Except ParseStop Parsed :=
  go args {} (args.length + 1)
where
  go : List String → Parsed → Nat → Except ParseStop Parsed
    | [], p, _ => .ok p
    | _, p, 0 => .ok p
    | s :: rest, p, fuel + 1 =>
      if s.length < 2 || !s.startsWith "-" then go rest { p with args := p.args ++ [s] } fuel
      else if s == "--" then .ok { p with args := p.args ++ rest }
      else if s.startsWith "--" then
        match parseLong flags s rest p with
        | .ok (rest, p) => go rest p fuel
        | .error e => .error e
      else
        let cs := (s.drop 1).toString.toList
        match parseShorts flags s cs rest p (cs.length + 1) with
        | .ok (rest, p) => go rest p fuel
        | .error e => .error e

/-! ## Usage lines -/

def Flag.valueWord (f : Flag) : String :=
  match f.kind with
  | .truth => ""
  | .text => "string"
  | .texts => "strings"

def Flag.showsInitial (f : Flag) : Bool :=
  match f.kind with
  | .truth => f.initial != "" && f.initial != "false"
  | .text => f.initial != ""
  | .texts => f.initial != "" && f.initial != "[]"

/-- The usage lines of flags, sorted by name, the usage texts aligned one column past the
widest flag. -/
def usageLines (flags : List Flag) : String :=
  let sorted := flags.mergeSort fun a b => decide (a.name ≤ b.name)
  let heads := sorted.map fun f =>
    let names := match f.short with
      | some c => "  -" ++ c.toString ++ ", --" ++ f.name
      | none => "      --" ++ f.name
    let w := f.valueWord
    (if w.isEmpty then names else names ++ " " ++ w, f)
  let width := heads.foldl (fun m (h, _) => max m (h.length + 1)) 0
  String.join (heads.map fun (h, f) =>
    let initial := if !f.showsInitial then ""
      else if f.kind == .text then " (default " ++ Quote.quote f.initial ++ ")"
      else " (default " ++ f.initial ++ ")"
    h ++ " " ++ String.ofList (List.replicate (width - h.length) ' ') ++ " " ++ f.usage ++
      initial ++ "\n")

end Introspection.Cli
