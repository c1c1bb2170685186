import Introspection.Info.Describe
import Introspection.Value
import Introspection.Text.Yaml

/-!
# Outlines of namespaces

The outline of a namespace lists its name, version, shared libraries and dependencies and then
every entry in directory order. An entry keeps what a reader wants at a glance: functions and
callbacks their description, registered types their type name, members and methods, objects
their parent, interfaces and constants, interfaces their prerequisites, and constants their
type and value.

An outline is printed as text, one heading line per entry with its members indented below,
or as a YAML document whose empty parts are left out.
-/

namespace Introspection.Cli

open Introspection.Typelib Introspection.Repository Introspection.Info

/-- A field of a compound type. -/
structure FieldLine where
  name : String
  type : String
  readable : Bool
  writable : Bool

/-- A named value: an enum member or a constant of a class. -/
structure NamedValue where
  name : String
  value : Value

/-- What the outline says about one entry. -/
structure Entry where
  name : String
  kind : String
  gtype : String := ""
  symbol : String := ""
  signature : String := ""
  parent : String := ""
  interfaces : List String := []
  fields : List FieldLine := []
  methods : List String := []
  values : List NamedValue := []
  constants : List NamedValue := []
  type : String := ""
  value : Option Value := none
  deprecated : Bool := false

/-- The outline of a namespace. -/
structure Outline where
  namespace_ : String
  version : String
  sharedLibraries : List String
  dependencies : List String
  entries : List Entry

def fieldLines (i : Info) : RepoM (List FieldLine) := do
  let r ← get
  (Info.fields r i).mapM fun f => do
    let ty ← Info.typeString (Info.fieldType (← get) f)
    let r ← get
    return { name := Info.name r f, type := ty, readable := Info.isReadable r f,
             writable := Info.isWritable r f }

def methodLines (i : Info) : RepoM (List String) := do
  (Info.methods (← get) i).mapM fun m => do Info.describe (Info.name (← get) m) m

def Entry.of (bi : Info) : RepoM Entry := do
  let r ← get
  let k := bi.kind
  let base : Entry := { name := Info.name r bi, kind := k.name, deprecated := Info.isDeprecated r bi }
  if k == .function then
    return { base with symbol := Info.symbol r bi, signature := ← Info.describe base.name bi }
  if k == .callback then return { base with signature := ← Info.describe base.name bi }
  if k == .struct || k == .boxed || k == .union then
    let fields ← fieldLines bi
    let methods ← methodLines bi
    return { base with gtype := Info.typeName r bi, fields, methods }
  if k == .enum || k == .flags then
    let values := (Info.values r bi).map fun v => { name := Info.name r v, value := .enumInt (Info.valueOf r v) }
    let methods ← methodLines bi
    return { base with gtype := Info.typeName r bi, values, methods }
  if k == .object then
    let parent ← match ← Info.parentRef bi with
      | some p => pure (Info.qualifiedName (← get) p)
      | none => pure ""
    let ifaces ← Info.interfaces bi
    let r ← get
    let interfaces := ifaces.map (Info.qualifiedName r)
    let fields ← fieldLines bi
    let methods ← methodLines bi
    let r ← get
    let constants := (Info.constants r bi).map fun c =>
      { name := Info.name r c, value := Info.constantValue r c : NamedValue }
    return { base with gtype := Info.typeName r bi, parent, interfaces, fields, methods, constants }
  if k == .interface then
    let prereqs ← Info.interfaces bi
    let r ← get
    let methods ← methodLines bi
    return { base with gtype := Info.typeName r bi, interfaces := prereqs.map (Info.qualifiedName r),
                       methods }
  if k == .constant then
    let ty ← Info.typeString (Info.constantType bi)
    return { base with type := ty, value := some (Info.constantValue (← get) bi) }
  return base

def Outline.of (sid : Nat) : RepoM Outline := do
  let r ← get
  let t := r.spaceTypelib sid
  let mut entries : List Entry := []
  for i in List.range t.nLocal do
    entries := entries ++ [← Entry.of (← Info.entry sid (i + 1))]
  return { namespace_ := t.namespace_, version := t.version,
           sharedLibraries := t.sharedLibraries.getD [], dependencies := t.dependencies.getD [],
           entries }

/-! ## Text -/

def valueText : Value → String
  | .enumInt v => toString v
  | v => v.defaultText

def padRight (w : Nat) (s : String) : String := s ++ String.ofList (List.replicate (w - s.length) ' ')

def FieldLine.access (f : FieldLine) : String :=
  if f.readable && f.writable then "rw" else if f.readable then "r" else if f.writable then "w"
  else ""

def Entry.render (e : Entry) : String :=
  let kind := padRight 9 e.kind
  let head :=
    if !e.signature.isEmpty then kind ++ " " ++ e.signature
    else if e.kind == "constant" then
      kind ++ " " ++ e.name ++ ": " ++ e.type ++ " = " ++ ((e.value.map valueText).getD "<nil>")
    else kind ++ " " ++ e.name
  let head := if e.gtype.isEmpty then head else head ++ " (" ++ e.gtype ++ ")"
  let head := if e.parent.isEmpty then head else head ++ " : " ++ e.parent
  let head := if e.deprecated then head ++ " deprecated" else head
  head ++ String.join (e.interfaces.map ("\n    implements " ++ ·))
    ++ String.join (e.fields.map fun f => "\n    field " ++ f.name ++ ": " ++ f.type ++ " " ++ f.access)
    ++ String.join (e.values.map fun v => "\n    " ++ v.name ++ " = " ++ valueText v.value)
    ++ String.join (e.constants.map fun c => "\n    const " ++ c.name ++ " = " ++ valueText c.value)
    ++ String.join (e.methods.map ("\n    " ++ ·))

/-- The text of an outline: the namespace heading, its libraries and dependencies, a blank
line, and every entry. -/
def Outline.renderText (o : Outline) : String :=
  o.namespace_ ++ "-" ++ o.version ++ "\n"
    ++ (if o.sharedLibraries.isEmpty then "" else "libraries: " ++ ", ".intercalate o.sharedLibraries ++ "\n")
    ++ (if o.dependencies.isEmpty then "" else "depends: " ++ ", ".intercalate o.dependencies ++ "\n")
    ++ "\n" ++ String.join (o.entries.map (·.render ++ "\n"))

/-! ## YAML -/

/-- The YAML node of a value: numbers and truth values as they stand, texts styled, raw
bytes as a sequence of numbers, anything else null. -/
def valueNode : Value → Text.Yaml.Node
  | .bool b => .raw (if b then "true" else "false")
  | .int _ v => .raw (toString v)
  | .enumInt v => .raw (toString v)
  | .float64 x => .raw (floatWord (Text.Decimal.ofFloat x))
  | .float32 x => .raw (floatWord (Text.Decimal.ofFloat32 x))
  | .str s => .text (Text.Utf8.lossy s)
  | .bytes b => .seq (b.toList.map fun x => .raw (toString x.toNat))
  | _ => .raw "null"
where
  floatWord (t : String) : String :=
    match t with
    | "NaN" => ".nan"
    | "+Inf" => ".inf"
    | "-Inf" => "-.inf"
    | other => other

def Entry.yaml (e : Entry) : Text.Yaml.Node :=
  let opt (key : String) (s : String) : List (String × Text.Yaml.Node) := if s.isEmpty then [] else [(key, .text s)]
  let list {α : Type} (key : String) (xs : List α) (f : α → Text.Yaml.Node) : List (String × Text.Yaml.Node) :=
    if xs.isEmpty then [] else [(key, .seq (xs.map f))]
  let named (v : NamedValue) : Text.Yaml.Node := .map [("name", .text v.name), ("value", valueNode v.value)]
  .map ([("name", .text e.name), ("kind", .text e.kind)] ++ opt "gtype" e.gtype
    ++ opt "symbol" e.symbol ++ opt "signature" e.signature ++ opt "parent" e.parent
    ++ list "interfaces" e.interfaces .text
    ++ list "fields" e.fields (fun f => .map [("name", .text f.name), ("type", .text f.type),
        ("readable", .raw (toString f.readable)), ("writable", .raw (toString f.writable))])
    ++ list "methods" e.methods .text ++ list "values" e.values named
    ++ list "constants" e.constants named ++ opt "type" e.type
    ++ (match e.value with
      | some v => [("value", valueNode v)]
      | none => [])
    ++ (if e.deprecated then [("deprecated", .raw "true")] else []))

def Outline.renderYaml (o : Outline) : String :=
  Text.Yaml.render ([("namespace", .text o.namespace_), ("version", .text o.version)]
    ++ (if o.sharedLibraries.isEmpty then [] else [("shared_libraries", .seq (o.sharedLibraries.map .text))])
    ++ (if o.dependencies.isEmpty then [] else [("dependencies", .seq (o.dependencies.map .text))])
    ++ [("entries", .seq (o.entries.map Entry.yaml))])

end Introspection.Cli
