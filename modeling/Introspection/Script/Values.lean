import Introspection.Script.Doc

/-!
# Host values in scripts

Scripts write host values as documents: `null`, booleans, numbers (doubles), texts and arrays
stand for themselves, and `{"t": T, "v": V}` gives a value of a named type. Answers write values
the library hands back as `{"type": T, "value": V}`, and failures as
`{"error": kind, "phase": phase, "message": text}`.
-/

namespace Introspection.Script

/-- What decoding a script value can look up: session variables, stored values and address
expressions. -/
structure HostEnv where
  var : String → Option Nat := fun _ => none
  stored : String → Option Value := fun _ => none
  address : Doc → Option Nat := fun d => d.nat?

/-- A script value names a stored value that does not exist. -/
structure MissingObject where
  name : String

/-- The special values a float text may name, in any letter case: `nan`, and `inf` or
`infinity` with an optional sign. -/
def specialFloat? (s : String) : Option Float :=
  match s.toLower with
  | "nan" => some (0.0 / 0.0)
  | "inf" | "+inf" | "infinity" | "+infinity" => some (1.0 / 0.0)
  | "-inf" | "-infinity" => some (-1.0 / 0.0)
  | _ => none

/-- A double from a number, a decimal text or a special value's name. -/
def floatOf? (d : Doc) : Option Float :=
  match d with
  | .str s => (specialFloat? s).orElse fun _ => Doc.floatOfText? s
  | other => other.float?

def scalarOf? (env : HostEnv) (t : String) (v : Doc) : Option Value :=
  match IntType.ofName? t with
  | some it => v.int?.map fun i => .int it (it.wrap i)
  | none =>
    match t with
    | "float64" => (floatOf? v).map .float64
    | "float32" => (floatOf? v).map fun x => .float32 x.toFloat32
    | "bool" => v.bool?.map .bool
    | "string" | "str" => v.str?.map Value.ofString
    | "gtype" => v.nat?.map .gtype
    | "bytes" => (v.str?.bind Text.Hex.toBytes?).map .bytes
    | "strhex" => (v.str?.bind Text.Hex.toBytes?).map .str
    | "stringer" => v.str?.map .stringer
    | "handle" => (env.address v).map .handle
    | "enum" => v.int?.map .enumInt
    | _ => none

def elemTypeOf? (t : String) : Option ElemType :=
  match IntType.ofName? t with
  | some it => some (.int it)
  | none =>
    match t with
    | "bool" => some .bool
    | "float32" => some .float32
    | "float64" => some .float64
    | "string" => some .string
    | "gtype" => some .gtype
    | "any" => some .any
    | _ => none

def compareModeOf? (d : Doc) : Option CompareMode :=
  match d.strD "cmp" with
  | "i32" => some .ascending
  | "i32_desc" => some .descending
  | _ => none

def Doc.depth : Doc → Nat
  | .arr xs => 1 + (xs.attach.map fun ⟨x, _⟩ => x.depth).foldl max 0
  | .obj kvs => 1 + (kvs.attach.map fun ⟨kv, _⟩ => kv.2.depth).foldl max 0
  | _ => 1
termination_by d => sizeOf d
decreasing_by
  all_goals simp_wf
  all_goals first
    | (have hm := List.sizeOf_lt_of_mem ‹_›; omega)
    | (rename_i h; have := List.sizeOf_lt_of_mem h; have := Value.sizeOf_snd_lt kv; omega)

/-- Decodes a script value into a host value, looking at most `fuel` levels deep. -/
def decodeHostUpTo (env : HostEnv) : Nat → Doc → Except MissingObject Value
  | 0, _ => .ok .null
  | _ + 1, .null | _ + 1, .nilList => .ok .null
  | _ + 1, .bool b => .ok (.bool b)
  | _ + 1, .num m e => .ok (.float64 ((Doc.num m e).float?.getD 0))
  | _ + 1, .negZero => .ok (.float64 (-0.0))
  | _ + 1, .str s => .ok (.ofString s)
  | fuel + 1, .arr xs => (xs.mapM (decodeHostUpTo env fuel)).map .list
  | fuel + 1, .obj kvs =>
    let d := Doc.obj kvs
    let t := d.strD "t"
    let v := d.field "v"
    match t with
    | "var" =>
      let name := d.strD "name"
      .ok (.int .uint64 (((env.var name).getD 0 + d.intD "add" 0) % 2 ^ 64))
    | "obj" =>
      let name := d.strD "name"
      match env.stored name with
      | some x => .ok x
      | none => .error ⟨name⟩
    | "callback" | "func" => do
      let ret ← decodeHostUpTo env fuel (d.field "ret")
      let panics := d.flag "panic"
      let cmp := compareModeOf? d
      pure (if t == "callback" then .callback (d.strD "id") ret panics cmp
        else .func (d.strD "id") ret panics cmp)
    | "nilcallback" => .ok .nilCallback
    | "map" => match v with
      | .obj members => do
        let entries ← members.mapM fun (k, x) => (decodeHostUpTo env fuel x).map (k, ·)
        pure (.map (entries.mergeSort fun a b => decide (a.1 ≤ b.1)))
      | _ => .ok (.map [])
    | "struct" => .ok .unsupported
    | _ =>
      if t.startsWith "slice:" || t.startsWith "array:" then
        let isSlice := t.startsWith "slice:"
        let et := (t.drop 6).toString
        let items := v.arr?.getD []
        match elemTypeOf? et with
        | some .any => do
          let vs ← items.mapM (decodeHostUpTo env fuel)
          pure (if isSlice then .list vs else .array .any vs)
        | some (.int .uint8) =>
          let bytes := items.map fun x => (x.int?.getD 0 % 256).toNat.toUInt8
          if isSlice then .ok (.bytes (ByteArray.mk bytes.toArray))
          else .ok (.array (.int .uint8) (bytes.map fun b => .int .uint8 b.toNat))
        | some e =>
          let vs := items.map fun x => (scalarOf? env et x).getD .null
          .ok (if isSlice then .slice e vs else .array e vs)
        | none => .ok .unsupported
      else .ok ((scalarOf? env t v).getD .null)

def decodeHost (env : HostEnv) (d : Doc) : Except MissingObject Value :=
  decodeHostUpTo env d.depth d

/-- How an answer shows a wrapper value: a document for each wrapper id and kind. -/
abbrev WrapperView := Nat → WrapperKind → Doc

def encodeValue (wrappers : WrapperView) : Value → Doc
  | .null => .obj [("type", .str "nil")]
  | .bool b => .obj [("type", .str "bool"), ("value", .bool b)]
  | .int t v => .obj [("type", .str t.name), ("value", .int v)]
  | .float32 x => .obj [("type", .str "float32"), ("value", .str (Text.Decimal.ofFloat32 x))]
  | .float64 x => .obj [("type", .str "float64"), ("value", .str (Text.Decimal.ofFloat x))]
  | .str s =>
    match String.fromUTF8? s with
    | some t => .obj [("type", .str "string"), ("value", .str t)]
    | none => .obj [("type", .str "string"), ("hex", .str (Text.Hex.ofBytes s))]
  | .bytes b => .obj [("type", .str "bytes"), ("hex", .str (Text.Hex.ofBytes b))]
  | .gtype g => .obj [("type", .str "gtype"), ("value", .nat g)]
  | .nativeError e => .obj [("type", .str "native_error"), ("domain", .str e.domain),
      ("code", .int e.code), ("quark", .nat e.quark), ("message", .str e.message)]
  | .list xs => .obj [("type", .str "list"),
      ("value", .arr (xs.attach.map fun ⟨x, _⟩ => encodeValue wrappers x))]
  | .slice e xs => .obj [("type", .str ("slice<" ++ e.name ++ ">")),
      ("value", .arr (xs.attach.map fun ⟨x, _⟩ => encodeValue wrappers x))]
  | .enumMember t v => .obj [("type", .str "enum"), ("value", .int v),
      ("string", .str ((t.nameOf? v).getD ""))]
  | .flags t v => .obj [("type", .str "flags"), ("value", .int v),
      ("string", .str (Value.flagsText t v))]
  | .wrapper id kind => wrappers id kind
  | .nilWrapper kind =>
    .obj [("type", .str (if kind == .boxed then "boxed" else "object")), ("nil", .bool true)]
  | other => .obj [("type", .str ("go:" ++ other.typeName))]
termination_by v => sizeOf v
decreasing_by
  all_goals simp_wf
  all_goals (have hm := List.sizeOf_lt_of_mem ‹_›; omega)

/-- The answer form of a failure; joined failures are listed by message. -/
def encodeFailure : Failure → Doc
  | .fault phase kind path host gi detail value cause =>
    .obj [("error", .str kind.name), ("phase", .str phase.name),
      ("message", .str (Failure.fault phase kind path host gi detail value cause).text)]
  | .native e => .obj [("error", .str "native_error"), ("domain", .str e.domain),
      ("code", .int e.code), ("quark", .nat e.quark), ("message", .str e.text)]
  | .joined parts =>
    let sorted := parts.attach.map (fun ⟨p, _⟩ => (p.text, encodeFailure p))
    let sorted := sorted.mergeSort fun a b => decide (a.1 ≤ b.1)
    .obj [("error", .str "joined"), ("errors", .arr (sorted.map (·.2)))]
  | other => .obj [("error", .str "error"), ("message", .str other.text)]
termination_by f => sizeOf f
decreasing_by
  all_goals simp_wf
  all_goals (have hm := List.sizeOf_lt_of_mem ‹_›; omega)

end Introspection.Script
