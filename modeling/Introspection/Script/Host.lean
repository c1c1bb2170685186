import Introspection.Script.World
import Introspection.Script.Dump

/-!
# Scripted host functions

Scripts give the host library its functions in two forms.

A *typed* function declares host parameter and result types. Its native slots follow from the
types: booleans travel as 32-bit integers, strings and addresses as pointers, `int` as 64 bits.
When called it converts its raw arguments to host values (reading strings from the heap),
records them, and answers one argument converted to the result type, a fixed value, the zero
value, or a failure. A string result is copied onto the heap.

A *raw* function runs a list of actions over its raw arguments and answers an expression.
Expressions read arguments and variables, make strings, blocks and allocations on the heap,
read memory and call function pointers. Actions store, read, free, set variables, call and
note values; what they note is recorded as one event after the call.
-/

namespace Introspection.Script

open Introspection.Typelib Introspection.Repository Introspection.Info Introspection.Native
  Introspection.Host Introspection.Loaded Introspection.Loaded.Session Introspection.Marshal

/-- Parameter and result types of typed host functions. -/
inductive HostType where
  | bool
  | int (t : IntType)
  | float32
  | float64
  | string
  | gtype
  /-- A type the adapter refuses, with its host spelling. -/
  | other (text : String)
  deriving DecidableEq, Repr, Inhabited

namespace HostType

def ofName (s : String) : HostType :=
  match IntType.ofName? s with
  | some t => .int t
  | none =>
    match s with
    | "bool" => .bool
    | "float32" => .float32
    | "float64" => .float64
    | "string" => .string
    | "gtype" => .gtype
    | "any" => .other "interface {}"
    | "map" => .other "map[string]int"
    | "struct" => .other "struct \x7b A int \x7d"
    | name => .other name

def text : HostType → String
  | bool => "bool"
  | int t => t.name
  | float32 => "float32"
  | float64 => "float64"
  | string => "string"
  | gtype => "giruntime.GType"
  | other s => s

def kind? : HostType → Option ValueKind
  | bool => some .i32
  | int .int8 => some .i8
  | int .int16 => some .i16
  | int .int32 => some .i32
  | int .int | int .int64 => some .i64
  | int .uint8 => some .u8
  | int .uint16 => some .u16
  | int .uint32 => some .u32
  | int .uint | int .uint64 => some .u64
  | int .uintptr => some .ptr
  | float32 => some .f32
  | float64 => some .f64
  | string => some .ptr
  | gtype => some .u64
  | other _ => none

def zero : HostType → Value
  | bool => .bool false
  | int t => .int t 0
  | float32 => .float32 0
  | float64 => .float64 0
  | string => .str .empty
  | gtype => .gtype 0
  | other _ => .null

end HostType

def adapterFailure (lib name hostType detail : String) : Failure :=
  .fault .load .unsupported [lib, name] hostType "" detail .null none

def funcTypeText (ctx err : Bool) (params results : List HostType) : String :=
  let ps := (if ctx then ["context.Context"] else []) ++ params.map HostType.text
  let rs := results.map HostType.text ++ (if err then ["error"] else [])
  let tail := match rs with
    | [] => ""
    | [r] => " " ++ r
    | _ => " (" ++ ", ".intercalate rs ++ ")"
  "func(" ++ ", ".intercalate ps ++ ")" ++ tail

def typedSignature (lib : String) (d : Doc) : Except Failure Signature := do
  let name := d.strD "name"
  let params := (d.strings "params").map HostType.ofName
  let results := (d.strings "results").map HostType.ofName
  let mut kinds : List ValueKind := []
  for p in params do
    match p.kind? with
    | some k => kinds := kinds ++ [k]
    | none => throw (adapterFailure lib name p.text "unsupported parameter or result type")
  match results with
  | [] => return ⟨kinds, .void⟩
  | [r] =>
    match r.kind? with
    | some k => return ⟨kinds, k⟩
    | none => throw (adapterFailure lib name r.text "unsupported parameter or result type")
  | _ => throw (adapterFailure lib name (funcTypeText (d.flag "ctx") (d.flag "err") params results)
      "at most one result besides error")

/-- Registers a scripted function in the host library behind a handle and gives its code
address. -/
def registerFunction (h : Nat) (d : Doc) : SessionM Nat := do
  let name := d.strD "name"
  if name.isEmpty then throw (.invalidInput .load "function name cannot be empty")
  let lib ← hostOf h
  let libName := (← library lib).name
  let body := (← get).bodies.size
  let fn : HostFn ← if d.flag "raw" then pure { name, body := .raw body }
    else if d.has "not_func" then
      let v := (decodeHost {} (d.field "not_func")).toOption.getD .null
      throw (.fault .load .typeMismatch [libName, name] v.typeName "" "handler must be a function"
        .null none)
    else
      let sig ← lift (typedSignature libName d)
      pure { name, body := .typed body, params := sig.params, result := sig.result, typed := true }
  modify fun s => { s with bodies := s.bodies.push d }
  let (l, id) := (← library lib).register fn
  modifyLibrary lib fun _ => l
  return (l.fn id).addr

/-! ## Typed functions -/

/-- A raw argument as a host value of a type; strings are read from the heap. -/
def argValue (h : Nat) (t : HostType) (raw : Nat) : SessionM Value := do
  match t with
  | .bool => return .bool (raw % 2 ^ 32 != 0)
  | .int it => return .int it (it.wrap raw)
  | .float32 => return .float32 (Float32.ofBits (raw % 2 ^ 32).toUInt32)
  | .float64 => return .float64 (Float.ofBits raw.toUInt64)
  | .string => if raw == 0 then return .str .empty else return .str (← readCString h raw)
  | .gtype => return .gtype (raw % 2 ^ 64)
  | .other _ => return .null

/-- A host value converted to a type, as a conversion between host types does. -/
def convertTo (t : HostType) (v : Value) : Value :=
  match t, v with
  | .int it, .int _ x => .int it (it.wrap x)
  | .int it, .gtype g => .int it (it.wrap g)
  | .int it, .float64 x => .int it (it.wrap (Value.wholeFloat? x.floor (-1.0e300) 1.0e300 |>.getD 0))
  | .gtype, .int _ x => .gtype (Value.bits64 x)
  | .float64, .int _ x => .float64 (Float.ofInt x)
  | .float64, .float32 x => .float64 x.toFloat
  | .float32, .float64 x => .float32 x.toFloat32
  | .float32, .int _ x => .float32 (Float.ofInt x).toFloat32
  | _, v => v

/-- A fixed result a script gives, read as a value of the result type. -/
def resultOf (t : HostType) (d : Doc) : Value :=
  match t with
  | .bool => .bool (d.bool?.getD false)
  | .int it => .int it (it.wrap (d.int?.getD 0))
  | .float32 => .float32 ((floatOf? d).getD 0).toFloat32
  | .float64 => .float64 ((floatOf? d).getD 0)
  | .string => .str ((d.str?.getD "").toUTF8)
  | .gtype => .gtype ((d.nat?).getD 0)
  | .other _ => .null

def resultRaw (h : Nat) (v : Value) : SessionM Nat := do
  match v with
  | .bool b => return if b then 1 else 0
  | .int _ x => return Value.bits64 x
  | .gtype g => return g
  | .float32 x => return x.toBits.toNat
  | .float64 x => return Value.doubleBits x
  | .str s => writeCString h s
  | _ => return 0

/-- The host values of raw arguments, each read as a value of its parameter type, in order. -/
def argValues (h : Nat) : List HostType → List Nat → SessionM (List Value)
  | t :: ts, a :: as => do
    let v ← argValue h t a
    let vs ← argValues h ts as
    return v :: vs
  | _, _ => return []

/-- The raw result of a typed function whose handler answered a value: a function with one
result converts the value, any other answers 0. -/
def typedResult (h : Nat) (results : List HostType) (v : Value) : SessionM Nat :=
  match results with
  | [_] => resultRaw h v
  | _ => return 0

/-- Runs a handler of host parameter and result types on raw arguments: the arguments are read as
host values of the parameter types, the handler runs on them, and its result is converted back to
a raw one. A failure of the handler is the call's failure. -/
def adaptTyped (h : Nat) (params results : List HostType) (handler : List Value → SessionM Value)
    (args : List Nat) : SessionM Nat := do
  let vals ← argValues h params args
  let v ← handler vals
  typedResult h results v

/-- The handler a script gives a typed function: it records the values it is given, fails when
asked to, and answers one argument converted to the result type, a fixed value, or the zero
value. -/
def scriptHandler (name : String) (d : Doc) (results : List HostType) (vals : List Value) :
    SessionM Value := do
  record (.obj [("typed", .str name), ("args", .arr (vals.map (encodeValue noWrappers)))])
  if d.flag "err" then
    match (d.get? "fail").bind Doc.str? with
    | some msg => throw (.plain msg)
    | none => pure ()
  match results with
  | [t] =>
    return match (d.intAt? "ret_arg") with
      | some i => convertTo t (vals.getD i.toNat (t.zero))
      | none => if d.has "ret" then resultOf t (d.field "ret") else t.zero
  | _ => return .null

def runTyped (h : Nat) (name : String) (d : Doc) (args : List Nat) : SessionM Nat :=
  let results := (d.strings "results").map HostType.ofName
  adaptTyped h ((d.strings "params").map HostType.ofName) results (scriptHandler name d results)
    args

/-! ## Raw functions -/

/-- The signature a script writes as `{"params":[kind..],"result":kind}`. -/
def readSlots (d : Doc) : Signature :=
  let kindOf (s : String) : ValueKind :=
    match s with
    | "i8" => .i8 | "u8" => .u8 | "i16" => .i16 | "u16" => .u16 | "i32" => .i32
    | "u32" => .u32 | "i64" => .i64 | "u64" => .u64 | "f32" => .f32 | "f64" => .f64
    | "ptr" => .ptr | _ => .void
  ⟨(d.strings "params").map kindOf, kindOf (d.strD "result")⟩

def readSlotKind (d : Doc) (key : String) : ValueKind := (readSlots (.obj [("result", d.field key)])).result

/-- A number of an expression: a number, a decimal or `0x` text, or a boolean. -/
def literal (d : Doc) : Nat :=
  match d with
  | .bool b => if b then 1 else 0
  | _ => Value.bits64 (d.int?.getD 0)

/-- The layout of a block of naturally aligned slots: offsets, size and alignment. The size
ends with the last slot; no padding follows it. -/
def blockLayout (ps : Nat) (kinds : List ValueKind) : List Nat × Nat × Nat :=
  let step := fun (acc : List Nat × Nat × Nat) (k : ValueKind) =>
    let (offs, off, al) := acc
    let n := k.size ps
    let a := if n == 0 then 1 else n
    let o := alignUp off a
    (offs ++ [o], o + n, max al a)
  let (offs, size, al) := kinds.foldl step ([], 0, 1)
  (offs, size, al)

/-- The native address of a stored wrapper; zero for anything else. -/
def objectPointer (name : String) : SessionM Nat := do
  let s ← get
  let native (id : Nat) : Option Nat := match (s.wrappers.getD id default).held with
    | .native _ p _ => some p
    | .constructed .. => none
  match s.objects.lookup name with
  | some (.wrapper id _) =>
    match (s.wrappers.getD id default).held with
    | .native _ p _ => return p
    | .constructed _ inner => return (native inner).getD 0
  | _ => return 0

def evalExprUpTo (hooks : Hooks) (h : Nat) (args : List Nat) : Nat → Doc → SessionM Nat
  | 0, _ => pure 0
  | fuel + 1, d => do
    match d with
    | .obj _ =>
      let add := Value.bits64 (d.intD "add" 0)
      if d.has "arg" then
        return (args.getD (d.intD "arg" 0).toNat 0 + add) % 2 ^ 64
      if d.has "var" then
        return (((← var (d.strD "var")).getD 0) + add) % 2 ^ 64
      if d.has "int" then return literal (d.field "int")
      if d.has "f64" then return Value.doubleBits ((floatOf? (d.field "f64")).getD 0)
      if d.has "f32" then return ((floatOf? (d.field "f32")).getD 0).toFloat32.toBits.toNat
      if d.has "str" then return ← writeCString h ((d.strD "str").toUTF8)
      if d.has "alloc" then
        return ← alloc h (literal (d.field "alloc")) ((d.intAt? "align").map Int.toNat |>.getD 8)
      if d.has "bytes" then
        let b := (Text.Hex.toBytes? (d.strD "bytes")).getD .empty
        let addr ← alloc h b.size 8
        write h addr b
        return addr
      if d.has "block" then
        let items := d.list "block"
        let kinds := items.map fun it => readSlotKind (.obj [("k", (it.arr?.getD []).getD 0 .null)]) "k"
        let (offs, size, al) := blockLayout (← ptrSize h) kinds
        let mut vals : List Nat := []
        for it in items do
          vals := vals ++ [← evalExprUpTo hooks h args fuel ((it.arr?.getD []).getD 1 .null)]
        let addr ← alloc h size al
        for ((v, k), off) in (vals.zip kinds).zip offs do
          store h (addr + off) k v
        return addr
      if d.has "deref" then
        let addr ← evalExprUpTo hooks h args fuel (d.field "deref")
        return ← load h addr (readSlotKind d "kind")
      if d.has "instance" then
        return ← newInstance h (← evalExprUpTo hooks h args fuel (d.field "instance"))
      if d.has "refcount" then
        return (← world).refcount (← evalExprUpTo hooks h args fuel (d.field "refcount"))
      if d.has "objptr" then
        return ((← objectPointer (d.strD "objptr")) + add) % 2 ^ 64
      if d.has "emit" then
        let inst ← evalExprUpTo hooks h args fuel (d.field "emit")
        let mut vals : List Nat := []
        for a in d.list "args" do
          vals := vals ++ [← evalExprUpTo hooks h args fuel a]
        return ← emit hooks.call h inst (d.strD "signal") (readSlots (d.field "sig")) vals
      if d.has "call_ptr" then
        let fn ← evalExprUpTo hooks h args fuel (d.field "call_ptr")
        let mut vals : List Nat := []
        for a in d.list "args" do
          vals := vals ++ [← evalExprUpTo hooks h args fuel a]
        return ← callPointer hooks.call h fn (readSlots (d.field "sig")) vals
      return 0
    | other => return literal other

def evalExpr (hooks : Hooks) (h : Nat) (args : List Nat) (d : Doc) : SessionM Nat :=
  evalExprUpTo hooks h args (Doc.depth d + 1) d

def runAction (hooks : Hooks) (h : Nat) (args : List Nat) (a : Doc) : SessionM (Option Doc) := do
  let expr := evalExpr hooks h args
  if a.has "store" then
    let addr ← expr (a.field "store")
    let v ← expr (a.field "value")
    store h addr (readSlotKind a "kind") v
    return none
  if a.has "read" then
    let addr ← expr (a.field "read")
    match ← attempt (load h addr (readSlotKind a "kind")) with
    | .ok v => return some (.nat v)
    | .error e => return some (encodeFailure e)
  if a.has "read_string" then
    let addr ← expr (a.field "read_string")
    match ← attempt (readCString h addr) with
    | .ok s => return some (encodeValue (fun _ _ => .null) (.str s))
    | .error e => return some (encodeFailure e)
  if a.has "read_bytes" then
    let addr ← expr (a.field "read_bytes")
    match ← attempt (read h addr (literal (a.field "len"))) with
    | .ok b => return some (.str (Text.Hex.ofBytes b))
    | .error e => return some (encodeFailure e)
  if a.has "set" then
    setVar (a.strD "set") (← expr (a.field "value"))
    return none
  if a.has "free" then
    free h (← expr (a.field "free"))
    return none
  if a.has "call_ptr" then
    let fn ← expr (a.field "call_ptr")
    let mut vals : List Nat := []
    for x in a.list "args" do
      vals := vals ++ [← expr x]
    match ← attempt (callPointer hooks.call h fn (readSlots (a.field "sig")) vals) with
    | .ok r => return some (.nat r)
    | .error e => return some (encodeFailure e)
  if a.has "note" then return some (.nat (← expr (a.field "note")))
  if a.has "fail" then throw (.plain (a.strD "fail"))
  return none

/-- Runs a raw function: its actions, one event with their notes, then its result. -/
def runRaw (hooks : Hooks) (h : Nat) (d : Doc) (args : List Nat) : SessionM Nat := do
  let mut notes : List Doc := []
  for a in d.list "actions" do
    match ← runAction hooks h args a with
    | some n => notes := notes ++ [n]
    | none => pure ()
  if !notes.isEmpty then record (.obj [("notes", .arr notes)])
  evalExpr hooks h args (d.field "ret")

theorem blockLayout_empty (ps : Nat) : blockLayout ps [] = ([], 0, 1) := by
  simp [blockLayout]

end Introspection.Script
