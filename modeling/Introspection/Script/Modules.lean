import Introspection.Script.Repo

/-!
# Binding queries in sessions

Session steps may work on the module of a namespace: list and look up its names, describe its
functions, read its constants and enum types, call its functions, require and open further
namespaces, inspect its classes and the wrappers they make, and close the runtime. The
first such step creates the binding runtime over the session's repository, override registry
and finalization registry, with the session's opener when it has one.

A step finds its module in this order: the module an earlier step found for the namespace,
the module the runtime attached itself, and otherwise a new attachment to the session
library; what it finds is kept for later steps. A step may instead attach explicitly to no library or to a library other than the
session's.

Wrappers a step stores are found again by name; a stored value that is not a wrapper answers
itself.
-/

namespace Introspection.Script

open Introspection.Typelib Introspection.Repository Introspection.Info Introspection.Native
  Introspection.Host Introspection.Loaded Introspection.Loaded.Session Introspection.Marshal

def sessionLibrary : Nat := 0

def stepSpace (st : Setup) (step : Doc) : SessionM Nat := do
  match (step.get? "ns").bind Doc.str? with
  | some ns =>
    match (← get).repo.lookup ns with
    | some sid => return sid
    | none => throw (.notFound .lookup "namespace" ns)
  | none =>
    match st.current with
    | some sid => return sid
    | none => throw (.notFound .lookup "namespace" "")

/-- The answer of a step whose value names a missing stored object. -/
def missingObject (name : String) : Doc := .obj [("missing_object", .str name)]

/-- Creates the binding runtime on first use, with the session's opener. -/
def ensureRuntime : SessionM Unit := do
  let s ← get
  if s.runtime.isSome then return
  let canOpen := s.opener.opens
  let rt : Binding.Runtime := { canOpen, defaultRepository := canOpen && s.defaultRepository }
  modify fun s => { s with runtime := some rt }

def otherLibrary : SessionM Nat := do
  match (← get).otherHandle with
  | some h => return h
  | none =>
    let ps ← ptrSize sessionLibrary
    let lib ← addLibrary (Library.create "other" ps 0)
    let h ← addHandle { name := "other", backing := .host lib }
    modify fun s => { s with otherHandle := some h }
    return h

def stepModule (st : Setup) (step : Doc) : SessionM Nat := do
  let sid ← stepSpace st step
  if step.flag "no_library" then return ← Binding.attach hooks sid none
  if step.flag "other_library" then return ← Binding.attach hooks sid (some (← otherLibrary))
  let ns := ((← get).repo.space sid).name
  match (← get).attached.lookup ns with
  | some m => return m
  | none =>
    let m ← match (← Binding.runtime).modules.lookup ns with
      | some m => pure m
      | none => Binding.attach hooks sid (some sessionLibrary)
    modify fun s => { s with attached := (ns, m) :: s.attached }
    return m

/-- The answer naming a definition's kind: replacements by their role. -/
def definitionName : Binding.Definition → String
  | .replacement r =>
    match r.role with
    | .plain => "override_plain"
    | .constructor => "override_ctor"
    | .methods => "override_methods"
    | .callable => "override_callable"
  | d => d.kindName

/-- Stores the first of a step's results under the name the step gives. -/
def storeFirst (step : Doc) (results : List Value) : SessionM Unit := do
  match (step.get? "set").bind Doc.str?, results with
  | some name, v :: _ => storeValue name v
  | _, _ => pure ()

def resultsAnswer (step : Doc) (results : List Value) : SessionM Doc := do
  storeFirst step results
  return .obj [("results", .arr (← results.mapM showValue))]

def outcome (res : Except Failure Unit) : Doc :=
  match res with
  | .ok () => .null
  | .error e => encodeFailure e

/-- The decoded arguments of a step, or the answer naming a missing stored object. -/
def stepArgs (step : Doc) (key : String) : SessionM (Except Doc (List Value)) := do
  match ← decodeValues (step.list key) with
  | .ok vs => return .ok vs
  | .error name => return .error (missingObject name)

/-- The decoded value of a step, or the answer naming a missing stored object. -/
def stepValue (step : Doc) (key : String) : SessionM (Except Doc Value) := do
  match ← decodeValue (step.field key) with
  | .ok v => return .ok v
  | .error name => return .error (missingObject name)

/-! ## Enum types -/

/-- The value of a member name of an enum type; later members win a repeated name. -/
def memberValue? (t : EnumShape) (name : String) : Option Int :=
  let up := Text.upper name
  (t.members.reverse.find? (·.1 == up)).map (·.2)

/-- A raw value checked against an enum type; flags accept any bits. -/
def enumValue (t : EnumShape) (v : Int) : Except Failure Value :=
  if t.isFlags then .ok (.flags t v)
  else if (t.nameOf? v).isSome then .ok (.enumMember t v)
  else .error (.fault .decode .conversion [t.qualifiedName] "" "" "unknown enum value"
    (.int .int64 v) (some (.invalidEnum .decode [] (.int .int64 v) t.qualifiedName)))

/-- The answer describing a flags value: its value, text, covered members and leftover bits,
and whether it has all the bits of a first value. -/
def flagsDoc (t : EnumShape) (first v : Int) : SessionM Doc := do
  let (names, rest) := Value.flagsParts t v
  let bits := Value.bits64 v
  let firstBits := Value.bits64 first
  return .obj [("value", .int v), ("string", .str (Value.flagsText t v)),
    ("names", listOrNull (names.map Doc.str)), ("rest", .int (IntType.int64.wrap rest)),
    ("has_first", .bool (bits &&& firstBits == firstBits))]

def enumAnswer (m : Nat) (step : Doc) : SessionM Doc := do
  let t ← Binding.enumNamed m (step.strD "name")
  let mut values : List Doc := []
  for n in step.list "values" do
    match enumValue t (n.int?.getD 0) with
    | .ok v => values := values ++ [← showValue v]
    | .error e => values := values ++ [encodeFailure e]
  let mut members : List Doc := []
  for d in step.list "members" do
    let name := d.str?.getD ""
    match memberValue? t name with
    | some v =>
      if !t.isFlags then
        members := members ++ [.obj [("enum", ← showValue (.enumMember t v)),
          ("name", .str ((t.nameOf? v).getD ""))]]
      else members := members ++ [.obj [("flag", ← showValue (.flags t v))]]
    | none => members := members ++ [.null]
  let mut out : List (String × Doc) :=
    [("names", .arr (t.members.map fun (n, _) => .str n)), ("flags", .bool t.isFlags),
     ("gtype", .str t.gtypeName), ("qname", .str t.qualifiedName), ("type_name", .str t.name),
     ("values", listOrNull values), ("members", listOrNull members),
     ("zero_enum", .obj [("name", .str ""), ("string", .str "")]),
     ("zero_flags", .obj [("names", .null), ("rest", .nat 0), ("string", .str "0")])]
  if step.has "or" then
    let bits := (step.list "or").map fun d => d.int?.getD 0
    let first := bits.headD 0
    let union : Nat := bits.foldl (fun acc b => acc ||| Value.bits64 b) 0
    let v := IntType.int64.wrap union
    out := out ++ [("or", ← flagsDoc t first v)]
  return .obj out

/-! ## Classes -/

/-- The answer describing a class: its names and kind, its type id name and size, its
interfaces, methods, fields and properties, its module and its parent. -/
def classInfo (c : Nat) : SessionM Doc := do
  let k ← Binding.klass c
  let text ← Binding.classText c
  let q ← Binding.qualifiedName c
  let gtypeName ← Binding.gtypeName c
  let size ← Binding.sizeOf c
  let mut ifaces : List Doc := []
  for i in ← Binding.interfacesOf hooks c do
    ifaces := ifaces ++ [.str (← Binding.qualifiedName i)]
  let methods ← Binding.methodNames hooks c
  let r := (← get).repo
  let fields := (← Binding.fieldsOf c).map fun fi => Doc.str (Info.name r fi)
  let props ← Binding.propertyNames hooks c
  let parent ← match ← Binding.parentOf hooks c with
    | some p => pure [("parent", Doc.str (← Binding.qualifiedName p))]
    | none => pure []
  return .obj ([("string", .str text), ("qname", .str q), ("type_name", .str k.name),
    ("kind", .str k.kind.name), ("gtype_name", .str gtypeName),
    ("instance", .bool k.isInstanceType), ("value", .bool k.isValueType), ("size", .nat size),
    ("interfaces", .arr ifaces), ("methods", .arr (methods.map Doc.str)),
    ("fields", .arr fields), ("properties", listOrNull (props.map Doc.str)),
    ("module", .str (← Binding.module k.module).name)] ++ parent)

def classAnswer (m : Nat) (step : Doc) : SessionM Doc := do
  let c ← Binding.classNamed m (step.strD "name")
  match step.strD "op" with
  | "info" => classInfo c
  | "gtype" => return .obj [("gtype", .nat (← Binding.gtypeOf hooks c))]
  | "method" =>
    match ← Binding.method? hooks c (step.strD "method") with
    | none => return .obj [("found", .bool false)]
    | some (fi, owner) =>
      let typeName := (← Binding.klass owner).name ++ "." ++ Info.name (← get).repo fi
      return .obj [("found", .bool true), ("string", .str (← repoM (Info.describe typeName fi))),
        ("type_name", .str typeName), ("owner", .str (← Binding.qualifiedName owner))]
  | "is_a" =>
    let other ← Binding.classNamed m (step.strD "other")
    return .obj [("is_a", .bool (← Binding.isA hooks c other)), ("nil", .bool false)]
  | "constant" =>
    match ← Binding.classConstant c (step.strD "constant") with
    | some v => return .obj [("found", .bool true), ("value", ← showValue v)]
    | none => return .obj [("found", .bool false)]
  | "new" => resultsAnswer step [← Binding.new hooks c]
  | "new_props" =>
    let mut props : List (String × Value) := []
    match step.field "props" with
    | .obj kvs =>
      for (name, d) in kvs do
        match ← decodeValue d with
        | .ok v => props := props ++ [(name, v)]
        | .error missing => return missingObject missing
    | _ => pure ()
    resultsAnswer step [← Binding.newWithProperties hooks c props]
  | "call" =>
    match ← stepArgs step "args" with
    | .error d => return d
    | .ok args => resultsAnswer step (← Binding.callStatic hooks c (step.strD "method") args)
  | "wrap" =>
    let ptr ← evalExpr hooks sessionLibrary [] (step.field "ptr")
    resultsAnswer step [← Binding.wrap hooks c ptr (step.flag "owned")]
  | other => throw (.plain ("unknown class op " ++ other))

/-! ## Wrappers -/

/-- The generated wrapper a stored value is or holds, or the answer when there is none. -/
def storedWrapper (name : String) : SessionM (Except Doc Nat) := do
  match (← get).objects.lookup name with
  | none => return .error (missingObject name)
  | some v =>
    match ← Binding.generatedOf v with
    | some w => return .ok w
    | none => return .error (.obj [("not_a_wrapper", ← showValue v)])

/-- The answer describing a wrapper: its text, class, address, whether it owns what it stands
for, and the kind of definition its class's name gives in its module. -/
def wrapperInfo (w : Nat) : SessionM Doc := do
  let (c, p, _) ← Binding.nativeOf w
  let k ← Binding.klass c
  let d ← match ← attempt (Binding.lookup k.module k.name) with
    | .ok d => pure (definitionName (← Binding.definition d))
    | .error _ => pure "class"
  return .obj [("string", .str (← Binding.wrapperText w)),
    ("class", .str (← Binding.qualifiedName c)), ("ptr", .nat p),
    ("owned", .bool (← Binding.owned w)), ("definition", .str d)]

def objectAnswer (m : Nat) (step : Doc) : SessionM Doc := do
  match ← storedWrapper (step.strD "obj") with
  | .error d => return d
  | .ok w =>
    let name := step.strD "name"
    match step.strD "op" with
    | "info" => wrapperInfo w
    | "call" =>
      match ← stepArgs step "args" with
      | .error d => return d
      | .ok args => resultsAnswer step (← Binding.callMethod hooks w name args)
    | "field" => resultsAnswer step [← Binding.getField hooks w name]
    | "set_field" =>
      match ← stepValue step "value" with
      | .error d => return d
      | .ok v => return .obj [("result", outcome (← attempt (Binding.setField hooks w name v)))]
    | "release" =>
      let res ← Binding.release hooks w
      return .obj [("result", (res.map encodeFailure).getD .null),
        ("owned", .bool (← Binding.owned w))]
    | "is_a" =>
      let c ← Binding.classNamed m (step.strD "class")
      return .obj [("is_a", .bool (← Binding.isA hooks (← Binding.nativeOf w).1 c))]
    | "copy" => resultsAnswer step [← Binding.copy hooks w]
    | "property" => resultsAnswer step [← Binding.getProperty hooks w name]
    | "set_property" =>
      match ← stepValue step "value" with
      | .error d => return d
      | .ok v => return .obj [("result", outcome (← attempt (Binding.setProperty hooks w name v)))]
    | "connect" | "connect_after" =>
      match ← stepValue step "handler" with
      | .error d => return d
      | .ok fn =>
        let flags := if step.strD "op" == "connect_after" then Binding.connectAfter else 0
        return .obj [("id", .nat (← Binding.connect hooks w name fn flags))]
    | "disconnect" | "block" | "unblock" =>
      let symbol := match step.strD "op" with
        | "disconnect" => "g_signal_handler_disconnect"
        | "block" => "g_signal_handler_block"
        | _ => "g_signal_handler_unblock"
      let id := literal (step.field "id")
      return .obj [("result", outcome (← attempt (Binding.handlerCall hooks w symbol id)))]
    | other => throw (.plain ("unknown object op " ++ other))

/-! ## Module queries -/

/-- The answer naming a required module, its version and the runtime's modules. -/
def requireAnswer (step : Doc) : SessionM Doc := do
  let m ← Binding.require hooks (step.strD "name") (step.strD "version")
  let md ← Binding.module m
  return .obj [("module", .str md.name), ("version", .str md.version),
    ("modules", .arr ((← Binding.runtime).moduleNames.map Doc.str))]

/-- The answer of a late registration on a module's frozen table: registering, resolving and
providing again. -/
def lateOverride (m : Nat) (step : Doc) : SessionM Doc := do
  let name := step.strD "name"
  let md ← Binding.module m
  let some t := md.table | return .obj []
  let base ← Binding.generated? m name
  let r : Binding.Replacement := { typeName := name, base, role := .plain, behaviour := 0 }
  let registered ← attempt (Binding.register t name (some r))
  let resolved ← match ← attempt (Binding.resolve? t name) with
    | .ok (some d) => pure [("resolved", Doc.bool true),
        ("resolved_type", .str (← Binding.typeNameOf (← Binding.definition d)))]
    | _ => pure [("resolved", .bool false)]
  let provided ← provideScript (.obj [("namespace", .str md.name)])
  return .obj ([("register", outcome registered)] ++ resolved ++
    [("provide", (provided.map encodeFailure).getD .null)])

/-- The answer comparing what the runtime and a module use with the session's own. -/
def accessors (m : Nat) : SessionM Doc := do
  let md ← Binding.module m
  let rt ← Binding.runtime
  return .obj [("repository_is_session", .bool !rt.defaultRepository),
    ("repository_is_default", .bool rt.defaultRepository), ("overrides_is_session", .bool true),
    ("finalizer_is_session", .bool true), ("runtime_is_session", .bool true),
    ("has_invoker", .bool true), ("namespace", .str md.name),
    ("library", .str (← handle md.handle).name)]

def moduleQuery (st : Setup) (step : Doc) : SessionM Doc := do
  ensureRuntime
  let query := step.strD "query"
  if query == "open" then return ← requireAnswer step
  if query == "world" then return ← worldDoc
  if query == "close_finalizer" then
    modify fun s => { s with finalizer := s.finalizer.close }
    return .obj [("result", .null), ("live_registrations", .nat (← get).finalizer.size)]
  let m ← stepModule st step
  let name := step.strD "name"
  match query with
  | "names" =>
    let md ← Binding.module m
    return .obj [("names", .arr ((← Binding.names m).map Doc.str)),
      ("string", .str ("module " ++ md.name ++ "-" ++ md.version)), ("version", .str md.version)]
  | "cached" =>
    return .obj [("cached", .arr ((← Binding.cached m).map Doc.str)),
      ("modules", .arr ((← Binding.runtime).moduleNames.map Doc.str))]
  | "lookup" =>
    let d ← Binding.definition (← Binding.lookup m name)
    let md ← Binding.module m
    let (names, frozen) ← match md.table with
      | some t => do
        let tb ← Binding.table t
        pure (tb.names, tb.frozen)
      | none => pure ([], false)
    return .obj [("type_name", .str (← Binding.typeNameOf d)), ("definition", .str (definitionName d)),
      ("overrides", .arr (names.map Doc.str)), ("frozen", .bool frozen)]
  | "describe" =>
    let fi ← Binding.functionNamed m name
    let r := (← get).repo
    return .obj [("string", .str (← repoM (Info.describe name fi))), ("type_name", .str name),
      ("symbol", .str (Info.symbol r fi)), ("is_method", .bool (Info.isMethod r fi)),
      ("is_constructor", .bool (Info.isConstructor r fi)), ("throws", .bool (Info.canThrow r fi))]
  | "constant" => return .obj [("value", ← showValue (← Binding.constantNamed m name))]
  | "enum" => enumAnswer m step
  | "call" =>
    match ← stepArgs step "args" with
    | .error d => return d
    | .ok args => resultsAnswer step (← Binding.call hooks m name args)
  | "require" => requireAnswer step
  | "accessors" => accessors m
  | "late_override" => lateOverride m step
  | "close_runtime" =>
    let res ← Binding.closeRuntime
    return .obj [("result", (res.map encodeFailure).getD .null),
      ("modules", .arr ((← Binding.runtime).moduleNames.map Doc.str))]
  | "class" => classAnswer m step
  | "obj" => objectAnswer m step
  | other => throw (.plain ("unknown module query " ++ other))

end Introspection.Script
