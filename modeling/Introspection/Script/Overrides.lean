import Introspection.Binding.Signal
import Introspection.Script.Guest
import Introspection.Guest.Search
import Introspection.Script.Workspace

/-!
# Scripted overrides and libraries

Sessions provide override loaders as documents. A loader registers one replacement per entry
into the table of its namespace, recording each registration, and may fail or panic after
recording that it ran. Each replacement keeps its entry as its behaviour:

* a constructor records the wrapper it is handed and answers it tagged, or fails;
* a method table and a callable record their arguments (and receiver) and answer the values
  the entry lists, or fail.

A session may also give the runtime a way to open the library of a namespace it reaches:
the guest module of the namespace's shared library, found in given directories, or the
scripted opener, which records every request and refuses the namespaces it lists; otherwise
it hands out a library sharing the session library, whose closing is only recorded.

Answers show wrappers by what they stand for: a generated wrapper by its class, address and
whether it still owns what it stands for; a constructed one by its tag and the wrapper it
holds.
-/

namespace Introspection.Script

open Introspection.Typelib Introspection.Repository Introspection.Info Introspection.Native
  Introspection.Host Introspection.Loaded Introspection.Loaded.Session Introspection.Marshal

def wrapperView (s : Session) : WrapperView := fun id _ =>
  let generated (w : Nat) : Doc :=
    let x := s.wrappers.getD w default
    match x.held with
    | .native c p boxed =>
      let k := s.classes.getD c default
      let q := (s.modules.getD k.module default).name ++ "." ++ k.name
      let owned := match x.registration with
        | some r => !s.finalizer.isDone r
        | none => false
      .obj [("type", .str (if boxed then "boxed" else "object")), ("class", .str q),
        ("owned", .bool owned), ("ptr", .nat p)]
    | .constructed .. => .null
  match (s.wrappers.getD id default).held with
  | .native .. => generated id
  | .constructed tag inner =>
    .obj [("type", .str "wrapped"), ("tag", .str tag), ("inner", generated inner)]

def showValue (v : Value) : SessionM Doc := do return encodeValue (wrapperView (← get)) v

/-- The environment script values are decoded in: the session's variables and stored
values. -/
def hostEnv : SessionM HostEnv := do
  let s ← get
  let vars := s.vars
  let address : Doc → Option Nat := fun d =>
    match d with
    | .obj _ =>
      if d.has "var" then some ((vars.lookup (d.strD "var")).getD 0 + Value.bits64 (d.intD "add" 0))
      else none
    | other => some (literal other)
  return { var := fun n => vars.lookup n, stored := fun n => s.objects.lookup n, address }

/-- Decodes a script value; a value naming a missing stored object answers that name. -/
def decodeValue (d : Doc) : SessionM (Except String Value) := do
  match decodeHost (← hostEnv) d with
  | .ok v => return .ok v
  | .error m => return .error m.name

def decodeValues (ds : List Doc) : SessionM (Except String (List Value)) := do
  let mut out : List Value := []
  for d in ds do
    match ← decodeValue d with
    | .ok v => out := out ++ [v]
    | .error m => return .error m
  return .ok out

/-! ## Loaders -/

/-- The role an entry's kind gives its replacement; none for an absent replacement. -/
def roleOf? (kind : String) : Option Binding.Role :=
  match kind with
  | "nil" => none
  | "ctor" => some .constructor
  | "methods" => some .methods
  | "callable" => some .callable
  | _ => some .plain

/-- The replacement an entry describes, registered against a table: its base is the generated
definition of its type unless the entry names another one or none. -/
def replacementOf (t : Nat) (e : Doc) : SessionM (Option Binding.Replacement) := do
  let typeName := e.strD "type"
  let tb ← Binding.table t
  let generated (name : String) : SessionM (Option Nat) := do
    match tb.module with
    | some m => Binding.generated? m name
    | none => return none
  let base ← match e.get? "base" with
    | some (.str "") => pure none
    | some (.str name) => generated name
    | _ => generated typeName
  match roleOf? (e.strD "kind") with
  | none => return none
  | some role =>
    let behaviour := (← get).bodies.size
    modify fun s => { s with bodies := s.bodies.push e }
    let methods := match e.field "methods" with
      | .obj kvs => kvs.map (·.1)
      | _ => []
    return some { typeName := typeName, base := base, role := role, behaviour := behaviour, methods := methods }

/-- Runs the loader scripted for a namespace on its table: records that it ran, registers each
entry and records the outcome, and then fails when the script says so. A panicking loader
registers nothing. -/
def runLoaderScript (l : Nat) (t : Nat) : SessionM (Except Failure Unit) := do
  let d := (← get).bodies.getD l .null
  let tb ← Binding.table t
  record (.obj [("loader", .str (d.strD "namespace")), ("frozen", .bool tb.frozen),
    ("namespace", .str tb.namespace_)])
  if d.flag "panic" then
    return .error (.fault .override .invalidInput [] "" "" "override loader panicked"
      (.ofString "loader panics") none)
  for e in d.list "entries" do
    let typeName := e.strD "type"
    let name := ((e.get? "register_as").bind Doc.str?).getD typeName
    let r ← replacementOf t e
    let tail ← match ← attempt (Binding.register t name r) with
      | .ok () => pure []
      | .error err => pure [("error", encodeFailure err)]
    record (.obj ([("register_override", .str name)] ++ tail))
  if d.has "fail" then return .error (.plain (d.strD "fail"))
  return .ok ()

/-- Provides the loader of an override document; what refuses it is returned. -/
def provideScript (d : Doc) : SessionM (Option Failure) := do
  let l := (← get).bodies.size
  modify fun s => { s with bodies := s.bodies.push d }
  match ← attempt (Binding.provide (d.strD "namespace") l) with
  | .ok () => return none
  | .error e => return some e

/-! ## Replacements -/

def answerOf (spec : Doc) : SessionM (List Value) := do
  if spec.has "fail" then throw (.plain (spec.strD "fail"))
  match ← decodeValues (spec.list "ret") with
  | .ok vs => return vs
  | .error name => throw (.plain ("missing object " ++ name))

/-- Runs a constructor replacement on a generated wrapper: it records the wrapper and answers
it tagged. -/
def constructScript (r : Binding.Replacement) (v : Value) : SessionM Value := do
  let e := (← get).bodies.getD r.behaviour .null
  record (.obj [("construct", ← showValue v)])
  if e.has "fail" then throw (.plain (e.strD "fail"))
  match ← Binding.generatedOf v with
  | some inner =>
    let w ← Binding.addWrapper (.constructed (e.strD "tag") inner)
    return .wrapper w .constructed
  | none => return v

def methodScript (r : Binding.Replacement) (name : String) (self : Option Value)
    (args : List Value) : SessionM (List Value) := do
  let e := (← get).bodies.getD r.behaviour .null
  let shown ← args.mapM showValue
  record (.obj [("override", .str ("method:" ++ name)), ("args", .arr shown),
    ("self", ← showValue (self.getD .null))])
  answerOf ((e.field "methods").field name)

def callableScript (r : Binding.Replacement) (args : List Value) : SessionM (List Value) := do
  let e := (← get).bodies.getD r.behaviour .null
  let shown ← args.mapM showValue
  record (.obj [("override", .str ("callable:" ++ r.typeName)), ("args", .arr shown)])
  answerOf e

/-! ## Opening libraries -/

/-- Opens the guest module of a namespace's shared libraries found in directories. -/
def openGuest (sid : Nat) (config : Guest.Config) (dirs : List String) : SessionM Nat := do
  let r := (← get).repo
  let ns := (r.space sid).name
  let libs := ((r.typelib (r.space sid).typelib).sharedLibraries).getD []
  let (name, bytes) ← lift (Guest.findModule r.files ns libs dirs)
  let g ← lift (Guest.GuestLib.open name bytes config)
  let id ← addGuest g
  addHandle { name, backing := .guest id }

/-- The paths tried for a shared library: an absolute path alone, otherwise the library in
each directory where something by that name exists, then the bare name for the loader. -/
def sharedCandidates (files : Files) (so : String) (dirs : List String) : List String :=
  if so.startsWith "/" then [so]
  else (dirs.filterMap fun d =>
    let p := joinPath [d, so]
    (files.node? p).map fun _ => p) ++ [so]

/-- Loads a shared object of the system as a library, or gives the loader's refusal. -/
def loadShared (path : String) : SessionM Nat := do
  match Native.SharedObject.load (← get).repo.files path with
  | .ok o =>
    let lib ← addLibrary (Library.openShared o path)
    addHandle { name := path, backing := .host lib }
  | .error msg => throw (.loadFailed ("dlopen " ++ path) (some (.plain msg)))

/-- Opens the first shared library of a namespace that loads, trying each in the directories
and then by name. -/
def openSystem (sid : Nat) (dirs : List String) : SessionM Nat := do
  let r := (← get).repo
  let ns := (r.space sid).name
  let libs := ((r.typelib (r.space sid).typelib).sharedLibraries).getD []
  if libs.isEmpty then throw (.notFound .load "shared library" ns)
  let mut errs : List Failure := []
  for so in libs do
    for path in sharedCandidates r.files so dirs do
      match ← attempt (loadShared path) with
      | .ok h => return h
      | .error e => errs := errs ++ [e]
  throw (.fault .load .notFound [ns] "" "" ("no loadable library among " ++ ", ".intercalate libs)
    .null (some (.joined errs)))

/-- Opens the library of a namespace record as the session's opener says: the guest module
of its shared library, the first of its shared libraries the system loads, or, with the
recording opener, after recording the request, a traced handle sharing the session library
unless the namespace is refused. -/
def openScript (sid : Nat) : SessionM Nat := do
  match (← get).opener with
  | .guest config dirs => openGuest sid config dirs
  | .system dirs => openSystem sid dirs
  | .none => throw (.plain "no opener")
  | .recorded refused =>
    let ns := ((← get).repo.space sid).name
    record (.obj [("open_library", .str ns)])
    if refused.contains ns then throw (.plain ("cannot open " ++ ns))
    let lib ← hostOf 0
    addHandle { name := "lib" ++ ns, backing := .host lib, traced := true, shared := true }

end Introspection.Script
