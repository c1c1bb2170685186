import Introspection.Invoke.Call
import Introspection.Info.Describe
import Introspection.Text.Case

/-!
# Modules, the runtime and the override registry

A module is attached once per namespace. Attaching the same namespace again gives the same
module when the library is the same one, and fails when it is another. The first attach of
a namespace loads its override table: the provided loader runs against a fresh table, which
is frozen when the loader returns; a failing loader leaves an empty frozen table, so the
generated definitions stay usable.

A module makes the definition of a name on first use from the namespace's entry and keeps
it. A replacement registers only when its base is exactly the generated definition of the
name it registers under. Requiring a namespace that no module has yet opens its library
through the runtime's opener and attaches it; the runtime closes the libraries it opened
when it closes.
-/

namespace Introspection.Binding

open Introspection.Typelib Introspection.Repository Introspection.Info Introspection.Native
  Introspection.Loaded Introspection.Loaded.Session

/-! ## Tables -/

def module (id : Nat) : SessionM Module := do return (← get).modules.getD id default

def modifyModule (id : Nat) (f : Module → Module) : SessionM Unit :=
  modify fun s => { s with modules := s.modules.modify id f }

def klass (id : Nat) : SessionM Class := do return (← get).classes.getD id default

def modifyClass (id : Nat) (f : Class → Class) : SessionM Unit :=
  modify fun s => { s with classes := s.classes.modify id f }

def definition (id : Nat) : SessionM Definition := do return (← get).defs.getD id default

def addDefinition (d : Definition) : SessionM Nat :=
  modifyGet fun s => (s.defs.size, { s with defs := s.defs.push d })

def table (id : Nat) : SessionM Table := do return (← get).tables.getD id default

def modifyTable (id : Nat) (f : Table → Table) : SessionM Unit :=
  modify fun s => { s with tables := s.tables.modify id f }

def addTable (t : Table) : SessionM Nat :=
  modifyGet fun s => (s.tables.size, { s with tables := s.tables.push t })

def runtime : SessionM Runtime := do return (← get).runtime.getD {}

def modifyRuntime (f : Runtime → Runtime) : SessionM Unit :=
  modify fun s => { s with runtime := some (f (s.runtime.getD {})) }

/-! ## Definitions -/

/-- The qualified name of a class: its module's namespace and its name. -/
def qualifiedName (c : Nat) : SessionM String := do
  let k ← klass c
  return (← module k.module).name ++ "." ++ k.name

def classText (c : Nat) : SessionM String := do
  return (← klass c).kind.name ++ " " ++ (← qualifiedName c)

/-- The name a definition gives itself: members of a class are `Owner.name`. -/
def typeNameOf (d : Definition) : SessionM String := do
  match d with
  | .klass c => return (← klass c).name
  | .function _ owner fi =>
    let n := Info.name (← get).repo fi
    match owner with
    | some c => return (← klass c).name ++ "." ++ n
    | none => return n
  | .enum shape => return shape.name
  | .constant name _ => return name
  | .replacement r => return r.typeName

/-- The kind a definition is reported as when another kind was wanted. -/
def Definition.kindName : Definition → String
  | .klass _ => "class"
  | .function .. => "function"
  | .enum _ => "enum"
  | .constant .. => "constant"
  | .replacement _ => "override"

/-- The members of an enum or flags type, upper-cased, with the type's names. -/
def enumShape (r : Repository) (e : Info) : EnumShape :=
  { ns := Info.namespace_ r e, name := Info.name r e, gtypeName := Info.typeName r e,
    isFlags := Info.isFlags e,
    members := (Info.values r e).map fun v => (Text.upper (Info.name r v), Info.valueOf r v) }

/-! ## Modules -/

def names (m : Nat) : SessionM (List String) := do
  let sid := (← module m).space
  let n := ((← get).repo.spaceTypelib sid).nLocal
  let mut out : List String := []
  for i in List.range n do
    match ← repoM (Info.nth sid i) with
    | .ok bi => out := out ++ [Info.name (← get).repo bi]
    | .error _ => pure ()
  return out

def build (m : Nat) (bi : Info) : SessionM Definition := do
  let r := (← get).repo
  let k := bi.kind
  if k == .function then return .function m none bi
  if k == .object || k == .interface || k == .struct || k == .boxed || k == .union then
    let c := (← get).classes.size
    let cls : Class := { module := m, info := bi, name := Info.name r bi, kind := k }
    modify fun s => { s with classes := s.classes.push cls }
    return .klass c
  if k == .enum || k == .flags then return .enum (enumShape r bi)
  if k == .constant then return .constant (Info.name r bi) (Info.constantValue r bi)
  throw (.unsupported .lookup (k.name ++ " " ++ Info.qualifiedName r bi))

def entry (m : Nat) (name : String) : SessionM Nat := do
  let md ← module m
  match md.entries.lookup name with
  | some d => return d
  | none =>
    let bi ← repoE (Info.find md.space name)
    let d ← addDefinition (← build m bi)
    modifyModule m fun md => { md with entries := md.entries ++ [(name, d)] }
    return d

def cached (m : Nat) : SessionM (List String) := do
  return ((← module m).entries.map (·.1)).mergeSort fun a b => decide (a ≤ b)

def generated? (m : Nat) (name : String) : SessionM (Option Nat) := do
  return (← attempt (entry m name)).toOption

def replacement? (m : Nat) (name : String) : SessionM (Option Replacement) := do
  match (← module m).table with
  | none => return none
  | some t =>
    match (← table t).lookup? name with
    | some d =>
      match ← definition d with
      | .replacement r => return some r
      | _ => return none
    | none => return none

/-- The definition of a name: its replacement when there is one, else the generated one. -/
def lookup (m : Nat) (name : String) : SessionM Nat := do
  match (← module m).table with
  | some t =>
    match (← table t).lookup? name with
    | some d => return d
    | none => entry m name
  | none => entry m name

/-- The generated definition of a name as a kind; another kind is a mismatch. -/
def entryAs {α : Type} (m : Nat) (name want : String) (pick : Definition → Option α) :
    SessionM α := do
  let d ← definition (← entry m name)
  match pick d with
  | some a => return a
  | none => throw (.typeMismatch .lookup [(← module m).name, name] d.kindName want)

def classNamed (m : Nat) (name : String) : SessionM Nat :=
  entryAs m name "class" fun d => match d with
    | .klass c => some c
    | _ => none

def functionNamed (m : Nat) (name : String) : SessionM Info :=
  entryAs m name "function" fun d => match d with
    | .function _ _ fi => some fi
    | _ => none

def enumNamed (m : Nat) (name : String) : SessionM EnumShape :=
  entryAs m name "enum" fun d => match d with
    | .enum e => some e
    | _ => none

def constantNamed (m : Nat) (name : String) : SessionM Value :=
  entryAs m name "constant" fun d => match d with
    | .constant _ v => some v
    | _ => none

/-- Looks a library symbol up through a module, remembering hits and misses. -/
def symbol? (m : Nat) (name : String) : SessionM (Option Nat) := do
  if name.isEmpty then return none
  let md ← module m
  match md.symbols.lookup name with
  | some r => return r
  | none =>
    let r := (← attempt (lookupSymbol md.handle name)).toOption
    modifyModule m fun md => { md with symbols := (name, r) :: md.symbols }
    return r

def callSymbol (hooks : Hooks) (m : Nat) (name : String) (sig : Signature) (args : List Nat) :
    SessionM Nat := do
  match ← symbol? m name with
  | some fn => callVia hooks.call (← module m).handle fn sig args
  | none => throw (.symbolNotFound name none)

/-- The slot of a type id and of a signal handler id: a pointer-wide unsigned integer. -/
def gtypeKind (m : Nat) : SessionM ValueKind := do
  return if (← ptrSize (← module m).handle) == 4 then .u32 else .u64

def call (hooks : Hooks) (m : Nat) (name : String) (args : List Value) : SessionM (List Value) := do
  match ← replacement? m name with
  | some r => if r.role == .callable then return ← hooks.runCallable r args
  | none => pure ()
  let fi ← functionNamed m name
  Invoke.call hooks (← module m).invoker fi args

/-! ## The override registry -/

/-- Provides the loader of a namespace; a namespace whose table exists refuses. -/
def provide (ns : String) (loader : Nat) : SessionM Unit := do
  if ns.isEmpty then throw (.invalidInput .override "loader needs a namespace and a function")
  let o := (← get).overrides
  if (o.tables.lookup ns).isSome then
    throw (.readOnly .override ("overrides of loaded namespace " ++ ns))
  modify fun s => { s with overrides := { o with
    loaders := (ns, loader) :: o.loaders.filter (·.1 != ns) } }

def loaderFailure (ns : String) (cause : Failure) : Failure :=
  .fault .override .invalidInput [ns] "" "" "override loader failed" .null (some cause)

/-- The table of a namespace, running its loader the first time. A failing loader leaves an
empty frozen table in place of the one it was handed, and only this first load reports its
failure. -/
def loadTable (hooks : Hooks) (ns : String) (m : Option Nat) : SessionM (Nat × Option Failure) := do
  let o := (← get).overrides
  match o.tables.lookup ns with
  | some t => return (t, none)
  | none =>
    let t ← addTable { namespace_ := ns, module := m }
    let keep (t : Nat) : SessionM Nat := do
      modifyTable t fun tb => { tb with frozen := true }
      modify fun s => { s with overrides := { s.overrides with
        tables := s.overrides.tables ++ [(ns, t)] } }
      return t
    match o.loaders.lookup ns with
    | none => return (← keep t, none)
    | some l =>
      match ← hooks.runLoader l t with
      | .ok () => return (← keep t, none)
      | .error e => return (← keep (← addTable { namespace_ := ns, module := m }),
          some (loaderFailure ns e))

def register (t : Nat) (typeName : String) (r : Option Replacement) : SessionM Unit := do
  let some r := r | throw (.invalidInput .override "override needs a type name and a definition")
  if typeName.isEmpty then throw (.invalidInput .override "override needs a type name and a definition")
  let tb ← table t
  if tb.frozen then throw (.readOnly .override ("override table " ++ tb.namespace_))
  let notFound := Failure.notFound .override "generated type" (tb.namespace_ ++ "." ++ typeName)
  let some m := tb.module | throw notFound
  let some gen ← generated? m typeName | throw notFound
  if r.base != some gen then
    let had ← match r.base with
      | some b => typeNameOf (← definition b)
      | none => pure "<nil>"
    throw (.typeMismatch .override [tb.namespace_, typeName] had (← typeNameOf (← definition gen)))
  let d ← addDefinition (.replacement r)
  modifyTable t fun tb => tb.put typeName d

/-- The replacement of a type name in a table, falling back to the generated definition. -/
def resolve? (t : Nat) (typeName : String) : SessionM (Option Nat) := do
  let tb ← table t
  match tb.lookup? typeName with
  | some d => return some d
  | none =>
    match tb.module with
    | some m => generated? m typeName
    | none => return none

/-! ## The runtime -/

/-- Attaches a namespace record to a library handle and gives its module. -/
def attach (hooks : Hooks) (sid : Nat) (h : Option Nat) : SessionM Nat := do
  let some h := h | throw (.invalidInput .load "attach needs a namespace and a library")
  let rt ← runtime
  if rt.closed then throw (.closed .load "binding runtime")
  let r := (← get).repo
  let ns := (r.space sid).name
  match rt.modules.lookup ns with
  | some m =>
    let md ← module m
    if md.handle != h then
      throw (.fault .load .invalidInput [ns] "" ""
        ("namespace already attached to " ++ (← handle md.handle).name) .null none)
    return m
  | none =>
    let m := (← get).modules.size
    let inv ← addInvoker h (some m)
    let md : Module :=
      { space := sid, name := ns, version := r.spaceVersion sid, handle := h, invoker := inv }
    modify fun s => { s with modules := s.modules.push md }
    modifyRuntime fun rt => { rt with modules := rt.modules ++ [(ns, m)] }
    -- a loader's failure is only logged; the module works with the empty table
    let (t, _) ← loadTable hooks ns (some m)
    modifyModule m fun md => { md with table := some t }
    return m

/-- Closes a library handle: a handle sharing another library only records the event. -/
def closeHandle (h : Nat) : SessionM (Option Failure) := do
  let hd ← handle h
  if hd.shared then
    record (.obj [("close_library", .str hd.name)])
    return none
  match hd.backing with
  | .host lib => modifyLibrary lib fun l => { l with closed := true }
  | .guest g => modifyGuest g (·.close)
  return none

def requireSpace (ns version : String) : SessionM Nat := do
  if (← runtime).defaultRepository then
    -- the process-wide repository loads nothing and stays as it is (`require_processRepository`),
    -- so a runtime over it only ever meets its failure
    match ((Repository.require ns version).run Repository.processRepository).1 with
    | .ok _ => throw (.notFound .load "typelib" ns)
    | .error e => throw e
  repoE (Repository.require ns version)

/-- The module of a namespace at a version, opening and attaching its library when no module
has it yet. -/
def require (hooks : Hooks) (ns version : String) : SessionM Nat := do
  match (← runtime).modules.lookup ns with
  | some m =>
    let md ← module m
    if !version.isEmpty && md.version != version then
      throw (.typeMismatch .load [ns] md.version version)
    return m
  | none =>
    let sid ← requireSpace ns version
    if !(← runtime).canOpen then
      throw (.fault .load .notFound [ns] "" "" "no library attached and no opener configured"
        .null none)
    let h ← match ← attempt (hooks.openLibrary sid) with
      | .ok h => pure h
      | .error e => throw (.fault .load .symbolNotFound [ns] "" "" "open shared library" .null (some e))
    match ← attempt (attach hooks sid (some h)) with
    | .error e => discard (closeHandle h); throw e
    | .ok m =>
      if (← module m).handle == h then
        modifyRuntime fun rt => { rt with opened := rt.opened ++ [h] }
      else discard (closeHandle h)
      return m

/-- The module of a namespace, requiring it when the runtime can open libraries. -/
def moduleFor (hooks : Hooks) (ns : String) : SessionM Nat := do
  match (← runtime).modules.lookup ns with
  | some m => return m
  | none =>
    if !(← runtime).canOpen then throw (.notFound .lookup "module" ns)
    require hooks ns ""

/-- Closes the runtime: every module forgets the definitions it made and drops its cached
plans, and the libraries the runtime opened are closed in opening order. Closing again does
nothing. -/
def closeRuntime : SessionM (Option Failure) := do
  let rt ← runtime
  if rt.closed then return none
  modifyRuntime fun rt => { rt with closed := true, modules := [], opened := [] }
  for (_, m) in rt.modules do
    modifyModule m fun md => { md with entries := [] }
    Invoke.releasePlans (← module m).invoker
  let mut errs : List Failure := []
  for h in rt.opened do
    match ← closeHandle h with
    | some e => errs := errs ++ [e]
    | none => pure ()
  return if errs.isEmpty then none else some (.joined errs)

theorem Definition.kindName_klass (c : Nat) : (Definition.klass c).kindName = "class" := rfl

end Introspection.Binding
