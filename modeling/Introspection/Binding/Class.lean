import Introspection.Binding.Module

/-!
# Classes

A class links to its parent and the interfaces it implements (for an interface: the
interfaces it requires) the first time either is needed; a related type whose namespace has
no module, and cannot get one, is left out. A class *is a* class that it equals, descends
from or implements.

Method resolution walks the class, then its parent chain, then its interfaces, depth first;
at each class a method table replacement comes before the generated methods. Properties and
signals are found the same way without replacements.

The walks follow parent and interface links with no bound of their own and keep no record of
the classes they passed, so on a hierarchy with a cycle they do not end. They are given
`hierarchyDepth` steps, far more than any walk can take; a walk that spends them all reports
`hierarchyEndless`.
-/

namespace Introspection.Binding

open Introspection.Typelib Introspection.Repository Introspection.Info Introspection.Native
  Introspection.Loaded Introspection.Loaded.Session

/-- The steps a walk along the class hierarchy is allowed, far more than any walk takes. -/
def hierarchyDepth : Nat := 2 ^ 64

/-- What a walk along the class hierarchy is taken to give once every step it was allowed is
spent. No walk over a hierarchy without a cycle gets there. -/
def hierarchyEndless : Failure := .plain "binding: class hierarchy walk does not end"

def Class.isInstanceType (c : Class) : Bool := c.kind == .object || c.kind == .interface

def Class.isValueType (c : Class) : Bool := c.kind == .struct || c.kind == .boxed || c.kind == .union

def classOf (hooks : Hooks) (bi : Info) : SessionM Nat := do
  let r := (← get).repo
  if bi.kind == .unresolved then throw (.notFound .lookup "type" (Info.qualifiedName r bi))
  let m ← moduleFor hooks (Info.namespace_ r bi)
  classNamed m (Info.name (← get).repo bi)

/-- The class registered under a runtime type name, in any loaded namespace. -/
def classByGTypeName (hooks : Hooks) (name : String) : SessionM Nat := do
  -- the process-wide repository has no namespace loaded (`findByGTypeName_processRepository`)
  let own := (← get).repo
  let r := if (← runtime).defaultRepository then Repository.processRepository else own
  let (sid, de) ← lift (Repository.findByGTypeName r name)
  classOf hooks { space := sid, kind := .ofBlob de.type, offset := de.offset }

def links (hooks : Hooks) (c : Nat) : SessionM (Option Nat × List Nat) := do
  let k ← klass c
  match k.links with
  | some l => return l
  | none =>
    let link (bi : Info) : SessionM (Option Nat) := do
      return (← attempt (classOf hooks bi)).toOption
    let mut parent : Option Nat := none
    let mut ifaces : List Nat := []
    if k.kind == .object then
      match ← repoM (Info.parentRef k.info) with
      | some p => parent ← link p
      | none => pure ()
      for ib in ← repoM (Info.interfaces k.info) do
        match ← link ib with
        | some ic => ifaces := ifaces ++ [ic]
        | none => pure ()
    else if k.kind == .interface then
      for pb in ← repoM (Info.interfaces k.info) do
        if pb.kind == .interface then
          match ← link pb with
          | some pc => ifaces := ifaces ++ [pc]
          | none => pure ()
    modifyClass c fun k => { k with links := some (parent, ifaces) }
    return (parent, ifaces)

def parentOf (hooks : Hooks) (c : Nat) : SessionM (Option Nat) := do return (← links hooks c).1

def interfacesOf (hooks : Hooks) (c : Nat) : SessionM (List Nat) := do return (← links hooks c).2

def isAUpTo (hooks : Hooks) : Nat → Nat → Nat → SessionM Bool
  | 0, _, _ => throw hierarchyEndless
  | fuel + 1, c, other => do
    if c == other || (← qualifiedName c) == (← qualifiedName other) then return true
    match ← parentOf hooks c with
    | some p => if ← isAUpTo hooks fuel p other then return true
    | none => pure ()
    for i in ← interfacesOf hooks c do
      if ← isAUpTo hooks fuel i other then return true
    return false

def isA (hooks : Hooks) (c other : Nat) : SessionM Bool := isAUpTo hooks hierarchyDepth c other

def gtypeOf (hooks : Hooks) (c : Nat) : SessionM Nat := do
  let k ← klass c
  match k.gtype with
  | some r => lift r
  | none =>
    let r := (← get).repo
    let init := if k.kind.isRegisteredType then Info.typeInit r k.info else ""
    let res ← if init.isEmpty then
        pure (.error (.unsupported .lookup ("GType of unregistered " ++ (← qualifiedName c))))
      else attempt (callSymbol hooks k.module init ⟨[], ← gtypeKind k.module⟩ [])
    modifyClass c fun k => { k with gtype := some res }
    lift res

/-- The registered type name of a class, empty for unregistered types. -/
def gtypeName (c : Nat) : SessionM String := do
  let k ← klass c
  let r := (← get).repo
  return if k.kind.isRegisteredType then Info.typeName r k.info else ""

def sizeOf (c : Nat) : SessionM Nat := do
  let k ← klass c
  let r := (← get).repo
  return if k.isValueType then Info.size r k.info else 0

/-- The alignment of a struct or union class; the pointer size when it records none. -/
def alignmentOf (c : Nat) : SessionM Nat := do
  let k ← klass c
  let r := (← get).repo
  let a := if k.isValueType then Info.alignment r k.info else 0
  if a == 0 then ptrSize (← module k.module).handle else return a

def ownMethod (c : Nat) (name : String) : SessionM (Option Info) := do
  let k ← klass c
  if k.isInstanceType || k.isValueType then return Info.findMethod (← get).repo k.info name
  return none

/-- A method as resolved: a replacement's, or a generated function of an owner class. -/
inductive Resolved where
  | replaced (r : Replacement)
  | generated (fi : Info) (owner : Nat)

/-- Resolves a method name through the operation table with replacements. -/
def resolveUpTo (hooks : Hooks) : Nat → Nat → String → SessionM (Option Resolved)
  | 0, _, _ => throw hierarchyEndless
  | fuel + 1, c, name => do
    let k ← klass c
    match ← replacement? k.module k.name with
    | some r => if r.role == .methods && r.methods.contains name then return some (.replaced r)
    | none => pure ()
    match ← ownMethod c name with
    | some fi => return some (.generated fi c)
    | none => pure ()
    match ← parentOf hooks c with
    | some p =>
      match ← resolveUpTo hooks fuel p name with
      | some m => return some m
      | none => pure ()
    | none => pure ()
    for i in ← interfacesOf hooks c do
      match ← resolveUpTo hooks fuel i name with
      | some m => return some m
      | none => pure ()
    return none

/-- Resolves a method name through the operation table with replacements. -/
def resolveMethod (hooks : Hooks) (c : Nat) (name : String) : SessionM (Option Resolved) :=
  resolveUpTo hooks hierarchyDepth c name

/-- Resolves a method name to a generated function and its owner, ignoring replacements. -/
def methodUpTo (hooks : Hooks) : Nat → Nat → String → SessionM (Option (Info × Nat))
  | 0, _, _ => throw hierarchyEndless
  | fuel + 1, c, name => do
    match ← ownMethod c name with
    | some fi => return some (fi, c)
    | none => pure ()
    match ← parentOf hooks c with
    | some p =>
      match ← methodUpTo hooks fuel p name with
      | some m => return some m
      | none => pure ()
    | none => pure ()
    for i in ← interfacesOf hooks c do
      match ← methodUpTo hooks fuel i name with
      | some m => return some m
      | none => pure ()
    return none

/-- Resolves a method name to a generated function and its owner, ignoring replacements. -/
def method? (hooks : Hooks) (c : Nat) (name : String) : SessionM (Option (Info × Nat)) :=
  methodUpTo hooks hierarchyDepth c name

/-- Every method name the operation table resolves, unsorted and possibly repeated. -/
def methodNamesUpTo (hooks : Hooks) : Nat → Nat → SessionM (List String)
  | 0, _ => throw hierarchyEndless
  | fuel + 1, c => do
    let k ← klass c
    let r := (← get).repo
    let mut out := if k.isInstanceType || k.isValueType then
        (Info.methods r k.info).map (Info.name r) else []
    match ← parentOf hooks c with
    | some p => out := out ++ (← methodNamesUpTo hooks fuel p)
    | none => pure ()
    for i in ← interfacesOf hooks c do
      out := out ++ (← methodNamesUpTo hooks fuel i)
    return out

def methodNames (hooks : Hooks) (c : Nat) : SessionM (List String) := do
  let all ← methodNamesUpTo hooks hierarchyDepth c
  return (all.eraseDups).mergeSort fun a b => decide (a ≤ b)

def classConstant (c : Nat) (name : String) : SessionM (Option Value) := do
  let k ← klass c
  let r := (← get).repo
  let found := if k.kind == .object then Info.findConstant r k.info name
    else if k.kind == .interface then (Info.constants r k.info).find? (Info.name r · == name)
    else none
  return found.map (Info.constantValue r)

def fieldsOf (c : Nat) : SessionM (List Info) := do
  let k ← klass c
  if k.isValueType || k.kind == .object then return Info.fields (← get).repo k.info
  return []

/-- Runs `body` while holding an info and drops the info afterwards, whether `body` succeeded
or failed. -/
def withInfo {α : Type} (i : Info) (body : SessionM α) : SessionM α := do
  let r ← attempt body
  repoM (Repository.dropInfo i.space)
  lift r

/-- Goes through field infos the caller holds, dropping each one before the first named `name`,
which it hands back; with no such field it drops them all. -/
def dropUntil (r : Repository) (name : String) : List Info → SessionM (Option Info)
  | [] => return none
  | f :: rest => do
    if Info.name r f == name then return some f
    repoM (Repository.dropInfo f.space)
    dropUntil r name rest

/-- A field of a class by name, handed to the caller, who drops it. A struct, boxed or union
class finds the field and takes its info alone. An object takes the infos of all its fields and
drops those it passes before the match, so the ones after it stay live. -/
def field? (c : Nat) (name : String) : SessionM (Option Info) := do
  let k ← klass c
  let r := (← get).repo
  if k.kind == .object then
    let fields := Info.fields r k.info
    for f in fields do repoM (Repository.takeInfo f.space)
    return ← dropUntil r name fields
  let found := (← fieldsOf c).find? (Info.name r · == name)
  if let some f := found then repoM (Repository.takeInfo f.space)
  return found

/-- Runs `body` on the field of a class named `name` and drops the field afterwards; `missing`
runs when there is no such field. -/
def withField {α : Type} (c : Nat) (name : String) (missing : SessionM α)
    (body : Info → SessionM α) : SessionM α := do
  match ← field? c name with
  | some fi => withInfo fi (body fi)
  | none => missing

/-- The property names of an object class and its object ancestors, nearest first. -/
def propertyNamesUpTo (hooks : Hooks) : Nat → Nat → List String → SessionM (List String)
  | 0, _, _ => throw hierarchyEndless
  | fuel + 1, c, seen => do
    let k ← klass c
    if k.kind != .object then return seen
    let r := (← get).repo
    let mut seen := seen
    for p in Info.properties r k.info do
      let n := Info.name r p
      if !seen.contains n then seen := seen ++ [n]
    match ← parentOf hooks c with
    | some p => propertyNamesUpTo hooks fuel p seen
    | none => return seen

/-- The property names of an object class and its object ancestors, nearest first. -/
def propertyNames (hooks : Hooks) (c : Nat) : SessionM (List String) :=
  propertyNamesUpTo hooks hierarchyDepth c []

/-- A member found on the class, its parents or its interfaces by a finder. -/
def memberUpTo (hooks : Hooks) (find : Repository → Info → String → Option Info) :
    Nat → Nat → String → SessionM (Option Info)
  | 0, _, _ => throw hierarchyEndless
  | fuel + 1, c, name => do
    let k ← klass c
    if k.isInstanceType then
      match find (← get).repo k.info name with
      | some p => return some p
      | none => pure ()
    match ← parentOf hooks c with
    | some p =>
      match ← memberUpTo hooks find fuel p name with
      | some x => return some x
      | none => pure ()
    | none => pure ()
    for i in ← interfacesOf hooks c do
      match ← memberUpTo hooks find fuel i name with
      | some x => return some x
      | none => pure ()
    return none

/-- The name GObject stores a property or signal under: dashes for underscores. -/
def canonical (name : String) : String := name.replace "_" "-"

/-- A property of a class by its canonical name, then by the name as given. -/
def findProperty (hooks : Hooks) (c : Nat) (name : String) : SessionM Info := do
  match ← memberUpTo hooks Info.findProperty hierarchyDepth c (canonical name) with
  | some p => return p
  | none =>
    match ← memberUpTo hooks Info.findProperty hierarchyDepth c name with
    | some p => return p
    | none => throw (.notFound .lookup "property" ((← qualifiedName c) ++ "." ++ name))

def findSignal (hooks : Hooks) (c : Nat) (name : String) : SessionM (Option Info) :=
  memberUpTo hooks Info.findSignal hierarchyDepth c name

/-- The symbols that take and drop an instance reference: the class's own pair, else its
parent's, else the GObject defaults. -/
def refFunctionsUpTo (hooks : Hooks) : Nat → Nat → SessionM (String × String)
  | fuel, c => do
    let k ← klass c
    let r := (← get).repo
    let mut ref := ""
    let mut unref := ""
    if k.kind == .object then
      ref := Info.refFunction r k.info
      unref := Info.unrefFunction r k.info
      if ref.isEmpty && unref.isEmpty then
        match ← parentOf hooks c with
        | some p =>
          match fuel with
          | 0 => throw hierarchyEndless
          | fuel' + 1 => return ← refFunctionsUpTo hooks fuel' p
        | none => pure ()
    if ref.isEmpty then
      ref := if (← symbol? k.module "g_object_ref_sink").isSome then "g_object_ref_sink"
        else "g_object_ref"
    if unref.isEmpty then unref := "g_object_unref"
    return (ref, unref)

def refFunctions (hooks : Hooks) (c : Nat) : SessionM (String × String) :=
  refFunctionsUpTo hooks hierarchyDepth c

/-- Whether values of a class have a registered copy and free pair. -/
def isBoxed (c : Nat) : SessionM Bool := do
  let k ← klass c
  if k.kind == .boxed then return true
  if !k.isValueType then return false
  let r := (← get).repo
  return !(Info.copyFunction r k.info).isEmpty || !(Info.freeFunction r k.info).isEmpty

def copyFunction (c : Nat) : SessionM String := do
  let k ← klass c
  let r := (← get).repo
  return if k.isValueType then Info.copyFunction r k.info else ""

def freeFunction (c : Nat) : SessionM String := do
  let k ← klass c
  let r := (← get).repo
  return if k.isValueType then Info.freeFunction r k.info else ""

/-- Calls a function of a class, preferring replacement methods; methods need their
receiver as the first argument. -/
def callStatic (hooks : Hooks) (c : Nat) (name : String) (args : List Value) :
    SessionM (List Value) := do
  match ← resolveMethod hooks c name with
  | none => throw (.notFound .lookup "function" ((← qualifiedName c) ++ "." ++ name))
  | some (.replaced r) => hooks.runMethod r name none args
  | some (.generated fi owner) =>
    Invoke.call hooks (← module (← klass owner).module).invoker fi args

end Introspection.Binding
