import Introspection.Script.Values
import Introspection.Info.Describe
import Introspection.Marshal.Slot

/-!
# Documents of entities

The document of an entity carries its kind, name, qualified name, namespace and offset, its
deprecation flag and attributes when present, and then the facts of its kind: signatures for
callables, layout and members for structs and unions, values for enums, hierarchy and members
for objects and interfaces, flags and accessors for properties, and type and stored value for
constants. A type's document gives its text, tag, pointer flag, referenced entity, array shape,
parameter types, call slot and element size.

Looking at an entity may resolve entries of other namespaces, so documents are built in the
repository's state.
-/

namespace Introspection.Script

open Introspection.Typelib Introspection.Repository Introspection.Info Introspection.Info.Info
  Introspection.Marshal

def noWrappers : WrapperView := fun _ _ => .null

def refDoc (r : Repository) (i : Info) : Doc :=
  .obj [("kind", .str i.kind.name), ("qname", .str (qualifiedName r i))]

def namedRefDoc (r : Repository) (i : Info) : List (String × Doc) :=
  [("kind", .str i.kind.name), ("name", .str (name r i)), ("namespace", .str (namespace_ r i))]

def baseDoc (r : Repository) (i : Info) : List (String × Doc) :=
  let attrs := attributes r i
  [("kind", .str i.kind.name), ("name", .str (name r i)), ("qname", .str (qualifiedName r i)),
    ("namespace", .str (namespace_ r i)), ("offset", .nat i.offset)]
  ++ (if isDeprecated r i then [("deprecated", .bool true)] else [])
  ++ (if attrs.isEmpty then [] else
      [("attributes", .arr (attrs.map fun (k, v) => .arr [.str k, .str v]))])

def nameEntry (r : Repository) (key : String) : Option Info → List (String × Doc)
  | some i => [(key, .str (name r i))]
  | none => []

def listOrNull (xs : List Doc) : Doc := if xs.isEmpty then .nilList else .arr xs

mutual

/-- The document of a type, following nested types at most `fuel` levels deep. -/
def typeDocUpTo : Nat → Info → RepoM Doc
  | 0, _ => pure .null
  | fuel + 1, ti => do
    let text ← typeString ti
    let r ← get
    let tag := Info.tag r ti
    let mut out : List (String × Doc) :=
      [("string", .str text), ("tag", .str tag.name), ("pointer", .bool (isPointer r ti))]
    match ← typeInterface ti with
    | some iface =>
      let r ← get
      let callable ← if ti.embedded then do
          pure [("callable", .obj (← callableDocUpTo fuel iface))]
        else pure []
      out := out ++ [("interface", .obj (namedRefDoc r iface ++ callable))]
    | none => pure ()
    let r ← get
    if tag == .array then
      out := out ++ [("array_type", .str (arrayTypeName (arrayType r ti))),
        ("length", .int (arrayLength r ti)), ("fixed_size", .int (arrayFixedSize r ti)),
        ("zero_terminated", .bool (isZeroTerminated r ti))]
    let n := nParams r ti
    if n > 0 then
      let mut params : List Doc := []
      for k in List.range n do
        match paramType (← get) ti k with
        | some p => params := params ++ [← typeDocUpTo fuel p]
        | none => pure ()
      out := out ++ [("params", .arr params)]
    match ← slotKind ti with
    | .ok k => out := out ++ [("slot", .str k.name)]
    | .error f => out := out ++ [("slot", encodeFailure f)]
    match ← elementSize ti 8 with
    | .ok n => out := out ++ [("elem_size", .nat n)]
    | .error _ => pure ()
    return .obj out

def argDocUpTo : Nat → Info → RepoM Doc
  | 0, _ => pure .null
  | fuel + 1, a => do
    let r ← get
    let ty ← typeDocUpTo fuel (argType a)
    return .obj [("name", .str (name r a)), ("qname", .str (qualifiedName r a)),
      ("dir", .str (direction r a).name), ("transfer", .str (argTransfer r a).name),
      ("nullable", .bool (mayBeNull r a)), ("optional", .bool (isOptional r a)),
      ("caller_allocates", .bool (isCallerAllocates r a)),
      ("return_value", .bool (isReturnValue r a)), ("skip", .bool (isSkip r a)),
      ("scope", .str (scopeName (scope r a))), ("closure", .int (closure r a)),
      ("destroy", .int (destroy r a)), ("type", ty)]

/-- The document of a callable: its signature and the facts of its kind. -/
def callableDocUpTo : Nat → Info → RepoM (List (String × Doc))
  | 0, _ => pure []
  | fuel + 1, c => do
    let r ← get
    let mut args : List Doc := []
    for a in Info.args r c do
      args := args ++ [← argDocUpTo fuel a]
    let described ← describe (name (← get) c) c
    let ret ← typeDocUpTo fuel (returnType (← get) c)
    let r ← get
    let common := baseDoc r c ++
      [("args", listOrNull args), ("describe", .str described),
        ("is_method", .bool (isMethod r c)), ("throws", .bool (canThrow r c)),
        ("may_return_null", .bool (mayReturnNull r c)), ("skip_return", .bool (skipReturn r c)),
        ("return_transfer", .str (returnTransfer r c).name),
        ("instance_transfer", .str (instanceTransfer r c).name), ("return", ret)]
    if c.kind == .function then
      return common ++ [("symbol", .str (symbol r c)), ("flags", .nat (functionFlags r c)),
        ("is_constructor", .bool (isConstructor r c))]
        ++ nameEntry r "property" (functionProperty r c) ++ nameEntry r "vfunc" (functionVFunc r c)
    else if c.kind == .signal then
      return common ++ [("flags", .nat (signalFlags r c)),
        ("true_stops_emit", .bool (trueStopsEmit r c))]
        ++ nameEntry r "class_closure" (classClosure r c)
    else if c.kind == .vfunc then
      return common ++ [("flags", .nat (vfuncFlags r c)), ("struct_offset", .nat (structOffset r c))]
        ++ nameEntry r "signal" (vfuncSignal r c) ++ nameEntry r "invoker" (invoker r c)
    else return common

end

/-- The depth bound of an entity's nested documents: its image size. -/
def docFuel (r : Repository) (i : Info) : Nat := (i.tl r).size + 4

def typeDoc (ti : Info) : RepoM Doc := do typeDocUpTo (docFuel (← get) ti) ti

def callableDoc (c : Info) : RepoM Doc := do
  return .obj (← callableDocUpTo (docFuel (← get) c) c)

def docsOf (f : Info → RepoM Doc) (xs : List Info) : RepoM (List Doc) := xs.mapM f

def fieldDoc (f : Info) : RepoM Doc := do
  let r ← get
  let ty ← typeDoc (fieldType r f)
  return .obj (baseDoc r f ++
    [("readable", .bool (isReadable r f)), ("writable", .bool (isWritable r f)),
      ("bits", .nat (fieldBits r f)), ("byte_offset", .nat (fieldOffset r f)),
      ("bit_offset", .nat (fieldOffset r f * 8)), ("type", ty)])

def constantDoc (c : Info) : RepoM Doc := do
  let r ← get
  let ty ← typeDoc (constantType c)
  let r' ← get
  return .obj (baseDoc r c ++
    [("type", ty), ("bytes", .str (Text.Hex.ofBytes ((constantBytes r' c).getD .empty))),
      ("value", encodeValue noWrappers (constantValue r' c))])

def valueDoc (r : Repository) (v : Info) : Doc := .obj (baseDoc r v ++ [("value", .int (valueOf r v))])

def propertyDoc (p : Info) : RepoM Doc := do
  let ty ← typeDoc (propertyType p)
  let r ← get
  return .obj (baseDoc r p ++
    [("flags", .nat (propertyFlags r p)), ("transfer", .str (propertyTransfer r p).name),
      ("type", ty)] ++ nameEntry r "getter" (getter r p) ++ nameEntry r "setter" (setter r p))

def registeredDoc (r : Repository) (i : Info) : List (String × Doc) :=
  [("type_name", .str (typeName r i)), ("type_init", .str (typeInit r i)),
    ("registered", .bool (isRegistered r i))]

def compoundDoc (i : Info) : RepoM Doc := do
  let r ← get
  let fields ← docsOf fieldDoc (Info.fields r i)
  let methods ← docsOf callableDoc (methods (← get) i)
  let r ← get
  let common := baseDoc r i ++ registeredDoc r i ++
    [("size", .nat (size r i)), ("alignment", .nat (alignment r i)),
      ("copy_func", .str (copyFunction r i)), ("free_func", .str (freeFunction r i)),
      ("fields", .arr fields), ("methods", .arr methods)]
  if i.kind == .union then
    let disc ← match discriminatorType r i with
      | some t => do
        let ty ← typeDoc t
        let ds ← docsOf constantDoc (discriminators (← get) i)
        pure [("discriminator_type", ty), ("discriminators", .arr ds)]
      | none => pure []
    return .obj (common ++ [("discriminated", .bool (isDiscriminated r i)),
      ("discriminator_offset", .int (discriminatorOffset r i))] ++ disc)
  return .obj (common ++ [("is_boxed", .bool (isBoxed i)), ("gtype_struct", .bool (isGTypeStruct r i)),
    ("foreign", .bool (isForeign r i))])

def enumDoc (i : Info) : RepoM Doc := do
  let methods ← docsOf callableDoc (methods (← get) i)
  let r ← get
  return .obj (baseDoc r i ++ registeredDoc r i ++
    [("is_flags", .bool (isFlags i)), ("storage", .str (storageType r i).name),
      ("error_domain", .str (errorDomain r i)),
      ("values", .arr ((values r i).map (valueDoc r))), ("methods", .arr methods)])

def classMembersDoc (i : Info) : RepoM (List (String × Doc)) := do
  let properties ← docsOf propertyDoc (properties (← get) i)
  let methods ← docsOf callableDoc (methods (← get) i)
  let signals ← docsOf callableDoc (signals (← get) i)
  let vfuncs ← docsOf callableDoc (vfuncs (← get) i)
  let constants ← docsOf constantDoc (constants (← get) i)
  return [("properties", .arr properties), ("methods", .arr methods), ("signals", .arr signals),
    ("vfuncs", .arr vfuncs), ("constants", .arr constants)]

def objectDoc (i : Info) : RepoM Doc := do
  let parentRef ← parentRef i
  let parent ← parent i
  let classStruct ← classStruct i
  let ifaces ← interfaces i
  let fields ← docsOf fieldDoc (Info.fields (← get) i)
  let members ← classMembersDoc i
  let r ← get
  return .obj (baseDoc r i ++ registeredDoc r i ++
    [("abstract", .bool (isAbstract r i)), ("fundamental", .bool (isFundamental r i)),
      ("final", .bool (isFinal r i))]
    ++ (match parentRef with
      | some p => [("parent_ref", refDoc r p)]
      | none => [])
    ++ (match parent with
      | some p => [("parent", .str (qualifiedName r p))]
      | none => [])
    ++ nameEntry r "class_struct" classStruct ++
    [("ref_func", .str (refFunction r i)), ("unref_func", .str (unrefFunction r i)),
      ("set_value_func", .str (setValueFunction r i)),
      ("get_value_func", .str (getValueFunction r i)),
      ("interfaces", .arr (ifaces.map (refDoc r))), ("fields", .arr fields)] ++ members)

def interfaceDoc (i : Info) : RepoM Doc := do
  let ifaceStruct ← ifaceStruct i
  let prereqs ← interfaces i
  let members ← classMembersDoc i
  let r ← get
  return .obj (baseDoc r i ++ registeredDoc r i ++ nameEntry r "iface_struct" ifaceStruct ++
    [("prerequisites", .arr (prereqs.map (refDoc r)))] ++ members)

def infoDoc (i : Info) : RepoM Doc := do
  let k := i.kind
  if k.isCallable then callableDoc i
  else if k == .struct || k == .boxed || k == .union then compoundDoc i
  else if k == .enum || k == .flags then enumDoc i
  else if k == .object then objectDoc i
  else if k == .interface then interfaceDoc i
  else if k == .constant then constantDoc i
  else if k == .property then propertyDoc i
  else if k == .field then fieldDoc i
  else if k == .value then return valueDoc (← get) i
  else if k == .unresolved then return refDoc (← get) i
  else return .obj (baseDoc (← get) i)

end Introspection.Script
