import Introspection.Script.Dump

/-!
# Probes of entities

A probe looks at an entity through every checked view: for each view, whether the entity
fits it or the mismatch it reports, both for the casts that answer a failure and for those that
stop the program. It adds the same table for the first member of each kind the entity has, the
entity's identity against a fresh lookup and its neighbour, named attributes, and the members
the finders of its kind locate by name.
-/

namespace Introspection.Script

open Introspection.Typelib Introspection.Repository Introspection.Info Introspection.Info.Info

/-- The checked views a probe tries, by the name it reports them under. -/
def castViews : List (String × (Repository → Info → Except Failure Info)) :=
  [("callable", asCallable), ("function", asFunction), ("callback", asCallback),
    ("signal", asSignal), ("vfunc", asVFunc), ("registered", asRegisteredType),
    ("struct", asStruct), ("union", asUnion), ("enum", asEnum), ("object", asObject),
    ("interface", asInterface), ("constant", asConstant), ("value", asValue),
    ("property", asProperty), ("field", asField), ("arg", asArg), ("type", asType)]

def stoppingViews : List String :=
  ["callable", "function", "callback", "struct", "union", "enum", "object", "interface",
    "constant"]

/-- Whether a view fits, or the failure it reports, marked as stopping when it stops. -/
def castDoc (stops : Bool) : Except Failure Info → Doc
  | .ok _ => .bool true
  | .error f => if stops then (encodeFailure f).set "panic" (.bool true) else encodeFailure f

def castsDoc (r : Repository) (i : Info) : List (String × Doc) :=
  [("kind", .str i.kind.name), ("string", .str (text r i)), ("qname", .str (qualifiedName r i)),
    ("refcount", .nat 1), ("equal_self", .bool (equal r i i)), ("equal_nil", .bool false),
    ("as", .obj (castViews.map fun (n, f) => (n, castDoc false (f r i)))),
    ("must", .obj (castViews.filterMap fun (n, f) =>
      if stoppingViews.contains n then some (n, castDoc true (f r i)) else none))]

/-- The first member of each kind an entity has, by the name the probe reports it under. -/
def firstMembers (r : Repository) (i : Info) : List (String × Info) :=
  let first (xs : List Info) (key : String) : List (String × Info) :=
    match xs with
    | x :: _ => [(key, x)]
    | [] => []
  let k := i.kind
  if k == .function || k == .callback then
    let a := Info.args r i
    (match a with
      | x :: _ => [("arg_type", argType x), ("arg", x)]
      | [] => []) ++ [("return_type", returnType r i)]
  else if k == .object then
    first (properties r i) "property" ++ first (signals r i) "signal" ++
      first (vfuncs r i) "vfunc" ++ first (constants r i) "constant" ++ first (Info.fields r i) "field"
  else if k == .struct || k == .boxed || k == .union then first (Info.fields r i) "field"
  else if k == .enum || k == .flags then first (values r i) "value"
  else []

def finders (k : InfoKind) : List (String × (Repository → Info → String → Option Info)) :=
  if k == .object then
    [("method", findMethod), ("property", findProperty), ("signal", findSignal),
      ("vfunc", findVFunc), ("constant", findConstant)]
  else if k == .interface then
    [("method", findMethod), ("property", findProperty), ("signal", findSignal),
      ("vfunc", findVFunc)]
  else if k == .struct || k == .boxed || k == .union then
    [("method", findMethod), ("field", findField)]
  else if k == .enum || k == .flags then [("method", findMethod), ("value", findValue)]
  else []

/-- The probe of the local entity `i` of a namespace, with the entity after it if any. -/
def probeDoc (sid : Nat) (i : Info) (next : Option Info) (attrs members : List String) :
    RepoM Doc := do
  let found ← Info.find sid (name (← get) i)
  let r ← get
  let equalFind := match found with
    | .ok f => equal r i f
    | .error _ => false
  let memberDocs := (firstMembers r i).map fun (key, m) => (key, Doc.obj (castsDoc r m))
  let findDoc := members.map fun n =>
    (n, Doc.obj ((finders i.kind).map fun (key, f) =>
      (key, match f r i n with
        | some m => .str (qualifiedName r m)
        | none => .bool false)))
  return .obj (castsDoc r i ++
    [("members", .obj memberDocs), ("equal_find", .bool equalFind), ("refcount_while_found", .nat 1)]
    ++ (match next with
      | some n => [("equal_next", .bool (equal r i n))]
      | none => [])
    ++ [("attrs", .obj (attrs.map fun a => (a, Doc.ofOption .str (attribute? r i a)))),
      ("find", .obj findDoc)])

end Introspection.Script
