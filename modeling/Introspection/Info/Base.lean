import Introspection.Repository.Store

/-!
# Infos

An info is a view of one entity of a loaded namespace: a top-level entry, a member of one (a
method, field, property, signal, virtual function, constant, enum value or argument), or a type.
It names the namespace record it reads, its kind and the offset of its blob, and the info it
belongs to. An entry of another namespace is resolved through the repository, which may load
that namespace; an entry that does not resolve stays an unresolved info carrying its name and
namespace.

Infos are read on demand from the typelib of their namespace record, so an info of a closed
namespace reads zeros.
-/

namespace Introspection.Info

open Introspection.Typelib Introspection.Repository

/-- The kind of an info. -/
structure InfoKind where
  code : Nat
  deriving DecidableEq, Repr, Inhabited

namespace InfoKind

def invalid : InfoKind := ⟨0⟩
def function : InfoKind := ⟨1⟩
def callback : InfoKind := ⟨2⟩
def struct : InfoKind := ⟨3⟩
def boxed : InfoKind := ⟨4⟩
def enum : InfoKind := ⟨5⟩
def flags : InfoKind := ⟨6⟩
def object : InfoKind := ⟨7⟩
def interface : InfoKind := ⟨8⟩
def constant : InfoKind := ⟨9⟩
def union : InfoKind := ⟨11⟩
def value : InfoKind := ⟨12⟩
def signal : InfoKind := ⟨13⟩
def vfunc : InfoKind := ⟨14⟩
def property : InfoKind := ⟨15⟩
def field : InfoKind := ⟨16⟩
def arg : InfoKind := ⟨17⟩
def type : InfoKind := ⟨18⟩
def unresolved : InfoKind := ⟨19⟩

def name (k : InfoKind) : String :=
  match k.code with
  | 0 => "invalid" | 1 => "function" | 2 => "callback" | 3 => "struct" | 4 => "boxed"
  | 5 => "enum" | 6 => "flags" | 7 => "object" | 8 => "interface" | 9 => "constant"
  | 11 => "union" | 12 => "value" | 13 => "signal" | 14 => "vfunc" | 15 => "property"
  | 16 => "field" | 17 => "arg" | 18 => "type" | 19 => "unresolved"
  | _ => "unknown"

def isCallable (k : InfoKind) : Bool := k.code == 1 || k.code == 2 || k.code == 13 || k.code == 14

def isRegisteredType (k : InfoKind) : Bool := [3, 4, 5, 6, 7, 8, 11].contains k.code

def ofBlob (b : BlobType) : InfoKind := if b.valid then ⟨b.code⟩ else invalid

theorem ofBlob_invalid : ofBlob .invalid = invalid := rfl

end InfoKind

/-- A view of one entity. -/
structure Info where
  /-- The namespace record the info reads. -/
  space : Nat
  kind : InfoKind
  offset : Nat
  /-- The enclosing entity; none for top-level entities. -/
  container : Option Info := none
  /-- The name of an unresolved entry. -/
  unresolvedName : String := ""
  /-- The namespace of an unresolved entry. -/
  unresolvedSpace : String := ""
  /-- Whether this is a type standing for a field's inline callback. -/
  embedded : Bool := false
  deriving Inhabited

namespace Info

def tl (r : Repository) (i : Info) : Typelib := r.spaceTypelib i.space

def child (i : Info) (kind : InfoKind) (offset : Nat) : Info :=
  { space := i.space, kind, offset, container := some i }

def namespace_ (r : Repository) (i : Info) : String :=
  if i.kind == .unresolved then i.unresolvedSpace else (i.tl r).namespace_

def name (r : Repository) (i : Info) : String :=
  let t := i.tl r
  let c := i.kind.code
  if c == 19 then i.unresolvedName
  else if [1, 2, 3, 4, 5, 6, 7, 8, 9, 11, 12, 13].contains c then t.cstring (t.u32 (i.offset + 4))
  else if [14, 15, 16, 17].contains c then t.cstring (t.u32 i.offset)
  else ""

/-- `Namespace.Name`, prefixed by the container's name for members. -/
def qualifiedName (r : Repository) : Info → String
  | ⟨space, kind, offset, some c, n, ns, e⟩ =>
    if c.kind != .type then qualifiedName r c ++ "." ++ name r ⟨space, kind, offset, some c, n, ns, e⟩
    else namespace_ r ⟨space, kind, offset, some c, n, ns, e⟩ ++ "." ++ name r ⟨space, kind, offset, some c, n, ns, e⟩
  | i => namespace_ r i ++ "." ++ name r i

def text (r : Repository) (i : Info) : String := i.kind.name ++ " " ++ qualifiedName r i

def isDeprecated (r : Repository) (i : Info) : Bool :=
  let t := i.tl r
  let c := i.kind.code
  if [1, 2, 3, 4, 5, 6, 7, 8, 9, 11].contains c then t.u16 (i.offset + 2) % 2 == 1
  else if c == 12 then t.u32 i.offset % 2 == 1
  else if c == 13 then t.u16 i.offset % 2 == 1
  else if c == 15 then t.u32 (i.offset + 4) % 2 == 1
  else false

def attributes (r : Repository) (i : Info) : List (String × String) :=
  if i.kind == .unresolved || i.kind == .type then [] else (i.tl r).attributes i.offset

def attribute? (r : Repository) (i : Info) (name : String) : Option String :=
  (attributes r i).lookup name

def equal (r : Repository) (a b : Info) : Bool :=
  if a.kind == .unresolved || b.kind == .unresolved then
    namespace_ r a == namespace_ r b && name r a == name r b
  else a.space == b.space && a.offset == b.offset && a.kind == b.kind && a.embedded == b.embedded

def members (r : Repository) (i : Info) : Members := (i.tl r).members i.offset

/-- The directory entry at an index of a namespace, resolving entries of other namespaces. -/
def entry (sid index : Nat) : RepoM Info := do
  let r ← get
  match (r.spaceTypelib sid).entryAt? index with
  | none => return { space := sid, kind := .invalid, offset := 0 }
  | some e =>
    if e.isLocal then return { space := sid, kind := .ofBlob e.type, offset := e.offset }
    else
      match ← Repository.resolve e.namespace_ e.name with
      | .ok (sid', de) => return { space := sid', kind := .ofBlob de.type, offset := de.offset }
      | .error _ =>
        return { space := sid, kind := .unresolved, offset := 0, unresolvedName := e.name,
                 unresolvedSpace := e.namespace_ }

def resolveIndex (i : Info) (index : Nat) : RepoM Info := entry i.space index

def nth (sid i : Nat) : RepoM (Except Failure Info) := do
  let r ← get
  let t := r.spaceTypelib sid
  if i ≥ t.nLocal then
    return .error (.outOfBounds .lookup [t.namespace_] i t.nLocal)
  return .ok (← entry sid (i + 1))

def find (sid : Nat) (name : String) : RepoM (Except Failure Info) := do
  let r ← get
  let t := r.spaceTypelib sid
  match t.entryNamed? name with
  | none => return .error (.notFound .lookup "entity" (t.namespace_ ++ "." ++ name))
  | some e => return .ok (← entry sid e.index)

def findByGTypeName (sid : Nat) (name : String) : RepoM (Except Failure Info) := do
  let r ← get
  match (r.spaceTypelib sid).findByGTypeName? name with
  | none => return .error (.notFound .lookup "GType" name)
  | some e => return .ok (← entry sid e.index)

/-! ## Checked casts -/

def mismatch (r : Repository) (i : Info) (want : String) : Failure :=
  .typeMismatch .parse [namespace_ r i, name r i] i.kind.name want

/-- A cast: the info itself when its kind fits, the mismatch otherwise. -/
def cast (r : Repository) (i : Info) (ok : Bool) (want : String) : Except Failure Info :=
  if ok then .ok i else .error (mismatch r i want)

def asCallable (r : Repository) (i : Info) := cast r i i.kind.isCallable "callable"
def asFunction (r : Repository) (i : Info) := cast r i (i.kind == .function) "function"
def asCallback (r : Repository) (i : Info) := cast r i (i.kind == .callback) "callback"
def asSignal (r : Repository) (i : Info) := cast r i (i.kind == .signal) "signal"
def asVFunc (r : Repository) (i : Info) := cast r i (i.kind == .vfunc) "vfunc"
def asRegisteredType (r : Repository) (i : Info) :=
  cast r i i.kind.isRegisteredType "registered type"
def asStruct (r : Repository) (i : Info) :=
  cast r i (i.kind == .struct || i.kind == .boxed) "struct"
def asUnion (r : Repository) (i : Info) := cast r i (i.kind == .union) "union"
def asEnum (r : Repository) (i : Info) := cast r i (i.kind == .enum || i.kind == .flags) "enum"
def asObject (r : Repository) (i : Info) := cast r i (i.kind == .object) "object"
def asInterface (r : Repository) (i : Info) := cast r i (i.kind == .interface) "interface"
def asConstant (r : Repository) (i : Info) := cast r i (i.kind == .constant) "constant"
def asValue (r : Repository) (i : Info) := cast r i (i.kind == .value) "value"
def asProperty (r : Repository) (i : Info) := cast r i (i.kind == .property) "property"
def asField (r : Repository) (i : Info) := cast r i (i.kind == .field) "field"
def asArg (r : Repository) (i : Info) := cast r i (i.kind == .arg) "arg"
def asType (r : Repository) (i : Info) := cast r i (i.kind == .type) "type"

theorem asFunction_ok (r : Repository) (i : Info) (h : i.kind = .function) :
    asFunction r i = .ok i := by
  simp [asFunction, cast, h]

end Info

end Introspection.Info
