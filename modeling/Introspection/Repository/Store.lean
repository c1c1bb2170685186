import Introspection.Typelib.Members
import Introspection.Repository.Files
import Introspection.Repository.Version

/-!
# Repositories

A repository is a set of loaded namespaces, each a typelib with the path it came from. `require`
finds `Namespace-Version.typelib` on the search path (the highest version when none is asked
for), loads it, and requires its dependencies; `register` adds a typelib loaded by the caller.
A namespace is visible before its dependencies load, so dependency cycles end. A namespace whose
dependencies fail is taken back out; namespaces loaded on the way stay.

Every typelib and every namespace record the repository ever made is kept, by number: a closed
namespace stays readable (its typelib reads zero) and a typelib may be registered again. Each
namespace counts the infos handed out over it that are still held; a namespace with held infos
refuses to close.
-/

namespace Introspection.Repository

open Introspection.Typelib

/-- The directories the repository searches when none are configured. -/
def defaultSearchPath : List String :=
  ["/usr/lib/girepository-1.0", "/usr/lib64/girepository-1.0",
    "/usr/lib/x86_64-linux-gnu/girepository-1.0", "/usr/lib/aarch64-linux-gnu/girepository-1.0",
    "/usr/local/lib/girepository-1.0", "/opt/homebrew/lib/girepository-1.0"]

/-- One loaded namespace. -/
structure Space where
  name : String
  typelib : Nat
  path : String
  live : Int := 0
  done : Bool := false
  deriving Inhabited

/-- A repository and the typelibs it knows. -/
structure Repository where
  typelibs : Array Typelib := #[]
  spaces : Array Space := #[]
  /-- The loaded namespaces by name, each the number of its record. -/
  loaded : List (String × Nat) := []
  search : List String := []
  files : Files := {}
  closed : Bool := false
  deriving Inhabited

/-- Computations over a repository. -/
abbrev RepoM := StateM Repository

namespace Repository

def typelib (r : Repository) (id : Nat) : Typelib := r.typelibs.getD id default

def space (r : Repository) (sid : Nat) : Space := r.spaces.getD sid default

def spaceTypelib (r : Repository) (sid : Nat) : Typelib := r.typelib (r.space sid).typelib

def addTypelib (t : Typelib) : RepoM Nat := do
  let r ← get
  set { r with typelibs := r.typelibs.push t }
  return r.typelibs.size

def closeTypelib (id : Nat) : RepoM Unit :=
  modify fun r => { r with typelibs := r.typelibs.modify id Typelib.close }

def modifySpace (sid : Nat) (f : Space → Space) : RepoM Unit :=
  modify fun r => { r with spaces := r.spaces.modify sid f }

/-- An accessor handed out a new info of namespace `sid`: one more live info. -/
def takeInfo (sid : Nat) : RepoM Unit := modifySpace sid fun s => { s with live := s.live + 1 }

/-- The last reference to an info of namespace `sid` was dropped: one live info less. -/
def dropInfo (sid : Nat) : RepoM Unit := modifySpace sid fun s => { s with live := s.live - 1 }

def spaceVersion (r : Repository) (sid : Nat) : String := (r.spaceTypelib sid).version

def loadedNames (r : Repository) : List String :=
  (r.loaded.map (·.1)).mergeSort fun a b => decide (a ≤ b)

def lookup (r : Repository) (name : String) : Option Nat := r.loaded.lookup name

def findFile (r : Repository) (ns version : String) : Except Failure String :=
  if !version.isEmpty then
    let name := fileName ns version
    match r.search.find? fun dir => r.files.isFile (joinPath [dir, name]) with
    | some dir => .ok (joinPath [dir, name])
    | none => .error (.notFound .load "typelib" name)
  else
    let pre := ns ++ "-"
    let step := fun (best : Option (String × Version)) (dir : String) =>
      match r.files.readDir? dir with
      | none => best
      | some entries =>
        entries.foldl (fun best (name, isDir) =>
          if isDir || !name.startsWith pre || !name.endsWith ".typelib" then best
          else
            let core := ((name.drop pre.length).dropEnd ".typelib".length).toString
            match Version.parse? core with
            | none => best
            | some v =>
              match best with
              | some (_, bv) => if v.compare bv == .gt then some (joinPath [dir, name], v) else best
              | none => some (joinPath [dir, name], v)) best
    match r.search.foldl step none with
    | some (p, _) => .ok p
    | none => .error (.notFound .load "typelib" ns)

def dependencyFailure (ns dep : String) (cause : Failure) : Failure :=
  .fault .load .notFound [ns, dep] "" "" "dependency unavailable" .null (some cause)

mutual

/-- Adds a namespace for a typelib and requires its dependencies. `fuel` bounds the depth of
dependency chains. -/
def addSpace (fuel : Nat) (tl : Nat) (path : String) : RepoM (Except Failure Nat) := do
  let r ← get
  let t := r.typelib tl
  let sid := r.spaces.size
  set { r with spaces := r.spaces.push { name := t.namespace_, typelib := tl, path },
               loaded := (t.namespace_, sid) :: r.loaded.filter (·.1 != t.namespace_) }
  match fuel with
  | 0 => return .ok sid
  | fuel + 1 => requireDeps fuel tl path sid ((t.dependencies).getD [])

/-- Requires the dependencies of a new namespace in order; on the first failure the namespace is
taken out again. -/
def requireDeps (fuel : Nat) (tl : Nat) (path : String) (sid : Nat) :
    List String → RepoM (Except Failure Nat)
  | [] => return .ok sid
  | dep :: rest => do
    match splitRequirement? dep with
    | none => requireDeps fuel tl path sid rest
    | some (depNs, depVer) =>
      match ← requireIn fuel depNs depVer with
      | .ok _ => requireDeps fuel tl path sid rest
      | .error err =>
        let name := ((← get).typelib tl).namespace_
        modify fun r => { r with loaded := r.loaded.filter (·.1 != name) }
        if !path.isEmpty then closeTypelib tl
        return .error (dependencyFailure name dep err)

def requireIn (fuel : Nat) (ns version : String) : RepoM (Except Failure Nat) := do
  let r ← get
  match r.lookup ns with
  | some sid =>
    let have_ := r.spaceVersion sid
    if !version.isEmpty && version != have_ then
      return .error (.typeMismatch .load [ns] have_ version)
    return .ok sid
  | none =>
    match r.findFile ns version with
    | .error e => return .error e
    | .ok path =>
      let bytes := (r.files.read? path).getD ByteArray.empty
      match Typelib.load bytes with
      | .error e =>
        return .error (.fault .load .malformedTypelib [ns] "" "" ("load " ++ path) .null (some e))
      | .ok t =>
        let tl ← addTypelib t
        if t.namespace_ != ns || (!version.isEmpty && t.version != version) then
          closeTypelib tl
          return .error (.typeMismatch .load [path] (fileName t.namespace_ t.version)
            (fileName ns version))
        addSpace fuel tl path

end

/-- The fuel that bounds dependency chains: one level per file and per loaded namespace. -/
def depthBound (r : Repository) : Nat := r.files.nodes.length + r.loaded.length + 2

/-- Requires a namespace at a version, loading it and its dependencies when needed; an empty
version takes the loaded one or the highest on the search path. -/
def require (ns version : String) : RepoM (Except Failure Nat) := do
  if ns.isEmpty then return .error (.invalidInput .load "empty namespace")
  let r ← get
  if r.closed then return .error (.closed .load "repository")
  requireIn r.depthBound ns version

/-- Adds a typelib the caller loaded; its dependencies are required from the search path. -/
def register (tl : Option Nat) : RepoM (Except Failure Nat) := do
  match tl with
  | none => return .error (.invalidInput .load "nil typelib")
  | some tl =>
    let r ← get
    if r.closed then return .error (.closed .load "repository")
    let t := r.typelib tl
    match r.lookup t.namespace_ with
    | some sid =>
      if (r.space sid).typelib == tl then return .ok sid
      return .error (.fault .load .invalidInput [t.namespace_] "" ""
        ("namespace already loaded at version " ++ r.spaceVersion sid) .null none)
    | none => addSpace r.depthBound tl ""

def findIn (r : Repository) (sid : Nat) (name : String) : Except Failure DirEntry :=
  match (r.spaceTypelib sid).entryNamed? name with
  | some e => .ok e
  | none => .error (.notFound .lookup "entity" ((r.space sid).name ++ "." ++ name))

/-- Resolves an entity of a namespace, requiring the namespace at its highest version. -/
def resolve (ns name : String) : RepoM (Except Failure (Nat × DirEntry)) := do
  match ← require ns "" with
  | .error e => return .error e
  | .ok sid => return (findIn (← get) sid name).map (sid, ·)

/-- The registered type with a GType name, in any loaded namespace. -/
def findByGTypeName (r : Repository) (name : String) : Except Failure (Nat × DirEntry) :=
  match r.loaded.findSome? fun (_, sid) =>
      ((r.spaceTypelib sid).findByGTypeName? name).map (sid, ·) with
  | some hit => .ok hit
  | none => .error (.notFound .lookup "GType" name)

def closeSpace (sid : Nat) : RepoM (Option Failure) := do
  let r ← get
  let s := r.space sid
  if s.done then return none
  if s.live > 0 then
    return some (.fault .runtime .refCount [s.name] "" "" "namespace has live infos"
      (.int .int64 s.live) none)
  modifySpace sid fun s => { s with done := true }
  modify fun r => { r with loaded := r.loaded.filter fun (n, i) => !(n == s.name && i == sid) }
  closeTypelib s.typelib
  return none

/-- Closes every namespace and refuses further loads; the namespaces that refuse are
reported together. -/
def close : RepoM (Option Failure) := do
  modify fun r => { r with closed := true }
  let mut errs : List Failure := []
  for (_, sid) in (← get).loaded do
    match ← closeSpace sid with
    | some e => errs := errs ++ [e]
    | none => pure ()
  return if errs.isEmpty then none else some (.joined errs)

theorem loadedNames_empty : ({} : Repository).loadedNames = [] := by
  simp [loadedNames]

/-- The process-wide repository as this world has it: nothing registered, and the built-in
search path, whose directories hold no file here. -/
def processRepository : Repository := { search := defaultSearchPath }

end Repository

end Introspection.Repository
