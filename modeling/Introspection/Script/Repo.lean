import Introspection.Script.Machine
import Introspection.Script.Loading

/-!
# Repository queries in sessions

Session steps may query the session's repository: require, look up and list namespaces,
resolve entities (optionally holding the reference), find registered types by GType name,
close single namespaces or the whole repository, register typelibs again, and list a
namespace as the `typelib` operation does. A namespace is reported by its name, version,
file, number of local entries, live references, dependencies and shared libraries.
-/

namespace Introspection.Script

open Introspection.Typelib Introspection.Repository Introspection.Info Introspection.Loaded
  Introspection.Loaded.Session

/-- What a session knows of its setup: the typelib and namespace of each namespace document
that loaded, in order, and whether lists never made are written empty. -/
structure Setup where
  loaded : List (Nat × Nat) := []
  /-- The namespace steps use unless they name one. -/
  current : Option Nat := none

def namespaceReport (sid : Nat) : SessionM (List (String × Doc)) := do
  let r := (← get).repo
  let s := r.space sid
  let t := r.typelib s.typelib
  return [("name", .str s.name), ("version", .str t.version), ("path", .str s.path),
    ("len", .nat t.nLocal), ("live", .int s.live),
    ("dependencies", (t.dependencies.map Doc.ofStrings).getD .nilList),
    ("shared_libraries", (t.sharedLibraries.map Doc.ofStrings).getD .nilList)]

def entryReport (sid : Nat) (e : DirEntry) : SessionM Doc := do
  let ns := ((← get).repo.space sid).name
  return .obj [("qname", .str (ns ++ "." ++ e.name)), ("kind", .str (InfoKind.ofBlob e.type).name),
    ("namespace", .str ns)]

/-- Registers a typelib and reports the namespace, and whether it is one loaded at setup. -/
def registerReport (st : Setup) (tl : Option Nat) : SessionM Doc := do
  let sid ← repoE (Repository.register tl)
  let same := st.loaded.any (·.2 == sid)
  return .obj ((← namespaceReport sid) ++ [("same", .bool same)])

def repoQuery (st : Setup) (q : Doc) : SessionM Doc := do
  let ns := q.strD "namespace"
  match q.strD "query" with
  | "require" =>
    let sid ← repoE (Repository.require ns (q.strD "version"))
    return .obj (← namespaceReport sid)
  | "namespace" =>
    match (← get).repo.lookup ns with
    | some sid => return .obj ((← namespaceReport sid) ++ [("found", .bool true)])
    | none => return .obj [("found", .bool false)]
  | "loaded" =>
    let r := (← get).repo
    return .obj [("loaded", Doc.ofStrings r.loadedNames), ("search_path", listOrNull (r.search.map Doc.str))]
  | "resolve" =>
    let (sid, e) ← repoE (Repository.resolve ns (q.strD "name"))
    entryReport sid e
  | "hold" =>
    let (sid, e) ← repoE (Repository.resolve ns (q.strD "name"))
    repoM (Repository.takeInfo sid)
    modify fun s => { s with held := s.held ++ [sid] }
    entryReport sid e
  | "unhold" =>
    let held := (← get).held
    for sid in held do
      repoM (Repository.dropInfo sid)
    modify fun s => { s with held := [] }
    return .obj [("released", .nat held.length)]
  | "find_gtype" =>
    let (sid, e) ← lift (Repository.findByGTypeName (← get).repo (q.strD "name"))
    entryReport sid e
  | "close_namespace" =>
    match (← get).repo.lookup ns with
    | some sid =>
      let res ← repoM (Repository.closeSpace sid)
      return .obj [("found", .bool true), ("result", Doc.ofOption encodeFailure res)]
    | none => return .obj [("found", .bool false)]
  | "close" =>
    let res ← repoM Repository.close
    return .obj [("result", Doc.ofOption encodeFailure res),
      ("loaded", Doc.ofStrings (← get).repo.loadedNames)]
  | "dump" =>
    match (← get).repo.lookup ns with
    | some sid => repoM (listingDoc sid (q.field "dump"))
    | none => return .obj [("found", .bool false)]
  | "register" =>
    let i := (q.intD "index" 0).toNat
    registerReport st ((st.loaded.getD i (0, 0)).1 |> some)
  | "register_nil" => registerReport st none
  | "register_new" =>
    let bytes ← lift (imageOf (q.field "spec"))
    let t ← lift (Typelib.load bytes)
    let tl ← repoM (Repository.addTypelib t)
    registerReport st (some tl)
  | "default_search_path" => return .obj [("search_path", Doc.ofStrings defaultSearchPath)]
  | other => throw (.plain ("unknown repo query " ++ other))

end Introspection.Script
