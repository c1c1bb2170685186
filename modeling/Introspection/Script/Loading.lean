import Introspection.Script.Listing
import Introspection.Script.Workspace

/-!
# Building, loading and registering namespaces

Each namespace of a request is turned into image bytes (built from a description or given raw),
loaded, and registered in one repository, in order. The answer for a namespace shows the image
and its size, then the first failure (build, load or register) or the namespace's listing.
The answer ends with the loaded namespace names and, when asked, what closing the repository
leaves behind.
-/

namespace Introspection.Script

open Introspection.Typelib Introspection.Repository Introspection.Info

/-- Loads and registers one namespace document and lists it; also gives the loaded typelib. -/
def loadNamespace (showImage : Bool) (q : Doc) (ns : Doc) : RepoM (Doc × Option Nat) := do
  match imageOf ns with
  | .error f => return (.obj [("build", encodeFailure f)], none)
  | .ok bytes =>
    let head := (if showImage then [("image", Doc.str (Text.Hex.ofBytes bytes))] else [])
      ++ [("image_size", .nat bytes.size)]
    match Typelib.load bytes with
    | .error f => return (.obj (head ++ [("load", encodeFailure f)]), none)
    | .ok t =>
      let tid ← Repository.addTypelib t
      match ← Repository.register (some tid) with
      | .error f => return (.obj (head ++ [("register", encodeFailure f)]), some tid)
      | .ok sid =>
        let listing ← listingDoc sid q
        return (.obj (head ++ [("loaded", .str t.text), ("dump", listing)]), some tid)

/-- Closes the repository and reports what is left: the loaded names, and the size, first entry
and a fresh requirement of the first loaded typelib. -/
def closeReport (first : Option Nat) : RepoM Doc := do
  let err ← Repository.close
  let r ← get
  let tail ← match first with
    | some tid =>
      let t := r.typelib tid
      let req ← Repository.require t.namespace_ ""
      pure [("size_after", .nat (r.typelib tid).size),
        ("entry1_after", Doc.ofOption entryDoc ((r.typelib tid).entryAt? 1)),
        ("require_after", match req with
          | .ok _ => .null
          | .error f => encodeFailure f)]
    | none => pure []
  return .obj ((match err with
      | some f => [("error", encodeFailure f)]
      | none => []) ++ [("loaded_after", Doc.ofStrings r.loadedNames)] ++ tail)

def typelibAnswer (req : Doc) : Doc :=
  let start : Repository :=
    { files := fileTree (req.list "files"), search := searchPath (req.strings "search") }
  let q := req.field "query"
  let run : RepoM Doc := do
    let mut answers : List Doc := []
    let mut first : Option Nat := none
    for ns in req.list "namespaces" do
      let (a, tid) ← loadNamespace (!req.flag "no_image") q ns
      answers := answers ++ [a]
      if first.isNone then first := tid
    let loaded := (← get).loadedNames
    let closing ← if req.flag "close" then do pure [("close", ← closeReport first)] else pure []
    return .obj ([("namespaces", .arr answers), ("loaded", Doc.ofStrings loaded)] ++ closing)
  let out := (run.run start).1
  if usesWorkDir req then settleWorkDir out else out

end Introspection.Script
