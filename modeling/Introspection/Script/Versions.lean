import Introspection.Script.Doc
import Introspection.Repository.Version

/-!
# Scripted versions

A script parses version texts, compares pairs of them (an unreadable version counts as zero)
and splits dependency texts into namespace and version.
-/

namespace Introspection.Script

open Introspection.Repository

def versionDoc (v : Version) : Doc :=
  .obj [("major", .nat v.major), ("minor", .nat v.minor), ("patch", .nat v.patch),
    ("string", .str v.text)]

def versionOrZero (s : String) : Version := (Version.parse? s).getD ⟨0, 0, 0⟩

def versionsAnswer (req : Doc) : Doc :=
  let parse := (req.strings "parse").map fun s => Doc.ofOption versionDoc (Version.parse? s)
  let compare := (req.list "compare").map fun pair =>
    match pair.arr? with
    | some [.str a, .str b] => Doc.int (Version.sign ((versionOrZero a).compare (versionOrZero b)))
    | _ => Doc.int 0
  let split := (req.strings "split").map fun s =>
    Doc.ofOption (fun (p : String × String) => Doc.ofStrings [p.1, p.2]) (splitRequirement? s)
  .obj [("parse", .arr parse), ("compare", .arr compare), ("split", .arr split)]

end Introspection.Script
