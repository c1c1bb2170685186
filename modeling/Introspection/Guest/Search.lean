import Introspection.Guest.Library
import Introspection.Repository.Files

/-!
# Finding guest modules

The code of a namespace's shared library is looked for as a guest module file: for each
shared library in the namespace's order, the module file it maps to is looked for in each
directory in order, and the first one present is opened under the file's name without its
extension. A namespace without shared libraries has nothing to look for. A path that exists but
cannot be read stops the search.
-/

namespace Introspection.Guest

open Introspection.Repository

def unreadable (path : String) : Files.Opened → Option Failure
  | .directory => some (.loadFailed ("read " ++ path) (some (.plain ("read " ++ path ++ ": is a directory"))))
  | .underFile => some (.loadFailed ("read " ++ path) (some (.plain ("open " ++ path ++ ": not a directory"))))
  | _ => none

/-- Finds the guest module of the first of a namespace's shared libraries that has one in the
directories: the library's name and the module's bytes. -/
def findModule (fs : Files) (ns : String) (libs dirs : List String) :
    Except Failure (String × ByteArray) := do
  if libs.isEmpty then throw (.notFound .load "shared library" ns)
  for so in libs do
    let file := moduleFile so
    for dir in dirs do
      let path := joinPath [dir, file]
      match fs.openRead path with
      | .file d => return ((file.dropEnd 5).toString, d)
      | .missing => pure ()
      | other =>
        match unreadable path other with
        | some e => throw e
        | none => pure ()
  throw (.fault .load .notFound [ns] "" ""
    ("no guest module for " ++ ", ".intercalate libs ++ " in " ++ ":".intercalate dirs) .null none)

end Introspection.Guest
