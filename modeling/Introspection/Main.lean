import Introspection.Cli.Run
import Introspection.Native.SharedObject

/-!
# The command line

The program reads its arguments, the variables the command reads from the environment and
standard input, gathers the files the command may read into a file tree, runs the command over
that tree, and writes its two outputs, the shell's history file, and the exit status.

The files gathered are the typelib a path names, the typelib of `Name-Version` in each
directory of the search path together with the typelibs it depends on, the guest modules and
shared objects of their libraries, and the history file of the home directory. A namespace
named without a version is found only among those already gathered.
-/

namespace Introspection.Cli

open Introspection.Repository Introspection.Typelib

def environmentVariables : List String :=
  ["GI_TYPELIB_PATH", "GIR_LIBRARY_PATH", "GIR_WASM_MEMORY_PAGES", "HOME"]

/-- What a command line asks to read: its target and its typelib and library directories. -/
structure Wants where
  target : String := ""
  typelibDirs : List String := []
  libDirs : List String := []

/-- The target and directories a command line names; nothing when it does not parse. -/
def wantsOf (args : List String) : Wants :=
  match find args with
  | .error _ => {}
  | .ok (c, rest) =>
    match parseFlags c.parsedFlags rest with
    | .ok p =>
      { target := p.args.getD 0 "", typelibDirs := p.texts "typelib-dir",
        libDirs := p.texts "lib-dir" }
    | .error _ => {}

/-- The library files a namespace's shared library may be found as, in some directories. -/
def libraryFiles (so : String) (dirs : List String) : List String :=
  let system := [Native.SharedObject.c, Native.SharedObject.math].map (·.path)
  if so.startsWith "/" then [so]
  else dirs.flatMap (fun d => [joinPath [d, so], joinPath [d, Guest.moduleFile so]]) ++ system

def readInto (files : Files) (path : String) : IO Files := do
  if files.isFile path then return files
  try
    let bytes ← IO.FS.readBinFile path
    return files.put path (.file bytes)
  catch _ => return files

/-- Reads a typelib and, in turn, what it depends on and the files of its libraries. At most
`fuel` namespaces are followed. -/
def gatherSpace (dirs libDirs : List String) : Nat → Files → List String → IO Files
  | 0, files, _ => return files
  | _, files, [] => return files
  | fuel + 1, files, req :: rest => do
    let candidates := dirs.map fun d => joinPath [d, req ++ ".typelib"]
    let mut files := files
    let mut more : List String := []
    for path in candidates do
      files ← readInto files path
      match files.read? path with
      | some bytes =>
        match Typelib.load bytes with
        | .ok t =>
          more := more ++ (t.dependencies.getD [])
          for so in t.sharedLibraries.getD [] do
            for f in libraryFiles so libDirs do
              files ← readInto files f
        | .error _ => pure ()
      | none => pure ()
    gatherSpace dirs libDirs fuel files (rest ++ more)

/-- Gathers the files a command line may read, runs it, and writes what it gives back. -/
def runOnDisk (args : List String) : IO UInt32 := do
  let mut env : List (String × String) := []
  for k in environmentVariables do
    if let some v ← IO.getEnv k then env := env ++ [(k, v)]
  let settings := Settings.ofEnv env
  let wants := wantsOf args
  let dirs := wants.typelibDirs ++ settings.typelibPath
  let libDirs := if wants.libDirs.isEmpty then settings.libraryPath else wants.libDirs
  let mut files : Files := {}
  if !settings.home.isEmpty then
    files := files.put settings.home .dir
    files ← readInto files (historyPath settings.home)
  let roots := if wants.target.endsWith ".typelib" then [] else [wants.target]
  if wants.target.endsWith ".typelib" then
    files ← readInto files wants.target
    match files.read? wants.target with
    | some bytes =>
      match Typelib.load bytes with
      | .ok t =>
        files ← gatherSpace dirs libDirs 64 files (t.dependencies.getD [])
        for so in t.sharedLibraries.getD [] do
          for f in libraryFiles so libDirs do
            files ← readInto files f
      | .error _ => pure ()
    | none => pure ()
  files ← gatherSpace dirs libDirs 64 files (roots.filter (!·.isEmpty))
  let input ← (← IO.getStdin).readToEnd
  let before := files.read? (historyPath settings.home)
  let o := run { args := args, env := env, files := files, input := input }
  IO.print o.stdout
  IO.eprint o.stderr
  if !settings.home.isEmpty then
    match o.files.read? (historyPath settings.home) with
    | some h => if some h != before then IO.FS.writeBinFile (historyPath settings.home) h
    | none => pure ()
  return if o.failure.isSome then 1 else 0

end Introspection.Cli

def main (args : List String) : IO UInt32 := Introspection.Cli.runOnDisk args
