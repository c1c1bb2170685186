import Introspection.Repository.Files

/-!
# Shared objects of the system

The system provides two shared objects, the C library and the math library, which the dynamic
loader finds by their sonames `libc.so.6` and `libm.so.6` or by their installed paths. Any other
bare name is not found. A name with a slash is a path: it is read from the file tree, and a
missing file, a directory, a file shorter than an ELF header or a file that does not start with
the ELF magic is refused, each with the loader's own message.

Symbols are looked up in the object and then in the objects it depends on: the math library
depends on the C library, so C library functions are found through either.
-/

namespace Introspection.Native

open Introspection.Repository

/-- A shared object of the system. -/
inductive SharedObject where
  /-- The C library. -/
  | c
  /-- The math library. -/
  | math
  deriving DecidableEq, Repr, Inhabited

namespace SharedObject

def libraryDir : String := "/lib/x86_64-linux-gnu"

def soname : SharedObject → String
  | c => "libc.so.6"
  | math => "libm.so.6"

def path (o : SharedObject) : String := libraryDir ++ "/" ++ o.soname

def searchOrder : SharedObject → List SharedObject
  | c => [c]
  | math => [math, c]

def ofName? (name : String) : Option SharedObject :=
  [c, math].find? fun o =>
    name == o.soname || name == o.path || name == "/usr" ++ o.path

def headerSize : Nat := 64

/-- Loads a shared object by name or path, or gives the loader's message. -/
def load (files : Files) (name : String) : Except String SharedObject :=
  match ofName? name with
  | some o => .ok o
  | none =>
    if !name.contains '/' then
      .error (name ++ ": cannot open shared object file: No such file or directory")
    else
      match files.openRead name with
      | .missing => .error (name ++ ": cannot open shared object file: No such file or directory")
      | .underFile => .error (name ++ ": cannot open shared object file: Not a directory")
      | .directory => .error (name ++ ": cannot read file data: Is a directory")
      | .file data =>
        if data.size < headerSize then .error (name ++ ": file too short")
        else .error (name ++ ": invalid ELF header")

/-- The loader's message for a symbol that an object does not define. -/
def undefinedSymbol (o : SharedObject) (name : String) : String :=
  o.path ++ ": undefined symbol: " ++ name

theorem load_soname (files : Files) (o : SharedObject) : load files o.soname = .ok o := by
  cases o <;> rfl

end SharedObject

end Introspection.Native
