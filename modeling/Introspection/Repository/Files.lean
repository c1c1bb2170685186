import Introspection.Text.Blank

/-!
# A file tree

The files a request works with form a small tree: regular files with their bytes and
directories, named by cleaned absolute paths. The tree answers what a file system would: whether
a path is a file or a directory, the bytes of a file, and the sorted entries of a directory.
The directories above every file and directory exist.

Paths are cleaned the usual way: repeated slashes collapse, `.` elements drop, and `..` removes
the element before it (or nothing at the root).
-/

namespace Introspection.Repository

open Introspection.Text

/-- A node of the tree. -/
inductive Node where
  | file (data : ByteArray)
  | dir
  deriving Inhabited

def cleanParts (rooted : Bool) : List String → List String → List String
  | [], acc => acc.reverse
  | p :: ps, acc =>
    if p.isEmpty || p == "." then cleanParts rooted ps acc
    else if p == ".." then
      match acc with
      | a :: rest => if a == ".." then cleanParts rooted ps (p :: acc) else cleanParts rooted ps rest
      | [] => if rooted then cleanParts rooted ps [] else cleanParts rooted ps [p]
    else cleanParts rooted ps (p :: acc)

def cleanPath (p : String) : String :=
  let rooted := p.startsWith "/"
  let parts := cleanParts rooted (splitAt p '/') []
  let body := "/".intercalate parts
  if rooted then "/" ++ body
  else if body.isEmpty then "." else body

/-- Joins path elements and cleans the result; empty elements are skipped. -/
def joinPath (parts : List String) : String :=
  match parts.filter (!·.isEmpty) with
  | [] => ""
  | ps => cleanPath ("/".intercalate ps)

def parentPath (p : String) : String :=
  match (splitAt p '/').dropLast with
  | [] => "."
  | [""] => "/"
  | ps => "/".intercalate ps

def baseName (p : String) : String := ((splitAt p '/').getLast?).getD p

/-- Names in increasing order, each put in place among the ones sorted before it. -/
def insertName (a : String) : List String → List String
  | [] => [a]
  | b :: l => if a ≤ b then a :: b :: l else b :: insertName a l

def sortNames (names : List String) : List String := names.foldr insertName []

theorem cleanParts_nil (rooted : Bool) (acc : List String) :
    cleanParts rooted [] acc = acc.reverse := rfl

/-- A tree of files and directories by cleaned absolute path. -/
structure Files where
  nodes : List (String × Node) := []
  deriving Inhabited

namespace Files

/-- The node at a path. The root and every directory above a node are directories. -/
def node? (fs : Files) (path : String) : Option Node :=
  let p := cleanPath path
  match fs.nodes.lookup p with
  | some n => some n
  | none =>
    if p == "/" || fs.nodes.any (fun (q, _) => q.startsWith (p ++ "/")) then some .dir else none

def isFile (fs : Files) (path : String) : Bool :=
  match fs.node? path with
  | some (.file _) => true
  | _ => false

def read? (fs : Files) (path : String) : Option ByteArray :=
  match fs.node? path with
  | some (.file d) => some d
  | _ => none

/-- What opening a path for reading finds. -/
inductive Opened where
  | file (data : ByteArray)
  | directory
  /-- An element above the path is a regular file. -/
  | underFile
  | missing

/-- Opens a path for reading: a file, a directory, a path below a regular file, or nothing. -/
def openRead (fs : Files) (path : String) : Opened :=
  match fs.node? path with
  | some (.file d) => .file d
  | some .dir => .directory
  | none =>
    let parts := splitAt (cleanPath path) '/'
    let above := (List.range parts.length).map fun n => "/".intercalate (parts.take n)
    if above.any (fs.isFile ·) then .underFile else .missing

def put (fs : Files) (path : String) (n : Node) : Files :=
  let p := cleanPath path
  { nodes := fs.nodes.filter (·.1 != p) ++ [(p, n)] }

/-- The entries directly inside a directory, sorted by name, with whether each is a directory;
nothing when the path is not a directory. -/
def readDir? (fs : Files) (path : String) : Option (List (String × Bool)) :=
  match fs.node? path with
  | some .dir =>
    let p := cleanPath path
    let pre := if p == "/" then "/" else p ++ "/"
    let names := fs.nodes.filterMap fun (q, _) =>
      if q.startsWith pre then (splitAt (q.drop pre.length).toString '/').head? else none
    let names := sortNames names.eraseDups
    some (names.map fun n =>
      (n, match fs.node? (pre ++ n) with
        | some .dir => true
        | _ => false))
  | _ => none

end Files

end Introspection.Repository
