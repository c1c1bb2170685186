import Introspection.Script.Spec
import Introspection.Repository.Files

/-!
# The working directory of a request

A request may bring files: namespace descriptions built into images, raw bytes, text and
directories, each at a relative path. They are placed under one working directory, whose path
has a fixed length because some answers pad text to the widest line. In answers the directory
is written `<dir>`, and `<dir>` in paths given by a request stands for it.
-/

namespace Introspection.Script

open Introspection.Typelib Introspection.Repository

def workDir : String := "/tmp/request-000000000"

theorem workDir_length : workDir.length = 22 := by decide

/-- A request path with `<dir>` standing for the working directory. -/
def inWorkDir (s : String) : String := s.replace "<dir>" workDir

def hideWorkDir (s : String) : String := s.replace workDir "<dir>"

/-- Rewrites every string of a document and settles lists never made to empty ones, looking
at most `fuel` levels deep. -/
def settleUpTo (f : String → String) : Nat → Doc → Doc
  | 0, d => d
  | _ + 1, .str s => .str (f s)
  | _ + 1, .nilList => .arr []
  | fuel + 1, .arr xs => .arr (xs.map (settleUpTo f fuel))
  | fuel + 1, .obj kvs => .obj (kvs.map fun (k, v) => (k, settleUpTo f fuel v))
  | _ + 1, d => d

/-- The answer to a request that brought a working directory: the directory is written
`<dir>`, and lists never made are written empty. -/
def settleWorkDir (d : Doc) : Doc := settleUpTo hideWorkDir d.depth d

def usesWorkDir (req : Doc) : Bool := req.has "files" || req.has "search"

/-- The image bytes a namespace document gives: raw bytes, or a built and adjusted image. -/
def imageOf (ns : Doc) : Except Failure ByteArray :=
  match (ns.get? "image_hex").bind Doc.str? with
  | some h => .ok ((Text.Hex.toBytes? h).getD .empty)
  | none => (build (readNamespace ns)).map (adjustImage ns)

def fileNode (f : Doc) : Node :=
  if f.flag "dir" then .dir
  else
    match f.get? "namespace", (f.get? "hex").bind Doc.str?, (f.get? "text").bind Doc.str? with
    | some ns, _, _ => .file ((imageOf ns).toOption.getD .empty)
    | none, some h, _ => .file ((Text.Hex.toBytes? h).getD .empty)
    | none, none, some t => .file t.toUTF8
    | none, none, none => .file .empty

/-- The file tree of a request's files, under the working directory. -/
def fileTree (files : List Doc) : Files :=
  files.foldl (fun fs f => fs.put (joinPath [workDir, f.strD "path"]) (fileNode f)) {}

/-- The search path of a request's directories, under the working directory. -/
def searchPath (dirs : List String) : List String := dirs.map fun d => joinPath [workDir, d]

end Introspection.Script
