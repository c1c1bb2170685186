import Introspection.Script.Errors
import Introspection.Script.Registry
import Introspection.Script.Versions
import Introspection.Script.Loading
import Introspection.Script.Session
import Introspection.Script.Guest
import Introspection.Script.Json
import Introspection.Script.CommandLine
import Introspection.Script.System

/-!
# Answering scripts

A script names an operation in its `op` member; its answer is a document. Every operation
starts from a fresh state, so answers depend on the script alone.
-/

namespace Introspection.Script

/-- The answer to a script naming an operation this library does not know. -/
def unknownOperation (op : String) : Doc :=
  .obj [("error", .str "driver"), ("message", .str ("unknown op " ++ Text.Quote.quote op))]

def answer (req : Doc) : Doc :=
  match req.strD "op" with
  | "errors" => failuresAnswer req
  | "version" => versionsAnswer req
  | "finalize" => registryAnswer req
  | "typelib" => typelibAnswer req
  | "session" => sessionAnswer req
  | "wasm" => guestAnswer req
  | "gir" => commandAnswer req
  | "gir_browse" => browseAnswer req
  | "native" => systemAnswer req
  | op => unknownOperation op

/-- The answer line to a script line: the script read as JSON, answered and written back. -/
def answerLine (line : String) : String :=
  match Doc.parse line with
  | .ok req => (answer req).render
  | .error e => (Doc.obj [("error", .str "driver"), ("message", .str e)]).render

end Introspection.Script
