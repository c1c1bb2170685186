import Introspection.Cli.Run
import Introspection.Cli.Browse
import Introspection.Script.Workspace
import Introspection.Script.Values

/-!
# Command-line scripts

A command-line script gives the arguments, the files of the working directory, the variables
of the environment the command reads and the standard input; `<dir>` in an argument or a
variable stands for the working directory, which always exists and is the home directory
unless the script names another.

The answer holds the two output texts, the exit status with the failure that caused it, and
the history file of the home directory when one exists afterwards.

A browsing script gives the same files and environment, a backend, typelib and library
directories, a target and the keys to press; its answer is the view before loading and, for
each step, the view and the state of the browser.
-/

namespace Introspection.Script

open Introspection.Repository

def commandVariables : List String :=
  ["GI_TYPELIB_PATH", "GIR_LOG_LEVEL", "GIR_LOG_JSON", "GIR_LIBRARY_PATH",
   "GIR_WASM_MEMORY_PAGES", "HOME"]

/-- The environment a script sets: its variables the command reads, with the working
directory as home unless it names one. -/
def commandEnv (req : Doc) : List (String × String) :=
  let given := ((req.field "env").obj?.getD []).filterMap fun (k, v) =>
    if commandVariables.contains k then v.str?.map fun s => (k, inWorkDir s) else none
  if given.any (·.1 == "HOME") then given else given ++ [("HOME", workDir)]

def commandAnswer (req : Doc) : Doc :=
  let env := commandEnv req
  let files := (fileTree (req.list "files")).put workDir .dir
  let o := Cli.run { args := (req.strings "args").map inWorkDir, env, files,
                     input := req.strD "stdin" }
  let home := (env.lookup "HOME").getD workDir
  let history := match o.history home with
    | some h => [("history", Doc.str h)]
    | none => []
  let failure := match o.failure with
    | some e => [("error", encodeFailure e)]
    | none => []
  settleWorkDir (.obj ([("stdout", .str o.stdout), ("stderr", .str o.stderr),
    ("exit", .nat (if o.failure.isSome then 1 else 0))] ++ failure ++ history))

def browserDoc (b : Cli.Browser) : Doc :=
  .obj ([("state", .str b.state.name), ("selected", .nat b.selected), ("focus", .nat b.focus),
    ("loaded", .bool b.module.isSome), ("functions", .nat b.functions.length),
    ("result", .str b.result), ("inputs", .arr (b.inputs.map fun f => .str f.text))] ++
    (match b.error with
     | some e => [("error", .str e)]
     | none => []))

def browseAnswer (req : Doc) : Doc :=
  let setup : Cli.Browser.Setup :=
    { backend := req.strOr "backend" "native",
      typelibDirs := (req.strings "typelib_dirs").map inWorkDir,
      libDirs := (req.strings "lib_dirs").map inWorkDir,
      env := commandEnv req,
      files := (fileTree (req.list "files")).put workDir .dir,
      target := inWorkDir (req.strD "target") }
  match Cli.Browser.run setup (req.strings "keys") with
  | .error e => .obj [("setup", encodeFailure e)]
  | .ok s =>
    let step (st : Cli.Browser.Step) : Doc :=
      match st.key with
      | none => .obj [("view", .str st.browser.view), ("model", browserDoc st.browser)]
      | some k => .obj [("key", .str k), ("view", .str st.browser.view),
          ("model", browserDoc st.browser), ("quit", .bool st.quit)]
    settleWorkDir (.obj [("loading", .str s.loading), ("steps", .arr (s.steps.map step)),
      ("quit", .bool s.quit)])

end Introspection.Script
