import Introspection.Cli.Command
import Introspection.Cli.Outline
import Introspection.Cli.Arguments
import Introspection.Script.Machine

/-!
# Running the command line

A run takes the arguments, the environment, a file tree and the standard input, and gives what
was written to standard output and standard error, the failure it ended with, and the file
tree afterwards.

The environment gives the typelib search path (`GI_TYPELIB_PATH`, before the built-in
directories), the library directories (`GIR_LIBRARY_PATH`, used when no `--lib-dir` is given),
the page limit of guest memory (`GIR_WASM_MEMORY_PAGES`, from 1 to 65536) and the home
directory that keeps the shell's history.

`dump` and `inspect` read namespaces only; `call` and `shell` also open the namespace's
library, as a system library or as a guest module, and call its functions with arguments
read from text. The shell reads commands line by line until `:quit` or the end of input, and
keeps the lines it ran in the history file of the home directory, the most recent thousand,
without repeating a line that was just run.
-/

namespace Introspection.Cli

open Introspection.Typelib Introspection.Repository Introspection.Info Introspection.Loaded
  Introspection.Loaded.Session Introspection.Text

/-- What a run sees. -/
structure Request where
  args : List String
  env : List (String × String) := []
  files : Files := {}
  input : String := ""

/-- What a run gives back. -/
structure Outcome where
  stdout : String := ""
  stderr : String := ""
  failure : Option Failure := none
  files : Files := {}

/-! ## Settings -/

/-- The entries of a colon-separated list, without empty and repeated ones. -/
def splitList (s : String) : List String :=
  (s.splitOn ":").foldl (fun acc p => if p.isEmpty || acc.contains p then acc else acc ++ [p]) []

def decimal? (s : String) : Option Int :=
  let (neg, body) := match s.toList with
    | '-' :: rest => (true, rest)
    | '+' :: rest => (false, rest)
    | cs => (false, cs)
  if body.isEmpty || !body.all Char.isDigit then none
  else
    let n : Int := body.foldl (fun acc c => acc * 10 + (c.toNat - 48)) 0
    if (neg && n > 2 ^ 63) || (!neg && n ≥ 2 ^ 63) then none
    else some (if neg then -n else n)

/-- What the environment sets. -/
structure Settings where
  typelibPath : List String
  libraryPath : List String
  memoryPages : Nat
  home : String

def Settings.ofEnv (env : List (String × String)) : Settings :=
  let get (k : String) := (env.lookup k).getD ""
  let pages := match decimal? (get "GIR_WASM_MEMORY_PAGES") with
    | some n => if 0 < n && n ≤ 65536 then n.toNat else 0
    | none => 0
  { typelibPath := splitList (get "GI_TYPELIB_PATH") ++ defaultSearchPath,
    libraryPath := splitList (get "GIR_LIBRARY_PATH"), memoryPages := pages,
    home := get "HOME" }

/-! ## Namespaces and modules -/

/-- Loads a namespace named `Name`, `Name-Version`, or a typelib file. -/
def loadTarget (target : String) : SessionM Nat := do
  if target.endsWith ".typelib" then
    let opened := (← get).repo.files.openRead target
    let bytes ← match opened with
      | .file b => pure b
      | .directory => throw (.loadFailed ("open " ++ target) (some (.plain "mmap: no such device")))
      | .underFile =>
        throw (.loadFailed ("open " ++ target) (some (.plain ("open " ++ target ++ ": not a directory"))))
      | .missing =>
        throw (.loadFailed ("open " ++ target)
          (some (.plain ("open " ++ target ++ ": no such file or directory"))))
    let t ← lift (Typelib.load bytes)
    let tl ← repoM (Repository.addTypelib t)
    repoE (Repository.register (some tl))
  else
    let cut := (target.toList.zipIdx.filter (·.1 == '-')).getLast?.map (·.2)
    let (name, version) := match cut with
      | some i => if i > 0 then (String.ofList (target.toList.take i), String.ofList (target.toList.drop (i + 1)))
                  else (target, "")
      | none => (target, "")
    repoE (Repository.require name version)

def openModule (opener : Opener) (target : String) : SessionM Nat := do
  let sid ← loadTarget target
  modify fun s => { s with opener, runtime := some { canOpen := true } }
  let r := (← get).repo
  match ← attempt (Binding.require Script.hooks (r.space sid).name (r.spaceVersion sid)) with
  | .ok m => return m
  | .error e => discard Binding.closeRuntime; throw e

/-! ## Calling functions -/

/-- How a result is printed: strings quoted, null as `null`, enum members and flags by name,
wrappers by class and address, anything else in its default form. -/
def resultText (s : Session) (v : Value) : String :=
  match v with
  | .null | .nilWrapper _ => "null"
  | .str b => Quote.quoteBytes b
  | .wrapper id _ =>
    match (s.wrappers.getD id default).held with
    | .native c p boxed =>
      let k := s.classes.getD c default
      let q := (s.modules.getD k.module default).name ++ "." ++ k.name
      if boxed then "<" ++ q ++ " at 0x" ++ Hex.ofNat p ++ ">"
      else "<" ++ q ++ " object at 0x" ++ Hex.ofNat p ++ ">"
    | .constructed .. => v.defaultText
  | other => other.defaultText

/-- Calls a function of a module with arguments read from texts and gives the printed
results, or `ok` when there are none. -/
def callText (m : Nat) (name : String) (texts : List ByteArray) : SessionM String := do
  let fi ← Binding.functionNamed m name
  let args ← match ← repoM (argumentsOf fi texts) with
    | .ok a => pure a
    | .error msg => throw (.plain msg)
  let results ← Invoke.call Script.hooks (← Binding.module m).invoker fi args
  if results.isEmpty then return "ok\n"
  let s ← get
  return String.join (results.map fun v => resultText s v ++ "\n")

/-! ## The shell -/

/-- The functions of a namespace with their descriptions, in directory order. -/
def functionList (sid : Nat) : SessionM (List (String × String)) := do
  let n := ((← get).repo.spaceTypelib sid).nLocal
  let mut out : List (String × String) := []
  for i in List.range n do
    let bi ← repoM (Info.entry sid (i + 1))
    if bi.kind == .function then
      let name := Info.name (← get).repo bi
      out := out ++ [(name, ← repoM (Info.describe name bi))]
  return out

def historyLimit : Nat := 1000

def keepRecent (h : List String) : List String := h.drop (h.length - historyLimit)

def lineLimit : Nat := 4096

/-- The lines of a byte text as a line reader gives them, each with whether a line feed ended
it: split at line feeds, and a last line without line feed kept when not empty. -/
def rawLines (bytes : ByteArray) : List (List UInt8 × Bool) :=
  let pieces := bytes.toList.splitOn 10
  let n := pieces.length
  pieces.zipIdx.filterMap fun (l, i) =>
    if i + 1 == n then (if l.isEmpty then none else some (l, false)) else some (l, true)

def dropReturn (l : List UInt8) (complete : Bool) : List UInt8 :=
  if complete && l.getLast? == some 13 then l.dropLast else l

def lineText (l : List UInt8) : String := Utf8.lossy (ByteArray.mk l.toArray)

/-- The lines a shell reads from its input: lines of `lineLimit` bytes or more come in pieces
of that many bytes, and a carriage return before a line feed is dropped. -/
def inputLines (text : String) : List String :=
  (rawLines text.toUTF8).flatMap fun (l, complete) =>
    if l.length < lineLimit then [lineText (dropReturn l complete)]
    else
      let l := dropReturn l complete
      let count := l.length / lineLimit + 1
      ((List.range count).map fun k => (l.drop (k * lineLimit)).take lineLimit)
        |>.filter (!·.isEmpty) |>.map lineText

/-- The history a file holds: its lines up to the first that is too long or not valid UTF-8,
the most recent `historyLimit` of them. -/
def historyOf (bytes : ByteArray) : List String :=
  let good := (rawLines bytes).takeWhile fun (l, _) =>
    l.length < lineLimit && Utf8.isValid (ByteArray.mk l.toArray)
  keepRecent (good.map fun (l, complete) => lineText (dropReturn l complete))

/-- What the shell has written and remembers. -/
structure ShellState where
  out : String := ""
  err : String := ""
  history : List String := []
  quit : Bool := false

def ShellState.remember (st : ShellState) (line : String) : ShellState :=
  if st.history.getLast? == some line then st
  else { st with history := keepRecent (st.history ++ [line]) }

def shellHelp : String :=
  "  name args...   call a function\n  :list          list functions\n" ++
    "  :describe name show an entry\n  :quit          leave\n"

def shellLine (m sid : Nat) (funcs : List (String × String)) (st : ShellState) (line : String) :
    SessionM ShellState := do
  match splitWords line.toUTF8 with
  | .error e => return { st with err := st.err ++ e ++ "\n" }
  | .ok words =>
    let word (i : Nat) := Utf8.lossy (words.getD i .empty)
    let first := word 0
    if first == ":quit" || first == ":q" then return { st with quit := true }
    if first == ":help" then return { st with out := st.out ++ shellHelp }
    if first == ":list" then
      return { st with out := st.out ++ String.join (funcs.map fun (_, sig) => "  " ++ sig ++ "\n") }
    if first == ":describe" then
      if words.length != 2 then return { st with err := st.err ++ "usage: :describe name\n" }
      match ← repoM (Info.find sid (word 1)) with
      | .error e => return { st with err := st.err ++ e.text ++ "\n" }
      | .ok bi =>
        let e ← repoM (Entry.of bi)
        return { st with out := st.out ++ e.render ++ "\n" }
    if first.startsWith ":" then return { st with err := st.err ++ "unknown command " ++ first ++ "\n" }
    match ← attempt (callText m first (words.drop 1)) with
    | .ok text => return { st with out := st.out ++ text }
    | .error e => return { st with err := st.err ++ e.text ++ "\n" }

def historyPath (home : String) : String := joinPath [home, ".gir_history"]

/-- Runs the shell on a module over the lines of the input, then writes the history file when
its directory exists. -/
def runShell (m : Nat) (home : String) (input : String) : SessionM (String × String) := do
  let md ← Binding.module m
  let funcs ← functionList md.space
  let path := historyPath home
  let files := (← get).repo.files
  let start := match files.openRead path with
    | .file b => historyOf b
    | _ => []
  let banner := "module " ++ md.name ++ "-" ++ md.version ++ ": " ++ toString funcs.length ++
    " functions. :help for commands.\n"
  let mut st : ShellState := { out := banner, history := start }
  for raw in inputLines input do
    if st.quit then break
    let line := trimBlank raw
    if !line.isEmpty then
      st := st.remember line
      st ← shellLine m md.space funcs st line
  let last := if st.quit then st else { st with out := st.out ++ "\n" }
  let files := (← get).repo.files
  let isDir (p : String) : Bool := match files.node? p with
    | some .dir => true
    | _ => false
  let writable := isDir home && !isDir path
  if writable then
    let content := String.join (last.history.map (· ++ "\n"))
    modify fun s => { s with repo := { s.repo with files := files.put path (.file content.toUTF8) } }
  return (last.out, last.err)

/-! ## Commands -/

/-- The opener a backend names, with the library directories it searches. -/
def openerOf (backend : String) (settings : Settings) (libDirs : List String) : Opener :=
  let dirs := if libDirs.isEmpty then settings.libraryPath else libDirs
  if backend == "wasm" then .guest { memoryLimitPages := settings.memoryPages, system := true } dirs
  else .system dirs

/-- Runs the action of a command with its parsed flags and arguments; gives what it writes to
standard output and standard error. -/
def perform (c : Command) (p : Parsed) (settings : Settings) (input : String) :
    SessionM (String × String) := do
  let arg (i : Nat) := p.args.getD i ""
  let opener := openerOf (p.text "backend" "native") settings (p.texts "lib-dir")
  match c.action with
  | .dump =>
    let sid ← loadTarget (arg 0)
    let o ← repoM (Outline.of sid)
    match p.text "format" "text" with
    | "yaml" => return (o.renderYaml, "")
    | "text" => return (o.renderText, "")
    | other => throw (.plain ("unknown format " ++ Quote.quote other))
  | .inspect =>
    let sid ← loadTarget (arg 0)
    let bi ← repoE (Info.find sid (arg 1))
    let e ← repoM (Entry.of bi)
    return (e.render ++ "\n", "")
  | .call =>
    let m ← openModule opener (arg 0)
    let res ← attempt (callText m (arg 1) ((p.args.drop 2).map String.toUTF8))
    discard Binding.closeRuntime
    return (← lift res, "")
  | .shell =>
    let m ← openModule opener (arg 0)
    let res ← attempt (runShell m settings.home input)
    discard Binding.closeRuntime
    lift res
  | .help =>
    match find p.args with
    | .ok (d, _) => return (d.helpText, "")
    | .error _ =>
      let root := (commandAt? ["gir"]).getD default
      let topics := "[" ++ " ".intercalate (p.args.map fun a => "`" ++ a ++ "`") ++ "]"
      return ("Unknown help topic " ++ topics ++ "\n" ++ root.usage, "")
  | .browse => throw (.plain "interactive browsing needs a terminal")
  | .completion _ => return ("", "")
  | .group => return (c.helpText, "")

def run (req : Request) : Outcome :=
  let settings := Settings.ofEnv req.env
  let failed (msg : String) (hint : String) : Outcome :=
    { stderr := "Error: " ++ msg ++ "\n" ++ hint, failure := some (.plain msg), files := req.files }
  match find req.args with
  | .error msg => failed msg "Run 'gir --help' for usage.\n"
  | .ok (c, rest) =>
    match parseFlags c.parsedFlags rest with
    | .error (.failed msg) => failed msg ""
    | .error .help => { stdout := c.helpText, files := req.files }
    | .ok p =>
      if p.flag "help" || !c.runnable then { stdout := c.helpText, files := req.files }
      else
        match c.checkArity p.args with
        | .error msg => failed msg ""
        | .ok () =>
          let backend := p.text "backend" "native"
          if backend != "native" && backend != "wasm" then
            failed ("unknown backend " ++ Quote.quote backend) ""
          else
            let search := p.texts "typelib-dir" ++ settings.typelibPath
            let start : Session := { repo := { files := req.files, search } }
            let (res, s) := (perform c p settings req.input).run.run start
            match res with
            | .ok (out, err) => { stdout := out, stderr := err, files := s.repo.files }
            | .error e =>
              { stderr := "Error: " ++ e.text ++ "\n", failure := some e, files := s.repo.files }

def Outcome.history (o : Outcome) (home : String) : Option String :=
  match o.files.openRead (historyPath home) with
  | .file b => some (Utf8.lossy b)
  | _ => none

end Introspection.Cli
