import Introspection.Cli.Run
import Introspection.Cli.TextField

/-!
# Browsing a namespace

The browser lists the functions of a namespace, lets the user pick one, fill in its arguments
in text fields and call it, and shows the result. It is a state machine over keys: choosing a
function (up and down, or `k` and `j`, move the selection; enter opens the fields, or calls at
once a function without in arguments), filling the fields (tab moves the focus, enter calls, escape
goes back, other keys edit the focused field), and showing the result (enter or escape go back).
`q` quits except while filling fields, where it is typed; control-C always quits.

The view is plain text: a title line with the module, then the list, the fields or the result,
then a line of hints. Errors are shown as a block whose lines are padded to the widest.
-/

namespace Introspection.Cli

open Introspection.Typelib Introspection.Repository Introspection.Info Introspection.Loaded
  Introspection.Loaded.Session Introspection.Text

/-- What the browser is doing. -/
inductive BrowseState where
  | choosing
  | filling
  | showing
  deriving DecidableEq, Repr, Inhabited

def BrowseState.name : BrowseState → String
  | choosing => "select"
  | filling => "input"
  | showing => "result"

/-- A function the browser offers: its name, its description and its in parameters with their
types. -/
structure FunctionEntry where
  name : String
  signature : String
  params : List (String × String)
  deriving Inhabited, Repr

/-- The browser. -/
structure Browser where
  target : String
  /-- The attached module and its title, once loaded. -/
  module : Option (Nat × String) := none
  functions : List FunctionEntry := []
  inputs : List TextField := []
  selected : Nat := 0
  focus : Nat := 0
  state : BrowseState := .choosing
  result : String := ""
  error : Option String := none
  deriving Inhabited

/-- What the browser asks for after a key. -/
inductive BrowseCommand where
  | nothing
  | call
  | quit
  deriving DecidableEq, Repr

namespace Browser

def fieldWidth : Nat := 40

def current (b : Browser) : FunctionEntry := b.functions.getD b.selected default

/-- Opens a field per in parameter of the selected function, the first one focused. -/
def prepareInputs (b : Browser) : Browser :=
  let fields := b.current.params.zipIdx.map fun ((name, typ), i) =>
    { TextField.create (name ++ ": ") typ fieldWidth with focused := i == 0 }
  { b with inputs := fields, focus := 0 }

def nextField (b : Browser) : Browser :=
  let n := b.inputs.length
  let next := (b.focus + 1) % n
  let inputs := b.inputs.zipIdx.map fun (f, i) =>
    if i == b.focus then { f with focused := false }
    else if i == next then { f with focused := true }
    else f
  { b with inputs, focus := next }

/-- Handles a key: the browser's own keys first, then, while filling, every field sees the key. -/
def update (b : Browser) (k : Key) : Browser × BrowseCommand :=
  let own : Browser × Option BrowseCommand :=
    match k.text with
    | "ctrl+c" => (b, some .quit)
    | "q" => if b.state != .filling then (b, some .quit) else (b, none)
    | "up" | "k" =>
      if b.state == .choosing && b.selected > 0 then ({ b with selected := b.selected - 1 }, none)
      else (b, none)
    | "down" | "j" =>
      if b.state == .choosing && b.selected + 1 < b.functions.length then
        ({ b with selected := b.selected + 1 }, none)
      else (b, none)
    | "enter" =>
      match b.state with
      | .choosing =>
        if b.functions.isEmpty then (b, none)
        else
          let b := b.prepareInputs
          if b.inputs.isEmpty then (b, some .call) else ({ b with state := .filling }, none)
      | .filling => (b, some .call)
      | .showing => ({ b with state := .choosing, result := "", error := none }, none)
    | "tab" =>
      if b.state == .filling && b.inputs.length > 1 then (b.nextField, none) else (b, none)
    | "esc" =>
      match b.state with
      | .filling => ({ b with state := .choosing, inputs := [] }, none)
      | .showing => ({ b with state := .choosing, result := "", error := none }, none)
      | .choosing => (b, none)
    | _ => (b, none)
  match own with
  | (b, some c) => (b, c)
  | (b, none) =>
    if b.state == .filling then ({ b with inputs := b.inputs.map (·.update k) }, .nothing)
    else (b, .nothing)

def receive (b : Browser) (outcome : Except String String) : Browser :=
  match outcome with
  | .ok text => { b with result := text, error := none, state := .showing }
  | .error e => { b with result := "", error := some e, state := .showing }

def hints : BrowseState → String
  | .choosing => "↑/↓ select • enter call • q quit"
  | .filling => "tab next field • enter call • esc back"
  | .showing => "enter continue • q quit"

/-- The view of a loaded module: its title, then the list, the fields or the result. -/
def loadedView (b : Browser) : String :=
  let title := " gir " ++ " " ++ ((b.module.map (·.2)).getD "") ++ "\n\n"
  let body := match b.state with
    | .choosing =>
      (if b.functions.isEmpty then "No functions in this namespace.\n" else "") ++
        String.join (b.functions.zipIdx.map fun (f, i) =>
          (if i == b.selected then block (" > " ++ f.signature ++ " ")
           else "  " ++ block f.signature) ++ "\n") ++
        "\n" ++ hints .choosing
    | .filling =>
      let f := b.current
      "Calling " ++ block f.name ++ "\n\n" ++
        String.join (b.inputs.zipIdx.map fun (field, i) =>
          field.view ++ " " ++ block ((f.params.getD i ("", "")).2) ++ "\n") ++
        "\n" ++ hints .filling
    | .showing =>
      "Result of " ++ block b.current.name ++ ":\n\n" ++
        (match b.error with
         | some e => block ("Error: " ++ e)
         | none => block b.result) ++
        "\n\n" ++ hints .showing
  title ++ body

/-- The text the browser shows: an error outside the result view takes the whole screen, and
nothing but a loading line shows before the module is attached. -/
def view (b : Browser) : String :=
  match b.error, b.module with
  | some e, _ =>
    if b.state != .showing then block ("Error: " ++ e ++ "\n\nPress q to quit.")
    else b.loadedView
  | none, none => "Loading " ++ b.target ++ "..."
  | none, some _ => b.loadedView

/-! ## Running against a session -/

/-- The functions of a namespace with their in parameters, in directory order. -/
def functionsOf (sid : Nat) : SessionM (List FunctionEntry) := do
  let n := ((← get).repo.spaceTypelib sid).nLocal
  let mut out : List FunctionEntry := []
  for i in List.range n do
    let bi ← repoM (Info.entry sid (i + 1))
    if bi.kind == .function then
      let name := Info.name (← get).repo bi
      let signature ← repoM (Info.describe name bi)
      let r := (← get).repo
      let ins := (Info.args r bi).filter fun a => Info.direction r a != .output
      let mut params : List (String × String) := []
      for a in ins do
        params := params ++ [(Info.name (← get).repo a, ← repoM (Info.typeString (Info.argType a)))]
      out := out ++ [{ name := name, signature := signature, params := params }]
  return out

/-- Loads the module of the target and its functions, or records the failure. -/
def load (b : Browser) (opener : Opener) : SessionM Browser := do
  match ← attempt (openModule opener b.target) with
  | .error e => return { b with error := some e.text }
  | .ok m =>
    let md ← Binding.module m
    match ← attempt (functionsOf md.space) with
    | .error e =>
      discard Binding.closeRuntime
      return { b with error := some e.text }
    | .ok functions =>
      return { b with module := some (m, "module " ++ md.name ++ "-" ++ md.version), functions }

def call (b : Browser) : SessionM (Except String String) := do
  match b.module with
  | none => return .error "module not loaded"
  | some (m, _) =>
    let texts := b.inputs.map fun f => f.text.toUTF8
    match ← attempt (callText m b.current.name texts) with
    | .ok out => return .ok (trimTrailingNewlines out)
    | .error e => return .error e.text
where
  trimTrailingNewlines (s : String) : String :=
    String.ofList (s.toList.reverse.dropWhile (· == '\n')).reverse

/-- Handles a key and runs the call it asks for; gives whether it quits. -/
def press (b : Browser) (k : Key) : SessionM (Browser × Bool) := do
  let (b, c) := b.update k
  match c with
  | .quit => return (b, true)
  | .nothing => return (b, false)
  | .call => return (b.receive (← b.call), false)

/-! ## A whole session -/

/-- One step of a browsing session: the key sent (none for the step after loading), the browser
after it, and whether the key quit. -/
structure Step where
  key : Option String
  browser : Browser
  quit : Bool

/-- A browsing session: the view before loading, the steps, and whether it quit. -/
structure Session where
  loading : String
  steps : List Step
  quit : Bool

/-- What a browsing session starts from. -/
structure Setup where
  backend : String := "native"
  typelibDirs : List String := []
  libDirs : List String := []
  env : List (String × String) := []
  files : Files := {}
  target : String

def pressAll (b : Browser) : List String → SessionM (List Step × Bool)
  | [] => return ([], false)
  | k :: rest => do
    let (b, q) ← b.press (Key.ofName k)
    if q then return ([{ key := some k, browser := b, quit := true }], true)
    let (steps, quit) ← pressAll b rest
    return ({ key := some k, browser := b, quit := false } :: steps, quit)

/-- Runs a browsing session: loads the target's module, then sends the keys. An unknown backend
fails before anything is shown. -/
def run (setup : Setup) (keys : List String) : Except Failure Session :=
  if setup.backend != "native" && setup.backend != "wasm" then
    .error (.plain ("unknown backend " ++ Quote.quote setup.backend))
  else
    let settings := Settings.ofEnv setup.env
    let opener := openerOf setup.backend settings setup.libDirs
    let start : Loaded.Session :=
      { repo := { files := setup.files, search := setup.typelibDirs ++ settings.typelibPath } }
    let b0 : Browser := { target := setup.target }
    let act : SessionM Session := do
      let b ← b0.load opener
      let (steps, quit) ← pressAll b keys
      discard (attempt Binding.closeRuntime)
      return { loading := b0.view, steps := { key := none, browser := b, quit := false } :: steps,
               quit }
    match (act.run.run start).1 with
    | .ok s => .ok s
    | .error e => .error e

end Browser

theorem Browser.update_ctrlC (b : Browser) : (b.update .ctrlC).2 = .quit := by
  simp [Browser.update, Key.text]

end Introspection.Cli
