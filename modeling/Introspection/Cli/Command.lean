import Introspection.Cli.Flags

/-!
# Commands of the command line

The commands form a tree under `gir`: `dump`, `inspect`, `call`, `browse` and `shell` do the
work, `help` explains any command and `completion` groups the shell completion scripts. Every
command knows its usage line, its one-line and long descriptions, how many arguments it takes,
its own flags and the flags it passes down to the commands below it.

Finding the command of an argument list follows the names that are not flags or flag values
from the root down; at the root, a name that is no command is refused with suggestions of
similar names. The flags of the command found are then parsed, and help is printed when asked
for or when the command only groups others.

Help text lists the usage lines, the commands below, the command's own flags and the flags it
inherits.
-/

namespace Introspection.Cli

open Introspection.Text

/-- What running a command does. -/
inductive Action where
  /-- The command only groups others. -/
  | group
  | dump
  | inspect
  | call
  | browse
  | shell
  | help
  /-- Prints the completion script of a shell. -/
  | completion (shell : String)
  deriving DecidableEq, Repr, Inhabited

/-- How many positional arguments a command takes. -/
inductive Arity where
  | any
  | exactly (n : Nat)
  | atLeast (n : Nat)
  /-- None: an argument is taken for an unknown command. -/
  | nothing
  deriving DecidableEq, Repr, Inhabited

/-- A command: its path of names from the root, its usage, descriptions, arity, flags and
action. -/
structure Command where
  path : List String
  use : String
  short : String
  long : String := ""
  arity : Arity := .any
  flags : List Flag := []
  /-- Flags this command and every command below it take. -/
  inherited : List Flag := []
  action : Action
  hidden : Bool := false
  /-- Whether the usage line leaves out `[flags]`. -/
  bareUseLine : Bool := false
  deriving Inhabited

def Command.name (c : Command) : String := c.path.getLastD ""

def Command.commandPath (c : Command) : String := " ".intercalate c.path

def Command.runnable (c : Command) : Bool := c.action != .group

def rootFlags : List Flag :=
  [{ name := "typelib-dir", kind := .texts, initial := "[]",
     usage := "directories searched for typelibs before GI_TYPELIB_PATH" },
   { name := "lib-dir", kind := .texts, initial := "[]",
     usage := "directories searched for shared libraries or guest modules" },
   { name := "backend", kind := .text, initial := "native",
     usage := "library backend: native or wasm" },
   { name := "verbose", short := some 'v', kind := .truth, initial := "false",
     usage := "debug logging" }]

def helpFlag (c : Command) : Flag :=
  { name := "help", short := some 'h', kind := .truth, initial := "false",
    usage := "help for " ++ c.name }

def completionShells : List String := ["bash", "zsh", "fish", "powershell"]

def commands : List Command :=
  [{ path := ["gir"], use := "gir", short := "Inspect typelibs and call the libraries they describe",
     inherited := rootFlags, action := .group },
   { path := ["gir", "dump"], use := "dump <namespace[-version]|file.typelib>",
     short := "Print every entry of a namespace", arity := .exactly 1, action := .dump,
     flags := [{ name := "format", short := some 'f', kind := .text, initial := "text",
                 usage := "output format: text or yaml" }] },
   { path := ["gir", "inspect"], use := "inspect <namespace[-version]> <name>",
     short := "Describe one entry of a namespace", arity := .exactly 2, action := .inspect },
   { path := ["gir", "call"], use := "call <namespace[-version]> <function> [args...]",
     short := "Call a namespace function with arguments parsed from text",
     long := "Arguments are parsed by the declared parameter type: numbers, true/false, " ++
       "strings, enum member names. Out parameters are not passed.",
     arity := .atLeast 2, action := .call },
   { path := ["gir", "browse"], use := "browse <namespace[-version]>",
     short := "Pick and call namespace functions interactively", arity := .exactly 1,
     action := .browse },
   { path := ["gir", "shell"], use := "shell <namespace[-version]>",
     short := "Call namespace functions from a line-editing prompt", arity := .exactly 1,
     action := .shell },
   { path := ["gir", "help"], use := "help [command]", short := "Help about any command",
     long := "Help provides help for any command in the application.\n" ++
       "Simply type gir help [path to command] for full details.",
     action := .help },
   { path := ["gir", "completion"], use := "completion",
     short := "Generate the autocompletion script for the specified shell",
     long := "Generate the autocompletion script for gir for the specified shell.\n" ++
       "See each sub-command's help for details on how to use the generated script.\n",
     arity := .nothing, action := .group }]
  ++ completionShells.map fun sh =>
    { path := ["gir", "completion", sh], use := sh,
      short := "Generate the autocompletion script for " ++ sh, arity := .nothing,
      bareUseLine := true, action := .completion sh,
      flags := [{ name := "no-descriptions", kind := .truth, initial := "false",
                  usage := "disable completion descriptions" }] }

/-- The commands directly below a command, in the order they were added. -/
def Command.children (c : Command) : List Command :=
  commands.filter fun d => d.path.dropLast == c.path && d.path.length == c.path.length + 1

def commandAt? (path : List String) : Option Command := commands.find? (·.path == path)

def Command.ancestors (c : Command) : List Command :=
  ((List.range c.path.length).reverse.filterMap fun n =>
    if n == 0 || n == c.path.length then none else commandAt? (c.path.take n))

def Command.inheritedFlags (c : Command) : List Flag :=
  c.ancestors.foldl (fun acc a => acc ++ a.inherited) []

/-- The flags of a command before help is added: its own, those it passes down, and those it
inherits. -/
def Command.knownFlags (c : Command) : List Flag := c.flags ++ c.inherited ++ c.inheritedFlags

def Command.parsedFlags (c : Command) : List Flag := c.knownFlags ++ [helpFlag c]

def Command.available (c : Command) : Bool :=
  !c.hidden && c.action != .help && (c.runnable || !c.children.isEmpty)

/-! ## Finding the command -/

/-- Whether an argument names a flag that takes the next argument as its value. -/
def takesValue (flags : List Flag) (s : String) : Bool :=
  if s.startsWith "--" && !s.contains '=' then
    match flags.find? (·.name == (s.drop 2).toString) with
    | some f => !f.optional
    | none => true
  else if s.startsWith "-" && !s.contains '=' && s.length == 2 then
    match flags.find? (·.short == (s.toList.drop 1).head?) with
    | some f => !f.optional
    | none => true
  else false

/-- The arguments that are neither flags nor flag values, up to `--`. -/
def stripFlags (flags : List Flag) : List String → List String
  | [] => []
  | s :: rest =>
    if s == "--" then []
    else if takesValue flags s then
      match rest with
      | [] | [_] => []
      | _ :: more => stripFlags flags more
    else if s != "" && !s.startsWith "-" then s :: stripFlags flags rest
    else stripFlags flags rest

/-- The arguments without the first occurrence of a name that is not a flag value. -/
def withoutName (flags : List Flag) (name : String) : List String → List String
  | [] => []
  | s :: rest =>
    if s == "--" then s :: rest
    else if takesValue flags s then
      match rest with
      | [] => [s]
      | v :: more => s :: v :: withoutName flags name more
    else if !s.startsWith "-" && s == name then rest
    else s :: withoutName flags name rest

/-- Follows command names down from a command, at most `fuel` levels. -/
def descend : Nat → Command → List String → Command × List String
  | 0, c, args => (c, args)
  | fuel + 1, c, args =>
    match stripFlags c.knownFlags args with
    | [] => (c, args)
    | next :: _ =>
      match c.children.find? (·.name == next) with
      | some d => descend fuel d (withoutName c.knownFlags next args)
      | none => (c, args)

def editDistance (a b : String) : Nat :=
  let xs := a.toLower.toList
  let ys := b.toLower.toList
  let first : List Nat := List.range (ys.length + 1)
  let last := xs.zipIdx.foldl (fun (prev : List Nat) (x, i) =>
    let row := ys.zipIdx.foldl (fun (row : List Nat) (y, j) =>
      let above := prev.getD (j + 1) 0
      let diag := prev.getD j 0
      let left := row.getLastD 0
      row ++ [min (min (above + 1) (left + 1)) (diag + if x == y then 0 else 1)]) [i + 1]
    row) first
  last.getLastD 0

/-- The commands below a command whose names are near a typed name or start with it. -/
def Command.suggestions (c : Command) (typed : String) : List String :=
  (c.children.filter fun d =>
    d.available && (editDistance typed d.name ≤ 2 || d.name.toLower.startsWith typed.toLower)).map
    (·.name)

def unknownCommand (c : Command) (typed : String) : String :=
  let s := c.suggestions typed
  "unknown command " ++ Quote.quote typed ++ " for " ++ Quote.quote c.commandPath ++
    (if s.isEmpty then "" else
      "\n\nDid you mean this?\n" ++ String.join (s.map fun n => "\t" ++ n ++ "\n"))

/-- The command an argument list names and the arguments left for it, or the refusal of an
unknown command at the root. -/
def find (args : List String) : Except String (Command × List String) :=
  let root := (commandAt? ["gir"]).getD default
  let (c, rest) := descend 3 root args
  if c.path.length == 1 then
    match stripFlags c.knownFlags rest with
    | typed :: _ => .error (unknownCommand c typed)
    | [] => .ok (c, rest)
  else .ok (c, rest)

def Command.checkArity (c : Command) (args : List String) : Except String Unit :=
  match c.arity with
  | .any => .ok ()
  | .exactly n =>
    if args.length == n then .ok ()
    else .error ("accepts " ++ toString n ++ " arg(s), received " ++ toString args.length)
  | .atLeast n =>
    if args.length ≥ n then .ok ()
    else .error ("requires at least " ++ toString n ++ " arg(s), only received " ++
      toString args.length)
  | .nothing =>
    match args with
    | a :: _ => .error ("unknown command " ++ Quote.quote a ++ " for " ++ Quote.quote c.commandPath)
    | [] => .ok ()

/-! ## Help -/

def trimTrailing (s : String) : String :=
  String.ofList (s.toList.reverse.dropWhile (fun c => c == ' ' || c == '\n' || c == '\t' || c == '\r')).reverse

def Command.useLine (c : Command) : String :=
  let line := " ".intercalate (c.path.dropLast ++ [c.use])
  if c.bareUseLine || (line.splitOn "[flags]").length > 1 then line else line ++ " [flags]"

def Command.usage (c : Command) : String :=
  let kids := c.children.mergeSort fun a b => decide (a.name ≤ b.name)
  let listed := kids.filter fun d => d.available || d.name == "help"
  let hasKids := kids.any (·.available)
  let pad := kids.foldl (fun m d => max m d.name.length) 11
  let localFlags := c.flags ++ c.inherited ++ [helpFlag c]
  let inherited := c.inheritedFlags
  "Usage:" ++ (if c.runnable then "\n  " ++ c.useLine else "")
    ++ (if hasKids then "\n  " ++ c.commandPath ++ " [command]" else "")
    ++ (if hasKids then
          "\n\nAvailable Commands:" ++ String.join (listed.map fun d =>
            "\n  " ++ d.name ++ String.ofList (List.replicate (pad - d.name.length) ' ') ++ " " ++
              d.short)
        else "")
    ++ "\n\nFlags:\n" ++ trimTrailing (usageLines localFlags)
    ++ (if inherited.isEmpty then "" else "\n\nGlobal Flags:\n" ++ trimTrailing (usageLines inherited))
    ++ (if hasKids then
          "\n\nUse \"" ++ c.commandPath ++ " [command] --help\" for more information about a command."
        else "")
    ++ "\n"

/-- The help text of a command: its long description, or its short one, and its usage. -/
def Command.helpText (c : Command) : String :=
  let about := if c.long.isEmpty then c.short else c.long
  let about := trimTrailing about
  (if about.isEmpty then "" else about ++ "\n\n")
    ++ (if c.runnable || !c.children.isEmpty then c.usage else "")

end Introspection.Cli
