import Introspection.Guest.Exec

/-!
# Guest instances

Instantiating a checked module resolves its imports, builds its globals, memory and function
table, copies its data segments into memory and runs its start function. The only module a
guest may import from is the system interface `wasi_snapshot_preview1`, when it is enabled;
its calls see no arguments, no environment, no clock and no files, and writes to the standard
streams are accepted and dropped.

A trap is reported as `wasm error: <reason>` followed by the stack trace: one line per
function it passed through, innermost first, each the function's module and name from the
name section (or `$` and its index) and its type.
-/

namespace Introspection.Guest

def systemModule : String := "wasi_snapshot_preview1"

def systemCalls : List (String × FuncType) :=
  let i := ValType.i32
  let l := ValType.i64
  [("args_get", ⟨[i, i], [i]⟩), ("args_sizes_get", ⟨[i, i], [i]⟩),
    ("environ_get", ⟨[i, i], [i]⟩), ("environ_sizes_get", ⟨[i, i], [i]⟩),
    ("clock_res_get", ⟨[i, i], [i]⟩), ("clock_time_get", ⟨[i, l, i], [i]⟩),
    ("fd_advise", ⟨[i, l, l, i], [i]⟩), ("fd_allocate", ⟨[i, l, l], [i]⟩),
    ("fd_close", ⟨[i], [i]⟩), ("fd_datasync", ⟨[i], [i]⟩), ("fd_fdstat_get", ⟨[i, i], [i]⟩),
    ("fd_fdstat_set_flags", ⟨[i, i], [i]⟩), ("fd_fdstat_set_rights", ⟨[i, l, l], [i]⟩),
    ("fd_filestat_get", ⟨[i, i], [i]⟩), ("fd_filestat_set_size", ⟨[i, l], [i]⟩),
    ("fd_filestat_set_times", ⟨[i, l, l, i], [i]⟩), ("fd_pread", ⟨[i, i, i, l, i], [i]⟩),
    ("fd_prestat_get", ⟨[i, i], [i]⟩), ("fd_prestat_dir_name", ⟨[i, i, i], [i]⟩),
    ("fd_pwrite", ⟨[i, i, i, l, i], [i]⟩), ("fd_read", ⟨[i, i, i, i], [i]⟩),
    ("fd_readdir", ⟨[i, i, i, l, i], [i]⟩), ("fd_renumber", ⟨[i, i], [i]⟩),
    ("fd_seek", ⟨[i, l, i, i], [i]⟩), ("fd_sync", ⟨[i], [i]⟩), ("fd_tell", ⟨[i, i], [i]⟩),
    ("fd_write", ⟨[i, i, i, i], [i]⟩), ("path_create_directory", ⟨[i, i, i], [i]⟩),
    ("path_filestat_get", ⟨[i, i, i, i, i], [i]⟩),
    ("path_filestat_set_times", ⟨[i, i, i, i, l, l, i], [i]⟩),
    ("path_link", ⟨[i, i, i, i, i, i, i], [i]⟩),
    ("path_open", ⟨[i, i, i, i, i, l, l, i, i], [i]⟩),
    ("path_readlink", ⟨[i, i, i, i, i, i], [i]⟩), ("path_remove_directory", ⟨[i, i, i], [i]⟩),
    ("path_rename", ⟨[i, i, i, i, i, i], [i]⟩), ("path_symlink", ⟨[i, i, i, i, i], [i]⟩),
    ("path_unlink_file", ⟨[i, i, i], [i]⟩), ("poll_oneoff", ⟨[i, i, i, i], [i]⟩),
    ("proc_exit", ⟨[i], []⟩), ("proc_raise", ⟨[i], [i]⟩), ("sched_yield", ⟨[], [i]⟩),
    ("random_get", ⟨[i, i], [i]⟩), ("sock_accept", ⟨[i, i, i], [i]⟩),
    ("sock_recv", ⟨[i, i, i, i, i, i], [i]⟩), ("sock_send", ⟨[i, i, i, i, i], [i]⟩),
    ("sock_shutdown", ⟨[i, i], [i]⟩)]

def badDescriptor : UInt64 := 8

def notImplemented : UInt64 := 52

/-- Writes 32-bit little-endian words at addresses, or traps out of bounds. -/
def storeWords (st : Store) (words : List (Nat × Nat)) : Store × Except Trap (List UInt64) :=
  if words.all fun (a, _) => st.fits a 4 then
    (words.foldl (fun st (a, v) => st.writeLE a 4 v) st, .ok [0])
  else (st, .error .outOfBounds)

def systemCall (name : String) (st : Store) (args : List UInt64) : Store × Except Trap (List UInt64) :=
  let a (k : Nat) : Nat := (args.getD k 0).toUInt32.toNat
  match name with
  | "args_sizes_get" | "environ_sizes_get" => storeWords st [(a 0, 0), (a 1, 0)]
  | "args_get" | "environ_get" | "sched_yield" => (st, .ok [0])
  | "fd_write" =>
    let fd := a 0
    let iovs := a 1
    let count := a 2
    if fd != 1 && fd != 2 then (st, .ok [badDescriptor])
    else if !st.fits iovs (8 * count) then (st, .error .outOfBounds)
    else
      let total := (List.range count).foldl (fun acc k => acc + st.readLE (iovs + 8 * k + 4) 4) 0
      storeWords st [(a 3, total)]
  | "fd_read" =>
    if a 0 != 0 then (st, .ok [badDescriptor]) else storeWords st [(a 3, 0)]
  | "fd_close" | "fd_fdstat_get" | "fd_prestat_get" | "fd_prestat_dir_name" | "fd_seek" =>
    (st, .ok [badDescriptor])
  | "proc_exit" => (st, .error (.exit (a 0)))
  | _ => (st, .ok [notImplemented])

/-- A guest module ready to run: its program, its store, and the exit code once it exited. -/
structure Instance where
  program : Program
  store : Store
  exited : Option Nat := none
  deriving Inhabited

namespace Program

/-- The host side of the program's imports: the system call each imported function names. -/
def host (p : Program) : HostCall := fun f st args =>
  let names := p.module.imports.filterMap fun i => match i.desc with
    | .func _ => some i.name
    | _ => none
  systemCall (names.getD f "") st args

def frameText (p : Program) (f : Nat) : String :=
  let m := p.module
  let imported := m.imports.filterMap fun i => match i.desc with
    | .func _ => some (i.module ++ "." ++ i.name)
    | _ => none
  let name := if f < imported.length then imported.getD f ""
    else m.moduleName ++ "." ++ m.funcName f
  let t := (m.funcType? f).getD {}
  let results := match t.results with
    | [] => ""
    | [r] => " " ++ r.name
    | rs => " (" ++ ",".intercalate (rs.map ValType.name) ++ ")"
  name ++ "(" ++ ",".intercalate (t.params.map ValType.name) ++ ")" ++ results

def traceLimit : Nat := 30

def trapText (p : Program) (t : Trap) (trace : List Nat) : String :=
  match t with
  | .exit _ => t.message
  | _ =>
    let frames := (trace.take traceLimit).map p.frameText
    let frames := if trace.length ≥ traceLimit then frames ++ ["... maybe followed by omitted frames"]
      else frames
    "wasm error: " ++ t.message ++ "\nwasm stack trace:\n\t" ++ "\n\t".intercalate frames

def constValue (globals : Array UInt64) : List Instr → UInt64
  | [.const v] => v
  | [.globalGet k] => globals.getD k 0
  | [.refFunc f] => funcRef f
  | _ => 0

/-- Checks the imports against the system interface, when it is enabled. -/
def resolveImports (p : Program) (system : Bool) : Except String Unit := do
  let modules := p.module.imports.foldl
    (fun acc i => if acc.contains i.module then acc else acc ++ [i.module]) []
  for mod in modules do
    if mod != systemModule || !system then throw ("module[" ++ mod ++ "] not instantiated")
    for i in p.module.imports.filter (·.module == mod) do
      match systemCalls.lookup i.name with
      | none =>
        throw (Text.Quote.quote i.name ++ " is not exported in module " ++ Text.Quote.quote mod)
      | some actual =>
        match i.desc with
        | .func t =>
          let expected := p.module.types.getD t {}
          if expected != actual then
            throw ("import func[" ++ mod ++ "." ++ i.name ++ "]: signature mismatch: " ++
              expected.text ++ " != " ++ actual.text)
        | .table .. | .memory _ | .global .. =>
          throw ("export " ++ Text.Quote.quote i.name ++ " in module " ++ Text.Quote.quote mod ++
            " is a func, not a " ++ (match i.desc with
              | .table .. => "table" | .memory _ => "memory" | _ => "global"))

/-- Builds the store: globals, memory of the minimum size, the table with its elements, and
memory with its data, checking that every active data segment fits. -/
def initialStore (p : Program) : Except String Store := do
  let m := p.module
  let globals := m.globals.foldl (fun gs g => gs.push (constValue gs g.init)) #[]
  let (memory, maxPages) := match m.memory? with
    | some l => (ByteArray.mk (Array.replicate (l.min * pageSize) 0), l.max.getD maxPages)
    | none => (ByteArray.empty, 0)
  let tableSize := match m.tables.head? with
    | some (_, l) => l.min
    | none => 0
  let mut table : Array (Option Nat) := Array.replicate tableSize none
  for (seg, k) in m.elems.zipIdx do
    match seg.offset with
    | some e =>
      let off := (constValue globals e).toUInt32.toNat
      if off + seg.funcs.length > table.size then
        throw ("element[" ++ toString k ++ "]: out of bounds table access")
      for (f, j) in seg.funcs.zipIdx do
        table := table.set! (off + j) f
    | none => pure ()
  let mut st : Store := { memory := memory, maxPages := maxPages, globals := globals, table := table }
  for (seg, k) in m.data.zipIdx do
    match seg.offset with
    | some e =>
      let off := Arith.signed 32 (constValue globals e).toNat
      if off < 0 || off.toNat + seg.bytes.size > st.memory.size then
        throw ("data[" ++ toString k ++ "]: out of bounds memory access")
    | none => pure ()
  for seg in m.data do
    match seg.offset with
    | some e => st := st.writeBytes (constValue globals e).toUInt32.toNat seg.bytes
    | none => pure ()
  return st

/-- Instantiates a program: resolves imports, builds the store and runs the start function. -/
def instantiate (p : Program) (system : Bool) : Except String Instance := do
  p.resolveImports system
  let st ← p.initialStore
  match p.module.start with
  | none => return { program := p, store := st }
  | some f =>
    match p.call p.host st f [] with
    | (st, .ok _) => return { program := p, store := st }
    | (_, .error (t, tr)) =>
      match t with
      | .exit _ => throw t.message
      | _ => throw ("start " ++ p.module.funcDesc f ++ " failed: " ++ p.trapText t tr)

end Program

namespace Instance

/-- Calls a function of the instance; a trap is reported with its stack trace. After the guest
exits, every call fails with its exit. -/
def call (inst : Instance) (f : Nat) (args : List UInt64) : Instance × Except String (List UInt64) :=
  match inst.exited with
  | some code => (inst, .error (Trap.exit code).message)
  | none =>
    let p := inst.program
    match p.call p.host inst.store f args with
    | (st, .ok res) => ({ inst with store := st }, .ok res)
    | (st, .error (t, tr)) =>
      let exited := match t with
        | .exit code => some code
        | _ => none
      ({ inst with store := st, exited }, .error (p.trapText t tr))

def export? (inst : Instance) (name : String) : Option Nat := inst.program.module.exportedFunc? name

end Instance

theorem systemCall_yield (st : Store) : systemCall "sched_yield" st [] = (st, .ok [0]) := rfl

end Introspection.Guest
