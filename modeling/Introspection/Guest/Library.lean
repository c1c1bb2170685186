import Introspection.Guest.Instance
import Introspection.Guest.Wit
import Introspection.Text.Utf8

/-!
# Guest libraries

A C library compiled to WebAssembly, used as a native library: its exported functions are the
symbols, its linear memory is the address space (pointers are four bytes) and its own
allocator exports serve allocations: `malloc` and `free` (or the names configured), else
`cabi_realloc`, which needs each block's size and alignment to release it.

Opening a library reads the declared signatures, decodes, checks and instantiates the module,
runs its `_initialize` export if it has one, finds its allocator and checks every declared
signature against its export. Calls check the call's slots against the export's core type and
its declaration; 32-bit arguments are cut to their low half and results are normalized for the
call's result slot. Memory accesses outside linear memory fail; addresses past 4 GiB never fit.
-/

namespace Introspection.Guest

open Introspection.Native

/-- How a guest library is opened. -/
structure Config where
  /-- Declared signatures of exports, by export name. -/
  signatures : List (String × String) := []
  malloc : String := ""
  free : String := ""
  /-- The most pages memory may have; zero means 65536. -/
  memoryLimitPages : Nat := 0
  /-- Whether the system interface is available to the guest. -/
  system : Bool := false
  deriving Inhabited

namespace Config

def mallocName (c : Config) : String := if c.malloc.isEmpty then "malloc" else c.malloc

def freeName (c : Config) : String := if c.free.isEmpty then "free" else c.free

def pageLimit (c : Config) : Nat := if c.memoryLimitPages == 0 then maxPages else c.memoryLimitPages

end Config

/-- The allocator a guest exports. -/
inductive Allocator where
  | pair (malloc free : Nat)
  | realloc (f : Nat)
  deriving Inhabited

/-- An open guest library. -/
structure GuestLib where
  name : String
  inst : Instance
  decls : List (String × Declared)
  allocator : Allocator
  /-- The blocks handed out through `cabi_realloc`: address, size and alignment. -/
  sizes : List (Nat × Nat × Nat) := []
  closed : Bool := false
  deriving Inhabited

def loadError (detail : String) (cause : String) : Failure := .loadFailed detail (some (.plain cause))

def readDeclarations (sigs : List (String × String)) : Except Failure (List (String × Declared)) := do
  let sorted := sigs.mergeSort (fun a b => decide (a.1 ≤ b.1))
  let mut out : List (String × Declared) := []
  for (sym, text) in sorted do
    match Declared.parse text with
    | .ok d => out := out ++ [(sym, d)]
    | .error e => throw (.wrap .parse .invalidInput e ("signature of " ++ sym))
  return out

namespace GuestLib

def «open» (name : String) (bytes : ByteArray) (cfg : Config) : Except Failure GuestLib := do
  let decls ← readDeclarations cfg.signatures
  let m ← match Module.decode bytes cfg.pageLimit with
    | .ok m => pure m
    | .error e => throw (loadError ("compile " ++ name) e)
  let p ← match m.check with
    | .ok p => pure p
    | .error e => throw (loadError ("compile " ++ name) e)
  let inst ← match p.instantiate cfg.system with
    | .ok i => pure i
    | .error e => throw (loadError ("instantiate " ++ name) e)
  let inst ← match inst.export? "_initialize" with
    | some f =>
      match inst.call f [] with
      | (inst, .ok _) => pure inst
      | (_, .error e) => throw (loadError ("initialize " ++ name) e)
    | none => pure inst
  let alloc ← match inst.export? cfg.mallocName, inst.export? cfg.freeName with
    | some a, some f => pure (Allocator.pair a f)
    | _, _ =>
      match inst.export? "cabi_realloc" with
      | some r => pure (Allocator.realloc r)
      | none =>
        throw (.fault .load .symbolNotFound [name] "" ""
          ("guest exports neither " ++ cfg.mallocName ++ "/" ++ cfg.freeName ++ " nor cabi_realloc")
          .null none)
  for (sym, d) in decls do
    match inst.export? sym with
    | none =>
      throw (.symbolNotFound sym (some (.invalidInput .load "declared signature has no export")))
    | some f =>
      let t := (inst.program.module.funcType? f).getD {}
      if !d.matches t then throw (.typeMismatch .load [sym] d.text (coreSignature t))
  return { name, inst, decls, allocator := alloc }

def exports (g : GuestLib) : List String :=
  let names := (g.inst.program.module.exports.filter (·.kind == .func)).map (·.name)
  names.mergeSort (fun a b => decide (a ≤ b))

def symbol (g : GuestLib) (sym : String) : Except Failure Nat :=
  if g.closed then .error (.closed .lookup ("library " ++ g.name))
  else match g.inst.export? sym with
    | some f => .ok f
    | none => .error (.symbolNotFound sym none)

def funcType (g : GuestLib) (f : Nat) : FuncType := (g.inst.program.module.funcType? f).getD {}

/-- Checks a call's slots against a function's core type and its declaration. -/
def checkCall (g : GuestLib) (sym : String) (f : Nat) (sig : Signature) : Except Failure Unit := do
  let t := g.funcType f
  let decl := g.decls.lookup sym
  let want := match decl with
    | some d => d.text
    | none => coreSignature t
  let mismatch : Failure := .typeMismatch .invoke [g.name, sym] sig.text want
  if t.params.length != sig.params.length then
    throw (.argCount [g.name, sym] sig.params.length t.params.length)
  if !(sig.params.zip t.params).all (fun (k, p) => lowerSlot k == p) then throw mismatch
  if sig.result != .void then
    if t.results.length != 1 || t.results.head? != some (lowerSlot sig.result) then throw mismatch
  match decl with
  | none => pure ()
  | some d =>
    if !(sig.params.zip d.params).all (fun (k, w) => slotFits k w) then throw mismatch
    if sig.result != .void && !slotFits sig.result d.result then throw mismatch

/-- Calls an exported function with raw arguments; the result is normalized for the slot. -/
def call (g : GuestLib) (sym : String) (f : Nat) (sig : Signature) (args : List Nat) :
    GuestLib × Except Failure Nat :=
  if args.length != sig.params.length then
    (g, .error (.argCount [sym] args.length sig.params.length))
  else match g.checkCall sym f sig with
    | .error e => (g, .error e)
    | .ok () =>
      if g.closed then (g, .error (.closed .invoke ("library " ++ g.name)))
      else
        let t := g.funcType f
        let ins := (args.zip t.params).map fun (a, p) =>
          if p == .i32 || p == .f32 then (a % 2 ^ 32).toUInt64 else a.toUInt64
        match g.inst.call f ins with
        | (inst, .ok out) =>
          let g := { g with inst }
          if sig.result == .void then (g, .ok 0)
          else match out with
            | r :: _ => (g, .ok (sig.result.normalize r.toNat))
            | [] => (g, .ok 0)
        | (inst, .error e) =>
          ({ g with inst }, .error (.fault .invoke .invalidInput [g.name, sym] "" "" "guest call failed"
            .null (some (.plain e))))

/-! ## Memory -/

def memorySize (g : GuestLib) : Nat := g.inst.store.memory.size

def outOfBounds (op : String) (addr n : Nat) : Failure :=
  .simple .runtime .outOfBounds
    ("guest memory " ++ op ++ " out of bounds: addr=0x" ++ Text.Hex.ofNat addr ++ ", length=" ++
      toString n)

def fits (g : GuestLib) (addr n : Nat) : Bool := addr < 2 ^ 32 && addr + n ≤ g.memorySize

def read (g : GuestLib) (addr n : Nat) : Except Failure ByteArray :=
  if g.fits addr n then .ok (g.inst.store.readBytes addr n) else .error (outOfBounds "read" addr n)

def write (g : GuestLib) (addr : Nat) (bs : ByteArray) : Except Failure GuestLib :=
  if g.fits addr bs.size then
    .ok { g with inst := { g.inst with store := g.inst.store.writeBytes addr bs } }
  else .error (outOfBounds "write" addr bs.size)

def readLE (g : GuestLib) (addr n : Nat) : Except Failure Nat :=
  if g.fits addr n then .ok (g.inst.store.readLE addr n) else .error (outOfBounds "read" addr n)

def writeLE (g : GuestLib) (addr n v : Nat) : Except Failure GuestLib :=
  if g.fits addr n then
    .ok { g with inst := { g.inst with store := g.inst.store.writeLE addr n v } }
  else .error (outOfBounds "write" addr n)

/-! ## Allocation -/

def runExport (g : GuestLib) (f : Nat) (args : List Nat) : GuestLib × Except String (List UInt64) :=
  match g.inst.call f (args.map Nat.toUInt64) with
  | (inst, r) => ({ g with inst }, r)

/-- Gives a block back to the guest's allocator; blocks it did not hand out are ignored. -/
def release (g : GuestLib) (ptr : Nat) : GuestLib :=
  match g.allocator with
  | .pair _ free => (g.runExport free [ptr]).1
  | .realloc r =>
    match g.sizes.find? (·.1 == ptr) with
    | some (_, size, align) =>
      let g := { g with sizes := g.sizes.filter (·.1 != ptr) }
      (g.runExport r [ptr, size, align, 0]).1
    | none => g

/-- Allocates zeroed memory of at least one byte, aligned as asked. -/
def alloc (g : GuestLib) (size align : Nat) : GuestLib × Except Failure Nat :=
  let size := if size == 0 then 1 else size
  let align := if align == 0 then 1 else align
  if g.closed then (g, .error (.closed .runtime ("library " ++ g.name)))
  else
    let (g, res) := match g.allocator with
      | .pair malloc _ => g.runExport malloc [size]
      | .realloc r => g.runExport r [0, 0, align, size]
    match res with
    | .error e => (g, .error (.allocationFailed .runtime size align (some (.plain e))))
    | .ok out =>
      let ptr := (out.headD 0).toUInt32.toNat
      if ptr == 0 then (g, .error (.allocationFailed .runtime size align none))
      else
        let g := match g.allocator with
          | .realloc _ => { g with sizes := g.sizes ++ [(ptr, size, align)] }
          | .pair .. => g
        if ptr % align != 0 then
          (g.release ptr, .error (.simple .runtime .allocation
            ("guest returned 0x" ++ Text.Hex.ofNat ptr ++ ", not aligned to " ++ toString align)))
        else match g.write ptr (ByteArray.mk (Array.replicate size 0)) with
          | .ok g => (g, .ok ptr)
          | .error _ => (g.release ptr, .error (outOfBounds "zero" ptr size))

/-- Frees a block; null, addresses past 4 GiB and a closed library are ignored. -/
def free (g : GuestLib) (addr : Nat) : GuestLib :=
  if addr ≥ 2 ^ 32 || addr == 0 || g.closed then g else g.release addr

/-! ## Strings -/

/-- Reads the bytes of a NUL-terminated string, up to the first NUL, which must lie in
memory. -/
def readCBytes (g : GuestLib) (addr : Nat) : Except Failure ByteArray :=
  if addr == 0 then .error (.plain "read string: null pointer")
  else if !g.fits addr 1 then .error (outOfBounds "read" addr 1)
  else
    let stop := min g.memorySize (addr + 2 ^ 24)
    let bytes := g.inst.store.readBytes addr (stop - addr)
    match bytes.toList.findIdx? (· == 0) with
    | some i => .ok (bytes.extract 0 i)
    | none =>
      if stop == g.memorySize then .error (outOfBounds "read" stop 1)
      else .error (.plain ("read string: no terminator within " ++ toString (2 ^ 24 : Nat) ++ " bytes"))

def readCString (g : GuestLib) (addr : Nat) : Except Failure String :=
  (g.readCBytes addr).map Text.Utf8.lossy

def writeCString (g : GuestLib) (s : String) : GuestLib × Except Failure Nat :=
  let bytes := s.toUTF8.push 0
  match g.alloc bytes.size 1 with
  | (g, .error e) => (g, .error e)
  | (g, .ok p) =>
    match g.write p bytes with
    | .ok g => (g, .ok p)
    | .error e => (g.free p, .error e)

def close (g : GuestLib) : GuestLib := { g with closed := true }

end GuestLib

/-- The guest module file that holds the code of a shared library: the file name up to its
first `.so`, `.dylib` or `.dll` after the first character, with `.wasm`. -/
def moduleFile (sharedLibrary : String) : String :=
  let trimmed := sharedLibrary.toList.reverse.dropWhile (· == '/') |>.reverse
  let base := match (String.ofList trimmed).splitOn "/" with
    | [] => "."
    | parts => parts.getLast!
  let base := if trimmed.isEmpty then (if sharedLibrary.isEmpty then "." else "/") else base
  let cut (b : String) (ext : String) : Option String :=
    match b.splitOn ext with
    | first :: _ :: _ => if first.isEmpty then none else some first
    | _ => none
  let stem := match cut base ".so" with
    | some s => s
    | none => match cut base ".dylib" with
      | some s => s
      | none => (cut base ".dll").getD base
  stem ++ ".wasm"

/-- Without a configured limit, memory may grow to the most pages any memory may have. -/
theorem Config.pageLimit_default : ({} : Config).pageLimit = maxPages := rfl

end Introspection.Guest
