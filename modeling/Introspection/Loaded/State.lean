import Introspection.Host.Library
import Introspection.Guest.Library
import Introspection.Host.World
import Introspection.Binding.Model
import Introspection.Invoke.Plan
import Introspection.Script.Doc

/-!
# The state of a session

Everything a running program touches lives in one state: the repository of loaded
namespaces, the host libraries with their heaps and functions, the handles through which
modules see libraries, the converters that move values in and out of library memory, the
frames of callbacks handed to native code, the invokers with their cached call plans, and the
trace of observable events.

Computations over the state may fail; a failure keeps every change made before it, as a
foreign call that fails half-way keeps what it already did. All tables are indexed by
position, so references between them are plain numbers.
-/

namespace Introspection.Loaded

open Introspection.Typelib Introspection.Repository Introspection.Info Introspection.Native
  Introspection.Host Introspection.Invoke

/-- Where a library's memory and functions live. -/
inductive Backing where
  /-- A host library of the runtime, by index. -/
  | host (lib : Nat)
  /-- A guest library compiled to WebAssembly, by index. -/
  | guest (lib : Nat)
  deriving DecidableEq, Repr, Inhabited

/-- A library as modules see it: a name over a backing library. -/
structure Handle where
  name : String
  backing : Backing
  /-- Whether calls of functions looked up through this handle are recorded in the trace. -/
  traced : Bool := false
  /-- Whether closing the handle only records an event, leaving the backing library open. -/
  shared : Bool := false
  deriving Inhabited

/-- Work a scope runs when it ends. -/
inductive Deferred where
  /-- Releases a callback frame and its code address. -/
  | releaseFrame (frame : Nat)
  deriving DecidableEq, Repr, Inhabited

/-- The temporaries of one conversion or call: blocks to free and work to run at the end. -/
structure Scope where
  /-- The library whose heap the blocks belong to. -/
  handle : Nat
  frees : List Nat := []
  defers : List Deferred := []
  deriving Inhabited

/-- What a callback frame runs when native code calls it. -/
inductive Target where
  /-- A host function value. -/
  | value (v : Value)
  deriving Inhabited

/-- A callback handed to native code: the callable describing its arguments, the native
signature, and the scope of its newest result. -/
structure Frame where
  conv : Nat
  callable : Info
  args : List Info
  ret : Info
  sig : Signature
  rtrans : Transfer
  target : Target
  /-- Arguments before the described ones: one for the instance of a signal handler. -/
  off : Nat := 0
  /-- The scope holding the newest result until the next call or the release. -/
  last : Option Nat := none
  ptr : Nat := 0
  /-- The frame is released once its callback's lifetime ends. -/
  released : Bool := false
  /-- The callback lives until its first call returns. -/
  async : Bool := false
  /-- For a signal handler, the wrapper it was connected on, which decodes its instance. -/
  emitter : Option Nat := none
  deriving Inhabited

/-- A converter: the library it works on, whether object values go through a binding codec,
the notified callbacks not yet released (code address and frame), and its destroy
notifier, made on first use. -/
structure Converter where
  handle : Nat
  /-- The invoker that resolves error domains and frees errors for this converter. -/
  invoker : Nat
  codec : Option Nat := none
  notified : List (Nat × Nat) := []
  destroy : Option (Except Failure Nat) := none
  deriving Inhabited

/-- A cached plan, keyed by typelib and blob offset. -/
structure PlanEntry where
  typelib : Nat
  offset : Nat
  plan : Plan
  deriving Inhabited

/-- An invoker: the library it calls, its converter, resolved symbols and cached plans. -/
structure Invoker where
  handle : Nat
  conv : Nat
  symbols : List (String × Nat) := []
  plans : List PlanEntry := []
  deriving Inhabited

/-- How a binding runtime opens the library of a namespace it reaches. -/
inductive Opener where
  /-- Libraries are only attached, never opened. -/
  | none
  /-- Each request is recorded; the listed namespaces are refused and the others get a library
  sharing the session library. -/
  | recorded (refused : List String)
  /-- The guest module of the namespace's shared library, looked up in directories. -/
  | guest (config : Guest.Config) (dirs : List String)
  /-- The system's shared library of the namespace, looked up in directories. -/
  | system (dirs : List String)
  deriving Inhabited

def Opener.opens : Opener → Bool
  | .none => false
  | _ => true

/-- The whole runtime state. -/
structure Session where
  repo : Repository := {}
  libs : Array Library := #[]
  guests : Array Guest.GuestLib := #[]
  /-- The exports of guest libraries resolved so far: the name and the function index. -/
  guestSymbols : Array (String × Nat) := #[]
  handles : Array Handle := #[]
  converters : Array Converter := #[]
  frames : Array Frame := #[]
  scopes : Array Scope := #[]
  invokers : Array Invoker := #[]
  /-- Observable events, in the order they happened. -/
  trace : Array Script.Doc := #[]
  /-- Named 64-bit values scripts set and read. -/
  vars : List (String × Nat) := []
  /-- Bodies of scripted host functions. -/
  bodies : Array Script.Doc := #[]
  /-- Namespaces whose entities scripts hold references to, one entry per reference. -/
  held : List Nat := []
  /-- Host values scripts stored by name. -/
  objects : List (String × Value) := []
  /-- The simulated object runtime of the session library, if it has one. -/
  world : Option World := none
  /-- The finalization registry of wrappers. -/
  finalizer : Finalize.Registry Binding.Destroy := {}
  overrides : Binding.Overrides := {}
  tables : Array Binding.Table := #[]
  /-- The binding runtime, once created. -/
  runtime : Option Binding.Runtime := none
  modules : Array Binding.Module := #[]
  classes : Array Binding.Class := #[]
  defs : Array Binding.Definition := #[]
  wrappers : Array Binding.Wrapper := #[]
  /-- How the runtime opens the library of a namespace it reaches. -/
  opener : Opener := .none
  /-- Whether the runtime looks namespaces up in the default repository instead. -/
  defaultRepository : Bool := false
  /-- The modules steps attached themselves, by namespace. -/
  attached : List (String × Nat) := []
  /-- A library handle distinct from the session library, once made. -/
  otherHandle : Option Nat := none
  deriving Inhabited

/-- Computations over the runtime state that may fail. -/
abbrev SessionM := ExceptT Failure (StateM Session)

namespace Session

def repoM {α : Type} (m : RepoM α) : SessionM α :=
  modifyGet fun s => let (a, r) := m.run s.repo; (a, { s with repo := r })

def repoE {α : Type} (m : RepoM (Except Failure α)) : SessionM α := do
  match ← repoM m with
  | .ok a => pure a
  | .error e => throw e

def lift {α : Type} (x : Except Failure α) : SessionM α :=
  match x with
  | .ok a => pure a
  | .error e => throw e

def attempt {α : Type} (m : SessionM α) : SessionM (Except Failure α) := fun s => do
  let (r, s) ← m.run s
  return (.ok r, s)

/-! ## Tables -/

def handle (id : Nat) : SessionM Handle := do return (← get).handles.getD id default

def library (id : Nat) : SessionM Library := do return (← get).libs.getD id default

def modifyLibrary (id : Nat) (f : Library → Library) : SessionM Unit :=
  modify fun s => { s with libs := s.libs.modify id f }

def converter (id : Nat) : SessionM Converter := do return (← get).converters.getD id default

def modifyConverter (id : Nat) (f : Converter → Converter) : SessionM Unit :=
  modify fun s => { s with converters := s.converters.modify id f }

def frame (id : Nat) : SessionM Frame := do return (← get).frames.getD id default

def modifyFrame (id : Nat) (f : Frame → Frame) : SessionM Unit :=
  modify fun s => { s with frames := s.frames.modify id f }

def invoker (id : Nat) : SessionM Invoker := do return (← get).invokers.getD id default

def modifyInvoker (id : Nat) (f : Invoker → Invoker) : SessionM Unit :=
  modify fun s => { s with invokers := s.invokers.modify id f }

def addLibrary (l : Library) : SessionM Nat :=
  modifyGet fun s => (s.libs.size, { s with libs := s.libs.push l })

def addHandle (h : Handle) : SessionM Nat :=
  modifyGet fun s => (s.handles.size, { s with handles := s.handles.push h })

def addConverter (c : Converter) : SessionM Nat :=
  modifyGet fun s => (s.converters.size, { s with converters := s.converters.push c })

def addFrame (f : Frame) : SessionM Nat :=
  modifyGet fun s => (s.frames.size, { s with frames := s.frames.push f })

/-- Adds an invoker with a fresh converter for a handle and returns its index. -/
def addInvoker (handle : Nat) (codec : Option Nat) : SessionM Nat := do
  let invoker := (← get).invokers.size
  let conv ← addConverter { handle := handle, invoker := invoker, codec := codec }
  modifyGet fun s => (invoker, { s with invokers := s.invokers.push { handle := handle, conv := conv } })

def scope (id : Nat) : SessionM Scope := do return (← get).scopes.getD id default

def modifyScope (id : Nat) (f : Scope → Scope) : SessionM Unit :=
  modify fun s => { s with scopes := s.scopes.modify id f }

def newScope (handle : Nat) : SessionM Nat :=
  modifyGet fun s => (s.scopes.size, { s with scopes := s.scopes.push { handle } })

/-- Schedules a block to be freed when a scope ends; without a scope nothing is recorded. -/
def scopeFree (sid : Option Nat) (addr : Nat) : SessionM Unit :=
  match sid with
  | some id => if addr == 0 then pure () else modifyScope id fun s => { s with frees := s.frees ++ [addr] }
  | none => pure ()

def scopeDefer (sid : Option Nat) (d : Deferred) : SessionM Unit :=
  match sid with
  | some id => modifyScope id fun s => { s with defers := s.defers ++ [d] }
  | none => pure ()

def pending (sid : Nat) : SessionM Nat := do return (← scope sid).frees.length

def hostOf (h : Nat) : SessionM Nat := do
  let hd ← handle h
  match hd.backing with
  | .host lib => return lib
  | .guest _ => throw (.unsupported .runtime ("host functions of library " ++ hd.name))

def guest (id : Nat) : SessionM Guest.GuestLib := do return (← get).guests.getD id default

def modifyGuest (id : Nat) (f : Guest.GuestLib → Guest.GuestLib) : SessionM Unit :=
  modify fun s => { s with guests := s.guests.modify id f }

def addGuest (g : Guest.GuestLib) : SessionM Nat :=
  modifyGet fun s => (s.guests.size, { s with guests := s.guests.push g })

def withGuest {α : Type} (id : Nat) (f : Guest.GuestLib → Guest.GuestLib × Except Failure α) :
    SessionM α := do
  let (g, r) := f (← guest id)
  modifyGuest id fun _ => g
  lift r

/-! ## Memory of a library -/

def withHeap {α : Type} (h : Nat) (f : Heap → Except Failure (α × Heap)) : SessionM α := do
  let lib ← hostOf h
  let l ← library lib
  let (a, heap) ← lift (f l.heap)
  modifyLibrary lib fun l => { l with heap }
  return a

def readHeap {α : Type} (h : Nat) (f : Heap → Except Failure α) : SessionM α := do
  lift (f (← library (← hostOf h)).heap)

/-- The pointer width of a library: guests have four-byte pointers. -/
def ptrSize (h : Nat) : SessionM Nat := do
  match (← handle h).backing with
  | .host lib => return (← library lib).heap.ptrSize
  | .guest _ => return 4

/-- The failure of an access through a null address of a shared object's memory. -/
def nullAccess : Failure := .nilPointer .runtime [] "gpointer"

/-- Whether a handle's library stands for a shared object of the system. -/
def isShared (h : Nat) : SessionM Bool := do
  match (← handle h).backing with
  | .host lib => return (← library lib).shared.isSome
  | .guest _ => return false

def checkAddress (h : Nat) (addr : Nat) : SessionM Unit := do
  if addr == 0 && (← isShared h) then throw nullAccess

/-- Allocates a block. The C heap of a shared object aligns to sixteen bytes, and a wider
alignment must be a power of two of at least a pointer's width. -/
def alloc (h : Nat) (size align : Nat) : SessionM Nat := do
  match (← handle h).backing with
  | .host _ =>
    if ← isShared h then
      let size := if size == 0 then 1 else size
      if align ≤ 16 then withHeap h fun heap => heap.alloc size 16
      else if align &&& (align - 1) != 0 || align % 8 != 0 then
        throw (.fault .runtime .allocation [] "" ""
          ("posix_memalign(" ++ toString align ++ ", " ++ toString size ++ ") failed")
          (.int .int32 22) none)
      else withHeap h fun heap => heap.alloc size align
    else withHeap h fun heap => heap.alloc size align
  | .guest g => withGuest g (·.alloc size align)

def free (h : Nat) (addr : Nat) : SessionM Unit := do
  match (← handle h).backing with
  | .host lib => modifyLibrary lib fun l => { l with heap := l.heap.release addr }
  | .guest g => modifyGuest g (·.free addr)

def read (h : Nat) (addr n : Nat) : SessionM ByteArray := do
  checkAddress h addr
  match (← handle h).backing with
  | .host _ => readHeap h fun heap => heap.read addr n
  | .guest g => lift ((← guest g).read addr n)

def write (h : Nat) (addr : Nat) (bytes : ByteArray) : SessionM Unit := do
  checkAddress h addr
  match (← handle h).backing with
  | .host _ => withHeap h fun heap => (heap.write addr bytes).map ((), ·)
  | .guest g => withGuest g fun lib => match lib.write addr bytes with
    | .ok lib => (lib, .ok ())
    | .error e => (lib, .error e)

def readLE (h : Nat) (addr n : Nat) : SessionM Nat := do
  checkAddress h addr
  match (← handle h).backing with
  | .host _ => readHeap h fun heap => heap.readLE addr n
  | .guest g => lift ((← guest g).readLE addr n)

def writeLE (h : Nat) (addr n v : Nat) : SessionM Unit := do
  checkAddress h addr
  match (← handle h).backing with
  | .host _ => withHeap h fun heap => (heap.writeLE addr n v).map ((), ·)
  | .guest g => withGuest g fun lib => match lib.writeLE addr n v with
    | .ok lib => (lib, .ok ())
    | .error e => (lib, .error e)

def readPointer (h : Nat) (addr : Nat) : SessionM Nat := do readLE h addr (← ptrSize h)

def writePointer (h : Nat) (addr v : Nat) : SessionM Unit := do writeLE h addr (← ptrSize h) v

def readCString (h : Nat) (addr : Nat) : SessionM ByteArray := do
  match (← handle h).backing with
  | .host _ => readHeap h fun heap => heap.readCString addr
  | .guest g => lift ((← guest g).readCBytes addr)

/-- Copies a string into a fresh block; a failed write frees the block again. -/
def writeCString (h : Nat) (s : ByteArray) : SessionM Nat := do
  let addr ← alloc h (s.size + 1) 1
  match ← attempt (write h addr (s.push 0)) with
  | .ok () => return addr
  | .error e => free h addr; throw e

/-! ## Trace -/

def record (d : Script.Doc) : SessionM Unit := modify fun s => { s with trace := s.trace.push d }

def reserve : SessionM Nat :=
  modifyGet fun s => (s.trace.size, { s with trace := s.trace.push .null })

def fill (i : Nat) (d : Script.Doc) : SessionM Unit :=
  modify fun s => { s with trace := s.trace.set! i d }

def takeTrace : SessionM (List Script.Doc) :=
  modifyGet fun s => (s.trace.toList, { s with trace := #[] })

/-! ## Variables -/

def var (name : String) : SessionM (Option Nat) := do return (← get).vars.lookup name

def setVar (name : String) (v : Nat) : SessionM Unit :=
  modify fun s => { s with vars := (name, v) :: s.vars.filter (·.1 != name) }

/-! ## Stored values -/

def storedValue (name : String) : SessionM (Option Value) := do return (← get).objects.lookup name

def storeValue (name : String) (v : Value) : SessionM Unit :=
  modify fun s => { s with objects := (name, v) :: s.objects.filter (·.1 != name) }

theorem lift_ok {α : Type} (a : α) : lift (.ok a) = pure a := rfl

end Session

end Introspection.Loaded
