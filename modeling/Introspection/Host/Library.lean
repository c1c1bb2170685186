import Introspection.Host.Heap
import Introspection.Native.Kind
import Introspection.Native.CLibrary

/-!
# Host libraries

A host library exports functions that run inside this runtime and work on the library's own
heap. Every function has a code address: addresses start at `0x7f0000000000` and step by 16 in
the order functions are registered or callbacks are made, so they never meet a heap address.
Registering a name again replaces the function but keeps its address. Callbacks get fresh
addresses from the same counter and can be removed again; registered functions stay.

A call checks, in order: that the library is open, that the argument count matches the
signature, and, for functions with declared slots, that the signature agrees with them (a
pointer slot may feed a 64-bit unsigned slot on 8-byte pointers, and a 32-bit one on 4-byte
pointers). Arguments are then normalized per slot, and so is the result.

A library may stand for a shared object of the system. Its symbols are the object's functions,
exported on first lookup; a call binds the function to the caller's slots first, which refuses
parameters without a width and more arguments than the registers and the stack area hold. Its
callbacks cannot return floating-point values, and a released callback keeps its address: it
answers zero until a later callback of the same slots takes the address again.
-/

namespace Introspection.Host

open Introspection.Native

def codeBase : Nat := 0x7f0000000000

/-- What runs when a host function is called. The payloads are indexes into tables the
runtime keeps: scripted bodies, typed bodies, frames of callbacks and converters. -/
inductive Body where
  /-- A function over raw slots, the `n`-th scripted body. -/
  | raw (n : Nat)
  /-- A function with declared slot types, the `n`-th typed body. -/
  | typed (n : Nat)
  /-- A function of the simulated object runtime, by name. -/
  | world (name : String)
  /-- A callback created for the frame with this index. -/
  | trampoline (frame : Nat)
  /-- The destroy notifier of the converter with this index. -/
  | destroyNotify (converter : Nat)
  /-- A callback answering as the `n`-th scripted reply says. -/
  | reply (n : Nat)
  /-- A function of a shared object of the system, by name. -/
  | shared (name : String)
  /-- A released callback of a shared object's library; it answers zero. -/
  | released
  deriving Inhabited, Repr, DecidableEq

/-- A function of a host library. -/
structure HostFn where
  name : String
  body : Body
  params : List ValueKind := []
  result : ValueKind := .void
  addr : Nat := 0
  /-- Whether the function declares its slots, which calls are checked against. -/
  typed : Bool := false
  /-- Whether the function was made as a callback. -/
  callback : Bool := false
  deriving Inhabited, Repr

namespace HostFn

def signature (f : HostFn) : Signature := { params := f.params, result := f.result }

end HostFn

/-- A host library: its heap, every function it ever made (by id), the current function of
each name and the function at each live code address. -/
structure Library where
  name : String
  heap : Heap
  fns : Array HostFn := #[]
  names : List (String × Nat) := []
  addrs : List (Nat × Nat) := []
  next : Nat := codeBase
  closed : Bool := false
  /-- The shared object of the system the library stands for, if any. -/
  shared : Option SharedObject := none
  /-- Released callback addresses waiting for reuse, with the text of their slots. -/
  idle : List (String × Nat) := []
  deriving Inhabited

namespace Library

def create (name : String) (ptrSize heapLimit : Nat) : Library :=
  { name, heap := Heap.create ptrSize heapLimit }

/-- The library of a shared object of the system, loaded under a name. -/
def openShared (o : SharedObject) (name : String) : Library :=
  { create name 8 0 with shared := some o }

def ptrSize (l : Library) : Nat := l.heap.ptrSize

def fn (l : Library) (id : Nat) : HostFn := l.fns.getD id default

def addFn (l : Library) (f : HostFn) : Library × Nat := ({ l with fns := l.fns.push f }, l.fns.size)

/-- Exports a function under its name: a name registered before keeps its address. -/
def register (l : Library) (f : HostFn) : Library × Nat :=
  let (addr, next) := match l.names.lookup f.name with
    | some old => ((l.fn old).addr, l.next)
    | none => (l.next, l.next + 16)
  let (l, id) := { l with next }.addFn { f with addr }
  ({ l with names := (f.name, id) :: l.names.filter (·.1 != f.name),
             addrs := (addr, id) :: l.addrs.filter (·.1 != addr) }, id)

def symbol (l : Library) (name : String) : Except Failure Nat :=
  if l.closed then .error (.closed .lookup ("library " ++ l.name))
  else match l.names.lookup name with
    | some id => .ok id
    | none => .error (.symbolNotFound name none)

/-- Finds a symbol; a shared object's function is exported on its first lookup. -/
def resolve (l : Library) (name : String) : Except Failure (Nat × Library) :=
  match l.shared with
  | none => (l.symbol name).map (·, l)
  | some o =>
    if l.closed then .error (.closed .lookup ("library " ++ l.name))
    else match l.names.lookup name with
      | some id => .ok (id, l)
      | none =>
        if CLibrary.finds o name then
          let (l, id) := l.register { name, body := .shared name }
          .ok (id, l)
        else .error (.symbolNotFound name (some (.plain (o.undefinedSymbol name))))

def voidParameter (sig : Signature) : Option Failure :=
  (sig.params.zipIdx.find? (·.1 == .void)).map fun (_, i) =>
    .unsupported .invoke ("parameter " ++ toString i ++ " of kind void")

/-- Six integer and eight floating-point registers carry arguments; nine more fit on the
stack. -/
def argumentsFit (sig : Signature) : Bool :=
  let floats := (sig.params.filter ValueKind.isFloat).length
  let ints := sig.params.length - floats
  (ints - 6) + (floats - 8) ≤ 9

/-- The refusal of binding a shared object's function to a caller's slots. -/
def bindRefusal (l : Library) (f : HostFn) (sig : Signature) : Option Failure :=
  match voidParameter sig with
  | some e => some e
  | none =>
    if argumentsFit sig then none
    else some (.fault .invoke .unsupported [l.name, f.name] "" ""
      ("bind " ++ sig.text ++ ": purego: too many arguments") .null none)

/-- The refusal of a callback of a shared object's library: a parameter without a width, or a
floating-point result. -/
def callbackRefusal (sig : Signature) : Option Failure :=
  match voidParameter sig with
  | some e => some e
  | none =>
    if sig.result.isFloat then
      let params := ", ".intercalate (sig.params.map ValueKind.hostName)
      some (.unsupported .encode ("callback " ++ sig.text ++
        ": purego: unsupported return type: func(" ++ params ++ ") " ++ sig.result.hostName))
    else none

/-- Makes a callback at a fresh code address; a shared object's library takes a released
address of the same slots first. -/
def newCallback (l : Library) (sig : Signature) (body : Body) : Except Failure (Nat × Library) :=
  let record (addr : Nat) : HostFn :=
    { name := "callback", body, params := sig.params, result := sig.result, addr,
      typed := true, callback := true }
  match l.shared with
  | some _ =>
    match callbackRefusal sig with
    | some e => .error e
    | none =>
      match l.idle.find? (·.1 == sig.text) with
      | some (_, addr) =>
        let (l, id) := { l with idle := l.idle.erase (sig.text, addr) }.addFn (record addr)
        .ok (addr, { l with addrs := (addr, id) :: l.addrs.filter (·.1 != addr) })
      | none =>
        let addr := l.next
        let (l, id) := { l with next := l.next + 16 }.addFn (record addr)
        .ok (addr, { l with addrs := (addr, id) :: l.addrs })
  | none =>
    if l.closed then .error (.closed .runtime ("library " ++ l.name))
    else
      let addr := l.next
      let (l, id) := { l with next := l.next + 16 }.addFn (record addr)
      .ok (addr, { l with addrs := (addr, id) :: l.addrs })

/-- Removes a callback; registered functions stay. A shared object's library keeps the address
answering zero and offers it to later callbacks of the same slots, the address released last
first. -/
def freeCallback (l : Library) (addr : Nat) : Library :=
  match l.addrs.lookup addr with
  | some id =>
    let f := l.fn id
    if !f.callback then l
    else match l.shared with
      | none => { l with addrs := l.addrs.filter (·.1 != addr) }
      | some _ =>
        if f.body == .released then l
        else
          let (l, id) := l.addFn { f with body := .released }
          { l with addrs := (addr, id) :: l.addrs.filter (·.1 != addr),
                   idle := (f.signature.text, addr) :: l.idle }
  | none => l

def callbackCount (l : Library) : Nat :=
  (l.addrs.filter fun (_, id) => (l.fn id).callback && (l.fn id).body != .released).length

def lookup (l : Library) (addr : Nat) : Option Nat := l.addrs.lookup addr

def compatible (l : Library) (have_ want : ValueKind) : Bool :=
  have_ == want ||
    (if l.ptrSize == 8 then (have_ == .ptr && want == .u64) || (have_ == .u64 && want == .ptr)
     else (have_ == .ptr && want == .u32) || (have_ == .u32 && want == .ptr))

def prepareCall (l : Library) (f : HostFn) (sig : Signature) (args : List Nat) :
    Except Failure (List Nat) := do
  if l.closed then throw (.closed .invoke ("library " ++ l.name))
  if args.length != sig.params.length then
    throw (.argCount [f.name] args.length sig.params.length)
  if f.typed then
    if sig.params.length != f.params.length then
      throw (.argCount [f.name] sig.params.length f.params.length)
    let mismatch := Failure.typeMismatch .invoke [f.name] sig.text f.signature.text
    if !(sig.params.zip f.params).all fun (h, w) => l.compatible h w then throw mismatch
    if sig.result != .void && !l.compatible sig.result f.result then throw mismatch
  return (sig.params.zip args).map fun (k, a) => k.normalize a

def noFunction (addr : Nat) : Failure :=
  .simple .invoke .notFound ("no function at 0x" ++ Text.Hex.ofNat addr)

theorem register_keeps_address (l : Library) (f : HostFn) (old : Nat)
    (h : l.names.lookup f.name = some old) :
    ((l.register f).1.fn (l.register f).2).addr = (l.fn old).addr := by
  simp [register, h, addFn, fn]

end Library

end Introspection.Host
