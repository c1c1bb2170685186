import Introspection.Loaded.State
import Introspection.Script.Values

/-!
# Calling library functions

Functions are resolved by name through a handle and remembered by the invoker that asked, so
a later registration under the same name does not change what an invoker calls. A call
through a traced handle records one event: the symbol, the signature, the raw arguments and
then the result or the failure. The event takes its place in the trace when the call starts,
so events raised during the call follow it.

Everything that can reach native code again (calls, object codecs, callback targets) is
passed in as `Hooks`, which the outermost layer ties together with a bound on nesting.
-/

namespace Introspection.Loaded

open Introspection.Typelib Introspection.Repository Introspection.Info Introspection.Native
  Introspection.Host Introspection.Script

/-- Runs a function of a host library: library, function, signature and arguments. -/
abbrev CallFn := Nat → Nat → Signature → List Nat → SessionM Nat

/-- Options of one conversion into native form. -/
structure Options where
  path : List String := []
  /-- The scope collecting temporaries; without one they belong to the caller. -/
  scope : Option Nat := none
  nullable : Bool := false
  /-- The ownership handed to the callee. -/
  transfer : Transfer := .nothing
  /-- The lifetime of a callback argument (call, async, notified or forever). -/
  callbackScope : Nat := 0
  deriving Inhabited

def Options.at (o : Options) (elem : String) : Options := { o with path := o.path ++ [elem] }

/-- The behaviour of the layers above the converter, which may reach native code again. -/
structure Hooks where
  call : CallFn
  /-- Converts an object, interface, struct or union value through a binding codec. -/
  encodeObject : Nat → Value → Info → Info → Options → SessionM Nat
  /-- Converts a native object, interface, struct or union back through a binding codec. -/
  decodeObject : Nat → Nat → Info → Info → Transfer → SessionM Value
  /-- Runs the target of a callback frame with decoded arguments; none when it panicked. -/
  runTarget : Nat → List Value → SessionM (Option Value)
  /-- The text a value gives of itself, for values that have one beyond the basic ones. -/
  describe : Value → SessionM (Option String)
  /-- The native pointer a value wraps, for values that wrap one beyond plain handles. -/
  pointerOf : Value → SessionM (Option Nat)
  /-- Decodes the instance a signal handler frame is called with. -/
  decodeSelf : Nat → Nat → SessionM Value
  /-- Runs the loader provided for a namespace's overrides (by its handle) on a table. -/
  runLoader : Nat → Nat → SessionM (Except Failure Unit)
  /-- Runs a constructor replacement on a generated wrapper. -/
  construct : Binding.Replacement → Value → SessionM Value
  /-- Runs a method of a method table with its receiver, if any. -/
  runMethod : Binding.Replacement → String → Option Value → List Value → SessionM (List Value)
  /-- Runs a callable replacement. -/
  runCallable : Binding.Replacement → List Value → SessionM (List Value)
  /-- Opens the library of a namespace record and gives its handle. -/
  openLibrary : Nat → SessionM Nat

namespace Session

/-- Looks up a function through a handle. A guest export is remembered with its name, which
its calls report. -/
def lookupSymbol (h : Nat) (name : String) : SessionM Nat := do
  match (← handle h).backing with
  | .host lib =>
    let (id, l) ← lift ((← library lib).resolve name)
    modifyLibrary lib fun _ => l
    return id
  | .guest g =>
    let f ← lift ((← guest g).symbol name)
    modifyGet fun s => (s.guestSymbols.size, { s with guestSymbols := s.guestSymbols.push (name, f) })

def callGuest (g : Nat) (sym : Nat) (sig : Signature) (args : List Nat) : SessionM Nat := do
  let (name, f) := (← get).guestSymbols.getD sym ("", 0)
  withGuest g (·.call name f sig args)

def invokerSymbol (inv : Nat) (name : String) : SessionM Nat := do
  let i ← invoker inv
  match i.symbols.lookup name with
  | some id => return id
  | none =>
    let id ← lookupSymbol i.handle name
    modifyInvoker inv fun i => { i with symbols := (name, id) :: i.symbols }
    return id

/-- Calls a function found through a handle, recording the call when the handle is traced. -/
def callVia (call : CallFn) (h : Nat) (fn : Nat) (sig : Signature) (args : List Nat) :
    SessionM Nat := do
  let hd ← handle h
  if let .guest g := hd.backing then return ← callGuest g fn sig args
  let lib ← hostOf h
  if !hd.traced then return ← call lib fn sig args
  let name := ((← library lib).fn fn).name
  let slot ← reserve
  let head : List (String × Doc) :=
    [("call", .str name), ("sig", .str sig.text), ("args", .arr (args.map Doc.nat))]
  match ← attempt (call lib fn sig args) with
  | .ok r => fill slot (.obj (head ++ [("ret", .nat r)])); return r
  | .error e => fill slot (.obj (head ++ [("error", encodeFailure e)])); throw e

/-- Calls the function at a code address of a handle's library, as native code calls a
function pointer. -/
def callPointer (call : CallFn) (h : Nat) (addr : Nat) (sig : Signature) (args : List Nat) :
    SessionM Nat := do
  let lib ← hostOf h
  match (← library lib).lookup addr with
  | some fn => call lib fn sig args
  | none => throw (Library.noFunction addr)

/-- The name of an error domain, through the library's quark table; empty when unknown. -/
def quark (call : CallFn) (inv : Nat) (q : Nat) : SessionM String := do
  let h := (← invoker inv).handle
  match ← attempt (invokerSymbol inv "g_quark_to_string") with
  | .error _ => return ""
  | .ok fn =>
    match ← attempt (callVia call h fn ⟨[.u32], .ptr⟩ [q]) with
    | .ok ptr =>
      if ptr == 0 then return ""
      match ← attempt (readCString h ptr) with
      | .ok s => return Text.Utf8.lossy s
      | .error _ => return ""
    | .error _ => return ""

/-- Releases an error record: through the library's own release function when it has one,
otherwise by freeing its message and the record. -/
def freeError (call : CallFn) (inv : Nat) (addr : Nat) : SessionM Unit := do
  let h := (← invoker inv).handle
  match ← attempt (invokerSymbol inv "g_error_free") with
  | .ok fn => discard <| attempt (callVia call h fn ⟨[.ptr], .void⟩ [addr])
  | .error _ =>
    match ← attempt (readPointer h (addr + 8)) with
    | .ok msg => if msg != 0 then free h msg
    | .error _ => pure ()
    free h addr

end Session

end Introspection.Loaded
