import Introspection.Script.Overrides

/-!
# Running host functions

Calling a host function checks the call against the function, runs its body and normalizes
the result. Bodies may call back into native code (function pointers, callbacks, codecs), so
the behaviour of every layer is tied together here with a bound on how deeply calls nest;
past the bound a call fails.
-/

namespace Introspection.Script

open Introspection.Typelib Introspection.Repository Introspection.Info Introspection.Native
  Introspection.Host Introspection.Loaded Introspection.Loaded.Session Introspection.Marshal

def callDepth : Nat := 200

/-- The handle through which a host library's own functions see their heap. -/
def handleOfLibrary (lib : Nat) : SessionM Nat := do
  let hs := (← get).handles
  match (hs.toList.zipIdx.find? fun (h, _) => h.backing == .host lib) with
  | some (_, i) => return i
  | none => return 0

/-- Runs a callback value for native code: records its arguments and answers its result;
none when it panics. -/
def runValue (v : Value) (args : List Value) : SessionM (Option Value) := do
  match v with
  | .callback id ret panics _ | .func id ret panics _ =>
    let shown ← args.mapM showValue
    record (.obj [("callback", .str id), ("args", .arr shown)])
    return if panics then none else some ret
  | _ => return none

def exhaustedHooks : Hooks where
  call := fun _ _ _ _ => throw (.plain "native calls nested too deeply")
  encodeObject := fun _ _ _ _ _ => throw (.plain "native calls nested too deeply")
  decodeObject := fun _ _ _ _ _ => throw (.plain "native calls nested too deeply")
  runTarget := fun _ _ => pure none
  describe := fun _ => pure none
  pointerOf := fun _ => pure none
  decodeSelf := fun _ _ => throw (.plain "native calls nested too deeply")
  runLoader := fun _ _ => pure (.error (.plain "native calls nested too deeply"))
  construct := fun _ _ => throw (.plain "native calls nested too deeply")
  runMethod := fun _ _ _ _ => throw (.plain "native calls nested too deeply")
  runCallable := fun _ _ => throw (.plain "native calls nested too deeply")
  openLibrary := fun _ => throw (.plain "native calls nested too deeply")

/-- Runs a scripted reply: a comparator reads the 32-bit integers its first two arguments point
at and answers -1, 0 or 1 (reversed when descending); any other reply records its arguments,
pointers marked as such, and answers its value, or zero when it panics. -/
def runReply (h : Nat) (params : List ValueKind) (d : Doc) (args : List Nat) : SessionM Nat := do
  let mode := d.strD "mode"
  if mode == "cmp_i32" || mode == "cmp_i32_desc" then
    match args with
    | a :: b :: _ =>
      let x ← attempt (readLE h a 4)
      let y ← attempt (readLE h b 4)
      match x, y with
      | .ok x, .ok y =>
        let (x, y) := (Native.toSigned 32 x, Native.toSigned 32 y)
        let c : Int := if x < y then -1 else if x > y then 1 else 0
        let c := if mode == "cmp_i32_desc" then -c else c
        return Native.ofInt64 c
      | _, _ => return 0
    | _ => return 0
  let shown := (params.zip args).map fun (k, a) =>
    if k == .ptr then Doc.obj [("pointer", .nat a)] else Doc.nat a
  record (.obj [("callback", .str (d.strD "as")), ("args", .arr shown)])
  if mode == "panic" then return 0
  return literal (d.field "ret")

/-- Runs the body of a host function with checked, normalized arguments. -/
def runBody (hooks : Hooks) (lib : Nat) (f : HostFn) (args : List Nat) : SessionM Nat := do
  let h ← handleOfLibrary lib
  match f.body with
  | .raw n => runRaw hooks h ((← get).bodies.getD n .null) args
  | .typed n => runTyped h f.name ((← get).bodies.getD n .null) args
  | .world name => runWorld hooks.call h name args
  | .trampoline fid => trampoline hooks fid args
  | .destroyNotify conv =>
    match args with
    | p :: _ => releaseCallback conv p; return 0
    | [] => return 0
  | .reply n => runReply h f.params ((← get).bodies.getD n .null) args
  | .shared _ | .released => return 0

/-- The registers of a call: each argument in the register class of its slot. -/
def registersOf (kinds : List ValueKind) (args : List Nat) : Native.Registers :=
  let pairs := kinds.zip args
  { ints := (pairs.filter fun (k, _) => !k.isFloat).map (·.2),
    floats := (pairs.filter fun (k, _) => k.isFloat).map (·.2) }

/-- The arguments a function with declared slots reads from registers: each slot takes the
next register of its class. -/
def argumentsFrom (params : List ValueKind) (r : Native.Registers) : List Nat :=
  let step := fun (acc : List Nat × Nat × Nat) (k : ValueKind) =>
    let (out, i, j) := acc
    if k.isFloat then (out ++ [r.float j], i, j + 1) else (out ++ [r.int i], i + 1, j)
  (params.foldl step ([], 0, 0)).1

/-- Calls the function at a code address of a library as native code does, with integer
arguments; gives the integer return register. -/
def callFromNative (hooks : Hooks) (lib : Nat) (addr : Nat) (ints : List Nat) : SessionM Nat := do
  let l ← library lib
  match l.lookup addr with
  | none => throw (Library.noFunction addr)
  | some id =>
    let f := l.fn id
    let out ← hooks.call lib id f.signature (argumentsFrom f.params { ints })
    return if f.result.isFloat then 0 else out

/-- The process as a shared object's function sees it through a handle. -/
def processOf (hooks : Hooks) (lib h : Nat) : Native.Process SessionM where
  read := fun addr n => attempt (read h addr n)
  write := fun addr b => attempt (write h addr b)
  readCString := fun addr => attempt (do checkAddress h addr; readCString h addr)
  alloc := fun n => attempt (alloc h n 16)
  free := fun addr => free h addr
  callPointer := fun addr ints => attempt (callFromNative hooks lib addr ints)

/-- Calls a function of a shared object: binds it to the caller's slots, passes the arguments
in registers and reads the return register of the result slot. -/
def runShared (hooks : Hooks) (lib : Nat) (f : HostFn) (name : String) (sig : Signature)
    (args : List Nat) : SessionM Nat := do
  let l ← library lib
  if let some e := l.bindRefusal f sig then throw e
  let o := l.shared.getD .c
  let h ← handleOfLibrary lib
  match ← (Native.CLibrary.run (processOf hooks lib h) o name (registersOf sig.params args)).run with
  | .ok ret => return sig.result.normalize (if sig.result.isFloat then ret.float else ret.int)
  | .error e => throw e

def runTargetWith (fid : Nat) (args : List Value) : SessionM (Option Value) := do
  match (← frame fid).target with
  | .value v => runValue v args

/-- The hooks of every layer, allowing `n` more nested native calls. -/
def hooksUpTo : Nat → Hooks
  | 0 => exhaustedHooks
  | n + 1 =>
    let inner := hooksUpTo n
    { call := fun lib fn sig args => do
        let l ← library lib
        let f := l.fn fn
        let args ← Session.lift (l.prepareCall f sig args)
        if let .shared name := f.body then return ← runShared inner lib f name sig args
        let out ← runBody inner lib f args
        return sig.result.normalize out
      encodeObject := fun _ v iface ti o => Binding.encodeInterface inner v iface ti o
      decodeObject := fun m a iface _ transfer => Binding.decodeInterface inner m a iface transfer
      runTarget := runTargetWith
      describe := fun v => do
        match ← Binding.generatedOf v with
        | some w => return some (← Binding.wrapperText w)
        | none => return none
      pointerOf := fun v => do
        match ← Binding.generatedOf v with
        | some w => return some (← Binding.nativeOf w).2.1
        | none => return none
      decodeSelf := fun fid p => do
        match (← frame fid).emitter with
        | some w => Binding.decodeEmitter inner w p
        | none => return .int .uint64 p
      runLoader := runLoaderScript
      construct := constructScript
      runMethod := methodScript
      runCallable := callableScript
      openLibrary := openScript }

def hooks : Hooks := hooksUpTo callDepth

end Introspection.Script
