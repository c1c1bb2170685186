import Introspection.Script.Machine

/-!
# Shared object scripts

A `native` script loads one shared object of the system and runs steps against it: lookups and
calls of its functions, allocations on the C heap, C strings, reads and writes of memory,
callbacks and closing. Process addresses are never answered as numbers: a pointer is shown as
null, as a place inside a named block (blocks tried by name), as a named callback, or as an
unnamed address.

Slots may be named by a number; a number that names no slot is an unknown slot, which binding
refuses like a parameter without a width.
-/

namespace Introspection.Script

open Introspection.Native Introspection.Host Introspection.Loaded Introspection.Loaded.Session

/-- The state of a shared object script: its library and handle, the named blocks with their
sizes, the named callbacks and the kept functions. -/
structure SystemRun where
  lib : Nat
  handle : Nat
  blocks : List (String × Nat × Nat) := []
  callbacks : List (String × Nat) := []
  kept : List (String × Nat) := []
  deriving Inhabited

/-- Running shared object script steps. -/
abbrev SystemM := StateT SystemRun SessionM

def SystemRun.show (run : SystemRun) (a : Nat) : Doc :=
  if a == 0 then .nat 0
  else
    let blocks := run.blocks.mergeSort fun x y => decide (x.1 ≤ y.1)
    match blocks.find? fun (_, addr, size) => addr ≤ a && a < addr + size with
    | some (n, addr, _) => .obj [("var", .str n), ("add", .nat (a - addr))]
    | none =>
      match run.callbacks.find? (·.2 == a) with
      | some (n, _) => .obj [("callback", .str n)]
      | none => .str "<addr>"

def SystemRun.showEvent (run : SystemRun) (e : Doc) : Doc :=
  match e with
  | .obj kvs => .obj (kvs.map fun (k, v) =>
      if k == "args" then
        (k, .arr ((v.arr?.getD []).map fun a =>
          match (a.get? "pointer").bind Doc.nat? with
          | some p => run.show p
          | none => a))
      else (k, v))
  | other => other

/-- An address or argument: a number or number text, a place in a named block, a named
callback, or the bits of a double or single. -/
def systemAddress (d : Doc) : SystemM Nat := do
  let run ← get
  match d with
  | .obj _ =>
    if d.has "var" then
      let base := ((run.blocks.find? (·.1 == d.strD "var")).map (·.2.1)).getD 0
      return base + Value.bits64 (d.intD "add" 0)
    if d.has "callback" then return (run.callbacks.lookup (d.strD "callback")).getD 0
    if d.has "f64" then return Value.doubleBits ((floatOf? (d.field "f64")).getD 0)
    if d.has "f32" then return singleBits ((floatOf? (d.field "f32")).getD 0)
    return 0
  | other => return literal other

/-- A slot a script names: by name (an unknown name is void) or by number. -/
def systemSlot (d : Doc) : Option ValueKind :=
  let kinds : List ValueKind := [.void, .i8, .u8, .i16, .u16, .i32, .u32, .i64, .u64, .f32, .f64, .ptr]
  match d with
  | .str _ => some (readSlots (.obj [("result", d)])).result
  | other => other.nat?.bind fun n => kinds[n]?

def systemSlots (d : Doc) : List (Option ValueKind) × Option ValueKind :=
  (((d.field "params").arr?.getD []).map systemSlot, systemSlot (d.field "result"))

/-- The refusal of slots without a width: a parameter that is void or unknown, or an unknown
result. -/
def slotRefusal (params : List (Option ValueKind)) (result : Option ValueKind) : Option Failure :=
  let bad := params.zipIdx.find? fun (k, _) => k == none || k == some .void
  match bad with
  | some (k, i) =>
    some (.unsupported .invoke ("parameter " ++ toString i ++ " of kind " ++
      ((k.map ValueKind.name).getD "unknown")))
  | none => if result == none then some (.unsupported .invoke "result of kind unknown") else none

def knownSignature (params : List (Option ValueKind)) (result : Option ValueKind) : Signature :=
  ⟨params.map (·.getD .void), result.getD .void⟩

def systemTry {α : Type} (m : SessionM α) : SystemM (Except Failure α) :=
  StateT.lift (attempt m)

def keepBlock (step : Doc) (addr size : Nat) : SystemM Unit :=
  match (step.get? "as").bind Doc.str? with
  | some n => modify fun r => { r with blocks := (n, addr, size) :: r.blocks.filter (·.1 != n) }
  | none => pure ()

def systemWriteAnswer (r : Except Failure Unit) : Doc :=
  match r with
  | .ok () => .obj [("ok", .bool true), ("result", .null)]
  | .error e => .obj [("ok", .bool true), ("result", encodeFailure e)]

/-- Calls a function of the library with a script's slots and arguments. -/
def systemCall (step : Doc) (fn : Nat) : SystemM Doc := do
  let run ← get
  let l ← StateT.lift (library run.lib)
  let f := l.fn fn
  let (params, result) := systemSlots (step.field "sig")
  let mut args : List Nat := []
  for a in step.list "args" do
    args := args ++ [← systemAddress a]
  if l.closed then return encodeFailure (.closed .invoke ("library " ++ l.name))
  if args.length != params.length then
    return encodeFailure (.argCount [f.name] args.length params.length)
  if let some e := slotRefusal params result then return encodeFailure e
  let sig := knownSignature params result
  match ← systemTry (hooks.call run.lib fn sig args) with
  | .error e => return encodeFailure e
  | .ok ret =>
    let run ← get
    let shownRet := if sig.result == .ptr then run.show ret else .nat ret
    let mut out : List (String × Doc) := [("ret", shownRet)]
    if sig.result == .f64 then out := out ++ [("f64", .str (Text.Decimal.binary64.text ret))]
    if sig.result == .f32 then out := out ++ [("f32", .str (Text.Decimal.binary32.text ret))]
    if step.strD "read" == "cstring" then
      match ← systemTry (do
          if ret == 0 then throw (.plain "read string: null pointer")
          readCString run.handle ret) with
      | .ok s => out := out ++ [("read", .str (Text.Utf8.lossy s))]
      | .error e => out := out ++ [("read", encodeFailure e)]
    return .obj out

def systemStep (step : Doc) : SystemM Doc := do
  let run ← get
  let h := run.handle
  let op := step.strD "do"
  match op with
  | "name" => return .obj [("name", .str (← StateT.lift (library run.lib)).name)]
  | "exports" => return .obj [("no_exports", .bool true)]
  | "size" => return .obj [("pointer_size", .nat 8)]
  | "symbol" =>
    let name := step.strD "name"
    match ← systemTry (lookupSymbol h name) with
    | .error e => return encodeFailure e
    | .ok fn =>
      match (step.get? "as").bind Doc.str? with
      | some n => modify fun r => { r with kept := (n, fn) :: r.kept.filter (·.1 != n) }
      | none => pure ()
      return .obj [("name", .str name), ("nonzero", .bool true)]
  | "call" =>
    match ((step.get? "fn").bind Doc.str?).bind fun n => run.kept.lookup n with
    | some fn => systemCall step fn
    | none =>
      match ← systemTry (lookupSymbol h (step.strD "name")) with
      | .error e => return encodeFailure e
      | .ok fn => systemCall step fn
  | "alloc" =>
    let size := (step.intD "size" 0).toNat
    let align := (step.intD "align" 0).toNat
    match ← systemTry (alloc h size align) with
    | .error e => return encodeFailure e
    | .ok p =>
      keepBlock step p size
      let aligned := if align > 0 then [("aligned", Doc.bool (p % align == 0))] else []
      return .obj ([("ok", .bool true), ("nonzero", .bool (p != 0))] ++ aligned)
  | "cstring" =>
    let text := (step.strD "text").toUTF8
    match ← systemTry (writeCString h text) with
    | .error e => return encodeFailure e
    | .ok p =>
      keepBlock step p (text.size + 1)
      return .obj [("ok", .bool true), ("nonzero", .bool (p != 0))]
  | "free" =>
    let addrDoc := step.field "addr"
    let addr ← systemAddress addrDoc
    StateT.lift (free h addr)
    if addrDoc.has "var" && !addrDoc.has "add" then
      modify fun r => { r with blocks := r.blocks.filter (·.1 != addrDoc.strD "var") }
    return .obj [("ok", .bool true)]
  | "read" =>
    let addr ← systemAddress (step.field "addr")
    match ← systemTry (read h addr (step.intD "len" 0).toNat) with
    | .ok bs => return .obj [("hex", .str (Text.Hex.ofBytes bs))]
    | .error e => return encodeFailure e
  | "write" =>
    let addr ← systemAddress (step.field "addr")
    let bytes := (Text.Hex.toBytes? (step.strD "hex")).getD .empty
    return systemWriteAnswer (← systemTry (write h addr bytes))
  | "read_cstring" =>
    let addr ← systemAddress (step.field "addr")
    match ← systemTry (do
        if addr == 0 then throw (.plain "read string: null pointer")
        readCString h addr) with
    | .ok s => return .obj [("text", .str (Text.Utf8.lossy s))]
    | .error e => return encodeFailure e
  | "read_u8" | "read_u16" | "read_u32" | "read_u64" =>
    let addr ← systemAddress (step.field "addr")
    match ← systemTry (readLE h addr (stepWidth op)) with
    | .ok v => return .obj [("value", .nat v)]
    | .error e => return encodeFailure e
  | "write_u8" | "write_u16" | "write_u32" | "write_u64" =>
    let addr ← systemAddress (step.field "addr")
    let v ← systemAddress (step.field "value")
    return systemWriteAnswer (← systemTry (writeLE h addr (stepWidth op) v))
  | "callback" =>
    let (params, result) := systemSlots (step.field "sig")
    if let some e := slotRefusal params result then return encodeFailure e
    let sig := knownSignature params result
    let n ← StateT.lift (modifyGet fun (s : Session) => (s.bodies.size, { s with bodies := s.bodies.push step }))
    match (← StateT.lift (library run.lib)).newCallback sig (.reply n) with
    | .error e => return encodeFailure e
    | .ok (addr, l) =>
      StateT.lift (modifyLibrary run.lib fun _ => l)
      let name := step.strD "as"
      modify fun r => { r with callbacks := (name, addr) :: r.callbacks.filter (·.1 != name) }
      return .obj [("ok", .bool true)]
  | "free_callback" =>
    let addr := ((← get).callbacks.lookup (step.strD "name")).getD 0
    StateT.lift (modifyLibrary run.lib (·.freeCallback addr))
    return .obj [("ok", .bool true)]
  | "close" =>
    StateT.lift (modifyLibrary run.lib fun l => { l with closed := true })
    return .obj [("result", .null)]
  | other => return .obj [("error", .str "driver"), ("message", .str ("unknown step " ++ other))]

def systemStepAnswer (step : Doc) : SystemM Doc := do
  discard (liftM takeTrace)
  let out ← systemStep step
  let events ← liftM takeTrace
  if events.isEmpty then return out
  let run ← get
  return out.merge [("events", .arr (events.map run.showEvent))]

def runSystem (req : Doc) : SessionM Doc := do
  let path := inWorkDir (req.strD "path")
  match Native.SharedObject.load (← get).repo.files path with
  | .error msg => return .obj [("open", encodeFailure (.loadFailed ("dlopen " ++ path) (some (.plain msg))))]
  | .ok o =>
    let lib ← addLibrary (Library.openShared o path)
    let h ← addHandle { name := path, backing := .host lib }
    let (steps, _) ← ((req.list "steps").mapM systemStepAnswer).run { lib, handle := h }
    return .obj [("open", .bool true), ("steps", .arr steps)]

def systemAnswer (req : Doc) : Doc :=
  let start : Session := { repo := { files := fileTree (req.list "files") } }
  let out := match ((runSystem req).run.run start).1 with
    | .ok d => d
    | .error e => encodeFailure e
  settleWorkDir out

end Introspection.Script
