import Introspection.Guest.Library
import Introspection.Script.Host

/-!
# Guest library scripts

A `wasm` script opens one guest library from module bytes and runs steps against it: lookups
and calls of exports, allocations, C strings, reads and writes of memory, and closing. Guest
addresses are offsets into linear memory and are answered as plain numbers. Named blocks and
kept functions let later steps refer to earlier results.
-/

namespace Introspection.Script

open Introspection.Native Introspection.Guest

/-- The state of a guest script: the library, named addresses and kept functions. -/
structure GuestRun where
  lib : GuestLib
  vars : List (String × Nat) := []
  /-- Kept functions: the name they are kept under, their symbol and function index. -/
  kept : List (String × String × Nat) := []
  deriving Inhabited

/-- Running guest script steps. -/
abbrev GuestM := StateM GuestRun

def singleBits (x : Float) : Nat := if x.isNaN then 0x7FC00000 else x.toFloat32.toBits.toNat

/-- An address or argument: a number or number text, a named address plus an offset, or the
bits of a double or single. -/
def guestAddress (d : Doc) : GuestM Nat := do
  match d with
  | .obj _ =>
    if d.has "var" then
      return ((← get).vars.lookup (d.strD "var")).getD 0 + Value.bits64 (d.intD "add" 0)
    if d.has "f64" then return Value.doubleBits ((floatOf? (d.field "f64")).getD 0)
    if d.has "f32" then return singleBits ((floatOf? (d.field "f32")).getD 0)
    return 0
  | other => return literal other

def keepAddress (step : Doc) (addr : Nat) : GuestM Unit :=
  match (step.get? "as").bind Doc.str? with
  | some n => modify fun r => { r with vars := (n, addr) :: r.vars.filter (·.1 != n) }
  | none => pure ()

def withLib {α : Type} (f : GuestLib → GuestLib × α) : GuestM α := do
  let r ← get
  let (lib, out) := f r.lib
  set { r with lib }
  return out

def writeAnswer (r : Except Failure GuestLib) : GuestM Doc := do
  match r with
  | .ok lib =>
    modify fun run => { run with lib }
    return .obj [("ok", .bool true), ("result", .null)]
  | .error e => return .obj [("ok", .bool true), ("result", encodeFailure e)]

def stepWidth (op : String) : Nat :=
  if op.endsWith "u8" then 1 else if op.endsWith "u16" then 2 else if op.endsWith "u32" then 4 else 8

def guestStep (step : Doc) : GuestM Doc := do
  let g := (← get).lib
  let op := step.strD "do"
  match op with
  | "name" => return .obj [("name", .str g.name)]
  | "exports" => return .obj [("exports", Doc.ofStrings g.exports)]
  | "size" => return .obj [("pointer_size", .nat 4), ("size", .nat g.memorySize)]
  | "symbol" =>
    let sym := step.strD "name"
    match g.symbol sym with
    | .error e => return encodeFailure e
    | .ok f =>
      match (step.get? "as").bind Doc.str? with
      | some n => modify fun r => { r with kept := (n, sym, f) :: r.kept.filter (·.1 != n) }
      | none => pure ()
      return .obj [("name", .str sym), ("addr", .nat f)]
  | "call" =>
    let kept := (← get).kept
    let target ← match ((step.get? "fn").bind Doc.str?).bind fun n => kept.lookup n with
      | some kept => pure (Except.ok kept)
      | none =>
        let sym := step.strD "name"
        pure ((g.symbol sym).map fun f => (sym, f))
    match target with
    | .error e => return encodeFailure e
    | .ok (sym, f) =>
      let sig := readSlots (step.field "sig")
      let mut args : List Nat := []
      for a in step.list "args" do
        args := args ++ [← guestAddress a]
      match ← withLib (·.call sym f sig args) with
      | .error e => return encodeFailure e
      | .ok ret =>
        let mut out : List (String × Doc) := [("ret", .nat ret)]
        if sig.result == .f64 then out := out ++ [("f64", .str (Text.Decimal.binary64.text ret))]
        if sig.result == .f32 then out := out ++ [("f32", .str (Text.Decimal.binary32.text ret))]
        if step.strD "read" == "cstring" then
          match (← get).lib.readCString ret with
          | .ok s => out := out ++ [("read", .str s)]
          | .error e => out := out ++ [("read", encodeFailure e)]
        return .obj out
  | "alloc" =>
    match ← withLib (·.alloc (step.intD "size" 0).toNat (step.intD "align" 0).toNat) with
    | .error e => return encodeFailure e
    | .ok p =>
      keepAddress step p
      return .obj [("ok", .bool true), ("ptr", .nat p)]
  | "cstring" =>
    match ← withLib (·.writeCString (step.strD "text")) with
    | .error e => return encodeFailure e
    | .ok p =>
      keepAddress step p
      return .obj [("ok", .bool true), ("ptr", .nat p)]
  | "free" =>
    let addrDoc := step.field "addr"
    let addr ← guestAddress addrDoc
    modify fun r => { r with lib := r.lib.free addr }
    if addrDoc.has "var" && !addrDoc.has "add" then
      modify fun r => { r with vars := r.vars.filter (·.1 != addrDoc.strD "var") }
    return .obj [("ok", .bool true)]
  | "read" =>
    match g.read (← guestAddress (step.field "addr")) (step.intD "len" 0).toNat with
    | .ok bs => return .obj [("hex", .str (Text.Hex.ofBytes bs))]
    | .error e => return encodeFailure e
  | "write" =>
    let bytes := (Text.Hex.toBytes? (step.strD "hex")).getD .empty
    writeAnswer (g.write (← guestAddress (step.field "addr")) bytes)
  | "read_cstring" =>
    match g.readCString (← guestAddress (step.field "addr")) with
    | .ok s => return .obj [("text", .str s)]
    | .error e => return encodeFailure e
  | "read_u8" | "read_u16" | "read_u32" | "read_u64" =>
    match g.readLE (← guestAddress (step.field "addr")) (stepWidth op) with
    | .ok v => return .obj [("value", .nat v)]
    | .error e => return encodeFailure e
  | "write_u8" | "write_u16" | "write_u32" | "write_u64" =>
    let addr ← guestAddress (step.field "addr")
    let v ← guestAddress (step.field "value")
    writeAnswer (g.writeLE addr (stepWidth op) v)
  | "callback" | "free_callback" => return .obj [("no_callbacks", .bool true)]
  | "close" =>
    modify fun r => { r with lib := r.lib.close }
    return .obj [("result", .null)]
  | other => return .obj [("error", .str "driver"), ("message", .str ("unknown step " ++ other))]

def guestConfig (d : Doc) : Config :=
  let sigs := match d.field "signatures" with
    | .obj kvs => kvs.filterMap fun (k, v) => v.str?.map (k, ·)
    | _ => []
  { signatures := sigs, malloc := d.strD "malloc", free := d.strD "free",
    memoryLimitPages := (d.intD "memory_limit_pages" 0).toNat, system := d.flag "wasi" }

def guestAnswer (req : Doc) : Doc :=
  let files : List (String × Doc) :=
    if req.has "module_file" then
      [("module_file", Doc.ofStrings ((req.strings "module_file").map moduleFile))]
    else []
  match (req.get? "module").bind Doc.str? with
  | none => .obj files
  | some hex =>
    let bytes := (Text.Hex.toBytes? hex).getD .empty
    let name := if req.strD "name" == "" then "libguest" else req.strD "name"
    match GuestLib.open name bytes (guestConfig req) with
    | .error e => .obj (files ++ [("open", encodeFailure e)])
    | .ok lib =>
      let run : GuestM (List Doc) := (req.list "steps").mapM guestStep
      let (steps, _) := run.run { lib }
      .obj (files ++ [("open", .bool true), ("steps", .arr steps)])

end Introspection.Script
