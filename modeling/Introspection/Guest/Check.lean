import Introspection.Guest.Decode

/-!
# Checking guest modules

A decoded module is checked before it runs: the start function must take and give nothing,
imports and exports must name items that exist, and every function body is read into
instructions. Reading a body checks what the interpreter relies on: known opcodes, branch
depths within the enclosing blocks, and function, local, global, type and memory indices that
exist. A fault in a body is reported with the function's position among the defined functions
and the names it is exported under.
-/

namespace Introspection.Guest

open Decoder

/-- A checked module: the module and its function bodies as instructions. -/
structure Program where
  module : Module
  bodies : Array (List Instr)
  deriving Inhabited

namespace Module

/-- A defined function as messages name it: `function[i]`, and its export names if any. -/
def funcDesc (m : Module) (i : Nat) : String :=
  let f := i + m.importedFuncCount
  let names := (m.exports.filter fun e => e.kind == .func && e.index == f).map
    (fun e => Text.Quote.quote e.name)
  let sorted := names.mergeSort (fun a b => decide (a ≤ b))
  if sorted.isEmpty then "function[" ++ toString i ++ "]"
  else "function[" ++ toString i ++ "] export[" ++ ",".intercalate sorted ++ "]"

def funcCount (m : Module) : Nat := m.importedFuncCount + m.funcs.size

def globalCount (m : Module) : Nat := m.importedGlobalCount + m.globals.length

end Module

/-- What reading a body needs to know: the module and the function's local count. -/
structure BodyScope where
  module : Module
  locals : Nat

def peekByte : Decoder (Option UInt8) := do
  let bs ← read
  return bs[← get]?

def blockType (s : BodyScope) : Decoder BlockType := do
  match ← peekByte with
  | some 0x40 => discard byte; return {}
  | some b =>
    match ValType.ofByte? b with
    | some _ => discard byte; return { results := 1 }
    | none =>
      let i ← signedLeb 33 5
      match s.module.types[i.toNat]? with
      | some t => if i < 0 then throw "invalid block type" else
          return { params := t.params.length, results := t.results.length }
      | none => throw ("type index out of range: " ++ toString i)
  | none => throw "EOF"

def memArg (s : BodyScope) (name : String) : Decoder Nat := do
  if s.module.memory?.isNone then throw ("memory must exist for " ++ name)
  discard u32
  u32

def funcIndex (s : BodyScope) : Decoder Nat := do
  let f ← u32
  if f ≥ s.module.funcCount then throw "invalid function index"
  return f

def localIndex (s : BodyScope) (name : String) : Decoder Nat := do
  let i ← u32
  if i ≥ s.locals then
    throw ("invalid local index for " ++ name ++ " " ++ toString i ++ " >= " ++ toString s.locals ++
      "(=len(locals)+len(parameters))")
  return i

def globalIndex (s : BodyScope) (name : String) : Decoder Nat := do
  let i ← u32
  if i ≥ s.module.globalCount then throw ("invalid index for " ++ name)
  return i

def labelIndex (depth : Nat) (name : String) : Decoder Nat := do
  let l ← u32
  if l ≥ depth then throw ("invalid " ++ name ++ " operation: index out of range")
  return l

/-- How a sequence of instructions ended. -/
inductive SeqEnd where
  | endOp
  | elseOp
  deriving DecidableEq

def accessName (op : UInt8) : String :=
  match op with
  | 0x28 => "i32.load" | 0x29 => "i64.load" | 0x2a => "f32.load" | 0x2b => "f64.load"
  | 0x2c => "i32.load8_s" | 0x2d => "i32.load8_u" | 0x2e => "i32.load16_s"
  | 0x2f => "i32.load16_u" | 0x30 => "i64.load8_s" | 0x31 => "i64.load8_u"
  | 0x32 => "i64.load16_s" | 0x33 => "i64.load16_u" | 0x34 => "i64.load32_s"
  | 0x35 => "i64.load32_u" | 0x36 => "i32.store" | 0x37 => "i64.store" | 0x38 => "f32.store"
  | 0x39 => "f64.store" | 0x3a => "i32.store8" | 0x3b => "i32.store16" | 0x3c => "i64.store8"
  | 0x3d => "i64.store16" | _ => "i64.store32"

def simpleInstr (s : BodyScope) (depth : Nat) (op : UInt8) : Decoder Instr := do
  match op with
  | 0x00 => return .unreachable
  | 0x01 => return .nop
  | 0x0c => return .br (← labelIndex depth "br")
  | 0x0d => return .brIf (← labelIndex depth "br_if")
  | 0x0e =>
    let n ← u32
    let mut ls : List Nat := []
    for _ in List.range n do
      ls := ls ++ [← labelIndex depth "br_table"]
    return .brTable ls (← labelIndex depth "br_table")
  | 0x0f => return .ret
  | 0x10 => return .call (← funcIndex s)
  | 0x11 =>
    let t ← u32
    let table ← u32
    if t ≥ s.module.types.size then throw ("invalid type index at call_indirect: " ++ toString t)
    return .callIndirect t table
  | 0x1a => return .drop
  | 0x1b => return .select
  | 0x1c =>
    let n ← u32
    discard (valTypes n)
    return .select
  | 0x20 => return .localGet (← localIndex s "local.get")
  | 0x21 => return .localSet (← localIndex s "local.set")
  | 0x22 => return .localTee (← localIndex s "local.tee")
  | 0x23 => return .globalGet (← globalIndex s "global.get")
  | 0x24 => return .globalSet (← globalIndex s "global.set")
  | 0x3f =>
    if s.module.memory?.isNone then throw "memory must exist for memory.size"
    discard byte
    return .memorySize
  | 0x40 =>
    if s.module.memory?.isNone then throw "memory must exist for memory.grow"
    discard byte
    return .memoryGrow
  | 0x41 => return .const (Int.toNat ((← signedLeb 32 5) % 2 ^ 32)).toUInt64
  | 0x42 => return .const (Int.toNat ((← signedLeb 64 10) % 2 ^ 64)).toUInt64
  | 0x43 =>
    let bs ← take 4
    return .const (bs.toList.foldr (fun (b : UInt8) (acc : Nat) => acc * 256 + b.toNat) 0).toUInt64
  | 0x44 =>
    let bs ← take 8
    return .const (bs.toList.foldr (fun (b : UInt8) (acc : Nat) => acc * 256 + b.toNat) 0).toUInt64
  | 0xd0 => discard byte; return .refNull
  | 0xd1 => return .refIsNull
  | 0xd2 => return .refFunc (← funcIndex s)
  | 0xfc =>
    let sub ← u32
    match sub with
    | 8 =>
      let seg ← u32
      discard byte
      return .memoryInit seg
    | 9 => return .dataDrop (← u32)
    | 10 =>
      if s.module.memory?.isNone then throw "memory must exist for memory.copy"
      discard byte
      discard byte
      return .memoryCopy
    | 11 =>
      if s.module.memory?.isNone then throw "memory must exist for memory.fill"
      discard byte
      return .memoryFill
    | other =>
      if other ≤ 7 then return .numeric (0x100 + other)
      throw ("invalid misc opcode 0x" ++ Text.Hex.ofNat other)
  | other =>
    if 0x28 ≤ other && other ≤ 0x35 then
      return .load other.toNat (← memArg s (accessName other))
    if 0x36 ≤ other && other ≤ 0x3e then
      return .store other.toNat (← memArg s (accessName other))
    if 0x45 ≤ other && other ≤ 0xc4 then return .numeric other.toNat
    throw ("invalid instruction 0x" ++ Text.Hex.ofNat other.toNat)

/-- Reads instructions until `end` or `else`, inside `depth` enclosing blocks. -/
def instrSeq (s : BodyScope) : Nat → Nat → List Instr → Decoder (List Instr × SeqEnd)
  | 0, _, _ => throw "unexpected end of function"
  | fuel + 1, depth, acc => do
    let op ← byte
    match op with
    | 0x0b => return (acc.reverse, .endOp)
    | 0x05 => return (acc.reverse, .elseOp)
    | 0x02 | 0x03 =>
      let t ← blockType s
      let (body, e) ← instrSeq s fuel (depth + 1) []
      if e == .elseOp then throw "else instruction must be used in if block"
      let i := if op == 0x02 then Instr.block t body else Instr.loop t body
      instrSeq s fuel depth (i :: acc)
    | 0x04 =>
      let t ← blockType s
      let (thn, e) ← instrSeq s fuel (depth + 1) []
      let els ← if e == .elseOp then do
          let (els, e2) ← instrSeq s fuel (depth + 1) []
          if e2 == .elseOp then throw "else instruction must be used in if block"
          pure els
        else pure []
      instrSeq s fuel depth (Instr.cond t thn els :: acc)
    | other =>
      let i ← simpleInstr s depth other
      instrSeq s fuel depth (i :: acc)

def readBody (m : Module) (type : FuncType) (c : Code) : Except String (List Instr) :=
  let s : BodyScope := { module := m, locals := type.params.length + c.locals.length }
  let run : Decoder (List Instr) := do
    let (body, e) ← instrSeq s (c.body.size + 1) 1 []
    if e == .elseOp then throw "else instruction must be used in if block"
    if (← remaining) != 0 then throw "unexpected end"
    return body
  run.run c.body |>.run' 0

/-- Checks the start function, imports and exports, then reads every body. -/
def Module.check (m : Module) : Except String Program := do
  match m.start with
  | some f =>
    match m.funcType? f with
    | none => throw ("invalid start function: func[" ++ toString f ++ "] has an invalid type")
    | some t =>
      if !t.params.isEmpty || !t.results.isEmpty then
        throw ("invalid start function: func[" ++ toString f ++
          "] must have an empty (nullary) signature: " ++ t.text)
  | none => pure ()
  for i in m.imports do
    match i.desc with
    | .func t =>
      if t ≥ m.types.size then
        throw ("invalid import[" ++ Text.Quote.quote i.module ++ "." ++ Text.Quote.quote i.name ++
          "] function: type index out of range")
    | _ => pure ()
  for e in m.exports do
    match e.kind with
    | .func =>
      if e.index ≥ m.funcCount then throw ("unknown function for export[" ++ Text.Quote.quote e.name ++ "]")
    | .memory =>
      if e.index != 0 || m.memory?.isNone then
        throw ("memory for export[" ++ Text.Quote.quote e.name ++ "] out of range")
    | .global =>
      if e.index ≥ m.globalCount then throw ("unknown global for export[" ++ Text.Quote.quote e.name ++ "]")
    | .table => pure ()
  let mut bodies : Array (List Instr) := #[]
  for (t, i) in m.funcs.toList.zipIdx do
    match m.types[t]? with
    | none =>
      throw ("invalid " ++ m.funcDesc i ++ ": type section index " ++ toString t ++ " out of range")
    | some type =>
      let c := m.codes.getD i default
      match readBody m type c with
      | .ok b => bodies := bodies.push b
      | .error e => throw ("invalid " ++ m.funcDesc i ++ ": " ++ e)
  return { module := m, bodies }

theorem Module.funcCount_empty : Module.funcCount {} = 0 := rfl

end Introspection.Guest
