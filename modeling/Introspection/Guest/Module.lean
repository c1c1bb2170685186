import Introspection.Powers

/-!
# Guest modules

A guest library is a WebAssembly module. This module holds its structure as the guest runtime
keeps it: value and function types, limits of memories and tables, imports, exports, globals,
element and data segments, and function bodies. Bodies are kept as bytes when decoded and
become instruction trees once checked; blocks, loops and conditionals nest their bodies, so a
branch names how many enclosing blocks it leaves.

Values live in 64-bit slots: a 32-bit integer or a single float occupies the low half, and a
float is kept as its bits, so that NaN payloads survive every move.
-/

namespace Introspection.Guest

/-- A value type of the core instruction set. -/
inductive ValType where
  | i32 | i64 | f32 | f64 | v128 | funcref | externref
  deriving DecidableEq, Repr, Inhabited

namespace ValType

def ofByte? : UInt8 → Option ValType
  | 0x7f => some .i32
  | 0x7e => some .i64
  | 0x7d => some .f32
  | 0x7c => some .f64
  | 0x7b => some .v128
  | 0x70 => some .funcref
  | 0x6f => some .externref
  | _ => none

def name : ValType → String
  | i32 => "i32" | i64 => "i64" | f32 => "f32" | f64 => "f64" | v128 => "v128"
  | funcref => "funcref" | externref => "externref"

end ValType

/-- The parameter and result types of a function. -/
structure FuncType where
  params : List ValType := []
  results : List ValType := []
  deriving DecidableEq, Inhabited

/-- The compact text of a function type: the parameter names, `_`, the result names; an empty
list is written `v`. -/
def FuncType.text (t : FuncType) : String :=
  let ps := if t.params.isEmpty then "v" else String.join (t.params.map ValType.name)
  let rs := if t.results.isEmpty then "v" else String.join (t.results.map ValType.name)
  ps ++ "_" ++ rs

/-- The size bounds of a memory or table, in pages or elements. -/
structure Limits where
  min : Nat
  max : Option Nat := none
  deriving DecidableEq, Inhabited

/-- What an import brings in. -/
inductive ImportDesc where
  | func (type : Nat)
  | table (elem : ValType) (limits : Limits)
  | memory (limits : Limits)
  | global (type : ValType) (mutable : Bool)
  deriving Inhabited

/-- An import: the module and field it is taken from. -/
structure Import where
  module : String
  name : String
  desc : ImportDesc
  deriving Inhabited

/-- The kind of an exported item. -/
inductive ExternKind where
  | func | table | memory | global
  deriving DecidableEq, Inhabited

/-- An export: a name for a function, table, memory or global of the module. -/
structure Export where
  name : String
  kind : ExternKind
  index : Nat
  deriving Inhabited

/-- The parameters a block takes from the stack and the results it leaves. -/
structure BlockType where
  params : Nat := 0
  results : Nat := 0
  deriving DecidableEq, Inhabited

/-- One instruction. Loads and stores keep their opcode and static offset; numeric
instructions keep their opcode (a saturating truncation is `0x100` plus its sub-opcode). -/
inductive Instr where
  | unreachable
  | nop
  | block (type : BlockType) (body : List Instr)
  | loop (type : BlockType) (body : List Instr)
  | cond (type : BlockType) (thn els : List Instr)
  | br (depth : Nat)
  | brIf (depth : Nat)
  | brTable (targets : List Nat) (fallback : Nat)
  | ret
  | call (func : Nat)
  | callIndirect (type : Nat) (table : Nat)
  | drop
  | select
  | localGet (index : Nat)
  | localSet (index : Nat)
  | localTee (index : Nat)
  | globalGet (index : Nat)
  | globalSet (index : Nat)
  | load (op : Nat) (offset : Nat)
  | store (op : Nat) (offset : Nat)
  | memorySize
  | memoryGrow
  | const (bits : UInt64)
  | numeric (op : Nat)
  | memoryInit (segment : Nat)
  | dataDrop (segment : Nat)
  | memoryCopy
  | memoryFill
  | refNull
  | refIsNull
  | refFunc (func : Nat)
  deriving Inhabited

/-- A global: its type, whether it may change, and its initializer. -/
structure Global where
  type : ValType
  mutable : Bool
  init : List Instr
  deriving Inhabited

/-- A data segment: its bytes, and for an active segment the initializer of its address. -/
structure DataSegment where
  offset : Option (List Instr)
  bytes : ByteArray
  deriving Inhabited

/-- An element segment: the functions it holds, and for an active segment its table and the
initializer of its position. -/
structure ElemSegment where
  table : Nat := 0
  offset : Option (List Instr) := none
  funcs : List (Option Nat) := []
  deriving Inhabited

/-- A function body as decoded: its declared locals and its instruction bytes. -/
structure Code where
  locals : List ValType
  body : ByteArray
  deriving Inhabited

/-- A decoded module. -/
structure Module where
  types : Array FuncType := #[]
  imports : List Import := []
  /-- The type index of each function the module defines. -/
  funcs : Array Nat := #[]
  tables : List (ValType × Limits) := []
  memories : List Limits := []
  globals : List Global := []
  exports : List Export := []
  start : Option Nat := none
  elems : List ElemSegment := []
  codes : Array Code := #[]
  data : List DataSegment := []
  dataCount : Option Nat := none
  /-- The module name of the name section, empty without one. -/
  moduleName : String := ""
  /-- The function names of the name section. -/
  funcNames : List (Nat × String) := []
  /-- Whether a name section was seen. -/
  named : Bool := false
  deriving Inhabited

namespace Module

def importedFuncs (m : Module) : List Nat :=
  m.imports.filterMap fun i => match i.desc with
    | .func t => some t
    | _ => none

/-- The number of imported functions; defined functions are numbered after them. -/
def importedFuncCount (m : Module) : Nat := m.importedFuncs.length

def importedGlobalCount (m : Module) : Nat :=
  (m.imports.filter fun i => match i.desc with
    | .global .. => true
    | _ => false).length

def funcTypeIndex? (m : Module) (f : Nat) : Option Nat :=
  let n := m.importedFuncCount
  if f < n then m.importedFuncs[f]? else m.funcs[f - n]?

def funcType? (m : Module) (f : Nat) : Option FuncType :=
  (m.funcTypeIndex? f).bind fun t => m.types[t]?

def memory? (m : Module) : Option Limits :=
  let imported := m.imports.filterMap fun i => match i.desc with
    | .memory l => some l
    | _ => none
  (imported ++ m.memories).head?

def exportedFunc? (m : Module) (name : String) : Option Nat :=
  (m.exports.find? fun e => e.name == name && e.kind == .func).map (·.index)

/-- The name of a function in traces: the name section's, else `$` and its index. -/
def funcName (m : Module) (f : Nat) : String :=
  match m.funcNames.lookup f with
  | some n => n
  | none => "$" ++ toString f

end Module

theorem FuncType.text_empty : FuncType.text {} = "v_v" := rfl

end Introspection.Guest
