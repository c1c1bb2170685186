import Introspection.Guest.Module
import Introspection.Text.Hex
import Introspection.Text.Quote

/-!
# Decoding guest modules

The binary form of a module: a magic number and version, then sections of an id and a size.
Decoding follows the sections in the order they come and checks what the binary form alone
fixes: the shapes of types, imports, limits, globals, exports, segments and bodies, the
memory's size against the runtime's page limit, and that every body ends with `end`. The
instructions inside bodies are read when the module is checked.

A failure is the message of the first fault found, prefixed by the section it is in.
-/

namespace Introspection.Guest

/-- Reading a module's bytes: the bytes are fixed, the position moves, a failure is a message. -/
abbrev Decoder := ReaderT ByteArray (StateT Nat (Except String))

namespace Decoder

def mapError {α : Type} (f : String → String) (d : Decoder α) : Decoder α :=
  tryCatch d fun e => throw (f e)

def remaining : Decoder Nat := do return (← read).size - (← get)

def byte : Decoder UInt8 := do
  let bs ← read
  let p ← get
  match bs[p]? with
  | some b => set (p + 1); return b
  | none => throw "EOF"

/-- Exactly `n` bytes: without any left the failure is `EOF`, with too few `unexpected EOF`. -/
def take (n : Nat) : Decoder ByteArray := do
  if n == 0 then return .empty
  let bs ← read
  let p ← get
  if p + n ≤ bs.size then
    set (p + n)
    return bs.extract p (p + n)
  else if p ≥ bs.size then throw "EOF"
  else
    set bs.size
    throw "unexpected EOF"

/-- Skips up to `n` bytes; fails with `EOF` only when `n` is positive and nothing is left. -/
def skipSome (n : Nat) : Decoder Unit := do
  let bs ← read
  let p ← get
  if n > 0 && p ≥ bs.size then throw "EOF"
  set (min bs.size (p + n))

/-- An unsigned LEB128 number of at most 32 bits, with the number of bytes it took. -/
def u32Sized : Decoder (Nat × Nat) := go 5 0 0
where
  /-- Reads the remaining groups of seven bits. -/
  go : Nat → Nat → Nat → Decoder (Nat × Nat)
    | 0, _, _ => throw "overflows a 32-bit integer"
    | n + 1, acc, shift => do
      let b ← byte
      if b < 0x80 then
        if n == 0 && b &&& 0xf0 != 0 then throw "overflows a 32-bit integer"
        return (acc + b.toNat * 2 ^ shift, 5 - n)
      go n (acc + (b.toNat % 128) * 2 ^ shift) (shift + 7)

def u32 : Decoder Nat := do return (← u32Sized).1

def signedLeb (bits len : Nat) : Decoder Int := go len 0 0
where
  /-- Reads the remaining groups of seven bits. -/
  go : Nat → Nat → Nat → Decoder Int
    | 0, _, _ => throw ("overflows a " ++ toString bits ++ "-bit integer")
    | n + 1, acc, shift => do
      let b ← (byte).mapError ("readByte failed: " ++ ·)
      let acc := acc + (b.toNat % 128) * 2 ^ shift
      if b < 0x80 then
        let width := shift + 7
        let v : Int := if b &&& 0x40 != 0 then (acc : Int) - 2 ^ width else acc
        if v < -(2 ^ (bits - 1) : Int) || v ≥ (2 ^ (bits - 1) : Int) then
          throw ("overflows a " ++ toString bits ++ "-bit integer")
        return v
      go n acc (shift + 7)

/-- A name: a length and that many bytes of UTF-8, with the bytes the whole took. -/
def utf8Sized (what : String) : Decoder (String × Nat) := do
  let (n, k) ← u32Sized.mapError (fun e => "failed to read " ++ what ++ " size: " ++ e)
  if n == 0 then return ("", k)
  let bs ← (take n).mapError (fun e => "failed to read " ++ what ++ ": " ++ e)
  match String.fromUTF8? bs with
  | some s => return (s, n + k)
  | none => throw (what ++ " is not valid UTF-8")

def utf8 (what : String) : Decoder String := do return (← utf8Sized what).1

def vecSize : Decoder Nat := u32.mapError ("get size of vector: " ++ ·)

end Decoder

open Decoder

def sectionName (id : Nat) : String :=
  match id with
  | 0 => "custom" | 1 => "type" | 2 => "import" | 3 => "function" | 4 => "table"
  | 5 => "memory" | 6 => "global" | 7 => "export" | 8 => "start" | 9 => "element"
  | 10 => "code" | 11 => "data" | 12 => "data_count"
  | _ => "unknown"

def externName (b : Nat) : String :=
  match b with
  | 0 => "func" | 1 => "table" | 2 => "memory" | 3 => "global"
  | other => "0x" ++ Text.Hex.ofNat other

def byteText (b : Nat) : String := "0x" ++ Text.Hex.ofNat b

def maxPages : Nat := 65536

def pagesText (pages : Nat) : String :=
  let k := pages * 64
  if k < 1024 then toString k ++ " Ki"
  else
    let m := k / 1024
    if m < 1024 then toString m ++ " Mi"
    else
      let g := m / 1024
      if g < 1024 then toString g ++ " Gi" else toString (g / 1024) ++ " Ti"

def pagesWithSize (n : Nat) : String := toString n ++ " pages (" ++ pagesText n ++ ")"

def valTypes (n : Nat) : Decoder (List ValType) := do
  let bs ← take n
  let mut out : List ValType := []
  for b in bs.toList do
    match ValType.ofByte? b with
    | some t => out := out ++ [t]
    | none => throw ("invalid value type: " ++ toString b.toNat)
  return out

def funcType : Decoder FuncType := do
  let b ← byte.mapError ("read leading byte: " ++ ·)
  if b != 0x60 then throw ("invalid byte: " ++ byteText b.toNat ++ " != 0x60")
  let np ← u32.mapError ("could not read parameter count: " ++ ·)
  let params ← (valTypes np).mapError ("could not read parameter types: " ++ ·)
  let nr ← u32.mapError ("could not read result count: " ++ ·)
  let results ← (valTypes nr).mapError ("could not read result types: " ++ ·)
  return { params := params, results := results }

/-- Limits: a flag, a minimum and with flag 1 or 3 a maximum; flags 2 and 3 mark shared. -/
def limits : Decoder (Limits × Bool) := do
  let flag ← byte.mapError ("read leading byte: " ++ ·)
  if flag == 0 || flag == 2 then
    let min ← u32.mapError ("read min of limit: " ++ ·)
    return ({ min }, flag == 2)
  else if flag == 1 || flag == 3 then
    let min ← u32.mapError ("read min of limit: " ++ ·)
    let max ← u32.mapError ("read max of limit: " ++ ·)
    return ({ min, max := some max }, flag == 3)
  else throw ("invalid byte for limits: " ++ byteText flag.toNat ++ " not in (0x00, 0x01, 0x02, 0x03)")

/-- The memory size rules: the effective maximum is the declared one clamped to the runtime's
limit, or the limit itself; the minimum and maximum must fit the limit and each other. -/
def checkMemory (l : Limits) (limit : Nat) : Except String Limits :=
  let max := match l.max with
    | some m => if m > maxPages then m else if m > limit then limit else m
    | none => limit
  if max > limit then
    .error ("max " ++ pagesWithSize max ++ " over limit of " ++ pagesWithSize limit)
  else if l.min > limit then
    .error ("min " ++ pagesWithSize l.min ++ " over limit of " ++ pagesWithSize limit)
  else if l.min > max then
    .error ("min " ++ pagesWithSize l.min ++ " > max " ++ pagesWithSize max)
  else .ok { min := l.min, max := some max }

def memoryType (limit : Nat) : Decoder Limits := do
  let (l, shared) ← limits
  if shared then throw "shared memory requested but threads feature not enabled"
  match checkMemory l limit with
  | .ok l => return l
  | .error e => throw e

def tableType : Decoder (ValType × Limits) := do
  let b ← byte.mapError ("read leading byte: " ++ ·)
  let t ← match ValType.ofByte? b with
    | some t => pure t
    | none => throw ("invalid table type: " ++ byteText b.toNat)
  let (l, shared) ← limits.mapError ("read limits: " ++ ·)
  if l.min > 134217728 then throw "table min must be at most 134217728"
  match l.max with
  | some m => if m < l.min then throw "table size minimum must not be greater than maximum"
  | none => pure ()
  if shared then throw "tables cannot be marked as shared"
  return (t, l)

def globalType : Decoder (ValType × Bool) := do
  let ts ← (valTypes 1).mapError ("read value type: " ++ ·)
  let b ← byte.mapError ("read mutablity: " ++ ·)
  if b > 1 then throw ("invalid byte for mutability: " ++ byteText b.toNat ++ " != 0x00 or 0x01")
  return (ts.headD .i32, b == 1)

/-- A constant expression: one constant, global read or reference, then `end`. -/
def constExpr : Decoder (List Instr) := do
  let op ← byte.mapError ("read opcode: " ++ ·)
  let i ← (match op with
    | 0x41 => do pure (Instr.const (Int.toNat ((← signedLeb 32 5) % 2 ^ 32)).toUInt64)
    | 0x42 => do pure (Instr.const (Int.toNat ((← signedLeb 64 10) % 2 ^ 64)).toUInt64)
    | 0x43 => do
      let bs ← (take 4).mapError ("read f32 constant: " ++ ·)
      return Instr.const (bs.toList.foldr (fun (b : UInt8) (acc : Nat) => acc * 256 + b.toNat) 0).toUInt64
    | 0x44 => do
      let bs ← (take 8).mapError ("read f64 constant: " ++ ·)
      return Instr.const (bs.toList.foldr (fun (b : UInt8) (acc : Nat) => acc * 256 + b.toNat) 0).toUInt64
    | 0x23 => do pure (Instr.globalGet (← u32))
    | 0xd0 => do
      let t ← byte.mapError ("read reference type for ref.null: " ++ ·)
      if t != 0x70 && t != 0x6f then throw ("invalid type for ref.null: " ++ byteText t.toNat)
      return Instr.refNull
    | 0xd2 => do pure (Instr.refFunc (← u32))
    | other => throw ("invalid byte for const expression opt code: " ++ byteText other.toNat))
    |>.mapError (fun e =>
      if e.startsWith "invalid byte for const" || e.startsWith "read f" || e.startsWith "invalid type"
        || e.startsWith "read reference" then e else "read value: " ++ e)
  let e ← byte.mapError ("look for end opcode: " ++ ·)
  if e != 0x0b then throw "constant expression has been not terminated"
  return [i]

def typeSection : Decoder (Array FuncType) := do
  let n ← vecSize
  let mut out : Array FuncType := #[]
  for i in List.range n do
    out := out.push (← funcType.mapError (fun e => "read " ++ toString i ++ "-th type: " ++ e))
  return out

def importEntry (limit idx : Nat) : Decoder Import := do
  let module ← (utf8 "import module").mapError
    (fun e => "import[" ++ toString idx ++ "] error decoding module: " ++ e)
  let name ← (utf8 "import name").mapError
    (fun e => "import[" ++ toString idx ++ "] error decoding name: " ++ e)
  let b ← byte.mapError (fun e => "import[" ++ toString idx ++ "] error decoding type: " ++ e)
  let desc ← (match b with
    | 0 => do pure (ImportDesc.func (← u32))
    | 1 => do let (t, l) ← tableType; return ImportDesc.table t l
    | 2 => do pure (ImportDesc.memory (← memoryType limit))
    | 3 => do let (t, m) ← globalType; return ImportDesc.global t m
    | other => throw ("invalid byte: invalid byte for importdesc: " ++ byteText other.toNat))
    |>.mapError (fun e => "import[" ++ toString idx ++ "] " ++ externName b.toNat ++ "[" ++ module ++
      "." ++ name ++ "]: " ++ e)
  return { module := module, name := name, desc := desc }

def importSection (limit : Nat) : Decoder (List Import) := do
  let n ← vecSize
  let mut out : List Import := []
  for i in List.range n do
    out := out ++ [← importEntry limit i]
  return out

def functionSection : Decoder (Array Nat) := do
  let n ← vecSize
  let mut out : Array Nat := #[]
  for _ in List.range n do
    out := out.push (← u32.mapError ("get type index: " ++ ·))
  return out

def tableSection : Decoder (List (ValType × Limits)) := do
  let n ← vecSize
  let mut out : List (ValType × Limits) := []
  for _ in List.range n do
    out := out ++ [← tableType]
  return out

def memorySection (limit : Nat) : Decoder (List Limits) := do
  let n ← vecSize
  if n > 1 then throw ("at most one memory allowed in module, but read " ++ toString n)
  if n == 0 then return []
  return [← memoryType limit]

def globalSection : Decoder (List Global) := do
  let n ← vecSize
  let mut out : List Global := []
  for i in List.range n do
    let g ← (do
      let (type, mutable) ← globalType
      let init ← constExpr
      return { type, mutable, init : Global }).mapError (fun e => "global[" ++ toString i ++ "]: " ++ e)
    out := out ++ [g]
  return out

def exportSection : Decoder (List Export) := do
  let n ← vecSize
  let mut out : List Export := []
  for i in List.range n do
    let e ← (do
      let name ← utf8 "export name"
      let b ← byte.mapError ("error decoding export kind: " ++ ·)
      let kind ← match b with
        | 0 => pure ExternKind.func
        | 1 => pure ExternKind.table
        | 2 => pure ExternKind.memory
        | 3 => pure ExternKind.global
        | other => throw ("invalid byte: invalid byte for exportdesc: " ++ byteText other.toNat)
      let index ← u32.mapError ("error decoding export index: " ++ ·)
      return { name, kind, index : Export }).mapError ("read export: " ++ ·)
    if out.any (·.name == e.name) then
      throw ("export[" ++ toString i ++ "] duplicates name " ++ Text.Quote.quote e.name)
    out := out ++ [e]
  return out

def funcIndices : Decoder (List (Option Nat)) := do
  let n ← vecSize
  let mut out : List (Option Nat) := []
  for _ in List.range n do
    out := out ++ [some (← u32.mapError ("read function index: " ++ ·))]
  return out

/-- A vector of element expressions: references to functions or null. -/
def elemExprs : Decoder (List (Option Nat)) := do
  let n ← vecSize
  let mut out : List (Option Nat) := []
  for _ in List.range n do
    match ← constExpr with
    | [.refFunc f] => out := out ++ [some f]
    | _ => out := out ++ [none]
  return out

def elemSegment : Decoder ElemSegment := do
  let prefixByte ← u32.mapError ("read element prefix: " ++ ·)
  match prefixByte with
  | 0 =>
    let offset ← constExpr.mapError ("read expr for offset: " ++ ·)
    return { offset := some offset, funcs := ← funcIndices }
  | 1 => discard byte; return { funcs := ← funcIndices }
  | 2 =>
    let table ← u32
    let offset ← constExpr.mapError ("read expr for offset: " ++ ·)
    discard byte
    return { table, offset := some offset, funcs := ← funcIndices }
  | 3 => discard byte; discard funcIndices; return {}
  | 4 =>
    let offset ← constExpr.mapError ("read expr for offset: " ++ ·)
    return { offset := some offset, funcs := ← elemExprs }
  | 5 => discard byte; return { funcs := ← elemExprs }
  | 6 =>
    let table ← u32
    let offset ← constExpr.mapError ("read expr for offset: " ++ ·)
    discard byte
    return { table, offset := some offset, funcs := ← elemExprs }
  | 7 => discard byte; discard elemExprs; return {}
  | other => throw ("invalid element segment prefix: " ++ byteText other)

def elementSection : Decoder (List ElemSegment) := do
  let n ← vecSize
  let mut out : List ElemSegment := []
  for _ in List.range n do
    out := out ++ [← elemSegment.mapError ("read element: " ++ ·)]
  return out

/-- One function body: declared locals, then instruction bytes ending with `end`. -/
def code : Decoder Code := do
  let size ← u32.mapError ("get the size of code: " ++ ·)
  let (groups, k) ← u32Sized.mapError ("get the size locals: " ++ ·)
  if size < k then throw "EOF"
  let mut left := size - k
  let mut locals : List ValType := []
  let mut total := 0
  for _ in List.range groups do
    let (count, k) ← u32Sized.mapError ("read n of locals: " ++ ·)
    let b ← byte.mapError ("read type of local: " ++ ·)
    let t ← match ValType.ofByte? b with
      | some t => pure t
      | none => throw ("invalid local type: " ++ byteText b.toNat)
    total := total + count
    if total > 4294967295 then throw ("too many locals: " ++ toString total)
    locals := locals ++ List.replicate count t
    left := left - (k + 1)
  let body ← (take left).mapError ("read body: " ++ ·)
  if body.size == 0 || body[body.size - 1]! != 0x0b then throw "expr not end with OpcodeEnd"
  return { locals := locals, body := body }

def codeSection : Decoder (Array Code) := do
  let n ← vecSize
  let mut out : Array Code := #[]
  for i in List.range n do
    out := out.push (← code.mapError (fun e => "read " ++ toString i ++ "-th code segment: " ++ e))
  return out

def dataSegment : Decoder DataSegment := do
  let prefixByte ← u32.mapError ("read data segment prefix: " ++ ·)
  let offset ← match prefixByte with
    | 0 => some <$> constExpr.mapError ("read offset expression: " ++ ·)
    | 2 =>
      let d ← u32.mapError ("read memory index: " ++ ·)
      if d != 0 then throw ("memory index must be zero but was " ++ toString d)
      some <$> constExpr.mapError ("read offset expression: " ++ ·)
    | 1 => pure none
    | other => throw ("invalid data segment prefix: " ++ byteText other)
  let n ← u32.mapError ("get the size of vector: " ++ ·)
  let bytes ← (take n).mapError ("read bytes for init: " ++ ·)
  return { offset := offset, bytes := bytes }

def dataSection : Decoder (List DataSegment) := do
  let n ← vecSize
  let mut out : List DataSegment := []
  for _ in List.range n do
    out := out ++ [← dataSegment.mapError ("read data segment: " ++ ·)]
  return out

def functionNames : Decoder (List (Nat × String)) := do
  let n ← u32.mapError ("failed to read the function count of subsection[1]: " ++ ·)
  let mut out : List (Nat × String) := []
  for _ in List.range n do
    let f ← u32.mapError ("failed to read a function index in subsection[1]: " ++ ·)
    let name ← utf8 ("function[" ++ toString f ++ "] name")
    out := out ++ [(f, name)]
  return out

def localNames : Decoder Unit := do
  let n ← u32.mapError ("failed to read the function count of subsection[2]: " ++ ·)
  for _ in List.range n do
    let f ← u32.mapError ("failed to read a function index in subsection[2]: " ++ ·)
    let m ← u32.mapError (fun e => "failed to read the local count for function[" ++ toString f ++
      "]: " ++ e)
    for _ in List.range m do
      let l ← u32.mapError (fun e => "failed to read a local index of function[" ++ toString f ++
        "]: " ++ e)
      discard (utf8 ("function[" ++ toString f ++ "] local[" ++ toString l ++ "] name"))

/-- The name section: the module name and function names; other subsections are skipped. -/
def nameSection (m : Module) (limit : Nat) : Decoder Module := go limit m limit
where
  /-- Reads subsections while the section has bytes left. -/
  go (total : Nat) : Module → Nat → Decoder Module
    | m, 0 => return m
    | m, left + 1 => do
      let id ← byte.mapError ("failed to read a subsection ID: " ++ ·)
      let (size, k) ← u32Sized.mapError
        (fun e => "failed to read the size of subsection[" ++ toString id.toNat ++ "]: " ++ e)
      let m ← match id with
        | 0 => do pure { m with moduleName := ← utf8 "module name" }
        | 1 => do pure { m with funcNames := ← functionNames }
        | 2 => do localNames; return m
        | _ => do
          (skipSome size).mapError
            (fun e => "failed to skip subsection[" ++ toString id.toNat ++ "]: " ++ e)
          return m
      if 1 + k + size > left + 1 then return m
      go total m (left + 1 - (1 + k + size))
  termination_by _ left => left
  decreasing_by omega

/-- A custom section: its name, then either the name section or bytes that are kept aside. -/
def customSection (m : Module) (size : Nat) : Decoder Module := do
  let (name, k) ← utf8Sized "custom section name"
  if size < k then throw ("malformed custom section " ++ name)
  if name == "name" && m.named then throw ("redundant custom section " ++ name)
  if name == "name" then
    let m ← nameSection { m with named := true } (size - k)
    return m
  (skipSome (size - k)).mapError
    (fun e => "failed to read custom section name[" ++ name ++ "]: " ++ e)
  return m

/-- One section's content into the module. Import and global failures are reported as they
are; others carry the section's name. -/
def section_ (limit : Nat) (m : Module) (id size : Nat) : Decoder Module := do
  let start ← get
  let wrapped (d : Decoder Module) : Decoder Module :=
    d.mapError (fun e => "section " ++ sectionName id ++ ": " ++ e)
  let m ← match id with
    | 0 => wrapped (customSection m size)
    | 1 => wrapped (do pure { m with types := ← typeSection })
    | 2 => do pure { m with imports := ← importSection limit }
    | 3 => wrapped (do pure { m with funcs := ← functionSection })
    | 4 => wrapped (do pure { m with tables := ← tableSection })
    | 5 => wrapped (do pure { m with memories := ← memorySection limit })
    | 6 => do pure { m with globals := ← globalSection }
    | 7 => wrapped (do pure { m with exports := ← exportSection })
    | 8 => do
      if m.start.isSome then throw "multiple start sections are invalid"
      wrapped (do pure { m with start := some (← u32.mapError ("get function index: " ++ ·)) })
    | 9 => wrapped (do pure { m with elems := ← elementSection })
    | 10 => wrapped (do pure { m with codes := ← codeSection })
    | 11 => wrapped (do pure { m with data := ← dataSection })
    | 12 => wrapped (do pure { m with dataCount := some (← u32) })
    | _ => wrapped (throw "invalid section id")
  let stop ← get
  if stop - start != size then
    throw ("section " ++ sectionName id ++ ": invalid section length: expected to be " ++
      toString size ++ " but got " ++ toString (stop - start))
  return m

def sections (limit : Nat) : Nat → Module → Decoder Module
  | 0, m => return m
  | fuel + 1, m => do
    if (← remaining) == 0 then return m
    let id ← byte
    let size ← u32.mapError
      (fun e => "get size of section " ++ sectionName id.toNat ++ ": " ++ e)
    let m ← section_ limit m id.toNat size
    sections limit fuel m

def Module.decode (bytes : ByteArray) (limit : Nat) : Except String Module :=
  let run : Decoder Module := do
    let magic ← tryCatch (take 4) (fun _ => throw "invalid magic number")
    if magic.toList != [0x00, 0x61, 0x73, 0x6d] then throw "invalid magic number"
    let version ← tryCatch (take 4) (fun _ => throw "invalid version header")
    if version.toList != [0x01, 0x00, 0x00, 0x00] then throw "invalid version header"
    let m ← sections limit bytes.size {}
    if m.funcs.size != m.codes.size then
      throw ("function and code section have inconsistent lengths: " ++ toString m.funcs.size ++
        " != " ++ toString m.codes.size)
    return m
  (run.run bytes |>.run' 0)

theorem pagesText_one : pagesText 1 = "64 Ki" := by decide

end Introspection.Guest
