import Introspection.Guest.Check
import Introspection.Guest.Arith

/-!
# Running guest code

A big-step interpreter over instruction trees. Running a list of instructions ends in one of
four ways: it falls through, it branches out of some enclosing blocks, it returns from the
function, or it traps. A block catches a branch of depth zero and passes deeper branches out
one level less deep; a loop starts again on a branch of depth zero.

A function call takes its arguments from the stack, runs the callee's body with fresh locals
and leaves the callee's results. Imported functions are the host's. A trap carries the
functions it passed through on its way out, innermost first.

Every instruction run and every loop iteration spend one unit of an explicit budget, and
calls nest to a bounded depth; running out of either traps.
-/

namespace Introspection.Guest

def pageSize : Nat := 65536

/-- The state guest code changes: linear memory, its page bound, globals, the function
table and the data segments dropped so far. -/
structure Store where
  memory : ByteArray := .empty
  maxPages : Nat := 0
  globals : Array UInt64 := #[]
  table : Array (Option Nat) := #[]
  dropped : List Nat := []
  deriving Inhabited

/-- An activation: the operand stack, top first, and the locals. -/
structure Frame where
  values : List UInt64
  locals : Array UInt64

/-- How running instructions ends. -/
inductive Outcome where
  | next (st : Store) (fr : Frame)
  | branch (depth : Nat) (st : Store) (fr : Frame)
  | done (st : Store) (values : List UInt64)
  | trap (st : Store) (t : Trap) (trace : List Nat)

/-- A host function's effect: the store after it and its results or its trap. -/
abbrev HostCall := Nat → Store → List UInt64 → Store × Except Trap (List UInt64)

namespace Store

def pages (st : Store) : Nat := st.memory.size / pageSize

def fits (st : Store) (addr n : Nat) : Bool := addr + n ≤ st.memory.size

def readLE (st : Store) (addr n : Nat) : Nat :=
  (List.range n).foldr (fun i acc => acc * 256 + (st.memory.get! (addr + i)).toNat) 0

/-- Writes the low `n` bytes of a number at an address, little-endian. -/
def writeLE (st : Store) (addr n v : Nat) : Store :=
  let ⟨memory, maxPages, globals, table, dropped⟩ := st
  let memory := (List.range n).foldl
    (fun m i => m.set! (addr + i) (v / 256 ^ i % 256).toUInt8) memory
  ⟨memory, maxPages, globals, table, dropped⟩

def writeBytes (st : Store) (addr : Nat) (bs : ByteArray) : Store :=
  let ⟨memory, maxPages, globals, table, dropped⟩ := st
  ⟨bs.copySlice 0 memory addr bs.size, maxPages, globals, table, dropped⟩

def readBytes (st : Store) (addr n : Nat) : ByteArray := st.memory.extract addr (addr + n)

def grow (st : Store) (n : Nat) : Store :=
  let ⟨memory, maxPages, globals, table, dropped⟩ := st
  ⟨memory ++ ByteArray.mk (Array.replicate (n * pageSize) 0), maxPages, globals, table, dropped⟩

def setGlobal (st : Store) (i : Nat) (v : UInt64) : Store :=
  let ⟨memory, maxPages, globals, table, dropped⟩ := st
  ⟨memory, maxPages, globals.set! i v, table, dropped⟩

end Store

def accessWidth (op : Nat) : Nat :=
  match op with
  | 0x28 | 0x2a | 0x34 | 0x35 | 0x36 | 0x38 | 0x3e => 4
  | 0x29 | 0x2b | 0x37 | 0x39 => 8
  | 0x2c | 0x2d | 0x30 | 0x31 | 0x3a | 0x3c => 1
  | _ => 2

/-- The slot a load leaves for the bytes it read: sign-extended for the signed forms. -/
def loadResult (op : Nat) (raw : Nat) : UInt64 :=
  match op with
  | 0x2c => Arith.extend 8 32 raw
  | 0x2e => Arith.extend 16 32 raw
  | 0x30 => Arith.extend 8 64 raw
  | 0x32 => Arith.extend 16 64 raw
  | 0x34 => Arith.extend 32 64 raw
  | _ => raw.toUInt64

/-- The slot of a reference to a function; zero is the null reference. -/
def funcRef (f : Nat) : UInt64 := (f + 1).toUInt64

def exec (p : Program) (host : HostCall) : Nat → Nat → Store → Frame → List Instr → Outcome
  | 0, _, st, _, _ => .trap st .outOfFuel []
  | _ + 1, _, st, fr, [] => .next st fr
  | fuel + 1, calls, st, fr, i :: rest =>
    let continue_ (st : Store) (fr : Frame) : Outcome := exec p host fuel calls st fr rest
    match i with
    | .unreachable => .trap st .unreachable []
    | .nop => exec p host fuel calls st fr rest
    | .block t body =>
      let base := fr.values.drop t.params
      match exec p host fuel calls st fr body with
      | .next st fr | .branch 0 st fr =>
        exec p host fuel calls st { fr with values := fr.values.take t.results ++ base } rest
      | .branch (n + 1) st fr => .branch n st fr
      | other => other
    | .loop t body =>
      let base := fr.values.drop t.params
      match exec p host fuel calls st fr body with
      | .next st fr =>
        exec p host fuel calls st { fr with values := fr.values.take t.results ++ base } rest
      | .branch 0 st fr =>
        exec p host fuel calls st { fr with values := fr.values.take t.params ++ base } (i :: rest)
      | .branch (n + 1) st fr => .branch n st fr
      | other => other
    | .cond t thn els =>
      match fr.values with
      | c :: vs =>
        let body := if c.toUInt32 != 0 then thn else els
        exec p host fuel calls st { fr with values := vs } (.block t body :: rest)
      | [] => .trap st .unreachable []
    | .br n => .branch n st fr
    | .brIf n =>
      match fr.values with
      | c :: vs =>
        if c.toUInt32 != 0 then .branch n st { fr with values := vs }
        else exec p host fuel calls st { fr with values := vs } rest
      | [] => .trap st .unreachable []
    | .brTable ls d =>
      match fr.values with
      | c :: vs => .branch (ls.getD c.toUInt32.toNat d) st { fr with values := vs }
      | [] => .trap st .unreachable []
    | .ret => .done st fr.values
    | .call f =>
      match p.module.funcType? f with
      | none => .trap st .unreachable []
      | some ft =>
        let n := ft.params.length
        let args := (fr.values.take n).reverse
        let below := fr.values.drop n
        let imported := p.module.importedFuncCount
        if f < imported then
          match host f st args with
          | (st, .ok res) => exec p host fuel calls st { fr with values := res.reverse ++ below } rest
          | (st, .error t) => .trap st t [f]
        else
          match calls with
          | 0 => .trap st .stackOverflow []
          | calls' + 1 =>
            let code := p.module.codes.getD (f - imported) default
            let locals := (args ++ code.locals.map (fun _ => (0 : UInt64))).toArray
            let body := p.bodies.getD (f - imported) []
            let nres := ft.results.length
            match exec p host fuel calls' st ⟨[], locals⟩ body with
            | .next st fr' | .branch _ st fr' =>
              exec p host fuel calls st { fr with values := fr'.values.take nres ++ below } rest
            | .done st vs =>
              exec p host fuel calls st { fr with values := vs.take nres ++ below } rest
            | .trap st t tr => .trap st t (tr ++ [f])
    | .callIndirect ty _ =>
      match fr.values with
      | c :: vs =>
        match st.table[c.toUInt32.toNat]? with
        | none => .trap st .invalidTableAccess []
        | some none => .trap st .invalidTableAccess []
        | some (some f) =>
          if p.module.funcType? f != p.module.types[ty]? then .trap st .indirectTypeMismatch []
          else exec p host fuel calls st { fr with values := vs } (.call f :: rest)
      | [] => .trap st .unreachable []
    | .drop => continue_ st { fr with values := fr.values.drop 1 }
    | .select =>
      match fr.values with
      | c :: b :: a :: vs => continue_ st { fr with values := (if c.toUInt32 != 0 then a else b) :: vs }
      | _ => .trap st .unreachable []
    | .localGet k => continue_ st { fr with values := fr.locals.getD k 0 :: fr.values }
    | .localSet k =>
      match fr with
      | ⟨v :: vs, locals⟩ => continue_ st ⟨vs, locals.set! k v⟩
      | _ => .trap st .unreachable []
    | .localTee k =>
      match fr with
      | ⟨v :: vs, locals⟩ => continue_ st ⟨v :: vs, locals.set! k v⟩
      | _ => .trap st .unreachable []
    | .globalGet k => continue_ st { fr with values := st.globals.getD k 0 :: fr.values }
    | .globalSet k =>
      match fr.values with
      | v :: vs => continue_ (st.setGlobal k v) { fr with values := vs }
      | [] => .trap st .unreachable []
    | .load op off =>
      match fr.values with
      | a :: vs =>
        let ea := a.toUInt32.toNat + off
        let w := accessWidth op
        if st.fits ea w then continue_ st { fr with values := loadResult op (st.readLE ea w) :: vs }
        else .trap st .outOfBounds []
      | [] => .trap st .unreachable []
    | .store op off =>
      match fr.values with
      | v :: a :: vs =>
        let ea := a.toUInt32.toNat + off
        let w := accessWidth op
        if st.fits ea w then continue_ (st.writeLE ea w v.toNat) { fr with values := vs }
        else .trap st .outOfBounds []
      | _ => .trap st .unreachable []
    | .memorySize => continue_ st { fr with values := st.pages.toUInt64 :: fr.values }
    | .memoryGrow =>
      match fr.values with
      | n :: vs =>
        let old := st.pages
        let n := n.toUInt32.toNat
        if old + n > st.maxPages then continue_ st { fr with values := 0xFFFFFFFF :: vs }
        else continue_ (st.grow n) { fr with values := old.toUInt64 :: vs }
      | [] => .trap st .unreachable []
    | .const v => continue_ st { fr with values := v :: fr.values }
    | .numeric op =>
      if Arith.operandCount op == 1 then
        match fr.values with
        | a :: vs =>
          match Arith.unary op a.toNat with
          | .ok r => continue_ st { fr with values := r.toUInt64 :: vs }
          | .error t => .trap st t []
        | [] => .trap st .unreachable []
      else
        match fr.values with
        | b :: a :: vs =>
          match Arith.binary op a.toNat b.toNat with
          | .ok r => continue_ st { fr with values := r.toUInt64 :: vs }
          | .error t => .trap st t []
        | _ => .trap st .unreachable []
    | .memoryCopy =>
      match fr.values with
      | n :: src :: dst :: vs =>
        let (n, src, dst) := (n.toUInt32.toNat, src.toUInt32.toNat, dst.toUInt32.toNat)
        if st.fits src n && st.fits dst n then
          continue_ (st.writeBytes dst (st.readBytes src n)) { fr with values := vs }
        else .trap st .outOfBounds []
      | _ => .trap st .unreachable []
    | .memoryFill =>
      match fr.values with
      | n :: v :: dst :: vs =>
        let (n, dst) := (n.toUInt32.toNat, dst.toUInt32.toNat)
        if st.fits dst n then
          continue_ (st.writeBytes dst (ByteArray.mk (Array.replicate n v.toUInt8)))
            { fr with values := vs }
        else .trap st .outOfBounds []
      | _ => .trap st .unreachable []
    | .memoryInit seg =>
      match fr.values with
      | n :: src :: dst :: vs =>
        let (n, src, dst) := (n.toUInt32.toNat, src.toUInt32.toNat, dst.toUInt32.toNat)
        let bytes := if st.dropped.contains seg then .empty
          else ((p.module.data[seg]?).map (·.bytes)).getD .empty
        if src + n ≤ bytes.size && st.fits dst n then
          continue_ (st.writeBytes dst (bytes.extract src (src + n))) { fr with values := vs }
        else .trap st .outOfBounds []
      | _ => .trap st .unreachable []
    | .dataDrop seg => continue_ { st with dropped := seg :: st.dropped } fr
    | .refNull => continue_ st { fr with values := 0 :: fr.values }
    | .refIsNull =>
      match fr.values with
      | r :: vs => continue_ st { fr with values := (if r == 0 then 1 else 0) :: vs }
      | [] => .trap st .unreachable []
    | .refFunc f => continue_ st { fr with values := funcRef f :: fr.values }

def stepBudget : Nat := 2 ^ 40

def callBudget : Nat := 1000

/-- Calls a function of a program with arguments in parameter order; gives the store after it
and the results in order, or the trap and the functions it passed through. -/
def Program.call (p : Program) (host : HostCall) (st : Store) (f : Nat) (args : List UInt64) :
    Store × Except (Trap × List Nat) (List UInt64) :=
  let imported := p.module.importedFuncCount
  let nres := ((p.module.funcType? f).map (·.results.length)).getD 0
  if f < imported then
    match host f st args with
    | (st, .ok res) => (st, .ok res)
    | (st, .error t) => (st, .error (t, [f]))
  else
    let code := p.module.codes.getD (f - imported) default
    let locals := (args ++ code.locals.map (fun _ => (0 : UInt64))).toArray
    let body := p.bodies.getD (f - imported) []
    match exec p host stepBudget callBudget st ⟨[], locals⟩ body with
    | .next st fr | .branch _ st fr => (st, .ok (fr.values.take nres).reverse)
    | .done st vs => (st, .ok (vs.take nres).reverse)
    | .trap st t tr => (st, .error (t, tr ++ [f]))

/-- An empty list of instructions falls through with the state unchanged. -/
theorem exec_nil (p : Program) (host : HostCall) (fuel calls : Nat) (st : Store) (fr : Frame) :
    exec p host (fuel + 1) calls st fr [] = .next st fr := by
  simp [exec]

end Introspection.Guest
