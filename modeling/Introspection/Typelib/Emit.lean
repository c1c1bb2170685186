import Introspection.Typelib.Constant
import Introspection.Failure

/-!
# The image emitter

Building an image writes blobs front to back. Some parts cannot be written where they are
referenced: complex types, signatures and constant values are written later, at the end of the
image, and the slot that refers to them is patched then. Strings are collected and written as
one sorted table, and each slot naming a string is patched to its offset. The emitter is the
state of this process; the first failure it meets is kept and reported when the image is done.

Struct and union layouts are computed here too: natural alignment, or the explicit layout the
description gives. A layout is computed once per name; a type that contains itself by value is
a failure.
-/

namespace Introspection.Typelib

/-- Work left for the end of the image. -/
inductive Pending where
  /-- A complex type whose slot is at `pos`. -/
  | complexType (pos : Nat) (t : TypeDef)
  /-- A signature whose slot is at `pos`. -/
  | signature (pos : Nat) (sig : SignatureDef)
  /-- The value of a constant whose size and offset slots are at `sizePos` and `valPos`. -/
  | constantValue (sizePos valPos : Nat) (d : ConstantDef)
  deriving Inhabited

/-- Field offsets, size and alignment of a compound type. -/
structure Layout where
  offsets : List Nat := []
  size : Nat := 0
  align : Nat := 1
  deriving Inhabited

/-- An attribute and the blob it is attached to. -/
structure AttrRecord where
  offset : Nat
  name : String
  value : String

/-- The state of building one image. -/
structure Emitter where
  space : String
  pointerSize : Nat
  w : Writer := {}
  /-- String slots: the string and the position of the slot naming it. -/
  strs : Array (String × Nat) := #[]
  /-- Directory indices by local name or by `Namespace.Name`. -/
  index : List (String × Nat) := []
  /-- Local entries by name. -/
  locals : List (String × EntryDef) := []
  layouts : List (String × Layout) := []
  busy : List String := []
  later : List Pending := []
  attrs : Array AttrRecord := #[]
  /-- Foreign entries: namespace and name. -/
  foreign : Array (String × String) := #[]
  nLocal : Nat := 0
  err : Option Failure := none

/-- The emitter's computations. -/
abbrev EmitM := StateM Emitter

namespace Emit

def fail (msg : String) : EmitM Unit :=
  modify fun e => if e.err.isSome then e
    else { e with err := some (.invalidInput .load ("typelib builder: " ++ msg)) }

def write (f : Writer → Writer) : EmitM Unit := modify fun e => { e with w := f e.w }

def len : EmitM Nat := return (← get).w.len

def u8 (v : Nat) : EmitM Unit := write (·.u8 v)
def u16 (v : Nat) : EmitM Unit := write (·.u16 v)
def u32 (v : Nat) : EmitM Unit := write (·.u32 v)
def align (n : Nat) : EmitM Unit := write (·.align n)

def zero (n : Nat) : EmitM Nat := do
  let off ← len
  write (·.zero n)
  return off

/-- Records that the slot at `pos` names `s`; the empty string leaves it zero. -/
def strAt (pos : Nat) (s : String) : EmitM Unit :=
  if s.isEmpty then pure ()
  else modify fun e => { e with strs := e.strs.push (s, pos) }

def str (s : String) : EmitM Unit := do
  let pos ← zero 4
  strAt pos s

def postpone (p : Pending) : EmitM Unit := modify fun e => { e with later := e.later ++ [p] }

def attributes (off : Nat) (attrs : List Attribute) : EmitM Unit :=
  modify fun e => { e with attrs := attrs.foldl (fun acc a => acc.push ⟨off, a.name, a.value⟩) e.attrs }

def lastDot? (s : String) : Option Nat :=
  let bs := s.toUTF8
  (List.range bs.size).foldl (fun acc i => if byteAt bs i == 46 then some i else acc) none

def splitQualified (name : String) : Option (String × String) :=
  (lastDot? name).map fun i =>
    let bs := name.toUTF8
    (Text.Utf8.lossy (bs.extract 0 i), Text.Utf8.lossy (bs.extract (i + 1) bs.size))

/-- The directory index of an entity, adding a foreign entry for names of another namespace. -/
def ref (name : String) : EmitM Nat := do
  if name.isEmpty then return 0
  let e ← get
  let (ns, localName) := (splitQualified name).getD (e.space, name)
  if ns == e.space then
    match e.index.lookup localName with
    | some i => return i
    | none =>
      fail ("unresolved reference " ++ Text.Quote.quote name)
      return 0
  else
    let key := ns ++ "." ++ localName
    match e.index.lookup key with
    | some i => return i
    | none =>
      let idx := (e.nLocal + e.foreign.size + 1) % 2 ^ 16
      set { e with foreign := e.foreign.push (ns, localName), index := (key, idx) :: e.index }
      return idx

def bit (c : Bool) (n : Nat) : Nat := if c then 2 ^ n else 0

/-! ## Layout -/

def alignUp (n a : Nat) : Nat :=
  if a ≤ 1 then n else (n + a - 1) % 2 ^ 32 / a * a % 2 ^ 32

def u32of (i : Int) : Nat := (i % 2 ^ 32).toNat

/-- The size and alignment of a tag held by value, for tags of fixed width; pointer-sized
otherwise. -/
def scalarLayout (p c : Nat) : Nat × Nat :=
  if c == 2 || c == 3 then (1, 1)
  else if c == 4 || c == 5 then (2, 2)
  else if c == 1 || c == 6 || c == 7 || c == 10 || c == 21 then (4, 4)
  else if c == 8 || c == 9 || c == 11 then (8, 8)
  else (p, p)

mutual

/-- The layout of a compound type, cached by name. `fuel` bounds the nesting of types held by
value, which is at most the number of entries since a type being laid out is never entered
again. -/
def layoutOf (fuel : Nat) (name : String) (fields : List FieldDef) (explicit : Bool)
    (size : Nat) (alignment : Nat) (isUnion : Bool) : EmitM Layout := do
  let e ← get
  match e.layouts.lookup name with
  | some l => return l
  | none =>
    if e.busy.contains name then
      fail ("type " ++ name ++ " contains itself by value")
      return { offsets := fields.map fun _ => 0 }
    else if explicit then
      let offsets := fields.map fun f => u32of f.offset
      let al := if alignment % 256 == 0 then 1 else alignment % 256
      let l : Layout := ⟨offsets, size % 2 ^ 32, al⟩
      modify fun e => { e with layouts := (name, l) :: e.layouts }
      return l
    else match fuel with
      | 0 => return { offsets := fields.map fun _ => 0 }
      | fuel + 1 =>
        modify fun e => { e with busy := name :: e.busy }
        let (offsets, stop, align) ← fieldsLayout fuel fields isUnion 0 1
        modify fun e => { e with busy := e.busy.erase name }
        let l : Layout := { offsets, size := alignUp stop align, align }
        modify fun e => { e with layouts := (name, l) :: e.layouts }
        return l
termination_by (fuel, 0, 0)

/-- Lays out fields from `stop` with alignment `align` so far: offsets, end and alignment. -/
def fieldsLayout (fuel : Nat) : List FieldDef → Bool → Nat → Nat → EmitM (List Nat × Nat × Nat)
  | [], _, stop, align => return ([], stop, align)
  | f :: rest, isUnion, stop, align => do
    let (fs, fa) ← fieldLayout fuel f
    let align := if fa > align then fa else align
    if isUnion then
      let (offs, stop, align) ← fieldsLayout fuel rest isUnion (if fs > stop then fs else stop) align
      return (0 :: offs, stop, align)
    else
      let pos := alignUp stop fa
      let (offs, stop, align) ← fieldsLayout fuel rest isUnion ((pos + fs) % 2 ^ 32) align
      return (pos :: offs, stop, align)
termination_by fields => (fuel, 4, sizeOf fields)

def fieldLayout (fuel : Nat) (f : FieldDef) : EmitM (Nat × Nat) := do
  match f.callback with
  | some _ =>
    let p := (← get).pointerSize
    return (p, p)
  | none => typeLayout fuel f.type
termination_by (fuel, 3, sizeOf f)

def typeLayout (fuel : Nat) (t : TypeDef) : EmitM (Nat × Nat) := do
  let p := (← get).pointerSize
  if t.pointer then return (p, p)
  let c := t.tag.code
  if c == 15 then
    match hp : t.params, t.fixedSize with
    | elem :: _, some n =>
      let (s, a) ← typeLayout fuel elem
      return (s * u32of n % 2 ^ 32, a)
    | _, _ => return (p, p)
  else if c == 16 then entityLayout fuel t.iface
  else return scalarLayout p c
termination_by (fuel, 2, sizeOf t)
decreasing_by
  all_goals first
    | (apply Prod.Lex.right; apply Prod.Lex.right
       cases t; simp only at hp; subst hp; simp; omega)
    | (apply Prod.Lex.right; apply Prod.Lex.left; omega)

def entityLayout (fuel : Nat) (name : String) : EmitM (Nat × Nat) := do
  let e ← get
  let p := e.pointerSize
  let localName? : Option String := match splitQualified name with
    | some (ns, n) => if ns == e.space then some n else none
    | none => some name
  match localName? with
  | none => return (p, p)
  | some n =>
    match e.locals.lookup n with
    | some (.enum d) =>
      if d.storage == .void then return (4, 4)
      else return scalarLayout p d.storage.code
    | some (.struct d) =>
      let l ← layoutOf fuel d.name d.fields d.explicitLayout d.size d.alignment false
      return (l.size, l.align)
    | some (.union d) =>
      let l ← layoutOf fuel d.name d.fields d.explicitLayout d.size d.alignment true
      return (l.size, l.align)
    | _ => return (p, p)
termination_by (fuel, 1, 0)

end

theorem bit_false (n : Nat) : bit false n = 0 := rfl

end Emit

end Introspection.Typelib
