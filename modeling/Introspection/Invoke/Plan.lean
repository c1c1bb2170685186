import Introspection.Marshal.Slot

/-!
# Call plans

A call plan is the native frame layout a callable's description implies. Each argument gets a
role: supplied by the caller, the element count of an array argument, callback user data, a
callback destroy notifier, or skipped. Only caller-supplied arguments that travel inward are
taken from the caller, in order, after the receiver of a method. The native signature has a
pointer for the receiver, one slot per argument (a pointer for out and inout arguments), a
pointer for the error location of a throwing callable, and the return slot.

A length argument is hidden when it travels in the same direction as the array that names it;
the length of the return array is hidden when it is an out argument. Caller-allocated out
arguments get storage of the size of their struct, union or fixed-size array.
-/

namespace Introspection.Invoke

open Introspection.Typelib Introspection.Repository Introspection.Info Introspection.Native
  Introspection.Marshal

/-- Where an argument's value comes from. -/
inductive Role where
  | user
  | length
  | closure
  | destroy
  | skip
  deriving DecidableEq, Repr, Inhabited

/-- One argument of a plan. -/
structure Slot where
  arg : Info
  typ : Info
  name : String
  /-- The slot of the value itself; out arguments pass a pointer to storage of this kind. -/
  kind : ValueKind := .void
  /-- The storage allocated for caller-allocated out arguments. -/
  size : Nat := 0
  dir : Direction
  role : Role := .user
  /-- The position among the caller's arguments, for arguments the caller supplies. -/
  host : Option Nat := none
  deriving Inhabited

namespace Slot

def out (s : Slot) : Bool := s.dir != .input

/-- Whether the caller supplies the argument: it travels inward and is not a length, user
data, a destroy notifier or skipped. -/
def supplied (s : Slot) : Bool := s.role == .user && s.dir != .output

def numbered (s : Slot) (want : Nat) : Slot × Nat :=
  if s.supplied then ({ s with host := some want }, want + 1) else (s, want)

end Slot

/-- The frame layout of a callable. -/
structure Plan where
  ret : Info
  name : String
  slots : List Slot
  sig : Signature
  want : Nat
  method : Bool
  throws : Bool
  skipRet : Bool
  retXfer : Transfer
  deriving Inhabited

namespace Plan

def slot (p : Plan) (i : Nat) : Slot := p.slots.getD i default

/-- The argument holding the length of an array type, if it names one in range. -/
def lengthSlot (r : Repository) (slots : List Slot) (ti : Info) : Option Nat :=
  if Info.tag r ti != .array then none
  else
    let j := Info.arrayLength r ti
    if j < 0 || j ≥ slots.length then none else some j.toNat

/-- Gives the argument at an index a role, unless it already has one. -/
def mark (slots : List Slot) (idx : Int) (role : Role) : List Slot :=
  if idx < 0 then slots
  else slots.modify idx.toNat fun s => if s.role == .user then { s with role } else s

def isCallback (ti : Info) : RepoM Bool := do
  if Info.tag (← get) ti != .interface then return false
  match ← Info.typeInterface ti with
  | some iface => return iface.kind == .callback
  | none => return false

def storageSize (ti : Info) (ptrSize : Nat) : RepoM (Except Failure Nat) := do
  let r ← get
  let unsupported : Failure := .unsupported .encode ("caller-allocated " ++ (← Info.typeText ti))
  match (Info.tag r ti).code with
  | 16 =>
    match ← Info.typeInterface ti with
    | some iface =>
      if iface.kind == .struct || iface.kind == .boxed || iface.kind == .union then
        return .ok (Info.size (← get) iface)
      return .error unsupported
    | none => return .error unsupported
  | 15 =>
    let n := Info.arrayFixedSize r ti
    match Info.paramType r ti 0 with
    | some elem =>
      if n < 0 then return .error unsupported
      -- a 32-bit product, taken modulo 2 ^ 32
      return (← elementSize elem ptrSize).map (· * n.toNat % 2 ^ 32)
    | none => return .error unsupported
  | _ => return .error unsupported

def noSlot (name arg : String) (ti : Info) (cause : Failure) : RepoM Failure := do
  return .fault .encode .conversion [name, arg] "" (← Info.typeString ti) "no native slot" .null
    (some cause)

/-- Assigns roles from array lengths, callbacks and skip annotations. -/
def assignRoles (r : Repository) (ret : Info) (slots : List Slot) (callbacks : List Bool) :
    List Slot :=
  let slots := match lengthSlot r slots ret with
    | some j => if (slots.getD j default).out then mark slots j .length else slots
    | none => slots
  (List.range slots.length).foldl (fun slots i =>
    let s := slots.getD i default
    let slots := match lengthSlot r slots s.typ with
      | some j => if j != i && s.out == (slots.getD j default).out then mark slots j .length
        else slots
      | none => slots
    let slots :=
      if callbacks.getD i false then
        mark (mark slots (Info.closure r s.arg) .closure) (Info.destroy r s.arg) .destroy
      else if Info.closure r s.arg ≥ 0 && Info.tag r s.typ == .void then mark slots i .closure
      else slots
    if Info.isSkip r s.arg then mark slots i .skip else slots) slots

/-- Gives a slot its native kind; a caller-allocated out argument passes a pointer to storage
of its type's size. -/
def kindSlot (ptrSize : Nat) (s : Slot) : RepoM (Except Failure Slot) := do
  if Info.isCallerAllocates (← get) s.arg then
    return (← storageSize s.typ ptrSize).map fun size => { s with kind := .ptr, size }
  return (← slotKind s.typ).map fun k => { s with kind := k }

/-- Gives each slot its native kind and, when the caller supplies it, the next host position
counted from `want`; returns the slots with the count of host positions after them. -/
def layout (name : String) (ptrSize : Nat) :
    Nat → List Slot → RepoM (Except Failure (List Slot × Nat))
  | want, [] => return .ok ([], want)
  | want, s :: rest => do
    let next := s.numbered want
    match ← kindSlot ptrSize next.1 with
    | .error e => return .error (← noSlot name next.1.name next.1.typ e)
    | .ok s => return (← layout name ptrSize next.2 rest).map fun (done, want) => (s :: done, want)

/-- The native parameters of a frame: the receiver, one slot per argument (a pointer for out and
inout arguments) and the error location. -/
def params (method throws : Bool) (slots : List Slot) : List ValueKind :=
  (if method then [.ptr] else []) ++ slots.map (fun s => if s.out then .ptr else s.kind) ++
    (if throws then [.ptr] else [])

def build (c : Info) (ptrSize : Nat) : RepoM (Except Failure Plan) := do
  let r ← get
  let name := Info.qualifiedName r c
  let ret := Info.returnType r c
  let args := Info.args r c
  let slots : List Slot := args.map fun a =>
    { arg := a, typ := Info.argType a, name := Info.name r a, dir := Info.direction r a }
  let mut callbacks : List Bool := []
  for s in slots do
    callbacks := callbacks ++ [← isCallback s.typ]
  let slots := assignRoles (← get) ret slots callbacks
  let method := Info.isMethod r c
  match ← layout name ptrSize (if method then 1 else 0) slots with
  | .error e => return .error e
  | .ok (done, want) =>
    let throws := Info.canThrow r c
    match ← slotKind ret with
    | .error e => return .error (← noSlot name "return" ret e)
    | .ok result =>
      return .ok { ret, name, slots := done, sig := ⟨params method throws done, result⟩, want,
                   method, throws, skipRet := Info.skipReturn r c, retXfer := Info.returnTransfer r c }

theorem mark_negative (slots : List Slot) (idx : Int) (role : Role) (h : idx < 0) :
    mark slots idx role = slots := by
  simp [mark, h]

end Plan

end Introspection.Invoke
