import Introspection.Binding.Wrapper

/-!
# Properties

Properties are read and written through value cells of 24 bytes: a type id and two data
words, the value in the first. A cell is initialized for the type id of the property's
type (the registered type of an enum or class, a pointer for callbacks and untyped pointers,
a fundamental id for basic types) and filled or read through the module's converter.

Reading a property owns the cell's contents, so the cell is unset afterwards; writing one
lends the encoded value for the call. Creating an instance with properties sets them, in name
order, during construction; construct-only properties may only be set there.
-/

namespace Introspection.Binding

open Introspection.Typelib Introspection.Repository Introspection.Info Introspection.Native
  Introspection.Loaded Introspection.Loaded.Session Introspection.Marshal

/-- The fundamental type id a cell of a basic type is initialized with. -/
def fundamental? (tag : TypeTag) : Option Nat :=
  match tag.code with
  | 2 => some 12 | 3 => some 16 | 1 => some 20 | 4 => some 24 | 6 => some 24
  | 5 => some 28 | 7 => some 28 | 21 => some 28 | 8 => some 40 | 9 => some 44
  | 10 => some 56 | 11 => some 60 | 13 => some 64 | 14 => some 64
  | _ => none

def pointerType : Nat := 68

def cellSize : Nat := 24

def valueType (hooks : Hooks) (m : Nat) (ti : Info) : SessionM Nat := do
  let r := (← get).repo
  let tag := Info.tag r ti
  let ty ← repoM (Info.typeText ti)
  if tag == .interface then
    match ← repoM (Info.typeInterface ti) with
    | none => throw (.unsupported .encode ("GValue of unresolved " ++ ty))
    | some iface =>
      if iface.kind == .enum || iface.kind == .flags then
        let init := Info.typeInit r iface
        if init.isEmpty then
          throw (.unsupported .encode ("GValue of unregistered " ++ Info.qualifiedName r iface))
        return ← callSymbol hooks m init ⟨[], ← gtypeKind m⟩ []
      if iface.kind == .callback then return pointerType
      return ← gtypeOf hooks (← classOf hooks iface)
  if tag == .void && Info.isPointer r ti then return pointerType
  match fundamental? tag with
  | some gt => return gt
  | none => throw (.unsupported .encode ("GValue of " ++ ty))

def newCells (m : Nat) (scope : Nat) (n : Nat) : SessionM Nat := do
  let h := (← module m).handle
  let size := n * cellSize
  let addr ← match ← attempt (alloc h size 8) with
    | .ok a => pure a
    | .error e => throw (.allocationFailed .encode size 8 (some e))
  scopeFree (some scope) addr
  match ← attempt (write h addr (ByteArray.mk (Array.replicate size 0))) with
  | .ok () => return addr
  | .error e => throw (.wrap .encode .outOfBounds e "clear GValue")

def initCell (hooks : Hooks) (m : Nat) (addr gt : Nat) : SessionM Unit := do
  discard (callSymbol hooks m "g_value_init" ⟨[.ptr, ← gtypeKind m], .ptr⟩ [addr, gt])

/-- Encodes a value into a cell initialized for a type; the cell borrows what the encoding
allocates, which the scope frees. -/
def setCell (hooks : Hooks) (m : Nat) (scope : Nat) (addr : Nat) (ti : Info) (v : Value)
    (path : List String) : SessionM Unit := do
  let k ← repoE (slotKind ti)
  let a ← toNative hooks (← converterOf m) v ti
    { path, scope := some scope, nullable := true, transfer := .nothing }
  store (← module m).handle (addr + 8) k a

def getCell (hooks : Hooks) (m : Nat) (addr : Nat) (ti : Info) : SessionM Value := do
  let k ← repoE (slotKind ti)
  let a ← match ← attempt (load (← module m).handle (addr + 8) k) with
    | .ok a => pure a
    | .error e => throw (.wrap .decode .outOfBounds e "load GValue")
  fromNative hooks (← converterOf m) a ti .nothing

def scopedString (m : Nat) (scope : Nat) (s : String) : SessionM Nat := do
  let h := (← module m).handle
  let addr ← match ← attempt (writeCString h s.toUTF8) with
    | .ok a => pure a
    | .error e => throw (.allocationFailed .encode (s.utf8ByteSize + 1) 1 (some e))
  scopeFree (some scope) addr
  return addr

def propertySig : Signature := ⟨[.ptr, .ptr, .ptr], .void⟩

/-- Runs work in a fresh scope of a module's library, ending the scope afterwards. -/
def withScope {α : Type} (m : Nat) (f : Nat → SessionM α) : SessionM α := do
  let scope ← newScope (← module m).handle
  let res ← attempt (f scope)
  releaseScope scope
  lift res

def getProperty (hooks : Hooks) (w : Nat) (name : String) : SessionM Value := do
  live w ("property " ++ name)
  let (c, ptr, _) ← nativeOf w
  let m := (← klass c).module
  let pi ← findProperty hooks c name
  let r := (← get).repo
  if Info.propertyFlags r pi % 2 == 0 then
    throw (← memberError c name .unsupported "property is not readable")
  let ti := Info.propertyType pi
  let gt ← valueType hooks m ti
  let scope ← newScope (← module m).handle
  let mut unset : Option Nat := none
  let res ← attempt do
    let cell ← newCells m scope 1
    initCell hooks m cell gt
    pure cell
  let res ← match res with
    | .error e => pure (.error e)
    | .ok cell =>
      unset := some cell
      attempt do
        let cname ← scopedString m scope (Info.name (← get).repo pi)
        discard (callSymbol hooks m "g_object_get_property" propertySig [ptr, cname, cell])
        getCell hooks m cell ti
  match unset with
  | some cell => discard (attempt (callSymbol hooks m "g_value_unset" unrefSig [cell]))
  | none => pure ()
  releaseScope scope
  lift res

def setProperty (hooks : Hooks) (w : Nat) (name : String) (v : Value) : SessionM Unit := do
  live w ("property " ++ name)
  let (c, ptr, _) ← nativeOf w
  let m := (← klass c).module
  let pi ← findProperty hooks c name
  let r := (← get).repo
  let flags := Info.propertyFlags r pi
  if flags / 2 % 2 == 0 then throw (← memberError c name .readOnly "property is not writable")
  if flags / 8 % 2 == 1 then
    throw (← memberError c name .readOnly "property can only be set at construction")
  let ti := Info.propertyType pi
  let gt ← valueType hooks m ti
  let q ← qualifiedName c
  withScope m fun scope => do
    let cell ← newCells m scope 1
    initCell hooks m cell gt
    setCell hooks m scope cell ti v [q, name]
    let cname ← scopedString m scope (Info.name (← get).repo pi)
    discard (callSymbol hooks m "g_object_set_property" propertySig [ptr, cname, cell])

/-- Creates an instance of an object class with properties set during construction, in name
order, and wraps it. -/
def newWithProperties (hooks : Hooks) (c : Nat) (props : List (String × Value)) :
    SessionM Value := do
  let k ← klass c
  let r := (← get).repo
  if k.kind != .object then
    throw (.unsupported .runtime ("NewWithProperties on " ++ (← classText c)))
  if Info.isAbstract r k.info then
    throw (.unsupported .runtime ("instance of abstract " ++ (← qualifiedName c)))
  let gt ← gtypeOf hooks c
  let m := k.module
  let sorted := props.mergeSort fun a b => decide (a.1 ≤ b.1)
  let n := sorted.length
  let h := (← module m).handle
  let q ← qualifiedName c
  withScope m fun scope => do
    let cells ← newCells m scope (max n 1)
    let ps ← ptrSize h
    let namev ← match ← attempt (alloc h (max n 1 * ps) ps) with
      | .ok a => pure a
      | .error e => throw (.allocationFailed .encode (n * ps) ps (some e))
    scopeFree (some scope) namev
    for ((name, v), i) in sorted.zipIdx do
      let pi ← findProperty hooks c name
      let r := (← get).repo
      if Info.propertyFlags r pi / 2 % 2 == 0 then
        throw (← memberError c name .readOnly "property is not writable")
      let ti := Info.propertyType pi
      let gt ← valueType hooks m ti
      let cell := cells + i * cellSize
      initCell hooks m cell gt
      setCell hooks m scope cell ti v [q, name]
      let cname ← scopedString m scope (Info.name (← get).repo pi)
      match ← attempt (writePointer h (namev + i * ps) cname) with
      | .ok () => pure ()
      | .error e => throw (.wrap .encode .outOfBounds e "write property names")
    let sig : Signature := ⟨[← gtypeKind m, .u32, .ptr, .ptr], .ptr⟩
    let ptr ← callSymbol hooks m "g_object_new_with_properties" sig [gt, n, namev, cells]
    if ptr == 0 then
      throw (.fault .invoke .nilPointer [q] "" "" "g_object_new_with_properties returned NULL"
        .null none)
    wrapInstance hooks c ptr true

end Introspection.Binding
