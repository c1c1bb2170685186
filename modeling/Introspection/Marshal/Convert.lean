import Introspection.Loaded.Calls
import Introspection.Value.Numbers

/-!
# Converting values

The converter moves host values into a library's memory and back, driven by type
descriptions. Numbers are range-checked against their tag; strings, arrays and lists are
copied into fresh blocks, which belong to the conversion's scope unless ownership passes to
the callee; enums must name a member unless they are flags; callbacks become code addresses
whose frames decode the native arguments and encode the host function's result.

Reading back mirrors this: numbers by tag, strings and arrays copied out (and freed when the
converter owns them), arrays sized by a length argument, a fixed size or a zero terminator,
lists walked node by node, and error records decoded with their domain's name.

Walks over native memory stop after `2^24` elements, so corrupt memory cannot loop forever.
-/

namespace Introspection.Marshal

open Introspection.Typelib Introspection.Repository Introspection.Info Introspection.Native
  Introspection.Host Introspection.Loaded Introspection.Loaded.Session

def maxElements : Nat := 2 ^ 24

def signedRange (bits : Nat) : Int × Int := (-(2 ^ (bits - 1) : Int), 2 ^ (bits - 1) - 1)

def enumStorage (a : Nat) (storage : TypeTag) : Int :=
  let sext (bits : Nat) : Int :=
    let v := a % 2 ^ bits
    if v < 2 ^ (bits - 1) then v else (v : Int) - 2 ^ bits
  match storage.code with
  | 2 => sext 8
  | 3 => a % 2 ^ 8
  | 4 => sext 16
  | 5 => a % 2 ^ 16
  | 7 => a % 2 ^ 32
  | 8 | 9 => sext 64
  | _ => sext 32

def signedOf (t : IntType) (a : Nat) : Value := .int t (t.wrap a)

/-- The element type of a typed result slice, for basic element tags. -/
def elemTypeOfTag? (tag : TypeTag) : Option ElemType :=
  match tag.code with
  | 1 => some .bool
  | 2 => some (.int .int8)
  | 3 => some (.int .uint8)
  | 4 => some (.int .int16)
  | 5 => some (.int .uint16)
  | 6 => some (.int .int32)
  | 7 => some (.int .uint32)
  | 8 => some (.int .int64)
  | 9 => some (.int .uint64)
  | 10 => some .float32
  | 11 => some .float64
  | 12 => some .gtype
  | 13 | 14 => some .string
  | 21 => some (.int .int32)
  | _ => none

/-- Decoded elements as a typed slice when the element type is basic and no element is null. -/
def typedSlice (items : List Value) (r : Repository) (elem : Info) : Value :=
  let tag := Info.tag r elem
  if Info.isPointer r elem && tag != .utf8 && tag != .filename then .list items
  else match elemTypeOfTag? tag with
    | none => .list items
    | some e => if items.any (fun v => match v with | .null => true | _ => false) then .list items
      else .slice e items

/-- Ownership of the elements of a container with a given ownership. -/
def elementTransfer (t : Transfer) : Transfer := if t == .everything then .everything else .nothing

/-! ## Failures -/

def conversionError (o : Options) (v : Value) (ty : String) (cause : Option Failure)
    (detail : String) : Failure :=
  .fault .encode .conversion o.path v.typeName ty detail v cause

def decodeError (ty : String) (cause : Option Failure) (detail : String) : Failure :=
  .fault .decode .conversion [] "" ty detail .null cause

def orConversion {α : Type} (o : Options) (v : Value) (ty detail : String) (m : SessionM α) :
    SessionM α := do
  match ← attempt m with
  | .ok a => pure a
  | .error e => throw (conversionError o v ty (some e) detail)

def orDecode {α : Type} (ty detail : String) (m : SessionM α) : SessionM α := do
  match ← attempt m with
  | .ok a => pure a
  | .error e => throw (decodeError ty (some e) detail)

/-! ## Slots in memory -/

def load (h : Nat) (addr : Nat) (k : ValueKind) : SessionM Nat := do
  let n := k.size (← ptrSize h)
  if n == 0 then return 0
  return k.normalize (← readLE h addr (if n == 1 || n == 2 || n == 4 then n else 8))

def store (h : Nat) (addr : Nat) (k : ValueKind) (a : Nat) : SessionM Unit := do
  let n := k.size (← ptrSize h)
  if n == 0 then return
  writeLE h addr (if n == 1 || n == 2 || n == 4 then n else 8) a

/-- Reads the error record at an address: a domain quark, a code and a message pointer. -/
def readError (hooks : Hooks) (conv : Nat) (addr : Nat) : SessionM NativeError := do
  let c ← converter conv
  let h := c.handle
  let q ← readLE h addr 4
  let code ← readLE h (addr + 4) 4
  let msgPtr ← readPointer h (addr + 8)
  let message ← if msgPtr != 0 then pure (Text.Utf8.lossy (← readCString h msgPtr)) else pure ""
  let domain ← quark hooks.call c.invoker q
  return { domain, message, code := IntType.int32.wrap code, quark := q }

/-! ## Scopes and callbacks -/

/-- Releases a callback frame once: frees its code address and the scope of its last result. -/
def releaseFrameUpTo : Nat → Nat → SessionM Unit
  | 0, _ => pure ()
  | fuel + 1, fid => do
    let f ← frame fid
    if f.released then return
    modifyFrame fid fun f => { f with released := true, last := none }
    let h := (← converter f.conv).handle
    modifyLibrary (← hostOf h) fun l => l.freeCallback f.ptr
    match f.last with
    | some sid => releaseScopeUpTo fuel sid
    | none => pure ()
where
  /-- Runs a scope's deferred work and frees its blocks, newest first. -/
  releaseScopeUpTo : Nat → Nat → SessionM Unit
    | 0, _ => pure ()
    | fuel + 1, sid => do
      let s ← scope sid
      modifyScope sid fun s => { s with frees := [], defers := [] }
      for d in s.defers.reverse do
        match d with
        | .releaseFrame fid => releaseFrameUpTo fuel fid
      for a in s.frees.reverse do
        free s.handle a

/-- A bound on nested releases: every frame and scope at most once. -/
def releaseFuel : SessionM Nat := do
  let s ← get
  return 2 * (s.frames.size + s.scopes.size) + 2

def releaseScope (sid : Nat) : SessionM Unit := do
  releaseFrameUpTo.releaseScopeUpTo (← releaseFuel) sid

def releaseFrame (fid : Nat) : SessionM Unit := do releaseFrameUpTo (← releaseFuel) fid

/-- Releases a notified callback made by this converter; unknown addresses are ignored. -/
def releaseCallback (conv : Nat) (ptr : Nat) : SessionM Unit := do
  match (← converter conv).notified.lookup ptr with
  | some fid =>
    modifyConverter conv fun c => { c with notified := c.notified.filter (·.1 != ptr) }
    releaseFrame fid
  | none => pure ()

def destroyNotify (conv : Nat) : SessionM Nat := do
  let c ← converter conv
  match c.destroy with
  | some r => lift r
  | none =>
    let lib ← hostOf c.handle
    let r := (← library lib).newCallback ⟨[.ptr], .void⟩ (.destroyNotify conv)
    let r ← match r with
      | .ok (addr, l) => modifyLibrary lib (fun _ => l); pure (Except.ok addr)
      | .error e => pure (.error e)
    modifyConverter conv fun c => { c with destroy := some r }
    lift r

/-- Describes a callable for a callback frame: its arguments, their native slots (pointers for
out arguments) and the result slot. -/
def frameShape (cb : Info) : SessionM (List Info × Signature) := do
  let r ← get
  discard <| lift (Info.asCallable r.repo cb)
  let args := Info.args r.repo cb
  let mut params : List ValueKind := []
  for a in args do
    if Info.direction (← get).repo a == .input then
      params := params ++ [← repoE (slotKind (Info.argType a))]
    else params := params ++ [.ptr]
  let result ← repoE (slotKind (Info.returnType (← get).repo cb))
  return (args, ⟨params, result⟩)

def installFrame (conv : Nat) (f : Frame) : SessionM (Nat × Nat) := do
  let fid ← addFrame f
  let lib ← hostOf (← converter conv).handle
  match (← library lib).newCallback f.sig (.trampoline fid) with
  | .ok (addr, l) =>
    modifyLibrary lib fun _ => l
    modifyFrame fid fun f => { f with ptr := addr }
    return (fid, addr)
  | .error e =>
    modifyFrame fid fun f => { f with released := true }
    throw e

/-! ## Into native form -/

def rawPointer? (hooks : Hooks) (v : Value) : SessionM (Option Nat) :=
  match v with
  | .int .uint64 p | .int .uintptr p => pure (some p.toNat)
  | .handle p => pure (some p)
  | .wrapper .. => hooks.pointerOf v
  | _ => pure none

def describeValue (hooks : Hooks) (v : Value) : SessionM (Option String) :=
  match v with
  | .stringer s => pure (some s)
  | .gtype g => pure (some s!"GType({g})")
  | .enumMember t x => pure (some ((t.nameOf? x).getD ""))
  | .flags t x => pure (some (Value.flagsText t x))
  | .wrapper .. => hooks.describe v
  | _ => pure none

/-- A pointer: null (when allowed), a raw address or a handle's address. -/
def encodePointer (hooks : Hooks) (v : Value) (ty : String) (o : Options) : SessionM Nat := do
  let nullFailure := conversionError o v ty (some (.nilPointer .encode o.path ty)) "null not allowed"
  match v with
  | .null => if o.nullable then return 0 else throw nullFailure
  | .int .uint64 p | .int .uintptr p => return p.toNat
  | _ =>
    match ← rawPointer? hooks v with
    | some p => if p == 0 && !o.nullable then throw nullFailure else return p
    | none => throw (conversionError o v ty none "want pointer")

def encodeSigned (v : Value) (ty : String) (bits : Nat) (o : Options) : Except Failure Nat :=
  let v := match v.integer? with
    | some i => Value.int .int64 i
    | none => v
  let (lo, hi) := signedRange bits
  match v.toInt64? with
  | some i => if i < lo || i > hi then fail v else .ok (Value.bits64 i)
  | none => fail v
where
  fail (v : Value) : Except Failure Nat :=
    if v.isNumber then
      .error (conversionError o v ty (some (.overflow .encode o.path v ty)) "out of range")
    else .error (conversionError o v ty none "want integer")

def encodeUnsigned (v : Value) (ty : String) (bits : Nat) (o : Options) : Except Failure Nat :=
  let v := match v.integer? with
    | some i => Value.int .int64 i
    | none => v
  match v.toUInt64? with
  | some u => if u ≥ 2 ^ bits then fail v else .ok u
  | none => fail v
where
  fail (v : Value) : Except Failure Nat :=
    if v.isNumber then
      .error (conversionError o v ty (some (.overflow .encode o.path v ty)) "out of range")
    else .error (conversionError o v ty none "want unsigned integer")

def encodeUnichar (v : Value) (ty : String) (o : Options) : Except Failure Nat :=
  match v with
  | .str s =>
    match Text.Utf8.decodeAt s 0 with
    | some (c, w) => if w == s.size && c != 0xFFFD then .ok c
      else .error (conversionError o v ty none "want exactly one character")
    | none => .error (conversionError o v ty none "want exactly one character")
  | _ =>
    match v.toUInt64? with
    | some u => if u > 0x10FFFF then .error (conversionError o v ty none "want rune") else .ok u
    | none => .error (conversionError o v ty none "want rune")

def encodeString (hooks : Hooks) (conv : Nat) (v : Value) (ty : String) (o : Options) :
    SessionM Nat := do
  let h := (← converter conv).handle
  let text ← match v with
    | .null =>
      if o.nullable then return 0
      throw (conversionError o v ty (some (.nilPointer .encode o.path ty)) "null not allowed")
    | .str s | .bytes s => pure s
    | _ =>
      match ← describeValue hooks v with
      | some t => pure t.toUTF8
      | none => throw (conversionError o v ty none "want string")
  let addr ← match ← attempt (writeCString h text) with
    | .ok a => pure a
    | .error e => throw (conversionError o v ty
        (some (.allocationFailed .encode (text.size + 1) 1 (some e))) "copy string")
  if o.transfer == .nothing then scopeFree o.scope addr
  return addr

/-- Whether array elements of a type are structs or unions stored inline. -/
def inlineAggregate (elem : Info) : SessionM Bool := do
  let r := (← get).repo
  if Info.isPointer r elem || Info.tag r elem != .interface then return false
  match ← repoM (Info.typeInterface elem) with
  | some iface => return iface.kind == .struct || iface.kind == .boxed || iface.kind == .union
  | none => return false

def encodeCallback (hooks : Hooks) (conv : Nat) (v : Value) (cb : Info) (ty : String)
    (o : Options) : SessionM Nat := do
  match v with
  | .callback .. | .func .. =>
    if let .guest _ := (← handle (← converter conv).handle).backing then
      throw (conversionError o v ty (some (.unsupported .encode "callbacks on this library"))
        "unsupported")
    let (args, sig) ← orConversion o v ty "callback signature" (frameShape cb)
    let r := (← get).repo
    let f : Frame := { conv, callable := cb, args, ret := Info.returnType r cb, sig,
                       rtrans := Info.returnTransfer r cb, target := .value v,
                       async := o.callbackScope == 2 }
    let (fid, ptr) ← orConversion o v ty "create callback" (installFrame conv f)
    if o.callbackScope == 1 then scopeDefer o.scope (.releaseFrame fid)
    else if o.callbackScope == 3 then
      modifyConverter conv fun c => { c with notified := c.notified ++ [(ptr, fid)] }
    return ptr
  | .nilCallback => encodePointer hooks .null ty o
  | _ => encodePointer hooks v ty o

/-- The slot an enum's storage tag gives its values: the tag's own slot, `i32` for the default
and for a tag without one. -/
def enumSlot (storage : TypeTag) : ValueKind :=
  match tagKind? storage with
  | some .void | none => .i32
  | some k => k

def encodeEnum (v : Value) (ty : String) (e : Info) (o : Options) : SessionM Nat := do
  let r := (← get).repo
  let storage := Info.storageType r e
  let k := enumSlot storage
  let bits := k.size 8 * 8
  let unsigned := k == .u8 || k == .u16 || k == .u32 || k == .u64
  let a ← lift (if unsigned then encodeUnsigned v ty bits o else encodeSigned v ty bits o)
  if Info.isFlags e then return a
  let want := enumStorage a storage
  if (Info.values r e).any (fun x => Info.valueOf r x == want) then return a
  throw (conversionError o v ty
    (some (.invalidEnum .encode o.path (.int .int64 want) (Info.qualifiedName r e)))
    "unknown enum value")

/-- Copies the elements of a C array one by one into the block at `addr`, each converted by
`convert`; structs and unions stored inline are copied from the block `convert` makes. -/
def encodeElements (convert : Value → Info → Options → SessionM Nat) (h : Nat)
    (items : List Value) (elem : Info) (addr size : Nat) (o : Options) : SessionM Unit := do
  let inline ← inlineAggregate elem
  let kind := match ← repoM (slotKind elem) with
    | .ok k => k
    | .error _ => .void
  let eo : Options := { o with transfer := elementTransfer o.transfer, nullable := false }
  let ety ← repoM (Info.typeText elem)
  for (item, i) in items.zipIdx do
    let slot := addr + i * size
    let io := eo.at s!"[{i}]"
    if inline then
      let src ← convert item elem io
      let data ← orConversion io item ety "read element" (read h src size)
      orConversion io item ety "write element" (write h slot data)
    else
      let a ← convert item elem io
      orConversion io item ety "write element" (store h slot kind a)

/-- The block a C array is copied into: the memory's handle, the element type, the elements of
the host value, the size of one element and the address of the block. -/
structure ArrayBlock where
  handle : Nat
  elem : Info
  items : List Value
  size : Nat
  addr : Nat

/-- The bytes of the block of a C array of `count` elements of `size` bytes: the product is a
32-bit one, taken modulo `2 ^ 32`, and a block of no bytes takes one. -/
def arrayBytes (size count : Nat) : Nat :=
  if size * count % 2 ^ 32 == 0 then 1 else size * count % 2 ^ 32

/-- The alignment of the block of a C array: the element size, or eight bytes for elements of
no size or of more than eight bytes. -/
def arrayAlign (size : Nat) : Nat := if size == 0 || size > 8 then 8 else size

/-- Checks a host value against a C array type and allocates the block its elements are copied
into, to be freed with the conversion's scope under transfer none. -/
def arrayBlock (conv : Nat) (v : Value) (ti : Info) (ty : String) (o : Options) :
    SessionM ArrayBlock := do
  let r := (← get).repo
  let at_ := Info.arrayType r ti
  if at_ != 0 then
    throw (conversionError o v ty
      (some (.unsupported .encode (arrayTypeName at_ ++ " from Go values"))) "unsupported")
  let some elem := Info.paramType r ti 0
    | throw (conversionError o v ty none "array without element type")
  let some items := v.elements? | throw (conversionError o v ty none "want slice")
  let fixed := Info.arrayFixedSize r ti
  if fixed ≥ 0 && items.length != fixed.toNat then
    throw (conversionError o v ty (some (.outOfBounds .encode o.path items.length fixed))
      s!"want {fixed} elements")
  let h := (← converter conv).handle
  let size ← match ← repoM (elementSize elem (← ptrSize h)) with
    | .ok s => pure s
    | .error e => throw (conversionError o v ty (some e) "element type")
  let count := items.length + (if Info.isZeroTerminated r ti then 1 else 0)
  let total := arrayBytes size count
  let align := arrayAlign size
  let addr ← match ← attempt (alloc h total align) with
    | .ok a => pure a
    | .error e => throw (conversionError o v ty
        (some (.allocationFailed .encode total align (some e))) "allocate array")
  if o.transfer == .nothing then scopeFree o.scope addr
  return { handle := h, elem, items, size, addr }

/-- A C array copied into a fresh block, each element converted by `convert`; a byte slice for
one-byte elements is copied in one write. -/
def encodeArray (hooks : Hooks) (conv : Nat) (convert : Value → Info → Options → SessionM Nat)
    (v : Value) (ti : Info) (ty : String) (o : Options) : SessionM Nat := do
  if (match v with | .null => true | _ => false) || (← rawPointer? hooks v).isSome then
    return ← encodePointer hooks v ty o
  let blk ← arrayBlock conv v ti ty o
  match v with
  | .bytes b =>
    if blk.size == 1 then
      orConversion o v ty "write array" (write blk.handle blk.addr b)
      return blk.addr
  | _ => pure ()
  encodeElements convert blk.handle blk.items blk.elem blk.addr blk.size o
  return blk.addr

/-- A list built from fresh nodes, last element first, each element converted by `convert`. -/
def encodeList (hooks : Hooks) (conv : Nat) (convert : Value → Info → Options → SessionM Nat)
    (v : Value) (ti : Info) (ty : String) (o : Options) : SessionM Nat := do
  match v with
  | .null => return 0
  | _ => pure ()
  if (← rawPointer? hooks v).isSome then return ← encodePointer hooks v ty o
  let some items := v.elements? | throw (conversionError o v ty none "want slice")
  let r := (← get).repo
  let some elem := Info.paramType r ti 0
    | throw (conversionError o v ty none "list without element type")
  let h := (← converter conv).handle
  let ps ← ptrSize h
  let doubly := Info.tag r ti == .glist
  let size := if doubly then 3 * ps else 2 * ps
  let eo : Options := { o with transfer := elementTransfer o.transfer }
  let ety ← repoM (Info.typeText elem)
  let mut next := 0
  let mut head := 0
  for (item, i) in items.zipIdx.reverse do
    let io := eo.at s!"[{i}]"
    let a ← convert item elem io
    let node ← match ← attempt (alloc h size ps) with
      | .ok n => pure n
      | .error e => throw (conversionError o v ty
          (some (.allocationFailed .encode size ps (some e))) "allocate node")
    if o.transfer == .nothing then scopeFree o.scope node
    orConversion io item ety "write node" (writePointer h node a)
    orConversion io item ety "write node" (writePointer h (node + ps) next)
    if doubly && next != 0 then
      orConversion io item ety "write node" (writePointer h (next + 2 * ps) node)
    next := node
    head := node
  return head

/-- Converts a host value to the payload of a type, the types inside it (the elements of arrays
and lists) by `convert`. -/
def encodeValue (hooks : Hooks) (conv : Nat) (convert : Value → Info → Options → SessionM Nat)
    (v : Value) (ti : Info) (o : Options) : SessionM Nat := do
  let r := (← get).repo
  let tag := Info.tag r ti
  let ptr := Info.isPointer r ti
  let ty ← repoM (Info.typeText ti)
  let h := (← converter conv).handle
  if (tag.isNumeric && ptr) || tag == .void then
    if !ptr then return 0
    return ← encodePointer hooks v ty o
  match tag.code with
  | 1 =>
    match v with
    | .bool b => return if b then 1 else 0
    | _ => throw (conversionError o v ty none "want bool")
  | 2 => lift (encodeSigned v ty 8 o)
  | 4 => lift (encodeSigned v ty 16 o)
  | 6 => lift (encodeSigned v ty 32 o)
  | 8 => lift (encodeSigned v ty 64 o)
  | 3 => lift (encodeUnsigned v ty 8 o)
  | 5 => lift (encodeUnsigned v ty 16 o)
  | 7 => lift (encodeUnsigned v ty 32 o)
  | 9 => lift (encodeUnsigned v ty 64 o)
  | 10 =>
    match v.toFloat? with
    | none => throw (conversionError o v ty none "want number")
    | some f =>
      if !f.isInf && !f.isNaN && f.abs > 3.4028234663852886e38 then
        throw (conversionError o v ty (some (.overflow .encode o.path v "gfloat")) "out of range")
      return f.toFloat32.toBits.toNat
  | 11 =>
    match v.toFloat? with
    | none => throw (conversionError o v ty none "want number")
    | some f => return Value.doubleBits f
  | 12 =>
    match v with
    | .gtype g => return g
    | _ => lift (encodeUnsigned v ty ((← ptrSize h) * 8) o)
  | 21 => lift (encodeUnichar v ty o)
  | 13 | 14 => encodeString hooks conv v ty o
  | 15 => encodeArray hooks conv convert v ti ty o
  | 17 | 18 => encodeList hooks conv convert v ti ty o
  | 19 | 20 =>
    if (match v with | .null => true | _ => false) || (← rawPointer? hooks v).isSome then
      encodePointer hooks v ty o
    else
      throw (conversionError o v ty
        (some (.unsupported .encode (tag.name ++ " from Go values"))) "unsupported")
  | 16 =>
    match ← repoM (Info.typeInterface ti) with
    | none => encodePointer hooks v ty o
    | some iface =>
      if iface.kind == .enum || iface.kind == .flags then encodeEnum v ty iface o
      else if iface.kind == .callback then encodeCallback hooks conv v iface ty o
      else if iface.kind == .unresolved then encodePointer hooks v ty o
      else match v with
        | .null => encodePointer hooks v ty o
        | _ =>
          match (← converter conv).codec with
          | some m => hooks.encodeObject m v iface ti o
          | none => encodePointer hooks v ty o
  | _ =>
    throw (conversionError o v ty (some (.unsupported .encode ("type tag " ++ tag.name)))
      "unsupported")

/-- Converts a host value to the payload of a type, looking at most `fuel` types deep. -/
def toNativeUpTo (hooks : Hooks) (conv : Nat) : Nat → Value → Info → Options → SessionM Nat
  | 0, _, _, _ => throw (.unsupported .encode "type nesting too deep")
  | fuel + 1, v, ti, o => encodeValue hooks conv (toNativeUpTo hooks conv fuel) v ti o

def toNative (hooks : Hooks) (conv : Nat) (v : Value) (ti : Info) (o : Options) : SessionM Nat :=
  toNativeUpTo hooks conv Info.typeDepth v ti o

/-! ## Back from native form -/

def zeroTerminatedLength (h : Nat) (data : Nat) (kind : ValueKind) : SessionM Nat := do
  let size := kind.size (← ptrSize h)
  if size == 0 then throw (.unsupported .decode "zero-terminated array of aggregates")
  let rec scan : Nat → Nat → SessionM Nat
    | 0, _ => throw (.outOfBounds .decode [] maxElements maxElements)
    | fuel + 1, n => do
      if (← load h (data + n * size) kind) == 0 then return n
      scan fuel (n + 1)
  scan maxElements 0

/-- Reads the elements of an array slot by slot: each slot is loaded and converted by
`element`, structs and unions stored inline from the slot's own address. Ownership of the array
frees it afterwards. -/
def decodeElements (element : Nat → Info → Transfer → SessionM Value) (h a data n size : Nat)
    (kind : ValueKind) (elem : Info) (ty : String) (transfer : Transfer) : SessionM Value := do
  let inline ← inlineAggregate elem
  let et := elementTransfer transfer
  let mut out : List Value := []
  for i in List.range n do
    let slot := data + i * size
    if inline then
      out := out ++ [← element slot elem .nothing]
    else
      let ea ← orDecode ty s!"read element {i}" (load h slot kind)
      out := out ++ [← element ea elem et]
  if transfer != .nothing then free h a
  return typedSlice out (← get).repo elem

/-- Reads an array of one-byte integers in one read: `uint8` elements come back as the bytes
themselves, `int8` ones as their signed values. Ownership of the array frees it afterwards. -/
def decodeBytes (h a data n : Nat) (etag : TypeTag) (elem : Info) (ty : String)
    (transfer : Transfer) : SessionM Value := do
  let raw ← orDecode ty "read array" (read h data n)
  if transfer != .nothing then free h a
  if etag == .uint8 then return .bytes raw
  return typedSlice (raw.toList.map fun b => signedOf .int8 b.toNat) (← get).repo elem

/-- Converts an array payload: a C array, or the data of a GArray, GPtrArray or GByteArray,
each element through `element`. `length` is the count from a length argument, when there is
one. -/
def decodeArray (conv : Nat) (element : Nat → Info → Transfer → SessionM Value) (a : Nat)
    (ti : Info) (ty : String) (transfer : Transfer) (length : Option Nat) : SessionM Value := do
  if a == 0 then return .null
  let r := (← get).repo
  let some elem := Info.paramType r ti 0 | throw (decodeError ty none "array without element type")
  let h := (← converter conv).handle
  let ps ← ptrSize h
  let mut size ← match ← repoM (elementSize elem ps) with
    | .ok s => pure s
    | .error e => throw (decodeError ty (some e) "element type")
  let mut data := a
  let mut length := length
  let mut transfer := transfer
  let at_ := Info.arrayType r ti
  if at_ != 0 then
    data ← orDecode ty s!"read {arrayTypeName at_}" (readPointer h a)
    length := some (← orDecode ty s!"read {arrayTypeName at_} length" (readLE h (a + ps) 4))
    if at_ == 3 then size := 1
    transfer := .nothing
  let kind := match ← repoM (slotKind elem) with
    | .ok k => k
    | .error _ => .void
  let n ← match length with
    | some n => pure n
    | none =>
      let fixed := Info.arrayFixedSize r ti
      if fixed ≥ 0 then pure fixed.toNat
      else if Info.isZeroTerminated r ti then
        orDecode ty "scan array" (zeroTerminatedLength h data kind)
      else throw (decodeError ty (some (.unsupported .decode "array without length"))
        "unknown length")
  if n > maxElements then
    throw (decodeError ty (some (.outOfBounds .decode [] n maxElements)) "array too long")
  let etag := Info.tag r elem
  if size == 1 && (etag == .uint8 || etag == .int8) && !Info.isPointer r elem then
    decodeBytes h a data n etag elem ty transfer
  else decodeElements element h a data n size kind elem ty transfer

/-- Converts a list payload walked node by node, each element through `element`; full
ownership frees the nodes. -/
def decodeList (conv : Nat) (element : Nat → Info → Transfer → SessionM Value) (a : Nat)
    (ti : Info) (ty : String) (transfer : Transfer) : SessionM Value := do
  let r := (← get).repo
  let some elem := Info.paramType r ti 0 | throw (decodeError ty none "list without element type")
  let kind ← match ← repoM (slotKind elem) with
    | .ok k => pure k
    | .error e => throw (decodeError ty (some e) "element type")
  let h := (← converter conv).handle
  let ps ← ptrSize h
  let et := elementTransfer transfer
  let rec walk : Nat → Nat → List Value → List Nat → SessionM (List Value × List Nat)
    | 0, _, out, _ => throw (decodeError ty (some (.outOfBounds .decode [] out.length maxElements))
        "list too long")
    | steps + 1, node, out, nodes => do
      if node == 0 then return (out, nodes)
      let d ← orDecode ty "read node" (readPointer h node)
      let v ← element (kind.normalize d) elem et
      let next ← orDecode ty "read node" (readPointer h (node + ps))
      walk steps next (out ++ [v]) (nodes ++ [node])
  let (out, nodes) ← walk (maxElements + 1) a [] []
  if transfer != .nothing then
    for n in nodes do free h n
  return typedSlice out (← get).repo elem

/-- Converts a payload of a type to a host value, looking at most `fuel` types deep. With
full ownership the converter releases the native value after copying it. -/
def fromNativeUpTo (hooks : Hooks) (conv : Nat) : Nat → Nat → Info → Transfer → SessionM Value
  | 0, _, _, _ => throw (.unsupported .decode "type nesting too deep")
  | fuel + 1, a, ti, transfer => do
    let r := (← get).repo
    let tag := Info.tag r ti
    let ptr := Info.isPointer r ti
    let c ← converter conv
    let h := c.handle
    if (tag.isNumeric && ptr) || tag == .void then
      return if ptr then .int .uint64 a else .null
    let ty ← repoM (Info.typeText ti)
    match tag.code with
    | 1 => return .bool (a % 2 ^ 32 != 0)
    | 2 => return signedOf .int8 a
    | 3 => return .int .uint8 (a % 2 ^ 8)
    | 4 => return signedOf .int16 a
    | 5 => return .int .uint16 (a % 2 ^ 16)
    | 6 => return signedOf .int32 a
    | 7 => return .int .uint32 (a % 2 ^ 32)
    | 8 => return signedOf .int64 a
    | 9 => return .int .uint64 (a % 2 ^ 64)
    | 10 => return .float32 (Float32.ofBits (a % 2 ^ 32).toUInt32)
    | 11 => return .float64 (Float.ofBits a.toUInt64)
    | 12 => return .gtype (if (← ptrSize h) == 4 then a % 2 ^ 32 else a % 2 ^ 64)
    | 21 => return signedOf .int32 (a % 2 ^ 32)
    | 13 | 14 =>
      if a == 0 then return .null
      let s ← orDecode ty s!"read string at 0x{Text.Hex.ofNat a}" (readCString h a)
      if transfer == .everything then free h a
      return .str s
    | 15 => decodeArray conv (fromNativeUpTo hooks conv fuel) a ti ty transfer none
    | 17 | 18 => decodeList conv (fromNativeUpTo hooks conv fuel) a ti ty transfer
    | 20 =>
      if a == 0 then return .null
      let e ← orDecode ty "read GError" (readError hooks conv a)
      if transfer == .everything then freeError hooks.call c.invoker a
      return .nativeError e
    | 19 =>
      if a == 0 then return .null
      throw (decodeError ty (some (.unsupported .decode "GHashTable to Go values")) "unsupported")
    | 16 =>
      match ← repoM (Info.typeInterface ti) with
      | none => return .int .uint64 a
      | some iface =>
        match c.codec with
        | some m => if iface.kind != .unresolved then return ← hooks.decodeObject m a iface ti transfer
        | none => pure ()
        if iface.kind == .enum || iface.kind == .flags then
          return .int .int64 (enumStorage a (Info.storageType (← get).repo iface))
        return if a == 0 then .null else .int .uint64 a
    | _ =>
      throw (decodeError ty (some (.unsupported .decode ("type tag " ++ tag.name))) "unsupported")
def fromNative (hooks : Hooks) (conv : Nat) (a : Nat) (ti : Info) (transfer : Transfer) :
    SessionM Value :=
  fromNativeUpTo hooks conv Info.typeDepth a ti transfer

/-- Converts an array payload whose length comes from another argument. -/
def fromNativeArray (hooks : Hooks) (conv : Nat) (a : Nat) (ti : Info) (transfer : Transfer)
    (length : Option Nat) : SessionM Value := do
  let ty ← repoM (Info.typeText ti)
  decodeArray conv (fromNativeUpTo hooks conv Info.typeDepth) a ti ty transfer length

/-! ## Callbacks called from native code -/

/-- Runs a callback frame for native code: decodes the arguments, runs the target and encodes
its result. A failed conversion gives zero; any other failure escapes. -/
def trampolineRun (hooks : Hooks) (fid : Nat) (raw : List Nat) : SessionM Nat := do
  let f ← frame fid
  let r := (← get).repo
  let name := Info.qualifiedName r f.callable
  let mut vals : Array Value := Array.replicate (f.off + f.args.length) .null
  if f.off > 0 then
    match raw with
    | p :: _ =>
      match ← attempt (hooks.decodeSelf fid p) with
      | .ok v => vals := vals.set! 0 v
      | .error _ => return 0
    | [] => pure ()
  for (arg, i) in f.args.zipIdx do
    let j := f.off + i
    if j ≥ raw.length then break
    let x := raw.getD j 0
    if Info.direction (← get).repo arg != .input then
      vals := vals.set! j (.int .uint64 x)
    else
      let k := f.sig.params.getD j .void
      match ← attempt (fromNative hooks f.conv (k.normalize x) (Info.argType arg) .nothing) with
      | .ok v => vals := vals.set! j v
      | .error _ => return 0
  match ← hooks.runTarget fid vals.toList with
  | none => return 0
  | some out =>
    if f.sig.result == .void then return 0
    let h := (← converter f.conv).handle
    let sid ← if f.rtrans == .nothing then some <$> newScope h else pure none
    let res ← attempt (toNative hooks f.conv out f.ret
      { path := [name, "return"], scope := sid, nullable := true, transfer := f.rtrans })
    let prev := (← frame fid).last
    modifyFrame fid fun f => { f with last := sid }
    match prev with
    | some p => releaseScope p
    | none => pure ()
    match res with
    | .ok a => return a
    | .error _ => return 0

/-- Runs a callback frame for native code. Failures cannot reach a caller here: one that escapes
the frame's run gives zero too, the session keeping what the run did before it. -/
def trampolineBody (hooks : Hooks) (fid : Nat) (raw : List Nat) : SessionM Nat := do
  match ← attempt (trampolineRun hooks fid raw) with
  | .ok out => return out
  | .error _ => return 0

/-- The end of a callback's call: an async callback is released. -/
def endCall (fid : Nat) : SessionM Unit := do
  if (← frame fid).async then releaseFrame fid

/-- Runs a callback frame for native code; an async callback is released after its call,
whatever the call gave. -/
def trampoline (hooks : Hooks) (fid : Nat) (raw : List Nat) : SessionM Nat := do
  let out ← trampolineBody hooks fid raw
  endCall fid
  return out

theorem enumStorage_uint8 (a : Nat) : enumStorage a ⟨3⟩ = (a % 2 ^ 8 : Nat) := rfl

end Introspection.Marshal
