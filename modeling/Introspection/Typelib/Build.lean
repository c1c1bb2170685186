import Introspection.Typelib.Emit

/-!
# Building images

`build` turns a namespace description into image bytes. Entries are sorted by name and written
as blobs, each followed by its members; complex types, signatures and constant values are
written after all entries, in the order they were met; then come the directory (local entries,
then foreign entries added by references to other namespaces), the attribute table sorted by
blob offset, and the string table. The header is written last.

A description is refused when an entry name is empty, holds a dot or repeats. Other faults (an
unresolved reference, a value that does not fit, a type containing itself) are found while
writing; the first one is the result.
-/

namespace Introspection.Typelib

namespace Emit

/-- Member names of a compound type, for resolving accessor, closure and invoker names to
member indices. -/
structure Owner where
  methods : List String := []
  properties : List String := []
  vfuncs : List String := []
  signals : List String := []

def lookupIndex (names : List String) (name : String) : Nat :=
  if name.isEmpty then noIndex
  else (names.zipIdx.foldl (fun acc (n, i) => if n == name then some i else acc) none).getD noIndex

/-- A simple type slot: basic types inline, other types written later and referenced. -/
def simpleType (t : TypeDef) : EmitM Unit := do
  if t.tag.isBasic then
    u32 ((t.tag.code % 256 * 2 ^ 27 + bit t.pointer 24) % 2 ^ 32)
  else
    let pos ← zero 4
    postpone (.complexType pos t)

def u16of (i : Int) : Nat := (i % 2 ^ 16).toNat

def complexType (t : TypeDef) : EmitM Unit := do
  let head := t.tag.code % 256 * 8 % 256 + bit t.pointer 0
  let c := t.tag.code % 256
  if c == TypeTag.interface.code then
    u8 head
    u8 0
    u16 (← ref t.iface)
  else if c == TypeTag.array.code then
    u16 (head + bit t.zeroTerminated 8 + bit t.length.isSome 9 + bit t.fixedSize.isSome 10
      + t.arrayType % 4 * 2 ^ 11)
    match t.length, t.fixedSize with
    | some n, _ => u16 (u16of n)
    | none, some n => u16 (u16of n)
    | none, none => u16 0
    simpleType (t.params.headD {})
  else if c == TypeTag.glist.code || c == TypeTag.gslist.code || c == TypeTag.ghash.code then
    u8 head
    u8 0
    u16 t.params.length
    for p in t.params do simpleType p
  else if c == TypeTag.error.code then
    u8 head
    u8 0
    u16 0
  else fail ("type tag " ++ t.tag.name ++ " cannot be encoded")

def signature (sig : SignatureDef) : EmitM Unit := do
  let pos ← zero 4
  postpone (.signature pos sig)

def arg (a : ArgDef) : EmitM Unit := do
  str a.name
  let isIn := a.direction == .input || a.direction == .inout
  let isOut := a.direction == .output || a.direction == .inout
  u32 (bit isIn 0 + bit isOut 1 + bit a.callerAllocates 2 + bit a.nullable 3 + bit a.optional 4
    + bit (a.transfer == .everything) 5 + bit (a.transfer == .container) 6
    + bit a.returnValue 7 + a.scope % 8 * 2 ^ 8 + bit a.skip 11)
  u8 (a.closure % 256).toNat
  u8 (a.destroy % 256).toNat
  u16 0
  simpleType a.type

def signatureBody (sig : SignatureDef) : EmitM Unit := do
  simpleType sig.ret
  u16 (bit sig.mayReturnNull 0 + bit (sig.returnTransfer == .everything) 1
    + bit (sig.returnTransfer == .container) 2 + bit sig.skipReturn 3
    + bit (sig.instanceTransfer == .everything) 4 + bit sig.throws 5)
  u16 sig.args.length
  for a in sig.args do arg a

/-- A function blob; accessor and wrapper indices resolve against the owner's members. -/
def function (d : FunctionDef) (o : Option Owner) : EmitM Unit := do
  let off ← len
  let idx := match o with
    | some o =>
      if d.getter || d.setter then lookupIndex o.properties d.property
      else if !d.vfunc.isEmpty then lookupIndex o.vfuncs d.vfunc
      else noIndex
    | none => noIndex
  u16 BlobType.function.code
  u16 (bit d.deprecated 0 + bit d.setter 1 + bit d.getter 2 + bit d.constructor 3
    + bit (!d.vfunc.isEmpty) 4 + bit d.sig.throws 5 + idx % 1024 * 2 ^ 6)
  str d.name
  str d.symbol
  signature d.sig
  u16 (bit (!d.method && !d.constructor) 0)
  u16 0
  attributes off d.attributes

def functions (fns : List FunctionDef) (o : Owner) : EmitM Unit := do
  for f in fns do function f (some o)

def methodOwner (fns : List FunctionDef) : Owner := { methods := fns.map (·.name) }

def callback (d : CallbackDef) : EmitM Unit := do
  let off ← len
  u16 BlobType.callback.code
  u16 (bit d.deprecated 0)
  str d.name
  signature d.sig
  attributes off d.attributes

def enum (d : EnumDef) (typ : BlobType) : EmitM Unit := do
  let off ← len
  u16 typ.code
  u16 (bit d.deprecated 0 + bit d.gtypeName.isEmpty 1 + d.storage.code % 32 * 4)
  str d.name
  str d.gtypeName
  str d.gtypeInit
  u16 d.values.length
  u16 d.methods.length
  str d.errorDomain
  attributes off d.attributes
  for v in d.values do
    if v.value < -2147483648 || v.value > 4294967295 then
      fail ("value " ++ d.name ++ "." ++ v.name ++ " = " ++ toString v.value
        ++ " does not fit 32 bits")
    u32 (bit v.deprecated 0 + bit (v.value > 2147483647) 1)
    str v.name
    u32 (Emit.u32of v.value)
  functions d.methods (methodOwner d.methods)

/-- A field blob, followed by its callback blob when it declares one. -/
def field (f : FieldDef) (offset : Nat) : EmitM Unit := do
  str f.name
  u8 (bit f.readable 0 + bit f.writable 1 + bit f.callback.isSome 2)
  u8 (f.bits % 256)
  if offset > 65535 then
    fail ("field " ++ f.name ++ " offset " ++ toString offset ++ " does not fit 16 bits")
  u16 offset
  u32 0
  simpleType f.type
  match f.callback with
  | some cb => callback cb
  | none => pure ()

def fields (fs : List FieldDef) (l : Layout) : EmitM Unit := do
  for (f, i) in fs.zipIdx do field f (l.offsets.getD i 0)

def constant (d : ConstantDef) : EmitM Unit := do
  let off ← len
  u16 BlobType.constant.code
  u16 (bit d.deprecated 0)
  str d.name
  simpleType d.type
  let sizePos ← zero 4
  let valPos ← zero 4
  u32 0
  attributes off d.attributes
  postpone (.constantValue sizePos valPos d)

def structBlob (fuel : Nat) (d : StructDef) (typ : BlobType) : EmitM Unit := do
  let l ← layoutOf fuel d.name d.fields d.explicitLayout d.size d.alignment false
  let off ← len
  u16 typ.code
  u16 (bit d.deprecated 0 + bit d.gtypeName.isEmpty 1 + bit d.gtypeStruct 2
    + l.align % 64 * 8 + bit d.foreign 9)
  str d.name
  str d.gtypeName
  str d.gtypeInit
  u32 l.size
  u16 d.fields.length
  u16 d.methods.length
  str d.copyFunc
  str d.freeFunc
  attributes off d.attributes
  fields d.fields l
  functions d.methods (methodOwner d.methods)

/-- A union blob with its fields, methods and discriminator values. -/
def union (fuel : Nat) (d : UnionDef) : EmitM Unit := do
  let l ← layoutOf fuel d.name d.fields d.explicitLayout d.size d.alignment true
  let off ← len
  u16 BlobType.union.code
  u16 (bit d.deprecated 0 + bit d.gtypeName.isEmpty 1 + bit d.discriminator.isSome 2
    + l.align % 64 * 8)
  str d.name
  str d.gtypeName
  str d.gtypeInit
  u32 l.size
  u16 d.fields.length
  u16 d.methods.length
  str d.copyFunc
  str d.freeFunc
  match d.discriminator with
  | some disc =>
    u32 (u32of disc.offset)
    simpleType disc.type
  | none =>
    u32 0
    u32 0
  attributes off d.attributes
  fields d.fields l
  functions d.methods (methodOwner d.methods)
  match d.discriminator with
  | some disc =>
    if disc.values.length != d.fields.length then
      fail ("union " ++ d.name ++ ": " ++ toString disc.values.length
        ++ " discriminator values for " ++ toString d.fields.length ++ " fields")
    for c in disc.values do constant c
  | none => pure ()

def property (p : PropertyDef) (o : Owner) : EmitM Unit := do
  str p.name
  u32 (bit p.deprecated 0 + bit p.readable 1 + bit p.writable 2 + bit p.construct 3
    + bit p.constructOnly 4 + bit (p.transfer == .everything) 5
    + bit (p.transfer == .container) 6)
  u32 (lookupIndex o.methods p.setter + lookupIndex o.methods p.getter * 2 ^ 10)
  simpleType p.type

def signal (s : SignalDef) (o : Owner) : EmitM Unit := do
  let closure := lookupIndex o.vfuncs s.classClosure
  u16 (bit s.deprecated 0 + bit s.runFirst 1 + bit s.runLast 2 + bit s.runCleanup 3
    + bit s.noRecurse 4 + bit s.detailed 5 + bit s.action 6 + bit s.noHooks 7
    + bit (closure != noIndex) 8 + bit s.trueStopsEmit 9)
  u16 (if closure == noIndex then 0 else closure)
  str s.name
  u32 0
  signature s.sig

def vfunc (v : VFuncDef) (o : Owner) : EmitM Unit := do
  let sig := lookupIndex o.signals v.signal
  str v.name
  u16 (bit v.mustChainUp 0 + bit v.mustBeImplemented 1 + bit v.mustNotBeImplemented 2
    + bit (sig != noIndex) 3 + bit v.sig.throws 4)
  u16 (if sig == noIndex then 0 else sig)
  u16 v.structOffset
  u16 (lookupIndex o.methods v.invoker)
  u32 0
  signature v.sig

def refList (names : List String) : EmitM Unit := do
  for n in names do u16 (← ref n)
  if names.length % 2 != 0 then u16 0

def members (props : List PropertyDef) (methods : List FunctionDef) (signals : List SignalDef)
    (vfuncs : List VFuncDef) (consts : List ConstantDef) (o : Owner) : EmitM Unit := do
  for p in props do property p o
  functions methods o
  for s in signals do signal s o
  for v in vfuncs do vfunc v o
  for c in consts do constant c

def memberOwner (methods : List FunctionDef) (props : List PropertyDef) (vfuncs : List VFuncDef)
    (signals : List SignalDef) : Owner :=
  ⟨methods.map (·.name), props.map (·.name), vfuncs.map (·.name), signals.map (·.name)⟩

def object (fuel : Nat) (d : ObjectDef) : EmitM Unit := do
  let off ← len
  let o := memberOwner d.methods d.properties d.vfuncs d.signals
  let l ← layoutOf fuel d.name d.fields false 0 0 false
  let callbacks := (d.fields.filter (·.callback.isSome)).length
  u16 BlobType.object.code
  u16 (bit d.deprecated 0 + bit d.isAbstract 1 + bit d.fundamental 2 + bit d.final 3)
  str d.name
  str d.gtypeName
  str d.gtypeInit
  u16 (← ref d.parent)
  u16 (← ref d.classStruct)
  u16 d.interfaces.length
  u16 d.fields.length
  u16 d.properties.length
  u16 d.methods.length
  u16 d.signals.length
  u16 d.vfuncs.length
  u16 d.constants.length
  u16 callbacks
  str d.refFunc
  str d.unrefFunc
  str d.setValueFunc
  str d.getValueFunc
  u32 0
  u32 0
  attributes off d.attributes
  refList d.interfaces
  fields d.fields l
  members d.properties d.methods d.signals d.vfuncs d.constants o

def iface (d : InterfaceDef) : EmitM Unit := do
  let off ← len
  let o := memberOwner d.methods d.properties d.vfuncs d.signals
  u16 BlobType.interface.code
  u16 (bit d.deprecated 0)
  str d.name
  str d.gtypeName
  str d.gtypeInit
  u16 (← ref d.ifaceStruct)
  u16 d.prerequisites.length
  u16 d.properties.length
  u16 d.methods.length
  u16 d.signals.length
  u16 d.vfuncs.length
  u16 d.constants.length
  u16 0
  u32 0
  u32 0
  attributes off d.attributes
  refList d.prerequisites
  members d.properties d.methods d.signals d.vfuncs d.constants o

def entry (fuel : Nat) : EntryDef → EmitM Unit
  | .function d => function d none
  | .callback d => callback d
  | .enum d => enum d (if d.isFlags then .flags else .enum)
  | .struct d => structBlob fuel d (if d.boxed then .boxed else .struct)
  | .union d => union fuel d
  | .object d => object fuel d
  | .interface d => iface d
  | .constant d => constant d

def runPending : Pending → EmitM Unit
  | .complexType pos t => do
    align 4
    write fun w => w.patch32 pos w.len
    complexType t
  | .signature pos sig => do
    align 4
    write fun w => w.patch32 pos w.len
    signatureBody sig
  | .constantValue sizePos valPos d =>
    match encodeConstant d.type d.value with
    | .error msg => fail ("constant " ++ d.name ++ ": " ++ msg)
    | .ok data => do
      align 8
      write fun w => w.patch32 valPos w.len
      write fun w => w.patch32 sizePos data.size
      write fun w => w.append data

/-- Runs postponed work until none is left; `fuel` bounds the number of pieces. -/
def drain : Nat → EmitM Unit
  | 0 => pure ()
  | fuel + 1 => do
    match (← get).later with
    | [] => pure ()
    | p :: rest =>
      modify fun e => { e with later := rest }
      runPending p
      drain fuel

def newString (s : String) : EmitM Nat := do
  let o ← len
  write (·.cstring s)
  pure o

/-- The offset of `s` in the string table: that of the string written last when it is the same
string, else that of a new copy. -/
def stringOffset (s : String) : Option (String × Nat) → EmitM Nat
  | some (t, o) => if t == s then pure o else newString s
  | none => newString s

/-- Writes the string table and patches every slot naming a string. -/
def flushStrings : EmitM Unit := do
  let refs := (← get).strs.toList.mergeSort fun a b => decide (a.1 ≤ b.1)
  let rec go : List (String × Nat) → Option (String × Nat) → EmitM Unit
    | [], _ => pure ()
    | (s, pos) :: rest, cur => do
      let off ← stringOffset s cur
      write fun w => w.patch32 pos off
      go rest (some (s, off))
  go refs none

end Emit

/-! ## Sizes of descriptions

Every piece of postponed work stands for a non-basic type, a signature or a constant of the
description, so their number bounds the work. -/

mutual

def TypeDef.weight : TypeDef → Nat
  | ⟨_, _, _, params, _, _, _, _⟩ => 1 + TypeDef.weightList params

def TypeDef.weightList : List TypeDef → Nat
  | [] => 0
  | t :: ts => TypeDef.weight t + TypeDef.weightList ts

end

def weightSum (ws : List Nat) : Nat := ws.foldr (· + ·) 0

/-- The weight of a signature: itself, its return type and its argument types. -/
def SignatureDef.weight (s : SignatureDef) : Nat :=
  1 + s.ret.weight + weightSum (s.args.map fun a => a.type.weight)

def ConstantDef.weight (c : ConstantDef) : Nat := 1 + c.type.weight

def FieldDef.weight (f : FieldDef) : Nat :=
  f.type.weight + (f.callback.map fun cb => cb.sig.weight).getD 0

def FunctionDef.weightList (fs : List FunctionDef) : Nat :=
  weightSum (fs.map fun f => f.sig.weight)

def PropertyDef.weightList (ps : List PropertyDef) : Nat :=
  weightSum (ps.map fun p => p.type.weight)

def EntryDef.weight : EntryDef → Nat
  | .function d => d.sig.weight
  | .callback d => d.sig.weight
  | .enum d => FunctionDef.weightList d.methods
  | .struct d => weightSum (d.fields.map FieldDef.weight) + FunctionDef.weightList d.methods
  | .union d =>
    weightSum (d.fields.map FieldDef.weight) + FunctionDef.weightList d.methods
      + (d.discriminator.map fun disc =>
          disc.type.weight + weightSum (disc.values.map ConstantDef.weight)).getD 0
  | .object d =>
    weightSum (d.fields.map FieldDef.weight) + PropertyDef.weightList d.properties
      + FunctionDef.weightList d.methods + weightSum (d.signals.map fun s => s.sig.weight)
      + weightSum (d.vfuncs.map fun v => v.sig.weight)
      + weightSum (d.constants.map ConstantDef.weight)
  | .interface d =>
    PropertyDef.weightList d.properties + FunctionDef.weightList d.methods
      + weightSum (d.signals.map fun s => s.sig.weight)
      + weightSum (d.vfuncs.map fun v => v.sig.weight)
      + weightSum (d.constants.map ConstantDef.weight)
  | .constant d => d.weight

/-- Whether an entry name can be used: not empty and without a dot. -/
def validEntryName (name : String) : Bool := !name.isEmpty && !name.contains '.'

/-- Checks entry names in sorted order: the first empty, dotted or repeated name is refused. -/
def checkEntryNames : List EntryDef → List String → Except Failure Unit
  | [], _ => .ok ()
  | e :: rest, seen =>
    if !validEntryName e.name then
      .error (.invalidInput .load ("typelib builder: invalid entry name " ++ Text.Quote.quote e.name))
    else if seen.contains e.name then
      .error (.invalidInput .load ("typelib builder: duplicate entry " ++ Text.Quote.quote e.name))
    else checkEntryNames rest (e.name :: seen)

/-- The entries of a description in directory order: sorted by name. -/
def sortedEntries (d : NamespaceDef) : List EntryDef :=
  d.entries.mergeSort fun a b => decide (a.name ≤ b.name)

/-- The state an image of a description starts from: the directory indices of its local entries
are known before any blob is written. -/
def startState (d : NamespaceDef) : Emitter :=
  let entries := sortedEntries d
  { space := d.name, pointerSize := d.pointerSize, nLocal := entries.length,
    locals := entries.map fun e => (e.name, e),
    index := entries.zipIdx.map fun (e, i) => (e.name, i + 1) }

namespace Emit

/-- Writes an entry's blob at the next four-byte boundary; its offset. -/
def place (layoutFuel : Nat) (e : EntryDef) : EmitM Nat := do
  align 4
  let off ← len
  entry layoutFuel e
  return off

/-- Room for the header, the entry blobs in order and the postponed work; the offsets of the
blobs. -/
def body (entries : List EntryDef) : EmitM (List Nat) := do
  let layoutFuel := entries.length + 1
  let work := 1 + weightSum (entries.map EntryDef.weight)
  discard <| zero headerSize
  let offsets ← entries.mapM (place layoutFuel)
  drain work
  return offsets

/-- Fills in the header: magic, version, counts, the places of the directory and the attribute
table, the image size and the blob size table. The header's string slots are left to the string
table. -/
def header (nEntries nLocal dir nAttrs attrsAt : Nat) (w : Writer) : Writer :=
  let w := magic.zipIdx.foldl (fun w (b, i) => w.patch8 i b.toNat) w
  let w := (w.patch8 hdrMajor majorVersion).patch8 hdrMinor minorVersion
  let w := w.patch16 hdrNEntries nEntries
  let w := w.patch16 hdrNLocalEntries nLocal
  let w := w.patch32 hdrDirectory dir
  let w := w.patch32 hdrNAttributes nAttrs
  let w := w.patch32 hdrAttributes attrsAt
  let w := w.patch32 hdrSize w.len
  blobSizeTable.zipIdx.foldl (fun w (sz, i) => w.patch16 (hdrBlobSizes + i * 2) sz) w

/-- The directory, the attribute table, the header's strings, the string table and the header
itself, once the blobs stand at `offsets`. -/
def tail (d : NamespaceDef) (entries : List EntryDef) (offsets : List Nat) : EmitM Unit := do
  let foreign := (← get).foreign.toList
  align 4
  let dir ← len
  for (ent, off) in entries.zip offsets do
    u16 ent.blobType.code
    u16 1
    str ent.name
    u32 off
  for (ns, name) in foreign do
    u16 BlobType.invalid.code
    u16 0
    str name
    str ns
  let attrs := (← get).attrs.toList.mergeSort fun a b => decide (a.offset ≤ b.offset)
  let attrsAt ← len
  for a in attrs do
    u32 a.offset
    str a.name
    str a.value
  strAt hdrDependencies ("|".intercalate d.dependencies)
  strAt hdrNamespace d.name
  strAt hdrNSVersion d.version
  strAt hdrSharedLibrary (",".intercalate d.libraries)
  strAt hdrCPrefix d.cPrefix
  flushStrings
  write (header (entries.length + foreign.length) entries.length dir attrs.length attrsAt)

end Emit

/-- The offsets of the entry blobs and the state once they and the postponed work are
written. -/
def bodyState (d : NamespaceDef) : List Nat × Emitter :=
  (Emit.body (sortedEntries d)).run (startState d)

/-- The image bytes of a namespace description, or the first fault found building them. -/
def build (d : NamespaceDef) : Except Failure ByteArray := do
  let entries := sortedEntries d
  if entries.length > 65535 then
    throw (.invalidInput .load "typelib builder: too many entries")
  checkEntryNames entries []
  let (offsets, e) := bodyState d
  match e.err with
  | some f => throw f
  | none => pure ()
  let ((), e) := (Emit.tail d entries offsets).run e
  pure e.w.buf

end Introspection.Typelib
