import Introspection.Binding.Class

/-!
# Wrappers

A wrapper stands for a native instance or struct value of a class. An instance wrapper holds
a reference: given a borrowed instance it takes one first, and when taking it fails, or the
library has no function to drop it, the wrapper borrows the instance untracked. A struct
wrapper given a borrowed value of a boxed type owns a copy instead; other borrowed values
stay borrowed. What a wrapper owns is tracked by the finalization registry, and releasing
the wrapper gives it back exactly once.

Every wrapper a class makes goes through the constructor replacement of the class or of its
nearest ancestor that has one; a failing constructor releases the wrapper.

Values cross into native code through the module's object codec: a wrapper must be alive and
an instance of the wanted class; handing over ownership takes a new reference for an
instance and a copy for a struct value. Coming back, an instance is wrapped with its most
derived class when the runtime type names one that derives from the static class.
-/

namespace Introspection.Binding

open Introspection.Typelib Introspection.Repository Introspection.Info Introspection.Native
  Introspection.Loaded Introspection.Loaded.Session Introspection.Marshal

/-! ## The wrapper table -/

def wrapper (id : Nat) : SessionM Wrapper := do return (← get).wrappers.getD id default

def modifyWrapper (id : Nat) (f : Wrapper → Wrapper) : SessionM Unit :=
  modify fun s => { s with wrappers := s.wrappers.modify id f }

def addWrapper (h : Held) : SessionM Nat :=
  modifyGet fun s => (s.wrappers.size, { s with wrappers := s.wrappers.push { held := h } })

def generatedOf (v : Value) : SessionM (Option Nat) := do
  match v with
  | .wrapper id _ =>
    match (← wrapper id).held with
    | .native .. => return some id
    | .constructed _ inner => return some inner
  | _ => return none

def nativeOf (w : Nat) : SessionM (Nat × Nat × Bool) := do
  match (← wrapper w).held with
  | .native c p b => return (c, p, b)
  | .constructed .. => return (0, 0, false)

def wrapperValue (w : Nat) : SessionM Value := do
  return .wrapper w (if (← nativeOf w).2.2 then .boxed else .object)

/-- Whether a wrapper owns what it stands for: it is tracked and not yet given back. -/
def owned (w : Nat) : SessionM Bool := do
  match (← wrapper w).registration with
  | some id => return !(← get).finalizer.isDone id
  | none => return false

def live (w : Nat) (op : String) : SessionM Unit := do
  if (← wrapper w).released then
    throw (.closed .runtime ((← qualifiedName (← nativeOf w).1) ++ " " ++ op))

def wrapperText (w : Nat) : SessionM String := do
  let (c, p, boxed) ← nativeOf w
  let q ← qualifiedName c
  return if boxed then s!"<{q} at 0x{Text.Hex.ofNat p}>"
    else s!"<{q} object at 0x{Text.Hex.ofNat p}>"

/-! ## Tracking -/

/-- Records a change of a registration for the registry's observers. -/
def noteFinalize (kind : String) (id ptr : Nat) (err : Option Failure) : SessionM Unit := do
  if (← get).finalizer.observers == 0 then return
  let tail := match err with
    | some e => [("error", Script.encodeFailure e)]
    | none => []
  record (.obj ([("finalize", .str kind), ("id", .nat id), ("ptr", .nat ptr)] ++ tail))

def runDestroy (hooks : Hooks) (d : Destroy) (p : Nat) : SessionM Unit := do
  match d with
  | .call m fn sig lead => discard (callVia hooks.call (← module m).handle fn sig (lead ++ [p]))
  | .free h => free h p

/-- Tracks what a wrapper owns at an address with the destructor that gives it back. -/
def track (w : Nat) (ptr : Nat) (d : Destroy) : SessionM Unit := do
  let (fin, reg) ← lift ((← get).finalizer.track (some w) ptr (some d))
  modify fun s => { s with finalizer := fin }
  modifyWrapper w fun x => { x with registration := some reg.id }
  noteFinalize "tracked" reg.id ptr none

/-- Ends a live registration by running its destructor; the destructor's failure is reported
to observers and returned. An ended registration does nothing. -/
def releaseRegistration (hooks : Hooks) (id : Nat) : SessionM (Option Failure) := do
  let (reg?, fin) := (← get).finalizer.take id
  match reg? with
  | none => return none
  | some reg =>
    modify fun s => { s with finalizer := fin }
    match ← attempt (runDestroy hooks reg.destroy reg.ptr) with
    | .ok () =>
      noteFinalize "released" reg.id reg.ptr none
      return none
    | .error e =>
      let ferr := Failure.finalization reg.ptr (some e)
      noteFinalize "failed" reg.id reg.ptr (some ferr)
      return some ferr

/-- Releases a wrapper: gives back what it owns now. Releasing again does nothing. -/
def release (hooks : Hooks) (w : Nat) : SessionM (Option Failure) := do
  let x ← wrapper w
  if x.released then return none
  modifyWrapper w fun x => { x with released := true }
  match x.registration with
  | some id => releaseRegistration hooks id
  | none => return none

/-! ## Destructors and copies -/

def refSig : Signature := ⟨[.ptr], .ptr⟩

def unrefSig : Signature := ⟨[.ptr], .void⟩

/-- The destructor of an owned struct value: the type's free function, else the boxed free
function of a registered boxed type, else the library allocator. -/
def destructor (hooks : Hooks) (c : Nat) : SessionM Destroy := do
  let k ← klass c
  match ← symbol? k.module (← freeFunction c) with
  | some fn => return .call k.module fn unrefSig []
  | none =>
    if k.kind == .boxed then
      match ← symbol? k.module "g_boxed_free" with
      | some fn =>
        match ← attempt (gtypeOf hooks c) with
        | .ok gt => return .call k.module fn ⟨[← gtypeKind k.module, .ptr], .void⟩ [gt]
        | .error _ => pure ()
      | none => pure ()
    return .free (← module k.module).handle

/-- Copies the struct value at an address, giving the copy and its matching destructor. -/
def duplicate (hooks : Hooks) (c : Nat) (ptr : Nat) : SessionM (Nat × Destroy) := do
  let k ← klass c
  let m := k.module
  match ← symbol? m (← copyFunction c) with
  | some fn =>
    let cp ← callVia hooks.call (← module m).handle fn refSig [ptr]
    return (cp, ← destructor hooks c)
  | none =>
    if k.kind == .boxed then
      match ← symbol? m "g_boxed_copy" with
      | some fn =>
        match ← attempt (gtypeOf hooks c) with
        | .ok gt =>
          let cp ← callVia hooks.call (← module m).handle fn ⟨[← gtypeKind m, .ptr], .ptr⟩ [gt, ptr]
          return (cp, ← destructor hooks c)
        | .error _ => pure ()
      | none => pure ()
    let size ← sizeOf c
    let q ← qualifiedName c
    if size == 0 then throw (.unsupported .runtime ("copy of opaque " ++ q))
    let h := (← module m).handle
    let data ← match ← attempt (read h ptr size) with
      | .ok d => pure d
      | .error e => throw (.wrap .runtime .outOfBounds e ("read " ++ q))
    let align ← alignmentOf c
    let cp ← match ← attempt (alloc h size align) with
      | .ok a => pure a
      | .error e => throw (.allocationFailed .runtime size align (some e))
    match ← attempt (write h cp data) with
    | .ok () => return (cp, .free h)
    | .error e =>
      free h cp
      throw (.wrap .runtime .outOfBounds e ("write " ++ q))

/-! ## Wrapping -/

/-- Hands a generated wrapper to the constructor replacement of its class or of the nearest
ancestor with one. A failing constructor releases the wrapper. -/
def construct (hooks : Hooks) (c : Nat) (v : Value) (w : Nat) : SessionM Value := do
  let rec walk : Nat → Option Nat → SessionM Value
    | _, none => pure v
    | 0, some _ => throw hierarchyEndless
    | fuel + 1, some k => do
      let kc ← klass k
      match ← replacement? kc.module kc.name with
      | some r =>
        if r.role == .constructor then
          match ← attempt (hooks.construct r v) with
          | .ok out => return out
          | .error e =>
            discard (release hooks w)
            throw (.wrap .override .invalidInput e ("construct " ++ (← qualifiedName c)))
      | none => pure ()
      walk fuel (← parentOf hooks k)
  walk hierarchyDepth (some c)

/-- Wraps an instance. A borrowed instance gets a reference of its own first. -/
def wrapObject (hooks : Hooks) (c : Nat) (ptr : Nat) (isOwned : Bool) : SessionM Nat := do
  let w ← addWrapper (.native c ptr false)
  let m := (← klass c).module
  let (ref, unref) ← refFunctions hooks c
  if !isOwned then
    match ← attempt (callSymbol hooks m ref refSig [ptr]) with
    | .error _ => return w
    | .ok _ => pure ()
  match ← symbol? m unref with
  | none => return w
  | some fn =>
    let d := Destroy.call m fn unrefSig []
    match ← attempt (track w ptr d) with
    | .ok () => return w
    | .error e =>
      discard (attempt (runDestroy hooks d ptr))
      throw e

/-- Wraps a struct value. A borrowed value of a boxed type is copied. -/
def wrapBoxed (hooks : Hooks) (c : Nat) (ptr : Nat) (transfer : Transfer) : SessionM Nat := do
  let w ← addWrapper (.native c ptr true)
  let mut d ← destructor hooks c
  let mut p := ptr
  if transfer == .nothing then
    if !(← isBoxed c) then return w
    match ← attempt (duplicate hooks c ptr) with
    | .error _ => return w
    | .ok (cp, free) =>
      p := cp
      d := free
      modifyWrapper w fun x => { x with held := .native c cp true }
  match ← attempt (track w p d) with
  | .ok () => return w
  | .error e =>
    discard (attempt (runDestroy hooks d p))
    throw e

def wrapInstance (hooks : Hooks) (c : Nat) (ptr : Nat) (isOwned : Bool) : SessionM Value := do
  let w ← wrapObject hooks c ptr isOwned
  construct hooks c (.wrapper w .object) w

def wrapValue (hooks : Hooks) (c : Nat) (ptr : Nat) (transfer : Transfer) : SessionM Value := do
  let w ← wrapBoxed hooks c ptr transfer
  construct hooks c (.wrapper w .boxed) w

/-- Wraps a pointer of a class: null gives nothing; `owned` says whether the caller hands
over its reference or allocation. -/
def wrap (hooks : Hooks) (c : Nat) (ptr : Nat) (isOwned : Bool) : SessionM Value := do
  if ptr == 0 then return .null
  let k ← klass c
  if k.isInstanceType then return ← wrapInstance hooks c ptr isOwned
  if k.isValueType then
    return ← wrapValue hooks c ptr (if isOwned then .everything else .nothing)
  throw (.unsupported .decode ("wrap " ++ (← classText c)))

def new (hooks : Hooks) (c : Nat) : SessionM Value := do
  let k ← klass c
  if !k.isValueType then throw (.unsupported .runtime ("New on " ++ (← classText c)))
  let size ← sizeOf c
  if size == 0 then throw (.unsupported .runtime ("allocation of opaque " ++ (← qualifiedName c)))
  let h := (← module k.module).handle
  let align ← alignmentOf c
  let ptr ← match ← attempt (alloc h size align) with
    | .ok p => pure p
    | .error e => throw (.allocationFailed .runtime size align (some e))
  let w ← addWrapper (.native c ptr true)
  match ← attempt (track w ptr (.free h)) with
  | .ok () => pure ()
  | .error e => free h ptr; throw e
  construct hooks c (.wrapper w .boxed) w

def copy (hooks : Hooks) (w : Nat) : SessionM Value := do
  live w "copy"
  let (c, ptr, _) ← nativeOf w
  let (cp, d) ← duplicate hooks c ptr
  let out ← addWrapper (.native c cp true)
  match ← attempt (track out cp d) with
  | .ok () => return .wrapper out .boxed
  | .error e =>
    discard (attempt (runDestroy hooks d cp))
    throw e

/-- The class of the instance at an address from its runtime type, when it names a class
deriving from the static one. Runtime type ids are remembered per module. -/
def dynamicClass (hooks : Hooks) (m : Nat) (static : Nat) (ptr : Nat) : SessionM (Option Nat) := do
  let some fn ← symbol? m "g_type_name" | return none
  let h := (← module m).handle
  let some klassPtr := (← attempt (readPointer h ptr)).toOption | return none
  if klassPtr == 0 then return none
  let some gt := (← attempt (readPointer h klassPtr)).toOption | return none
  if gt == 0 then return none
  let derived (cls : Option Nat) : SessionM (Option Nat) := do
    match cls with
    | some c => return if ← isA hooks c static then some c else none
    | none => return none
  match (← module m).dynamic.lookup gt with
  | some cls => derived cls
  | none =>
    let some addr := (← attempt (callVia hooks.call h fn ⟨[← gtypeKind m], .ptr⟩ [gt])).toOption
      | return none
    if addr == 0 then return none
    let some name := (← attempt (readCString h addr)).toOption | return none
    let name := Text.Utf8.lossy name
    let cls ← if name == (← gtypeName static) then pure (some static)
      else pure (← attempt (classByGTypeName hooks name)).toOption
    modifyModule m fun md => { md with dynamic := (gt, cls) :: md.dynamic }
    derived cls

/-! ## Members of wrapped values -/

def memberError (c : Nat) (member : String) (kind : Kind) (detail : String) : SessionM Failure := do
  return .fault .runtime kind [← qualifiedName c, member] "" "" detail .null none

def converterOf (m : Nat) : SessionM Nat := do return (← invoker (← module m).invoker).conv

/-- Reads the value of a field of class `c` of type `ti` from its slot at `addr`. -/
def loadField (hooks : Hooks) (c : Nat) (name : String) (ti : Info) (addr : Nat) :
    SessionM Value := do
  let m := (← klass c).module
  let k ← match ← repoM (slotKind ti) with
    | .ok k => pure k
    | .error e => throw (← memberError c name .unsupported e.text)
  let a ← match ← attempt (load (← module m).handle addr k) with
    | .ok a => pure a
    | .error e => throw (.wrap .decode .outOfBounds e ("load field " ++ name))
  fromNative hooks (← converterOf m) a ti .nothing

/-- Reads a readable field. An inline struct field gives a wrapper borrowing the enclosing
value. The field, its type and the type's interface are infos held until the read ends. -/
def getField (hooks : Hooks) (w : Nat) (name : String) : SessionM Value := do
  live w ("field " ++ name)
  let (c, ptr, _) ← nativeOf w
  withField c name (do throw (.notFound .lookup "field" ((← qualifiedName c) ++ "." ++ name)))
    fun fi => do
      let r := (← get).repo
      if !Info.isReadable r fi then
        throw (← memberError c name .unsupported "field is not readable")
      let ti := Info.fieldType r fi
      repoM (Repository.takeInfo ti.space)
      withInfo ti do
        let addr := ptr + Info.fieldOffset r fi
        if Info.tag r ti == .interface && !Info.isPointer r ti then
          if let some iface ← repoM (Info.typeInterface ti) then
            repoM (Repository.takeInfo iface.space)
            return ← withInfo iface do
              if iface.kind == .struct || iface.kind == .boxed || iface.kind == .union then
                let cc ← classOf hooks iface
                let b ← addWrapper (.native cc addr true)
                construct hooks cc (.wrapper b .boxed) b
              else loadField hooks c name ti addr
        loadField hooks c name ti addr

/-- Writes a writable field; what is stored belongs to the value afterwards. The field and its
type are infos held until the write ends. -/
def setField (hooks : Hooks) (w : Nat) (name : String) (v : Value) : SessionM Unit := do
  live w ("field " ++ name)
  let (c, ptr, _) ← nativeOf w
  withField c name (do throw (.notFound .lookup "field" ((← qualifiedName c) ++ "." ++ name)))
    fun fi => do
      let r := (← get).repo
      if !Info.isWritable r fi then
        throw (← memberError c name .readOnly "field is not writable")
      let ti := Info.fieldType r fi
      repoM (Repository.takeInfo ti.space)
      withInfo ti do
        let k ← match ← repoM (slotKind ti) with
          | .ok k => pure k
          | .error e => throw (← memberError c name .unsupported e.text)
        let m := (← klass c).module
        let a ← toNative hooks (← converterOf m) v ti
          { path := [← qualifiedName c, name], nullable := true, transfer := .everything }
        store (← module m).handle (ptr + Info.fieldOffset r fi) k a

/-- Calls a method on a wrapped value, which is passed as the receiver of instance
methods. -/
def callMethod (hooks : Hooks) (w : Nat) (name : String) (args : List Value) :
    SessionM (List Value) := do
  live w ("call " ++ name)
  let (c, _, _) ← nativeOf w
  let self ← wrapperValue w
  match ← resolveMethod hooks c name with
  | none => throw (.notFound .lookup "method" ((← qualifiedName c) ++ "." ++ name))
  | some (.replaced r) => hooks.runMethod r name (some self) args
  | some (.generated fi owner) =>
    let inv := (← module (← klass owner).module).invoker
    if Info.isMethod (← get).repo fi then Invoke.call hooks inv fi (self :: args)
    else Invoke.call hooks inv fi args

/-! ## The object codec -/

/-- Checks that a wrapper is alive and an instance of the class of a type entry; a type
without a class accepts any wrapper. -/
def accept (hooks : Hooks) (w : Nat) (iface : Info) : SessionM Unit := do
  live w "pass"
  match ← attempt (classOf hooks iface) with
  | .error _ => pure ()
  | .ok want =>
    let (c, _, _) ← nativeOf w
    if !(← isA hooks c want) then
      throw (.typeMismatch .encode [] (← qualifiedName c) (← qualifiedName want))

/-- Converts a wrapper or a raw pointer into the native pointer of an object, interface,
struct or union type. -/
def encodeInterface (hooks : Hooks) (v : Value) (iface ti : Info) (o : Options) :
    SessionM Nat := do
  let ty ← repoM (Info.typeText ti)
  let null : SessionM Nat := do
    if o.nullable then return 0
    throw (conversionError o v ty (some (.nilPointer .encode o.path ty)) "null not allowed")
  match v with
  | .nilWrapper _ => return ← null
  | _ => pure ()
  match ← generatedOf v with
  | some w =>
    let (c, ptr, boxed) ← nativeOf w
    match ← attempt (accept hooks w iface) with
    | .error e =>
      throw (conversionError o v ty (some e)
        (if boxed then "incompatible value" else "incompatible instance"))
    | .ok () => pure ()
    if o.transfer != .nothing then
      if boxed then
        match ← attempt (duplicate hooks c ptr) with
        | .ok (cp, _) => return cp
        | .error e => throw (conversionError o v ty (some e) "copy for callee")
      else
        let (ref, _) ← refFunctions hooks c
        match ← attempt (callSymbol hooks (← klass c).module ref refSig [ptr]) with
        | .ok _ => pure ()
        | .error e => throw (conversionError o v ty (some e) "take reference for callee")
    return ptr
  | none =>
    let p? := match v with
      | .int .uint64 p | .int .uintptr p => some p.toNat
      | .handle p => some p
      | _ => none
    match p? with
    | some p => if p == 0 then null else return p
    | none =>
      let q := Info.qualifiedName (← get).repo iface
      throw (conversionError o v ty (some (.typeMismatch .encode o.path v.typeName q)) ("want " ++ q))

/-- Converts a native object, interface, struct or union pointer, or an enum value, back
into a host value of the module's runtime. -/
def decodeInterface (hooks : Hooks) (m : Nat) (a : Nat) (iface : Info) (transfer : Transfer) :
    SessionM Value := do
  let r := (← get).repo
  let k := iface.kind
  if k == .enum || k == .flags then
    let raw := enumStorage a (Info.storageType r iface)
    match ← attempt (moduleFor hooks (Info.namespace_ r iface)) with
    | .error _ => return .int .int64 raw
    | .ok mm =>
      match ← attempt (enumNamed mm (Info.name r iface)) with
      | .error _ => return .int .int64 raw
      | .ok shape =>
        if shape.isFlags then return .flags shape raw
        if (shape.nameOf? raw).isSome then return .enumMember shape raw
        throw (.fault .decode .conversion [shape.qualifiedName] "" "" "unknown enum value"
          (.int .int64 raw) (some (.invalidEnum .decode [] (.int .int64 raw) shape.qualifiedName)))
  if k == .object || k == .interface then
    if a == 0 then return .null
    match ← attempt (classOf hooks iface) with
    | .error _ => return .int .uint64 a
    | .ok cls =>
      let cls := (← dynamicClass hooks m cls a).getD cls
      return ← wrapInstance hooks cls a (transfer != .nothing)
  if k == .struct || k == .boxed || k == .union then
    if a == 0 then return .null
    match ← attempt (classOf hooks iface) with
    | .error _ => return .int .uint64 a
    | .ok cls => return ← wrapValue hooks cls a transfer
  return if a == 0 then .null else .int .uint64 a

/-- Decodes the instance a signal handler is called with: the wrapper it was connected on
while that is alive and at the same address, else a new wrapper of that wrapper's class. -/
def decodeEmitter (hooks : Hooks) (emitter : Nat) (ptr : Nat) : SessionM Value := do
  let (c, p, _) ← nativeOf emitter
  if p == ptr && !(← wrapper emitter).released then return .wrapper emitter .object
  wrapInstance hooks c ptr false

end Introspection.Binding
