import Introspection.Info.Base
import Introspection.Typelib.Constant

/-!
# Typed views of infos

Each view reads the fields of one kind of blob: callables (signature, arguments, return value,
flags), functions, signals, virtual functions, arguments, types, registered types, structs,
unions, enums and their values, fields, constants, objects, interfaces and properties.

Members are children of their owner. Accessor, closure and invoker indices name members of the
owner, and a 10-bit all-ones index names none. Types read a 32-bit slot that holds a basic type
inline or points at a complex type blob.
-/

namespace Introspection.Info

open Introspection.Typelib Introspection.Repository

namespace Info

/-! ## Members -/

/-- The `i`-th element of a member span, as a child of the given kind. -/
def memberAt (owner : Info) (span : Span) (kind : InfoKind) (i : Nat) : Option Info :=
  if i < span.count then some (owner.child kind (span.at_ i)) else none

def memberMethod (r : Repository) (owner : Info) (i : Nat) : Option Info :=
  memberAt owner (owner.members r).methods .function i
def memberProperty (r : Repository) (owner : Info) (i : Nat) : Option Info :=
  memberAt owner (owner.members r).properties .property i
def memberSignal (r : Repository) (owner : Info) (i : Nat) : Option Info :=
  memberAt owner (owner.members r).signals .signal i
def memberVFunc (r : Repository) (owner : Info) (i : Nat) : Option Info :=
  memberAt owner (owner.members r).vfuncs .vfunc i
def memberConstant (r : Repository) (owner : Info) (i : Nat) : Option Info :=
  memberAt owner (owner.members r).constants .constant i
def memberValue (r : Repository) (owner : Info) (i : Nat) : Option Info :=
  memberAt owner (owner.members r).values .value i
def memberDiscriminator (r : Repository) (owner : Info) (i : Nat) : Option Info :=
  memberAt owner (owner.members r).discriminators .constant i

def memberField (r : Repository) (owner : Info) (i : Nat) : Option Info :=
  ((owner.members r).fields[i]?).map (owner.child .field)

def spanMembers (owner : Info) (span : Span) (kind : InfoKind) : List Info :=
  (List.range span.count).map fun i => owner.child kind (span.at_ i)

def methods (r : Repository) (i : Info) : List Info := spanMembers i (i.members r).methods .function
def properties (r : Repository) (i : Info) : List Info :=
  spanMembers i (i.members r).properties .property
def signals (r : Repository) (i : Info) : List Info := spanMembers i (i.members r).signals .signal
def vfuncs (r : Repository) (i : Info) : List Info := spanMembers i (i.members r).vfuncs .vfunc
def constants (r : Repository) (i : Info) : List Info :=
  spanMembers i (i.members r).constants .constant
def values (r : Repository) (i : Info) : List Info := spanMembers i (i.members r).values .value
def discriminators (r : Repository) (i : Info) : List Info :=
  spanMembers i (i.members r).discriminators .constant
def fields (r : Repository) (i : Info) : List Info := (i.members r).fields.map (i.child .field)

/-- The first member of a span whose name slot (at `nameOff` in the blob) reads `name`. -/
def findNamed (r : Repository) (owner : Info) (span : Span) (nameOff : Nat) (kind : InfoKind)
    (name : String) : Option Info :=
  let t := owner.tl r
  ((List.range span.count).find? fun i => t.cstring (t.u32 (span.at_ i + nameOff)) == name).map
    fun i => owner.child kind (span.at_ i)

def findMethod (r : Repository) (o : Info) (n : String) : Option Info :=
  findNamed r o (o.members r).methods 4 .function n
def findProperty (r : Repository) (o : Info) (n : String) : Option Info :=
  findNamed r o (o.members r).properties 0 .property n
def findSignal (r : Repository) (o : Info) (n : String) : Option Info :=
  findNamed r o (o.members r).signals 4 .signal n
def findVFunc (r : Repository) (o : Info) (n : String) : Option Info :=
  findNamed r o (o.members r).vfuncs 0 .vfunc n
def findConstant (r : Repository) (o : Info) (n : String) : Option Info :=
  findNamed r o (o.members r).constants 4 .constant n
def findValue (r : Repository) (o : Info) (n : String) : Option Info :=
  findNamed r o (o.members r).values 4 .value n

def findField (r : Repository) (o : Info) (n : String) : Option Info :=
  let t := o.tl r
  ((o.members r).fields.find? fun off => t.cstring (t.u32 off) == n).map (o.child .field)

/-! ## Callables -/

def signature (r : Repository) (i : Info) : Nat :=
  let t := i.tl r
  let c := i.kind.code
  if c == 1 || c == 13 then t.u32 (i.offset + 12)
  else if c == 2 then t.u32 (i.offset + 8)
  else if c == 14 then t.u32 (i.offset + 16)
  else 0

def sigFlags (r : Repository) (i : Info) : Nat := (i.tl r).u16 (signature r i + 4)

def nArgs (r : Repository) (i : Info) : Nat := (i.tl r).u16 (signature r i + 6)

def arg (r : Repository) (i : Info) (n : Nat) : Info :=
  i.child .arg (signature r i + signatureBlobSize + n * argBlobSize)

def args (r : Repository) (i : Info) : List Info := (List.range (nArgs r i)).map (arg r i)

def returnType (r : Repository) (i : Info) : Info := i.child .type (signature r i)

def transferOf (flags everything container : Nat) : Transfer :=
  if flags / 2 ^ everything % 2 == 1 then .everything
  else if flags / 2 ^ container % 2 == 1 then .container
  else .nothing

def testBit (v n : Nat) : Bool := v / 2 ^ n % 2 == 1

def returnTransfer (r : Repository) (i : Info) : Transfer := transferOf (sigFlags r i) 1 2
def mayReturnNull (r : Repository) (i : Info) : Bool := testBit (sigFlags r i) 0
def skipReturn (r : Repository) (i : Info) : Bool := testBit (sigFlags r i) 3
def instanceTransfer (r : Repository) (i : Info) : Transfer :=
  if testBit (sigFlags r i) 4 then .everything else .nothing

def canThrow (r : Repository) (i : Info) : Bool :=
  testBit (sigFlags r i) 5 ||
    (i.kind == .function && testBit ((i.tl r).u16 (i.offset + 2)) 5) ||
    (i.kind == .vfunc && testBit ((i.tl r).u16 (i.offset + 4)) 4)

def isMethod (r : Repository) (i : Info) : Bool :=
  let t := i.tl r
  if i.kind == .function then
    !testBit (t.u16 (i.offset + 2)) 3 && !testBit (t.u16 (i.offset + 16)) 0
  else i.kind == .signal || i.kind == .vfunc

/-! ## Functions, signals and virtual functions -/

def symbol (r : Repository) (i : Info) : String :=
  let t := i.tl r
  t.cstring (t.u32 (i.offset + 8))

/-- Function flags: method 1, constructor 2, getter 4, setter 8, wraps a vfunc 16, throws 32. -/
def functionFlags (r : Repository) (i : Info) : Nat :=
  let bf := (i.tl r).u16 (i.offset + 2)
  (if isMethod r i then 1 else 0) + (if testBit bf 3 then 2 else 0) + (if testBit bf 2 then 4 else 0)
    + (if testBit bf 1 then 8 else 0) + (if testBit bf 4 then 16 else 0)
    + (if canThrow r i then 32 else 0)

def isConstructor (r : Repository) (i : Info) : Bool := testBit (functionFlags r i) 1

def functionIndex (r : Repository) (i : Info) : Nat := (i.tl r).u16 (i.offset + 2) / 64

def functionProperty (r : Repository) (i : Info) : Option Info :=
  if functionFlags r i % 16 / 4 == 0 then none
  else i.container.bind fun c => memberProperty r c (functionIndex r i)

def functionVFunc (r : Repository) (i : Info) : Option Info :=
  if !testBit (functionFlags r i) 4 then none
  else i.container.bind fun c => memberVFunc r c (functionIndex r i)

/-- Signal flags: run first, run last, run cleanup, no recurse, detailed, action, no hooks. -/
def signalFlags (r : Repository) (i : Info) : Nat := (i.tl r).u16 i.offset / 2 % 128

def trueStopsEmit (r : Repository) (i : Info) : Bool := testBit ((i.tl r).u16 i.offset) 9

def classClosure (r : Repository) (i : Info) : Option Info :=
  let t := i.tl r
  if !testBit (t.u16 i.offset) 8 then none
  else i.container.bind fun c => memberVFunc r c (t.u16 (i.offset + 2))

/-- Virtual function flags: must chain up, must override, must not override. -/
def vfuncFlags (r : Repository) (i : Info) : Nat := (i.tl r).u16 (i.offset + 4) % 8

def structOffset (r : Repository) (i : Info) : Nat := (i.tl r).u16 (i.offset + 8)

def vfuncSignal (r : Repository) (i : Info) : Option Info :=
  let t := i.tl r
  if !testBit (t.u16 (i.offset + 4)) 3 then none
  else i.container.bind fun c => memberSignal r c (t.u16 (i.offset + 6))

def invoker (r : Repository) (i : Info) : Option Info :=
  let idx := (i.tl r).u16 (i.offset + 10) % 1024
  if idx == noIndex then none else i.container.bind fun c => memberMethod r c idx

/-! ## Arguments -/

def argFlags (r : Repository) (i : Info) : Nat := (i.tl r).u32 (i.offset + 4)

def direction (r : Repository) (i : Info) : Direction :=
  let f := argFlags r i
  if testBit f 0 && testBit f 1 then .inout else if testBit f 1 then .output else .input

def argTransfer (r : Repository) (i : Info) : Transfer := transferOf (argFlags r i) 5 6
def mayBeNull (r : Repository) (i : Info) : Bool := testBit (argFlags r i) 3
def isOptional (r : Repository) (i : Info) : Bool := testBit (argFlags r i) 4
def isCallerAllocates (r : Repository) (i : Info) : Bool := testBit (argFlags r i) 2
def isReturnValue (r : Repository) (i : Info) : Bool := testBit (argFlags r i) 7
def isSkip (r : Repository) (i : Info) : Bool := testBit (argFlags r i) 11
def scope (r : Repository) (i : Info) : Nat := argFlags r i / 256 % 8
def closure (r : Repository) (i : Info) : Int := (i.tl r).i8 (i.offset + 8)
def destroy (r : Repository) (i : Info) : Int := (i.tl r).i8 (i.offset + 9)

def argType (i : Info) : Info := i.child .type (i.offset + 12)

/-! ## Types -/

def slot (r : Repository) (i : Info) : Nat := (i.tl r).u32 i.offset

def isBasic (r : Repository) (i : Info) : Bool := slot r i % 2 ^ 24 == 0

def tag (r : Repository) (i : Info) : TypeTag :=
  if i.embedded then .interface
  else if isBasic r i then ⟨slot r i / 2 ^ 27⟩
  else ⟨(i.tl r).u8 (slot r i) / 8 % 32⟩

def isPointer (r : Repository) (i : Info) : Bool :=
  if i.embedded then true
  else if isBasic r i then testBit (slot r i) 24
  else testBit ((i.tl r).u8 (slot r i)) 0

/-- The entity an interface type refers to, resolving entries of other namespaces. -/
def typeInterface (i : Info) : RepoM (Option Info) := do
  let r ← get
  if i.embedded then return some (i.child .callback i.offset)
  if tag r i != .interface || isBasic r i then return none
  return some (← i.resolveIndex ((i.tl r).u16 (slot r i + 2)))

def arrayFlags (r : Repository) (i : Info) : Nat :=
  if tag r i != .array || isBasic r i then 0 else (i.tl r).u16 (slot r i)

/-- The index of the argument holding an array's length, -1 when absent. -/
def arrayLength (r : Repository) (i : Info) : Int :=
  if !testBit (arrayFlags r i) 9 then -1 else (i.tl r).u16 (slot r i + 2)

def arrayFixedSize (r : Repository) (i : Info) : Int :=
  if !testBit (arrayFlags r i) 10 then -1 else (i.tl r).u16 (slot r i + 2)

def isZeroTerminated (r : Repository) (i : Info) : Bool := testBit (arrayFlags r i) 8

def arrayType (r : Repository) (i : Info) : Nat := arrayFlags r i / 2 ^ 11 % 4

/-- The number of parameter types: one for arrays, the count for lists and hash tables. -/
def nParams (r : Repository) (i : Info) : Nat :=
  if i.embedded || isBasic r i then 0
  else
    let c := (tag r i).code
    if c == 15 then 1
    else if c == 17 || c == 18 || c == 19 then (i.tl r).u16 (slot r i + 2)
    else 0

def paramType (r : Repository) (i : Info) (n : Nat) : Option Info :=
  if n < nParams r i then some (i.child .type (slot r i + 4 + n * 4)) else none

/-- The text of a type, with `depth` bounding nested parameter types. -/
def typeTextUpTo (i : Info) : Nat → RepoM String
  | 0 => return ""
  | depth + 1 => do
    let r ← get
    let t := tag r i
    let head ← match t.code with
      | 16 =>
        match ← typeInterface i with
        | none => pure "interface"
        | some iface =>
          let r ← get
          pure (namespace_ r iface ++ "." ++ name r iface)
      | 15 | 17 | 18 | 19 =>
        let base := if t.code == 15 && arrayType r i != 0 then arrayTypeName (arrayType r i)
          else t.name
        let mut parts : List String := []
        for n in List.range (nParams r i) do
          match paramType (← get) i n with
          | some p => parts := parts ++ [← typeTextUpTo p depth]
          | none => pure ()
        pure (base ++ "<" ++ ", ".intercalate parts ++ ">")
      | _ => pure t.name
    let r ← get
    let ptr := isPointer r i
    return head ++ (if (ptr && !t.isBasic) || (ptr && t.isNumeric) then "*" else "")

/-- The levels of nested parameter types a walk over a type is given: the rendering of its text
and the conversion of its values. Both follow parameter types with no bound of their own and keep
no record of the blobs they passed, so on a type blob that leads back to itself they do not end;
`typeDepth` is far more than any type without such a cycle needs, and a walk that spends it all
stops there. -/
def typeDepth : Nat := 2 ^ 64

theorem typeDepth_succ : typeDepth = 2 ^ 64 - 1 + 1 := rfl

/-- The text of a type the way the interface description writes it. -/
def typeString (i : Info) : RepoM String := typeTextUpTo i typeDepth

/-- The text of a type as conversions, call plans and bindings keep it ahead of time for the
message of a failure. The code renders the text only when it reports one; kept ahead of time it
must end also on a type that leads back to itself, so it is given as many levels as the image has
bytes, which every type without such a cycle fits in. -/
def typeText (i : Info) : RepoM String := do typeTextUpTo i ((i.tl (← get)).size + 2)

/-! ## Registered types -/

def typeName (r : Repository) (i : Info) : String :=
  let t := i.tl r
  t.cstring (t.u32 (i.offset + 8))
def typeInit (r : Repository) (i : Info) : String :=
  let t := i.tl r
  t.cstring (t.u32 (i.offset + 12))
def isRegistered (r : Repository) (i : Info) : Bool := !(typeName r i).isEmpty

/-! ## Structs and unions -/

def compoundFlags (r : Repository) (i : Info) : Nat := (i.tl r).u16 (i.offset + 2)
def size (r : Repository) (i : Info) : Nat := (i.tl r).u32 (i.offset + 16)
def alignment (r : Repository) (i : Info) : Nat := compoundFlags r i / 8 % 64
def isBoxed (i : Info) : Bool := i.kind == .boxed
def isGTypeStruct (r : Repository) (i : Info) : Bool := testBit (compoundFlags r i) 2
def isForeign (r : Repository) (i : Info) : Bool := testBit (compoundFlags r i) 9
def copyFunction (r : Repository) (i : Info) : String :=
  let t := i.tl r
  t.cstring (t.u32 (i.offset + 24))
def freeFunction (r : Repository) (i : Info) : String :=
  let t := i.tl r
  t.cstring (t.u32 (i.offset + 28))
def isDiscriminated (r : Repository) (i : Info) : Bool := testBit (compoundFlags r i) 2
def discriminatorOffset (r : Repository) (i : Info) : Int := (i.tl r).i32 (i.offset + 32)
def discriminatorType (r : Repository) (i : Info) : Option Info :=
  if isDiscriminated r i then some (i.child .type (i.offset + 36)) else none

/-! ## Enums, values, fields and constants -/

def isFlags (i : Info) : Bool := i.kind == .flags

def storageType (r : Repository) (i : Info) : TypeTag :=
  let s := (i.tl r).u16 (i.offset + 2) / 4 % 32
  if s != 0 then ⟨s⟩ else if isFlags i then .uint32 else .int32

def errorDomain (r : Repository) (i : Info) : String :=
  let t := i.tl r
  t.cstring (t.u32 (i.offset + 20))

def valueOf (r : Repository) (i : Info) : Int :=
  let t := i.tl r
  if testBit (t.u32 i.offset) 1 then t.u32 (i.offset + 8) else t.i32 (i.offset + 8)

def fieldFlags (r : Repository) (i : Info) : Nat := (i.tl r).u8 (i.offset + 4)
def isReadable (r : Repository) (i : Info) : Bool := testBit (fieldFlags r i) 0
def isWritable (r : Repository) (i : Info) : Bool := testBit (fieldFlags r i) 1
def fieldBits (r : Repository) (i : Info) : Nat := (i.tl r).u8 (i.offset + 5)
def fieldOffset (r : Repository) (i : Info) : Nat := (i.tl r).u16 (i.offset + 6)

/-- The type of a field; a field declaring an inline callback gives a type standing for it. -/
def fieldType (r : Repository) (i : Info) : Info :=
  if testBit (fieldFlags r i) 2 then { i.child .type (i.offset + fieldBlobSize) with embedded := true }
  else i.child .type (i.offset + 12)

def constantType (i : Info) : Info := i.child .type (i.offset + 8)

def constantBytes (r : Repository) (i : Info) : Option ByteArray :=
  let t := i.tl r
  t.bytes? (t.u32 (i.offset + 16)) (t.u32 (i.offset + 12))

def constantValue (r : Repository) (i : Info) : Value :=
  decodeConstant (tag r (constantType i)) ((constantBytes r i).getD ByteArray.empty)

/-! ## Objects, interfaces and properties -/

def objectFlags (r : Repository) (i : Info) : Nat := (i.tl r).u16 (i.offset + 2)
def isAbstract (r : Repository) (i : Info) : Bool := testBit (objectFlags r i) 1
def isFundamental (r : Repository) (i : Info) : Bool := testBit (objectFlags r i) 2
def isFinal (r : Repository) (i : Info) : Bool := testBit (objectFlags r i) 3

/-- The parent entry as recorded, possibly unresolved; none for root classes. -/
def parentRef (i : Info) : RepoM (Option Info) := do
  let idx := (i.tl (← get)).u16 (i.offset + 16)
  if idx == 0 then return none
  return some (← i.resolveIndex idx)

def parent (i : Info) : RepoM (Option Info) := do
  match ← parentRef i with
  | some p => return if p.kind == .object then some p else none
  | none => return none

def structRef (i : Info) (idx : Nat) : RepoM (Option Info) := do
  if idx == 0 then return none
  let s ← i.resolveIndex idx
  return if s.kind == .struct || s.kind == .boxed then some s else none

def classStruct (i : Info) : RepoM (Option Info) := do
  structRef i ((i.tl (← get)).u16 (i.offset + 18))

def ifaceStruct (i : Info) : RepoM (Option Info) := do
  structRef i ((i.tl (← get)).u16 (i.offset + 16))

def refFunction (r : Repository) (i : Info) : String :=
  let t := i.tl r
  t.cstring (t.u32 (i.offset + 36))
def unrefFunction (r : Repository) (i : Info) : String :=
  let t := i.tl r
  t.cstring (t.u32 (i.offset + 40))
def setValueFunction (r : Repository) (i : Info) : String :=
  let t := i.tl r
  t.cstring (t.u32 (i.offset + 44))
def getValueFunction (r : Repository) (i : Info) : String :=
  let t := i.tl r
  t.cstring (t.u32 (i.offset + 48))

/-- The implemented interfaces of an object or the prerequisites of an interface. -/
def interfaces (i : Info) : RepoM (List Info) := do
  let r ← get
  let span := (i.members r).interfaces
  let t := i.tl r
  let mut out : List Info := []
  for n in List.range span.count do
    out := out ++ [← i.resolveIndex (t.u16 (span.at_ n))]
  return out

def propertyFlagsRaw (r : Repository) (i : Info) : Nat := (i.tl r).u32 (i.offset + 4)

/-- Property flags: readable 1, writable 2, construct 4, construct-only 8. -/
def propertyFlags (r : Repository) (i : Info) : Nat := propertyFlagsRaw r i / 2 % 16

def propertyTransfer (r : Repository) (i : Info) : Transfer :=
  transferOf (propertyFlagsRaw r i) 5 6

def propertyType (i : Info) : Info := i.child .type (i.offset + 12)

/-- An accessor of a property: the setter at shift 0, the getter at shift 10. -/
def accessor (r : Repository) (i : Info) (shift : Nat) : Option Info :=
  let idx := (i.tl r).u32 (i.offset + 8) / 2 ^ shift % 1024
  if idx == noIndex then none else i.container.bind fun c => memberMethod r c idx

def setter (r : Repository) (i : Info) : Option Info := accessor r i 0
def getter (r : Repository) (i : Info) : Option Info := accessor r i 10

theorem transferOf_zero (e c : Nat) : transferOf 0 e c = .nothing := by
  simp [transferOf]

end Info

end Introspection.Info
