import Introspection.Typelib.Format
import Introspection.Value

/-!
# Namespace descriptions

A namespace description says what an image built for it holds: the namespace's name, version,
shared libraries, C prefix and dependencies, and its entries: functions, callbacks, enums and
flags, structs and boxed types, unions, objects, interfaces and constants, with their members.
The builder turns a description into image bytes.
-/

namespace Introspection.Typelib

/-- A type as a description gives it. -/
structure TypeDef where
  tag : TypeTag := .void
  pointer : Bool := false
  /-- The referenced entity of an interface type: `Name` for entities of the namespace being
  built, `Namespace.Name` otherwise. -/
  iface : String := ""
  /-- The element type of arrays and lists; the key and value types of hash tables. -/
  params : List TypeDef := []
  length : Option Int := none
  fixedSize : Option Int := none
  zeroTerminated : Bool := false
  arrayType : Nat := 0
  deriving Inhabited

namespace TypeDef

def basic (tag : TypeTag) : TypeDef :=
  { tag, pointer := tag == .utf8 || tag == .filename }

def ref (name : String) : TypeDef := { tag := .interface, iface := name, pointer := true }

def valueRef (name : String) : TypeDef := { tag := .interface, iface := name }

def gerror : TypeDef := { tag := .error, pointer := true }

theorem basic_utf8_pointer : (basic .utf8).pointer = true := rfl

end TypeDef

/-- A key/value annotation. -/
structure Attribute where
  name : String
  value : String
  deriving Inhabited, Repr

/-- A callable argument. -/
structure ArgDef where
  name : String := ""
  type : TypeDef := {}
  closure : Int := -1
  destroy : Int := -1
  direction : Direction := .input
  transfer : Transfer := .nothing
  scope : Nat := 0
  nullable : Bool := false
  optional : Bool := false
  callerAllocates : Bool := false
  returnValue : Bool := false
  skip : Bool := false
  deriving Inhabited

/-- The part every callable shares. -/
structure SignatureDef where
  args : List ArgDef := []
  ret : TypeDef := {}
  returnTransfer : Transfer := .nothing
  instanceTransfer : Transfer := .nothing
  mayReturnNull : Bool := false
  skipReturn : Bool := false
  throws : Bool := false
  deriving Inhabited

/-- A function, method or constructor. -/
structure FunctionDef where
  name : String := ""
  symbol : String := ""
  /-- The property a getter or setter belongs to. -/
  property : String := ""
  /-- The virtual function a wrapper invokes. -/
  vfunc : String := ""
  attributes : List Attribute := []
  sig : SignatureDef := {}
  method : Bool := false
  constructor : Bool := false
  getter : Bool := false
  setter : Bool := false
  deprecated : Bool := false
  deriving Inhabited

/-- A callback type. -/
structure CallbackDef where
  name : String := ""
  attributes : List Attribute := []
  sig : SignatureDef := {}
  deprecated : Bool := false
  deriving Inhabited

/-- One enum or flags member. -/
structure ValueDef where
  name : String := ""
  value : Int := 0
  deprecated : Bool := false
  deriving Inhabited

/-- An enumeration or flags type. -/
structure EnumDef where
  name : String := ""
  gtypeName : String := ""
  gtypeInit : String := ""
  errorDomain : String := ""
  values : List ValueDef := []
  methods : List FunctionDef := []
  attributes : List Attribute := []
  /-- The integer tag backing the type; `void` for the default. -/
  storage : TypeTag := .void
  isFlags : Bool := false
  deprecated : Bool := false
  deriving Inhabited

/-- A field of a struct, union or object. -/
structure FieldDef where
  name : String := ""
  type : TypeDef := {}
  /-- The anonymous function pointer type of the field, if it holds one. -/
  callback : Option CallbackDef := none
  /-- The byte offset, used only with explicit layout. -/
  offset : Int := 0
  bits : Nat := 0
  readable : Bool := false
  writable : Bool := false
  deriving Inhabited

/-- A struct or boxed type. -/
structure StructDef where
  name : String := ""
  gtypeName : String := ""
  gtypeInit : String := ""
  copyFunc : String := ""
  freeFunc : String := ""
  fields : List FieldDef := []
  methods : List FunctionDef := []
  attributes : List Attribute := []
  size : Nat := 0
  alignment : Nat := 0
  explicitLayout : Bool := false
  boxed : Bool := false
  gtypeStruct : Bool := false
  foreign : Bool := false
  deprecated : Bool := false
  deriving Inhabited

/-- A constant; its value must fit its type. -/
structure ConstantDef where
  name : String := ""
  value : Value := .null
  attributes : List Attribute := []
  type : TypeDef := {}
  deprecated : Bool := false
  deriving Inhabited

/-- How a union's active member is selected. -/
structure DiscriminatorDef where
  type : TypeDef := {}
  values : List ConstantDef := []
  offset : Int := 0
  deriving Inhabited

/-- A union; without explicit layout every field sits at offset zero. -/
structure UnionDef where
  name : String := ""
  gtypeName : String := ""
  gtypeInit : String := ""
  copyFunc : String := ""
  freeFunc : String := ""
  fields : List FieldDef := []
  methods : List FunctionDef := []
  discriminator : Option DiscriminatorDef := none
  attributes : List Attribute := []
  size : Nat := 0
  alignment : Nat := 0
  explicitLayout : Bool := false
  deprecated : Bool := false
  deriving Inhabited

/-- A property of an object or interface; getter and setter name methods of the owner. -/
structure PropertyDef where
  name : String := ""
  type : TypeDef := {}
  getter : String := ""
  setter : String := ""
  transfer : Transfer := .nothing
  readable : Bool := false
  writable : Bool := false
  construct : Bool := false
  constructOnly : Bool := false
  deprecated : Bool := false
  deriving Inhabited

/-- A signal; its class closure names a virtual function of the owner. -/
structure SignalDef where
  name : String := ""
  classClosure : String := ""
  sig : SignatureDef := {}
  runFirst : Bool := false
  runLast : Bool := false
  runCleanup : Bool := false
  noRecurse : Bool := false
  detailed : Bool := false
  action : Bool := false
  noHooks : Bool := false
  trueStopsEmit : Bool := false
  deprecated : Bool := false
  deriving Inhabited

/-- A virtual function; the invoker names a method of the owner, the signal a signal. -/
structure VFuncDef where
  name : String := ""
  invoker : String := ""
  signal : String := ""
  sig : SignatureDef := {}
  structOffset : Nat := 0
  mustChainUp : Bool := false
  mustBeImplemented : Bool := false
  mustNotBeImplemented : Bool := false
  deriving Inhabited

/-- A class or fundamental type. -/
structure ObjectDef where
  name : String := ""
  gtypeName : String := ""
  gtypeInit : String := ""
  parent : String := ""
  classStruct : String := ""
  refFunc : String := ""
  unrefFunc : String := ""
  setValueFunc : String := ""
  getValueFunc : String := ""
  interfaces : List String := []
  fields : List FieldDef := []
  properties : List PropertyDef := []
  methods : List FunctionDef := []
  signals : List SignalDef := []
  vfuncs : List VFuncDef := []
  constants : List ConstantDef := []
  attributes : List Attribute := []
  isAbstract : Bool := false
  fundamental : Bool := false
  final : Bool := false
  deprecated : Bool := false
  deriving Inhabited

/-- An interface. -/
structure InterfaceDef where
  name : String := ""
  gtypeName : String := ""
  gtypeInit : String := ""
  ifaceStruct : String := ""
  prerequisites : List String := []
  properties : List PropertyDef := []
  methods : List FunctionDef := []
  signals : List SignalDef := []
  vfuncs : List VFuncDef := []
  constants : List ConstantDef := []
  attributes : List Attribute := []
  deprecated : Bool := false
  deriving Inhabited

/-- One top-level entry of a namespace. -/
inductive EntryDef where
  | function (d : FunctionDef)
  | callback (d : CallbackDef)
  | enum (d : EnumDef)
  | struct (d : StructDef)
  | union (d : UnionDef)
  | object (d : ObjectDef)
  | interface (d : InterfaceDef)
  | constant (d : ConstantDef)
  deriving Inhabited

namespace EntryDef

def name : EntryDef → String
  | function d => d.name
  | callback d => d.name
  | enum d => d.name
  | struct d => d.name
  | union d => d.name
  | object d => d.name
  | interface d => d.name
  | constant d => d.name

def blobType : EntryDef → BlobType
  | function _ => .function
  | callback _ => .callback
  | enum d => if d.isFlags then .flags else .enum
  | struct d => if d.boxed then .boxed else .struct
  | union _ => .union
  | object _ => .object
  | interface _ => .interface
  | constant _ => .constant

def storage : EntryDef → TypeTag
  | enum d => d.storage
  | _ => .void

end EntryDef

/-- A namespace to build. -/
structure NamespaceDef where
  name : String := ""
  version : String := ""
  cPrefix : String := ""
  libraries : List String := []
  /-- Dependencies as `Namespace-Version`. -/
  dependencies : List String := []
  entries : List EntryDef := []
  /-- The pointer width automatic layout assumes. -/
  pointerSize : Nat := 8
  deriving Inhabited

end Introspection.Typelib
