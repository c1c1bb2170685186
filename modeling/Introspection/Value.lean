import Introspection.Text.Decimal
import Introspection.Text.Quote

/-!
# Host values

The library moves dynamically typed host values into native memory and back. A host value is
one of the scalar types (booleans, sized integers, single and double floats, byte strings,
GType identifiers), a container (an untyped list, a typed slice or fixed array, a string-keyed
map), a value with a behaviour the library looks for (a text form, a native pointer, an integer
form, a callback), or a value the library itself produced (a native error, an enum or flags
member, a wrapper of a native instance).

Each value has a type name, used in error messages, and a default text form.
-/

namespace Introspection

/-- The sized integer types of the host. -/
inductive IntType where
  | int | int8 | int16 | int32 | int64
  | uint | uint8 | uint16 | uint32 | uint64 | uintptr
  deriving Repr, DecidableEq, Inhabited

namespace IntType

def bits : IntType → Nat
  | int8 | uint8 => 8
  | int16 | uint16 => 16
  | int32 | uint32 => 32
  | _ => 64

def signed : IntType → Bool
  | int | int8 | int16 | int32 | int64 => true
  | _ => false

def name : IntType → String
  | int => "int" | int8 => "int8" | int16 => "int16" | int32 => "int32" | int64 => "int64"
  | uint => "uint" | uint8 => "uint8" | uint16 => "uint16" | uint32 => "uint32"
  | uint64 => "uint64" | uintptr => "uintptr"

def all : List IntType :=
  [int, int8, int16, int32, int64, uint, uint8, uint16, uint32, uint64, uintptr]

def ofName? (s : String) : Option IntType := all.find? (·.name == s)

/-- The value a conversion to the type gives: the low `bits` bits, read with the type's sign. -/
def wrap (t : IntType) (v : Int) : Int :=
  let m := (2 : Int) ^ t.bits
  let r := v % m
  if t.signed && r ≥ m / 2 then r - m else r

def min (t : IntType) : Int := if t.signed then -((2 : Int) ^ (t.bits - 1)) else 0

def max (t : IntType) : Int :=
  if t.signed then (2 : Int) ^ (t.bits - 1) - 1 else (2 : Int) ^ t.bits - 1

end IntType

/-- The element type of a typed slice or array. -/
inductive ElemType where
  | bool
  | int (t : IntType)
  | float32
  | float64
  | string
  | gtype
  | any
  deriving Repr, DecidableEq, Inhabited

namespace ElemType

def name : ElemType → String
  | bool => "bool"
  | int t => t.name
  | float32 => "float32"
  | float64 => "float64"
  | string => "string"
  | gtype => "gtype"
  | any => "any"

def hostName : ElemType → String
  | gtype => "giruntime.GType"
  | any => "interface {}"
  | e => e.name

end ElemType

/-- An error a native library reported with a domain, a code and a message. -/
structure NativeError where
  domain : String
  message : String
  code : Int
  quark : Nat
  deriving Repr, DecidableEq, Inhabited

namespace NativeError

/-- The text of a native error: its domain and code, or only the code without a domain. -/
def text (e : NativeError) : String :=
  if e.domain.isEmpty then s!"native error {e.code}: {e.message}"
  else s!"{e.domain} ({e.code}): {e.message}"

end NativeError

/-- The members of an enum or flags type, as the wrapper values carry them. -/
structure EnumShape where
  ns : String
  name : String
  gtypeName : String
  isFlags : Bool
  /-- Upper-cased member names with their values, in declaration order. -/
  members : List (String × Int)
  deriving Repr, DecidableEq, Inhabited

namespace EnumShape

def qualifiedName (t : EnumShape) : String := t.ns ++ "." ++ t.name

def nameOf? (t : EnumShape) (v : Int) : Option String :=
  (t.members.find? (·.2 == v)).map (·.1)

end EnumShape

/-- How a callback value answers a call. -/
inductive CompareMode where
  | ascending
  | descending
  deriving Repr, DecidableEq, Inhabited

/-- What a wrapper stands for. -/
inductive WrapperKind where
  | object
  | boxed
  | constructed
  deriving Repr, DecidableEq, Inhabited

/-- A dynamically typed host value. -/
inductive Value where
  | null
  | bool (b : Bool)
  | int (t : IntType) (v : Int)
  | float32 (x : Float32)
  | float64 (x : Float)
  | str (s : ByteArray)
  | bytes (b : ByteArray)
  | gtype (g : Nat)
  | list (xs : List Value)
  | slice (e : ElemType) (xs : List Value)
  | array (e : ElemType) (xs : List Value)
  | map (entries : List (String × Value))
  | stringer (text : String)
  | handle (ptr : Nat)
  | enumInt (v : Int)
  | unsupported
  /-- A callback: its name for events, the value it returns, whether it panics, and the
  comparison it performs instead when it is a comparator. -/
  | callback (id : String) (ret : Value) (panics : Bool) (compare : Option CompareMode)
  /-- The same callback as a plain function value. -/
  | func (id : String) (ret : Value) (panics : Bool) (compare : Option CompareMode)
  | nilCallback
  | nativeError (e : NativeError)
  | enumMember (t : EnumShape) (v : Int)
  | flags (t : EnumShape) (v : Int)
  | wrapper (id : Nat) (kind : WrapperKind)
  | nilWrapper (kind : WrapperKind)
  deriving Inhabited

namespace Value

def ofString (s : String) : Value := .str s.toUTF8

def ofInt (v : Int) : Value := .int .int v

def ofU64 (v : Nat) : Value := .int .uint64 v

def typeName : Value → String
  | null => "<nil>"
  | bool _ => "bool"
  | int t _ => t.name
  | float32 _ => "float32"
  | float64 _ => "float64"
  | str _ => "string"
  | bytes _ => "[]uint8"
  | gtype _ => "giruntime.GType"
  | list _ => "[]interface {}"
  | slice e _ => "[]" ++ e.hostName
  | array e xs => s!"[{xs.length}]" ++ e.hostName
  | map _ => "map[string]interface {}"
  | stringer _ => "main.stringer"
  | handle _ => "main.handle"
  | enumInt _ => "main.enumValue"
  | unsupported => "main.unsupported"
  | callback .. => "argument.Callback"
  | func .. => "func([]interface {}) interface {}"
  | nilCallback => "argument.Callback"
  | nativeError _ => "*errors.NativeError"
  | enumMember .. => "binding.Enum"
  | flags .. => "binding.Flags"
  | wrapper _ .object | nilWrapper .object => "*binding.Object"
  | wrapper _ .boxed | nilWrapper .boxed => "*binding.Boxed"
  | wrapper _ .constructed | nilWrapper .constructed => "*main.wrapped"

def bits64 (v : Int) : Nat := (v % (2 : Int) ^ 64).toNat

/-- The members a flags value covers, in declaration order, and the 64 bits no member
covers. A member counts when all its bits are set and one of them is not yet covered; zero
members never count. -/
def flagsParts (t : EnumShape) (v : Int) : List String × Nat :=
  let bits := bits64 v
  let step := fun (acc : List String × Nat) (m : String × Int) =>
    let (names, rest) := acc
    let mv := bits64 m.2
    if mv == 0 || bits &&& mv != mv || rest &&& mv == 0 then acc
    else (names ++ [m.1], rest ^^^ (rest &&& mv))
  t.members.foldl step ([], bits)

/-- The text of a flags value: member names joined by `|`, leftover bits in hexadecimal. -/
def flagsText (t : EnumShape) (v : Int) : String :=
  if v == 0 then (t.nameOf? 0).getD "0"
  else
    let (names, rest) := flagsParts t v
    let names := if rest != 0 then names ++ ["0x" ++ Text.Hex.ofNat rest] else names
    " | ".intercalate names

theorem sizeOf_snd_lt {α β : Type} [SizeOf α] [SizeOf β] (p : α × β) :
    sizeOf p.2 < sizeOf p := by
  cases p with
  | mk a b => simp only [Prod.mk.sizeOf_spec]; omega

def defaultText : Value → String
  | null => "<nil>"
  | bool b => if b then "true" else "false"
  | int _ v => toString v
  | float32 x => Text.Decimal.ofFloat32 x
  | float64 x => Text.Decimal.ofFloat x
  | str s => Text.Utf8.lossy s
  | bytes b => "[" ++ " ".intercalate (b.toList.map fun x => toString x.toNat) ++ "]"
  | gtype g => s!"GType({g})"
  | list xs => "[" ++ " ".intercalate (xs.attach.map fun ⟨x, _⟩ => defaultText x) ++ "]"
  | slice _ xs => "[" ++ " ".intercalate (xs.attach.map fun ⟨x, _⟩ => defaultText x) ++ "]"
  | array _ xs => "[" ++ " ".intercalate (xs.attach.map fun ⟨x, _⟩ => defaultText x) ++ "]"
  | map kvs => "map[" ++ " ".intercalate (kvs.attach.map fun ⟨kv, _⟩ =>
      kv.1 ++ ":" ++ defaultText kv.2) ++ "]"
  | stringer s => s
  | handle p => "\x7b" ++ toString p ++ "\x7d"
  | enumInt v => "\x7b" ++ toString v ++ "\x7d"
  | unsupported => "{}"
  | callback .. | func .. | nilCallback => "<func>"
  | nativeError e => e.text
  | enumMember t v => (t.nameOf? v).getD ""
  | flags t v => flagsText t v
  | wrapper id _ => s!"<wrapper {id}>"
  | nilWrapper _ => "<nil>"
termination_by v => sizeOf v
decreasing_by
  all_goals simp_wf
  all_goals first
    | (have hm := List.sizeOf_lt_of_mem ‹_›; omega)
    | (rename_i h; have := List.sizeOf_lt_of_mem h; have := sizeOf_snd_lt kv; omega)

end Value

end Introspection
