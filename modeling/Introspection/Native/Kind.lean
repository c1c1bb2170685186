import Introspection.Powers

/-!
# Call slots

A native call passes each argument and its result in a slot of a fixed width and class: void,
signed and unsigned integers of 8, 16, 32 and 64 bits, single and double floats, and pointers.
A signature lists the parameter slots and the result slot. Raw 64-bit payloads are normalized
per slot: signed slots sign-extend, unsigned slots and single floats zero-extend, void is zero.
-/

namespace Introspection.Native

/-- The width and class of one call slot. -/
inductive ValueKind where
  | void | i8 | u8 | i16 | u16 | i32 | u32 | i64 | u64 | f32 | f64 | ptr
  deriving DecidableEq, Repr, Inhabited

namespace ValueKind

def name : ValueKind → String
  | void => "void" | i8 => "i8" | u8 => "u8" | i16 => "i16" | u16 => "u16" | i32 => "i32"
  | u32 => "u32" | i64 => "i64" | u64 => "u64" | f32 => "f32" | f64 => "f64" | ptr => "ptr"

def hostName : ValueKind → String
  | void => "" | i8 => "int8" | u8 => "uint8" | i16 => "int16" | u16 => "uint16"
  | i32 => "int32" | u32 => "uint32" | i64 => "int64" | u64 => "uint64" | f32 => "float32"
  | f64 => "float64" | ptr => "uintptr"

def isFloat (k : ValueKind) : Bool := k == f32 || k == f64

def size (k : ValueKind) (ptrSize : Nat) : Nat :=
  match k with
  | i8 | u8 => 1
  | i16 | u16 => 2
  | i32 | u32 | f32 => 4
  | i64 | u64 | f64 => 8
  | ptr => ptrSize
  | void => 0

def normalize (k : ValueKind) (raw : Nat) : Nat :=
  let sext (bits : Nat) : Nat :=
    let v := raw % 2 ^ bits
    if v < 2 ^ (bits - 1) then v else v + (2 ^ 64 - 2 ^ bits)
  match k with
  | i8 => sext 8
  | u8 => raw % 2 ^ 8
  | i16 => sext 16
  | u16 => raw % 2 ^ 16
  | i32 => sext 32
  | u32 | f32 => raw % 2 ^ 32
  | void => 0
  | _ => raw % 2 ^ 64

theorem normalize_void (raw : Nat) : void.normalize raw = 0 := rfl

end ValueKind

/-- The slots of a foreign call. -/
structure Signature where
  params : List ValueKind := []
  result : ValueKind := .void
  deriving DecidableEq, Repr, Inhabited

def Signature.text (s : Signature) : String :=
  "(" ++ ", ".intercalate (s.params.map ValueKind.name) ++ ") -> " ++ s.result.name

end Introspection.Native
