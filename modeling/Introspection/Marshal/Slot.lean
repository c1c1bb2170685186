import Introspection.Info.Views
import Introspection.Native.Kind

/-!
# Slots of types

The call slot a value of a type occupies: pointers and pointer-like tags (strings, arrays,
lists, hash tables, errors) use a pointer slot; basic tags by value their own width; an enum or
flags type by value the slot of its storage tag; a callback a pointer. Structs and unions by
value have no slot. The element size of an array element also counts structs and unions stored
inline.
-/

namespace Introspection.Marshal

open Introspection.Typelib Introspection.Repository Introspection.Info Introspection.Native

def tagKind? (t : TypeTag) : Option ValueKind :=
  match t.code with
  | 0 => some .void
  | 1 => some .i32
  | 2 => some .i8
  | 3 => some .u8
  | 4 => some .i16
  | 5 => some .u16
  | 6 => some .i32
  | 7 => some .u32
  | 8 => some .i64
  | 9 => some .u64
  | 10 => some .f32
  | 11 => some .f64
  | 12 => some .ptr
  | 21 => some .u32
  | _ => none

def slotKind (ti : Info) : RepoM (Except Failure ValueKind) := do
  let r ← get
  let tag := Info.tag r ti
  if Info.isPointer r ti then return .ok .ptr
  match tagKind? tag with
  | some k => return .ok k
  | none =>
    let c := tag.code
    if c == 13 || c == 14 || c == 15 || c == 17 || c == 18 || c == 19 || c == 20 then
      return .ok .ptr
    else if c == 16 then
      match ← Info.typeInterface ti with
      | none => return .ok .ptr
      | some iface =>
        let r ← get
        if iface.kind == .enum || iface.kind == .flags then
          return .ok ((tagKind? (Info.storageType r iface)).getD .void)
        else if iface.kind == .callback then return .ok .ptr
        else
          return .error (.unsupported .encode
            ("by-value " ++ iface.kind.name ++ " " ++ Info.qualifiedName r iface))
    else return .error (.unsupported .encode ("type tag " ++ tag.name))

def elementSize (ti : Info) (ptrSize : Nat) : RepoM (Except Failure Nat) := do
  let r ← get
  if !Info.isPointer r ti && Info.tag r ti == .interface then
    match ← Info.typeInterface ti with
    | some iface =>
      let r ← get
      if iface.kind == .struct || iface.kind == .boxed || iface.kind == .union then
        return .ok (Info.size r iface)
    | none => pure ()
  return (← slotKind ti).map (·.size ptrSize)

theorem tagKind_void : tagKind? .void = some .void := rfl

end Introspection.Marshal
