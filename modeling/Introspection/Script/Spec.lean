import Introspection.Script.Values
import Introspection.Typelib.Build

/-!
# Namespace descriptions in scripts

A script describes a namespace to build as a document whose members mirror the description
types in snake case. Types are written as a tag name (`int32` or `gint32`), `ref:Name` for a
pointer to an entity, `val:Name` for an entity by value, `error` for the error type, `null` for
void, or an object with `tag`, `pointer`, `interface`, `params`, `length`, `fixed_size`,
`zero_terminated` and `array_type`. A missing `pointer` is the basic tag's own for basic tags
and true otherwise.
-/

namespace Introspection.Script

open Introspection.Typelib

def readTag (d : Doc) : TypeTag :=
  match d with
  | .str s => (TypeTag.ofName? s).getD .void
  | other => ⟨(other.int?.getD 0).toNat % 256⟩

def readTypeUpTo : Nat → Doc → TypeDef
  | 0, _ => {}
  | _ + 1, .null => {}
  | _ + 1, .str s =>
    if s.startsWith "ref:" then .ref (s.drop 4).toString
    else if s.startsWith "val:" then .valueRef (s.drop 4).toString
    else if s == "error" then .gerror
    else .basic (readTag (.str s))
  | fuel + 1, d =>
    let tag := readTag (d.field "tag")
    let pointer := match d.get? "pointer" with
      | some (.bool b) => b
      | _ => if tag.isBasic then (TypeDef.basic tag).pointer else true
    let arrayType := match d.get? "array_type" with
      | some (.str "c") => 0
      | some (.str "garray") => 1
      | some (.str "ptrarray") => 2
      | some (.str "bytearray") => 3
      | some other => (other.int?.getD 0).toNat % 256
      | none => 0
    { tag, pointer, iface := d.strD "interface",
      params := (d.list "params").map (readTypeUpTo fuel),
      length := d.intAt? "length", fixedSize := d.intAt? "fixed_size",
      zeroTerminated := d.flag "zero_terminated", arrayType }

def readType (d : Doc) : TypeDef := readTypeUpTo d.depth d

def readTransfer (d : Doc) : Transfer :=
  match d with
  | .str "container" => .container
  | .str "full" => .everything
  | _ => .nothing

def readAttributes (d : Doc) : List Attribute :=
  (d.list "attributes").filterMap fun a =>
    match a.arr? with
    | some [.str k, .str v] => some ⟨k, v⟩
    | _ => none

def readArg (d : Doc) : ArgDef :=
  { name := d.strD "name", type := readType (d.field "type"),
    closure := d.intD "closure" (-1), destroy := d.intD "destroy" (-1),
    direction := match d.strD "dir" with
      | "out" => .output
      | "inout" => .inout
      | _ => .input,
    transfer := readTransfer (d.field "transfer"),
    scope := match d.get? "scope" with
      | some (.str "call") => 1
      | some (.str "async") => 2
      | some (.str "notified") => 3
      | some (.str "forever") => 4
      | some other => (other.int?.getD 0).toNat % 256
      | none => 0,
    nullable := d.flag "nullable", optional := d.flag "optional",
    callerAllocates := d.flag "caller_allocates", returnValue := d.flag "return_value",
    skip := d.flag "skip" }

def readSignature (d : Doc) : SignatureDef :=
  { args := (d.list "args").map readArg, ret := readType (d.field "return"),
    returnTransfer := readTransfer (d.field "return_transfer"),
    instanceTransfer := readTransfer (d.field "instance_transfer"),
    mayReturnNull := d.flag "may_return_null", skipReturn := d.flag "skip_return",
    throws := d.flag "throws" }

def readFunction (d : Doc) : FunctionDef :=
  { name := d.strD "name", symbol := d.strD "symbol", property := d.strD "property",
    vfunc := d.strD "vfunc", attributes := readAttributes d, sig := readSignature d,
    method := d.flag "method", constructor := d.flag "constructor", getter := d.flag "getter",
    setter := d.flag "setter", deprecated := d.flag "deprecated" }

def readCallback (d : Doc) : CallbackDef :=
  { name := d.strD "name", attributes := readAttributes d, sig := readSignature d,
    deprecated := d.flag "deprecated" }

def readConstant (d : Doc) : ConstantDef :=
  { name := d.strD "name", value := (decodeHost {} (d.field "value")).toOption.getD .null,
    attributes := readAttributes d, type := readType (d.field "type"),
    deprecated := d.flag "deprecated" }

def readField (d : Doc) : FieldDef :=
  { name := d.strD "name", type := readType (d.field "type"),
    callback := (d.get? "callback").bind fun c => if c.isNull then none else some (readCallback c),
    offset := d.intD "offset" 0, bits := (d.intD "bits" 0).toNat % 256,
    readable := d.flag "readable", writable := d.flag "writable" }

def readProperty (d : Doc) : PropertyDef :=
  { name := d.strD "name", type := readType (d.field "type"), getter := d.strD "getter",
    setter := d.strD "setter", transfer := readTransfer (d.field "transfer"),
    readable := d.flag "readable", writable := d.flag "writable",
    construct := d.flag "construct", constructOnly := d.flag "construct_only",
    deprecated := d.flag "deprecated" }

def readSignal (d : Doc) : SignalDef :=
  { name := d.strD "name", classClosure := d.strD "class_closure", sig := readSignature d,
    runFirst := d.flag "run_first", runLast := d.flag "run_last",
    runCleanup := d.flag "run_cleanup", noRecurse := d.flag "no_recurse",
    detailed := d.flag "detailed", action := d.flag "action", noHooks := d.flag "no_hooks",
    trueStopsEmit := d.flag "true_stops_emit", deprecated := d.flag "deprecated" }

def readVFunc (d : Doc) : VFuncDef :=
  { name := d.strD "name", invoker := d.strD "invoker", signal := d.strD "signal",
    sig := readSignature d, structOffset := (d.intD "struct_offset" 0).toNat % 65536,
    mustChainUp := d.flag "must_chain_up", mustBeImplemented := d.flag "must_be_implemented",
    mustNotBeImplemented := d.flag "must_not_be_implemented" }

def readEntry (d : Doc) : EntryDef :=
  let name := d.strD "name"
  let gtypeName := d.strD "gtype_name"
  let gtypeInit := d.strD "gtype_init"
  let attributes := readAttributes d
  let deprecated := d.flag "deprecated"
  let methods := (d.list "methods").map readFunction
  let fields := (d.list "fields").map readField
  let properties := (d.list "properties").map readProperty
  let signals := (d.list "signals").map readSignal
  let vfuncs := (d.list "vfuncs").map readVFunc
  let constants := (d.list "constants").map readConstant
  match d.strD "kind" with
  | "callback" => .callback (readCallback d)
  | "enum" | "flags" =>
    .enum { name, gtypeName, gtypeInit, errorDomain := d.strD "error_domain",
            values := (d.list "values").map fun v =>
              { name := v.strD "name", value := v.intD "value" 0, deprecated := v.flag "deprecated" },
            methods, attributes, storage := match d.get? "storage" with
              | some s => readTag s
              | none => .void,
            isFlags := d.strD "kind" == "flags", deprecated }
  | "struct" | "boxed" =>
    .struct { name, gtypeName, gtypeInit, copyFunc := d.strD "copy_func",
              freeFunc := d.strD "free_func", fields, methods, attributes,
              size := (d.intD "size" 0).toNat % 2 ^ 32,
              alignment := (d.intD "alignment" 0).toNat % 256,
              explicitLayout := d.flag "explicit_layout", boxed := d.strD "kind" == "boxed",
              gtypeStruct := d.flag "gtype_struct", foreign := d.flag "foreign", deprecated }
  | "union" =>
    .union { name, gtypeName, gtypeInit, copyFunc := d.strD "copy_func",
             freeFunc := d.strD "free_func", fields, methods, attributes,
             discriminator := (d.get? "discriminator").bind fun x =>
               if x.isNull then none
               else some { type := readType (x.field "type"),
                           values := (x.list "values").map readConstant,
                           offset := x.intD "offset" 0 },
             size := (d.intD "size" 0).toNat % 2 ^ 32,
             alignment := (d.intD "alignment" 0).toNat % 256,
             explicitLayout := d.flag "explicit_layout", deprecated }
  | "object" =>
    .object { name, gtypeName, gtypeInit, parent := d.strD "parent",
              classStruct := d.strD "class_struct", refFunc := d.strD "ref_func",
              unrefFunc := d.strD "unref_func", setValueFunc := d.strD "set_value_func",
              getValueFunc := d.strD "get_value_func", interfaces := d.strings "interfaces",
              fields, properties, methods, signals, vfuncs, constants, attributes,
              isAbstract := d.flag "abstract", fundamental := d.flag "fundamental",
              final := d.flag "final", deprecated }
  | "interface" =>
    .interface { name, gtypeName, gtypeInit, ifaceStruct := d.strD "iface_struct",
                 prerequisites := d.strings "prerequisites", properties, methods, signals,
                 vfuncs, constants, attributes, deprecated }
  | "constant" => .constant (readConstant d)
  | _ => .function (readFunction d)

def readNamespace (d : Doc) : NamespaceDef :=
  { name := d.strD "namespace", version := d.strD "version", cPrefix := d.strD "c_prefix",
    libraries := d.strings "shared_libraries",
    dependencies := (d.list "dependencies").filterMap fun dep =>
      match dep.arr? with
      | some [.str ns, .str v] => some (ns ++ "-" ++ v)
      | _ => none,
    entries := (d.list "entries").map readEntry,
    pointerSize := (d.intD "pointer_size" 8).toNat }

/-- Applies a description's patches, truncation and appended bytes to built image bytes. -/
def adjustImage (d : Doc) (bytes : ByteArray) : ByteArray :=
  let patched := (d.list "patches").foldl (fun (b : ByteArray) p =>
    let at_ := (p.intD "at" 0).toNat
    let data := (p.str?.bind fun _ => none).getD ((Text.Hex.toBytes? (p.strD "hex")).getD .empty)
    (data.toList.zipIdx).foldl (fun b (x, i) => Writer.setByte b (at_ + i) x) b) bytes
  let truncated := match d.intAt? "truncate" with
    | some n => if n.toNat < patched.size then patched.extract 0 n.toNat else patched
    | none => patched
  match (d.get? "append_hex").bind Doc.str? with
  | some h => truncated ++ (Text.Hex.toBytes? h).getD .empty
  | none => truncated

end Introspection.Script
