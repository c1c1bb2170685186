import Introspection.Script.Values
import Introspection.Value.Printf

/-!
# Scripted failures

A script describes failures by the way the library builds them (a plain text, a native error, a
joined list, a wrapped cause, the field-by-field builder, a literal, or one of the named
constructors) and asks how they read: their text, the structured failure and native error found
along the chain of causes, the failure one level down, and which targets they match.
-/

namespace Introspection.Script

def pathOf (d : Doc) : List String := d.strings "path"

def fieldValue (d : Doc) (key : String) : Value :=
  match decodeHost {} (d.field key) with
  | .ok v => v
  | .error _ => .null

/-- Builds the failure a description stands for; `none` for the absent failure. -/
def buildFailure : Nat → Doc → Option Failure
  | 0, _ => none
  | _ + 1, .null => none
  | fuel + 1, d =>
    let cause := buildFailure fuel (d.field "cause")
    let phase : Phase := ⟨d.strD "phase"⟩
    let kind : Kind := ⟨d.strD "kind"⟩
    let nat (k : String) : Nat := (d.intD k 0).toNat
    let int (k : String) : Int := d.intD k 0
    match d.strD "ctor" with
    | "plain" => some (.plain (d.strD "text"))
    | "native" => some (.native ⟨d.strD "domain", d.strD "message", int "code", nat "quark"⟩)
    | "joined" =>
      match (d.list "errors").filterMap (buildFailure fuel) with
      | [] => none
      | parts => some (.joined parts)
    | "wrapped" =>
      match cause with
      | some c => some (.wrapped (d.strD "text") c)
      | none => some (.plain (d.strD "text" ++ ": %!w(<nil>)"))
    | "builder" =>
      let detail := d.strD "detail"
      let args := (d.list "args").map fun a => (decodeHost {} a).toOption.getD .null
      let detail := if args.isEmpty then detail else Value.printf detail args
      some (.fault phase kind (pathOf d) (d.strD "go_type") (d.strD "gi_type") detail
        (fieldValue d "value") cause)
    | "struct" =>
      some (.fault phase kind (pathOf d) (d.strD "go_type") (d.strD "gi_type") (d.strD "detail")
        (fieldValue d "value") cause)
    | "MalformedTypelib" =>
      let args := (d.list "args").map fun a => (decodeHost {} a).toOption.getD .null
      some (.malformedTypelib (Value.printf (d.strD "format") args))
    | "SymbolNotFound" => some (.symbolNotFound (d.strD "symbol") cause)
    | "TypeMismatch" => some (.typeMismatch phase (pathOf d) (d.strD "have") (d.strD "want"))
    | "Conversion" =>
      some (.conversion phase (pathOf d) (d.strD "go_type") (d.strD "gi_type") (d.strD "detail"))
    | "ArgCount" =>
      some (.argCount (pathOf d) (int "got") (int "want"))
    | "AllocationFailed" =>
      some (.allocationFailed phase (nat "size" % 2 ^ 32) (nat "align" % 2 ^ 32) cause)
    | "Unsupported" => some (.unsupported phase (d.strD "what"))
    | "OutOfBounds" => some (.outOfBounds phase (pathOf d) (int "index") (int "length"))
    | "NilPointer" => some (.nilPointer phase (pathOf d) (d.strD "gi_type"))
    | "Overflow" => some (.overflow phase (pathOf d) (fieldValue d "value") (d.strD "target"))
    | "InvalidEnum" => some (.invalidEnum phase (pathOf d) (fieldValue d "value") (d.strD "enum"))
    | "Wrap" =>
      some (.fault phase kind [] "" "" (d.strD "detail") .null cause)
    | "NotFound" => some (.notFound phase (d.strD "what") (d.strD "name"))
    | "InvalidInput" => some (.invalidInput phase (d.strD "detail"))
    | "ReadOnly" => some (.readOnly phase (d.strD "what"))
    | "Closed" => some (.closed phase (d.strD "what"))
    | "Finalization" => some (.finalization (nat "ptr" % 2 ^ 64) cause)
    | "Load" => some (.loadFailed (d.strD "detail") cause)
    | _ => none

def buildFailureOf (d : Doc) : Option Failure := buildFailure (Doc.depth d) d

/-- The target a script names: a description, or a sentinel matching one kind in any phase. -/
def targetOf (d : Doc) : Option Failure :=
  match d.get? "sentinel" with
  | some (.str s) =>
    let kind : Option Kind := match s with
      | "ErrMalformedTypelib" => some .malformedTypelib
      | "ErrSymbolNotFound" => some .symbolNotFound
      | "ErrTypeMismatch" => some .typeMismatch
      | "ErrConversion" => some .conversion
      | "ErrArgCount" => some .argCount
      | "ErrNotFound" => some .notFound
      | _ => none
    kind.map fun k => .fault ⟨""⟩ k [] "" "" "" .null none
  | _ => buildFailureOf d

namespace FailureChain

def reaches : Failure → Failure → Bool
  | f@(.wrapped _ c), t => f.matchesDirect t || reaches c t
  | f@(.fault _ _ _ _ _ _ _ (some c)), t => f.matchesDirect t || reaches c t
  | .joined ps, t => ps.attach.any fun ⟨p, _⟩ => reaches p t
  | f, t => f.matchesDirect t
termination_by f => sizeOf f
decreasing_by
  all_goals simp_wf
  all_goals first
    | omega
    | (have hm := List.sizeOf_lt_of_mem ‹_›; omega)

def firstFault? : Failure → Option Failure
  | f@(.fault ..) => some f
  | .wrapped _ c => firstFault? c
  | .joined ps => ps.attach.findSome? fun ⟨p, _⟩ => firstFault? p
  | _ => none
termination_by f => sizeOf f
decreasing_by
  all_goals simp_wf
  all_goals first
    | omega
    | (have hm := List.sizeOf_lt_of_mem ‹_›; omega)

def firstNative? : Failure → Option NativeError
  | .native e => some e
  | .wrapped _ c => firstNative? c
  | .fault _ _ _ _ _ _ _ (some c) => firstNative? c
  | .joined ps => ps.attach.findSome? fun ⟨p, _⟩ => firstNative? p
  | _ => none
termination_by f => sizeOf f
decreasing_by
  all_goals simp_wf
  all_goals first
    | omega
    | (have hm := List.sizeOf_lt_of_mem ‹_›; omega)

end FailureChain

def failureCase (c : Doc) : Doc :=
  match buildFailureOf (c.field "error") with
  | none => .obj [("nil", .bool true)]
  | some f =>
    let targets := c.list "is"
    let base : List (String × Doc) := [("text", .str f.text)]
    let asError := match FailureChain.firstFault? f with
      | some (.fault p k path host gi detail value _) =>
        [("as_error", .obj [("phase", .str p.name), ("kind", .str k.name),
          ("path", Doc.ofStrings path), ("go_type", .str host), ("gi_type", .str gi),
          ("detail", .str detail), ("value", encodeValue (fun _ _ => .null) value)])]
      | _ => []
    let asNative := match FailureChain.firstNative? f with
      | some e => [("as_native", .obj [("domain", .str e.domain), ("code", .int e.code),
          ("message", .str e.message), ("quark", .nat e.quark)])]
      | none => []
    let unwrap := match f.unwrap? with
      | some u => [("unwrap", .str u.text)]
      | none => []
    let hasTargets := c.has "is"
    let isList := if hasTargets then
        [("is", .arr (targets.map fun t =>
          .bool ((targetOf t).map (FailureChain.reaches f) |>.getD false)))]
      else []
    let direct := match f with
      | .fault .. | .native _ =>
        if hasTargets then
          [("is_direct", .arr (targets.map fun t =>
            .bool ((targetOf t).map f.matchesDirect |>.getD false)))]
        else []
      | _ => []
    .obj (base ++ asError ++ asNative ++ unwrap ++ isList ++ direct)

def failuresAnswer (req : Doc) : Doc :=
  .obj [("cases", .arr ((req.list "cases").map failureCase))]

end Introspection.Script
