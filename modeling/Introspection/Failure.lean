import Introspection.Value

/-!
# Failures

A failure of the library names the stage of work that failed (its phase) and a classification
independent of the phase (its kind), with an optional path to the entity involved, host and
GObject type names, a detail text, the offending value and the failure that caused it.

Besides these structured failures there are plain texts, texts wrapping a cause, joined lists of
failures and errors reported by a native library.

The text of a structured failure is `[phase] kind`, then ` at a.b.c` for a path, then the type
names after `: ` (`Go type X, GI type Y`, or only the one present), then the detail (after ` - `
when a type name was written, else after `: `), then `: ` and the cause's text.
-/

namespace Introspection

/-- The stage of work a failure happened in. -/
structure Phase where
  name : String
  deriving Repr, DecidableEq, Inhabited

namespace Phase
def load : Phase := ⟨"load"⟩
def parse : Phase := ⟨"parse"⟩
def lookup : Phase := ⟨"lookup"⟩
def encode : Phase := ⟨"encode"⟩
def decode : Phase := ⟨"decode"⟩
def invoke : Phase := ⟨"invoke"⟩
def finalize : Phase := ⟨"finalize"⟩
def override : Phase := ⟨"override"⟩
def runtime : Phase := ⟨"runtime"⟩
end Phase

/-- The classification of a failure. -/
structure Kind where
  name : String
  deriving Repr, DecidableEq, Inhabited

namespace Kind
def malformedTypelib : Kind := ⟨"malformed_typelib"⟩
def symbolNotFound : Kind := ⟨"symbol_not_found"⟩
def typeMismatch : Kind := ⟨"type_mismatch"⟩
def conversion : Kind := ⟨"conversion"⟩
def argCount : Kind := ⟨"arg_count"⟩
def overflow : Kind := ⟨"overflow"⟩
def nilPointer : Kind := ⟨"nil_pointer"⟩
def invalidEnum : Kind := ⟨"invalid_enum"⟩
def unsupported : Kind := ⟨"unsupported"⟩
def notFound : Kind := ⟨"not_found"⟩
def readOnly : Kind := ⟨"read_only"⟩
def refCount : Kind := ⟨"ref_count"⟩
def finalization : Kind := ⟨"finalization"⟩
def allocation : Kind := ⟨"allocation"⟩
def outOfBounds : Kind := ⟨"out_of_bounds"⟩
def invalidInput : Kind := ⟨"invalid_input"⟩
def closed : Kind := ⟨"closed"⟩
end Kind

/-- A failure. -/
inductive Failure where
  /-- A bare text. -/
  | plain (text : String)
  /-- A text followed by the text of its cause. -/
  | wrapped (text : String) (cause : Failure)
  /-- Several failures, one per line. -/
  | joined (parts : List Failure)
  /-- An error reported by the native library. -/
  | native (e : NativeError)
  /-- A structured failure of the library. -/
  | fault (phase : Phase) (kind : Kind) (path : List String) (hostType giType detail : String)
      (value : Value) (cause : Option Failure)
  deriving Inhabited

namespace Failure

def text : Failure → String
  | plain t => t
  | wrapped t c => t ++ ": " ++ c.text
  | joined ps => "\n".intercalate (ps.attach.map fun ⟨p, _⟩ => p.text)
  | native e => e.text
  | fault phase kind path hostType giType detail _ cause =>
    let head := "[" ++ phase.name ++ "] " ++ kind.name
    let at_ := if path.isEmpty then "" else " at " ++ ".".intercalate path
    let typed := !hostType.isEmpty || !giType.isEmpty
    let types :=
      if !typed then ""
      else if !hostType.isEmpty && !giType.isEmpty then ": Go type " ++ hostType ++ ", GI type " ++ giType
      else if !hostType.isEmpty then ": Go type " ++ hostType
      else ": GI type " ++ giType
    let det := if detail.isEmpty then "" else (if typed then " - " else ": ") ++ detail
    let tail := match cause with
      | some c => ": " ++ c.text
      | none => ""
    head ++ at_ ++ types ++ det ++ tail
termination_by f => sizeOf f
decreasing_by
  all_goals simp_wf
  all_goals first
    | omega
    | (have hm := List.sizeOf_lt_of_mem ‹_›; omega)

def unwrap? : Failure → Option Failure
  | wrapped _ c => some c
  | fault _ _ _ _ _ _ _ c => c
  | _ => none

def simple (phase : Phase) (kind : Kind) (detail : String) : Failure :=
  fault phase kind [] "" "" detail .null none

/-- Changes the cause of a structured failure; other failures are returned unchanged. -/
def withCause (f : Failure) (c : Failure) : Failure :=
  match f with
  | fault p k path host gi d v _ => fault p k path host gi d v (some c)
  | other => other

def phase? : Failure → Option Phase
  | fault p .. => some p
  | _ => none

def kind? : Failure → Option Kind
  | fault _ k .. => some k
  | _ => none

def malformedTypelib (detail : String) : Failure := simple .load .malformedTypelib detail

def symbolNotFound (symbol : String) (cause : Option Failure) : Failure :=
  fault .lookup .symbolNotFound [] "" "" ("symbol " ++ Text.Quote.quote symbol ++ " not found")
    (.ofString symbol) cause

def typeMismatch (phase : Phase) (path : List String) (had want : String) : Failure :=
  fault phase .typeMismatch path "" want ("have " ++ had ++ ", want " ++ want) .null none

def conversion (phase : Phase) (path : List String) (hostType giType detail : String) : Failure :=
  fault phase .conversion path hostType giType detail .null none

def argCount (path : List String) (got want : Int) : Failure :=
  fault .invoke .argCount path "" "" s!"got {got} argument(s), want {want}" (.ofInt got) none

def allocationFailed (phase : Phase) (size align : Nat) (cause : Option Failure) : Failure :=
  fault phase .allocation [] "" "" s!"cannot allocate {size} bytes aligned to {align}" .null cause

def unsupported (phase : Phase) (what : String) : Failure := simple phase .unsupported what

def outOfBounds (phase : Phase) (path : List String) (index : Int) (length : Int) : Failure :=
  fault phase .outOfBounds path "" "" s!"index {index} out of bounds (length {length})"
    (.ofInt index) none

def nilPointer (phase : Phase) (path : List String) (giType : String) : Failure :=
  fault phase .nilPointer path "" giType "null not allowed" .null none

def overflow (phase : Phase) (path : List String) (value : Value) (target : String) : Failure :=
  fault phase .overflow path "" target ("value " ++ value.defaultText ++ " overflows " ++ target)
    value none

def invalidEnum (phase : Phase) (path : List String) (value : Value) (enum : String) : Failure :=
  fault phase .invalidEnum path "" enum
    ("invalid enum value " ++ value.defaultText ++ " for " ++ enum) value none

def wrap (phase : Phase) (kind : Kind) (cause : Failure) (detail : String) : Failure :=
  fault phase kind [] "" "" detail .null (some cause)

def notFound (phase : Phase) (what name : String) : Failure :=
  fault phase .notFound [] "" "" (what ++ " " ++ Text.Quote.quote name ++ " not found")
    (.ofString name) none

def invalidInput (phase : Phase) (detail : String) : Failure := simple phase .invalidInput detail

def readOnly (phase : Phase) (what : String) : Failure :=
  simple phase .readOnly (what ++ " is read-only")

def closed (phase : Phase) (what : String) : Failure :=
  simple phase .closed (what ++ " is closed")

def finalization (ptr : Nat) (cause : Option Failure) : Failure :=
  fault .finalize .finalization [] "" "" ("destructor for 0x" ++ Text.Hex.ofNat ptr ++ " failed")
    (.ofU64 ptr) cause

def loadFailed (detail : String) (cause : Option Failure) : Failure :=
  fault .load .invalidInput [] "" "" detail .null cause

/-- Whether `target` matches this failure itself: a structured target without a phase matches
on the kind alone, a native target without a domain matches any native error. -/
def matchesDirect (f target : Failure) : Bool :=
  match f, target with
  | fault p k .., fault tp tk .. => if tp.name.isEmpty then k == tk else p == tp && k == tk
  | native e, native t => t.domain.isEmpty || (e.domain == t.domain && e.code == t.code)
  | _, _ => false

end Failure

end Introspection
