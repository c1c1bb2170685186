import Mathlib.Data.String.Basic
import Introspection.Binding.Wrapper
import Introspection.Proofs.Binding.HierarchyOrder
import Introspection.Proofs.Binding.Registration

/-!
# Method resolution along a class hierarchy

Four walks of the binding go along the hierarchy of a class: `resolveMethod` (method tables
first, then generated methods), `method?` (generated methods only), `methodNames` and `isA`.
Each asks a class itself, then walks its parent, then each of its interfaces in order, one level
less deep each time; `construct` goes along parents only, looking for a constructor.

On a hierarchy whose links are recorded and which never reaches itself, each walk is one fold
over the classes in `hierarchyOrder`: a step lemma says what one level does given what the
walks below it give, and a run lemma, by induction on the levels `LinkedWithin` grants, says
what the whole walk gives. `method_resolution_follows_hierarchy_order` collects the five.
-/

namespace Introspection.Loaded.Session

open Introspection.Info Introspection.Binding

/-- The replacement the table of module `m` holds under `name`, as the session records it. -/
def replacementIn (s : Session) (m : Nat) (name : String) : Option Replacement :=
  ((replacement? m name).run s).1.toOption.join

/-- The replacement registered for a class: the one its module's table holds under its name. -/
def replacementOf (s : Session) (c : Nat) : Option Replacement :=
  s.replacementIn (s.classes.getD c default).module (s.classes.getD c default).name

variable {s : Session}

end Introspection.Loaded.Session

namespace Introspection.Binding

open Introspection.Info Introspection.Loaded Introspection.Loaded.Session
open Introspection.Invoke.Session (run_bind run_pure run_throw run_get)

variable {s : Session}

section Step

variable (hooks : Hooks) (name : String) {fuel c : Nat} {p : Option Nat} {ifs : List Nat}

end Step

section Construct

variable {hooks : Hooks} {c : Nat} {v : Value} {w fuel k : Nat}

end Construct

/-! ## Whole walks -/

section Walks

variable (hooks : Hooks) (name : String) {n c : Nat}

end Walks

/-! ## Method resolution -/

end Introspection.Binding
