import Introspection.Info.Base
import Introspection.Finalize
import Introspection.Native.Kind

/-!
# Bindings: the data

A binding runtime turns loaded namespaces into modules. A module is one namespace bound to
the library that implements it; it hands out *definitions* for the names of the namespace:
classes for objects, interfaces, structs and unions, functions, enum and flags types, and
constants. Definitions are made on first use and kept, so the same name gives the same
definition for the life of the module.

Hand-written *replacements* may stand in for generated definitions. They are provided per
namespace by a loader, which registers them into the namespace's override table the first
time a module of that namespace is attached; the table is frozen afterwards. Each
replacement names the generated definition it stands on as its base.

Native instances and struct values handed to the host are *wrappers*. A wrapper that owns a
reference or an allocation is tracked by the finalization registry with the destructor that
gives it back; releasing the wrapper runs the destructor once.

Every table here is indexed by position, so definitions, classes, modules and wrappers refer
to each other by number, and two definitions are the same exactly when their numbers are.
-/

namespace Introspection.Binding

open Introspection.Info Introspection.Native

/-- What a replacement does besides standing in for its type. -/
inductive Role where
  /-- Nothing more. -/
  | plain
  /-- It turns every wrapper made for its type and its descendants into another value. -/
  | constructor
  /-- It supplies methods ahead of the generated ones. -/
  | methods
  /-- It replaces a namespace function. -/
  | callable
  deriving DecidableEq, Repr, Inhabited

/-- A hand-written definition. Its behaviour belongs to whoever provided it; `behaviour`
is that provider's handle of it. -/
structure Replacement where
  typeName : String
  /-- The generated definition it stands on, by number; none for no base. -/
  base : Option Nat
  role : Role
  behaviour : Nat
  /-- The names a method table supplies. -/
  methods : List String := []
  deriving Repr, Inhabited

/-- A definition a module hands out. -/
inductive Definition where
  /-- A class, by number. -/
  | klass (cls : Nat)
  /-- A function of a module; members name their owner class. -/
  | function (module : Nat) (owner : Option Nat) (info : Info)
  | enum (shape : EnumShape)
  | constant (name : String) (value : Value)
  | replacement (r : Replacement)
  deriving Inhabited

/-- A module: one namespace bound to a library, with the definitions made so far, the
library symbols looked up so far (misses included) and the classes of runtime type ids seen
so far (unknown ones included). -/
structure Module where
  /-- The namespace record in the repository. -/
  space : Nat
  name : String
  version : String
  /-- The library handle. -/
  handle : Nat
  /-- The invoker calling the module's functions, with the module's object codec. -/
  invoker : Nat
  /-- The override table, once loaded. -/
  table : Option Nat := none
  entries : List (String × Nat) := []
  symbols : List (String × Option Nat) := []
  dynamic : List (Nat × Option Nat) := []
  deriving Inhabited

/-- A class: the generated definition of an object, interface, struct or union type. Its
parent and interfaces are linked on first need; its type id is asked for once. -/
structure Class where
  module : Nat
  info : Info
  name : String
  kind : InfoKind
  links : Option (Option Nat × List Nat) := none
  gtype : Option (Except Failure Nat) := none
  deriving Inhabited

/-- What a wrapper stands for. -/
inductive Held where
  /-- A native instance or struct value of a class at an address. -/
  | native (cls : Nat) (ptr : Nat) (boxed : Bool)
  /-- What a constructor replacement made of a generated wrapper. -/
  | constructed (tag : String) (inner : Nat)
  deriving Inhabited

/-- A wrapper: what it stands for, its registration with the finalization registry while it
owns something, and whether it was released. -/
structure Wrapper where
  held : Held
  registration : Option Nat := none
  released : Bool := false
  deriving Inhabited

/-- The work that gives back what a wrapper owns. -/
inductive Destroy where
  /-- Calls a library function, through a module, with leading arguments and the pointer. -/
  | call (module : Nat) (fn : Nat) (sig : Signature) (lead : List Nat)
  /-- Frees the pointer with the allocator of a library handle. -/
  | free (handle : Nat)
  deriving Inhabited

/-- The override table of one namespace. -/
structure Table where
  namespace_ : String
  /-- The module whose generated definitions bases are checked against. -/
  module : Option Nat
  /-- Replacements by type name, each a definition number. -/
  entries : List (String × Nat) := []
  frozen : Bool := false
  deriving Inhabited

namespace Table

def names (t : Table) : List String := (t.entries.map (·.1)).mergeSort fun a b => decide (a ≤ b)

def lookup? (t : Table) (name : String) : Option Nat := t.entries.lookup name

/-- Registers a replacement under a type name, replacing an earlier one in place. -/
def put (t : Table) (name : String) (d : Nat) : Table :=
  if t.entries.any (·.1 == name) then
    { t with entries := t.entries.map fun e => if e.1 == name then (name, d) else e }
  else { t with entries := t.entries ++ [(name, d)] }

theorem lookup_map_replace (l : List (String × Nat)) (name : String) (d : Nat)
    (h : l.any (·.1 == name) = true) :
    (l.map fun e => if e.1 == name then (name, d) else e).lookup name = some d := by
  induction l with
  | nil => simp at h
  | cons e es ih =>
    obtain ⟨k, v⟩ := e
    by_cases he : k = name
    · simp [he]
    · have h' : es.any (·.1 == name) = true := by simpa [he] using h
      have hne : (name == k) = false := by simp; exact fun h => he h.symm
      simp only [List.map_cons, beq_iff_eq, he, if_false, List.lookup_cons, hne]
      simpa using ih h'

theorem lookup_append_new (l : List (String × Nat)) (name : String) (d : Nat)
    (h : ¬ (l.any (·.1 == name) = true)) :
    (l ++ [(name, d)]).lookup name = some d := by
  induction l with
  | nil => simp
  | cons e es ih =>
    obtain ⟨k, v⟩ := e
    have he : k ≠ name := by intro x; simp [x] at h
    have h' : ¬ (es.any (·.1 == name) = true) := by simpa [he] using h
    have hne : (name == k) = false := by simp; exact fun h => he h.symm
    simp only [List.cons_append, List.lookup_cons, hne]
    exact ih h'

/-- A registered replacement is what the table gives for its name. -/
theorem lookup_put (t : Table) (name : String) (d : Nat) :
    (t.put name d).lookup? name = some d := by
  unfold put lookup?
  split
  · exact lookup_map_replace _ _ _ ‹_›
  · exact lookup_append_new _ _ _ ‹_›

end Table

/-- Loaders and loaded tables of the override registry, by namespace. -/
structure Overrides where
  /-- The loader provided for each namespace, as its provider's handle. -/
  loaders : List (String × Nat) := []
  /-- The table of each loaded namespace. -/
  tables : List (String × Nat) := []
  deriving Inhabited

namespace Overrides

def loaded (o : Overrides) : List String :=
  (o.tables.map (·.1)).mergeSort fun a b => decide (a ≤ b)

end Overrides

/-- The binding runtime: the attached modules by namespace, the library handles it opened
itself in opening order, and whether it is closed. -/
structure Runtime where
  /-- Whether it looks namespaces up in the process-wide default repository instead of the
  session's. -/
  defaultRepository : Bool := false
  /-- Whether it can open the library of a namespace it reaches. -/
  canOpen : Bool := false
  modules : List (String × Nat) := []
  opened : List Nat := []
  closed : Bool := false
  deriving Inhabited

namespace Runtime

def moduleNames (rt : Runtime) : List String :=
  (rt.modules.map (·.1)).mergeSort fun a b => decide (a ≤ b)

end Runtime

end Introspection.Binding
