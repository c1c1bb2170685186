import Introspection.Host.Heap

/-!
# A small object runtime

Host libraries may carry a simulated object runtime: a fixed set of registered types, each
with a class block and a name string in the library's heap, reference counts and properties
per instance, and a list of connected signal handlers.

This module holds that runtime's state and its pure operations. A type is an *object type*
when it is registered; instances start with one reference; a handler is found by its id and
emitted handlers run those connected before the default handler first, each group in
connection order. The operations that touch memory or call back into native code live with
the session.
-/

namespace Introspection.Host

/-- A registered type: its name, its type id, its class block and the address of its name. -/
structure WorldType where
  name : String
  gtype : Nat
  klass : Nat
  nameAddr : Nat
  deriving Repr, Inhabited

/-- What a property of an instance holds. -/
inductive Stored where
  /-- A string. -/
  | text (s : ByteArray)
  /-- A string property set to no string. -/
  | noText
  /-- An instance of an object type, holding a reference. -/
  | object (p : Nat)
  /-- Any other data word. -/
  | word (w : Nat)
  deriving Inhabited

/-- A connected signal handler. -/
structure SignalHandler where
  id : Nat
  inst : Nat
  /-- The signal name with its detail, as connected. -/
  signal : String
  fn : Nat
  data : Nat
  destroy : Nat
  /-- Whether the handler runs after the default handler. -/
  after : Bool
  /-- How many times the handler is blocked. -/
  blocked : Nat := 0
  deriving Repr, Inhabited

/-- The state of the object runtime. -/
structure World where
  types : List WorldType := []
  /-- Reference counts of live instances. -/
  refs : List (Nat × Nat) := []
  /-- Properties of instances, by property name. -/
  props : List (Nat × List (String × Stored)) := []
  handlers : List SignalHandler := []
  lastId : Nat := 0
  deriving Inhabited

namespace World

/-- The names of the functions the runtime exports, in the order they are registered. -/
def exports : List String :=
  ["g_object_ref", "g_object_unref", "g_value_init", "g_value_unset", "g_object_get_property",
   "g_object_set_property", "g_object_new_with_properties", "g_signal_connect_data",
   "g_signal_handler_disconnect", "g_signal_handler_block", "g_signal_handler_unblock",
   "g_type_name"]

def stringType : Nat := 64

def valueSize : Nat := 24

def isObjectType (w : World) (gt : Nat) : Bool := w.types.any (·.gtype == gt)

def classOf (w : World) (gt : Nat) : Nat := ((w.types.find? (·.gtype == gt)).map (·.klass)).getD 0

def nameOf (w : World) (gt : Nat) : Nat :=
  ((w.types.find? (·.gtype == gt)).map (·.nameAddr)).getD 0

def refcount (w : World) (p : Nat) : Nat := (w.refs.lookup p).getD 0

def adopt (w : World) (p : Nat) : World :=
  { w with refs := (p, 1) :: w.refs.filter (·.1 != p) }

def ref (w : World) (p : Nat) : World :=
  { w with refs := (p, w.refcount p + 1) :: w.refs.filter (·.1 != p) }

def propsOf (w : World) (p : Nat) : List (String × Stored) := (w.props.lookup p).getD []

/-- Drops a reference. `none` when the instance is unknown; otherwise the new state and, when
the last reference went, the object-valued properties to release, in name order. -/
def unref (w : World) (p : Nat) : Option (World × Option (List Nat)) :=
  match w.refs.lookup p with
  | none => none
  | some n =>
    if n ≤ 1 then
      let held := (w.propsOf p).mergeSort (fun a b => decide (a.1 ≤ b.1))
      let objects := held.filterMap fun (_, v) => match v with
        | .object q => if q == 0 then none else some q
        | _ => none
      some ({ w with refs := w.refs.filter (·.1 != p), props := w.props.filter (·.1 != p) },
        some objects)
    else some ({ w with refs := (p, n - 1) :: w.refs.filter (·.1 != p) }, none)

def prop? (w : World) (p : Nat) (name : String) : Option Stored := (w.propsOf p).lookup name

def setProp (w : World) (p : Nat) (name : String) (v : Stored) : World :=
  let kept := (w.propsOf p).filter (·.1 != name)
  { w with props := (p, kept ++ [(name, v)]) :: w.props.filter (·.1 != p) }

def connect (w : World) (inst : Nat) (signal : String) (fn data destroy flags : Nat) :
    World × Nat :=
  let id := w.lastId + 1
  let h : SignalHandler := { id, inst, signal, fn, data, destroy, after := flags % 2 == 1 }
  ({ w with handlers := w.handlers ++ [h], lastId := id }, id)

def disconnect (w : World) (inst id : Nat) : World × Option SignalHandler :=
  match w.handlers.find? (fun h => h.inst == inst && h.id == id) with
  | some h =>
    let i := w.handlers.findIdx (fun h => h.inst == inst && h.id == id)
    ({ w with handlers := w.handlers.eraseIdx i }, some h)
  | none => (w, none)

def adjustBlock (w : World) (id : Nat) (f : Nat → Nat) : World :=
  let i := w.handlers.findIdx (·.id == id)
  { w with handlers := w.handlers.modify i fun h => { h with blocked := f h.blocked } }

def block (w : World) (id : Nat) : World := w.adjustBlock id (· + 1)

def unblock (w : World) (id : Nat) : World := w.adjustBlock id (· - 1)

/-- The handlers an emission runs: unblocked ones of the instance and signal, those before the
default handler first, each group in connection order. -/
def emission (w : World) (inst : Nat) (signal : String) : List SignalHandler :=
  let live := w.handlers.filter fun h => h.inst == inst && h.signal == signal && h.blocked == 0
  live.filter (fun h => !h.after) ++ live.filter (·.after)

theorem refcount_adopt (w : World) (p : Nat) : (w.adopt p).refcount p = 1 := by
  simp [adopt, refcount]

theorem refcount_ref (w : World) (p : Nat) : (w.ref p).refcount p = w.refcount p + 1 := by
  simp [ref, refcount]

end World

end Introspection.Host
