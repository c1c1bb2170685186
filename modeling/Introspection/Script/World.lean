import Introspection.Invoke.Call
import Introspection.Host.World

/-!
# The object runtime of a session library

A session library may carry the small object runtime of `Host.World`. Setting it up gives
each registered type a class block holding its type id and a copy of its name in the heap;
an allocation that fails leaves a zero address. Its functions are host functions of the
library, run on normalized arguments:

* references are counted per instance; dropping the last one frees the instance and then
  drops the references its object properties hold, in name order;
* value cells hold a type id and a data word; strings are copied in and out, instances of
  object types are referenced while a cell or a property holds them;
* handlers are connected per instance and signal; disconnecting one calls its destroy
  notifier with its data, and emitting a signal calls the matching unblocked handlers.
-/

namespace Introspection.Script

open Introspection.Native Introspection.Host Introspection.Loaded Introspection.Loaded.Session
  Introspection.Marshal

def world : SessionM World := do return (← get).world.getD {}

def setWorld (w : World) : SessionM Unit := modify fun s => { s with world := some w }

/-- Sets up the object runtime in a library's heap for a list of named type ids. -/
def createWorld (h : Nat) (types : List (String × Nat)) : SessionM Unit := do
  let ps ← ptrSize h
  let mut out : List WorldType := []
  for (name, gt) in types do
    let klassAddr ← match ← attempt (alloc h ps ps) with
      | .ok a => discard (attempt (writePointer h a gt)); pure a
      | .error _ => pure 0
    let nameAddr := (← attempt (writeCString h name.toUTF8)).toOption.getD 0
    out := out ++ [{ name, gtype := gt, klass := klassAddr, nameAddr }]
  setWorld { types := out }

/-- A new instance of a type id with one reference; zero when the heap refuses. -/
def newInstance (h : Nat) (gt : Nat) : SessionM Nat := do
  let ps ← ptrSize h
  match ← attempt (alloc h (2 * ps) ps) with
  | .error _ => return 0
  | .ok p =>
    discard (attempt (writePointer h p ((← world).classOf gt)))
    discard (attempt (writeLE h (p + ps) 4 7))
    setWorld ((← world).adopt p)
    return p

/-- Drops a reference, freeing the instance and releasing its object properties when it was
the last; `fuel` bounds the chain of releases. -/
def unrefUpTo (h : Nat) : Nat → Nat → SessionM Unit
  | 0, _ => pure ()
  | fuel + 1, p => do
    match (← world).unref p with
    | none => pure ()
    | some (w, none) => setWorld w
    | some (w, some held) =>
      setWorld w
      free h p
      for q in held do
        unrefUpTo h fuel q

def unrefInstance (h : Nat) (p : Nat) : SessionM Unit := do
  unrefUpTo h ((← world).refs.length + 1) p

def setFromCell (h : Nat) (obj : Nat) (name : String) (cell : Nat) : SessionM Unit := do
  let w ← world
  let gt ← readLE h cell 8
  let data ← readLE h (cell + 8) 8
  let old := w.prop? obj name
  let v : Stored ← if gt == World.stringType then
      if data == 0 then pure .noText else pure (.text (← readCString h data))
    else if w.isObjectType gt then pure (.object data)
    else pure (.word data)
  setWorld (w.setProp obj name v)
  match v with
  | .object q => if q != 0 then setWorld ((← world).ref q)
  | _ => pure ()
  match old with
  | some (.object q) => if q != 0 then unrefInstance h q
  | _ => pure ()

def getIntoCell (h : Nat) (obj : Nat) (name : String) (cell : Nat) : SessionM Unit := do
  let w ← world
  let gt ← readLE h cell 8
  let stored := w.prop? obj name
  if gt == World.stringType then
    let addr ← match stored with
      | some (.text s) => writeCString h s
      | _ => pure 0
    writeLE h (cell + 8) 8 addr
  else
    let word := match stored with
      | some (.object q) => q
      | some (.word x) => x
      | _ => 0
    writeLE h (cell + 8) 8 word
    if w.isObjectType gt && word != 0 then setWorld ((← world).ref word)

def runWorld (call : CallFn) (h : Nat) (name : String) (args : List Nat) : SessionM Nat := do
  let arg (i : Nat) : Nat := args.getD i 0
  match name with
  | "g_object_ref" =>
    setWorld ((← world).ref (arg 0))
    return arg 0
  | "g_object_unref" =>
    unrefInstance h (arg 0)
    return 0
  | "g_value_init" =>
    writeLE h (arg 0) 8 (arg 1)
    write h (arg 0 + 8) (ByteArray.mk (Array.replicate 16 0))
    return arg 0
  | "g_value_unset" =>
    let v := arg 0
    let gt ← readLE h v 8
    let p ← readLE h (v + 8) 8
    if p != 0 then
      if gt == World.stringType then free h p
      else if (← world).isObjectType gt then unrefInstance h p
    write h v (ByteArray.mk (Array.replicate World.valueSize 0))
    return 0
  | "g_object_get_property" =>
    let nm := Text.Utf8.lossy (← readCString h (arg 1))
    getIntoCell h (arg 0) nm (arg 2)
    return 0
  | "g_object_set_property" =>
    let nm := Text.Utf8.lossy (← readCString h (arg 1))
    setFromCell h (arg 0) nm (arg 2)
    return 0
  | "g_object_new_with_properties" =>
    let p ← newInstance h (arg 0)
    let ps ← ptrSize h
    for i in List.range (arg 1) do
      let np ← readPointer h (arg 2 + i * ps)
      let nm := Text.Utf8.lossy (← readCString h np)
      setFromCell h p nm (arg 3 + i * World.valueSize)
    return p
  | "g_signal_connect_data" =>
    let nm := Text.Utf8.lossy (← readCString h (arg 1))
    if nm == "refuse" then return 0
    let (w, id) := (← world).connect (arg 0) nm (arg 2) (arg 3) (arg 4) (arg 5)
    setWorld w
    return id
  | "g_signal_handler_disconnect" =>
    let (w, gone) := (← world).disconnect (arg 0) (arg 1)
    setWorld w
    match gone with
    | some hd =>
      if hd.destroy != 0 then discard (callPointer call h hd.destroy ⟨[.ptr], .void⟩ [hd.data])
    | none => pure ()
    return 0
  | "g_signal_handler_block" =>
    setWorld ((← world).block (arg 1))
    return 0
  | "g_signal_handler_unblock" =>
    setWorld ((← world).unblock (arg 1))
    return 0
  | "g_type_name" => return (← world).nameOf (arg 0)
  | _ => return 0

/-- Emits a signal of an instance: calls each handler the emission runs with the instance,
the arguments and its data, and gives the last result, or zero. -/
def emit (call : CallFn) (h : Nat) (inst : Nat) (signal : String) (sig : Signature)
    (args : List Nat) : SessionM Nat := do
  let mut last := 0
  for hd in (← world).emission inst signal do
    last ← callPointer call h hd.fn ⟨[.ptr] ++ sig.params ++ [.ptr], sig.result⟩
      ([inst] ++ args ++ [hd.data])
  return last

/-- The state of the object runtime as an answer: reference counts by address and the
connected handlers. -/
def worldDoc : SessionM Doc := do
  let w ← world
  let refs := w.refs.mergeSort fun a b => decide (a.1 ≤ b.1)
  let refsDoc : Doc := if refs.isEmpty then .null
    else .arr (refs.map fun (p, n) => .arr [.nat p, .nat n])
  let handlersDoc : Doc := if w.handlers.isEmpty then .null
    else .arr (w.handlers.map fun hd => .obj [("id", .nat hd.id), ("signal", .str hd.signal),
      ("after", .bool hd.after), ("blocked", .nat hd.blocked), ("instance", .nat hd.inst)])
  return .obj [("refs", refsDoc), ("handlers", handlersDoc)]

end Introspection.Script
