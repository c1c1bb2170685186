import Introspection.Script.Values
import Introspection.Finalize

/-!
# Scripted finalization

A script drives one finalization registry with one subscribed observer. Wrappers are named and
made on first use; a destructor records its call and then fails, panics or succeeds as the
script says. Each step answers with what it returned and the events it caused, in order:
observer events and destructor calls.
-/

namespace Introspection.Script

open Introspection.Finalize

/-- What a scripted destructor does after recording its call. -/
structure Destructor where
  wrapper : String
  fail : Option String := none
  panics : Bool := false

/-- The state of a finalization script. -/
structure RegistryRun where
  registry : Registry Destructor := {}
  /-- The names that have a wrapper, in order of creation. -/
  wrappers : List String := []
  /-- The last successful registration of each name. -/
  regs : List (String × Registration Destructor) := []

def RegistryRun.wrapperOf? (s : RegistryRun) (name : String) : Option Nat :=
  s.wrappers.idxOf? name

def eventDoc (e : Event) : Doc :=
  let base := [("event", .str e.type.name), ("id", .nat e.id), ("ptr", .nat e.ptr)]
  match e.error with
  | some f => .obj (base ++ [("error", encodeFailure f)])
  | none => .obj base

/-- Runs a destructor: its call is recorded, then its failure (if any) is reported. -/
def runDestructor (reg : Registration Destructor) : Doc × Option Failure :=
  let call := Doc.obj [("destroy", .nat reg.ptr), ("wrapper", .str reg.destroy.wrapper)]
  let err : Option Failure :=
    if reg.destroy.panics then
      some (.fault .finalize .finalization [] "" "" "destructor panicked"
        (.ofString "destructor panics") none)
    else reg.destroy.fail.map Failure.plain
  (call, err)

def destructorError (reg : Registration Destructor) : Option Failure := (runDestructor reg).2

/-- Releases a registration now: the destructor runs once, its call recorded before the events
it causes; later releases do nothing. -/
def releaseStep (s : RegistryRun) (reg : Registration Destructor) :
    RegistryRun × List Doc × Option Failure :=
  let (registry, out) := s.registry.step destructorError (.release reg.id)
  let calls := out.ran.toList.map fun r => (runDestructor r).1
  ({ s with registry }, calls ++ out.events.map eventDoc, out.error)

def withEvents (fields : List (String × Doc)) (events : List Doc) : Doc :=
  if events.isEmpty then .obj fields else .obj (fields ++ [("events", .arr events)])

def nilRegistration : Doc :=
  .obj [("error", .str "panic"), ("panic", .bool true),
    ("message", .str "runtime error: invalid memory address or nil pointer dereference")]

def registryStep (s : RegistryRun) (step : Doc) : RegistryRun × Doc :=
  let name := step.strD "w"
  let reg? := s.regs.lookup name
  match step.strD "do" with
  | "track" =>
    let (s, wrapper) := match s.wrapperOf? name with
      | some w => (s, some w)
      | none =>
        if step.flag "nil_wrapper" then (s, none)
        else ({ s with wrappers := s.wrappers ++ [name] }, some s.wrappers.length)
    let destroy : Option Destructor :=
      if step.flag "nil_destroy" then none
      else
        let fail := (step.get? "fail").bind Doc.str?
        some ⟨name, fail, step.flag "panic"⟩
    let ptr := (step.intD "ptr" 0).toNat % 2 ^ 64
    let (registry, out) := s.registry.step destructorError (.track wrapper ptr destroy)
    match out.made with
    | none => (s, Doc.ofOption encodeFailure out.error)
    | some reg =>
      let s := { s with registry, regs := (name, reg) :: s.regs.filter (·.1 != name) }
      (s, withEvents [("id", .nat reg.id), ("ptr", .nat ptr)] (out.events.map eventDoc))
  | "release" =>
    match reg? with
    | none => (s, nilRegistration)
    | some reg =>
      let (s, events, err) := releaseStep s reg
      (s, withEvents [("result", Doc.ofOption encodeFailure err),
        ("done", .bool (s.registry.isDone reg.id))] events)
  | "detach" =>
    match reg? with
    | none => (s, nilRegistration)
    | some reg =>
      let s := { s with registry := (s.registry.step destructorError (.detach reg.id)).1 }
      (s, .obj [("done", .bool (s.registry.isDone reg.id))])
  | "done" =>
    match reg? with
    | none => (s, nilRegistration)
    | some reg => (s, .obj [("done", .bool (s.registry.isDone reg.id))])
  | "len" => (s, .obj [("len", .nat s.registry.size)])
  | "close" =>
    ({ s with registry := (s.registry.step destructorError .close).1 }, .obj [("result", .null)])
  | "unsubscribe" =>
    ({ s with registry := { s.registry with observers := s.registry.observers - 1 } }, .obj [])
  | other => (s, .obj [("error", .str "driver"), ("message", .str ("unknown step " ++ other))])

def registryAnswer (req : Doc) : Doc :=
  let (_, answers) := (req.list "steps").foldl
    (fun (acc : RegistryRun × List Doc) step =>
      let (s, a) := registryStep acc.1 step
      (s, a :: acc.2))
    ({}, [])
  .obj [("steps", .arr answers.reverse)]

end Introspection.Script
