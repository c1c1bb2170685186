import Introspection.Script.Modules

/-!
# Sessions

A session loads namespaces, creates a host library with scripted functions, and runs steps
against one invoker over that library: calls, conversions in both directions, type slots,
error records, scripted actions, late registrations and repository queries. Each step's
answer carries the heap's live blocks, the live callbacks, the notified callbacks not yet
released and the cached plans, and the events the step caused.
-/

namespace Introspection.Script

open Introspection.Typelib Introspection.Repository Introspection.Info Introspection.Native
  Introspection.Host Introspection.Loaded Introspection.Loaded.Session Introspection.Marshal

def sessionHandle : Nat := 0
def sessionInvoker : Nat := 0
def sessionConverter : Nat := 0

/-- A function of a namespace, or a method of one of its types (`Type.method`). -/
def functionNamed (sid : Nat) (name : String) : SessionM Info := do
  match name.splitOn "." with
  | [owner, m] =>
    let o ← repoE (Info.find sid owner)
    match Info.findMethod (← get).repo o m with
    | some fi => return fi
    | none =>
      throw (.notFound .lookup "function" (((← get).repo.space sid).name ++ "." ++ name))
  | _ => repoE (Info.find sid name)

/-- The type a step names: an argument or the return type of a function, or a field type. -/
def typeNamed (sid : Nat) (t : Doc) : SessionM Info := do
  match (t.get? "field").bind Doc.str? with
  | some f =>
    match f.splitOn "." with
    | [owner, name] =>
      let o ← repoE (Info.find sid owner)
      let r := (← get).repo
      match Info.findField r o name with
      | some fi => return Info.fieldType r fi
      | none => throw (.notFound .lookup "field" (r.space sid).name)
    | _ => throw (.notFound .lookup "field" f)
  | none =>
    let fi ← functionNamed sid (t.strD "fn")
    let r := (← get).repo
    match t.intAt? "arg" with
    | some i => return Info.argType (Info.arg r fi i.toNat)
    | none => return Info.returnType r fi

def readScope (d : Doc) : Nat :=
  match d with
  | .str "call" => 1
  | .str "async" => 2
  | .str "notified" => 3
  | .str "forever" => 4
  | other => (other.int?.getD 0).toNat % 256

/-- The bytes of the heap block at an address, if one starts there. -/
def blockBytes (addr : Nat) : SessionM Doc := do
  let lib ← hostOf sessionHandle
  match (← library lib).heap.sizeAt? addr with
  | some n =>
    match ← attempt (read sessionHandle addr n) with
    | .ok b => return .str (Text.Hex.ofBytes b)
    | .error _ => return .null
  | none => return .null

def runStep (st : Setup) (step : Doc) : SessionM Doc := do
  let enc := encodeValue (wrapperView (← get))
  match (step.get? "do").bind Doc.str? with
  | none =>
    let mut notes : List Doc := []
    for a in step.list "actions" do
      notes := notes ++ [(← runAction hooks sessionHandle [] a).getD .null]
    return .obj [("notes", .arr notes)]
  | some "call" =>
    let sid ← stepSpace st step
    let fi ← functionNamed sid (step.strD "fn")
    match ← decodeValues (step.list "args") with
    | .error m => return missingObject m
    | .ok args =>
      let results ← Invoke.call hooks sessionInvoker fi args
      match (step.get? "set").bind Doc.str?, results with
      | some v, .int .uint64 x :: _ => setVar v x.toNat
      | _, _ => pure ()
      let mut out : List (String × Doc) := [("results", .arr (results.map enc))]
      if step.flag "show_allocs" then
        let mut allocs : List Doc := []
        for r in results do
          match r with
          | .int .uint64 x => allocs := allocs ++ [← blockBytes x.toNat]
          | _ => pure ()
        out := out ++ [("allocs", .arr allocs)]
      return .obj out
  | some "to_native" =>
    let sid ← stepSpace st step
    let ti ← typeNamed sid (step.field "type")
    match ← decodeValue (step.field "value") with
    | .error m => return missingObject m
    | .ok v =>
      let scope ← newScope sessionHandle
      let o : Options := { path := step.strings "path", scope := some scope,
                           nullable := step.flag "nullable",
                           transfer := readTransfer (step.field "transfer"),
                           callbackScope := readScope (step.field "scope") }
      let res ← attempt (toNative hooks sessionConverter v ti o)
      match res with
      | .error e =>
        if !step.flag "keep" then releaseScope scope
        throw e
      | .ok raw =>
        let pend ← pending scope
        let bytes ← blockBytes raw
        if !step.flag "keep" then releaseScope scope
        match (step.get? "set").bind Doc.str? with
        | some name => setVar name raw
        | none => pure ()
        return .obj [("raw", .nat raw), ("pending", .nat pend), ("alloc", bytes)]
  | some "from_native" =>
    let sid ← stepSpace st step
    let ti ← typeNamed sid (step.field "type")
    let raw ← evalExpr hooks sessionHandle [] (step.field "raw")
    let transfer := readTransfer (step.field "transfer")
    let v ← match step.intAt? "length" with
      | some n => fromNativeArray hooks sessionConverter raw ti transfer (some n.toNat)
      | none => fromNative hooks sessionConverter raw ti transfer
    return .obj [("value", enc v)]
  | some "slot" =>
    let sid ← stepSpace st step
    let ti ← typeNamed sid (step.field "type")
    repoM (typeDoc ti)
  | some "gerror" =>
    let addr ← evalExpr hooks sessionHandle [] (step.field "addr")
    let e ← readError hooks sessionConverter addr
    return .obj [("value", enc (.nativeError e))]
  | some "release" =>
    Invoke.releasePlans sessionInvoker
    return .obj []
  | some "stats" => return .obj []
  | some "register" =>
    let addr ← registerFunction sessionHandle (step.field "function")
    return .obj [("addr", .nat addr)]
  | some "repo" => repoQuery st step
  | some "module" => moduleQuery st step
  | some other => throw (.plain ("unknown step " ++ other))

def stats : SessionM Doc := do
  let lib ← library (← hostOf sessionHandle)
  return .obj [("live", .nat lib.heap.liveCount), ("callbacks", .nat lib.callbackCount),
    ("notified", .nat (← converter sessionConverter).notified.length),
    ("plans", .nat (← invoker sessionInvoker).plans.length)]

/-- Runs a step and builds its answer with the counters and the events it caused. -/
def stepAnswer (st : Setup) (step : Doc) : SessionM Doc := do
  discard takeTrace
  let res ← attempt (runStep st step)
  let events ← takeTrace
  let body := match res with
    | .ok d => d
    | .error e => encodeFailure e
  let extra := [("stats", ← stats)] ++ (if events.isEmpty then [] else [("events", .arr events)])
  return body.merge extra

/-- Loads the namespaces of a session, giving their answers and the namespaces that loaded. -/
def loadSessionNamespaces (nss : List Doc) : SessionM (List Doc × Setup) := do
  let mut docs : List Doc := []
  let mut st : Setup := {}
  for ns in nss do
    let (d, tid) ← repoM (loadNamespace false .null ns)
    docs := docs ++ [d]
    match tid with
    | some tl =>
      let r := (← get).repo
      match r.lookup (r.typelib tl).namespace_ with
      | some sid =>
        if (r.space sid).typelib == tl then
          st := { st with loaded := st.loaded ++ [(tl, sid)], current := some sid }
      | none => pure ()
    | none => pure ()
  return (docs, st)

/-- Sets up the object runtime a session library asks for and registers its functions,
except those the script omits. -/
def setupWorld (d : Doc) : SessionM Unit := do
  let types := (d.list "types").map fun t =>
    match t.arr? with
    | some [n, g] => (n.str?.getD "", g.nat?.getD 0)
    | _ => ("", 0)
  createWorld sessionHandle types
  let omitted := d.strings "omit"
  let lib ← hostOf sessionHandle
  for name in World.exports do
    if !omitted.contains name then
      let (l, _) := (← library lib).register { name, body := .world name }
      modifyLibrary lib fun _ => l

/-- Closes what a session's binding runtime holds and reports it: the live registrations and
modules before closing, the closing failure, the loaded override tables and the events. -/
def runtimeReport : SessionM Doc := do
  let live := (← get).finalizer.size
  let modules := (← Binding.runtime).moduleNames
  discard takeTrace
  let err ← Binding.closeRuntime
  modify fun s => { s with finalizer := s.finalizer.close }
  let loaded := (← get).overrides.loaded
  let events ← takeTrace
  return .obj ([("live_registrations", .nat live), ("modules", .arr (modules.map Doc.str))] ++
    (match err with
      | some e => [("error", encodeFailure e)]
      | none => []) ++
    [("loaded_overrides", .arr (loaded.map Doc.str))] ++
    (if events.isEmpty then [] else [("events", .arr events)]))

/-- The opener a session names: a guest opener with its configuration and directories, the
system opener with its directories, or the recording opener with the namespaces it refuses. -/
def readOpener (d : Doc) : Opener :=
  match d with
  | .obj _ =>
    if d.has "wasm" then .guest (guestConfig (d.field "wasm")) ((d.strings "dirs").map inWorkDir)
    else if d.has "native" then .system ((d.strings "dirs").map inWorkDir)
    else .recorded (d.strings "fail")
  | _ => .none

def runSession (req : Doc) : SessionM Doc := do
  let (nsDocs, st) ← loadSessionNamespaces (req.list "namespaces")
  let libDoc := req.field "library"
  let lib ← addLibrary (Library.create "lib" ((libDoc.intAt? "pointer_size").getD 8).toNat
    ((libDoc.intAt? "heap_limit").getD 0).toNat)
  discard <| addHandle { name := "lib", backing := .host lib, traced := true }
  discard <| addInvoker sessionHandle none
  if libDoc.has "gobject" then setupWorld (libDoc.field "gobject")
  let fns := libDoc.list "functions"
  let mut reg : List Doc := []
  for f in fns do
    match ← attempt (registerFunction sessionHandle f) with
    | .ok addr => reg := reg ++ [.obj [("addr", .nat addr)]]
    | .error e => reg := reg ++ [encodeFailure e]
  let mut setup : List Doc := []
  for o in req.list "overrides" do
    match ← provideScript o with
    | some e => setup := setup ++ [.obj [("provide_error", encodeFailure e)]]
    | none => pure ()
  let opener := req.field "opener"
  modify fun s => { s with opener := readOpener opener,
                           defaultRepository := opener.flag "default_repository" }
  discard takeTrace
  let mut steps : List Doc := []
  for s in req.list "steps" do
    steps := steps ++ [← stepAnswer st s]
  let close ← if (← get).runtime.isSome then pure [("close", ← runtimeReport)] else pure []
  let out : List (String × Doc) :=
    [("register", if fns.isEmpty then .null else .arr reg), ("steps", .arr steps)]
      ++ (if setup.isEmpty then [] else [("setup", .arr setup)]) ++ close
      ++ (if req.flag "quiet_load" then [] else [("namespaces", .arr nsDocs)])
  return .obj out

def sessionAnswer (req : Doc) : Doc :=
  let search := if req.flag "default_search" then defaultSearchPath
    else searchPath (req.strings "search")
  let start : Session := { repo := { files := fileTree (req.list "files"), search } }
  let out := match ((runSession req).run.run start).1 with
    | .ok d => d
    | .error e => encodeFailure e
  if usesWorkDir req then settleWorkDir out else out

end Introspection.Script
