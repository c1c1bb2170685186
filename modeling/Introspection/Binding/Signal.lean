import Introspection.Binding.Property

/-!
# Signals

A handler is connected by the signal's name, in either spelling, optionally followed by
`::detail`. Its native form takes the emitting instance first and the user data last; the
instance is decoded back to the wrapper the handler was connected on while that wrapper is
alive. The handler lives until the library calls the converter's destroy notifier with it,
normally when the handler is disconnected; a refused or failed connection releases it at
once.
-/

namespace Introspection.Binding

open Introspection.Typelib Introspection.Repository Introspection.Info Introspection.Native
  Introspection.Loaded Introspection.Loaded.Session Introspection.Marshal

def connectAfter : Nat := 1

/-- Creates the native handler of a signal for a callback value, connected on a wrapper. -/
def handler (conv : Nat) (signal : Info) (emitter : Nat) (fn : Value) : SessionM Nat := do
  let r := (← get).repo
  match fn with
  | .callback .. | .func .. => pure ()
  | _ =>
    throw (.fault .encode .invalidInput [Info.qualifiedName r signal] "" ""
      "handler needs a function and an instance decoder" .null none)
  let (args, sig) ← frameShape signal
  let r := (← get).repo
  let f : Frame := { conv, callable := signal, args, ret := Info.returnType r signal,
                     sig := ⟨[.ptr] ++ sig.params ++ [.ptr], sig.result⟩,
                     rtrans := Info.returnTransfer r signal, target := .value fn, off := 1,
                     emitter := some emitter }
  let (fid, ptr) ← installFrame conv f
  modifyConverter conv fun c => { c with notified := c.notified ++ [(ptr, fid)] }
  return ptr

/-- Connects a callback to a signal of a wrapped instance and gives the handler id. -/
def connect (hooks : Hooks) (w : Nat) (detailed : String) (fn : Value) (flags : Nat) :
    SessionM Nat := do
  live w ("connect " ++ detailed)
  let (c, ptr, _) ← nativeOf w
  let m := (← klass c).module
  let (base, detail) := match detailed.splitOn "::" with
    | [] => ("", none)
    | [n] => (n, none)
    | n :: rest => (n, some ("::".intercalate rest))
  let name := canonical base
  let some si ← findSignal hooks c name
    | throw (.notFound .lookup "signal" ((← qualifiedName c) ++ "::" ++ name))
  let name := match detail with
    | some d => name ++ "::" ++ d
    | none => name
  let conv ← converterOf m
  let cb ← handler conv si w fn
  let destroy ← match ← attempt (destroyNotify conv) with
    | .ok d => pure d
    | .error e => releaseCallback conv cb; throw e
  let q ← qualifiedName c
  let id ← withScope m fun scope => do
    let cname ← match ← attempt (scopedString m scope name) with
      | .ok a => pure a
      | .error e => releaseCallback conv cb; throw e
    let sig : Signature := ⟨[.ptr, .ptr, .ptr, .ptr, .ptr, .u32], ← gtypeKind m⟩
    match ← attempt (callSymbol hooks m "g_signal_connect_data" sig
        [ptr, cname, cb, cb, destroy, flags]) with
    | .ok id => pure id
    | .error e => releaseCallback conv cb; throw e
  if id == 0 then
    releaseCallback conv cb
    throw (.fault .invoke .invalidInput [q, name] "" "" "g_signal_connect_data refused the handler"
      .null none)
  return id

/-- Calls a handler function of the library on a wrapped instance and a handler id. -/
def handlerCall (hooks : Hooks) (w : Nat) (symbol : String) (id : Nat) : SessionM Unit := do
  live w symbol
  let (c, ptr, _) ← nativeOf w
  let m := (← klass c).module
  discard (callSymbol hooks m symbol ⟨[.ptr, ← gtypeKind m], .void⟩ [ptr, id])

end Introspection.Binding
