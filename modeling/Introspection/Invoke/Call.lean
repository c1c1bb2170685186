import Introspection.Marshal.Convert

/-!
# Invoking callables

An invoker lowers host arguments into the native frame a callable's plan describes, calls the
function with typed slots, and lifts the return value and the out arguments back.

Lowering passes the receiver of a method first, derives hidden length arguments from the
arrays that name them, converts each supplied argument, gives every out argument eight bytes
of storage (or its caller-allocated size), passes notified callbacks as their own user data
together with the converter's destroy notifier, and adds an error location for a throwing
callable. Lifting reads back hidden lengths, then the return value and each out argument in
declaration order. Temporaries end with the call; caller-allocated storage passes to the
results, or is freed when the call fails.
-/

namespace Introspection.Invoke

open Introspection.Typelib Introspection.Repository Introspection.Info Introspection.Native
  Introspection.Host Introspection.Loaded Introspection.Loaded.Session Introspection.Marshal

/-- The state of one call. -/
structure CallFrame where
  inv : Nat
  conv : Nat
  handle : Nat
  plan : Plan
  scope : Nat
  vals : Array Nat
  storage : Array Nat
  /-- Caller-allocated storage handed to the results. -/
  owned : List Nat := []
  lengths : List (Nat × Nat) := []
  errSlot : Nat := 0
  /-- Notified callbacks handed to the callee. -/
  notified : List Nat := []

def planFor (inv : Nat) (c : Info) : SessionM Plan := do
  let r := (← get).repo
  let tl := (r.space c.space).typelib
  match (← invoker inv).plans.find? fun e => e.typelib == tl && e.offset == c.offset with
  | some e => return e.plan
  | none =>
    let ps ← ptrSize (← invoker inv).handle
    let p ← repoE (Plan.build c ps)
    modifyInvoker inv fun i => { i with plans := i.plans ++ [⟨tl, c.offset, p⟩] }
    return p

def receiver (hooks : Hooks) (v : Value) : SessionM (Option Nat) := rawPointer? hooks v

def allocSlot (h : Nat) (size : Nat) : SessionM Nat := do
  let size := if size == 0 then 1 else size
  match ← attempt (alloc h size 8) with
  | .ok a => return a
  | .error e => throw (.allocationFailed .encode size 8 (some e))

def transferOf (r : Repository) (s : Slot) : Transfer :=
  if s.dir == .output then .nothing else Info.argTransfer r s.arg

def measure (f : CallFrame) (args : List Value) : SessionM CallFrame := do
  let r := (← get).repo
  let mut lengths := f.lengths
  for s in f.plan.slots do
    let some j := Plan.lengthSlot r f.plan.slots s.typ | continue
    let some host := s.host | continue
    let lenSlot := f.plan.slot j
    if lenSlot.role != .length then continue
    let v := args.getD host .null
    let n ← match v.arrayLength? with
      | some n => pure n
      | none =>
        throw (.fault .encode .conversion [f.plan.name, s.name] v.typeName (← repoM (Info.typeString s.typ))
          s!"length of {s.name} comes from {lenSlot.name} and needs a slice" .null none)
    match lengths.lookup j with
    | some prev =>
      if prev != n then
        throw (.fault .encode .conversion [f.plan.name, s.name] "" ""
          s!"arrays sharing {lenSlot.name} differ in length: {prev} and {n}" .null none)
    | none => pure ()
    lengths := (j, n) :: lengths.filter (·.1 != j)
  return { f with lengths }

def lowerSlot (hooks : Hooks) (f : CallFrame) (i : Nat) (s : Slot) (args : List Value) :
    SessionM (Nat × CallFrame) := do
  let r := (← get).repo
  let mut input := 0
  if s.dir != .output then
    match s.role with
    | .user =>
      input ← toNative hooks f.conv (args.getD (s.host.getD 0) .null) s.typ
        { path := [f.plan.name, s.name], scope := some f.scope,
          nullable := Info.mayBeNull r s.arg || Info.isOptional r s.arg,
          transfer := transferOf r s, callbackScope := Info.scope r s.arg }
    | .length =>
      input ← toNative hooks f.conv (.int .int ((f.lengths.lookup i).getD 0)) s.typ
        { path := [f.plan.name, s.name], scope := some f.scope }
    | _ => pure ()
    if s.dir == .input then return (input, f)
  if Info.isCallerAllocates r s.arg then
    let addr ← allocSlot f.handle s.size
    return (addr, { f with storage := f.storage.set! i addr, owned := f.owned ++ [addr] })
  let addr ← allocSlot f.handle 8
  scopeFree (some f.scope) addr
  let f := { f with storage := f.storage.set! i addr }
  if s.dir == .inout then
    match ← attempt (store f.handle addr s.kind input) with
    | .ok () => pure ()
    | .error e => throw (.wrap .encode .outOfBounds e ("store " ++ s.name))
  return (addr, f)

def abandon (f : CallFrame) : SessionM CallFrame := do
  for a in f.owned do free f.handle a
  return { f with owned := [] }

def forget (f : CallFrame) : SessionM CallFrame := do
  for p in f.notified do releaseCallback f.conv p
  return { f with notified := [] }

/-- Fails after releasing what a frame holds: notified callbacks and caller-allocated
storage. -/
def giveUp {α : Type} (f : CallFrame) (e : Failure) : SessionM α := do
  discard <| forget f
  discard <| abandon f
  throw e

/-- Passes each notified callback as its own user data, with the destroy notifier that
releases it. -/
def notify (f : CallFrame) (raw : Array Nat) : SessionM (CallFrame × Array Nat) := do
  let r := (← get).repo
  let base := if f.plan.method then 1 else 0
  let n := f.plan.slots.length
  let mut raw := raw
  let mut f := f
  for (s, i) in f.plan.slots.zipIdx do
    let v := f.vals.getD i 0
    if s.role != .user || Info.scope r s.arg != 3 || v == 0 then continue
    f := { f with notified := f.notified ++ [v] }
    let j := Info.closure r s.arg
    if j ≥ 0 && j < n && (f.plan.slot j.toNat).role == .closure then
      raw := raw.set! (base + j.toNat) v
    let d := Info.destroy r s.arg
    if d < 0 || d ≥ n || (f.plan.slot d.toNat).role != .destroy then continue
    match ← attempt (destroyNotify f.conv) with
    | .ok addr => raw := raw.set! (base + d.toNat) addr
    | .error e => giveUp f (.wrap .encode .unsupported e ("destroy notify for " ++ s.name))
  return (f, raw)

/-- Builds the raw argument list; a failure releases what the frame already holds. -/
def lower (hooks : Hooks) (f : CallFrame) (args : List Value) : SessionM (CallFrame × List Nat) := do
  let p := f.plan
  let mut raw : Array Nat := #[]
  if p.method then
    let self := args.getD 0 .null
    match ← receiver hooks self with
    | some ptr =>
      if ptr == 0 then giveUp f (selfFailure p self)
      raw := raw.push ptr
    | none => giveUp f (selfFailure p self)
  let mut f ← match ← attempt (measure f args) with
    | .ok f' => pure f'
    | .error e => giveUp f e
  for (s, i) in p.slots.zipIdx do
    match ← attempt (lowerSlot hooks f i s args) with
    | .ok (v, f') =>
      f := { f' with vals := f'.vals.set! i v }
      raw := raw.push v
    | .error e => giveUp f e
  let (f', raw') ← notify f raw
  f := f'
  raw := raw'
  if p.throws then
    match ← attempt (allocSlot f.handle 8) with
    | .ok addr =>
      scopeFree (some f.scope) addr
      f := { f with errSlot := addr }
      raw := raw.push addr
    | .error e => giveUp f e
  return (f, raw.toList)
where
  selfFailure (p : Plan) (self : Value) : Failure :=
    .fault .encode .conversion [p.name, "self"] self.typeName "" "want receiver pointer" .null
      (some (.nilPointer .encode [p.name, "self"] "instance"))

def thrown (hooks : Hooks) (f : CallFrame) : SessionM (Option Failure) := do
  let ptr ← match ← attempt (readPointer f.handle f.errSlot) with
    | .ok p => pure p
    | .error e => throw (.wrap .decode .outOfBounds e "read error slot")
  if ptr == 0 then return none
  let ne ← match ← attempt (readError hooks f.conv ptr) with
    | .ok ne => pure ne
    | .error e => throw (.wrap .decode .conversion e "read GError")
  freeError hooks.call f.inv ptr
  return some (.native ne)

def lengthOf (f : CallFrame) (j : Nat) : SessionM Nat := do
  let s := f.plan.slot j
  let mut a := f.vals.getD j 0
  if s.out then
    match ← attempt (load f.handle (f.storage.getD j 0) s.kind) with
    | .ok v => a := v
    | .error e => throw (.wrap .decode .outOfBounds e ("load " ++ s.name))
  let n : Int := IntType.int64.wrap a
  if n < 0 then
    throw (.fault .decode .conversion [f.plan.name, s.name] "" "" "negative array length"
      (.int .int n) none)
  return n.toNat

def collectLengths (f : CallFrame) : SessionM CallFrame := do
  let mut f := f
  for (s, j) in f.plan.slots.zipIdx do
    if s.role != .length || !s.out then continue
    let n ← lengthOf f j
    f := { f with lengths := (j, n) :: f.lengths.filter (·.1 != j) }
  return f

/-- Decodes a value, taking an array's length from its length argument. -/
def decodeValue (hooks : Hooks) (f : CallFrame) (a : Nat) (ti : Info) (transfer : Transfer) :
    SessionM Value := do
  match Plan.lengthSlot (← get).repo f.plan.slots ti with
  | some j =>
    let n ← match f.lengths.lookup j with
      | some n => pure n
      | none => lengthOf f j
    fromNativeArray hooks f.conv a ti transfer (some n)
  | none => fromNative hooks f.conv a ti transfer

def liftSlot (hooks : Hooks) (f : CallFrame) (i : Nat) (s : Slot) : SessionM Value := do
  let r := (← get).repo
  let addr := f.storage.getD i 0
  if Info.isCallerAllocates r s.arg then
    if Info.tag r s.typ == .array then
      scopeFree (some f.scope) addr
      return ← fromNativeArray hooks f.conv addr s.typ .nothing none
    if (← converter f.conv).codec.isNone then return .int .uint64 addr
    return ← fromNative hooks f.conv addr s.typ .everything
  let a ← match ← attempt (load f.handle addr s.kind) with
    | .ok v => pure v
    | .error e => throw (.wrap .decode .outOfBounds e ("load " ++ s.name))
  decodeValue hooks f a s.typ (Info.argTransfer r s.arg)

/-- Runs a computation; on failure frees the caller-allocated storage first. -/
def orAbandon {α : Type} (f : CallFrame) (m : SessionM α) : SessionM α := do
  match ← attempt m with
  | .ok a => return a
  | .error e => discard <| abandon f; throw e

def lift (hooks : Hooks) (f : CallFrame) (ret : Nat) : SessionM (List Value) := do
  let f ← orAbandon f (collectLengths f)
  let p := f.plan
  let mut results : List Value := []
  if p.sig.result != .void && !p.skipRet then
    results := results ++
      [← orAbandon f (decodeValue hooks f (p.sig.result.normalize ret) p.ret p.retXfer)]
  for (s, i) in p.slots.zipIdx do
    if !s.out || s.role != .user then continue
    results := results ++ [← orAbandon f (liftSlot hooks f i s)]
  return results

def invoke (hooks : Hooks) (inv : Nat) (c : Info) (fn : Nat) (args : List Value) :
    SessionM (List Value) := do
  let p ← planFor inv c
  if args.length != p.want then
    throw (.fault .encode .conversion [p.name] "" ""
      s!"want {p.want} arguments, got {args.length}" .null
      (some (.argCount [p.name] args.length p.want)))
  let i ← invoker inv
  let scope ← newScope i.handle
  let f : CallFrame := { inv, conv := i.conv, handle := i.handle, plan := p, scope,
                         vals := Array.replicate p.slots.length 0,
                         storage := Array.replicate p.slots.length 0 }
  let result ← attempt do
    let (f, raw) ← lower hooks f args
    let ret ← match ← attempt (callVia hooks.call i.handle fn p.sig raw) with
      | .ok r => pure r
      | .error e => giveUp f e
    if p.throws then
      match ← attempt (thrown hooks f) with
      | .ok none => pure ()
      | .ok (some e) => discard <| abandon f; throw e
      | .error e => discard <| abandon f; throw e
    lift hooks f ret
  releaseScope scope
  lift_ result
where
  lift_ (r : Except Failure (List Value)) : SessionM (List Value) := Session.lift r

def functionSymbol (inv : Nat) (fi : Info) : SessionM Nat := do
  let r := (← get).repo
  let sym := Info.symbol r fi
  match (← invoker inv).symbols.lookup sym with
  | some id => return id
  | none =>
    if !(Info.tl r fi).hasSymbol sym then throw (.symbolNotFound sym none)
    match ← attempt (lookupSymbol (← invoker inv).handle sym) with
    | .ok id =>
      modifyInvoker inv fun i => { i with symbols := (sym, id) :: i.symbols }
      return id
    | .error e => throw (.symbolNotFound sym (some e))

def call (hooks : Hooks) (inv : Nat) (fi : Info) (args : List Value) : SessionM (List Value) := do
  let fn ← functionSymbol inv fi
  invoke hooks inv fi fn args

def releasePlans (inv : Nat) : SessionM Unit := modifyInvoker inv fun i => { i with plans := [] }

theorem transferOf_output (r : Repository) (s : Slot) (h : s.dir = .output) :
    transferOf r s = .nothing := by
  simp [transferOf, h]

end Introspection.Invoke
