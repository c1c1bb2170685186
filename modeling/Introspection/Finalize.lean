import Introspection.Failure

/-!
# Finalization registry

A registry pairs a wrapper with the native pointer it owns and the destructor that releases
that pointer. A registration ends exactly once: by an explicit release (the destructor runs), a
detach (it does not), a new registration of the same wrapper (it does not), or the closing of
the registry (it does not). A registration has ended exactly when it is no longer live.

The destructors are data of a type chosen by the user of the registry; running one is the
user's business. Operations report the events observers are told about.
-/

namespace Introspection.Finalize

/-- One tracked wrapper. -/
structure Registration (δ : Type) where
  id : Nat
  ptr : Nat
  wrapper : Nat
  destroy : δ

/-- What observers are told. -/
inductive EventType where
  | tracked
  | finalized
  | released
  | failed
  deriving Repr, DecidableEq, Inhabited

def EventType.name : EventType → String
  | tracked => "tracked"
  | finalized => "finalized"
  | released => "released"
  | failed => "failed"

/-- A lifecycle change of a registration. -/
structure Event where
  type : EventType
  id : Nat
  ptr : Nat
  error : Option Failure := none

/-- A call on a registry. A missing wrapper or destructor is `none`. -/
inductive Op (δ : Type) where
  | track (wrapper : Option Nat) (ptr : Nat) (destroy : Option δ)
  | release (id : Nat)
  | detach (id : Nat)
  | close

/-- What a call did: the registration it made, the registration whose destructor it ran, what
observers were told, and the error it returned. -/
structure Outcome (δ : Type) where
  made : Option (Registration δ) := none
  ran : Option (Registration δ) := none
  events : List Event := []
  error : Option Failure := none

/-- The registry: live registrations in id order, the last id given out, and whether it is
closed. -/
structure Registry (δ : Type) where
  live : List (Registration δ) := []
  last : Nat := 0
  closed : Bool := false
  /-- How many observers are subscribed. -/
  observers : Nat := 1

namespace Registry

variable {δ : Type}

def size (r : Registry δ) : Nat := r.live.length

def isDone (r : Registry δ) (id : Nat) : Bool := !(r.live.any (·.id == id))

def remove (r : Registry δ) (id : Nat) : Registry δ :=
  { r with live := r.live.filter (·.id != id) }

/--
Registers `destroy` for `ptr` on behalf of `wrapper`. A missing wrapper, a null pointer and a
missing destructor are refused in that order, then a closed registry. A registration of the
same wrapper ends without its destructor running.
-/
def track (r : Registry δ) (wrapper : Option Nat) (ptr : Nat) (destroy : Option δ) :
    Except Failure (Registry δ × Registration δ) :=
  match wrapper, destroy with
  | none, _ => .error (.invalidInput .finalize "nil wrapper")
  | some w, d =>
    if ptr == 0 then .error (.nilPointer .finalize [] "tracked pointer")
    else match d with
      | none => .error (.invalidInput .finalize "nil destructor")
      | some d =>
        if r.closed then .error (.closed .finalize "finalization registry")
        else
          let reg : Registration δ := ⟨r.last + 1, ptr, w, d⟩
          let kept := r.live.filter (·.wrapper != w)
          .ok ({ r with live := kept ++ [reg], last := r.last + 1 }, reg)

/-- Ends a live registration, handing back its destructor to run; `none` when it had ended. -/
def take (r : Registry δ) (id : Nat) : Option (Registration δ) × Registry δ :=
  match r.live.find? (·.id == id) with
  | some reg => (some reg, r.remove id)
  | none => (none, r)

/-- Ends every registration without running destructors and refuses new ones. -/
def close (r : Registry δ) : Registry δ := { r with live := [], closed := true }

/-- An event as observers hear it: not at all when none is subscribed. -/
def observed (r : Registry δ) (e : Event) : List Event := if r.observers > 0 then [e] else []

/--
Runs a call. `run` runs a registration's destructor and gives its error, a panic turned into
one. A release of a live registration runs its destructor and returns the finalization error
it causes; a detach ends it silently; releasing or detaching an ended registration does nothing.
-/
def step (run : Registration δ → Option Failure) (r : Registry δ) :
    Op δ → Registry δ × Outcome δ
  | .track w ptr d =>
    match r.track w ptr d with
    | .error f => (r, { error := some f })
    | .ok (r', reg) =>
      (r', { made := some reg, events := r'.observed ⟨.tracked, reg.id, ptr, none⟩ })
  | .release id =>
    match r.take id with
    | (none, r') => (r', {})
    | (some reg, r') =>
      match run reg with
      | some cause =>
        let f := Failure.finalization reg.ptr (some cause)
        let events := r'.observed ⟨.failed, reg.id, reg.ptr, some f⟩
        (r', { ran := some reg, events, error := some f })
      | none =>
        let events := r'.observed ⟨.released, reg.id, reg.ptr, none⟩
        (r', { ran := some reg, events })
  | .detach id => ((r.take id).2, {})
  | .close => (r.close, {})

theorem size_close (r : Registry δ) : r.close.size = 0 := rfl

theorem isDone_take (r : Registry δ) (id : Nat) : (r.take id).2.isDone id = true := by
  unfold take isDone remove
  split
  · simp [List.any_filter]
  · rename_i h
    simp only [Bool.not_eq_true', List.any_eq_false, beq_iff_eq]
    intro x hx hid
    have := List.find?_eq_none.mp h x hx
    simp [hid] at this

end Registry

end Introspection.Finalize
