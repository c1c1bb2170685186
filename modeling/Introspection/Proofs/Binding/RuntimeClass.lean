import Introspection.Binding.Wrapper
import Introspection.Proofs.Binding.Registration
import Introspection.Proofs.Host.CString

/-!
# The runtime class of a decoded instance

An object pointer coming back from native code is wrapped with its most derived class: the
module reads the runtime type id from the instance's class, asks the library for the id's name,
and looks the name up among the loaded namespaces. It remembers the answer for each id, a miss
included, and asks again only for ids it does not remember.

So the answer for an id is the one its first decode found. When no loaded namespace registers
the id's name at that first decode, the module remembers the id as naming no class
(`dynamicClass_remembers_miss`), and from then on every decode of an instance of that id through
the module keeps the declared class (`dynamicClass_remembered_miss`), whichever class is declared
and whatever namespaces were loaded since. `runtime_class_fixed_by_first_miss` puts the two
together.
-/

namespace Introspection.Binding

open Introspection.Repository Introspection.Loaded Introspection.Loaded.Session
open Introspection.Invoke.Session (run_bind run_pure run_throw run_get)

/-- The session after module `m` remembered runtime type id `gt` as naming `cls`. -/
def rememberType (s : Session) (m gt : Nat) (cls : Option Nat) : Session :=
  { s with modules := s.modules.modify m fun md => { md with dynamic := (gt, cls) :: md.dynamic } }

@[simp] theorem dynamic_rememberType_self {s : Session} {m : Nat} (gt : Nat) (cls : Option Nat)
    (hm : m < s.modules.size) :
    ((rememberType s m gt cls).modules.getD m default).dynamic.lookup gt = some cls := by
  simp only [rememberType, Array.getD_eq_getD_getElem?, Array.getElem?_modify,
    Array.getElem?_eq_getElem hm, if_true, Option.map_some, Option.getD_some]
  simp

/-- The instance at `ptr`, read through module `m`, is of runtime type id `gt`: the module has
looked up `g_type_name` as `fn`, and the instance's class pointer and the id it points at read as
non-zero words, without changing the session. -/
def TypeIdAt (s : Session) (m fn ptr gt : Nat) : Prop :=
  (s.modules.getD m default).symbols.lookup "g_type_name" = some (some fn) ∧
    ∃ kp, (readPointer (s.modules.getD m default).handle ptr).run s = (.ok kp, s) ∧ kp ≠ 0 ∧
      (readPointer (s.modules.getD m default).handle kp).run s = (.ok gt, s) ∧ gt ≠ 0

theorem run_symbol?_cached {s : Session} {m : Nat} {name : String} {r : Option Nat}
    (hname : name.isEmpty = false) (h : (s.modules.getD m default).symbols.lookup name = some r) :
    (symbol? m name).run s = (.ok r, s) := by
  unfold symbol?
  simp only [hname, Bool.false_eq_true, ↓reduceIte, run_bind, run_module, h]
  rfl

theorem run_classByGTypeName_unknown (hooks : Hooks) {s : Session} {name : String} {e : Failure}
    (h : Repository.findByGTypeName s.repo name = .error e) :
    ∃ e', (classByGTypeName hooks name).run s = (.error e', s) := by
  unfold classByGTypeName
  rw [run_bind]
  by_cases hd : (s.runtime.getD {}).defaultRepository = true
  · exact ⟨_, by simp only [runtime, run_bind, run_get, run_pure, hd, ↓reduceIte]; rfl⟩
  · refine ⟨e, ?_⟩
    simp only [runtime, run_bind, run_get, run_pure, hd, Bool.false_eq_true, ↓reduceIte]
    rw [h]
    rfl

section Decode

variable (hooks : Hooks) {s : Session} {m fn ptr gt : Nat}

theorem dynamicClass_remembered_miss (static : Nat) (hid : TypeIdAt s m fn ptr gt)
    (hmiss : (s.modules.getD m default).dynamic.lookup gt = some none) :
    (dynamicClass hooks m static ptr).run s = (.ok none, s) := by
  obtain ⟨hsym, kp, hkp, hkp0, hgt, hgt0⟩ := hid
  rw [dynamicClass, run_bind, run_symbol?_cached rfl hsym]
  simp only [run_bind, run_module, run_attempt, hkp, hgt, Except.toOption, beq_iff_eq, hkp0, hgt0,
    ↓reduceIte, hmiss]
  rfl

theorem dynamicClass_remembers_miss {s₁ : Session} {static addr : Nat} {k : Native.ValueKind}
    {bytes : ByteArray} {sn : String} {e : Failure}
    (hid : TypeIdAt s m fn ptr gt) (hnew : (s.modules.getD m default).dynamic.lookup gt = none)
    (hk : (gtypeKind m).run s = (.ok k, s))
    (hcall : (callVia hooks.call (s.modules.getD m default).handle fn ⟨[k], .ptr⟩ [gt]).run s =
      (.ok addr, s₁)) (haddr : addr ≠ 0)
    (hname : (readCString (s.modules.getD m default).handle addr).run s₁ = (.ok bytes, s₁))
    (hstatic : (gtypeName static).run s₁ = (.ok sn, s₁)) (hne : Text.Utf8.lossy bytes ≠ sn)
    (hunknown : Repository.findByGTypeName s₁.repo (Text.Utf8.lossy bytes) = .error e) :
    (dynamicClass hooks m static ptr).run s = (.ok none, rememberType s₁ m gt none) := by
  obtain ⟨hsym, kp, hkp, hkp0, hgt, hgt0⟩ := hid
  obtain ⟨e', hcls⟩ := run_classByGTypeName_unknown hooks hunknown
  rw [dynamicClass, run_bind, run_symbol?_cached rfl hsym]
  simp only [run_bind, run_module, run_attempt, hkp, hgt, Except.toOption, beq_iff_eq, hkp0, hgt0,
    ↓reduceIte, hnew, hk, hcall, haddr, hname, hstatic, hne, hcls, run_pure, run_modifyModule]
  rfl

/-- A module answers a runtime type id the way its first decode did. A first decode of an
instance whose runtime type name no loaded namespace registers leaves the module remembering the
id as naming no class; in every later state that remembers so, each decode of an instance of the
id keeps the declared class, whichever class is declared and whatever the repository holds by
then, so a namespace registering the name that is loaded afterwards is never consulted. -/
theorem runtime_class_fixed_by_first_miss {s₁ : Session} {static addr : Nat}
    {k : Native.ValueKind} {bytes : ByteArray} {sn : String} {e : Failure}
    (hid : TypeIdAt s m fn ptr gt) (hnew : (s.modules.getD m default).dynamic.lookup gt = none)
    (hk : (gtypeKind m).run s = (.ok k, s))
    (hcall : (callVia hooks.call (s.modules.getD m default).handle fn ⟨[k], .ptr⟩ [gt]).run s =
      (.ok addr, s₁)) (haddr : addr ≠ 0) (hm : m < s₁.modules.size)
    (hname : (readCString (s.modules.getD m default).handle addr).run s₁ = (.ok bytes, s₁))
    (hstatic : (gtypeName static).run s₁ = (.ok sn, s₁)) (hne : Text.Utf8.lossy bytes ≠ sn)
    (hunknown : Repository.findByGTypeName s₁.repo (Text.Utf8.lossy bytes) = .error e) :
    (dynamicClass hooks m static ptr).run s = (.ok none, rememberType s₁ m gt none) ∧
      ((rememberType s₁ m gt none).modules.getD m default).dynamic.lookup gt = some none ∧
      ∀ (s' : Session) (static' : Nat), TypeIdAt s' m fn ptr gt →
        (s'.modules.getD m default).dynamic.lookup gt = some none →
        (dynamicClass hooks m static' ptr).run s' = (.ok none, s') :=
  ⟨dynamicClass_remembers_miss hooks hid hnew hk hcall haddr hname hstatic hne hunknown,
    dynamic_rememberType_self gt none hm,
    fun _ static' hid' hmiss => dynamicClass_remembered_miss hooks static' hid' hmiss⟩

end Decode

/-- The heap of `unloadedTypeSession`: an instance at `0x10000` whose class, at `0x10008`, holds
the runtime type id `101`, and the name `TD` at `0x10010`. -/
def unloadedTypeHeap : Host.Heap :=
  { data := ⟨#[8, 0, 1, 0, 0, 0, 0, 0, 101, 0, 0, 0, 0, 0, 0, 0, 84, 68, 0, 0, 0, 0, 0, 0]⟩ }

/-- A module of namespace `T` that has looked `g_type_name` up and remembers no runtime type. -/
def typeNameModule : Module :=
  { space := 0, name := "T", version := "1.0", handle := 0, invoker := 0,
    symbols := [("g_type_name", some 0)] }

/-- One library with `unloadedTypeHeap`, the module `typeNameModule` over it with an object class
`O`, and a repository with no namespace loaded. -/
def unloadedTypeSession : Session where
  libs := #[{ name := "lib", heap := unloadedTypeHeap }]
  handles := #[{ name := "lib", backing := .host 0 }]
  modules := #[typeNameModule]
  classes := #[{ module := 0, info := default, name := "O", kind := .object }]

/-- Hooks whose library calls answer the address of the name `TD`. -/
def typeNameHooks : Hooks := { Script.hooks with call := fun _ _ _ _ => pure 0x10010 }

theorem unloadedType_name_read :
    (readCString (unloadedTypeSession.modules.getD 0 default).handle 0x10010).run
      unloadedTypeSession = (.ok ⟨#[84, 68]⟩, unloadedTypeSession) := by
  rw [Marshal.run_readCString_host rfl]
  refine congrArg (·, unloadedTypeSession) ((Host.Heap.readCString_eq_ok_iff (by decide)).2
    ⟨?_, fun j hj => ?_, rfl⟩)
  · show 2 < Host.Heap.maxCString
    unfold Host.Heap.maxCString
    omega
  · have hj2 : j < 2 := hj
    interval_cases j <;> exact ⟨rfl, by decide⟩

/-- Decoding the instance at `0x10000` as an `O` while no namespace registers `TD` remembers the
id `101` as naming no class, and every later decode of it keeps its declared class. -/
theorem unregistered_type_miss_kept :
    (dynamicClass typeNameHooks 0 0 0x10000).run unloadedTypeSession =
        (.ok none, rememberType unloadedTypeSession 0 101 none) ∧
      ((rememberType unloadedTypeSession 0 101 none).modules.getD 0 default).dynamic.lookup 101 =
        some none ∧
      ∀ (s' : Session) (static' : Nat), TypeIdAt s' 0 0 0x10000 101 →
        (s'.modules.getD 0 default).dynamic.lookup 101 = some none →
        (dynamicClass typeNameHooks 0 static' 0x10000).run s' = (.ok none, s') :=
  runtime_class_fixed_by_first_miss typeNameHooks
    ⟨rfl, 0x10008, rfl, by decide, rfl, by decide⟩ rfl rfl rfl (by decide) (by decide)
    unloadedType_name_read rfl (by decide +kernel) rfl

end Introspection.Binding
