import Mathlib
import Introspection.Proofs.Marshal.Lifetimes
import Introspection.Proofs.Host.HeapInvariant

/-!
# The scope of a callback's result

A callback whose result is converted with transfer none keeps the blocks of that result in a
scope of its own, the frame's newest result scope. The next call of the callback releases it
once the new result is in place, and releasing the frame releases it too.

Releasing only frees: a block no longer live in a host heap stays so through every release of
a frame or a scope (`keepsFreed_upTo`), and a scope release that returns frees every block the
scope held (`releaseScope_frees`). For a frame that is not async the trampoline returns with
the session its body left, the newest result scope as the body left it. An async frame is
released as soon as its body returns, before native code sees the result: the release frees the
blocks of the scope the body just filled, so a string or array result points at freed memory
when the trampoline returns (`trampoline_result_scope`, `async_string_result_freed`).
-/

namespace Introspection.Host.Heap

theorem sizeAt?_release_self (h : Heap) {a : Nat} (ha : a ≠ 0) : (h.release a).sizeAt? a = none := by
  unfold release
  rw [if_neg (by simpa using ha)]
  cases hs : h.sizeAt? a with
  | none => exact hs
  | some size =>
      refine sizeAt?_eq_none.2 fun b hb => ?_
      simpa using (List.mem_filter.1 hb).2

theorem sizeAt?_release_of_none (h : Heap) (a : Nat) {b : Nat} (hb : h.sizeAt? b = none) :
    (h.release a).sizeAt? b = none := by
  unfold release
  split
  · exact hb
  · split
    · exact hb
    · exact sizeAt?_eq_none.2 fun c hc => sizeAt?_eq_none.1 hb c (List.mem_filter.1 hc).1

end Introspection.Host.Heap

namespace Introspection.Host.Library

theorem heap_freeCallback (l : Library) (a : Nat) : (l.freeCallback a).heap = l.heap := by
  unfold freeCallback
  split
  · dsimp only
    split_ifs <;> (try split) <;> rfl
  · rfl

end Introspection.Host.Library

namespace Introspection.Marshal

open Introspection.Loaded Introspection.Loaded.Session Introspection.Host
open Introspection.Invoke.Session (run_bind run_pure run_throw run_get)

theorem run_bind_eq_ok {α β : Type} {m : SessionM α} {f : α → SessionM β} {s s' : Session} {b : β}
    (h : (m >>= f).run s = (.ok b, s')) :
    ∃ a s₁, m.run s = (.ok a, s₁) ∧ (f a).run s₁ = (.ok b, s') := by
  rw [run_bind] at h
  rcases hm : m.run s with ⟨res, s₁⟩
  rw [hm] at h
  cases res with
  | error e => cases h
  | ok a => exact ⟨a, s₁, rfl, h⟩

/-! ## Freed blocks stay freed -/

/-- No live block of the heap of host library `lib` starts at `a`. -/
def Freed (s : Session) (lib a : Nat) : Prop := (s.libs.getD lib default).heap.sizeAt? a = none

/-- Every block freed in `s` is still freed in `s'`. -/
def KeepsFreed (s s' : Session) : Prop := ∀ lib a, Freed s lib a → Freed s' lib a

theorem KeepsFreed.refl (s : Session) : KeepsFreed s s := fun _ _ h => h

theorem KeepsFreed.trans {s₁ s₂ s₃ : Session} (h₁ : KeepsFreed s₁ s₂) (h₂ : KeepsFreed s₂ s₃) :
    KeepsFreed s₁ s₃ := fun lib a h => h₂ lib a (h₁ lib a h)

theorem keepsFreed_of_libs {s s' : Session} (g : Library → Library) (lib₀ : Nat)
    (hl : s'.libs = s.libs.modify lib₀ g)
    (hg : ∀ l a, l.heap.sizeAt? a = none → (g l).heap.sizeAt? a = none) : KeepsFreed s s' := by
  intro lib a h
  unfold Freed at h ⊢
  rw [hl, getD_modify]
  split
  · simp only [Array.getD_eq_getD_getElem?] at h
    cases hget : s.libs[lib]? with
    | none =>
        simp only [hget, Option.map_none, Option.getD_none] at h ⊢
        exact h
    | some l =>
        simp only [hget, Option.map_some, Option.getD_some] at h ⊢
        exact hg l a h
  · exact h

theorem keepsFreed_of_libs_eq {s s' : Session} (hl : s'.libs = s.libs) : KeepsFreed s s' := by
  intro lib a h
  unfold Freed at h ⊢
  rw [hl]
  exact h

theorem keepsFreed_free (h a : Nat) : Moves KeepsFreed (free h a) := by
  intro s
  rw [run_free]
  cases (s.handles.getD h default).backing with
  | guest g => exact keepsFreed_of_libs_eq rfl
  | host lib =>
      exact keepsFreed_of_libs (fun l => { l with heap := l.heap.release a }) lib rfl
        fun l b hb => Heap.sizeAt?_release_of_none l.heap a hb

theorem keepsFreed_upTo : ∀ fuel,
    (∀ fid, Moves KeepsFreed (releaseFrameUpTo fuel fid)) ∧
      ∀ sid, Moves KeepsFreed (releaseFrameUpTo.releaseScopeUpTo fuel sid)
  | 0 => ⟨fun _ => Moves.pure KeepsFreed.refl (), fun _ => Moves.pure KeepsFreed.refl ()⟩
  | fuel + 1 => by
      obtain ⟨ihf, ihs⟩ := keepsFreed_upTo fuel
      have htrans : ∀ a b c, KeepsFreed a b → KeepsFreed b c → KeepsFreed a c :=
        fun _ _ _ h₁ h₂ => h₁.trans h₂
      refine ⟨fun fid s => ?_, fun sid => ?_⟩
      ·
        cases hrel : (frameAt s fid).released with
        | true => rw [run_release_released _ _ _ hrel]; exact KeepsFreed.refl s
        | false =>
            cases hlib : hostLibOf s fid with
            | none => rw [run_release_guest _ _ _ hrel hlib]; exact keepsFreed_of_libs_eq rfl
            | some lib =>
                rw [run_release_host _ _ _ _ hrel hlib]
                refine KeepsFreed.trans (@keepsFreed_of_libs s { markReleased s fid with
                    libs := s.libs.modify lib fun l => l.freeCallback (frameAt s fid).ptr }
                  (fun l => l.freeCallback (frameAt s fid).ptr) lib rfl fun l b hb => ?_) ?_
                · rwa [Library.heap_freeCallback]
                · cases (frameAt s fid).last with
                  | none => exact KeepsFreed.refl _
                  | some sid => exact ihs sid _
      ·
        rw [releaseScopeUpTo_succ]
        refine @Moves.bind _ _ KeepsFreed htrans _ _ (Moves.of_run KeepsFreed.refl fun _ => rfl)
          fun sc => ?_
        refine @Moves.bind _ _ KeepsFreed htrans _ _ (fun s => keepsFreed_of_libs_eq rfl)
          fun _ => ?_
        refine @Moves.bind _ _ KeepsFreed htrans _ _
          (Moves.forIn KeepsFreed.refl htrans _ _ _ fun d _ => ?_) fun _ => ?_
        · cases d with
          | releaseFrame fid =>
              exact @Moves.bind _ _ KeepsFreed htrans _ _ (ihf fid) fun _ =>
                Moves.pure KeepsFreed.refl _
        · refine @Moves.bind _ _ KeepsFreed htrans _ _
            (Moves.forIn KeepsFreed.refl htrans _ _ _ fun a _ => ?_) fun _ =>
              Moves.pure KeepsFreed.refl _
          exact @Moves.bind _ _ KeepsFreed htrans _ _ (keepsFreed_free _ a) fun _ =>
            Moves.pure KeepsFreed.refl _

/-! ## A scope release frees the scope's blocks -/

theorem frees_freed (h lib : Nat) (xs : List Nat) :
    ∀ s : Session, (s.handles.getD h default).backing = .host lib →
      ∀ a ∈ xs, a ≠ 0 → Freed ((forIn xs PUnit.unit fun a _ => do
        free h a
        pure (ForInStep.yield PUnit.unit)).run s).2 lib a := by
  have htrans : ∀ a b c, KeepsFreed a b → KeepsFreed b c → KeepsFreed a c :=
    fun _ _ _ h₁ h₂ => h₁.trans h₂
  have hloop : ∀ ys : List Nat, Moves KeepsFreed (forIn ys PUnit.unit fun a _ => do
      free h a
      pure (ForInStep.yield PUnit.unit)) := fun ys =>
    Moves.forIn KeepsFreed.refl htrans _ _ _ fun a _ =>
      @Moves.bind _ _ KeepsFreed htrans _ _ (keepsFreed_free h a) fun _ =>
        Moves.pure KeepsFreed.refl _
  induction xs with
  | nil => intro _ _ a ha; cases ha
  | cons b rest ih =>
      intro s hb a ha ha0
      simp only [List.forIn_cons, run_bind, run_free, hb, run_pure]
      rcases List.mem_cons.1 ha with rfl | hrest
      · refine hloop rest _ lib a ?_
        unfold Freed
        rw [getD_modify, if_pos rfl]
        cases s.libs[lib]? with
        | none => rfl
        | some l => exact Heap.sizeAt?_release_self _ ha0
      · exact ih _ (by exact hb) a hrest ha0

theorem releaseScope_frees (fuel sid : Nat) {s s' : Session}
    (h : (releaseFrameUpTo.releaseScopeUpTo (fuel + 1) sid).run s = (.ok (), s')) :
    ∀ a ∈ (s.scopes.getD sid default).frees, a ≠ 0 → ∀ lib,
      (s.handles.getD (s.scopes.getD sid default).handle default).backing = .host lib →
      Freed s' lib a := by
  intro a ha ha0 lib hb
  rw [releaseScopeUpTo_succ] at h
  obtain ⟨sc, s₀, hsc, h⟩ := run_bind_eq_ok h
  rw [run_scope] at hsc
  cases hsc
  obtain ⟨_, s₁, hclear, h⟩ := run_bind_eq_ok h
  have hs₁ : s₁.handles = s.handles := by
    rw [run_modifyScope] at hclear
    cases hclear
    rfl
  obtain ⟨_, s₂, hdeferred, h⟩ := run_bind_eq_ok h
  obtain ⟨_, s₃, hfrees, h⟩ := run_bind_eq_ok h
  rw [run_pure] at h
  cases h
  have hmoves := (Releasing.forIn (s.scopes.getD sid default).defers.reverse PUnit.unit _
    (releasing_runDeferred fuel (releasing_upTo fuel).1)).moves s₁
  rw [hdeferred] at hmoves
  have hb₂ : (s₂.handles.getD (s.scopes.getD sid default).handle default).backing = .host lib := by
    rw [hmoves.1.handles, hs₁]
    exact hb
  have hfreed := frees_freed _ lib _ s₂ hb₂ a (List.mem_reverse.2 ha) ha0
  rwa [hfrees] at hfreed

/-! ## What the trampoline returns to -/

theorem run_release_guest_fails (fuel fid : Nat) (s : Session)
    (hrel : (frameAt s fid).released = false) (hlib : hostLibOf s fid = none) :
    ∃ e, (releaseFrameUpTo (fuel + 1) fid).run s = (.error e, markReleased s fid) := by
  obtain ⟨g, hb⟩ := hostLibOf_eq_none.1 hlib
  rw [releaseFrameUpTo, run_bind, run_frame]
  simp only [hrel, Bool.false_eq_true, if_false, run_bind, run_modifyFrame, run_converter,
    run_hostOf, hb]
  exact ⟨_, rfl⟩

/-- The session a call of a callback returns to native code with. A frame that is not async
returns with the session its body left, its newest result scope untouched. An async frame that
was not released before is released on the way out, and with it the newest result scope: every
block that scope held in a host heap, the blocks of the result just handed back among them, is
freed by the time native code gets the result. -/
theorem trampoline_result_scope (hooks : Hooks) (fid : Nat) (raw : List Nat) {s s' : Session}
    {out : Nat} (h : (trampoline hooks fid raw).run s = (.ok out, s')) :
    ∃ s₁, (trampolineBody hooks fid raw).run s = (.ok out, s₁) ∧
      ((frameAt s₁ fid).async = false → s' = s₁) ∧
      ((frameAt s₁ fid).async = true → (frameAt s₁ fid).released = false →
        ∀ sid, (frameAt s₁ fid).last = some sid →
        ∀ a ∈ (s₁.scopes.getD sid default).frees, a ≠ 0 → ∀ lib,
          (s₁.handles.getD (s₁.scopes.getD sid default).handle default).backing = .host lib →
          Freed s' lib a) := by
  unfold trampoline endCall at h
  obtain ⟨o, s₁, hbody, h⟩ := run_bind_eq_ok h
  obtain ⟨f, s₂, hend, h⟩ := run_bind_eq_ok h
  rw [run_pure] at h
  cases h
  obtain ⟨_, _, hfr, hend⟩ := run_bind_eq_ok hend
  rw [run_frame] at hfr
  cases hfr
  cases hasync : (frameAt s₁ fid).async with
  | false =>
      rw [hasync, if_neg Bool.false_ne_true, run_pure] at hend
      cases hend
      refine ⟨_, hbody, fun _ => rfl, fun htrue => ?_⟩
      rw [hasync] at htrue
      cases htrue
  | true =>
      rw [hasync, if_pos rfl] at hend
      refine ⟨_, hbody, fun hfalse => ?_, fun _ hrel sid hlast a ha ha0 lib hb => ?_⟩
      · rw [hasync] at hfalse
        cases hfalse
      rw [run_releaseFrame] at hend
      cases hlib : hostLibOf s₁ fid with
      | none =>
          obtain ⟨e, he⟩ := run_release_guest_fails _ fid s₁ hrel hlib
          rw [he] at hend
          cases hend
      | some lib' =>
          rw [run_release_host _ _ _ _ hrel hlib, hlast] at hend
          exact releaseScope_frees _ sid hend a ha ha0 lib hb

/-! ## A string result of an async callback -/

open Introspection.Typelib Introspection.Repository Introspection.Info in
/-- A repository whose one namespace has the type `utf8`, passed by pointer, at offset 0. -/
def stringResultRepo : Repository :=
  { typelibs := #[{ (default : Typelib) with
      image := Image.make ⟨#[0, 0, 0, 105]⟩ 4, namespace_ := "T" }],
    spaces := #[{ name := "T", typelib := 0, path := "" }] }

open Introspection.Info in
/-- The `utf8` type of `stringResultRepo`. -/
def stringResultType : Info := { space := 0, kind := .type, offset := 0 }

/-- Hooks whose callback targets return the string `hello`. -/
def helloHooks : Hooks :=
  { Script.hooks with runTarget := fun _ _ => pure (some (.str ⟨#[104, 101, 108, 108, 111]⟩)) }

/-- An async callback of no arguments returning `utf8` with transfer none. -/
def asyncHelloFrame : Frame :=
  { conv := 0, callable := stringResultType, args := [], ret := stringResultType,
    sig := ⟨[], .ptr⟩, rtrans := .nothing, target := .value .null, async := true }

/-- A session with one host library and the async callback. -/
def asyncHelloSession : Session :=
  { repo := stringResultRepo, libs := #[{ name := "lib", heap := Heap.create 8 0 }],
    handles := #[{ name := "lib", backing := .host 0 }],
    converters := #[{ handle := 0, invoker := 0 }], frames := #[asyncHelloFrame] }

/-- The async callback's trampoline hands native code the address `65536` of the copy of
`hello`: live in the heap when the body returns, freed by the time the trampoline does. -/
theorem async_string_result_freed :
    ∃ s₁ s', (trampolineBody helloHooks 0 []).run asyncHelloSession = (.ok 65536, s₁) ∧
      (trampoline helloHooks 0 []).run asyncHelloSession = (.ok 65536, s') ∧
      (s₁.libs.getD 0 default).heap.sizeAt? 65536 = some 6 ∧ Freed s' 0 65536 := by
  have hout : ((trampoline helloHooks 0 []).run asyncHelloSession).1.toOption = some 65536 := by
    decide +kernel
  have hbody : let s₁ := ((trampolineBody helloHooks 0 []).run asyncHelloSession).2
      (frameAt s₁ 0).async = true ∧ (frameAt s₁ 0).released = false ∧
      (frameAt s₁ 0).last = some 0 ∧ (s₁.scopes.getD 0 default).frees = [65536] ∧
      (s₁.handles.getD (s₁.scopes.getD 0 default).handle default).backing = .host 0 ∧
      (s₁.libs.getD 0 default).heap.sizeAt? 65536 = some 6 := by
    decide +kernel
  rcases hrun : (trampoline helloHooks 0 []).run asyncHelloSession with ⟨r, s'⟩
  rw [hrun] at hout
  cases r with
  | error e => cases hout
  | ok out =>
      cases hout
      obtain ⟨s₁, hb, -, hasync⟩ := trampoline_result_scope helloHooks 0 [] hrun
      rw [hb] at hbody
      obtain ⟨ha, hr, hl, hf, hh, hlive⟩ := hbody
      refine ⟨s₁, s', hb, rfl, hlive, hasync ha hr 0 hl 65536 ?_ (by decide) 0 hh⟩
      rw [hf]
      exact List.mem_singleton_self _

end Introspection.Marshal
