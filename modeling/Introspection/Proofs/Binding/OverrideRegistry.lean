import Introspection.Proofs.Binding.Registration

/-!
# The override registry

The registry caches one table per namespace. The first load of a namespace runs its loader, if
one was provided, on a fresh table of the namespace's module. When the loader returns normally
that table is frozen and cached; when it fails, a fresh empty table is frozen and cached in its
place and this first load reports the failure. Every later load answers the cached table and
changes nothing, so a loader runs at most once.

Over any sequence of provides, loads and registrations, with loaders that only register, every
cached table is frozen and stays cached unchanged: a registration into a frozen table fails with
the session unchanged. A provide fails once its namespace has a table.
-/

namespace Introspection.Binding

open Introspection.Loaded Introspection.Loaded.Session Introspection.Marshal
open Introspection.Invoke.Session (run_bind run_pure run_throw run_get)

/-! ## Loading -/

/-- The session with a fresh table for a namespace of module `m`. -/
def opened (s : Session) (ns : String) (m : Option Nat) : Session :=
  { s with tables := s.tables.push { namespace_ := ns, module := m } }

/-- The session with table `t` frozen and cached as the table of a namespace. -/
def keepTable (s : Session) (ns : String) (t : Nat) : Session :=
  { s with tables := s.tables.modify t fun tb => { tb with frozen := true },
           overrides := { s.overrides with tables := s.overrides.tables ++ [(ns, t)] } }

section Load

variable (hooks : Hooks) (ns : String) (m : Option Nat) (s : Session)

theorem run_loadTable_cached {t : Nat} (h : s.overrides.tables.lookup ns = some t) :
    (loadTable hooks ns m).run s = (.ok (t, none), s) := by
  simp only [loadTable, run_bind, run_get, h]
  rfl

variable {ns s}

theorem run_loadTable_unprovided (h : s.overrides.tables.lookup ns = none)
    (hl : s.overrides.loaders.lookup ns = none) :
    (loadTable hooks ns m).run s =
      (.ok (s.tables.size, none), keepTable (opened s ns m) ns s.tables.size) := by
  simp only [loadTable, run_bind, run_get, h, hl, run_addTable]
  rfl

theorem run_loadTable_loaded {l : Nat} {s₁ : Session} (h : s.overrides.tables.lookup ns = none)
    (hl : s.overrides.loaders.lookup ns = some l)
    (hrun : (hooks.runLoader l s.tables.size).run (opened s ns m) = (.ok (.ok ()), s₁)) :
    (loadTable hooks ns m).run s = (.ok (s.tables.size, none), keepTable s₁ ns s.tables.size) := by
  simp only [loadTable, run_bind, run_get, h, hl, run_addTable]
  rw [show { s with tables := s.tables.push { namespace_ := ns, module := m } } = opened s ns m
    from rfl, hrun]
  rfl

theorem run_loadTable_failed {l : Nat} {e : Failure} {s₁ : Session}
    (h : s.overrides.tables.lookup ns = none) (hl : s.overrides.loaders.lookup ns = some l)
    (hrun : (hooks.runLoader l s.tables.size).run (opened s ns m) = (.ok (.error e), s₁)) :
    (loadTable hooks ns m).run s =
      (.ok (s₁.tables.size, some (loaderFailure ns e)),
        keepTable (opened s₁ ns m) ns s₁.tables.size) := by
  simp only [loadTable, run_bind, run_get, h, hl, run_addTable]
  rw [show { s with tables := s.tables.push { namespace_ := ns, module := m } } = opened s ns m
    from rfl, hrun]
  rfl

theorem loadTable_uncached (hreg : Registering hooks) (h : s.overrides.tables.lookup ns = none) :
    (s.overrides.loaders.lookup ns = none ∧
      (loadTable hooks ns m).run s =
        (.ok (s.tables.size, none), keepTable (opened s ns m) ns s.tables.size)) ∨
    ∃ l s₁ log, s.overrides.loaders.lookup ns = some l ∧
      Registers s.tables.size (opened s ns m) s₁ log ∧
      (((hooks.runLoader l s.tables.size).run (opened s ns m) = (.ok (.ok ()), s₁) ∧
        (loadTable hooks ns m).run s = (.ok (s.tables.size, none), keepTable s₁ ns s.tables.size)) ∨
       ∃ e, (hooks.runLoader l s.tables.size).run (opened s ns m) = (.ok (.error e), s₁) ∧
        (loadTable hooks ns m).run s =
          (.ok (s₁.tables.size, some (loaderFailure ns e)),
            keepTable (opened s₁ ns m) ns s₁.tables.size)) := by
  cases hl : s.overrides.loaders.lookup ns with
  | none => exact .inl ⟨rfl, run_loadTable_unprovided hooks m h hl⟩
  | some l =>
      right
      obtain ⟨res, hres⟩ := (hreg l s.tables.size).returns (opened s ns m) trivial
      obtain ⟨log, hlog⟩ := (hreg l s.tables.size).registers (opened s ns m)
      rcases hrun : (hooks.runLoader l s.tables.size).run (opened s ns m) with ⟨res', s₁⟩
      rw [hrun] at hres hlog
      cases hres
      refine ⟨l, s₁, log, rfl, hlog, ?_⟩
      cases res with
      | ok u => exact .inl ⟨hrun, run_loadTable_loaded hooks m h hl hrun⟩
      | error e => exact .inr ⟨e, hrun, run_loadTable_failed hooks m h hl hrun⟩

end Load

/-! ## Cached tables -/

/-- Every namespace with a table has a frozen one. -/
def Sound (s : Session) : Prop :=
  ∀ ns t, s.overrides.tables.lookup ns = some t →
    t < s.tables.size ∧ (s.tables.getD t default).frozen = true

/-- Every namespace with a table in `s` keeps it in `s'`, unchanged. -/
def Keeps (s s' : Session) : Prop :=
  ∀ ns t, s.overrides.tables.lookup ns = some t →
    s'.overrides.tables.lookup ns = some t ∧ s'.tables.getD t default = s.tables.getD t default

theorem Keeps.refl (s : Session) : Keeps s s := fun _ _ h => ⟨h, rfl⟩

theorem Keeps.trans {s₁ s₂ s₃ : Session} (h₁ : Keeps s₁ s₂) (h₂ : Keeps s₂ s₃) : Keeps s₁ s₃ := by
  intro ns t h
  obtain ⟨h₁l, h₁t⟩ := h₁ ns t h
  obtain ⟨h₂l, h₂t⟩ := h₂ ns t h₁l
  exact ⟨h₂l, h₂t.trans h₁t⟩

theorem sound_empty : Sound {} := fun _ _ h => by cases h

theorem Settled.sound {s s' : Session} (h : Settled s s') (hs : Sound s) :
    Sound s' ∧ Keeps s s' := by
  refine ⟨fun ns t ht => ?_, fun ns t ht => ?_⟩
  · rw [h.overrides] at ht
    obtain ⟨hlt, hfrozen⟩ := hs ns t ht
    exact ⟨h.size ▸ hlt, by rw [h.frozen t hfrozen]; exact hfrozen⟩
  · exact ⟨by rw [h.overrides]; exact ht, h.frozen t (hs ns t ht).2⟩

theorem getD_push_of_lt {α : Type} [Inhabited α] {xs : Array α} {t : Nat} (x : α)
    (h : t < xs.size) : (xs.push x).getD t default = xs.getD t default := by
  simp only [Array.getD_eq_getD_getElem?, Array.getElem?_push, if_neg (Nat.ne_of_lt h)]

theorem opened_sound {s : Session} (hs : Sound s) (ns : String) (m : Option Nat) :
    Sound (opened s ns m) ∧ Keeps s (opened s ns m) := by
  refine ⟨fun ns' t ht => ?_, fun ns' t ht => ⟨ht, getD_push_of_lt _ (hs ns' t ht).1⟩⟩
  obtain ⟨hlt, hfrozen⟩ := hs ns' t ht
  refine ⟨by simp only [opened, Array.size_push]; omega, ?_⟩
  rw [opened, getD_push_of_lt _ hlt]
  exact hfrozen

theorem keepTable_sound {s : Session} {ns : String} {t : Nat} (hs : Sound s)
    (h : s.overrides.tables.lookup ns = none) (ht : t < s.tables.size)
    (hfresh : ∀ ns' t', s.overrides.tables.lookup ns' = some t' → t' ≠ t) :
    Sound (keepTable s ns t) ∧ Keeps s (keepTable s ns t) ∧
      (keepTable s ns t).overrides.tables.lookup ns = some t ∧
      (keepTable s ns t).tables.getD t default =
        { s.tables.getD t default with frozen := true } := by
  have hkept : (keepTable s ns t).tables.getD t default =
      { s.tables.getD t default with frozen := true } := by
    dsimp only [keepTable]
    rw [getD_modify, if_pos rfl, Array.getD_eq_getD_getElem?, Array.getElem?_eq_getElem ht,
      Option.map_some, Option.getD_some, Option.getD_some]
  have hother : ∀ t', t' ≠ t →
      (keepTable s ns t).tables.getD t' default = s.tables.getD t' default :=
    fun t' hne => by simp only [keepTable, getD_modify, Ne.symm hne, if_false]
  have hlookup : ∀ ns', (keepTable s ns t).overrides.tables.lookup ns' =
      (s.overrides.tables.lookup ns').or ([(ns, t)].lookup ns') := fun ns' => List.lookup_append
  refine ⟨fun ns' t' ht' => ?_, fun ns' t' ht' => ?_, ?_, hkept⟩
  · rw [hlookup] at ht'
    cases hold : s.overrides.tables.lookup ns' with
    | some t'' =>
        rw [hold] at ht'
        cases ht'
        obtain ⟨hlt, hfrozen⟩ := hs ns' t' hold
        refine ⟨by simpa [keepTable] using hlt, ?_⟩
        rw [hother t' (hfresh ns' t' hold)]
        exact hfrozen
    | none =>
        rw [hold, Option.none_or, List.lookup_cons] at ht'
        split at ht'
        · cases ht'
          exact ⟨by simpa [keepTable] using ht, by rw [hkept]⟩
        · cases ht'
  · refine ⟨by rw [hlookup, ht']; rfl, hother t' (hfresh ns' t' ht')⟩
  · rw [hlookup, h]
    simp

theorem keep_fresh {s x : Session} {ns : String} (t : Nat) (hs : Sound s) (hx : Sound x)
    (hkx : Keeps s x) (ho : x.overrides = s.overrides) (h : s.overrides.tables.lookup ns = none)
    (hle : s.tables.size ≤ t) (ht : t < x.tables.size) :
    Sound (keepTable x ns t) ∧ Keeps s (keepTable x ns t) ∧
      (keepTable x ns t).overrides.tables.lookup ns = some t ∧
      (keepTable x ns t).tables.getD t default =
        { x.tables.getD t default with frozen := true } := by
  have hfresh : ∀ ns' t', x.overrides.tables.lookup ns' = some t' → t' ≠ t := by
    intro ns' t' h'
    rw [ho] at h'
    have := (hs ns' t' h').1
    omega
  obtain ⟨hsound, hkeeps, hlookup, htable⟩ := keepTable_sound hx (ho ▸ h) ht hfresh
  exact ⟨hsound, hkx.trans hkeeps, hlookup, htable⟩

theorem entries_keepTable (s : Session) (ns : String) (t t' : Nat) :
    ((keepTable s ns t).tables.getD t' default).entries = (s.tables.getD t' default).entries ∧
      ((keepTable s ns t).tables.getD t' default).module = (s.tables.getD t' default).module := by
  dsimp only [keepTable]
  rw [getD_modify]
  split
  · rw [Array.getD_eq_getD_getElem?]
    cases s.tables[t']? <;> exact ⟨rfl, rfl⟩
  · exact ⟨rfl, rfl⟩

theorem Shows.keepTable {s : Session} {t : Nat} {m : Option Nat}
    {log : List (String × Replacement)} (h : Shows s t m log) (ns : String) (t' : Nat) :
    Shows (keepTable s ns t') t m log := by
  obtain ⟨hentries, hmodule⟩ := entries_keepTable s ns t' t
  refine ⟨by simpa [Binding.keepTable] using h.lt, hmodule.trans h.module, h.valid, fun n => ?_,
    h.based⟩
  have hlookup : ((Binding.keepTable s ns t').tables.getD t default).lookup? n =
      (s.tables.getD t default).lookup? n := by
    simp only [Table.lookup?, hentries]
  rw [hlookup]
  exact h.held n

theorem shows_opened {s : Session} {ns : String} {m : Option Nat}
    (hm : ∀ i ∈ m, i < s.modules.size) : Shows (opened s ns m) s.tables.size m [] := by
  have htab : (opened s ns m).tables.getD s.tables.size default =
      { namespace_ := ns, module := m } := by
    simp [opened, Array.getD_eq_getD_getElem?]
  refine ⟨by simp [opened], by rw [htab], hm, fun n => ?_, fun e he => by cases he⟩
  rw [htab]
  rfl

theorem after_loader {s s₁ : Session} {ns : String} {m : Option Nat}
    {log : List (String × Replacement)} (hs : Sound s)
    (hlog : Registers s.tables.size (opened s ns m) s₁ log) :
    Sound s₁ ∧ Keeps s s₁ ∧ s₁.overrides = s.overrides ∧ s₁.tables.size = s.tables.size + 1 := by
  obtain ⟨hso, hko⟩ := opened_sound hs ns m
  obtain ⟨hs₁, hk₁⟩ := hlog.settled.sound hso
  exact ⟨hs₁, hko.trans hk₁, hlog.settled.overrides, by simp [hlog.settled.size, opened]⟩

/-! ## The first load -/

/-- How the first load of a namespace from `s` went: it answered table `t` with `err`, and left
`s'`. -/
inductive FirstLoad (hooks : Hooks) (s : Session) (ns : String) (m : Option Nat) :
    Nat → Option Failure → Session → Prop
  /-- No loader was provided: the fresh table is cached empty. -/
  | unprovided {s' : Session} : s.overrides.loaders.lookup ns = none →
      (s'.tables.getD s.tables.size default).entries = [] →
      FirstLoad hooks s ns m s.tables.size none s'
  /-- The loader returned normally after the run `log` of registrations: the table it ran on is
  cached, showing them. -/
  | loaded {l : Nat} {s₁ s' : Session} (log : List (String × Replacement)) :
      s.overrides.loaders.lookup ns = some l →
      (hooks.runLoader l s.tables.size).run (opened s ns m) = (.ok (.ok ()), s₁) →
      Registers s.tables.size (opened s ns m) s₁ log → Shows s' s.tables.size m log →
      FirstLoad hooks s ns m s.tables.size none s'
  /-- The loader failed: a fresh empty table is cached in place of the one it ran on, and the
  failure is reported. -/
  | failed {l : Nat} {e : Failure} {s₁ s' : Session} :
      s.overrides.loaders.lookup ns = some l →
      (hooks.runLoader l s.tables.size).run (opened s ns m) = (.ok (.error e), s₁) →
      (s'.tables.getD s₁.tables.size default).entries = [] →
      FirstLoad hooks s ns m s₁.tables.size (some (loaderFailure ns e)) s'

section First

variable {hooks : Hooks} (hreg : Registering hooks) {ns : String} {m : Option Nat} {s : Session}
  (hs : Sound s) (h : s.overrides.tables.lookup ns = none)
include hreg hs h

theorem loadTable_keeps :
    Sound ((loadTable hooks ns m).run s).2 ∧ Keeps s ((loadTable hooks ns m).run s).2 := by
  rcases loadTable_uncached hooks m hreg h with ⟨-, hrun⟩ | ⟨l, s₁, log, -, hlog, hres⟩
  · rw [hrun]
    obtain ⟨hs₁, hk₁, ho, hsize⟩ := after_loader hs (.done (opened s ns m))
    obtain ⟨hsound, hkeeps, -⟩ := keep_fresh s.tables.size hs hs₁ hk₁ ho h (by omega) (by omega)
    exact ⟨hsound, hkeeps⟩
  obtain ⟨hs₁, hk₁, ho, hsize⟩ := after_loader hs hlog
  rcases hres with ⟨-, hrun⟩ | ⟨e, -, hrun⟩
  · rw [hrun]
    obtain ⟨hsound, hkeeps, -⟩ := keep_fresh s.tables.size hs hs₁ hk₁ ho h (by omega) (by omega)
    exact ⟨hsound, hkeeps⟩
  · rw [hrun]
    obtain ⟨hso₁, hko₁⟩ := opened_sound hs₁ ns m
    obtain ⟨hsound, hkeeps, -⟩ := keep_fresh s₁.tables.size hs hso₁ (hk₁.trans hko₁) ho h
      (by omega) (by simp [opened])
    exact ⟨hsound, hkeeps⟩

theorem loadTable_first (hm : ∀ i ∈ m, i < s.modules.size) :
    ∃ t err, ((loadTable hooks ns m).run s).1 = .ok (t, err) ∧
      ((loadTable hooks ns m).run s).2.overrides.tables.lookup ns = some t ∧
      (((loadTable hooks ns m).run s).2.tables.getD t default).frozen = true ∧
      FirstLoad hooks s ns m t err ((loadTable hooks ns m).run s).2 := by
  rcases loadTable_uncached hooks m hreg h with ⟨hl, hrun⟩ | ⟨l, s₁, log, hl, hlog, hres⟩
  ·
    rw [hrun]
    obtain ⟨hs₁, hk₁, ho, hsize⟩ := after_loader hs (.done (opened s ns m))
    obtain ⟨-, -, hlookup, htable⟩ :=
      keep_fresh s.tables.size hs hs₁ hk₁ ho h (by omega) (by omega)
    refine ⟨_, _, rfl, hlookup, by rw [htable], .unprovided hl ?_⟩
    rw [htable]
    simp [opened, Array.getD_eq_getD_getElem?]
  obtain ⟨hs₁, hk₁, ho, hsize⟩ := after_loader hs hlog
  rcases hres with ⟨hok, hrun⟩ | ⟨e, herr, hrun⟩
  ·
    rw [hrun]
    obtain ⟨-, -, hlookup, htable⟩ :=
      keep_fresh s.tables.size hs hs₁ hk₁ ho h (by omega) (by omega)
    have hshows : Shows s₁ s.tables.size m log := by
      simpa using hlog.shows (shows_opened hm)
    exact ⟨_, _, rfl, hlookup, by rw [htable], .loaded log hl hok hlog (hshows.keepTable ns _)⟩
  ·
    rw [hrun]
    obtain ⟨hso₁, hko₁⟩ := opened_sound hs₁ ns m
    obtain ⟨-, -, hlookup, htable⟩ := keep_fresh s₁.tables.size hs hso₁ (hk₁.trans hko₁) ho h
      (by omega) (by simp [opened])
    refine ⟨_, _, rfl, hlookup, by rw [htable], .failed hl herr ?_⟩
    rw [htable]
    simp [opened, Array.getD_eq_getD_getElem?]

end First

/-! ## Provides -/

theorem provide_loaded {ns : String} {t : Nat} (l : Nat) (s : Session)
    (h : s.overrides.tables.lookup ns = some t) : ∃ e, (provide ns l).run s = (.error e, s) := by
  cases hns : ns.isEmpty
  · simp only [provide, hns, h, run_bind, run_get, Bool.false_eq_true, if_false,
      Option.isSome_some, if_true]
    exact ⟨_, rfl⟩
  · simp only [provide, hns, if_true, run_bind]
    exact ⟨_, rfl⟩

theorem provide_tables (ns : String) (l : Nat) (s : Session) :
    ((provide ns l).run s).2.overrides.tables = s.overrides.tables ∧
      ((provide ns l).run s).2.tables = s.tables := by
  cases hns : ns.isEmpty
  · cases hlk : (s.overrides.tables.lookup ns).isSome
    · simp only [provide, hns, hlk, run_bind, run_get, Bool.false_eq_true, if_false]
      exact ⟨rfl, rfl⟩
    · simp only [provide, hns, hlk, run_bind, run_get, Bool.false_eq_true, if_false, if_true]
      exact ⟨rfl, rfl⟩
  · simp only [provide, hns, if_true, run_bind]
    exact ⟨rfl, rfl⟩

theorem provide_keeps {s : Session} (hs : Sound s) (ns : String) (l : Nat) :
    Sound ((provide ns l).run s).2 ∧ Keeps s ((provide ns l).run s).2 := by
  obtain ⟨ho, ht⟩ := provide_tables ns l s
  refine ⟨fun ns' t h' => ?_, fun ns' t h' => ⟨by rw [ho]; exact h', by rw [ht]⟩⟩
  rw [ho] at h'
  rw [ht]
  exact hs ns' t h'

/-! ## Runs of registry calls -/

/-- A call of the override registry. -/
inductive RegistryCall where
  /-- Provides the loader of a namespace. -/
  | provide (ns : String) (loader : Nat)
  /-- Loads the table of a namespace of a module. -/
  | load (ns : String) (m : Option Nat)
  /-- Registers a replacement into a table under a type name. -/
  | register (t : Nat) (typeName : String) (r : Option Replacement)

/-- Makes a call; what it answers is dropped. -/
def RegistryCall.run (hooks : Hooks) : RegistryCall → SessionM Unit
  | .provide ns l => Binding.provide ns l
  | .load ns m => do
    let _ ← loadTable hooks ns m
    pure ()
  | .register t name r => Binding.register t name r

/-- The session after calls made one after another; a failing call leaves the session where it
stopped. -/
def runCalls (hooks : Hooks) (calls : List RegistryCall) (s : Session) : Session :=
  calls.foldl (fun s c => ((c.run hooks).run s).2) s

theorem RegistryCall.keeps {hooks : Hooks} (hreg : Registering hooks) {s : Session} (hs : Sound s)
    (c : RegistryCall) : Sound ((c.run hooks).run s).2 ∧ Keeps s ((c.run hooks).run s).2 := by
  cases c with
  | provide ns l => exact provide_keeps hs ns l
  | load ns m =>
      have hstate : (((RegistryCall.load ns m).run hooks).run s).2 =
          ((loadTable hooks ns m).run s).2 := by
        simp only [RegistryCall.run, run_bind]
        rcases (loadTable hooks ns m).run s with ⟨_ | _, s'⟩ <;> rfl
      rw [hstate]
      cases h : s.overrides.tables.lookup ns with
      | some t =>
          rw [run_loadTable_cached hooks ns m s h]
          exact ⟨hs, Keeps.refl s⟩
      | none => exact loadTable_keeps hreg hs h
  | register t name r => exact (register_settled t name r s).sound hs

theorem runCalls_keeps {hooks : Hooks} (hreg : Registering hooks) (calls : List RegistryCall)
    {s : Session} (hs : Sound s) :
    Sound (runCalls hooks calls s) ∧ Keeps s (runCalls hooks calls s) := by
  induction calls generalizing s with
  | nil => exact ⟨hs, Keeps.refl s⟩
  | cons c cs ih =>
      obtain ⟨hs₁, hk₁⟩ := RegistryCall.keeps hreg hs c
      obtain ⟨hs₂, hk₂⟩ := ih hs₁
      exact ⟨hs₂, hk₁.trans hk₂⟩

/-- The override registry over any run of calls, with loaders that only register. A namespace
with a table keeps it, frozen and unchanged, through any further calls; loading it again answers
that table and changes nothing, and providing its loader fails. The first load of a namespace
caches a frozen table and answers it as `FirstLoad` says. A registration is accepted, with the
generated definition of its name as base, or fails leaving the registry and every table alone;
into a frozen table it fails changing nothing. -/
theorem override_registry_after_any_run (hooks : Hooks) (hreg : Registering hooks)
    (s₀ : Session) (h₀ : Sound s₀) (calls : List RegistryCall) :
    let s := runCalls hooks calls s₀
    (∀ ns t, s.overrides.tables.lookup ns = some t →
      (s.tables.getD t default).frozen = true ∧
      (∀ m, (loadTable hooks ns m).run s = (.ok (t, none), s)) ∧
      (∀ more, (runCalls hooks more s).overrides.tables.lookup ns = some t ∧
        (runCalls hooks more s).tables.getD t default = s.tables.getD t default) ∧
      ∀ l, ∃ e, (provide ns l).run s = (.error e, s)) ∧
    (∀ ns m, s.overrides.tables.lookup ns = none → (∀ i ∈ m, i < s.modules.size) →
      ∃ t err, ((loadTable hooks ns m).run s).1 = .ok (t, err) ∧
        ((loadTable hooks ns m).run s).2.overrides.tables.lookup ns = some t ∧
        (((loadTable hooks ns m).run s).2.tables.getD t default).frozen = true ∧
        FirstLoad hooks s ns m t err ((loadTable hooks ns m).run s).2) ∧
    (∀ t name r, (s.tables.getD t default).frozen = true →
      ∃ e, (register t name r).run s = (.error e, s)) ∧
    ∀ t name r,
      (∃ e, ((register t name r).run s).1 = .error e ∧ Quiet s ((register t name r).run s).2) ∨
        (((register t name r).run s).1 = .ok () ∧
          ∃ r', r = some r' ∧ Accepts t name r' s ((register t name r).run s).2) := by
  intro s
  have hs : Sound s := (runCalls_keeps hreg calls h₀).1
  refine ⟨fun ns t ht => ⟨(hs ns t ht).2, fun m => run_loadTable_cached hooks ns m s ht,
    fun more => (runCalls_keeps hreg more hs).2 ns t ht, fun l => provide_loaded l s ht⟩,
    fun ns m h hm => loadTable_first hreg hs h hm, fun t name r => register_frozen t name s r,
    fun t name r => register_cases t name s r⟩

/-- With the scripted loaders, from a fresh session, a load of a namespace without a loader caches
table 0, and loading it again answers that table and changes nothing. -/
theorem scripted_registry_loads_once :
    Registering Script.hooks ∧ Sound {} ∧
      (runCalls Script.hooks [.load "N" none] {}).overrides.tables.lookup "N" = some 0 ∧
      (loadTable Script.hooks "N" none).run (runCalls Script.hooks [.load "N" none] {}) =
        (.ok (0, none), runCalls Script.hooks [.load "N" none] {}) := by
  have hreg : Registering Script.hooks := registering_hooksUpTo _
  have hlookup : (runCalls Script.hooks [.load "N" none] {}).overrides.tables.lookup "N" = some 0 :=
    rfl
  exact ⟨hreg, sound_empty, hlookup,
    ((override_registry_after_any_run Script.hooks hreg {} sound_empty [.load "N" none]).1
      "N" 0 hlookup).2.1 none⟩

end Introspection.Binding
