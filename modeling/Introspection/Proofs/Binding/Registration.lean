import Introspection.Proofs.Marshal.Lifetimes

/-!
# Registering replacements

A registration is accepted only into an open table, under a type name the table's module
generates, and only when the replacement's base is that generated definition. The table then
holds the replacement under the name, in place of an earlier one. A registration into a frozen
table fails with the session unchanged, and every other refused registration leaves the
registry and every table as they were: at most the module made the generated definition it was
asked for.

A loader runs on a fresh table and may do anything that leaves the registry and the tables
alone, and register, into its table or any other. `Registers t s s' log` is such a run, with
`log` the replacements its table accepted in order. The table then holds, under each name, the
replacement accepted last, whose base is the generated definition its module keeps for the name.
The scripted loaders are loaders of this kind, and they always return.
-/

namespace Introspection.Binding

open Introspection.Repository Introspection.Info Introspection.Loaded Introspection.Loaded.Session
  Introspection.Marshal
open Introspection.Invoke.Session (run_bind run_pure run_throw run_get)

namespace Table

theorem lookup_map_replace_ne (l : List (String × Nat)) {name n : String} (d : Nat)
    (h : n ≠ name) :
    (l.map fun e => if e.1 == name then (name, d) else e).lookup n = l.lookup n := by
  induction l with
  | nil => rfl
  | cons e es ih =>
      obtain ⟨k, v⟩ := e
      by_cases hk : k = name
      · subst hk
        simp only [List.map_cons, beq_self_eq_true, if_true, List.lookup_cons, beq_false_of_ne h]
        exact ih
      · simp only [List.map_cons, beq_false_of_ne hk, Bool.false_eq_true, if_false,
          List.lookup_cons]
        rw [ih]

theorem lookup?_put_ne (tb : Table) {name n : String} (d : Nat) (h : n ≠ name) :
    (tb.put name d).lookup? n = tb.lookup? n := by
  unfold put lookup?
  split
  · exact lookup_map_replace_ne tb.entries d h
  · rw [List.lookup_append]
    simp [List.lookup_cons, beq_false_of_ne h]

@[simp] theorem module_put (tb : Table) (name : String) (d : Nat) :
    (tb.put name d).module = tb.module := by
  unfold put
  split <;> rfl

end Table

/-! ## Running the registry's reads and writes -/

section Runs

variable (s : Session)

theorem run_table (t : Nat) : (table t).run s = (.ok (s.tables.getD t default), s) := rfl

theorem run_module (i : Nat) : (module i).run s = (.ok (s.modules.getD i default), s) := rfl

theorem run_definition (d : Nat) : (definition d).run s = (.ok (s.defs.getD d default), s) := rfl

theorem run_addDefinition (d : Definition) :
    (addDefinition d).run s = (.ok s.defs.size, { s with defs := s.defs.push d }) := rfl

theorem run_addTable (tb : Table) :
    (addTable tb).run s = (.ok s.tables.size, { s with tables := s.tables.push tb }) := rfl

theorem run_modifyTable (t : Nat) (g : Table → Table) :
    (modifyTable t g).run s = (.ok (), { s with tables := s.tables.modify t g }) := rfl

theorem run_modifyModule (i : Nat) (g : Module → Module) :
    (modifyModule i g).run s = (.ok (), { s with modules := s.modules.modify i g }) := rfl

theorem run_attempt {α : Type} (m : SessionM α) :
    (attempt m).run s = (.ok (m.run s).1, (m.run s).2) := rfl

theorem run_generated? (i : Nat) (name : String) :
    (generated? i name).run s = (.ok ((entry i name).run s).1.toOption, ((entry i name).run s).2) :=
  rfl

theorem run_typeNameOf (d : Definition) : ∃ n, (typeNameOf d).run s = (.ok n, s) := by
  cases d with
  | klass c => exact ⟨_, rfl⟩
  | function m owner fi => cases owner <;> exact ⟨_, rfl⟩
  | enum e => exact ⟨_, rfl⟩
  | constant n v => exact ⟨_, rfl⟩
  | replacement r => exact ⟨_, rfl⟩

end Runs

/-! ## Quiet steps -/

/-- A step that leaves the registry and every table as they were. Definitions, and the generated
definitions a module keeps, may only be added. -/
structure Quiet (s s' : Session) : Prop where
  overrides : s'.overrides = s.overrides
  tables : s'.tables = s.tables
  defs : s.defs.toList <+: s'.defs.toList
  modules : s'.modules.size = s.modules.size
  entries : ∀ i, (s.modules.getD i default).entries <+: (s'.modules.getD i default).entries

namespace Quiet

theorem refl (s : Session) : Quiet s s :=
  ⟨rfl, rfl, List.prefix_refl _, rfl, fun _ => List.prefix_refl _⟩

theorem trans {s₁ s₂ s₃ : Session} (h₁ : Quiet s₁ s₂) (h₂ : Quiet s₂ s₃) : Quiet s₁ s₃ :=
  ⟨h₂.overrides.trans h₁.overrides, h₂.tables.trans h₁.tables, h₁.defs.trans h₂.defs,
    h₂.modules.trans h₁.modules, fun i => (h₁.entries i).trans (h₂.entries i)⟩

theorem of_eq {s s' : Session} (ho : s'.overrides = s.overrides) (ht : s'.tables = s.tables)
    (hd : s'.defs = s.defs) (hm : s'.modules = s.modules) : Quiet s s' :=
  ⟨ho, ht, hd ▸ List.prefix_refl _, by rw [hm], fun _ => hm ▸ List.prefix_refl _⟩

theorem def_eq {s s' : Session} (h : Quiet s s') {d : Nat} {x : Definition}
    (hx : s.defs[d]? = some x) : s'.defs[d]? = some x := by
  obtain ⟨more, hmore⟩ := h.defs
  have hd : d < s.defs.toList.length := by simpa using (Array.getElem?_eq_some_iff.mp hx).1
  rw [← Array.getElem?_toList, ← hmore, List.getElem?_append_left hd, Array.getElem?_toList, hx]

theorem entry_eq {s s' : Session} (h : Quiet s s') {i : Nat} {name : String} {d : Nat}
    (hd : (s.modules.getD i default).entries.lookup name = some d) :
    (s'.modules.getD i default).entries.lookup name = some d := by
  obtain ⟨more, hmore⟩ := h.entries i
  rw [← hmore, List.lookup_append, hd]
  rfl

theorem pure {α : Type} (a : α) : Moves Quiet (Pure.pure a : SessionM α) := Moves.pure Quiet.refl a

theorem bind {α β : Type} {m : SessionM α} {f : α → SessionM β} (hm : Moves Quiet m)
    (hf : ∀ a, Moves Quiet (f a)) : Moves Quiet (m >>= f) :=
  @Moves.bind _ _ Quiet (fun _ _ _ => Quiet.trans) _ _ hm hf

theorem read {α : Type} {m : SessionM α} (h : ∀ s, (m.run s).2 = s) : Moves Quiet m :=
  Moves.of_run Quiet.refl h

end Quiet

theorem quiet_repoE {α : Type} (m : RepoM (Except Failure α)) : Moves Quiet (repoE m) := by
  intro s
  obtain ⟨repo, invokers, h⟩ := Invoke.Session.Stays.repoE m s
  rw [h]
  exact Quiet.of_eq rfl rfl rfl rfl

theorem build_modules (i : Nat) (bi : Info) (s : Session) :
    ((build i bi).run s).2 = s ∨
      ∃ c, ((build i bi).run s).2 = { s with classes := s.classes.push c } := by
  unfold build
  simp only [run_bind, run_get]
  repeat' split
  all_goals first | exact .inl rfl | exact .inr ⟨_, rfl⟩

theorem quiet_build (i : Nat) (bi : Info) : Moves Quiet (build i bi) := fun s => by
  rcases build_modules i bi s with h | ⟨c, h⟩ <;> rw [h]
  · exact Quiet.refl s
  · exact Quiet.of_eq rfl rfl rfl rfl

theorem quiet_addDefinition (d : Definition) : Moves Quiet (addDefinition d) := fun s => by
  rw [run_addDefinition]
  refine ⟨rfl, rfl, ?_, rfl, fun _ => List.prefix_refl _⟩
  simp only [Array.toList_push]
  exact List.prefix_append _ _

theorem quiet_modifyModule (i : Nat) (more : List (String × Nat)) :
    Moves Quiet (modifyModule i fun md => { md with entries := md.entries ++ more }) := fun s => by
  rw [run_modifyModule]
  refine ⟨rfl, rfl, List.prefix_refl _, Array.size_modify, fun j => ?_⟩
  dsimp only
  rw [getD_modify]
  split
  · rw [Array.getD_eq_getD_getElem?]
    cases s.modules[j]? with
    | none => exact List.prefix_refl _
    | some md => exact List.prefix_append _ _
  · exact List.prefix_refl _

theorem quiet_entry (i : Nat) (name : String) : Moves Quiet (entry i name) := by
  unfold entry
  refine Quiet.bind (Quiet.read fun _ => rfl) fun md => ?_
  split
  · exact Quiet.pure _
  · refine Quiet.bind (quiet_repoE _) fun bi => Quiet.bind (quiet_build i bi) fun x => ?_
    exact Quiet.bind (quiet_addDefinition x) fun d =>
      Quiet.bind (quiet_modifyModule i _) fun _ => Quiet.pure d

theorem quiet_generated? (i : Nat) (name : String) : Moves Quiet (generated? i name) := fun s => by
  rw [run_generated?]
  exact quiet_entry i name s

theorem entry_kept {i : Nat} {name : String} {s s' : Session} {d : Nat} (hi : i < s.modules.size)
    (h : (entry i name).run s = (.ok d, s')) :
    (s'.modules.getD i default).entries.lookup name = some d := by
  unfold entry at h
  rw [run_bind, run_module] at h
  dsimp only at h
  split at h
  next d' hd =>
    simp only [run_pure] at h
    obtain ⟨rfl, rfl⟩ := h
    exact hd
  next hnone =>
    rcases h₁ : (repoE (Info.find (s.modules.getD i default).space name)).run s with ⟨_ | bi, s₁⟩
    · rw [run_bind, h₁] at h
      cases h
    obtain ⟨repo, invokers, hs₁⟩ := Invoke.Session.Stays.repoE (Info.find _ name) s
    rw [h₁] at hs₁
    have hm₁ : s₁.modules = s.modules := by
      simp only at hs₁
      rw [hs₁]
    rw [run_bind, h₁] at h
    dsimp only at h
    rcases h₂ : (build i bi).run s₁ with ⟨_ | x, s₂⟩
    · rw [run_bind, h₂] at h
      cases h
    have hm₂ : s₂.modules = s.modules := by
      rcases build_modules i bi s₁ with h' | ⟨c, h'⟩ <;> simp only [h₂] at h' <;> rw [h'] <;>
        exact hm₁
    simp only [run_bind, h₂, run_addDefinition, run_modifyModule, run_pure] at h
    obtain ⟨rfl, rfl⟩ := h
    have hnone' : (s.modules[i]).entries.lookup name = none := by
      rwa [Array.getD_eq_getD_getElem?, Array.getElem?_eq_getElem hi, Option.getD_some] at hnone
    dsimp only
    rw [getD_modify, if_pos rfl, hm₂, Array.getElem?_eq_getElem hi, Option.map_some,
      Option.getD_some, List.lookup_append, hnone']
    simp

/-! ## Registering -/

/-- What an accepted registration did: the table was open, its module made the generated
definition of the name, which is the replacement's base, and the table holds the replacement
under the name. -/
def Accepts (t : Nat) (name : String) (r : Replacement) (s s' : Session) : Prop :=
  (s.tables.getD t default).frozen = false ∧
    ∃ i gen s₁, (s.tables.getD t default).module = some i ∧ (entry i name).run s = (.ok gen, s₁) ∧
      r.base = some gen ∧
      s' = { s₁ with defs := s₁.defs.push (.replacement r),
                     tables := s₁.tables.modify t fun tb => tb.put name s₁.defs.size }

section Register

variable (t : Nat) (name : String) (s : Session)

theorem register_frozen (r : Option Replacement)
    (hfrozen : (s.tables.getD t default).frozen = true) :
    ∃ e, (register t name r).run s = (.error e, s) := by
  rcases r with _ | r
  · exact ⟨_, rfl⟩
  cases hname : name.isEmpty
  · simp only [register, hname, hfrozen, run_bind, run_table, Bool.false_eq_true, if_false, if_true]
    exact ⟨_, rfl⟩
  · simp only [register, hname, if_true, run_bind]
    exact ⟨_, rfl⟩

variable {t name s} {r : Replacement} {i gen : Nat} {s₁ : Session}

theorem run_register_accepted (hname : name.isEmpty = false)
    (hfrozen : (s.tables.getD t default).frozen = false)
    (hm : (s.tables.getD t default).module = some i) (he : (entry i name).run s = (.ok gen, s₁))
    (hb : r.base = some gen) :
    (register t name (some r)).run s =
      (.ok (), { s₁ with defs := s₁.defs.push (.replacement r),
                         tables := s₁.tables.modify t fun tb => tb.put name s₁.defs.size }) := by
  simp only [register, hname, hfrozen, hm, run_bind, run_table, run_generated?, he, hb,
    Bool.false_eq_true, if_false, Except.toOption, bne_self_eq_false, run_addDefinition,
    run_modifyTable]

theorem run_register_mismatch (hname : name.isEmpty = false)
    (hfrozen : (s.tables.getD t default).frozen = false)
    (hm : (s.tables.getD t default).module = some i) (he : (entry i name).run s = (.ok gen, s₁))
    (hb : r.base ≠ some gen) :
    ∃ e, (register t name (some r)).run s = (.error e, s₁) := by
  have hb' : (r.base != some gen) = true := bne_iff_ne.mpr hb
  simp only [register, hname, hfrozen, hm, run_bind, run_table, run_generated?, he, hb',
    Bool.false_eq_true, if_false, if_true, Except.toOption]
  obtain ⟨n, hn⟩ := run_typeNameOf s₁ (s₁.defs.getD gen default)
  split
  next b _ =>
    obtain ⟨n', hn'⟩ := run_typeNameOf s₁ (s₁.defs.getD b default)
    simp only [run_bind, run_definition, hn, hn']
    exact ⟨_, rfl⟩
  next =>
    simp only [run_bind, run_definition, hn, run_pure]
    exact ⟨_, rfl⟩

variable (t name s)

theorem register_cases (r : Option Replacement) :
    (∃ e, ((register t name r).run s).1 = .error e ∧ Quiet s ((register t name r).run s).2) ∨
      (((register t name r).run s).1 = .ok () ∧
        ∃ r', r = some r' ∧ Accepts t name r' s ((register t name r).run s).2) := by
  rcases r with _ | r
  · exact .inl ⟨_, rfl, Quiet.refl s⟩
  cases hname : name.isEmpty
  case true =>
    simp only [register, hname, if_true, run_bind]
    exact .inl ⟨_, rfl, Quiet.refl s⟩
  cases hfrozen : (s.tables.getD t default).frozen
  case true =>
    obtain ⟨e, he⟩ := register_frozen t name s (some r) hfrozen
    rw [he]
    exact .inl ⟨e, rfl, Quiet.refl s⟩
  rcases hm : (s.tables.getD t default).module with _ | i
  · simp only [register, hname, hfrozen, hm, run_bind, run_table, Bool.false_eq_true, if_false]
    exact .inl ⟨_, rfl, Quiet.refl s⟩
  rcases he : (entry i name).run s with ⟨_ | gen, s₁⟩
  ·
    have hq : Quiet s s₁ := by simpa [he] using quiet_entry i name s
    simp only [register, hname, hfrozen, hm, run_bind, run_table, run_generated?, he,
      Bool.false_eq_true, if_false, Except.toOption]
    exact .inl ⟨_, rfl, hq⟩
  have hq : Quiet s s₁ := by simpa [he] using quiet_entry i name s
  by_cases hb : r.base = some gen
  · rw [run_register_accepted hname hfrozen hm he hb]
    exact .inr ⟨rfl, r, rfl, hfrozen, i, gen, s₁, hm, he, hb, rfl⟩
  · obtain ⟨e, he'⟩ := run_register_mismatch hname hfrozen hm he hb
    rw [he']
    exact .inl ⟨e, rfl, hq⟩

end Register

theorem Accepts.quiet {t : Nat} {name : String} {r : Replacement} {s s' : Session}
    (h : Accepts t name r s s') :
    ∃ i gen s₁, Quiet s s₁ ∧ (s.tables.getD t default).module = some i ∧
      (entry i name).run s = (.ok gen, s₁) ∧ r.base = some gen ∧
      s' = { s₁ with defs := s₁.defs.push (.replacement r),
                     tables := s₁.tables.modify t fun tb => tb.put name s₁.defs.size } := by
  obtain ⟨-, i, gen, s₁, hm, he, hb, rfl⟩ := h
  have hq : Quiet s s₁ := by simpa [he] using quiet_entry i name s
  exact ⟨i, gen, s₁, hq, hm, he, hb, rfl⟩

/-! ## Settled steps -/

/-- A step that keeps the registry, the number of tables and every frozen table. -/
structure Settled (s s' : Session) : Prop where
  overrides : s'.overrides = s.overrides
  size : s'.tables.size = s.tables.size
  frozen : ∀ t, (s.tables.getD t default).frozen = true →
    s'.tables.getD t default = s.tables.getD t default

namespace Settled

theorem refl (s : Session) : Settled s s := ⟨rfl, rfl, fun _ _ => rfl⟩

theorem trans {s₁ s₂ s₃ : Session} (h₁ : Settled s₁ s₂) (h₂ : Settled s₂ s₃) : Settled s₁ s₃ := by
  refine ⟨h₂.overrides.trans h₁.overrides, h₂.size.trans h₁.size, fun t ht => ?_⟩
  have h₁t := h₁.frozen t ht
  rw [← h₁t] at ht
  rw [h₂.frozen t ht, h₁t]

theorem of_quiet {s s' : Session} (h : Quiet s s') : Settled s s' :=
  ⟨h.overrides, by rw [h.tables], fun _ _ => by rw [h.tables]⟩

end Settled

theorem register_settled (t : Nat) (name : String) (r : Option Replacement) (s : Session) :
    Settled s ((register t name r).run s).2 := by
  rcases register_cases t name s r with ⟨_, _, hq⟩ | ⟨_, r', _, hacc⟩
  · exact Settled.of_quiet hq
  obtain ⟨i, gen, s₁, hq, -, -, -, hs'⟩ := hacc.quiet
  rw [hs']
  refine ⟨hq.overrides, by simp [hq.tables], fun t' ht' => ?_⟩
  have hne : t ≠ t' := by
    rintro rfl
    rw [hacc.1] at ht'
    cases ht'
  simp only [getD_modify, hne, if_false, hq.tables]

/-! ## Loader runs -/

/-- A run of a loader on table `t`, from `s` to `s'`: steps that leave the registry and the
tables alone, and registrations into any table. `log` lists the replacements table `t`
accepted, in order. -/
inductive Registers (t : Nat) : Session → Session → List (String × Replacement) → Prop
  /-- The run is over. -/
  | done (s : Session) : Registers t s s []
  /-- A step that leaves the registry and the tables alone. -/
  | quiet {s₁ s₂ s₃ : Session} {log : List (String × Replacement)} :
      Quiet s₁ s₂ → Registers t s₂ s₃ log → Registers t s₁ s₃ log
  /-- A registration the table accepted. -/
  | accepted {s₁ s₃ : Session} {log : List (String × Replacement)} (name : String)
      (r : Replacement) :
      ((register t name (some r)).run s₁).1 = .ok () →
      Registers t ((register t name (some r)).run s₁).2 s₃ log →
      Registers t s₁ s₃ ((name, r) :: log)
  /-- A registration into another table, or one the table refused. -/
  | other {s₁ s₃ : Session} {log : List (String × Replacement)} (t' : Nat) (name : String)
      (r : Option Replacement) :
      (t' = t → ((register t' name r).run s₁).1 ≠ .ok ()) →
      Registers t ((register t' name r).run s₁).2 s₃ log → Registers t s₁ s₃ log

namespace Registers

variable {t : Nat}

theorem trans {s₁ s₂ s₃ : Session} {log₁ log₂ : List (String × Replacement)}
    (h₁ : Registers t s₁ s₂ log₁) (h₂ : Registers t s₂ s₃ log₂) :
    Registers t s₁ s₃ (log₁ ++ log₂) := by
  induction h₁ with
  | done => exact h₂
  | quiet hq _ ih => exact .quiet hq (ih h₂)
  | accepted name r hok _ ih => exact .accepted name r hok (ih h₂)
  | other t' name r hne _ ih => exact .other t' name r hne (ih h₂)

theorem register (t' : Nat) (name : String) (r : Option Replacement) (s : Session)
    (ht : t' = t) : ∃ log, Registers t s ((Binding.register t' name r).run s).2 log := by
  subst ht
  cases hres : ((Binding.register t' name r).run s).1 with
  | ok u =>
      rcases register_cases t' name s r with ⟨e, he, -⟩ | ⟨-, r', rfl, -⟩
      · rw [hres] at he
        cases he
      exact ⟨_, .accepted name r' hres (.done _)⟩
  | error e => exact ⟨_, .other t' name r (fun _ h => by rw [hres] at h; cases h) (.done _)⟩

theorem settled {s s' : Session} {log : List (String × Replacement)} (h : Registers t s s' log) :
    Settled s s' := by
  induction h with
  | done s => exact Settled.refl s
  | quiet hq _ ih => exact (Settled.of_quiet hq).trans ih
  | accepted name r _ _ ih => exact (register_settled t name _ _).trans ih
  | other t' name r _ _ ih => exact (register_settled t' name r _).trans ih

end Registers

/-- The replacement accepted last under a type name. -/
def lastAccepted (log : List (String × Replacement)) (name : String) : Option Replacement :=
  log.reverse.lookup name

theorem lastAccepted_nil (name : String) : lastAccepted [] name = none := rfl

theorem lastAccepted_append_singleton (pre : List (String × Replacement)) (name n : String)
    (r : Replacement) :
    lastAccepted (pre ++ [(name, r)]) n = if n = name then some r else lastAccepted pre n := by
  unfold lastAccepted
  rw [List.reverse_append, List.reverse_singleton, List.singleton_append, List.lookup_cons]
  by_cases h : n = name
  · simp [h]
  · simp [beq_false_of_ne h, h]

theorem held_mono {tb : Table} {defs defs' : Array Definition} {name : String}
    {o : Option Replacement}
    (hdefs : ∀ (d : Nat) (x : Definition), defs[d]? = some x → defs'[d]? = some x)
    (h : (tb.lookup? name).map (defs[·]?) = o.map fun r => some (.replacement r)) :
    (tb.lookup? name).map (defs'[·]?) = o.map fun r => some (.replacement r) := by
  cases hl : tb.lookup? name with
  | none => rw [hl] at h; exact h
  | some d =>
      rw [hl] at h
      cases o with
      | none => cases h
      | some r =>
          simp only [Option.map_some, Option.some.injEq] at h ⊢
          exact hdefs d _ h

theorem getElem?_push_of_eq_some {defs : Array Definition} {y : Definition} (d : Nat)
    (x : Definition) (h : defs[d]? = some x) : (defs.push y)[d]? = some x := by
  have hlt : d < defs.size := (Array.getElem?_eq_some_iff.mp h).1
  rw [Array.getElem?_push, if_neg (Nat.ne_of_lt hlt), h]

/-- Table `t`, of module `m`, after the registrations of `log`: under each type name it holds the
replacement of `log` accepted last, and each replacement of `log` stands on the generated
definition of its name that the module keeps. -/
structure Shows (s : Session) (t : Nat) (m : Option Nat) (log : List (String × Replacement)) :
    Prop where
  lt : t < s.tables.size
  module : (s.tables.getD t default).module = m
  valid : ∀ i ∈ m, i < s.modules.size
  held : ∀ name, ((s.tables.getD t default).lookup? name).map (s.defs[·]?) =
    (lastAccepted log name).map fun r => some (.replacement r)
  based : ∀ e ∈ log, ∃ i gen, m = some i ∧ e.2.base = some gen ∧
    (s.modules.getD i default).entries.lookup e.1 = some gen

namespace Shows

variable {t : Nat} {m : Option Nat} {s s' : Session} {log : List (String × Replacement)}

theorem quiet (h : Shows s t m log) (hq : Quiet s s') : Shows s' t m log := by
  refine ⟨hq.tables ▸ h.lt, hq.tables ▸ h.module, fun i hi => hq.modules ▸ h.valid i hi,
    fun name => ?_, fun e he => ?_⟩
  · rw [hq.tables]
    exact held_mono (fun _ _ => hq.def_eq) (h.held name)
  · obtain ⟨i, gen, hi, hb, hk⟩ := h.based e he
    exact ⟨i, gen, hi, hb, hq.entry_eq hk⟩

theorem accepted_other {t' : Nat} {name : String} {r : Replacement} (h : Shows s t m log)
    (hacc : Accepts t' name r s s') (hne : t' ≠ t) : Shows s' t m log := by
  obtain ⟨i, gen, s₁, hq, -, -, -, rfl⟩ := hacc.quiet
  have h₁ := h.quiet hq
  have htab : ((s₁.tables.modify t' fun tb => tb.put name s₁.defs.size).getD t default) =
      s₁.tables.getD t default := by
    simp only [getD_modify, hne, if_false]
  refine ⟨by simpa using h₁.lt, by rw [htab]; exact h₁.module, h₁.valid, fun n => ?_, h₁.based⟩
  rw [htab]
  exact held_mono getElem?_push_of_eq_some (h₁.held n)

theorem accepted {name : String} {r : Replacement} (h : Shows s t m log)
    (hacc : Accepts t name r s s') : Shows s' t m (log ++ [(name, r)]) := by
  obtain ⟨i, gen, s₁, hq, hmod, he, hb, rfl⟩ := hacc.quiet
  have h₁ := h.quiet hq
  have hmi : m = some i := h₁.module.symm.trans (hq.tables ▸ hmod)
  have hkept : (s₁.modules.getD i default).entries.lookup name = some gen :=
    entry_kept (h.valid i (by simp [hmi])) he
  have htab : ((s₁.tables.modify t fun tb => tb.put name s₁.defs.size).getD t default) =
      (s₁.tables.getD t default).put name s₁.defs.size := by
    rw [getD_modify, if_pos rfl, Array.getD_eq_getD_getElem?, Array.getElem?_eq_getElem h₁.lt,
      Option.map_some, Option.getD_some, Option.getD_some]
  refine ⟨by simpa using h₁.lt, by rw [htab, Table.module_put]; exact h₁.module, h₁.valid,
    fun n => ?_, fun e he' => ?_⟩
  · rw [htab, lastAccepted_append_singleton]
    by_cases hn : n = name
    ·
      subst hn
      simp [Table.lookup_put]
    · rw [if_neg hn, Table.lookup?_put_ne _ _ hn]
      exact held_mono getElem?_push_of_eq_some (h₁.held n)
  · rcases List.mem_append.mp he' with he' | he'
    · exact h₁.based e he'
    · obtain rfl := List.mem_singleton.mp he'
      exact ⟨i, gen, hmi, hb, hkept⟩

end Shows

theorem Registers.shows {t : Nat} {m : Option Nat} {s s' : Session}
    {pre log : List (String × Replacement)} (h : Registers t s s' log) (hs : Shows s t m pre) :
    Shows s' t m (pre ++ log) := by
  induction h generalizing pre with
  | done => simpa using hs
  | quiet hq _ ih => exact ih (hs.quiet hq)
  | accepted name r hok _ ih =>
      rcases register_cases t name _ (some r) with ⟨e, he, -⟩ | ⟨-, r', hr, hacc⟩
      · rw [hok] at he
        cases he
      cases hr
      simpa using ih (hs.accepted hacc)
  | other t' name r hne _ ih =>
      rcases register_cases t' name _ r with ⟨e, -, hq⟩ | ⟨hok, r', -, hacc⟩
      · exact ih (hs.quiet hq)
      · exact ih (hs.accepted_other hacc fun ht => hne ht hok)

/-! ## Loaders -/

/-- Some run of a loader on table `t` leads from `s` to `s'`. -/
def Registered (t : Nat) (s s' : Session) : Prop := ∃ log, Registers t s s' log

theorem Registered.trans {t : Nat} {s₁ s₂ s₃ : Session} (h₁ : Registered t s₁ s₂)
    (h₂ : Registered t s₂ s₃) : Registered t s₁ s₃ := by
  obtain ⟨log₁, h₁⟩ := h₁
  obtain ⟨log₂, h₂⟩ := h₂
  exact ⟨_, h₁.trans h₂⟩

/-- What a loader on table `t` may run: it returns normally and only registers. -/
structure LoaderStep (t : Nat) {α : Type} (m : SessionM α) : Prop where
  returns : Completes (fun _ => True) m
  registers : Moves (Registered t) m

/-- Hooks whose loaders return normally and only register. -/
def Registering (hooks : Hooks) : Prop := ∀ l t, LoaderStep t (hooks.runLoader l t)

namespace LoaderStep

variable {t : Nat} {α β : Type}

theorem pure (a : α) : LoaderStep t (Pure.pure a : SessionM α) :=
  ⟨Completes.pure a, @Moves.pure _ (Registered t) (fun s => ⟨[], .done s⟩) a⟩

theorem bind {m : SessionM α} {f : α → SessionM β} (hm : LoaderStep t m)
    (hf : ∀ a, LoaderStep t (f a)) : LoaderStep t (m >>= f) :=
  ⟨Completes.bind (fun _ _ _ _ => trivial) hm.returns hm.registers fun a => (hf a).returns,
    @Moves.bind _ _ (Registered t) (fun _ _ _ => Registered.trans) _ _ hm.registers
      fun a => (hf a).registers⟩

theorem forIn {γ : Type} (xs : List γ) (b : β) (f : γ → β → SessionM (ForInStep β))
    (hf : ∀ x b, LoaderStep t (f x b)) : LoaderStep t (forIn xs b f) :=
  ⟨Completes.forIn (fun _ _ _ _ => trivial) xs b f (fun x b => (hf x b).returns)
      fun x b => (hf x b).registers,
    @Moves.forIn _ (Registered t) (fun s => ⟨[], .done s⟩) (fun _ _ _ => Registered.trans) _ xs b f
      fun x b => (hf x b).registers⟩

theorem quiet {m : SessionM α} (hq : Moves Quiet m) (hc : ∀ s, ∃ a, (m.run s).1 = .ok a) :
    LoaderStep t m :=
  ⟨Completes.of_total hc, fun s => ⟨[], .quiet (hq s) (.done _)⟩⟩

theorem read {m : SessionM α} (h : ∀ s, ∃ a, m.run s = (.ok a, s)) : LoaderStep t m := by
  refine quiet (Quiet.read fun s => ?_) fun s => ?_
  · obtain ⟨a, ha⟩ := h s
    rw [ha]
  · obtain ⟨a, ha⟩ := h s
    exact ⟨a, by rw [ha]⟩

theorem register (name : String) (r : Option Replacement) :
    LoaderStep t (attempt (Binding.register t name r)) :=
  ⟨Completes.of_total fun _ => ⟨_, rfl⟩, fun s => Registers.register t name r s rfl⟩

theorem generated? (i : Nat) (name : String) : LoaderStep t (generated? i name) :=
  quiet (quiet_generated? i name) fun _ => ⟨_, rfl⟩

theorem record (d : Script.Doc) : LoaderStep t (record d) :=
  quiet (fun _ => Quiet.of_eq rfl rfl rfl rfl) fun _ => ⟨_, rfl⟩

end LoaderStep

/-! ## Scripted loaders -/

theorem loaderStep_replacementOf (t : Nat) (e : Script.Doc) :
    LoaderStep t (Script.replacementOf t e) := by
  unfold Script.replacementOf
  dsimp only
  refine .bind (.read fun _ => ⟨_, rfl⟩) fun tb => ?_
  split
  all_goals
    refine .bind ?_ fun base => ?_
    · first
        | exact .pure none
        | split
          · exact .generated? _ _
          · exact .pure none
    · split
      · exact .pure none
      · exact .bind (.read fun _ => ⟨_, rfl⟩) fun _ =>
          .bind (.quiet (fun _ => Quiet.of_eq rfl rfl rfl rfl) fun _ => ⟨_, rfl⟩) fun _ => .pure _

theorem loaderStep_runLoaderScript (l t : Nat) : LoaderStep t (Script.runLoaderScript l t) := by
  unfold Script.runLoaderScript
  dsimp only
  refine .bind (.read fun _ => ⟨_, rfl⟩) fun s => .bind (.read fun _ => ⟨_, rfl⟩) fun tb => ?_
  refine .bind (.record _) fun _ => ?_
  split
  · exact .pure _
  refine .bind (.forIn _ _ _ fun e _ => ?_) fun _ => ?_
  · refine .bind (loaderStep_replacementOf t e) fun r => .bind (.register _ r) fun res => ?_
    split
    · exact .bind (.pure _) fun _ => .bind (.record _) fun _ => .pure _
    · exact .bind (.pure _) fun _ => .bind (.record _) fun _ => .pure _
  · split
    · exact .pure _
    · exact .pure _

theorem registering_hooksUpTo : ∀ n, Registering (Script.hooksUpTo n)
  | 0 => fun _ _ => .pure _
  | _ + 1 => fun l t => loaderStep_runLoaderScript l t

end Introspection.Binding
