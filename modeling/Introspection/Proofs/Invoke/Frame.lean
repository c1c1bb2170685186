import Introspection.Invoke.Call
import Introspection.Proofs.Repository.Require
import Introspection.Script.Machine

/-!
# Call frames

A callable's plan lays out the native frame: the receiver of a method, one slot per declared
argument, and the error location of a throwing callable. The caller supplies exactly the
arguments that travel inward and that no other argument claims as its length, user data or
destroy notifier and that are not skipped, in declaration order after the receiver. An invocation
with any other number of arguments fails before it allocates or calls anything; a lowered frame
has one raw value per native parameter, each supplied input holding the conversion of the
caller's argument at its position; and a hidden length holds the element count of every
caller-supplied array that names it.
-/

namespace Introspection.Invoke

open Introspection.Typelib Introspection.Repository Introspection.Info Introspection.Native
  Introspection.Loaded Introspection.Loaded.Session Introspection.Marshal

namespace Slot

variable (s : Slot) (k : Nat)

@[simp] theorem numbered_role : (s.numbered k).1.role = s.role := by
  unfold numbered
  split <;> rfl

@[simp] theorem numbered_dir : (s.numbered k).1.dir = s.dir := by
  unfold numbered
  split <;> rfl

@[simp] theorem numbered_host :
    (s.numbered k).1.host = if s.supplied then some k else s.host := by
  unfold numbered
  split <;> rfl

@[simp] theorem numbered_next : (s.numbered k).2 = if s.supplied then k + 1 else k := by
  unfold numbered
  split <;> rfl

end Slot

namespace Plan

/-- How `layout` relabels the slots from host position `k` on, ending at `want`: each slot keeps
its role and direction, a supplied slot takes the next host position, any other keeps its own. -/
inductive Laid : Nat → List Slot → List Slot → Nat → Prop
  | nil (k : Nat) : Laid k [] [] k
  | supplied {k want : Nat} {s s' : Slot} {rest done : List Slot} :
      s.supplied = true → s'.role = s.role → s'.dir = s.dir → s'.host = some k →
      Laid (k + 1) rest done want → Laid k (s :: rest) (s' :: done) want
  | hidden {k want : Nat} {s s' : Slot} {rest done : List Slot} :
      s.supplied = false → s'.role = s.role → s'.dir = s.dir → s'.host = s.host →
      Laid k rest done want → Laid k (s :: rest) (s' :: done) want

variable {name : String} {ps k want : Nat} {s s' : Slot} {rest done : List Slot}
  {r r' : Repository}

theorem kindSlot_ok (h : kindSlot ps s r = (.ok s', r')) :
    s'.role = s.role ∧ s'.dir = s.dir ∧ s'.host = s.host := by
  rw [kindSlot] at h
  simp only [Repository.run_bind, Repository.run_get] at h
  by_cases hc : Info.isCallerAllocates r s.arg = true
  · simp only [hc, ↓reduceIte] at h
    rcases hs : storageSize s.typ ps r with ⟨res, r₁⟩
    rw [Repository.run_bind, hs] at h
    cases res with
    | error e => cases congrArg Prod.fst h
    | ok size =>
        cases Except.ok.inj (congrArg Prod.fst h)
        exact ⟨rfl, rfl, rfl⟩
  · simp only [hc, ↓reduceIte, Bool.false_eq_true] at h
    rcases hs : slotKind s.typ r with ⟨res, r₁⟩
    rw [Repository.run_bind, hs] at h
    cases res with
    | error e => cases congrArg Prod.fst h
    | ok kind =>
        cases Except.ok.inj (congrArg Prod.fst h)
        exact ⟨rfl, rfl, rfl⟩

theorem layout_cons (h : layout name ps k (s :: rest) r = (.ok (done, want), r')) :
    ∃ s' done' r₁, done = s' :: done' ∧ s'.role = s.role ∧ s'.dir = s.dir ∧
      s'.host = (if s.supplied then some k else s.host) ∧
      layout name ps (s.numbered k).2 rest r₁ = (.ok (done', want), r') := by
  rw [layout] at h
  simp only [Repository.run_bind] at h
  rcases hk : kindSlot ps (s.numbered k).1 r with ⟨res, r₁⟩
  rw [hk] at h
  cases res with
  | error e =>
      simp only [Repository.run_bind, Repository.run_pure] at h
      cases congrArg Prod.fst h
  | ok s₁ =>
      obtain ⟨hrole, hdir, hhost⟩ := kindSlot_ok hk
      simp only [Repository.run_bind, Repository.run_pure] at h
      rcases hl : layout name ps (s.numbered k).2 rest r₁ with ⟨res', r₂⟩
      rw [hl] at h
      cases res' with
      | error e => cases congrArg Prod.fst h
      | ok out =>
          obtain ⟨done', want'⟩ := out
          obtain ⟨hres, rfl⟩ := Prod.mk.inj h
          cases Except.ok.inj hres
          refine ⟨s₁, done', r₁, rfl, ?_, ?_, ?_, hl⟩
          · rw [hrole, Slot.numbered_role]
          · rw [hdir, Slot.numbered_dir]
          · rw [hhost, Slot.numbered_host]

theorem layout_laid :
    ∀ {k : Nat} {slots done : List Slot} {want : Nat} {r r' : Repository},
      layout name ps k slots r = (.ok (done, want), r') → Laid k slots done want := by
  intro k slots
  induction slots generalizing k with
  | nil =>
      intro done want r r' h
      rw [layout, Repository.run_pure] at h
      obtain ⟨hres, -⟩ := Prod.mk.inj h
      cases Except.ok.inj hres
      exact Laid.nil k
  | cons s rest ih =>
      intro done want r r' h
      obtain ⟨s', done', r₁, rfl, hrole, hdir, hhost, hrest⟩ := layout_cons h
      cases hs : s.supplied with
      | true =>
          rw [hs, if_pos rfl] at hhost
          rw [Slot.numbered_next, hs, if_pos rfl] at hrest
          exact Laid.supplied hs hrole hdir hhost (ih hrest)
      | false =>
          rw [hs, if_neg Bool.false_ne_true] at hhost
          rw [Slot.numbered_next, hs, if_neg Bool.false_ne_true] at hrest
          exact Laid.hidden hs hrole hdir hhost (ih hrest)

namespace Laid

variable {slots : List Slot}

theorem supplied_eq {s s' : Slot} (hrole : s'.role = s.role) (hdir : s'.dir = s.dir) :
    s'.supplied = s.supplied := by
  simp only [Slot.supplied, hrole, hdir]

theorem map_dir (h : Laid k slots done want) : done.map Slot.dir = slots.map Slot.dir := by
  induction h with
  | nil => rfl
  | supplied _ _ hdir _ _ ih => rw [List.map_cons, List.map_cons, hdir, ih]
  | hidden _ _ hdir _ _ ih => rw [List.map_cons, List.map_cons, hdir, ih]

theorem want_eq (h : Laid k slots done want) : want = k + (done.filter Slot.supplied).length := by
  induction h with
  | nil => simp
  | @supplied k want s s' rest done hs hrole hdir _ _ ih =>
      have hs' : s'.supplied = true := (supplied_eq hrole hdir).trans hs
      rw [ih, List.filter_cons_of_pos hs', List.length_cons]
      omega
  | @hidden k want s s' rest done hs hrole hdir _ _ ih =>
      have hs' : s'.supplied = false := (supplied_eq hrole hdir).trans hs
      rw [ih, List.filter_cons_of_neg (by simp [hs'])]

theorem host_eq (h : Laid k slots done want) (hnone : ∀ s ∈ slots, s.host = none) :
    ∀ i (hi : i < done.length), done[i].host =
      if done[i].supplied then some (k + ((done.take i).filter Slot.supplied).length) else none := by
  induction h with
  | nil => intro i hi; cases hi
  | @supplied k want s s' rest done hs hrole hdir hhost _ ih =>
      have hs' : s'.supplied = true := (supplied_eq hrole hdir).trans hs
      intro i hi
      cases i with
      | zero => simp [hs', hhost]
      | succ i =>
          have := ih (fun x hx => hnone x (List.mem_cons_of_mem _ hx)) i (by simpa using hi)
          simp only [List.getElem_cons_succ, List.take_succ_cons, List.filter_cons_of_pos hs',
            List.length_cons, this]
          split <;> simp; omega
  | @hidden k want s s' rest done hs hrole hdir hhost _ ih =>
      have hs' : ¬ s'.supplied = true := by simp [(supplied_eq hrole hdir).trans hs]
      intro i hi
      cases i with
      | zero => simp [hs', hhost, hnone s List.mem_cons_self]
      | succ i =>
          have := ih (fun x hx => hnone x (List.mem_cons_of_mem _ hx)) i (by simpa using hi)
          simp only [List.getElem_cons_succ, List.take_succ_cons, List.filter_cons_of_neg hs', this]

end Laid

/-! ## Roles leave the rest of a slot alone -/

section Roles

variable {β : Type} (g : Slot → β) (hg : ∀ (s : Slot) (role : Role), g { s with role } = g s)
include hg

theorem map_mark (slots : List Slot) (idx : Int) (role : Role) :
    (mark slots idx role).map g = slots.map g := by
  unfold mark
  split
  · rfl
  · apply List.ext_getElem (by simp)
    intro j h₁ h₂
    simp only [List.getElem_map, List.getElem_modify]
    split
    · split
      · exact hg _ _
      · rfl
    · rfl

theorem map_assignRoles (r : Repository) (ret : Info) (slots : List Slot)
    (callbacks : List Bool) :
    (assignRoles r ret slots callbacks).map g = slots.map g := by
  have hfold : ∀ (l : List Nat) (init : List Slot)
      (f : List Slot → Nat → List Slot), (∀ acc i, (f acc i).map g = acc.map g) →
      (l.foldl f init).map g = init.map g := by
    intro l
    induction l with
    | nil => intro init f _; rfl
    | cons i l ih =>
        intro init f hf
        rw [List.foldl_cons, ih _ f hf, hf]
  unfold assignRoles
  dsimp only
  rw [hfold]
  · split
    · simp only [apply_ite (List.map g), map_mark g hg, ite_self]
    · rfl
  · intro acc i
    simp only [apply_ite (List.map g), map_mark g hg, ite_self]
    split
    · simp only [apply_ite (List.map g), map_mark g hg, ite_self]
    · rfl

end Roles

variable {c : Info} {p : Plan}

theorem build_ok (h : build c ps r = (.ok p, r')) :
    ∃ slots r₁ r₂, (∀ s ∈ slots, s.host = none) ∧
      slots.map Slot.dir = (Info.args r c).map (Info.direction r) ∧
      layout p.name ps (if p.method then 1 else 0) slots r₁ = (.ok (p.slots, p.want), r₂) ∧
      p.sig.params = params p.method p.throws p.slots := by
  rw [build] at h
  simp only [Repository.run_bind, Repository.run_get] at h
  generalize hl : layout _ _ _ _ _ = laid at h
  obtain ⟨res, r₂⟩ := laid
  cases res with
  | error e => cases congrArg Prod.fst h
  | ok out =>
    obtain ⟨done, want⟩ := out
    simp only [Repository.run_bind] at h
    generalize hk : slotKind _ _ = kinded at h
    obtain ⟨kres, r₃⟩ := kinded
    cases kres with
    | error e =>
      simp only [Repository.run_bind, Repository.run_pure] at h
      cases congrArg Prod.fst h
    | ok result =>
      obtain ⟨hp, -⟩ := Prod.mk.inj h
      cases Except.ok.inj hp
      refine ⟨_, _, _, ?_, ?_, hl, rfl⟩
      · intro s hs
        have hmem := List.mem_map_of_mem (f := Slot.host) hs
        rw [map_assignRoles Slot.host (fun _ _ => rfl), List.map_map] at hmem
        obtain ⟨a, -, ha⟩ := List.mem_map.1 hmem
        exact ha.symm
      · rw [map_assignRoles Slot.dir (fun _ _ => rfl), List.map_map]
        rfl

/-- The frame a plan lays out: the caller supplies one argument per supplied slot after the
receiver of a method, in declaration order, and the native parameters are the receiver, one per
declared argument and the error location of a throwing callable. -/
structure Framed (p : Plan) : Prop where
  want : p.want = (if p.method then 1 else 0) + (p.slots.filter Slot.supplied).length
  host : ∀ i (hi : i < p.slots.length), p.slots[i].host =
    if p.slots[i].supplied then
      some ((if p.method then 1 else 0) + ((p.slots.take i).filter Slot.supplied).length)
    else none
  params : p.sig.params.length =
    (if p.method then 1 else 0) + p.slots.length + (if p.throws then 1 else 0)

theorem build_framed (h : build c ps r = (.ok p, r')) : p.Framed := by
  obtain ⟨slots, r₁, r₂, hnone, -, hl, hparams⟩ := build_ok h
  have laid := layout_laid hl
  refine ⟨laid.want_eq, laid.host_eq hnone, ?_⟩
  rw [hparams, params]
  split <;> split <;> simp <;> omega

end Plan

/-! ## Running a session computation -/

namespace Session

variable {α β : Type}

theorem run_bind (m : SessionM α) (f : α → SessionM β) (s : Session) :
    (m >>= f).run s = match m.run s with
      | (.ok a, s') => (f a).run s'
      | (.error e, s') => (.error e, s') := by
  change (m.run >>= ExceptT.bindCont f) s = _
  rcases h : m.run s with ⟨r, s'⟩
  cases r <;> simp [bind, StateT.bind, ExceptT.bindCont, h] <;> rfl

theorem run_pure (a : α) (s : Session) : (pure a : SessionM α).run s = (.ok a, s) := rfl

theorem run_throw (e : Failure) (s : Session) :
    (throw e : SessionM α).run s = (.error e, s) := rfl

theorem run_get (s : Session) : (get : SessionM Session).run s = (.ok s, s) := rfl

theorem run_invoker (inv : Nat) (s : Session) :
    (invoker inv).run s = (.ok (s.invokers.getD inv default), s) := rfl

theorem run_modifyInvoker (inv : Nat) (g : Invoker → Invoker) (s : Session) :
    (modifyInvoker inv g).run s = (.ok (), { s with invokers := s.invokers.modify inv g }) := rfl

theorem run_repoM {m : RepoM α} {s : Session} {a : α} {r : Repository} (h : m s.repo = (a, r)) :
    (repoM m).run s = (.ok a, { s with repo := r }) := by
  change (Except.ok (m s.repo).1, { s with repo := (m s.repo).2 }) = _
  rw [h]

theorem run_repoE {m : RepoM (Except Failure α)} {s s' : Session} {a : α}
    (h : (repoE m).run s = (.ok a, s')) :
    m s.repo = (.ok a, s'.repo) ∧ s' = { s with repo := s'.repo } := by
  unfold Session.repoE at h
  rcases hm : m s.repo with ⟨res, r'⟩
  rw [run_bind, run_repoM hm] at h
  cases res with
  | ok b =>
      obtain ⟨hb, rfl⟩ := Prod.mk.inj h
      cases Except.ok.inj hb
      exact ⟨rfl, rfl⟩
  | error e => cases congrArg Prod.fst h

theorem run_ptrSize (h : Nat) (s : Session) : ∃ n, (ptrSize h).run s = (.ok n, s) := by
  unfold Session.ptrSize
  rw [run_bind, show (handle h).run s = (.ok (s.handles.getD h default), s) from rfl]
  dsimp only
  rcases (s.handles.getD h default).backing with lib | g
  · exact ⟨_, rfl⟩
  · exact ⟨_, rfl⟩

/-- Two sessions that differ at most in the repository and the invokers: between them nothing
was allocated, freed, written or called. -/
def OnlyPlans (s s' : Session) : Prop := ∃ repo invokers, s' = { s with repo, invokers }

theorem OnlyPlans.refl (s : Session) : OnlyPlans s s := ⟨s.repo, s.invokers, rfl⟩

theorem OnlyPlans.trans {s₁ s₂ s₃ : Session} (h₁ : OnlyPlans s₁ s₂) (h₂ : OnlyPlans s₂ s₃) :
    OnlyPlans s₁ s₃ := by
  obtain ⟨repo, invokers, rfl⟩ := h₁
  obtain ⟨repo', invokers', rfl⟩ := h₂
  exact ⟨repo', invokers', rfl⟩

/-- A computation that, whatever it returns, changes at most the repository and the invokers. -/
def Stays (m : SessionM α) : Prop := ∀ s, OnlyPlans s (m.run s).2

namespace Stays

theorem pure (a : α) : Stays (pure a : SessionM α) := fun s => OnlyPlans.refl s

theorem throw (e : Failure) : Stays (throw e : SessionM α) := fun s => OnlyPlans.refl s

theorem get : Stays (get : SessionM Session) := fun s => OnlyPlans.refl s

theorem bind {m : SessionM α} {f : α → SessionM β} (hm : Stays m) (hf : ∀ a, Stays (f a)) :
    Stays (m >>= f) := by
  intro s
  rw [run_bind]
  rcases hrun : m.run s with ⟨res, s'⟩
  have h₁ : OnlyPlans s s' := by simpa [hrun] using hm s
  cases res with
  | ok a => exact h₁.trans (hf a s')
  | error e => exact h₁

theorem repoM (m : RepoM α) : Stays (repoM m) := fun s => ⟨(m s.repo).2, s.invokers, rfl⟩

theorem repoE (m : RepoM (Except Failure α)) : Stays (repoE m) := by
  unfold Session.repoE
  refine bind (repoM m) fun r => ?_
  split
  · exact pure _
  · exact throw _

theorem modifyInvoker (id : Nat) (g : Invoker → Invoker) : Stays (modifyInvoker id g) :=
  fun s => ⟨s.repo, s.invokers.modify id g, rfl⟩

theorem invoker (id : Nat) : Stays (invoker id) := bind get fun _ => pure _

theorem ptrSize (h : Nat) : Stays (ptrSize h) := by
  unfold Session.ptrSize
  refine bind (bind get fun _ => pure _) fun hd => ?_
  split
  · exact bind (bind get fun _ => pure _) fun _ => pure _
  · exact pure _

end Stays

/-- Every run of `m` that succeeds returns a value satisfying `Q`. -/
def Returns (m : SessionM α) (Q : α → Prop) : Prop := ∀ s a s', m.run s = (.ok a, s') → Q a

namespace Returns

variable {m : SessionM α} {P Q : α → Prop}

theorem pure {a : α} (h : Q a) : Returns (Pure.pure a : SessionM α) Q := by
  intro s a' s' hrun
  cases Except.ok.inj (congrArg Prod.fst hrun)
  exact h

theorem throw (e : Failure) : Returns (throw e : SessionM α) Q := by
  intro s a s' hrun
  cases congrArg Prod.fst hrun

theorem anything (m : SessionM α) : Returns m fun _ => True := fun _ _ _ _ => trivial

theorem weaken (h : Returns m P) (hPQ : ∀ a, P a → Q a) : Returns m Q :=
  fun s a s' hrun => hPQ a (h s a s' hrun)

theorem bind {R : β → Prop} {f : α → SessionM β} (hm : Returns m P)
    (hf : ∀ a, P a → Returns (f a) R) : Returns (m >>= f) R := by
  intro s b s' hrun
  rw [run_bind] at hrun
  rcases hm' : m.run s with ⟨res, s₁⟩
  rw [hm'] at hrun
  cases res with
  | ok a => exact hf a (hm s a s₁ hm') s₁ b s' hrun
  | error e => cases congrArg Prod.fst hrun

theorem forIn_yield {γ : Type} (xs : List γ) (b : β) (f : γ → β → SessionM (ForInStep β))
    (I : Nat → β → Prop) (h0 : I 0 b)
    (hstep : ∀ i (hi : i < xs.length) b, I i b →
      Returns (f xs[i] b) fun st => ∃ b', st = .yield b' ∧ I (i + 1) b') :
    Returns (forIn xs b f) (I xs.length) := by
  induction xs generalizing b I with
  | nil => exact pure h0
  | cons x xs ih =>
      rw [List.forIn_cons]
      refine bind (hstep 0 (by simp) b h0) fun st hst => ?_
      obtain ⟨b', rfl, hb'⟩ := hst
      have := ih b' (fun i b => I (i + 1) b) hb' fun i hi b hb =>
        hstep (i + 1) (by simpa using hi) b hb
      simpa using this

end Returns

end Session

/-! ## The argument count -/

theorem stays_planFor (inv : Nat) (c : Info) : Session.Stays (planFor inv c) := by
  unfold planFor
  refine Session.Stays.bind Session.Stays.get fun st => ?_
  refine Session.Stays.bind (Session.Stays.invoker inv) fun i => ?_
  split
  · exact Session.Stays.pure _
  · refine Session.Stays.bind (Session.Stays.invoker inv) fun i => ?_
    refine Session.Stays.bind (Session.Stays.ptrSize _) fun ps => ?_
    refine Session.Stays.bind (Session.Stays.repoE _) fun p => ?_
    exact Session.Stays.bind (Session.Stays.modifyInvoker _ _) fun _ => Session.Stays.pure _

/-- Every plan an invoker has cached lays out its frame. -/
def PlansFramed (s : Session) : Prop :=
  ∀ inv, ∀ e ∈ (s.invokers.getD inv default).plans, e.plan.Framed

theorem PlansFramed.modify {s : Session} (hs : PlansFramed s) (inv : Nat) {g : Invoker → Invoker}
    (hg : ∀ i : Invoker, (∀ e ∈ i.plans, e.plan.Framed) → ∀ e ∈ (g i).plans, e.plan.Framed) :
    PlansFramed { s with invokers := s.invokers.modify inv g } := by
  intro inv' e he
  have hold := hs inv'
  simp only [Array.getD_eq_getD_getElem?, Array.getElem?_modify] at he hold
  split at he
  · rcases h : s.invokers[inv']? with _ | i
    · simp only [h, Option.map_none, Option.getD_none] at he
      exact absurd he List.not_mem_nil
    · simp only [h, Option.map_some, Option.getD_some] at he hold
      exact hg i hold e he
  · exact hold e he

theorem planFor_framed {inv : Nat} {c : Info} {s s₁ : Session} {p : Plan} (hs : PlansFramed s)
    (h : (planFor inv c).run s = (.ok p, s₁)) : p.Framed ∧ PlansFramed s₁ := by
  unfold planFor at h
  rw [Session.run_bind, Session.run_get] at h
  dsimp only at h
  rw [Session.run_bind, Session.run_invoker] at h
  dsimp only at h
  split at h
  · rename_i e he
    rw [Session.run_pure] at h
    obtain ⟨hp, rfl⟩ := Prod.mk.inj h
    cases Except.ok.inj hp
    exact ⟨hs inv e (List.mem_of_find?_eq_some he), hs⟩
  · rw [Session.run_bind, Session.run_invoker] at h
    dsimp only at h
    rw [Session.run_bind] at h
    obtain ⟨ps, hps⟩ := Session.run_ptrSize (s.invokers.getD inv default).handle s
    rw [hps] at h
    dsimp only at h
    rw [Session.run_bind] at h
    rcases hb : (repoE (Plan.build c ps)).run s with ⟨res, s₂⟩
    rw [hb] at h
    cases res with
    | error e => cases congrArg Prod.fst h
    | ok p' =>
        obtain ⟨hbuild, hs₂⟩ := Session.run_repoE hb
        have hframed := Plan.build_framed hbuild
        dsimp only at h
        rw [Session.run_bind, Session.run_modifyInvoker] at h
        dsimp only at h
        rw [Session.run_pure] at h
        obtain ⟨hp, rfl⟩ := Prod.mk.inj h
        cases Except.ok.inj hp
        refine ⟨hframed, ?_⟩
        have hs₂' : PlansFramed s₂ := by
          rw [hs₂]
          exact hs
        refine hs₂'.modify inv fun i hi e he => ?_
        rcases List.mem_append.1 he with he | he
        · exact hi e he
        · rw [List.mem_singleton.1 he]
          exact hframed

variable {hooks : Hooks} {inv fn : Nat} {c : Info} {args : List Value} {s s₁ : Session}
  {p : Plan}

theorem invoke_wrong_count (hp : (planFor inv c).run s = (.ok p, s₁))
    (hne : args.length ≠ p.want) :
    (invoke hooks inv c fn args).run s =
      (.error (.fault .encode .conversion [p.name] "" ""
        s!"want {p.want} arguments, got {args.length}" .null
        (some (.argCount [p.name] args.length p.want))), s₁) := by
  rw [invoke, Session.run_bind, hp]
  have hcount : (args.length != p.want) = true := by simpa using hne
  simp only [hcount, ↓reduceIte]
  rw [Session.run_bind, Session.run_throw]

namespace Session.Returns

variable {α β : Type} {Q : β → Prop}

theorem giveUp {Q : α → Prop} (f : CallFrame) (e : Failure) :
    Session.Returns (giveUp f e : SessionM α) Q := by
  unfold Invoke.giveUp
  exact bind (anything _) fun _ _ => bind (anything _) fun _ _ => throw e

theorem giveUp_bind (f : CallFrame) (e : Failure) (k : α → SessionM β) :
    Session.Returns (Invoke.giveUp f e >>= k) Q :=
  bind (giveUp (Q := fun _ => False) f e) fun _ h => h.elim

theorem throw_bind (e : Failure) (k : α → SessionM β) :
    Session.Returns ((MonadExcept.throw e : SessionM α) >>= k) Q :=
  bind (throw (Q := fun _ => False) e) fun _ h => h.elim

theorem ran (m : SessionM α) : Returns m fun a => ∃ t t', m.run t = (.ok a, t') :=
  fun t _ t' h => ⟨t, t', h⟩

theorem attempt_ran (m : SessionM α) :
    Returns (attempt m) fun r => ∀ a, r = .ok a → ∃ t t', m.run t = (.ok a, t') := by
  intro t r t' h a ha
  have hrun : (attempt m).run t = (.ok (m.run t).1, (m.run t).2) := rfl
  rw [hrun] at h
  obtain ⟨h₁, -⟩ := Prod.mk.inj h
  cases Except.ok.inj h₁
  exact ⟨t, (m.run t).2, Prod.ext ha rfl⟩

end Session.Returns

theorem notify_size (f : CallFrame) (raw : Array Nat) :
    Session.Returns (notify f raw) fun res => res.2.size = raw.size := by
  unfold notify
  refine Session.Returns.bind (Session.Returns.anything _) fun st _ => ?_
  dsimp only
  refine Session.Returns.bind (Session.Returns.forIn_yield _ _ _ (fun _ b => b.1.size = raw.size) rfl ?_)
    fun b hb => Session.Returns.pure hb
  intro i hi b hb
  generalize f.plan.slots.zipIdx[i] = x
  obtain ⟨s, j⟩ := x
  dsimp only
  split
  · exact Session.Returns.pure ⟨_, rfl, hb⟩
  split
  all_goals
    split
    · exact Session.Returns.pure ⟨_, rfl, by simp [hb]⟩
    · refine Session.Returns.bind (Session.Returns.anything _) fun res _ => ?_
      split
      · exact Session.Returns.pure ⟨_, rfl, by simp [hb]⟩
      · exact Session.Returns.giveUp_bind _ _ _

theorem lower_raw_length (hooks : Hooks) (f : CallFrame) (args : List Value) :
    Session.Returns (lower hooks f args) fun res =>
      res.2.length = (if f.plan.method then 1 else 0) + f.plan.slots.length +
        (if f.plan.throws then 1 else 0) := by
  unfold lower
  extract_lets p raw₀ finish tail self
  have htail : ∀ raw : Array Nat, raw.size = (if p.method then 1 else 0) →
      Session.Returns (tail () raw) fun res =>
        res.2.length = (if p.method then 1 else 0) + p.slots.length + (if p.throws then 1 else 0) := by
    intro raw hraw
    simp only [tail]
    refine Session.Returns.bind (Session.Returns.anything _) fun mres _ => ?_
    split
    swap
    · exact Session.Returns.giveUp_bind _ _ _
    refine Session.Returns.bind (Session.Returns.anything _) fun f₁ _ => ?_
    refine Session.Returns.bind (Session.Returns.forIn_yield _ _ _
      (fun i b => b.1.size = raw.size + i) rfl ?_) fun b hb => ?_
    · intro i hi b hb
      refine Session.Returns.bind (Session.Returns.anything _) fun res _ => ?_
      split
      · exact Session.Returns.pure ⟨_, rfl, by simp [hb]; omega⟩
      · exact Session.Returns.giveUp_bind _ _ _
    refine Session.Returns.bind (notify_size _ _) fun x hx => ?_
    simp only [List.length_zipIdx] at hb
    split
    · refine Session.Returns.bind (Session.Returns.anything _) fun res _ => ?_
      split
      · refine Session.Returns.bind (Session.Returns.anything _) fun _ _ => Session.Returns.pure ?_
        simp [hx, hb, hraw]
      · exact Session.Returns.giveUp_bind _ _ _
    · refine Session.Returns.pure ?_
      simp [hx, hb, hraw]
  split
  · rename_i hmethod
    refine Session.Returns.bind (Session.Returns.anything _) fun ptr _ => ?_
    split
    next addr =>
      split
      · exact Session.Returns.giveUp_bind _ _ _
      · refine Session.Returns.weaken (htail (raw₀.push addr) (by simp [raw₀, hmethod])) ?_
        simp [p, hmethod]
    · exact Session.Returns.giveUp_bind _ _ _
  · rename_i hmethod
    refine Session.Returns.weaken (htail raw₀ (by simp [raw₀, hmethod])) ?_
    simp [p, hmethod]

/-! ## Hidden lengths -/

/-- The recorded lengths agree with the caller's arrays among `xs`: every array the caller
supplies whose length argument is a hidden length has its element count recorded there. -/
def Measured (r : Repository) (p : Plan) (args : List Value) (xs : List Slot)
    (lengths : List (Nat × Nat)) : Prop :=
  ∀ x ∈ xs, ∀ j h, Plan.lengthSlot r p.slots x.typ = some j → x.host = some h →
    (p.slot j).role = .length →
    ∃ n, (args.getD h .null).arrayLength? = some n ∧ lengths.lookup j = some n

namespace Measured

variable {r : Repository} {p : Plan} {args : List Value} {xs : List Slot}
  {lengths : List (Nat × Nat)} {x : Slot}

theorem nil : Measured r p args [] lengths := by
  intro x hx
  cases hx

theorem skip (hm : Measured r p args xs lengths)
    (hx : ∀ j h, Plan.lengthSlot r p.slots x.typ = some j → x.host = some h →
      (p.slot j).role = .length → False) :
    Measured r p args (xs ++ [x]) lengths := by
  intro y hy j h hj hh hrole
  rcases List.mem_append.1 hy with hy | hy
  · exact hm y hy j h hj hh hrole
  · rw [List.mem_singleton.1 hy] at hj hh
    exact (hx j h hj hh hrole).elim

theorem record (hm : Measured r p args xs lengths) {j h n : Nat}
    (hj : Plan.lengthSlot r p.slots x.typ = some j) (hh : x.host = some h)
    (hn : (args.getD h .null).arrayLength? = some n)
    (hprev : ∀ prev, lengths.lookup j = some prev → prev = n) :
    Measured r p args (xs ++ [x]) ((j, n) :: lengths.filter (·.1 != j)) := by
  intro y hy j' h' hj' hh' hrole
  rw [List.lookup_cons_filter]
  rcases List.mem_append.1 hy with hy | hy
  · obtain ⟨m, hm₁, hm₂⟩ := hm y hy j' h' hj' hh' hrole
    split
    · rename_i hjj
      subst hjj
      rw [hprev m hm₂] at hm₁
      exact ⟨n, hm₁, rfl⟩
    · exact ⟨m, hm₁, hm₂⟩
  · rw [List.mem_singleton.1 hy, hj] at hj'
    rw [List.mem_singleton.1 hy, hh] at hh'
    cases hj'
    cases hh'
    exact ⟨n, hn, if_pos rfl⟩

end Measured

variable {f f' : CallFrame} {s' : Session}

theorem measure_lengths (h : (measure f args).run s = (.ok f', s')) :
    Measured s.repo f.plan args f.plan.slots f'.lengths := by
  unfold measure at h
  rw [Session.run_bind, Session.run_get] at h
  revert h
  refine (?_ : Session.Returns _ fun f' : CallFrame =>
    Measured s.repo f.plan args f.plan.slots f'.lengths) s f' s'
  dsimp only
  refine Session.Returns.bind (Session.Returns.forIn_yield _ _ _
    (fun i l => Measured s.repo f.plan args (f.plan.slots.take i) l) Measured.nil ?_)
    fun l hl => Session.Returns.pure (by simpa using hl)
  intro i hi l hl
  rw [List.take_succ_eq_append_getElem hi]
  split
  next j hj =>
    split
    next h hh =>
      split
      · rename_i hrole
        refine Session.Returns.pure ⟨_, rfl, hl.skip fun j' h' hj' hh' hrole' => ?_⟩
        rw [hj] at hj'
        cases hj'
        simp [hrole'] at hrole
      · split
        next n hn =>
          refine Session.Returns.bind (Session.Returns.pure (Q := fun m => m = n) rfl) fun m hm => ?_
          subst hm
          split
          next prev hprev =>
            split
            · exact Session.Returns.throw_bind _ _
            · rename_i hsame
              have heq : prev = m := by simpa using hsame
              refine Session.Returns.pure ⟨_, rfl, hl.record hj hh hn fun prev' hprev' => ?_⟩
              rw [hprev] at hprev'
              cases hprev'
              exact heq
          next hnone =>
            refine Session.Returns.pure ⟨_, rfl, hl.record hj hh hn fun prev' hprev' => ?_⟩
            rw [hnone] at hprev'
            cases hprev'
        · refine Session.Returns.bind (Session.Returns.anything _) fun _ _ => ?_
          exact Session.Returns.throw_bind _ _
    next hh =>
      exact Session.Returns.pure ⟨_, rfl, hl.skip fun j' h' _ hh' _ => hh h' hh'⟩
  next hj =>
    exact Session.Returns.pure ⟨_, rfl, hl.skip fun j' h' hj' _ _ => hj j' hj'⟩

theorem measure_keeps (f : CallFrame) (args : List Value) :
    Session.Returns (measure f args) fun f₁ => f₁.plan = f.plan ∧ f₁.conv = f.conv := by
  unfold measure
  exact Session.Returns.bind (Session.Returns.anything _) fun _ _ =>
    Session.Returns.bind (Session.Returns.anything _) fun _ _ => Session.Returns.pure ⟨rfl, rfl⟩

/-! ## The values of a lowered frame -/

/-- What lowering keeps of a frame: its plan, converter, recorded lengths and values. -/
structure FrameKeeps (f f' : CallFrame) : Prop where
  plan : f'.plan = f.plan
  conv : f'.conv = f.conv
  lengths : f'.lengths = f.lengths
  vals : f'.vals = f.vals

/-- The raw value `v` of slot `i` is the one its argument lowers to: for an input slot the caller
supplies, the conversion of the caller's argument at the slot's host position; for a hidden
length, the conversion of the recorded element count (zero when none is recorded). -/
def SlotIn (hooks : Hooks) (conv : Nat) (args : List Value) (lengths : List (Nat × Nat)) (i : Nat)
    (s : Slot) (v : Nat) : Prop :=
  s.dir = .input →
    (s.role = .user → ∃ o t t',
      (toNative hooks conv (args.getD (s.host.getD 0) .null) s.typ o).run t = (.ok v, t')) ∧
    (s.role = .length → ∃ o t t',
      (toNative hooks conv (.int .int ((lengths.lookup i).getD 0)) s.typ o).run t = (.ok v, t'))

/-- Lowering one slot keeps the frame's plan, converter, lengths and values and gives the slot
its argument's raw value. -/
theorem lowerSlot_in (hooks : Hooks) (f : CallFrame) (i : Nat) (s : Slot) (args : List Value) :
    Session.Returns (lowerSlot hooks f i s args) fun res =>
      FrameKeeps f res.2 ∧ SlotIn hooks f.conv args f.lengths i s res.1 := by
  unfold lowerSlot
  refine Session.Returns.bind (Session.Returns.anything _) fun st _ => ?_
  extract_lets r input alloc finish
  have halloc : ∀ v, s.dir ≠ .input → Session.Returns (alloc () v) fun res =>
      FrameKeeps f res.2 ∧ SlotIn hooks f.conv args f.lengths i s res.1 := by
    intro v hdir
    have hkeep : ∀ res : Nat × CallFrame, res.2.plan = f.plan → res.2.conv = f.conv →
        res.2.lengths = f.lengths → res.2.vals = f.vals →
        FrameKeeps f res.2 ∧ SlotIn hooks f.conv args f.lengths i s res.1 :=
      fun _ h₁ h₂ h₃ h₄ => ⟨⟨h₁, h₂, h₃, h₄⟩, fun h => absurd h hdir⟩
    simp only [alloc]
    split
    · exact Session.Returns.bind (Session.Returns.anything _) fun addr _ =>
        Session.Returns.pure (hkeep _ rfl rfl rfl rfl)
    · refine Session.Returns.bind (Session.Returns.anything _) fun addr _ => ?_
      refine Session.Returns.bind (Session.Returns.anything _) fun _ _ => ?_
      split
      · refine Session.Returns.bind (Session.Returns.anything _) fun res _ => ?_
        split
        · exact Session.Returns.pure (hkeep _ rfl rfl rfl rfl)
        · exact Session.Returns.throw_bind _ _
      · exact Session.Returns.pure (hkeep _ rfl rfl rfl rfl)
  have hfinish : ∀ v, SlotIn hooks f.conv args f.lengths i s v →
      Session.Returns (finish () v) fun res =>
        FrameKeeps f res.2 ∧ SlotIn hooks f.conv args f.lengths i s res.1 := by
    intro v hv
    simp only [finish]
    split
    · exact Session.Returns.pure ⟨⟨rfl, rfl, rfl, rfl⟩, hv⟩
    · rename_i hdir
      exact halloc v (by simpa using hdir)
  split
  · split
    · rename_i hrole
      refine Session.Returns.bind (Session.Returns.ran _) fun v hv => hfinish v fun _ => ?_
      obtain ⟨t, t', h⟩ := hv
      exact ⟨fun _ => ⟨_, t, t', h⟩, fun h' => absurd (hrole.symm.trans h') (by decide)⟩
    · rename_i hrole
      refine Session.Returns.bind (Session.Returns.ran _) fun v hv => hfinish v fun _ => ?_
      obtain ⟨t, t', h⟩ := hv
      exact ⟨fun h' => absurd (hrole.symm.trans h') (by decide), fun _ => ⟨_, t, t', h⟩⟩
    · rename_i role huser hlength
      exact hfinish _ fun _ => ⟨fun h => absurd h huser, fun h => absurd h hlength⟩
  · rename_i hout
    refine halloc _ fun hdir => ?_
    simp [hdir] at hout

/-- Whether a slot's raw value is the one lowering gave it: every slot but those of user data
and destroy notifiers, which `notify` may fill in. -/
def Slot.lowered (s : Slot) : Bool := s.role != .closure && s.role != .destroy

/-- Filling in user data and destroy notifiers keeps the frame and the number of raw values, and
leaves the receiver and every lowered slot as it was. -/
theorem notify_keeps (f : CallFrame) (raw : Array Nat) :
    Session.Returns (notify f raw) fun res => FrameKeeps f res.1 ∧ res.2.size = raw.size ∧
      (f.plan.method = true → res.2[0]? = raw[0]?) ∧ ∀ i, (f.plan.slot i).lowered = true →
        res.2[(if f.plan.method then 1 else 0) + i]? = raw[(if f.plan.method then 1 else 0) + i]? := by
  unfold notify
  refine Session.Returns.bind (Session.Returns.anything _) fun st _ => ?_
  dsimp only
  refine Session.Returns.bind (Session.Returns.forIn_yield _ _ _ (fun _ b => FrameKeeps f b.2 ∧
    b.1.size = raw.size ∧ (f.plan.method = true → b.1[0]? = raw[0]?) ∧
      ∀ i, (f.plan.slot i).lowered = true →
        b.1[(if f.plan.method then 1 else 0) + i]? = raw[(if f.plan.method then 1 else 0) + i]?)
    ⟨⟨rfl, rfl, rfl, rfl⟩, rfl, fun _ => rfl, fun _ _ => rfl⟩ ?_) fun b hb => Session.Returns.pure hb
  intro k hk b hb
  generalize f.plan.slots.zipIdx[k] = x
  obtain ⟨s, j⟩ := x
  dsimp only
  obtain ⟨hkeep, hsize, hrecv, hlow⟩ := hb
  -- a slot `notify` fills in is one lowering left alone, so the lowered ones keep their values
  have hset : ∀ (raw' : Array Nat) (m v : Nat), (∀ i, (f.plan.slot i).lowered = true →
      raw'[(if f.plan.method then 1 else 0) + i]? = raw[(if f.plan.method then 1 else 0) + i]?) →
      (f.plan.slot m).lowered = false → ∀ i, (f.plan.slot i).lowered = true →
      (raw'.set! ((if f.plan.method then 1 else 0) + m) v)[(if f.plan.method then 1 else 0) + i]? =
        raw[(if f.plan.method then 1 else 0) + i]? := by
    intro raw' m v h hm i hi
    rw [Array.set!_eq_setIfInBounds, Array.getElem?_setIfInBounds_ne fun heq => ?_]
    · exact h i hi
    · rw [show m = i by omega, hi] at hm
      cases hm
  -- after the receiver of a method, so never at its place
  have hset₀ : ∀ (raw' : Array Nat) (m v : Nat), (f.plan.method = true → raw'[0]? = raw[0]?) →
      f.plan.method = true →
      (raw'.set! ((if f.plan.method then 1 else 0) + m) v)[0]? = raw[0]? := by
    intro raw' m v h hm
    rw [Array.set!_eq_setIfInBounds, Array.getElem?_setIfInBounds_ne (by simp [hm]), h hm]
  have hk' : ∀ ns, FrameKeeps f { b.2 with notified := ns } :=
    fun _ => ⟨hkeep.plan, hkeep.conv, hkeep.lengths, hkeep.vals⟩
  have hfilled : ∀ {m : Nat} {role : Role}, role = .closure ∨ role = .destroy →
      (b.2.plan.slot m).role = role → (f.plan.slot m).lowered = false := by
    rintro m role hrole hm
    rw [← hkeep.plan, Slot.lowered, hm]
    rcases hrole with rfl | rfl <;> rfl
  split
  · exact Session.Returns.pure ⟨_, rfl, hkeep, hsize, hrecv, hlow⟩
  split
  · rename_i hclosure
    have hcl := hfilled (Or.inl rfl) (by simp at hclosure; exact hclosure.2)
    split
    · exact Session.Returns.pure ⟨_, rfl, hk' _, by simp [hsize], hset₀ _ _ _ hrecv,
        hset _ _ _ hlow hcl⟩
    · rename_i hdestroy
      have hde := hfilled (Or.inr rfl) (by simp at hdestroy; exact hdestroy.2)
      refine Session.Returns.bind (Session.Returns.anything _) fun res _ => ?_
      split
      · exact Session.Returns.pure ⟨_, rfl, hk' _, by simp [hsize],
          hset₀ _ _ _ (hset₀ _ _ _ hrecv), hset _ _ _ (hset _ _ _ hlow hcl) hde⟩
      · exact Session.Returns.giveUp_bind _ _ _
  · split
    · exact Session.Returns.pure ⟨_, rfl, hk' _, hsize, hrecv, hlow⟩
    · rename_i hdestroy
      have hde := hfilled (Or.inr rfl) (by simp at hdestroy; exact hdestroy.2)
      refine Session.Returns.bind (Session.Returns.anything _) fun res _ => ?_
      split
      · exact Session.Returns.pure ⟨_, rfl, hk' _, by simp [hsize], hset₀ _ _ _ hrecv,
          hset _ _ _ hlow hde⟩
      · exact Session.Returns.giveUp_bind _ _ _

/-- The loop of `lower` after `k` slots, started on the measured frame `f₁` and the raw list
`raw`: the frame keeps its plan, converter and lengths, `raw` stays in front, and each of the
first `k` slots has put the value lowering gave it. -/
structure LoweredUpTo (hooks : Hooks) (f₁ : CallFrame) (args : List Value) (raw : Array Nat)
    (k : Nat) (b : Array Nat × CallFrame) : Prop where
  plan : b.2.plan = f₁.plan
  conv : b.2.conv = f₁.conv
  lengths : b.2.lengths = f₁.lengths
  size : b.1.size = raw.size + k
  front : ∀ i < raw.size, b.1[i]? = raw[i]?
  slots : ∀ i < k, ∃ v, b.1[raw.size + i]? = some v ∧
    SlotIn hooks f₁.conv args f₁.lengths i (f₁.plan.slot i) v

theorem LoweredUpTo.start (hooks : Hooks) (f₁ : CallFrame) (args : List Value) (raw : Array Nat) :
    LoweredUpTo hooks f₁ args raw 0 (raw, f₁) :=
  ⟨rfl, rfl, rfl, rfl, fun _ _ => rfl, fun _ h => absurd h (Nat.not_lt_zero _)⟩

theorem LoweredUpTo.push {hooks : Hooks} {f₁ : CallFrame} {args : List Value} {raw : Array Nat}
    {k : Nat} {b : Array Nat × CallFrame} (hb : LoweredUpTo hooks f₁ args raw k b) {v : Nat}
    {f' : CallFrame} (hkeep : FrameKeeps b.2 f')
    (hv : SlotIn hooks f₁.conv args f₁.lengths k (f₁.plan.slot k) v) (vals : Array Nat) :
    LoweredUpTo hooks f₁ args raw (k + 1) (b.1.push v, { f' with vals }) := by
  refine ⟨hkeep.plan.trans hb.plan, hkeep.conv.trans hb.conv, hkeep.lengths.trans hb.lengths,
    by simp [hb.size]; omega, fun i hi => ?_, fun i hi => ?_⟩
  · rw [Array.getElem?_push, if_neg (by rw [hb.size]; omega)]
    exact hb.front i hi
  · rw [Array.getElem?_push]
    rcases Nat.lt_succ_iff_lt_or_eq.1 hi with hi | rfl
    · rw [if_neg (by rw [hb.size]; omega)]
      exact hb.slots i hi
    · exact ⟨v, by rw [if_pos hb.size.symm], hv⟩

/-- The values of a lowered frame: its lengths are those measuring recorded, a method's receiver
is the non-null pointer of its first argument, and every lowered slot holds its argument's raw
value. -/
theorem lower_slots (hooks : Hooks) (f : CallFrame) (args : List Value) :
    Session.Returns (lower hooks f args) fun res =>
      (∃ t t' f₁, (measure f args).run t = (.ok f₁, t') ∧ res.1.lengths = f₁.lengths) ∧
      (f.plan.method = true → ∃ t t' ptr,
        (receiver hooks (args.getD 0 .null)).run t = (.ok (some ptr), t') ∧ ptr ≠ 0 ∧
        res.2[0]? = some ptr) ∧
      ∀ i, (f.plan.slot i).lowered = true → i < f.plan.slots.length →
        ∃ v, res.2[(if f.plan.method then 1 else 0) + i]? = some v ∧
          SlotIn hooks f.conv args res.1.lengths i (f.plan.slot i) v := by
  unfold lower
  extract_lets p raw₀ finish tail self
  have htail : ∀ raw : Array Nat, raw.size = (if p.method then 1 else 0) →
      Session.Returns (tail () raw) fun res =>
        (∃ t t' f₁, (measure f args).run t = (.ok f₁, t') ∧ res.1.lengths = f₁.lengths) ∧
        (p.method = true → res.2[0]? = raw[0]?) ∧
        ∀ i, (p.slot i).lowered = true → i < p.slots.length →
          ∃ v, res.2[(if p.method then 1 else 0) + i]? = some v ∧
            SlotIn hooks f.conv args res.1.lengths i (p.slot i) v := by
    intro raw hraw
    simp only [tail]
    refine Session.Returns.bind (Session.Returns.attempt_ran _) fun mres hm => ?_
    split
    swap
    · exact Session.Returns.giveUp_bind _ _ _
    rename_i f₁
    obtain ⟨t, t', hmeasure⟩ := hm f₁ rfl
    obtain ⟨hplan₁, hconv₁⟩ := measure_keeps f args t f₁ t' hmeasure
    rw [pure_bind]
    refine Session.Returns.bind (Session.Returns.forIn_yield _ _ _
      (LoweredUpTo hooks f₁ args raw) (LoweredUpTo.start hooks f₁ args raw) ?_) fun b hb => ?_
    · intro k hk b hb
      have hk' : k < p.slots.length := by simpa using hk
      simp only [List.getElem_zipIdx, Nat.zero_add]
      refine Session.Returns.bind (Session.Returns.attempt_ran _) fun r hr => ?_
      split
      · rename_i v f'
        obtain ⟨t, t', hrun⟩ := hr (v, f') rfl
        obtain ⟨hkeep, hin⟩ := lowerSlot_in hooks b.2 k _ args t _ t' hrun
        refine Session.Returns.pure ⟨_, rfl, hb.push hkeep ?_ _⟩
        have hslot : p.slots[k] = f₁.plan.slot k := by
          show f.plan.slots[k] = _
          simp only [hplan₁, Plan.slot, List.getD_eq_getElem?_getD, List.getElem?_eq_getElem (show k < f.plan.slots.length from hk'),
            Option.getD_some]
        rw [← hslot, ← hb.conv, ← hb.lengths]
        exact hin
      · exact Session.Returns.giveUp_bind _ _ _
    simp only [List.length_zipIdx] at hb
    refine Session.Returns.bind (notify_keeps _ _) fun x hx => ?_
    obtain ⟨hkeep, hsize, hrecv, hlow⟩ := hx
    have hplanb : b.2.plan = p := hb.plan.trans hplan₁
    rw [hplanb] at hrecv hlow
    -- whatever the error location adds comes after the slots
    have hdone : ∀ (f₂ : CallFrame) (raw₂ : Array Nat), f₂.lengths = f₁.lengths →
        (∀ i < x.2.size, raw₂[i]? = x.2[i]?) →
        (∃ t t' f₁, (measure f args).run t = (.ok f₁, t') ∧ f₂.lengths = f₁.lengths) ∧
        (p.method = true → raw₂.toList[0]? = raw[0]?) ∧
        ∀ i, (p.slot i).lowered = true → i < p.slots.length →
          ∃ v, raw₂.toList[(if p.method then 1 else 0) + i]? = some v ∧
            SlotIn hooks f.conv args f₂.lengths i (p.slot i) v := by
      intro f₂ raw₂ hl hfront
      refine ⟨⟨t, t', f₁, hmeasure, hl⟩, fun hmethod => ?_, fun i hi hlt => ?_⟩
      · have h0 : 0 < raw.size := by simp [hraw, hmethod]
        rw [Array.getElem?_toList, hfront 0 (by rw [hsize, hb.size]; omega), hrecv hmethod,
          hb.front 0 h0]
      · obtain ⟨v, hv, hin⟩ := hb.slots i hlt
        refine ⟨v, ?_, ?_⟩
        · rw [Array.getElem?_toList, hfront _ (by rw [hsize, hb.size, hraw]; omega), hlow i hi,
            ← hraw, hv]
        · rw [hl, ← hconv₁]
          rw [hplan₁] at hin
          exact hin
    have hlen : x.1.lengths = f₁.lengths := hkeep.lengths.trans hb.lengths
    split
    · refine Session.Returns.bind (Session.Returns.anything _) fun r _ => ?_
      split
      · refine Session.Returns.bind (Session.Returns.anything _) fun _ _ => Session.Returns.pure ?_
        exact hdone _ _ hlen fun i hi => by rw [Array.getElem?_push, if_neg (by omega)]
      · exact Session.Returns.giveUp_bind _ _ _
    · exact Session.Returns.pure (hdone _ _ hlen fun _ _ => rfl)
  split
  · rename_i hmethod
    refine Session.Returns.bind (Session.Returns.ran _) fun ptr hptr => ?_
    split
    next addr =>
      split
      · exact Session.Returns.giveUp_bind _ _ _
      · rename_i hne
        refine Session.Returns.weaken (htail (raw₀.push addr) (by simp [raw₀, hmethod]))
          fun res h => ?_
        obtain ⟨hmeas, hrecv, hslots⟩ := h
        obtain ⟨t, t', hptr⟩ := hptr
        rw [if_pos hmethod] at hslots
        refine ⟨hmeas, fun _ => ⟨t, t', addr, hptr, by simpa using hne, ?_⟩, hslots⟩
        rw [hrecv hmethod]
        rfl
    · exact Session.Returns.giveUp_bind _ _ _
  · rename_i hmethod
    refine Session.Returns.weaken (htail raw₀ (by simp [raw₀, hmethod])) fun res h => ?_
    obtain ⟨hmeas, -, hslots⟩ := h
    rw [if_neg hmethod] at hslots
    exact ⟨hmeas, fun h' => absurd h' hmethod, hslots⟩

/-! ## The frame of a call -/

/-- The frame of a call. From a cache of framed plans, planning gives a framed plan and keeps the
cache framed: the caller supplies exactly `p.want` arguments, the receiver of a method and then
the supplied arguments in declaration order, and the native parameters are the receiver, one per
declared argument and the error location. A call with any other number of arguments fails with
an argument count error, having changed nothing but the repository and the plan cache. A lowered
frame has one raw value per native parameter: a method's receiver first, as the non-null pointer
of the first argument, then one per declared argument, where an input the caller supplies holds
the conversion of the caller's argument at its host position and a hidden length the conversion
of the element count measuring recorded for it; and that count is the element count of every
supplied array that names the length. -/
theorem invoke_frame (hs : PlansFramed s) (hp : (planFor inv c).run s = (.ok p, s₁)) :
    p.Framed ∧ PlansFramed s₁ ∧
    (args.length ≠ p.want → Session.OnlyPlans s s₁ ∧
      (invoke hooks inv c fn args).run s =
        (.error (.fault .encode .conversion [p.name] "" ""
          s!"want {p.want} arguments, got {args.length}" .null
          (some (.argCount [p.name] args.length p.want))), s₁)) ∧
    (∀ f : CallFrame, f.plan = p →
      Session.Returns (lower hooks f args) fun res => res.2.length = p.sig.params.length) ∧
    (∀ f : CallFrame, f.plan = p →
      Session.Returns (lower hooks f args) fun res =>
        (∃ t t' f₁, (measure f args).run t = (.ok f₁, t') ∧ res.1.lengths = f₁.lengths) ∧
        (p.method = true → ∃ t t' ptr,
          (receiver hooks (args.getD 0 .null)).run t = (.ok (some ptr), t') ∧ ptr ≠ 0 ∧
          res.2[0]? = some ptr) ∧
        ∀ i, (p.slot i).lowered = true → i < p.slots.length →
          ∃ v, res.2[(if p.method then 1 else 0) + i]? = some v ∧
            SlotIn hooks f.conv args res.1.lengths i (p.slot i) v) ∧
    (∀ (f f' : CallFrame) (t t' : Session), f.plan = p → (measure f args).run t = (.ok f', t') →
      Measured t.repo p args p.slots f'.lengths) := by
  obtain ⟨hframed, hs₁⟩ := planFor_framed hs hp
  refine ⟨hframed, hs₁, fun hne => ⟨?_, invoke_wrong_count hp hne⟩, fun f hf => ?_,
    fun f hf => ?_, fun f f' t t' hf h => ?_⟩
  · simpa [hp] using stays_planFor inv c s
  · subst hf
    exact (lower_raw_length hooks f args).weaken fun res h => h.trans hframed.params.symm
  · subst hf
    exact lower_slots hooks f args
  · subst hf
    exact measure_lengths h

/-- A throwing method taking an array whose element count travels in a hidden argument: the
caller supplies the receiver and the array, and the native frame has the receiver, the array,
its length and the error location. -/
def arrayPlan : Plan :=
  { ret := default, name := "fill",
    slots := [{ arg := default, typ := default, name := "items", kind := .ptr, dir := .input,
                host := some 1 },
              { arg := default, typ := default, name := "n_items", kind := .i32, dir := .input,
                role := .length }],
    sig := { params := [.ptr, .ptr, .i32, .ptr] }, want := 2, method := true, throws := true,
    skipRet := false, retXfer := .nothing }

/-- A session whose only invoker has the array plan cached for the first entry. -/
def arraySession : Session :=
  { invokers := #[{ handle := 0, conv := 0, plans := [⟨0, 0, arrayPlan⟩] }] }

theorem arrayPlan_framed : arrayPlan.Framed := by
  refine ⟨rfl, fun i hi => ?_, rfl⟩
  rcases i with _ | _ | i
  · rfl
  · rfl
  · simp only [arrayPlan, List.length_cons, List.length_nil] at hi
    omega

theorem arraySession_plansFramed : PlansFramed arraySession := by
  intro inv e he
  rcases inv with _ | inv
  · have he' : e = ⟨0, 0, arrayPlan⟩ := by simpa [arraySession] using he
    subst he'
    exact arrayPlan_framed
  · simp only [arraySession, Array.getD_eq_getD_getElem?, List.getElem?_toArray,
      List.getElem?_cons_succ, List.getElem?_nil, Option.getD_none] at he
    exact absurd he List.not_mem_nil

/-- The array method wants its receiver and the array, and a call with one argument is rejected
on its count; its lowered frames have four raw values. -/
theorem array_method_call_frame :
    PlansFramed arraySession ∧
    (planFor 0 default).run arraySession = (.ok arrayPlan, arraySession) ∧
    arrayPlan.want = 2 ∧
    (invoke Script.hooks 0 default 0 [.null]).run arraySession =
      (.error (.fault .encode .conversion [arrayPlan.name] "" ""
        s!"want {arrayPlan.want} arguments, got {[Value.null].length}" .null
        (some (.argCount [arrayPlan.name] [Value.null].length arrayPlan.want))), arraySession) ∧
    ∀ f : CallFrame, f.plan = arrayPlan →
      Session.Returns (lower Script.hooks f [.null]) fun res => res.2.length = 4 :=
  ⟨arraySession_plansFramed, rfl, rfl,
    ((@invoke_frame Script.hooks 0 0 default [.null] arraySession arraySession arrayPlan
      arraySession_plansFramed rfl).2.2.1 (by decide)).2,
    (@invoke_frame Script.hooks 0 0 default [.null] arraySession arraySession arrayPlan
      arraySession_plansFramed rfl).2.2.2.1⟩

end Introspection.Invoke
