import Mathlib.Data.List.Nodup
import Introspection.Proofs.Marshal.Lifetimes

/-!
# The pool of released callbacks

A shared object's library cannot hand a callback's code address back to the system. A released
callback keeps its address and answers zero; the address waits in the library's idle list under
the text of its slots, and the next callback of the same slots takes it, the one released last
first. A release is guarded by the record at the address: only a callback still bound to a
function goes to the idle list, so no address is filed there twice.

`Pool.Sound` ties a library to the callbacks it handed out and that were not released since:
each answers at its address with the function and the slots of the request that got it, every
callback ever made at that address had slots of the same text, the idle addresses are distinct
and hold released callbacks of the slots they are filed under, and every callback still bound
is one handed out. Requests and releases keep it, so it holds after any sequence of them.
-/

namespace Introspection.Host.Library

open Introspection.Native

/-- The record answering at a code address. -/
def recordAt? (l : Library) (a : Nat) : Option HostFn := (l.lookup a).map l.fn

theorem lookup_of_added {l l' : Library} {a : Nat} {rest : List (Nat × Nat)}
    (haddrs : l'.addrs = (a, l.fns.size) :: rest)
    (hrest : ∀ b, b ≠ a → rest.lookup b = l.addrs.lookup b) (b : Nat) :
    l'.lookup b = if b = a then some l.fns.size else l.lookup b := by
  by_cases hb : b = a
  · subst hb
    simp [lookup, haddrs]
  · have hne : (b == a) = false := by simpa using hb
    simp only [lookup, haddrs, List.lookup_cons, hne, if_neg hb]
    exact hrest b hb

theorem recordAt?_of_added {l l' : Library} {f : HostFn} {a : Nat} {rest : List (Nat × Nat)}
    (hfns : l'.fns = l.fns.push f) (haddrs : l'.addrs = (a, l.fns.size) :: rest)
    (hrest : ∀ b, b ≠ a → rest.lookup b = l.addrs.lookup b)
    (hids : ∀ b id, l.lookup b = some id → id < l.fns.size) (b : Nat) :
    l'.recordAt? b = if b = a then some f else l.recordAt? b := by
  unfold recordAt?
  rw [lookup_of_added haddrs hrest]
  by_cases hb : b = a
  · simp [hb, fn_of_push hfns]
  · rw [if_neg hb, if_neg hb]
    cases h : l.lookup b with
    | none => rfl
    | some id => simp [fn_of_push hfns, Nat.ne_of_lt (hids b id h)]

section Shared

variable {l : Library} {o : SharedObject} {sig : Signature} {body : Body}

theorem newCallback_refused (hs : l.shared = some o) {e : Failure}
    (hr : callbackRefusal sig = some e) : l.newCallback sig body = .error e := by
  simp [newCallback, hs, hr]

theorem newCallback_idle (hs : l.shared = some o) (hr : callbackRefusal sig = none)
    {k : String} {a : Nat} (hf : l.idle.find? (·.1 == sig.text) = some (k, a)) :
    l.newCallback sig body = .ok (a, { l with
      idle := l.idle.erase (sig.text, a)
      fns := l.fns.push
        { name := "callback", body, params := sig.params, result := sig.result, addr := a,
          typed := true, callback := true }
      addrs := (a, l.fns.size) :: l.addrs.filter (·.1 != a) }) := by
  simp [newCallback, hs, hr, hf, addFn]

theorem newCallback_fresh (hs : l.shared = some o) (hr : callbackRefusal sig = none)
    (hf : l.idle.find? (·.1 == sig.text) = none) :
    l.newCallback sig body = .ok (l.next, { l with
      next := l.next + 16
      fns := l.fns.push
        { name := "callback", body, params := sig.params, result := sig.result, addr := l.next,
          typed := true, callback := true }
      addrs := (l.next, l.fns.size) :: l.addrs }) := by
  simp [newCallback, hs, hr, hf, addFn]

theorem freeCallback_bound (hs : l.shared = some o) {a id : Nat} (h : l.lookup a = some id)
    (hc : (l.fn id).callback = true) (hb : (l.fn id).body ≠ .released) :
    l.freeCallback a = { l with
      fns := l.fns.push { l.fn id with body := .released }
      addrs := (a, l.fns.size) :: l.addrs.filter (·.1 != a)
      idle := ((l.fn id).signature.text, a) :: l.idle } := by
  have hb' : ((l.fn id).body == .released) = false := by simpa using hb
  simp only [lookup] at h
  simp [freeCallback, h, hc, hs, hb', addFn]

theorem freeCallback_unbound (hs : l.shared = some o) {a : Nat}
    (h : ∀ f, l.recordAt? a = some f → f.callback = true → f.body = .released) :
    l.freeCallback a = l := by
  unfold freeCallback
  cases hlook : l.addrs.lookup a with
  | none => rfl
  | some id =>
    have hrec : l.recordAt? a = some (l.fn id) := by simp [recordAt?, lookup, hlook]
    by_cases hc : (l.fn id).callback = true
    · simp [hc, hs, h _ hrec hc]
    · simp [hc]

end Shared

/-! ## Requests and the invariant -/

/-- A request to a library's callback pool: a callback of some slots running a function, or
the release of a code address. The released marker is no function. -/
inductive PoolOp where
  | get (sig : Signature) (body : Body) (bound : body ≠ .released)
  | put (addr : Nat)

/-- A library with the callbacks it handed out and that were not released since, newest first:
each address with the slots and the function of the request that got it. -/
structure Pool where
  lib : Library
  out : List (Nat × Signature × Body)

namespace Pool

/-- The addresses handed out and not released since. -/
def handed (p : Pool) : List Nat := p.out.map (·.1)

/-- One request. A refused callback changes nothing; a release ends whatever was handed out at
its address. -/
def step (p : Pool) : PoolOp → Pool
  | .get sig body _ =>
    match p.lib.newCallback sig body with
    | .ok (addr, l) => ⟨l, (addr, sig, body) :: p.out⟩
    | .error _ => p
  | .put addr => ⟨p.lib.freeCallback addr, p.out.filter (·.1 != addr)⟩

/-- The pool after a sequence of requests. -/
def run (p : Pool) (ops : List PoolOp) : Pool := ops.foldl step p

/-- The invariant of the pool. -/
structure Sound (p : Pool) : Prop where
  shared : p.lib.shared.isSome
  /-- Every live address lies below the next fresh one and names a record that carries it. -/
  live : ∀ a id, p.lib.lookup a = some id →
    a < p.lib.next ∧ id < p.lib.fns.size ∧ (p.lib.fn id).addr = a
  /-- Every callback ever made lies below the next fresh address. -/
  fresh : ∀ f ∈ p.lib.fns, f.callback = true → f.addr < p.lib.next
  /-- The callbacks ever made at one address have slots of the same text. -/
  keyed : ∀ f ∈ p.lib.fns, ∀ g ∈ p.lib.fns, f.callback = true → g.callback = true →
    f.addr = g.addr → f.signature.text = g.signature.text
  handed_nodup : p.handed.Nodup
  /-- A callback handed out runs the function of its request, with its slots. -/
  handed : ∀ e ∈ p.out, ∃ f, p.lib.recordAt? e.1 = some f ∧ f.callback = true ∧
    f.body = e.2.2 ∧ f.signature = e.2.1
  handed_bound : ∀ e ∈ p.out, e.2.2 ≠ .released
  idle_nodup : (p.lib.idle.map (·.2)).Nodup
  /-- An idle address holds a released callback of the slots it is filed under. -/
  idle : ∀ e ∈ p.lib.idle, ∃ f, p.lib.recordAt? e.2 = some f ∧ f.callback = true ∧
    f.body = .released ∧ f.signature.text = e.1
  /-- Every callback still bound is handed out. -/
  covered : ∀ a f, p.lib.recordAt? a = some f → f.callback = true → f.body ≠ .released →
    a ∈ p.handed

namespace Sound

variable {p : Pool}

theorem ids_lt (hp : p.Sound) {a id : Nat} (h : p.lib.lookup a = some id) : id < p.lib.fns.size :=
  (hp.live a id h).2.1

theorem recordAt_live (hp : p.Sound) {a : Nat} {f : HostFn}
    (h : p.lib.recordAt? a = some f) : f ∈ p.lib.fns ∧ f.addr = a ∧ a < p.lib.next := by
  obtain ⟨id, hid, rfl⟩ := Option.map_eq_some_iff.1 h
  obtain ⟨hlt, hsize, haddr⟩ := hp.live a id hid
  exact ⟨by simp [fn, Array.getD_eq_getD_getElem?, hsize], haddr, hlt⟩

theorem recordAt_ne_next (hp : p.Sound) {a : Nat} {f : HostFn}
    (h : p.lib.recordAt? a = some f) : a ≠ p.lib.next :=
  Nat.ne_of_lt (hp.recordAt_live h).2.2

theorem idle_not_handed (hp : p.Sound) {a : Nat} (ha : a ∈ p.lib.idle.map (·.2)) :
    a ∉ p.handed := by
  intro hh
  obtain ⟨e, he, rfl⟩ := List.mem_map.1 ha
  obtain ⟨d, hd, hde⟩ := List.mem_map.1 hh
  obtain ⟨f, hf, -, hrel, -⟩ := hp.idle e he
  obtain ⟨g, hg, -, hbody, -⟩ := hp.handed d hd
  rw [hde, hf, Option.some.injEq] at hg
  subst hg
  exact hp.handed_bound d hd (hbody ▸ hrel)

theorem handed_recordAt (hp : p.Sound) {a : Nat} (ha : a ∈ p.handed) :
    ∃ f, p.lib.recordAt? a = some f := by
  obtain ⟨e, he, rfl⟩ := List.mem_map.1 ha
  obtain ⟨f, hf, -⟩ := hp.handed e he
  exact ⟨f, hf⟩

theorem added (hp : p.Sound) {l' : Library} {f : HostFn} {a : Nat} {rest : List (Nat × Nat)}
    (hfns : l'.fns = p.lib.fns.push f) (haddrs : l'.addrs = (a, p.lib.fns.size) :: rest)
    (hrest : ∀ b, b ≠ a → rest.lookup b = p.lib.addrs.lookup b)
    (hnext : p.lib.next ≤ l'.next) (ha : a < l'.next) (hfa : f.addr = a)
    (hkeyed : ∀ g ∈ p.lib.fns, g.callback = true → g.addr = a →
      g.signature.text = f.signature.text) :
    (∀ b id, l'.lookup b = some id → b < l'.next ∧ id < l'.fns.size ∧ (l'.fn id).addr = b) ∧
      (∀ g ∈ l'.fns, g.callback = true → g.addr < l'.next) ∧
      ∀ g ∈ l'.fns, ∀ g' ∈ l'.fns, g.callback = true → g'.callback = true → g.addr = g'.addr →
        g.signature.text = g'.signature.text := by
  refine ⟨fun b id hb => ?_, fun g hg hcb => ?_, fun g hg g' hg' hc hc' hga => ?_⟩
  · rw [lookup_of_added haddrs hrest] at hb
    by_cases hba : b = a
    · rw [if_pos hba, Option.some.injEq] at hb
      subst hba hb
      simp [fn_of_push hfns, hfns, ha, hfa]
    · rw [if_neg hba] at hb
      obtain ⟨hlt, hsize, haddr⟩ := hp.live b id hb
      refine ⟨by omega, by rw [hfns, Array.size_push]; omega, ?_⟩
      rw [fn_of_push hfns, if_neg (Nat.ne_of_lt hsize)]
      exact haddr
  · rw [hfns, Array.mem_push] at hg
    rcases hg with hg | rfl
    · have := hp.fresh g hg hcb
      omega
    · exact hfa ▸ ha
  · rw [hfns, Array.mem_push] at hg hg'
    rcases hg with hg | rfl <;> rcases hg' with hg' | rfl
    · exact hp.keyed g hg g' hg' hc hc' hga
    · exact hkeyed g hg hc (hga.trans hfa)
    · exact (hkeyed g' hg' hc' (hga.symm.trans hfa)).symm
    · rfl

theorem bind_at (hp : p.Sound) {l' : Library} {a : Nat} {sig : Signature} {body : Body}
    {rest : List (Nat × Nat)} (hbody : body ≠ .released) (hshared : l'.shared = p.lib.shared)
    (hfns : l'.fns = p.lib.fns.push
      { name := "callback", body, params := sig.params, result := sig.result, addr := a,
        typed := true, callback := true })
    (haddrs : l'.addrs = (a, p.lib.fns.size) :: rest)
    (hrest : ∀ b, b ≠ a → rest.lookup b = p.lib.addrs.lookup b)
    (hnext : p.lib.next ≤ l'.next) (ha : a < l'.next) (hout : a ∉ p.handed)
    (hkeyed : ∀ g ∈ p.lib.fns, g.callback = true → g.addr = a → g.signature.text = sig.text)
    (hidle : ∀ e ∈ l'.idle, e ∈ p.lib.idle ∧ e.2 ≠ a) (hidle_nodup : (l'.idle.map (·.2)).Nodup) :
    (Pool.mk l' ((a, sig, body) :: p.out)).Sound := by
  have hrec := recordAt?_of_added hfns haddrs hrest (fun _ _ h => hp.ids_lt h)
  have hkeep : ∀ e ∈ p.out, l'.recordAt? e.1 = p.lib.recordAt? e.1 := fun e he => by
    have hmem : e.1 ∈ p.handed := List.mem_map_of_mem he
    rw [hrec, if_neg (fun h : e.1 = a => hout (h ▸ hmem))]
  obtain ⟨hlive, hfresh, hkeyed'⟩ := hp.added hfns haddrs hrest hnext ha rfl hkeyed
  refine ⟨hshared ▸ hp.shared, hlive, hfresh, hkeyed', ?_, ?_, ?_, hidle_nodup, ?_, ?_⟩
  ·
    exact List.nodup_cons.2 ⟨hout, hp.handed_nodup⟩
  · intro e he
    rcases List.mem_cons.1 he with rfl | he
    · exact ⟨_, (hrec a).trans (if_pos rfl), rfl, rfl, rfl⟩
    · rw [hkeep e he]
      exact hp.handed e he
  · intro e he
    rcases List.mem_cons.1 he with rfl | he
    · exact hbody
    · exact hp.handed_bound e he
  · intro e he
    obtain ⟨he, hea⟩ := hidle e he
    rw [hrec, if_neg hea]
    exact hp.idle e he
  · dsimp only
    intro b g hg hcb hbound
    rw [hrec] at hg
    by_cases hba : b = a
    · exact hba ▸ List.mem_cons_self
    · rw [if_neg hba] at hg
      exact List.mem_cons_of_mem _ (hp.covered b g hg hcb hbound)

theorem release_at (hp : p.Sound) {a id : Nat} (hlook : p.lib.lookup a = some id)
    (hcb : (p.lib.fn id).callback = true) (hbound : (p.lib.fn id).body ≠ .released)
    {l' : Library} (hshared : l'.shared = p.lib.shared) (hnext : l'.next = p.lib.next)
    (hfns : l'.fns = p.lib.fns.push { p.lib.fn id with body := .released })
    (haddrs : l'.addrs = (a, p.lib.fns.size) :: p.lib.addrs.filter (·.1 != a))
    (hidle : l'.idle = ((p.lib.fn id).signature.text, a) :: p.lib.idle) :
    (Pool.mk l' (p.out.filter (·.1 != a))).Sound := by
  have hrec := recordAt?_of_added hfns haddrs (fun _ hb => List.lookup_filter_ne _ hb)
    (fun _ _ h => hp.ids_lt h)
  have hf : p.lib.recordAt? a = some (p.lib.fn id) := by simp [recordAt?, hlook]
  obtain ⟨hmem, haddr, hlt⟩ := hp.recordAt_live hf
  have hha : a ∈ p.handed := hp.covered a _ hf hcb hbound
  have hnotidle : a ∉ p.lib.idle.map (·.2) := fun h => hp.idle_not_handed h hha
  obtain ⟨hlive, hfresh, hkeyed⟩ := hp.added hfns haddrs (fun _ hb => List.lookup_filter_ne _ hb)
    (Nat.le_of_eq hnext.symm) (hnext ▸ haddr ▸ hlt) haddr
    fun g hg hc hga => hp.keyed g hg (p.lib.fn id) hmem hc hcb (hga.trans haddr.symm)
  refine ⟨hshared ▸ hp.shared, hlive, hfresh, hkeyed, ?_, ?_, ?_, ?_, ?_, ?_⟩
  · exact (hp.handed_nodup.sublist (List.filter_sublist.map _))
  · intro e he
    obtain ⟨he, hea⟩ := List.mem_filter.1 he
    have hea : e.1 ≠ a := by simpa using hea
    dsimp only
    rw [hrec, if_neg hea]
    exact hp.handed e he
  · intro e he
    exact hp.handed_bound e (List.mem_filter.1 he).1
  · dsimp only
    rw [hidle]
    exact List.nodup_cons.2 ⟨hnotidle, hp.idle_nodup⟩
  · intro e he
    dsimp only at he ⊢
    rw [hidle] at he
    rcases List.mem_cons.1 he with rfl | he
    · exact ⟨_, (hrec a).trans (if_pos rfl), hcb, rfl, rfl⟩
    · have hea : e.2 ≠ a := fun h => hnotidle (h ▸ List.mem_map_of_mem he)
      rw [hrec, if_neg hea]
      exact hp.idle e he
  · intro b g hg hc hb
    dsimp only at hg
    rw [hrec] at hg
    by_cases hba : b = a
    · rw [if_pos hba, Option.some.injEq] at hg
      exact absurd (hg ▸ rfl) hb
    · rw [if_neg hba] at hg
      obtain ⟨e, he, hbe⟩ := List.mem_map.1 (hp.covered b g hg hc hb)
      exact List.mem_map.2 ⟨e, List.mem_filter.2 ⟨he, by simpa [hbe] using hba⟩, hbe⟩

theorem step_put_unhanded (hp : p.Sound) {a : Nat} (ha : a ∉ p.handed) : p.step (.put a) = p := by
  obtain ⟨o, hs⟩ := Option.isSome_iff_exists.1 hp.shared
  have hfree : p.lib.freeCallback a = p.lib := freeCallback_unbound hs fun f hf hcb => by
    by_contra hbound
    exact ha (hp.covered a f hf hcb hbound)
  have hout : p.out.filter (·.1 != a) = p.out := List.filter_eq_self.2 fun e he => by
    have hea : e.1 ≠ a := fun h => ha (h ▸ List.mem_map_of_mem he)
    simpa using hea
  simp only [Pool.step, hfree, hout]

theorem step (hp : p.Sound) (op : PoolOp) : (p.step op).Sound := by
  obtain ⟨o, hs⟩ := Option.isSome_iff_exists.1 hp.shared
  cases op with
  | get sig body hbody =>
    cases hr : callbackRefusal sig with
    | some e =>
      simp only [Pool.step, newCallback_refused hs hr]
      exact hp
    | none =>
      cases hf : p.lib.idle.find? (·.1 == sig.text) with
      | none =>
        simp only [Pool.step, newCallback_fresh hs hr hf]
        refine hp.bind_at hbody rfl rfl rfl (fun _ _ => rfl) (by dsimp only; omega)
          (by dsimp only; omega) ?_ ?_ ?_ hp.idle_nodup
        · intro hh
          obtain ⟨f, hf⟩ := hp.handed_recordAt hh
          exact hp.recordAt_ne_next hf rfl
        · intro g hg hcb hga
          exact absurd hga (Nat.ne_of_lt (hp.fresh g hg hcb))
        · intro e he
          obtain ⟨f, hf, -⟩ := hp.idle e he
          exact ⟨he, hp.recordAt_ne_next hf⟩
      | some ka =>
        obtain ⟨k, a⟩ := ka
        have hmem : (k, a) ∈ p.lib.idle := List.mem_of_find?_eq_some hf
        have hk : k = sig.text := by simpa using List.find?_some hf
        obtain ⟨f₀, hf₀, hcb₀, -, htext₀⟩ := hp.idle _ hmem
        obtain ⟨hmem₀, haddr₀, hlt₀⟩ := hp.recordAt_live hf₀
        have hnodup := hp.idle_nodup
        simp only [Pool.step, newCallback_idle hs hr hf]
        refine hp.bind_at hbody rfl rfl rfl (fun _ hb => List.lookup_filter_ne _ hb)
          (Nat.le_refl _) hlt₀
          (hp.idle_not_handed (List.mem_map_of_mem hmem)) ?_ ?_
          (hnodup.sublist (List.erase_sublist.map _))
        · intro g hg hcb hga
          rw [← hk]
          exact (hp.keyed g hg f₀ hmem₀ hcb hcb₀ (hga.trans haddr₀.symm)).trans htext₀
        · intro e he
          rw [← hk] at he
          have he' := List.mem_of_mem_erase he
          refine ⟨he', fun hea => ?_⟩
          have hek : e = (k, a) := List.inj_on_of_nodup_map hnodup he' hmem hea
          exact ((List.Nodup.mem_erase_iff (hnodup.of_map _)).1 he).1 hek
  | put a =>
    by_cases ha : a ∈ p.handed
    · obtain ⟨e, he, rfl⟩ := List.mem_map.1 ha
      obtain ⟨f, hf, hcb, hbody, -⟩ := hp.handed e he
      obtain ⟨id, hid, rfl⟩ := Option.map_eq_some_iff.1 hf
      have hbound : (p.lib.fn id).body ≠ .released := hbody ▸ hp.handed_bound e he
      simp only [Pool.step, freeCallback_bound hs hid hcb hbound]
      exact hp.release_at hid hcb hbound rfl rfl rfl rfl rfl
    · rw [hp.step_put_unhanded ha]
      exact hp

theorem run (hp : p.Sound) (ops : List PoolOp) : (p.run ops).Sound := by
  induction ops generalizing p with
  | nil => exact hp
  | cons op ops ih => exact ih (hp.step op)

theorem start (o : SharedObject) (name : String) : (Pool.mk (openShared o name) []).Sound where
  shared := rfl
  live := by simp [openShared, create, lookup]
  fresh := by simp [openShared, create]
  keyed := by simp [openShared, create]
  handed_nodup := List.nodup_nil
  handed := by simp
  handed_bound := by simp
  idle_nodup := List.nodup_nil
  idle := by simp [openShared, create]
  covered := by simp [openShared, create, recordAt?, lookup]

end Sound

end Pool

/-- The callback pool of a shared object's library after any sequence of requests and releases.
The callbacks handed out and not released since are at distinct addresses. Each answers at its
address with the function of the request that got it, with that request's slots, and every
callback ever made at the address had slots of the same text. The idle addresses are distinct,
none is handed out, and each holds a released callback of the slots it is filed under. Releasing
an address where no callback was made, or an idle one, changes nothing. -/
theorem callbackPool_after_any_run (o : SharedObject) (name : String) (ops : List PoolOp) :
    let p := (Pool.mk (openShared o name) []).run ops
    p.handed.Nodup ∧
      (∀ e ∈ p.out, ∃ f, p.lib.recordAt? e.1 = some f ∧ f.callback = true ∧ f.body = e.2.2 ∧
        f.signature = e.2.1 ∧
        ∀ g ∈ p.lib.fns, g.callback = true → g.addr = e.1 → g.signature.text = e.2.1.text) ∧
      (p.lib.idle.map (·.2)).Nodup ∧
      (∀ e ∈ p.lib.idle, e.2 ∉ p.handed ∧ ∃ f, p.lib.recordAt? e.2 = some f ∧
        f.callback = true ∧ f.body = .released ∧ f.signature.text = e.1) ∧
      ∀ a, (∀ f, p.lib.recordAt? a = some f → f.callback = false) ∨ a ∈ p.lib.idle.map (·.2) →
        p.lib.freeCallback a = p.lib := by
  intro p
  have hp : p.Sound := (Pool.Sound.start o name).run ops
  refine ⟨hp.handed_nodup, ?_, hp.idle_nodup, ?_, ?_⟩
  · intro e he
    obtain ⟨f, hf, hcb, hbody, hsig⟩ := hp.handed e he
    obtain ⟨hmem, haddr, -⟩ := hp.recordAt_live hf
    refine ⟨f, hf, hcb, hbody, hsig, fun g hg hcg hga => ?_⟩
    rw [← hsig]
    exact hp.keyed g hg f hmem hcg hcb (hga.trans haddr.symm)
  · intro e he
    exact ⟨hp.idle_not_handed (List.mem_map_of_mem he), hp.idle e he⟩
  ·
    intro a ha
    obtain ⟨o', hs⟩ := Option.isSome_iff_exists.1 hp.shared
    refine freeCallback_unbound hs fun f hf hcb => ?_
    rcases ha with ha | ha
    · rw [ha f hf] at hcb
      cases hcb
    · obtain ⟨e, he, rfl⟩ := List.mem_map.1 ha
      obtain ⟨g, hg, -, hrel, -⟩ := hp.idle e he
      rw [hf, Option.some.injEq] at hg
      exact hg ▸ hrel

end Introspection.Host.Library
