import Introspection.Finalize

/-!
# The life of a registration

A registration ends with the first call that concerns it among its release, its detach, a later
track of its wrapper and the closing of the registry. Its destructor runs when, and only when,
that call is its release, so no destructor runs twice; the live registrations are those made and
not yet ended; after the registry is closed no track succeeds and no destructor runs; and each
registration is heard of by observers as tracked, then at most once as released or failed.

The registry is driven here by lists of calls from a fresh registry. Every registry such a run
reaches satisfies `Registry.WF`: live ids are distinct and given out, and a closed registry has
nothing live.
-/

namespace Introspection.Finalize

variable {δ : Type}

/-- Whether a call ends a registration that is live: its release or detach, a track of its
wrapper with a pointer and a destructor, and closing the registry. -/
def Op.ends : Op δ → Registration δ → Bool
  | .track (some w) ptr (some _), reg => w == reg.wrapper && ptr != 0
  | .track .., _ => false
  | .release id, reg | .detach id, reg => id == reg.id
  | .close, _ => true

def Op.isRelease : Op δ → Bool
  | .release _ => true
  | _ => false

def Op.isTrack : Op δ → Bool
  | .track .. => true
  | _ => false

/-- The first of a list of calls that ends a registration. -/
def endingCall (reg : Registration δ) (ops : List (Op δ)) : Option (Op δ) :=
  ops.find? (·.ends reg)

@[simp] theorem endingCall_nil (reg : Registration δ) : endingCall reg [] = none := rfl

theorem endingCall_cons (reg : Registration δ) (op : Op δ) (ops : List (Op δ)) :
    endingCall reg (op :: ops) = if op.ends reg then some op else endingCall reg ops := by
  unfold endingCall
  cases h : op.ends reg <;> simp [h]

/-- The event observers hear when a registration's destructor has run. -/
def ranEvent (run : Registration δ → Option Failure) (reg : Registration δ) : Event :=
  match run reg with
  | some cause => ⟨.failed, reg.id, reg.ptr, some (Failure.finalization reg.ptr (some cause))⟩
  | none => ⟨.released, reg.id, reg.ptr, none⟩

theorem ranEvent_id (run : Registration δ → Option Failure) (reg : Registration δ) :
    (ranEvent run reg).id = reg.id := by
  unfold ranEvent
  split <;> rfl

theorem ranEvent_type (run : Registration δ → Option Failure) (reg : Registration δ) :
    (ranEvent run reg).type = .released ∨ (ranEvent run reg).type = .failed := by
  unfold ranEvent
  split
  · exact .inr rfl
  · exact .inl rfl

/-- What observers hear of one registration id in a run, in order. -/
def heard (id : Nat) (outs : List (Outcome δ)) : List EventType :=
  ((outs.flatMap (·.events)).filter (·.id == id)).map (·.type)

theorem heard_cons (id : Nat) (o : Outcome δ) (outs : List (Outcome δ)) :
    heard id (o :: outs) = (o.events.filter (·.id == id)).map (·.type) ++ heard id outs := by
  simp [heard]

namespace Registry

variable {run : Registration δ → Option Failure} {r : Registry δ}

/-- Runs calls one after another: the registry they leave and what each did. -/
def runAll (run : Registration δ → Option Failure) (r : Registry δ) :
    List (Op δ) → Registry δ × List (Outcome δ)
  | [] => (r, [])
  | op :: ops =>
    let rest := runAll run (r.step run op).1 ops
    (rest.1, (r.step run op).2 :: rest.2)

/-- The registrations a run of calls makes, each with the calls that follow it. -/
def made (run : Registration δ → Option Failure) (r : Registry δ) :
    List (Op δ) → List (Registration δ × List (Op δ))
  | [] => []
  | op :: ops => ((r.step run op).2.made.map (·, ops)).toList ++ made run (r.step run op).1 ops

@[simp] theorem runAll_nil : runAll run r [] = (r, []) := rfl

@[simp] theorem runAll_cons (op : Op δ) (ops : List (Op δ)) :
    runAll run r (op :: ops) =
      ((runAll run (r.step run op).1 ops).1,
        (r.step run op).2 :: (runAll run (r.step run op).1 ops).2) := rfl

@[simp] theorem made_nil : made run r [] = [] := rfl

@[simp] theorem made_cons (op : Op δ) (ops : List (Op δ)) :
    made run r (op :: ops) =
      ((r.step run op).2.made.map (·, ops)).toList ++ made run (r.step run op).1 ops := rfl

/-- What every registry that calls reach satisfies. -/
structure WF (r : Registry δ) : Prop where
  nodup : (r.live.map (·.id)).Nodup
  given : ∀ reg ∈ r.live, reg.id ≤ r.last
  closed_empty : r.closed = true → r.live = []

theorem wf_fresh (k : Nat) : ({ observers := k } : Registry δ).WF :=
  ⟨List.nodup_nil, (fun _ h => nomatch h), fun _ => rfl⟩

/-! ## Taking a registration out -/

theorem take_fst (r : Registry δ) (id : Nat) : (r.take id).1 = r.live.find? (·.id == id) := by
  unfold take
  split
  · next reg h => exact h.symm
  · next h => exact h.symm

theorem take_live (r : Registry δ) (id : Nat) :
    (r.take id).2.live = r.live.filter (·.id != id) := by
  unfold take
  split
  · rfl
  · rename_i h
    refine (List.filter_eq_self.2 fun reg hreg => ?_).symm
    simpa using List.find?_eq_none.1 h reg hreg

theorem take_frame (r : Registry δ) (id : Nat) :
    (r.take id).2.last = r.last ∧ (r.take id).2.closed = r.closed ∧
      (r.take id).2.observers = r.observers := by
  unfold take
  split <;> exact ⟨rfl, rfl, rfl⟩

theorem filter_id_eq {l : List (Registration δ)} (hn : (l.map (·.id)).Nodup) (id : Nat) :
    l.filter (fun reg => id == reg.id) = (l.find? (·.id == id)).toList := by
  induction l with
  | nil => rfl
  | cons a l ih =>
      rw [List.map_cons, List.nodup_cons] at hn
      by_cases ha : a.id = id
      · have hrest : l.filter (fun reg => id == reg.id) = [] := by
          refine List.filter_eq_nil_iff.2 fun reg hreg hid => hn.1 ?_
          rw [ha, eq_of_beq hid]
          exact List.mem_map_of_mem hreg
        simp [ha, hrest]
      · have hne : (id == a.id) = false := by simpa using Ne.symm ha
        simp [hne, ha, ih hn.2]

/-! ## One call -/

/-- Whether a track is accepted: it names a wrapper, a pointer and a destructor, and the registry
is open. -/
def Accepts (r : Registry δ) (w : Option Nat) (ptr : Nat) (d : Option δ) : Prop :=
  ∃ w' d', w = some w' ∧ d = some d' ∧ ptr ≠ 0 ∧ r.closed = false

theorem step_track_ok {w ptr : Nat} {d : δ} (hp : ptr ≠ 0) (hc : r.closed = false) :
    r.step run (.track (some w) ptr (some d)) =
      ({ r with
          live := r.live.filter (·.wrapper != w) ++ [⟨r.last + 1, ptr, w, d⟩]
          last := r.last + 1 },
        { made := some ⟨r.last + 1, ptr, w, d⟩
          events := r.observed ⟨.tracked, r.last + 1, ptr, none⟩ }) := by
  simp [step, track, hp, hc, observed]

theorem step_track_refused (run : Registration δ → Option Failure) {w : Option Nat} {ptr : Nat}
    {d : Option δ} (h : ¬ r.Accepts w ptr d) :
    ∃ f, r.step run (.track w ptr d) = (r, { error := some f }) := by
  cases w with
  | none => exact ⟨_, rfl⟩
  | some w =>
      cases d with
      | none =>
          by_cases hp : ptr = 0 <;> simp [step, track, hp]
      | some d =>
          have hpc : ptr = 0 ∨ r.closed = true := by
            by_cases hp : ptr = 0
            · exact .inl hp
            · exact .inr (by simpa [Accepts, hp] using h)
          rcases hpc with hp | hc
          · simp [step, track, hp]
          · by_cases hp : ptr = 0 <;> simp [step, track, hp, hc]

theorem ends_of_refused {w : Option Nat} {ptr : Nat} {d : Option δ}
    (h : ¬ r.Accepts w ptr d) (hc : r.closed = false) (reg : Registration δ) :
    (Op.track w ptr d).ends reg = false := by
  cases w with
  | none => rfl
  | some w =>
      cases d with
      | none => rfl
      | some d =>
          have hp : ptr = 0 := by
            by_cases hp : ptr = 0
            · exact hp
            · exact absurd ⟨w, d, rfl, rfl, hp, hc⟩ h
          simp [Op.ends, hp]

/-- What a release that runs a destructor did. -/
def ranOutcome (run : Registration δ → Option Failure) (r : Registry δ)
    (reg : Registration δ) : Outcome δ :=
  { ran := some reg
    events := r.observed (ranEvent run reg)
    error := (run reg).map fun cause => Failure.finalization reg.ptr (some cause) }

theorem step_release (id : Nat) :
    r.step run (.release id) = ((r.take id).2, ((r.take id).1.map (ranOutcome run r)).getD {}) := by
  simp only [step]
  cases ht : r.take id with
  | mk reg? r' =>
      have hobs : r'.observers = r.observers := by
        have h := (take_frame r id).2.2
        rwa [ht] at h
      cases reg? with
      | none => rfl
      | some reg =>
          simp only [ranOutcome, ranEvent, Option.map_some, Option.getD_some, observed, hobs]
          cases run reg <;> rfl

theorem step_detach (id : Nat) : r.step run (.detach id) = ((r.take id).2, {}) := rfl

theorem step_close : r.step run .close = (r.close, {}) := rfl

/-! ## What one call does -/

theorem step_observers (op : Op δ) : (r.step run op).1.observers = r.observers := by
  cases op with
  | track w ptr d =>
      by_cases hv : r.Accepts w ptr d
      · obtain ⟨w, d, rfl, rfl, hp, hc⟩ := hv
        rw [step_track_ok hp hc]
      · obtain ⟨f, hf⟩ := step_track_refused run hv
        rw [hf]
  | release id =>
      rw [step_release]
      exact (take_frame r id).2.2
  | detach id => exact (take_frame r id).2.2
  | close => rfl

theorem step_live (hc : r.closed = true → r.live = []) (op : Op δ) :
    (r.step run op).1.live =
      r.live.filter (fun reg => !op.ends reg) ++ (r.step run op).2.made.toList := by
  cases op with
  | track w ptr d =>
      by_cases hv : r.Accepts w ptr d
      · obtain ⟨w, d, rfl, rfl, hp, hopen⟩ := hv
        rw [step_track_ok hp hopen]
        have hp' : (ptr == 0) = false := by simpa using hp
        simp [Op.ends, hp', bne, Bool.beq_comm]
      · obtain ⟨f, hf⟩ := step_track_refused run hv
        rw [hf]
        cases hopen : r.closed
        · have hkeep : r.live.filter (fun reg => !(Op.track w ptr d).ends reg) = r.live :=
            List.filter_eq_self.2 fun reg _ => by simp [ends_of_refused hv hopen reg]
          simp [hkeep]
        · simp [hc hopen]
  | release id =>
      rw [step_release, take_live]
      cases (r.take id).1 <;> simp [Op.ends, ranOutcome, bne, Bool.beq_comm]
  | detach id =>
      rw [step_detach, take_live]
      simp [Op.ends, bne, Bool.beq_comm]
  | close => simp [step_close, close, Op.ends]

theorem step_made {reg : Registration δ} {op : Op δ} (h : (r.step run op).2.made = some reg) :
    reg.id = r.last + 1 ∧ (r.step run op).1.last = r.last + 1 ∧ r.closed = false := by
  cases op with
  | track w ptr d =>
      by_cases hv : r.Accepts w ptr d
      · obtain ⟨w, d, rfl, rfl, hp, hopen⟩ := hv
        rw [step_track_ok hp hopen] at h ⊢
        cases h
        exact ⟨rfl, rfl, hopen⟩
      · obtain ⟨f, hf⟩ := step_track_refused run hv
        rw [hf] at h
        cases h
  | release id =>
      rw [step_release] at h
      cases ht : (r.take id).1 <;> simp [ht, ranOutcome] at h
  | detach id => cases h
  | close => cases h

theorem step_last_of_none {op : Op δ} (h : (r.step run op).2.made = none) :
    (r.step run op).1.last = r.last := by
  cases op with
  | track w ptr d =>
      by_cases hv : r.Accepts w ptr d
      · obtain ⟨w, d, rfl, rfl, hp, hopen⟩ := hv
        rw [step_track_ok hp hopen] at h
        cases h
      · obtain ⟨f, hf⟩ := step_track_refused run hv
        rw [hf]
  | release id =>
      rw [step_release]
      exact (take_frame r id).1
  | detach id => exact (take_frame r id).1
  | close => rfl

theorem step_last_le (op : Op δ) : r.last ≤ (r.step run op).1.last := by
  cases h : (r.step run op).2.made with
  | none => exact Nat.le_of_eq (step_last_of_none h).symm
  | some reg =>
      rw [(step_made h).2.1]
      exact Nat.le_succ _

theorem step_ran {reg : Registration δ} {op : Op δ} (h : (r.step run op).2.ran = some reg) :
    reg ∈ r.live ∧ op = .release reg.id := by
  cases op with
  | track w ptr d =>
      by_cases hv : r.Accepts w ptr d
      · obtain ⟨w, d, rfl, rfl, hp, hopen⟩ := hv
        rw [step_track_ok hp hopen] at h
        cases h
      · obtain ⟨f, hf⟩ := step_track_refused run hv
        rw [hf] at h
        cases h
  | release id =>
      rw [step_release, take_fst] at h
      cases ht : r.live.find? (·.id == id) with
      | none => simp [ht] at h
      | some found =>
          simp only [ht, Option.map_some, Option.getD_some, ranOutcome, Option.some.injEq] at h
          subst h
          have hid := List.find?_some ht
          exact ⟨List.mem_of_find?_eq_some ht, by rw [eq_of_beq hid]⟩
  | detach id => cases h
  | close => cases h

theorem step_ran_toList (hn : (r.live.map (·.id)).Nodup) (op : Op δ) :
    (r.step run op).2.ran.toList = r.live.filter (fun reg => op.ends reg && op.isRelease) := by
  cases op with
  | track w ptr d =>
      have hnone : (r.step run (.track w ptr d)).2.ran = none := by
        cases h : (r.step run (.track w ptr d)).2.ran with
        | none => rfl
        | some reg => cases (step_ran h).2
      simp [hnone, Op.isRelease]
  | release id =>
      rw [step_release, take_fst]
      simp only [Op.ends, Op.isRelease, Bool.and_true]
      rw [filter_id_eq hn id]
      cases (r.live.find? (·.id == id)) <;> rfl
  | detach id => simp [step_detach, Op.isRelease]
  | close => simp [step_close, Op.isRelease]

theorem step_events (op : Op δ) :
    (r.step run op).2.events =
      ((r.step run op).2.made.toList.flatMap fun reg =>
          r.observed ⟨.tracked, reg.id, reg.ptr, none⟩) ++
        ((r.step run op).2.ran.toList.flatMap fun reg => r.observed (ranEvent run reg)) := by
  cases op with
  | track w ptr d =>
      by_cases hv : r.Accepts w ptr d
      · obtain ⟨w, d, rfl, rfl, hp, hopen⟩ := hv
        rw [step_track_ok hp hopen]
        simp
      · obtain ⟨f, hf⟩ := step_track_refused run hv
        rw [hf]
        rfl
  | release id =>
      rw [step_release]
      cases (r.take id).1 <;> simp [ranOutcome]
  | detach id => rfl
  | close => rfl

theorem step_release_error (id : Nat) :
    (r.step run (.release id)).2.error = (r.step run (.release id)).2.ran.bind fun reg =>
      (run reg).map fun cause => Failure.finalization reg.ptr (some cause) := by
  rw [step_release]
  cases (r.take id).1 <;> rfl

theorem step_track_error {w : Option Nat} {ptr : Nat} {d : Option δ}
    (h : (r.step run (.track w ptr d)).2.made = none) :
    (r.step run (.track w ptr d)).2.error.isSome := by
  by_cases hv : r.Accepts w ptr d
  · obtain ⟨w, d, rfl, rfl, hp, hopen⟩ := hv
    rw [step_track_ok hp hopen] at h
    cases h
  · obtain ⟨f, hf⟩ := step_track_refused run hv
    rw [hf]
    rfl

theorem step_of_closed (run : Registration δ → Option Failure) (hc : r.closed = true)
    (hl : r.live = []) (op : Op δ) :
    (r.step run op).1.closed = true ∧ (r.step run op).1.live = [] ∧
      (r.step run op).2.made = none ∧ (r.step run op).2.ran = none := by
  have hmade : (r.step run op).2.made = none := by
    cases h : (r.step run op).2.made with
    | none => rfl
    | some reg => simp [(step_made h).2.2] at hc
  have hran : (r.step run op).2.ran = none := by
    cases h : (r.step run op).2.ran with
    | none => rfl
    | some reg => exact absurd (step_ran h).1 (by simp [hl])
  refine ⟨?_, ?_, hmade, hran⟩
  · cases op with
    | track w ptr d =>
        have hno : ¬ r.Accepts w ptr d := fun ⟨_, _, _, _, _, hopen⟩ => by simp [hc] at hopen
        obtain ⟨f, hf⟩ := step_track_refused run hno
        rw [hf]
        exact hc
    | release id => rw [step_release]; exact (take_frame r id).2.1.trans hc
    | detach id => exact (take_frame r id).2.1.trans hc
    | close => rfl
  · rw [step_live (fun _ => hl), hl, hmade]
    rfl

theorem WF.step (hr : r.WF) (op : Op δ) : (r.step run op).1.WF := by
  have hlive : (r.step run op).1.live = _ := step_live hr.closed_empty op
  constructor
  · rw [hlive]
    cases h : (r.step run op).2.made with
    | none => simpa using hr.nodup.sublist ((List.filter_sublist).map _)
    | some reg =>
        have hid := (step_made h).1
        simp only [Option.toList_some, List.map_append, List.map_cons, List.map_nil]
        refine List.nodup_append.2 ⟨hr.nodup.sublist ((List.filter_sublist).map _),
          List.pairwise_singleton _ _, ?_⟩
        intro a ha b hb hab
        obtain ⟨x, hx, rfl⟩ := List.mem_map.1 ha
        rw [List.mem_singleton.1 hb, hid] at hab
        have := hr.given x (List.mem_filter.1 hx).1
        omega
  · intro reg hreg
    rw [hlive] at hreg
    rcases List.mem_append.1 hreg with hold | hnew
    · exact Nat.le_trans (hr.given reg (List.mem_filter.1 hold).1) (step_last_le op)
    · cases h : (r.step run op).2.made with
      | none => simp [h] at hnew
      | some made =>
          simp only [h, Option.toList_some, List.mem_singleton] at hnew
          subst hnew
          exact Nat.le_of_eq ((step_made h).1.trans (step_made h).2.1.symm)
  · intro hc
    cases hold : r.closed
    ·
      cases op with
      | track w ptr d =>
          by_cases hv : r.Accepts w ptr d
          · obtain ⟨w, d, rfl, rfl, hp, hopen⟩ := hv
            rw [step_track_ok hp hopen] at hc
            simp [hopen] at hc
          · obtain ⟨f, hf⟩ := step_track_refused run hv
            rw [hf] at hc ⊢
            simp [hold] at hc
      | release id =>
          rw [step_release] at hc
          simp [(take_frame r id).2.1, hold] at hc
      | detach id =>
          simp [step_detach, (take_frame r id).2.1, hold] at hc
      | close => rfl
    · exact (step_of_closed run hold (hr.closed_empty hold) op).2.1

/-! ## Runs -/

theorem WF.runAll (hr : r.WF) (ops : List (Op δ)) : (runAll run r ops).1.WF := by
  induction ops generalizing r with
  | nil => exact hr
  | cons op ops ih => exact ih (hr.step op)

theorem runAll_append (pre post : List (Op δ)) :
    runAll run r (pre ++ post) =
      ((runAll run (runAll run r pre).1 post).1,
        (runAll run r pre).2 ++ (runAll run (runAll run r pre).1 post).2) := by
  induction pre generalizing r with
  | nil => rfl
  | cons op pre ih => simp [ih]

theorem length_runAll (ops : List (Op δ)) : (runAll run r ops).2.length = ops.length := by
  induction ops generalizing r with
  | nil => rfl
  | cons op ops ih => simp [ih]

theorem isNone_endingCall_cons (reg : Registration δ) (op : Op δ) (ops : List (Op δ)) :
    (endingCall reg (op :: ops)).isNone = (!op.ends reg && (endingCall reg ops).isNone) := by
  rw [endingCall_cons]
  cases op.ends reg <;> rfl

theorem any_endingCall_cons (reg : Registration δ) (op : Op δ) (ops : List (Op δ)) :
    (endingCall reg (op :: ops)).any Op.isRelease =
      if op.ends reg then op.isRelease else (endingCall reg ops).any Op.isRelease := by
  rw [endingCall_cons]
  cases op.ends reg <;> rfl

theorem runAll_live (hr : r.WF) (ops : List (Op δ)) :
    (runAll run r ops).1.live =
      r.live.filter (fun reg => (endingCall reg ops).isNone) ++
        ((made run r ops).filter fun m => (endingCall m.1 m.2).isNone).map (·.1) := by
  induction ops generalizing r with
  | nil => simpa using (List.filter_eq_self.2 fun _ _ => rfl).symm
  | cons op ops ih =>
      rw [runAll_cons, made_cons, ih (hr.step op), step_live hr.closed_empty op]
      simp only [List.filter_append, List.filter_filter, List.map_append, List.append_assoc,
        isNone_endingCall_cons, Bool.and_comm]
      cases (r.step run op).2.made with
      | none => simp
      | some reg => by_cases he : (endingCall reg ops).isNone <;> simp [he]

theorem filter_ite_perm {α : Type} (l : List α) (p q s : α → Bool) :
    List.Perm (l.filter fun a => if p a then q a else s a)
      (l.filter (fun a => p a && q a) ++ l.filter (fun a => !p a && s a)) := by
  induction l with
  | nil => exact .nil
  | cons a l ih =>
      cases hp : p a <;> cases hq : q a <;> cases hs : s a <;>
        simp only [List.filter_cons, hp, hq, hs, Bool.not_true, Bool.not_false, Bool.and_true,
          Bool.and_false, ite_true, ite_false, Bool.false_eq_true, List.cons_append]
      all_goals first | exact ih | exact ih.cons a | exact (ih.cons a).trans List.perm_middle.symm

theorem filterMap_ran_cons (o : Outcome δ) (outs : List (Outcome δ)) :
    (o :: outs).filterMap (·.ran) = o.ran.toList ++ outs.filterMap (·.ran) := by
  cases h : o.ran <;> simp [h]

theorem runAll_ran (hr : r.WF) (ops : List (Op δ)) :
    List.Perm ((runAll run r ops).2.filterMap (·.ran))
      (r.live.filter (fun reg => (endingCall reg ops).any Op.isRelease) ++
        ((made run r ops).filter fun m => (endingCall m.1 m.2).any Op.isRelease).map (·.1)) := by
  induction ops generalizing r with
  | nil => simp
  | cons op ops ih =>
      rw [runAll_cons, filterMap_ran_cons, made_cons]
      refine (List.Perm.append_left _ (ih (hr.step op))).trans ?_
      rw [step_live hr.closed_empty op, step_ran_toList hr.nodup op]
      have hsplit := filter_ite_perm r.live (fun reg => op.ends reg) (fun _ => op.isRelease)
        (fun reg => (endingCall reg ops).any Op.isRelease)
      simp only [any_endingCall_cons, List.filter_append, List.filter_filter, List.map_append,
        ← List.append_assoc] at hsplit ⊢
      refine List.Perm.append (List.Perm.append ?_ ?_) (List.Perm.refl _)
      · have hcomm :
            r.live.filter (fun reg => (endingCall reg ops).any Op.isRelease && !op.ends reg) =
              r.live.filter (fun reg => !op.ends reg && (endingCall reg ops).any Op.isRelease) :=
          List.filter_congr fun _ _ => Bool.and_comm _ _
        rw [hcomm]
        exact hsplit.symm
      · cases (r.step run op).2.made with
        | none => simp
        | some reg =>
            by_cases he : (endingCall reg ops).any Op.isRelease <;> simp [he]

theorem made_ids (ops : List (Op δ)) :
    ((made run r ops).map (·.1.id)).Nodup ∧ ∀ m ∈ made run r ops, r.last < m.1.id := by
  induction ops generalizing r with
  | nil => exact ⟨List.nodup_nil, fun _ h => nomatch h⟩
  | cons op ops ih =>
      obtain ⟨hnd, habove⟩ : ((made run (r.step run op).1 ops).map (·.1.id)).Nodup ∧
          ∀ m ∈ made run (r.step run op).1 ops, (r.step run op).1.last < m.1.id := ih
      rw [made_cons]
      cases h : (r.step run op).2.made with
      | none =>
          rw [step_last_of_none h] at habove
          exact ⟨hnd, habove⟩
      | some reg =>
          obtain ⟨hid, hlast, -⟩ := step_made h
          rw [hlast] at habove
          simp only [Option.map_some, Option.toList_some, List.singleton_append, List.map_cons,
            List.nodup_cons, List.mem_cons, forall_eq_or_imp]
          refine ⟨⟨fun hmem => ?_, hnd⟩, by omega, fun m hm => ?_⟩
          · obtain ⟨m, hm, hmid⟩ := List.mem_map.1 hmem
            have := habove m hm
            omega
          · have := habove m hm
            omega

theorem runAll_ran_nodup (hr : r.WF) (ops : List (Op δ)) :
    (((runAll run r ops).2.filterMap (·.ran)).map (·.id)).Nodup := by
  refine ((runAll_ran hr ops).map (·.id)).nodup_iff.2 ?_
  obtain ⟨hnd, habove⟩ : ((made run r ops).map (·.1.id)).Nodup ∧
      ∀ m ∈ made run r ops, r.last < m.1.id := made_ids ops
  rw [List.map_append, List.map_map]
  refine List.nodup_append.2 ⟨hr.nodup.sublist ((List.filter_sublist).map _),
    hnd.sublist ((List.filter_sublist).map _), ?_⟩
  intro a ha b hb hab
  obtain ⟨x, hx, rfl⟩ := List.mem_map.1 ha
  obtain ⟨m, hm, rfl⟩ := List.mem_map.1 hb
  have hle := hr.given x (List.mem_filter.1 hx).1
  have hlt := habove m (List.mem_filter.1 hm).1
  simp only [Function.comp] at hab
  omega

theorem runAll_of_closed (hc : r.closed = true) (hl : r.live = []) (ops : List (Op δ)) :
    ∀ p ∈ ops.zip (runAll run r ops).2,
      p.2.made = none ∧ p.2.ran = none ∧ (p.1.isTrack → p.2.error.isSome) := by
  induction ops generalizing r with
  | nil => intro p hp; cases hp
  | cons op ops ih =>
      obtain ⟨hc', hl', hmade, hran⟩ := step_of_closed run hc hl op
      intro p hp
      rcases List.mem_cons.1 hp with rfl | hp
      · refine ⟨hmade, hran, fun htrack => ?_⟩
        cases op with
        | track w ptr d => exact step_track_error hmade
        | _ => cases htrack
      · exact ih hc' hl' p hp

theorem runAll_release_error (ops : List (Op δ)) :
    ∀ p ∈ ops.zip (runAll run r ops).2, p.1.isRelease →
      p.2.error = p.2.ran.bind fun reg =>
        (run reg).map fun cause => Failure.finalization reg.ptr (some cause) := by
  induction ops generalizing r with
  | nil => intro p hp; cases hp
  | cons op ops ih =>
      intro p hp hrel
      rcases List.mem_cons.1 hp with rfl | hp
      · cases op with
        | release id => exact step_release_error id
        | _ => cases hrel
      · exact ih p hp hrel

/-! ## What observers hear -/

theorem observed_step (op : Op δ) : (r.step run op).1.observed = r.observed := by
  funext e
  simp only [observed, step_observers]

theorem runAll_silent (hobs : r.observers = 0) (ops : List (Op δ)) :
    (runAll run r ops).2.flatMap (·.events) = [] := by
  induction ops generalizing r with
  | nil => rfl
  | cons op ops ih =>
      have hnone : r.observed = fun _ => [] := by
        funext e
        simp [observed, hobs]
      rw [runAll_cons, List.flatMap_cons, step_events, hnone,
        ih (by rw [step_observers]; exact hobs)]
      simp

theorem runAll_tracked (ops : List (Op δ)) :
    ((runAll run r ops).2.flatMap (·.events)).filter (·.type == .tracked) =
      (made run r ops).flatMap fun m => r.observed ⟨.tracked, m.1.id, m.1.ptr, none⟩ := by
  induction ops generalizing r with
  | nil => rfl
  | cons op ops ih =>
      have hran : ((r.step run op).2.ran.toList.flatMap fun reg =>
          r.observed (ranEvent run reg)).filter (·.type == .tracked) = [] := by
        cases (r.step run op).2.ran with
        | none => rfl
        | some reg =>
            rcases ranEvent_type run reg with h | h <;>
              simp [observed, h]
      have htracked (reg : Registration δ) :
          (r.observed ⟨.tracked, reg.id, reg.ptr, none⟩).filter (·.type == .tracked) =
            r.observed ⟨.tracked, reg.id, reg.ptr, none⟩ := by
        unfold observed
        split <;> rfl
      rw [runAll_cons, made_cons, List.flatMap_cons, List.filter_append, ih, step_events,
        List.filter_append, hran, observed_step]
      cases (r.step run op).2.made with
      | none => simp
      | some reg => simp [htracked]

theorem step_heard (hobs : 0 < r.observers) (id : Nat) (op : Op δ) :
    ((r.step run op).2.events.filter (·.id == id)).map (·.type) =
      ((r.step run op).2.made.toList.filter (·.id == id)).map (fun _ => EventType.tracked) ++
        ((r.step run op).2.ran.toList.filter (·.id == id)).map fun reg =>
          (ranEvent run reg).type := by
  have hone (e : Event) : r.observed e = [e] := by simp [observed, hobs]
  rw [step_events]
  cases (r.step run op).2.made with
  | none =>
      cases (r.step run op).2.ran with
      | none => rfl
      | some b => by_cases hb : b.id = id <;> simp [hone, ranEvent_id, hb]
  | some a =>
      cases (r.step run op).2.ran with
      | none => by_cases ha : a.id = id <;> simp [hone, ha]
      | some b =>
          by_cases ha : a.id = id <;> by_cases hb : b.id = id <;>
            simp [hone, ranEvent_id, ha, hb]

theorem id_le_of_mem (hr : r.WF) {id : Nat} (h : id ∈ r.live.map (·.id)) : id ≤ r.last := by
  obtain ⟨reg, hreg, rfl⟩ := List.mem_map.1 h
  exact hr.given reg hreg

theorem made_filter_of_le {id : Nat} (hle : id ≤ r.last) (op : Op δ) :
    (r.step run op).2.made.toList.filter (·.id == id) = [] := by
  cases h : (r.step run op).2.made with
  | none => rfl
  | some reg =>
      have hid := (step_made h).1
      have hne : (reg.id == id) = false := by simp; omega
      simp [hne]

theorem ran_filter_of_not_live {id : Nat} (h : id ∉ r.live.map (·.id)) (op : Op δ) :
    (r.step run op).2.ran.toList.filter (·.id == id) = [] := by
  cases hran : (r.step run op).2.ran with
  | none => rfl
  | some reg =>
      have hne : (reg.id == id) = false := by
        simp only [beq_eq_false_iff_ne]
        rintro rfl
        exact h (List.mem_map_of_mem (step_ran hran).1)
      simp [hne]

theorem not_live_step (hr : r.WF) {id : Nat} (h : id ∉ r.live.map (·.id)) (hle : id ≤ r.last)
    (op : Op δ) : id ∉ (r.step run op).1.live.map (·.id) := by
  rw [step_live hr.closed_empty op]
  intro hmem
  obtain ⟨reg, hreg, rfl⟩ := List.mem_map.1 hmem
  rcases List.mem_append.1 hreg with hold | hnew
  · exact h (List.mem_map_of_mem (List.mem_filter.1 hold).1)
  · cases hm : (r.step run op).2.made with
    | none => simp [hm] at hnew
    | some made =>
        simp only [hm, Option.toList_some, List.mem_singleton] at hnew
        subst hnew
        have := (step_made hm).1
        omega

theorem not_live_of_ran (hr : r.WF) {reg : Registration δ} {op : Op δ}
    (hran : (r.step run op).2.ran = some reg) : reg.id ∉ (r.step run op).1.live.map (·.id) := by
  have hop := (step_ran hran).2
  have hmade : (r.step run op).2.made = none := by
    subst hop
    rw [step_release]
    cases (r.take reg.id).1 <;> rfl
  rw [step_live hr.closed_empty op, hmade, Option.toList_none, List.append_nil, hop]
  intro hmem
  obtain ⟨x, hx, hid⟩ := List.mem_map.1 hmem
  simp [Op.ends, hid] at hx

theorem heard_runAll (run : Registration δ → Option Failure) (hr : r.WF)
    (hobs : 0 < r.observers) (id : Nat) (ops : List (Op δ)) :
    (id ∈ r.live.map (·.id) →
        heard id (runAll run r ops).2 <+: [.released] ∨
          heard id (runAll run r ops).2 <+: [.failed]) ∧
      (id ∉ r.live.map (·.id) → id ≤ r.last → heard id (runAll run r ops).2 = []) ∧
      (r.last < id →
        heard id (runAll run r ops).2 <+: [.tracked, .released] ∨
          heard id (runAll run r ops).2 <+: [.tracked, .failed]) := by
  induction ops generalizing r with
  | nil => simp [heard]
  | cons op ops ih =>
      have hr' : (r.step run op).1.WF := hr.step op
      obtain ⟨ihLive, ihEnded, ihNew⟩ := ih hr' (by rw [step_observers]; exact hobs)
      rw [runAll_cons, heard_cons, step_heard hobs]
      refine ⟨fun hlive => ?_, fun hnot hle => ?_, fun hlt => ?_⟩
      ·
        rw [made_filter_of_le (id_le_of_mem hr hlive), List.map_nil, List.nil_append]
        have hlater : heard id (runAll run (r.step run op).1 ops).2 <+: [.released] ∨
            heard id (runAll run (r.step run op).1 ops).2 <+: [.failed] := by
          by_cases hl' : id ∈ (r.step run op).1.live.map (·.id)
          · exact ihLive hl'
          · rw [ihEnded hl' (Nat.le_trans (id_le_of_mem hr hlive) (step_last_le op))]
            exact .inl (List.nil_prefix)
        cases hran : (r.step run op).2.ran with
        | none => simpa using hlater
        | some reg =>
            by_cases hid : reg.id = id
            · subst hid
              have hend := ihEnded (not_live_of_ran hr hran)
                (Nat.le_trans (id_le_of_mem hr hlive) (step_last_le op))
              rw [hend]
              rcases ranEvent_type run reg with h | h <;> simp [h]
            · have hne : (reg.id == id) = false := by simpa using hid
              simpa [hne] using hlater
      ·
        rw [made_filter_of_le hle, ran_filter_of_not_live hnot,
          ihEnded (not_live_step hr hnot hle op) (Nat.le_trans hle (step_last_le op))]
        rfl
      ·
        have hnot : id ∉ r.live.map (·.id) := fun h => absurd (id_le_of_mem hr h) (by omega)
        rw [ran_filter_of_not_live hnot, List.map_nil, List.append_nil]
        cases hm : (r.step run op).2.made with
        | none =>
            have hlast := step_last_of_none hm
            simpa using ihNew (by omega)
        | some reg =>
            obtain ⟨hid, hlast, -⟩ := step_made hm
            by_cases heq : reg.id = id
            ·
              have hlive' : id ∈ (r.step run op).1.live.map (·.id) := by
                rw [step_live hr.closed_empty op, hm, ← heq]
                exact List.mem_map_of_mem (by simp)
              simp only [Option.toList_some, List.filter_cons, heq, beq_self_eq_true, ite_true,
                List.filter_nil, List.map_cons, List.map_nil, List.singleton_append]
              rcases ihLive hlive' with h | h
              · exact .inl (List.cons_prefix_cons.2 ⟨rfl, h⟩)
              · exact .inr (List.cons_prefix_cons.2 ⟨rfl, h⟩)
            · have hne : (reg.id == id) = false := by simpa using heq
              simpa [hne] using ihNew (by omega)

/-! ## Every run from a fresh registry -/

/-- Every run of calls on a fresh registry with `k` observers. The destructors that run are
those of the registrations whose first ending call is their release, each once. The size counts
the registrations no call has ended. A release returns the error of the destructor it runs, and
nothing when it runs none. After closing, no track is accepted, each is refused with an error,
and no destructor runs. Observers hear one tracked event per registration made, and of each
registration its tracking, then at most its release or its failure. -/
theorem registry_lifecycle (run : Registration δ → Option Failure) (k : Nat)
    (ops : List (Op δ)) :
    let fresh : Registry δ := { observers := k }
    let outs := (runAll run fresh ops).2
    let born := made run fresh ops
    List.Perm (outs.filterMap (·.ran))
        ((born.filter fun m => (endingCall m.1 m.2).any Op.isRelease).map (·.1)) ∧
      ((outs.filterMap (·.ran)).map (·.id)).Nodup ∧
      (runAll run fresh ops).1.size = (born.filter fun m => (endingCall m.1 m.2).isNone).length ∧
      (∀ p ∈ ops.zip outs, p.1.isRelease → p.2.error = p.2.ran.bind fun reg =>
        (run reg).map fun cause => Failure.finalization reg.ptr (some cause)) ∧
      (∀ pre post, ops = pre ++ .close :: post →
        ∀ p ∈ post.zip (outs.drop (pre.length + 1)), p.2.made = none ∧ p.2.ran = none ∧ (p.1.isTrack → p.2.error.isSome)) ∧
      (outs.flatMap (·.events)).filter (·.type == .tracked) =
        born.flatMap (fun m => fresh.observed ⟨.tracked, m.1.id, m.1.ptr, none⟩) ∧
      ∀ id, heard id outs <+: [.tracked, .released] ∨
        heard id outs <+: [.tracked, .failed] := by
  intro fresh outs born
  have hwf : fresh.WF := wf_fresh k
  refine ⟨runAll_ran hwf ops, runAll_ran_nodup hwf ops, ?_, runAll_release_error ops, ?_,
    runAll_tracked ops, fun id => ?_⟩
  · rw [size, runAll_live hwf ops]
    simp [fresh, born]
  ·
    intro pre post hops p hp
    subst hops
    have hlen : (runAll run fresh pre).2.length = pre.length := length_runAll pre
    have hdrop : outs.drop (pre.length + 1) =
        (runAll run ((runAll run fresh pre).1.step run .close).1 post).2 := by
      simp only [outs, runAll_append, runAll_cons, ← hlen]
      simp
    rw [hdrop] at hp
    exact runAll_of_closed rfl rfl post p hp
  · by_cases hk : k = 0
    · have hsilent : heard id outs = [] := by
        simp only [heard, outs, runAll_silent (show fresh.observers = 0 from hk)]
        rfl
      rw [hsilent]
      exact .inl List.nil_prefix
    · have hphases := heard_runAll run hwf (show 0 < fresh.observers by simp [fresh]; omega) id ops
      by_cases hid : id = 0
      ·
        subst hid
        rw [hphases.2.1 (by simp [fresh]) (Nat.le_refl _)]
        exact .inl List.nil_prefix
      · exact hphases.2.2 (by simp [fresh]; omega)

end Registry

end Introspection.Finalize
