import Mathlib
import Introspection.Proofs.Marshal.ResultScopes

/-!
# Runs of callback endings

A callback's frame is ended by its tie (`Tie`): the scope holding its deferred release, the
address its converter was notified of, the return of a call of an async callback, or nothing.
`Sealed` says that no release but the tie reaches the frame, and none while the tie is in place.
Every release keeps a frame sealed (`sealed_upTo`, by induction on the fuel of nested releases),
and so does every ending but the return of the frame's own async call (`sealed_perform`).

Releases are nested: a frame releases the scope of its last result, a scope the frames deferred
to it. Each nested release uses up a frame not yet released or a scope with deferred work, so
above twice their number more fuel changes nothing (`release_fuel_stable`), and the fuel a
release is given is always enough (`release_fuel_enough`). With enough fuel the release of a
scope runs the deferred releases it held (`awaits_kept`).

Callbacks made by a conversion or as signal handlers are sealed to the tie their options give
(`encodeCallback_sealed`, `handler_sealed`). Over a run of endings (`Ending.runAll`) a sealed
frame is released exactly when the run cut its tie (`released_iff_ended`).
-/

namespace Introspection.Marshal

open Introspection.Loaded Introspection.Loaded.Session Introspection.Host
open Introspection.Invoke.Session (run_bind run_pure run_throw run_get)

/-- Between two sessions scopes only lost work: none was added, and every deferred release a
scope holds in the second it held in the first. -/
structure Emptied (s s' : Session) : Prop where
  scopes_size : s'.scopes.size = s.scopes.size
  defers : ∀ sid d, d ∈ (s'.scopes.getD sid default).defers → d ∈ (s.scopes.getD sid default).defers

namespace Emptied

theorem refl (s : Session) : Emptied s s := ⟨rfl, fun _ _ h => h⟩

theorem trans {s₁ s₂ s₃ : Session} (h₁ : Emptied s₁ s₂) (h₂ : Emptied s₂ s₃) : Emptied s₁ s₃ :=
  ⟨h₂.scopes_size.trans h₁.scopes_size, fun sid d h => h₁.defers sid d (h₂.defers sid d h)⟩

theorem of_scopes {s s' : Session} (h : s'.scopes = s.scopes) : Emptied s s' :=
  ⟨by rw [h], fun sid d hd => by rwa [h] at hd⟩

theorem nonempty {s s' : Session} (h : Emptied s s') {sid : Nat}
    (hd : (s'.scopes.getD sid default).defers ≠ []) : (s.scopes.getD sid default).defers ≠ [] :=
  List.ne_nil_of_mem (h.defers sid _ (List.exists_mem_of_ne_nil _ hd).choose_spec)

end Emptied

theorem defers_clearScope (s : Session) (sid : Nat) :
    ((s.scopes.modify sid fun sc => { sc with frees := [], defers := [] }).getD sid default).defers =
      [] := by
  simp only [getD_modify]
  cases s.scopes[sid]? <;> rfl

theorem emptied_clearScope (s : Session) (sid : Nat) :
    Emptied s { s with scopes := s.scopes.modify sid fun sc => { sc with frees := [], defers := [] } } := by
  refine ⟨by simp, fun sid' d h => ?_⟩
  by_cases hsid : sid = sid'
  · subst hsid
    rw [defers_clearScope] at h
    exact absurd h List.not_mem_nil
  · simpa only [getD_modify, if_neg hsid] using h

theorem emptied_free (h a : Nat) : Moves Emptied (free h a) := by
  intro s
  rw [run_free]
  cases (s.handles.getD h default).backing <;> exact Emptied.of_scopes rfl

theorem emptied_upTo : ∀ fuel,
    (∀ fid, Moves Emptied (releaseFrameUpTo fuel fid)) ∧
      ∀ sid, Moves Emptied (releaseFrameUpTo.releaseScopeUpTo fuel sid)
  | 0 => ⟨fun _ => Moves.pure Emptied.refl (), fun _ => Moves.pure Emptied.refl ()⟩
  | fuel + 1 => by
      obtain ⟨ihf, ihs⟩ := emptied_upTo fuel
      refine ⟨fun fid s => ?_, fun sid => ?_⟩
      · cases hrel : (frameAt s fid).released with
        | true => rw [run_release_released _ _ _ hrel]; exact Emptied.refl s
        | false =>
            cases hlib : hostLibOf s fid with
            | none =>
                rw [run_release_guest _ _ _ hrel hlib]
                exact Emptied.of_scopes rfl
            | some lib =>
                rw [run_release_host _ _ _ _ hrel hlib]
                have hmark : Emptied s { markReleased s fid with
                    libs := s.libs.modify lib fun l => l.freeCallback (frameAt s fid).ptr } :=
                  Emptied.of_scopes rfl
                refine hmark.trans ?_
                cases (frameAt s fid).last with
                | none => exact Emptied.refl _
                | some sid => exact ihs sid _
      · rw [releaseScopeUpTo_succ]
        have htrans : ∀ a b c : Session, Emptied a b → Emptied b c → Emptied a c :=
          fun _ _ _ h₁ h₂ => h₁.trans h₂
        refine Moves.bind htrans (Moves.of_run Emptied.refl fun _ => rfl) fun sc => ?_
        refine Moves.bind htrans (fun s => emptied_clearScope s sid) fun _ => ?_
        refine Moves.bind htrans (Moves.forIn Emptied.refl htrans _ _ _ fun d _ => ?_) fun _ => ?_
        · cases d with
          | releaseFrame fid => exact Moves.bind htrans (ihf fid) fun _ => Moves.pure Emptied.refl _
        · exact Moves.bind htrans (Moves.forIn Emptied.refl htrans _ _ _ fun a _ =>
            Moves.bind htrans (emptied_free _ a) fun _ => Moves.pure Emptied.refl _) fun _ =>
            Moves.pure Emptied.refl _

/-- The releases a session still holds: frames not released and scopes with deferred work. -/
def pendingReleases (s : Session) : Nat :=
  ((Finset.range s.frames.size).filter fun fid => (frameAt s fid).released = false).card +
    ((Finset.range s.scopes.size).filter fun sid => (s.scopes.getD sid default).defers ≠ []).card

theorem pending_le_size (s : Session) : pendingReleases s ≤ s.frames.size + s.scopes.size := by
  unfold pendingReleases
  have h₁ := Finset.card_filter_le (Finset.range s.frames.size)
    fun fid => (frameAt s fid).released = false
  have h₂ := Finset.card_filter_le (Finset.range s.scopes.size)
    fun sid => (s.scopes.getD sid default).defers ≠ []
  simp only [Finset.card_range] at h₁ h₂
  omega

theorem pending_le {s s' : Session} (hr : Releases s s') (he : Emptied s s') :
    pendingReleases s' ≤ pendingReleases s := by
  unfold pendingReleases
  rw [hr.1.frames_size, he.scopes_size]
  refine Nat.add_le_add (Finset.card_le_card fun fid hfid => ?_)
    (Finset.card_le_card fun sid hsid => ?_)
  · simp only [Finset.mem_filter] at hfid ⊢
    refine ⟨hfid.1, ?_⟩
    cases h : (frameAt s fid).released
    · rfl
    · rw [hr.1.released fid h] at hfid
      exact absurd hfid.2 (by decide)
  · simp only [Finset.mem_filter] at hsid ⊢
    exact ⟨hsid.1, he.nonempty hsid.2⟩

theorem pending_lt_of_mark {s s₁ : Session} {fid : Nat} (hf : s₁.frames = (markReleased s fid).frames)
    (hs : s₁.scopes = s.scopes) (hfid : fid < s.frames.size) (hrel : (frameAt s fid).released = false) :
    pendingReleases s₁ < pendingReleases s := by
  have hframe : ∀ fid', frameAt s₁ fid' = frameAt (markReleased s fid) fid' := fun fid' => by
    simp only [frameAt, hf]
  have hsize : s₁.frames.size = s.frames.size := by simp [hf, markReleased]
  unfold pendingReleases
  rw [hsize, hs]
  refine Nat.add_lt_add_right (Finset.card_lt_card ((Finset.ssubset_iff_of_subset fun x hx => ?_).2
    ⟨fid, ?_, ?_⟩)) _
  · simp only [Finset.mem_filter] at hx ⊢
    refine ⟨hx.1, ?_⟩
    cases h : (frameAt s x).released
    · rfl
    · rw [hframe, released_markReleased fid h] at hx
      exact absurd hx.2 (by decide)
  · simp [Finset.mem_filter, hfid, hrel]
  · simp [Finset.mem_filter, hframe, markReleased_released s hfid]

theorem pending_lt_of_clear (s : Session) {sid : Nat} (hsid : sid < s.scopes.size)
    (hd : (s.scopes.getD sid default).defers ≠ []) :
    pendingReleases { s with scopes := s.scopes.modify sid fun sc => { sc with frees := [], defers := [] } } <
      pendingReleases s := by
  have he := emptied_clearScope s sid
  unfold pendingReleases
  rw [he.scopes_size]
  refine Nat.add_lt_add_left (Finset.card_lt_card ((Finset.ssubset_iff_of_subset fun x hx => ?_).2
    ⟨sid, ?_, ?_⟩)) _
  · simp only [Finset.mem_filter] at hx ⊢
    exact ⟨hx.1, he.nonempty hx.2⟩
  · simpa [Finset.mem_filter, hsid, Array.getD_eq_getD_getElem?, Array.getElem?_eq_getElem hsid]
      using hd
  · simp [Finset.mem_filter, Array.getElem?_modify, Array.getElem?_eq_getElem hsid]

/-- Two loops whose bodies agree on every element from every session of an invariant that the
first body keeps run alike. -/
theorem forIn_run_congr {γ : Type} (I : Session → Prop) (f g : γ → Unit → SessionM (ForInStep Unit)) :
    ∀ xs : List γ, (∀ x ∈ xs, ∀ t, I t → (f x ()).run t = (g x ()).run t) →
      (∀ x ∈ xs, ∀ t, I t → I ((f x ()).run t).2) →
      ∀ t, I t → (forIn xs () f).run t = (forIn xs () g).run t
  | [], _, _, _, _ => rfl
  | x :: xs, hfg, hI, t, ht => by
    rw [List.forIn_cons, List.forIn_cons, run_bind, run_bind,
      ← hfg x List.mem_cons_self t ht]
    have hnext := hI x List.mem_cons_self t ht
    rcases hrun : (f x ()).run t with ⟨res, t₁⟩
    rw [hrun] at hnext
    cases res with
    | error e => rfl
    | ok st =>
      cases st with
      | done b => rfl
      | yield b =>
        exact forIn_run_congr I f g xs (fun y hy => hfg y (List.mem_cons_of_mem x hy))
          (fun y hy => hI y (List.mem_cons_of_mem x hy)) t₁ hnext

theorem run_release_guest_eq {f₁ f₂ fid : Nat} {s : Session} (hrel : (frameAt s fid).released = false)
    (hlib : hostLibOf s fid = none) :
    (releaseFrameUpTo (f₁ + 1) fid).run s = (releaseFrameUpTo (f₂ + 1) fid).run s := by
  obtain ⟨g, hb⟩ := hostLibOf_eq_none.1 hlib
  rw [releaseFrameUpTo, releaseFrameUpTo, run_bind, run_bind, run_frame]
  simp only [hrel, Bool.false_eq_true, if_false, run_bind, run_modifyFrame, run_converter,
    run_hostOf, hb]

theorem frame_lt_of_last {t : Session} {fid sid : Nat} (h : (frameAt t fid).last = some sid) :
    fid < t.frames.size := by
  refine Nat.lt_of_not_le fun hge => ?_
  rw [frameAt_of_size_le hge] at h
  cases h

theorem scope_lt_of_mem {t : Session} {sid : Nat} {d : Deferred}
    (h : d ∈ (t.scopes.getD sid default).defers) : sid < t.scopes.size := by
  refine Nat.lt_of_not_le fun hge => ?_
  simp only [Array.getD_eq_getD_getElem?, Array.getElem?_eq_none hge, Option.getD_none] at h
  exact List.not_mem_nil h

theorem runDeferred_moves (fuel : Nat) (d : Deferred) (t : Session) :
    Releases t ((runDeferred fuel d ()).run t).2 ∧ Emptied t ((runDeferred fuel d ()).run t).2 := by
  cases d with
  | releaseFrame fid =>
    refine ⟨(releasing_runDeferred fuel (releasing_upTo fuel).1 _ ()).moves t, ?_⟩
    exact Moves.bind (fun _ _ _ h₁ h₂ => h₁.trans h₂) ((emptied_upTo fuel).1 fid)
      (fun _ => Moves.pure Emptied.refl _) t

theorem run_runDeferred_state (fuel fid : Nat) (t : Session) :
    ((runDeferred fuel (.releaseFrame fid) ()).run t).2 = ((releaseFrameUpTo fuel fid).run t).2 := by
  simp only [runDeferred, run_bind]
  rcases (releaseFrameUpTo fuel fid).run t with ⟨r, t'⟩
  cases r <;> rfl

/-- Nested releases never run out of fuel: from a session holding `p` pendingReleases releases, every
fuel above `2 p` releases a frame or a scope as any larger fuel does. -/
theorem release_fuel_stable : ∀ fuel,
    (∀ fid s, 2 * pendingReleases s < fuel →
      (releaseFrameUpTo fuel fid).run s = (releaseFrameUpTo (fuel + 1) fid).run s) ∧
    (∀ sid s, 2 * pendingReleases s < fuel →
      (releaseFrameUpTo.releaseScopeUpTo fuel sid).run s =
        (releaseFrameUpTo.releaseScopeUpTo (fuel + 1) sid).run s)
  | 0 => ⟨fun _ _ h => absurd h (Nat.not_lt_zero _), fun _ _ h => absurd h (Nat.not_lt_zero _)⟩
  | fuel + 1 => by
    obtain ⟨ihf, ihs⟩ := release_fuel_stable fuel
    refine ⟨fun fid s hs => ?_, fun sid s hs => ?_⟩
    · cases hrel : (frameAt s fid).released with
      | true => rw [run_release_released _ _ _ hrel, run_release_released _ _ _ hrel]
      | false =>
        cases hlib : hostLibOf s fid with
        | none => exact run_release_guest_eq hrel hlib
        | some lib =>
          rw [run_release_host fuel fid lib s hrel hlib, run_release_host (fuel + 1) fid lib s hrel hlib]
          cases hlast : (frameAt s fid).last with
          | none => rfl
          | some sid =>
            have hlt : pendingReleases { markReleased s fid with
                libs := s.libs.modify lib fun l => l.freeCallback (frameAt s fid).ptr } < pendingReleases s :=
              pending_lt_of_mark rfl rfl (frame_lt_of_last hlast) hrel
            exact ihs sid _ (by omega)
    · rw [releaseScopeUpTo_succ, releaseScopeUpTo_succ]
      simp only [run_bind, run_scope, run_modifyScope]
      generalize hs₁ : ({ s with scopes := s.scopes.modify sid fun sc =>
        { sc with frees := [], defers := [] } } : Session) = s₁
      have hloop := forIn_run_congr (fun t => Releases s₁ t ∧ Emptied s₁ t) (runDeferred fuel)
        (runDeferred (fuel + 1)) (s.scopes.getD sid default).defers.reverse ?_ ?_ s₁
        ⟨Releases.refl s₁, Emptied.refl s₁⟩
      · rw [hloop]
      · intro d hd t ht
        have hmem := List.mem_reverse.1 hd
        have hlt := pending_lt_of_clear s (scope_lt_of_mem hmem) (List.ne_nil_of_mem hmem)
        rw [hs₁] at hlt
        have hle := pending_le ht.1 ht.2
        cases d with
        | releaseFrame fid =>
          simp only [runDeferred, run_bind]
          rw [ihf fid t (by omega)]
      · intro d _ t ht
        have hmoves := runDeferred_moves fuel d t
        exact ⟨ht.1.trans hmoves.1, ht.2.trans hmoves.2⟩

theorem release_fuel_add {fuel : Nat} {s : Session} (h : 2 * pendingReleases s < fuel) (k : Nat) :
    (∀ fid, (releaseFrameUpTo (fuel + k) fid).run s = (releaseFrameUpTo fuel fid).run s) ∧
      ∀ sid, (releaseFrameUpTo.releaseScopeUpTo (fuel + k) sid).run s =
        (releaseFrameUpTo.releaseScopeUpTo fuel sid).run s := by
  induction k with
  | zero => exact ⟨fun _ => rfl, fun _ => rfl⟩
  | succ k ih =>
    obtain ⟨hf, hs⟩ := release_fuel_stable (fuel + k)
    exact ⟨fun fid => (hf fid s (by omega)).symm.trans (ih.1 fid),
      fun sid => (hs sid s (by omega)).symm.trans (ih.2 sid)⟩

/-- The fuel a release is given is never what stops it: any more releases a frame or a scope
alike. -/
theorem release_fuel_enough (s : Session) (k : Nat) :
    (∀ fid, (releaseFrameUpTo (2 * (s.frames.size + s.scopes.size) + 2 + k) fid).run s =
      (releaseFrame fid).run s) ∧
    ∀ sid, (releaseFrameUpTo.releaseScopeUpTo (2 * (s.frames.size + s.scopes.size) + 2 + k) sid).run s =
      (releaseScope sid).run s := by
  have hbound : 2 * pendingReleases s < 2 * (s.frames.size + s.scopes.size) + 2 := by
    have := pending_le_size s
    omega
  obtain ⟨hf, hs⟩ := release_fuel_add hbound k
  exact ⟨fun fid => (hf fid).trans (run_releaseFrame fid s).symm,
    fun sid => (hs sid).trans (run_releaseScope sid s).symm⟩

/-- A loop keeps a property of sessions that each of its bodies keeps. -/
theorem forIn_keeps {γ : Type} (P : Session → Prop) (f : γ → Unit → SessionM (ForInStep Unit)) :
    ∀ xs : List γ, (∀ x ∈ xs, ∀ t, P t → P ((f x ()).run t).2) →
      ∀ t, P t → P ((forIn xs () f).run t).2
  | [], _, _, ht => ht
  | x :: xs, hf, t, ht => by
    rw [List.forIn_cons, run_bind]
    have hnext := hf x List.mem_cons_self t ht
    rcases hrun : (f x ()).run t with ⟨res, t₁⟩
    rw [hrun] at hnext
    cases res with
    | error e => exact hnext
    | ok st =>
      cases st with
      | done b => exact hnext
      | yield b => exact forIn_keeps P f xs (fun y hy => hf y (List.mem_cons_of_mem x hy)) t₁ hnext

/-- Freeing a scope's blocks touches neither scopes, frames nor converters. -/
theorem frees_keep (h : Nat) (xs : List Nat) (t : Session) :
    let t' := ((forIn xs () fun a _ => do
      free h a
      pure (ForInStep.yield PUnit.unit) : SessionM Unit).run t).2
    t'.scopes = t.scopes ∧ t'.frames = t.frames ∧ t'.converters = t.converters := by
  refine forIn_keeps (fun t' => t'.scopes = t.scopes ∧ t'.frames = t.frames ∧
    t'.converters = t.converters) _ xs (fun a _ t' ht' => ?_) t ⟨rfl, rfl, rfl⟩
  rw [run_bind, run_free]
  cases (t'.handles.getD h default).backing <;> exact ht'

/-- The session a scope release leaves: the scope emptied, its deferred releases run, and then,
if they all returned, its blocks freed. -/
theorem run_releaseScopeUpTo_state (fuel sid : Nat) (t : Session) :
    ((releaseFrameUpTo.releaseScopeUpTo (fuel + 1) sid).run t).2 =
      match (forIn (t.scopes.getD sid default).defers.reverse () (runDeferred fuel)).run
          { t with scopes := t.scopes.modify sid fun sc => { sc with frees := [], defers := [] } } with
      | (.ok _, t₂) => ((forIn (t.scopes.getD sid default).frees.reverse () fun a _ => do
          free (t.scopes.getD sid default).handle a
          pure (ForInStep.yield PUnit.unit) : SessionM Unit).run t₂).2
      | (.error _, t₂) => t₂ := by
  rw [releaseScopeUpTo_succ]
  simp only [run_bind, run_scope, run_modifyScope]
  rcases (forIn (t.scopes.getD sid default).defers.reverse () (runDeferred fuel)).run
    { t with scopes := t.scopes.modify sid fun sc => { sc with frees := [], defers := [] } } with
    ⟨res, t₂⟩
  cases res with
  | error e => rfl
  | ok u =>
    dsimp only
    rcases (forIn (t.scopes.getD sid default).frees.reverse () fun a _ => do
      free (t.scopes.getD sid default).handle a
      pure (ForInStep.yield PUnit.unit) : SessionM Unit).run t₂ with ⟨res', t₃⟩
    cases res' <;> rfl

/-- What a scope's deferred releases leave and freeing blocks keeps holds after the scope's
release. -/
theorem releaseScopeUpTo_of_deferred (P : Session → Prop)
    (hP : ∀ t t', P t → t'.scopes = t.scopes → t'.frames = t.frames →
      t'.converters = t.converters → P t') (fuel sid : Nat)
    (t : Session) (h : P ((forIn (t.scopes.getD sid default).defers.reverse () (runDeferred fuel)).run
      { t with scopes := t.scopes.modify sid fun sc => { sc with frees := [], defers := [] } }).2) :
    P ((releaseFrameUpTo.releaseScopeUpTo (fuel + 1) sid).run t).2 := by
  rw [run_releaseScopeUpTo_state]
  rcases hrun : (forIn (t.scopes.getD sid default).defers.reverse () (runDeferred fuel)).run
    { t with scopes := t.scopes.modify sid fun sc => { sc with frees := [], defers := [] } }
    with ⟨res, t₂⟩
  rw [hrun] at h
  cases res with
  | error e => exact h
  | ok u =>
    obtain ⟨hs, hf, hc⟩ := frees_keep (t.scopes.getD sid default).handle
      (t.scopes.getD sid default).frees.reverse t₂
    exact hP _ _ h hs hf hc

/-- Frame `fid` waits for the release of scope `sid`, or is released. -/
def Awaits (fid sid : Nat) (t : Session) : Prop :=
  Deferred.releaseFrame fid ∈ (t.scopes.getD sid default).defers ∨ (frameAt t fid).released = true

namespace Awaits

variable {fid sid : Nat} {t t' : Session}

theorem of_releases (h : Awaits fid sid t) (hr : Releases t t') (hs : t'.scopes = t.scopes) :
    Awaits fid sid t' := by
  rcases h with h | h
  · exact Or.inl (hs ▸ h)
  · exact Or.inr (hr.1.released fid h)

theorem of_same (h : Awaits fid sid t) (hs : t'.scopes = t.scopes) (hf : t'.frames = t.frames) :
    Awaits fid sid t' := by
  rcases h with h | h
  · exact Or.inl (hs ▸ h)
  · exact Or.inr (by simpa only [frameAt, hf] using h)

end Awaits

/-- With enough fuel every release keeps a frame waiting for a scope, or releases it. -/
theorem awaits_kept (fid sid : Nat) : ∀ fuel,
    (∀ fid' t, 2 * pendingReleases t < fuel → HostBacked t → fid < t.frames.size → Awaits fid sid t →
      Awaits fid sid ((releaseFrameUpTo fuel fid').run t).2) ∧
    (∀ sid' t, 2 * pendingReleases t < fuel → HostBacked t → fid < t.frames.size → Awaits fid sid t →
      Awaits fid sid ((releaseFrameUpTo.releaseScopeUpTo fuel sid').run t).2)
  | 0 => ⟨fun _ _ h => absurd h (Nat.not_lt_zero _), fun _ _ h => absurd h (Nat.not_lt_zero _)⟩
  | fuel + 1 => by
    obtain ⟨ihf, ihs⟩ := awaits_kept fid sid fuel
    refine ⟨fun fid' t hp hb hfid ha => ?_, fun sid' t hp hb hfid ha => ?_⟩
    · cases hrel : (frameAt t fid').released with
      | true => rw [run_release_released _ _ _ hrel]; exact ha
      | false =>
        cases hlib : hostLibOf t fid' with
        | none =>
          rw [run_release_guest _ _ _ hrel hlib]
          exact ha.of_releases (releases_mark t fid' hlib) rfl
        | some lib =>
          rw [run_release_host _ _ _ _ hrel hlib]
          have hmark := releases_mark_free t fid' lib hlib
          have ha₁ := ha.of_releases hmark rfl
          cases hlast : (frameAt t fid').last with
          | none => exact ha₁
          | some sid'' =>
            have hlt : pendingReleases { markReleased t fid' with
                libs := t.libs.modify lib fun l => l.freeCallback (frameAt t fid').ptr } < pendingReleases t :=
              pending_lt_of_mark rfl rfl (frame_lt_of_last hlast) hrel
            exact ihs sid'' _ (by omega) (hb.of_releases hmark) (hmark.1.frames_size ▸ hfid) ha₁
    · have hr₁ := releases_modifyScope sid' (fun sc => { sc with frees := [], defers := [] }) t
      rw [run_modifyScope] at hr₁
      refine releaseScopeUpTo_of_deferred (Awaits fid sid) (fun _ _ h hs hf _ => h.of_same hs hf)
        fuel sid' t ?_
      rcases eq_or_ne sid' sid with rfl | hne
      · have hloop := (Releasing.forIn (t.scopes.getD sid' default).defers.reverse () _
          (releasing_runDeferred fuel (releasing_upTo fuel).1)).moves
          { t with scopes := t.scopes.modify sid' fun sc => { sc with frees := [], defers := [] } }
        rcases ha with hmem | hrel
        · have hlt := pending_lt_of_clear t (scope_lt_of_mem hmem) (List.ne_nil_of_mem hmem)
          obtain ⟨f', rfl⟩ : ∃ f', fuel = f' + 1 := ⟨fuel - 1, by omega⟩
          have hdone := forIn_establishes DeferredDone _ (runDeferred (f' + 1))
            (releasing_runDeferred _ (releasing_upTo _).1) (runDeferred_done f')
            (fun _ _ _ hd h => hd.of_releases h) _ (hb.of_releases hr₁) (.releaseFrame fid)
            (List.mem_reverse.2 hmem)
          exact Or.inr (hdone ((hr₁.trans hloop).1.frames_size ▸ hfid))
        · exact Or.inr ((hr₁.trans hloop).1.released fid hrel)
      · have ha₁ : Awaits fid sid
            { t with scopes := t.scopes.modify sid' fun sc => { sc with frees := [], defers := [] } } := by
          rcases ha with hmem | hrel
          · left
            simpa only [getD_modify, if_neg hne] using hmem
          · exact Or.inr hrel
        refine (forIn_keeps (fun t' => Releases _ t' ∧ Emptied _ t' ∧ Awaits fid sid t') _ _ ?_ _
          ⟨Releases.refl _, Emptied.refl _, ha₁⟩).2.2
        intro d hd t' ht'
        have hmem := List.mem_reverse.1 hd
        have hlt := pending_lt_of_clear t (scope_lt_of_mem hmem) (List.ne_nil_of_mem hmem)
        have hle := pending_le ht'.1 ht'.2.1
        have hmoves := runDeferred_moves fuel d t'
        refine ⟨ht'.1.trans hmoves.1, ht'.2.1.trans hmoves.2, ?_⟩
        cases d with
        | releaseFrame fid' =>
          rw [run_runDeferred_state]
          exact ihf fid' t' (by omega) (hb.of_releases (hr₁.trans ht'.1))
            ((hr₁.trans ht'.1).1.frames_size ▸ hfid) ht'.2.2

/-! ## Ties -/

/-- What ends a callback's frame: the release of the scope holding its deferred release, a
release naming the address its converter was notified of, the return of a call of an async
callback, or nothing. -/
inductive Tie where
  | scope (sid : Nat)
  | address (conv ptr : Nat)
  | call
  | forever
  deriving DecidableEq

/-- The tie of frame `fid` is still in place. -/
def Tie.Holds (fid : Nat) : Tie → Session → Prop
  | .scope sid, t => .releaseFrame fid ∈ (t.scopes.getD sid default).defers
  | .address conv ptr, t => (ptr, fid) ∈ (t.converters.getD conv default).notified
  | .call, t => (frameAt t fid).async = true
  | .forever, _ => True

/-- Frame `fid` is reached by no release but its tie, and is not released while the tie is in
place. -/
structure Sealed (fid : Nat) (tie : Tie) (t : Session) : Prop where
  scopes : ∀ sid, .releaseFrame fid ∈ (t.scopes.getD sid default).defers → tie = .scope sid
  notified : ∀ conv ptr, (ptr, fid) ∈ (t.converters.getD conv default).notified →
    tie = .address conv ptr ∧ (t.converters.getD conv default).notified.lookup ptr = some fid
  async : (frameAt t fid).async = true → tie = .call
  held : tie.Holds fid t → (frameAt t fid).released = false

/-- Between two sessions deferred releases and notifications were only dropped: the frames are
as they were, and every address still notified names the frame it named. -/
structure Narrows (t t' : Session) : Prop where
  frames : t'.frames = t.frames
  defers : ∀ sid d, d ∈ (t'.scopes.getD sid default).defers → d ∈ (t.scopes.getD sid default).defers
  notified : ∀ conv ptr fid, (ptr, fid) ∈ (t'.converters.getD conv default).notified →
    (ptr, fid) ∈ (t.converters.getD conv default).notified ∧
      (t'.converters.getD conv default).notified.lookup ptr =
        (t.converters.getD conv default).notified.lookup ptr

theorem Narrows.of_eq {t t' : Session} (hs : t'.scopes = t.scopes) (hf : t'.frames = t.frames)
    (hc : t'.converters = t.converters) : Narrows t t' :=
  ⟨hf, fun _ _ h => hs ▸ h, fun _ _ _ h => ⟨hc ▸ h, by rw [hc]⟩⟩

theorem Tie.Holds.of_narrows {fid : Nat} {tie : Tie} {t t' : Session} (hn : Narrows t t')
    (h : tie.Holds fid t') : tie.Holds fid t := by
  cases tie with
  | scope sid => exact hn.defers sid _ h
  | address conv ptr => exact (hn.notified conv ptr fid h).1
  | call => simpa only [Tie.Holds, frameAt, hn.frames] using h
  | forever => trivial

theorem Tie.Holds.of_same {fid : Nat} {tie : Tie} {t t' : Session} (hs : t'.scopes = t.scopes)
    (hc : t'.converters = t.converters) (he : Ends t t') (h : tie.Holds fid t') :
    tie.Holds fid t := by
  cases tie with
  | scope sid => simpa only [Tie.Holds, hs] using h
  | address conv ptr => simpa only [Tie.Holds, hc] using h
  | call => exact (he.async fid).symm.trans h
  | forever => trivial

namespace Sealed

variable {fid : Nat} {tie : Tie} {t t' : Session}

theorem narrow (h : Sealed fid tie t) (hn : Narrows t t') : Sealed fid tie t' where
  scopes sid hd := h.scopes sid (hn.defers sid _ hd)
  notified conv ptr hm := by
    obtain ⟨hmem, hlook⟩ := hn.notified conv ptr fid hm
    obtain ⟨htie, hl⟩ := h.notified conv ptr hmem
    exact ⟨htie, hlook.trans hl⟩
  async ha := h.async (by simpa only [frameAt, hn.frames] using ha)
  held hh := by simpa only [frameAt, hn.frames] using h.held (hh.of_narrows hn)

/-- A step that keeps scopes and converters, only ends callbacks, and touches the frame's
release only once its tie is gone keeps the frame sealed. -/
theorem of_step (h : Sealed fid tie t) (hs : t'.scopes = t.scopes)
    (hc : t'.converters = t.converters) (he : Ends t t')
    (hrel : tie.Holds fid t → (frameAt t' fid).released = (frameAt t fid).released) :
    Sealed fid tie t' where
  scopes sid hd := h.scopes sid (hs ▸ hd)
  notified conv ptr hm := by
    rw [hc] at hm ⊢
    exact h.notified conv ptr hm
  async ha := h.async ((he.async fid).symm.trans ha)
  held hh := by
    have hh' := hh.of_same hs hc he
    rw [hrel hh']
    exact h.held hh'

end Sealed

theorem narrows_clearScope (t : Session) (sid : Nat) :
    Narrows t { t with scopes := t.scopes.modify sid fun sc => { sc with frees := [], defers := [] } } :=
  ⟨rfl, (emptied_clearScope t sid).defers, fun _ _ _ h => ⟨h, rfl⟩⟩

/-- Marking frame `g` released, the frame's tie gone if it is `g`, keeps it sealed. -/
theorem Sealed.mark {fid g : Nat} {tie : Tie} {t t' : Session} (h : Sealed fid tie t)
    (hcut : g = fid → ¬ tie.Holds fid t) (hf : t'.frames = (markReleased t g).frames)
    (hs : t'.scopes = t.scopes) (hc : t'.converters = t.converters) (he : Ends t t') :
    Sealed fid tie t' :=
  h.of_step hs hc he fun hh => by
    have hne : g ≠ fid := fun hg => hcut hg hh
    rw [show frameAt t' fid = frameAt (markReleased t g) fid by simp only [frameAt, hf],
      frameAt_markReleased_ne hne]

/-- Every release keeps a frame sealed; a release of the frame itself asks for its tie to be
gone. -/
theorem sealed_upTo (fid : Nat) (tie : Tie) : ∀ fuel,
    (∀ g t, Sealed fid tie t → (g = fid → ¬ tie.Holds fid t) →
      Sealed fid tie ((releaseFrameUpTo fuel g).run t).2) ∧
    (∀ sid t, Sealed fid tie t →
      Sealed fid tie ((releaseFrameUpTo.releaseScopeUpTo fuel sid).run t).2)
  | 0 => ⟨fun _ _ h _ => h, fun _ _ h => h⟩
  | fuel + 1 => by
    obtain ⟨ihf, ihs⟩ := sealed_upTo fid tie fuel
    refine ⟨fun g t h hcut => ?_, fun sid t h => ?_⟩
    · cases hrel : (frameAt t g).released with
      | true => rw [run_release_released _ _ _ hrel]; exact h
      | false =>
        cases hlib : hostLibOf t g with
        | none =>
          rw [run_release_guest _ _ _ hrel hlib]
          exact h.mark hcut rfl rfl rfl (releases_mark t g hlib).1
        | some lib =>
          rw [run_release_host _ _ _ _ hrel hlib]
          have hmark : Sealed fid tie { markReleased t g with
              libs := t.libs.modify lib fun l => l.freeCallback (frameAt t g).ptr } :=
            h.mark hcut rfl rfl rfl (releases_mark_free t g lib hlib).1
          cases (frameAt t g).last with
          | none => exact hmark
          | some sid => exact ihs sid _ hmark
    · refine releaseScopeUpTo_of_deferred (Sealed fid tie)
        (fun _ _ h hs hf hc => h.narrow (Narrows.of_eq hs hf hc)) fuel sid t ?_
      refine (forIn_keeps (fun t' => Sealed fid tie t' ∧ Emptied _ t') _ _ ?_ _
        ⟨h.narrow (narrows_clearScope t sid), Emptied.refl _⟩).1
      intro d hd t' ht'
      cases d with
      | releaseFrame g =>
        refine ⟨?_, ht'.2.trans (runDeferred_moves fuel _ t').2⟩
        rw [run_runDeferred_state]
        refine ihf g t' ht'.1 fun hg hheld => ?_
        subst hg
        obtain rfl := h.scopes sid (List.mem_reverse.1 hd)
        have hcleared := ht'.2.defers sid _ hheld
        rw [defers_clearScope] at hcleared
        exact List.not_mem_nil hcleared

/-! ## Runs of endings -/

/-- What can end a callback: the release of a scope, a release or a destroy notification naming
an address a converter was notified of, and the return of a call of a frame. -/
inductive Ending where
  | scope (sid : Nat)
  | address (conv ptr : Nat)
  | returned (fid : Nat)
  deriving DecidableEq

/-- Runs one ending. -/
def Ending.perform : Ending → SessionM Unit
  | .scope sid => releaseScope sid
  | .address conv ptr => releaseCallback conv ptr
  | .returned fid => endCall fid

/-- The session a sequence of endings leaves. -/
def Ending.runAll (es : List Ending) (s : Session) : Session :=
  es.foldl (fun t e => (e.perform.run t).2) s

@[simp] theorem Ending.runAll_nil (s : Session) : Ending.runAll [] s = s := rfl

@[simp] theorem Ending.runAll_cons (e : Ending) (es : List Ending) (s : Session) :
    Ending.runAll (e :: es) s = Ending.runAll es (e.perform.run s).2 := rfl

theorem Ending.runAll_append (es es' : List Ending) (s : Session) :
    Ending.runAll (es ++ es') s = Ending.runAll es' (Ending.runAll es s) :=
  List.foldl_append

theorem run_endCall (fid : Nat) (t : Session) :
    (endCall fid).run t = if (frameAt t fid).async then (releaseFrame fid).run t else (.ok (), t) := by
  simp only [endCall, run_bind, run_frame]
  split <;> rfl

theorem mem_of_lookup_eq_some {l : List (Nat × Nat)} {k v : Nat} (h : l.lookup k = some v) :
    (k, v) ∈ l := by
  obtain ⟨l₁, l₂, heq, -⟩ := List.lookup_eq_some_iff.1 h
  rw [heq]
  exact List.mem_append_right _ List.mem_cons_self

theorem narrows_dropNotified (t : Session) (conv ptr : Nat) : Narrows t (dropNotified t conv ptr) := by
  refine ⟨rfl, fun _ _ h => h, fun c p g hm => ?_⟩
  by_cases hc : c = conv
  · subst hc
    rw [notified_dropNotified] at hm ⊢
    have hp := List.mem_filter.1 hm
    exact ⟨hp.1, List.lookup_filter_ne _ (by simpa using hp.2)⟩
  · have hsame : (dropNotified t conv ptr).converters.getD c default = t.converters.getD c default := by
      simp only [dropNotified, getD_modify, if_neg (Ne.symm hc)]
    rw [hsame] at hm ⊢
    exact ⟨hm, rfl⟩

/-- Every ending only ends callbacks and empties scopes. -/
theorem perform_moves (e : Ending) (t : Session) :
    Ends t (e.perform.run t).2 ∧ Emptied t (e.perform.run t).2 := by
  cases e with
  | scope sid =>
    rw [Ending.perform, run_releaseScope]
    exact ⟨((releasing_upTo _).2 sid).moves t |>.1, (emptied_upTo _).2 sid t⟩
  | address conv ptr =>
    refine ⟨(releaseCallback_ends_once conv ptr t).1, ?_⟩
    rw [Ending.perform]
    cases hl : (t.converters.getD conv default).notified.lookup ptr with
    | none => rw [run_releaseCallback_none hl]; exact Emptied.refl t
    | some g =>
      rw [run_releaseCallback_some hl, run_releaseFrame]
      exact (Emptied.of_scopes (show (dropNotified t conv ptr).scopes = t.scopes from rfl)).trans
        ((emptied_upTo _).1 g _)
  | returned g =>
    rw [Ending.perform, run_endCall]
    split
    · rw [run_releaseFrame]
      exact ⟨((releasing_upTo _).1 g).moves t |>.1, (emptied_upTo _).1 g t⟩
    · exact ⟨Ends.refl t, Emptied.refl t⟩

theorem HostBacked.of_ends {s s' : Session} (hs : HostBacked s) (h : Ends s s') : HostBacked s' := by
  intro hd
  rw [h.handles]
  exact hs hd

/-- A converter forgets exactly the notified addresses an ending names. -/
theorem notified_perform (e : Ending) (t : Session) (conv : Nat) :
    ((e.perform.run t).2.converters.getD conv default).notified =
      (t.converters.getD conv default).notified.filter fun q => e ≠ .address conv q.1 := by
  cases e with
  | scope sid =>
    rw [Ending.perform, run_releaseScope, (((releasing_upTo _).2 sid).moves t).2]
    simp
  | returned g =>
    rw [Ending.perform, run_endCall]
    split
    · rw [run_releaseFrame, (((releasing_upTo _).1 g).moves t).2]
      simp
    · simp
  | address c ptr =>
    rw [Ending.perform]
    by_cases hc : c = conv
    · subst hc
      rw [(releaseCallback_ends_once c ptr t).2.1]
      congr 1
      funext q
      by_cases hq : q.1 = ptr
      · simp [hq]
      · simp [hq, Ne.symm hq]
    · have hkeep : (t.converters.getD conv default).notified.filter
          (fun q => Ending.address c ptr ≠ .address conv q.1) =
          (t.converters.getD conv default).notified := by
        simp [hc]
      rw [hkeep]
      cases hl : (t.converters.getD c default).notified.lookup ptr with
      | none => rw [run_releaseCallback_none hl]
      | some g =>
        rw [run_releaseCallback_some hl, run_releaseFrame,
          (((releasing_upTo _).1 g).moves _).2]
        simp only [dropNotified, getD_modify, if_neg hc]

/-- Every ending keeps a frame sealed, but the return of a call of an async one. -/
theorem sealed_perform {fid : Nat} {tie : Tie} (e : Ending) {t : Session} (h : Sealed fid tie t)
    (hcall : tie = .call → e ≠ .returned fid) : Sealed fid tie (e.perform.run t).2 := by
  cases e with
  | scope sid =>
    rw [Ending.perform, run_releaseScope]
    exact (sealed_upTo fid tie _).2 sid t h
  | address conv ptr =>
    rw [Ending.perform]
    cases hl : (t.converters.getD conv default).notified.lookup ptr with
    | none => rw [run_releaseCallback_none hl]; exact h
    | some g =>
      rw [run_releaseCallback_some hl, run_releaseFrame]
      refine (sealed_upTo fid tie _).1 g _ (h.narrow (narrows_dropNotified t conv ptr))
        fun hg hheld => ?_
      subst hg
      obtain ⟨rfl, -⟩ := h.notified conv ptr (mem_of_lookup_eq_some hl)
      have hdrop : (ptr, g) ∈ ((dropNotified t conv ptr).converters.getD conv default).notified :=
        hheld
      rw [notified_dropNotified] at hdrop
      simp at hdrop
  | returned g =>
    rw [Ending.perform, run_endCall]
    split
    · rename_i hasync
      rw [run_releaseFrame]
      refine (sealed_upTo fid tie _).1 g t h fun hg _ => ?_
      subst hg
      exact hcall (h.async hasync) rfl
    · exact h

/-- Every ending keeps a frame waiting for a scope, or releases it. -/
theorem awaits_perform {fid sid : Nat} (e : Ending) {t : Session} (hb : HostBacked t)
    (hfid : fid < t.frames.size) (ha : Awaits fid sid t) : Awaits fid sid (e.perform.run t).2 := by
  have hbound : ∀ t : Session,
      2 * pendingReleases t < 2 * (t.frames.size + t.scopes.size) + 1 + 1 := fun t => by
    have := pending_le_size t
    omega
  cases e with
  | scope sid' =>
    rw [Ending.perform, run_releaseScope]
    exact (awaits_kept fid sid _).2 sid' t (hbound t) hb hfid ha
  | address conv ptr =>
    rw [Ending.perform]
    cases hl : (t.converters.getD conv default).notified.lookup ptr with
    | none => rw [run_releaseCallback_none hl]; exact ha
    | some g =>
      rw [run_releaseCallback_some hl, run_releaseFrame]
      exact (awaits_kept fid sid _).1 g _ (hbound _) (fun hd => hb hd) hfid (ha.of_same rfl rfl)
  | returned g =>
    rw [Ending.perform, run_endCall]
    split
    · rw [run_releaseFrame]
      exact (awaits_kept fid sid _).1 g t (hbound t) hb hfid ha
    · exact ha

/-- Every ending keeps the tie of a sealed frame in place, or releases the frame. -/
theorem held_perform {fid : Nat} {tie : Tie} (e : Ending) {t : Session} (h : Sealed fid tie t)
    (hb : HostBacked t) (hfid : fid < t.frames.size)
    (hk : tie.Holds fid t ∨ (frameAt t fid).released = true) :
    tie.Holds fid (e.perform.run t).2 ∨ (frameAt (e.perform.run t).2 fid).released = true := by
  have hends := (perform_moves e t).1
  cases tie with
  | scope sid => exact awaits_perform e hb hfid hk
  | address conv ptr =>
    rcases hk with hh | hr
    · by_cases he : e = .address conv ptr
      · subst he
        exact Or.inr ((releaseCallback_ends_once conv ptr t).2.2.1 fid
          (h.notified conv ptr hh).2 hfid)
      · left
        show (ptr, fid) ∈ _
        rw [notified_perform]
        exact List.mem_filter.2 ⟨hh, by simpa using he⟩
    · exact Or.inr (hends.released fid hr)
  | call => exact hk.imp (fun ha => (hends.async fid).trans ha) (hends.released fid)
  | forever => exact Or.inl trivial

theorem runAll_moves (es : List Ending) (s : Session) :
    Ends s (Ending.runAll es s) ∧ Emptied s (Ending.runAll es s) := by
  induction es generalizing s with
  | nil => exact ⟨Ends.refl s, Emptied.refl s⟩
  | cons e es ih =>
    obtain ⟨he, hm⟩ := perform_moves e s
    obtain ⟨he', hm'⟩ := ih (e.perform.run s).2
    exact ⟨he.trans he', hm.trans hm'⟩

/-- A run forgets exactly the notified addresses its endings name. -/
theorem notified_runAll (es : List Ending) (s : Session) (conv : Nat) :
    ((Ending.runAll es s).converters.getD conv default).notified =
      (s.converters.getD conv default).notified.filter fun q => .address conv q.1 ∉ es := by
  induction es generalizing s with
  | nil => simp
  | cons e es ih =>
    rw [Ending.runAll_cons, ih, notified_perform, List.filter_filter]
    congr 1
    funext q
    simp only [List.mem_cons, not_or, ne_eq, Bool.decide_and, eq_comm]
    exact Bool.and_comm _ _

theorem sealed_runAll {fid : Nat} {tie : Tie} (es : List Ending) {s : Session}
    (h : Sealed fid tie s) (hcall : tie = .call → .returned fid ∉ es) :
    Sealed fid tie (Ending.runAll es s) := by
  induction es generalizing s with
  | nil => exact h
  | cons e es ih =>
    refine ih (sealed_perform e h fun ht he => hcall ht (he ▸ List.mem_cons_self))
      fun ht hm => hcall ht (List.mem_cons_of_mem e hm)

theorem held_runAll {fid : Nat} {tie : Tie} (es : List Ending) {s : Session}
    (h : Sealed fid tie s) (hcall : tie = .call → .returned fid ∉ es) (hb : HostBacked s)
    (hfid : fid < s.frames.size) (hk : tie.Holds fid s ∨ (frameAt s fid).released = true) :
    tie.Holds fid (Ending.runAll es s) ∨ (frameAt (Ending.runAll es s) fid).released = true := by
  induction es generalizing s with
  | nil => exact hk
  | cons e es ih =>
    have hends := (perform_moves e s).1
    exact ih (sealed_perform e h fun ht he => hcall ht (he ▸ List.mem_cons_self))
      (fun ht hm => hcall ht (List.mem_cons_of_mem e hm)) (hb.of_ends hends)
      (hends.frames_size ▸ hfid) (held_perform e h hb hfid hk)

/-- A scope released has no deferred work left. -/
theorem defers_releaseScopeUpTo (fuel sid : Nat) (t : Session) :
    (((releaseFrameUpTo.releaseScopeUpTo (fuel + 1) sid).run t).2.scopes.getD sid default).defers =
      [] := by
  refine releaseScopeUpTo_of_deferred (fun t' => (t'.scopes.getD sid default).defers = [])
    (fun _ _ h hs _ _ => by rw [hs]; exact h) fuel sid t ?_
  have he := Moves.forIn Emptied.refl (fun _ _ _ h₁ h₂ => h₁.trans h₂)
    (t.scopes.getD sid default).defers.reverse () (runDeferred fuel)
    (fun d _ t' => (runDeferred_moves fuel d t').2)
    { t with scopes := t.scopes.modify sid fun sc => { sc with frees := [], defers := [] } }
  refine List.eq_nil_iff_forall_not_mem.2 fun d hd => ?_
  have hcleared := he.defers sid d hd
  rw [defers_clearScope] at hcleared
  exact List.not_mem_nil hcleared

theorem released_returned {fid : Nat} {t : Session} (hasync : (frameAt t fid).async = true)
    (hfid : fid < t.frames.size) : (frameAt ((Ending.returned fid).perform.run t).2 fid).released = true := by
  rw [Ending.perform, run_endCall, if_pos hasync]
  exact (releaseFrame_ends_frame fid t hfid).1

/-- The tie of frame `fid` was cut by the endings `es`, which left session `t`: its scope no
longer holds its release, its address was named, or a call of it returned; the tie of a frame
kept forever is never cut. -/
def Tie.Ended (fid : Nat) (es : List Ending) (t : Session) : Tie → Prop
  | .scope sid => .releaseFrame fid ∉ (t.scopes.getD sid default).defers
  | .address conv ptr => .address conv ptr ∈ es
  | .call => .returned fid ∈ es
  | .forever => False

/-- A sealed frame whose tie is in place is released by a run exactly when the run cut its tie. -/
theorem released_iff_ended {fid : Nat} {tie : Tie} (es : List Ending) {s : Session}
    (hb : HostBacked s) (hfid : fid < s.frames.size) (h : Sealed fid tie s) (hh : tie.Holds fid s) :
    (frameAt (Ending.runAll es s) fid).released = true ↔ tie.Ended fid es (Ending.runAll es s) := by
  have hcut : tie ≠ .call → ((frameAt (Ending.runAll es s) fid).released = true ↔
      ¬ tie.Holds fid (Ending.runAll es s)) := by
    intro hne
    have hcall : tie = .call → .returned fid ∉ es := fun ht => absurd ht hne
    refine ⟨fun hr hin => ?_,
      fun hnot => (held_runAll es h hcall hb hfid (Or.inl hh)).resolve_left hnot⟩
    rw [(sealed_runAll es h hcall).held hin] at hr
    cases hr
  cases tie with
  | scope sid => exact hcut (by simp)
  | address conv ptr =>
    rw [hcut (by simp)]
    show ¬ (ptr, fid) ∈ _ ↔ Ending.address conv ptr ∈ es
    rw [notified_runAll, List.mem_filter, decide_eq_true_iff, not_and, not_not]
    exact ⟨fun himp => himp hh, fun hin _ => hin⟩
  | call =>
    by_cases hin : .returned fid ∈ es
    · refine iff_of_true ?_ hin
      obtain ⟨pre, post, rfl⟩ := List.append_of_mem hin
      have hpre := (runAll_moves pre s).1
      rw [Ending.runAll_append, Ending.runAll_cons]
      exact (runAll_moves post _).1.released fid
        (released_returned ((hpre.async fid).trans hh) (hpre.frames_size ▸ hfid))
    · refine iff_of_false ?_ hin
      rw [(sealed_runAll es h fun _ => hin).held (((runAll_moves es s).1.async fid).trans hh)]
      decide
  | forever =>
    refine iff_of_false ?_ id
    rw [(sealed_runAll es h (by simp)).held trivial]
    decide

/-- The release of the scope holding a frame's deferred release releases it. -/
theorem released_of_scope {fid sid : Nat} (es : List Ending) {s : Session} (hb : HostBacked s)
    (hfid : fid < s.frames.size) (h : Sealed fid (.scope sid) s) (hh : (Tie.scope sid).Holds fid s)
    (hin : .scope sid ∈ es) : (frameAt (Ending.runAll es s) fid).released = true := by
  refine (released_iff_ended es hb hfid h hh).2 fun hmem => ?_
  obtain ⟨pre, post, rfl⟩ := List.append_of_mem hin
  rw [Ending.runAll_append, Ending.runAll_cons] at hmem
  have hleft := (runAll_moves post _).2.defers sid _ hmem
  rw [Ending.perform, run_releaseScope, defers_releaseScopeUpTo] at hleft
  exact List.not_mem_nil hleft

/-! ## Making callbacks -/

/-- Frames, scopes and converters are as they were. -/
def KeepsCallbacks (t t' : Session) : Prop :=
  t'.frames = t.frames ∧ t'.scopes = t.scopes ∧ t'.converters = t.converters

theorem KeepsCallbacks.refl (t : Session) : KeepsCallbacks t t := ⟨rfl, rfl, rfl⟩

theorem KeepsCallbacks.trans {a b c : Session} (h₁ : KeepsCallbacks a b) (h₂ : KeepsCallbacks b c) :
    KeepsCallbacks a c :=
  ⟨h₂.1.trans h₁.1, h₂.2.1.trans h₁.2.1, h₂.2.2.trans h₁.2.2⟩

theorem keepsCallbacks_repoE {α : Type} (m : Repository.RepoM (Except Failure α)) : Moves KeepsCallbacks (repoE m) := by
  unfold repoE
  refine Moves.bind (fun _ _ _ h₁ h₂ => h₁.trans h₂) (fun _ => KeepsCallbacks.refl _) fun r => ?_
  cases r with
  | ok a => exact Moves.pure KeepsCallbacks.refl a
  | error e => exact Moves.of_run KeepsCallbacks.refl fun _ => rfl

theorem keepsCallbacks_frameShape (cb : Info.Info) : Moves KeepsCallbacks (frameShape cb) := by
  have htrans : ∀ a b c : Session, KeepsCallbacks a b → KeepsCallbacks b c → KeepsCallbacks a c :=
    fun _ _ _ h₁ h₂ => h₁.trans h₂
  have hread : ∀ {α : Type} (m : SessionM α), (∀ t, (m.run t).2 = t) → Moves KeepsCallbacks m :=
    fun m h => Moves.of_run KeepsCallbacks.refl h
  unfold frameShape
  refine Moves.bind htrans (hread _ fun _ => rfl) fun r => ?_
  refine Moves.bind htrans (hread _ fun t => ?_) fun _ => ?_
  · simp only [discard, Functor.mapConst]
    cases Info.Info.asCallable r.repo cb <;> rfl
  refine Moves.bind htrans (Moves.forIn KeepsCallbacks.refl htrans _ _ _ fun a ps => ?_) fun ps => ?_
  · refine Moves.bind htrans (hread _ fun _ => rfl) fun t => ?_
    split
    · exact Moves.bind htrans (keepsCallbacks_repoE _) fun _ => Moves.pure KeepsCallbacks.refl _
    · exact Moves.pure KeepsCallbacks.refl _
  · exact Moves.bind htrans (hread _ fun _ => rfl) fun t =>
      Moves.bind htrans (keepsCallbacks_repoE _) fun _ => Moves.pure KeepsCallbacks.refl _

theorem run_orConversion_ok {α : Type} {o : Options} {v : Value} {ty d : String} {m : SessionM α}
    {s s' : Session} {a : α} (h : (orConversion o v ty d m).run s = (.ok a, s')) :
    m.run s = (.ok a, s') := by
  unfold orConversion at h
  rw [run_bind, show (attempt m).run s = (.ok (m.run s).1, (m.run s).2) from rfl] at h
  rcases hm : m.run s with ⟨r, t⟩
  rw [hm] at h
  cases r with
  | ok b => exact h
  | error e => cases h

/-- Every deferred release and every notification of a session names a frame it holds. -/
structure FramesKnown (s : Session) : Prop where
  defers : ∀ sid fid, .releaseFrame fid ∈ (s.scopes.getD sid default).defers → fid < s.frames.size
  notified : ∀ conv ptr fid, (ptr, fid) ∈ (s.converters.getD conv default).notified →
    fid < s.frames.size

/-- Frame `fid` is not released, and no deferred release or notification names it. -/
structure Loose (fid : Nat) (t : Session) : Prop where
  released : (frameAt t fid).released = false
  defers : ∀ sid, .releaseFrame fid ∉ (t.scopes.getD sid default).defers
  notified : ∀ conv ptr, (ptr, fid) ∉ (t.converters.getD conv default).notified

namespace Loose

variable {fid : Nat} {t : Session}

/-- A loose frame is ended by the return of its call if it is async, and by nothing otherwise. -/
theorem sealed (h : Loose fid t) :
    let tie := if (frameAt t fid).async then Tie.call else .forever
    Sealed fid tie t ∧ tie.Holds fid t := by
  refine ⟨⟨fun sid hd => absurd hd (h.defers sid), fun conv ptr hm => absurd hm (h.notified conv ptr),
    fun ha => by rw [if_pos ha], fun _ => h.released⟩, ?_⟩
  split
  · assumption
  · trivial

/-- Deferring the release of a loose frame that is not async to a scope ties it to the scope. -/
theorem defer (h : Loose fid t) (hasync : (frameAt t fid).async = false) {sid : Nat}
    (hsid : sid < t.scopes.size) :
    let t' : Session := { t with scopes := t.scopes.modify sid fun sc =>
      { sc with defers := sc.defers ++ [.releaseFrame fid] } }
    Sealed fid (.scope sid) t' ∧ (Tie.scope sid).Holds fid t' := by
  intro t'
  have hdefers : ∀ sid', (t'.scopes.getD sid' default).defers =
      if sid = sid' then (t.scopes.getD sid default).defers ++ [.releaseFrame fid]
      else (t.scopes.getD sid' default).defers := by
    intro sid'
    show ((t.scopes.modify sid _).getD sid' default).defers = _
    rw [getD_modify]
    split
    · rename_i hs
      subst hs
      rw [Array.getElem?_eq_getElem hsid]
      rfl
    · rfl
  refine ⟨⟨fun sid' hd => ?_, fun conv ptr hm => absurd hm (h.notified conv ptr),
    fun ha => absurd (hasync.symm.trans ha) (by decide),
    fun _ => h.released⟩, ?_⟩
  · rw [hdefers] at hd
    by_cases hs : sid = sid'
    · rw [hs]
    · rw [if_neg hs] at hd
      exact absurd hd (h.defers sid')
  · show _ ∈ _
    rw [hdefers, if_pos rfl]
    exact List.mem_append_right _ List.mem_cons_self

/-- Recording a loose frame that is not async as notified at a fresh address ties it to the
address. -/
theorem notify (h : Loose fid t) (hasync : (frameAt t fid).async = false) {conv ptr : Nat}
    (hconv : conv < t.converters.size)
    (hfresh : (t.converters.getD conv default).notified.lookup ptr = none) :
    let t' : Session := { t with converters := t.converters.modify conv fun c =>
      { c with notified := c.notified ++ [(ptr, fid)] } }
    Sealed fid (.address conv ptr) t' ∧ (Tie.address conv ptr).Holds fid t' := by
  intro t'
  have hnotified : ∀ c, (t'.converters.getD c default).notified =
      if conv = c then (t.converters.getD conv default).notified ++ [(ptr, fid)]
      else (t.converters.getD c default).notified := by
    intro c
    show ((t.converters.modify conv _).getD c default).notified = _
    rw [getD_modify]
    split
    · rename_i hc
      subst hc
      rw [Array.getElem?_eq_getElem hconv]
      rfl
    · rfl
  refine ⟨⟨fun sid hd => absurd hd (h.defers sid), fun c p hm => ?_,
    fun ha => absurd (hasync.symm.trans ha) (by decide),
    fun _ => h.released⟩, ?_⟩
  · rw [hnotified] at hm ⊢
    by_cases hc : conv = c
    · subst hc
      rw [if_pos rfl] at hm ⊢
      rcases List.mem_append.1 hm with hm | hm
      · exact absurd hm (h.notified conv p)
      · obtain ⟨rfl, -⟩ := Prod.mk.inj (List.mem_singleton.1 hm)
        refine ⟨rfl, ?_⟩
        rw [List.lookup_append, hfresh]
        simp
    · rw [if_neg hc] at hm
      exact absurd hm (h.notified c p)
  · show _ ∈ _
    rw [hnotified, if_pos rfl]
    exact List.mem_append_right _ List.mem_cons_self

end Loose

/-- A frame installed over a session whose deferred releases and notifications name only frames
it holds is loose, and keeps the kind it was made with. -/
theorem installFrame_loose {conv : Nat} {f : Frame} {s s' : Session} {fid ptr : Nat}
    (h : (installFrame conv f).run s = (.ok (fid, ptr), s')) (hconv : f.conv = conv)
    (hk : FramesKnown s) (hrel : f.released = false) :
    fid = s.frames.size ∧ Loose fid s' ∧ (frameAt s' fid).async = f.async ∧
      s'.scopes = s.scopes ∧ s'.converters = s.converters := by
  obtain ⟨rfl, -, hframe, -, hs, hc⟩ := installFrame_runs conv f s s' fid ptr h hconv
  refine ⟨rfl, ⟨by rw [hframe]; exact hrel, fun sid hd => ?_, fun c p hm => ?_⟩, by rw [hframe], hs, hc⟩
  · rw [hs] at hd
    exact Nat.lt_irrefl _ (hk.defers sid _ hd)
  · rw [hc] at hm
    exact Nat.lt_irrefl _ (hk.notified c p _ hm)

theorem FramesKnown.of_keeps {s s' : Session} (hk : FramesKnown s) (h : KeepsCallbacks s s') :
    FramesKnown s' where
  defers sid fid hd := by
    rw [h.1]
    rw [h.2.1] at hd
    exact hk.defers sid fid hd
  notified conv ptr fid hm := by
    rw [h.1]
    rw [h.2.2] at hm
    exact hk.notified conv ptr fid hm

/-- The tie a callback made for a conversion gets from its options: the conversion's scope when
it is call-scoped, the return of its first call when async, its address when notified, and
nothing when forever or when a call-scoped callback has no scope to wait for. -/
def callbackTie (o : Options) (conv ptr : Nat) : Tie :=
  if o.callbackScope == 1 then o.scope.elim .forever .scope
  else if o.callbackScope == 2 then .call
  else if o.callbackScope == 3 then .address conv ptr
  else .forever

/-- What a conversion records for a callback it made ties the loose frame as its options say. -/
theorem record_sealed {o : Options} {conv fid ptr ptr' : Nat} {t t' : Session} (hloose : Loose fid t)
    (hasync : (frameAt t fid).async = (o.callbackScope == 2))
    (hscope : ∀ sid, o.scope = some sid → sid < t.scopes.size) (hconv : conv < t.converters.size)
    (hfresh : (t.converters.getD conv default).notified.lookup ptr' = none)
    (h : (if o.callbackScope == 1 then do
            scopeDefer o.scope (.releaseFrame fid)
            pure ptr
          else if o.callbackScope == 3 then do
            modifyConverter conv fun c => { c with notified := c.notified ++ [(ptr, fid)] }
            pure ptr
          else pure ptr : SessionM Nat).run t = (.ok ptr', t')) :
    Sealed fid (callbackTie o conv ptr') t' ∧ (callbackTie o conv ptr').Holds fid t' := by
  by_cases h1 : o.callbackScope = 1
  · have hnot : (frameAt t fid).async = false := by rw [hasync, h1]; rfl
    rw [if_pos (beq_iff_eq.2 h1)] at h
    rw [callbackTie, if_pos (beq_iff_eq.2 h1)]
    cases hs : o.scope with
    | none =>
      simp only [hs, scopeDefer, run_bind, run_pure] at h
      cases h
      simpa [hnot] using hloose.sealed
    | some sid =>
      simp only [hs, scopeDefer, run_bind, run_modifyScope, run_pure] at h
      cases h
      exact hloose.defer hnot (hscope sid hs)
  · rw [if_neg (by simpa using h1)] at h
    rw [callbackTie, if_neg (by simpa using h1)]
    by_cases h3 : o.callbackScope = 3
    · have hnot : (frameAt t fid).async = false := by rw [hasync, h3]; rfl
      rw [if_pos (beq_iff_eq.2 h3)] at h
      rw [if_neg (by simp [h3]), if_pos (beq_iff_eq.2 h3)]
      simp only [run_bind, run_modifyConverter, run_pure] at h
      cases h
      exact hloose.notify hnot hconv hfresh
    · rw [if_neg (by simpa using h3)] at h
      rw [show (if (o.callbackScope == 3) = true then Tie.address conv ptr' else .forever) = .forever from
        if_neg (by simpa using h3)]
      cases h
      simpa [hasync] using hloose.sealed

theorem encodeCallback_sealed (hooks : Hooks) (conv : Nat) {v : Value} (cb : Info.Info) (ty : String)
    (o : Options) {s s' : Session} {ptr : Nat}
    (hv : ∃ id ret p c, v = .callback id ret p c ∨ v = .func id ret p c)
    (h : (encodeCallback hooks conv v cb ty o).run s = (.ok ptr, s')) (hk : FramesKnown s)
    (hscope : ∀ sid, o.scope = some sid → sid < s.scopes.size) (hconv : conv < s.converters.size)
    (hfresh : (s.converters.getD conv default).notified.lookup ptr = none) :
    Sealed s.frames.size (callbackTie o conv ptr) s' ∧
      (callbackTie o conv ptr).Holds s.frames.size s' := by
  have hhandle : ∀ (t : Session) (hd : Nat), (handle hd).run t = (.ok (t.handles.getD hd default), t) :=
    fun _ _ => rfl
  obtain ⟨id, ret, p, c, rfl | rfl⟩ := hv <;>
  · simp only [encodeCallback, run_bind, run_converter, hhandle] at h
    split at h
    · cases h
    obtain ⟨sh, s₃, hsh, h⟩ := run_bind_eq_ok h
    have hkeep := keepsCallbacks_frameShape cb s
    rw [run_orConversion_ok hsh] at hkeep
    obtain ⟨r, s₄, hget, h⟩ := run_bind_eq_ok h
    cases hget
    obtain ⟨out, s₅, hinst, h⟩ := run_bind_eq_ok h
    obtain ⟨hfid, hloose, hasync, hsc, hcv⟩ :=
      installFrame_loose (run_orConversion_ok hinst) rfl (hk.of_keeps hkeep) rfl
    rw [hkeep.1] at hfid
    obtain ⟨fid, ptr'⟩ := out
    dsimp only at hfid hloose hasync h
    subst hfid
    exact record_sealed hloose hasync (fun sid hs => (hsc.trans hkeep.2.1) ▸ hscope sid hs)
      ((hcv.trans hkeep.2.2) ▸ hconv) ((hcv.trans hkeep.2.2) ▸ hfresh) h

theorem handler_sealed (conv : Nat) (signal : Info.Info) (emitter : Nat) (fn : Value)
    {s s' : Session} {ptr : Nat} (h : (Binding.handler conv signal emitter fn).run s = (.ok ptr, s'))
    (hk : FramesKnown s) (hconv : conv < s.converters.size)
    (hfresh : (s.converters.getD conv default).notified.lookup ptr = none) :
    Sealed s.frames.size (.address conv ptr) s' ∧ (Tie.address conv ptr).Holds s.frames.size s' := by
  simp only [Binding.handler, run_bind, run_get] at h
  split at h
  case h_3 =>
    obtain ⟨_, _, hthrow, -⟩ := run_bind_eq_ok h
    cases hthrow
  all_goals
    obtain ⟨sh, s₃, hsh, h⟩ := run_bind_eq_ok h
    have hkeep := keepsCallbacks_frameShape signal s
    rw [hsh] at hkeep
    obtain ⟨r, s₄, hget, h⟩ := run_bind_eq_ok h
    cases hget
    obtain ⟨out, s₅, hinst, h⟩ := run_bind_eq_ok h
    obtain ⟨hfid, hloose, hasync, -, hcv⟩ := installFrame_loose hinst rfl (hk.of_keeps hkeep) rfl
    rw [hkeep.1] at hfid
    obtain ⟨fid, ptr'⟩ := out
    dsimp only at hfid hloose hasync h
    subst hfid
    simp only [run_bind, run_modifyConverter, run_pure] at h
    cases h
    exact hloose.notify hasync ((hcv.trans hkeep.2.2) ▸ hconv) ((hcv.trans hkeep.2.2) ▸ hfresh)

/-! ## Callback lifetimes -/

/-- The lifetime of a callback handed to native code. A callback a conversion makes is tied as
its options say, a signal handler to its address, each sealed: no release but its tie reaches
it. Over every run of endings from a session of host libraries callbacks only end, a converter
forgets exactly the notified addresses the run names, and a sealed frame whose tie is in place
is released exactly when the run cut its tie: when its scope's deferred work ran, which every
release of that scope does, when its address was named, when a call of it returned, and never
for a callback kept forever. Afterwards a release of a released frame, or of an address named
before, does nothing. The destroy notifier a converter hands out is made once. -/
theorem callbacks_end_once :
    (∀ (hooks : Hooks) conv (v : Value) cb ty (o : Options) (s s' : Session) ptr,
      (∃ id ret p c, v = .callback id ret p c ∨ v = .func id ret p c) →
      (encodeCallback hooks conv v cb ty o).run s = (.ok ptr, s') → FramesKnown s →
      (∀ sid, o.scope = some sid → sid < s.scopes.size) → conv < s.converters.size →
      (s.converters.getD conv default).notified.lookup ptr = none →
      Sealed s.frames.size (callbackTie o conv ptr) s' ∧
        (callbackTie o conv ptr).Holds s.frames.size s') ∧
    (∀ conv signal emitter fn (s s' : Session) ptr,
      (Binding.handler conv signal emitter fn).run s = (.ok ptr, s') → FramesKnown s →
      conv < s.converters.size → (s.converters.getD conv default).notified.lookup ptr = none →
      Sealed s.frames.size (.address conv ptr) s' ∧ (Tie.address conv ptr).Holds s.frames.size s') ∧
    (∀ es s, HostBacked s →
      let s' := Ending.runAll es s
      Ends s s' ∧
      (∀ conv, (s'.converters.getD conv default).notified =
        (s.converters.getD conv default).notified.filter fun q => .address conv q.1 ∉ es) ∧
      (∀ fid tie, fid < s.frames.size → Sealed fid tie s → tie.Holds fid s →
        ((frameAt s' fid).released = true ↔ tie.Ended fid es s') ∧
        ∀ sid, tie = .scope sid → .scope sid ∈ es → (frameAt s' fid).released = true) ∧
      (∀ fid, (frameAt s' fid).released = true → (releaseFrame fid).run s' = (.ok (), s')) ∧
      ∀ conv ptr, .address conv ptr ∈ es → (releaseCallback conv ptr).run s' = (.ok (), s')) ∧
    (∀ conv s, conv < s.converters.size →
      (destroyNotify conv).run ((destroyNotify conv).run s).2 = (destroyNotify conv).run s) := by
  refine ⟨fun hooks conv v cb ty o s s' ptr hv h hk hscope hconv hfresh =>
      encodeCallback_sealed hooks conv cb ty o hv h hk hscope hconv hfresh,
    fun conv signal emitter fn s s' ptr h hk hconv hfresh =>
      handler_sealed conv signal emitter fn h hk hconv hfresh,
    fun es s hb => ⟨(runAll_moves es s).1, notified_runAll es s, ?_, ?_, ?_⟩, destroyNotify_made_once⟩
  · intro fid tie hfid h hh
    refine ⟨released_iff_ended es hb hfid h hh, fun sid htie hin => ?_⟩
    subst htie
    exact released_of_scope es hb hfid h hh hin
  · intro fid hrel
    rw [run_releaseFrame, run_release_released _ _ _ hrel]
  · intro conv ptr hin
    refine run_releaseCallback_none (List.lookup_eq_none_iff.2 fun q hq => ?_)
    rw [notified_runAll] at hq
    have hnamed := (List.mem_filter.1 hq).2
    simp only [decide_eq_true_eq] at hnamed
    exact bne_iff_ne.2 fun heq => hnamed (heq ▸ hin)

end Introspection.Marshal