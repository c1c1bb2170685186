import Introspection.Proofs.Repository.Require

/-!
# What a failed load leaves

A require that fails undoes only the namespace it added itself: when a dependency fails, the
namespace that named it is taken out again (its typelib closed when it was read from a file),
while the namespaces its earlier dependencies loaded stay. So a failed require or registration
never takes a namespace away or changes what a loaded name stands for, and the namespace asked
for stays unloaded when it was; it may leave other namespaces loaded.
-/

set_option linter.dupNamespace false

namespace Introspection.Repository

open Introspection.Typelib

namespace Repository

/-! ## Steps that keep a repository growing -/

theorem typelib_closeTypelib_ne (r : Repository) {tl i : Nat} (h : i ≠ tl) :
    (closeTypelib tl r).2.typelib i = r.typelib i := by
  simp [closeTypelib, run_modify, typelib, Array.getD_eq_getD_getElem?, Array.getElem?_modify,
    Ne.symm h]

theorem lookup_closeTypelib (r : Repository) (tl : Nat) (n : String) :
    (closeTypelib tl r).2.lookup n = r.lookup n := rfl

theorem Grows.closeTypelib {r₀ r : Repository} (g : Grows r₀ r) {tl : Nat}
    (htl : r₀.typelibs.size ≤ tl) : Grows r₀ (closeTypelib tl r).2 where
  files := g.files
  search := g.search
  typelibs_size := by
    show r₀.typelibs.size ≤ (r.typelibs.modify tl Typelib.close).size
    rw [Array.size_modify]
    exact g.typelibs_size
  typelib i hi := by
    rw [typelib_closeTypelib_ne r (by omega)]
    exact g.typelib i hi
  spaces_size := g.spaces_size
  space := g.space
  lookup := g.lookup

theorem Grows.without {r₀ r : Repository} (g : Grows r₀ r) {name : String}
    (hn : r₀.lookup name = none) : Grows r₀ (r.without name) where
  files := g.files
  search := g.search
  typelibs_size := g.typelibs_size
  typelib := g.typelib
  spaces_size := g.spaces_size
  space := g.space
  lookup n s h := by
    rw [lookup_without, if_neg]
    · exact g.lookup n s h
    · rintro rfl
      rw [hn] at h
      cases h

/-! ## Every run of a require grows the repository -/

section Fuel

variable {fuel : Nat}

theorem requireDeps_grows {tl sid : Nat} {path : String} {r₀ : Repository}
    (hreq : ∀ ns v r, r.WF → Grows r (requireIn fuel ns v r).2)
    (hclose : path.isEmpty = false → r₀.typelibs.size ≤ tl) :
    ∀ (deps : List String) (r : Repository), r.WF → tl < r.typelibs.size →
      r₀.lookup (r.typelib tl).namespace_ = none → Grows r₀ r →
      Grows r₀ (requireDeps fuel tl path sid deps r).2 := by
  intro deps
  induction deps with
  | nil =>
      intro r _ _ _ g
      rw [requireDeps_nil]
      exact g
  | cons dep rest ih =>
      intro r wf htl hname g
      cases hs : splitRequirement? dep with
      | none =>
          rw [requireDeps_cons_none hs]
          exact ih r wf htl hname g
      | some req =>
          obtain ⟨y, w⟩ := req
          rcases hr : requireIn fuel y w r with ⟨res, r₁⟩
          have g₁ : Grows r r₁ := by simpa [hr] using hreq y w r wf
          have wf₁ : r₁.WF := by simpa [hr] using requireIn_wf fuel y w r wf
          have hsame : r₁.typelib tl = r.typelib tl := g₁.typelib tl htl
          cases res with
          | ok s₁ =>
              rw [requireDeps, hs]
              simp only [run_bind, hr]
              exact ih r₁ wf₁ (Nat.lt_of_lt_of_le htl g₁.typelibs_size) (hsame ▸ hname)
                (g.trans g₁)
          | error e =>
              have gout : Grows r₀ (r₁.without (r₁.typelib tl).namespace_) :=
                (g.trans g₁).without (hsame ▸ hname)
              rw [requireDeps_cons_error hs hr]
              cases hp : path.isEmpty
              · exact gout.closeTypelib (hclose hp)
              · exact gout

theorem addSpace_grows_of {tl : Nat} {path : String} {r₀ r : Repository}
    (hdeps : ∀ k, fuel = k + 1 → ∀ sid deps r, r.WF → tl < r.typelibs.size →
      r₀.lookup (r.typelib tl).namespace_ = none → Grows r₀ r →
      Grows r₀ (requireDeps k tl path sid deps r).2)
    (wf : r.WF) (htl : tl < r.typelibs.size) (hnew : r.lookup (r.typelib tl).namespace_ = none)
    (g : Grows r₀ r) : Grows r₀ (addSpace fuel tl path r).2 := by
  have g₂ : Grows r₀ (r.withSpace tl path) := g.trans (Grows.withSpace path hnew)
  have hname : r₀.lookup ((r.withSpace tl path).typelib tl).namespace_ = none := by
    cases h₀ : r₀.lookup (r.typelib tl).namespace_ with
    | none => exact h₀
    | some s =>
        rw [g.lookup _ _ h₀] at hnew
        cases hnew
  cases fuel with
  | zero =>
      rw [addSpace_zero]
      exact g₂
  | succ k =>
      rw [addSpace_succ]
      exact hdeps k rfl _ _ _ (wf.withSpace htl path) htl hname g₂

theorem requireIn_grows_of
    (hadd : ∀ tl path (r₀ r : Repository), r.WF → tl < r.typelibs.size →
      r.lookup (r.typelib tl).namespace_ = none → Grows r₀ r →
      (path.isEmpty = false → r₀.typelibs.size ≤ tl) → Grows r₀ (addSpace fuel tl path r).2)
    {ns v : String} {r : Repository} (wf : r.WF) : Grows r (requireIn fuel ns v r).2 := by
  rcases h : requireIn fuel ns v r with ⟨res, r'⟩
  show Grows r r'
  rw [requireIn] at h
  cases hl : r.lookup ns with
  | some s =>
      dsimp only [run_bind, run_get] at h
      simp only [hl] at h
      by_cases hv : (!v.isEmpty && v != r.spaceVersion s) = true <;>
      · simp only [hv, ↓reduceIte, Bool.false_eq_true, run_pure] at h
        obtain ⟨-, rfl⟩ := Prod.mk.inj h
        exact Grows.refl r
  | none =>
      simp only [run_bind, run_get, hl] at h
      cases hf : r.findFile ns v with
      | error e =>
          rw [hf] at h
          obtain ⟨-, rfl⟩ := Prod.mk.inj h
          exact Grows.refl r
      | ok path =>
          rw [hf] at h
          cases hload : Typelib.load ((r.files.read? path).getD .empty) with
          | error e =>
              simp only [hload] at h
              obtain ⟨-, rfl⟩ := Prod.mk.inj h
              exact Grows.refl r
          | ok t =>
              simp only [hload, run_bind, run_addTypelib] at h
              split at h
              ·
                simp only [run_bind, run_pure] at h
                obtain ⟨-, rfl⟩ := Prod.mk.inj h
                exact (Grows.withTypelib r t).closeTypelib (Nat.le_refl _)
              · rename_i hmatch
                have hok : t.namespace_ = ns ∧ (v ≠ "" → t.version = v) := by simpa using hmatch
                have hname : t.namespace_ = ns := hok.1
                have hnew : (r.withTypelib t).lookup
                    ((r.withTypelib t).typelib r.typelibs.size).namespace_ = none := by
                  rw [typelib_withTypelib_self, hname]
                  exact hl
                have := hadd r.typelibs.size path r (r.withTypelib t) (wf.withTypelib t)
                  (by simp [withTypelib]) hnew (Grows.withTypelib r t) (fun _ => Nat.le_refl _)
                rwa [h] at this

end Fuel

theorem requireIn_grows (fuel : Nat) :
    ∀ (ns v : String) (r : Repository), r.WF → Grows r (requireIn fuel ns v r).2 := by
  induction fuel with
  | zero =>
      intro ns v r wf
      refine requireIn_grows_of (fun tl path r₀ r wf htl hnew g _ => ?_) wf
      refine addSpace_grows_of ?_ wf htl hnew g
      intro k hk
      cases hk
  | succ k ih =>
      intro ns v r wf
      refine requireIn_grows_of (fun tl path r₀ r wf htl hnew g hclose => ?_) wf
      refine addSpace_grows_of ?_ wf htl hnew g
      intro k' hk' sid deps r wf htl hname g
      obtain rfl := Nat.succ.inj hk'
      exact requireDeps_grows ih hclose deps r wf htl hname g

/-! ## A failed require leaves its namespace unloaded -/

section Fuel

variable {fuel : Nat}

theorem requireDeps_error_unloaded {tl sid : Nat} {path : String} {e : Failure} :
    ∀ (deps : List String) (r r' : Repository), r.WF → tl < r.typelibs.size →
      requireDeps fuel tl path sid deps r = (.error e, r') →
      r'.lookup (r.typelib tl).namespace_ = none := by
  intro deps
  induction deps with
  | nil =>
      intro r r' _ _ h
      rw [requireDeps_nil] at h
      cases congrArg Prod.fst h
  | cons dep rest ih =>
      intro r r' wf htl h
      cases hs : splitRequirement? dep with
      | none =>
          rw [requireDeps_cons_none hs] at h
          exact ih r r' wf htl h
      | some req =>
          obtain ⟨y, w⟩ := req
          rcases hr : requireIn fuel y w r with ⟨res, r₁⟩
          have g₁ : Grows r r₁ := by simpa [hr] using requireIn_grows fuel y w r wf
          have hsame : r₁.typelib tl = r.typelib tl := g₁.typelib tl htl
          cases res with
          | ok s₁ =>
              rw [requireDeps, hs] at h
              simp only [run_bind, hr] at h
              have wf₁ : r₁.WF := by simpa [hr] using requireIn_wf fuel y w r wf
              rw [← hsame]
              exact ih r₁ r' wf₁ (Nat.lt_of_lt_of_le htl g₁.typelibs_size) h
          | error e₁ =>
              have hout : (requireDeps fuel tl path sid (dep :: rest) r).2 = r' := by rw [h]
              rw [requireDeps_cons_error hs hr] at hout
              rw [← hout, ← hsame]
              split <;> simp [lookup_closeTypelib, lookup_without]

theorem requireIn_error_unloaded {ns v : String} {r r' : Repository} {e : Failure} (wf : r.WF)
    (hl : r.lookup ns = none) (h : requireIn fuel ns v r = (.error e, r')) :
    r'.lookup ns = none := by
  rw [requireIn] at h
  simp only [run_bind, run_get, hl] at h
  cases hf : r.findFile ns v with
  | error e =>
      rw [hf] at h
      rw [← (Prod.mk.inj h).2]
      exact hl
  | ok path =>
      rw [hf] at h
      cases hload : Typelib.load ((r.files.read? path).getD .empty) with
      | error e =>
          simp only [hload] at h
          rw [← (Prod.mk.inj h).2]
          exact hl
      | ok t =>
          simp only [hload, run_bind, run_addTypelib] at h
          split at h
          · simp only [run_bind, run_pure] at h
            rw [← (Prod.mk.inj h).2, lookup_closeTypelib]
            exact hl
          · rename_i hmatch
            have hok : t.namespace_ = ns ∧ (v ≠ "" → t.version = v) := by simpa using hmatch
            have hname : t.namespace_ = ns := hok.1
            cases fuel with
            | zero =>
                rw [addSpace_zero] at h
                cases congrArg Prod.fst h
            | succ k =>
                rw [addSpace_added] at h
                have := requireDeps_error_unloaded _ _ r' wf.added
                  (by simp [added, withSpace, withTypelib]) h
                have hty : (r.added t path).typelib r.typelibs.size = t := typelib_withTypelib_self r t
                rwa [hty, hname] at this

end Fuel

theorem addSpace_error_unloaded {fuel tl : Nat} {r r' : Repository} {e : Failure} (wf : r.WF)
    (htl : tl < r.typelibs.size) (h : addSpace fuel tl "" r = (.error e, r')) :
    r'.lookup (r.typelib tl).namespace_ = none := by
  cases fuel with
  | zero =>
      rw [addSpace_zero] at h
      cases congrArg Prod.fst h
  | succ k =>
      rw [addSpace_succ] at h
      exact requireDeps_error_unloaded _ (r.withSpace tl "") r' (wf.withSpace htl "") htl h

/-- A require or registration that fails takes no namespace away: the repository grows, so every
namespace loaded before stays loaded as the same record over the same typelib, and the namespace
asked for stays unloaded when it was. -/
theorem failed_load_keeps_loaded {r : Repository} (hr : Reachable r) :
    (∀ ns v e r', require ns v r = (.error e, r') →
      Grows r r' ∧ (r.lookup ns = none → r'.lookup ns = none)) ∧
    (∀ tl e r', tl < r.typelibs.size → register (some tl) r = (.error e, r') →
      Grows r r' ∧
        (r.lookup (r.typelib tl).namespace_ = none → r'.lookup (r.typelib tl).namespace_ = none)) := by
  have wf := hr.wf
  constructor
  · intro ns v e r' h
    rw [require] at h
    by_cases hns : ns.isEmpty = true
    · simp only [hns, ↓reduceIte, run_pure] at h
      obtain ⟨-, rfl⟩ := Prod.mk.inj h
      exact ⟨Grows.refl r, id⟩
    · simp only [hns, ↓reduceIte, Bool.false_eq_true, run_bind, run_get] at h
      by_cases hc : r.closed = true
      · simp only [hc, ↓reduceIte, run_pure] at h
        obtain ⟨-, rfl⟩ := Prod.mk.inj h
        exact ⟨Grows.refl r, id⟩
      · simp only [hc, ↓reduceIte, Bool.false_eq_true] at h
        have g := requireIn_grows r.depthBound ns v r wf
        rw [h] at g
        exact ⟨g, fun hl => requireIn_error_unloaded wf hl h⟩
  · intro tl e r' htl h
    rw [register] at h
    simp only [run_bind, run_get] at h
    by_cases hc : r.closed = true
    · simp only [hc, ↓reduceIte, run_pure] at h
      obtain ⟨-, rfl⟩ := Prod.mk.inj h
      exact ⟨Grows.refl r, id⟩
    · simp only [hc, ↓reduceIte, Bool.false_eq_true] at h
      cases hl : r.lookup (r.typelib tl).namespace_ with
      | some s =>
          simp only [hl] at h
          by_cases hs : ((r.space s).typelib == tl) = true <;>
          · simp only [hs, ↓reduceIte, Bool.false_eq_true, run_pure] at h
            obtain ⟨-, rfl⟩ := Prod.mk.inj h
            exact ⟨Grows.refl r, fun hnone => by cases hnone⟩
      | none =>
          simp only [hl] at h
          have g := @addSpace_grows_of r.depthBound tl "" r r
            (fun k _ sid deps r' wf' htl' hname g' =>
              requireDeps_grows (requireIn_grows k) (by simp) deps r' wf' htl' hname g')
            wf htl hl (Grows.refl r)
          rw [h] at g
          exact ⟨g, fun _ => addSpace_error_unloaded wf htl h⟩

theorem requireIn_missing {fuel : Nat} {ns v : String} {r : Repository} {e : Failure}
    (hl : r.lookup ns = none) (hf : r.findFile ns v = .error e) :
    requireIn fuel ns v r = (.error e, r) := by
  rw [requireIn]
  simp only [run_bind, run_get, hl, hf]
  rfl

/-- Requiring `A` at 1.0 on `versionTree` reads `A`, loads its first dependency `B` and then
fails on the missing `C`: `A` is taken back out, its typelib closed, and `B` stays. -/
theorem require_aOne_fails :
    ∃ e r', require "A" "1.0" versionRepo = (.error e, r') ∧ r'.loaded = [("B", 1)] := by
  obtain ⟨tA, hA, hAns, hAv, hAdeps⟩ :=
    @load_of_header aOneImage "A" "1.0" (some ["B-1.0", "C-1.0"]) (by decide +kernel)
  have hf : versionRepo.findFile "A" "1.0" = .ok "/d/A-1.0.typelib" :=
    eq_ok_of_toOption (by decide +kernel)
  have hread : versionTree.read? "/d/A-1.0.typelib" = some aOneImage := by decide +kernel
  have hload : load ((versionRepo.files.read? "/d/A-1.0.typelib").getD .empty) = .ok tA := by
    rw [show versionRepo.files = versionTree from rfl, hread]
    exact hA
  obtain ⟨tB, hBns, -, hB⟩ := requireIn_bOne 3 "/d/A-1.0.typelib" hAns
  let r₂ := (versionRepo.added tA "/d/A-1.0.typelib").added tB "/d/B-1.0.typelib"
  obtain ⟨e, hmissing⟩ : ∃ e, r₂.findFile "C" "1.0" = .error e := by
    cases hc : versionRepo.findFile "C" "1.0" with
    | error e => exact ⟨e, hc⟩
    | ok p =>
        have hnone : (versionRepo.findFile "C" "1.0").toOption = none := by decide +kernel
        simp [hc, Except.toOption] at hnone
  have hlC : r₂.lookup "C" = none := by
    rw [lookup_added, lookup_added, hBns, hAns]
    rfl
  refine ⟨dependencyFailure (r₂.typelib 0).namespace_ "C-1.0" e,
    (closeTypelib 0 (r₂.without (r₂.typelib 0).namespace_)).2, ?_, ?_⟩
  · rw [require_of_open rfl rfl, show versionRepo.depthBound = 4 + 1 from rfl,
      requireIn_read rfl hf hload hAns fun _ => hAv, addSpace_added, hAdeps, Option.getD_some,
      requireDeps_cons_ok (by decide +kernel) hB,
      requireDeps_cons_fails (by decide +kernel) (requireIn_missing hlC hmissing)]
    rfl
  · show (r₂.without (r₂.typelib 0).namespace_).loaded = _
    rw [show r₂.typelib 0 = tA from rfl, hAns, without, loaded_added, loaded_added, hBns, hAns]
    rfl

/-- A failed require can leave a namespace loaded that was not before: on `versionTree`, which
nothing was loaded from, requiring `A` at 1.0 fails on its missing dependency `C` with `B`
loaded for it, and `B` alone is loaded afterwards. -/
theorem failed_require_keeps_dependency :
    versionRepo.loadedNames = [] ∧
      ∃ e r', require "A" "1.0" versionRepo = (.error e, r') ∧ r'.loadedNames = ["B"] := by
  obtain ⟨e, r', h, hloaded⟩ := require_aOne_fails
  exact ⟨by simp [loadedNames, versionRepo], e, r', h, by simp [loadedNames, hloaded]⟩

/-- On `versionTree`, the failed require of `A` at 1.0 keeps everything loaded before and leaves
`A` unloaded. -/
theorem failed_dependency_keeps_repository :
    Reachable versionRepo ∧ ∃ e r', require "A" "1.0" versionRepo = (.error e, r') ∧
      Grows versionRepo r' ∧ r'.lookup "A" = none := by
  have hr : Reachable versionRepo := .fresh versionTree ["/d"]
  obtain ⟨e, r', h, -⟩ := require_aOne_fails
  obtain ⟨g, hA⟩ := (failed_load_keeps_loaded hr).1 "A" "1.0" e r' h
  exact ⟨hr, e, r', h, g, hA rfl⟩

/-! ## The process-wide repository

A binding runtime made without a repository of its own uses the process-wide one. Nothing is
registered there and none of its search directories holds a file, so every require from it
fails and leaves it as it was, and no GType name is found in it: whatever a runtime over it asks
for fails before a namespace of it could stand in for one of the session's. -/

theorem emptyFiles_node? (p : String) :
    ({} : Files).node? p = if cleanPath p == "/" then some .dir else none := by
  simp [Files.node?]

theorem emptyFiles_isFile (p : String) : ({} : Files).isFile p = false := by
  rw [Files.isFile, emptyFiles_node?]
  split <;> simp_all

theorem emptyFiles_readDir? (p : String) {entries : List (String × Bool)}
    (h : ({} : Files).readDir? p = some entries) : entries = [] := by
  unfold Files.readDir? at h
  split at h
  · simp only [List.filterMap_nil, List.eraseDups_nil, Option.some.injEq] at h
    exact h.symm
  · cases h

theorem findFile_processRepository (ns v : String) :
    processRepository.findFile ns v =
      .error (.notFound .load "typelib" (if v.isEmpty then ns else fileName ns v)) := by
  have hfiles : processRepository.files = {} := rfl
  unfold findFile
  split
  · -- a version is asked for: no directory holds its file
    rename_i hv
    have hnone : processRepository.search.find?
        (fun dir => processRepository.files.isFile (joinPath [dir, fileName ns v])) = none :=
      List.find?_eq_none.2 fun dir _ => by rw [hfiles, emptyFiles_isFile]; simp
    simp only [hnone]
    simp_all
  · -- the highest version: every directory lists nothing, so no candidate is ever kept
    rename_i hv
    dsimp only
    rw [List.foldl_fixed' fun dir => ?_]
    · simp_all
    · rw [hfiles]
      split
      · rfl
      · rename_i entries h
        rw [emptyFiles_readDir? _ h]
        rfl

/-- Requiring from the process-wide repository fails, with the failure of an empty namespace
name or of a typelib not found, and leaves the repository as it was. -/
theorem require_processRepository (ns v : String) :
    require ns v processRepository =
      (.error (if ns.isEmpty then .invalidInput .load "empty namespace"
        else .notFound .load "typelib" (if v.isEmpty then ns else fileName ns v)),
        processRepository) := by
  by_cases hns : ns.isEmpty = true
  · simp only [require, hns, if_true]
    rfl
  · rw [if_neg hns]
    simp only [require, hns, Bool.false_eq_true, if_false]
    show requireIn processRepository.depthBound ns v processRepository = _
    exact requireIn_missing rfl (findFile_processRepository ns v)

theorem findByGTypeName_processRepository (name : String) :
    processRepository.findByGTypeName name = .error (.notFound .lookup "GType" name) := rfl

end Repository

end Introspection.Repository
