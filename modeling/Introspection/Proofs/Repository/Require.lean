import Mathlib.Data.List.Perm.Subperm
import Introspection.Proofs.Repository.VersionChoice

/-!
# Requiring a namespace

A require finds a namespace's typelib on the search path, loads it, makes the namespace visible
and then requires each of its dependencies in turn; a dependency already visible, cycles
included, is taken as it is. The recursion is bounded by fuel, one level per file of the tree
and per loaded namespace. The levels of a require in progress are namespaces loaded from
different files, so the bound is never reached: every namespace a successful require loads has
every dependency it names loaded, at the version it names.
-/

set_option linter.dupNamespace false

namespace List

variable {κ ν : Type} [BEq κ] [LawfulBEq κ]

theorem lookup_filter_ne (l : List (κ × ν)) {k k' : κ} (h : k' ≠ k) :
    (l.filter (·.1 != k)).lookup k' = l.lookup k' := by
  induction l with
  | nil => rfl
  | cons e rest ih =>
      obtain ⟨m, v⟩ := e
      by_cases hm : m = k
      · subst hm
        have hne : (k' == m) = false := by simpa using h
        simp [List.lookup_cons, hne, ih]
      · simp [hm, List.lookup_cons, ih]

theorem lookup_filter_self (l : List (κ × ν)) (k : κ) :
    (l.filter (·.1 != k)).lookup k = none := by
  induction l with
  | nil => rfl
  | cons e rest ih =>
      obtain ⟨m, v⟩ := e
      by_cases hm : m = k
      · subst hm
        simp [ih]
      · have hne : (k == m) = false := by simpa using Ne.symm hm
        simp [hm, List.lookup_cons, hne, ih]

theorem lookup_cons_filter [DecidableEq κ] (l : List (κ × ν)) (k k' : κ) (v : ν) :
    ((k, v) :: l.filter (·.1 != k)).lookup k' = if k' = k then some v else l.lookup k' := by
  by_cases h : k' = k
  · subst h
    simp
  · have hne : (k' == k) = false := by simpa using h
    rw [if_neg h, List.lookup_cons, hne]
    exact lookup_filter_ne l h

end List

namespace Introspection.Repository

open Introspection.Typelib

namespace Repository

variable {α β : Type}

/-! ## Running the repository monad -/

theorem run_bind (m : RepoM α) (f : α → RepoM β) (r : Repository) :
    (m >>= f) r = f (m r).1 (m r).2 := rfl

theorem run_get (r : Repository) : (get : RepoM Repository) r = (r, r) := rfl

theorem run_set (s r : Repository) : (set s : RepoM PUnit) r = (⟨⟩, s) := rfl

theorem run_modify (g : Repository → Repository) (r : Repository) :
    (modify g : RepoM PUnit) r = (⟨⟩, g r) := rfl

theorem run_pure (a : α) (r : Repository) : (pure a : RepoM α) r = (a, r) := rfl

/-- The state `addTypelib` leaves: one more typelib kept. -/
def withTypelib (r : Repository) (t : Typelib) : Repository :=
  { r with typelibs := r.typelibs.push t }

theorem run_addTypelib (t : Typelib) (r : Repository) :
    addTypelib t r = (r.typelibs.size, r.withTypelib t) := rfl

/-! ## Records -/

theorem typelib_of_push {r r' : Repository} {t : Typelib} (h : r'.typelibs = r.typelibs.push t)
    {i : Nat} (hi : i < r.typelibs.size) : r'.typelib i = r.typelib i := by
  simp [typelib, h, Array.getD_eq_getD_getElem?, Array.getElem?_push_lt hi,
    Array.getElem?_eq_getElem hi]

theorem typelib_of_push_self {r r' : Repository} {t : Typelib}
    (h : r'.typelibs = r.typelibs.push t) : r'.typelib r.typelibs.size = t := by
  simp [typelib, h, Array.getD_eq_getD_getElem?]

theorem space_of_push {r r' : Repository} {sp : Space} (h : r'.spaces = r.spaces.push sp)
    {s : Nat} (hs : s < r.spaces.size) : r'.space s = r.space s := by
  simp [space, h, Array.getD_eq_getD_getElem?, Array.getElem?_push_lt hs,
    Array.getElem?_eq_getElem hs]

theorem space_of_push_self {r r' : Repository} {sp : Space} (h : r'.spaces = r.spaces.push sp) :
    r'.space r.spaces.size = sp := by
  simp [space, h, Array.getD_eq_getD_getElem?]

/-- A repository whose records all exist: every loaded name is a namespace record of that name,
and every record's typelib is kept. -/
structure WF (r : Repository) : Prop where
  loaded : ∀ n s, r.lookup n = some s → s < r.spaces.size
  names : ∀ n s, r.lookup n = some s → (r.space s).name = n
  typelibs : ∀ s < r.spaces.size, (r.space s).typelib < r.typelibs.size

/-- A repository grows into another: the same files and search path, typelibs and namespace
records only added, and every loaded name still loaded as the same record. -/
structure Grows (r r' : Repository) : Prop where
  files : r'.files = r.files
  search : r'.search = r.search
  typelibs_size : r.typelibs.size ≤ r'.typelibs.size
  typelib : ∀ i < r.typelibs.size, r'.typelib i = r.typelib i
  spaces_size : r.spaces.size ≤ r'.spaces.size
  space : ∀ s < r.spaces.size, r'.space s = r.space s
  lookup : ∀ n s, r.lookup n = some s → r'.lookup n = some s

namespace Grows

theorem refl (r : Repository) : Grows r r :=
  ⟨rfl, rfl, Nat.le_refl _, fun _ _ => rfl, Nat.le_refl _, fun _ _ => rfl, fun _ _ h => h⟩

theorem trans {r₁ r₂ r₃ : Repository} (h₁ : Grows r₁ r₂) (h₂ : Grows r₂ r₃) : Grows r₁ r₃ where
  files := h₂.files.trans h₁.files
  search := h₂.search.trans h₁.search
  typelibs_size := Nat.le_trans h₁.typelibs_size h₂.typelibs_size
  typelib i hi := (h₂.typelib i (Nat.lt_of_lt_of_le hi h₁.typelibs_size)).trans (h₁.typelib i hi)
  spaces_size := Nat.le_trans h₁.spaces_size h₂.spaces_size
  space s hs := (h₂.space s (Nat.lt_of_lt_of_le hs h₁.spaces_size)).trans (h₁.space s hs)
  lookup n s h := h₂.lookup n s (h₁.lookup n s h)

theorem spaceTypelib {r r' : Repository} (g : Grows r r') (wf : r.WF) {s : Nat}
    (hs : s < r.spaces.size) : r'.spaceTypelib s = r.spaceTypelib s := by
  simp only [Repository.spaceTypelib, g.space s hs]
  exact g.typelib _ (wf.typelibs s hs)

theorem spaceVersion {r r' : Repository} (g : Grows r r') (wf : r.WF) {s : Nat}
    (hs : s < r.spaces.size) : r'.spaceVersion s = r.spaceVersion s := by
  simp only [Repository.spaceVersion, g.spaceTypelib wf hs]

theorem withTypelib (r : Repository) (t : Typelib) : Grows r (r.withTypelib t) where
  files := rfl
  search := rfl
  typelibs_size := by simp [Repository.withTypelib]
  typelib i hi := typelib_of_push rfl hi
  spaces_size := Nat.le_refl _
  space _ _ := rfl
  lookup _ _ h := h

end Grows

theorem WF.withTypelib {r : Repository} (wf : r.WF) (t : Typelib) : (r.withTypelib t).WF where
  loaded := wf.loaded
  names := wf.names
  typelibs s hs := by
    have := wf.typelibs s hs
    simp only [Repository.withTypelib, Array.size_push]
    exact Nat.lt_succ_of_lt this

theorem typelib_withTypelib_self (r : Repository) (t : Typelib) :
    (r.withTypelib t).typelib r.typelibs.size = t :=
  typelib_of_push_self rfl

/-- The state `addSpace` makes visible: a new record for the typelib's namespace. -/
def withSpace (r : Repository) (tl : Nat) (path : String) : Repository :=
  { r with spaces := r.spaces.push { name := (r.typelib tl).namespace_, typelib := tl, path },
           loaded := ((r.typelib tl).namespace_, r.spaces.size) ::
             r.loaded.filter (·.1 != (r.typelib tl).namespace_) }

theorem lookup_withSpace (r : Repository) (tl : Nat) (path n : String) :
    (r.withSpace tl path).lookup n =
      if n = (r.typelib tl).namespace_ then some r.spaces.size else r.lookup n :=
  List.lookup_cons_filter _ _ _ _

theorem space_withSpace (r : Repository) (tl : Nat) (path : String) :
    (r.withSpace tl path).space r.spaces.size =
      { name := (r.typelib tl).namespace_, typelib := tl, path } :=
  space_of_push_self rfl

theorem WF.withSpace {r : Repository} (wf : r.WF) {tl : Nat} (htl : tl < r.typelibs.size)
    (path : String) : (r.withSpace tl path).WF where
  loaded n s h := by
    rw [lookup_withSpace] at h
    simp only [Repository.withSpace, Array.size_push]
    split at h
    · cases h
      exact Nat.lt_succ_self _
    · exact Nat.lt_succ_of_lt (wf.loaded n s h)
  names n s h := by
    rw [lookup_withSpace] at h
    split at h
    · rename_i hn
      cases h
      rw [space_withSpace]
      exact hn.symm
    · rw [space_of_push rfl (wf.loaded n s h)]
      exact wf.names n s h
  typelibs s hs := by
    simp only [Repository.withSpace, Array.size_push] at hs
    rcases Nat.lt_succ_iff_lt_or_eq.1 hs with hs | rfl
    · rw [space_of_push rfl hs]
      exact wf.typelibs s hs
    · rw [space_withSpace]
      exact htl

theorem Grows.withSpace {r : Repository} {tl : Nat} (path : String)
    (hnew : r.lookup (r.typelib tl).namespace_ = none) : Grows r (r.withSpace tl path) where
  files := rfl
  search := rfl
  typelibs_size := Nat.le_refl _
  typelib _ _ := rfl
  spaces_size := by simp [Repository.withSpace]
  space s hs := space_of_push rfl hs
  lookup n s h := by
    rw [lookup_withSpace, if_neg]
    · exact h
    · rintro rfl
      rw [hnew] at h
      cases h

/-! ## Files and requirements -/

theorem read?_congr (fs : Files) {p q : String} (h : cleanPath p = cleanPath q) :
    fs.read? p = fs.read? q := by
  unfold Files.read? Files.node?
  rw [h]

theorem mem_keys_of_read? {fs : Files} {p : String} {d : ByteArray} (h : fs.read? p = some d) :
    cleanPath p ∈ fs.nodes.map (·.1) := by
  simp only [Files.read?, Files.node?] at h
  cases hl : fs.nodes.lookup (cleanPath p) with
  | some n =>
      obtain ⟨l₁, l₂, heq, -⟩ := List.lookup_eq_some_iff.1 hl
      simp [heq]
  | none =>
      rw [hl] at h
      simp only at h
      split_ifs at h

theorem read?_of_load {fs : Files} {p : String} {t : Typelib}
    (h : Typelib.load ((fs.read? p).getD .empty) = .ok t) : ∃ d, fs.read? p = some d := by
  cases hr : fs.read? p with
  | some d => exact ⟨d, rfl⟩
  | none =>
      rw [hr] at h
      cases h

theorem length_toList_loop (bs : ByteArray) (i : Nat) (r : List UInt8) :
    (ByteArray.toList.loop bs i r).length = r.length + (bs.size - i) := by
  fun_induction ByteArray.toList.loop bs i r with
  | case1 i r h ih => simp only [ih, List.length_cons]; omega
  | case2 i r h => simp only [List.length_reverse]; omega

theorem length_toList (bs : ByteArray) : bs.toList.length = bs.size := by
  simp [ByteArray.toList, length_toList_loop]

theorem lastDash?_lt {dep : String} {i : Nat} (h : lastDash? dep = some i) :
    i < dep.toUTF8.size := by
  simp only [lastDash?, Option.map_eq_some_iff] at h
  obtain ⟨⟨b, j⟩, hj, rfl⟩ := h
  have hmem := (List.mem_filter.1 (List.mem_of_getLast? hj)).1
  have hlt := (List.mem_zipIdx hmem).2.1
  rwa [Nat.zero_add, length_toList] at hlt

theorem fromUTF8?_ne_empty {bs : ByteArray} {s : String} (h : String.fromUTF8? bs = some s)
    (hbs : 0 < bs.size) : s ≠ "" := by
  unfold String.fromUTF8? at h
  split at h
  · cases h
    intro he
    have hsize := congrArg String.utf8ByteSize he
    rw [String.fromUTF8, String.utf8ByteSize_ofByteArray, String.utf8ByteSize_empty] at hsize
    omega
  · cases h

theorem splitRequirement?_version_ne {dep y w : String} (h : splitRequirement? dep = some (y, w)) :
    w ≠ "" := by
  unfold splitRequirement? at h
  split at h
  · cases h
  · rename_i i hi
    have hlt := lastDash?_lt hi
    simp only [Bool.or_eq_true, beq_iff_eq] at h
    split_ifs at h with hcut
    split at h
    · cases h
      rename_i hv
      refine fromUTF8?_ne_empty hv ?_
      rw [ByteArray.size_extract]
      omega
    · cases h

/-! ## Closed namespaces -/

/-- Every well-formed dependency a namespace record names is loaded, at the version it names. -/
def DepsLoaded (r : Repository) (s : Nat) : Prop :=
  ∀ dep ∈ (r.spaceTypelib s).dependencies.getD [], ∀ y w, splitRequirement? dep = some (y, w) →
    ∃ s', r.lookup y = some s' ∧ r.spaceVersion s' = w

theorem DepsLoaded.mono {r r' : Repository} (g : Grows r r') (wf : r.WF) {s : Nat}
    (hs : s < r.spaces.size) (h : DepsLoaded r s) : DepsLoaded r' s := by
  intro dep hdep y w hsplit
  rw [g.spaceTypelib wf hs] at hdep
  obtain ⟨s', hl, hv⟩ := h dep hdep y w hsplit
  exact ⟨s', g.lookup y s' hl, (g.spaceVersion wf (wf.loaded y s' hl)).trans hv⟩

/-- Every namespace that became visible between two repositories has its dependencies loaded. -/
def NewClosed (r r' : Repository) : Prop :=
  ∀ n s, r.lookup n = none → r'.lookup n = some s → DepsLoaded r' s

theorem NewClosed.refl (r : Repository) : NewClosed r r := by
  intro n s hn hs
  rw [hn] at hs
  cases hs

theorem NewClosed.trans {r₁ r₂ r₃ : Repository} (h₁ : NewClosed r₁ r₂) (h₂ : NewClosed r₂ r₃)
    (g : Grows r₂ r₃) (wf : r₂.WF) : NewClosed r₁ r₃ := by
  intro n s hn hs
  cases hl : r₂.lookup n with
  | none => exact h₂ n s hl hs
  | some s₂ =>
      have hss : s = s₂ := Option.some.inj (hs.symm.trans (g.lookup n s₂ hl))
      subst hss
      exact (h₁ n s hn hl).mono g wf (wf.loaded n s hl)

/-! ## Chains of requires in progress -/

/-- The namespaces of the requires in progress, each with its file: each is visible, was loaded
from its file, and no two came from the same file. -/
structure Chain (r : Repository) (c : List (String × String)) : Prop where
  loaded : ∀ e ∈ c, r.lookup e.1 ≠ none
  from_file : ∀ e ∈ c, ∃ t, Typelib.load ((r.files.read? e.2).getD .empty) = .ok t ∧
    t.namespace_ = e.1
  distinct : (c.map fun e => cleanPath e.2).Nodup

theorem Chain.nil (r : Repository) : Chain r [] :=
  ⟨by simp, by simp, List.nodup_nil⟩

theorem Chain.length_le {r : Repository} {c : List (String × String)} (h : Chain r c) :
    c.length ≤ r.files.nodes.length := by
  have hsub : (c.map fun e => cleanPath e.2) ⊆ r.files.nodes.map (·.1) := by
    intro k hk
    obtain ⟨e, he, rfl⟩ := List.mem_map.1 hk
    obtain ⟨t, hload, -⟩ := h.from_file e he
    obtain ⟨d, hd⟩ := read?_of_load hload
    exact mem_keys_of_read? hd
  simpa using (List.subperm_of_subset h.distinct hsub).length_le

theorem Chain.mono {r r' : Repository} {c : List (String × String)} (h : Chain r c)
    (g : Grows r r') : Chain r' c where
  loaded e he := by
    obtain ⟨s, hs⟩ := Option.ne_none_iff_exists'.1 (h.loaded e he)
    rw [g.lookup _ _ hs]
    exact Option.some_ne_none s
  from_file e he := by
    rw [g.files]
    exact h.from_file e he
  distinct := h.distinct

theorem Chain.extend {r r' : Repository} {c : List (String × String)} (h : Chain r c)
    (g : Grows r r') {n p : String} {t : Typelib} (hnew : r.lookup n = none)
    (hvis : r'.lookup n ≠ none) (hload : Typelib.load ((r.files.read? p).getD .empty) = .ok t)
    (hname : t.namespace_ = n) : Chain r' (c ++ [(n, p)]) where
  loaded e he := by
    rcases List.mem_append.1 he with he | he
    · exact (h.mono g).loaded e he
    · rw [List.mem_singleton.1 he]
      exact hvis
  from_file e he := by
    rcases List.mem_append.1 he with he | he
    · exact (h.mono g).from_file e he
    · rw [List.mem_singleton.1 he, g.files]
      exact ⟨t, hload, hname⟩
  distinct := by
    rw [List.map_append, List.nodup_append]
    refine ⟨h.distinct, by simp, ?_⟩
    simp only [List.map_cons, List.map_nil, List.mem_singleton, List.mem_map]
    rintro _ ⟨e, he, rfl⟩ _ rfl hsame
    obtain ⟨t', hload', hname'⟩ := h.from_file e he
    rw [read?_congr r.files hsame, hload] at hload'
    cases hload'
    exact h.loaded e he (hname' ▸ hname ▸ hnew)

/-! ## One level of a require -/

section Run

variable {fuel tl sid x : Nat} {path ns v : String} {r r' : Repository}

theorem addSpace_zero (tl : Nat) (path : String) (r : Repository) :
    addSpace 0 tl path r = (.ok r.spaces.size, r.withSpace tl path) := by
  rw [addSpace]
  rfl

theorem addSpace_succ (k tl : Nat) (path : String) (r : Repository) :
    addSpace (k + 1) tl path r =
      requireDeps k tl path r.spaces.size ((r.typelib tl).dependencies.getD [])
        (r.withSpace tl path) := by
  rw [addSpace]
  rfl

theorem requireDeps_nil (r : Repository) :
    requireDeps fuel tl path sid [] r = (.ok sid, r) := by
  rw [requireDeps]
  rfl

theorem requireDeps_cons_none {dep : String} {rest : List String}
    (hs : splitRequirement? dep = none) (r : Repository) :
    requireDeps fuel tl path sid (dep :: rest) r = requireDeps fuel tl path sid rest r := by
  rw [requireDeps, hs]

theorem requireDeps_cons_some {dep y w : String} {rest : List String}
    (hs : splitRequirement? dep = some (y, w))
    (h : requireDeps fuel tl path sid (dep :: rest) r = (.ok x, r')) :
    ∃ s₁ r₁, requireIn fuel y w r = (Except.ok s₁, r₁) ∧
      requireDeps fuel tl path sid rest r₁ = (.ok x, r') := by
  rw [requireDeps, hs] at h
  simp only [run_bind] at h
  rcases hr : requireIn fuel y w r with ⟨res, r₁⟩
  rw [hr] at h
  cases res with
  | ok s₁ => exact ⟨s₁, r₁, rfl, h⟩
  | error e =>
      simp only [run_bind, run_get, run_modify] at h
      split at h <;> cases congrArg Prod.fst h

theorem requireIn_visible {s : Nat} (hl : r.lookup ns = some s)
    (h : requireIn fuel ns v r = (.ok sid, r')) :
    sid = s ∧ r' = r ∧ (v ≠ "" → r.spaceVersion s = v) := by
  rw [requireIn] at h
  dsimp only [run_bind, run_get] at h
  simp only [hl] at h
  by_cases hv : (!v.isEmpty && v != r.spaceVersion s) = true
  · simp only [hv, ↓reduceIte] at h
    cases congrArg Prod.fst h
  · simp only [hv, ↓reduceIte, Bool.false_eq_true, run_pure] at h
    obtain ⟨hs, hr⟩ := Prod.mk.inj h
    refine ⟨(Except.ok.inj hs).symm, hr.symm, fun hne => ?_⟩
    have hsame : v ≠ "" → v = r.spaceVersion s := by simpa using hv
    exact (hsame hne).symm

theorem requireIn_fresh (hl : r.lookup ns = none) (h : requireIn fuel ns v r = (.ok sid, r')) :
    ∃ path t, r.findFile ns v = .ok path ∧
      Typelib.load ((r.files.read? path).getD .empty) = .ok t ∧ t.namespace_ = ns ∧
      (v ≠ "" → t.version = v) ∧
      addSpace fuel r.typelibs.size path (r.withTypelib t) =
        (.ok sid, r') := by
  rw [requireIn] at h
  simp only [run_bind, run_get, hl] at h
  cases hf : r.findFile ns v with
  | error e =>
      rw [hf] at h
      cases congrArg Prod.fst h
  | ok path =>
      rw [hf] at h
      cases hload : Typelib.load ((r.files.read? path).getD .empty) with
      | error e =>
          simp only [hload] at h
          cases congrArg Prod.fst h
      | ok t =>
          simp only [hload, run_bind, run_addTypelib] at h
          split at h
          · simp only [run_bind, closeTypelib, run_modify, run_pure] at h
            cases congrArg Prod.fst h
          · rename_i hmatch
            have hok : t.namespace_ = ns ∧ (v ≠ "" → t.version = v) := by simpa using hmatch
            exact ⟨path, t, rfl, hload, hok.1, hok.2, h⟩

theorem requireIn_read {t : Typelib} (hl : r.lookup ns = none) (hf : r.findFile ns v = .ok path)
    (hload : Typelib.load ((r.files.read? path).getD .empty) = .ok t) (hname : t.namespace_ = ns)
    (hver : v ≠ "" → t.version = v) :
    requireIn fuel ns v r = addSpace fuel r.typelibs.size path (r.withTypelib t) := by
  have hmatch : (t.namespace_ != ns || (!v.isEmpty && t.version != v)) = false := by
    by_cases hv : v = ""
    · simp [hname, hv]
    · simp [hname, hver hv]
  rw [requireIn]
  simp only [run_bind, run_get, hl, hf, hload, run_addTypelib, hmatch, Bool.false_eq_true,
    ↓reduceIte]

theorem requireDeps_cons_ok {dep y w : String} {rest : List String} {s₁ : Nat} {r₁ : Repository}
    (hs : splitRequirement? dep = some (y, w)) (hr : requireIn fuel y w r = (.ok s₁, r₁)) :
    requireDeps fuel tl path sid (dep :: rest) r = requireDeps fuel tl path sid rest r₁ := by
  rw [requireDeps, hs]
  simp only [run_bind, hr]

end Run

/-! ## Requires that succeed -/

/-- What a successful require of `ns` at `v` returning `sid` leaves: the repository grew and is
well formed, `ns` is visible as `sid`, at `v` when a version was asked for, read from the file
found for it when it was not visible before, and every namespace made visible on the way has
its dependencies loaded. -/
structure Required (r r' : Repository) (ns v : String) (sid : Nat) : Prop where
  grows : Grows r r'
  wf : r'.WF
  lookup : r'.lookup ns = some sid
  version : v ≠ "" → r'.spaceVersion sid = v
  path : r.lookup ns = none → r.findFile ns v = .ok (r'.space sid).path
  closed : NewClosed r r'

/-- What successfully requiring a list of dependencies leaves: each well-formed one is visible
at the version it names. -/
structure DepsRequired (r r' : Repository) (deps : List String) : Prop where
  grows : Grows r r'
  wf : r'.WF
  loaded : ∀ dep ∈ deps, ∀ y w, splitRequirement? dep = some (y, w) →
    ∃ s, r'.lookup y = some s ∧ r'.spaceVersion s = w
  closed : NewClosed r r'

theorem Required.visible {r : Repository} {ns v : String} {s : Nat} (wf : r.WF)
    (hl : r.lookup ns = some s) (hv : v ≠ "" → r.spaceVersion s = v) : Required r r ns v s where
  grows := Grows.refl r
  wf := wf
  lookup := hl
  version := hv
  path hnone := by
    rw [hl] at hnone
    cases hnone
  closed := NewClosed.refl r

namespace DepsRequired

theorem nil {r : Repository} (wf : r.WF) : DepsRequired r r [] where
  grows := Grows.refl r
  wf := wf
  loaded _ hd := by cases hd
  closed := NewClosed.refl r

theorem skip {r r' : Repository} {dep : String} {rest : List String}
    (hs : splitRequirement? dep = none) (h : DepsRequired r r' rest) :
    DepsRequired r r' (dep :: rest) where
  grows := h.grows
  wf := h.wf
  loaded d hd y w hsplit := by
    rcases List.mem_cons.1 hd with rfl | hd
    · rw [hs] at hsplit
      cases hsplit
    · exact h.loaded d hd y w hsplit
  closed := h.closed

theorem cons {r r₁ r' : Repository} {dep y w : String} {rest : List String} {s₁ : Nat}
    (hs : splitRequirement? dep = some (y, w)) (h₁ : Required r r₁ y w s₁)
    (h : DepsRequired r₁ r' rest) : DepsRequired r r' (dep :: rest) where
  grows := h₁.grows.trans h.grows
  wf := h.wf
  loaded d hd y' w' hsplit := by
    rcases List.mem_cons.1 hd with rfl | hd
    ·
      rw [hs] at hsplit
      obtain ⟨rfl, rfl⟩ := Prod.mk.inj (Option.some.inj hsplit)
      refine ⟨s₁, h.grows.lookup _ _ h₁.lookup, ?_⟩
      rw [h.grows.spaceVersion h₁.wf (h₁.wf.loaded _ _ h₁.lookup)]
      exact h₁.version (splitRequirement?_version_ne hs)
    · exact h.loaded d hd y' w' hsplit
  closed := h₁.closed.trans h.closed h.grows h₁.wf

end DepsRequired

/-! ## A namespace read from its file -/

/-- The state a require reaches after reading a namespace's typelib from a file: the typelib
kept and its namespace visible as a new record. -/
def added (r : Repository) (t : Typelib) (path : String) : Repository :=
  (r.withTypelib t).withSpace r.typelibs.size path

section Added

variable {r : Repository} {t : Typelib} {path : String}

theorem lookup_added (n : String) :
    (r.added t path).lookup n = if n = t.namespace_ then some r.spaces.size else r.lookup n := by
  rw [added, lookup_withSpace, typelib_withTypelib_self]
  rfl

theorem loaded_added :
    (r.added t path).loaded = (t.namespace_, r.spaces.size) :: r.loaded.filter (·.1 != t.namespace_) := by
  simp only [added, withSpace, typelib_withTypelib_self]
  rfl

theorem space_added :
    (r.added t path).space r.spaces.size =
      { name := t.namespace_, typelib := r.typelibs.size, path } := by
  have h := space_withSpace (r.withTypelib t) r.typelibs.size path
  rw [typelib_withTypelib_self] at h
  exact h

theorem spaceTypelib_added : (r.added t path).spaceTypelib r.spaces.size = t := by
  rw [spaceTypelib, space_added]
  exact typelib_withTypelib_self r t

theorem Grows.added (hl : r.lookup t.namespace_ = none) : Grows r (r.added t path) := by
  refine (Grows.withTypelib r t).trans (Grows.withSpace path ?_)
  rw [typelib_withTypelib_self]
  exact hl

theorem WF.added (wf : r.WF) : (r.added t path).WF :=
  (wf.withTypelib t).withSpace (by simp [Repository.withTypelib]) path

theorem addSpace_added (k : Nat) :
    addSpace (k + 1) r.typelibs.size path (r.withTypelib t) =
      requireDeps k r.typelibs.size path r.spaces.size (t.dependencies.getD []) (r.added t path) := by
  rw [addSpace_succ, typelib_withTypelib_self]
  rfl

end Added

theorem Required.fresh {r r' : Repository} {ns v path : String} {t : Typelib} (wf : r.WF)
    (hl : r.lookup ns = none) (hf : r.findFile ns v = .ok path) (hname : t.namespace_ = ns)
    (hver : v ≠ "" → t.version = v) (hd : DepsRequired (r.added t path) r' (t.dependencies.getD [])) :
    Required r r' ns v r.spaces.size := by
  have wf₂ : (r.added t path).WF := wf.added
  have hvis : (r.added t path).lookup ns = some r.spaces.size := by
    rw [lookup_added, if_pos hname.symm]
  have hsid : r.spaces.size < (r.added t path).spaces.size := wf₂.loaded _ _ hvis
  refine ⟨(Grows.added (hname ▸ hl)).trans hd.grows, hd.wf, hd.grows.lookup _ _ hvis, ?_, ?_, ?_⟩
  · intro hne
    rw [hd.grows.spaceVersion wf₂ hsid, spaceVersion, spaceTypelib_added]
    exact hver hne
  · intro _
    rw [hd.grows.space _ hsid, space_added]
    exact hf
  · intro n s hn hs
    by_cases hns : n = ns
    ·
      subst hns
      obtain rfl : s = r.spaces.size := Option.some.inj (hs.symm.trans (hd.grows.lookup _ _ hvis))
      intro dep hdep y w hsplit
      rw [hd.grows.spaceTypelib wf₂ hsid, spaceTypelib_added] at hdep
      exact hd.loaded dep hdep y w hsplit
    · have hn₂ : (r.added t path).lookup n = none := by
        rw [lookup_added, if_neg (hname ▸ hns)]
        exact hn
      exact hd.closed n s hn₂ hs

section Fuel

variable {fuel : Nat}

theorem requireDeps_required {tl sid : Nat} {path : String}
    (hreq : ∀ ns v r c sid r', r.WF → Chain r c → r.files.nodes.length + 1 ≤ fuel + c.length →
      requireIn fuel ns v r = (.ok sid, r') → Required r r' ns v sid) :
    ∀ (deps : List String) (r : Repository) (c : List (String × String)) (x : Nat) (r' : Repository),
      r.WF → Chain r c → r.files.nodes.length + 1 ≤ fuel + c.length →
      requireDeps fuel tl path sid deps r = (.ok x, r') → x = sid ∧ DepsRequired r r' deps := by
  intro deps
  induction deps with
  | nil =>
      intro r c x r' wf _ _ h
      rw [requireDeps_nil] at h
      obtain ⟨hx, rfl⟩ := Prod.mk.inj h
      exact ⟨(Except.ok.inj hx).symm, DepsRequired.nil wf⟩
  | cons dep rest ih =>
      intro r c x r' wf hc hfuel h
      cases hs : splitRequirement? dep with
      | none =>
          rw [requireDeps_cons_none hs] at h
          obtain ⟨hx, hd⟩ := ih r c x r' wf hc hfuel h
          exact ⟨hx, hd.skip hs⟩
      | some req =>
          obtain ⟨y, w⟩ := req
          obtain ⟨s₁, r₁, h₁, hrest⟩ := requireDeps_cons_some hs h
          have hdep := hreq y w r c s₁ r₁ wf hc hfuel h₁
          have hfuel₁ : r₁.files.nodes.length + 1 ≤ fuel + c.length := by
            rw [hdep.grows.files]
            exact hfuel
          obtain ⟨hx, hd⟩ := ih r₁ c x r' hdep.wf (hc.mono hdep.grows) hfuel₁ hrest
          exact ⟨hx, hd.cons hs hdep⟩

theorem requireIn_required_of
    (hdeps : ∀ k, fuel = k + 1 → ∀ tl path sid deps r c x r', r.WF → Chain r c →
      r.files.nodes.length + 1 ≤ k + c.length →
      requireDeps k tl path sid deps r = (.ok x, r') → x = sid ∧ DepsRequired r r' deps)
    {ns v : String} {r r' : Repository} {c : List (String × String)} {sid : Nat} (wf : r.WF)
    (hc : Chain r c) (hfuel : r.files.nodes.length + 1 ≤ fuel + c.length)
    (h : requireIn fuel ns v r = (.ok sid, r')) : Required r r' ns v sid := by
  cases hl : r.lookup ns with
  | some s =>
      obtain ⟨rfl, rfl, hv⟩ := requireIn_visible hl h
      exact Required.visible wf hl hv
  | none =>
      obtain ⟨path, t, hf, hload, hname, hver, hadd⟩ := requireIn_fresh hl h
      have g₂ : Grows r (r.added t path) := Grows.added (hname ▸ hl)
      have hvis : (r.added t path).lookup ns ≠ none := by
        rw [lookup_added, if_pos hname.symm]
        exact Option.some_ne_none _
      have hc₂ : Chain (r.added t path) (c ++ [(ns, path)]) := hc.extend g₂ hl hvis hload hname
      have hlen := hc₂.length_le
      rw [g₂.files, List.length_append, List.length_singleton] at hlen
      cases fuel with
      | zero => omega
      | succ k =>
          rw [addSpace_added] at hadd
          have hfuel₂ : (r.added t path).files.nodes.length + 1 ≤ k + (c ++ [(ns, path)]).length := by
            rw [g₂.files, List.length_append, List.length_singleton]
            omega
          obtain ⟨rfl, hd⟩ := hdeps k rfl _ _ _ _ _ _ _ _ wf.added hc₂ hfuel₂ hadd
          exact Required.fresh wf hl hf hname hver hd

end Fuel

theorem requireIn_required (fuel : Nat) :
    ∀ (ns v : String) (r : Repository) (c : List (String × String)) (sid : Nat) (r' : Repository),
      r.WF → Chain r c → r.files.nodes.length + 1 ≤ fuel + c.length →
      requireIn fuel ns v r = (.ok sid, r') → Required r r' ns v sid := by
  induction fuel with
  | zero =>
      intro ns v r c sid r' wf hc hfuel h
      refine requireIn_required_of ?_ wf hc hfuel h
      intro k hk
      cases hk
  | succ k ih =>
      intro ns v r c sid r' wf hc hfuel h
      refine requireIn_required_of ?_ wf hc hfuel h
      intro k' hk' tl path sid deps
      obtain rfl := Nat.succ.inj hk'
      exact requireDeps_required ih deps

/-! ## Every require keeps a repository well formed -/

/-- The state after a namespace is taken out again. -/
def without (r : Repository) (name : String) : Repository :=
  { r with loaded := r.loaded.filter (·.1 != name) }

theorem lookup_without (r : Repository) (name n : String) :
    (r.without name).lookup n = if n = name then none else r.lookup n := by
  split
  · subst n
    exact List.lookup_filter_self _ _
  · exact List.lookup_filter_ne _ ‹_›

theorem WF.without {r : Repository} (wf : r.WF) (name : String) : (r.without name).WF where
  loaded n s h := by
    rw [lookup_without] at h
    split at h
    · cases h
    · exact wf.loaded n s h
  names n s h := by
    rw [lookup_without] at h
    split at h
    · cases h
    · exact wf.names n s h
  typelibs := wf.typelibs

theorem WF.closeTypelib {r : Repository} (wf : r.WF) (tl : Nat) : (closeTypelib tl r).2.WF where
  loaded := wf.loaded
  names := wf.names
  typelibs s hs := by
    show (r.space s).typelib < (r.typelibs.modify tl Typelib.close).size
    rw [Array.size_modify]
    exact wf.typelibs s hs

section DependencyFails

variable {fuel tl sid : Nat} {path dep y w : String} {rest : List String} {r r₁ : Repository}
  {e : Failure}

/-- A dependency that fails to load fails the namespace that asked for it, which is taken back
out (and its typelib closed when it came from a file); whatever the failed require loaded
stays. -/
theorem requireDeps_cons_fails (hs : splitRequirement? dep = some (y, w))
    (hr : requireIn fuel y w r = (.error e, r₁)) :
    requireDeps fuel tl path sid (dep :: rest) r =
      (.error (dependencyFailure (r₁.typelib tl).namespace_ dep e),
        if path.isEmpty then r₁.without (r₁.typelib tl).namespace_
        else (closeTypelib tl (r₁.without (r₁.typelib tl).namespace_)).2) := by
  rw [requireDeps, hs]
  simp only [run_bind, hr, run_get, run_modify]
  cases path.isEmpty <;> rfl

theorem requireDeps_cons_error (hs : splitRequirement? dep = some (y, w))
    (hr : requireIn fuel y w r = (.error e, r₁)) :
    (requireDeps fuel tl path sid (dep :: rest) r).2 =
      if path.isEmpty then r₁.without (r₁.typelib tl).namespace_
      else (closeTypelib tl (r₁.without (r₁.typelib tl).namespace_)).2 := by
  rw [requireDeps_cons_fails hs hr]

end DependencyFails

section Fuel

variable {fuel : Nat}

theorem requireDeps_wf {tl sid : Nat} {path : String}
    (hreq : ∀ ns v r, r.WF → (requireIn fuel ns v r).2.WF) :
    ∀ (deps : List String) (r : Repository), r.WF → (requireDeps fuel tl path sid deps r).2.WF := by
  intro deps
  induction deps with
  | nil =>
      intro r wf
      rw [requireDeps_nil]
      exact wf
  | cons dep rest ih =>
      intro r wf
      cases hs : splitRequirement? dep with
      | none =>
          rw [requireDeps_cons_none hs]
          exact ih r wf
      | some req =>
          obtain ⟨y, w⟩ := req
          rcases hr : requireIn fuel y w r with ⟨res, r₁⟩
          have wf₁ : r₁.WF := by
            have := hreq y w r wf
            rwa [hr] at this
          cases res with
          | ok s₁ =>
              rw [requireDeps, hs]
              simp only [run_bind, hr]
              exact ih r₁ wf₁
          | error e =>
              rw [requireDeps_cons_error hs hr]
              split
              · exact wf₁.without _
              · exact (wf₁.without _).closeTypelib tl

theorem addSpace_wf_of
    (hdeps : ∀ k, fuel = k + 1 → ∀ tl path sid deps r, r.WF → (requireDeps k tl path sid deps r).2.WF)
    {tl : Nat} {path : String} {r : Repository} (wf : r.WF) (htl : tl < r.typelibs.size) :
    (addSpace fuel tl path r).2.WF := by
  cases fuel with
  | zero =>
      rw [addSpace_zero]
      exact wf.withSpace htl path
  | succ k =>
      rw [addSpace_succ]
      exact hdeps k rfl _ _ _ _ _ (wf.withSpace htl path)

theorem requireIn_wf_of
    (hadd : ∀ tl path r, r.WF → tl < r.typelibs.size → (addSpace fuel tl path r).2.WF)
    {ns v : String} {r : Repository} (wf : r.WF) : (requireIn fuel ns v r).2.WF := by
  rcases h : requireIn fuel ns v r with ⟨res, r'⟩
  show r'.WF
  rw [requireIn] at h
  cases hl : r.lookup ns with
  | some s =>
      dsimp only [run_bind, run_get] at h
      simp only [hl] at h
      by_cases hv : (!v.isEmpty && v != r.spaceVersion s) = true
      · simp only [hv, ↓reduceIte, run_pure] at h
        obtain ⟨-, rfl⟩ := Prod.mk.inj h
        exact wf
      · simp only [hv, ↓reduceIte, Bool.false_eq_true, run_pure] at h
        obtain ⟨-, rfl⟩ := Prod.mk.inj h
        exact wf
  | none =>
      simp only [run_bind, run_get, hl] at h
      cases hf : r.findFile ns v with
      | error e =>
          rw [hf] at h
          obtain ⟨-, rfl⟩ := Prod.mk.inj h
          exact wf
      | ok path =>
          rw [hf] at h
          cases hload : Typelib.load ((r.files.read? path).getD .empty) with
          | error e =>
              simp only [hload] at h
              obtain ⟨-, rfl⟩ := Prod.mk.inj h
              exact wf
          | ok t =>
              simp only [hload, run_bind, run_addTypelib] at h
              have htl : r.typelibs.size < (r.withTypelib t).typelibs.size := by
                simp [Repository.withTypelib]
              split at h
              ·
                simp only [run_bind, run_pure] at h
                obtain ⟨-, rfl⟩ := Prod.mk.inj h
                exact (wf.withTypelib t).closeTypelib _
              · have := hadd r.typelibs.size path (r.withTypelib t) (wf.withTypelib t) htl
                rwa [h] at this

end Fuel

theorem requireIn_wf (fuel : Nat) :
    ∀ (ns v : String) (r : Repository), r.WF → (requireIn fuel ns v r).2.WF := by
  induction fuel with
  | zero =>
      intro ns v r wf
      refine requireIn_wf_of (fun tl path r wf htl => addSpace_wf_of ?_ wf htl) wf
      intro k hk
      cases hk
  | succ k ih =>
      intro ns v r wf
      refine requireIn_wf_of (fun tl path r wf htl => addSpace_wf_of ?_ wf htl) wf
      intro k' hk' tl path sid deps
      obtain rfl := Nat.succ.inj hk'
      exact requireDeps_wf ih deps

theorem addSpace_wf (fuel : Nat) {tl : Nat} {path : String} {r : Repository} (wf : r.WF)
    (htl : tl < r.typelibs.size) : (addSpace fuel tl path r).2.WF := by
  refine addSpace_wf_of ?_ wf htl
  intro k _ tl path sid deps
  exact requireDeps_wf (requireIn_wf k) deps

/-! ## Requires and registrations from the client -/

theorem require_wf {r : Repository} (wf : r.WF) (ns v : String) : (require ns v r).2.WF := by
  rw [require]
  by_cases hns : ns.isEmpty = true
  · simp only [hns, ↓reduceIte, run_pure]
    exact wf
  · simp only [hns, ↓reduceIte, Bool.false_eq_true, run_bind, run_get]
    by_cases hc : r.closed = true
    · simp only [hc, ↓reduceIte, run_pure]
      exact wf
    · simp only [hc, ↓reduceIte, Bool.false_eq_true]
      exact requireIn_wf _ ns v r wf

theorem register_wf {r : Repository} (wf : r.WF) {tl : Nat} (htl : tl < r.typelibs.size) :
    (register (some tl) r).2.WF := by
  rw [register]
  simp only [run_bind, run_get]
  by_cases hc : r.closed = true
  · simp only [hc, ↓reduceIte, run_pure]
    exact wf
  · simp only [hc, ↓reduceIte, Bool.false_eq_true]
    cases hl : r.lookup (r.typelib tl).namespace_ with
    | some s =>
        by_cases hs : ((r.space s).typelib == tl) = true
        · simp only [hs, ↓reduceIte, run_pure]
          exact wf
        · simp only [hs, ↓reduceIte, Bool.false_eq_true, run_pure]
          exact wf
    | none => exact addSpace_wf _ wf htl

theorem require_required {r r' : Repository} {ns v : String} {sid : Nat} (wf : r.WF)
    (h : require ns v r = (.ok sid, r')) : Required r r' ns v sid := by
  rw [require] at h
  by_cases hns : ns.isEmpty = true
  · simp only [hns, ↓reduceIte, run_pure] at h
    cases congrArg Prod.fst h
  · simp only [hns, ↓reduceIte, Bool.false_eq_true, run_bind, run_get] at h
    by_cases hc : r.closed = true
    · simp only [hc, ↓reduceIte, run_pure] at h
      cases congrArg Prod.fst h
    · simp only [hc, ↓reduceIte, Bool.false_eq_true] at h
      refine requireIn_required _ ns v r [] sid r' wf (Chain.nil r) ?_ h
      simp only [depthBound, List.length_nil]
      omega

theorem requireIn_of_lookup {fuel : Nat} {ns v : String} {r : Repository} {s : Nat}
    (hl : r.lookup ns = some s) (hv : v = "" ∨ r.spaceVersion s = v) :
    requireIn fuel ns v r = (.ok s, r) := by
  rw [requireIn]
  dsimp only [run_bind, run_get]
  simp only [hl]
  have hpass : (!v.isEmpty && v != r.spaceVersion s) = false := by
    rcases hv with rfl | hv
    · rfl
    · simp [hv]
  simp only [hpass, Bool.false_eq_true, ↓reduceIte, run_pure]

theorem require_of_open {ns v : String} {r : Repository} (hns : ns.isEmpty = false)
    (hc : r.closed = false) : require ns v r = requireIn r.depthBound ns v r := by
  rw [require]
  simp only [hns, hc, Bool.false_eq_true, ↓reduceIte, run_bind, run_get]

theorem register_of_new {tl : Nat} {r : Repository} (hc : r.closed = false)
    (hl : r.lookup (r.typelib tl).namespace_ = none) :
    register (some tl) r = addSpace r.depthBound tl "" r := by
  rw [register]
  simp only [run_bind, run_get, hc, Bool.false_eq_true, ↓reduceIte, hl]

/-- The repositories a client reaches from a fresh one over a file tree and a search path: by
requires, by keeping a typelib it loaded itself, and by registering a typelib kept before,
whatever each call returns. -/
inductive Reachable : Repository → Prop
  | fresh (files : Files) (search : List String) : Reachable { files, search }
  | require {r : Repository} (ns v : String) : Reachable r → Reachable (require ns v r).2
  | keep {r : Repository} (t : Typelib) : Reachable r → Reachable (addTypelib t r).2
  | register {r : Repository} {tl : Nat} :
      Reachable r → tl < r.typelibs.size → Reachable (register (some tl) r).2

theorem Reachable.wf {r : Repository} (h : Reachable r) : r.WF := by
  induction h with
  | fresh files search =>
      refine ⟨?_, ?_, ?_⟩
      · intro n s hs
        cases hs
      · intro n s hs
        cases hs
      · intro s hs
        cases hs
  | require ns v _ ih => exact require_wf ih ns v
  | keep t _ ih => exact ih.withTypelib t
  | register _ htl ih => exact register_wf ih htl

/-- The namespaces reachable from `ns` through the well-formed dependencies of visible
namespaces. -/
inductive Reaches (r : Repository) (ns : String) : String → Prop
  | self : Reaches r ns ns
  | dep {x dep y w : String} {s : Nat} : Reaches r ns x → r.lookup x = some s →
      dep ∈ (r.spaceTypelib s).dependencies.getD [] → splitRequirement? dep = some (y, w) →
      Reaches r ns y

theorem Required.closure {r r' : Repository} {ns v : String} {sid : Nat}
    (h : Required r r' ns v sid) (hnew : ∀ x, Reaches r' ns x → r.lookup x = none) :
    ∀ x, Reaches r' ns x → ∃ s, r'.lookup x = some s ∧ DepsLoaded r' s := by
  intro x hx
  induction hx with
  | self => exact ⟨sid, h.lookup, h.closed ns sid (hnew ns .self) h.lookup⟩
  | @dep x dep y w s hx hl hdep hsplit ih =>
      obtain ⟨s', hs', hloaded⟩ := ih
      obtain rfl : s = s' := Option.some.inj (hl.symm.trans hs')
      obtain ⟨s'', hy, -⟩ := hloaded dep hdep y w hsplit
      exact ⟨s'', hy, h.closed y s'' (hnew y (.dep hx hl hdep hsplit)) hy⟩

/-- A successful require on a repository a client reached returns the namespace asked for: the
record of that name, at the version asked for when there is one. With no version asked for and
the namespace not loaded, it is read from the file of the highest version on the search path, the
first of the highest. When no namespace reachable from it was loaded before, every one is loaded
afterwards with every dependency it names loaded at the version it names. -/
theorem require_loads_dependency_closure {r r' : Repository} (hr : Reachable r) {ns v : String}
    {sid : Nat} (h : require ns v r = (.ok sid, r')) :
    r'.lookup ns = some sid ∧ (r'.space sid).name = ns ∧ (v ≠ "" → r'.spaceVersion sid = v) ∧
    (v = "" → r.lookup ns = none → ∃ pre ver post,
      r.candidates ns = pre ++ ((r'.space sid).path, ver) :: post ∧
      (∀ z ∈ pre, z.2.Below ver) ∧ ∀ z ∈ post, ¬ ver.Below z.2) ∧
    ((∀ x, Reaches r' ns x → r.lookup x = none) →
      ∀ x, Reaches r' ns x → ∃ s, r'.lookup x = some s ∧ DepsLoaded r' s) := by
  have hreq := require_required hr.wf h
  refine ⟨hreq.lookup, hreq.wf.names _ _ hreq.lookup, hreq.version, ?_, hreq.closure⟩
  rintro rfl hl
  exact findFile_highest (hreq.path hl)

/-! ## A search path with two versions of a namespace -/

/-- The image the builder writes for namespace `A` at version 1.0, with no entries, depending on
`B-1.0` and `C-1.0`. -/
def aOneImage : ByteArray := ⟨#[
    71, 79, 66, 74, 10, 77, 69, 84, 65, 68, 65, 84, 65, 13, 10, 26, 4, 0, 0, 0, 0, 0, 0, 0, 112, 0,
    0, 0, 0, 0, 0, 0, 112, 0, 0, 0, 118, 0, 0, 0, 130, 0, 0, 0, 116, 0, 0, 0, 112, 0, 0, 0, 0, 0,
    0, 0, 0, 0, 0, 0, 12, 0, 20, 0, 12, 0, 16, 0, 20, 0, 16, 0, 16, 0, 16, 0, 12, 0, 12, 0, 24, 0,
    16, 0, 8, 0, 24, 0, 32, 0, 60, 0, 40, 0, 40, 0, 0, 0, 0, 0, 0, 0, 0, 0, 0, 0, 0, 0, 0, 0, 0, 0,
    49, 46, 48, 0, 65, 0, 66, 45, 49, 46, 48, 124, 67, 45, 49, 46, 48, 0]⟩

/-- The image of namespace `A` at version 2.0 depending on `B-1.0`. -/
def aTwoImage : ByteArray := ⟨#[
    71, 79, 66, 74, 10, 77, 69, 84, 65, 68, 65, 84, 65, 13, 10, 26, 4, 0, 0, 0, 0, 0, 0, 0, 112, 0,
    0, 0, 0, 0, 0, 0, 112, 0, 0, 0, 118, 0, 0, 0, 124, 0, 0, 0, 116, 0, 0, 0, 112, 0, 0, 0, 0, 0,
    0, 0, 0, 0, 0, 0, 12, 0, 20, 0, 12, 0, 16, 0, 20, 0, 16, 0, 16, 0, 16, 0, 12, 0, 12, 0, 24, 0,
    16, 0, 8, 0, 24, 0, 32, 0, 60, 0, 40, 0, 40, 0, 0, 0, 0, 0, 0, 0, 0, 0, 0, 0, 0, 0, 0, 0, 0, 0,
    50, 46, 48, 0, 65, 0, 66, 45, 49, 46, 48, 0]⟩

/-- The image of namespace `B` at version 1.0, with no dependencies. -/
def bOneImage : ByteArray := ⟨#[
    71, 79, 66, 74, 10, 77, 69, 84, 65, 68, 65, 84, 65, 13, 10, 26, 4, 0, 0, 0, 0, 0, 0, 0, 112, 0,
    0, 0, 0, 0, 0, 0, 112, 0, 0, 0, 0, 0, 0, 0, 118, 0, 0, 0, 116, 0, 0, 0, 112, 0, 0, 0, 0, 0, 0,
    0, 0, 0, 0, 0, 12, 0, 20, 0, 12, 0, 16, 0, 20, 0, 16, 0, 16, 0, 16, 0, 12, 0, 12, 0, 24, 0, 16,
    0, 8, 0, 24, 0, 32, 0, 60, 0, 40, 0, 40, 0, 0, 0, 0, 0, 0, 0, 0, 0, 0, 0, 0, 0, 0, 0, 0, 0, 49,
    46, 48, 0, 66, 0]⟩

/-- A directory `/d` holding `A` at versions 1.0 and 2.0 and `B` at 1.0; `C` is nowhere. -/
def versionTree : Files :=
  { nodes := [("/d/A-1.0.typelib", .file aOneImage), ("/d/A-2.0.typelib", .file aTwoImage),
      ("/d/B-1.0.typelib", .file bOneImage)] }

def versionRepo : Repository := { files := versionTree, search := ["/d"] }

theorem load_of_header {b : ByteArray} {ns v : String} {deps : Option (List String)}
    (h : (load b).toOption.map (fun t => (t.namespace_, t.version, t.dependencies)) =
      some (ns, v, deps)) :
    ∃ t, load b = .ok t ∧ t.namespace_ = ns ∧ t.version = v ∧ t.dependencies = deps := by
  cases hl : load b with
  | error e => simp [hl, Except.toOption] at h
  | ok t =>
      simp only [hl, Except.toOption, Option.map_some, Option.some.injEq, Prod.mk.injEq] at h
      exact ⟨t, rfl, h.1, h.2.1, h.2.2⟩

theorem eq_ok_of_toOption {x : Except Failure String} {a : String} (h : x.toOption = some a) :
    x = .ok a := by
  cases x <;> simp_all [Except.toOption]

theorem requireIn_bOne (fuel : Nat) {t : Typelib} (path : String) (ht : t.namespace_ = "A") :
    ∃ tB : Typelib, tB.namespace_ = "B" ∧ tB.dependencies = none ∧
      requireIn (fuel + 1) "B" "1.0" (versionRepo.added t path) =
        (.ok 1, (versionRepo.added t path).added tB "/d/B-1.0.typelib") := by
  obtain ⟨tB, hB, hBns, hBv, hBdeps⟩ :=
    @load_of_header bOneImage "B" "1.0" none (by decide +kernel)
  have hf : versionRepo.findFile "B" "1.0" = .ok "/d/B-1.0.typelib" :=
    eq_ok_of_toOption (by decide +kernel)
  have hread : versionTree.read? "/d/B-1.0.typelib" = some bOneImage := by decide +kernel
  have hl : (versionRepo.added t path).lookup "B" = none := by
    rw [lookup_added, ht]
    rfl
  have hload : load (((versionRepo.added t path).files.read? "/d/B-1.0.typelib").getD .empty) =
      .ok tB := by
    rw [show (versionRepo.added t path).files = versionTree from rfl, hread]
    exact hB
  refine ⟨tB, hBns, hBdeps, ?_⟩
  rw [requireIn_read hl hf hload hBns fun _ => hBv, addSpace_added, hBdeps, Option.getD_none,
    requireDeps_nil]
  rfl

/-- With no version asked for, requiring `A` on `versionTree` reads `A` from the file of version
2.0, the higher of the two, and loads the `B` it depends on. -/
theorem require_highest_with_dependency :
    ∃ r', require "A" "" versionRepo = (.ok 0, r') ∧ (r'.space 0).path = "/d/A-2.0.typelib" ∧
      (∃ pre ver post, versionRepo.candidates "A" = pre ++ ((r'.space 0).path, ver) :: post ∧
        (∀ z ∈ pre, z.2.Below ver) ∧ ∀ z ∈ post, ¬ ver.Below z.2) ∧
      ∃ s, r'.lookup "B" = some s ∧ DepsLoaded r' s := by
  obtain ⟨tA, hA, hAns, -, hAdeps⟩ :=
    @load_of_header aTwoImage "A" "2.0" (some ["B-1.0"]) (by decide +kernel)
  have hf : versionRepo.findFile "A" "" = .ok "/d/A-2.0.typelib" :=
    eq_ok_of_toOption (by decide +kernel)
  have hread : versionTree.read? "/d/A-2.0.typelib" = some aTwoImage := by decide +kernel
  obtain ⟨tB, -, -, hB⟩ := requireIn_bOne 3 "/d/A-2.0.typelib" hAns
  let r' := (versionRepo.added tA "/d/A-2.0.typelib").added tB "/d/B-1.0.typelib"
  have hload : load ((versionRepo.files.read? "/d/A-2.0.typelib").getD .empty) = .ok tA := by
    rw [show versionRepo.files = versionTree from rfl, hread]
    exact hA
  have h : require "A" "" versionRepo = (.ok 0, r') := by
    rw [require_of_open rfl rfl, show versionRepo.depthBound = 4 + 1 from rfl,
      requireIn_read rfl hf hload hAns (fun hne => absurd rfl hne), addSpace_added, hAdeps,
      Option.getD_some, requireDeps_cons_ok (by decide +kernel) hB, requireDeps_nil]
    rfl
  obtain ⟨hlA, -, -, hchoice, hclosed⟩ :=
    require_loads_dependency_closure (.fresh versionTree ["/d"]) h
  have hreach : Reaches r' "A" "B" := by
    refine .dep .self hlA ?_ (by decide +kernel : splitRequirement? "B-1.0" = some ("B", "1.0"))
    rw [show r'.spaceTypelib 0 = tA from rfl, hAdeps]
    simp
  exact ⟨r', h, rfl, hchoice rfl rfl, hclosed (fun _ _ => rfl) "B" hreach⟩

end Repository

end Introspection.Repository
