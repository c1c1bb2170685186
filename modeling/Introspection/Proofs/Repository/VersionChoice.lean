import Introspection.Repository.Store

/-!
# Choosing a version on the search path

With no version asked for, a namespace is loaded from the file `Namespace-Version.typelib` whose
version is highest on the search path. The directories are scanned in search order and each
one's entries in name order; a file found earlier is replaced only by a strictly higher version,
so among equal versions the first one found wins. Files whose version does not parse, and
directories, do not take part.
-/

namespace Introspection.Repository

namespace Version

/-- `v` is a lower version than `w`: a lower major, or the same major and a lower minor, or the
same major and minor and a lower patch. -/
def Below (v w : Version) : Prop :=
  v.major < w.major ∨ v.major = w.major ∧ (v.minor < w.minor ∨ v.minor = w.minor ∧ v.patch < w.patch)

theorem compare_eq_gt {v w : Version} : v.compare w = .gt ↔ w.Below v := by
  unfold compare Below
  by_cases hmaj : v.major = w.major
  · by_cases hmin : v.minor = w.minor
    · simp [hmaj, hmin, Nat.compare_eq_gt]
    · simp [hmaj, hmin, Nat.compare_eq_gt]
      omega
  · simp [hmaj, Nat.compare_eq_gt]
    omega

theorem Below.trans {u v w : Version} (h₁ : u.Below v) (h₂ : v.Below w) : u.Below w := by
  unfold Below at *
  omega

theorem Below.of_not_below {u v w : Version} (h₁ : ¬ v.Below u) (h₂ : v.Below w) : u.Below w := by
  unfold Below at *
  omega

end Version

/-- The file and version a directory entry offers for a namespace: a regular file
`ns-V.typelib` whose `V` parses. -/
def entryCandidate (ns dir : String) (e : String × Bool) : Option (String × Version) :=
  if e.2 || !e.1.startsWith (ns ++ "-") || !e.1.endsWith ".typelib" then none
  else (Version.parse? ((e.1.drop (ns ++ "-").length).dropEnd ".typelib".length).toString).map
    fun v => (joinPath [dir, e.1], v)

/-- The typelib files of a namespace on the search path with their versions, in the order they
are scanned: directories in search order, the entries of each in name order. -/
def Repository.candidates (r : Repository) (ns : String) : List (String × Version) :=
  r.search.flatMap fun dir => ((r.files.readDir? dir).getD []).filterMap (entryCandidate ns dir)

/-- The scan's running choice: the first file, then any file of a strictly higher version. -/
def keepHigher (best : Option (String × Version)) (c : String × Version) :
    Option (String × Version) :=
  match best with
  | some (_, bv) => if c.2.compare bv == .gt then some c else best
  | none => some c

theorem foldl_keepHigher {x y : String × Version} {l : List (String × Version)}
    (h : l.foldl keepHigher (some x) = some y) :
    ∃ pre post, x :: l = pre ++ y :: post ∧ (∀ z ∈ pre, z.2.Below y.2) ∧
      ∀ z ∈ post, ¬ y.2.Below z.2 := by
  induction l generalizing x with
  | nil =>
      simp only [List.foldl_nil, Option.some.injEq] at h
      subst h
      exact ⟨[], [], rfl, by simp, by simp⟩
  | cons a l ih =>
      rw [List.foldl_cons] at h
      by_cases hgt : x.2.Below a.2
      ·
        have hk : keepHigher (some x) a = some a := by
          simp [keepHigher, Version.compare_eq_gt.2 hgt]
        rw [hk] at h
        obtain ⟨pre, post, hsplit, hpre, hpost⟩ := ih h
        refine ⟨x :: pre, post, by rw [hsplit]; rfl, fun z hz => ?_, hpost⟩
        rcases List.mem_cons.1 hz with rfl | hz
        · cases pre with
          | nil =>
              obtain ⟨rfl, -⟩ := List.cons_eq_cons.1 hsplit
              exact hgt
          | cons b pre =>
              obtain ⟨rfl, -⟩ := List.cons_eq_cons.1 hsplit
              exact hgt.trans (hpre a (List.mem_cons_self ..))
        · exact hpre z hz
      ·
        have hk : keepHigher (some x) a = some x := by
          have : ¬ a.2.compare x.2 = .gt := fun heq => hgt (Version.compare_eq_gt.1 heq)
          simp [keepHigher, this]
        rw [hk] at h
        obtain ⟨pre, post, hsplit, hpre, hpost⟩ := ih h
        cases pre with
        | nil =>
            obtain ⟨rfl, rfl⟩ := List.cons_eq_cons.1 hsplit
            refine ⟨[], a :: l, rfl, by simp, fun z hz => ?_⟩
            rcases List.mem_cons.1 hz with rfl | hz
            · exact hgt
            · exact hpost z hz
        | cons b pre =>
            obtain ⟨rfl, rfl⟩ := List.cons_eq_cons.1 hsplit
            have hxy := hpre x (List.mem_cons_self ..)
            refine ⟨x :: a :: pre, post, rfl, fun z hz => ?_, hpost⟩
            simp only [List.mem_cons] at hz
            rcases hz with rfl | rfl | hz
            · exact hxy
            · exact Version.Below.of_not_below hgt hxy
            · exact hpre z (List.mem_cons_of_mem _ hz)

theorem findFile_scan (r : Repository) (ns : String) :
    r.findFile ns "" = match (r.candidates ns).foldl keepHigher none with
      | some (p, _) => .ok p
      | none => .error (.notFound .load "typelib" ns) := by
  unfold Repository.findFile
  rw [if_neg (by decide)]
  simp only [Repository.candidates, List.foldl_flatMap, List.foldl_filterMap]
  congr 2
  funext best dir
  cases r.files.readDir? dir with
  | none => rfl
  | some entries =>
      simp only [Option.getD_some]
      congr 1
      funext best e
      obtain ⟨name, isDir⟩ := e
      unfold entryCandidate
      split
      · rfl
      · cases Version.parse? _ with
        | none => rfl
        | some v => cases best <;> rfl

theorem findFile_highest {r : Repository} {ns path : String} (h : r.findFile ns "" = .ok path) :
    ∃ pre v post, r.candidates ns = pre ++ (path, v) :: post ∧ (∀ z ∈ pre, z.2.Below v) ∧
      ∀ z ∈ post, ¬ v.Below z.2 := by
  rw [findFile_scan] at h
  cases hc : r.candidates ns with
  | nil => simp [hc] at h
  | cons x l =>
      rw [hc, List.foldl_cons] at h
      cases hy : l.foldl keepHigher (keepHigher none x) with
      | none => simp [hy] at h
      | some y =>
          simp only [hy, Except.ok.injEq] at h
          obtain ⟨pre, post, hsplit, hpre, hpost⟩ := foldl_keepHigher hy
          refine ⟨pre, y.2, post, ?_, hpre, hpost⟩
          rw [hsplit, ← h]

end Introspection.Repository
