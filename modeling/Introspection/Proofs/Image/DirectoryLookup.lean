import Mathlib.Data.String.Basic
import Introspection.Proofs.Image.Validation

/-!
# Finding a local entry by name

A typelib finds a local entry by name in one of two ways. When the directory walk found the local
names in non-decreasing order, it bisects for the first name at least the one asked for and
checks that name; otherwise it scans the local entries from the first. Both give the local entry
of lowest index with the name, or nothing when no local entry has it: the walk compares the same
names the lookup reads, so a typelib marked sorted really has its local names in order, and in
ordered names the first one at least a name is the first one equal to it when there is one.
-/

namespace Introspection.Typelib

/-! ## Bisection -/

theorem searchFirst_spec {f : Nat → Bool} {lo hi : Nat} (hle : lo ≤ hi)
    (hmono : ∀ i j, lo ≤ i → i ≤ j → j < hi → f i = true → f j = true) :
    lo ≤ searchFirst f lo hi ∧ searchFirst f lo hi ≤ hi ∧
      (∀ j, lo ≤ j → j < searchFirst f lo hi → f j = false) ∧
      (searchFirst f lo hi < hi → f (searchFirst f lo hi) = true) := by
  fun_induction searchFirst f lo hi with
  | case1 lo hi hlt mid hmid ih =>
      obtain ⟨h₁, h₂, hbelow, hat⟩ :=
        ih (by omega) fun i j hi hij hj => hmono i j hi hij (by omega)
      refine ⟨h₁, by omega, hbelow, fun hr => ?_⟩
      rcases Nat.lt_or_ge (searchFirst f lo mid) mid with hlt' | hge
      · exact hat hlt'
      · rwa [show searchFirst f lo mid = mid by omega]
  | case2 lo hi hlt mid hmid ih =>
      obtain ⟨h₁, h₂, hbelow, hat⟩ :=
        ih (by omega) fun i j hi hij hj => hmono i j (by omega) hij hj
      refine ⟨by omega, h₂, fun j hj hjr => ?_, hat⟩
      rcases Nat.lt_or_ge j (mid + 1) with hjm | hjm
      · cases hfj : f j with
        | false => rfl
        | true => exact absurd (hmono j mid hj (by omega) (by omega) hfj) (by simp [hmid])
      · exact hbelow j hjm hjr
  | case3 lo hi hge =>
      exact ⟨Nat.le_refl lo, hle, fun j hj hjr => absurd hjr (by omega), fun h => absurd h hge⟩

/-! ## Names compared as bytes -/

theorem byteText_injective : Function.Injective Image.byteText := by
  rintro ⟨a⟩ ⟨b⟩ h
  have hchar : Function.Injective fun x : UInt8 => Char.ofNat x.toNat := by
    intro x y hxy
    have hval : ∀ z : UInt8, (Char.ofNat z.toNat).toNat = z.toNat := fun z => by
      rw [Char.ofNat, dif_pos (.inl (by have := z.toNat_lt; omega))]
      rfl
    have hxy' : Char.ofNat x.toNat = Char.ofNat y.toNat := hxy
    exact UInt8.toNat_inj.1 (by rw [← hval x, ← hval y, hxy'])
  have hlist := List.map_injective_iff.2 hchar
    (by simpa [Image.byteText] using congrArg String.toList h)
  rw [Array.toList_inj.1 hlist]

/-! ## The order the directory walk finds -/

theorem checkEntry_ok_name {r : Image} {d l i : Nat} {name : ByteArray}
    (h : checkEntry r d l i = .ok name) :
    r.nameBytes (r.u32 (d + ((i + 65535) % 65536) * entryBlobSize + 4)) = name := by
  simp only [checkEntry] at h
  split at h
  · cases h
  · rename_i name' hname
    have hn : name' = name := by
      repeat' split at h
      all_goals first | exact Except.ok.inj h | cases h
    simp [Image.nameBytes, hname, hn]

section Walk

variable {r : Image} {d n l : Nat}

theorem go_ok_sorted (hn : n < 65535) (hl : l ≤ n) :
    ∀ (fuel i : Nat) (prev : String) (s : Bool), 0 < i →
      validateDirectory.go r d n l i prev s fuel = .ok true →
      s = true ∧ (i ≤ l → prev ≤ Image.byteText (r.nameBytes (r.u32 (d + (i - 1) * entryBlobSize + 4)))) ∧
        ∀ j k, i ≤ j → j ≤ k → k ≤ l →
          Image.byteText (r.nameBytes (r.u32 (d + (j - 1) * entryBlobSize + 4))) ≤
            Image.byteText (r.nameBytes (r.u32 (d + (k - 1) * entryBlobSize + 4))) := by
  intro fuel
  induction fuel with
  | zero => intro i prev s _ h; cases h
  | succ fuel ih =>
      intro i prev s hi h
      by_cases hpast : n < i
      · rw [go_past hpast] at h
        cases h
        exact ⟨rfl, fun hil => absurd hil (by omega), fun j k hj hjk hk => absurd hk (by omega)⟩
      · cases hc : checkEntry r d l i with
        | error f =>
            rw [go_fault (Nat.le_of_not_lt hpast) hc] at h
            cases h
        | ok name =>
            have hname := congrArg Image.byteText (checkEntry_ok_name hc)
            rw [show (i + 65535) % 65536 = i - 1 by omega] at hname
            have hnext : nextIndex i = i + 1 := Nat.mod_eq_of_lt (by omega)
            rw [validateDirectory.go, if_neg hpast, hc] at h
            dsimp only at h
            split at h
            · rename_i hil
              rw [hnext] at h
              obtain ⟨hs, hprev, hmono⟩ := ih (i + 1) (Image.byteText name) _ (by omega) h
              rw [Bool.and_eq_true, Bool.not_eq_true', decide_eq_false_iff_not] at hs
              have hstep : prev ≤ Image.byteText name := not_lt.1 hs.2
              refine ⟨hs.1, fun _ => hname ▸ hstep, fun j k hj hjk hk => ?_⟩
              rcases Nat.eq_or_lt_of_le hj with rfl | hj'
              · rcases Nat.eq_or_lt_of_le hjk with rfl | hjk'
                · exact le_refl _
                · rw [hname]
                  exact le_trans (hprev (by omega)) (hmono (i + 1) k (Nat.le_refl _) (by omega) hk)
              · exact hmono j k (by omega) hjk hk
            · rename_i hil
              rw [hnext] at h
              obtain ⟨hs, -, -⟩ := ih (i + 1) prev s (by omega) h
              exact ⟨hs, fun h' => absurd h' hil, fun j k hj hjk hk => absurd hk (by omega)⟩

end Walk

theorem loadWith_walk {m : Typelib → Nat → List Nat} {buf : ByteArray} {t : Typelib}
    (h : loadWith m buf = .ok t) :
    validateDirectory t.image t.directory t.nEntries t.nLocal = .ok t.sorted := by
  simp only [loadWith, Except.bind_eq_ok] at h
  obtain ⟨size, -, ns, -, sorted, hw, hpure⟩ := h
  cases hpure
  simpa [buildIndexes] using hw

theorem load_sorted_names {b : ByteArray} {t : Typelib} (h : load b = .ok t)
    (hs : t.sorted = true) :
    ∀ j k, 0 < j → j ≤ k → k ≤ t.nLocal → t.entryKey j ≤ t.entryKey k := by
  have hwalk := loadWith_walk h
  rw [hs] at hwalk
  obtain ⟨hlocal, hfew⟩ := load_ok_counts h
  exact (go_ok_sorted hfew hlocal walkSteps 1 "" true Nat.one_pos hwalk).2.2

/-! ## Lookup by name -/

namespace Typelib

/-- The local entry at the 1-based index `i` is the first local entry whose name is the byte
string `name`. -/
structure FirstNamed (t : Typelib) (name : ByteArray) (i : Nat) : Prop where
  pos : 0 < i
  le_nLocal : i ≤ t.nLocal
  named : t.entryBytes i = name
  before : ∀ j, 0 < j → j < i → t.entryBytes j ≠ name

/-- What a lookup by name owes: the directory entry at the lowest local index with the name, or
nothing when no local entry has it. -/
def LookupAnswer (t : Typelib) (name : ByteArray) (a : Option DirEntry) : Prop :=
  (∃ i, t.FirstNamed name i ∧ a = t.entryAt? i) ∨
    (a = none ∧ ∀ i, 0 < i → i ≤ t.nLocal → t.entryBytes i ≠ name)

theorem FirstNamed.unique {t : Typelib} {name : ByteArray} {i j : Nat} (hi : t.FirstNamed name i)
    (hj : t.FirstNamed name j) : i = j := by
  rcases Nat.lt_trichotomy i j with h | h | h
  · exact absurd hi.named (hj.before i hi.pos h)
  · exact h
  · exact absurd hj.named (hi.before j hj.pos h)

theorem LookupAnswer.unique {t : Typelib} {name : ByteArray} {a a' : Option DirEntry}
    (h : t.LookupAnswer name a) (h' : t.LookupAnswer name a') : a = a' := by
  rcases h with ⟨i, hi, rfl⟩ | ⟨rfl, hnone⟩ <;> rcases h' with ⟨j, hj, rfl⟩ | ⟨rfl, hnone'⟩
  · rw [hi.unique hj]
  · exact absurd hi.named (hnone' i hi.pos hi.le_nLocal)
  · exact absurd hj.named (hnone j hj.pos hj.le_nLocal)
  · rfl

@[simp] theorem entryKey_withSorted (t : Typelib) (s : Bool) (i : Nat) :
    { t with sorted := s }.entryKey i = t.entryKey i := rfl

theorem entryKey_eq_iff (t : Typelib) (i : Nat) (name : ByteArray) :
    t.entryKey i = Image.byteText name ↔ t.entryBytes i = name :=
  byteText_injective.eq_iff

theorem scan_answers (t : Typelib) (name : ByteArray) :
    t.LookupAnswer name ({ t with sorted := false }.entryKeyed? (Image.byteText name)) := by
  simp only [entryKeyed?, Bool.false_eq_true, if_false]
  split
  · rename_i i hfind
    obtain ⟨hname, k, hk, hki, hbefore⟩ := List.find?_eq_some_iff_getElem.1 hfind
    simp only [List.getElem_range] at hki
    subst hki
    simp only [List.length_range] at hk
    refine .inl ⟨k + 1, ⟨by omega, by omega, ?_, fun j hj hjk => ?_⟩, rfl⟩
    · simpa [entryKey_eq_iff] using hname
    · have := hbefore (j - 1) (by simpa using (show j - 1 < k by omega))
      simp only [List.getElem_range, Bool.not_eq_true', beq_eq_false_iff_ne, entryKey_withSorted,
        ne_eq, entryKey_eq_iff] at this
      rwa [show j - 1 + 1 = j by omega] at this
  · rename_i hfind
    refine .inr ⟨rfl, fun i hi hle heq => ?_⟩
    refine List.find?_eq_none.1 hfind (i - 1)
      (List.mem_range.2 (by simpa using (show i - 1 < t.nLocal by omega))) ?_
    simpa [show i - 1 + 1 = i by omega, entryKey_eq_iff] using heq

theorem bisect_answers {t : Typelib} (hs : t.sorted = true)
    (hsorted : ∀ j k, 0 < j → j ≤ k → k ≤ t.nLocal → t.entryKey j ≤ t.entryKey k)
    (name : ByteArray) : t.LookupAnswer name (t.entryKeyed? (Image.byteText name)) := by
  set key := Image.byteText name
  have hmono : ∀ i j, 0 ≤ i → i ≤ j → j < t.nLocal →
      decide (t.entryKey (i + 1) ≥ key) = true → decide (t.entryKey (j + 1) ≥ key) = true := by
    intro i j _ hij hj hi
    rw [decide_eq_true_eq] at hi ⊢
    exact le_trans hi (hsorted (i + 1) (j + 1) (by omega) (by omega) (by omega))
  obtain ⟨-, hle, hbelow, hat⟩ := searchFirst_spec (Nat.zero_le t.nLocal) hmono
  simp only [entryKeyed?, hs, if_true]
  generalize searchFirst (fun i => decide (t.entryKey (i + 1) ≥ key)) 0 t.nLocal = r
    at hle hbelow hat ⊢
  have hsmall : ∀ j, 0 < j → j ≤ r → t.entryKey j ≠ key := by
    intro j hj hjr heq
    have := hbelow (j - 1) (Nat.zero_le _) (by omega)
    rw [show j - 1 + 1 = j by omega, heq, decide_eq_false_iff_not] at this
    exact this (le_refl key)
  split
  · rename_i hfound
    rw [Bool.and_eq_true, decide_eq_true_eq, beq_iff_eq] at hfound
    refine .inl ⟨r + 1, ⟨by omega, by omega, (entryKey_eq_iff _ _ _).1 hfound.2,
      fun j hj hjr heq => hsmall j hj (by omega) ((entryKey_eq_iff _ _ _).2 heq)⟩, rfl⟩
  · rename_i hfound
    refine .inr ⟨rfl, fun i hi hle' heqb => ?_⟩
    have heq := (entryKey_eq_iff _ _ _).2 heqb
    rcases Nat.lt_or_ge (i - 1) r with hir | hir
    · exact hsmall i hi (by omega) heq
    · have hr : r < t.nLocal := by omega
      have hge := hat hr
      rw [decide_eq_true_eq] at hge
      have hne : t.entryKey (r + 1) ≠ key := by
        intro h
        exact hfound (by simp [hr, h])
      have hlt : key < t.entryKey (r + 1) := lt_of_le_of_ne hge (Ne.symm hne)
      have hmid : t.entryKey (r + 1) ≤ t.entryKey i := hsorted (r + 1) i (by omega) (by omega) hle'
      rw [heq] at hmid
      exact lt_irrefl key (lt_of_lt_of_le hlt hmid)

end Typelib

/-- A lookup of a name in a loaded typelib gives the same answer whichever way it takes,
bisection when the walk found the local names sorted or the scan from the first local entry:
the directory entry at the lowest local index whose name has exactly the name's bytes, or nothing
when no local entry has them. Names are compared as byte strings, so names that are not UTF-8
are told apart and ordered by their bytes. -/
theorem lookup_paths_agree {b : ByteArray} {t : Typelib} (h : load b = .ok t) (name : ByteArray) :
    t.entryKeyed? (Image.byteText name) =
        { t with sorted := false }.entryKeyed? (Image.byteText name) ∧
      t.LookupAnswer name (t.entryKeyed? (Image.byteText name)) := by
  have hscan := Typelib.scan_answers t name
  cases hs : t.sorted with
  | false =>
      have hsame : { t with sorted := false } = t := by
        cases t
        simp_all
      rw [hsame] at hscan ⊢
      exact ⟨rfl, hscan⟩
  | true =>
      have hbisect := Typelib.bisect_answers hs (load_sorted_names h hs) name
      exact ⟨hbisect.unique hscan, hbisect⟩

/-- An image of namespace `N` whose two local entries are both named `a`, callbacks sharing one blob:
its local names are sorted, and a lookup of `a` bisects. -/
def twinNameImage : ByteArray :=
  ⟨#[71, 79, 66, 74, 10, 77, 69, 84, 65, 68, 65, 84, 65, 13, 10, 26, 4, 0, 0, 0, 2, 0, 2, 0,
    124, 0, 0, 0, 0, 0, 0, 0, 0, 0, 0, 0, 0, 0, 0, 0, 152, 0, 0, 0, 150, 0, 0, 0, 0, 0, 0, 0,
    0, 0, 0, 0, 0, 0, 0, 0, 12, 0, 20, 0, 12, 0, 16, 0, 20, 0, 16, 0, 16, 0, 16, 0, 12, 0, 12, 0,
    24, 0, 16, 0, 8, 0, 24, 0, 32, 0, 60, 0, 40, 0, 40, 0, 0, 0, 0, 0, 0, 0, 0, 0, 0, 0, 0, 0,
    0, 0, 0, 0, 2, 0, 0, 0, 0, 0, 0, 0, 0, 0, 0, 0, 2, 0, 1, 0, 148, 0, 0, 0, 112, 0, 0, 0,
    2, 0, 1, 0, 148, 0, 0, 0, 112, 0, 0, 0, 97, 0, 78, 0]⟩

/-- Looking up a name two sorted local entries share finds the first of them, by bisection. -/
theorem twin_names_lookup_first :
    ∃ t, load twinNameImage = .ok t ∧ t.sorted = true ∧
      (t.entryNamed? "a").map DirEntry.index = some 1 ∧
      (t.entryKeyed? (Image.byteText "a".toUTF8) =
          { t with sorted := false }.entryKeyed? (Image.byteText "a".toUTF8) ∧
        t.LookupAnswer "a".toUTF8 (t.entryKeyed? (Image.byteText "a".toUTF8))) := by
  have hrun : (load twinNameImage).toOption.map
      (fun t => (t.sorted, (t.entryNamed? "a").map DirEntry.index)) = some (true, some 1) := by
    decide +kernel
  cases hl : load twinNameImage with
  | error e =>
      rw [hl] at hrun
      cases hrun
  | ok t =>
      rw [hl] at hrun
      simp only [Except.toOption, Option.map_some, Option.some.injEq, Prod.mk.injEq] at hrun
      exact ⟨t, rfl, hrun.1, hrun.2, lookup_paths_agree hl "a".toUTF8⟩

end Introspection.Typelib
