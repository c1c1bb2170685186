import Introspection.Typelib.Members

/-!
# What loading an image gives

Loading checks an image's header, then its tables, then walks its directory. Every fault it
reports is a malformed-image failure. A typelib it gives reads the buffer it was given up to the
declared size, which lies between the header's size and the buffer's; its directory lies within
that size, and a read that crosses the size gives zero.

The walk over the directory counts with a 16-bit index and goes on while the index is at most the
entry count. Below 65535 entries it ends. A directory of 65535 entries wraps from 65535 to 0,
checks the slot after the directory as a local entry and starts over, so when every slot of such a
round passes, the walk never ends: loading that image gives no answer at all.
-/

namespace Except

variable {ε α β : Type}

theorem bind_eq_ok {x : Except ε α} {f : α → Except ε β} {b : β} :
    (x >>= f) = .ok b ↔ ∃ a, x = .ok a ∧ f a = .ok b := by
  cases x <;> simp [bind, Except.bind]

theorem bind_eq_error {x : Except ε α} {f : α → Except ε β} {e : ε} :
    (x >>= f) = .error e ↔ x = .error e ∨ ∃ a, x = .ok a ∧ f a = .error e := by
  cases x <;> simp [bind, Except.bind]

end Except

namespace Introspection.Typelib

/-! ## Faults -/

theorem malformed_kind (c : Option Failure) (msg : String) :
    (malformed c msg).kind? = some .malformedTypelib := by
  cases c <;> rfl

theorem checkEntry_error {r : Image} {d l i : Nat} {e : Failure}
    (h : checkEntry r d l i = .error e) : e.kind? = some .malformedTypelib := by
  simp only [checkEntry] at h
  repeat' split at h
  all_goals first | (cases h; exact malformed_kind _ _) | cases h

theorem checkHeader_error {buf : ByteArray} {e : Failure} (h : checkHeader buf = .error e) :
    e.kind? = some .malformedTypelib := by
  simp only [checkHeader] at h
  repeat' split at h
  all_goals first | (cases h; exact malformed_kind _ _) | cases h

theorem checkTables_error {r : Image} {e : Failure} (h : checkTables r = .error e) :
    e.kind? = some .malformedTypelib := by
  simp only [checkTables] at h
  repeat' split at h
  all_goals first | (cases h; exact malformed_kind _ _) | cases h

/-! ## The header and the tables -/

theorem check_eq_none {im : Image} {part : String} {off n : Nat} :
    im.check part off n = none ↔ off + n ≤ im.limit := by
  unfold Image.check Image.inBounds
  split <;> simp_all

theorem checkHeader_ok {buf : ByteArray} {size : Nat} (h : checkHeader buf = .ok size) :
    size = (Image.make buf headerSize).u32 hdrSize ∧ headerSize ≤ size ∧
      size ≤ buf.size := by
  simp only [checkHeader] at h
  repeat' split at h
  all_goals try cases h
  rename_i hsize _ _
  simp only [Bool.or_eq_true, decide_eq_true_eq, not_or] at hsize
  exact ⟨rfl, by omega, by omega⟩

theorem checkTables_ok {r : Image} {ns : String} (h : checkTables r = .ok ns) :
    r.u16 hdrNLocalEntries ≤ r.u16 hdrNEntries ∧
      r.u32 hdrDirectory + r.u16 hdrNEntries * entryBlobSize ≤ r.limit := by
  simp only [checkTables] at h
  repeat' split at h
  all_goals try cases h
  rename_i hlocal _ hdir _ _ _ _ _ _
  exact ⟨Nat.le_of_not_lt hlocal, check_eq_none.1 hdir⟩

/-! ## The directory walk -/

section Walk

variable {r : Image} {d n l : Nat}

theorem go_past {i : Nat} (hi : n < i) (p : String) (s : Bool) (fuel : Nat) :
    validateDirectory.go r d n l i p s (fuel + 1) = .ok s := by
  rw [validateDirectory.go, if_pos hi]

theorem go_fault {i : Nat} {f : Failure} (hi : i ≤ n) (h : checkEntry r d l i = .error f)
    (p : String) (s : Bool) (fuel : Nat) :
    validateDirectory.go r d n l i p s (fuel + 1) = .error f := by
  rw [validateDirectory.go, if_neg (Nat.not_lt.2 hi), h]

theorem go_pass {i : Nat} {name : ByteArray} (hi : i ≤ n) (h : checkEntry r d l i = .ok name)
    (p : String) (s : Bool) (fuel : Nat) :
    ∃ p' s', validateDirectory.go r d n l i p s (fuel + 1) =
      validateDirectory.go r d n l (nextIndex i) p' s' fuel := by
  rw [validateDirectory.go, if_neg (Nat.not_lt.2 hi), h]
  dsimp only
  split
  · exact ⟨_, _, rfl⟩
  · exact ⟨_, _, rfl⟩

theorem go_error : ∀ (fuel i : Nat) (p : String) (s : Bool) (e : Failure),
    validateDirectory.go r d n l i p s fuel = .error e →
      e.kind? = some .malformedTypelib ∨ e = endlessWalk := by
  intro fuel
  induction fuel with
  | zero =>
      intro i p s e h
      exact .inr (Except.error.inj h).symm
  | succ fuel ih =>
      intro i p s e h
      by_cases hi : n < i
      · rw [go_past hi] at h
        cases h
      · cases hc : checkEntry r d l i with
        | error f =>
            rw [go_fault (Nat.le_of_not_lt hi) hc] at h
            cases h
            exact .inl (checkEntry_error hc)
        | ok name =>
            obtain ⟨p', s', hgo⟩ := go_pass (Nat.le_of_not_lt hi) hc p s fuel
            rw [hgo] at h
            exact ih _ _ _ _ h

theorem go_ne_endless (hn : n < 65535) : ∀ (fuel i : Nat) (p : String) (s : Bool),
    1 ≤ i → i ≤ n + 1 → n + 1 - i < fuel →
      validateDirectory.go r d n l i p s fuel ≠ .error endlessWalk := by
  intro fuel
  induction fuel with
  | zero => intro i p s _ _ h; omega
  | succ fuel ih =>
      intro i p s h1 h2 hf
      by_cases hi : n < i
      · rw [go_past hi]
        simp
      · cases hc : checkEntry r d l i with
        | error f =>
            rw [go_fault (Nat.le_of_not_lt hi) hc]
            intro h
            have := checkEntry_error hc
            rw [Except.error.inj h] at this
            cases this
        | ok name =>
            obtain ⟨p', s', hgo⟩ := go_pass (Nat.le_of_not_lt hi) hc p s fuel
            have hnext : nextIndex i = i + 1 := Nat.mod_eq_of_lt (by omega)
            rw [hgo, hnext]
            exact ih _ _ _ (by omega) (by omega) (by omega)

theorem go_endless (hn : n = 65535)
    (hpass : ∀ j < 65536, ∃ name, checkEntry r d l j = .ok name) :
    ∀ (fuel i : Nat) (p : String) (s : Bool), i < 65536 →
      validateDirectory.go r d n l i p s fuel = .error endlessWalk := by
  intro fuel
  induction fuel with
  | zero => intro i p s _; rfl
  | succ fuel ih =>
      intro i p s hi
      obtain ⟨name, hc⟩ := hpass i hi
      have hin : i ≤ n := by omega
      obtain ⟨p', s', hgo⟩ := go_pass hin hc p s fuel
      rw [hgo]
      exact ih _ _ _ (Nat.mod_lt _ (by decide))

theorem go_stops (hn : n = 65535) {j : Nat} {f : Failure} (hj : j < 65536)
    (hf : checkEntry r d l j = .error f) :
    ∀ (fuel i : Nat) (p : String) (s : Bool), i < 65536 → (j + 65536 - i) % 65536 < fuel →
      ∃ e, validateDirectory.go r d n l i p s fuel = .error e ∧
        e.kind? = some .malformedTypelib := by
  intro fuel
  induction fuel with
  | zero => intro i p s _ h; omega
  | succ fuel ih =>
      intro i p s hi hdist
      have hin : i ≤ n := by omega
      cases hc : checkEntry r d l i with
      | error f' => exact ⟨f', go_fault hin hc p s fuel, checkEntry_error hc⟩
      | ok name =>
          have hij : i ≠ j := by
            rintro rfl
            rw [hc] at hf
            cases hf
          obtain ⟨p', s', hgo⟩ := go_pass hin hc p s fuel
          rw [hgo]
          refine ih _ _ _ (Nat.mod_lt _ (by decide)) ?_
          unfold nextIndex
          by_cases h65 : i = 65535
          · subst h65
            omega
          · rw [Nat.mod_eq_of_lt (show i + 1 < 65536 by omega)]
            omega

theorem go_full_ne_ok (hn : n = 65535) {sorted : Bool} : ∀ (fuel i : Nat) (p : String) (s : Bool),
    i < 65536 → validateDirectory.go r d n l i p s fuel ≠ .ok sorted := by
  intro fuel
  induction fuel with
  | zero => intro i p s _; simp [validateDirectory.go]
  | succ fuel ih =>
      intro i p s hi
      have hin : i ≤ n := by omega
      cases hc : checkEntry r d l i with
      | error f =>
          rw [go_fault hin hc]
          simp
      | ok name =>
          obtain ⟨p', s', hgo⟩ := go_pass hin hc p s fuel
          rw [hgo]
          exact ih _ _ _ (Nat.mod_lt _ (by decide))

end Walk

/-- The directory walk over an image never ends: however many steps it is allowed, it has not
finished when they are spent. -/
def WalkNeverEnds (r : Image) (directory nEntries nLocal : Nat) : Prop :=
  ∀ fuel, validateDirectory.go r directory nEntries nLocal 1 "" true fuel = .error endlessWalk

theorem full_walk_passes {r : Image} {d l fuel : Nat} (hfuel : 65536 ≤ fuel)
    (h : validateDirectory.go r d 65535 l 1 "" true fuel = .error endlessWalk) :
    ∀ j < 65536, ∃ name, checkEntry r d l j = .ok name := by
  intro j hj
  cases hc : checkEntry r d l j with
  | ok name => exact ⟨name, rfl⟩
  | error f =>
      obtain ⟨e, he, hkind⟩ := go_stops rfl hj hc fuel 1 "" true (by decide) (by omega)
      rw [h] at he
      cases he
      cases hkind

theorem walkNeverEnds_iff {r : Image} {d l : Nat} :
    WalkNeverEnds r d 65535 l ↔ ∀ j < 65536, ∃ name, checkEntry r d l j = .ok name :=
  ⟨fun h => full_walk_passes (Nat.le_refl _) (h 65536),
    fun hpass fuel => go_endless rfl hpass fuel 1 "" true (by decide)⟩

theorem validateDirectory_error {r : Image} {d n l : Nat} {e : Failure} (hn : n < 65536)
    (h : validateDirectory r d n l = .error e) :
    e.kind? = some .malformedTypelib ∨
      (e = endlessWalk ∧ n = 65535 ∧ WalkNeverEnds r d n l) := by
  rcases go_error _ _ _ _ _ h with hkind | rfl
  · exact .inl hkind
  · right
    have hsteps : 65536 < walkSteps := by decide
    have hfull : n = 65535 := by
      rcases Nat.lt_or_ge n 65535 with hlt | hge
      · exact absurd h (go_ne_endless hlt walkSteps 1 "" true (by omega) (by omega) (by omega))
      · omega
    subst hfull
    exact ⟨rfl, rfl, walkNeverEnds_iff.2 (full_walk_passes (Nat.le_of_lt hsteps) h)⟩

/-! ## Reads past the declared size -/

theorem u16_lt (im : Image) (off : Nat) : im.u16 off < 65536 := by
  have hb (i : Nat) : byteAt im.data i < 256 := by
    unfold byteAt
    split
    · exact UInt8.toNat_lt _
    · decide
  simp only [Image.u16, Image.read]
  split
  · simp only [leAt]
    have := hb off
    have := hb (off + 1)
    omega
  · decide

theorem read_of_limit_lt {im : Image} {off w : Nat} (h : im.limit < off + w) :
    im.read off w = 0 := by
  simp [Image.read, Image.inBounds, Nat.not_le.2 h]

theorem bytes?_of_limit_lt {im : Image} {off w : Nat} (h : im.limit < off + w) :
    im.bytes? off w = none := by
  simp [Image.bytes?, Image.inBounds, Nat.not_le.2 h]

theorem cstring_of_limit_le {im : Image} {off : Nat} (h : im.limit ≤ off) :
    im.cstring off = "" := by
  simp [Image.cstring, Image.cstring?, Image.cbytes?, h]

/-! ## Loading -/

theorem buildIndexes_fields (t : Typelib) (m : Nat → List Nat) :
    (buildIndexes t m).image = t.image ∧ (buildIndexes t m).directory = t.directory ∧
      (buildIndexes t m).nEntries = t.nEntries ∧ (buildIndexes t m).nLocal = t.nLocal := by
  simp [buildIndexes]

theorem loadWith_ok {m : Typelib → Nat → List Nat} {buf : ByteArray} {t : Typelib}
    (h : loadWith m buf = .ok t) :
    ∃ size ns sorted, checkHeader buf = .ok size ∧
      checkTables (Image.make buf size) = .ok ns ∧
      validateDirectory (Image.make buf size) ((Image.make buf size).u32 hdrDirectory)
        ((Image.make buf size).u16 hdrNEntries) ((Image.make buf size).u16 hdrNLocalEntries) =
          .ok sorted ∧
      t.image = Image.make buf size ∧ t.directory = (Image.make buf size).u32 hdrDirectory ∧
      t.nEntries = (Image.make buf size).u16 hdrNEntries ∧
      t.nLocal = (Image.make buf size).u16 hdrNLocalEntries := by
  simp only [loadWith, Except.bind_eq_ok] at h
  obtain ⟨size, hh, ns, ht, sorted, hw, hpure⟩ := h
  cases hpure
  obtain ⟨himage, hdir, hent, hloc⟩ := buildIndexes_fields _ _
  exact ⟨size, ns, sorted, hh, ht, hw, himage, hdir, hent, hloc⟩

theorem loadWith_error {m : Typelib → Nat → List Nat} {buf : ByteArray} {e : Failure}
    (h : loadWith m buf = .error e) :
    checkHeader buf = .error e ∨ ∃ size, checkHeader buf = .ok size ∧
      (checkTables (Image.make buf size) = .error e ∨ ∃ ns,
        checkTables (Image.make buf size) = .ok ns ∧
        validateDirectory (Image.make buf size) ((Image.make buf size).u32 hdrDirectory)
          ((Image.make buf size).u16 hdrNEntries) ((Image.make buf size).u16 hdrNLocalEntries) =
            .error e) := by
  simp only [loadWith, Except.bind_eq_error] at h
  rcases h with hh | ⟨size, hh, ht | ⟨ns, ht, hw | ⟨sorted, -, hpure⟩⟩⟩
  · exact .inl hh
  · exact .inr ⟨size, hh, .inl ht⟩
  · exact .inr ⟨size, hh, .inr ⟨ns, ht, hw⟩⟩
  · cases hpure

/-- Loading any byte string ends in one of three ways. It reports a malformed image. Or it gives
a typelib over the buffer cut at the declared size, which lies between the header's size and the
buffer's; the typelib has fewer than 65535 entries, no more local ones than entries and its
directory within that size, and a read crossing the size gives zero. Or the image declares 65535
entries whose every slot passes, and the walk over them never ends. -/
theorem load_outcome (b : ByteArray) :
    (∃ e, load b = .error e ∧ e.kind? = some .malformedTypelib) ∨
    (∃ t, load b = .ok t ∧ t.image.data = b ∧ headerSize ≤ t.size ∧ t.size ≤ b.size ∧
      t.nLocal ≤ t.nEntries ∧ t.nEntries < 65535 ∧
      t.directory + t.nEntries * entryBlobSize ≤ t.size ∧
      (∀ off w, t.size < off + w → t.image.read off w = 0 ∧ t.bytes? off w = none) ∧
      ∀ off, t.size ≤ off → t.cstring off = "") ∨
    (load b = .error endlessWalk ∧ ∃ size, checkHeader b = .ok size ∧
      (Image.make b size).u16 hdrNEntries = 65535 ∧
      (∀ j < 65536, ∃ name,
        checkEntry (Image.make b size) ((Image.make b size).u32 hdrDirectory)
          ((Image.make b size).u16 hdrNLocalEntries) j = .ok name) ∧
      WalkNeverEnds (Image.make b size) ((Image.make b size).u32 hdrDirectory) 65535
        ((Image.make b size).u16 hdrNLocalEntries)) := by
  cases hl : load b with
  | error e =>
      rcases loadWith_error hl with hh | ⟨size, hh, ht | ⟨ns, ht, hw⟩⟩
      · exact .inl ⟨e, rfl, checkHeader_error hh⟩
      · exact .inl ⟨e, rfl, checkTables_error ht⟩
      · rcases validateDirectory_error (u16_lt _ _) hw with hkind | ⟨rfl, hfull, hnever⟩
        · exact .inl ⟨_, rfl, hkind⟩
        · rw [hfull] at hnever
          exact .inr (.inr ⟨rfl, size, hh, hfull, walkNeverEnds_iff.1 hnever, hnever⟩)
  | ok t =>
      obtain ⟨size, ns, sorted, hh, ht, hw, himage, hdir, hent, hloc⟩ := loadWith_ok hl
      obtain ⟨-, hlo, hhi⟩ := checkHeader_ok hh
      obtain ⟨hlocal, hdirectory⟩ := checkTables_ok ht
      have hsize : t.size = size := by
        simp only [Typelib.size, himage, Image.make]
        omega
      have hfew : t.nEntries < 65535 := by
        rw [hent]
        rcases Nat.lt_or_ge ((Image.make b size).u16 hdrNEntries) 65535 with hlt | hge
        · exact hlt
        have h65 : (Image.make b size).u16 hdrNEntries = 65535 := by
          have := u16_lt (Image.make b size) hdrNEntries
          omega
        rw [h65] at hw
        exact absurd hw (go_full_ne_ok rfl walkSteps 1 "" true (by decide))
      refine .inr (.inl ⟨t, rfl, by rw [himage]; rfl, by omega, by omega, ?_, hfew, ?_, ?_, ?_⟩)
      · rw [hloc, hent]
        exact hlocal
      · rw [hdir, hent, hsize]
        simpa [Image.make, Nat.min_eq_left hhi] using hdirectory
      · intro off w hw
        exact ⟨read_of_limit_lt hw, bytes?_of_limit_lt hw⟩
      · intro off hoff
        exact cstring_of_limit_le hoff

theorem load_ok_counts {b : ByteArray} {t : Typelib} (hl : load b = .ok t) :
    t.nLocal ≤ t.nEntries ∧ t.nEntries < 65535 := by
  obtain ⟨size, ns, sorted, -, ht, hw, -, -, hent, hloc⟩ := loadWith_ok hl
  refine ⟨by rw [hloc, hent]; exact (checkTables_ok ht).1, ?_⟩
  rw [hent]
  rcases Nat.lt_or_ge ((Image.make b size).u16 hdrNEntries) 65535 with hlt | hge
  · exact hlt
  have h65 : (Image.make b size).u16 hdrNEntries = 65535 := by
    have := u16_lt (Image.make b size) hdrNEntries
    omega
  rw [h65] at hw
  exact absurd hw (go_full_ne_ok rfl walkSteps 1 "" true (by decide))

end Introspection.Typelib
