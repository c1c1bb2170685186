import Introspection.Proofs.Image.Validation

/-!
# The attribute table

An image keeps the attributes of its blobs in one table of 12-byte records, sorted by the offset
of the blob each record belongs to; `Typelib.attributes` bisects the table for the first record
of a blob and collects the records that follow while they belong to it.

Loading checks the table against the declared size, but it takes the table's length, twelve
bytes a record, as a 32-bit number: the check sees `12 * n` modulo `2 ^ 32`. What a loaded image
has is therefore `attributes + (12 * n mod 2 ^ 32) ≤ size` (`loaded_attributes_checked`). When
the length does not wrap, the whole table lies within the declared size, every record
`Typelib.attributes` returns is read at a record position of the table, and for any blob offset
it returns at most `(size - attributes) / 12` records (`attribute_table_bounds`). A count just
above `2 ^ 32 / 12` wraps to a few bytes and passes the check with a table far longer than the
image (`wrapped_attribute_count_loads`).
-/

namespace Introspection.Typelib

/-! ## Reads are 32-bit -/

theorem byteAt_lt (data : ByteArray) (i : Nat) : byteAt data i < 256 := by
  unfold byteAt
  split
  · exact UInt8.toNat_lt _
  · decide

theorem leAt_lt (data : ByteArray) (off w : Nat) : leAt data off w < 256 ^ w := by
  induction w generalizing off with
  | zero => simp [leAt]
  | succ w ih =>
      have hb := byteAt_lt data off
      have hr := ih (off + 1)
      simp only [leAt, Nat.pow_succ]
      omega

theorem u32_lt (im : Image) (off : Nat) : im.u32 off < 2 ^ 32 := by
  simp only [Image.u32, Image.read]
  split
  · exact leAt_lt _ _ 4
  · decide

theorem loaded_size_lt {b : ByteArray} {t : Typelib} (h : load b = .ok t) : t.size < 2 ^ 32 := by
  obtain ⟨size, -, -, hh, -, -, himage, -⟩ := loadWith_ok h
  obtain ⟨hsize, -, -⟩ := checkHeader_ok hh
  have hlt := u32_lt (Image.make b headerSize) hdrSize
  simp only [Typelib.size, himage, Image.make]
  omega

/-! ## The check a loaded image passed -/

theorem checkTables_attributes {r : Image} {ns : String} (h : checkTables r = .ok ns) :
    r.u32 hdrAttributes + r.u32 hdrNAttributes * attributeBlobSize % 2 ^ 32 ≤ r.limit := by
  simp only [checkTables] at h
  repeat' split at h
  all_goals try cases h
  exact check_eq_none.1 (by assumption)

theorem loaded_attributes_checked {b : ByteArray} {t : Typelib} (h : load b = .ok t) :
    t.u32 hdrAttributes + t.u32 hdrNAttributes * attributeBlobSize % 2 ^ 32 ≤ t.size := by
  obtain ⟨size, ns, -, -, ht, -, himage, -⟩ := loadWith_ok h
  simpa only [Typelib.u32, Typelib.size, himage] using checkTables_attributes ht

/-! ## Collecting the records of a blob -/

/-- The name and value of the attribute record at a byte position of the table, read with
32-bit positions as `Typelib.attributes` reads them. -/
def Typelib.attributeRecord (t : Typelib) (pos : Nat) : String × String :=
  (t.cstring (t.u32 ((pos + 4) % 2 ^ 32)), t.cstring (t.u32 ((pos + 8) % 2 ^ 32)))

theorem searchFirst_le (f : Nat → Bool) {lo hi : Nat} (hle : lo ≤ hi) :
    searchFirst f lo hi ≤ hi := by
  fun_induction searchFirst f lo hi with
  | case1 lo hi hlt mid hmid ih => have := ih (by omega); omega
  | case2 lo hi hlt mid hmid ih => exact ih (by omega)
  | case3 lo hi hge => exact hle

theorem collect_run (t : Typelib) (o n : Nat) (at_ : Nat → Nat) :
    ∀ (fuel i : Nat), ∃ k, k ≤ fuel ∧ (k = 0 ∨ i + k ≤ n) ∧
      Typelib.attributes.collect t o n at_ i fuel =
        (List.range' i k).map fun j => t.attributeRecord (at_ j) := by
  intro fuel
  induction fuel with
  | zero => intro i; exact ⟨0, Nat.le_refl 0, .inl rfl, rfl⟩
  | succ fuel ih =>
      intro i
      by_cases hmore : i < n ∧ t.u32 (at_ i) = o
      ·
        obtain ⟨k, hk, hbound, hrest⟩ := ih (i + 1)
        refine ⟨k + 1, by omega, .inr (by omega), ?_⟩
        rw [Typelib.attributes.collect, if_pos (by simpa using hmore), hrest,
          List.range'_succ, List.map_cons]
        rfl
      · refine ⟨0, Nat.zero_le _, .inl rfl, ?_⟩
        rw [Typelib.attributes.collect, if_neg (by simpa using hmore)]
        rfl

theorem attributes_run (t : Typelib) (o : Nat) :
    ∃ first k, first + k ≤ t.u32 hdrNAttributes ∧
      t.attributes o = (List.range' first k).map fun j =>
        t.attributeRecord ((t.u32 hdrAttributes + j * attributeBlobSize) % 2 ^ 32) := by
  let n := t.u32 hdrNAttributes
  let at_ := fun i => (t.u32 hdrAttributes + i * attributeBlobSize) % 2 ^ 32
  let first := searchFirst (fun i => decide (t.u32 (at_ i) ≥ o)) 0 n
  have hfirst : first ≤ n := searchFirst_le _ (Nat.zero_le n)
  obtain ⟨k, hk, -, hrun⟩ := collect_run t o n at_ (n - first) first
  exact ⟨first, k, by omega, hrun⟩

/-! ## Tables whose length does not wrap -/

theorem record_position_eq {base n size j : Nat} (htable : base + n * attributeBlobSize ≤ size)
    (hsize : size < 2 ^ 32) (hj : j < n) :
    (base + j * attributeBlobSize) % 2 ^ 32 = base + j * attributeBlobSize := by
  have : j * attributeBlobSize ≤ n * attributeBlobSize := Nat.mul_le_mul_right _ (Nat.le_of_lt hj)
  exact Nat.mod_eq_of_lt (by omega)

/-- Attribute table bounds. Every image that loads has its attribute table, with the length
taken modulo `2 ^ 32`, within the declared size. When twelve bytes a record for the declared
count do not wrap, the whole table lies within the size, and for every blob offset the records
`Typelib.attributes` returns are read at positions of the table below the count, no more of
them than `(size - attributes) / 12`. -/
theorem attribute_table_bounds {b : ByteArray} {t : Typelib} (h : load b = .ok t) :
    t.u32 hdrAttributes + t.u32 hdrNAttributes * attributeBlobSize % 2 ^ 32 ≤ t.size ∧
    (t.u32 hdrNAttributes * attributeBlobSize < 2 ^ 32 →
      t.u32 hdrAttributes + t.u32 hdrNAttributes * attributeBlobSize ≤ t.size ∧
      ∀ o, ∃ first k, first + k ≤ t.u32 hdrNAttributes ∧
        t.attributes o = (List.range' first k).map (fun j =>
          t.attributeRecord (t.u32 hdrAttributes + j * attributeBlobSize)) ∧
        (t.attributes o).length ≤ (t.size - t.u32 hdrAttributes) / attributeBlobSize) := by
  have hchecked := loaded_attributes_checked h
  refine ⟨hchecked, fun hwrap => ?_⟩
  have htable : t.u32 hdrAttributes + t.u32 hdrNAttributes * attributeBlobSize ≤ t.size := by
    rwa [Nat.mod_eq_of_lt hwrap] at hchecked
  refine ⟨htable, fun o => ?_⟩
  obtain ⟨first, k, hk, hrun⟩ := attributes_run t o
  have hpos : ∀ j ∈ List.range' first k,
      (t.u32 hdrAttributes + j * attributeBlobSize) % 2 ^ 32 =
        t.u32 hdrAttributes + j * attributeBlobSize := by
    intro j hj
    rw [List.mem_range'_1] at hj
    exact record_position_eq htable (loaded_size_lt h) (by omega)
  have hmap : (List.range' first k).map (fun j =>
      t.attributeRecord ((t.u32 hdrAttributes + j * attributeBlobSize) % 2 ^ 32)) =
        (List.range' first k).map (fun j =>
          t.attributeRecord (t.u32 hdrAttributes + j * attributeBlobSize)) :=
    List.map_congr_left fun j hj => by rw [hpos j hj]
  refine ⟨first, k, hk, hrun.trans hmap, ?_⟩
  have hroom : t.u32 hdrNAttributes ≤ (t.size - t.u32 hdrAttributes) / attributeBlobSize :=
    (Nat.le_div_iff_mul_le (by decide)).2 (by omega)
  rw [hrun, List.length_map, List.length_range']
  omega

/-- An image of namespace `N` declaring `357913942` attribute records at offset 110 of its 118
bytes: twelve bytes a record make `2 ^ 32 + 8`, which the check sees as 8. -/
def wrappedAttributeImage : ByteArray :=
  ⟨#[71, 79, 66, 74, 10, 77, 69, 84, 65, 68, 65, 84, 65, 13, 10, 26, 4, 0, 0, 0, 0, 0, 0, 0,
    112, 0, 0, 0, 86, 85, 85, 21, 110, 0, 0, 0, 0, 0, 0, 0, 118, 0, 0, 0, 116, 0, 0, 0, 112, 0,
    0, 0, 0, 0, 0, 0, 0, 0, 0, 0, 12, 0, 20, 0, 12, 0, 16, 0, 20, 0, 16, 0, 16, 0, 16, 0, 12, 0,
    12, 0, 24, 0, 16, 0, 8, 0, 24, 0, 32, 0, 60, 0, 40, 0, 40, 0, 0, 0, 0, 0, 0, 0, 0, 0, 0, 0,
    0, 0, 0, 0, 0, 0, 49, 46, 48, 0, 78, 0]⟩

/-- The image with the wrapped count loads: its table, about 4 GiB long, ends far past the 118
bytes of the image, while the check it passed saw 8 bytes at offset 110. -/
theorem wrapped_attribute_count_loads :
    ∃ t, load wrappedAttributeImage = .ok t ∧
      2 ^ 32 ≤ t.u32 hdrNAttributes * attributeBlobSize ∧
      t.size < t.u32 hdrAttributes + t.u32 hdrNAttributes * attributeBlobSize ∧
      t.u32 hdrAttributes + t.u32 hdrNAttributes * attributeBlobSize % 2 ^ 32 ≤ t.size := by
  have hrun : (load wrappedAttributeImage).toOption.map
      (fun t => (t.u32 hdrNAttributes, t.u32 hdrAttributes, t.size)) =
        some (357913942, 110, 118) := by
    decide +kernel
  cases hl : load wrappedAttributeImage with
  | error e =>
      rw [hl] at hrun
      cases hrun
  | ok t =>
      rw [hl] at hrun
      simp only [Except.toOption, Option.map_some, Option.some.injEq, Prod.mk.injEq] at hrun
      obtain ⟨hn, hbase, hsize⟩ := hrun
      refine ⟨t, rfl, by rw [hn]; decide, by rw [hn, hbase, hsize]; decide,
        (attribute_table_bounds hl).1⟩

end Introspection.Typelib
