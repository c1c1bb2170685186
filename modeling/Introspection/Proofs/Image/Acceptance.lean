import Introspection.Proofs.Image.Tail
import Introspection.Proofs.Image.Validation

/-!
# Finished images load

The loader reads a finished image field by field: the header's magic, version, declared size
and blob size table, then the counts, the directory's and the attribute table's places and the
namespace's name, then every directory slot. Each read stands over bytes the builder wrote, so it
gives back what was written, modulo the width of the field: the image must be smaller than
`2 ^ 32` bytes for its offsets to read back.

What the builder does not check is where the loader can still refuse an image: an empty
namespace name, or one that starts with a NUL, leaves no namespace string; a foreign reference
with an empty namespace or name part leaves a zero slot the loader takes for a bad offset; and
65535 entries or more wrap the 16-bit counts. Apart from these, every image the builder gives
loads, with the namespace and the counts it was built with.
-/

namespace Introspection.Typelib

/-! ## Reads over written bytes -/

namespace Image

variable {im : Image}

theorem read_leBytes {off v w : Nat} (h : BytesAt im.data off (leBytes v w))
    (hl : off + w ≤ im.limit) : im.read off w = v % 256 ^ w := by
  have hin : im.inBounds off w = true := by simp [inBounds, hl]
  have hval := h.leAt_eq
  rw [leBytes_length] at hval
  rw [read, if_pos hin, hval, leValue_leBytes]

theorem nulFrom_isSome {j : Nat} (hj : j < im.limit) (hz : byteAt im.data j = 0) :
    ∀ i, i ≤ j → (im.nulFrom i).isSome := by
  suffices h : ∀ d i, j - i = d → i ≤ j → (im.nulFrom i).isSome from fun i => h _ i rfl
  intro d
  induction d with
  | zero =>
      intro i hd hij
      obtain rfl : i = j := by omega
      rw [nulFrom, dif_pos hj]
      simp [hz]
  | succ d ih =>
      intro i hd hij
      rw [nulFrom, dif_pos (by omega)]
      split
      · rfl
      · exact ih (i + 1) (by omega) (by omega)

theorem cstring?_isSome {o : Nat} {s : String} (h : CStrAt im.data o s)
    (hl : o + (s.toList.flatMap String.utf8EncodeChar).length + 1 ≤ im.limit) :
    (im.cstring? o).isSome := by
  obtain ⟨hhead, hb⟩ := h
  have hz : byteAt im.data (o + (s.toList.flatMap String.utf8EncodeChar).length) = 0 := by
    simpa using (BytesAt.append_iff.1 hb).2.2 0 (by simp)
  have hsome := nulFrom_isSome (by omega) hz o (by omega)
  have hpos : ¬((o == 0 || decide (o ≥ im.limit)) = true) := by
    simp only [Bool.or_eq_true, beq_iff_eq, decide_eq_true_eq, not_or]
    exact ⟨by simp only [headerSize] at hhead; omega, by omega⟩
  simp only [cstring?, cbytes?, Option.isSome_map, if_neg hpos]
  exact hsome

end Image

theorem make_size_limit (buf : ByteArray) : (Image.make buf buf.size).limit = buf.size :=
  Nat.min_self _

theorem read_whole {buf : ByteArray} {off v w : Nat} (h : BytesAt buf off (leBytes v w)) :
    (Image.make buf buf.size).read off w = v % 256 ^ w := by
  refine Image.read_leBytes h ?_
  have := h.1
  rw [leBytes_length] at this
  rwa [make_size_limit]

theorem u16_whole {buf : ByteArray} {off v : Nat} (h : BytesAt buf off (leBytes v 2))
    (hv : v < 2 ^ 16) : (Image.make buf buf.size).u16 off = v := by
  rw [Image.u16, read_whole h, Nat.mod_eq_of_lt hv]

theorem u32_whole {buf : ByteArray} {off v : Nat} (h : BytesAt buf off (leBytes v 4))
    (hv : v < 2 ^ 32) : (Image.make buf buf.size).u32 off = v := by
  rw [Image.u32, read_whole h, Nat.mod_eq_of_lt hv]

theorem TextAt.read_isSome {buf : ByteArray} {pos : Nat} {s : String} (h : TextAt buf pos s)
    (hs : s ≠ "") (hbig : buf.size < 2 ^ 32) :
    ((Image.make buf buf.size).cstring? ((Image.make buf buf.size).u32 pos)).isSome := by
  have hne : s.isEmpty = false := by simpa using hs
  unfold TextAt at h
  rw [if_neg (by simp [hne])] at h
  obtain ⟨o, hslot, hstr⟩ := h
  have hend := hstr.2.1
  simp only [List.length_append, List.length_singleton] at hend
  rw [u32_whole hslot (by omega)]
  exact Image.cstring?_isSome hstr (by rw [make_size_limit]; omega)

theorem TextAt.read_eq {buf : ByteArray} {pos : Nat} {s : String} (h : TextAt buf pos s)
    (hs : s ≠ "") (hnul : '\x00' ∉ s.toList) (hbig : buf.size < 2 ^ 32) :
    (Image.make buf buf.size).cstring? ((Image.make buf buf.size).u32 pos) = some s := by
  have hne : s.isEmpty = false := by simpa using hs
  unfold TextAt at h
  rw [if_neg (by simp [hne])] at h
  obtain ⟨o, hslot, hhead, hbytes⟩ := h
  have hend := hbytes.1
  simp only [List.length_append, List.length_singleton] at hend
  rw [u32_whole hslot (by omega)]
  exact Image.cstring?_eq hnul (by simp only [headerSize] at hhead; omega) hbytes
    (by rw [make_size_limit]; omega)

/-! ## The header and the tables -/

section Finished

variable {buf : ByteArray} {xs : List (EntryDef × Nat)} {fs : List (String × String)} {ns : String}
  {dir nAttrs attrsAt : Nat}

theorem Finished.header_le (hf : Finished buf xs fs ns dir nAttrs attrsAt) :
    headerSize ≤ buf.size := by
  have := hf.slots.after
  have := hf.dirFits
  have := hf.attrsFit
  omega

theorem blobSizeTable_lt : ∀ i (h : i < blobSizeTable.length), blobSizeTable[i] < 2 ^ 16 := by
  decide

theorem checkHeader_finished (hf : Finished buf xs fs ns dir nAttrs attrsAt)
    (hbig : buf.size < 2 ^ 32) : checkHeader buf = .ok buf.size := by
  have hsize := hf.header_le
  have hread : ∀ {off v w}, BytesAt buf off (leBytes v w) → off + w ≤ headerSize →
      (Image.make buf headerSize).read off w = v % 256 ^ w := fun h hl =>
    Image.read_leBytes h (by simp only [Image.make]; omega)
  have hmagic : ((List.range 16).any fun i => byteAt buf i != (magic.getD i 0).toNat) = false := by
    rw [List.any_eq_false]
    intro i hi
    have hi' : i < magic.length := by simpa [magic] using hi
    have := hf.magic.2 i hi'
    simp only [Nat.zero_add] at this
    simp [this, List.getElem?_eq_getElem hi']
  have hmajor : (Image.make buf headerSize).u8 hdrMajor = majorVersion :=
    hread hf.major (by decide)
  have hdeclared : (Image.make buf headerSize).u32 hdrSize = buf.size := by
    rw [Image.u32, hread hf.size (by decide)]
    exact Nat.mod_eq_of_lt hbig
  have hblob : ∀ x ∈ blobSizeTable.zipIdx,
      (Image.make buf headerSize).u16 (hdrBlobSizes + x.2 * 2) = x.1 := by
    rintro ⟨want, i⟩ hmem
    obtain ⟨hi, hwant⟩ := List.mem_zipIdx' hmem
    rw [hwant]
    have hend : hdrBlobSizes + i * 2 + 2 ≤ headerSize := by
      rw [blobSizeTable_length] at hi
      simp only [hdrBlobSizes, headerSize]
      omega
    simp only [Image.u16]
    rw [hread (hf.blobSizes i hi) hend, Nat.mod_eq_of_lt (blobSizeTable_lt i hi)]
  simp only [checkHeader, Nat.not_lt.2 hsize, hmagic, hmajor, hdeclared, ↓reduceIte]
  rw [List.find?_eq_none.2 (by
    rintro ⟨want, i⟩ hmem
    simp [hblob _ hmem])]
  simp
  rfl

theorem Finished.read_counts (hf : Finished buf xs fs ns dir nAttrs attrsAt)
    (hbig : buf.size < 2 ^ 32) (hcount : xs.length + fs.length < 2 ^ 16) :
    (Image.make buf buf.size).u16 hdrNEntries = xs.length + fs.length ∧
      (Image.make buf buf.size).u16 hdrNLocalEntries = xs.length ∧
      (Image.make buf buf.size).u32 hdrDirectory = dir := by
  have hdirEnd := hf.dirFits
  have hattrsEnd := hf.attrsFit
  exact ⟨u16_whole hf.nEntries hcount, u16_whole hf.nLocal (by omega),
    u32_whole hf.directory (by omega)⟩

theorem checkTables_finished (hf : Finished buf xs fs ns dir nAttrs attrsAt)
    (hbig : buf.size < 2 ^ 32) (hcount : xs.length + fs.length < 2 ^ 16) (hns : ns ≠ "")
    (hnul : '\x00' ∉ ns.toList) :
    checkTables (Image.make buf buf.size) = .ok ns := by
  have hdirEnd := hf.dirFits
  have hattrsEnd := hf.attrsFit
  simp only [entryBlobSize, attributeBlobSize] at hdirEnd hattrsEnd
  obtain ⟨hnEntries, hnLocal, hdir⟩ := hf.read_counts hbig hcount
  have hnAttrs : (Image.make buf buf.size).u32 hdrNAttributes = nAttrs :=
    u32_whole hf.nAttributes (by omega)
  have hattrs : (Image.make buf buf.size).u32 hdrAttributes = attrsAt :=
    u32_whole hf.attributes (by omega)
  have hdirCheck : (Image.make buf buf.size).check "directory" dir
      ((xs.length + fs.length) * entryBlobSize) = none := by
    rw [check_eq_none, make_size_limit]
    simp only [entryBlobSize]
    omega
  have hattrsCheck : (Image.make buf buf.size).check "attributes" attrsAt
      (nAttrs * attributeBlobSize % 2 ^ 32) = none := by
    rw [check_eq_none, make_size_limit]
    have := Nat.mod_le (nAttrs * attributeBlobSize) (2 ^ 32)
    simp only [attributeBlobSize] at this ⊢
    omega
  have hname := hf.namespace_.read_eq hns hnul hbig
  have hafter := hf.slots.after
  simp only [checkTables, hnEntries, hnLocal, hdir, hnAttrs, hattrs, hdirCheck, hattrsCheck, hname,
    Nat.not_lt.2 (Nat.le_add_right xs.length fs.length), Nat.not_lt.2 hafter]
  simp [hns]
  rfl

/-! ## The directory -/

theorem blobType_code_le (ent : EntryDef) : ent.blobType.code ≤ 11 := by
  cases ent with
  | enum d => cases h : d.isFlags <;> simp [EntryDef.blobType, BlobType.enum, BlobType.flags, h]
  | struct d => cases h : d.boxed <;> simp [EntryDef.blobType, BlobType.struct, BlobType.boxed, h]
  | _ => simp [EntryDef.blobType, BlobType.function, BlobType.callback, BlobType.union,
      BlobType.object, BlobType.interface, BlobType.constant]

theorem blobType_valid (ent : EntryDef) :
    BlobType.valid ⟨ent.blobType.code⟩ = true ∧
      BlobType.minBlobSize ⟨ent.blobType.code⟩ ≤ entrySize ent := by
  cases ent with
  | enum d =>
      cases h : d.isFlags <;> simp [EntryDef.blobType, BlobType.enum, BlobType.flags, BlobType.valid,
        BlobType.minBlobSize, entrySize, enumBlobSize, h] <;> omega
  | struct d =>
      cases h : d.boxed <;> simp [EntryDef.blobType, BlobType.struct, BlobType.boxed, BlobType.valid,
        BlobType.minBlobSize, entrySize, structBlobSize, h] <;> omega
  | union d => simp [EntryDef.blobType, BlobType.union, BlobType.valid, BlobType.minBlobSize,
      entrySize, unionBlobSize]; omega
  | object d => simp [EntryDef.blobType, BlobType.object, BlobType.valid, BlobType.minBlobSize,
      entrySize, objectBlobSize]; omega
  | interface d => simp [EntryDef.blobType, BlobType.interface, BlobType.valid,
      BlobType.minBlobSize, entrySize, interfaceBlobSize]; omega
  | _ => simp [EntryDef.blobType, BlobType.function, BlobType.callback, BlobType.constant,
      BlobType.valid, BlobType.minBlobSize, entrySize, functionBlobSize, callbackBlobSize,
      constantBlobSize]

theorem slot_of_index {i : Nat} (h1 : 1 ≤ i) (h2 : i < 2 ^ 16) :
    (i + 65535) % 65536 * entryBlobSize = entryBlobSize * (i - 1) := by
  have hwrap : (i + 65535) % 65536 = i - 1 := by omega
  rw [hwrap, Nat.mul_comm]

theorem checkEntry_local (hf : Finished buf xs fs ns dir nAttrs attrsAt)
    (hbig : buf.size < 2 ^ 32) (hcount : xs.length + fs.length < 2 ^ 16)
    (hnames : ∀ p ∈ xs, p.1.name ≠ "") {i : Nat} (h1 : 1 ≤ i) (hi : i ≤ xs.length) :
    ∃ name, checkEntry (Image.make buf buf.size) dir xs.length i = .ok name := by
  have hk : i - 1 < xs.length := by omega
  obtain ⟨hcode, hflag, hname, hoff⟩ := hf.slots.locals (i - 1) hk
  obtain ⟨hhead, hend, hblob⟩ := hf.slots.blobs xs[i - 1] (List.getElem_mem hk)
  obtain ⟨hvalid, hmin⟩ := blobType_valid xs[i - 1].1
  have hcodeLt : xs[i - 1].1.blobType.code < 2 ^ 16 := by
    have := blobType_code_le xs[i - 1].1
    omega
  have hdirEnd := hf.dirFits
  have hattrsEnd := hf.attrsFit
  have hbt : (Image.make buf buf.size).u16 (dir + entryBlobSize * (i - 1)) =
      xs[i - 1].1.blobType.code := u16_whole hcode hcodeLt
  have hlocal : (Image.make buf buf.size).u16 (dir + entryBlobSize * (i - 1) + 2) = 1 :=
    u16_whole hflag (by decide)
  have hoffr : (Image.make buf buf.size).u32 (dir + entryBlobSize * (i - 1) + 8) = xs[i - 1].2 :=
    u32_whole hoff (by omega)
  have hbtBlob : (Image.make buf buf.size).u16 xs[i - 1].2 = xs[i - 1].1.blobType.code :=
    u16_whole hblob hcodeLt
  have hcheck : ∀ part, (Image.make buf buf.size).check part xs[i - 1].2
      (BlobType.minBlobSize ⟨xs[i - 1].1.blobType.code⟩) = none := by
    intro part
    rw [check_eq_none, make_size_limit]
    omega
  obtain ⟨name, hn⟩ := Option.isSome_iff_exists.1
    (by simpa [Image.cstring?] using hname.read_isSome (hnames _ (List.getElem_mem hk)) hbig)
  refine ⟨name, ?_⟩
  simp only [checkEntry, slot_of_index h1 (by omega), hbt, hlocal, hoffr, hbtBlob, hn, hcheck,
    hvalid, hi, Nat.not_lt.2 hhead]
  simp [BlobType.sameBlob]

theorem checkEntry_foreign (hf : Finished buf xs fs ns dir nAttrs attrsAt)
    (hbig : buf.size < 2 ^ 32) (hcount : xs.length + fs.length < 2 ^ 16)
    (hfs : ∀ f ∈ fs, f.1 ≠ "" ∧ f.2 ≠ "") {i : Nat} (hlo : xs.length < i)
    (hi : i ≤ xs.length + fs.length) :
    ∃ name, checkEntry (Image.make buf buf.size) dir xs.length i = .ok name := by
  have hj : i - 1 - xs.length < fs.length := by omega
  obtain ⟨hflag, hname, hspace⟩ := hf.slots.foreign (i - 1 - xs.length) hj
  have hpos : xs.length + (i - 1 - xs.length) = i - 1 := by omega
  rw [hpos] at hflag hname hspace
  obtain ⟨hspace₀, hname₀⟩ := hfs _ (List.getElem_mem hj)
  have hlocal : (Image.make buf buf.size).u16 (dir + entryBlobSize * (i - 1) + 2) = 0 :=
    u16_whole hflag (by decide)
  obtain ⟨name, hn⟩ := Option.isSome_iff_exists.1
    (by simpa [Image.cstring?] using hname.read_isSome hname₀ hbig)
  obtain ⟨space, hs⟩ := Option.isSome_iff_exists.1 (hspace.read_isSome hspace₀ hbig)
  have hslot : (i + 65535) % 65536 * entryBlobSize = entryBlobSize * (i - 1) :=
    slot_of_index (by omega) (by omega)
  refine ⟨name, ?_⟩
  simp only [checkEntry, hslot, hlocal, hn, hs, Nat.not_le.2 hlo]
  simp

end Finished

theorem go_ok_of_pass {r : Image} {d n l : Nat} (hn : n < 65535)
    (hpass : ∀ i, 1 ≤ i → i ≤ n → ∃ name, checkEntry r d l i = .ok name) :
    ∀ (fuel i : Nat) (p : String) (s : Bool), 1 ≤ i → i ≤ n + 1 → n + 1 - i < fuel →
      ∃ s', validateDirectory.go r d n l i p s fuel = .ok s' := by
  intro fuel
  induction fuel with
  | zero => intro i p s _ _ h; omega
  | succ fuel ih =>
      intro i p s h1 h2 hf
      by_cases hi : n < i
      · exact ⟨s, go_past hi p s fuel⟩
      · obtain ⟨name, hc⟩ := hpass i h1 (by omega)
        obtain ⟨p', s', hgo⟩ := go_pass (Nat.le_of_not_lt hi) hc p s fuel
        have hnext : nextIndex i = i + 1 := Nat.mod_eq_of_lt (by omega)
        rw [hgo, hnext]
        exact ih _ _ _ (by omega) (by omega) (by omega)

theorem buildIndexes_namespace (t : Typelib) (m : Nat → List Nat) :
    (buildIndexes t m).namespace_ = t.namespace_ := by
  simp [buildIndexes]

theorem load_finished {buf : ByteArray} {xs : List (EntryDef × Nat)} {fs : List (String × String)}
    {ns : String} {dir nAttrs attrsAt : Nat} (hf : Finished buf xs fs ns dir nAttrs attrsAt)
    (hbig : buf.size < 2 ^ 32) (hcount : xs.length + fs.length < 65535) (hns : ns ≠ "")
    (hnul : '\x00' ∉ ns.toList) (hnames : ∀ p ∈ xs, p.1.name ≠ "")
    (hfs : ∀ f ∈ fs, f.1 ≠ "" ∧ f.2 ≠ "") :
    ∃ t, load buf = .ok t ∧ t.namespace_ = ns ∧ t.nLocal = xs.length ∧
      t.nEntries = xs.length + fs.length := by
  have hh := checkHeader_finished hf hbig
  have ht := checkTables_finished hf hbig (by omega) hns hnul
  obtain ⟨hnEntries, hnLocal, hdir⟩ := hf.read_counts hbig (by omega)
  have hpass : ∀ i, 1 ≤ i → i ≤ xs.length + fs.length →
      ∃ name, checkEntry (Image.make buf buf.size) dir xs.length i = .ok name := by
    intro i h1 hi
    by_cases hl : i ≤ xs.length
    · exact checkEntry_local hf hbig (by omega) hnames h1 hl
    · exact checkEntry_foreign hf hbig (by omega) hfs (Nat.lt_of_not_le hl) hi
  obtain ⟨sorted, hwalk⟩ := go_ok_of_pass hcount hpass walkSteps 1 "" true (Nat.le_refl 1)
    (by omega) (by unfold walkSteps; omega)
  have hwalk' : validateDirectory (Image.make buf buf.size) dir (xs.length + fs.length)
      xs.length = .ok sorted := hwalk
  cases hl : load buf with
  | error e =>
      simp only [load, loadWith, hh, ht, hnEntries, hnLocal, hdir, hwalk', bind, Except.bind] at hl
      cases hl
  | ok t =>
      simp only [load, loadWith, hh, ht, hnEntries, hnLocal, hdir, hwalk', bind, Except.bind] at hl
      cases hl
      obtain ⟨-, -, hent, hloc⟩ := buildIndexes_fields _ _
      exact ⟨_, rfl, buildIndexes_namespace _ _, hloc, hent⟩

/-- An image the builder gives loads, with the namespace and the counts it was built with, when
the namespace's name is not empty and holds no NUL, every foreign entry has a namespace and a
name, there are fewer than 65535 entries in all and the image is smaller than `2 ^ 32` bytes. -/
theorem build_loads {d : NamespaceDef} {bytes : ByteArray} (h : build d = .ok bytes)
    (hname : d.name ≠ "") (hnul : '\x00' ∉ d.name.toList)
    (hforeign : ∀ f ∈ foreignEntries d, f.1 ≠ "" ∧ f.2 ≠ "")
    (hcount : (sortedEntries d).length + (foreignEntries d).length < 65535)
    (hsize : bytes.size < 2 ^ 32) :
    ∃ t, load bytes = .ok t ∧ t.namespace_ = d.name ∧ t.nLocal = (sortedEntries d).length ∧
      t.nEntries = (sortedEntries d).length + (foreignEntries d).length := by
  obtain ⟨-, hnames, -, -⟩ := build_ok_run h
  obtain ⟨-, -, -, hplaced⟩ := bodyState_placed hnames
  have hlen : ((sortedEntries d).zip (bodyState d).1).length = (sortedEntries d).length := by
    rw [List.length_zip, hplaced.1, Nat.min_self]
  have hlocal : ∀ p ∈ (sortedEntries d).zip (bodyState d).1, p.1.name ≠ "" := fun p hp =>
    ((checkEntryNames_ok hnames).1 p.1 (List.of_mem_zip hp).1).1
  obtain ⟨dir, nAttrs, attrsAt, hf⟩ := build_finished h
  obtain ⟨t, hl, hns, hloc, hent⟩ :=
    load_finished hf hsize (by rwa [hlen]) hname hnul hlocal hforeign
  exact ⟨t, hl, hns, by rw [hloc, hlen], by rw [hent, hlen]⟩

/-- A namespace with a name and no entries builds an image that loads. -/
theorem named_namespace_loads :
    ∃ bytes t, build { name := "N" } = .ok bytes ∧ load bytes = .ok t ∧ t.namespace_ = "N" := by
  have hsize : (build { name := "N" }).toOption.map ByteArray.size = some 114 := by
    decide +kernel
  have hforeign : foreignEntries { name := "N" } = [] := by decide +kernel
  cases hb : build { name := "N" } with
  | error e =>
      rw [hb] at hsize
      cases hsize
  | ok bytes =>
      rw [hb] at hsize
      simp only [Except.toOption, Option.map_some, Option.some.injEq] at hsize
      obtain ⟨t, hl, hns, -, -⟩ := build_loads hb (by decide) (by decide)
        (by simp [hforeign]) (by simp [sortedEntries, hforeign]) (by rw [hsize]; decide)
      exact ⟨bytes, t, rfl, hl, hns⟩

/-- A namespace without a name builds, and its image does not load: its namespace slot is
zero. -/
theorem nameless_namespace_refused :
    ∃ bytes, build { version := "1.0" } = .ok bytes ∧ ∃ e, load bytes = .error e ∧
      e.text = "[load] malformed_typelib: missing namespace string" := by
  have hrun : (build { version := "1.0" }).toOption.map (fun b =>
      match load b with
      | .error e => some e.text
      | .ok _ => none) = some (some "[load] malformed_typelib: missing namespace string") := by
    decide +kernel
  cases hb : build { version := "1.0" } with
  | error e =>
      rw [hb] at hrun
      cases hrun
  | ok bytes =>
      rw [hb] at hrun
      simp only [Except.toOption, Option.map_some, Option.some.injEq] at hrun
      cases hl : load bytes with
      | error e =>
          rw [hl] at hrun
          exact ⟨bytes, rfl, e, hl, Option.some.inj hrun⟩
      | ok t =>
          rw [hl] at hrun
          cases hrun

end Introspection.Typelib
