import Mathlib
import Introspection.Proofs.Layout.Written
import Introspection.Proofs.Image.Acceptance

/-!
# Reading layouts back

The loader reads a struct's or union's size from its fourth word, its alignment from six bits of
its flag word, and finds its fields by walking their blobs, each sixteen bytes and twelve more
when a callback's blob follows; a field's offset is the word six bytes into its blob. For the
image of a description these read what the writer computed, so a compound whose natural layout
fits 32 bits reads back that layout, and its alignment reads back modulo 64 in every case.
-/

namespace Introspection.Typelib

open Emitter Emit

/-! ## Runs of member blobs -/

/-- Where the members of a run start: at `L`, then past each member in turn. -/
def Atom.starts {γ : Type} (size : γ → Nat) : Nat → List γ → List Nat
  | _, [] => []
  | L, x :: xs => L :: starts size (L + size x) xs

namespace Atom

variable {γ δ : Type}

@[simp] theorem length_starts (size : γ → Nat) (L : Nat) (xs : List γ) :
    (starts size L xs).length = xs.length := by
  induction xs generalizing L with
  | nil => rfl
  | cons x xs ih => simp [starts, ih]

theorem starts_map (size : δ → Nat) (f : γ → δ) (L : Nat) (xs : List γ) :
    starts size L (xs.map f) = starts (fun x => size (f x)) L xs := by
  induction xs generalizing L with
  | nil => rfl
  | cons x xs ih => simp [starts, ih]

theorem le_of_mem_starts {size : γ → Nat} {L q : Nat} {xs : List γ}
    (hq : q ∈ starts size L xs) : L ≤ q := by
  induction xs generalizing L with
  | nil => cases hq
  | cons x xs ih =>
      rcases List.mem_cons.1 hq with rfl | hq
      · exact Nat.le_refl _
      · exact Nat.le_trans (Nat.le_add_right _ _) (ih hq)

theorem mem_run {atoms : Nat → γ → List Atom} {size : γ → Nat} {L : Nat} {xs : List γ}
    {p : Nat × γ} (hp : p ∈ (starts size L xs).zip xs) {a : Atom} (ha : a ∈ atoms p.1 p.2) :
    a ∈ run atoms size L xs := by
  induction xs generalizing L with
  | nil => cases hp
  | cons x xs ih =>
      simp only [starts, List.zip_cons_cons, List.mem_cons] at hp
      simp only [run, List.mem_append]
      rcases hp with rfl | hp
      · exact .inl ha
      · exact .inr (ih hp)

end Atom

/-! ## Walking field blobs -/

theorem fieldFlags_embedded (f : FieldDef) :
    (fieldFlags f / 4 % 2 == 1) = f.callback.isSome := by
  unfold fieldFlags
  cases f.readable <;> cases f.writable <;> cases f.callback.isSome <;> decide

theorem fieldFlags_lt (f : FieldDef) : fieldFlags f < 8 := by
  unfold fieldFlags
  cases f.readable <;> cases f.writable <;> cases f.callback.isSome <;> decide

theorem walkFields_starts (t : Typelib) (F : Nat) (fs : List FieldDef)
    (hflags : ∀ p ∈ (Atom.starts fieldSize F fs).zip fs, t.u8 (p.1 + 4) = fieldFlags p.2)
    (hsize : F + fieldsSize fs ≤ t.size) :
    t.walkFields F fs.length = (Atom.starts fieldSize F fs, F + fieldsSize fs) := by
  induction fs generalizing F with
  | nil => simp [Typelib.walkFields, Atom.starts, fieldsSize]
  | cons f fs ih =>
      have hf : t.u8 (F + 4) = fieldFlags f := hflags (F, f) (by simp [Atom.starts])
      have hsz : fieldsSize (f :: fs) = fieldSize f + fieldsSize fs := by
        simp [fieldsSize]
      have hpos : 16 ≤ fieldSize f := by
        unfold fieldSize
        omega
      have hrest := ih (F + fieldSize f)
        (fun p hp => hflags p (by simp only [Atom.starts, List.zip_cons_cons]; exact .tail _ hp))
        (by omega)
      have hnext : F + fieldBlobSize +
          (if (t.u8 (F + 4) / 4 % 2 == 1) = true then callbackBlobSize else 0) =
          F + fieldSize f := by
        rw [hf, fieldFlags_embedded]
        simp [fieldSize, fieldBlobSize, callbackBlobSize, Nat.add_assoc]
      rw [List.length_cons, Typelib.walkFields, if_neg (by omega)]
      simp only [hnext, hrest, Atom.starts, hsz, Nat.add_assoc]

theorem entryAtoms_aggregate {x : EntryDef} {c : Compound} (hc : x.aggregate? = some c)
    (L : Nat) :
    Atom.bytes (L + 20) (leBytes c.fields.length 2) ∈ entryAtoms L x ∧
      ∀ a ∈ fieldsAtoms (c.fieldsAt L) c.fields, a ∈ entryAtoms L x := by
  cases x with
  | struct d =>
      obtain rfl := Option.some.inj hc.symm
      refine ⟨by simp [entryAtoms], fun a ha => ?_⟩
      simp only [entryAtoms, List.mem_append]
      exact .inl (.inr ha)
  | union d =>
      obtain rfl := Option.some.inj hc.symm
      refine ⟨by simp [entryAtoms], fun a ha => ?_⟩
      simp only [entryAtoms, List.mem_append]
      exact .inl (.inl (.inr ha))
  | _ => simp [EntryDef.aggregate?] at hc

theorem members_fields {t : Typelib} {x : EntryDef} {c : Compound} (hc : x.aggregate? = some c)
    {off : Nat} (hcode : t.u16 off = x.blobType.code) :
    (t.members off).fields = (t.walkFields (c.fieldsAt off) (t.u16 (off + 20))).1 := by
  cases x with
  | struct d =>
      obtain rfl := Option.some.inj hc.symm
      cases hb : d.boxed <;>
        simp [Typelib.members, hcode, hb, EntryDef.blobType, BlobType.struct, BlobType.boxed,
          Compound.fieldsAt, structBlobSize]
  | union d =>
      obtain rfl := Option.some.inj hc.symm
      simp [Typelib.members, hcode, EntryDef.blobType, BlobType.union, Compound.fieldsAt,
        unionBlobSize]
  | _ => simp [EntryDef.aggregate?] at hc

theorem fieldsAt_add_le {x : EntryDef} {c : Compound} (hc : x.aggregate? = some c) (L : Nat) :
    c.fieldsAt L + fieldsSize c.fields ≤ L + entrySize x := by
  cases x with
  | struct d =>
      obtain rfl := Option.some.inj hc.symm
      simp only [Compound.fieldsAt, entrySize, Bool.false_eq_true, if_false]
      omega
  | union d =>
      obtain rfl := Option.some.inj hc.symm
      simp only [Compound.fieldsAt, entrySize, if_true]
      omega
  | _ => simp [EntryDef.aggregate?] at hc

theorem map_starts_read {γ : Type} {ys : List Nat} {xs : List γ} {g : Nat → Nat} {offs : List Nat}
    (hlen : ys.length = xs.length) (h : ∀ p ∈ ys.zip xs.zipIdx, g p.1 = offs.getD p.2.2 0) :
    ys.map g = (List.range xs.length).map fun i => offs.getD i 0 := by
  refine List.ext_getElem (by simp [hlen]) fun i h₁ h₂ => ?_
  have hi : i < (ys.zip xs.zipIdx).length := by simp at h₁ ⊢; omega
  have hmem := h _ (List.getElem_mem hi)
  simp only [List.getElem_zip, List.getElem_zipIdx, Nat.zero_add] at hmem
  simpa using hmem

theorem range_map_getD {offs : List Nat} {n : Nat} (h : offs.length = n) :
    (List.range n).map (fun i => offs.getD i 0) = offs := by
  subst h
  exact List.ext_getElem (by simp) fun i _ h => by simp [List.getElem?_eq_getElem h]

/-! ## The image of a description -/

theorem build_keeps {d : NamespaceDef} {bytes : ByteArray} (h : build d = .ok bytes) {off : Nat}
    {bs : List UInt8} (hoff : headerSize ≤ off) (hfix : Fixed (bodyState d).2 off bs) :
    BytesAt bytes off bs := by
  obtain ⟨-, hnames, -, hbytes⟩ := build_ok_run h
  obtain ⟨wf, -, hzero, hplaced⟩ := bodyState_placed hnames
  rw [hbytes]
  exact (Emit.tail_finished d _ _ _ wf hzero hplaced).2 off bs hoff hfix

theorem built_image_loads {d : NamespaceDef} {bytes : ByteArray} (h : build d = .ok bytes)
    (hname : d.name ≠ "") (hnul : '\x00' ∉ d.name.toList) (hforeign : foreignEntries d = [])
    (hcount : (sortedEntries d).length < 65535) (hbig : bytes.size < 2 ^ 32) :
    ∃ t, load bytes = .ok t := by
  obtain ⟨-, hnames, -, -⟩ := build_ok_run h
  obtain ⟨-, -, -, hplaced⟩ := bodyState_placed hnames
  obtain ⟨dir, nAttrs, attrsAt, hf⟩ := build_finished h
  have hlocal : ∀ p ∈ (sortedEntries d).zip (bodyState d).1, p.1.name ≠ "" := fun p hp =>
    ((checkEntryNames_ok hnames).1 p.1 (List.of_mem_zip hp).1).1
  obtain ⟨t, hl, -⟩ := load_finished hf hbig
    (by simp [List.length_zip, hplaced.1, hforeign, hcount]) hname hnul hlocal (by simp [hforeign])
  exact ⟨t, hl⟩

section Loaded

variable {d : NamespaceDef} {bytes : ByteArray} {t : Typelib}

theorem loaded_image (h : build d = .ok bytes) (hbig : bytes.size < 2 ^ 32)
    (hload : load bytes = .ok t) : t.image = Image.make bytes bytes.size := by
  obtain ⟨size, -, -, hh, -, -, himage, -⟩ := loadWith_ok hload
  obtain ⟨dir, nAttrs, attrsAt, hf⟩ := build_finished h
  rw [checkHeader_finished hf hbig] at hh
  cases hh
  exact himage

theorem loaded_read (h : build d = .ok bytes) (hbig : bytes.size < 2 ^ 32)
    (hload : load bytes = .ok t) {pos v w : Nat} (hpos : headerSize ≤ pos)
    (hfix : Fixed (bodyState d).2 pos (leBytes v w)) : t.image.read pos w = v % 256 ^ w := by
  rw [loaded_image h hbig hload]
  exact read_whole (build_keeps h hpos hfix)

theorem loaded_entryAt (h : build d = .ok bytes) (hbig : bytes.size < 2 ^ 32)
    (hcount : (sortedEntries d).length + (foreignEntries d).length < 2 ^ 16)
    (hload : load bytes = .ok t) {i : Nat}
    (hi : i < ((sortedEntries d).zip (bodyState d).1).length) :
    ∃ de, t.entryAt? (i + 1) = some de ∧
      de.offset = ((sortedEntries d).zip (bodyState d).1)[i].2 := by
  obtain ⟨dir, nAttrs, attrsAt, hf⟩ := build_finished h
  obtain ⟨size, -, -, hh, -, -, himage, hdir, hnEntries, -⟩ := loadWith_ok hload
  rw [checkHeader_finished hf hbig] at hh
  cases hh
  have hle : ((sortedEntries d).zip (bodyState d).1).length ≤ (sortedEntries d).length := by
    simp [List.length_zip]
  obtain ⟨hnE, -, hdirE⟩ := hf.read_counts hbig (by omega)
  obtain ⟨-, hflag, -, hoff⟩ := hf.slots.locals i hi
  obtain ⟨-, hend, -⟩ := hf.slots.blobs _ (List.getElem_mem hi)
  have hdirEnd := hf.dirFits
  have hattrsEnd := hf.attrsFit
  have hread : ∀ off, t.u16 off = (Image.make bytes bytes.size).u16 off ∧
      t.u32 off = (Image.make bytes bytes.size).u32 off := fun off => by
    simp only [Typelib.u16, Typelib.u32, himage, and_self]
  have hslot : t.directory + (i + 1 - 1) * entryBlobSize = dir + entryBlobSize * i := by
    rw [hdir, hdirE, Nat.add_sub_cancel, Nat.mul_comm]
  have hlocal : t.u16 (dir + entryBlobSize * i + 2) = 1 := by
    rw [(hread _).1]
    exact u16_whole hflag (by norm_num)
  have hblob : t.u32 (dir + entryBlobSize * i + 8) = ((sortedEntries d).zip (bodyState d).1)[i].2 := by
    rw [(hread _).2]
    exact u32_whole hoff (by simp only [entrySize, entryBlobSize] at *; omega)
  have hin : ¬((i + 1 == 0 || i + 1 > t.nEntries) = true) := by
    rw [hnEntries, hnE]
    simp only [Bool.or_eq_true, beq_iff_eq, decide_eq_true_eq, not_or]
    omega
  refine ⟨_, by rw [Typelib.entryAt?, if_neg hin], ?_⟩
  simp only [hslot, hlocal, hblob]
  rfl

theorem loaded_field_flags (h : build d = .ok bytes) (hbig : bytes.size < 2 ^ 32)
    (hload : load bytes = .ok t) {x : EntryDef} {c : Compound} (hc : x.aggregate? = some c)
    {off : Nat} (hoff : headerSize ≤ off) (hentry : AllHold (bodyState d).2 (entryAtoms off x))
    {p : Nat × FieldDef} (hp : p ∈ (Atom.starts fieldSize (c.fieldsAt off) c.fields).zip c.fields) :
    t.u8 (p.1 + 4) = fieldFlags p.2 := by
  have hstart : off ≤ p.1 := Nat.le_trans (by simp [Compound.fieldsAt])
    (Atom.le_of_mem_starts (List.of_mem_zip hp).1)
  have hflags := hentry _ ((entryAtoms_aggregate hc off).2 _ (Atom.mem_run hp
    (show Atom.bytes (p.1 + 4) (leBytes (fieldFlags p.2) 1) ∈ fieldAtoms p.1 p.2 by
      simp [fieldAtoms])))
  rw [Typelib.u8, Image.u8, loaded_read h hbig hload (by omega) hflags]
  exact Nat.mod_eq_of_lt (by have := fieldFlags_lt p.2; omega)

theorem loaded_fields (h : build d = .ok bytes) (hbig : bytes.size < 2 ^ 32)
    (hload : load bytes = .ok t) {x : EntryDef} {c : Compound} (hc : x.aggregate? = some c)
    {off : Nat} (hoff : headerSize ≤ off) (hend : off + entrySize x ≤ bytes.size)
    (hentry : AllHold (bodyState d).2 (entryAtoms off x)) (hcount : c.fields.length < 2 ^ 16) :
    (t.members off).fields = Atom.starts fieldSize (c.fieldsAt off) c.fields := by
  have hcode : t.u16 off = x.blobType.code := by
    rw [Typelib.u16, Image.u16, loaded_read h hbig hload hoff (hentry _ (entryAtoms_type off x))]
    exact Nat.mod_eq_of_lt (by have := blobType_code_le x; omega)
  have hn : t.u16 (off + 20) = c.fields.length := by
    rw [Typelib.u16, Image.u16, loaded_read h hbig hload (by omega)
      (hentry _ (entryAtoms_aggregate hc off).1)]
    exact Nat.mod_eq_of_lt (by norm_num; omega)
  have hsize : t.size = bytes.size := by
    rw [Typelib.size, loaded_image h hbig hload, make_size_limit]
  rw [members_fields hc hcode, hn, walkFields_starts]
  · exact fun p hp => loaded_field_flags h hbig hload hc hoff hentry hp
  · rw [hsize]
    exact Nat.le_trans (fieldsAt_add_le hc off) hend

theorem loaded_layout (h : build d = .ok bytes) (hbig : bytes.size < 2 ^ 32)
    (hload : load bytes = .ok t) {x : EntryDef} {c : Compound} (hc : x.aggregate? = some c)
    {off : Nat} {l : Layout} (hoff : headerSize ≤ off) (hend : off + entrySize x ≤ bytes.size)
    (hentry : AllHold (bodyState d).2 (entryAtoms off x))
    (hlayout : AllHold (bodyState d).2 (layoutAtoms c l off)) (hcount : c.fields.length < 2 ^ 16) :
    t.u16 (off + 2) / 8 % 64 = l.align % 64 ∧ t.u32 (off + 16) = l.size % 2 ^ 32 ∧
      (t.members off).fields.map (fun q => t.u16 (q + 6)) =
        (List.range c.fields.length).map fun i => l.offsets.getD i 0 := by
  obtain ⟨-, -, hnone, -⟩ := build_ok_run h
  simp only [layoutAtoms, AllHold.append_iff, AllHold.cons_iff, AllHold.nil, and_true] at hlayout
  obtain ⟨⟨⟨v, hv, hflags⟩, hsize⟩, hoffs⟩ := hlayout
  refine ⟨?_, ?_, ?_⟩
  ·
    rw [Typelib.u16, Image.u16, loaded_read h hbig hload (by omega) hv]
    have : v % 256 ^ 2 / 8 % 64 = v / 8 % 64 := by omega
    rw [this, hflags]
  · rw [Typelib.u32, Image.u32, loaded_read h hbig hload (by omega) hsize,
      show (256 : Nat) ^ 4 = 2 ^ 32 by norm_num]
  · rw [loaded_fields h hbig hload hc hoff hend hentry hcount]
    have hstarts : Atom.starts (fun x => fieldSize x.1) (c.fieldsAt off) c.fields.zipIdx =
        Atom.starts fieldSize (c.fieldsAt off) c.fields := by
      rw [← Atom.starts_map, List.zipIdx_map_fst]
    refine map_starts_read (by simp) fun p hp => ?_
    rw [← hstarts] at hp
    have hstart : off ≤ p.1 := Nat.le_trans (by simp [Compound.fieldsAt])
      (Atom.le_of_mem_starts (List.of_mem_zip hp).1)
    have hcheck := hoffs _ (Atom.mem_run hp
      (show Atom.check (l.offsets.getD p.2.2 0 ≤ 65535) ∈ _ from List.mem_cons_self))
    have hword := hoffs _ (Atom.mem_run hp
      (show Atom.bytes (p.1 + 6) (leBytes (l.offsets.getD p.2.2 0) 2) ∈ _ by simp))
    rw [Typelib.u16, Image.u16, loaded_read h hbig hload (by omega) hword]
    exact Nat.mod_eq_of_lt (by have := hcheck hnone; omega)

theorem loaded_blob (h : build d = .ok bytes) (hbig : bytes.size < 2 ^ 32)
    (hcount : (sortedEntries d).length + (foreignEntries d).length < 2 ^ 16)
    (hload : load bytes = .ok t) {i : Nat} (hi : i < (sortedEntries d).length) :
    ∃ de, t.entryAt? (i + 1) = some de ∧ headerSize ≤ de.offset ∧
      de.offset + entrySize (sortedEntries d)[i] ≤ bytes.size ∧
      AllHold (bodyState d).2 (entryAtoms de.offset (sortedEntries d)[i]) ∧
      ShowsLayout (bodyState d).2 (sortedEntries d)[i] de.offset := by
  obtain ⟨-, hnames, -, -⟩ := build_ok_run h
  obtain ⟨-, -, -, hplaced⟩ := bodyState_placed hnames
  obtain ⟨dir, nAttrs, attrsAt, hf⟩ := build_finished h
  have hi' : i < ((sortedEntries d).zip (bodyState d).1).length := by
    simp [List.length_zip, hplaced.1, hi]
  have hp := List.getElem_mem hi'
  have hfst : ((sortedEntries d).zip (bodyState d).1)[i].1 = (sortedEntries d)[i] := by simp
  obtain ⟨de, hde, hoff⟩ := loaded_entryAt h hbig hcount hload hi'
  obtain ⟨hhead, -, hentry⟩ := hplaced.2 _ hp
  have hend := (hf.slots.blobs _ hp).2.1
  have hdir := hf.dirFits
  have hattrs := hf.attrsFit
  have hshows := bodyState_laidOut hnames _ hp
  rw [hfst] at hentry hend hshows
  refine ⟨de, hde, ?_, ?_, ?_, ?_⟩ <;> rw [hoff]
  · exact hhead
  · omega
  · exact hentry
  · exact hshows

/-- The environment the layouts of a description are computed in: its namespace, its pointer
size and its entries by name. -/
def NamespaceDef.layoutEnv (d : NamespaceDef) : LayoutEnv :=
  ⟨d.name, d.pointerSize, (sortedEntries d).map fun e => (e.name, e)⟩

/-- Every struct or union of a description reads back from its image, when the directory and its
field count fit 16 bits: the alignment of its natural layout modulo 64 and, when its natural size
fits 32 bits, that size and the offset of each field. A compound with an explicit layout reads
back the one it declares. -/
theorem natural_layout_read_back (h : build d = .ok bytes) (hbig : bytes.size < 2 ^ 32)
    (hcount : (sortedEntries d).length + (foreignEntries d).length < 2 ^ 16)
    (hload : load bytes = .ok t) {i : Nat} (hi : i < (sortedEntries d).length) {c : Compound}
    (hc : (sortedEntries d)[i].aggregate? = some c) (hfields : c.fields.length < 2 ^ 16)
    {L : Layout} (hL : CompoundLaid d.layoutEnv c L) :
    ∃ de, t.entryAt? (i + 1) = some de ∧ t.u16 (de.offset + 2) / 8 % 64 = L.align % 64 ∧
      (Fits L.size L.align → t.u32 (de.offset + 16) = L.size ∧
        (t.members de.offset).fields.map (fun q => t.u16 (q + 6)) = L.offsets) := by
  obtain ⟨-, hnames, hnone, -⟩ := build_ok_run h
  obtain ⟨-, hext, -, -⟩ := bodyState_placed hnames
  obtain ⟨de, hde, hhead, hend, hentry, hshows⟩ := loaded_blob h hbig hcount hload hi
  obtain ⟨l, hagree, hlayout⟩ := hshows c hc
  have hlL : l.Agrees L := hagree hnone L (by rw [hext.layoutEnv]; exact hL)
  obtain ⟨halign, hsize, hoffs⟩ :=
    loaded_layout h hbig hload hc hhead hend hentry hlayout hfields
  refine ⟨de, hde, by rw [halign, hlL.1], fun hfits => ?_⟩
  obtain rfl := hlL.2 hfits
  have hlt : l.size < 2 ^ 32 := by
    unfold Fits at hfits
    omega
  exact ⟨by rw [hsize, Nat.mod_eq_of_lt hlt], by rw [hoffs, range_map_getD hL.length_offsets]⟩

end Loaded

/-- A struct of a byte and then a 32-bit integer. -/
def paddedPair : StructDef :=
  { name := "S",
    fields := [{ name := "a", type := { tag := .int8 } }, { name := "b", type := { tag := .int32 } }] }

set_option maxRecDepth 100000 in
/-- The image of a namespace holding `paddedPair` reads back its natural layout: the integer
past three bytes of padding, eight bytes in all, aligned to four. -/
theorem paddedPair_reads_back :
    ∃ bytes t, build { name := "N", entries := [.struct paddedPair] } = .ok bytes ∧
      load bytes = .ok t ∧ ∃ de, t.entryAt? 1 = some de ∧ t.u16 (de.offset + 2) / 8 % 64 = 4 ∧
        t.u32 (de.offset + 16) = 8 ∧
        (t.members de.offset).fields.map (fun q => t.u16 (q + 6)) = [0, 4] := by
  obtain ⟨hsize, hforeign⟩ : (build { name := "N", entries := [.struct paddedPair] }).toOption.map
      ByteArray.size = some 196 ∧ foreignEntries { name := "N", entries := [.struct paddedPair] } = [] := by
    cbv
  have hsorted : sortedEntries { name := "N", entries := [.struct paddedPair] } =
      [.struct paddedPair] := by
    simp [sortedEntries]
  have hL : CompoundLaid (NamespaceDef.layoutEnv { name := "N", entries := [.struct paddedPair] })
      ⟨paddedPair.fields, false, false, 0, 0⟩ ⟨[0, 4], 8, 4⟩ := by
    unfold CompoundLaid
    refine ⟨[(1, 1), (4, 4)], .cons ?_ (.cons ?_ .nil), rfl⟩
    · exact .field rfl (.scalar rfl (by decide))
    · exact .field rfl (.scalar rfl (by decide))
  cases hb : build { name := "N", entries := [.struct paddedPair] } with
  | error e =>
      rw [hb] at hsize
      cases hsize
  | ok bytes =>
      rw [hb] at hsize
      simp only [Except.toOption, Option.map_some, Option.some.injEq] at hsize
      have hbig : bytes.size < 2 ^ 32 := by rw [hsize]; decide
      obtain ⟨t, hl⟩ := built_image_loads hb (by decide) (by decide) hforeign (by simp [hsorted])
        hbig
      obtain ⟨de, hde, halign, hfits⟩ := natural_layout_read_back hb hbig
        (by simp [hsorted, hforeign]) hl (show 0 < _ by simp [hsorted])
        (by simp only [hsorted]; rfl) (by decide) hL
      obtain ⟨hsz, hoffs⟩ := hfits (by unfold Fits; decide)
      exact ⟨bytes, t, rfl, hl, de, hde, halign, hsz, hoffs⟩

/-- A struct holding by value a grid of 32768 rows of 16384 64-bit integers: `2 ^ 32` bytes. -/
def grid : StructDef :=
  { name := "G",
    fields :=
      [{ name := "a",
         type :=
          { tag := .array, fixedSize := some 32768,
            params := [{ tag := .array, fixedSize := some 16384, params := [{ tag := .int64 }] }] } }] }

set_option maxRecDepth 100000 in
/-- The natural layout of `grid` takes `2 ^ 32` bytes, one more than 32 bits count, and its image
reads back a size of 0. -/
theorem grid_size_reads_back_zero :
    CompoundLaid (NamespaceDef.layoutEnv { name := "T", entries := [.struct grid] })
        ⟨grid.fields, false, false, 0, 0⟩ ⟨[0], 2 ^ 32, 8⟩ ∧
      ∃ bytes t, build { name := "T", entries := [.struct grid] } = .ok bytes ∧
        load bytes = .ok t ∧ ∃ de, t.entryAt? 1 = some de ∧ t.u32 (de.offset + 16) = 0 := by
  have hL : CompoundLaid (NamespaceDef.layoutEnv { name := "T", entries := [.struct grid] })
      ⟨grid.fields, false, false, 0, 0⟩ ⟨[0], 2 ^ 32, 8⟩ := by
    unfold CompoundLaid
    refine ⟨[(2 ^ 32, 8)], ?_, rfl⟩
    unfold FieldsLaid grid
    refine .cons (.field rfl ?_) .nil
    show Laid _ _ ((32768 : Int).toNat * ((16384 : Int).toNat * 8)) 8
    exact .fixedArray rfl rfl rfl rfl (by decide)
      (.fixedArray rfl rfl rfl rfl (by decide) (.scalar rfl (by decide)))
  have himage : (build { name := "T", entries := [.struct grid] }).toOption.map
      (fun b => ((Image.make b b.size).u32 128, b.size)) = some (0, 194) := by
    cbv
  obtain ⟨hoffsets, hforeign⟩ : (bodyState { name := "T", entries := [.struct grid] }).1 = [112] ∧
      foreignEntries { name := "T", entries := [.struct grid] } = [] := by
    cbv
  have hsorted : sortedEntries { name := "T", entries := [.struct grid] } = [.struct grid] := by
    simp [sortedEntries]
  refine ⟨hL, ?_⟩
  cases hb : build { name := "T", entries := [.struct grid] } with
  | error e =>
      rw [hb] at himage
      cases himage
  | ok bytes =>
      rw [hb] at himage
      simp only [Except.toOption, Option.map_some, Option.some.injEq, Prod.mk.injEq] at himage
      have hbig : bytes.size < 2 ^ 32 := by rw [himage.2]; decide
      have hcount : (sortedEntries { name := "T", entries := [.struct grid] }).length +
          (foreignEntries { name := "T", entries := [.struct grid] }).length < 2 ^ 16 := by
        simp [hsorted, hforeign]
      obtain ⟨t, hl⟩ := built_image_loads hb (by decide) (by decide) hforeign (by simp [hsorted])
        hbig
      obtain ⟨de, hde, hoff⟩ := loaded_entryAt hb hbig hcount hl
        (show 0 < _ by simp [hsorted, hoffsets])
      refine ⟨bytes, t, rfl, hl, de, hde, ?_⟩
      have h128 : de.offset + 16 = 128 := by simp [hoff, hsorted, hoffsets]
      rw [Typelib.u32, loaded_image hb hbig hl, h128, himage.1]

end Introspection.Typelib
