import Introspection.Proofs.Image.Strings
import Introspection.Proofs.Image.Header

/-!
# The finished image

Once the blobs stand, the builder writes the directory, one twelve-byte slot for each local
entry and then one for each foreign entry, the attribute table, the header's strings, the string
table and last the header itself. `Finished` says what the image then shows the loader: the
header's fields, the namespace's slot, and a directory whose local slots give their entry's blob
type, the local flag, the name and the blob's offset, and whose foreign slots give the foreign
flag, the name and the namespace, with every blob between the header and the directory.

The facts are gathered on the emitter's state as the tail runs. The header's string slots are the
one place recorded after bytes past them: they lie in the zeros that held the header's place,
which no slot reached before, so recording them keeps every range past the header.
-/

namespace Introspection.Typelib

open Emitter

/-- The slot at `pos` of an image names `s`: four zero bytes when `s` is empty, the offset of its
bytes otherwise. -/
def TextAt (buf : ByteArray) (pos : Nat) (s : String) : Prop :=
  if s.isEmpty then BytesAt buf pos [0, 0, 0, 0] else StrAt buf pos s

/-- The directory at `dir` and the blobs it points at, read through `fix off bs` (the bytes `bs`
stand at `off`) and `txt pos s` (the slot at `pos` names `s`). The local slots come first, each
with its entry's blob type, the local flag, its name and its blob's offset; the foreign slots
follow, each with the foreign flag, its name and its namespace. Every blob lies past the header
and before the directory, and starts with its blob type. -/
structure Directory (fix : Nat → List UInt8 → Prop) (txt : Nat → String → Prop) (dir : Nat)
    (xs : List (EntryDef × Nat)) (fs : List (String × String)) : Prop where
  after : headerSize ≤ dir
  locals : ∀ i (h : i < xs.length),
    fix (dir + entryBlobSize * i) (leBytes xs[i].1.blobType.code 2) ∧
      fix (dir + entryBlobSize * i + 2) (leBytes 1 2) ∧
      txt (dir + entryBlobSize * i + 4) xs[i].1.name ∧
      fix (dir + entryBlobSize * i + 8) (leBytes xs[i].2 4)
  foreign : ∀ j (h : j < fs.length),
    fix (dir + entryBlobSize * (xs.length + j) + 2) (leBytes 0 2) ∧
      txt (dir + entryBlobSize * (xs.length + j) + 4) fs[j].2 ∧
      txt (dir + entryBlobSize * (xs.length + j) + 8) fs[j].1
  blobs : ∀ p ∈ xs, headerSize ≤ p.2 ∧ p.2 + entrySize p.1 ≤ dir ∧
    fix p.2 (leBytes p.1.blobType.code 2)

theorem Directory.mono {fix fix' : Nat → List UInt8 → Prop} {txt txt' : Nat → String → Prop}
    {dir : Nat} {xs : List (EntryDef × Nat)} {fs : List (String × String)}
    (h : Directory fix txt dir xs fs)
    (hfix : ∀ off bs, headerSize ≤ off → fix off bs → fix' off bs)
    (htxt : ∀ pos s, headerSize ≤ pos → txt pos s → txt' pos s) :
    Directory fix' txt' dir xs fs := by
  have hdir := h.after
  refine ⟨hdir, fun i hi => ?_, fun j hj => ?_, fun p hp => ?_⟩
  · obtain ⟨h₁, h₂, h₃, h₄⟩ := h.locals i hi
    exact ⟨hfix _ _ (by omega) h₁, hfix _ _ (by omega) h₂, htxt _ _ (by omega) h₃,
      hfix _ _ (by omega) h₄⟩
  · obtain ⟨h₁, h₂, h₃⟩ := h.foreign j hj
    exact ⟨hfix _ _ (by omega) h₁, htxt _ _ (by omega) h₂, htxt _ _ (by omega) h₃⟩
  · obtain ⟨hhead, hend, hcode⟩ := h.blobs p hp
    exact ⟨hhead, hend, hfix _ _ hhead hcode⟩

theorem entryAtoms_type (L : Nat) (ent : EntryDef) :
    Atom.bytes L (leBytes ent.blobType.code 2) ∈ entryAtoms L ent := by
  cases ent with
  | enum d =>
    cases h : d.isFlags <;> simp [entryAtoms, typeHead, EntryDef.blobType, BlobType.enum, BlobType.flags, h]
  | struct d =>
    cases h : d.boxed <;> simp [entryAtoms, typeHead, EntryDef.blobType, BlobType.struct, BlobType.boxed, h]
  | _ => simp [entryAtoms, typeHead, EntryDef.blobType, BlobType.function, BlobType.callback,
      BlobType.union, BlobType.object, BlobType.interface, BlobType.constant]

/-- What a finished image shows the loader, for local entries `xs` with their blob offsets,
foreign entries `fs`, the namespace `ns`, the directory at `dir` and `nAttrs` attributes at
`attrsAt`: the header's fixed fields and counts, the namespace's slot, the directory, and the
directory and the attribute table within the image. -/
structure Finished (buf : ByteArray) (xs : List (EntryDef × Nat)) (fs : List (String × String))
    (ns : String) (dir nAttrs attrsAt : Nat) : Prop where
  magic : BytesAt buf 0 magic
  major : BytesAt buf hdrMajor (leBytes majorVersion 1)
  nEntries : BytesAt buf hdrNEntries (leBytes (xs.length + fs.length) 2)
  nLocal : BytesAt buf hdrNLocalEntries (leBytes xs.length 2)
  directory : BytesAt buf hdrDirectory (leBytes dir 4)
  nAttributes : BytesAt buf hdrNAttributes (leBytes nAttrs 4)
  attributes : BytesAt buf hdrAttributes (leBytes attrsAt 4)
  size : BytesAt buf hdrSize (leBytes buf.size 4)
  blobSizes : ∀ i (h : i < blobSizeTable.length),
    BytesAt buf (hdrBlobSizes + i * 2) (leBytes blobSizeTable[i] 2)
  namespace_ : TextAt buf hdrNamespace ns
  slots : Directory (BytesAt buf) (TextAt buf) dir xs fs
  dirFits : dir + entryBlobSize * (xs.length + fs.length) ≤ attrsAt
  attrsFit : attrsAt + attributeBlobSize * nAttrs ≤ buf.size

/-! ## Loops of fixed-size steps -/

namespace Spec

theorem forIn_steps {γ : Type} (xs : List γ) {body : γ → EmitM (ForInStep PUnit)} (s : Nat)
    {P : γ → Nat → Emitter → Prop} (hP : ∀ x, Stable (P x))
    (hyield : ∀ x e, ((body x).run e).1 = .yield PUnit.unit)
    (h : ∀ x, Spec (body x) s (P x)) :
    Spec (forIn xs PUnit.unit fun x _ => body x) (s * xs.length) fun L e =>
      ∀ i (hi : i < xs.length), P xs[i] (L + s * i) e := by
  induction xs with
  | nil => exact (Spec.pure _).weaken fun _ _ _ i hi => absurd hi (Nat.not_lt_zero i)
  | cons x xs ih =>
      intro e he
      have hrun : (forIn (x :: xs) PUnit.unit fun x _ => body x).run e =
          (forIn xs PUnit.unit fun x _ => body x).run ((body x).run e).2 := by
        rw [List.forIn_cons, Tame.run_bind, hyield]
      rw [hrun]
      obtain ⟨wf₁, ext₁, len₁, p₁⟩ := h x e he
      obtain ⟨wf₂, ext₂, len₂, p₂⟩ := ih _ wf₁
      rw [len₁] at len₂ p₂
      refine ⟨wf₂, ext₁.trans ext₂, by rw [len₂, List.length_cons, Nat.mul_succ]; omega,
        fun i hi => ?_⟩
      cases i with
      | zero => simpa using hP x _ _ _ ext₂ p₁
      | succ i =>
          rw [List.getElem_cons_succ, show e.w.len + s * (i + 1) = e.w.len + s + s * i by
            rw [Nat.mul_succ]; omega]
          exact p₂ i (by simpa using hi)

end Spec

theorem StrSlot.transfer {e e' : Emitter} {pos : Nat} {s : String} (h : StrSlot e pos s)
    (hstrs : e.strs.toList <+: e'.strs.toList)
    (hzero : Fixed e pos [0, 0, 0, 0] → Fixed e' pos [0, 0, 0, 0]) : StrSlot e' pos s := by
  unfold StrSlot at h ⊢
  split
  · rename_i hs
    rw [if_pos hs] at h
    exact hzero h
  · rename_i hs
    rw [if_neg hs] at h
    exact hstrs.subset h

namespace Emit

theorem localSlot_spec (ent : EntryDef) (off : Nat) :
    Spec (do
        u16 ent.blobType.code
        u16 1
        str ent.name
        u32 off
        pure (ForInStep.yield PUnit.unit) : EmitM (ForInStep PUnit)) 12 fun L e =>
      Fixed e L (leBytes ent.blobType.code 2) ∧ Fixed e (L + 2) (leBytes 1 2) ∧
        StrSlot e (L + 4) ent.name ∧ Fixed e (L + 8) (leBytes off 4) :=
  ((u16_spec _).bind (Stable.fixed id _) fun _ =>
    (u16_spec 1).bind (Stable.fixed id _) fun _ =>
    (str_spec _).bind (Stable.strSlot id _) fun _ =>
    (u32_spec _).bind (Stable.fixed id _) fun _ =>
    Spec.pure _).weaken fun _ _ h => ⟨h.1, h.2.1, h.2.2.1, h.2.2.2.1⟩

theorem localSlot_stable (ent : EntryDef) (off : Nat) : Stable fun L e =>
    Fixed e L (leBytes ent.blobType.code 2) ∧ Fixed e (L + 2) (leBytes 1 2) ∧
      StrSlot e (L + 4) ent.name ∧ Fixed e (L + 8) (leBytes off 4) :=
  fun L _ _ h hs => ⟨h.fixed _ _ hs.1, h.fixed _ _ hs.2.1,
    Stable.strSlot (· + 4) _ L _ _ h hs.2.2.1, h.fixed _ _ hs.2.2.2⟩

theorem foreignSlot_spec (ns name : String) :
    Spec (do
        u16 BlobType.invalid.code
        u16 0
        str name
        str ns
        pure (ForInStep.yield PUnit.unit) : EmitM (ForInStep PUnit)) 12 fun L e =>
      Fixed e (L + 2) (leBytes 0 2) ∧ StrSlot e (L + 4) name ∧ StrSlot e (L + 8) ns :=
  ((u16_spec _).forget.bind Stable.true fun _ =>
    (u16_spec 0).bind (Stable.fixed id _) fun _ =>
    (str_spec _).bind (Stable.strSlot id _) fun _ =>
    (str_spec _).bind (Stable.strSlot id _) fun _ =>
    Spec.pure _).weaken fun _ _ h => ⟨h.2.1, h.2.2.1, h.2.2.2.1⟩

theorem foreignSlot_stable (ns name : String) : Stable fun L e =>
    Fixed e (L + 2) (leBytes 0 2) ∧ StrSlot e (L + 4) name ∧ StrSlot e (L + 8) ns :=
  fun L _ _ h hs => ⟨h.fixed _ _ hs.1, Stable.strSlot (· + 4) _ L _ _ h hs.2.1,
    Stable.strSlot (· + 8) _ L _ _ h hs.2.2⟩

theorem attrRecord_spec (a : AttrRecord) :
    Spec (do
        u32 a.offset
        str a.name
        str a.value
        pure (ForInStep.yield PUnit.unit) : EmitM (ForInStep PUnit)) 12 fun _ _ => True :=
  ((u32_spec _).forget.bind Stable.true fun _ =>
    (str_spec _).forget.bind Stable.true fun _ =>
    (str_spec _).forget.bind Stable.true fun _ =>
    Spec.pure _).forget

/-! ## The header's strings -/

theorem Fixed.zeros {e : Emitter} {off n p k : Nat} (h : Fixed e off (List.replicate n 0))
    (hp : off ≤ p) (hk : p + k ≤ off + n) : Fixed e p (List.replicate k 0) := by
  obtain ⟨⟨hsize, hbytes⟩, hclear⟩ := h
  simp only [List.length_replicate] at hsize hbytes hclear
  refine ⟨⟨by simp only [List.length_replicate]; omega, fun i hi => ?_⟩, fun q hq => ?_⟩
  · simp only [List.length_replicate] at hi
    have := hbytes (p - off + i) (by omega)
    rw [show off + (p - off + i) = p + i by omega] at this
    simpa using this
  · rcases hclear q hq with h | h
    · exact .inl (by omega)
    · exact .inr (by simp only [List.length_replicate]; omega)

theorem slots_push (e : Emitter) (p : String × Nat) :
    ({ e with strs := e.strs.push p } : Emitter).slots.Perm (p.2 :: e.slots) := by
  simp only [slots_eq, Array.toList_push, List.map_append, List.map_cons, List.map_nil,
    List.append_assoc, List.singleton_append]
  exact List.perm_middle

theorem strAt_zero_run (pos : Nat) (s : String) (e : Emitter) (he : WF e)
    (hz : Fixed e pos [0, 0, 0, 0]) :
    WF ((strAt pos s).run e).2 ∧ ((strAt pos s).run e).2.w = e.w ∧
      e.strs.toList <+: ((strAt pos s).run e).2.strs.toList ∧
      StrSlot ((strAt pos s).run e).2 pos s ∧
      ∀ off bs, pos + 4 ≤ off ∨ off + bs.length ≤ pos → Fixed e off bs →
        Fixed ((strAt pos s).run e).2 off bs := by
  by_cases hs : s.isEmpty
  ·
    have hst : ((strAt pos s).run e).2 = e := by simp [run_strAt, hs]
    rw [hst]
    exact ⟨he, rfl, List.prefix_refl _, by simpa [StrSlot, hs] using hz, fun _ _ _ h => h⟩
  · have hst : ((strAt pos s).run e).2 = { e with strs := e.strs.push (s, pos) } := by
      simp [run_strAt, hs]
    rw [hst]
    have hperm := slots_push e (s, pos)
    have hbound : pos + 4 ≤ e.w.len := by simpa using hz.1.1
    have hapart : ∀ q ∈ e.slots, Apart pos q := fun q hq =>
      (hz.2 q hq).elim (fun h => .inr h) (fun h => .inl h)
    refine ⟨⟨fun q hq => ?_, ?_, he.3.of_eq rfl rfl rfl rfl⟩, rfl, ?_, ?_, fun off bs hclr hf => ?_⟩
    · rcases List.mem_cons.1 (hperm.mem_iff.1 hq) with rfl | hq
      · exact hbound
      · exact he.bound q hq
    · exact (hperm.pairwise_iff fun h => h.symm).2 (List.pairwise_cons.2 ⟨hapart, he.apart⟩)
    · rw [Array.toList_push]
      exact List.prefix_append _ _
    · simp [StrSlot, hs]
    · refine ⟨hf.1, fun q hq => ?_⟩
      rcases List.mem_cons.1 (hperm.mem_iff.1 hq) with rfl | hq
      · exact hclr
      · exact hf.2 q hq

theorem headerTexts_run (d : NamespaceDef) (k : EmitM Unit) (e : Emitter) (he : WF e)
    (hzero : Fixed e 0 (List.replicate headerSize 0)) :
    ∃ e', (do
        strAt hdrDependencies ("|".intercalate d.dependencies)
        strAt hdrNamespace d.name
        strAt hdrNSVersion d.version
        strAt hdrSharedLibrary (",".intercalate d.libraries)
        strAt hdrCPrefix d.cPrefix
        k : EmitM Unit).run e = k.run e' ∧ WF e' ∧ e'.w = e.w ∧
      e.strs.toList <+: e'.strs.toList ∧ StrSlot e' hdrNamespace d.name ∧
      ∀ off bs, headerSize ≤ off → Fixed e off bs → Fixed e' off bs := by
  have hz : ∀ pos, pos + 4 ≤ headerSize → Fixed e pos [0, 0, 0, 0] := fun pos hpos =>
    Fixed.zeros hzero (Nat.zero_le _) (by simpa using hpos)
  obtain ⟨wf₁, hw₁, hs₁, -, hf₁⟩ := strAt_zero_run hdrDependencies ("|".intercalate d.dependencies) e he (hz _ (by decide))
  obtain ⟨wf₂, hw₂, hs₂, hns₂, hf₂⟩ := strAt_zero_run hdrNamespace d.name _ wf₁
    (hf₁ _ _ (by decide) (hz _ (by decide)))
  obtain ⟨wf₃, hw₃, hs₃, -, hf₃⟩ := strAt_zero_run hdrNSVersion d.version _ wf₂
    (hf₂ _ _ (by decide) (hf₁ _ _ (by decide) (hz _ (by decide))))
  obtain ⟨wf₄, hw₄, hs₄, -, hf₄⟩ := strAt_zero_run hdrSharedLibrary (",".intercalate d.libraries) _ wf₃
    (hf₃ _ _ (by decide) (hf₂ _ _ (by decide) (hf₁ _ _ (by decide) (hz _ (by decide)))))
  obtain ⟨wf₅, hw₅, hs₅, -, hf₅⟩ := strAt_zero_run hdrCPrefix d.cPrefix _ wf₄
    (hf₄ _ _ (by decide) (hf₃ _ _ (by decide) (hf₂ _ _ (by decide)
      (hf₁ _ _ (by decide) (hz _ (by decide))))))
  have hns : StrSlot _ hdrNamespace d.name := hns₂.transfer (hs₃.trans (hs₄.trans hs₅))
    fun h => hf₅ _ _ (by decide) (hf₄ _ _ (by decide) (hf₃ _ _ (by decide) h))
  refine ⟨_, by simp only [Tame.run_bind], wf₅, by rw [hw₅, hw₄, hw₃, hw₂, hw₁],
    hs₁.trans (hs₂.trans (hs₃.trans (hs₄.trans hs₅))), hns, fun off bs hoff h => ?_⟩
  have hpast : ∀ pos, pos + 4 ≤ headerSize → pos + 4 ≤ off ∨ off + bs.length ≤ pos :=
    fun pos hpos => .inl (Nat.le_trans hpos hoff)
  exact hf₅ _ _ (hpast _ (by decide)) (hf₄ _ _ (hpast _ (by decide)) (hf₃ _ _ (hpast _ (by decide))
    (hf₂ _ _ (hpast _ (by decide)) (hf₁ _ _ (hpast _ (by decide)) h))))

end Emit

theorem textAt_of_flush {e : Emitter} {pos : Nat} {s : String} (he : WF e)
    (hhead : headerSize ≤ e.w.len) (h : StrSlot e pos s) :
    TextAt (Emit.flushStrings.run e).2.w.buf pos s := by
  obtain ⟨-, ext, hstr⟩ := Emit.flushStrings_run e he hhead
  unfold StrSlot at h
  unfold TextAt
  split
  · rename_i hs
    rw [if_pos hs] at h
    exact (ext.fixed _ _ h).1
  · rename_i hs
    rw [if_neg hs] at h
    exact hstr _ h

theorem TextAt.header {w : Writer} {pos : Nat} {s : String} (h : TextAt w.buf pos s)
    (hpos : HeaderClear pos 4) (nEntries nLocal dir nAttrs attrsAt : Nat) :
    TextAt (Emit.header nEntries nLocal dir nAttrs attrsAt w).buf pos s := by
  unfold TextAt at h ⊢
  split
  · rename_i hs
    rw [if_pos hs] at h
    exact Emit.header_frame _ _ _ _ _ _ h hpos
  · rename_i hs
    rw [if_neg hs] at h
    obtain ⟨o, hslot, hhead, hbytes⟩ := h
    refine ⟨o, Emit.header_frame _ _ _ _ _ _ hslot (by rwa [leBytes_length]), hhead, ?_⟩
    exact Emit.header_frame _ _ _ _ _ _ hbytes (.inl (Nat.le_trans (by decide) hhead))

theorem Finished.of_header {w : Writer} {xs : List (EntryDef × Nat)} {fs : List (String × String)}
    {ns : String} {dir nAttrs attrsAt : Nat} (hsize : headerSize ≤ w.buf.size)
    (hslots : Directory (BytesAt w.buf) (TextAt w.buf) dir xs fs)
    (hns : TextAt w.buf hdrNamespace ns)
    (hdirFits : dir + entryBlobSize * (xs.length + fs.length) ≤ attrsAt)
    (hattrsFit : attrsAt + attributeBlobSize * nAttrs ≤ w.buf.size) :
    Finished (Emit.header (xs.length + fs.length) xs.length dir nAttrs attrsAt w).buf xs fs ns dir
      nAttrs attrsAt := by
  have hsame := Emit.size_header (xs.length + fs.length) xs.length dir nAttrs attrsAt w
  have hpast : ∀ off n, headerSize ≤ off → HeaderClear off n :=
    fun off _ hoff => .inl (Nat.le_trans (by decide) hoff)
  refine ⟨Emit.header_magic _ _ _ _ _ _ hsize, Emit.header_major _ _ _ _ _ _ hsize,
    Emit.header_nEntries _ _ _ _ _ _ hsize, Emit.header_nLocal _ _ _ _ _ _ hsize,
    Emit.header_directory _ _ _ _ _ _ hsize, Emit.header_nAttributes _ _ _ _ _ _ hsize,
    Emit.header_attributes _ _ _ _ _ _ hsize, ?_,
    fun i hi => Emit.header_blobSizes _ _ _ _ _ _ hsize i hi,
    hns.header (.inr (.inr ⟨by decide, by decide⟩)) _ _ _ _ _,
    hslots.mono (fun off _ hoff h => Emit.header_frame _ _ _ _ _ _ h (hpast _ _ hoff))
      (fun _ _ hpos h => h.header (hpast _ _ hpos) _ _ _ _ _),
    hdirFits, by rw [hsame]; exact hattrsFit⟩
  rw [hsame]
  exact Emit.header_size_field _ _ _ _ _ _ hsize

namespace Emit

theorem tail_finished (d : NamespaceDef) (entries : List EntryDef) (offsets : List Nat)
    (e : Emitter) (he : WF e) (hzero : Fixed e 0 (List.replicate headerSize 0))
    (hplaced : Placed e entries offsets) :
    (∃ dir nAttrs attrsAt, Finished ((tail d entries offsets).run e).2.w.buf
      (entries.zip offsets) e.foreign.toList d.name dir nAttrs attrsAt) ∧
    ∀ off bs, headerSize ≤ off → Fixed e off bs →
      BytesAt ((tail d entries offsets).run e).2.w.buf off bs := by
  have hlen : (entries.zip offsets).length = entries.length := by
    rw [List.length_zip, hplaced.1, Nat.min_self]
  unfold tail
  rw [run_get_bind, Tame.run_bind]
  obtain ⟨wf₁, ext₁⟩ := align_tame 4 e he
  generalize StateT.run (align 4) e = r₁ at wf₁ ext₁
  obtain ⟨u₁, e₁⟩ := r₁
  have hhead₁ : headerSize ≤ e₁.w.len := by
    have := hzero.1.1
    simp only [List.length_replicate, Nat.zero_add] at this
    exact Nat.le_trans this ext₁.len
  rw [Tame.run_bind, run_len, Tame.run_bind]
  have hloc := Spec.forIn_steps (entries.zip offsets) 12 (fun x => localSlot_stable x.1 x.2)
    (fun _ _ => rfl) (fun x => localSlot_spec x.1 x.2) e₁ wf₁
  generalize h₂ : StateT.run (forIn (entries.zip offsets) PUnit.unit _ : EmitM PUnit) e₁ = r₂
  rw [h₂] at hloc
  obtain ⟨u₂, e₂⟩ := r₂
  obtain ⟨wf₂, ext₂, len₂, hlocal⟩ := hloc
  rw [Tame.run_bind]
  have hfor := Spec.forIn_steps e.foreign.toList 12 (fun x => foreignSlot_stable x.1 x.2)
    (fun _ _ => rfl) (fun x => foreignSlot_spec x.1 x.2) e₂ wf₂
  generalize h₃ : StateT.run (forIn e.foreign.toList PUnit.unit _ : EmitM PUnit) e₂ = r₃
  rw [h₃] at hfor
  obtain ⟨u₃, e₃⟩ := r₃
  obtain ⟨wf₃, ext₃, len₃, hforeign⟩ := hfor
  rw [run_get_bind, Tame.run_bind, run_len, Tame.run_bind]
  have hatt := Spec.forIn_steps (e₃.attrs.toList.mergeSort fun a b => decide (a.offset ≤ b.offset))
    12 (fun _ => Stable.true) (fun _ _ => rfl) attrRecord_spec e₃ wf₃
  generalize h₄ : StateT.run (forIn (e₃.attrs.toList.mergeSort fun a b =>
    decide (a.offset ≤ b.offset)) PUnit.unit _ : EmitM PUnit) e₃ = r₄
  rw [h₄] at hatt
  obtain ⟨u₄, e₄⟩ := r₄
  obtain ⟨wf₄, ext₄, len₄, -⟩ := hatt
  have hdir₃ : Directory (Fixed e₃) (StrSlot e₃) e₁.w.len (entries.zip offsets)
      e.foreign.toList := by
    refine ⟨hhead₁, fun i hi => ?_, fun j hj => ?_, fun p hp => ?_⟩
    · exact localSlot_stable _ _ _ _ _ ext₃ (hlocal i hi)
    · have hpos : e₂.w.len + 12 * j = e₁.w.len + entryBlobSize * ((entries.zip offsets).length + j) := by
        rw [len₂]; simp only [entryBlobSize]; ring
      have := hforeign j hj
      rwa [hpos] at this
    · obtain ⟨hhead, hend, hatoms⟩ := hplaced.2 p hp
      exact ⟨hhead, Nat.le_trans hend ext₁.len,
        ((hatoms.mono (ext₁.trans (ext₂.trans ext₃))) _ (entryAtoms_type p.2 p.1))⟩
  obtain ⟨e₅, hrun₅, wf₅, hw₅, hstrs₅, hns₅, hfix₅⟩ := headerTexts_run d _ e₄ wf₄
    ((ext₁.trans (ext₂.trans (ext₃.trans ext₄))).fixed _ _ hzero)
  rw [hrun₅, Tame.run_bind, run_write]
  have hlen₅ : e₄.w.len = e₅.w.len := by rw [hw₅]
  have hhead₅ : headerSize ≤ e₅.w.len := by
    rw [← hlen₅]; exact Nat.le_trans hhead₁ (Nat.le_trans ext₂.len (Nat.le_trans ext₃.len ext₄.len))
  obtain ⟨-, ext₆, -⟩ := flushStrings_run e₅ wf₅ hhead₅
  refine ⟨?_, fun off bs hoff h => Emit.header_frame _ _ _ _ _ _
    ((ext₆.fixed _ _ (hfix₅ _ _ hoff
      ((ext₁.trans (ext₂.trans (ext₃.trans ext₄))).fixed _ _ h))).1)
    (.inl (Nat.le_trans (by decide) hoff))⟩
  refine ⟨e₁.w.len, (e₃.attrs.toList.mergeSort fun a b => decide (a.offset ≤ b.offset)).length,
    e₃.w.len, ?_⟩
  dsimp only
  rw [← hlen]
  refine Finished.of_header ?_ ?_ (textAt_of_flush wf₅ hhead₅ hns₅) ?_ ?_
  · exact Nat.le_trans hhead₅ ext₆.len
  · refine ((hdir₃.mono (fun off bs _ h => ext₄.fixed _ _ h) fun pos s _ h =>
      Stable.strSlot id s pos _ _ ext₄ h).mono (fun off bs hoff h => hfix₅ _ _ hoff h)
      fun pos s hpos h => h.transfer hstrs₅ (hfix₅ _ _ hpos)).mono
      (fun off bs _ h => (ext₆.fixed _ _ h).1) fun pos s _ h => textAt_of_flush wf₅ hhead₅ h
  · rw [len₃, len₂]; simp only [entryBlobSize]; omega
  · have := Nat.le_trans (Nat.le_of_eq hlen₅) ext₆.len
    simp only [Writer.len_eq] at this len₄ ⊢
    simp only [attributeBlobSize]
    omega

end Emit

theorem build_ok_run {d : NamespaceDef} {bytes : ByteArray} (h : build d = .ok bytes) :
    (sortedEntries d).length ≤ 65535 ∧ checkEntryNames (sortedEntries d) [] = .ok () ∧
      (bodyState d).2.err = none ∧
      bytes = ((Emit.tail d (sortedEntries d) (bodyState d).1).run (bodyState d).2).2.w.buf := by
  unfold build at h
  generalize bodyState d = b at h ⊢
  obtain ⟨offsets, e⟩ := b
  by_cases hcount : (sortedEntries d).length > 65535
  · simp only [hcount, if_true] at h
    cases h
  · simp only [hcount, if_false] at h
    cases hnames : checkEntryNames (sortedEntries d) [] with
    | error f =>
        simp only [hnames] at h
        cases h
    | ok u =>
        simp only [hnames] at h
        cases herr : e.err with
        | some f =>
            simp only [herr] at h
            cases h
        | none =>
            simp only [herr] at h
            generalize StateT.run (Emit.tail d (sortedEntries d) offsets) e = r at h ⊢
            obtain ⟨⟨⟩, e'⟩ := r
            cases h
            exact ⟨Nat.le_of_not_lt hcount, rfl, rfl, rfl⟩

/-- The foreign entries of an image of `d`: the namespace and name of each reference to another
namespace, in the order the body first met them. -/
def foreignEntries (d : NamespaceDef) : List (String × String) := (bodyState d).2.foreign.toList

theorem build_finished {d : NamespaceDef} {bytes : ByteArray} (h : build d = .ok bytes) :
    ∃ dir nAttrs attrsAt, Finished bytes ((sortedEntries d).zip (bodyState d).1)
      (foreignEntries d) d.name dir nAttrs attrsAt := by
  obtain ⟨-, hnames, -, hbytes⟩ := build_ok_run h
  obtain ⟨wf, -, hzero, hplaced⟩ := bodyState_placed hnames
  rw [hbytes]
  exact (Emit.tail_finished d _ _ _ wf hzero hplaced).1

end Introspection.Typelib
