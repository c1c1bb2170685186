import Introspection.Proofs.Image.Bytes
import Introspection.Typelib.Build

/-!
# The header

The header is written last, over the zeros that held its place: the sixteen bytes of magic, the
format version, the counts, the places of the directory and of the attribute table, the image
size and the blob size table, each patched where the loader reads it. The five string slots of
the header are left to the string table: no patch of the header reaches them, nor anything past
the blob size table.
-/

namespace Introspection.Typelib

/-- A range the header's patches leave alone: one of the header's string slots, or past the
blob size table. -/
def HeaderClear (off n : Nat) : Prop :=
  96 ≤ off ∨ (36 ≤ off ∧ off + n ≤ 40) ∨ (44 ≤ off ∧ off + n ≤ 60)

theorem leBytes_toNat (b : UInt8) : leBytes b.toNat 1 = [b] := by
  simp [leBytes_succ]

namespace Emit

/-! ## Runs of patches -/

theorem size_foldl_patch8 (l : List UInt8) (n : Nat) (w : Writer) :
    ((l.zipIdx n).foldl (fun w x => w.patch8 x.2 x.1.toNat) w).buf.size = w.buf.size := by
  induction l generalizing n w with
  | nil => rfl
  | cons b l ih =>
      rw [List.zipIdx_cons, List.foldl_cons, ih]
      exact size_patch w n 1 b.toNat

theorem foldl_patch8_frame (l : List UInt8) (n : Nat) (w : Writer) {off : Nat} {bs : List UInt8}
    (h : BytesAt w.buf off bs) (hclear : n + l.length ≤ off ∨ off + bs.length ≤ n) :
    BytesAt ((l.zipIdx n).foldl (fun w x => w.patch8 x.2 x.1.toNat) w).buf off bs := by
  induction l generalizing n w with
  | nil => exact h
  | cons b l ih =>
      rw [List.zipIdx_cons, List.foldl_cons]
      simp only [List.length_cons] at hclear
      exact ih (n + 1) _ (h.patch b.toNat (by omega)) (by omega)

theorem foldl_patch8_bytes (l : List UInt8) (n : Nat) (w : Writer)
    (hsize : n + l.length ≤ w.buf.size) :
    BytesAt ((l.zipIdx n).foldl (fun w x => w.patch8 x.2 x.1.toNat) w).buf n l := by
  induction l generalizing n w with
  | nil => exact BytesAt.nil (by simpa using hsize)
  | cons b l ih =>
      simp only [List.length_cons] at hsize
      rw [List.zipIdx_cons, List.foldl_cons]
      have hb : BytesAt (w.patch8 n b.toNat).buf n [b] := by
        have h := bytesAt_patch_self w b.toNat (show n + 1 ≤ w.buf.size by omega)
        rwa [leBytes_toNat] at h
      have hrest := ih (n + 1) (w.patch8 n b.toNat) (by rw [size_patch8]; omega)
      exact BytesAt.append_iff.2 ⟨foldl_patch8_frame l (n + 1) _ hb (.inr (by simp)), hrest⟩

theorem size_foldl_sizes (l : List Nat) (n : Nat) (w : Writer) :
    ((l.zipIdx n).foldl (fun w x => w.patch16 (hdrBlobSizes + x.2 * 2) x.1) w).buf.size =
      w.buf.size := by
  induction l generalizing n w with
  | nil => rfl
  | cons s l ih =>
      rw [List.zipIdx_cons, List.foldl_cons, ih]
      exact size_patch w _ 2 s

theorem foldl_sizes_frame (l : List Nat) (n : Nat) (w : Writer) {off : Nat} {bs : List UInt8}
    (h : BytesAt w.buf off bs)
    (hclear : hdrBlobSizes + (n + l.length) * 2 ≤ off ∨ off + bs.length ≤ hdrBlobSizes + n * 2) :
    BytesAt ((l.zipIdx n).foldl (fun w x => w.patch16 (hdrBlobSizes + x.2 * 2) x.1) w).buf
      off bs := by
  induction l generalizing n w with
  | nil => exact h
  | cons s l ih =>
      rw [List.zipIdx_cons, List.foldl_cons]
      simp only [List.length_cons] at hclear
      exact ih (n + 1) _ (h.patch s (by omega)) (by omega)

theorem foldl_sizes_bytes (l : List Nat) (n : Nat) (w : Writer)
    (hsize : hdrBlobSizes + (n + l.length) * 2 ≤ w.buf.size) (i : Nat) (hi : i < l.length) :
    BytesAt ((l.zipIdx n).foldl (fun w x => w.patch16 (hdrBlobSizes + x.2 * 2) x.1) w).buf
      (hdrBlobSizes + (n + i) * 2) (leBytes l[i] 2) := by
  induction l generalizing n w i with
  | nil => exact absurd hi (Nat.not_lt_zero i)
  | cons s l ih =>
      simp only [List.length_cons] at hsize hi
      rw [List.zipIdx_cons, List.foldl_cons]
      cases i with
      | zero =>
          have hs := bytesAt_patch_self w s
            (show hdrBlobSizes + (n + 0) * 2 + 2 ≤ w.buf.size by omega)
          exact foldl_sizes_frame l (n + 1) _ hs (.inr (by simp [leBytes_length]; omega))
      | succ i =>
          have h := ih (n + 1) (w.patch16 (hdrBlobSizes + n * 2) s)
            (by rw [size_patch16]; omega) i (by omega)
          rwa [show n + 1 + i = n + (i + 1) by omega] at h

/-! ## The header -/

section

variable (nEntries nLocal dir nAttrs attrsAt : Nat) (w : Writer)

theorem size_header : (header nEntries nLocal dir nAttrs attrsAt w).buf.size = w.buf.size := by
  simp only [header, size_foldl_sizes, size_patch32, size_patch16, size_patch8, size_foldl_patch8]

theorem header_frame {off : Nat} {bs : List UInt8} (h : BytesAt w.buf off bs)
    (hclear : HeaderClear off bs.length) :
    BytesAt (header nEntries nLocal dir nAttrs attrsAt w).buf off bs := by
  unfold HeaderClear at hclear
  simp only [header]
  refine foldl_sizes_frame _ 0 _ ?_ (by simp [blobSizeTable_length, hdrBlobSizes]; omega)
  refine BytesAt.patch ?_ _ (by simp [hdrSize]; omega)
  refine BytesAt.patch ?_ _ (by simp [hdrAttributes]; omega)
  refine BytesAt.patch ?_ _ (by simp [hdrNAttributes]; omega)
  refine BytesAt.patch ?_ _ (by simp [hdrDirectory]; omega)
  refine BytesAt.patch ?_ _ (by simp [hdrNLocalEntries]; omega)
  refine BytesAt.patch ?_ _ (by simp [hdrNEntries]; omega)
  refine BytesAt.patch ?_ _ (by simp [hdrMinor]; omega)
  refine BytesAt.patch ?_ _ (by simp [hdrMajor]; omega)
  exact foldl_patch8_frame _ 0 _ h (by simp [magic]; omega)

theorem header_magic (hsize : headerSize ≤ w.buf.size) :
    BytesAt (header nEntries nLocal dir nAttrs attrsAt w).buf 0 magic := by
  simp only [header]
  refine foldl_sizes_frame _ 0 _ ?_ (.inr (by decide))
  refine BytesAt.patch ?_ _ (by decide)
  refine BytesAt.patch ?_ _ (by decide)
  refine BytesAt.patch ?_ _ (by decide)
  refine BytesAt.patch ?_ _ (by decide)
  refine BytesAt.patch ?_ _ (by decide)
  refine BytesAt.patch ?_ _ (by decide)
  refine BytesAt.patch ?_ _ (by decide)
  refine BytesAt.patch ?_ _ (by decide)
  exact foldl_patch8_bytes magic 0 w (by simp [magic, headerSize] at hsize ⊢; omega)

private theorem size_versioned :
    (((magic.zipIdx.foldl (fun w x => w.patch8 x.2 x.1.toNat) w).patch8 hdrMajor
      majorVersion).patch8 hdrMinor minorVersion).buf.size = w.buf.size := by
  rw [size_patch8, size_patch8, size_foldl_patch8]

theorem header_major (hsize : headerSize ≤ w.buf.size) :
    BytesAt (header nEntries nLocal dir nAttrs attrsAt w).buf hdrMajor (leBytes majorVersion 1) := by
  simp only [header]
  refine foldl_sizes_frame _ 0 _ ?_ (.inr (by simp only [leBytes_length]; decide))
  refine BytesAt.patch ?_ _ (by simp only [leBytes_length]; decide)
  refine BytesAt.patch ?_ _ (by simp only [leBytes_length]; decide)
  refine BytesAt.patch ?_ _ (by simp only [leBytes_length]; decide)
  refine BytesAt.patch ?_ _ (by simp only [leBytes_length]; decide)
  refine BytesAt.patch ?_ _ (by simp only [leBytes_length]; decide)
  refine BytesAt.patch ?_ _ (by simp only [leBytes_length]; decide)
  refine BytesAt.patch ?_ _ (by simp only [leBytes_length]; decide)
  exact bytesAt_patch_self _ _ (by rw [size_foldl_patch8]; simp [hdrMajor, headerSize] at hsize ⊢; omega)

theorem header_nEntries (hsize : headerSize ≤ w.buf.size) :
    BytesAt (header nEntries nLocal dir nAttrs attrsAt w).buf hdrNEntries (leBytes nEntries 2) := by
  simp only [header]
  refine foldl_sizes_frame _ 0 _ ?_ (.inr (by simp only [leBytes_length]; decide))
  refine BytesAt.patch ?_ _ (by simp only [leBytes_length]; decide)
  refine BytesAt.patch ?_ _ (by simp only [leBytes_length]; decide)
  refine BytesAt.patch ?_ _ (by simp only [leBytes_length]; decide)
  refine BytesAt.patch ?_ _ (by simp only [leBytes_length]; decide)
  refine BytesAt.patch ?_ _ (by simp only [leBytes_length]; decide)
  exact bytesAt_patch_self _ _ (by rw [size_versioned]; simp [hdrNEntries, headerSize] at hsize ⊢; omega)

theorem header_nLocal (hsize : headerSize ≤ w.buf.size) :
    BytesAt (header nEntries nLocal dir nAttrs attrsAt w).buf hdrNLocalEntries
      (leBytes nLocal 2) := by
  simp only [header]
  refine foldl_sizes_frame _ 0 _ ?_ (.inr (by simp only [leBytes_length]; decide))
  refine BytesAt.patch ?_ _ (by simp only [leBytes_length]; decide)
  refine BytesAt.patch ?_ _ (by simp only [leBytes_length]; decide)
  refine BytesAt.patch ?_ _ (by simp only [leBytes_length]; decide)
  refine BytesAt.patch ?_ _ (by simp only [leBytes_length]; decide)
  exact bytesAt_patch_self _ _ (by
    rw [size_patch16, size_versioned]; simp [hdrNLocalEntries, headerSize] at hsize ⊢; omega)

theorem header_directory (hsize : headerSize ≤ w.buf.size) :
    BytesAt (header nEntries nLocal dir nAttrs attrsAt w).buf hdrDirectory (leBytes dir 4) := by
  simp only [header]
  refine foldl_sizes_frame _ 0 _ ?_ (.inr (by simp only [leBytes_length]; decide))
  refine BytesAt.patch ?_ _ (by simp only [leBytes_length]; decide)
  refine BytesAt.patch ?_ _ (by simp only [leBytes_length]; decide)
  refine BytesAt.patch ?_ _ (by simp only [leBytes_length]; decide)
  exact bytesAt_patch_self _ _ (by
    rw [size_patch16, size_patch16, size_versioned]
    simp [hdrDirectory, headerSize] at hsize ⊢; omega)

theorem header_nAttributes (hsize : headerSize ≤ w.buf.size) :
    BytesAt (header nEntries nLocal dir nAttrs attrsAt w).buf hdrNAttributes (leBytes nAttrs 4) := by
  simp only [header]
  refine foldl_sizes_frame _ 0 _ ?_ (.inr (by simp only [leBytes_length]; decide))
  refine BytesAt.patch ?_ _ (by simp only [leBytes_length]; decide)
  refine BytesAt.patch ?_ _ (by simp only [leBytes_length]; decide)
  exact bytesAt_patch_self _ _ (by
    rw [size_patch32, size_patch16, size_patch16, size_versioned]
    simp [hdrNAttributes, headerSize] at hsize ⊢; omega)

theorem header_attributes (hsize : headerSize ≤ w.buf.size) :
    BytesAt (header nEntries nLocal dir nAttrs attrsAt w).buf hdrAttributes (leBytes attrsAt 4) := by
  simp only [header]
  refine foldl_sizes_frame _ 0 _ ?_ (.inr (by simp only [leBytes_length]; decide))
  refine BytesAt.patch ?_ _ (by simp only [leBytes_length]; decide)
  exact bytesAt_patch_self _ _ (by
    rw [size_patch32, size_patch32, size_patch16, size_patch16, size_versioned]
    simp [hdrAttributes, headerSize] at hsize ⊢; omega)

theorem bytesAt_patch32_len (v : Writer) {off n : Nat} (hn : v.buf.size = n) (h : off + 4 ≤ n) :
    BytesAt (v.patch32 off v.len).buf off (leBytes n 4) := by
  rw [Writer.len_eq, hn]
  exact bytesAt_patch_self v _ (hn ▸ h)

theorem header_size_field (hsize : headerSize ≤ w.buf.size) :
    BytesAt (header nEntries nLocal dir nAttrs attrsAt w).buf hdrSize (leBytes w.buf.size 4) := by
  simp only [header]
  refine foldl_sizes_frame _ 0 _ ?_ (.inr (by simp only [leBytes_length]; decide))
  refine bytesAt_patch32_len _ ?_ (by simp [hdrSize, headerSize] at hsize ⊢; omega)
  rw [size_patch32, size_patch32, size_patch32, size_patch16, size_patch16, size_versioned]

theorem header_blobSizes (hsize : headerSize ≤ w.buf.size) (i : Nat)
    (hi : i < blobSizeTable.length) :
    BytesAt (header nEntries nLocal dir nAttrs attrsAt w).buf (hdrBlobSizes + i * 2)
      (leBytes blobSizeTable[i] 2) := by
  simp only [header]
  rw [show hdrBlobSizes + i * 2 = hdrBlobSizes + (0 + i) * 2 by rw [Nat.zero_add]]
  refine foldl_sizes_bytes blobSizeTable 0 _ ?_ i hi
  rw [size_patch32, size_patch32, size_patch32, size_patch32, size_patch16, size_patch16,
    size_versioned]
  simp [blobSizeTable_length, hdrBlobSizes, headerSize] at hsize ⊢; omega

end

end Emit

end Introspection.Typelib
