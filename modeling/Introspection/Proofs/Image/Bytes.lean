import Introspection.Typelib.Image
import Introspection.Proofs.Text.Utf8RoundTrip

/-!
# Bytes at a position

The reading side of an image sees bytes through `byteAt` and little-endian values through
`leAt`; the writing side appends bytes and patches ranges it wrote earlier. `BytesAt data off bs`
says that the list `bs` stands at `off`. The lemmas here say what appending, pushing and
patching do to it, and that the little-endian value read over a written range is the value
written, reduced to its width.
-/

namespace Introspection.Typelib

/-- The little-endian value of a list of bytes. -/
def leValue : List UInt8 → Nat
  | [] => 0
  | b :: bs => b.toNat + 256 * leValue bs

@[simp] theorem leValue_nil : leValue [] = 0 := rfl

@[simp] theorem leValue_cons (b : UInt8) (bs : List UInt8) :
    leValue (b :: bs) = b.toNat + 256 * leValue bs := rfl

@[simp] theorem leBytes_zero (v : Nat) : leBytes v 0 = [] := rfl

theorem leBytes_succ (v w : Nat) : leBytes v (w + 1) = (v % 256).toUInt8 :: leBytes (v / 256) w :=
  rfl

theorem leValue_leBytes (v w : Nat) : leValue (leBytes v w) = v % 256 ^ w := by
  induction w generalizing v with
  | zero => simp [Nat.mod_one]
  | succ w ih =>
      have h : ((v % 256).toUInt8).toNat = v % 256 := by simp
      rw [leBytes_succ, leValue_cons, ih, h, Nat.pow_succ', Nat.mod_mul]

theorem leValue_leBytes_of_lt {v w : Nat} (h : v < 256 ^ w) : leValue (leBytes v w) = v := by
  rw [leValue_leBytes, Nat.mod_eq_of_lt h]

/-! ## Byte arrays as lists -/

theorem byteAt_eq (data : ByteArray) (i : Nat) : byteAt data i = (data.data.toList.getD i 0).toNat := by
  unfold byteAt
  rw [List.getD_eq_getElem?_getD]
  split
  · rename_i h
    rw [List.getElem?_eq_getElem (by simpa using h)]
    rfl
  · rename_i h
    rw [List.getElem?_eq_none (by simpa using h)]
    rfl

@[simp] theorem data_toList_push (data : ByteArray) (b : UInt8) :
    (data.push b).data.toList = data.data.toList ++ [b] := by
  simp

theorem foldl_push (data : ByteArray) (bs : List UInt8) :
    (bs.foldl ByteArray.push data).data.toList = data.data.toList ++ bs := by
  induction bs generalizing data with
  | nil => simp
  | cons b bs ih => simp [ih]

theorem size_eq_length (data : ByteArray) : data.size = data.data.toList.length := by simp

/-! ## Bytes standing at a position -/

/-- The bytes `bs` stand at `off` in `data`. -/
def BytesAt (data : ByteArray) (off : Nat) (bs : List UInt8) : Prop :=
  off + bs.length ≤ data.size ∧ ∀ i (hi : i < bs.length), byteAt data (off + i) = bs[i].toNat

namespace BytesAt

variable {data data' : ByteArray} {off : Nat} {bs cs : List UInt8}

theorem nil (h : off ≤ data.size) : BytesAt data off [] := ⟨by simpa using h, by simp⟩

theorem append_iff :
    BytesAt data off (bs ++ cs) ↔ BytesAt data off bs ∧ BytesAt data (off + bs.length) cs := by
  constructor
  · rintro ⟨hsize, hbytes⟩
    refine ⟨⟨by simp at hsize; omega, fun i hi => ?_⟩, ⟨by simp at hsize; omega, fun i hi => ?_⟩⟩
    · have := hbytes i (by simp; omega)
      rwa [List.getElem_append_left hi] at this
    · have := hbytes (bs.length + i) (by simp; omega)
      rw [List.getElem_append_right (by omega)] at this
      simpa [Nat.add_assoc] using this
  · rintro ⟨⟨hs1, hb1⟩, ⟨hs2, hb2⟩⟩
    refine ⟨by simp; omega, fun i hi => ?_⟩
    by_cases hlt : i < bs.length
    · rw [List.getElem_append_left hlt]
      exact hb1 i hlt
    · rw [List.getElem_append_right (by omega)]
      have := hb2 (i - bs.length) (by simp at hi; omega)
      rwa [show off + bs.length + (i - bs.length) = off + i by omega] at this

theorem mono (h : BytesAt data off bs) (hsize : data.size ≤ data'.size)
    (hsame : ∀ i, i < data.size → byteAt data' i = byteAt data i) : BytesAt data' off bs :=
  ⟨by have := h.1; omega, fun i hi => by rw [hsame _ (by have := h.1; omega)]; exact h.2 i hi⟩

theorem frame (h : BytesAt data off bs) (hsize : data.size ≤ data'.size)
    (hsame : ∀ i, off ≤ i → i < off + bs.length → byteAt data' i = byteAt data i) :
    BytesAt data' off bs :=
  ⟨by have := h.1; omega, fun i hi => by rw [hsame _ (by omega) (by omega)]; exact h.2 i hi⟩

theorem leAt_eq (h : BytesAt data off bs) : leAt data off bs.length = leValue bs := by
  induction bs generalizing off with
  | nil => rfl
  | cons b bs ih =>
      have h' : BytesAt data off [b] ∧ BytesAt data (off + 1) bs := append_iff.1 h
      have hb := h'.1.2 0 (by simp)
      simp only [List.length_cons, leAt, leValue_cons]
      simp only [Nat.add_zero, List.getElem_singleton] at h' hb
      rw [ih h'.2, hb]

theorem extract_eq (h : BytesAt data off bs) : data.extract off (off + bs.length) = bs.toByteArray := by
  apply ByteArray.ext
  apply Array.ext
  · simp only [ByteArray.size_data, ByteArray.size_extract, List.data_toByteArray,
      List.size_toArray]
    have := h.1
    omega
  · intro k hk _
    have hk' : k < bs.length := by simp at hk; omega
    have hb := h.2 k hk'
    rw [byteAt_eq] at hb
    simp only [ByteArray.data_extract, Array.getElem_extract, List.data_toByteArray,
      List.getElem_toArray]
    apply UInt8.toNat_inj.1
    rw [← hb]
    have hlt : off + k < data.data.size := by have := h.1; simp; omega
    simp [List.getD_eq_getElem?_getD, Array.getElem?_toList, Array.getElem?_eq_getElem hlt]

end BytesAt

/-! ## Appending, pushing and patching -/

theorem byteAt_append_left (data more : ByteArray) {i : Nat} (h : i < data.size) :
    byteAt (data ++ more) i = byteAt data i := by
  rw [byteAt_eq, byteAt_eq, ByteArray.toList_data_append, List.getD_eq_getElem?_getD,
    List.getElem?_append_left (by simpa using h), ← List.getD_eq_getElem?_getD]

theorem byteAt_append_right (data more : ByteArray) (i : Nat) :
    byteAt (data ++ more) (data.size + i) = byteAt more i := by
  rw [byteAt_eq, byteAt_eq, ByteArray.toList_data_append, List.getD_eq_getElem?_getD,
    List.getElem?_append_right (by simp), ← List.getD_eq_getElem?_getD]
  simp

theorem BytesAt.append (h : BytesAt data off bs) (more : ByteArray) : BytesAt (data ++ more) off bs :=
  h.mono (by simp) fun _ hi => byteAt_append_left _ _ hi

theorem bytesAt_append_toByteArray (data : ByteArray) (bs : List UInt8) :
    BytesAt (data ++ bs.toByteArray) data.size bs := by
  refine ⟨by simp, fun i hi => ?_⟩
  rw [byteAt_append_right, byteAt_eq, List.getD_eq_getElem?_getD]
  simp [List.getElem?_eq_getElem hi]

theorem foldl_push_eq (data : ByteArray) (bs : List UInt8) :
    bs.foldl ByteArray.push data = data ++ bs.toByteArray := by
  apply ByteArray.ext
  apply Array.toList_inj.1
  rw [foldl_push, ByteArray.toList_data_append]
  simp

theorem byteAt_setByte (buf : ByteArray) (i j : Nat) (v : UInt8) :
    byteAt (Writer.setByte buf i v) j = if j = i ∧ i < buf.size then v.toNat else byteAt buf j := by
  unfold Writer.setByte
  split
  · rename_i hi
    rw [byteAt_eq, byteAt_eq, ByteArray.data_set, Array.toList_set, List.getD_eq_getElem?_getD,
      List.getElem?_set, @List.getD_eq_getElem?_getD _ buf.data.toList]
    by_cases hji : j = i
    · subst hji
      simp [hi]
    · simp [hji, Ne.symm hji]
  · rename_i hi
    simp [hi]

theorem size_setByte (buf : ByteArray) (i : Nat) (v : UInt8) :
    (Writer.setByte buf i v).size = buf.size := by
  unfold Writer.setByte
  split
  · rw [← ByteArray.size_data, ByteArray.data_set, Array.size_set, ByteArray.size_data]
  · rfl

theorem foldl_setByte (bs : List UInt8) (off k : Nat) (buf : ByteArray) :
    ((bs.zipIdx k).foldl (fun b (x : UInt8 × Nat) => Writer.setByte b (off + x.2) x.1) buf).size =
        buf.size ∧
      ∀ j, byteAt ((bs.zipIdx k).foldl (fun b (x : UInt8 × Nat) => Writer.setByte b (off + x.2) x.1)
          buf) j =
        if off + k ≤ j ∧ j < off + k + bs.length ∧ j < buf.size then
          (bs.getD (j - (off + k)) 0).toNat
        else byteAt buf j := by
  induction bs generalizing k buf with
  | nil =>
      refine ⟨rfl, fun j => ?_⟩
      simp only [List.zipIdx_nil, List.foldl_nil, List.length_nil, Nat.add_zero]
      rw [if_neg (by omega)]
  | cons b bs ih =>
      rw [List.zipIdx_cons, List.foldl_cons]
      obtain ⟨hsize, hbyte⟩ := ih (k + 1) (Writer.setByte buf (off + k) b)
      refine ⟨by rw [hsize, size_setByte], fun j => ?_⟩
      rw [hbyte j, byteAt_setByte, size_setByte]
      simp only [List.length_cons]
      by_cases hA : off + (k + 1) ≤ j ∧ j < off + (k + 1) + bs.length ∧ j < buf.size
      · rw [if_pos hA,
          if_pos (show off + k ≤ j ∧ j < off + k + (bs.length + 1) ∧ j < buf.size by omega),
          show j - (off + k) = j - (off + (k + 1)) + 1 by omega, List.getD_cons_succ]
      · rw [if_neg hA]
        by_cases hB : j = off + k ∧ off + k < buf.size
        · rw [if_pos hB,
            if_pos (show off + k ≤ j ∧ j < off + k + (bs.length + 1) ∧ j < buf.size by omega),
            show j - (off + k) = 0 by omega, List.getD_cons_zero]
        · rw [if_neg hB,
            if_neg (show ¬(off + k ≤ j ∧ j < off + k + (bs.length + 1) ∧ j < buf.size) by omega)]

theorem size_patch (w : Writer) (off width v : Nat) : (w.patch off width v).buf.size = w.buf.size := by
  simp only [Writer.patch]
  exact (foldl_setByte _ off 0 w.buf).1

theorem size_patch8 (w : Writer) (off v : Nat) : (w.patch8 off v).buf.size = w.buf.size :=
  size_patch w off 1 v

theorem size_patch16 (w : Writer) (off v : Nat) : (w.patch16 off v).buf.size = w.buf.size :=
  size_patch w off 2 v

theorem size_patch32 (w : Writer) (off v : Nat) : (w.patch32 off v).buf.size = w.buf.size :=
  size_patch w off 4 v

theorem byteAt_patch (w : Writer) (off width v j : Nat) :
    byteAt (w.patch off width v).buf j =
      if off ≤ j ∧ j < off + width ∧ j < w.buf.size then
        ((leBytes v width).getD (j - off) 0).toNat
      else byteAt w.buf j := by
  simp only [Writer.patch]
  have := (foldl_setByte (leBytes v width) off 0 w.buf).2 j
  simp only [Nat.add_zero, leBytes_length] at this
  exact this

theorem BytesAt.patch {w : Writer} {p : Nat} {bs : List UInt8} (h : BytesAt w.buf p bs)
    {off width : Nat} (v : Nat) (hdisj : off + width ≤ p ∨ p + bs.length ≤ off) :
    BytesAt (w.patch off width v).buf p bs :=
  h.frame (Nat.le_of_eq (size_patch w off width v).symm) fun i hi1 hi2 => by
    rw [byteAt_patch, if_neg (by omega)]

theorem bytesAt_patch_self (w : Writer) {off width : Nat} (v : Nat) (h : off + width ≤ w.buf.size) :
    BytesAt (w.patch off width v).buf off (leBytes v width) := by
  refine ⟨by rw [size_patch, leBytes_length]; exact h, fun i hi => ?_⟩
  rw [leBytes_length] at hi
  rw [byteAt_patch, if_pos (by omega), Nat.add_sub_cancel_left, List.getD_eq_getElem?_getD,
    List.getElem?_eq_getElem (by rw [leBytes_length]; exact hi)]
  rfl

/-! ## Writers -/

namespace Writer

@[simp] theorem buf_bytes (w : Writer) (bs : List UInt8) : (w.bytes bs).buf = w.buf ++ bs.toByteArray := by
  simp [bytes, foldl_push_eq]

@[simp] theorem buf_append (w : Writer) (bs : ByteArray) : (w.append bs).buf = w.buf ++ bs := rfl

@[simp] theorem len_eq (w : Writer) : w.len = w.buf.size := rfl

theorem int_eq (w : Writer) (width v : Nat) : w.int width v = w.bytes (leBytes v width) := rfl

theorem zero_eq (w : Writer) (n : Nat) : w.zero n = w.bytes (List.replicate n 0) := rfl

theorem align_eq (w : Writer) (n : Nat) :
    w.align n = w.bytes (List.replicate (if n ≤ 1 then 0 else (n - w.len % n) % n) 0) := by
  unfold align
  split
  · simp [bytes]
  · rfl

theorem buf_cstring (w : Writer) (s : String) :
    (w.cstring s).buf = w.buf ++ (s.toList.flatMap String.utf8EncodeChar ++ [0]).toByteArray := by
  rw [cstring, u8, int_eq, buf_bytes, buf_append, Text.Utf8.toUTF8_eq_flatMap,
    ByteArray.append_assoc, ← List.toByteArray_append]
  rfl

end Writer

/-! ## Reading strings -/

namespace Image

theorem nulFrom_eq {im : Image} {j : Nat} (hj : j < im.limit) (hz : byteAt im.data j = 0) :
    ∀ i, i ≤ j → (∀ k, i ≤ k → k < j → byteAt im.data k ≠ 0) → im.nulFrom i = some j := by
  suffices h : ∀ d i, j - i = d → i ≤ j → (∀ k, i ≤ k → k < j → byteAt im.data k ≠ 0) →
      im.nulFrom i = some j from fun i => h _ i rfl
  intro d
  induction d with
  | zero =>
      intro i hd hij _
      have : i = j := by omega
      subst this
      rw [nulFrom, dif_pos hj]
      simp [hz]
  | succ d ih =>
      intro i hd hij hnz
      rw [nulFrom, dif_pos (by omega)]
      have hi : byteAt im.data i ≠ 0 := hnz i (Nat.le_refl i) (by omega)
      simp only [hi, beq_iff_eq, if_false]
      exact ih (i + 1) (by omega) (by omega) fun k h1 h2 => hnz k (by omega) h2

theorem cstring?_eq {im : Image} {off : Nat} {s : String} (hs : '\x00' ∉ s.toList)
    (hoff : 0 < off)
    (hb : BytesAt im.data off (s.toList.flatMap String.utf8EncodeChar ++ [0]))
    (hlim : off + (s.toList.flatMap String.utf8EncodeChar).length + 1 ≤ im.limit) :
    im.cstring? off = some s := by
  have hnz := Text.Utf8.flatMap_encodeChar_ne_zero hs
  obtain ⟨bs, hbs⟩ : ∃ bs, s.toList.flatMap String.utf8EncodeChar = bs := ⟨_, rfl⟩
  rw [hbs] at hb hlim hnz
  have hbytes := (BytesAt.append_iff.1 hb)
  have hnul : im.nulFrom off = some (off + bs.length) := by
    refine nulFrom_eq (by omega) ?_ off (by omega) fun k h1 h2 => ?_
    · simpa using hbytes.2.2 0 (by simp)
    · rw [show k = off + (k - off) by omega, hbytes.1.2 (k - off) (by omega)]
      intro h0
      exact hnz _ (List.getElem_mem _) (UInt8.toNat_inj.1 (by simpa using h0))
  simp only [cstring?, cbytes?, hnul, Option.map_some]
  rw [if_neg (by simp; omega), hbytes.1.extract_eq, ← hbs, ← Text.Utf8.toUTF8_eq_flatMap]
  exact congrArg some (Text.Utf8.lossy_toUTF8 s)

end Image

end Introspection.Typelib
