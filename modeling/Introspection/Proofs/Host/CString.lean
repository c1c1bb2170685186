import Mathlib
import Introspection.Proofs.Marshal.ByteAccess
import Introspection.Proofs.Host.HeapInvariant

/-!
# Reading C strings from the heap

`Heap.readCString` reads 64 bytes at a time from the start address; where such a chunk runs
past the store it reads the next byte alone, and it gives up once `maxCString` bytes hold no
NUL. `scan_eq_scanBytes` shows that the chunks change nothing: the reader gives what reading one
byte at a time gives (`scanBytes`), wherever the NUL and the end of the store fall. A chunk is
read only from a multiple of 64, until the first chunk that runs past the store, after which
every chunk does, so no chunk reaches past the bound.

From the byte reader, `readCString_eq_ok_iff` says exactly when a read succeeds: the bytes up to
the first NUL are readable, fewer than `maxCString`, and the NUL is readable
(`IsCStringAt`). An unreadable byte before any NUL fails the read with that byte's failure,
and `maxCString` readable bytes without a NUL fail it with `noTerminator`. A string written by
`writeCString` reads back when it has no NUL and is shorter than the bound
(`readCString_writeCString`); a longer one does not (`long_cstring_not_read_back`).
-/

namespace Introspection.Host.Heap

/-! ## Single bytes -/

theorem get!_eq_getElem! (s : ByteArray) (k : Nat) : s.get! k = s[k]! := by
  by_cases hk : k < s.size
  · rw [get!_eq_getElem _ hk, getElem!_pos s k hk]
  · rw [getElem!_neg s k hk]
    simp [ByteArray.get!, hk]

theorem readU8_eq (h : Heap) (p : Nat) :
    h.readU8 p = if h.Fits p 1 then .ok h.data[p - heapBase]! else .error (h.outside p) := by
  unfold readU8
  rw [span_eq]
  split_ifs
  · simp [get!_eq_getElem!]
  · rfl

theorem getElem!_extract (d : ByteArray) {start stop j : Nat} (hj : j < (d.extract start stop).size) :
    (d.extract start stop)[j]! = d[start + j]! := by
  have hlt : start + j < d.size := by rw [ByteArray.size_extract] at hj; omega
  rw [getElem!_pos d (start + j) hlt]
  generalize he : d.extract start stop = e at hj
  rw [getElem!_pos e j hj]
  subst he
  exact ByteArray.getElem_extract hj

theorem readU8_of_read {h : Heap} {p n : Nat} {data : ByteArray} (hr : h.read p n = .ok data)
    {j : Nat} (hj : j < n) : h.readU8 (p + j) = .ok data[j]! := by
  rw [read_eq] at hr
  split at hr
  · rename_i hfit
    simp only [Except.ok.injEq] at hr
    subst hr
    unfold Fits at hfit
    have hsize : j < (h.data.extract (p - heapBase) (p - heapBase + n)).size := by
      rw [ByteArray.size_extract]
      omega
    have hoff : p + j - heapBase = p - heapBase + j := by omega
    rw [readU8_eq, if_pos (by unfold Fits; omega), hoff, getElem!_extract _ hsize]
  · cases hr

theorem not_fits_succ {h : Heap} {p : Nat} (hchunk : ¬ h.Fits p 64) (hbyte : h.Fits p 1) :
    ¬ h.Fits (p + 1) 64 := by
  unfold Fits at *
  omega

theorem fits_of_readU8 {h : Heap} {p : Nat} {b : UInt8} (hb : h.readU8 p = .ok b) :
    h.Fits p 1 := by
  rw [readU8_eq] at hb
  split at hb
  · assumption
  · cases hb

/-! ## Reading byte by byte -/

/-- The bytes from `a` on, after those of `buf`, read one at a time up to a NUL within
`maxCString` bytes: what `readCString` reads, without its chunks. -/
def scanBytes (h : Heap) (a : Nat) (buf : ByteArray) : Except Failure ByteArray :=
  if _hn : buf.size < maxCString then
    match h.readU8 (a + buf.size) with
    | .error e => .error e
    | .ok b => if b == 0 then .ok buf else scanBytes h a (buf.push b)
  else .error noTerminator
termination_by maxCString - buf.size
decreasing_by simp only [ByteArray.size_push]; omega

section Scan

variable {h : Heap} {a : Nat} {buf : ByteArray}

theorem scanBytes_error (hn : buf.size < maxCString) {e : Failure}
    (hb : h.readU8 (a + buf.size) = .error e) : scanBytes h a buf = .error e := by
  rw [scanBytes, dif_pos hn, hb]

theorem scanBytes_nul (hn : buf.size < maxCString) (hb : h.readU8 (a + buf.size) = .ok 0) :
    scanBytes h a buf = .ok buf := by
  rw [scanBytes, dif_pos hn, hb]
  rfl

theorem scanBytes_byte (hn : buf.size < maxCString) {b : UInt8}
    (hb : h.readU8 (a + buf.size) = .ok b) (hb0 : b ≠ 0) :
    scanBytes h a buf = scanBytes h a (buf.push b) := by
  rw [scanBytes, dif_pos hn, hb]
  simp [hb0]

theorem scanBytes_bound (hn : ¬ buf.size < maxCString) : scanBytes h a buf = .error noTerminator := by
  rw [scanBytes, dif_neg hn]

theorem push_extract (buf d : ByteArray) {m : Nat} (hm : m < d.size) :
    (buf ++ d.extract 0 m).push d[m]! = buf ++ d.extract 0 (m + 1) := by
  have hsplit : d.extract 0 (m + 1) = d.extract 0 m ++ d.extract m (m + 1) := by
    rw [ByteArray.extract_append_extract, Nat.min_eq_left (Nat.zero_le m),
      Nat.max_eq_right (Nat.le_succ m)]
  rw [hsplit, ← ByteArray.append_assoc, ByteArray.extract_add_one (by omega),
    ByteArray.append_toByteArray_singleton, getElem!_pos d m hm]

theorem scanBytes_skip (d : ByteArray) : ∀ m, m ≤ d.size → buf.size + m ≤ maxCString →
    (∀ j < m, h.readU8 (a + (buf.size + j)) = .ok d[j]! ∧ d[j]! ≠ 0) →
    scanBytes h a buf = scanBytes h a (buf ++ d.extract 0 m)
  | 0, _, _, _ => by rw [ByteArray.extract_same, ByteArray.append_empty]
  | m + 1, hm, hroom, hbytes => by
    have hsize : (buf ++ d.extract 0 m).size = buf.size + m := by
      rw [ByteArray.size_append, ByteArray.size_extract]
      omega
    obtain ⟨hb, hb0⟩ := hbytes m (by omega)
    rw [scanBytes_skip d m (by omega) (by omega) fun j hj => hbytes j (by omega),
      scanBytes_byte (by omega) (by rw [hsize]; exact hb) hb0, push_extract buf d (by omega)]

end Scan

/-! ## Chunks and single bytes -/

theorem getElem_toList (d : ByteArray) {j : Nat} (hj : j < d.toList.length) :
    d.toList[j] = d[j]! := by
  have hlt : j < d.size := by simpa [Host.toList_eq_data_toList] using hj
  rw [getElem!_pos d j hlt]
  simp [Host.toList_eq_data_toList, ByteArray.getElem_eq_getElem_data]

section Chunks

variable {h : Heap} {a : Nat}

theorem scan_eq_scanBytes (buf : ByteArray)
    (hal : buf.size % 64 = 0 ∨ ¬ h.Fits (a + buf.size) 64) :
    readCString.scan h a buf = scanBytes h a buf := by
  fun_induction readCString.scan h a buf with
  | case1 buf hn e hr ih =>
    have hchunk : ¬ h.Fits (a + buf.size) 64 := by
      rw [read_eq] at hr
      split at hr
      · cases hr
      · assumption
    cases hb : h.readU8 (a + buf.size) with
    | error e' => rw [scanBytes_error hn hb]; rfl
    | ok b =>
      by_cases hb0 : b = 0
      · subst hb0
        rw [scanBytes_nul hn hb]
        rfl
      · have hnext : ¬ h.Fits (a + (buf.push b).size) 64 := by
          rw [ByteArray.size_push, ← Nat.add_assoc]
          exact not_fits_succ hchunk (fits_of_readU8 hb)
        rw [scanBytes_byte hn hb hb0, ← ih b (.inr hnext)]
        simp [bind, Except.bind, hb0]
  | case2 buf hn data hr i hi =>
    have hsize := size_of_read_ok hr
    have hstart : buf.size % 64 = 0 := by
      refine hal.resolve_right fun hout => hout ?_
      rw [read_eq] at hr
      split at hr
      · assumption
      · cases hr
    obtain ⟨hil, hnul, hbefore⟩ := List.findIdx?_eq_some_iff_getElem.1 hi
    have hil' : i < 64 := by simpa [Host.toList_eq_data_toList, hsize] using hil
    have hroom : buf.size + 64 ≤ maxCString := by unfold maxCString at hn ⊢; omega
    have hbytes : ∀ j < i, h.readU8 (a + (buf.size + j)) = .ok data[j]! ∧ data[j]! ≠ 0 := by
      intro j hj
      refine ⟨by rw [← Nat.add_assoc]; exact readU8_of_read hr (by omega), fun h0 => ?_⟩
      have hj' : j < data.toList.length := by omega
      apply hbefore j hj
      rw [getElem_toList, h0]
      rfl
    have hsz : (buf ++ data.extract 0 i).size = buf.size + i := by
      rw [ByteArray.size_append, ByteArray.size_extract]
      omega
    have hz : data[i]! = 0 := by
      rw [← getElem_toList data hil]
      simpa using hnul
    have hzero : h.readU8 (a + (buf ++ data.extract 0 i).size) = .ok 0 := by
      rw [hsz, ← Nat.add_assoc, readU8_of_read hr hil', hz]
    rw [scanBytes_skip data i (by omega) (by omega) hbytes, scanBytes_nul (by omega) hzero]
  | case3 buf hn data hr hnone ih =>
    have hsize := size_of_read_ok hr
    have hstart : buf.size % 64 = 0 := by
      refine hal.resolve_right fun hout => hout ?_
      rw [read_eq] at hr
      split at hr
      · assumption
      · cases hr
    have hroom : buf.size + 64 ≤ maxCString := by unfold maxCString at hn ⊢; omega
    have hbytes : ∀ j < 64, h.readU8 (a + (buf.size + j)) = .ok data[j]! ∧ data[j]! ≠ 0 := by
      intro j hj
      refine ⟨by rw [← Nat.add_assoc]; exact readU8_of_read hr hj, fun h0 => ?_⟩
      have hmem : data[j]! ∈ data.toList := by
        rw [getElem!_pos data j (by omega), Host.toList_eq_data_toList,
          ByteArray.getElem_eq_getElem_data]
        exact Array.getElem_mem_toList _
      have := List.findIdx?_eq_none_iff.1 hnone _ hmem
      rw [h0] at this
      exact absurd this (by decide)
    have hall : buf ++ data = buf ++ data.extract 0 64 := by
      rw [← hsize, ByteArray.extract_zero_size]
    rw [ih (.inl (by rw [ByteArray.size_append, hsize]; omega)), hall,
      ← scanBytes_skip data 64 (by omega) hroom hbytes]
  | case4 buf hn => rw [scanBytes_bound hn]

end Chunks

/-! ## What is read -/

/-- The C string at `a` is `s`: fewer than `maxCString` bytes, each readable and not NUL, then a
readable NUL. -/
def IsCStringAt (h : Heap) (a : Nat) (s : ByteArray) : Prop :=
  s.size < maxCString ∧ (∀ j < s.size, h.readU8 (a + j) = .ok s[j]! ∧ s[j]! ≠ 0) ∧
    h.readU8 (a + s.size) = .ok 0

section Spec

variable {h : Heap} {a : Nat} {s : ByteArray}

theorem scanBytes_sound {buf : ByteArray} (hs : scanBytes h a buf = .ok s)
    (hbuf : ∀ j < buf.size, h.readU8 (a + j) = .ok buf[j]! ∧ buf[j]! ≠ 0) :
    IsCStringAt h a s := by
  fun_induction scanBytes h a buf with
  | case1 => cases hs
  | case2 buf hn b hb hb0 =>
    cases hs
    have hb0' : b = 0 := by simpa using hb0
    exact ⟨hn, hbuf, hb0' ▸ hb⟩
  | case3 buf hn b hb hb0 ih =>
    refine ih hs fun j hj => ?_
    rw [ByteArray.size_push] at hj
    rw [ByteArray.getElem!_push]
    split
    · subst j
      exact ⟨hb, by simpa using hb0⟩
    · exact hbuf j (by omega)
  | case4 => cases hs

theorem scanBytes_complete (hs : IsCStringAt h a s) {buf : ByteArray} (hle : buf.size ≤ s.size)
    (hpre : ∀ j < buf.size, buf[j]! = s[j]!) : scanBytes h a buf = .ok s := by
  obtain ⟨hlen, hbytes, hnul⟩ := hs
  fun_induction scanBytes h a buf with
  | case1 buf hn e hb =>
    rcases Nat.lt_or_ge buf.size s.size with hlt | hge
    · rw [(hbytes _ hlt).1] at hb
      cases hb
    · rw [show buf.size = s.size by omega, hnul] at hb
      cases hb
  | case2 buf hn b hb hb0 =>
    have hb0' : b = 0 := by simpa using hb0
    have heq : buf.size = s.size := by
      refine (Nat.lt_or_eq_of_le hle).resolve_left fun hlt => (hbytes _ hlt).2 ?_
      have := (hbytes _ hlt).1
      rw [hb] at this
      cases this
      exact hb0'
    congr 1
    apply ByteArray.ext_getElem heq
    intro j hj hj'
    rw [← getElem!_pos buf j hj, ← getElem!_pos s j hj', hpre j hj]
  | case3 buf hn b hb hb0 ih =>
    have hlt : buf.size < s.size := by
      refine (Nat.lt_or_eq_of_le hle).resolve_right fun heq => hb0 ?_
      rw [heq, hnul] at hb
      cases hb
      rfl
    have hbs : b = s[buf.size]! := by
      have := (hbytes _ hlt).1
      rw [hb] at this
      cases this
      rfl
    refine ih (by rw [ByteArray.size_push]; omega) fun j hj => ?_
    rw [ByteArray.size_push] at hj
    rw [ByteArray.getElem!_push]
    split
    · subst j
      exact hbs
    · exact hpre j (by omega)
  | case4 buf hn => exact absurd (Nat.lt_of_le_of_lt hle hlen) hn

theorem readCString_eq_scanBytes (ha : a ≠ 0) : h.readCString a = scanBytes h a .empty := by
  rw [readCString, if_neg (by simpa using ha)]
  exact scan_eq_scanBytes _ (.inl rfl)

theorem readCString_eq_ok_iff (ha : a ≠ 0) : h.readCString a = .ok s ↔ IsCStringAt h a s := by
  rw [readCString_eq_scanBytes ha]
  exact ⟨fun hs => scanBytes_sound hs fun j hj => absurd hj (by simp),
    fun hs => scanBytes_complete hs (by simp) fun j hj => absurd hj (by simp)⟩

theorem scanBytes_no_nul {buf : ByteArray}
    (hall : ∀ j, buf.size ≤ j → j < maxCString → ∃ b, h.readU8 (a + j) = .ok b ∧ b ≠ 0) :
    scanBytes h a buf = .error noTerminator := by
  fun_induction scanBytes h a buf with
  | case1 buf hn e hb =>
    obtain ⟨b, hb', -⟩ := hall buf.size le_rfl hn
    rw [hb] at hb'
    cases hb'
  | case2 buf hn b hb hb0 =>
    obtain ⟨b', hb', hne⟩ := hall buf.size le_rfl hn
    rw [hb] at hb'
    cases hb'
    exact absurd (by simpa using hb0) hne
  | case3 buf hn b hb hb0 ih =>
    exact ih fun j hj hjm => hall j (by rw [ByteArray.size_push] at hj; omega) hjm
  | case4 => rfl

theorem scanBytes_unreadable {buf : ByteArray} {k : Nat} {e : Failure} (hk : k < maxCString)
    (hle : buf.size ≤ k) (hbad : h.readU8 (a + k) = .error e)
    (hbefore : ∀ j, buf.size ≤ j → j < k → ∃ b, h.readU8 (a + j) = .ok b ∧ b ≠ 0) :
    scanBytes h a buf = .error e := by
  fun_induction scanBytes h a buf with
  | case1 buf hn e' hb =>
    rcases Nat.lt_or_eq_of_le hle with hlt | heq
    · obtain ⟨b, hb', -⟩ := hbefore buf.size le_rfl hlt
      rw [hb] at hb'
      cases hb'
    · rw [heq, hbad] at hb
      cases hb
      rfl
  | case2 buf hn b hb hb0 =>
    rcases Nat.lt_or_eq_of_le hle with hlt | heq
    · obtain ⟨b', hb', hne⟩ := hbefore buf.size le_rfl hlt
      rw [hb] at hb'
      cases hb'
      exact absurd (by simpa using hb0) hne
    · rw [heq, hbad] at hb
      cases hb
  | case3 buf hn b hb hb0 ih =>
    rcases Nat.lt_or_eq_of_le hle with hlt | heq
    · exact ih (by rw [ByteArray.size_push]; omega)
        fun j hj hjk => hbefore j (by rw [ByteArray.size_push] at hj; omega) hjk
    · rw [heq, hbad] at hb
      cases hb
  | case4 buf hn => exact absurd (Nat.lt_of_le_of_lt hle hk) hn

end Spec

/-! ## Written strings -/

section Written

variable {h h' : Heap} {a : Nat}

theorem getElem!_copySlice (src dest : ByteArray) {off j : Nat} (h : off + src.size ≤ dest.size)
    (hj : off ≤ j) (hj' : j < off + src.size) :
    (src.copySlice 0 dest off src.size)[j]! = src[j - off]! := by
  have hlt : j < (src.copySlice 0 dest off src.size).size := by
    rw [size_copySlice src dest h]
    omega
  have hget := getElem_copySlice src dest h hlt (by omega)
  rw [dif_pos ⟨hj, hj'⟩] at hget
  rw [getElem!_pos src (j - off) (by omega)]
  generalize hc : src.copySlice 0 dest off src.size = c at hlt hget
  rw [getElem!_pos c j hlt, hget]

theorem readU8_written {bytes : ByteArray} (hw : h.write a bytes = .ok h') {j : Nat}
    (hj : j < bytes.size) : h'.readU8 (a + j) = .ok bytes[j]! := by
  rw [write_eq] at hw
  split at hw
  · rename_i hfit
    simp only [Except.ok.injEq] at hw
    subst hw
    unfold Fits at hfit
    have hsize := @size_copySlice bytes h.data (a - heapBase) (by omega)
    have hoff : a + j - heapBase = a - heapBase + j := by omega
    rw [readU8_eq, if_pos (by unfold Fits; dsimp only; rw [hsize]; omega), hoff,
      getElem!_copySlice bytes h.data (by omega) (by omega) (by omega), Nat.add_sub_cancel_left]
  · cases hw

theorem writeCString_eq_ok {s : ByteArray} :
    h.writeCString s = .ok (a, h') ↔
      ∃ h₁, h.alloc (s.size + 1) 1 = .ok (a, h₁) ∧ h₁.write a (s.push 0) = .ok h' := by
  unfold writeCString
  cases halloc : h.alloc (s.size + 1) 1 with
  | error e => simp [bind, Except.bind]
  | ok r =>
    obtain ⟨a₁, h₁⟩ := r
    cases hwrite : h₁.write a₁ (s.push 0) with
    | error e =>
      simp only [bind, Except.bind, hwrite, reduceCtorEq, false_iff, not_exists, not_and,
        Except.ok.injEq, Prod.mk.injEq]
      rintro h₃ ⟨rfl, rfl⟩ hw
      rw [hwrite] at hw
      cases hw
    | ok h₂ =>
      simp only [bind, Except.bind, hwrite, pure, Except.pure, Except.ok.injEq, Prod.mk.injEq]
      constructor
      · rintro ⟨rfl, rfl⟩
        exact ⟨h₁, ⟨rfl, rfl⟩, hwrite⟩
      · rintro ⟨h₃, ⟨rfl, rfl⟩, hw⟩
        rw [hwrite] at hw
        cases hw
        exact ⟨rfl, rfl⟩

theorem isCStringAt_of_write {s : ByteArray} (hw : h.write a (s.push 0) = .ok h')
    (hlen : s.size < maxCString) (hnul : ∀ j < s.size, s[j]! ≠ 0) :
    a ≠ 0 ∧ IsCStringAt h' a s := by
  have ha : a ≠ 0 := by
    rw [write_eq] at hw
    split at hw
    · rename_i hfit
      unfold Fits heapBase at hfit
      omega
    · cases hw
  have hsize : (s.push 0).size = s.size + 1 := ByteArray.size_push
  refine ⟨ha, hlen, fun j hj => ?_, ?_⟩
  · rw [readU8_written hw (by omega), ByteArray.getElem!_push_lt s 0 j hj]
    exact ⟨rfl, hnul j hj⟩
  · rw [readU8_written hw (by omega), ByteArray.getElem!_push_eq]

theorem readCString_writeCString {s : ByteArray} (hw : h.writeCString s = .ok (a, h'))
    (hlen : s.size < maxCString) (hnul : ∀ j < s.size, s[j]! ≠ 0) :
    h'.readCString a = .ok s := by
  obtain ⟨h₁, -, hwrite⟩ := writeCString_eq_ok.1 hw
  obtain ⟨ha, hs⟩ := isCStringAt_of_write hwrite hlen hnul
  exact (readCString_eq_ok_iff ha).2 hs

theorem fits_heapBase {h : Heap} {n : Nat} (hn : n ≤ h.data.size) (hw : heapBase + n < 2 ^ 64) :
    h.Fits heapBase n :=
  ⟨le_rfl, by rw [Nat.sub_self, Nat.zero_add]; exact hn, hw⟩

theorem alloc_create (ptrSize : Nat) {n : Nat} (hn : 0 < n) (hlim : n ≤ defaultHeapLimit) :
    ∃ h₁, (create ptrSize 0).alloc n 1 = .ok (heapBase, h₁) ∧ n ≤ h₁.data.size := by
  have hneed : (if n == 0 then 1 else n) = n := by simp; omega
  have htake : takeFree (create ptrSize 0).free n 1 = none := rfl
  unfold alloc
  rw [if_neg (by decide), hneed]
  dsimp only
  rw [htake]
  dsimp only
  rw [alignUp_one, if_neg (by simp [create, defaultHeapLimit] at hlim ⊢; omega)]
  refine ⟨_, rfl, ?_⟩
  rw [claim, size_zeroRange]
  dsimp only
  have htop : (create ptrSize 0).top = heapBase := rfl
  have hsub : (create ptrSize 0).top + n - heapBase = n := by rw [htop]; exact Nat.add_sub_cancel_left _ _
  calc n = (create ptrSize 0).top + n - heapBase := hsub.symm
    _ ≤ _ := (size_growTo _ _).2

end Written

/-! ## Reading up to the NUL -/

/-- At a non-null address, a C string is read exactly when its bytes before the first NUL are
readable, fewer than `maxCString`, and the NUL is readable; an unreadable byte before any NUL
fails the read with that byte's failure, and `maxCString` readable bytes without a NUL fail it
at the bound. A written string without NUL bytes, shorter than the bound, reads back. -/
theorem readCString_reads_to_nul :
    (∀ (h : Heap) (a : Nat) (s : ByteArray), a ≠ 0 →
      (h.readCString a = .ok s ↔ IsCStringAt h a s)) ∧
    (∀ (h : Heap) (a k : Nat) (e : Failure), a ≠ 0 → k < maxCString →
      (∀ j < k, ∃ b, h.readU8 (a + j) = .ok b ∧ b ≠ 0) → h.readU8 (a + k) = .error e →
      h.readCString a = .error e) ∧
    (∀ (h : Heap) (a : Nat), a ≠ 0 →
      (∀ j < maxCString, ∃ b, h.readU8 (a + j) = .ok b ∧ b ≠ 0) →
      h.readCString a = .error noTerminator) ∧
    (∀ (h h' : Heap) (s : ByteArray) (a : Nat), h.writeCString s = .ok (a, h') →
      s.size < maxCString → (∀ j < s.size, s[j]! ≠ 0) → h'.readCString a = .ok s) := by
  refine ⟨fun h a s ha => readCString_eq_ok_iff ha, ?_, ?_, ?_⟩
  · intro h a k e ha hk hbefore hbad
    rw [readCString_eq_scanBytes ha]
    exact scanBytes_unreadable hk (Nat.zero_le k) hbad fun j _ hj => hbefore j hj
  · intro h a ha hall
    rw [readCString_eq_scanBytes ha]
    exact scanBytes_no_nul fun j _ hj => hall j hj
  · intro h h' s a hw hlen hnul
    exact readCString_writeCString hw hlen hnul

/-- The string `hi` written on a fresh heap reads back. -/
theorem short_cstring_read_back :
    ∃ a h', (create 8 0).writeCString ⟨#[104, 105]⟩ = .ok (a, h') ∧
      h'.readCString a = .ok ⟨#[104, 105]⟩ := by
  obtain ⟨h₁, halloc, hroom⟩ := @alloc_create 8 3 (by decide) (by decide)
  obtain ⟨h', hwrite⟩ : ∃ h', h₁.write heapBase (ByteArray.push ⟨#[104, 105]⟩ 0) = .ok h' := by
    have hsize : (ByteArray.push ⟨#[104, 105]⟩ 0).size = 3 := rfl
    rw [write_eq, if_pos (fits_heapBase (hsize ▸ hroom) (by rw [hsize]; decide))]
    exact ⟨_, rfl⟩
  have hw : (create 8 0).writeCString ⟨#[104, 105]⟩ = .ok (heapBase, h') :=
    writeCString_eq_ok.2 ⟨h₁, halloc, hwrite⟩
  have hlen : (ByteArray.mk #[104, 105]).size < maxCString := by
    rw [show (ByteArray.mk #[104, 105]).size = 2 from rfl]
    unfold maxCString
    omega
  have hnul : ∀ j < (ByteArray.mk #[104, 105]).size, (ByteArray.mk #[104, 105])[j]! ≠ 0 := by
    decide
  exact ⟨heapBase, h', hw, readCString_reads_to_nul.2.2.2 _ _ _ _ hw hlen hnul⟩

theorem noTerminator_eq : noTerminator = .plain "read string: no terminator within 16777216 bytes" :=
  rfl

/-- A string of `maxCString` bytes, none of them NUL, is written on a fresh heap but does not
read back: the reader finds no NUL within the bound. -/
theorem long_cstring_not_read_back :
    ∃ a h', (create 8 0).writeCString ⟨Array.replicate maxCString 97⟩ = .ok (a, h') ∧
      h'.readCString a = .error (.plain "read string: no terminator within 16777216 bytes") := by
  have hsize : (ByteArray.mk (Array.replicate maxCString 97)).size = maxCString :=
    Array.size_replicate
  obtain ⟨h₁, halloc, hroom⟩ := @alloc_create 8 (maxCString + 1) (by omega)
    (by unfold maxCString defaultHeapLimit; omega)
  rw [← hsize] at halloc hroom
  obtain ⟨h', hwrite⟩ :
      ∃ h', h₁.write heapBase (ByteArray.push ⟨Array.replicate maxCString 97⟩ 0) = .ok h' := by
    have hpush : (ByteArray.push ⟨Array.replicate maxCString 97⟩ 0).size = maxCString + 1 := by
      rw [ByteArray.size_push, hsize]
    rw [write_eq, if_pos (fits_heapBase (by rw [hpush]; rw [hsize] at hroom; exact hroom)
      (by rw [hpush]; unfold heapBase maxCString; omega))]
    exact ⟨_, rfl⟩
  have hw : (create 8 0).writeCString ⟨Array.replicate maxCString 97⟩ = .ok (heapBase, h') :=
    writeCString_eq_ok.2 ⟨h₁, halloc, hwrite⟩
  refine ⟨heapBase, h', hw, ?_⟩
  have hbyte : ∀ j < maxCString, h'.readU8 (heapBase + j) = .ok 97 := by
    intro j hj
    have hlt : j < (ByteArray.mk (Array.replicate maxCString 97)).size := by rw [hsize]; exact hj
    rw [readU8_written hwrite (by rw [ByteArray.size_push]; omega),
      ByteArray.getElem!_push_lt _ _ _ hlt]
    generalize hr : ByteArray.mk (Array.replicate maxCString 97) = r at hlt
    rw [getElem!_pos r j hlt]
    subst hr
    simp [ByteArray.getElem_eq_getElem_data]
  rw [readCString_eq_scanBytes (by decide),
    scanBytes_no_nul fun j _ hj => ⟨97, hbyte j hj, by decide⟩, noTerminator_eq]

end Introspection.Host.Heap

namespace Introspection.Marshal

open Introspection.Loaded Introspection.Loaded.Session Introspection.Host
open Introspection.Invoke.Session (run_bind)

theorem run_readCString_host {s : Session} {h lib : Nat}
    (hb : (s.handles.getD h default).backing = .host lib) (a : Nat) :
    (readCString h a).run s = ((libHeap s lib).readCString a, s) := by
  unfold readCString readHeap
  simp only [run_bind, run_handle, hb, run_hostOf, run_library, run_lift]
  rfl

end Introspection.Marshal
