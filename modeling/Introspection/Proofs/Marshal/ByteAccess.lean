import Mathlib
import Introspection.Proofs.Marshal.ResultScopes

/-!
# Bulk memory access, one byte at a time

The memory behind a host handle is the store of its library's heap. A span of bytes lies in the
store when it starts at or after the heap base, ends inside the data and below `2 ^ 64`
(`Heap.Fits`); reads and writes check exactly that, and the null address of a shared object's
memory is refused before (`refusesAt`).

Writing bytes is writing the first and then the rest one address on, both in a heap
(`Heap.write_cons`) and through a handle (`returns_write_cons`), and a one-byte load reads the
byte of the store (`Heap.readLE_one`, `returns_load_byte`). Runs are compared by what they
return: `returns` forgets how a run failed and keeps the value and the session of a run that
returned.
-/

namespace Introspection.Host

theorem toList_loop_eq (b : ByteArray) (i : Nat) (r : List UInt8) :
    ByteArray.toList.loop b i r = r.reverse ++ b.data.toList.drop i := by
  fun_induction ByteArray.toList.loop b i r with
  | case1 i r h ih =>
      have hi : i < b.data.toList.length := by simpa using h
      rw [ih, List.drop_eq_getElem_cons hi, List.reverse_cons, List.append_assoc,
        List.singleton_append]
      congr 2
      rcases b with ⟨bs⟩
      exact (getElem!_pos bs i h).trans (by simp)
  | case2 i r h =>
      rw [List.drop_eq_nil_of_le (by simpa using Nat.le_of_not_lt h), List.append_nil]

theorem toList_eq_data_toList (b : ByteArray) : b.toList = b.data.toList := by
  rw [ByteArray.toList, toList_loop_eq]
  rfl

theorem get!_eq_getElem (b : ByteArray) {i : Nat} (hi : i < b.size) : b.get! i = b[i] := by
  rcases b with ⟨bs⟩
  exact getElem!_pos bs i hi

namespace Heap

/-! ## Copies and spans -/

theorem getElem_copySlice (src dest : ByteArray) {off j : Nat} (h : off + src.size ≤ dest.size)
    (hj : j < (src.copySlice 0 dest off src.size).size) (hj₀ : j < dest.size) :
    (src.copySlice 0 dest off src.size)[j] =
      if hin : off ≤ j ∧ j < off + src.size then src[j - off] else dest[j] := by
  have hs : src.size = src.data.size := rfl
  have hd : dest.size = dest.data.size := rfl
  simp only [ByteArray.getElem_eq_getElem_data, ByteArray.data_copySlice, Array.getElem_append,
    Array.getElem_extract, Array.size_append, Array.size_extract]
  split_ifs <;> first | (exfalso; omega) | (congr 1; omega)

theorem copySlice_cons (x : UInt8) (xs : List UInt8) (d : ByteArray) {off : Nat}
    (h : off + xs.length + 1 ≤ d.size) :
    (⟨⟨x :: xs⟩⟩ : ByteArray).copySlice 0 d off (⟨⟨x :: xs⟩⟩ : ByteArray).size =
      (⟨⟨xs⟩⟩ : ByteArray).copySlice 0
        ((⟨#[x]⟩ : ByteArray).copySlice 0 d off (⟨#[x]⟩ : ByteArray).size)
        (off + 1) (⟨⟨xs⟩⟩ : ByteArray).size := by
  have hsz : ∀ l : List UInt8, (⟨⟨l⟩⟩ : ByteArray).size = l.length := fun _ => rfl
  have h₁ := @size_copySlice ⟨#[x]⟩ d off (by rw [hsz]; simp; omega)
  apply ByteArray.ext_getElem
  · rw [size_copySlice _ _ (by rw [hsz]; simp; omega), size_copySlice _ _ (by rw [hsz, h₁]; omega),
      h₁]
  · intro j hj hj'
    have hj₀ : j < d.size := by rwa [size_copySlice _ _ (by rw [hsz]; simp; omega)] at hj
    rw [getElem_copySlice _ _ (by rw [hsz]; simp; omega) hj hj₀,
      getElem_copySlice _ _ (by rw [hsz, h₁]; omega) hj' (by rw [h₁]; exact hj₀),
      getElem_copySlice _ _ (by rw [hsz]; simp; omega) (by rw [h₁]; exact hj₀) hj₀]
    simp only [hsz, List.length_cons, List.length_nil]
    split_ifs
    ·
      have hk : j - off = j - (off + 1) + 1 := by omega
      simp only [ByteArray.getElem_eq_getElem_data, List.getElem_toArray, hk,
        List.getElem_cons_succ]
    ·
      have hk : j - off = 0 := by omega
      simp only [ByteArray.getElem_eq_getElem_data, List.getElem_toArray, hk]
      rfl
    · omega
    · omega
    · omega
    · rfl

/-- `n` bytes at `addr` lie in the store. -/
def Fits (h : Heap) (addr n : Nat) : Prop :=
  heapBase ≤ addr ∧ addr - heapBase + n ≤ h.data.size ∧ addr + n < 2 ^ 64

instance (h : Heap) (addr n : Nat) : Decidable (h.Fits addr n) :=
  inferInstanceAs (Decidable (_ ∧ _ ∧ _))

theorem fits_congr {h h' : Heap} (hs : h'.data.size = h.data.size) (addr n : Nat) :
    h'.Fits addr n ↔ h.Fits addr n := by
  unfold Fits
  rw [hs]

theorem span_eq (h : Heap) (addr n : Nat) :
    h.span addr n = if h.Fits addr n then .ok (addr - heapBase) else .error (h.outside addr) := by
  unfold span
  by_cases hfit : h.Fits addr n
  · rw [if_pos hfit, if_neg]
    simp only [Fits, Bool.or_eq_true, decide_eq_true_eq, not_or] at hfit ⊢
    omega
  · rw [if_neg hfit, if_pos]
    simp only [Fits, Bool.or_eq_true, decide_eq_true_eq] at hfit ⊢
    omega

theorem write_eq (h : Heap) (addr : Nat) (b : ByteArray) :
    h.write addr b = if h.Fits addr b.size then
      .ok { h with data := b.copySlice 0 h.data (addr - heapBase) b.size }
    else .error (h.outside addr) := by
  unfold write
  rw [span_eq]
  split_ifs <;> rfl

theorem read_eq (h : Heap) (addr n : Nat) :
    h.read addr n = if h.Fits addr n then
      .ok (h.data.extract (addr - heapBase) (addr - heapBase + n))
    else .error (h.outside addr) := by
  unfold read
  rw [span_eq]
  split_ifs <;> rfl

/-! ## Byte runs -/

theorem write_cons (h : Heap) (addr : Nat) (x : UInt8) (xs : List UInt8) (hxs : xs ≠ []) :
    (h.write addr ⟨⟨x :: xs⟩⟩).toOption =
      (h.write addr ⟨#[x]⟩).toOption.bind fun h₁ => (h₁.write (addr + 1) ⟨⟨xs⟩⟩).toOption := by
  have hn : 0 < xs.length := List.length_pos_iff.2 hxs
  have hall : (⟨⟨x :: xs⟩⟩ : ByteArray).size = xs.length + 1 := rfl
  have hone : (⟨#[x]⟩ : ByteArray).size = 1 := rfl
  have hrest : (⟨⟨xs⟩⟩ : ByteArray).size = xs.length := rfl
  rw [write_eq, write_eq]
  by_cases hfirst : h.Fits addr (⟨#[x]⟩ : ByteArray).size
  · have hcopy := @size_copySlice ⟨#[x]⟩ h.data (addr - heapBase)
      (by unfold Fits at hfirst; omega)
    rw [if_pos hfirst]
    simp only [Except.toOption, Option.bind_some]
    by_cases hfit : h.Fits addr (xs.length + 1)
    · rw [if_pos (hall ▸ hfit),
        @copySlice_cons x xs h.data (addr - heapBase) (by unfold Fits at hfit; omega)]
      generalize (⟨#[x]⟩ : ByteArray).copySlice 0 h.data (addr - heapBase) (⟨#[x]⟩ : ByteArray).size
        = d at hcopy ⊢
      rw [write_eq, if_pos (by unfold Fits at *; dsimp only; rw [hcopy, hrest]; omega)]
      have hoff : addr + 1 - heapBase = addr - heapBase + 1 := by unfold Fits at hfit; omega
      rw [hoff]
    · rw [if_neg (hall ▸ hfit)]
      generalize (⟨#[x]⟩ : ByteArray).copySlice 0 h.data (addr - heapBase) (⟨#[x]⟩ : ByteArray).size
        = d at hcopy ⊢
      rw [write_eq, if_neg (by unfold Fits at *; dsimp only; rw [hcopy, hrest]; omega)]
  · rw [if_neg hfirst, if_neg (by unfold Fits at *; rw [hall]; omega)]
    rfl

/-- The byte of the store at an address. -/
def byteAt (h : Heap) (addr : Nat) : UInt8 := h.data.get! (addr - heapBase)

theorem get!_extract_one (d : ByteArray) {off : Nat} (hlt : off < d.size) :
    (d.extract off (off + 1)).get! 0 = d.get! off := by
  have hsize : 0 < (d.extract off (off + 1)).size := by rw [ByteArray.size_extract]; omega
  rw [get!_eq_getElem _ hsize, ByteArray.getElem_extract, get!_eq_getElem _ hlt]
  simp only [Nat.add_zero]

theorem readLE_one (h : Heap) (addr : Nat) :
    h.readLE addr 1 =
      if h.Fits addr 1 then .ok (h.byteAt addr).toNat else .error (h.outside addr) := by
  unfold readLE
  rw [read_eq]
  by_cases hfit : h.Fits addr 1
  · rw [if_pos hfit, if_pos hfit]
    have hlt : addr - heapBase < h.data.size := by unfold Fits at hfit; omega
    simp only [List.range_one, List.foldr_cons, List.foldr_nil, Nat.zero_mul, Nat.zero_add]
    show Except.ok ((h.data.extract (addr - heapBase) (addr - heapBase + 1)).get! 0).toNat = _
    rw [get!_extract_one _ hlt]
    rfl
  · rw [if_neg hfit, if_neg hfit]
    rfl

end Heap

end Introspection.Host

namespace Introspection.Marshal

open Introspection.Loaded Introspection.Loaded.Session Introspection.Host Introspection.Native
open Introspection.Invoke.Session (run_bind run_pure run_throw run_get)

/-! ## What a run returns -/

/-- What a run returns when it returns: its value and the session after it. -/
def returns {α : Type} : Except Failure α × Session → Option (α × Session)
  | (.ok a, s) => some (a, s)
  | (.error _, _) => none

theorem returns_bind {α β : Type} (m : SessionM α) (f : α → SessionM β) (s : Session) :
    returns ((m >>= f).run s) = (returns (m.run s)).bind fun p => returns ((f p.1).run p.2) := by
  rw [run_bind]
  rcases m.run s with ⟨_ | a, s₁⟩ <;> rfl

/-! ## The memory of a host library -/

/-- The heap of host library `lib`. -/
def libHeap (s : Session) (lib : Nat) : Heap := (s.libs.getD lib default).heap

/-- The session with the heap of host library `lib` replaced. -/
def setLibHeap (s : Session) (lib : Nat) (heap : Heap) : Session :=
  { s with libs := s.libs.modify lib fun l => { l with heap } }

/-- Whether the memory of host library `lib` refuses an address: the null address of a shared
object's memory. -/
def refusesAt (s : Session) (lib a : Nat) : Bool :=
  a == 0 && (s.libs.getD lib default).shared.isSome

@[simp] theorem handles_setLibHeap (s : Session) (lib : Nat) (heap : Heap) :
    (setLibHeap s lib heap).handles = s.handles := rfl

@[simp] theorem repo_setLibHeap (s : Session) (lib : Nat) (heap : Heap) :
    (setLibHeap s lib heap).repo = s.repo := rfl

@[simp] theorem converters_setLibHeap (s : Session) (lib : Nat) (heap : Heap) :
    (setLibHeap s lib heap).converters = s.converters := rfl

theorem libHeap_setLibHeap {s : Session} {lib : Nat} (hlib : lib < s.libs.size) (heap : Heap) :
    libHeap (setLibHeap s lib heap) lib = heap := by
  unfold libHeap setLibHeap
  rw [getD_modify, if_pos rfl, Array.getElem?_eq_getElem hlib]
  rfl

theorem setLibHeap_setLibHeap (s : Session) (lib : Nat) (heap heap' : Heap) :
    setLibHeap (setLibHeap s lib heap) lib heap' = setLibHeap s lib heap' := by
  unfold setLibHeap
  congr 1
  apply Array.ext (by simp only [Array.size_modify])
  intro i _ _
  simp only [Array.getElem_modify]
  split_ifs <;> rfl

theorem refusesAt_setLibHeap (s : Session) (lib : Nat) (heap : Heap) (a : Nat) :
    refusesAt (setLibHeap s lib heap) lib a = refusesAt s lib a := by
  unfold refusesAt setLibHeap
  rw [getD_modify, if_pos rfl, Array.getD_eq_getD_getElem?]
  cases s.libs[lib]? <;> rfl

theorem libHeap_of_size_le {s : Session} {lib : Nat} (hlib : s.libs.size ≤ lib) :
    (libHeap s lib).data.size = 0 := by
  unfold libHeap
  rw [Array.getD_eq_getD_getElem?, Array.getElem?_eq_none hlib]
  rfl

section Host

variable {h lib : Nat} {s : Session}

theorem run_handle (s : Session) : (handle h).run s = (.ok (s.handles.getD h default), s) := rfl

theorem run_checkAddress_host (hb : (s.handles.getD h default).backing = .host lib) (a : Nat) :
    (checkAddress h a).run s =
      if refusesAt s lib a then (.error nullAccess, s) else (.ok (), s) := by
  unfold checkAddress isShared refusesAt
  simp only [run_bind, run_handle, hb, run_library, run_pure]
  split <;> rfl

theorem run_write_host (hb : (s.handles.getD h default).backing = .host lib) (a : Nat)
    (bytes : ByteArray) :
    (write h a bytes).run s =
      if refusesAt s lib a then (.error nullAccess, s)
      else match (libHeap s lib).write a bytes with
        | .ok heap => (.ok (), setLibHeap s lib heap)
        | .error e => (.error e, s) := by
  unfold write withHeap
  rw [run_bind, run_checkAddress_host hb]
  cases refusesAt s lib a
  · simp only [Bool.false_eq_true, if_false, run_bind, run_handle, hb, run_hostOf, run_library,
      run_lift]
    unfold libHeap
    cases (s.libs.getD lib default).heap.write a bytes <;> rfl
  · rfl

theorem run_read_host (hb : (s.handles.getD h default).backing = .host lib) (a n : Nat) :
    (Session.read h a n).run s =
      if refusesAt s lib a then (.error nullAccess, s) else ((libHeap s lib).read a n, s) := by
  unfold Session.read readHeap
  rw [run_bind, run_checkAddress_host hb]
  cases refusesAt s lib a
  · simp only [Bool.false_eq_true, if_false, run_bind, run_handle, hb, run_hostOf, run_library,
      run_lift]
    rfl
  · rfl

/-- The bytes of a number written little-endian in `n` bytes. -/
def leBytes (n v : Nat) : ByteArray :=
  ⟨((List.range n).map fun i => (v / 256 ^ i % 256).toUInt8).toArray⟩

theorem leBytes_one (x : UInt8) : leBytes 1 x.toNat = ⟨#[x]⟩ := by
  simp [leBytes]

theorem run_writeLE_host (hb : (s.handles.getD h default).backing = .host lib) (a n v : Nat) :
    (writeLE h a n v).run s = (write h a (leBytes n v)).run s := by
  unfold writeLE write
  rw [run_bind, run_bind, run_checkAddress_host hb]
  cases refusesAt s lib a
  · simp only [Bool.false_eq_true, if_false, run_bind, run_handle, hb]
    rfl
  · rfl

theorem run_readLE_host (hb : (s.handles.getD h default).backing = .host lib) (a n : Nat) :
    (readLE h a n).run s =
      if refusesAt s lib a then (.error nullAccess, s) else ((libHeap s lib).readLE a n, s) := by
  unfold readLE readHeap
  rw [run_bind, run_checkAddress_host hb]
  cases refusesAt s lib a
  · simp only [Bool.false_eq_true, if_false, run_bind, run_handle, hb, run_hostOf, run_library,
      run_lift]
    rfl
  · rfl

theorem returns_write_host (hb : (s.handles.getD h default).backing = .host lib) (a : Nat)
    (bytes : ByteArray) :
    returns ((write h a bytes).run s) =
      if refusesAt s lib a then none
      else ((libHeap s lib).write a bytes).toOption.map fun heap => ((), setLibHeap s lib heap) := by
  rw [run_write_host hb]
  cases refusesAt s lib a
  · simp only [Bool.false_eq_true, if_false]
    cases (libHeap s lib).write a bytes <;> rfl
  · rfl

theorem returns_read_host (hb : (s.handles.getD h default).backing = .host lib) (a n : Nat) :
    returns ((Session.read h a n).run s) =
      if refusesAt s lib a then none else ((libHeap s lib).read a n).toOption.map (·, s) := by
  rw [run_read_host hb]
  cases refusesAt s lib a
  · simp only [Bool.false_eq_true, if_false]
    cases (libHeap s lib).read a n <;> rfl
  · rfl

theorem returns_write_cons (hb : (s.handles.getD h default).backing = .host lib) (a : Nat)
    (x : UInt8) (xs : List UInt8) (hxs : xs ≠ []) :
    returns ((write h a ⟨⟨x :: xs⟩⟩).run s) =
      returns ((write h a ⟨#[x]⟩ >>= fun _ => write h (a + 1) ⟨⟨xs⟩⟩).run s) := by
  rw [returns_bind, returns_write_host hb, returns_write_host hb]
  cases refusesAt s lib a
  · simp only [Bool.false_eq_true, if_false]
    rw [Heap.write_cons _ a x xs hxs]
    by_cases hlib : lib < s.libs.size
    · cases (libHeap s lib).write a ⟨#[x]⟩ with
      | error e => rfl
      | ok h₁ =>
          have hb₁ : ((setLibHeap s lib h₁).handles.getD h default).backing = .host lib := hb
          have hnull : refusesAt s lib (a + 1) = false := by simp [refusesAt]
          rw [show (Except.ok h₁ : Except Failure Heap).toOption = some h₁ from rfl]
          simp only [Option.bind_some, Option.map_some]
          rw [returns_write_host hb₁, refusesAt_setLibHeap, hnull, libHeap_setLibHeap hlib]
          simp only [Bool.false_eq_true, if_false, setLibHeap_setLibHeap]
    ·
      have hnone : (libHeap s lib).write a ⟨#[x]⟩ = .error ((libHeap s lib).outside a) := by
        have hone : (⟨#[x]⟩ : ByteArray).size = 1 := rfl
        rw [Heap.write_eq, if_neg]
        unfold Heap.Fits
        rw [libHeap_of_size_le (Nat.le_of_not_lt hlib), hone]
        omega
      rw [hnone]
      rfl
  · rfl

theorem run_store_byte (hb : (s.handles.getD h default).backing = .host lib) {k : ValueKind}
    (hk : k = .u8 ∨ k = .i8) (a : Nat) (x : UInt8) :
    (store h a k x.toNat).run s = (write h a ⟨#[x]⟩).run s := by
  obtain ⟨n, hn⟩ := Introspection.Invoke.Session.run_ptrSize h s
  have hsize : k.size n = 1 := by rcases hk with rfl | rfl <;> rfl
  unfold store
  rw [run_bind, hn]
  simp only [hsize]
  rw [if_neg (by decide), if_pos (by decide), run_writeLE_host hb, leBytes_one]

theorem returns_load_byte (hb : (s.handles.getD h default).backing = .host lib) {k : ValueKind}
    (hk : k = .u8 ∨ k = .i8) (a : Nat) :
    returns ((load h a k).run s) =
      if refusesAt s lib a = false ∧ (libHeap s lib).Fits a 1 then
        some (k.normalize ((libHeap s lib).byteAt a).toNat, s)
      else none := by
  obtain ⟨n, hn⟩ := Introspection.Invoke.Session.run_ptrSize h s
  have hsize : k.size n = 1 := by rcases hk with rfl | rfl <;> rfl
  unfold load
  rw [run_bind, hn]
  simp only [hsize]
  rw [if_neg (by decide), if_pos (by decide), run_bind, run_readLE_host hb, Heap.readLE_one]
  cases refusesAt s lib a
  · by_cases hfit : (libHeap s lib).Fits a 1
    · rw [if_neg Bool.false_ne_true, if_pos hfit, if_pos ⟨rfl, hfit⟩]
      rfl
    · rw [if_neg Bool.false_ne_true, if_neg hfit, if_neg fun h' => hfit h'.2]
      rfl
  · rw [if_pos rfl, if_neg fun h' => Bool.noConfusion h'.1]
    rfl

end Host

end Introspection.Marshal
