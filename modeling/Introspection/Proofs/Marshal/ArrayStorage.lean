import Introspection.Proofs.Marshal.ByteArrays
import Introspection.Proofs.Host.HeapInvariant
import Introspection.Proofs.Binding.Registration

/-!
# The block of a C array

A host value converted to a C array is copied into one fresh block: `count` elements, one more
for the terminator of a zero-terminated array, of the element type's size each, inline structs
and unions included. The block's size is the 32-bit product of the two (`arrayBytes`) and its
alignment the element size itself, up to eight bytes (`arrayAlign`), while the heap of a host
library takes only alignments that are powers of two.

`array_block_wraps_and_misaligns` says what comes of it, in the memory of a library that stands
for no shared object: elements of three, five, six or seven bytes are refused at the allocation,
whatever the elements, and a block that is made holds the elements exactly when they take fewer
than `2 ^ 32` bytes (`le_arrayBytes_iff`). `three_byte_elements_refused` is the first case at an
empty array of three-byte structs.
-/

namespace Introspection.Host.Heap

theorem alloc_misaligned (h : Heap) (size : Nat) {align : Nat}
    (hp : ¬ align.isPowerOfTwo) :
    h.alloc size align =
      .error (.invalidInput .runtime s!"alignment {align} is not a power of two") := by
  have hguard : (align == 0 || align &&& (align - 1) != 0) = true := by
    by_cases h0 : align = 0
    · simp [h0]
    · have hbits : align &&& (align - 1) ≠ 0 := fun hz =>
        hp ((Nat.and_sub_one_eq_zero_iff_isPowerOfTwo h0).1 hz)
      simp [hbits]
  unfold Heap.alloc
  rw [if_pos hguard]

end Introspection.Host.Heap

namespace Introspection.Marshal

open Introspection.Loaded Introspection.Loaded.Session Introspection.Host Introspection.Native
open Introspection.Typelib Introspection.Info Introspection.Repository
open Introspection.Invoke.Session (run_bind run_pure run_throw run_get run_repoM)
open Introspection.Binding (run_attempt)

/-! ## Size and alignment -/

theorem arrayBytes_pos (size count : Nat) : 0 < arrayBytes size count := by
  unfold arrayBytes
  split
  · exact Nat.one_pos
  · rename_i h
    exact Nat.pos_of_ne_zero (by simpa using h)

theorem le_arrayBytes_iff (size count : Nat) :
    size * count ≤ arrayBytes size count ↔ size * count < 2 ^ 32 := by
  unfold arrayBytes
  generalize size * count = n
  split
  ·
    rename_i hz
    have hz : n % 2 ^ 32 = 0 := by simpa using hz
    omega
  · rename_i hz
    have hz : n % 2 ^ 32 ≠ 0 := by simpa using hz
    omega

theorem arrayAlign_isPowerOfTwo_iff (size : Nat) :
    (arrayAlign size).isPowerOfTwo ↔ size ≠ 3 ∧ size ≠ 5 ∧ size ≠ 6 ∧ size ≠ 7 := by
  unfold arrayAlign
  split
  · rename_i hbig
    simp only [Bool.or_eq_true, beq_iff_eq, gt_iff_lt, decide_eq_true_eq] at hbig
    exact ⟨fun _ => by omega, fun _ => ⟨3, rfl⟩⟩
  · rename_i hsmall
    simp only [Bool.or_eq_true, beq_iff_eq, gt_iff_lt, decide_eq_true_eq, not_or, not_lt] at hsmall
    obtain ⟨h0, h8⟩ := hsmall
    have h1 : 1 ≤ size := Nat.pos_of_ne_zero h0
    interval_cases size <;> decide

/-! ## Allocating in the heap of a host library -/

section Unshared

variable {h lib : Nat} {s : Session} {size align : Nat}

theorem run_isShared_host (hh : (s.handles.getD h default).backing = .host lib) :
    (isShared h).run s = (.ok (s.libs.getD lib default).shared.isSome, s) := by
  unfold isShared
  rw [run_bind, run_handle]
  dsimp only
  rw [hh]
  rfl

theorem run_ptrSize_host (hh : (s.handles.getD h default).backing = .host lib) :
    (ptrSize h).run s = (.ok (s.libs.getD lib default).heap.ptrSize, s) := by
  unfold ptrSize
  rw [run_bind, run_handle]
  dsimp only
  rw [hh]
  rfl

theorem run_alloc_unshared (hh : (s.handles.getD h default).backing = .host lib)
    (hns : (s.libs.getD lib default).shared = none) :
    (alloc h size align).run s = (withHeap h fun heap => heap.alloc size align).run s := by
  unfold alloc
  rw [run_bind, run_handle]
  dsimp only
  rw [hh, run_bind, run_isShared_host hh, hns]
  rfl

theorem run_alloc_unshared_ok {a : Nat} {heap : Heap}
    (hh : (s.handles.getD h default).backing = .host lib)
    (hns : (s.libs.getD lib default).shared = none)
    (hok : (s.libs.getD lib default).heap.alloc size align = .ok (a, heap)) :
    (alloc h size align).run s =
      (.ok a, { s with libs := s.libs.modify lib fun l => { l with heap } }) := by
  rw [run_alloc_unshared hh hns]
  unfold withHeap
  simp only [run_bind, run_hostOf, hh, run_library, run_lift, hok]
  rfl

theorem run_alloc_unshared_error {e : Failure}
    (hh : (s.handles.getD h default).backing = .host lib)
    (hns : (s.libs.getD lib default).shared = none)
    (herr : (s.libs.getD lib default).heap.alloc size align = .error e) :
    (alloc h size align).run s = (.error e, s) := by
  rw [run_alloc_unshared hh hns]
  unfold withHeap
  simp only [run_bind, run_hostOf, hh, run_library, run_lift, herr]

end Unshared

/-! ## The block of a C array -/

/-- What the checks ahead of the block of a C array find in session `s`: `ti` is a C array type
of element type `elem`, the host value has the elements `items`, as many as a fixed size asks,
`count` counts them with the terminator of a zero-terminated array, and an element takes `size`
bytes where pointers take `ps`, the lookup of the element type leaving repository `r`. -/
structure ArrayChecks (s : Session) (v : Value) (ti elem : Info) (items : List Value)
    (count ps size : Nat) (r : Repository) : Prop where
  cArray : Info.arrayType s.repo ti = 0
  element : Info.paramType s.repo ti 0 = some elem
  elements : v.elements? = some items
  fixedCount :
    ¬ (Info.arrayFixedSize s.repo ti ≥ 0 ∧ items.length ≠ (Info.arrayFixedSize s.repo ti).toNat)
  counted : count = items.length + if Info.isZeroTerminated s.repo ti then 1 else 0
  sized : elementSize elem ps s.repo = (.ok size, r)

theorem ArrayChecks.fixed_eq {s : Session} {v : Value} {ti elem : Info} {items : List Value}
    {count ps size : Nat} {r : Repository} (hc : ArrayChecks s v ti elem items count ps size r) :
    (decide (Info.arrayFixedSize s.repo ti ≥ 0) &&
      items.length != (Info.arrayFixedSize s.repo ti).toNat) = false := by
  simpa using hc.fixedCount

theorem run_scopeFree (sid : Option Nat) (addr : Nat) (s : Session) :
    ∃ scopes, (scopeFree sid addr).run s = (.ok (), { s with scopes }) := by
  unfold scopeFree
  cases sid with
  | none => exact ⟨s.scopes, rfl⟩
  | some id =>
    dsimp only
    split
    · exact ⟨s.scopes, rfl⟩
    · exact ⟨_, run_modifyScope id _ s⟩

section Block

variable {conv lib : Nat} {v : Value} {ti elem : Info} {ty : String} {o : Options} {s : Session}
  {items : List Value} {count size : Nat} {r : Repository}

theorem run_arrayBlock_refused {e : Failure}
    (hh : (s.handles.getD (s.converters.getD conv default).handle default).backing = .host lib)
    (hns : (s.libs.getD lib default).shared = none)
    (hc : ArrayChecks s v ti elem items count (s.libs.getD lib default).heap.ptrSize size r)
    (herr : (s.libs.getD lib default).heap.alloc (arrayBytes size count) (arrayAlign size) =
      .error e) :
    (arrayBlock conv v ti ty o).run s = (.error (conversionError o v ty
      (some (.allocationFailed .encode (arrayBytes size count) (arrayAlign size) (some e)))
      "allocate array"), { s with repo := r }) := by
  have halloc : (alloc (s.converters.getD conv default).handle (arrayBytes size count)
      (arrayAlign size)).run { s with repo := r } = (.error e, { s with repo := r }) :=
    run_alloc_unshared_error hh hns herr
  unfold arrayBlock
  simp only [run_bind, run_get, hc.cArray, bne_self_eq_false, Bool.false_eq_true, ↓reduceIte,
    hc.element, hc.elements, hc.fixed_eq, run_converter, run_ptrSize_host hh,
    run_repoM hc.sized, run_pure, run_attempt, ← hc.counted, halloc, run_throw]

theorem run_arrayBlock_made {addr : Nat} {heap : Heap}
    (hh : (s.handles.getD (s.converters.getD conv default).handle default).backing = .host lib)
    (hns : (s.libs.getD lib default).shared = none)
    (hc : ArrayChecks s v ti elem items count (s.libs.getD lib default).heap.ptrSize size r)
    (hok : (s.libs.getD lib default).heap.alloc (arrayBytes size count) (arrayAlign size) =
      .ok (addr, heap)) :
    ∃ s', (arrayBlock conv v ti ty o).run s =
        (.ok ⟨(s.converters.getD conv default).handle, elem, items, size, addr⟩, s') ∧
      s'.libs = s.libs.modify lib fun l => { l with heap } := by
  have halloc : (alloc (s.converters.getD conv default).handle (arrayBytes size count)
      (arrayAlign size)).run { s with repo := r } =
      (.ok addr, { s with repo := r, libs := s.libs.modify lib fun l => { l with heap } }) :=
    run_alloc_unshared_ok hh hns hok
  unfold arrayBlock
  simp only [run_bind, run_get, hc.cArray, bne_self_eq_false, Bool.false_eq_true, ↓reduceIte,
    hc.element, hc.elements, hc.fixed_eq, run_converter, run_ptrSize_host hh,
    run_repoM hc.sized, run_pure, run_attempt, ← hc.counted, halloc]
  split
  · obtain ⟨scopes, hfree⟩ := run_scopeFree o.scope addr
      { s with repo := r, libs := s.libs.modify lib fun l => { l with heap } }
    rw [run_bind, hfree]
    exact ⟨_, rfl, rfl⟩
  · exact ⟨_, rfl, rfl⟩

/-- The block of a C array in the memory of a library that stands for no shared object. It is
asked for `arrayBytes size count` bytes aligned to `arrayAlign size`. Elements of three, five, six
or seven bytes ask for an alignment that is no power of two, which the heap refuses, so every
such conversion fails at the allocation, whatever the elements. A block that is made is fresh and
has `arrayBytes size count` bytes, which hold the `count` elements exactly when these take fewer
than `2 ^ 32` bytes: past that the product wraps and the elements run over the block's end. -/
theorem array_block_wraps_and_misaligns
    (hh : (s.handles.getD (s.converters.getD conv default).handle default).backing = .host lib)
    (hns : (s.libs.getD lib default).shared = none)
    (hc : ArrayChecks s v ti elem items count (s.libs.getD lib default).heap.ptrSize size r) :
    ((size = 3 ∨ size = 5 ∨ size = 6 ∨ size = 7) →
      (arrayBlock conv v ti ty o).run s = (.error (conversionError o v ty
        (some (.allocationFailed .encode (arrayBytes size count) size
          (some (.invalidInput .runtime s!"alignment {size} is not a power of two"))))
        "allocate array"), { s with repo := r })) ∧
    ∀ blk s', (arrayBlock conv v ti ty o).run s = (.ok blk, s') →
      (s.libs.getD lib default).heap.Tiled →
      blk.size = size ∧ ∃ heap, s'.libs = s.libs.modify lib (fun l => { l with heap }) ∧
        Heap.Fresh (s.libs.getD lib default).heap.live heap (arrayBytes size count)
          (arrayAlign size) blk.addr ∧
        (size * count ≤ arrayBytes size count ↔ size * count < 2 ^ 32) := by
  refine ⟨fun hodd => ?_, fun blk s' hrun ht => ?_⟩
  · have halign : arrayAlign size = size := by
      rcases hodd with rfl | rfl | rfl | rfl <;> rfl
    have hmis : ¬ (arrayAlign size).isPowerOfTwo := fun hp => by
      have := (arrayAlign_isPowerOfTwo_iff size).1 hp
      omega
    rw [run_arrayBlock_refused hh hns hc (Heap.alloc_misaligned _ _ hmis), halign]
  · cases hal : (s.libs.getD lib default).heap.alloc (arrayBytes size count) (arrayAlign size) with
    | error e =>
      rw [run_arrayBlock_refused hh hns hc hal] at hrun
      cases hrun
    | ok p =>
      obtain ⟨addr, heap⟩ := p
      obtain ⟨s₁, hrun₁, hlibs⟩ := run_arrayBlock_made hh hns hc hal
      rw [hrun₁] at hrun
      cases hrun
      have hfresh := (ht.alloc hal).2
      rw [Nat.max_eq_left (arrayBytes_pos size count)] at hfresh
      exact ⟨rfl, heap, hlibs, hfresh, le_arrayBytes_iff size count⟩

end Block

/-! ## Elements of three bytes -/

/-- An image holding a C array type of the struct `T.S` of three bytes, stored inline: the type
word at 0 points to the array type at 4, whose element type at 8 points to an interface type at
12 referring to directory entry 1 at 16, the struct blob at 28 with its size at 44, and the name
`S` at 48. -/
def packedStructImage : ByteArray :=
  ⟨#[4, 0, 0, 0, 121, 0, 0, 0, 12, 0, 0, 0, 128, 0, 1, 0,
    3, 0, 1, 0, 48, 0, 0, 0, 28, 0, 0, 0,
    3, 0, 0, 0, 48, 0, 0, 0, 0, 0, 0, 0, 0, 0, 0, 0, 3, 0, 0, 0,
    83, 0]⟩

/-- A repository whose one namespace `T` reads `packedStructImage`. -/
def packedStructRepo : Repository :=
  { typelibs := #[{ (default : Typelib) with
      image := Image.make packedStructImage 50, namespace_ := "T", directory := 16, nEntries := 1,
      nLocal := 1 }],
    spaces := #[{ name := "T", typelib := 0, path := "" }] }

/-- The array type of `packedStructRepo`. -/
def packedArrayType : Info := { space := 0, kind := .type, offset := 0 }

/-- A session over `packedStructRepo` whose converter works in the heap of a library that stands
for no shared object. -/
def packedSession : Session where
  repo := packedStructRepo
  libs := #[{ name := "lib", heap := {} }]
  handles := #[{ name := "lib", backing := .host 0 }]
  converters := #[{ handle := 0, invoker := 0 }]

/-- An empty array of three-byte structs is refused at the allocation: its block, of one byte, is
asked to be aligned to three bytes. -/
theorem three_byte_elements_refused :
    (arrayBlock 0 (.list []) packedArrayType "array<T.S>" {}).run packedSession =
      (.error (conversionError {} (.list []) "array<T.S>"
        (some (.allocationFailed .encode (arrayBytes 3 0) 3
          (some (.invalidInput .runtime s!"alignment {3} is not a power of two"))))
        "allocate array"), { packedSession with repo := packedStructRepo }) := by
  have hc : ArrayChecks packedSession (.list []) packedArrayType (packedArrayType.child .type 8) []
      0 (packedSession.libs.getD 0 default).heap.ptrSize 3 packedStructRepo :=
    ⟨by decide, rfl, rfl, by decide, by decide, rfl⟩
  exact (array_block_wraps_and_misaligns rfl rfl hc).1 (Or.inl rfl)

end Introspection.Marshal
