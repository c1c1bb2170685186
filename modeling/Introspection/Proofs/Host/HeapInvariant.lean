import Introspection.Proofs.Host.Tiling

/-!
# The heap's representation invariant

The live blocks and the free blocks of the host heap tile the addresses from `heapBase` up to
the top, the top stays within the limit, and the backing store reaches the top. An allocation
carves its block from the first free block that fits (its remainders become free blocks) or
from the top (the alignment gap becomes a free block); a free hands the block back and merges
neighbours; reads and writes move no block. Each keeps the invariant, so it holds after any
sequence of them, and from it follow the promises of an allocation: an aligned address, a
block apart from every other live block, and zeros in it.
-/

namespace Introspection.Host

namespace Heap

/-! ## The backing store -/

theorem size_zeroRange (data : ByteArray) (off n : Nat) : (zeroRange data off n).size = data.size := by
  induction n with
  | zero => rfl
  | succ n ih =>
      rw [zeroRange, List.range_succ, List.foldl_append, List.foldl_cons, List.foldl_nil,
        ByteArray.size_set!]
      exact ih

theorem getElem?_zeroRange (data : ByteArray) (off n j : Nat) :
    (zeroRange data off n).data[j]? =
      if off ≤ j ∧ j < off + n then data.data[j]?.map fun _ => 0 else data.data[j]? := by
  induction n with
  | zero =>
      simp only [zeroRange, List.range_zero, List.foldl_nil]
      rw [if_neg (by omega)]
  | succ n ih =>
      have hstep : zeroRange data off (n + 1) = (zeroRange data off n).set! (off + n) 0 := by
        rw [zeroRange, List.range_succ, List.foldl_append, List.foldl_cons, List.foldl_nil]
        rfl
      have hsize : (zeroRange data off n).data.size = data.data.size := size_zeroRange data off n
      rw [hstep]
      change ((zeroRange data off n).data.setIfInBounds (off + n) 0)[j]? = _
      rw [Array.getElem?_setIfInBounds, hsize, ih]
      by_cases hj : off + n = j
      · subst hj
        rw [if_pos rfl, if_pos (show off ≤ off + n ∧ off + n < off + (n + 1) by omega)]
        by_cases hlt : off + n < data.data.size
        · rw [if_pos hlt, Array.getElem?_eq_getElem hlt]
          rfl
        · rw [if_neg hlt, Array.getElem?_eq_none (Nat.le_of_not_lt hlt)]
          rfl
      · rw [if_neg hj]
        by_cases hin : off ≤ j ∧ j < off + n
        · rw [if_pos hin, if_pos (by omega)]
        · rw [if_neg hin, if_neg (by omega)]

theorem extract_zeroRange (data : ByteArray) {off n : Nat} (h : off + n ≤ data.size) :
    (zeroRange data off n).extract off (off + n) = ⟨Array.replicate n 0⟩ := by
  apply ByteArray.ext
  apply Array.ext_getElem?
  intro i
  have hsize : (zeroRange data off n).data.size = data.data.size := size_zeroRange data off n
  rw [ByteArray.data_extract, Array.getElem?_extract, Array.getElem?_replicate, hsize,
    getElem?_zeroRange]
  by_cases hi : i < n
  · have hlt : off + i < data.data.size := by
      change off + i < data.size
      omega
    rw [if_pos (by change i < min (off + n) data.size - off; omega), if_pos (by omega),
      Array.getElem?_eq_getElem hlt, if_pos hi]
    rfl
  · rw [if_neg (by change ¬ i < min (off + n) data.size - off; omega), if_neg hi]

theorem size_growTo (data : ByteArray) (grow : Nat) :
    data.size ≤ (growTo data grow).size ∧ grow ≤ (growTo data grow).size := by
  unfold growTo
  split
  · omega
  · rw [ByteArray.size_append]
    change _ ≤ data.size + (Array.replicate _ 0).size ∧ _ ≤ data.size + (Array.replicate _ 0).size
    rw [Array.size_replicate]
    omega

theorem size_copySlice (src dest : ByteArray) {off : Nat} (h : off + src.size ≤ dest.size) :
    (src.copySlice 0 dest off src.size).size = dest.size := by
  change (dest.data.extract 0 off ++ src.data.extract 0 (0 + src.size) ++
    dest.data.extract (off + min src.size (src.data.size - 0)) dest.data.size).size = dest.size
  simp only [Array.size_append, Array.size_extract]
  change min off dest.size - 0 + (min (0 + src.size) src.size - 0) +
    (min dest.size dest.size - (off + min src.size (src.size - 0))) = dest.size
  omega

/-! ## What each operation does -/

theorem need_eq (size : Nat) : (if size == 0 then 1 else size) = max size 1 := by
  by_cases h : size = 0 <;> simp [h] <;> omega

theorem le_alignUp (v : Nat) {align : Nat} (h : 0 < align) : v ≤ alignUp v align := by
  have hdiv := Nat.div_add_mod (v + align - 1) align
  have hmod := Nat.mod_lt (v + align - 1) h
  unfold alignUp
  generalize (v + align - 1) / align = q at hdiv ⊢
  generalize (v + align - 1) % align = r at hdiv hmod
  rw [Nat.mul_comm]
  omega

theorem alignUp_mod (v align : Nat) : alignUp v align % align = 0 := Nat.mul_mod_left _ _

theorem gap_eq (lo hi : Nat) :
    (if hi > lo then [(⟨lo, hi - lo⟩ : Block)] else []) = Block.gap lo hi := rfl

theorem append_gap_eq (free : List Block) (lo hi : Nat) :
    (if hi > lo then free ++ [⟨lo, hi - lo⟩] else free) = free ++ Block.gap lo hi := by
  unfold Block.gap
  split <;> simp

theorem span_eq_ok {h : Heap} {addr n off : Nat} (hs : h.span addr n = .ok off) :
    off = addr - heapBase ∧ heapBase ≤ addr ∧ addr - heapBase + n ≤ h.data.size := by
  unfold span at hs
  split at hs
  · cases hs
  · rename_i hc
    simp only [Except.ok.injEq] at hs
    simp only [Bool.or_eq_true, decide_eq_true_eq, not_or] at hc
    omega

theorem span_of_le {h : Heap} {addr n : Nat} (hbase : heapBase ≤ addr)
    (hend : addr - heapBase + n ≤ h.data.size) (hwide : addr + n < 2 ^ 64) :
    h.span addr n = .ok (addr - heapBase) := by
  unfold span
  rw [if_neg (by simp only [Bool.or_eq_true, decide_eq_true_eq, not_or]; omega)]

theorem write_eq_ok {h h' : Heap} {addr : Nat} {bytes : ByteArray}
    (hw : h.write addr bytes = .ok h') :
    ∃ off, off + bytes.size ≤ h.data.size ∧
      h' = { h with data := bytes.copySlice 0 h.data off bytes.size } := by
  unfold write at hw
  cases hs : h.span addr bytes.size with
  | error e => simp [hs, Functor.map, Except.map] at hw
  | ok off =>
      simp [hs, Functor.map, Except.map] at hw
      obtain ⟨hoff, -, hend⟩ := span_eq_ok hs
      rw [← hoff] at hend
      exact ⟨off, hend, hw.symm⟩

theorem takeFree_go_eq_some {need align start : Nat} {before blocks free : List Block}
    (h : takeFree.go need align before blocks = some (start, free)) :
    ∃ pre b rest, blocks = pre ++ b :: rest ∧ start = alignUp b.addr align ∧
      start + need ≤ b.addr + b.size ∧
      free = before ++ pre ++ rest ++ Block.gap b.addr start ++
        Block.gap (start + need) (b.addr + b.size) := by
  induction blocks generalizing before with
  | nil => simp [takeFree.go] at h
  | cons b rest ih =>
      simp only [takeFree.go] at h
      split at h
      · obtain ⟨pre, b', rest', rfl, hstart, hfit, rfl⟩ := ih h
        exact ⟨b :: pre, b', rest', rfl, hstart, hfit, by simp⟩
      · rename_i hfit
        simp only [Option.some.injEq, Prod.mk.injEq] at h
        obtain ⟨rfl, rfl⟩ := h
        exact ⟨[], b, rest, rfl, rfl, by omega, by simp [gap_eq]⟩

theorem takeFree_eq_some {need align start : Nat} {blocks free : List Block}
    (h : takeFree blocks need align = some (start, free)) :
    ∃ pre b rest, blocks = pre ++ b :: rest ∧ start = alignUp b.addr align ∧
      start + need ≤ b.addr + b.size ∧
      free = pre ++ rest ++ Block.gap b.addr start ++ Block.gap (start + need) (b.addr + b.size) := by
  simpa using takeFree_go_eq_some h

theorem alloc_eq_ok {h h' : Heap} {size align addr : Nat}
    (hok : h.alloc size align = .ok (addr, h')) :
    align.isPowerOfTwo ∧
      ((∃ free, takeFree h.free (max size 1) align = some (addr, free) ∧
          h' = { h with free }.claim addr (max size 1)) ∨
        (takeFree h.free (max size 1) align = none ∧ addr = alignUp h.top align ∧
          addr + max size 1 - heapBase ≤ h.limit ∧
          h' = { h with free := h.free ++ Block.gap h.top addr,
                        data := growTo h.data (addr + max size 1 - heapBase),
                        top := addr + max size 1 }.claim addr (max size 1))) := by
  unfold alloc at hok
  split at hok
  · cases hok
  · rename_i hcheck
    have hpow : align.isPowerOfTwo := by
      simp only [Bool.or_eq_true, beq_iff_eq, bne_iff_ne, ne_eq, not_or, not_not] at hcheck
      exact (Nat.and_sub_one_eq_zero_iff_isPowerOfTwo hcheck.1).1 hcheck.2
    refine ⟨hpow, ?_⟩
    simp only [need_eq] at hok
    split at hok
    · rename_i start free htake
      simp only [Except.ok.injEq, Prod.mk.injEq] at hok
      obtain ⟨rfl, rfl⟩ := hok
      exact .inl ⟨free, htake, rfl⟩
    · rename_i htake
      split at hok
      · cases hok
      · rename_i hlimit
        simp only [Except.ok.injEq, Prod.mk.injEq] at hok
        obtain ⟨rfl, rfl⟩ := hok
        exact .inr ⟨htake, rfl, by omega, by rw [append_gap_eq]⟩

theorem sizeAt?_eq_some {h : Heap} {addr size : Nat} (hs : h.sizeAt? addr = some size) :
    (⟨addr, size⟩ : Block) ∈ h.live := by
  unfold sizeAt? at hs
  obtain ⟨b, hb, rfl⟩ := Option.map_eq_some_iff.1 hs
  have heq : b.addr = addr := by simpa using List.find?_some hb
  rw [← heq]
  exact List.mem_of_find?_eq_some hb

theorem sizeAt?_eq_none {h : Heap} {addr : Nat} :
    h.sizeAt? addr = none ↔ ∀ b ∈ h.live, b.addr ≠ addr := by
  simp [sizeAt?, List.find?_eq_none]

theorem release_of_not_live {h : Heap} {addr : Nat} (hnot : ∀ b ∈ h.live, b.addr ≠ addr) :
    h.release addr = h := by
  unfold release
  rw [sizeAt?_eq_none.2 hnot]
  simp

theorem release_release (h : Heap) (addr : Nat) :
    (h.release addr).release addr = h.release addr := by
  by_cases h0 : addr = 0
  · subst h0
    simp [release]
  cases hs : h.sizeAt? addr with
  | none =>
      have hsame := release_of_not_live (sizeAt?_eq_none.1 hs)
      rw [hsame, hsame]
  | some size =>
      apply release_of_not_live
      have hlive : (h.release addr).live = h.live.filter (·.addr != addr) := by
        simp [release, h0, hs]
      rw [hlive]
      intro b hb
      simpa using (List.mem_filter.1 hb).2

/-! ## Claiming a block -/

@[simp] theorem claim_free (h : Heap) (addr size : Nat) : (h.claim addr size).free = h.free := rfl
@[simp] theorem claim_top (h : Heap) (addr size : Nat) : (h.claim addr size).top = h.top := rfl
@[simp] theorem claim_limit (h : Heap) (addr size : Nat) : (h.claim addr size).limit = h.limit := rfl

@[simp] theorem size_claim (h : Heap) (addr size : Nat) :
    (h.claim addr size).data.size = h.data.size :=
  size_zeroRange h.data _ size

/-- Room for a new block of `need` bytes at `start`: inside the store and apart from every live
block. -/
structure Room (h : Heap) (start need : Nat) : Prop where
  base_le : heapBase ≤ start
  in_store : start - heapBase + need ≤ h.data.size
  apart : ∀ c ∈ h.live, Block.Apart ⟨start, need⟩ c

theorem Room.addr_ne {h : Heap} {start need : Nat} (r : Room h start need) (hneed : 0 < need)
    (hlive : ∀ c ∈ h.live, 0 < c.size) : ∀ c ∈ h.live, c.addr ≠ start := fun c hc =>
  ((r.apart c hc).addr_ne hneed (hlive c hc)).symm

theorem Room.claim_live {h : Heap} {start need : Nat} (r : Room h start need) (hneed : 0 < need)
    (hlive : ∀ c ∈ h.live, 0 < c.size) :
    (h.claim start need).live = h.live ++ [⟨start, need⟩] := by
  simp only [claim]
  rw [List.filter_eq_self.2 fun c hc => by simpa using r.addr_ne hneed hlive c hc]

theorem Room.read_claim {h : Heap} {start need : Nat} (r : Room h start need)
    (hwide : start + need < 2 ^ 64) :
    (h.claim start need).read start need = .ok ⟨Array.replicate need 0⟩ := by
  unfold read
  rw [span_of_le r.base_le (by rw [size_claim]; exact r.in_store) hwide]
  change Except.ok (zeroRange h.data (start - heapBase) need |>.extract _ _) = _
  rw [extract_zeroRange h.data r.in_store]

/-- What a successful allocation promises, against the live blocks before it: the alignment
is a power of two and divides the address, the block of `need` bytes joins the live blocks,
shares no address with any of them, and reads as zeros. -/
structure Fresh (live : List Block) (h' : Heap) (need align addr : Nat) : Prop where
  power_of_two : align.isPowerOfTwo
  aligned : addr % align = 0
  live_eq : h'.live = live ++ [⟨addr, need⟩]
  apart : ∀ c ∈ live, Block.Apart ⟨addr, need⟩ c
  zeros : addr + need < 2 ^ 64 → h'.read addr need = .ok ⟨Array.replicate need 0⟩

theorem Room.fresh {h : Heap} {start need align : Nat} (r : Room h start need)
    (hpow : align.isPowerOfTwo) (haligned : start % align = 0) (hneed : 0 < need)
    (hlive : ∀ c ∈ h.live, 0 < c.size) : Fresh h.live (h.claim start need) need align start where
  power_of_two := hpow
  aligned := haligned
  live_eq := r.claim_live hneed hlive
  apart := r.apart
  zeros := r.read_claim

/-! ## The invariant -/

/-- The heap's representation invariant: its live and free blocks tile `[heapBase, top)`, the
top is within the limit, and the backing store reaches the top. -/
structure Tiled (h : Heap) : Prop where
  tiles : Tiles (h.live ++ h.free) heapBase h.top
  base_le_top : heapBase ≤ h.top
  within_limit : h.top - heapBase ≤ h.limit
  backed : h.top - heapBase ≤ h.data.size

theorem tiled_create (ptrSize limit : Nat) : (create ptrSize limit).Tiled where
  tiles := Tiles.nil heapBase
  base_le_top := Nat.le_refl _
  within_limit := by simp [create]
  backed := by simp [create]

namespace Tiled

variable {h : Heap}

theorem live_nonempty (ht : h.Tiled) : ∀ c ∈ h.live, 0 < c.size := fun c hc =>
  ht.tiles.nonempty c (List.mem_append_left _ hc)

theorem live_apart_free (ht : h.Tiled) : ∀ c ∈ h.live, ∀ b ∈ h.free, c.Apart b :=
  (List.pairwise_append.1 ht.tiles.apart).2.2

theorem bounds {b : Block} (ht : h.Tiled) (hb : b ∈ h.live ++ h.free) :
    heapBase ≤ b.addr ∧ b.addr + b.size ≤ h.top := by
  have hpos := ht.tiles.nonempty b hb
  have hlo := ht.tiles.covers_lt hb (x := b.addr) ⟨Nat.le_refl _, by omega⟩
  have hhi := ht.tiles.covers_lt hb (x := b.addr + b.size - 1) ⟨by omega, by omega⟩
  omega

theorem live_split {addr size : Nat} (ht : h.Tiled) (hb : (⟨addr, size⟩ : Block) ∈ h.live) :
    ∃ l₁ l₂, h.live = l₁ ++ ⟨addr, size⟩ :: l₂ ∧ ∀ c ∈ l₁ ++ l₂, c.addr ≠ addr := by
  obtain ⟨l₁, l₂, hsplit⟩ := List.append_of_mem hb
  refine ⟨l₁, l₂, hsplit, fun c hc => ?_⟩
  have hlive : (l₁ ++ ⟨addr, size⟩ :: l₂).Pairwise Block.Apart := by
    rw [← hsplit]
    exact (List.pairwise_append.1 ht.tiles.apart).1
  have hpos : ∀ d ∈ l₁ ++ ⟨addr, size⟩ :: l₂, 0 < d.size := by
    rw [← hsplit]
    exact ht.live_nonempty
  have hc' : c ∈ l₁ ++ ⟨addr, size⟩ :: l₂ := by
    rcases List.mem_append.1 hc with hc | hc
    · exact List.mem_append_left _ hc
    · exact List.mem_append_right _ (List.mem_cons_of_mem _ hc)
  obtain ⟨h₁, h₂, hcross⟩ := List.pairwise_append.1 hlive
  rcases List.mem_append.1 hc with hc₁ | hc₂
  · exact (hcross c hc₁ _ (List.mem_cons_self ..)).addr_ne (hpos c hc') (hpos _ (by simp))
  · exact ((List.pairwise_cons.1 h₂).1 c hc₂).symm.addr_ne (hpos c hc') (hpos _ (by simp))

theorem write {h' : Heap} {addr : Nat} {bytes : ByteArray} (ht : h.Tiled)
    (hw : h.write addr bytes = .ok h') : h'.Tiled := by
  obtain ⟨off, hend, rfl⟩ := write_eq_ok hw
  exact ⟨ht.tiles, ht.base_le_top, ht.within_limit, by
    simpa [size_copySlice bytes h.data hend] using ht.backed⟩

theorem release (ht : h.Tiled) (addr : Nat) : (h.release addr).Tiled := by
  unfold Heap.release
  split
  · exact ht
  · split
    · exact ht
    · rename_i size hs
      obtain ⟨l₁, l₂, hlive, hothers⟩ := ht.live_split (sizeAt?_eq_some hs)
      have hfilter : h.live.filter (·.addr != addr) = l₁ ++ l₂ := by
        rw [hlive, List.filter_append, List.filter_cons, List.filter_eq_self.2,
          List.filter_eq_self.2]
        · simp
        · exact fun c hc => by simpa using hothers c (List.mem_append_right _ hc)
        · exact fun c hc => by simpa using hothers c (List.mem_append_left _ hc)
      have hmoved : Tiles ((l₁ ++ l₂) ++ (h.free ++ [⟨addr, size⟩])) heapBase h.top :=
        ht.tiles.perm (by rw [hlive]; grind)
      have hms := (List.pairwise_append.1 hmoved.apart).2.1
      have hsorted := List.mergeSort_perm (h.free ++ [⟨addr, size⟩])
        fun a b => decide (a.addr ≤ b.addr)
      refine ⟨?_, ht.base_le_top, ht.within_limit, ht.backed⟩
      simp only [hfilter]
      refine hmoved.swap (apart_coalesce ((hsorted.pairwise_iff Block.Apart.symm).2 hms))
        (nonempty_coalesce fun b hb => hmoved.nonempty b (List.mem_append_right _
          (hsorted.mem_iff.1 hb))) fun x => ?_
      rw [covered_coalesce, covered_perm hsorted]

section Alloc

variable {need align start : Nat} {free : List Block}

theorem room_takeFree (ht : h.Tiled) (halign : 0 < align)
    (htake : takeFree h.free need align = some (start, free)) :
    Room { h with free } start need := by
  obtain ⟨pre, b, rest, hfree, hstart, hfit, -⟩ := takeFree_eq_some htake
  have hb : b ∈ h.free := by rw [hfree]; simp
  have hbounds := ht.bounds (List.mem_append_right _ hb)
  have hle := le_alignUp b.addr halign
  refine ⟨by omega, by simp only; have := ht.backed; omega, fun c hc x hx hcx => ?_⟩
  refine ht.live_apart_free c hc b hb x hcx ?_
  simp only [Block.Covers] at hx ⊢
  omega

theorem claim_from_free (ht : h.Tiled) (halign : 0 < align) (hneed : 0 < need)
    (htake : takeFree h.free need align = some (start, free)) :
    ({ h with free }.claim start need).Tiled := by
  have r := ht.room_takeFree halign htake
  obtain ⟨pre, b, rest, hfree, hstart, hfit, rfl⟩ := takeFree_eq_some htake
  have hle := le_alignUp b.addr halign
  have hpieces : Tiles (Block.gap b.addr start ++ [⟨start, need⟩] ++
      Block.gap (start + need) (b.addr + b.size)) b.addr (b.addr + b.size) :=
    ((Tiles.gap (by omega)).append (Tiles.single start hneed) (by omega) (by omega)).append
      (Tiles.gap hfit) (by omega) hfit
  have hold : Tiles ((h.live ++ pre ++ rest) ++ [b]) heapBase h.top :=
    ht.tiles.perm (by rw [hfree]; grind)
  refine ⟨(hold.replace hpieces).perm ?_, ht.base_le_top, ht.within_limit, ?_⟩
  · rw [r.claim_live hneed ht.live_nonempty, claim_free]
    simp only [List.perm_iff_count, List.count_append, List.count_cons, List.count_nil]
    omega
  · simpa using ht.backed

theorem room_top (ht : h.Tiled) (halign : 0 < align) (need : Nat) :
    Room { h with free := h.free ++ Block.gap h.top (alignUp h.top align),
                  data := growTo h.data (alignUp h.top align + need - heapBase),
                  top := alignUp h.top align + need } (alignUp h.top align) need := by
  have hle := le_alignUp h.top halign
  have hbase := ht.base_le_top
  have hgrow := (size_growTo h.data (alignUp h.top align + need - heapBase)).2
  refine ⟨by omega, by simp only; omega, fun c hc x hx hcx => ?_⟩
  have hc := (ht.tiles.covers_lt (List.mem_append_left _ hc) hcx).2
  simp only [Block.Covers] at hx
  omega

theorem claim_from_top (ht : h.Tiled) (halign : 0 < align) (hneed : 0 < need)
    (hlimit : alignUp h.top align + need - heapBase ≤ h.limit) :
    ({ h with free := h.free ++ Block.gap h.top (alignUp h.top align),
              data := growTo h.data (alignUp h.top align + need - heapBase),
              top := alignUp h.top align + need }.claim (alignUp h.top align) need).Tiled := by
  have r := ht.room_top halign need
  have hle := le_alignUp h.top halign
  have hbase := ht.base_le_top
  have hnew : Tiles (Block.gap h.top (alignUp h.top align) ++ [⟨alignUp h.top align, need⟩])
      h.top (alignUp h.top align + need) :=
    (Tiles.gap hle).append (Tiles.single _ hneed) hle (by omega)
  refine ⟨?_, by simp only [claim_top]; omega, by simp only [claim_limit, claim_top]; omega, ?_⟩
  · refine (ht.tiles.append hnew hbase (by omega)).perm ?_
    rw [r.claim_live hneed ht.live_nonempty, claim_free]
    simp only [List.perm_iff_count, List.count_append, List.count_cons, List.count_nil]
    omega
  · have hgrow := (size_growTo h.data (alignUp h.top align + need - heapBase)).2
    simp only [size_claim, claim_top]
    omega

theorem alloc (ht : h.Tiled) {h' : Heap} {size addr : Nat}
    (hok : h.alloc size align = .ok (addr, h')) :
    h'.Tiled ∧ Fresh h.live h' (max size 1) align addr := by
  obtain ⟨hpow, hfrom⟩ := alloc_eq_ok hok
  have halign : 0 < align := Nat.pos_of_isPowerOfTwo hpow
  have hneed : 0 < max size 1 := by omega
  rcases hfrom with ⟨free, htake, rfl⟩ | ⟨-, rfl, hlimit, rfl⟩
  · obtain ⟨-, b, -, -, hstart, -⟩ := takeFree_eq_some htake
    refine ⟨ht.claim_from_free halign hneed htake, ?_⟩
    exact (ht.room_takeFree halign htake).fresh hpow (by rw [hstart]; exact alignUp_mod _ _)
      hneed ht.live_nonempty
  · exact ⟨ht.claim_from_top halign hneed hlimit,
      (ht.room_top halign (max size 1)).fresh hpow (alignUp_mod _ _) hneed ht.live_nonempty⟩

end Alloc

end Tiled

/-! ## Any run -/

/-- One use of the heap: an allocation, a free, or a read or write of bytes or of a
little-endian value. A use that fails leaves the heap as it was. -/
inductive Op where
  | alloc (size align : Nat)
  | free (addr : Nat)
  | read (addr n : Nat)
  | write (addr : Nat) (bytes : ByteArray)
  | readLE (addr n : Nat)
  | writeLE (addr n v : Nat)

/-- The heap after one use. -/
def step (h : Heap) : Op → Heap
  | .alloc size align =>
    match h.alloc size align with
    | .ok (_, h') => h'
    | .error _ => h
  | .free addr => h.release addr
  | .read _ _ | .readLE _ _ => h
  | .write addr bytes =>
    match h.write addr bytes with
    | .ok h' => h'
    | .error _ => h
  | .writeLE addr n v =>
    match h.writeLE addr n v with
    | .ok h' => h'
    | .error _ => h

/-- The heap after a sequence of uses. -/
def run (h : Heap) (ops : List Op) : Heap := ops.foldl step h

theorem Tiled.step {h : Heap} (ht : h.Tiled) (op : Op) : (h.step op).Tiled := by
  cases op with
  | alloc size align =>
      simp only [Heap.step]
      split
      · rename_i hok
        exact (ht.alloc hok).1
      · exact ht
  | free addr => exact ht.release addr
  | read _ _ => exact ht
  | readLE _ _ => exact ht
  | write addr bytes =>
      simp only [Heap.step]
      split
      · rename_i hw
        exact ht.write hw
      · exact ht
  | writeLE addr n v =>
      simp only [Heap.step]
      split
      · rename_i hw
        exact ht.write hw
      · exact ht

theorem Tiled.run {h : Heap} (ht : h.Tiled) (ops : List Op) : (h.run ops).Tiled := by
  induction ops generalizing h with
  | nil => exact ht
  | cons op ops ih => exact ih (ht.step op)

/-- The heap's representation invariant over any run. After any sequence of allocations, frees,
reads and writes on a fresh heap with any limit, the live and free blocks tile
`[heapBase, top)`, the top is within the limit and the store reaches it; the next allocation
returns an aligned block, apart from every live block, that reads as zeros; a free of an
address where no live block starts changes nothing, and neither does a second free. -/
theorem tiled_after_any_run (ptrSize limit : Nat) (ops : List Op) :
    let h := (create ptrSize limit).run ops
    h.Tiled ∧
      (∀ size align addr h', h.alloc size align = .ok (addr, h') →
        Fresh h.live h' (max size 1) align addr) ∧
      (∀ addr, (∀ b ∈ h.live, b.addr ≠ addr) → h.release addr = h) ∧
      ∀ addr, (h.release addr).release addr = h.release addr := by
  intro h
  have ht : h.Tiled := (tiled_create ptrSize limit).run ops
  exact ⟨ht, fun _ _ _ _ hok => (ht.alloc hok).2, fun _ hnot => release_of_not_live hnot,
    release_release h⟩

end Heap

end Introspection.Host
