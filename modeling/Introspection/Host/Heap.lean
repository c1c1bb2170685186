import Introspection.Failure

/-!
# The host heap

A first-fit allocator over one growable block of memory that starts at address `0x10000`.
Free blocks are kept in a list scanned front to back; splitting a block puts its remainders at
the end of the list, and freeing a block sorts the list by address and merges neighbours. When
no free block fits, memory is taken from the top, the gap left by alignment becomes a free block,
and the backing store grows to at least twice its size. A request beyond the heap's limit fails.

Every read and write is checked against the backing store (not the top): an access outside it
fails with the address and the end of the store. Fresh blocks are zeroed; freed ones keep their
bytes.
-/

namespace Introspection.Host

def heapBase : Nat := 0x10000

def defaultHeapLimit : Nat := 64 * 2 ^ 20

def alignUp (v align : Nat) : Nat := (v + align - 1) / align * align

/-- A block of the heap. -/
structure Block where
  addr : Nat
  size : Nat
  deriving Inhabited, Repr, DecidableEq

/-- The heap. -/
structure Heap where
  data : ByteArray := .empty
  /-- Live blocks with their sizes. -/
  live : List Block := []
  free : List Block := []
  ptrSize : Nat := 8
  limit : Nat := defaultHeapLimit
  top : Nat := heapBase
  deriving Inhabited

namespace Heap

/-- A fresh heap for a pointer width (4 or else 8) and a limit (0 for the default). -/
def create (ptrSize limit : Nat) : Heap :=
  { ptrSize := if ptrSize == 4 then 4 else 8, limit := if limit == 0 then defaultHeapLimit else limit }

def liveCount (h : Heap) : Nat := h.live.length

def sizeAt? (h : Heap) (addr : Nat) : Option Nat := (h.live.find? (·.addr == addr)).map (·.size)

def zeroRange (data : ByteArray) (off n : Nat) : ByteArray :=
  (List.range n).foldl (fun d i => d.set! (off + i) 0) data

def claim (h : Heap) (addr size : Nat) : Heap :=
  { h with data := zeroRange h.data (addr - heapBase) size,
           live := h.live.filter (·.addr != addr) ++ [⟨addr, size⟩] }

def growTo (data : ByteArray) (grow : Nat) : ByteArray :=
  if grow ≤ data.size then data
  else data ++ ByteArray.mk (Array.replicate (max grow (2 * data.size) - data.size) 0)

/-- Takes the first free block that fits `need` bytes at `align`, splitting it. -/
def takeFree (free : List Block) (need align : Nat) : Option (Nat × List Block) :=
  let rec go (before : List Block) : List Block → Option (Nat × List Block)
    | [] => none
    | b :: rest =>
      let start := alignUp b.addr align
      if start + need > b.addr + b.size then go (before ++ [b]) rest
      else
        let left := if start > b.addr then [⟨b.addr, start - b.addr⟩] else []
        let stop := start + need
        let right := if stop < b.addr + b.size then [⟨stop, b.addr + b.size - stop⟩] else []
        some (start, before ++ rest ++ left ++ right)
  go [] free

/-- Allocates `size` bytes (at least one) aligned to a power of two. -/
def alloc (h : Heap) (size align : Nat) : Except Failure (Nat × Heap) :=
  if align == 0 || align &&& (align - 1) != 0 then
    .error (.invalidInput .runtime s!"alignment {align} is not a power of two")
  else
    let need := if size == 0 then 1 else size
    match takeFree h.free need align with
    | some (start, free) => .ok (start, { h with free } |>.claim start need)
    | none =>
      let start := alignUp h.top align
      let stop := start + need
      if stop - heapBase > h.limit then
        .error (.allocationFailed .runtime size align
          (some (.plain s!"heap limit {h.limit} bytes reached")))
      else
        let free := if start > h.top then h.free ++ [⟨h.top, start - h.top⟩] else h.free
        let h := { h with free, data := growTo h.data (stop - heapBase), top := stop }
        .ok (start, h.claim start need)

def coalesce : List Block → List Block
  | a :: b :: rest => if a.addr + a.size == b.addr then coalesce (⟨a.addr, a.size + b.size⟩ :: rest)
    else a :: coalesce (b :: rest)
  | xs => xs
termination_by xs => xs.length

def release (h : Heap) (addr : Nat) : Heap :=
  if addr == 0 then h
  else
    match h.sizeAt? addr with
    | none => h
    | some size =>
      let free := (h.free ++ [Block.mk addr size]).mergeSort fun a b => decide (a.addr ≤ b.addr)
      { h with live := h.live.filter (·.addr != addr), free := coalesce free }

def outside (h : Heap) (addr : Nat) : Failure :=
  let index : Int := if addr < 2 ^ 63 then addr else (addr : Int) - 2 ^ 64
  .outOfBounds .runtime [] index (h.data.size + heapBase)

/-- Checks that `n` bytes at `addr` lie in the store, giving their offset. -/
def span (h : Heap) (addr n : Nat) : Except Failure Nat :=
  if addr < heapBase || addr - heapBase + n > h.data.size || addr + n ≥ 2 ^ 64 then
    .error (h.outside addr)
  else .ok (addr - heapBase)

def read (h : Heap) (addr n : Nat) : Except Failure ByteArray := do
  let off ← h.span addr n
  return h.data.extract off (off + n)

def write (h : Heap) (addr : Nat) (bytes : ByteArray) : Except Failure Heap := do
  let off ← h.span addr bytes.size
  return { h with data := bytes.copySlice 0 h.data off bytes.size }

def readLE (h : Heap) (addr n : Nat) : Except Failure Nat := do
  let b ← h.read addr n
  return (List.range n).foldr (fun i acc => acc * 256 + (b.get! i).toNat) 0

def writeLE (h : Heap) (addr n v : Nat) : Except Failure Heap :=
  h.write addr (ByteArray.mk ((List.range n).map fun i => (v / 256 ^ i % 256).toUInt8).toArray)

def readPointer (h : Heap) (addr : Nat) : Except Failure Nat := h.readLE addr h.ptrSize

def writePointer (h : Heap) (addr v : Nat) : Except Failure Heap := h.writeLE addr h.ptrSize v

def readU8 (h : Heap) (addr : Nat) : Except Failure UInt8 := do
  let off ← h.span addr 1
  return h.data.get! off

/-- A read gives as many bytes as it was asked for. -/
theorem size_of_read_ok {h : Heap} {addr n : Nat} {data : ByteArray}
    (hr : h.read addr n = .ok data) : data.size = n := by
  unfold read at hr
  cases hs : h.span addr n with
  | error e =>
    rw [hs] at hr
    cases hr
  | ok off =>
    simp only [hs, bind, Except.bind, pure, Except.pure, Except.ok.injEq] at hr
    unfold span at hs
    split at hs
    · cases hs
    · rename_i hc
      simp only [Bool.or_eq_true, decide_eq_true_eq, not_or] at hc
      simp only [Except.ok.injEq] at hs
      rw [← hr, ByteArray.size_extract]
      omega

/-- A NUL must lie within this many bytes of the start of a C string. -/
def maxCString : Nat := 2 ^ 24

/-- The failure of a C string with no NUL within `maxCString` bytes. -/
def noTerminator : Failure :=
  .plain ("read string: no terminator within " ++ toString maxCString ++ " bytes")

/-- Reads a NUL-terminated string 64 bytes at a time; where a chunk runs past the store it goes
on byte by byte. A string with no NUL in its first `maxCString` bytes is refused. -/
def readCString (h : Heap) (addr : Nat) : Except Failure ByteArray :=
  if addr == 0 then .error (.plain "read string: null pointer") else scan .empty
where
  scan (buf : ByteArray) : Except Failure ByteArray :=
    if _hbuf : buf.size < maxCString then
      match _hr : h.read (addr + buf.size) 64 with
      | .error _ => do
        let b ← h.readU8 (addr + buf.size)
        if b == 0 then return buf else scan (buf.push b)
      | .ok data =>
        match data.toList.findIdx? (· == 0) with
        | some i => .ok (buf ++ data.extract 0 i)
        | none => scan (buf ++ data)
    else .error noTerminator
  termination_by maxCString - buf.size
  decreasing_by
    · simp only [ByteArray.size_push]
      omega
    · simp only [ByteArray.size_append, size_of_read_ok _hr]
      omega

def writeCString (h : Heap) (s : ByteArray) : Except Failure (Nat × Heap) := do
  let (addr, h) ← h.alloc (s.size + 1) 1
  let h ← h.write addr (s.push 0)
  return (addr, h)

theorem alignUp_one (v : Nat) : alignUp v 1 = v := by simp [alignUp]

end Heap

end Introspection.Host
