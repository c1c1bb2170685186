import Introspection.Text.Utf8

/-!
# Reading and writing image bytes

An `Image` reads little-endian integers, byte ranges and NUL-terminated strings from a byte
array up to a limit. Every read is checked against the limit: a read that would cross it yields
zero (or nothing), so a corrupt offset can never fault. A `Writer` builds an image front to back
and patches slots it wrote earlier.
-/

namespace Introspection.Typelib

def byteAt (data : ByteArray) (i : Nat) : Nat :=
  if h : i < data.size then data[i].toNat else 0

def leAt (data : ByteArray) (off : Nat) : (width : Nat) → Nat
  | 0 => 0
  | w + 1 => byteAt data off + 256 * leAt data (off + 1) w

def leBytes (v : Nat) : (width : Nat) → List UInt8
  | 0 => []
  | w + 1 => (v % 256).toUInt8 :: leBytes (v / 256) w

theorem leBytes_length (v w : Nat) : (leBytes v w).length = w := by
  induction w generalizing v with
  | zero => rfl
  | succ w ih => simp [leBytes, ih]

def signed (bits v : Nat) : Int :=
  if v < 2 ^ (bits - 1) then v else (v : Int) - 2 ^ bits

/-- A byte image read up to a limit. -/
structure Image where
  data : ByteArray
  limit : Nat
  deriving Inhabited

namespace Image

/-- An image over `data` limited to its first `limit` bytes; the limit is clamped. -/
def make (data : ByteArray) (limit : Nat) : Image := ⟨data, min limit data.size⟩

def empty : Image := ⟨ByteArray.empty, 0⟩

def inBounds (im : Image) (off n : Nat) : Bool := off + n ≤ im.limit

/-- An unsigned little-endian read of `width` bytes, zero when out of bounds. -/
def read (im : Image) (off width : Nat) : Nat :=
  if im.inBounds off width then leAt im.data off width else 0

def u8 (im : Image) (off : Nat) : Nat := im.read off 1
def u16 (im : Image) (off : Nat) : Nat := im.read off 2
def u32 (im : Image) (off : Nat) : Nat := im.read off 4
def u64 (im : Image) (off : Nat) : Nat := im.read off 8
def i8 (im : Image) (off : Nat) : Int := signed 8 (im.u8 off)
def i32 (im : Image) (off : Nat) : Int := signed 32 (im.u32 off)

def bytes? (im : Image) (off n : Nat) : Option ByteArray :=
  if im.inBounds off n then some (im.data.extract off (off + n)) else none

/-- The position of the first NUL at or after `i`, before the limit. -/
def nulFrom (im : Image) (i : Nat) : Option Nat :=
  if h : i < im.limit then
    if byteAt im.data i == 0 then some i else im.nulFrom (i + 1)
  else none
termination_by im.limit - i

/-- The raw bytes of the NUL-terminated string at `off`. Offset zero, an offset past the limit
and a missing terminator give nothing. -/
def cbytes? (im : Image) (off : Nat) : Option ByteArray :=
  if off == 0 || off ≥ im.limit then none
  else (im.nulFrom off).map fun e => im.data.extract off e

/-- The NUL-terminated string at `off`, with invalid UTF-8 bytes replaced. -/
def cstring? (im : Image) (off : Nat) : Option String :=
  (im.cbytes? off).map Text.Utf8.lossy

def cstring (im : Image) (off : Nat) : String := (im.cstring? off).getD ""

/-- A byte string as text of one character per byte, so that the text's order and equality are
those of the bytes. -/
def byteText (b : ByteArray) : String := String.ofList (b.data.toList.map fun x => Char.ofNat x.toNat)

/-- The bytes of the NUL-terminated name at `off`; a name that cannot be read is empty. -/
def nameBytes (im : Image) (off : Nat) : ByteArray := (im.cbytes? off).getD .empty

/-- The validation message for a range crossing the limit, nothing when it fits. -/
def check (im : Image) (part : String) (off n : Nat) : Option String :=
  if im.inBounds off n then none
  else
    let head := if part.isEmpty then "typelib: at offset " ++ toString off
      else "typelib: " ++ part ++ " at offset " ++ toString off
    some (head ++ ": read out of bounds: " ++ toString n ++ " bytes at " ++ toString off
      ++ ", limit " ++ toString im.limit)

theorem read_empty (off w : Nat) (hw : 0 < w) : empty.read off w = 0 := by
  simp [read, inBounds, empty]
  omega

end Image

/-- An image under construction. -/
structure Writer where
  buf : ByteArray := ByteArray.empty
  deriving Inhabited

namespace Writer

def len (w : Writer) : Nat := w.buf.size

def bytes (w : Writer) (bs : List UInt8) : Writer := ⟨bs.foldl ByteArray.push w.buf⟩

def append (w : Writer) (bs : ByteArray) : Writer := ⟨w.buf ++ bs⟩

def int (w : Writer) (width v : Nat) : Writer := w.bytes (leBytes v width)

def u8 (w : Writer) (v : Nat) : Writer := w.int 1 v
def u16 (w : Writer) (v : Nat) : Writer := w.int 2 v
def u32 (w : Writer) (v : Nat) : Writer := w.int 4 v
def u64 (w : Writer) (v : Nat) : Writer := w.int 8 v

def zero (w : Writer) (n : Nat) : Writer := w.bytes (List.replicate n 0)

def align (w : Writer) (n : Nat) : Writer :=
  if n ≤ 1 then w else w.zero ((n - w.len % n) % n)

def cstring (w : Writer) (s : String) : Writer := (w.append s.toUTF8).u8 0

def setByte (buf : ByteArray) (i : Nat) (v : UInt8) : ByteArray :=
  if h : i < buf.size then buf.set i v h else buf

/-- Overwrites the `width` bytes at `off` with the low bytes of `v`. -/
def patch (w : Writer) (off width v : Nat) : Writer :=
  ⟨((leBytes v width).zipIdx).foldl (fun b (x, i) => setByte b (off + i) x) w.buf⟩

def patch8 (w : Writer) (off v : Nat) : Writer := w.patch off 1 v
def patch16 (w : Writer) (off v : Nat) : Writer := w.patch off 2 v
def patch32 (w : Writer) (off v : Nat) : Writer := w.patch off 4 v

theorem len_zero (w : Writer) (n : Nat) : (w.zero n).len = w.len + n := by
  simp only [zero, bytes, len]
  induction n generalizing w with
  | zero => rfl
  | succ n ih =>
    rw [List.replicate_succ, List.foldl_cons]
    have := ih ⟨w.buf.push 0⟩
    simp only at this
    rw [this]
    simp [ByteArray.size_push]
    omega

end Writer

end Introspection.Typelib
