import Introspection.Typelib.Image
import Introspection.Typelib.Format
import Introspection.Failure
import Introspection.Value.Printf
import Introspection.Text.Blank

/-!
# Loading images

`load` validates an image and indexes it. Validation checks the header (length, magic, major
version, declared size, blob size table), the counts, the directory and attribute table bounds
and the namespace string, then every directory entry: local entries first, each with a valid
blob type, a blob in bounds after the header whose own type agrees, and foreign entries after
them, each naming a namespace. The first fault is the result. The walk over the directory
counts with a 16-bit index, so a directory of 65535 entries never passes: its walk ends in a fault
or goes round forever.

A loaded typelib answers directory lookups, finds entries by name (by binary search when local
names are sorted, by a scan otherwise) and by GType name, lists exported symbols and reads the
attributes of a blob. All reads stay within the declared size; after `close` every read gives
zero.
-/

namespace Introspection.Typelib

/-- One directory entry; indices are 1-based. -/
structure DirEntry where
  name : String := ""
  /-- The namespace of an entry that lives in another typelib. -/
  namespace_ : String := ""
  offset : Nat := 0
  index : Nat := 0
  type : BlobType := .invalid
  isLocal : Bool := false
  deriving Inhabited, Repr

/-- A validated typelib. -/
structure Typelib where
  image : Image
  namespace_ : String
  version : String
  directory : Nat
  nEntries : Nat
  nLocal : Nat
  sorted : Bool
  /-- Exported symbols and the offsets of their function blobs. -/
  symbols : List (String × Nat)
  /-- Registered types by GType name, with their directory index. -/
  gtypes : List (String × Nat)
  deriving Inhabited

/-- The first index where `f` holds, for a predicate that is false then true on `[0, n)`. -/
def searchFirst (f : Nat → Bool) (lo hi : Nat) : Nat :=
  if h : lo < hi then
    let mid := (lo + hi) / 2
    if f mid then searchFirst f lo mid else searchFirst f (mid + 1) hi
  else lo
termination_by hi - lo

def malformed (cause : Option Failure) (msg : String) : Failure :=
  match cause with
  | some c => (Failure.malformedTypelib msg).withCause c
  | none => Failure.malformedTypelib msg

namespace Typelib

def size (t : Typelib) : Nat := t.image.limit

def u8 (t : Typelib) (off : Nat) : Nat := t.image.u8 off
def u16 (t : Typelib) (off : Nat) : Nat := t.image.u16 off
def u32 (t : Typelib) (off : Nat) : Nat := t.image.u32 off
def u64 (t : Typelib) (off : Nat) : Nat := t.image.u64 off
def i8 (t : Typelib) (off : Nat) : Int := t.image.i8 off
def i32 (t : Typelib) (off : Nat) : Int := t.image.i32 off

def cstring (t : Typelib) (off : Nat) : String := t.image.cstring off

def bytes? (t : Typelib) (off n : Nat) : Option ByteArray := t.image.bytes? off n

def minor (t : Typelib) : Nat := t.u8 hdrMinor

def cPrefix (t : Typelib) : String := t.cstring (t.u32 hdrCPrefix)

def text (t : Typelib) : String := t.namespace_ ++ "-" ++ t.version

/-- Splits a list at a separator, trimming parts and dropping empty ones. The absent list is
distinguished from the empty one. -/
def splitList (s : String) (sep : Char) : Option (List String) :=
  if s.isEmpty then none
  else some (((Text.splitAt s sep).map Text.trimBlank).filter (!·.isEmpty))

def sharedLibraries (t : Typelib) : Option (List String) :=
  splitList (t.cstring (t.u32 hdrSharedLibrary)) ','

def dependencies (t : Typelib) : Option (List String) :=
  splitList (t.cstring (t.u32 hdrDependencies)) '|'

def entryAt? (t : Typelib) (index : Nat) : Option DirEntry :=
  if index == 0 || index > t.nEntries then none
  else
    let e := t.directory + (index - 1) * entryBlobSize
    let isLocal := t.u16 (e + 2) % 2 == 1
    let off := t.u32 (e + 8)
    some
      { index, type := ⟨t.u16 e⟩, isLocal, name := t.cstring (t.u32 (e + 4)),
        offset := if isLocal then off else 0,
        namespace_ := if isLocal then "" else t.cstring off }

/-- The bytes of the name of the entry at a 1-based index. -/
def entryBytes (t : Typelib) (index : Nat) : ByteArray :=
  t.image.nameBytes (t.u32 (t.directory + (index - 1) * entryBlobSize + 4))

/-- The name of an entry as the text it is compared by: one character per byte. -/
def entryKey (t : Typelib) (index : Nat) : String := Image.byteText (t.entryBytes index)

/-- The first local entry whose name is a byte string: by bisection when the local names were
found in order, by a scan otherwise. -/
def entryKeyed? (t : Typelib) (key : String) : Option DirEntry :=
  if t.sorted then
    let i := searchFirst (fun i => decide (t.entryKey (i + 1) ≥ key)) 0 t.nLocal
    if i < t.nLocal && t.entryKey (i + 1) == key then t.entryAt? (i + 1) else none
  else
    match (List.range t.nLocal).find? (fun i => t.entryKey (i + 1) == key) with
    | some i => t.entryAt? (i + 1)
    | none => none

def entryNamed? (t : Typelib) (name : String) : Option DirEntry :=
  t.entryKeyed? (Image.byteText name.toUTF8)

def findByGTypeName? (t : Typelib) (name : String) : Option DirEntry :=
  (t.gtypes.lookup name).bind t.entryAt?

def functionBySymbol? (t : Typelib) (symbol : String) : Option Nat := t.symbols.lookup symbol

def hasSymbol (t : Typelib) (symbol : String) : Bool := (t.symbols.lookup symbol).isSome

def symbolNames (t : Typelib) : List String :=
  (t.symbols.map (·.1)).mergeSort fun a b => decide (a ≤ b)

/-- The attributes attached to the blob at an offset, found by bisecting the table sorted by
blob offset. Positions in the table are 32-bit and wrap. -/
def attributes (t : Typelib) (offset : Nat) : List (String × String) :=
  let n := t.u32 hdrNAttributes
  let base := t.u32 hdrAttributes
  let at_ (i : Nat) : Nat := (base + i * attributeBlobSize) % 2 ^ 32
  let first := searchFirst (fun i => decide (t.u32 (at_ i) ≥ offset)) 0 n
  let rec collect (i : Nat) (fuel : Nat) : List (String × String) :=
    match fuel with
    | 0 => []
    | fuel + 1 =>
      if i < n && t.u32 (at_ i) == offset then
        (t.cstring (t.u32 ((at_ i + 4) % 2 ^ 32)), t.cstring (t.u32 ((at_ i + 8) % 2 ^ 32))) ::
          collect (i + 1) fuel
      else []
  collect first (n - first)

def close (t : Typelib) : Typelib := { t with image := .empty }

end Typelib

def nextIndex (i : Nat) : Nat := (i + 1) % 65536

/-- The check of the directory entry at a 16-bit index: its name when it is sound, else the
fault. An index up to the local count is a local entry, whose blob must be in bounds after the
header and agree with the entry's type; a later one names the namespace it lives in. The slot
read for index `i` is that of `i - 1` taken modulo `2^16`. -/
def checkEntry (r : Image) (directory nLocal i : Nat) : Except Failure ByteArray :=
  let e := directory + ((i + 65535) % 65536) * entryBlobSize
  let bt : BlobType := ⟨r.u16 e⟩
  let isLocal := r.u16 (e + 2) % 2 == 1
  match r.cbytes? (r.u32 (e + 4)) with
  | none => .error (malformed none ("entry " ++ toString i ++ ": bad name offset"))
  | some bytes =>
    let name := Text.Utf8.lossy bytes
    let off := r.u32 (e + 8)
    let tag := "entry " ++ toString i ++ " (" ++ name ++ ")"
    if i ≤ nLocal then
      if !isLocal then .error (malformed none ("entry " ++ toString i ++ ": expected local entry"))
      else if !bt.valid then
        .error (malformed none (tag ++ ": invalid blob type " ++ toString bt.code))
      else match r.check name off bt.minBlobSize with
        | some msg => .error (malformed (some (.plain msg)) (tag ++ ": blob out of bounds"))
        | none =>
          if off < headerSize then .error (malformed none (tag ++ ": blob overlaps header"))
          else if !BlobType.sameBlob ⟨r.u16 off⟩ bt then
            .error (malformed none (tag ++ ": blob type " ++ toString (r.u16 off)
              ++ " does not match directory type " ++ bt.name))
          else .ok bytes
    else if isLocal then
      .error (malformed none (tag ++ ": local entry after non-local entries"))
    else match r.cstring? off with
      | none => .error (malformed none (tag ++ ": bad namespace offset"))
      | some _ => .ok bytes

/-- What a directory walk is taken to give once every step it was allowed is spent. No walk gets
there: one that does not end within a round of 65536 steps never ends. -/
def endlessWalk : Failure := .plain "typelib: directory walk does not end"

/-- The steps a directory walk is allowed, far more than any run takes. -/
def walkSteps : Nat := 2 ^ 80

/-- Validates the directory: whether local names are sorted, or the first fault. The index is
16-bit and the walk goes on while it is at most the entry count, so after entry 65535 of a full
directory it wraps to 0, checks the slot after the directory as a local entry and starts over:
a full directory that passes a round is walked forever. -/
def validateDirectory (r : Image) (directory nEntries nLocal : Nat) : Except Failure Bool :=
  let rec go (i : Nat) (prev : String) (sorted : Bool) (fuel : Nat) : Except Failure Bool :=
    match fuel with
    | 0 => .error endlessWalk
    | fuel + 1 =>
      if i > nEntries then .ok sorted
      else
        match checkEntry r directory nLocal i with
        | .error f => .error f
        | .ok name =>
          let key := Image.byteText name
          if i ≤ nLocal then go (nextIndex i) key (sorted && !(key < prev)) fuel
          else go (nextIndex i) prev sorted fuel
  go 1 "" true walkSteps

/-- Indexes symbols and GType names; an entry aliasing an earlier entry's blob is skipped. -/
def buildIndexes (t : Typelib) (methodsOf : Nat → List Nat) : Typelib :=
  let addSymbol (syms : List (String × Nat)) (fn : Nat) : List (String × Nat) :=
    let sym := t.cstring (t.u32 (fn + 8))
    if sym.isEmpty || (syms.lookup sym).isSome then syms else syms ++ [(sym, fn)]
  let step := fun (acc : List Nat × List (String × Nat) × List (String × Nat)) (i : Nat) =>
    let (seen, syms, gtypes) := acc
    match t.entryAt? i with
    | none => acc
    | some e =>
      if seen.contains e.offset then acc
      else
        let seen := e.offset :: seen
        if e.type == .function then (seen, addSymbol syms e.offset, gtypes)
        else if [3, 4, 11, 5, 6, 7, 8].contains e.type.code then
          let g := t.cstring (t.u32 (e.offset + 8))
          let gtypes := if g.isEmpty then gtypes else (g, i) :: gtypes.filter (·.1 != g)
          (seen, (methodsOf e.offset).foldl addSymbol syms, gtypes)
        else (seen, syms, gtypes)
  let (_, syms, gtypes) := ((List.range t.nLocal).map (· + 1)).foldl step ([], [], [])
  { t with symbols := syms, gtypes }

/-- Checks the header of an image and gives its declared size, or the first fault: the image
holds a whole header that starts with the magic, is of the major version read here, declares a
size between the header's and the buffer's, and records the blob sizes of this format. -/
def checkHeader (buf : ByteArray) : Except Failure Nat := do
  if buf.size < headerSize then
    throw (malformed none ("image of " ++ toString buf.size ++ " bytes is shorter than the "
      ++ toString headerSize ++ " byte header"))
  if (List.range 16).any fun i => byteAt buf i != (magic.getD i 0).toNat then
    throw (malformed none "bad magic")
  let hdr := Image.make buf headerSize
  let major := hdr.u8 hdrMajor
  if major != majorVersion then
    throw (malformed none ("unsupported major version " ++ toString major))
  let size := hdr.u32 hdrSize
  if size < headerSize || size > buf.size then
    throw (malformed none ("declared size " ++ toString size ++ " exceeds buffer length "
      ++ toString buf.size))
  match blobSizeTable.zipIdx.find? (fun (want, i) => hdr.u16 (hdrBlobSizes + i * 2) != want) with
  | some (want, i) =>
    throw (malformed none ("blob size field " ++ toString i ++ " is "
      ++ toString (hdr.u16 (hdrBlobSizes + i * 2)) ++ ", want " ++ toString want))
  | none => pure size

/-- Checks the tables of an image cut at its declared size and gives the namespace's name, or
the first fault: no more local entries than entries, the directory in bounds and after the
header, the attribute table in bounds and a namespace name. -/
def checkTables (r : Image) : Except Failure String := do
  let nEntries := r.u16 hdrNEntries
  let nLocal := r.u16 hdrNLocalEntries
  let directory := r.u32 hdrDirectory
  if nLocal > nEntries then
    throw (malformed none (toString nLocal ++ " local entries exceed " ++ toString nEntries
      ++ " entries"))
  match r.check "directory" directory (nEntries * entryBlobSize) with
  | some msg => throw (malformed (some (.plain msg)) "directory out of bounds")
  | none => pure ()
  if directory < headerSize && nEntries > 0 then throw (malformed none "directory overlaps header")
  match r.check "attributes" (r.u32 hdrAttributes) (r.u32 hdrNAttributes * attributeBlobSize % 2 ^ 32) with
  | some msg => throw (malformed (some (.plain msg)) "attributes out of bounds")
  | none => pure ()
  match r.cstring? (r.u32 hdrNamespace) with
  | some ns => if ns.isEmpty then throw (malformed none "missing namespace string") else pure ns
  | none => throw (malformed none "missing namespace string")

/-- Validates an image; `methodsOf` gives the method blob offsets of a compound blob. -/
def loadWith (methodsOf : Typelib → Nat → List Nat) (buf : ByteArray) : Except Failure Typelib := do
  let size ← checkHeader buf
  let r := Image.make buf size
  let ns ← checkTables r
  let directory := r.u32 hdrDirectory
  let nEntries := r.u16 hdrNEntries
  let nLocal := r.u16 hdrNLocalEntries
  let sorted ← validateDirectory r directory nEntries nLocal
  let t : Typelib :=
    { image := r, namespace_ := ns, version := r.cstring (r.u32 hdrNSVersion),
      directory, nEntries, nLocal, sorted, symbols := [], gtypes := [] }
  pure (buildIndexes t (methodsOf t))

end Introspection.Typelib
