import Introspection.Powers

/-!
# The typelib image format

A typelib image is a little-endian byte image of format 4.0. It begins with a 16-byte magic
and a 112-byte header, followed by blobs, a directory of 12-byte entries, an attribute table and
a string table. This module fixes the constants of the format and the names of its coded
values. Coded values are kept as numbers, since an image may hold any number in a field: a name
function gives the text of each known code and `unknown` (or `none`, `invalid`) otherwise.
-/

namespace Introspection.Typelib

def magic : List UInt8 :=
  [0x47, 0x4f, 0x42, 0x4a, 0x0a, 0x4d, 0x45, 0x54, 0x41, 0x44, 0x41, 0x54, 0x41, 0x0d, 0x0a, 0x1a]

def majorVersion : Nat := 4

def minorVersion : Nat := 0

def headerSize : Nat := 112

/-! ## Blob sizes -/

def entryBlobSize : Nat := 12
def functionBlobSize : Nat := 20
def callbackBlobSize : Nat := 12
def signalBlobSize : Nat := 16
def vfuncBlobSize : Nat := 20
def argBlobSize : Nat := 16
def propertyBlobSize : Nat := 16
def fieldBlobSize : Nat := 16
def valueBlobSize : Nat := 12
def attributeBlobSize : Nat := 12
def constantBlobSize : Nat := 24
def errorDomainBlobSize : Nat := 16
def signatureBlobSize : Nat := 8
def enumBlobSize : Nat := 24
def structBlobSize : Nat := 32
def objectBlobSize : Nat := 60
def interfaceBlobSize : Nat := 40
def unionBlobSize : Nat := 40

def blobSizeTable : List Nat :=
  [entryBlobSize, functionBlobSize, callbackBlobSize, signalBlobSize, vfuncBlobSize,
    argBlobSize, propertyBlobSize, fieldBlobSize, valueBlobSize, attributeBlobSize,
    constantBlobSize, errorDomainBlobSize, signatureBlobSize, enumBlobSize, structBlobSize,
    objectBlobSize, interfaceBlobSize, unionBlobSize]

theorem blobSizeTable_length : blobSizeTable.length = 18 := rfl

/-! ## Header fields -/

def hdrMajor : Nat := 16
def hdrMinor : Nat := 17
def hdrNEntries : Nat := 20
def hdrNLocalEntries : Nat := 22
def hdrDirectory : Nat := 24
def hdrNAttributes : Nat := 28
def hdrAttributes : Nat := 32
def hdrDependencies : Nat := 36
def hdrSize : Nat := 40
def hdrNamespace : Nat := 44
def hdrNSVersion : Nat := 48
def hdrSharedLibrary : Nat := 52
def hdrCPrefix : Nat := 56
def hdrBlobSizes : Nat := 60

/-- The 10-bit index marking an absent accessor, invoker or closure. -/
def noIndex : Nat := 0x3ff

/-! ## Blob types -/

/-- The kind of a directory entry, as stored. -/
structure BlobType where
  code : Nat
  deriving DecidableEq, Repr, Inhabited

namespace BlobType

def invalid : BlobType := ⟨0⟩
def function : BlobType := ⟨1⟩
def callback : BlobType := ⟨2⟩
def struct : BlobType := ⟨3⟩
def boxed : BlobType := ⟨4⟩
def enum : BlobType := ⟨5⟩
def flags : BlobType := ⟨6⟩
def object : BlobType := ⟨7⟩
def interface : BlobType := ⟨8⟩
def constant : BlobType := ⟨9⟩
def union : BlobType := ⟨11⟩

def name (b : BlobType) : String :=
  match b.code with
  | 0 => "invalid"
  | 1 => "function"
  | 2 => "callback"
  | 3 => "struct"
  | 4 => "boxed"
  | 5 => "enum"
  | 6 => "flags"
  | 7 => "object"
  | 8 => "interface"
  | 9 => "constant"
  | 10 => "invalid"
  | 11 => "union"
  | _ => "unknown"

def valid (b : BlobType) : Bool := 1 ≤ b.code && b.code ≤ 11 && b.code != 10

def minBlobSize (b : BlobType) : Nat :=
  match b.code with
  | 1 => functionBlobSize
  | 2 => callbackBlobSize
  | 3 | 4 => structBlobSize
  | 5 | 6 => enumBlobSize
  | 7 => objectBlobSize
  | 8 => interfaceBlobSize
  | 9 => constantBlobSize
  | 11 => unionBlobSize
  | _ => 0

/-- Whether a blob header agrees with its directory type; boxed types are stored as structs. -/
def sameBlob (blob dir : BlobType) : Bool :=
  blob == dir || ((blob.code == 3 || blob.code == 4) && (dir.code == 3 || dir.code == 4))

theorem valid_iff (b : BlobType) : b.valid = true ↔ 1 ≤ b.code ∧ b.code ≤ 11 ∧ b.code ≠ 10 := by
  simp [valid, and_assoc]

end BlobType

/-! ## Type tags -/

/-- The discriminant of a type descriptor. -/
structure TypeTag where
  code : Nat
  deriving DecidableEq, Repr, Inhabited

namespace TypeTag

def void : TypeTag := ⟨0⟩
def boolean : TypeTag := ⟨1⟩
def int8 : TypeTag := ⟨2⟩
def uint8 : TypeTag := ⟨3⟩
def int16 : TypeTag := ⟨4⟩
def uint16 : TypeTag := ⟨5⟩
def int32 : TypeTag := ⟨6⟩
def uint32 : TypeTag := ⟨7⟩
def int64 : TypeTag := ⟨8⟩
def uint64 : TypeTag := ⟨9⟩
def float : TypeTag := ⟨10⟩
def double : TypeTag := ⟨11⟩
def gtype : TypeTag := ⟨12⟩
def utf8 : TypeTag := ⟨13⟩
def filename : TypeTag := ⟨14⟩
def array : TypeTag := ⟨15⟩
def interface : TypeTag := ⟨16⟩
def glist : TypeTag := ⟨17⟩
def gslist : TypeTag := ⟨18⟩
def ghash : TypeTag := ⟨19⟩
def error : TypeTag := ⟨20⟩
def unichar : TypeTag := ⟨21⟩

def names : List String :=
  ["void", "gboolean", "gint8", "guint8", "gint16", "guint16", "gint32", "guint32", "gint64",
    "guint64", "gfloat", "gdouble", "GType", "utf8", "filename", "array", "interface", "glist",
    "gslist", "ghash", "error", "gunichar"]

def name (t : TypeTag) : String := names.getD t.code "unknown"

def isBasic (t : TypeTag) : Bool := t.code < 15 || t.code == 21

def isNumeric (t : TypeTag) : Bool := 2 ≤ t.code && t.code ≤ 11

/-- The tag a script names: a short name (`int32`) or the tag's own name (`gint32`). -/
def ofName? (s : String) : Option TypeTag :=
  let short : List (String × Nat) :=
    [("void", 0), ("boolean", 1), ("int8", 2), ("uint8", 3), ("int16", 4), ("uint16", 5),
      ("int32", 6), ("uint32", 7), ("int64", 8), ("uint64", 9), ("float", 10), ("double", 11),
      ("gtype", 12), ("utf8", 13), ("filename", 14), ("array", 15), ("interface", 16),
      ("glist", 17), ("gslist", 18), ("ghash", 19), ("error", 20), ("unichar", 21)]
  match short.lookup s with
  | some c => some ⟨c⟩
  | none => (names.idxOf? s).map TypeTag.mk

theorem name_void : void.name = "void" := rfl

end TypeTag

/-! ## Arrays, directions, transfers and scopes -/

def arrayTypeName : Nat → String
  | 0 => "c"
  | 1 => "GArray"
  | 2 => "GPtrArray"
  | 3 => "GByteArray"
  | _ => "unknown"

/-- The direction of a callable argument. -/
inductive Direction where
  | input
  | output
  | inout
  deriving DecidableEq, Repr, Inhabited

def Direction.name : Direction → String
  | .input => "in"
  | .output => "out"
  | .inout => "inout"

/-- Who owns a value after a call. -/
inductive Transfer where
  | nothing
  | container
  | everything
  deriving DecidableEq, Repr, Inhabited

def Transfer.name : Transfer → String
  | .nothing => "none"
  | .container => "container"
  | .everything => "full"

def scopeName : Nat → String
  | 1 => "call"
  | 2 => "async"
  | 3 => "notified"
  | 4 => "forever"
  | _ => "none"

def scopeCall : Nat := 1
def scopeAsync : Nat := 2
def scopeNotified : Nat := 3
def scopeForever : Nat := 4

end Introspection.Typelib
