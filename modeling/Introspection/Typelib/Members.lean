import Introspection.Typelib.Load

/-!
# Member layout of compound blobs

A compound blob (struct, boxed, union, enum, flags, object, interface) is followed by arrays of
its members. Each array is a span: an offset, a count and a stride. Fields are not uniformly
strided, since a field holding an anonymous callback is followed by the callback's blob, so
fields are listed by offset.
-/

namespace Introspection.Typelib

/-- A homogeneous array of blobs. -/
structure Span where
  offset : Nat := 0
  count : Nat := 0
  stride : Nat := 0
  deriving Inhabited, Repr, DecidableEq

namespace Span

def at_ (s : Span) (i : Nat) : Nat := s.offset + i * s.stride

def stop (s : Span) : Nat := s.at_ s.count

theorem stop_eq (s : Span) : s.stop = s.offset + s.count * s.stride := rfl

end Span

/-- The member arrays that follow a compound blob. -/
structure Members where
  /-- 16-bit directory indices: implemented interfaces or prerequisites. -/
  interfaces : Span := {}
  fields : List Nat := []
  properties : Span := {}
  methods : Span := {}
  signals : Span := {}
  vfuncs : Span := {}
  constants : Span := {}
  values : Span := {}
  discriminators : Span := {}
  deriving Inhabited, Repr

namespace Typelib

/-- Walks `n` field blobs from `off`: their offsets and the offset past them. A truncated image
stops recording and skips the rest. -/
def walkFields (t : Typelib) (off n : Nat) : List Nat × Nat :=
  match n with
  | 0 => ([], off)
  | n + 1 =>
    if off ≥ t.size then ([], off + (n + 1) * fieldBlobSize)
    else
      let embedded := t.u8 (off + 4) / 4 % 2 == 1
      let next := off + fieldBlobSize + (if embedded then callbackBlobSize else 0)
      let (rest, stop) := t.walkFields next n
      (off :: rest, stop)

/-- The member layout of the compound blob at `off`; other blobs have no members. -/
def members (t : Typelib) (off : Nat) : Members :=
  let c := t.u16 off
  if c == 3 || c == 4 then
    let (fields, next) := t.walkFields (off + structBlobSize) (t.u16 (off + 20))
    { fields, methods := ⟨next, t.u16 (off + 22), functionBlobSize⟩ }
  else if c == 11 then
    let (fields, next) := t.walkFields (off + unionBlobSize) (t.u16 (off + 20))
    let methods : Span := ⟨next, t.u16 (off + 22), functionBlobSize⟩
    let discriminators : Span :=
      if t.u16 (off + 2) / 4 % 2 == 1 then ⟨methods.stop, fields.length, constantBlobSize⟩ else {}
    { fields := fields, methods := methods, discriminators := discriminators }
  else if c == 5 || c == 6 then
    let values : Span := ⟨off + enumBlobSize, t.u16 (off + 16), valueBlobSize⟩
    { values, methods := ⟨values.stop, t.u16 (off + 18), functionBlobSize⟩ }
  else if c == 7 then
    let nIfaces := t.u16 (off + 20)
    let interfaces : Span := ⟨off + objectBlobSize, nIfaces, 2⟩
    let (fields, next) := t.walkFields (interfaces.offset + (nIfaces + nIfaces % 2) * 2)
      (t.u16 (off + 22))
    let properties : Span := ⟨next, t.u16 (off + 24), propertyBlobSize⟩
    let methods : Span := ⟨properties.stop, t.u16 (off + 26), functionBlobSize⟩
    let signals : Span := ⟨methods.stop, t.u16 (off + 28), signalBlobSize⟩
    let vfuncs : Span := ⟨signals.stop, t.u16 (off + 30), vfuncBlobSize⟩
    let constants : Span := ⟨vfuncs.stop, t.u16 (off + 32), constantBlobSize⟩
    { interfaces := interfaces, fields := fields, properties := properties, methods := methods, signals := signals, vfuncs := vfuncs, constants := constants }
  else if c == 8 then
    let nPrereq := t.u16 (off + 18)
    let interfaces : Span := ⟨off + interfaceBlobSize, nPrereq, 2⟩
    let properties : Span :=
      ⟨interfaces.offset + (nPrereq + nPrereq % 2) * 2, t.u16 (off + 20), propertyBlobSize⟩
    let methods : Span := ⟨properties.stop, t.u16 (off + 22), functionBlobSize⟩
    let signals : Span := ⟨methods.stop, t.u16 (off + 24), signalBlobSize⟩
    let vfuncs : Span := ⟨signals.stop, t.u16 (off + 26), vfuncBlobSize⟩
    let constants : Span := ⟨vfuncs.stop, t.u16 (off + 28), constantBlobSize⟩
    { interfaces := interfaces, properties := properties, methods := methods, signals := signals, vfuncs := vfuncs, constants := constants }
  else {}

end Typelib

def methodOffsets (t : Typelib) (off : Nat) : List Nat :=
  let m := t.members off
  (List.range m.methods.count).map m.methods.at_

def load (buf : ByteArray) : Except Failure Typelib := loadWith methodOffsets buf

theorem members_zero_blob (t : Typelib) (off : Nat) (h : t.u16 off = 0) :
    t.members off = {} := by
  simp [Typelib.members, h]

end Introspection.Typelib
