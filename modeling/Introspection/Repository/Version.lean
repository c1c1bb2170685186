import Introspection.Text.Blank

/-!
# Namespace versions

A namespace version is one to three dot-separated unsigned 32-bit decimal numbers (`2`, `2.0`,
`2.0.1`); missing parts are zero. Versions compare part by part. A dependency is written
`Namespace-Version`, split at the last dash, with both sides non-empty.
-/

namespace Introspection.Repository

/-- A namespace version `major.minor.patch`. -/
structure Version where
  major : Nat
  minor : Nat
  patch : Nat
  deriving Repr, DecidableEq, Inhabited

namespace Version

def partValue? (p : String) : Option Nat :=
  let cs := p.toList
  if cs.isEmpty || !cs.all Char.isDigit then none
  else
    let v := cs.foldl (fun acc c => acc * 10 + (c.toNat - '0'.toNat)) 0
    if v < 2 ^ 32 then some v else none

def parse? (s : String) : Option Version :=
  if s.isEmpty then none
  else
    let parts := Text.splitAt s '.'
    if parts.length > 3 then none
    else do
      let vals ← parts.mapM partValue?
      pure ⟨vals.getD 0 0, vals.getD 1 0, vals.getD 2 0⟩

def compare (v o : Version) : Ordering :=
  if v.major != o.major then Ord.compare v.major o.major
  else if v.minor != o.minor then Ord.compare v.minor o.minor
  else Ord.compare v.patch o.patch

def sign (o : Ordering) : Int :=
  match o with
  | .lt => -1
  | .eq => 0
  | .gt => 1

/-- The text `major.minor`, with `.patch` when the patch is not zero. -/
def text (v : Version) : String :=
  s!"{v.major}.{v.minor}" ++ (if v.patch != 0 then s!".{v.patch}" else "")

theorem compare_self (v : Version) : v.compare v = .eq := by
  simp [compare, Ord.compare, compareOfLessAndEq]

end Version

def lastDash? (s : String) : Option Nat :=
  let bs := s.toUTF8.toList
  (bs.zipIdx.filter (·.1 == 45)).getLast?.map (·.2)

/-- Splits `GLib-2.0` into namespace and version at the last dash; both must be non-empty. -/
def splitRequirement? (dep : String) : Option (String × String) :=
  match lastDash? dep with
  | none => none
  | some i =>
    let bs := dep.toUTF8
    if i == 0 || i + 1 == bs.size then none
    else
      let ns := String.fromUTF8? (bs.extract 0 i)
      let ver := String.fromUTF8? (bs.extract (i + 1) bs.size)
      match ns, ver with
      | some a, some b => some (a, b)
      | _, _ => none

def fileName (ns version : String) : String := ns ++ "-" ++ version ++ ".typelib"

end Introspection.Repository
