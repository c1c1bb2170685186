import Mathlib
import Introspection.Typelib.Build

/-!
# The layout of entry blobs

What the loader reads of an entry's blob, written down once: a list of atoms, each a position and
what stands there. A blob is the fixed part of its kind followed by runs of member blobs: runs of
one stride for functions, properties, signals, virtual functions, constants and values, fields
whose size depends on an embedded callback, and the directory indices of implemented interfaces
or prerequisites, padded to an even count. The builder is shown to write these atoms and the
loader to find every member where they put it.
-/

namespace Introspection.Typelib

/-- One thing a blob holds at a position: bytes, a slot naming a text, a two-byte word with a
property, or the directory index of a reference's target; or a check the writer made of the
description, which holds once the build has not failed. -/
inductive Atom where
  | bytes (pos : Nat) (bs : List UInt8)
  | str (pos : Nat) (s : String)
  | word (pos : Nat) (P : Nat → Prop)
  | ref (pos : Nat) (name : String)
  | check (P : Prop)

namespace Atom

/-- The atoms of a run of members laid out one after another from `L`. -/
def run {γ : Type} (atoms : Nat → γ → List Atom) (size : γ → Nat) : Nat → List γ → List Atom
  | _, [] => []
  | L, x :: xs => atoms L x ++ run atoms size (L + size x) xs

/-- Names `k` bytes into each blob of a run of blobs of one size. -/
def names (stride k : Nat) (L : Nat) (ns : List String) : List Atom :=
  run (fun L s => [.str (L + k) s]) (fun _ => stride) L ns

/-- Directory indices, two bytes each. -/
def refs (L : Nat) (ns : List String) : List Atom :=
  run (fun L n => [.ref L n]) (fun _ => 2) L ns

theorem run_append {γ : Type} (atoms : Nat → γ → List Atom) (size : γ → Nat) (L : Nat)
    (xs ys : List γ) :
    run atoms size L (xs ++ ys) = run atoms size L xs ++ run atoms size (L + (xs.map size).sum) ys := by
  induction xs generalizing L with
  | nil => simp [run]
  | cons x xs ih => simp [run, ih, Nat.add_assoc]

theorem run_map {γ δ : Type} (atoms : Nat → δ → List Atom) (size : δ → Nat) (f : γ → δ)
    (L : Nat) (xs : List γ) :
    run atoms size L (xs.map f) = run (fun L x => atoms L (f x)) (fun x => size (f x)) L xs := by
  induction xs generalizing L with
  | nil => rfl
  | cons x xs ih => simp [run, ih]

theorem names_map {γ : Type} (stride k L : Nat) (xs : List γ) (name : γ → String) :
    names stride k L (xs.map name) = run (fun L x => [.str (L + k) (name x)]) (fun _ => stride) L xs :=
  run_map _ _ name L xs

theorem mem_names {stride k L : Nat} {ns : List String} {a : Atom} :
    a ∈ names stride k L ns ↔ ∃ i, ∃ h : i < ns.length, a = .str (L + stride * i + k) ns[i] := by
  induction ns generalizing L with
  | nil => simp [names, run]
  | cons n ns ih =>
      simp only [names, run, List.cons_append, List.nil_append, List.mem_cons] at ih ⊢
      rw [ih]
      constructor
      · rintro (rfl | ⟨i, hi, rfl⟩)
        · exact ⟨0, by simp, by simp⟩
        · exact ⟨i + 1, by simp [hi], by simp [Nat.mul_add, Nat.add_assoc, Nat.add_comm stride]⟩
      · rintro ⟨i, hi, rfl⟩
        cases i with
        | zero => exact .inl (by simp)
        | succ i =>
            exact .inr ⟨i, by simpa using hi, by
              simp [Nat.mul_add, Nat.add_assoc, Nat.add_comm stride]⟩

theorem mem_refs {L : Nat} {ns : List String} {a : Atom} :
    a ∈ refs L ns ↔ ∃ i, ∃ h : i < ns.length, a = .ref (L + 2 * i) ns[i] := by
  induction ns generalizing L with
  | nil => simp [refs, run]
  | cons n ns ih =>
      simp only [refs, run, List.cons_append, List.nil_append, List.mem_cons] at ih ⊢
      rw [ih]
      constructor
      · rintro (rfl | ⟨i, hi, rfl⟩)
        · exact ⟨0, by simp, by simp⟩
        · exact ⟨i + 1, by simp [hi], by simp [Nat.mul_add, Nat.add_assoc, Nat.add_comm 2]⟩
      · rintro ⟨i, hi, rfl⟩
        cases i with
        | zero => exact .inl (by simp)
        | succ i =>
            exact .inr ⟨i, by simpa using hi, by simp [Nat.mul_add, Nat.add_assoc, Nat.add_comm 2]⟩

end Atom

/-! ## Fields -/

/-- The size of a field blob: the field, and the blob of its callback when it has one. -/
def fieldSize (f : FieldDef) : Nat := 16 + if f.callback.isSome then 12 else 0

/-- The flag byte of a field; bit 2 says that a callback blob follows. -/
def fieldFlags (f : FieldDef) : Nat :=
  Emit.bit f.readable 0 + Emit.bit f.writable 1 + Emit.bit f.callback.isSome 2

/-- A field blob shows its name and its flag byte. -/
def fieldAtoms (L : Nat) (f : FieldDef) : List Atom :=
  [.str L f.name, .bytes (L + 4) (leBytes (fieldFlags f) 1)]

/-- The fields of a compound blob, one after another. -/
def fieldsAtoms (L : Nat) (fs : List FieldDef) : List Atom := Atom.run fieldAtoms fieldSize L fs

/-- The bytes all fields take. -/
def fieldsSize (fs : List FieldDef) : Nat := (fs.map fieldSize).sum

/-! ## Entries -/

/-- The bytes a list of directory indices takes, padded to an even count. -/
def refsSize (n : Nat) : Nat := 2 * (n + n % 2)

/-- The members of an object or interface: properties, methods, signals, virtual functions
and constants, in this order. -/
def membersAtoms (L : Nat) (props : List PropertyDef) (methods : List FunctionDef)
    (signals : List SignalDef) (vfuncs : List VFuncDef) (consts : List ConstantDef) :
    List Atom :=
  let m := L + 16 * props.length
  let s := m + 20 * methods.length
  let v := s + 16 * signals.length
  let c := v + 20 * vfuncs.length
  Atom.names 16 0 L (props.map (·.name)) ++ Atom.names 20 4 m (methods.map (·.name)) ++
    Atom.names 16 4 s (signals.map (·.name)) ++ Atom.names 20 0 v (vfuncs.map (·.name)) ++
    Atom.names 24 4 c (consts.map (·.name))

/-- The bytes the members of an object or interface take. -/
def membersSize (props : List PropertyDef) (methods : List FunctionDef)
    (signals : List SignalDef) (vfuncs : List VFuncDef) (consts : List ConstantDef) : Nat :=
  16 * props.length + 20 * methods.length + 16 * signals.length + 20 * vfuncs.length +
    24 * consts.length

/-- The head every registered type shares: its blob type, name, GType name and init function. -/
def typeHead (L : Nat) (code : Nat) (name gtypeName gtypeInit : String) : List Atom :=
  [.bytes L (leBytes code 2), .str (L + 4) name, .str (L + 8) gtypeName, .str (L + 12) gtypeInit]

/-- The bytes an entry's blob and its members take. -/
def entrySize : EntryDef → Nat
  | .function _ => 20
  | .callback _ => 12
  | .constant _ => 24
  | .enum d => 24 + 12 * d.values.length + 20 * d.methods.length
  | .struct d => 32 + fieldsSize d.fields + 20 * d.methods.length
  | .union d =>
    40 + fieldsSize d.fields + 20 * d.methods.length +
      (d.discriminator.map fun disc => 24 * disc.values.length).getD 0
  | .object d =>
    60 + refsSize d.interfaces.length + fieldsSize d.fields +
      membersSize d.properties d.methods d.signals d.vfuncs d.constants
  | .interface d =>
    40 + refsSize d.prerequisites.length +
      membersSize d.properties d.methods d.signals d.vfuncs d.constants

/-- What the loader reads of an entry's blob at `L`. -/
def entryAtoms (L : Nat) : EntryDef → List Atom
  | .function d => [.bytes L (leBytes 1 2), .str (L + 4) d.name]
  | .callback d => [.bytes L (leBytes 2 2), .str (L + 4) d.name]
  | .constant d => [.bytes L (leBytes 9 2), .str (L + 4) d.name]
  | .enum d =>
    typeHead L (if d.isFlags then 6 else 5) d.name d.gtypeName d.gtypeInit ++
      [.bytes (L + 16) (leBytes d.values.length 2), .bytes (L + 18) (leBytes d.methods.length 2)] ++
      Atom.names 12 4 (L + 24) (d.values.map (·.name)) ++
      Atom.names 20 4 (L + 24 + 12 * d.values.length) (d.methods.map (·.name))
  | .struct d =>
    typeHead L (if d.boxed then 4 else 3) d.name d.gtypeName d.gtypeInit ++
      [.bytes (L + 20) (leBytes d.fields.length 2), .bytes (L + 22) (leBytes d.methods.length 2)] ++
      fieldsAtoms (L + 32) d.fields ++
      Atom.names 20 4 (L + 32 + fieldsSize d.fields) (d.methods.map (·.name))
  | .union d =>
    let m := L + 40 + fieldsSize d.fields
    typeHead L 11 d.name d.gtypeName d.gtypeInit ++
      [.word (L + 2) fun v => v / 4 % 2 = if d.discriminator.isSome then 1 else 0,
        .bytes (L + 20) (leBytes d.fields.length 2), .bytes (L + 22) (leBytes d.methods.length 2)] ++
      fieldsAtoms (L + 40) d.fields ++ Atom.names 20 4 m (d.methods.map (·.name)) ++
      (d.discriminator.map fun disc =>
        .check (disc.values.length = d.fields.length) ::
          Atom.names 24 4 (m + 20 * d.methods.length) (disc.values.map (·.name))).getD []
  | .object d =>
    let f := L + 60 + refsSize d.interfaces.length
    typeHead L 7 d.name d.gtypeName d.gtypeInit ++
      [.bytes (L + 20) (leBytes d.interfaces.length 2), .bytes (L + 22) (leBytes d.fields.length 2),
        .bytes (L + 24) (leBytes d.properties.length 2), .bytes (L + 26) (leBytes d.methods.length 2),
        .bytes (L + 28) (leBytes d.signals.length 2), .bytes (L + 30) (leBytes d.vfuncs.length 2),
        .bytes (L + 32) (leBytes d.constants.length 2)] ++
      Atom.refs (L + 60) d.interfaces ++ fieldsAtoms f d.fields ++
      membersAtoms (f + fieldsSize d.fields) d.properties d.methods d.signals d.vfuncs d.constants
  | .interface d =>
    typeHead L 8 d.name d.gtypeName d.gtypeInit ++
      [.bytes (L + 18) (leBytes d.prerequisites.length 2),
        .bytes (L + 20) (leBytes d.properties.length 2), .bytes (L + 22) (leBytes d.methods.length 2),
        .bytes (L + 24) (leBytes d.signals.length 2), .bytes (L + 26) (leBytes d.vfuncs.length 2),
        .bytes (L + 28) (leBytes d.constants.length 2)] ++
      Atom.refs (L + 40) d.prerequisites ++
      membersAtoms (L + 40 + refsSize d.prerequisites.length) d.properties d.methods d.signals
        d.vfuncs d.constants

end Introspection.Typelib
