import Introspection.Binding.Class
import Introspection.Proofs.Invoke.Frame

/-!
# Field lookups and live infos

Every info an accessor hands out counts as live in its namespace record until its last reference
is dropped. A field is looked up by name and dropped by the caller once used. A struct, boxed or
union class finds the field and takes its info alone; an object takes the infos of all its fields
and drops those it passes before the match, so the infos of the fields declared after it stay
live. This module computes what a lookup and the caller's drop do to the live counts, whatever
the caller does with the field in between as long as that takes and drops nothing itself, and
derives exactly when they balance: the class is no object, no field has the name, or the field
found is the last.
-/

namespace Introspection.Binding

open Introspection.Typelib Introspection.Repository Introspection.Info Introspection.Loaded
  Introspection.Loaded.Session

theorem space_modify (r : Repository) (sid sp : Nat) (f : Space → Space) :
    ({ r with spaces := r.spaces.modify sid f } : Repository).space sp =
      if sid = sp ∧ sp < r.spaces.size then f (r.space sp) else r.space sp := by
  simp only [Repository.space, Array.getD_eq_getD_getElem?, Array.getElem?_modify]
  by_cases h : sid = sp
  · subst h
    by_cases hs : sid < r.spaces.size
    · simp [hs]
    · simp [hs]
  · simp [h]

/-- The live count of namespace record `sp`. -/
def liveAt (s : Session) (sp : Nat) : Int := (s.repo.space sp).live

/-- The session with `d` more live infos counted in namespace record `sid`. -/
def shiftLive (s : Session) (sid : Nat) (d : Int) : Session :=
  { s with repo := { s.repo with
      spaces := s.repo.spaces.modify sid fun sp => { sp with live := sp.live + d } } }

section Shift

variable (s : Session) (sid : Nat)

@[simp] theorem classes_shiftLive (d : Int) : (shiftLive s sid d).classes = s.classes := rfl

@[simp] theorem size_shiftLive (d : Int) :
    (shiftLive s sid d).repo.spaces.size = s.repo.spaces.size := by
  simp [shiftLive]

theorem liveAt_shiftLive (d : Int) (sp : Nat) :
    liveAt (shiftLive s sid d) sp = liveAt s sp + if sid = sp ∧ sp < s.repo.spaces.size then d else 0 := by
  rw [liveAt, shiftLive, space_modify]
  split <;> simp [liveAt]

theorem shiftLive_zero : shiftLive s sid 0 = s := by
  have hmod : s.repo.spaces.modify sid (fun sp => { sp with live := sp.live + 0 }) =
      s.repo.spaces := by
    apply Array.ext (by simp)
    intro j _ _
    simp only [Array.getElem_modify]
    split <;> simp
  simp only [shiftLive, hmod]

theorem shiftLive_shiftLive (a b : Int) :
    shiftLive (shiftLive s sid a) sid b = shiftLive s sid (a + b) := by
  have hmod : (s.repo.spaces.modify sid fun sp => { sp with live := sp.live + a }).modify sid
        (fun sp => { sp with live := sp.live + b }) =
      s.repo.spaces.modify sid fun sp => { sp with live := sp.live + (a + b) } := by
    apply Array.ext (by simp)
    intro j _ _
    simp only [Array.getElem_modify]
    split <;> simp [Int.add_assoc]
  simp only [shiftLive, hmod]

end Shift

namespace Session

theorem run_klass (c : Nat) (s : Session) : (klass c).run s = (.ok (s.classes.getD c default), s) :=
  rfl

theorem run_fieldsOf (c : Nat) (s : Session) :
    (fieldsOf c).run s =
      (.ok (if (s.classes.getD c default).isValueType || (s.classes.getD c default).kind == .object
        then Info.fields s.repo (s.classes.getD c default).info else []), s) := by
  unfold fieldsOf
  rw [Invoke.Session.run_bind, run_klass]
  dsimp only
  split <;> rfl

theorem run_takeInfo (sid : Nat) (s : Session) :
    (repoM (Repository.takeInfo sid)).run s = (.ok (), shiftLive s sid 1) := rfl

theorem run_dropInfo (sid : Nat) (s : Session) :
    (repoM (Repository.dropInfo sid)).run s = (.ok (), shiftLive s sid (-1)) := rfl

end Session

open Invoke.Session in
theorem run_takeInfos {sid : Nat} (s : Session) :
    ∀ fields : List Info, (∀ f ∈ fields, f.space = sid) →
    (forIn fields PUnit.unit fun f _ => do
        repoM (Repository.takeInfo f.space)
        pure (ForInStep.yield PUnit.unit) : SessionM PUnit).run s =
      (.ok PUnit.unit, shiftLive s sid fields.length)
  | [], _ => by
    rw [List.forIn_nil, run_pure]
    exact congrArg _ (shiftLive_zero s sid).symm
  | f :: rest, hsid => by
    rw [List.forIn_cons, run_bind, run_bind, Session.run_takeInfo, hsid f List.mem_cons_self]
    dsimp only
    rw [run_pure]
    dsimp only
    rw [run_takeInfos _ rest fun g hg => hsid g (List.mem_cons_of_mem f hg), shiftLive_shiftLive,
      List.length_cons]
    push_cast
    rw [Int.add_comm]

open Invoke.Session in
/-- Going through held field infos drops those before the first match, or all of them. -/
theorem run_dropUntil (r : Repository) (name : String) {sid : Nat} (s : Session) :
    ∀ fields : List Info, (∀ f ∈ fields, f.space = sid) →
    (dropUntil r name fields).run s =
      (.ok (fields.find? (Info.name r · == name)),
        shiftLive s sid (-(((fields.findIdx? (Info.name r · == name)).getD fields.length : Nat) : Int)))
  | [], _ => by
    rw [dropUntil, run_pure]
    exact congrArg _ (shiftLive_zero s sid).symm
  | f :: rest, hsid => by
    rw [dropUntil]
    by_cases hf : (Info.name r f == name) = true
    · rw [if_pos hf, run_pure, List.find?_cons_of_pos (p := (Info.name r · == name)) hf, List.findIdx?_cons, if_pos hf]
      exact congrArg _ (shiftLive_zero s sid).symm
    · rw [if_neg hf, run_bind, Session.run_dropInfo, hsid f List.mem_cons_self]
      dsimp only
      rw [run_dropUntil r name _ rest fun g hg => hsid g (List.mem_cons_of_mem f hg),
        shiftLive_shiftLive, List.find?_cons_of_neg (p := (Info.name r · == name)) hf, List.findIdx?_cons, if_neg hf]
      cases rest.findIdx? (Info.name r · == name) <;> simp only [Option.getD_none, Option.map_some,
        Option.map_none, Option.getD_some, List.length_cons] <;>
        exact congrArg (fun d => (_, shiftLive s sid d)) (by omega)

theorem space_of_mem_fields {r : Repository} {i f : Info} (h : f ∈ Info.fields r i) :
    f.space = i.space := by
  obtain ⟨_, -, rfl⟩ := List.mem_map.1 h
  rfl

theorem space_of_find?_fields {r : Repository} {i f : Info} {b : Bool} {p : Info → Bool}
    (h : (if b then Info.fields r i else []).find? p = some f) : f.space = i.space := by
  have hmem := List.mem_of_find?_eq_some h
  split at hmem
  · exact space_of_mem_fields hmem
  · exact absurd hmem List.not_mem_nil

open Invoke.Session in
/-- An object's field lookup takes all its field infos and drops those before the match. -/
theorem run_field?_object {c : Nat} (name : String) {s : Session}
    (hk : (s.classes.getD c default).kind = .object) :
    (field? c name).run s =
      (.ok ((Info.fields s.repo (s.classes.getD c default).info).find? (Info.name s.repo · == name)),
        shiftLive s (s.classes.getD c default).info.space
          ((Info.fields s.repo (s.classes.getD c default).info).length -
            (((Info.fields s.repo (s.classes.getD c default).info).findIdx?
              (Info.name s.repo · == name)).getD
              (Info.fields s.repo (s.classes.getD c default).info).length : Nat))) := by
  unfold field?
  rw [run_bind, Session.run_klass]
  dsimp only
  rw [run_bind, run_get]
  dsimp only
  rw [if_pos (by simpa using hk), run_bind, run_takeInfos s _ fun f hf => space_of_mem_fields hf]
  dsimp only
  rw [run_dropUntil s.repo name _ _ fun f hf => space_of_mem_fields hf, shiftLive_shiftLive,
    ← Int.sub_eq_add_neg]

open Invoke.Session in
/-- Any other class finds the field and takes its info alone. -/
theorem run_field?_other {c : Nat} (name : String) {s : Session}
    (hk : (s.classes.getD c default).kind ≠ .object) :
    (field? c name).run s =
      (.ok ((if (s.classes.getD c default).isValueType then
          Info.fields s.repo (s.classes.getD c default).info else []).find? (Info.name s.repo · == name)),
        shiftLive s (s.classes.getD c default).info.space
          (if ((if (s.classes.getD c default).isValueType then
            Info.fields s.repo (s.classes.getD c default).info else []).find?
              (Info.name s.repo · == name)).isSome then 1 else 0)) := by
  have hobj : ((s.classes.getD c default).kind == .object) = false := by simpa using hk
  unfold field?
  rw [run_bind, Session.run_klass]
  dsimp only
  rw [run_bind, run_get]
  dsimp only
  rw [if_neg (by rw [hobj]; decide), run_bind, Session.run_fieldsOf]
  dsimp only
  simp only [hobj, Bool.or_false]
  generalize hfound : List.find? _ _ = found
  cases found with
  | some f =>
    rw [run_bind, Session.run_takeInfo]
    dsimp only
    rw [run_pure, space_of_find?_fields hfound]
    rfl
  | none =>
    rw [run_pure]
    exact congrArg _ (shiftLive_zero s _).symm

open Invoke.Session in
theorem run_withInfo {α : Type} (i : Info) (body : SessionM α) (s : Session) :
    (withInfo i body).run s = ((body.run s).1, shiftLive (body.run s).2 i.space (-1)) := by
  unfold withInfo
  have hatt : (attempt body).run s = (.ok (body.run s).1, (body.run s).2) := rfl
  rw [run_bind, hatt]
  dsimp only
  rw [run_bind, Session.run_dropInfo]
  dsimp only
  cases (body.run s).1 <;> rfl

/-- A computation that takes and drops no info in any namespace record, and removes no record. -/
def KeepsLive {α : Type} (m : SessionM α) : Prop :=
  ∀ s, s.repo.spaces.size ≤ (m.run s).2.repo.spaces.size ∧ ∀ sp, liveAt (m.run s).2 sp = liveAt s sp

/-- What runs when no info was taken leaves the counts as they were. -/
theorem liveAt_unheld {α : Type} {m : SessionM α} (hm : KeepsLive m) (s : Session) (sid sp : Nat) :
    liveAt (m.run (shiftLive s sid 0)).2 sp = liveAt s sp := by
  rw [shiftLive_zero, (hm s).2 sp]

section Held

variable {α : Type} {s : Session} {sid : Nat} (hsid : sid < s.repo.spaces.size)
include hsid

/-- Holding an info of namespace `sid` for `body`, after `d` were taken there, leaves `d - 1`. -/
theorem liveAt_withInfo (i : Info) (hi : i.space = sid) {body : SessionM α} (hbody : KeepsLive body)
    (d : Int) (sp : Nat) :
    liveAt ((withInfo i body).run (shiftLive s sid d)).2 sp =
      liveAt s sp + if sid = sp then d - 1 else 0 := by
  obtain ⟨hsize, hlive⟩ := hbody (shiftLive s sid d)
  rw [run_withInfo, hi, liveAt_shiftLive, hlive, liveAt_shiftLive]
  simp only [size_shiftLive] at hsize
  by_cases h : sid = sp
  · subst h
    simp only [hsid, Nat.lt_of_lt_of_le hsid hsize, and_self, if_true]
    omega
  · simp [h]

end Held

open Invoke.Session in
/-- A field used and dropped: the live counts change only for an object whose field was found,
by one for each of its fields declared after the one found. -/
theorem withField_live {α : Type} {c : Nat} (name : String) {s : Session}
    (hsp : (s.classes.getD c default).info.space < s.repo.spaces.size)
    {missing : SessionM α} {body : Info → SessionM α} (hmissing : KeepsLive missing)
    (hbody : ∀ fi, KeepsLive (body fi)) (sp : Nat) :
    liveAt ((withField c name missing body).run s).2 sp = liveAt s sp +
      if (s.classes.getD c default).kind = .object ∧ (s.classes.getD c default).info.space = sp then
        ((((Info.fields s.repo (s.classes.getD c default).info).findIdx?
            (Info.name s.repo · == name)).elim 0
          fun i => (Info.fields s.repo (s.classes.getD c default).info).length - (i + 1) : Nat) : Int)
      else 0 := by
  unfold withField
  rw [run_bind]
  by_cases hk : (s.classes.getD c default).kind = .object
  · rw [run_field?_object name hk]
    dsimp only
    simp only [hk, true_and]
    have hspace : ∀ f ∈ Info.fields s.repo (s.classes.getD c default).info,
        f.space = (s.classes.getD c default).info.space := fun f hf => space_of_mem_fields hf
    generalize Info.fields s.repo (s.classes.getD c default).info = fields at *
    cases hidx : fields.findIdx? (Info.name s.repo · == name) with
    | none =>
      have hnone : fields.find? (Info.name s.repo · == name) = none := by
        rw [List.find?_eq_none]
        simpa [List.findIdx?_eq_none_iff] using hidx
      simp only [hnone, Option.getD_none, Int.sub_self, Option.elim_none]
      rw [liveAt_unheld hmissing]
      simp
    | some i =>
      obtain ⟨hlt, hi, -⟩ := List.findIdx?_eq_some_iff_getElem.1 hidx
      have hsome : (fields.find? (Info.name s.repo · == name)).isSome := by
        rw [List.find?_isSome]
        exact ⟨_, List.getElem_mem hlt, hi⟩
      obtain ⟨f, hf⟩ := Option.isSome_iff_exists.1 hsome
      simp only [hf, Option.getD_some, Option.elim_some]
      rw [liveAt_withInfo hsp f (hspace f (List.mem_of_find?_eq_some hf)) (hbody f)]
      split <;> omega
  · rw [run_field?_other name hk]
    dsimp only
    simp only [hk, false_and, if_false, Int.add_zero]
    cases hfound : List.find? (Info.name s.repo · == name)
        (if (s.classes.getD c default).isValueType then
          Info.fields s.repo (s.classes.getD c default).info else []) with
    | none => exact liveAt_unheld hmissing s _ sp
    | some f =>
      simp only [Option.isSome_some, if_true]
      rw [liveAt_withInfo hsp f (space_of_find?_fields hfound) (hbody f)]
      simp

theorem KeepsLive.pure {α : Type} (a : α) : KeepsLive (Pure.pure a : SessionM α) :=
  fun _ => ⟨Nat.le_refl _, fun _ => rfl⟩

/-- When using a field leaves every live count as it was: exactly when the class is no object,
or the field found is the object's last. -/
theorem field_use_balanced_iff {α : Type} (c : Nat) (name : String) (s : Session)
    (hsp : (s.classes.getD c default).info.space < s.repo.spaces.size)
    {missing : SessionM α} {body : Info → SessionM α} (hmissing : KeepsLive missing)
    (hbody : ∀ fi, KeepsLive (body fi)) :
    (∀ sp, liveAt ((withField c name missing body).run s).2 sp = liveAt s sp) ↔
      (s.classes.getD c default).kind ≠ .object ∨
        ∀ i, (Info.fields s.repo (s.classes.getD c default).info).findIdx?
            (Info.name s.repo · == name) = some i →
          i + 1 = (Info.fields s.repo (s.classes.getD c default).info).length := by
  simp only [withField_live name hsp hmissing hbody]
  generalize s.classes.getD c default = k at hsp ⊢
  generalize Info.fields s.repo k.info = fields
  constructor
  · intro h
    by_cases hk : k.kind = .object
    · right
      intro i hi
      have hleft := h k.info.space
      simp only [hk, hi, and_self, ↓reduceIte, Option.elim_some] at hleft
      obtain ⟨hlt, -⟩ := List.findIdx?_eq_some_iff_getElem.1 hi
      omega
    · exact Or.inl hk
  · rintro (hk | hlast) sp
    · simp [hk]
    · by_cases hc : k.kind = .object ∧ k.info.space = sp
      · cases hf : fields.findIdx? (Info.name s.repo · == name) with
        | none => simp [hc]
        | some i =>
            have := hlast i hf
            simp only [hc, and_self, ↓reduceIte, Option.elim_some]
            omega
      · simp [hc]

/-- A namespace `T` whose only blob is an object with two fields, `a` then `b`: the object blob,
the two field blobs and their names. -/
def twoFieldImage : Writer :=
  ((({} : Writer).u16 7 |>.zero 18 |>.u16 0 |>.u16 2 |>.zero 36)
    |>.u32 92 |>.zero 12 |>.u32 94 |>.zero 12) |>.cstring "a" |>.cstring "b"

def twoFieldTypelib : Typelib :=
  { image := Image.make twoFieldImage.buf twoFieldImage.buf.size, namespace_ := "T",
    version := "1.0", directory := 0, nEntries := 0, nLocal := 0, sorted := true, symbols := [],
    gtypes := [] }

/-- A session with `T` loaded and the object of its image as class 0. -/
def twoFieldSession : Session :=
  { repo := { typelibs := #[twoFieldTypelib], spaces := #[{ name := "T", typelib := 0, path := "" }] },
    classes :=
      #[{ module := 0, info := { space := 0, kind := .object, offset := 0 }, name := "O",
          kind := .object }] }

/-- Using the last field of the object leaves the live count of `T` as it was. -/
theorem last_field_use_balances :
    KeepsLive (pure () : SessionM Unit) ∧
      liveAt ((withField 0 "b" (pure ()) fun _ => pure ()).run twoFieldSession).2 0 =
        liveAt twoFieldSession 0 := by
  refine ⟨KeepsLive.pure (), (field_use_balanced_iff 0 "b" twoFieldSession (by decide)
    (KeepsLive.pure ()) (fun _ => KeepsLive.pure ())).2 (Or.inr fun i hi => ?_) 0⟩
  have hb : (Info.fields twoFieldSession.repo (twoFieldSession.classes.getD 0 default).info).findIdx?
      (Info.name twoFieldSession.repo · == "b") = some 1 := by decide +kernel
  rw [hb] at hi
  cases hi
  decide +kernel

/-- Using the first field of the object leaves the info of the second live: the namespace record
counts one live info where it counted none. -/
theorem first_field_use_leaves_info_live :
    liveAt twoFieldSession 0 = 0 ∧
      liveAt ((withField 0 "a" (pure ()) fun _ => pure ()).run twoFieldSession).2 0 = 1 := by
  decide +kernel

end Introspection.Binding
