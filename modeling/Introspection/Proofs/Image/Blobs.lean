import Introspection.Proofs.Image.Emission
import Introspection.Proofs.Image.Atoms

/-!
# What each blob writer leaves in the image

Every blob has a fixed size, and the loader finds a member by its offset alone: the name of a
function, signal, constant or value sits four bytes in, that of a property, virtual function or
field at the start. The lemmas here give each writer its size and show that it leaves the atoms
of its layout in the image, composed from the specifications of the primitive writes.
-/

namespace Introspection.Typelib

open Emitter

/-! ## Atoms in a state -/

/-- What an atom says of a state: fixed bytes, a string slot, a fixed word with its property,
a fixed index standing for the reference's target unless the build has failed, or a check
passed unless it has. -/
def Atom.Holds (e : Emitter) : Atom → Prop
  | .bytes pos bs => Fixed e pos bs
  | .str pos s => StrSlot e pos s
  | .word pos P => ∃ v, Fixed e pos (leBytes v 2) ∧ P v
  | .ref pos name => ∃ i, Fixed e pos (leBytes i 2) ∧ (e.err = none → RefTo e i name)
  | .check P => e.err = none → P

/-- Every atom of a list holds. -/
def AllHold (e : Emitter) (as : List Atom) : Prop := ∀ a ∈ as, a.Holds e

namespace AllHold

variable {e : Emitter} {a : Atom} {as bs : List Atom}

@[simp] theorem nil : AllHold e [] := fun _ h => absurd h List.not_mem_nil

@[simp] theorem cons_iff : AllHold e (a :: as) ↔ a.Holds e ∧ AllHold e as := by
  simp [AllHold]

@[simp] theorem append_iff : AllHold e (as ++ bs) ↔ AllHold e as ∧ AllHold e bs := by
  simp only [AllHold, List.mem_append]
  exact ⟨fun h => ⟨fun a ha => h a (.inl ha), fun a ha => h a (.inr ha)⟩,
    fun h a ha => ha.elim (h.1 a) (h.2 a)⟩

end AllHold

theorem Atom.Holds.mono {e e' : Emitter} (h : Extends e e') {a : Atom} (ha : a.Holds e) :
    a.Holds e' := by
  cases a with
  | bytes pos bs => exact h.fixed _ _ ha
  | str pos s => exact Stable.strSlot (fun _ => pos) s 0 e e' h ha
  | word pos P =>
      obtain ⟨v, hv, hp⟩ := ha
      exact ⟨v, h.fixed _ _ hv, hp⟩
  | ref pos name =>
      obtain ⟨i, hi, hr⟩ := ha
      exact ⟨i, h.fixed _ _ hi, Stable.refTo i name 0 e e' h hr⟩
  | check P => exact fun hnone => ha (h.err_none hnone)

theorem AllHold.mono {e e' : Emitter} (h : Extends e e') {as : List Atom} (ha : AllHold e as) :
    AllHold e' as :=
  fun a hmem => (ha a hmem).mono h

theorem Stable.holds (a : Nat → Atom) : Stable fun L e => (a L).Holds e :=
  fun _ _ _ h ha => ha.mono h

theorem Stable.allHold (as : Nat → List Atom) : Stable fun L e => AllHold e (as L) :=
  fun _ _ _ h ha => ha.mono h

namespace Emit

/-! ## Member blobs -/

theorem function_spec (d : FunctionDef) (o : Option Owner) :
    Spec (function d o) 20 fun L e => Fixed e L (leBytes 1 2) ∧ StrSlot e (L + 4) d.name :=
  (Spec.bind_len fun off =>
    (u16_spec _).bind (Stable.fixed id _) fun _ =>
    (u16_spec _).forget.bind Stable.true fun _ =>
    (str_spec d.name).bind (Stable.strSlot id _) fun _ =>
    (str_spec d.symbol).forget.bind Stable.true fun _ =>
    (signature_spec d.sig).bind Stable.true fun _ =>
    (u16_spec _).forget.bind Stable.true fun _ =>
    (u16_spec 0).forget.bind Stable.true fun _ =>
    attributes_quiet off d.attributes).weaken fun _ _ h => ⟨h.1, h.2.2.1⟩

theorem callback_spec (d : CallbackDef) :
    Spec (callback d) 12 fun L e => Fixed e L (leBytes 2 2) ∧ StrSlot e (L + 4) d.name :=
  (Spec.bind_len fun off =>
    (u16_spec _).bind (Stable.fixed id _) fun _ =>
    (u16_spec _).forget.bind Stable.true fun _ =>
    (str_spec d.name).bind (Stable.strSlot id _) fun _ =>
    (signature_spec d.sig).bind Stable.true fun _ =>
    attributes_quiet off d.attributes).weaken fun _ _ h => ⟨h.1, h.2.2.1⟩

theorem constantValue_spec (d : ConstantDef) (off : Nat) :
    Spec (do
        let sizePos ← zero 4
        let valPos ← zero 4
        u32 0
        attributes off d.attributes
        postpone (.constantValue sizePos valPos d)) 12 fun _ _ => True := by
  intro e he
  have hrun : ((do
        let sizePos ← zero 4
        let valPos ← zero 4
        u32 0
        attributes off d.attributes
        postpone (.constantValue sizePos valPos d) : EmitM Unit).run e).2 =
      { e with
        w := ((e.w.zero 4).zero 4).u32 0,
        attrs := d.attributes.foldl (fun acc a => acc.push ⟨off, a.name, a.value⟩) e.attrs,
        later := e.later ++ [.constantValue e.w.len (e.w.zero 4).len d] } := rfl
  rw [hrun]
  have hbuf : (((e.w.zero 4).zero 4).u32 0).buf =
      e.w.buf ++ (List.replicate 4 0 ++ List.replicate 4 0 ++ leBytes 0 4).toByteArray := by
    rw [Writer.u32, Writer.int_eq, Writer.buf_bytes, Writer.zero_eq, Writer.buf_bytes,
      Writer.zero_eq, Writer.buf_bytes, List.toByteArray_append, List.toByteArray_append]
    simp only [ByteArray.append_assoc]
  have hmid : (e.w.zero 4).buf.size = e.w.buf.size + 4 := by simp [Writer.zero_eq]
  have hlen : (((e.w.zero 4).zero 4).u32 0).len = e.w.len + 12 := by
    simp only [Writer.len_eq, hbuf, ByteArray.size_append, List.size_toByteArray,
      List.length_append, List.length_replicate, leBytes_length]
  obtain ⟨wf, hfixed⟩ := @fresh_slots e { e with
      w := ((e.w.zero 4).zero 4).u32 0,
      attrs := d.attributes.foldl (fun acc a => acc.push ⟨off, a.name, a.value⟩) e.attrs,
      later := e.later ++ [.constantValue e.w.len (e.w.zero 4).len d] } he
    (he.3.of_eq rfl rfl rfl rfl) _ hbuf
    [e.w.len, (e.w.zero 4).len]
    (by simpa [slots_eq, Pending.slots] using
      @List.perm_append_comm _ e.slots [e.w.len, (e.w.zero 4).len])
    (by
      intro q hq
      show e.w.len ≤ q ∧ q + 4 ≤ (((e.w.zero 4).zero 4).u32 0).len
      simp only [List.mem_cons, List.not_mem_nil, or_false] at hq
      rw [hlen]
      rcases hq with rfl | rfl
      · omega
      · simp only [Writer.len_eq, hmid]
        omega)
    (by simp [Apart, hmid])
  refine ⟨wf, ⟨hfixed, List.prefix_refl _, ?_, List.prefix_refl _, fun _ _ h => h, id, rfl, rfl,
    rfl, rfl, by rw [hlen]; omega⟩, hlen, trivial⟩
  rw [toList_foldl_push d.attributes (fun a : Attribute => (⟨off, a.name, a.value⟩ : AttrRecord))]
  simp

theorem constant_spec (d : ConstantDef) :
    Spec (constant d) 24 fun L e => Fixed e L (leBytes 9 2) ∧ StrSlot e (L + 4) d.name :=
  (Spec.bind_len fun off =>
    (u16_spec _).bind (Stable.fixed id _) fun _ =>
    (u16_spec _).forget.bind Stable.true fun _ =>
    (str_spec d.name).bind (Stable.strSlot id _) fun _ =>
    (simpleType_spec d.type).bind Stable.true fun _ =>
    constantValue_spec d off).weaken fun _ _ h => ⟨h.1, h.2.2.1⟩

theorem property_spec (p : PropertyDef) (o : Owner) :
    Spec (property p o) 16 fun L e => StrSlot e L p.name :=
  ((str_spec p.name).bind (Stable.strSlot id _) fun _ =>
    (u32_spec _).forget.bind Stable.true fun _ =>
    (u32_spec _).forget.bind Stable.true fun _ =>
    simpleType_spec p.type).weaken fun _ _ h => h.1

theorem signal_spec (s : SignalDef) (o : Owner) :
    Spec (signal s o) 16 fun L e => StrSlot e (L + 4) s.name :=
  ((u16_spec _).forget.bind Stable.true fun _ =>
    (u16_spec _).forget.bind Stable.true fun _ =>
    (str_spec s.name).bind (Stable.strSlot id _) fun _ =>
    (u32_spec 0).forget.bind Stable.true fun _ =>
    signature_spec s.sig).weaken fun _ _ h => h.2.2.1

theorem vfunc_spec (v : VFuncDef) (o : Owner) :
    Spec (vfunc v o) 20 fun L e => StrSlot e L v.name :=
  ((str_spec v.name).bind (Stable.strSlot id _) fun _ =>
    (u16_spec _).forget.bind Stable.true fun _ =>
    (u16_spec _).forget.bind Stable.true fun _ =>
    (u16_spec _).forget.bind Stable.true fun _ =>
    (u16_spec _).forget.bind Stable.true fun _ =>
    (u32_spec 0).forget.bind Stable.true fun _ =>
    signature_spec v.sig).weaken fun _ _ h => h.1

theorem field_spec (f : FieldDef) (offset : Nat) :
    Spec (field f offset) (fieldSize f) fun L e =>
      StrSlot e L f.name ∧ Fixed e (L + 4) (leBytes (fieldFlags f) 1) := by
  refine Spec.size_eq (Spec.weaken ((str_spec f.name).bind (Stable.strSlot id _) fun _ =>
    (u8_spec _).bind (Stable.fixed id _) fun _ =>
    (u8_spec _).forget.bind Stable.true fun _ =>
    guard_spec _ <|
    (u16_spec _).forget.bind Stable.true fun _ =>
    (u32_spec 0).forget.bind Stable.true fun _ =>
    (simpleType_spec f.type).bind Stable.true fun _ =>
      (?_ : Spec _ (if f.callback.isSome then 12 else 0) fun _ _ => True))
    fun _ _ h => ⟨h.1, h.2.1⟩) ?_
  · split
    · rename_i cb h
      simpa [h] using (callback_spec cb).forget
    · rename_i h
      simpa [h] using Spec.pure ()
  unfold fieldSize
  omega

/-! ## Runs of members -/

theorem forIn_run {γ : Type} (xs : List γ) {f : γ → PUnit → EmitM (ForInStep PUnit)}
    (atoms : Nat → γ → List Atom) (size : γ → Nat)
    (hyield : ∀ x e, ((f x PUnit.unit).run e).1 = .yield PUnit.unit)
    (h : ∀ x, Spec (f x PUnit.unit) (size x) fun L e => AllHold e (atoms L x)) :
    Spec (forIn xs PUnit.unit f) (xs.map size).sum fun L e =>
      AllHold e (Atom.run atoms size L xs) := by
  induction xs with
  | nil => exact (Spec.pure _).weaken fun _ _ _ => AllHold.nil
  | cons x xs ih =>
      intro e he
      have hrun : (forIn (x :: xs) PUnit.unit f).run e =
          (forIn xs PUnit.unit f).run ((f x PUnit.unit).run e).2 := by
        rw [List.forIn_cons, Tame.run_bind, hyield]
      rw [hrun]
      obtain ⟨wf₁, ext₁, len₁, p₁⟩ := h x e he
      obtain ⟨wf₂, ext₂, len₂, p₂⟩ := ih _ wf₁
      rw [len₁] at len₂ p₂
      refine ⟨wf₂, ext₁.trans ext₂, ?_, ?_⟩
      · rw [len₂, List.map_cons, List.sum_cons, Nat.add_assoc]
      · exact AllHold.append_iff.2 ⟨(Stable.allHold (atoms · x)) _ _ _ ext₂ p₁, p₂⟩

theorem names_loop {γ : Type} (xs : List γ) (body : γ → EmitM Unit) (stride k : Nat)
    (name : γ → String) (h : ∀ x, Spec (body x) stride fun L e => StrSlot e (L + k) (name x)) :
    Spec (forIn xs PUnit.unit fun x _ => body x >>= fun _ => pure (ForInStep.yield PUnit.unit))
      (stride * xs.length) fun L e => AllHold e (Atom.names stride k L (xs.map name)) := by
  have hloop := forIn_run xs (fun L x => [.str (L + k) (name x)]) (fun _ => stride)
    (f := fun x _ => body x >>= fun _ => pure (ForInStep.yield PUnit.unit)) (fun _ _ => rfl) fun x => (h x).bind_pure.weaken fun _ _ hs => by simpa [Atom.Holds] using hs
  rw [List.map_const', List.sum_replicate_nat, Nat.mul_comm] at hloop
  refine hloop.weaken fun L e h => ?_
  rwa [Atom.names_map]

theorem functions_spec (fns : List FunctionDef) (o : Owner) :
    Spec (functions fns o) (20 * fns.length) fun L e =>
      AllHold e (Atom.names 20 4 L (fns.map (·.name))) :=
  (names_loop fns (fun f => function f (some o)) 20 4 (·.name)
    fun f => (function_spec f (some o)).weaken fun _ _ h => h.2).bind_pure

theorem fields_spec (fs : List FieldDef) (l : Layout) :
    Spec (fields fs l) (fieldsSize fs) fun L e => AllHold e (fieldsAtoms L fs) := by
  have hloop := forIn_run fs.zipIdx (fun L x => fieldAtoms L x.1) (fun x => fieldSize x.1)
    (f := fun x _ => field x.1 (l.offsets.getD x.2 0) >>= fun _ => pure (ForInStep.yield PUnit.unit))
    (fun _ _ => rfl) fun x => (field_spec x.1 _).bind_pure.weaken fun _ _ h => by
      simpa [fieldAtoms, Atom.Holds] using h
  have hfst : fs.zipIdx.map Prod.fst = fs := List.zipIdx_map_fst 0 fs
  refine Spec.bind_pure (Spec.size_eq (hloop.weaken fun L e h => ?_) ?_)
  · rwa [← Atom.run_map fieldAtoms fieldSize Prod.fst, hfst] at h
  · conv => rhs; rw [fieldsSize, ← hfst]
    rw [List.map_map]
    rfl

end Emit

end Introspection.Typelib
