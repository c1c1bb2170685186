import Introspection.Proofs.Image.Blobs

/-!
# Entry blobs

Each top-level entry is written as its blob followed by its members, and takes exactly
`entrySize` bytes: the fixed part of its kind, then runs of member blobs. The blob it leaves
holds the atoms `entryAtoms` lists, whatever the layout computation found.
-/

namespace Introspection.Typelib

open Emitter

namespace Emit

theorem refList_spec (names : List String) :
    Spec (refList names) (refsSize names.length) fun L e => AllHold e (Atom.refs L names) := by
  have hloop := forIn_run names (fun L n => [.ref L n]) (fun _ => 2)
    (f := fun n _ => ref n >>= fun i => u16 i >>= fun _ => pure (ForInStep.yield PUnit.unit))
    (fun _ _ => rfl) fun n => (refIndex_spec n (Quiet.pure _)).weaken fun _ _ h => by
      simpa [Atom.Holds] using h
  rw [List.map_const', List.sum_replicate_nat] at hloop
  have hpad : Spec (if names.length % 2 != 0 then u16 0 else pure PUnit.unit)
      (2 * (names.length % 2)) fun _ _ => True := by
    split
    · rename_i hodd
      exact (u16_spec 0).forget.size_eq (by simp at hodd; omega)
    · rename_i heven
      exact (Spec.pure _).size_eq (by simp at heven; omega)
  refine Spec.size_eq ((hloop.bind (Stable.allHold _) fun _ => hpad).weaken fun L e h => ?_) ?_
  · exact h.1
  · unfold refsSize
    omega

theorem members_spec (props : List PropertyDef) (methods : List FunctionDef)
    (signals : List SignalDef) (vfuncs : List VFuncDef) (consts : List ConstantDef) (o : Owner) :
    Spec (members props methods signals vfuncs consts o)
      (membersSize props methods signals vfuncs consts) fun L e =>
        AllHold e (membersAtoms L props methods signals vfuncs consts) := by
  refine Spec.size_eq (Spec.weaken
    ((names_loop props (fun p => property p o) 16 0 (·.name)
        fun p => property_spec p o).bind (Stable.allHold _) fun _ =>
      (functions_spec methods o).bind (Stable.allHold _) fun _ =>
      (names_loop signals (fun s => signal s o) 16 4 (·.name)
        fun s => signal_spec s o).bind (Stable.allHold _) fun _ =>
      (names_loop vfuncs (fun v => vfunc v o) 20 0 (·.name)
        fun v => vfunc_spec v o).bind (Stable.allHold _) fun _ =>
      (names_loop consts constant 24 4 (·.name)
        fun c => (constant_spec c).weaken fun _ _ h => h.2).bind_pure) ?_) ?_
  · intro L e h
    obtain ⟨hp, hm, hs, hv, hc⟩ := h
    simp only [membersAtoms, AllHold.append_iff]
    exact ⟨⟨⟨⟨hp, hm⟩, hs⟩, hv⟩, hc⟩
  · unfold membersSize
    omega

/-! ## Blobs of each kind -/

theorem enum_spec (d : EnumDef) (typ : BlobType) :
    Spec (enum d typ) (24 + 12 * d.values.length + 20 * d.methods.length) fun L e =>
      AllHold e (typeHead L typ.code d.name d.gtypeName d.gtypeInit ++
        [.bytes (L + 16) (leBytes d.values.length 2), .bytes (L + 18) (leBytes d.methods.length 2)] ++
        Atom.names 12 4 (L + 24) (d.values.map (·.name)) ++
        Atom.names 20 4 (L + 24 + 12 * d.values.length) (d.methods.map (·.name))) := by
  refine Spec.size_eq (Spec.weaken (Spec.bind_len fun off =>
    (u16_spec typ.code).bind (Stable.fixed id _) fun _ =>
    (u16_spec _).forget.bind Stable.true fun _ =>
    (str_spec d.name).bind (Stable.strSlot id _) fun _ =>
    (str_spec d.gtypeName).bind (Stable.strSlot id _) fun _ =>
    (str_spec d.gtypeInit).bind (Stable.strSlot id _) fun _ =>
    (u16_spec d.values.length).bind (Stable.fixed id _) fun _ =>
    (u16_spec d.methods.length).bind (Stable.fixed id _) fun _ =>
    (str_spec d.errorDomain).forget.bind Stable.true fun _ =>
    Spec.bind (attributes_quiet off d.attributes) Stable.true fun _ =>
    (forIn_run d.values (fun L v => [.str (L + 4) v.name]) (fun _ => 12) ?yield fun v =>
      (guard_spec _ <|
        (u32_spec _).forget.bind Stable.true fun _ =>
        (str_spec v.name).bind (Stable.strSlot id _) fun _ =>
        (u32_spec _).forget.bind Stable.true fun _ =>
        Spec.pure (ForInStep.yield PUnit.unit)).weaken fun _ _ h =>
          AllHold.cons_iff.2 ⟨h.2.1, AllHold.nil⟩).bind (Stable.allHold _) fun _ =>
    functions_spec d.methods (methodOwner d.methods)) ?_) ?_
  case yield =>
    intro v e
    dsimp only
    split <;> rfl
  · intro L e h
    obtain ⟨hcode, -, hname, hgtype, hinit, hnv, hnm, -, -, hvalues, hmethods⟩ := h
    rw [List.map_const', List.sum_replicate_nat, Nat.mul_comm] at hmethods
    have hvalues' : AllHold e (Atom.names 12 4 (L + 24) (d.values.map (·.name))) := by
      rw [Atom.names_map]
      exact hvalues
    simp only [typeHead, AllHold.append_iff, AllHold.cons_iff, AllHold.nil, and_true, and_assoc]
    exact ⟨hcode, hname, hgtype, hinit, hnv, hnm, hvalues', hmethods⟩
  · rw [List.map_const', List.sum_replicate_nat]
    omega

theorem structBlob_spec (fuel : Nat) (d : StructDef) (typ : BlobType) :
    Spec (structBlob fuel d typ) (32 + fieldsSize d.fields + 20 * d.methods.length) fun L e =>
      AllHold e (typeHead L typ.code d.name d.gtypeName d.gtypeInit ++
        [.bytes (L + 20) (leBytes d.fields.length 2), .bytes (L + 22) (leBytes d.methods.length 2)] ++
        fieldsAtoms (L + 32) d.fields ++
        Atom.names 20 4 (L + 32 + fieldsSize d.fields) (d.methods.map (·.name))) := by
  refine Spec.size_eq (Spec.weaken
    (Spec.bind (layout_quiet.1 fuel d.name d.fields d.explicitLayout d.size d.alignment false)
      Stable.true fun l => Spec.bind_len fun off =>
    (u16_spec typ.code).bind (Stable.fixed id _) fun _ =>
    (u16_spec _).forget.bind Stable.true fun _ =>
    (str_spec d.name).bind (Stable.strSlot id _) fun _ =>
    (str_spec d.gtypeName).bind (Stable.strSlot id _) fun _ =>
    (str_spec d.gtypeInit).bind (Stable.strSlot id _) fun _ =>
    (u32_spec l.size).forget.bind Stable.true fun _ =>
    (u16_spec d.fields.length).bind (Stable.fixed id _) fun _ =>
    (u16_spec d.methods.length).bind (Stable.fixed id _) fun _ =>
    (str_spec d.copyFunc).forget.bind Stable.true fun _ =>
    (str_spec d.freeFunc).forget.bind Stable.true fun _ =>
    Spec.bind (attributes_quiet off d.attributes) Stable.true fun _ =>
    (fields_spec d.fields l).bind (Stable.allHold _) fun _ =>
    functions_spec d.methods (methodOwner d.methods)) ?_) ?_
  · intro L e h
    obtain ⟨-, hcode, -, hname, hgtype, hinit, -, hnf, hnm, -, -, -, hfields, hmethods⟩ := h
    simp only [typeHead, AllHold.append_iff, AllHold.cons_iff, AllHold.nil, and_true, and_assoc]
    exact ⟨hcode, hname, hgtype, hinit, hnf, hnm, hfields, hmethods⟩
  · omega

theorem unionFlags_spec (dep empty disc : Bool) (a : Nat) :
    Spec (u16 (bit dep 0 + bit empty 1 + bit disc 2 + a % 64 * 8)) 2 fun L e =>
      (Atom.word L fun v => v / 4 % 2 = if disc then 1 else 0).Holds e := by
  refine (u16_spec _).weaken fun L e h => ⟨_, h, ?_⟩
  have ha : a % 64 * 8 / 4 % 2 = 0 := by omega
  cases dep <;> cases empty <;> cases disc <;> simp [bit] <;> omega

theorem union_spec (fuel : Nat) (d : UnionDef) :
    Spec (union fuel d) (entrySize (.union d)) fun L e => AllHold e (entryAtoms L (.union d)) := by
  cases hd : d.discriminator with
  | none =>
      unfold union
      simp only [hd]
      refine Spec.size_eq (Spec.weaken
        (Spec.bind (layout_quiet.1 fuel d.name d.fields d.explicitLayout d.size d.alignment true)
          Stable.true fun l => Spec.bind_len fun off =>
        (u16_spec _).bind (Stable.fixed id _) fun _ =>
        (unionFlags_spec _ _ _ _).bind (Stable.holds _) fun _ =>
        (str_spec d.name).bind (Stable.strSlot id _) fun _ =>
        (str_spec d.gtypeName).bind (Stable.strSlot id _) fun _ =>
        (str_spec d.gtypeInit).bind (Stable.strSlot id _) fun _ =>
        (u32_spec l.size).forget.bind Stable.true fun _ =>
        (u16_spec d.fields.length).bind (Stable.fixed id _) fun _ =>
        (u16_spec d.methods.length).bind (Stable.fixed id _) fun _ =>
        (str_spec d.copyFunc).forget.bind Stable.true fun _ =>
        (str_spec d.freeFunc).forget.bind Stable.true fun _ =>
        (u32_spec 0).forget.bind Stable.true fun _ =>
        (u32_spec 0).forget.bind Stable.true fun _ =>
        Spec.bind (attributes_quiet off d.attributes) Stable.true fun _ =>
        (fields_spec d.fields l).bind (Stable.allHold _) fun _ =>
        (functions_spec d.methods (methodOwner d.methods)).bind (Stable.allHold _) fun _ =>
        Spec.pure PUnit.unit) ?_) ?_
      · intro L e h
        obtain ⟨-, hcode, hflags, hname, hgtype, hinit, -, hnf, hnm, -, -, -, -, -, hfields,
          hmethods, -⟩ := h
        simp only [entryAtoms, typeHead, hd, Option.map_none, Option.getD_none, List.append_nil,
          AllHold.append_iff, AllHold.cons_iff, AllHold.nil, and_true, and_assoc]
        exact ⟨hcode, hname, hgtype, hinit, hflags, hnf, hnm, hfields, hmethods⟩
      · simp only [entrySize, hd, Option.map_none, Option.getD_none]
        omega
  | some disc =>
      unfold union
      simp only [hd]
      refine Spec.size_eq (Spec.weaken
        (Spec.bind (layout_quiet.1 fuel d.name d.fields d.explicitLayout d.size d.alignment true)
          Stable.true fun l => Spec.bind_len fun off =>
        (u16_spec _).bind (Stable.fixed id _) fun _ =>
        (unionFlags_spec _ _ _ _).bind (Stable.holds _) fun _ =>
        (str_spec d.name).bind (Stable.strSlot id _) fun _ =>
        (str_spec d.gtypeName).bind (Stable.strSlot id _) fun _ =>
        (str_spec d.gtypeInit).bind (Stable.strSlot id _) fun _ =>
        (u32_spec l.size).forget.bind Stable.true fun _ =>
        (u16_spec d.fields.length).bind (Stable.fixed id _) fun _ =>
        (u16_spec d.methods.length).bind (Stable.fixed id _) fun _ =>
        (str_spec d.copyFunc).forget.bind Stable.true fun _ =>
        (str_spec d.freeFunc).forget.bind Stable.true fun _ =>
        (u32_spec _).forget.bind Stable.true fun _ =>
        (simpleType_spec disc.type).bind Stable.true fun _ =>
        Spec.bind (attributes_quiet off d.attributes) Stable.true fun _ =>
        (fields_spec d.fields l).bind (Stable.allHold _) fun _ =>
        (functions_spec d.methods (methodOwner d.methods)).bind (Stable.allHold _) fun _ =>
        guard_check_spec _ <|
        (names_loop disc.values constant 24 4 (·.name)
          fun c => (constant_spec c).weaken fun _ _ h => h.2).bind_pure) ?_) ?_
      · intro L e h
        obtain ⟨-, hcode, hflags, hname, hgtype, hinit, -, hnf, hnm, -, -, -, -, -, hfields,
          hmethods, hcount, hvalues⟩ := h
        simp only [entryAtoms, typeHead, hd, Option.map_some, Option.getD_some,
          AllHold.append_iff, AllHold.cons_iff, AllHold.nil, and_true, and_assoc]
        exact ⟨hcode, hname, hgtype, hinit, hflags, hnf, hnm, hfields, hmethods,
          fun hnone => by simpa using hcount hnone, hvalues⟩
      · simp only [entrySize, hd, Option.map_some, Option.getD_some]
        omega

theorem object_spec (fuel : Nat) (d : ObjectDef) :
    Spec (object fuel d) (entrySize (.object d)) fun L e => AllHold e (entryAtoms L (.object d)) := by
  refine Spec.size_eq (Spec.weaken (Spec.bind_len fun off =>
    Spec.bind (layout_quiet.1 fuel d.name d.fields false 0 0 false) Stable.true fun l =>
    (u16_spec _).bind (Stable.fixed id _) fun _ =>
    (u16_spec _).forget.bind Stable.true fun _ =>
    (str_spec d.name).bind (Stable.strSlot id _) fun _ =>
    (str_spec d.gtypeName).bind (Stable.strSlot id _) fun _ =>
    (str_spec d.gtypeInit).bind (Stable.strSlot id _) fun _ =>
    Spec.bind (ref_quiet d.parent) Stable.true fun _ =>
    (u16_spec _).forget.bind Stable.true fun _ =>
    Spec.bind (ref_quiet d.classStruct) Stable.true fun _ =>
    (u16_spec _).forget.bind Stable.true fun _ =>
    (u16_spec d.interfaces.length).bind (Stable.fixed id _) fun _ =>
    (u16_spec d.fields.length).bind (Stable.fixed id _) fun _ =>
    (u16_spec d.properties.length).bind (Stable.fixed id _) fun _ =>
    (u16_spec d.methods.length).bind (Stable.fixed id _) fun _ =>
    (u16_spec d.signals.length).bind (Stable.fixed id _) fun _ =>
    (u16_spec d.vfuncs.length).bind (Stable.fixed id _) fun _ =>
    (u16_spec d.constants.length).bind (Stable.fixed id _) fun _ =>
    (u16_spec _).forget.bind Stable.true fun _ =>
    (str_spec d.refFunc).forget.bind Stable.true fun _ =>
    (str_spec d.unrefFunc).forget.bind Stable.true fun _ =>
    (str_spec d.setValueFunc).forget.bind Stable.true fun _ =>
    (str_spec d.getValueFunc).forget.bind Stable.true fun _ =>
    (u32_spec 0).forget.bind Stable.true fun _ =>
    (u32_spec 0).forget.bind Stable.true fun _ =>
    Spec.bind (attributes_quiet off d.attributes) Stable.true fun _ =>
    (refList_spec d.interfaces).bind (Stable.allHold _) fun _ =>
    (fields_spec d.fields l).bind (Stable.allHold _) fun _ =>
    members_spec d.properties d.methods d.signals d.vfuncs d.constants _) ?_) ?_
  · intro L e h
    obtain ⟨-, hcode, -, hname, hgtype, hinit, -, -, -, -, hni, hnf, hnp, hnm, hns, hnv, hnc,
      -, -, -, -, -, -, -, -, hifaces, hfields, hmembers⟩ := h
    simp only [entryAtoms, typeHead, AllHold.append_iff, AllHold.cons_iff, AllHold.nil, and_true,
      and_assoc]
    exact ⟨hcode, hname, hgtype, hinit, hni, hnf, hnp, hnm, hns, hnv, hnc, hifaces, hfields,
      hmembers⟩
  · simp only [entrySize]
    omega

theorem iface_spec (d : InterfaceDef) :
    Spec (iface d) (entrySize (.interface d)) fun L e =>
      AllHold e (entryAtoms L (.interface d)) := by
  refine Spec.size_eq (Spec.weaken (Spec.bind_len fun off =>
    (u16_spec _).bind (Stable.fixed id _) fun _ =>
    (u16_spec _).forget.bind Stable.true fun _ =>
    (str_spec d.name).bind (Stable.strSlot id _) fun _ =>
    (str_spec d.gtypeName).bind (Stable.strSlot id _) fun _ =>
    (str_spec d.gtypeInit).bind (Stable.strSlot id _) fun _ =>
    Spec.bind (ref_quiet d.ifaceStruct) Stable.true fun _ =>
    (u16_spec _).forget.bind Stable.true fun _ =>
    (u16_spec d.prerequisites.length).bind (Stable.fixed id _) fun _ =>
    (u16_spec d.properties.length).bind (Stable.fixed id _) fun _ =>
    (u16_spec d.methods.length).bind (Stable.fixed id _) fun _ =>
    (u16_spec d.signals.length).bind (Stable.fixed id _) fun _ =>
    (u16_spec d.vfuncs.length).bind (Stable.fixed id _) fun _ =>
    (u16_spec d.constants.length).bind (Stable.fixed id _) fun _ =>
    (u16_spec 0).forget.bind Stable.true fun _ =>
    (u32_spec 0).forget.bind Stable.true fun _ =>
    (u32_spec 0).forget.bind Stable.true fun _ =>
    Spec.bind (attributes_quiet off d.attributes) Stable.true fun _ =>
    (refList_spec d.prerequisites).bind (Stable.allHold _) fun _ =>
    members_spec d.properties d.methods d.signals d.vfuncs d.constants _) ?_) ?_
  · intro L e h
    obtain ⟨hcode, -, hname, hgtype, hinit, -, -, hnr, hnp, hnm, hns, hnv, hnc, -, -, -, -,
      hprereqs, hmembers⟩ := h
    simp only [entryAtoms, typeHead, AllHold.append_iff, AllHold.cons_iff, AllHold.nil, and_true,
      and_assoc]
    exact ⟨hcode, hname, hgtype, hinit, hnr, hnp, hnm, hns, hnv, hnc, hprereqs, hmembers⟩
  · simp only [entrySize]
    omega

theorem entry_spec (fuel : Nat) (ent : EntryDef) :
    Spec (entry fuel ent) (entrySize ent) fun L e => AllHold e (entryAtoms L ent) := by
  cases ent with
  | function d =>
      refine (function_spec d none).weaken fun L e h => ?_
      simp only [entryAtoms, AllHold.cons_iff, AllHold.nil, and_true]
      exact h
  | callback d =>
      refine (callback_spec d).weaken fun L e h => ?_
      simp only [entryAtoms, AllHold.cons_iff, AllHold.nil, and_true]
      exact h
  | constant d =>
      refine (constant_spec d).weaken fun L e h => ?_
      simp only [entryAtoms, AllHold.cons_iff, AllHold.nil, and_true]
      exact h
  | enum d =>
      have hcode : (if d.isFlags then BlobType.flags else BlobType.enum).code =
          if d.isFlags then 6 else 5 := by
        split <;> rfl
      refine (enum_spec d _).weaken fun L e h => ?_
      rw [hcode] at h
      exact h
  | struct d =>
      have hcode : (if d.boxed then BlobType.boxed else BlobType.struct).code =
          if d.boxed then 4 else 3 := by
        split <;> rfl
      refine (structBlob_spec fuel d _).weaken fun L e h => ?_
      rw [hcode] at h
      exact h
  | union d => exact union_spec fuel d
  | object d => exact object_spec fuel d
  | interface d => exact iface_spec d

end Emit

end Introspection.Typelib
