import Mathlib
import Introspection.Proofs.Layout.Frame
import Introspection.Proofs.Image.Body

/-!
# Layouts in the image

A struct or union blob shows its layout three ways: the alignment in six bits of its flag word,
the size in its fourth word, and each field's offset in the field's blob. The writer computes the
layout first, from the state it starts from, and then writes the blob; `layoutAtoms` lists what
the blob shows of the layout it computed. Through the entries of a description the state each
compound starts from is ready, so the layout it shows agrees with its natural layout.
-/

namespace Introspection.Typelib

open Emitter Emit

/-! ## What a blob shows of its layout -/

/-- The offset word of each field blob of a run from `L`: a check that the offset fits 16 bits,
and the offset. -/
def offsetAtoms (offs : List Nat) (L : Nat) (fs : List FieldDef) : List Atom :=
  Atom.run (fun L x => [.check (offs.getD x.2 0 ≤ 65535), .bytes (L + 6) (leBytes (offs.getD x.2 0) 2)])
    (fun x => fieldSize x.1) L fs.zipIdx

/-- The first field blob of a compound's blob at `L`: past the fixed part of a struct or a
union. -/
def Compound.fieldsAt (c : Compound) (L : Nat) : Nat := L + if c.isUnion then 40 else 32

/-- What the blob of a compound at `L` shows of the layout `l`: the alignment, six bits up from
the third of its flag word, the size, and the offset of each field. -/
def layoutAtoms (c : Compound) (l : Layout) (L : Nat) : List Atom :=
  [.word (L + 2) (fun v => v / 8 % 64 = l.align % 64), .bytes (L + 16) (leBytes l.size 4)] ++
    offsetAtoms l.offsets (c.fieldsAt L) c.fields

namespace Emit

theorem field_offset_spec (f : FieldDef) (offset : Nat) :
    Spec (field f offset) (fieldSize f) fun L e =>
      AllHold e [.check (offset ≤ 65535), .bytes (L + 6) (leBytes offset 2)] := by
  refine Spec.size_eq (Spec.weaken ((str_spec f.name).forget.bind Stable.true fun _ =>
    (u8_spec _).forget.bind Stable.true fun _ =>
    (u8_spec _).forget.bind Stable.true fun _ =>
    guard_check_spec _ <|
    (u16_spec offset).bind (Stable.fixed id _) fun _ =>
    (u32_spec 0).forget.bind Stable.true fun _ =>
    (simpleType_spec f.type).bind Stable.true fun _ =>
      (?_ : Spec _ (if f.callback.isSome then 12 else 0) fun _ _ => True))
    fun L e h => ?_) ?_
  · split
    · rename_i cb h
      simpa [h] using (callback_spec cb).forget
    · rename_i h
      simpa [h] using Spec.pure ()
  · obtain ⟨-, -, -, hcheck, hoff, -⟩ := h
    simp only [AllHold.cons_iff, AllHold.nil, and_true]
    exact ⟨fun hnone => Nat.le_of_not_lt (hcheck hnone), hoff⟩
  · unfold fieldSize
    omega

theorem fields_offsets_spec (fs : List FieldDef) (l : Layout) :
    Spec (fields fs l) (fieldsSize fs) fun L e => AllHold e (offsetAtoms l.offsets L fs) := by
  have hloop := forIn_run fs.zipIdx
    (fun L x => [.check (l.offsets.getD x.2 0 ≤ 65535), .bytes (L + 6) (leBytes (l.offsets.getD x.2 0) 2)])
    (fun x => fieldSize x.1)
    (f := fun x _ => field x.1 (l.offsets.getD x.2 0) >>= fun _ => pure (ForInStep.yield PUnit.unit))
    (fun _ _ => rfl) fun x => (field_offset_spec x.1 _).bind_pure
  refine Spec.bind_pure (Spec.size_eq hloop ?_)
  have hfst : fs.zipIdx.map Prod.fst = fs := List.zipIdx_map_fst 0 fs
  conv => rhs; rw [fieldsSize, ← hfst]
  rw [List.map_map]
  rfl

theorem bits_lt_eight (x y z : Bool) : bit x 0 + bit y 1 + bit z 2 < 8 := by
  cases x <;> cases y <;> cases z <;> decide

theorem flagWord_align (low a : Nat) (hlow : low < 8) (high : Bool) :
    (low + a % 64 * 8 + bit high 9) / 8 % 64 = a % 64 := by
  cases high <;> simp [bit] <;> omega

theorem flagWord_spec (v a : Nat) (hv : v / 8 % 64 = a % 64) :
    Spec (u16 v) 2 fun L e => (Atom.word L fun v => v / 8 % 64 = a % 64).Holds e :=
  (u16_spec v).weaken fun _ _ h => ⟨v, h, hv⟩

end Emit

theorem Spec.after_quiet {α β : Type} (atoms : α → Nat → List Atom) {m : EmitM α}
    {f : α → EmitM β} {n : Nat} (hm : Quiet m)
    (hf : ∀ a, Spec (f a) n fun L e => AllHold e (atoms a L)) (e : Emitter) (he : WF e) :
    Extends (m.run e).2 ((m >>= f).run e).2 ∧
      AllHold ((m >>= f).run e).2 (atoms (m.run e).1 e.w.len) := by
  obtain ⟨wf₁, -, len₁, -⟩ := hm e he
  obtain ⟨-, ext, -, h⟩ := hf (m.run e).1 _ wf₁
  rw [len₁, Nat.add_zero] at h
  exact ⟨ext, h⟩

namespace Emit

theorem structBlob_layout (fuel : Nat) (d : StructDef) (typ : BlobType) (e : Emitter)
    (he : WF e) :
    Extends ((layoutOf fuel d.name d.fields d.explicitLayout d.size d.alignment false).run e).2
      ((structBlob fuel d typ).run e).2 ∧
    AllHold ((structBlob fuel d typ).run e).2
      (layoutAtoms ⟨d.fields, false, d.explicitLayout, d.size, d.alignment⟩
        ((layoutOf fuel d.name d.fields d.explicitLayout d.size d.alignment false).run e).1
        e.w.len) := by
  unfold structBlob
  refine Spec.after_quiet (layoutAtoms ⟨d.fields, false, d.explicitLayout, d.size, d.alignment⟩)
    (layout_quiet.1 fuel d.name d.fields d.explicitLayout d.size d.alignment false)
    (fun l => Spec.weaken (Spec.bind_len fun off =>
    (u16_spec typ.code).forget.bind Stable.true fun _ =>
    (flagWord_spec _ l.align (flagWord_align _ _ (bits_lt_eight _ _ _) _)).bind
      (Stable.holds _) fun _ =>
    (str_spec d.name).forget.bind Stable.true fun _ =>
    (str_spec d.gtypeName).forget.bind Stable.true fun _ =>
    (str_spec d.gtypeInit).forget.bind Stable.true fun _ =>
    (u32_spec l.size).bind (Stable.fixed id _) fun _ =>
    (u16_spec _).forget.bind Stable.true fun _ =>
    (u16_spec _).forget.bind Stable.true fun _ =>
    (str_spec d.copyFunc).forget.bind Stable.true fun _ =>
    (str_spec d.freeFunc).forget.bind Stable.true fun _ =>
    Spec.bind (attributes_quiet off d.attributes) Stable.true fun _ =>
    (fields_offsets_spec d.fields l).bind (Stable.allHold _) fun _ =>
    (functions_spec d.methods (methodOwner d.methods)).forget) fun L e h => ?_) e he
  obtain ⟨-, hflags, -, -, -, hsize, -, -, -, -, -, hoffsets, -⟩ := h
  simp only [layoutAtoms, AllHold.append_iff, AllHold.cons_iff, AllHold.nil, and_true]
  exact ⟨⟨hflags, hsize⟩, hoffsets⟩

theorem union_layout (fuel : Nat) (d : UnionDef) (e : Emitter) (he : WF e) :
    Extends ((layoutOf fuel d.name d.fields d.explicitLayout d.size d.alignment true).run e).2
      ((union fuel d).run e).2 ∧
    AllHold ((union fuel d).run e).2
      (layoutAtoms ⟨d.fields, true, d.explicitLayout, d.size, d.alignment⟩
        ((layoutOf fuel d.name d.fields d.explicitLayout d.size d.alignment true).run e).1
        e.w.len) := by
  have hflags : ∀ (l : Layout) (x y z : Bool),
      (bit x 0 + bit y 1 + bit z 2 + l.align % 64 * 8) / 8 % 64 = l.align % 64 := fun l x y z => by
    have := bits_lt_eight x y z
    omega
  unfold union
  cases d.discriminator with
  | none =>
      refine Spec.after_quiet (layoutAtoms ⟨d.fields, true, d.explicitLayout, d.size, d.alignment⟩)
        (layout_quiet.1 fuel d.name d.fields d.explicitLayout d.size d.alignment true)
        (fun l => Spec.weaken (Spec.bind_len fun off =>
        (u16_spec _).forget.bind Stable.true fun _ =>
        (flagWord_spec _ l.align (hflags l _ _ _)).bind (Stable.holds _) fun _ =>
        (str_spec d.name).forget.bind Stable.true fun _ =>
        (str_spec d.gtypeName).forget.bind Stable.true fun _ =>
        (str_spec d.gtypeInit).forget.bind Stable.true fun _ =>
        (u32_spec l.size).bind (Stable.fixed id _) fun _ =>
        (u16_spec _).forget.bind Stable.true fun _ =>
        (u16_spec _).forget.bind Stable.true fun _ =>
        (str_spec d.copyFunc).forget.bind Stable.true fun _ =>
        (str_spec d.freeFunc).forget.bind Stable.true fun _ =>
        (u32_spec 0).forget.bind Stable.true fun _ =>
        (u32_spec 0).forget.bind Stable.true fun _ =>
        Spec.bind (attributes_quiet off d.attributes) Stable.true fun _ =>
        (fields_offsets_spec d.fields l).bind (Stable.allHold _) fun _ =>
        (functions_spec d.methods (methodOwner d.methods)).forget.bind Stable.true fun _ =>
        Spec.pure PUnit.unit) fun L e h => ?_) e he
      obtain ⟨-, hflags, -, -, -, hsize, -, -, -, -, -, -, -, hoffsets, -⟩ := h
      simp only [layoutAtoms, Compound.fieldsAt, if_true, AllHold.append_iff, AllHold.cons_iff,
        AllHold.nil, and_true]
      exact ⟨⟨hflags, hsize⟩, hoffsets⟩
  | some disc =>
      refine Spec.after_quiet (layoutAtoms ⟨d.fields, true, d.explicitLayout, d.size, d.alignment⟩)
        (layout_quiet.1 fuel d.name d.fields d.explicitLayout d.size d.alignment true)
        (fun l => Spec.weaken (Spec.bind_len fun off =>
        (u16_spec _).forget.bind Stable.true fun _ =>
        (flagWord_spec _ l.align (hflags l _ _ _)).bind (Stable.holds _) fun _ =>
        (str_spec d.name).forget.bind Stable.true fun _ =>
        (str_spec d.gtypeName).forget.bind Stable.true fun _ =>
        (str_spec d.gtypeInit).forget.bind Stable.true fun _ =>
        (u32_spec l.size).bind (Stable.fixed id _) fun _ =>
        (u16_spec _).forget.bind Stable.true fun _ =>
        (u16_spec _).forget.bind Stable.true fun _ =>
        (str_spec d.copyFunc).forget.bind Stable.true fun _ =>
        (str_spec d.freeFunc).forget.bind Stable.true fun _ =>
        (u32_spec _).forget.bind Stable.true fun _ =>
        (simpleType_spec disc.type).bind Stable.true fun _ =>
        Spec.bind (attributes_quiet off d.attributes) Stable.true fun _ =>
        (fields_offsets_spec d.fields l).bind (Stable.allHold _) fun _ =>
        (functions_spec d.methods (methodOwner d.methods)).forget.bind Stable.true fun _ =>
        guard_spec _ <|
        (names_loop disc.values constant 24 4 (·.name)
          fun c => (constant_spec c).weaken fun _ _ h => h.2).forget.bind_pure) fun L e h => ?_) e he
      obtain ⟨-, hflags, -, -, -, hsize, -, -, -, -, -, -, -, hoffsets, -⟩ := h
      simp only [layoutAtoms, Compound.fieldsAt, if_true, AllHold.append_iff, AllHold.cons_iff,
        AllHold.nil, and_true]
      exact ⟨⟨hflags, hsize⟩, hoffsets⟩

end Emit

/-! ## Through the entries of a description -/

theorem Emitter.Extends.layoutEnv {e e' : Emitter} (h : Extends e e') :
    e'.layoutEnv = e.layoutEnv := by
  simp only [Emitter.layoutEnv, h.space, h.pointerSize, h.locals]

/-- The blob of `x` at `off`, when `x` is a struct or a union, shows a layout that agrees with
every natural layout of it once the build has not failed. -/
def ShowsLayout (e : Emitter) (x : EntryDef) (off : Nat) : Prop :=
  ∀ c, x.aggregate? = some c → ∃ l : Layout,
    (e.err = none → ∀ L, CompoundLaid e.layoutEnv c L → l.Agrees L) ∧
      AllHold e (layoutAtoms c l off)

theorem ShowsLayout.mono {e e' : Emitter} (h : Extends e e') {x : EntryDef} {off : Nat}
    (hs : ShowsLayout e x off) : ShowsLayout e' x off := by
  intro c hc
  obtain ⟨l, hagree, hatoms⟩ := hs c hc
  refine ⟨l, fun hnone L hL => hagree (h.err_none hnone) L ?_, hatoms.mono h⟩
  rwa [h.layoutEnv] at hL

/-- Each entry of `xs` at its offset in `os` shows its layout. -/
def LaidOut (e : Emitter) (xs : List EntryDef) (os : List Nat) : Prop :=
  ∀ p ∈ xs.zip os, ShowsLayout e p.1 p.2

theorem computed_agrees {fuel : Nat} {e : Emitter} (hr : e.LayoutReady fuel) {name : String}
    {c : Compound} (hc : (e.locals.lookup name).bind EntryDef.compound? = some c) {e' : Emitter}
    (hext : Extends ((layoutOf fuel name c.fields c.explicit c.size c.alignment c.isUnion).run e).2 e')
    (henv : e'.layoutEnv = e.layoutEnv) (hnone : e'.err = none) (L : Layout)
    (hL : CompoundLaid e'.layoutEnv c L) :
    ((layoutOf fuel name c.fields c.explicit c.size c.alignment c.isUnion).run e).1.Agrees L := by
  have hsound := layouts_sound.1 fuel name c.fields c.explicit c.size c.alignment c.isUnion e hr hc
  rw [henv] at hL
  exact hsound.2.2 (hext.err_none hnone) L hL

namespace Emit

theorem place_laidOut {fuel : Nat} {e : Emitter} (he : WF e) (hr : e.LayoutReady fuel)
    (x : EntryDef) (hx : e.locals.lookup x.name = some x) :
    ShowsLayout ((place fuel x).run e).2 x ((place fuel x).run e).1 := by
  intro c hc
  obtain ⟨wf₁, ext₁⟩ := align_tame 4 e he
  have h₁ : LaysOut (align 4) e fun _ => True := write_keepsCache _ e hr.cache
  have hr₁ := hr.of_kept h₁.2.1 h₁.1
  have hx₁ : ((align 4).run e).2.locals.lookup x.name = some x := by
    rw [h₁.2.1.locals]
    exact hx
  have hrun : (place fuel x).run e =
      (((align 4).run e).2.w.len, ((entry fuel x).run ((align 4).run e).2).2) := rfl
  have henv : ((entry fuel x).run ((align 4).run e).2).2.layoutEnv = ((align 4).run e).2.layoutEnv :=
    (entry_laysOut hr₁ x hx₁).2.1.env
  rw [hrun]
  dsimp only
  cases x with
  | struct d =>
      obtain rfl := Option.some.inj hc.symm
      have hd : ((align 4).run e).2.locals.lookup d.name = some (.struct d) := hx₁
      obtain ⟨hext, hatoms⟩ := structBlob_layout fuel d _ _ wf₁
      exact ⟨_, computed_agrees hr₁ (by simp [hd, EntryDef.compound?, EntryDef.aggregate?])
        hext henv, hatoms⟩
  | union d =>
      obtain rfl := Option.some.inj hc.symm
      have hd : ((align 4).run e).2.locals.lookup d.name = some (.union d) := hx₁
      obtain ⟨hext, hatoms⟩ := union_layout fuel d _ wf₁
      exact ⟨_, computed_agrees hr₁ (by simp [hd, EntryDef.compound?, EntryDef.aggregate?])
        hext henv, hatoms⟩
  | _ => simp [EntryDef.aggregate?] at hc

theorem placeAll_laidOut (fuel : Nat) (xs : List EntryDef) (e : Emitter) (he : WF e)
    (hhead : headerSize ≤ e.w.len) (hr : e.LayoutReady fuel)
    (hxs : ∀ x ∈ xs, e.locals.lookup x.name = some x) :
    LaidOut ((xs.mapM (place fuel)).run e).2 xs ((xs.mapM (place fuel)).run e).1 := by
  induction xs generalizing e with
  | nil => exact fun p hp => absurd hp List.not_mem_nil
  | cons x xs ih =>
      have hx := hxs x List.mem_cons_self
      obtain ⟨wf₁, ext₁, -, -, -⟩ := place_run fuel x e he
      have h₁ := place_laysOut hr x hx
      have hr₁ := hr.of_kept h₁.2.1 h₁.1
      have hxs₁ : ∀ y ∈ xs, ((place fuel x).run e).2.locals.lookup y.name = some y := by
        intro y hy
        rw [h₁.2.1.locals]
        exact hxs y (List.mem_cons_of_mem _ hy)
      have hhead₁ := Nat.le_trans hhead ext₁.len
      have hrest := ih _ wf₁ hhead₁ hr₁ hxs₁
      obtain ⟨-, ext₂, -⟩ := placeAll_run fuel xs _ wf₁ hhead₁
      rw [List.mapM_cons, Tame.run_bind, Tame.run_bind]
      intro p hp
      rcases List.mem_cons.1 hp with rfl | hp
      · exact (place_laidOut he hr x hx).mono ext₂
      · exact hrest p hp

end Emit

theorem bodyState_laidOut {d : NamespaceDef}
    (hnames : checkEntryNames (sortedEntries d) [] = .ok ()) :
    LaidOut (bodyState d).2 (sortedEntries d) (bodyState d).1 := by
  have he := startState_wf hnames
  have hr := startState_layoutReady d
  obtain ⟨wf₁, -, len₁, -⟩ := zero_spec headerSize (startState d) he
  have h₁ : LaysOut (zero headerSize) (startState d) fun _ => True :=
    zero_keepsCache _ _ hr.cache
  have hxs : ∀ x ∈ sortedEntries d,
      ((zero headerSize).run (startState d)).2.locals.lookup x.name = some x := by
    intro x hx
    rw [h₁.2.1.locals]
    exact lookup_names (checkEntryNames_ok hnames).2 hx
  have hhead : headerSize ≤ ((zero headerSize).run (startState d)).2.w.len := by
    rw [len₁]
    omega
  have hlaid := Emit.placeAll_laidOut _ _ _ wf₁ hhead (hr.of_kept h₁.2.1 h₁.1) hxs
  obtain ⟨wf₂, -, -⟩ := Emit.placeAll_run ((sortedEntries d).length + 1) (sortedEntries d) _ wf₁ hhead
  obtain ⟨-, ext₃⟩ := Emit.drain_tame (1 + weightSum ((sortedEntries d).map EntryDef.weight)) _ wf₂
  unfold bodyState Emit.body
  simp only [Tame.run_bind]
  exact fun p hp => (hlaid p hp).mono ext₃

end Introspection.Typelib
