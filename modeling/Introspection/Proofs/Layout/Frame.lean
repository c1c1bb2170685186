import Mathlib
import Introspection.Proofs.Layout.Computed

/-!
# The layout cache while entries are written

Only the layout computations touch the layout cache and the list of compounds being laid out;
every other writer changes the image, the records of strings, attributes and postponed work, the
foreign entries and the failure. `KeepsCache m` says that `m`, run from a state whose cache is
sound, keeps it sound, keeps the environment and the compounds being laid out, and never clears a
failure. The primitives keep the cache, so every writer built from them does; the writers of
structs, unions and objects add layouts that `layouts_sound` shows sound. So each compound of a
description is laid out from a ready state, and the cache stays sound from one entry to the next.
-/

namespace Introspection.Typelib

open Emitter Emit

theorem Emitter.CacheSound.of_kept {e e' : Emitter} (hc : e.CacheSound) (hk : LayoutKept e e')
    (hl : e'.layouts = e.layouts) : e'.CacheSound := by
  intro hnone n l c L hn hlook hL
  rw [hl] at hn
  rw [hk.locals] at hlook
  rw [hk.env] at hL
  exact hc (hk.err_none hnone) n l c L hn hlook hL

/-- From a state whose layout cache is sound, `m` keeps it sound, keeps what layouts are computed
from and the compounds being laid out, and never clears a failure. -/
def KeepsCache {α : Type} (m : EmitM α) : Prop := ∀ e, e.CacheSound → LaysOut m e fun _ => True

namespace KeepsCache

variable {α β : Type}

theorem pure (a : α) : KeepsCache (Pure.pure a : EmitM α) :=
  fun _ hc => LaysOut.pure hc fun _ => trivial

theorem bind {m : EmitM α} {f : α → EmitM β} (hm : KeepsCache m) (hf : ∀ a, KeepsCache (f a)) :
    KeepsCache (m >>= f) :=
  fun e hc => LaysOut.bind (hm e hc) (hf _ _ (hm e hc).1) fun _ _ _ => trivial

theorem get_bind {f : Emitter → EmitM α}
    (hf : ∀ e, e.CacheSound → LaysOut (f e) e fun _ => True) :
    KeepsCache (MonadState.get >>= f) :=
  fun e hc => LaysOut.get_bind (hf e hc)

theorem ite {c : Prop} [Decidable c] {m m' : EmitM α} (hm : KeepsCache m) (hm' : KeepsCache m') :
    KeepsCache (if c then m else m') := by
  split
  · exact hm
  · exact hm'

theorem modify {f : Emitter → Emitter} (hl : ∀ e, (f e).layouts = e.layouts)
    (hk : ∀ e, LayoutKept e (f e)) : KeepsCache (modify f) :=
  fun e hc => ⟨hc.of_kept (hk e) (hl e), hk e, fun _ => trivial⟩

theorem forIn_list {γ : Type} (xs : List γ) (b : β) {f : γ → β → EmitM (ForInStep β)}
    (hf : ∀ x b, KeepsCache (f x b)) : KeepsCache (forIn xs b f) := by
  induction xs generalizing b with
  | nil => exact pure b
  | cons x xs ih =>
      rw [List.forIn_cons]
      refine bind (hf x b) fun step => ?_
      cases step with
      | done b' => exact pure b'
      | yield b' => exact ih b'

end KeepsCache

theorem LaysOut.mono {α : Type} {m : EmitM α} {e : Emitter} {R S : α → Prop} (h : LaysOut m e R)
    (hRS : ∀ a, R a → S a) : LaysOut m e S :=
  ⟨h.1, h.2.1, fun hnone => hRS _ (h.2.2 hnone)⟩

theorem LaysOut.bind_keepsCache {α β : Type} {m : EmitM α} {f : α → EmitM β} {e : Emitter}
    {R : α → Prop} (hm : LaysOut m e R) (hf : ∀ a, KeepsCache (f a)) :
    LaysOut (m >>= f) e fun _ => True :=
  LaysOut.bind hm (hf _ _ hm.1) fun _ _ _ => trivial

/-! ## Primitives -/

namespace Emit

theorem write_keepsCache (f : Writer → Writer) : KeepsCache (write f) :=
  KeepsCache.modify (fun _ => rfl) fun _ => ⟨rfl, rfl, id⟩

theorem len_keepsCache : KeepsCache len :=
  KeepsCache.get_bind fun _ hc => LaysOut.pure hc fun _ => trivial

theorem zero_keepsCache (n : Nat) : KeepsCache (zero n) :=
  len_keepsCache.bind fun _ => (write_keepsCache _).bind fun _ => KeepsCache.pure _

theorem str_keepsCache (s : String) : KeepsCache (str s) :=
  (zero_keepsCache 4).bind fun _ => KeepsCache.ite (KeepsCache.pure _)
    (KeepsCache.modify (fun _ => rfl) fun _ => ⟨rfl, rfl, id⟩)

theorem postpone_keepsCache (p : Pending) : KeepsCache (postpone p) :=
  KeepsCache.modify (fun _ => rfl) fun _ => ⟨rfl, rfl, id⟩

theorem attributes_keepsCache (off : Nat) (attrs : List Attribute) :
    KeepsCache (attributes off attrs) :=
  KeepsCache.modify (fun _ => rfl) fun _ => ⟨rfl, rfl, id⟩

theorem fail_keepsCache (msg : String) : KeepsCache (fail msg) := by
  refine KeepsCache.modify (fun e => ?_) fun e => ?_
  · split <;> rfl
  · split
    · exact LayoutKept.refl e
    · exact ⟨rfl, rfl, fun _ => rfl⟩

theorem guard_keepsCache {α : Type} {c : Prop} [Decidable c] (msg : String)
    {jp : Unit → EmitM α}
    (h : KeepsCache (jp ())) : KeepsCache (if c then fail msg >>= jp else jp ()) :=
  KeepsCache.ite ((fail_keepsCache msg).bind fun _ => h) h

theorem ref_keepsCache (name : String) : KeepsCache (ref name) := by
  unfold ref
  refine KeepsCache.ite (KeepsCache.pure _) (KeepsCache.get_bind fun e hc => ?_)
  dsimp only
  generalize (splitQualified name).getD (e.space, name) = p
  obtain ⟨ns, n⟩ := p
  dsimp only
  split
  · split
    · exact LaysOut.pure hc fun _ => trivial
    · exact ((fail_keepsCache _).bind fun _ => KeepsCache.pure _) e hc
  · split
    · exact LaysOut.pure hc fun _ => trivial
    ·
      exact ⟨hc.of_kept ⟨rfl, rfl, id⟩ rfl, ⟨rfl, rfl, id⟩, fun _ => trivial⟩

/-! ## Writers of members -/

theorem simpleType_keepsCache (t : TypeDef) : KeepsCache (simpleType t) :=
  KeepsCache.ite (write_keepsCache _)
    ((zero_keepsCache 4).bind fun _ => postpone_keepsCache _)

theorem signature_keepsCache (sig : SignatureDef) : KeepsCache (signature sig) :=
  (zero_keepsCache 4).bind fun _ => postpone_keepsCache _

theorem function_keepsCache (d : FunctionDef) (o : Option Owner) : KeepsCache (function d o) :=
  len_keepsCache.bind fun off =>
    (write_keepsCache _).bind fun _ =>
    (write_keepsCache _).bind fun _ =>
    (str_keepsCache _).bind fun _ =>
    (str_keepsCache _).bind fun _ =>
    (signature_keepsCache _).bind fun _ =>
    (write_keepsCache _).bind fun _ =>
    (write_keepsCache _).bind fun _ =>
    attributes_keepsCache off d.attributes

theorem functions_keepsCache (fns : List FunctionDef) (o : Owner) :
    KeepsCache (functions fns o) :=
  (KeepsCache.forIn_list fns _ fun f _ =>
    (function_keepsCache f (some o)).bind fun _ => KeepsCache.pure _).bind fun _ =>
      KeepsCache.pure _

theorem callback_keepsCache (d : CallbackDef) : KeepsCache (callback d) :=
  len_keepsCache.bind fun off =>
    (write_keepsCache _).bind fun _ =>
    (write_keepsCache _).bind fun _ =>
    (str_keepsCache _).bind fun _ =>
    (signature_keepsCache _).bind fun _ =>
    attributes_keepsCache off d.attributes

theorem enum_keepsCache (d : EnumDef) (typ : BlobType) : KeepsCache (enum d typ) :=
  len_keepsCache.bind fun off =>
    (write_keepsCache _).bind fun _ =>
    (write_keepsCache _).bind fun _ =>
    (str_keepsCache _).bind fun _ =>
    (str_keepsCache _).bind fun _ =>
    (str_keepsCache _).bind fun _ =>
    (write_keepsCache _).bind fun _ =>
    (write_keepsCache _).bind fun _ =>
    (str_keepsCache _).bind fun _ =>
    (attributes_keepsCache off d.attributes).bind fun _ =>
    (KeepsCache.forIn_list d.values _ fun _ _ =>
      guard_keepsCache _ <|
        (write_keepsCache _).bind fun _ =>
        (str_keepsCache _).bind fun _ =>
        (write_keepsCache _).bind fun _ => KeepsCache.pure _).bind fun _ =>
    functions_keepsCache d.methods (methodOwner d.methods)

theorem field_keepsCache (f : FieldDef) (offset : Nat) : KeepsCache (field f offset) := by
  refine (str_keepsCache _).bind fun _ =>
    (write_keepsCache _).bind fun _ =>
    (write_keepsCache _).bind fun _ =>
    guard_keepsCache _ <|
    (write_keepsCache _).bind fun _ =>
    (write_keepsCache _).bind fun _ =>
    (simpleType_keepsCache _).bind fun _ => ?_
  split
  · exact callback_keepsCache _
  · exact KeepsCache.pure _

theorem fields_keepsCache (fs : List FieldDef) (l : Layout) : KeepsCache (fields fs l) :=
  (KeepsCache.forIn_list fs.zipIdx _ fun x _ =>
    (field_keepsCache x.1 _).bind fun _ => KeepsCache.pure _).bind fun _ => KeepsCache.pure _

theorem constant_keepsCache (d : ConstantDef) : KeepsCache (constant d) :=
  len_keepsCache.bind fun off =>
    (write_keepsCache _).bind fun _ =>
    (write_keepsCache _).bind fun _ =>
    (str_keepsCache _).bind fun _ =>
    (simpleType_keepsCache _).bind fun _ =>
    (zero_keepsCache 4).bind fun _ =>
    (zero_keepsCache 4).bind fun _ =>
    (write_keepsCache _).bind fun _ =>
    (attributes_keepsCache off d.attributes).bind fun _ =>
    postpone_keepsCache _

theorem property_keepsCache (p : PropertyDef) (o : Owner) : KeepsCache (property p o) :=
  (str_keepsCache _).bind fun _ =>
    (write_keepsCache _).bind fun _ =>
    (write_keepsCache _).bind fun _ =>
    simpleType_keepsCache _

theorem signal_keepsCache (s : SignalDef) (o : Owner) : KeepsCache (signal s o) :=
  (write_keepsCache _).bind fun _ =>
    (write_keepsCache _).bind fun _ =>
    (str_keepsCache _).bind fun _ =>
    (write_keepsCache _).bind fun _ =>
    signature_keepsCache _

theorem vfunc_keepsCache (v : VFuncDef) (o : Owner) : KeepsCache (vfunc v o) :=
  (str_keepsCache _).bind fun _ =>
    (write_keepsCache _).bind fun _ =>
    (write_keepsCache _).bind fun _ =>
    (write_keepsCache _).bind fun _ =>
    (write_keepsCache _).bind fun _ =>
    (write_keepsCache _).bind fun _ =>
    signature_keepsCache _

theorem refList_keepsCache (names : List String) : KeepsCache (refList names) :=
  (KeepsCache.forIn_list names _ fun n _ =>
    (ref_keepsCache n).bind fun _ => (write_keepsCache _).bind fun _ => KeepsCache.pure _).bind
      fun _ => KeepsCache.ite (write_keepsCache _) (KeepsCache.pure _)

theorem members_keepsCache (props : List PropertyDef) (methods : List FunctionDef)
    (signals : List SignalDef) (vfuncs : List VFuncDef) (consts : List ConstantDef) (o : Owner) :
    KeepsCache (members props methods signals vfuncs consts o) :=
  (KeepsCache.forIn_list props _ fun p _ =>
    (property_keepsCache p o).bind fun _ => KeepsCache.pure _).bind fun _ =>
  (functions_keepsCache methods o).bind fun _ =>
  (KeepsCache.forIn_list signals _ fun s _ =>
    (signal_keepsCache s o).bind fun _ => KeepsCache.pure _).bind fun _ =>
  (KeepsCache.forIn_list vfuncs _ fun v _ =>
    (vfunc_keepsCache v o).bind fun _ => KeepsCache.pure _).bind fun _ =>
  (KeepsCache.forIn_list consts _ fun c _ =>
    (constant_keepsCache c).bind fun _ => KeepsCache.pure _).bind fun _ =>
  KeepsCache.pure _

/-! ## Entries -/

theorem layoutOf_laysOut {fuel : Nat} {e : Emitter} (hr : e.LayoutReady fuel) {name : String}
    {fields : List FieldDef} {explicit : Bool} {size alignment : Nat} {isUnion : Bool}
    (hc : (e.locals.lookup name).bind EntryDef.compound? =
      some ⟨fields, isUnion, explicit, size, alignment⟩) :
    LaysOut (layoutOf fuel name fields explicit size alignment isUnion) e fun _ => True :=
  (layouts_sound.1 fuel name fields explicit size alignment isUnion e hr hc).mono
    fun _ _ => trivial

theorem structBlob_laysOut {fuel : Nat} {e : Emitter} (hr : e.LayoutReady fuel) (d : StructDef)
    (typ : BlobType) (hd : e.locals.lookup d.name = some (.struct d)) :
    LaysOut (structBlob fuel d typ) e fun _ => True := by
  have hl : LaysOut (layoutOf fuel d.name d.fields d.explicitLayout d.size d.alignment false) e
      fun _ => True :=
    layoutOf_laysOut hr (by simp [hd, EntryDef.compound?, EntryDef.aggregate?])
  unfold structBlob
  refine hl.bind_keepsCache fun l => ?_
  exact len_keepsCache.bind fun off =>
    (write_keepsCache _).bind fun _ =>
    (write_keepsCache _).bind fun _ =>
    (str_keepsCache _).bind fun _ =>
    (str_keepsCache _).bind fun _ =>
    (str_keepsCache _).bind fun _ =>
    (write_keepsCache _).bind fun _ =>
    (write_keepsCache _).bind fun _ =>
    (write_keepsCache _).bind fun _ =>
    (str_keepsCache _).bind fun _ =>
    (str_keepsCache _).bind fun _ =>
    (attributes_keepsCache off d.attributes).bind fun _ =>
    (fields_keepsCache _ _).bind fun _ =>
    functions_keepsCache _ _

theorem union_laysOut {fuel : Nat} {e : Emitter} (hr : e.LayoutReady fuel) (d : UnionDef)
    (hd : e.locals.lookup d.name = some (.union d)) :
    LaysOut (union fuel d) e fun _ => True := by
  have hl : LaysOut (layoutOf fuel d.name d.fields d.explicitLayout d.size d.alignment true) e
      fun _ => True :=
    layoutOf_laysOut hr (by simp [hd, EntryDef.compound?, EntryDef.aggregate?])
  unfold union
  refine hl.bind_keepsCache fun l => ?_
  cases d.discriminator with
  | none =>
      exact len_keepsCache.bind fun off =>
        (write_keepsCache _).bind fun _ =>
        (write_keepsCache _).bind fun _ =>
        (str_keepsCache _).bind fun _ =>
        (str_keepsCache _).bind fun _ =>
        (str_keepsCache _).bind fun _ =>
        (write_keepsCache _).bind fun _ =>
        (write_keepsCache _).bind fun _ =>
        (write_keepsCache _).bind fun _ =>
        (str_keepsCache _).bind fun _ =>
        (str_keepsCache _).bind fun _ =>
        (write_keepsCache _).bind fun _ =>
        (write_keepsCache _).bind fun _ =>
        (attributes_keepsCache off d.attributes).bind fun _ =>
        (fields_keepsCache _ _).bind fun _ =>
        (functions_keepsCache _ _).bind fun _ =>
        KeepsCache.pure _
  | some disc =>
      exact len_keepsCache.bind fun off =>
        (write_keepsCache _).bind fun _ =>
        (write_keepsCache _).bind fun _ =>
        (str_keepsCache _).bind fun _ =>
        (str_keepsCache _).bind fun _ =>
        (str_keepsCache _).bind fun _ =>
        (write_keepsCache _).bind fun _ =>
        (write_keepsCache _).bind fun _ =>
        (write_keepsCache _).bind fun _ =>
        (str_keepsCache _).bind fun _ =>
        (str_keepsCache _).bind fun _ =>
        (write_keepsCache _).bind fun _ =>
        (simpleType_keepsCache _).bind fun _ =>
        (attributes_keepsCache off d.attributes).bind fun _ =>
        (fields_keepsCache _ _).bind fun _ =>
        (functions_keepsCache _ _).bind fun _ =>
        guard_keepsCache _ <|
        (KeepsCache.forIn_list disc.values _ fun c _ =>
          (constant_keepsCache c).bind fun _ => KeepsCache.pure _).bind fun _ =>
        KeepsCache.pure _

theorem object_laysOut {fuel : Nat} {e : Emitter} (hr : e.LayoutReady fuel) (d : ObjectDef)
    (hd : e.locals.lookup d.name = some (.object d)) :
    LaysOut (object fuel d) e fun _ => True := by
  have hl : LaysOut (layoutOf fuel d.name d.fields false 0 0 false) e fun _ => True :=
    layoutOf_laysOut hr (by simp [hd, EntryDef.compound?])
  unfold object
  refine LaysOut.get_bind (hl.bind_keepsCache fun l => ?_)
  exact (write_keepsCache _).bind fun _ =>
    (write_keepsCache _).bind fun _ =>
    (str_keepsCache _).bind fun _ =>
    (str_keepsCache _).bind fun _ =>
    (str_keepsCache _).bind fun _ =>
    (ref_keepsCache _).bind fun _ =>
    (write_keepsCache _).bind fun _ =>
    (ref_keepsCache _).bind fun _ =>
    (write_keepsCache _).bind fun _ =>
    (write_keepsCache _).bind fun _ =>
    (write_keepsCache _).bind fun _ =>
    (write_keepsCache _).bind fun _ =>
    (write_keepsCache _).bind fun _ =>
    (write_keepsCache _).bind fun _ =>
    (write_keepsCache _).bind fun _ =>
    (write_keepsCache _).bind fun _ =>
    (write_keepsCache _).bind fun _ =>
    (str_keepsCache _).bind fun _ =>
    (str_keepsCache _).bind fun _ =>
    (str_keepsCache _).bind fun _ =>
    (str_keepsCache _).bind fun _ =>
    (write_keepsCache _).bind fun _ =>
    (write_keepsCache _).bind fun _ =>
    (attributes_keepsCache _ d.attributes).bind fun _ =>
    (refList_keepsCache _).bind fun _ =>
    (fields_keepsCache _ _).bind fun _ =>
    members_keepsCache _ _ _ _ _ _

theorem iface_keepsCache (d : InterfaceDef) : KeepsCache (iface d) :=
  len_keepsCache.bind fun off =>
    (write_keepsCache _).bind fun _ =>
    (write_keepsCache _).bind fun _ =>
    (str_keepsCache _).bind fun _ =>
    (str_keepsCache _).bind fun _ =>
    (str_keepsCache _).bind fun _ =>
    (ref_keepsCache _).bind fun _ =>
    (write_keepsCache _).bind fun _ =>
    (write_keepsCache _).bind fun _ =>
    (write_keepsCache _).bind fun _ =>
    (write_keepsCache _).bind fun _ =>
    (write_keepsCache _).bind fun _ =>
    (write_keepsCache _).bind fun _ =>
    (write_keepsCache _).bind fun _ =>
    (write_keepsCache _).bind fun _ =>
    (write_keepsCache _).bind fun _ =>
    (write_keepsCache _).bind fun _ =>
    (attributes_keepsCache off d.attributes).bind fun _ =>
    (refList_keepsCache _).bind fun _ =>
    members_keepsCache _ _ _ _ _ _

theorem entry_laysOut {fuel : Nat} {e : Emitter} (hr : e.LayoutReady fuel) (ent : EntryDef)
    (hent : e.locals.lookup ent.name = some ent) : LaysOut (entry fuel ent) e fun _ => True := by
  cases ent with
  | function d => exact function_keepsCache d none e hr.cache
  | callback d => exact callback_keepsCache d e hr.cache
  | enum d => exact enum_keepsCache d _ e hr.cache
  | struct d => exact structBlob_laysOut hr d _ hent
  | union d => exact union_laysOut hr d hent
  | object d => exact object_laysOut hr d hent
  | interface d => exact iface_keepsCache d e hr.cache
  | constant d => exact constant_keepsCache d e hr.cache

theorem place_laysOut {fuel : Nat} {e : Emitter} (hr : e.LayoutReady fuel) (x : EntryDef)
    (hx : e.locals.lookup x.name = some x) : LaysOut (place fuel x) e fun _ => True := by
  have h₁ : LaysOut (align 4) e fun _ => True := write_keepsCache _ e hr.cache
  have hr₁ := hr.of_kept h₁.2.1 h₁.1
  have hx₁ : ((align 4).run e).2.locals.lookup x.name = some x := by
    rw [h₁.2.1.locals]
    exact hx
  unfold place
  refine LaysOut.bind h₁ (?_ : LaysOut _ _ fun _ => True) fun _ _ _ => trivial
  exact LaysOut.get_bind ((entry_laysOut hr₁ x hx₁).bind_keepsCache fun _ => KeepsCache.pure _)

end Emit

/-! ## The start of a description -/

theorem lookup_names {xs : List EntryDef} (hnodup : (xs.map EntryDef.name).Nodup) {x : EntryDef}
    (hx : x ∈ xs) : (xs.map fun e => (e.name, e)).lookup x.name = some x := by
  induction xs with
  | nil => cases hx
  | cons y ys ih =>
      obtain ⟨hy, hys⟩ := List.nodup_cons.1 hnodup
      rw [List.map_cons, List.lookup_cons]
      rcases List.mem_cons.1 hx with rfl | hx
      · simp
      · have hne : x.name ≠ y.name := fun h => hy (h ▸ List.mem_map_of_mem hx)
        simp only [beq_false_of_ne hne]
        exact ih hys hx

theorem startState_layoutReady (d : NamespaceDef) :
    (startState d).LayoutReady ((sortedEntries d).length + 1) := by
  refine ⟨fun _ n l _ _ hn => by simp [startState] at hn, fun x hx => ?_, List.nodup_nil,
    fun _ hn => by simp [startState] at hn, by simp [startState]⟩
  obtain ⟨y, -, rfl⟩ := List.mem_map.1 hx
  rfl

end Introspection.Typelib
