import Introspection.Proofs.Layout.Natural
import Introspection.Proofs.Image.Emission

/-!
# Computed layouts against natural ones

The emitter lays out compound types on demand: `layoutOf` looks a name up in a cache, refuses a
name it is already laying out, takes a declared layout as given, and otherwise lays out the fields
with `fieldsLayout`, `fieldLayout`, `typeLayout` and `entityLayout`, all in 32-bit arithmetic.
This module shows that every answer agrees with every natural layout (`Laid`) of what was asked,
as long as no failure is recorded: the alignment always, the size and the offsets when the natural
size fits.

The proof is one induction over the mutual recursion. Its invariant is `LayoutReady`: every
cached layout agrees with the natural layouts of its compound, local entries are listed under
their names, and the compounds being laid out are distinct local names, so that the fuel, which
counts the local entries, outlasts every nesting.
-/

namespace Introspection.Typelib

theorem mem_of_lookup {β : Type} {l : List (String × β)} {k : String} {v : β}
    (h : l.lookup k = some v) : (k, v) ∈ l := by
  induction l with
  | nil => cases h
  | cons x l ih =>
      obtain ⟨k', v'⟩ := x
      rw [List.lookup_cons] at h
      split at h
      · rename_i hk
        cases h
        rw [beq_iff_eq.1 hk]
        exact List.mem_cons_self
      · exact List.mem_cons_of_mem _ (ih h)

namespace Emitter

/-- The layout environment of an emitter. -/
def layoutEnv (e : Emitter) : LayoutEnv := ⟨e.space, e.pointerSize, e.locals⟩

@[simp] theorem layoutEnv_space (e : Emitter) : e.layoutEnv.space = e.space := rfl
@[simp] theorem layoutEnv_pointerSize (e : Emitter) : e.layoutEnv.pointerSize = e.pointerSize := rfl
@[simp] theorem layoutEnv_locals (e : Emitter) : e.layoutEnv.locals = e.locals := rfl

/-- Every cached layout of a state without failure agrees with every natural layout of the
compound its name denotes. -/
def CacheSound (e : Emitter) : Prop :=
  e.err = none → ∀ n l c L, e.layouts.lookup n = some l →
    (e.locals.lookup n).bind EntryDef.compound? = some c → CompoundLaid e.layoutEnv c L →
      l.Agrees L

/-- A state a layout computation with `fuel` starts from: a sound cache, local entries listed
under their names, and the compounds being laid out distinct local names, at most `fuel` short
of all of them. -/
structure LayoutReady (e : Emitter) (fuel : Nat) : Prop where
  cache : e.CacheSound
  named : ∀ x ∈ e.locals, x.1 = x.2.name
  busy_nodup : e.busy.Nodup
  busy_local : ∀ n ∈ e.busy, n ∈ e.locals.map Prod.fst
  fuel : e.locals.length + 1 ≤ fuel + e.busy.length

/-- What a layout computation keeps: the environment, the compounds being laid out, and a failure
once recorded. -/
structure LayoutKept (e e' : Emitter) : Prop where
  env : e'.layoutEnv = e.layoutEnv
  busy : e'.busy = e.busy
  err : e.err.isSome → e'.err.isSome

theorem LayoutKept.refl (e : Emitter) : LayoutKept e e := ⟨rfl, rfl, id⟩

theorem LayoutKept.trans {e₁ e₂ e₃ : Emitter} (h₁ : LayoutKept e₁ e₂) (h₂ : LayoutKept e₂ e₃) :
    LayoutKept e₁ e₃ :=
  ⟨h₂.env.trans h₁.env, h₂.busy.trans h₁.busy, fun h => h₂.err (h₁.err h)⟩

theorem LayoutKept.err_none {e e' : Emitter} (h : LayoutKept e e') (h' : e'.err = none) :
    e.err = none := by
  cases he : e.err with
  | none => rfl
  | some f =>
      have := h.err (by simp [he])
      simp [h'] at this

theorem LayoutKept.locals {e e' : Emitter} (h : LayoutKept e e') : e'.locals = e.locals :=
  congrArg LayoutEnv.locals h.env

theorem LayoutReady.of_kept {e e' : Emitter} {fuel : Nat} (h : e.LayoutReady fuel)
    (hk : LayoutKept e e') (hc : e'.CacheSound) : e'.LayoutReady fuel := by
  obtain ⟨-, hnamed, hnodup, hlocal, hfuel⟩ := h
  have hl := hk.locals
  have hb := hk.busy
  refine ⟨hc, ?_, ?_, ?_, ?_⟩
  · rw [hl]; exact hnamed
  · rw [hb]; exact hnodup
  · rw [hb, hl]; exact hlocal
  · rw [hb, hl]; exact hfuel

theorem LayoutReady.lookup_name {e : Emitter} {fuel : Nat} (h : e.LayoutReady fuel) {n : String}
    {ent : EntryDef} (hl : e.locals.lookup n = some ent) : n = ent.name :=
  h.named _ (mem_of_lookup hl)

theorem LayoutReady.fuel_pos {e : Emitter} {fuel : Nat} (h : e.LayoutReady fuel) {n : String}
    (hn : n ∉ e.busy) (hl : n ∈ e.locals.map Prod.fst) : 0 < fuel := by
  have hsub : (n :: e.busy).Subperm (e.locals.map Prod.fst) := by
    refine List.Nodup.subperm (List.nodup_cons.2 ⟨hn, h.busy_nodup⟩) fun m hm => ?_
    rcases List.mem_cons.1 hm with rfl | hm
    · exact hl
    · exact h.busy_local m hm
  have hlen := hsub.length_le
  simp only [List.length_cons, List.length_map] at hlen
  have := h.fuel
  omega

theorem LayoutReady.enter {e : Emitter} {fuel : Nat} (h : e.LayoutReady (fuel + 1)) {n : String}
    (hn : n ∉ e.busy) (hl : n ∈ e.locals.map Prod.fst) :
    ({ e with busy := n :: e.busy } : Emitter).LayoutReady fuel :=
  ⟨h.cache, h.named, List.nodup_cons.2 ⟨hn, h.busy_nodup⟩,
    fun m hm => (List.mem_cons.1 hm).elim (fun hm => hm ▸ hl) (h.busy_local m),
    by have := h.fuel; simp only [List.length_cons]; omega⟩

end Emitter

open Emitter Emit

/-- A layout computation from `e`: the cache stays sound, the environment and the nesting are
kept, and when no failure is recorded the answer satisfies `R`. -/
def LaysOut {α : Type} (m : EmitM α) (e : Emitter) (R : α → Prop) : Prop :=
  (m.run e).2.CacheSound ∧ LayoutKept e (m.run e).2 ∧ ((m.run e).2.err = none → R (m.run e).1)

namespace LaysOut

variable {α β : Type}

theorem pure {e : Emitter} {a : α} {R : α → Prop} (hc : e.CacheSound) (h : e.err = none → R a) :
    LaysOut (Pure.pure a : EmitM α) e R :=
  ⟨hc, LayoutKept.refl e, h⟩

theorem bind {m : EmitM α} {f : α → EmitM β} {e : Emitter} {R : α → Prop} {S T : β → Prop}
    (hm : LaysOut m e R) (hf : LaysOut (f (m.run e).1) (m.run e).2 S)
    (hRS : R (m.run e).1 → ∀ b, S b → T b) : LaysOut (m >>= f) e T := by
  obtain ⟨-, hk₁, hR⟩ := hm
  obtain ⟨hc₂, hk₂, hS⟩ := hf
  refine ⟨hc₂, hk₁.trans hk₂, fun hnone => ?_⟩
  exact hRS (hR (hk₂.err_none hnone)) _ (hS hnone)

theorem map {m : EmitM α} {g : α → β} {e : Emitter} {R : α → Prop} {S : β → Prop}
    (hm : LaysOut m e R) (h : ∀ a, R a → S (g a)) :
    LaysOut (m >>= fun a => Pure.pure (g a)) e S :=
  ⟨hm.1, hm.2.1, fun hnone => h _ (hm.2.2 hnone)⟩

end LaysOut

/-! ## The step lemmas -/

/-- Placed fields agree with natural ones: the same alignment, and all the same when the natural
end, with room for the alignment, stays within `2 ^ 32`. -/
def PlaceAgrees (r N : List Nat × Nat × Nat) : Prop :=
  r.2.2 = N.2.2 ∧ (N.2.1 + N.2.2 ≤ 2 ^ 32 → r = N)

theorem agrees_of_place {isUnion : Bool} {sizes : List (Nat × Nat)} {r : List Nat × Nat × Nat}
    (h : PlaceAgrees r (place isUnion sizes 0 1)) :
    Layout.Agrees ⟨r.1, alignUp r.2.1 r.2.2, r.2.2⟩ (naturalLayout isUnion sizes) := by
  obtain ⟨halign, hfits⟩ := h
  refine ⟨halign, fun hfit => ?_⟩
  have hpos := naturalLayout_align_pos isUnion sizes
  have hend := le_roundUp (place isUnion sizes 0 1).2.1 (place isUnion sizes 0 1).2.2
  simp only [Fits, naturalLayout] at hfit hpos hend
  have hsum : (place isUnion sizes 0 1).2.1 + (place isUnion sizes 0 1).2.2 ≤ 2 ^ 32 := by
    rw [Nat.max_eq_left hpos] at hfit
    omega
  rw [hfits hsum, alignUp_eq_roundUp hsum]
  rfl

theorem compoundLaid_natural {env : LayoutEnv} {c : Compound} {sizes : List (Nat × Nat)}
    (hexp : c.explicit = false) (hlen : sizes.length = c.fields.length)
    (hall : ∀ x ∈ c.fields.zip sizes, Laid env (.field x.1) x.2.1 x.2.2) :
    CompoundLaid env c (naturalLayout c.isUnion sizes) := by
  unfold CompoundLaid
  rw [if_neg (by simp [hexp])]
  exact ⟨sizes, List.forall₂_iff_zip.2 ⟨hlen.symm, fun hx => hall _ hx⟩, rfl⟩

theorem compoundLaid_declared {env : LayoutEnv} {c : Compound} (hexp : c.explicit = true) :
    CompoundLaid env c c.declared := by
  unfold CompoundLaid
  rw [if_pos hexp]

theorem agree_of_compound {env : LayoutEnv} {name : String} {ent : EntryDef} {c : Compound}
    {l : Layout} (hent : env.entry? name = some ent) (hc : ent.aggregate? = some c)
    (hl : ∀ L, CompoundLaid env c L → l.Agrees L) {s a : Nat} (hL : Laid env (.entity name) s a) :
    Agree (l.size, l.align) (s, a) := by
  have hagree : ∀ L, CompoundLaid env c L → Agree (l.size, l.align) (L.size, L.align) :=
    fun L hL' => ⟨(hl L hL').1, fun hfit => by rw [(hl L hL').2 hfit]⟩
  cases hL with
  | elsewhere h => simp [h] at hent
  | reference h ha _ =>
      obtain rfl := Option.some.inj (hent.symm.trans h)
      simp [ha] at hc
  | enum h hs =>
      obtain rfl := Option.some.inj (hent.symm.trans h)
      cases ent <;> simp [EntryDef.aggregate?, EntryDef.storage?] at hc hs
  | declared h ha hexp =>
      obtain rfl := Option.some.inj (hent.symm.trans h)
      obtain rfl := Option.some.inj (hc.symm.trans ha)
      exact hagree _ (compoundLaid_declared hexp)
  | aggregate h ha hexp hlen hall =>
      obtain rfl := Option.some.inj (hent.symm.trans h)
      obtain rfl := Option.some.inj (hc.symm.trans ha)
      exact hagree _ (compoundLaid_natural hexp hlen hall)

theorem laid_entity_plain {env : LayoutEnv} {name : String}
    (hent : ∀ ent, env.entry? name = some ent → ent.aggregate? = none ∧ ent.storage? = none)
    {s a : Nat} (hL : Laid env (.entity name) s a) : s = env.pointerSize ∧ a = env.pointerSize := by
  cases hL with
  | elsewhere _ => exact ⟨rfl, rfl⟩
  | reference _ _ _ => exact ⟨rfl, rfl⟩
  | enum h hs => simp [(hent _ h).2] at hs
  | declared h ha _ => simp [(hent _ h).1] at ha
  | aggregate h ha _ _ _ => simp [(hent _ h).1] at ha

theorem laid_entity_enum {env : LayoutEnv} {name : String} {d : EnumDef}
    (hent : env.entry? name = some (.enum d)) {s a : Nat} (hL : Laid env (.entity name) s a) :
    s = env.storageWidth d.storage ∧ a = env.storageWidth d.storage := by
  cases hL with
  | elsewhere h => simp [hent] at h
  | reference h _ hs =>
      obtain rfl := Option.some.inj (hent.symm.trans h)
      simp [EntryDef.storage?] at hs
  | enum h hs =>
      obtain rfl := Option.some.inj (hent.symm.trans h)
      obtain rfl := Option.some.inj hs
      exact ⟨rfl, rfl⟩
  | declared h ha _ =>
      obtain rfl := Option.some.inj (hent.symm.trans h)
      simp [EntryDef.aggregate?] at ha
  | aggregate h ha _ _ _ =>
      obtain rfl := Option.some.inj (hent.symm.trans h)
      simp [EntryDef.aggregate?] at ha

/-! ## Cache and failure -/

theorem Layout.Agrees.refl (l : Layout) : l.Agrees l := ⟨rfl, fun _ => rfl⟩

theorem Emitter.CacheSound.cons {e : Emitter} (h : e.CacheSound) {name : String} {l : Layout}
    (hl : e.err = none → ∀ c L, (e.locals.lookup name).bind EntryDef.compound? = some c →
      CompoundLaid e.layoutEnv c L → l.Agrees L) :
    ({ e with layouts := (name, l) :: e.layouts } : Emitter).CacheSound := by
  intro hnone n l' c L hn hc hL
  simp only [List.lookup_cons] at hn
  split at hn
  · rename_i heq
    obtain rfl := beq_iff_eq.1 heq
    cases hn
    exact hl hnone c L hc hL
  · exact h hnone n l' c L hn hc hL

theorem fail_laysOut {α : Type} (msg : String) (a : α) (e : Emitter) (R : α → Prop) :
    LaysOut (fail msg >>= fun _ => Pure.pure a) e R := by
  obtain ⟨-, hfailed⟩ := fail_run msg e
  have hkept : LayoutKept e ((fail msg).run e).2 := by
    show LayoutKept e (if e.err.isSome then e else _)
    split
    · exact LayoutKept.refl e
    · exact ⟨rfl, rfl, fun _ => rfl⟩
  have hne : ((fail msg >>= fun _ => Pure.pure a).run e).2.err ≠ none := by
    show ((fail msg).run e).2.err ≠ none
    intro h
    simp [h] at hfailed
  exact ⟨fun hnone => absurd hnone hne, hkept, fun hnone => absurd hnone hne⟩

theorem cache_laysOut {e : Emitter} {name : String} {l : Layout} {R : Layout → Prop}
    (hc : e.CacheSound)
    (hl : e.err = none → ∀ c L, (e.locals.lookup name).bind EntryDef.compound? = some c →
      CompoundLaid e.layoutEnv c L → l.Agrees L) (hR : e.err = none → R l) :
    LaysOut (modify (fun e : Emitter => { e with layouts := (name, l) :: e.layouts }) >>=
      fun _ => Pure.pure l) e R :=
  ⟨hc.cons hl, ⟨rfl, rfl, id⟩, hR⟩

theorem run_modify_bind {α : Type} (f : Emitter → Emitter) (g : PUnit → EmitM α) (e : Emitter) :
    (modify f >>= g).run e = (g ()).run (f e) := rfl

theorem LaysOut.get_bind {α : Type} {f : Emitter → EmitM α} {e : Emitter} {R : α → Prop}
    (h : LaysOut (f e) e R) : LaysOut (MonadState.get >>= f) e R := h

/-! ## What each computation gives -/

/-- `layoutOf` on a compound the locals list under `name` agrees with its natural layouts. -/
def LayoutOfSound (fuel : Nat) (name : String) (fields : List FieldDef) (explicit : Bool)
    (size alignment : Nat) (isUnion : Bool) : Prop :=
  ∀ e, e.LayoutReady fuel →
    (e.locals.lookup name).bind EntryDef.compound? =
      some ⟨fields, isUnion, explicit, size, alignment⟩ →
    LaysOut (layoutOf fuel name fields explicit size alignment isUnion) e fun l =>
      ∀ L, CompoundLaid e.layoutEnv ⟨fields, isUnion, explicit, size, alignment⟩ L → l.Agrees L

/-- `fieldsLayout` places fields as their natural sizes place them. -/
def FieldsLayoutSound (fuel : Nat) (fields : List FieldDef) (isUnion : Bool) (stop align : Nat) :
    Prop :=
  ∀ e, e.LayoutReady fuel → 1 ≤ align →
    LaysOut (fieldsLayout fuel fields isUnion stop align) e fun r =>
      ∀ sizes, FieldsLaid e.layoutEnv fields sizes → PlaceAgrees r (place isUnion sizes stop align)

/-- `fieldLayout` agrees with the natural size of the field. -/
def FieldLayoutSound (fuel : Nat) (f : FieldDef) : Prop :=
  ∀ e, e.LayoutReady fuel → LaysOut (fieldLayout fuel f) e fun r =>
    ∀ s a, Laid e.layoutEnv (.field f) s a → Agree r (s, a)

/-- `typeLayout` agrees with the natural size of the type. -/
def TypeLayoutSound (fuel : Nat) (t : TypeDef) : Prop :=
  ∀ e, e.LayoutReady fuel → LaysOut (typeLayout fuel t) e fun r =>
    ∀ s a, Laid e.layoutEnv (.type t) s a → Agree r (s, a)

/-- `entityLayout` agrees with the natural size of the entity. -/
def EntityLayoutSound (fuel : Nat) (name : String) : Prop :=
  ∀ e, e.LayoutReady fuel → LaysOut (entityLayout fuel name) e fun r =>
    ∀ s a, Laid e.layoutEnv (.entity name) s a → Agree r (s, a)

theorem layoutOf_step (fuel : Nat) (name : String) (fields : List FieldDef) (explicit : Bool)
    (size alignment : Nat) (isUnion : Bool)
    (ih : match fuel with
      | 0 => True
      | fuel + 1 => FieldsLayoutSound fuel fields isUnion 0 1) :
    LayoutOfSound fuel name fields explicit size alignment isUnion := by
  intro e hr hc
  have hkey : name ∈ e.locals.map Prod.fst := by
    cases hl : e.locals.lookup name with
    | none => simp [hl] at hc
    | some ent => exact List.mem_map.2 ⟨_, mem_of_lookup hl, rfl⟩
  rw [layoutOf.eq_def]
  refine LaysOut.get_bind ?_
  split
  ·
    rename_i l hl
    exact LaysOut.pure hr.cache fun hnone L hL => hr.cache hnone name l _ L hl hc hL
  · split
    ·
      exact fail_laysOut _ _ e _
    · rename_i hbusy
      split
      ·
        rename_i hexp
        subst hexp
        have hdecl : ∀ c L, (e.locals.lookup name).bind EntryDef.compound? = some c →
            CompoundLaid e.layoutEnv c L →
              Layout.Agrees (Compound.declared ⟨fields, isUnion, true, size, alignment⟩) L := by
          intro c L hc' hL
          rw [hc] at hc'
          cases hc'
          rw [hL.declared rfl]
          exact Layout.Agrees.refl _
        exact cache_laysOut hr.cache (fun _ => hdecl) fun _ L hL => hdecl _ L hc hL
      · rename_i hexp
        have hfree : name ∉ e.busy := by simpa [List.contains_iff_mem] using hbusy
        split
        · exact absurd (hr.fuel_pos hfree hkey) (Nat.lt_irrefl 0)
        ·
          rename_i fuel
          obtain ⟨hc₂, hk₂, hS⟩ := ih _ (hr.enter hfree hkey) (Nat.le_refl 1)
          unfold LaysOut
          rw [run_modify_bind, Tame.run_bind]
          generalize (fieldsLayout fuel fields isUnion 0 1).run { e with busy := name :: e.busy } =
            res at hc₂ hk₂ hS
          obtain ⟨⟨offs, stop, align⟩, e₂⟩ := res
          have henv : e₂.layoutEnv = e.layoutEnv := hk₂.env
          have hagree : e₂.err = none → ∀ L,
              CompoundLaid e.layoutEnv ⟨fields, isUnion, explicit, size, alignment⟩ L →
                Layout.Agrees ⟨offs, alignUp stop align, align⟩ L := by
            intro hnone L hL
            obtain ⟨sizes, hsizes, rfl⟩ := hL.natural hexp
            exact agrees_of_place (hS hnone sizes hsizes)
          refine ⟨Emitter.CacheSound.cons (e := { e₂ with busy := e₂.busy.erase name }) hc₂
            fun hnone c L hc' hL => ?_, ⟨henv, ?_, fun h => hk₂.err h⟩, hagree⟩
          · have hlocals : e₂.locals = e.locals := congrArg LayoutEnv.locals henv
            simp only [hlocals, hc, Option.some.injEq] at hc'
            subst hc'
            exact hagree hnone L (henv ▸ hL)
          · show e₂.busy.erase name = e.busy
            rw [hk₂.busy, List.erase_cons_head]

theorem if_gt_eq_max (a b : Nat) : (if a > b then a else b) = max a b := by
  split <;> omega

theorem place_cons_fits (isUnion : Bool) {s a stop align : Nat} {xs : List (Nat × Nat)}
    (halign : 1 ≤ align)
    (hfit : (place isUnion ((s, a) :: xs) stop align).2.1 +
      (place isUnion ((s, a) :: xs) stop align).2.2 ≤ 2 ^ 32) :
    Fits s a ∧ stop + a ≤ 2 ^ 32 ∧ (isUnion = false → roundUp stop a + s < 2 ^ 32) := by
  have hend := le_place_end isUnion xs
    (if isUnion then max s stop else roundUp stop a + s) (max a align)
  have hal := le_place_align isUnion xs
    (if isUnion then max s stop else roundUp stop a + s) (max a align)
  have hround := le_roundUp stop a
  simp only [place] at hfit
  unfold Fits
  cases isUnion
  · simp only [Bool.false_eq_true, if_false] at hend hal hfit
    omega
  · simp only [if_true] at hend hal hfit
    exact ⟨by omega, by omega, by simp⟩

theorem fieldsLayout_nil_step (fuel : Nat) (isUnion : Bool) (stop align : Nat) :
    FieldsLayoutSound fuel [] isUnion stop align := by
  intro e hr _
  rw [fieldsLayout.eq_def]
  refine LaysOut.pure hr.cache fun _ sizes hsizes => ?_
  obtain rfl := List.forall₂_nil_left_iff.1 hsizes
  exact ⟨rfl, fun _ => rfl⟩

theorem fieldsLayout_cons_step (fuel : Nat) (f : FieldDef) (rest : List FieldDef) (isUnion : Bool)
    (stop align : Nat) (hf : FieldLayoutSound fuel f)
    (hu : ∀ fs fa, FieldsLayoutSound fuel rest isUnion (if fs > stop then fs else stop)
      (if fa > align then fa else align))
    (hs : ∀ fs fa, FieldsLayoutSound fuel rest isUnion ((alignUp stop fa + fs) % 2 ^ 32)
      (if fa > align then fa else align)) :
    FieldsLayoutSound fuel (f :: rest) isUnion stop align := by
  intro e hr halign
  rw [fieldsLayout.eq_def]
  obtain ⟨hc₁, hk₁, hR₁⟩ := hf e hr
  have hr₁ := hr.of_kept hk₁ hc₁
  unfold LaysOut
  rw [Tame.run_bind]
  generalize (fieldLayout fuel f).run e = res at hc₁ hk₁ hR₁ hr₁
  obtain ⟨⟨fs, fa⟩, e₁⟩ := res
  have halign' : 1 ≤ (if fa > align then fa else align) := by split <;> omega
  have henv₁ : e₁.layoutEnv = e.layoutEnv := hk₁.env
  dsimp only at hc₁ hk₁ hR₁ hr₁ ⊢
  cases isUnion
  ·
    simp only [Bool.false_eq_true, if_false]
    rw [Tame.run_bind]
    obtain ⟨hc₂, hk₂, hR₂⟩ := hs fs fa e₁ hr₁ halign'
    generalize (fieldsLayout fuel rest false ((alignUp stop fa + fs) % 2 ^ 32)
      (if fa > align then fa else align)).run e₁ = res at hc₂ hk₂ hR₂
    obtain ⟨⟨offs, stop', align'⟩, e₂⟩ := res
    dsimp only at hc₂ hk₂ hR₂
    refine ⟨hc₂, hk₁.trans hk₂, fun hnone sizes hsizes => ?_⟩
    obtain ⟨⟨s, a⟩, sizes', hfa, hrest, rfl⟩ := List.forall₂_cons_left_iff.1 hsizes
    obtain ⟨ha, hfs⟩ := hR₁ (hk₂.err_none hnone) s a hfa
    dsimp only at ha hfs
    subst ha
    have hP := hR₂ hnone sizes' (by rw [henv₁]; exact hrest)
    simp only [if_gt_eq_max] at hP
    refine ⟨hP.1.trans (place_align_congr _ _ _ _ _), fun hfit => ?_⟩
    obtain ⟨hs', hstop, hend⟩ := place_cons_fits false halign hfit
    have hpos : alignUp stop fa = roundUp stop fa := alignUp_eq_roundUp hstop
    have hnext : (alignUp stop fa + fs) % 2 ^ 32 = roundUp stop fa + s := by
      rw [hpos, hfs hs', Nat.mod_eq_of_lt (hend rfl)]
    rw [hnext] at hP
    show (alignUp stop fa :: offs, stop', align') = _
    simp only [place, Bool.false_eq_true, if_false] at hfit ⊢
    rw [← hP.2 hfit, hpos]
  ·
    simp only [if_true]
    rw [Tame.run_bind]
    obtain ⟨hc₂, hk₂, hR₂⟩ := hu fs fa e₁ hr₁ halign'
    generalize (fieldsLayout fuel rest true (if fs > stop then fs else stop)
      (if fa > align then fa else align)).run e₁ = res at hc₂ hk₂ hR₂
    obtain ⟨⟨offs, stop', align'⟩, e₂⟩ := res
    dsimp only at hc₂ hk₂ hR₂
    refine ⟨hc₂, hk₁.trans hk₂, fun hnone sizes hsizes => ?_⟩
    obtain ⟨⟨s, a⟩, sizes', hfa, hrest, rfl⟩ := List.forall₂_cons_left_iff.1 hsizes
    obtain ⟨ha, hfs⟩ := hR₁ (hk₂.err_none hnone) s a hfa
    dsimp only at ha hfs
    subst ha
    have hP := hR₂ hnone sizes' (by rw [henv₁]; exact hrest)
    simp only [if_gt_eq_max] at hP
    refine ⟨hP.1.trans (place_align_congr _ _ _ _ _), fun hfit => ?_⟩
    obtain ⟨hs', -, -⟩ := place_cons_fits true halign hfit
    rw [hfs hs'] at hP
    show (0 :: offs, stop', align') = _
    simp only [place, if_true] at hfit ⊢
    rw [← hP.2 hfit]

theorem fieldLayout_callback_step (fuel : Nat) (f : FieldDef) (cb : CallbackDef)
    (h : f.callback = some cb) : FieldLayoutSound fuel f := by
  intro e hr
  rw [fieldLayout.eq_def]
  simp only [h]
  refine LaysOut.get_bind (LaysOut.pure hr.cache fun _ s a hL => ?_)
  cases hL with
  | callback _ => exact ⟨rfl, fun _ => rfl⟩
  | field hnone _ => simp [h] at hnone

theorem fieldLayout_plain_step (fuel : Nat) (f : FieldDef) (h : f.callback = none)
    (ht : TypeLayoutSound fuel f.type) : FieldLayoutSound fuel f := by
  intro e hr
  rw [fieldLayout.eq_def]
  simp only [h]
  obtain ⟨hc, hk, hR⟩ := ht e hr
  refine ⟨hc, hk, fun hnone s a hL => ?_⟩
  cases hL with
  | callback hs => simp [h] at hs
  | field _ hL' => exact hR hnone s a hL'

theorem TypeTag.eq_of_code {t : TypeTag} {n : Nat} (h : t.code = n) : t = ⟨n⟩ := by
  cases t
  simp_all

theorem agree_fixed {s' a' s a : Nat} {k : Int} (h : Agree (s', a') (s, a)) (hk : 0 ≤ k) :
    Agree (s' * u32of k % 2 ^ 32, a') (k.toNat * s, a) := by
  obtain ⟨ha, hs⟩ := h
  refine ⟨ha, fun hfit => ?_⟩
  unfold Fits at hfit
  dsimp only at hs hfit ⊢
  rcases Nat.eq_zero_or_pos k.toNat with hk0 | hkpos
  · have hk' : k = 0 := by omega
    subst hk'
    simp [u32of]
  · have hle : s ≤ k.toNat * s := Nat.le_mul_of_pos_left s hkpos
    rw [hs (by unfold Fits; omega)]
    rcases Nat.eq_zero_or_pos s with hs0 | hspos
    · simp [hs0]
    · have hkle : k.toNat ≤ k.toNat * s := Nat.le_mul_of_pos_right k.toNat hspos
      have hu : u32of k = k.toNat := by
        unfold u32of
        rw [Int.emod_eq_of_lt hk (by omega)]
      rw [hu, Nat.mul_comm, Nat.mod_eq_of_lt (by omega)]

theorem typeLayout_step (fuel : Nat) (t : TypeDef)
    (helem : ¬t.pointer = true → (t.tag.code == 15) = true →
      ∀ elem tail, t.params = elem :: tail → TypeLayoutSound fuel elem)
    (hent : EntityLayoutSound fuel t.iface) : TypeLayoutSound fuel t := by
  intro e hr
  rw [typeLayout.eq_def]
  refine LaysOut.get_bind ?_
  dsimp only
  split
  ·
    rename_i hptr
    refine LaysOut.pure hr.cache fun _ s a hL => ?_
    cases hL <;> simp_all [Agree]
  · rename_i hptr
    have hptr' : t.pointer = false := by simpa using hptr
    split
    · rename_i h15
      have htag : t.tag = .array := TypeTag.eq_of_code (by simpa using h15)
      split
      ·
        rename_i elem tail n hp _
        rename_i hn
        refine (helem hptr h15 elem tail hp e hr).map fun r hR s a hL => ?_
        cases hL with
        | fixedArray _ _ hp' hk hk0 hL' =>
            rw [hp] at hp'
            obtain ⟨rfl, -⟩ := List.cons.inj hp'
            rw [hn] at hk
            obtain rfl := Option.some.inj hk
            exact agree_fixed (hR _ _ hL') hk0
        | array _ _ h => simp [hp, hn] at h
        | scalar _ hw => simp [htag] at hw
        | pointerSized _ _ h => exact absurd htag h
        | entity _ h => simp [htag, TypeTag.array, TypeTag.interface] at h
        | pointer h => simp [hptr'] at h
      ·
        rename_i hnot
        refine LaysOut.pure hr.cache fun _ s a hL => ?_
        cases hL with
        | array _ _ _ => exact ⟨rfl, fun _ => rfl⟩
        | fixedArray _ _ hp hk _ _ => exact absurd hk (hnot _ _ _ hp)
        | scalar _ hw => simp [htag] at hw
        | pointerSized _ _ h => exact absurd htag h
        | entity _ h => simp [htag, TypeTag.array, TypeTag.interface] at h
        | pointer h => simp [hptr'] at h
    · rename_i h15
      have h15' : t.tag ≠ .array := fun h => by simp [h, TypeTag.array] at h15
      split
      ·
        rename_i h16
        have htag : t.tag = .interface := TypeTag.eq_of_code (by simpa using h16)
        obtain ⟨hc, hk, hR⟩ := hent e hr
        refine ⟨hc, hk, fun hnone s a hL => ?_⟩
        cases hL with
        | entity _ _ hL' => exact hR hnone s a hL'
        | scalar _ hw => simp [htag] at hw
        | pointerSized _ _ _ h => exact absurd htag h
        | array _ h _ => exact absurd h h15'
        | fixedArray _ h _ _ _ _ => exact absurd h h15'
        | pointer h => simp [hptr'] at h
      ·
        rename_i h16
        have h16' : t.tag ≠ .interface := fun h => by simp [h, TypeTag.interface] at h16
        refine LaysOut.pure hr.cache fun _ s a hL => ?_
        rw [scalarLayout_eq]
        cases hL with
        | scalar _ hw => simp [hw, Agree]
        | pointerSized _ hw _ _ => simp [hw, Agree]
        | array _ h _ => exact absurd h h15'
        | fixedArray _ h _ _ _ _ => exact absurd h h15'
        | entity _ h _ => exact absurd h h16'
        | pointer h => simp [hptr'] at h

theorem enum_layout_eq (env : LayoutEnv) (t : TypeTag) :
    (if (t == .void) = true then ((4, 4) : Nat × Nat) else Emit.scalarLayout env.pointerSize t.code)
      = (env.storageWidth t, env.storageWidth t) := by
  unfold LayoutEnv.storageWidth
  by_cases hv : t = .void
  · simp [hv]
  · rw [if_neg (by simpa using hv), if_neg hv, scalarLayout_eq]
    cases t.width? <;> rfl

theorem entityLayout_step (fuel : Nat) (name : String)
    (hs : ∀ d : StructDef,
      LayoutOfSound fuel d.name d.fields d.explicitLayout d.size d.alignment false)
    (hu : ∀ d : UnionDef,
      LayoutOfSound fuel d.name d.fields d.explicitLayout d.size d.alignment true) :
    EntityLayoutSound fuel name := by
  intro e hr
  rw [entityLayout.eq_def]
  refine LaysOut.get_bind ?_
  dsimp only
  split
  ·
    rename_i hloc
    have hent : e.layoutEnv.entry? name = none := by
      have hloc' : localName? e.space name = none := hloc
      simp [LayoutEnv.entry?, hloc']
    refine LaysOut.pure hr.cache fun _ s a hL => ?_
    obtain ⟨rfl, rfl⟩ := laid_entity_plain (by simp [hent]) hL
    exact ⟨rfl, fun _ => rfl⟩
  · rename_i n hloc
    have hent : e.layoutEnv.entry? name = e.locals.lookup n := by
      have hloc' : localName? e.space name = some n := hloc
      simp [LayoutEnv.entry?, hloc']
    split
    ·
      rename_i d hd
      rw [← apply_ite (Pure.pure : Nat × Nat → EmitM (Nat × Nat))]
      refine LaysOut.pure hr.cache fun _ s a hL => ?_
      obtain ⟨rfl, rfl⟩ := laid_entity_enum (hent.trans hd) hL
      rw [show e.pointerSize = e.layoutEnv.pointerSize from rfl, enum_layout_eq]
      exact ⟨rfl, fun _ => rfl⟩
    ·
      rename_i d hd
      have hname : n = d.name := hr.lookup_name hd
      refine (hs d e hr (by rw [← hname, hd]; rfl)).map fun l hl s a hL => ?_
      exact agree_of_compound (hent.trans hd) rfl hl hL
    ·
      rename_i d hd
      have hname : n = d.name := hr.lookup_name hd
      refine (hu d e hr (by rw [← hname, hd]; rfl)).map fun l hl s a hL => ?_
      exact agree_of_compound (hent.trans hd) rfl hl hL
    ·
      rename_i hne hns hnu
      have hplain : ∀ ent, e.layoutEnv.entry? name = some ent →
          ent.aggregate? = none ∧ ent.storage? = none := by
        intro ent h
        rw [hent] at h
        cases ent with
        | enum d => exact absurd h (hne d)
        | struct d => exact absurd h (hns d)
        | union d => exact absurd h (hnu d)
        | _ => exact ⟨rfl, rfl⟩
      refine LaysOut.pure hr.cache fun _ s a hL => ?_
      obtain ⟨rfl, rfl⟩ := laid_entity_plain hplain hL
      exact ⟨rfl, fun _ => rfl⟩

theorem layouts_sound :
    (∀ fuel name fields explicit size alignment isUnion,
      LayoutOfSound fuel name fields explicit size alignment isUnion) ∧
    (∀ fuel fields isUnion stop align, FieldsLayoutSound fuel fields isUnion stop align) ∧
    (∀ fuel f, FieldLayoutSound fuel f) ∧ (∀ fuel t, TypeLayoutSound fuel t) ∧
    (∀ fuel name, EntityLayoutSound fuel name) :=
  layoutOf.mutual_induct _ _ _ _ _ layoutOf_step fieldsLayout_nil_step fieldsLayout_cons_step
    fieldLayout_callback_step fieldLayout_plain_step typeLayout_step entityLayout_step

end Introspection.Typelib
