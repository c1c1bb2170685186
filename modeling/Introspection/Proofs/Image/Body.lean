import Introspection.Proofs.Image.Entries

/-!
# The body of an image

After room for the header, the entries' blobs are written in directory order, each at the next
four-byte boundary, and then the postponed work: complex types, signatures and constant values,
each patching the slot that refers to it. A piece of work is taken off the queue before it
runs, so its slots are no longer recorded when they are patched; the facts that stood fixed
before it never reach those slots, and survive.
-/

namespace Introspection.Typelib

open Emitter

namespace Emit

/-! ## Postponed work -/

theorem arg_tame (a : ArgDef) : Tame (arg a) := by
  unfold arg
  exact (str_spec _).tame.bind fun _ => (u32_spec _).tame.bind fun _ =>
    (u8_spec _).tame.bind fun _ => (u8_spec _).tame.bind fun _ =>
    (u16_spec _).tame.bind fun _ => (simpleType_spec _).tame

theorem signatureBody_tame (sig : SignatureDef) : Tame (signatureBody sig) := by
  unfold signatureBody
  exact (simpleType_spec _).tame.bind fun _ => (u16_spec _).tame.bind fun _ =>
    (u16_spec _).tame.bind fun _ =>
    (Tame.forIn_list _ _ fun a _ => (arg_tame a).bind fun _ => Tame.pure _).bind fun _ =>
      Tame.pure _

theorem complexType_tame (t : TypeDef) : Tame (complexType t) := by
  unfold complexType
  dsimp only
  split
  · exact (u8_spec _).tame.bind fun _ => (u8_spec _).tame.bind fun _ =>
      (ref_quiet _).tame.bind fun i => (u16_spec i).tame
  · split
    · refine (u16_spec _).tame.bind fun _ => ?_
      split <;> exact (u16_spec _).tame.bind fun _ => (simpleType_spec _).tame
    · split
      · exact (u8_spec _).tame.bind fun _ => (u8_spec _).tame.bind fun _ =>
          (u16_spec _).tame.bind fun _ =>
          (Tame.forIn_list _ _ fun p _ => (simpleType_spec p).tame.bind fun _ => Tame.pure _).bind
            fun _ => Tame.pure _
      · split
        · exact (u8_spec _).tame.bind fun _ => (u8_spec _).tame.bind fun _ => (u16_spec _).tame
        · exact (fail_quiet _).tame

theorem drop_pending {e : Emitter} (he : WF e) {p : Pending} {rest : List Pending}
    (hl : e.later = p :: rest) :
    WF { e with later := rest } ∧ Extends e { e with later := rest } := by
  have hsl : ({ e with later := rest } : Emitter).slots.Sublist e.slots := by
    simp only [slots_eq, hl, List.flatMap_cons]
    exact List.Sublist.append_left (List.sublist_append_right _ _) _
  have hsub : ∀ q ∈ ({ e with later := rest } : Emitter).slots, q ∈ e.slots :=
    fun q hq => hsl.subset hq
  refine ⟨⟨fun q hq => he.bound q (hsub q hq), he.apart.sublist hsl,
    he.index.of_eq rfl rfl rfl rfl⟩, ?_⟩
  exact ⟨fun off bs h => ⟨h.1, fun q hq => h.2 q (hsub q hq)⟩, List.prefix_refl _,
    List.prefix_refl _, List.prefix_refl _, fun _ _ h => h, id, rfl, rfl, rfl, rfl,
    Nat.le_refl _⟩

theorem extends_rewrite {e e₁ : Emitter} (h : Extends e e₁) (hwf : WF e₁) (w : Writer)
    (hsize : w.len = e₁.w.len) (hfix : ∀ off bs, Fixed e off bs → BytesAt w.buf off bs) :
    WF { e₁ with w := w } ∧ Extends e { e₁ with w := w } := by
  have hbound : ∀ q ∈ e₁.slots, q + 4 ≤ w.len := by
    intro q hq
    rw [hsize]
    exact hwf.bound q hq
  have hlen : e.w.len ≤ w.len := by
    rw [hsize]
    exact h.len
  refine ⟨⟨hbound, hwf.apart, hwf.index.of_eq rfl rfl rfl rfl⟩, ?_⟩
  exact ⟨fun off bs hf => ⟨hfix off bs hf, (h.fixed off bs hf).2⟩, h.strs, h.attrs, h.foreign,
    h.index, h.err, h.space, h.pointerSize, h.locals, h.nLocal, hlen⟩

theorem extends_patch {e e₁ : Emitter} (h : Extends e e₁) (hwf : WF e₁) {pos : Nat}
    (hpos : pos ∈ e.slots) (v : Nat) :
    WF { e₁ with w := e₁.w.patch32 pos v } ∧ Extends e { e₁ with w := e₁.w.patch32 pos v } := by
  have hsize : (e₁.w.patch32 pos v).len = e₁.w.len := by
    simp only [Writer.len_eq, Writer.patch32, size_patch]
  refine extends_rewrite h hwf (e₁.w.patch32 pos v) hsize fun off bs hf => ?_
  exact BytesAt.patch (h.fixed off bs hf).1 v (hf.2 pos hpos)

theorem mem_slots_of_later {e : Emitter} {p : Pending} {rest : List Pending}
    (hl : e.later = p :: rest) {q : Nat} (hq : q ∈ p.slots) : q ∈ e.slots := by
  simp only [slots_eq, hl, List.flatMap_cons, List.mem_append]
  exact .inr (.inl hq)

theorem pending_step {e : Emitter} (he : WF e) {p : Pending} {rest : List Pending}
    (hl : e.later = p :: rest) :
    WF ((runPending p).run { e with later := rest }).2 ∧
      Extends e ((runPending p).run { e with later := rest }).2 := by
  obtain ⟨wf₁, ext₁⟩ := drop_pending he hl
  cases p with
  | complexType pos t =>
      obtain ⟨wf₂, ext₂⟩ := align_tame 4 _ wf₁
      obtain ⟨wf₃, ext₃⟩ := extends_patch (ext₁.trans ext₂) wf₂
        (mem_slots_of_later hl (List.mem_singleton_self pos)) (((align 4).run { e with later := rest }).2.w.len)
      rw [runPending, Tame.run_bind, Tame.run_bind, run_write]
      obtain ⟨wf₄, ext₄⟩ := complexType_tame t _ wf₃
      exact ⟨wf₄, ext₃.trans ext₄⟩
  | signature pos sig =>
      obtain ⟨wf₂, ext₂⟩ := align_tame 4 _ wf₁
      obtain ⟨wf₃, ext₃⟩ := extends_patch (ext₁.trans ext₂) wf₂
        (mem_slots_of_later hl (List.mem_singleton_self pos)) (((align 4).run { e with later := rest }).2.w.len)
      rw [runPending, Tame.run_bind, Tame.run_bind, run_write]
      obtain ⟨wf₄, ext₄⟩ := signatureBody_tame sig _ wf₃
      exact ⟨wf₄, ext₃.trans ext₄⟩
  | constantValue sizePos valPos d =>
      rw [runPending]
      split
      · obtain ⟨wf₂, ext₂⟩ := (fail_quiet _).tame _ wf₁
        exact ⟨wf₂, ext₁.trans ext₂⟩
      ·
        rw [Tame.run_bind, Tame.run_bind, run_write, Tame.run_bind, run_write, run_write]
        obtain ⟨wf₂, ext₂⟩ := align_tame 8 _ wf₁
        obtain ⟨wf₃, ext₃⟩ := extends_patch (ext₁.trans ext₂) wf₂
          (mem_slots_of_later hl (show valPos ∈ [sizePos, valPos] by simp)) _
        obtain ⟨wf₄, ext₄⟩ := extends_patch ext₃ wf₃
          (mem_slots_of_later hl (show sizePos ∈ [sizePos, valPos] by simp)) _
        obtain ⟨wf₅, ext₅⟩ := write_tame (fun w => w.append _) (fun w => ⟨_, rfl⟩) _ wf₄
        exact ⟨wf₅, ext₄.trans ext₅⟩

theorem drain_tame (fuel : Nat) : Tame (drain fuel) := by
  induction fuel with
  | zero => exact Tame.pure _
  | succ fuel ih =>
      intro e he
      rw [drain, run_get_bind]
      split
      · exact ⟨he, Extends.refl e⟩
      · rename_i p rest hl
        obtain ⟨wf₁, ext₁⟩ := pending_step he hl
        obtain ⟨wf₂, ext₂⟩ := ih _ wf₁
        exact ⟨wf₂, ext₁.trans ext₂⟩

/-! ## Entry blobs -/

theorem place_run (fuel : Nat) (x : EntryDef) (e : Emitter) (he : WF e) :
    WF ((place fuel x).run e).2 ∧ Extends e ((place fuel x).run e).2 ∧
      e.w.len ≤ ((place fuel x).run e).1 ∧
      ((place fuel x).run e).2.w.len = ((place fuel x).run e).1 + entrySize x ∧
      AllHold ((place fuel x).run e).2 (entryAtoms ((place fuel x).run e).1 x) := by
  obtain ⟨wf₁, ext₁⟩ := align_tame 4 e he
  obtain ⟨wf₂, ext₂, len₂, hatoms⟩ := entry_spec fuel x _ wf₁
  have hrun : (place fuel x).run e =
      (((align 4).run e).2.w.len, ((entry fuel x).run ((align 4).run e).2).2) := rfl
  rw [hrun]
  exact ⟨wf₂, ext₁.trans ext₂, ext₁.len, len₂, hatoms⟩

end Emit

/-- The blobs of the entries `xs` stand at the offsets `os`, past the header and within the
image. -/
def Placed (e : Emitter) (xs : List EntryDef) (os : List Nat) : Prop :=
  os.length = xs.length ∧ ∀ p ∈ xs.zip os, headerSize ≤ p.2 ∧ p.2 + entrySize p.1 ≤ e.w.len ∧
    AllHold e (entryAtoms p.2 p.1)

theorem Placed.mono {e e' : Emitter} (h : Extends e e') {xs : List EntryDef} {os : List Nat}
    (hp : Placed e xs os) : Placed e' xs os := by
  refine ⟨hp.1, fun p hmem => ?_⟩
  obtain ⟨hhead, hend, hatoms⟩ := hp.2 p hmem
  exact ⟨hhead, Nat.le_trans hend h.len, hatoms.mono h⟩

namespace Emit

theorem placeAll_run (fuel : Nat) (xs : List EntryDef) (e : Emitter) (he : WF e)
    (hhead : headerSize ≤ e.w.len) :
    WF ((xs.mapM (place fuel)).run e).2 ∧ Extends e ((xs.mapM (place fuel)).run e).2 ∧
      Placed ((xs.mapM (place fuel)).run e).2 xs ((xs.mapM (place fuel)).run e).1 := by
  induction xs generalizing e with
  | nil => exact ⟨he, Extends.refl e, rfl, fun p hp => absurd hp List.not_mem_nil⟩
  | cons x xs ih =>
      obtain ⟨wf₁, ext₁, hoff, hlen, hatoms⟩ := place_run fuel x e he
      obtain ⟨wf₂, ext₂, hcount, hrest⟩ := ih _ wf₁ (Nat.le_trans hhead ext₁.len)
      rw [List.mapM_cons, Tame.run_bind, Tame.run_bind]
      refine ⟨wf₂, ext₁.trans ext₂, congrArg (· + 1) hcount, fun p hp => ?_⟩
      rcases List.mem_cons.1 hp with rfl | hp
      · refine ⟨Nat.le_trans hhead hoff, ?_, hatoms.mono ext₂⟩
        rw [← hlen]
        exact ext₂.len
      · exact hrest p hp

theorem body_run (entries : List EntryDef) (e : Emitter) (he : WF e) (hempty : e.w.len = 0) :
    WF ((body entries).run e).2 ∧ Extends e ((body entries).run e).2 ∧
      Fixed ((body entries).run e).2 0 (List.replicate headerSize 0) ∧
      Placed ((body entries).run e).2 entries ((body entries).run e).1 := by
  obtain ⟨wf₁, ext₁, len₁, hzero⟩ := zero_spec headerSize e he
  rw [hempty] at hzero len₁
  obtain ⟨wf₂, ext₂, hplaced⟩ :=
    placeAll_run (entries.length + 1) entries _ wf₁ (Nat.le_of_eq len₁.symm)
  obtain ⟨wf₃, ext₃⟩ := drain_tame (1 + weightSum (entries.map EntryDef.weight)) _ wf₂
  rw [body]
  simp only [Tame.run_bind]
  exact ⟨wf₃, ext₁.trans (ext₂.trans ext₃), (ext₂.trans ext₃).fixed _ _ hzero, hplaced.mono ext₃⟩

end Emit

/-! ## The body of a description -/

theorem checkEntryNames_ok {xs : List EntryDef} {seen : List String}
    (h : checkEntryNames xs seen = .ok ()) :
    (∀ x ∈ xs, x.name ≠ "" ∧ '.' ∉ x.name.toList ∧ x.name ∉ seen) ∧
      (xs.map EntryDef.name).Nodup := by
  induction xs generalizing seen with
  | nil => simp
  | cons x xs ih =>
      unfold checkEntryNames at h
      split at h
      · cases h
      · rename_i hvalid
        split at h
        · cases h
        · rename_i hnew
          obtain ⟨hrest, hnodup⟩ := ih h
          have hx : x.name ≠ "" ∧ '.' ∉ x.name.toList := by
            simpa [validEntryName, String.contains_char_eq] using hvalid
          refine ⟨fun y hy => ?_, List.nodup_cons.2 ⟨fun hmem => ?_, hnodup⟩⟩
          · rcases List.mem_cons.1 hy with rfl | hy
            · exact ⟨hx.1, hx.2, by simpa using hnew⟩
            · obtain ⟨hne, hdot, hseen⟩ := hrest y hy
              exact ⟨hne, hdot, fun hs => hseen (List.mem_cons_of_mem _ hs)⟩
          · obtain ⟨y, hy, hname⟩ := List.mem_map.1 hmem
            exact (hrest y hy).2.2 (hname ▸ List.mem_cons_self)

theorem lookup_zipIdx_name {xs : List EntryDef} {n : Nat} {k : String} {i : Nat}
    (h : ((xs.zipIdx n).map fun p => (p.1.name, p.2 + 1)).lookup k = some i) :
    ∃ j, ∃ hj : j < xs.length, xs[j].name = k ∧ i = n + j + 1 := by
  induction xs generalizing n with
  | nil => simp at h
  | cons x xs ih =>
      simp only [List.zipIdx_cons, List.map_cons, List.lookup_cons] at h
      split at h
      · rename_i hk
        cases h
        exact ⟨0, by simp, by simpa using (beq_iff_eq.1 hk).symm, rfl⟩
      · obtain ⟨j, hj, hname, rfl⟩ := ih h
        exact ⟨j + 1, by simpa using hj, by simpa using hname, by omega⟩

theorem startState_wf {d : NamespaceDef} (hnames : checkEntryNames (sortedEntries d) [] = .ok ()) :
    WF (startState d) := by
  have hvalid := (checkEntryNames_ok hnames).1
  refine ⟨by simp [Emit.slots_eq, startState], by simp [Emit.slots_eq, startState], ?_, ?_, ?_⟩
  · intro x hx
    obtain ⟨y, hy, rfl⟩ := List.mem_map.1 hx
    exact (hvalid y hy).2.1
  · simp [startState]
  · intro k i hk
    have hk' : (((sortedEntries d).zipIdx 0).map fun p => (p.1.name, p.2 + 1)).lookup k = some i := hk
    obtain ⟨j, hj, hname, rfl⟩ := lookup_zipIdx_name hk'
    exact .inl ⟨j, by simpa [startState] using hj, by simpa [startState] using hname,
      by omega⟩

theorem bodyState_placed {d : NamespaceDef}
    (hnames : checkEntryNames (sortedEntries d) [] = .ok ()) :
    WF (bodyState d).2 ∧ Extends (startState d) (bodyState d).2 ∧
      Fixed (bodyState d).2 0 (List.replicate headerSize 0) ∧
      Placed (bodyState d).2 (sortedEntries d) (bodyState d).1 :=
  Emit.body_run _ _ (startState_wf hnames) rfl

end Introspection.Typelib
