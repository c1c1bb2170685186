import Mathlib
import Introspection.Typelib.Build
import Introspection.Proofs.Image.Qualified

/-!
# The slot discipline of the emitter

The emitter writes an image front to back, and the only bytes it ever changes again are slots:
four zero bytes it wrote earlier and recorded, either as naming a string or as waiting for
postponed work. `WF` says that the recorded slots lie inside the image and do not overlap, and
that every directory index recorded stands for the entry its key names; `Fixed e off bs` says
that `bs` stands at `off` and no recorded slot reaches it, so no later patch can change it.

A computation is `Tame` when it keeps the slot discipline and every fixed range of the state it
starts from, never forgets a string slot, a foreign entry or an index, and never clears a
failure. Tameness composes along `bind` and loops; the primitives that write, record a fresh
slot, resolve a reference or fail are tame, and so is everything built from them.
-/

namespace Introspection.Typelib

/-- The slots a piece of postponed work patches. -/
def Pending.slots : Pending → List Nat
  | .complexType pos _ => [pos]
  | .signature pos _ => [pos]
  | .constantValue sizePos valPos _ => [sizePos, valPos]

namespace Emitter

/-- Every slot a later patch may write: string slots and the slots of postponed work. -/
def slots (e : Emitter) : List Nat := e.strs.toList.map (·.2) ++ e.later.flatMap Pending.slots

/-- Two four-byte slots do not overlap. -/
def Apart (a b : Nat) : Prop := a + 4 ≤ b ∨ b + 4 ≤ a

/-- What a directory index recorded under a key stands for: the local entry of that name, or
the foreign entry whose `Namespace.Name` the key spells. -/
def IndexMeans (e : Emitter) (k : String) (i : Nat) : Prop :=
  (∃ j, ∃ h : j < e.locals.length, e.locals[j].1 = k ∧ i = j + 1) ∨
    ∃ j, ∃ h : j < e.foreign.size,
      k = e.foreign[j].1 ++ "." ++ e.foreign[j].2 ∧ i = (e.nLocal + j + 1) % 2 ^ 16

/-- Names never hold a dot, so the key of a foreign entry is no local name and spells its
namespace and name in one way only; every index recorded stands for its entry. -/
structure IndexWF (e : Emitter) : Prop where
  locals : ∀ x ∈ e.locals, '.' ∉ x.1.toList
  foreign : ∀ f ∈ e.foreign.toList, '.' ∉ f.2.toList
  means : ∀ k i, e.index.lookup k = some i → IndexMeans e k i

theorem IndexWF.of_eq {e e' : Emitter} (h : IndexWF e) (hl : e'.locals = e.locals)
    (hf : e'.foreign = e.foreign) (hi : e'.index = e.index) (hn : e'.nLocal = e.nLocal) :
    IndexWF e' := by
  obtain ⟨h₁, h₂, h₃⟩ := h
  refine ⟨?_, ?_, ?_⟩
  · rw [hl]; exact h₁
  · rw [hf]; exact h₂
  · intro k i hk
    rw [hi] at hk
    unfold IndexMeans
    rw [hl, hf, hn]
    exact h₃ k i hk

/-- The recorded slots lie within the image and do not overlap, and the index is sound. -/
structure WF (e : Emitter) : Prop where
  bound : ∀ q ∈ e.slots, q + 4 ≤ e.w.len
  apart : e.slots.Pairwise Apart
  index : IndexWF e

/-- The bytes `bs` stand at `off` and no recorded slot reaches them. -/
def Fixed (e : Emitter) (off : Nat) (bs : List UInt8) : Prop :=
  BytesAt e.w.buf off bs ∧ ∀ q ∈ e.slots, q + 4 ≤ off ∨ off + bs.length ≤ q

/-- What a later state keeps of an earlier one. -/
structure Extends (e e' : Emitter) : Prop where
  fixed : ∀ off bs, Fixed e off bs → Fixed e' off bs
  strs : e.strs.toList <+: e'.strs.toList
  attrs : e.attrs.toList <+: e'.attrs.toList
  foreign : e.foreign.toList <+: e'.foreign.toList
  index : ∀ k i, e.index.lookup k = some i → e'.index.lookup k = some i
  err : e.err.isSome → e'.err.isSome
  space : e'.space = e.space
  pointerSize : e'.pointerSize = e.pointerSize
  locals : e'.locals = e.locals
  nLocal : e'.nLocal = e.nLocal
  len : e.w.len ≤ e'.w.len

namespace Extends

@[refl] theorem refl (e : Emitter) : Extends e e :=
  ⟨fun _ _ h => h, List.prefix_refl _, List.prefix_refl _, List.prefix_refl _, fun _ _ h => h, id,
    rfl, rfl, rfl, rfl, Nat.le_refl _⟩

theorem trans {e₁ e₂ e₃ : Emitter} (h₁ : Extends e₁ e₂) (h₂ : Extends e₂ e₃) : Extends e₁ e₃ :=
  ⟨fun off bs h => h₂.fixed off bs (h₁.fixed off bs h), h₁.strs.trans h₂.strs,
    h₁.attrs.trans h₂.attrs, h₁.foreign.trans h₂.foreign,
    fun k i h => h₂.index k i (h₁.index k i h), fun h => h₂.err (h₁.err h),
    h₂.space.trans h₁.space, h₂.pointerSize.trans h₁.pointerSize, h₂.locals.trans h₁.locals,
    h₂.nLocal.trans h₁.nLocal, Nat.le_trans h₁.len h₂.len⟩

theorem err_none {e e' : Emitter} (h : Extends e e') (h' : e'.err = none) : e.err = none := by
  cases he : e.err with
  | none => rfl
  | some f =>
      have := h.err (by simp [he])
      simp [h'] at this

end Extends

end Emitter

open Emitter

/-- A computation that keeps the slot discipline and what its start state holds. -/
def Tame {α : Type} (m : EmitM α) : Prop :=
  ∀ e, WF e → WF (m.run e).2 ∧ Extends e (m.run e).2

namespace Tame

variable {α β : Type}

theorem run_bind (m : EmitM α) (f : α → EmitM β) (e : Emitter) :
    (m >>= f).run e = (f (m.run e).1).run (m.run e).2 := rfl

theorem pure (a : α) : Tame (pure a : EmitM α) := fun e h => ⟨h, Extends.refl e⟩

theorem bind {m : EmitM α} {f : α → EmitM β} (hm : Tame m) (hf : ∀ a, Tame (f a)) :
    Tame (m >>= f) := by
  intro e he
  obtain ⟨hwf₁, hext₁⟩ := hm e he
  obtain ⟨hwf₂, hext₂⟩ := hf (m.run e).1 _ hwf₁
  exact ⟨hwf₂, hext₁.trans hext₂⟩

theorem seq {m : EmitM Unit} {k : EmitM β} (hm : Tame m) (hk : Tame k) : Tame (m *> k) :=
  bind hm fun _ => bind hk fun b => pure b

theorem ite {c : Prop} [Decidable c] {m k : EmitM α} (hm : Tame m) (hk : Tame k) :
    Tame (if c then m else k) := by
  split
  · exact hm
  · exact hk

theorem of_state_eq {m : EmitM α} (h : ∀ e, (m.run e).2 = e) : Tame m := by
  intro e he
  rw [h e]
  exact ⟨he, Extends.refl e⟩

theorem get : Tame (MonadState.get : EmitM Emitter) := of_state_eq fun _ => rfl

theorem forIn_list {γ : Type} (xs : List γ) (b : β) {f : γ → β → EmitM (ForInStep β)}
    (hf : ∀ x b, Tame (f x b)) : Tame (forIn xs b f) := by
  induction xs generalizing b with
  | nil => exact pure b
  | cons x xs ih =>
      rw [List.forIn_cons]
      refine bind (hf x b) fun step => ?_
      cases step with
      | done b' => exact pure b'
      | yield b' => exact ih b'

end Tame

/-! ## Writers of a known size -/

/-- From every start that keeps the slot discipline, `m` keeps it and what the start holds,
appends exactly `n` bytes and makes `P` of the start offset true. -/
def Spec {α : Type} (m : EmitM α) (n : Nat) (P : Nat → Emitter → Prop) : Prop :=
  ∀ e, WF e → WF (m.run e).2 ∧ Extends e (m.run e).2 ∧
    (m.run e).2.w.len = e.w.len + n ∧ P e.w.len (m.run e).2

/-- Facts about the image that every later state keeps. -/
def Stable (P : Nat → Emitter → Prop) : Prop := ∀ L e e', Extends e e' → P L e → P L e'

/-- A computation that writes nothing and records nothing of interest. -/
def Quiet {α : Type} (m : EmitM α) : Prop := Spec m 0 fun _ _ => True

namespace Spec

variable {α β : Type} {m : EmitM α} {n k : Nat} {P Q : Nat → Emitter → Prop}

theorem tame (h : Spec m n P) : Tame m := fun e he => ⟨(h e he).1, (h e he).2.1⟩

theorem weaken (h : Spec m n P) (hPQ : ∀ L e, P L e → Q L e) : Spec m n Q := by
  intro e he
  obtain ⟨wf, ext, len, p⟩ := h e he
  exact ⟨wf, ext, len, hPQ _ _ p⟩

theorem pure (a : α) : Spec (Pure.pure a : EmitM α) 0 fun _ _ => True :=
  fun e he => ⟨he, Extends.refl e, rfl, trivial⟩

theorem bind {f : α → EmitM β} (hm : Spec m n P) (hP : Stable P) (hf : ∀ a, Spec (f a) k Q) :
    Spec (m >>= f) (n + k) fun L e => P L e ∧ Q (L + n) e := by
  intro e he
  obtain ⟨wf₁, ext₁, len₁, p₁⟩ := hm e he
  obtain ⟨wf₂, ext₂, len₂, q₂⟩ := hf (m.run e).1 _ wf₁
  rw [len₁] at len₂ q₂
  exact ⟨wf₂, ext₁.trans ext₂, by rw [Tame.run_bind, len₂, Nat.add_assoc], hP _ _ _ ext₂ p₁, q₂⟩

theorem bind_len {f : Nat → EmitM β} {P : Nat → Nat → Emitter → Prop}
    (hf : ∀ L, Spec (f L) n (P L)) : Spec (Emit.len >>= f) n fun L e => P L L e :=
  fun e he => hf e.w.len e he

theorem bind_pure {b : β} (h : Spec m n P) : Spec (m >>= fun _ => Pure.pure b) n P := by
  intro e he
  obtain ⟨wf, ext, len, p⟩ := h e he
  exact ⟨wf, ext, len, p⟩

theorem size_eq {n' : Nat} (h : Spec m n P) (hn : n = n') : Spec m n' P := hn ▸ h

theorem forget (h : Spec m n P) : Spec m n fun _ _ => True := h.weaken fun _ _ _ => trivial

theorem ite {c : Prop} [Decidable c] {m' : EmitM α} (hm : Spec m n P) (hm' : Spec m' n P) :
    Spec (if c then m else m') n P := by
  split
  · exact hm
  · exact hm'

theorem forIn_list {γ : Type} (xs : List γ) {body : γ → EmitM β} (size : γ → Nat)
    {P : γ → Nat → Emitter → Prop} (hP : ∀ x, Stable (P x))
    (hbody : ∀ x, Spec (body x) (size x) (P x)) :
    Spec (forIn xs PUnit.unit fun x _ => body x >>= fun _ => Pure.pure (ForInStep.yield PUnit.unit))
      (xs.map size).sum fun L e =>
        ∀ i (h : i < xs.length), P xs[i] (L + ((xs.take i).map size).sum) e := by
  induction xs with
  | nil => exact (Spec.pure _).weaken fun _ _ _ i h => absurd h (Nat.not_lt_zero i)
  | cons x xs ih =>
      intro e he
      have hrun : (forIn (x :: xs) PUnit.unit fun x _ =>
            body x >>= fun _ => Pure.pure (ForInStep.yield PUnit.unit)).run e =
          (forIn xs PUnit.unit fun x _ =>
            body x >>= fun _ => Pure.pure (ForInStep.yield PUnit.unit)).run ((body x).run e).2 := by
        rw [List.forIn_cons]
        rfl
      rw [hrun]
      obtain ⟨wf₁, ext₁, len₁, p₁⟩ := hbody x e he
      obtain ⟨wf₂, ext₂, len₂, p₂⟩ := ih _ wf₁
      rw [len₁] at len₂ p₂
      refine ⟨wf₂, ext₁.trans ext₂, ?_, fun i hi => ?_⟩
      · rw [len₂, List.map_cons, List.sum_cons, Nat.add_assoc]
      · cases i with
        | zero => simpa using hP x _ _ _ ext₂ p₁
        | succ i =>
            have := p₂ i (by simpa using hi)
            simpa [Nat.add_assoc] using this

theorem forIn_uniform {γ : Type} (xs : List γ) {body : γ → EmitM β} (s : Nat)
    {P : γ → Nat → Emitter → Prop} (hP : ∀ x, Stable (P x))
    (hbody : ∀ x, Spec (body x) s (P x)) :
    Spec (forIn xs PUnit.unit fun x _ => body x >>= fun _ => Pure.pure (ForInStep.yield PUnit.unit))
      (s * xs.length) fun L e => ∀ i (h : i < xs.length), P xs[i] (L + s * i) e := by
  have h := forIn_list xs (fun _ => s) hP hbody
  simp only [List.map_const', List.sum_replicate_nat] at h
  refine fun e he => ?_
  obtain ⟨wf, ext, len, p⟩ := h e he
  refine ⟨wf, ext, by rw [len, Nat.mul_comm], fun i hi => ?_⟩
  have := p i hi
  rwa [List.length_take, Nat.min_eq_left (Nat.le_of_lt hi), Nat.mul_comm] at this

end Spec

namespace Stable

theorem true : Stable fun _ _ => True := fun _ _ _ _ h => h

theorem fixed (pos : Nat → Nat) (bs : Nat → List UInt8) : Stable fun L e => Fixed e (pos L) (bs L) :=
  fun _ _ _ h hf => h.fixed _ _ hf

theorem forall_lt {P : (i : Nat) → Nat → Emitter → Prop} (n : Nat)
    (h : ∀ i, Stable (P i)) : Stable fun L e => ∀ i, i < n → P i L e :=
  fun L e e' hx hp i hi => h i L e e' hx (hp i hi)

end Stable

namespace Quiet

variable {α β : Type} {m : EmitM α}

theorem pure (a : α) : Quiet (Pure.pure a : EmitM α) := Spec.pure a

theorem bind {f : α → EmitM β} (hm : Quiet m) (hf : ∀ a, Quiet (f a)) : Quiet (m >>= f) :=
  (Spec.bind hm Stable.true hf).weaken fun _ _ _ => trivial

theorem of_keeps (h : ∀ e, WF e → WF (m.run e).2 ∧ Extends e (m.run e).2 ∧
    (m.run e).2.w = e.w) : Quiet m := by
  intro e he
  obtain ⟨wf, ext, hw⟩ := h e he
  exact ⟨wf, ext, by rw [hw, Nat.add_zero], trivial⟩

theorem get : Quiet (MonadState.get : EmitM Emitter) :=
  of_keeps fun e he => ⟨he, Extends.refl e, rfl⟩

theorem ite {c : Prop} [Decidable c] {m' : EmitM α} (hm : Quiet m) (hm' : Quiet m') :
    Quiet (if c then m else m') := Spec.ite hm hm'

end Quiet

/-! ## Primitive steps -/

namespace Emit

variable {α : Type}

@[simp] theorem run_len (e : Emitter) : len.run e = (e.w.len, e) := rfl

@[simp] theorem run_write (f : Writer → Writer) (e : Emitter) :
    (write f).run e = ((), { e with w := f e.w }) := rfl

@[simp] theorem run_strAt (pos : Nat) (s : String) (e : Emitter) :
    (strAt pos s).run e =
      ((), { e with strs := if s.isEmpty then e.strs else e.strs.push (s, pos) }) := by
  unfold strAt
  split <;> rfl

@[simp] theorem run_postpone (p : Pending) (e : Emitter) :
    (postpone p).run e = ((), { e with later := e.later ++ [p] }) := rfl

@[simp] theorem run_attributes (off : Nat) (attrs : List Attribute) (e : Emitter) :
    (attributes off attrs).run e =
      ((), { e with attrs := attrs.foldl (fun acc a => acc.push ⟨off, a.name, a.value⟩) e.attrs }) :=
  rfl

theorem run_get_bind {β : Type} (f : Emitter → EmitM β) (e : Emitter) :
    (get >>= f).run e = (f e).run e := rfl

theorem run_set_bind_pure {β : Type} (s : Emitter) (b : β) (e : Emitter) :
    (set s >>= fun _ => pure b : EmitM β).run e = (b, s) := rfl

theorem run_bind_pure {β : Type} (m : EmitM Unit) (b : β) (e : Emitter) :
    (m >>= fun _ => pure b : EmitM β).run e = (b, (m.run e).2) := rfl

theorem write_tame (f : Writer → Writer) (hf : ∀ w, ∃ more, (f w).buf = w.buf ++ more) :
    Tame (write f) := by
  intro e he
  obtain ⟨more, hmore⟩ := hf e.w
  have hlen : e.w.len ≤ (f e.w).len := by simp [hmore]
  refine ⟨⟨fun q hq => Nat.le_trans (he.bound q hq) hlen, he.apart, he.3.of_eq rfl rfl rfl rfl⟩, ?_⟩
  refine ⟨fun off bs h => ⟨?_, h.2⟩, List.prefix_refl _, List.prefix_refl _, List.prefix_refl _,
    fun _ _ h => h, id, rfl, rfl, rfl, rfl, hlen⟩
  simpa [hmore] using h.1.append more

theorem write_bytes_tame (g : Writer → List UInt8) : Tame (write fun w => w.bytes (g w)) :=
  write_tame _ fun w => ⟨_, Writer.buf_bytes w (g w)⟩

theorem fixed_write_bytes (g : Writer → List UInt8) (e : Emitter) (he : WF e) :
    Fixed ((write fun w => w.bytes (g w)).run e).2 e.w.len (g e.w) := by
  refine ⟨?_, fun q hq => .inl (he.bound q hq)⟩
  simpa using bytesAt_append_toByteArray e.w.buf (g e.w)

theorem bytes_spec (bs : List UInt8) :
    Spec (write fun w => w.bytes bs) bs.length fun L e => Fixed e L bs := by
  intro e he
  obtain ⟨wf, ext⟩ := write_bytes_tame (fun _ => bs) e he
  exact ⟨wf, ext, by simp, fixed_write_bytes (fun _ => bs) e he⟩

theorem u8_spec (v : Nat) : Spec (u8 v) 1 fun L e => Fixed e L (leBytes v 1) :=
  bytes_spec (leBytes v 1)

theorem u16_spec (v : Nat) : Spec (u16 v) 2 fun L e => Fixed e L (leBytes v 2) :=
  bytes_spec (leBytes v 2)

theorem u32_spec (v : Nat) : Spec (u32 v) 4 fun L e => Fixed e L (leBytes v 4) :=
  bytes_spec (leBytes v 4)

theorem align_tame (n : Nat) : Tame (align n) := by
  have : align n = write fun w => w.bytes (List.replicate (if n ≤ 1 then 0 else
      (n - w.len % n) % n) 0) := by
    simp only [align]
    congr
    funext w
    exact Writer.align_eq w n
  rw [this]
  exact write_bytes_tame _

theorem zero_spec (n : Nat) : Spec (zero n) n fun L e => Fixed e L (List.replicate n 0) := by
  intro e he
  obtain ⟨wf, ext, len, p⟩ := bytes_spec (List.replicate n 0) e he
  exact ⟨wf, ext, len.trans (by rw [List.length_replicate]), p⟩

theorem run_zero (n : Nat) (e : Emitter) : ((zero n).run e).1 = e.w.len := rfl

/-! ## Fresh slots -/

theorem slots_eq (e : Emitter) :
    e.slots = e.strs.toList.map (·.2) ++ e.later.flatMap Pending.slots := rfl

theorem fresh_slots {e e' : Emitter} (he : WF e) (hidx : IndexWF e') (more : ByteArray)
    (hbuf : e'.w.buf = e.w.buf ++ more) (new : List Nat) (hslots : e'.slots.Perm (new ++ e.slots))
    (hnew : ∀ q ∈ new, e.w.len ≤ q ∧ q + 4 ≤ e'.w.len) (hapart : new.Pairwise Apart) :
    WF e' ∧ ∀ off bs, Fixed e off bs → Fixed e' off bs := by
  have hlen : e.w.len ≤ e'.w.len := by simp [hbuf]
  have hsymm : ∀ {a b : Nat}, Apart a b → Apart b a := fun h => h.symm
  refine ⟨⟨fun q hq => ?_, ?_, hidx⟩, fun off bs h => ⟨?_, fun q hq => ?_⟩⟩
  · rcases List.mem_append.1 (hslots.mem_iff.1 hq) with hq | hq
    · exact (hnew q hq).2
    · exact Nat.le_trans (he.bound q hq) hlen
  · refine (hslots.pairwise_iff hsymm).2 (List.pairwise_append.2 ⟨hapart, he.apart, ?_⟩)
    intro a ha b hb
    exact .inr (Nat.le_trans (he.bound b hb) (hnew a ha).1)
  · simpa [hbuf] using h.1.append more
  · rcases List.mem_append.1 (hslots.mem_iff.1 hq) with hq | hq
    · exact .inr (Nat.le_trans (by simpa using h.1.1) (hnew q hq).1)
    · exact h.2 q hq

theorem toList_foldl_push {γ δ : Type} (l : List γ) (g : γ → δ) (arr : Array δ) :
    (l.foldl (fun acc a => acc.push (g a)) arr).toList = arr.toList ++ l.map g := by
  induction l generalizing arr with
  | nil => simp
  | cons a l ih => simp

end Emit

/-! ## String slots -/

/-- The slot at `pos` names `s`: recorded when `s` is not empty, four zero bytes that no patch
reaches when it is. -/
def StrSlot (e : Emitter) (pos : Nat) (s : String) : Prop :=
  if s.isEmpty then Fixed e pos [0, 0, 0, 0] else (s, pos) ∈ e.strs.toList

theorem Stable.strSlot (pos : Nat → Nat) (s : String) : Stable fun L e => StrSlot e (pos L) s := by
  intro L e e' h hs
  unfold StrSlot at hs ⊢
  split
  · rename_i he
    rw [if_pos he] at hs
    exact h.fixed _ _ hs
  · rename_i hne
    rw [if_neg hne] at hs
    exact h.strs.subset hs

namespace Emit

theorem str_spec (s : String) : Spec (str s) 4 fun L e => StrSlot e L s := by
  by_cases hs : s.isEmpty
  ·
    intro e he
    have hrun : ((str s).run e).2 = ((zero 4).run e).2 := by
      show ((zero 4 >>= fun pos => strAt pos s).run e).2 = _
      simp only [strAt, hs, if_true]
      rfl
    obtain ⟨wf, ext, len, p⟩ := zero_spec 4 e he
    rw [hrun]
    exact ⟨wf, ext, len, by simpa [StrSlot, hs] using p⟩
  intro e he
  have hrun : ((str s).run e).2 = { e with
      w := e.w.zero 4, strs := e.strs.push (s, e.w.len) } := by
    simp only [str, zero, strAt, hs]
    rfl
  rw [hrun]
  have hbuf : (e.w.zero 4).buf = e.w.buf ++ (List.replicate 4 0).toByteArray := by
    simp [Writer.zero_eq]
  have hext := @fresh_slots e { e with
      w := e.w.zero 4, strs := e.strs.push (s, e.w.len) } he (he.3.of_eq rfl rfl rfl rfl) _ hbuf
    [e.w.len]
    (by simp [slots_eq, List.perm_middle]) (by simp [hbuf]) (by simp)
  exact ⟨hext.1, ⟨hext.2, by simp, List.prefix_refl _, List.prefix_refl _, fun _ _ h => h, id,
    rfl, rfl, rfl, rfl, by simp [hbuf]⟩, by simp [hbuf], by simp [StrSlot, hs]⟩

theorem postponed_slot_spec (p : Nat → Pending) (hp : ∀ pos, (p pos).slots = [pos]) :
    Spec (do let pos ← zero 4; postpone (p pos)) 4 fun _ _ => True := by
  intro e he
  have hrun : ((do let pos ← zero 4; postpone (p pos) : EmitM Unit).run e).2 = { e with
      w := e.w.zero 4, later := e.later ++ [p e.w.len] } := rfl
  rw [hrun]
  have hbuf : (e.w.zero 4).buf = e.w.buf ++ (List.replicate 4 0).toByteArray := by
    simp [Writer.zero_eq]
  have hext := @fresh_slots e { e with
      w := e.w.zero 4, later := e.later ++ [p e.w.len] } he (he.3.of_eq rfl rfl rfl rfl) _ hbuf
    [e.w.len]
    (by simpa [slots_eq, hp] using List.perm_append_singleton e.w.len e.slots)
    (by simp [hbuf]) (by simp)
  exact ⟨hext.1, ⟨hext.2, List.prefix_refl _, List.prefix_refl _, List.prefix_refl _,
    fun _ _ h => h, id, rfl, rfl, rfl, rfl, by simp [hbuf]⟩, by simp [hbuf], trivial⟩

theorem signature_spec (sig : SignatureDef) : Spec (signature sig) 4 fun _ _ => True :=
  postponed_slot_spec (fun pos => .signature pos sig) fun _ => rfl

theorem simpleType_spec (t : TypeDef) : Spec (simpleType t) 4 fun _ _ => True := by
  unfold simpleType
  split
  · exact (u32_spec _).weaken fun _ _ _ => trivial
  · exact postponed_slot_spec (fun pos => .complexType pos t) fun _ => rfl

theorem attributes_quiet (off : Nat) (attrs : List Attribute) : Quiet (attributes off attrs) := by
  refine Quiet.of_keeps fun e he => ?_
  rw [run_attributes]
  refine ⟨⟨he.1, he.2, he.3.of_eq rfl rfl rfl rfl⟩, ⟨fun _ _ h => h, List.prefix_refl _, ?_, List.prefix_refl _,
    fun _ _ h => h, id, rfl, rfl, rfl, rfl, Nat.le_refl _⟩, rfl⟩
  rw [toList_foldl_push attrs (fun a : Attribute => (⟨off, a.name, a.value⟩ : AttrRecord))]
  simp

theorem fail_run (msg : String) (e : Emitter) :
    ((fail msg).run e).2.w = e.w ∧ ((fail msg).run e).2.err.isSome := by
  show (if e.err.isSome then e else _).w = e.w ∧ (if e.err.isSome then e else _).err.isSome
  split
  · exact ⟨rfl, by assumption⟩
  · exact ⟨rfl, rfl⟩

theorem fail_quiet (msg : String) : Quiet (fail msg) := by
  refine Quiet.of_keeps fun e he => ?_
  have hrun : ((fail msg).run e).2 = if e.err.isSome then e else { e with
      err := some (.invalidInput .load ("typelib builder: " ++ msg)) } := rfl
  rw [hrun]
  by_cases h : e.err.isSome
  · rw [if_pos h]
    exact ⟨he, Extends.refl e, rfl⟩
  · rw [if_neg h]
    exact ⟨⟨he.1, he.2, he.3.of_eq rfl rfl rfl rfl⟩, ⟨fun _ _ h => h, List.prefix_refl _, List.prefix_refl _,
      List.prefix_refl _, fun _ _ h => h, fun _ => rfl, rfl, rfl, rfl, rfl, Nat.le_refl _⟩, rfl⟩

theorem fail_spec (msg : String) : Spec (fail msg) 0 fun _ e => e.err.isSome := by
  intro e he
  obtain ⟨wf, ext, len, -⟩ := fail_quiet msg e he
  exact ⟨wf, ext, len, (fail_run msg e).2⟩

theorem Stable.failed : Stable fun _ e => e.err.isSome := fun _ _ _ h hs => h.err hs

theorem guard_check_spec {β : Type} {c : Prop} [Decidable c] (msg : String)
    {jp : Unit → EmitM β} {n : Nat} {P : Nat → Emitter → Prop} (h : Spec (jp ()) n P) :
    Spec (if c then fail msg >>= jp else jp ()) n fun L e => (e.err = none → ¬c) ∧ P L e := by
  split
  · refine ((Spec.bind (fail_spec msg) Stable.failed fun _ => h).weaken
      fun _ e h' => ⟨fun hnone => ?_, h'.2⟩).size_eq (Nat.zero_add n)
    have hfailed := h'.1
    rw [hnone] at hfailed
    exact absurd hfailed Bool.false_ne_true
  · rename_i hc
    exact h.weaken fun _ _ h' => ⟨fun _ => hc, h'⟩

theorem guard_spec {β : Type} {c : Prop} [Decidable c] (msg : String) {jp : Unit → EmitM β}
    {n : Nat} {P : Nat → Emitter → Prop} (h : Spec (jp ()) n P) :
    Spec (if c then fail msg >>= jp else jp ()) n P :=
  (guard_check_spec msg h).weaken fun _ _ h => h.2

/-! ## References -/

/-- The entry a reference names: none for the empty name, else its namespace and name, an
unqualified name naming an entry of the namespace being built. -/
def refTarget (space name : String) : Option (String × String) :=
  if name.isEmpty then none else some ((splitQualified name).getD (space, name))

theorem target_name_dot_free (space name : String) :
    '.' ∉ ((splitQualified name).getD (space, name)).2.toList := by
  cases h : splitQualified name with
  | none => exact splitQualified_none h
  | some p =>
      obtain ⟨ns, n⟩ := p
      exact (splitQualified_some h).2

end Emit

/-- The index `i` stands for the target of the reference `name`: zero for none, the position
after a local entry's, or the foreign entry's position after the local ones. -/
def RefTo (e : Emitter) (i : Nat) (name : String) : Prop :=
  match Emit.refTarget e.space name with
  | none => i = 0
  | some (ns, n) =>
    if ns = e.space then ∃ j, ∃ h : j < e.locals.length, e.locals[j].1 = n ∧ i = j + 1
    else ∃ j, ∃ h : j < e.foreign.size, e.foreign[j] = (ns, n) ∧ i = (e.nLocal + j + 1) % 2 ^ 16

theorem Emitter.Extends.foreign_getElem {e e' : Emitter} (h : Extends e e') {j : Nat}
    (hj : j < e.foreign.size) :
    ∃ hj' : j < e'.foreign.size, e'.foreign[j] = e.foreign[j] := by
  obtain ⟨more, hmore⟩ := h.foreign
  have hsize : e'.foreign.size = e.foreign.size + more.length := by
    rw [← Array.length_toList, ← hmore, List.length_append, Array.length_toList]
  refine ⟨by omega, ?_⟩
  rw [← Array.getElem_toList, ← Array.getElem_toList]
  simp only [← hmore]
  exact List.getElem_append_left (by simpa using hj)

theorem Emitter.IndexMeans.mono {e e' : Emitter} (h : Extends e e') {k : String} {i : Nat}
    (hm : IndexMeans e k i) : IndexMeans e' k i := by
  rcases hm with ⟨j, hj, hk, hi⟩ | ⟨j, hj, hk, hi⟩
  · refine .inl ⟨j, h.locals ▸ hj, ?_, hi⟩
    simp only [h.locals]
    exact hk
  · obtain ⟨hj', heq⟩ := h.foreign_getElem hj
    exact .inr ⟨j, hj', by rw [heq]; exact hk, by rw [h.nLocal]; exact hi⟩

theorem Stable.refTo (i : Nat) (name : String) :
    Stable fun _ e => e.err = none → RefTo e i name := by
  intro L e e' h hr herr
  have hr := hr (h.err_none herr)
  unfold RefTo at hr ⊢
  rw [h.space]
  split at hr
  · exact hr
  · split
    · rename_i hsp
      rw [if_pos hsp] at hr
      obtain ⟨j, hj, hn, hi⟩ := hr
      exact ⟨j, h.locals ▸ hj, by simp only [h.locals]; exact hn, hi⟩
    · rename_i hsp
      rw [if_neg hsp] at hr
      obtain ⟨j, hj, hf, hi⟩ := hr
      obtain ⟨hj', heq⟩ := h.foreign_getElem hj
      exact ⟨j, hj', heq.trans hf, by rw [h.nLocal]; exact hi⟩

namespace Emit

theorem ref_run (name : String) (e : Emitter) (he : WF e) :
    WF ((ref name).run e).2 ∧ Extends e ((ref name).run e).2 ∧ ((ref name).run e).2.w = e.w ∧
      (((ref name).run e).2.err = none → RefTo ((ref name).run e).2 ((ref name).run e).1 name) := by
  have hdot := target_name_dot_free e.space name
  by_cases hempty : name.isEmpty
  · have hrun : (ref name).run e = (0, e) := by simp [ref, hempty]; rfl
    rw [hrun]
    exact ⟨he, Extends.refl e, rfl, fun _ => by simp [RefTo, refTarget, hempty]⟩
  have htarget : refTarget e.space name = some ((splitQualified name).getD (e.space, name)) := by
    simp [refTarget, hempty]
  unfold ref
  rw [if_neg hempty, run_get_bind]
  dsimp only
  generalize (splitQualified name).getD (e.space, name) = p at htarget hdot ⊢
  obtain ⟨ns, n⟩ := p
  dsimp only at hdot ⊢
  split
  ·
    rename_i hsp
    split
    · rename_i i hi
      refine ⟨he, Extends.refl e, rfl, fun _ => ?_⟩
      show RefTo e i name
      unfold RefTo
      rw [htarget]
      dsimp only
      rw [if_pos (beq_iff_eq.1 hsp)]
      rcases he.index.means _ _ hi with hl | ⟨j, hj, hk, _⟩
      · exact hl
      · exact absurd (hk ▸ dot_mem_key _ _) hdot
    · rw [run_bind_pure]
      obtain ⟨wf, ext, _, _⟩ := fail_quiet ("unresolved reference " ++ Text.Quote.quote name) e he
      obtain ⟨hw, herr⟩ := fail_run ("unresolved reference " ++ Text.Quote.quote name) e
      exact ⟨wf, ext, hw, fun hnone => absurd hnone (Option.isSome_iff_ne_none.1 herr)⟩
  · rename_i hsp
    split
    ·
      rename_i i hi
      refine ⟨he, Extends.refl e, rfl, fun _ => ?_⟩
      show RefTo e i name
      unfold RefTo
      rw [htarget]
      dsimp only
      rw [if_neg (fun h => hsp (beq_iff_eq.2 h))]
      rcases he.index.means _ _ hi with ⟨j, hj, hk, _⟩ | ⟨j, hj, hk, hij⟩
      · exact absurd (hk ▸ dot_mem_key _ _) (he.index.locals _ (List.getElem_mem hj))
      · have hfj := he.index.foreign _ (Array.getElem_mem_toList hj)
        obtain ⟨h1, h2⟩ := key_inj hdot hfj hk
        exact ⟨j, hj, by rw [h1, h2], hij⟩
    ·
      rename_i hnone
      rw [run_set_bind_pure]
      have hext : Extends e { e with
          foreign := e.foreign.push (ns, n),
          index := (ns ++ "." ++ n, (e.nLocal + e.foreign.size + 1) % 2 ^ 16) :: e.index } := by
        refine ⟨fun _ _ h => h, List.prefix_refl _, List.prefix_refl _, ?_, fun k i hk => ?_,
          id, rfl, rfl, rfl, rfl, Nat.le_refl _⟩
        · show e.foreign.toList <+: (e.foreign.push _).toList
          simp
        ·
          show List.lookup k ((_, _) :: e.index) = some i
          rw [List.lookup_cons]
          split
          · rename_i hkey
            rw [beq_iff_eq.1 hkey] at hk
            rw [hk] at hnone
            cases hnone
          · exact hk
      refine ⟨⟨he.1, he.2, ⟨he.index.locals, fun f hf => ?_, fun k i hk => ?_⟩⟩, hext, rfl,
        fun _ => ?_⟩
      · simp only [Array.toList_push, List.mem_append, List.mem_singleton] at hf
        rcases hf with hf | rfl
        · exact he.index.foreign f hf
        · exact hdot
      · show IndexMeans _ k i
        change List.lookup k ((_, _) :: e.index) = some i at hk
        rw [List.lookup_cons] at hk
        split at hk
        · rename_i hkey
          cases hk
          refine .inr ⟨e.foreign.size, by simp, ?_, rfl⟩
          rw [beq_iff_eq.1 hkey]
          simp
        · exact (he.index.means k i hk).mono hext
      · show RefTo _ ((e.nLocal + e.foreign.size + 1) % 2 ^ 16) name
        unfold RefTo
        rw [htarget]
        dsimp only
        rw [if_neg (fun h => hsp (beq_iff_eq.2 h))]
        exact ⟨e.foreign.size, by simp, by simp, rfl⟩

theorem ref_quiet (name : String) : Quiet (ref name) := by
  intro e he
  obtain ⟨wf, ext, hw, _⟩ := ref_run name e he
  exact ⟨wf, ext, by rw [hw, Nat.add_zero], trivial⟩

theorem refIndex_spec (name : String) {β : Type} {k : EmitM β} (hk : Quiet k) :
    Spec (ref name >>= fun i => u16 i >>= fun _ => k) 2 fun L e =>
      ∃ i, Fixed e L (leBytes i 2) ∧ (e.err = none → RefTo e i name) := by
  intro e he
  have hrun : (ref name >>= fun i => u16 i >>= fun _ => k).run e =
      k.run ((u16 ((ref name).run e).1).run ((ref name).run e).2).2 := rfl
  rw [hrun]
  obtain ⟨wf, ext, hw, hr⟩ := ref_run name e he
  obtain ⟨wf', ext', hlen', hfix⟩ := u16_spec ((ref name).run e).1 _ wf
  obtain ⟨wf'', ext'', hlen'', -⟩ := hk _ wf'
  refine ⟨wf'', ext.trans (ext'.trans ext''), ?_, ?_⟩
  · rw [hlen'', hlen', hw]
  · refine ⟨((ref name).run e).1, ext''.fixed _ _ ?_, ?_⟩
    · rw [← hw]
      exact hfix
    · exact Stable.refTo _ name e.w.len _ _ (ext'.trans ext'') hr

/-! ## Layout -/

theorem setLayouts_quiet (g : Emitter → List (String × Layout)) :
    Quiet (modify fun e => { e with layouts := g e }) :=
  Quiet.of_keeps fun _ he => ⟨⟨he.1, he.2, he.3.of_eq rfl rfl rfl rfl⟩, ⟨fun _ _ h => h, List.prefix_refl _,
    List.prefix_refl _, List.prefix_refl _, fun _ _ h => h, id, rfl, rfl, rfl, rfl,
    Nat.le_refl _⟩, rfl⟩

theorem setBusy_quiet (g : Emitter → List String) :
    Quiet (modify fun e => { e with busy := g e }) :=
  Quiet.of_keeps fun _ he => ⟨⟨he.1, he.2, he.3.of_eq rfl rfl rfl rfl⟩, ⟨fun _ _ h => h, List.prefix_refl _,
    List.prefix_refl _, List.prefix_refl _, fun _ _ h => h, id, rfl, rfl, rfl, rfl,
    Nat.le_refl _⟩, rfl⟩

theorem layout_quiet :
    (∀ fuel name fields explicit size alignment isUnion,
      Quiet (layoutOf fuel name fields explicit size alignment isUnion)) ∧
    (∀ fuel fs isUnion stop align, Quiet (fieldsLayout fuel fs isUnion stop align)) ∧
    (∀ fuel f, Quiet (fieldLayout fuel f)) ∧ (∀ fuel t, Quiet (typeLayout fuel t)) ∧
    (∀ fuel name, Quiet (entityLayout fuel name)) := by
  refine layoutOf.mutual_induct _ _ _ _ _ ?_ ?_ ?_ ?_ ?_ ?_ ?_
  · intro fuel name fields explicit size alignment isUnion ih
    rw [layoutOf.eq_def]
    refine Quiet.bind Quiet.get fun e₀ => ?_
    dsimp only
    split
    · exact Quiet.pure _
    · split
      · exact Quiet.bind (fail_quiet _) fun _ => Quiet.pure _
      · split
        · exact Quiet.bind (setLayouts_quiet _) fun _ => Quiet.pure _
        · split
          · exact Quiet.pure _
          · refine Quiet.bind (setBusy_quiet _) fun _ => Quiet.bind ih fun r => ?_
            rcases r with ⟨_, _, _⟩
            exact Quiet.bind (setBusy_quiet _) fun _ =>
              Quiet.bind (setLayouts_quiet _) fun _ => Quiet.pure _
  · intro fuel isUnion stop align
    rw [fieldsLayout.eq_def]
    exact Quiet.pure _
  · intro fuel f rest isUnion stop align hf hu hs
    rw [fieldsLayout.eq_def]
    refine Quiet.bind hf fun r => ?_
    rcases r with ⟨fs, fa⟩
    dsimp only
    split
    · refine Quiet.bind (hu fs fa) fun x => ?_
      rcases x with ⟨_, _, _⟩
      exact Quiet.pure _
    · refine Quiet.bind (hs fs fa) fun x => ?_
      rcases x with ⟨_, _, _⟩
      exact Quiet.pure _
  · intro fuel f cb hcb
    rw [fieldLayout.eq_def]
    simp only [hcb]
    exact Quiet.bind Quiet.get fun _ => Quiet.pure _
  · intro fuel f hcb ht
    rw [fieldLayout.eq_def]
    simp only [hcb]
    exact ht
  · intro fuel t helem hent
    rw [typeLayout.eq_def]
    refine Quiet.bind Quiet.get fun e₀ => ?_
    dsimp only
    split
    · exact Quiet.pure _
    · rename_i hptr
      split
      · rename_i hc
        split
        · rename_i elem tail n hp _
          refine Quiet.bind (helem hptr hc elem tail hp) fun x => ?_
          rcases x with ⟨_, _⟩
          exact Quiet.pure _
        · exact Quiet.pure _
      · split
        · exact hent
        · exact Quiet.pure _
  · intro fuel name hs hu
    rw [entityLayout.eq_def]
    refine Quiet.bind Quiet.get fun e₀ => ?_
    dsimp only
    split
    · exact Quiet.pure _
    · split
      · split <;> exact Quiet.pure _
      · exact Quiet.bind (hs _) fun _ => Quiet.pure _
      · exact Quiet.bind (hu _) fun _ => Quiet.pure _
      · exact Quiet.pure _

end Emit

end Introspection.Typelib
