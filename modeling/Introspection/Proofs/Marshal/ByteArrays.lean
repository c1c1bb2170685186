import Mathlib
import Introspection.Proofs.Marshal.ByteAccess
import Introspection.Proofs.Marshal.Scalars

/-!
# Arrays of one-byte integers

A C array whose elements are `int8` or `uint8` can be given a byte string, a string or a list of
byte values. All three are checked against the array type and get the same block; a byte string
is then copied into it in one write, while the other two go through the element path, each
element converted to the element type and stored in its slot. Reading such an array back, the
converter reads the whole block at once instead of loading and converting slot by slot.

The failures of the paths name the value they were given, so the paths are compared through
`returns`, which keeps the value and the session of a success and forgets a failure's cause.
`byte_array_paths` collects the comparisons: a string converts as the list of its bytes, the
list as the byte string as long as the element type takes every byte, and the bulk read gives
the elements of the slot-by-slot one. For an `int8` array and a byte of 128 or more the byte
string is copied where the list is refused (`int8_array_copies_wide_byte_unchecked`).
-/

namespace Introspection.Marshal

open Introspection.Loaded Introspection.Loaded.Session Introspection.Host Introspection.Native
open Introspection.Typelib Introspection.Info Introspection.Repository
open Introspection.Invoke.Session (run_bind run_pure run_throw run_get run_repoM)

/-! ## Computations that return alike -/

/-- Two computations that, from every session, fail together or return the same value and
session. -/
def SameReturns {α : Type} (m₁ m₂ : SessionM α) : Prop :=
  ∀ s, returns (m₁.run s) = returns (m₂.run s)

namespace SameReturns

variable {α β : Type}

theorem refl (m : SessionM α) : SameReturns m m := fun _ => rfl

theorem bind {m₁ m₂ : SessionM α} {f₁ f₂ : α → SessionM β} (hm : SameReturns m₁ m₂)
    (hf : ∀ a, SameReturns (f₁ a) (f₂ a)) : SameReturns (m₁ >>= f₁) (m₂ >>= f₂) := by
  intro s
  rw [returns_bind, returns_bind, hm s]
  congr 1
  funext p
  exact hf p.1 p.2

theorem throws (e₁ e₂ : Failure) : SameReturns (throw e₁ : SessionM α) (throw e₂) := fun _ => rfl

theorem throw_binds {γ δ : Type} (e₁ e₂ : Failure) (f₁ : γ → SessionM α) (f₂ : δ → SessionM α) :
    SameReturns (throw e₁ >>= f₁) (throw e₂ >>= f₂) := fun _ => rfl

theorem ite (c : Prop) [Decidable c] {a₁ a₂ b₁ b₂ : SessionM α} (ha : SameReturns a₁ a₂)
    (hb : SameReturns b₁ b₂) : SameReturns (if c then a₁ else b₁) (if c then a₂ else b₂) := by
  by_cases hc : c
  · rw [if_pos hc, if_pos hc]
    exact ha
  · rw [if_neg hc, if_neg hc]
    exact hb

end SameReturns

theorem arrayBlock_congr (conv : Nat) {v₁ v₂ : Value} (ti : Info) (ty : String) (o : Options)
    (h : v₁.elements? = v₂.elements?) :
    SameReturns (arrayBlock conv v₁ ti ty o) (arrayBlock conv v₂ ti ty o) := by
  unfold arrayBlock
  rw [h]
  refine SameReturns.bind (SameReturns.refl _) fun st => ?_
  dsimp only
  refine SameReturns.ite _ (SameReturns.throw_binds _ _ _ _) ?_
  cases Info.paramType st.repo ti 0 with
  | none => exact SameReturns.throws _ _
  | some elem =>
  cases v₂.elements? with
  | none => exact SameReturns.throws _ _
  | some items =>
  dsimp only
  refine SameReturns.ite _ (SameReturns.throw_binds _ _ _ _) ?_
  refine SameReturns.bind (SameReturns.refl _) fun c => ?_
  refine SameReturns.bind (SameReturns.refl _) fun ps => ?_
  refine SameReturns.bind (SameReturns.refl _) fun es => ?_
  cases es with
  | error e => exact SameReturns.throw_binds _ _ _ _
  | ok size =>
  simp only [pure_bind]
  refine SameReturns.bind (SameReturns.refl _) fun al => ?_
  cases al with
  | error e => exact SameReturns.throw_binds _ _ _ _
  | ok addr => exact SameReturns.refl _

/-! ## What an array conversion leaves alone -/

/-- Between two sessions the repository, the handles and the converters stayed as they were. -/
def KeepsTables (s s' : Session) : Prop :=
  s'.repo = s.repo ∧ s'.handles = s.handles ∧ s'.converters = s.converters

theorem KeepsTables.refl (s : Session) : KeepsTables s s := ⟨rfl, rfl, rfl⟩

theorem KeepsTables.trans {s₁ s₂ s₃ : Session} (h₁ : KeepsTables s₁ s₂) (h₂ : KeepsTables s₂ s₃) :
    KeepsTables s₁ s₃ :=
  ⟨h₂.1.trans h₁.1, h₂.2.1.trans h₁.2.1, h₂.2.2.trans h₁.2.2⟩

theorem keepsTables_bind {α β : Type} {m : SessionM α} {f : α → SessionM β}
    (hm : Moves KeepsTables m) (hf : ∀ a, Moves KeepsTables (f a)) : Moves KeepsTables (m >>= f) :=
  @Moves.bind _ _ KeepsTables (fun _ _ _ => KeepsTables.trans) _ _ hm hf

theorem keepsTables_read {α : Type} {m : SessionM α} (h : ∀ s, (m.run s).2 = s) :
    Moves KeepsTables m :=
  Moves.of_run KeepsTables.refl h

theorem keepsTables_withHeap {α : Type} (h : Nat) (f : Heap → Except Failure (α × Heap)) :
    Moves KeepsTables (withHeap h f) := by
  unfold withHeap
  refine keepsTables_bind (keepsTables_read fun s => ?_) fun lib => ?_
  · rw [run_hostOf]
    cases (s.handles.getD h default).backing <;> rfl
  refine keepsTables_bind (keepsTables_read fun s => rfl) fun l => ?_
  refine keepsTables_bind (keepsTables_read fun s => by rw [run_lift]) fun p => ?_
  rcases p with ⟨a, heap⟩
  exact keepsTables_bind (fun s => ⟨rfl, rfl, rfl⟩) fun _ => keepsTables_read fun s => rfl

theorem keepsTables_withGuest {α : Type} (g : Nat)
    (f : Guest.GuestLib → Guest.GuestLib × Except Failure α) : Moves KeepsTables (withGuest g f) := by
  unfold withGuest
  refine keepsTables_bind (keepsTables_read fun s => rfl) fun gl => ?_
  exact keepsTables_bind (fun s => ⟨rfl, rfl, rfl⟩) fun _ => keepsTables_read fun s => by
    rw [run_lift]

theorem keepsTables_alloc (h size align : Nat) : Moves KeepsTables (alloc h size align) := by
  unfold alloc
  refine keepsTables_bind (keepsTables_read fun s => rfl) fun hd => ?_
  cases hd.backing with
  | host lib =>
    refine keepsTables_bind (keepsTables_read fun s => ?_) fun shared => ?_
    · unfold isShared
      rw [run_bind, run_handle]
      dsimp only
      cases (s.handles.getD h default).backing <;> rfl
    split_ifs
    all_goals first
      | exact keepsTables_withHeap _ _
      | exact keepsTables_read fun s => rfl
  | guest g => exact keepsTables_withGuest _ _

theorem keepsTables_scopeFree (sid : Option Nat) (addr : Nat) :
    Moves KeepsTables (scopeFree sid addr) := by
  unfold scopeFree
  cases sid with
  | none => exact keepsTables_read fun s => rfl
  | some id =>
    split_ifs
    · exact keepsTables_read fun s => rfl
    · exact fun s => ⟨rfl, rfl, rfl⟩

/-! ## The block of an array of one-byte integers -/

theorem slotKind_scalar {r : Repository} {ti : Info} {k : ValueKind}
    (hp : Info.isPointer r ti = false) (hk : tagKind? (Info.tag r ti) = some k) :
    slotKind ti r = (.ok k, r) := by
  unfold slotKind
  simp only [Repository.run_bind, Repository.run_get]
  simp [hp, hk, Repository.run_pure]

theorem elementSize_scalar {r : Repository} {ti : Info} {k : ValueKind} (ps : Nat)
    (hp : Info.isPointer r ti = false) (hk : tagKind? (Info.tag r ti) = some k) :
    elementSize ti ps r = (.ok (k.size ps), r) := by
  have hiface : (Info.tag r ti == .interface) = false := by
    rw [beq_eq_false_iff_ne]
    intro h
    rw [h] at hk
    cases hk
  unfold elementSize
  simp only [Repository.run_bind, Repository.run_get, hp, hiface, Bool.not_false, Bool.true_and,
    Bool.false_eq_true, if_false]
  rw [slotKind_scalar hp hk]
  rfl

theorem typeTextUpTo_byte {r : Repository} {ti : Info} (depth : Nat)
    (hbyte : Info.tag r ti = .uint8 ∨ Info.tag r ti = .int8) :
    (Info.typeTextUpTo ti depth r).2 = r := by
  cases depth with
  | zero => rfl
  | succ depth =>
    unfold Info.typeTextUpTo
    rcases hbyte with h8 | h8 <;>
      simp only [Repository.run_bind, Repository.run_get, h8] <;> rfl

theorem typeText_byteArray {r : Repository} {ti elem : Info} (hti : Info.tag r ti = .array)
    (helem : Info.paramType r ti 0 = some elem)
    (hbyte : Info.tag r elem = .uint8 ∨ Info.tag r elem = .int8) :
    (Info.typeText ti r).2 = r := by
  obtain ⟨txt, htxt⟩ : ∃ txt, Info.typeTextUpTo elem ((Info.tl r ti).size + 1) r = (txt, r) :=
    ⟨_, Prod.ext rfl (typeTextUpTo_byte _ hbyte)⟩
  have hn : Info.nParams r ti = 0 ∨ Info.nParams r ti = 1 := by
    unfold Info.nParams
    split
    · exact .inl rfl
    · simp [hti, show TypeTag.array.code = 15 from rfl]
  unfold Info.typeText
  simp only [Repository.run_bind, Repository.run_get]
  unfold Info.typeTextUpTo
  simp only [Repository.run_bind, Repository.run_get, hti, show TypeTag.array.code = 15 from rfl]
  rcases hn with hn | hn <;>
    simp only [hn, List.range_zero, List.range_one, List.forIn_nil, List.forIn_cons,
      Repository.run_bind, Repository.run_get, Repository.run_pure, helem, htxt]

theorem arrayBlock_bytes_ok {conv : Nat} {v : Value} {ti elem : Info} {ty : String} {o : Options}
    {s s₁ : Session} {blk : ArrayBlock}
    (helem : Info.paramType s.repo ti 0 = some elem) (hp : Info.isPointer s.repo elem = false)
    (hbyte : Info.tag s.repo elem = .uint8 ∨ Info.tag s.repo elem = .int8)
    (h : (arrayBlock conv v ti ty o).run s = (.ok blk, s₁)) :
    blk.handle = (s.converters.getD conv default).handle ∧ blk.elem = elem ∧
      v.elements? = some blk.items ∧ blk.size = 1 ∧ KeepsTables s s₁ := by
  have hk : tagKind? (Info.tag s.repo elem) = some (if Info.tag s.repo elem = .uint8 then .u8 else .i8) := by
    rcases hbyte with h8 | h8 <;> rw [h8] <;> rfl
  unfold arrayBlock at h
  obtain ⟨st, s₀, hget, h⟩ := run_bind_eq_ok h
  rw [run_get] at hget
  cases hget
  dsimp only at h
  by_cases harr : (Info.arrayType s.repo ti != 0) = true
  · rw [if_pos harr, run_bind, run_throw] at h
    cases h
  rw [if_neg harr, helem] at h
  cases hv : v.elements? with
  | none =>
    rw [hv, run_throw] at h
    cases h
  | some items =>
  rw [hv] at h
  dsimp only at h
  by_cases hfixed : (decide (Info.arrayFixedSize s.repo ti ≥ 0) &&
      items.length != (Info.arrayFixedSize s.repo ti).toNat) = true
  · rw [if_pos hfixed, run_bind, run_throw] at h
    cases h
  rw [if_neg hfixed] at h
  obtain ⟨c, s₂, hc, h⟩ := run_bind_eq_ok h
  rw [run_converter] at hc
  cases hc
  obtain ⟨ps, s₃, hps, h⟩ := run_bind_eq_ok h
  obtain ⟨n, hn⟩ := Introspection.Invoke.Session.run_ptrSize (s.converters.getD conv default).handle s
  rw [hn] at hps
  cases hps
  obtain ⟨es, s₄, hes, h⟩ := run_bind_eq_ok h
  rw [run_repoM (elementSize_scalar _ hp hk)] at hes
  cases hes
  have hsz : (if Info.tag s.repo elem = .uint8 then ValueKind.u8 else .i8).size ps = 1 := by
    split <;> rfl
  dsimp only at h
  rw [hsz] at h
  obtain ⟨size, s₅, hsize, h⟩ := run_bind_eq_ok h
  rw [run_pure] at hsize
  cases hsize
  obtain ⟨al, s₆, hal, h⟩ := run_bind_eq_ok h
  have hkeep : KeepsTables s s₆ := by
    cases hal
    exact keepsTables_alloc _ _ _ _
  cases al with
  | error e =>
    rw [run_bind, run_throw] at h
    cases h
  | ok addr =>
  obtain ⟨addr', s₇, haddr, h⟩ := run_bind_eq_ok h
  rw [run_pure] at haddr
  cases haddr
  by_cases htr : (o.transfer == Transfer.nothing) = true
  · rw [if_pos htr] at h
    obtain ⟨_, s₈, hfree, h⟩ := run_bind_eq_ok h
    rw [run_pure] at h
    cases h
    have hkeep' := keepsTables_scopeFree o.scope addr s₆
    rw [hfree] at hkeep'
    exact ⟨rfl, rfl, rfl, rfl, hkeep.trans hkeep'⟩
  · rw [if_neg htr, run_pure] at h
    cases h
    exact ⟨rfl, rfl, rfl, rfl, hkeep⟩

/-! ## Copying bytes element by element -/

theorem returns_convert_byte (hooks : Hooks) (conv fuel : Nat) (x : UInt8) (elem : Info)
    (o : Options) (s : Session)
    (hbyte : Info.tag s.repo elem = .uint8 ∨ Info.tag s.repo elem = .int8)
    (hp : Info.isPointer s.repo elem = false) :
    returns ((toNativeUpTo hooks conv (fuel + 1) (.int .uint8 x.toNat) elem o).run s) =
      if Info.tag s.repo elem = .uint8 ∨ x.toNat < 128 then some (x.toNat, s) else none := by
  have hx : x.toNat < 256 := x.toNat_lt
  unfold toNativeUpTo
  rcases hbyte with h8 | h8
  · rw [run_encodeValue_int hooks conv o s _ _
      (by decide : (TypeTag.uint8, IntType.uint8) ∈ intTags) h8 hp, if_pos (Or.inl h8)]
    simp only [IntType.signed, Bool.false_eq_true, if_false, IntType.bits]
    rw [encodeUnsigned_int, if_pos ⟨by omega, by omega⟩]
    simp [returns]
  · rw [run_encodeValue_int hooks conv o s _ _
      (by decide : (TypeTag.int8, IntType.int8) ∈ intTags) h8 hp]
    simp only [IntType.signed, if_true, IntType.bits]
    rw [encodeSigned_int _ _ _ _ (by decide)]
    have hrange : signedRange 8 = (-128, 127) := rfl
    rw [hrange]
    by_cases hlt : x.toNat < 128
    · rw [if_pos ⟨by decide, by omega, by omega⟩, if_pos (Or.inr hlt),
        IntType.bits64_of_nonneg (by omega) (by omega)]
      simp [returns]
    · have hne : Info.tag s.repo elem ≠ .uint8 := by rw [h8]; decide
      rw [if_neg fun hc => hlt (by have := hc.2.2; omega), if_neg fun hc => hc.elim hne hlt]
      rfl

theorem write_returns_setLibHeap {h lib a : Nat} {bytes : ByteArray} {s : Session}
    {p : Unit × Session} (hb : (s.handles.getD h default).backing = .host lib)
    (hp : returns ((write h a bytes).run s) = some p) : ∃ heap, p.2 = setLibHeap s lib heap := by
  rw [returns_write_host hb] at hp
  split at hp
  · cases hp
  · obtain ⟨heap, -, rfl⟩ := Option.map_eq_some_iff.1 hp
    exact ⟨heap, rfl⟩

theorem returns_forIn_writes {h lib addr : Nat} (accepts : UInt8 → Prop) [DecidablePred accepts]
    {f : Value × Nat → PUnit → SessionM (ForInStep PUnit)} (P : Session → Prop)
    (hP : ∀ s heap, P s → P (setLibHeap s lib heap))
    (hb : ∀ s, P s → (s.handles.getD h default).backing = .host lib)
    (hf : ∀ x i s, P s → returns ((f (.int .uint8 x.toNat, i) PUnit.unit).run s) =
      if accepts x then
        (returns ((write h (addr + i) ⟨#[x]⟩).run s)).map fun p => (.yield PUnit.unit, p.2)
      else none) :
    ∀ (l : List UInt8) (k : Nat) (s : Session), l ≠ [] → P s →
      returns ((forIn ((l.map fun x => Value.int .uint8 x.toNat).zipIdx k) PUnit.unit f).run s) =
        if ∀ x ∈ l, accepts x then returns ((write h (addr + k) ⟨⟨l⟩⟩).run s) else none := by
  intro l
  induction l with
  | nil => intro _ _ hne; exact absurd rfl hne
  | cons x rest ih =>
    intro k s _ hs
    rw [List.map_cons, List.zipIdx_cons, List.forIn_cons, returns_bind, hf x k s hs]
    by_cases hx : accepts x
    · rw [if_pos hx, Option.bind_map]
      cases rest with
      | nil =>
        rw [if_pos (by simpa using hx)]
        cases returns ((write h (addr + k) ⟨#[x]⟩).run s) with
        | none => rfl
        | some p => rfl
      | cons y rest' =>
        rw [returns_write_cons (hb s hs) _ x (y :: rest') (List.cons_ne_nil y rest'), returns_bind]
        by_cases hall : ∀ z ∈ y :: rest', accepts z
        · rw [if_pos (List.forall_mem_cons.2 ⟨hx, hall⟩)]
          refine Option.bind_congr fun p hp => ?_
          obtain ⟨heap, hstate⟩ := write_returns_setLibHeap (hb s hs) hp
          have hs' : P p.2 := hstate ▸ hP s heap hs
          simp only [Function.comp]
          rw [ih (k + 1) p.2 (List.cons_ne_nil y rest') hs', if_pos hall, Nat.add_assoc]
        ·
          rw [if_neg fun hall' => hall (List.forall_mem_cons.1 hall').2]
          cases hw : returns ((write h (addr + k) ⟨#[x]⟩).run s) with
          | none => rfl
          | some p =>
            obtain ⟨heap, hstate⟩ := write_returns_setLibHeap (hb s hs) hw
            have hs' : P p.2 := hstate ▸ hP s heap hs
            simp only [Option.bind_some, Function.comp]
            rw [ih (k + 1) p.2 (List.cons_ne_nil y rest') hs', if_neg hall]
    · rw [if_neg hx, if_neg fun hall => hx (hall x List.mem_cons_self)]
      rfl

/-- The elements a byte string stands for: its bytes as `uint8` values. -/
def byteValues (b : ByteArray) : List Value := b.toList.map fun x => .int .uint8 x.toNat

theorem run_inlineAggregate_scalar {elem : Info} {s : Session}
    (hp : Info.isPointer s.repo elem = false) (hiface : Info.tag s.repo elem ≠ .interface) :
    (inlineAggregate elem).run s = (.ok false, s) := by
  unfold inlineAggregate
  rw [run_bind, run_get]
  simp only [hp, Bool.false_or, bne_iff_ne, ne_eq, hiface, not_false_eq_true, if_true]
  rfl

theorem returns_orConversion {α : Type} (o : Options) (v : Value) (ty detail : String)
    (m : SessionM α) (s : Session) :
    returns ((orConversion o v ty detail m).run s) = returns (m.run s) := by
  unfold orConversion
  rw [run_bind, show (attempt m).run s = (.ok (m.run s).1, (m.run s).2) from rfl]
  rcases m.run s with ⟨_ | a, s₁⟩ <;> rfl

theorem mk_toList (b : ByteArray) : (⟨⟨b.toList⟩⟩ : ByteArray) = b := by
  rw [toList_eq_data_toList]

theorem returns_encodeElements_bytes (hooks : Hooks) (conv fuel h lib : Nat) (b : ByteArray)
    (elem : Info) (addr : Nat) (o : Options) (s : Session)
    (hbyte : Info.tag s.repo elem = .uint8 ∨ Info.tag s.repo elem = .int8)
    (hp : Info.isPointer s.repo elem = false)
    (hb : (s.handles.getD h default).backing = .host lib) (hne : 0 < b.size) :
    returns ((encodeElements (toNativeUpTo hooks conv (fuel + 1)) h (byteValues b) elem addr 1
      o).run s) =
      if ∀ x ∈ b.toList, Info.tag s.repo elem = .uint8 ∨ x.toNat < 128 then
        returns ((write h addr b).run s)
      else none := by
  have hk : tagKind? (Info.tag s.repo elem) =
      some (if Info.tag s.repo elem = .uint8 then .u8 else .i8) := by
    rcases hbyte with h8 | h8 <;> rw [h8] <;> rfl
  have hiface : Info.tag s.repo elem ≠ .interface := by
    rcases hbyte with h8 | h8 <;> rw [h8] <;> decide
  have htext := typeText_scalar hp (by rcases hbyte with h8 | h8 <;> rw [h8] <;> decide)
  have hl : b.toList ≠ [] := by
    rw [toList_eq_data_toList]
    intro hnil
    have := congrArg List.length hnil
    simp only [Array.length_toList, List.length_nil] at this
    exact absurd this (Nat.pos_iff_ne_zero.1 hne)
  unfold encodeElements byteValues
  rw [run_bind, run_inlineAggregate_scalar hp hiface]
  dsimp only
  rw [run_reads_bind (slotKind_scalar hp hk)]
  dsimp only
  rw [run_reads_bind htext, returns_bind,
    @returns_forIn_writes h lib addr (fun x => Info.tag s.repo elem = .uint8 ∨ x.toNat < 128) _ _
      (fun t => t.repo = s.repo ∧ (t.handles.getD h default).backing = .host lib)
      (fun t heap ht => ht) (fun t ht => ht.2) ?_ b.toList 0 s hl ⟨rfl, hb⟩]
  ·
    split_ifs
    · rw [Nat.add_zero, mk_toList]
      cases returns ((write h addr b).run s) <;> rfl
    · rfl
  ·
    intro x i t ⟨hrepo, hbt⟩
    have hkind : (if Info.tag s.repo elem = .uint8 then ValueKind.u8 else .i8) = .u8 ∨
        (if Info.tag s.repo elem = .uint8 then ValueKind.u8 else .i8) = .i8 := by
      split <;> simp
    rw [if_neg Bool.false_ne_true, returns_bind,
      returns_convert_byte hooks conv fuel x elem _ t (hrepo ▸ hbyte) (hrepo ▸ hp), hrepo]
    by_cases hacc : Info.tag s.repo elem = .uint8 ∨ x.toNat < 128
    · rw [if_pos hacc, if_pos hacc, Option.bind_some, returns_bind, returns_orConversion,
        run_store_byte hbt hkind _ x, Nat.mul_one]
      cases returns ((write h (addr + i) ⟨#[x]⟩).run t) <;> rfl
    · rw [if_neg hacc, if_neg hacc]
      rfl

/-! ## Converting to a byte array -/

theorem run_toNative_array (hooks : Hooks) (conv : Nat) (v : Value) (ti : Info) (o : Options)
    (s : Session) (hti : Info.tag s.repo ti = .array)
    (htext : (Info.typeText ti s.repo).2 = s.repo) :
    (toNative hooks conv v ti o).run s =
      (encodeArray hooks conv (toNativeUpTo hooks conv (2 ^ 64 - 1)) v ti
        (Info.typeText ti s.repo).1 o).run s := by
  have ht : Info.typeText ti s.repo = ((Info.typeText ti s.repo).1, s.repo) := Prod.ext rfl htext
  rw [run_toNative_fuel]
  unfold toNativeUpTo encodeValue
  rw [run_get_bind, run_reads_bind ht, run_converter_bind, hti]
  rfl

theorem encodeArray_bytes (hooks : Hooks) (conv : Nat)
    (convert : Value → Info → Options → SessionM Nat) (b : ByteArray) (ti : Info) (ty : String)
    (o : Options) :
    encodeArray hooks conv convert (.bytes b) ti ty o = (do
      let blk ← arrayBlock conv (.bytes b) ti ty o
      if blk.size == 1 then
        orConversion o (.bytes b) ty "write array" (write blk.handle blk.addr b)
        return blk.addr
      encodeElements convert blk.handle blk.items blk.elem blk.addr blk.size o
      return blk.addr) := rfl

theorem encodeArray_str (hooks : Hooks) (conv : Nat)
    (convert : Value → Info → Options → SessionM Nat) (b : ByteArray) (ti : Info) (ty : String)
    (o : Options) :
    encodeArray hooks conv convert (.str b) ti ty o = (do
      let blk ← arrayBlock conv (.str b) ti ty o
      encodeElements convert blk.handle blk.items blk.elem blk.addr blk.size o
      return blk.addr) := rfl

theorem encodeArray_list (hooks : Hooks) (conv : Nat)
    (convert : Value → Info → Options → SessionM Nat) (xs : List Value) (ti : Info) (ty : String)
    (o : Options) :
    encodeArray hooks conv convert (.list xs) ti ty o = (do
      let blk ← arrayBlock conv (.list xs) ti ty o
      encodeElements convert blk.handle blk.items blk.elem blk.addr blk.size o
      return blk.addr) := rfl

theorem run_of_returns {α : Type} {x : Except Failure α × Session} {p : α × Session}
    (h : returns x = some p) : x = (.ok p.1, p.2) := by
  rcases x with ⟨_ | a, s⟩
  · cases h
  · cases h
    rfl

section
variable (hooks : Hooks) (conv : Nat) (b : ByteArray) (o : Options) {ti elem : Info} {s : Session}

theorem returns_toNative_str (hti : Info.tag s.repo ti = .array)
    (helem : Info.paramType s.repo ti 0 = some elem)
    (hbyte : Info.tag s.repo elem = .uint8 ∨ Info.tag s.repo elem = .int8) :
    returns ((toNative hooks conv (.str b) ti o).run s) =
      returns ((toNative hooks conv (.list (byteValues b)) ti o).run s) := by
  have htext := typeText_byteArray hti helem hbyte
  rw [run_toNative_array hooks conv _ ti o s hti htext, run_toNative_array hooks conv _ ti o s hti htext,
    encodeArray_str, encodeArray_list]
  have hel : (Value.str b).elements? = (Value.list (byteValues b)).elements? := rfl
  have hblk := arrayBlock_congr conv ti (Info.typeText ti s.repo).1 o hel
  exact SameReturns.bind hblk (fun blk => SameReturns.refl _) s

theorem returns_toNative_byteValues {lib : Nat} (hti : Info.tag s.repo ti = .array)
    (helem : Info.paramType s.repo ti 0 = some elem)
    (hbyte : Info.tag s.repo elem = .uint8 ∨ Info.tag s.repo elem = .int8)
    (hp : Info.isPointer s.repo elem = false)
    (hb : (s.handles.getD (s.converters.getD conv default).handle default).backing = .host lib)
    (hne : 0 < b.size) :
    returns ((toNative hooks conv (.list (byteValues b)) ti o).run s) =
      if ∀ x ∈ b.toList, Info.tag s.repo elem = .uint8 ∨ x.toNat < 128 then
        returns ((toNative hooks conv (.bytes b) ti o).run s)
      else none := by
  have htext := typeText_byteArray hti helem hbyte
  rw [run_toNative_array hooks conv _ ti o s hti htext, run_toNative_array hooks conv _ ti o s hti htext,
    encodeArray_list, encodeArray_bytes, returns_bind, returns_bind,
    arrayBlock_congr conv ti _ o
      (show (Value.list (byteValues b)).elements? = (Value.bytes b).elements? from rfl) s]
  by_cases hacc : ∀ x ∈ b.toList, Info.tag s.repo elem = .uint8 ∨ x.toNat < 128
  · rw [if_pos hacc]
    refine Option.bind_congr fun p hp' => ?_
    obtain ⟨hh, he, hitems, hsize, hrepo, hhandles, -⟩ :=
      arrayBlock_bytes_ok helem hp hbyte (run_of_returns hp')
    have hitems' : p.1.items = byteValues b := (Option.some.inj hitems).symm
    rw [← hrepo] at hbyte hp hacc
    rw [← hhandles] at hb
    rw [hsize, hitems', he, hh, if_pos (beq_self_eq_true 1), returns_bind, returns_bind, returns_orConversion,
      returns_encodeElements_bytes hooks conv _ _ lib b elem _ o p.2 hbyte hp hb hne, if_pos hacc]
  · rw [if_neg hacc, Option.bind_eq_none_iff]
    intro p hp'
    obtain ⟨hh, he, hitems, hsize, hrepo, hhandles, -⟩ :=
      arrayBlock_bytes_ok helem hp hbyte (run_of_returns hp')
    have hitems' : p.1.items = byteValues b := (Option.some.inj hitems).symm
    rw [← hrepo] at hbyte hp hacc
    rw [← hhandles] at hb
    rw [hsize, hitems', he, hh, returns_bind,
      returns_encodeElements_bytes hooks conv _ _ lib b elem _ o p.2 hbyte hp hb hne, if_neg hacc]
    rfl

end

/-! ## Reading a byte array back -/

theorem returns_orDecode {α : Type} (ty detail : String) (m : SessionM α) (s : Session) :
    returns ((orDecode ty detail m).run s) = returns (m.run s) := by
  unfold orDecode
  rw [run_bind, show (attempt m).run s = (.ok (m.run s).1, (m.run s).2) from rfl]
  rcases m.run s with ⟨_ | a, s₁⟩ <;> rfl

theorem returns_forIn_collect {α : Type} (P : Nat → Prop) [DecidablePred P] (g : Nat → α)
    {f : Nat → List α → SessionM (ForInStep (List α))} {s : Session}
    (hf : ∀ i acc, returns ((f i acc).run s) = if P i then some (.yield (acc ++ [g i]), s) else none) :
    ∀ (l : List Nat) (acc : List α), returns ((forIn l acc f).run s) =
      if ∀ i ∈ l, P i then some (acc ++ l.map g, s) else none := by
  intro l
  induction l with
  | nil =>
    intro acc
    rw [if_pos (fun i hi => absurd hi List.not_mem_nil), List.map_nil, List.append_nil]
    rfl
  | cons i rest ih =>
    intro acc
    rw [List.forIn_cons, returns_bind, hf i acc]
    by_cases hi : P i
    · rw [if_pos hi, Option.bind_some]
      simp only
      rw [ih (acc ++ [g i]), List.map_cons, List.append_assoc, List.singleton_append]
      by_cases hrest : ∀ j ∈ rest, P j
      · rw [if_pos hrest, if_pos (List.forall_mem_cons.2 ⟨hi, hrest⟩)]
      · rw [if_neg hrest, if_neg fun hall => hrest (List.forall_mem_cons.1 hall).2]
    · rw [if_neg hi, if_neg fun hall => hi (hall i List.mem_cons_self)]
      rfl

theorem uint8_wrap_normalize (x : UInt8) :
    IntType.uint8.wrap (ValueKind.u8.normalize x.toNat : Int) = x.toNat := by
  have hx : x.toNat < 256 := x.toNat_lt
  simp only [IntType.wrap, ValueKind.normalize, IntType.bits, IntType.signed, Bool.false_and,
    Bool.false_eq_true, if_false]
  omega

theorem int8_wrap_normalize (x : UInt8) :
    IntType.int8.wrap (ValueKind.i8.normalize x.toNat : Int) = IntType.int8.wrap x.toNat := by
  have hx : x.toNat < 2 ^ 8 := x.toNat_lt
  have hmod : ((ValueKind.i8.normalize x.toNat : Nat) : Int) % 2 ^ 8 = (x.toNat : Int) % 2 ^ 8 := by
    simp only [ValueKind.normalize, Nat.mod_eq_of_lt hx]
    split_ifs <;> push_cast <;> omega
  unfold IntType.wrap
  dsimp only
  rw [show IntType.int8.bits = 8 from rfl, hmod]

theorem run_free_ok (h a : Nat) (s : Session) :
    ∃ s', (free h a).run s = (.ok (), s') ∧ s'.repo = s.repo := by
  rw [run_free]
  cases (s.handles.getD h default).backing <;> exact ⟨_, rfl, rfl⟩

theorem run_release_tail {jp : Unit → SessionM Value} (c : Bool) (h a : Nat)
    (V : Repository → Value) (hjp : ∀ t, (jp ()).run t = (.ok (V t.repo), t)) (s : Session) :
    (if c = true then free h a >>= jp else jp ()).run s =
      (.ok (V s.repo), if c = true then ((free h a).run s).2 else s) := by
  cases c with
  | false => exact hjp s
  | true =>
    obtain ⟨s', hfree, hrepo⟩ := run_free_ok h a s
    rw [if_pos rfl, if_pos rfl, run_bind, hfree]
    dsimp only
    rw [hjp, hrepo]

theorem returns_decodeElements_bytes (hooks : Hooks) (conv fuel h a data n : Nat)
    {kind : ValueKind} (elem : Info) (ty : String) (tr : Transfer) (s : Session) {lib : Nat}
    {t : IntType} (ht : (Info.tag s.repo elem, t) ∈ intTags) (hkind : kind = .u8 ∨ kind = .i8)
    (hp : Info.isPointer s.repo elem = false)
    (hb : (s.handles.getD h default).backing = .host lib) :
    returns ((decodeElements (fromNativeUpTo hooks conv (fuel + 1)) h a data n 1 kind elem ty
      tr).run s) =
      if ∀ i ∈ List.range n,
          refusesAt s lib (data + i) = false ∧ (libHeap s lib).Fits (data + i) 1 then
        some (typedSlice ((List.range n).map fun i =>
            .int t (t.wrap (kind.normalize ((libHeap s lib).byteAt (data + i)).toNat))) s.repo elem,
          if (tr != .nothing) = true then ((free h a).run s).2 else s)
      else none := by
  have hiface : Info.tag s.repo elem ≠ .interface := by
    obtain ⟨k, hk, -⟩ := slot_of_intTag ht
    intro heq
    rw [heq] at hk
    cases hk
  unfold decodeElements
  rw [run_bind, run_inlineAggregate_scalar hp hiface]
  dsimp only
  rw [returns_bind, returns_forIn_collect
    (fun i => refusesAt s lib (data + i) = false ∧ (libHeap s lib).Fits (data + i) 1)
    (fun i => Value.int t (t.wrap (kind.normalize ((libHeap s lib).byteAt (data + i)).toNat)))
    ?_ (List.range n) []]
  · by_cases hall : ∀ i ∈ List.range n,
        refusesAt s lib (data + i) = false ∧ (libHeap s lib).Fits (data + i) 1
    · rw [if_pos hall, if_pos hall, Option.bind_some, List.nil_append]
      simp only
      set vals := (List.range n).map fun i =>
        Value.int t (t.wrap (kind.normalize ((libHeap s lib).byteAt (data + i)).toNat))
      rw [run_release_tail _ h a (fun r => typedSlice vals r elem)
        (fun t => by rw [run_get_bind]; rfl) s]
      rfl
    · rw [if_neg hall, if_neg hall]
      rfl
  · intro i acc
    rw [if_neg Bool.false_ne_true, returns_bind, returns_orDecode, Nat.mul_one,
      returns_load_byte hb hkind]
    split_ifs with hi
    · rw [Option.bind_some, returns_bind]
      simp only
      rw [run_fromNativeUpTo_int hooks conv s fuel _ _ ht rfl hp]
      rfl
    · rfl

theorem toList_extract_byteAt (heap : Heap) {data n : Nat} (hfit : heap.Fits data n) :
    (heap.data.extract (data - heapBase) (data - heapBase + n)).toList =
      (List.range n).map fun i => heap.byteAt (data + i) := by
  obtain ⟨hbase, hsize, -⟩ := hfit
  apply List.ext_getElem
  · rw [toList_eq_data_toList, Array.length_toList, List.length_map, List.length_range]
    show (heap.data.extract _ _).size = n
    rw [ByteArray.size_extract]
    omega
  · intro i hi hi'
    rw [List.length_map, List.length_range] at hi'
    rw [List.getElem_map, List.getElem_range, Heap.byteAt,
      get!_eq_getElem _ (by omega : data + i - heapBase < heap.data.size)]
    simp only [toList_eq_data_toList, Array.getElem_toList]
    simp only [ByteArray.data_extract, Array.getElem_extract, ByteArray.getElem_eq_getElem_data,
      show data - heapBase + i = data + i - heapBase by omega]

theorem bytewise_reads_iff {s : Session} {lib data n : Nat} (hn : 0 < n) :
    (∀ i ∈ List.range n,
        refusesAt s lib (data + i) = false ∧ (libHeap s lib).Fits (data + i) 1) ↔
      refusesAt s lib data = false ∧ (libHeap s lib).Fits data n := by
  constructor
  · intro hall
    obtain ⟨h0, hfirst, -, -⟩ := hall 0 (List.mem_range.2 hn)
    obtain ⟨-, -, hlast, hwrap⟩ := hall (n - 1) (List.mem_range.2 (by omega))
    refine ⟨h0, by omega, by omega, by omega⟩
  · rintro ⟨h0, hbase, hsize, hwrap⟩ i hi
    rw [List.mem_range] at hi
    refine ⟨?_, by omega, by omega, by omega⟩
    rcases Nat.eq_zero_or_pos i with rfl | hpos
    · exact h0
    · unfold refusesAt
      rw [beq_eq_false_iff_ne.2 (by omega), Bool.false_and]

theorem returns_decodeBytes (h a data n : Nat) (etag : TypeTag) (elem : Info) (ty : String)
    (tr : Transfer) (s : Session) {lib : Nat}
    (hb : (s.handles.getD h default).backing = .host lib) :
    returns ((decodeBytes h a data n etag elem ty tr).run s) =
      if refusesAt s lib data = false ∧ (libHeap s lib).Fits data n then
        some (
          if (etag == .uint8) = true then
            .bytes ((libHeap s lib).data.extract (data - heapBase) (data - heapBase + n))
          else typedSlice
            (((libHeap s lib).data.extract (data - heapBase) (data - heapBase + n)).toList.map
              fun b => signedOf .int8 b.toNat) s.repo elem,
          if (tr != .nothing) = true then ((free h a).run s).2 else s)
      else none := by
  unfold decodeBytes
  rw [returns_bind, returns_orDecode, returns_read_host hb, Heap.read_eq]
  cases hrf : refusesAt s lib data with
  | true =>
    rw [if_pos rfl, if_neg fun hc => Bool.noConfusion hc.1]
    rfl
  | false =>
    rw [if_neg Bool.false_ne_true]
    by_cases hfit : (libHeap s lib).Fits data n
    · rw [if_pos hfit, if_pos ⟨rfl, hfit⟩]
      set raw := (libHeap s lib).data.extract (data - heapBase) (data - heapBase + n)
      rw [show (Except.ok raw : Except Failure ByteArray).toOption = some raw from rfl,
        Option.map_some, Option.bind_some]
      simp only
      rw [run_release_tail _ h a (fun r => if (etag == .uint8) = true then .bytes raw
          else typedSlice (raw.toList.map fun b => signedOf .int8 b.toNat) r elem)
        (fun t => ?_) s]
      · rfl
      · by_cases hu : (etag == .uint8) = true
        · rw [if_pos hu, if_pos hu]
          rfl
        · rw [if_neg hu, if_neg hu, run_get_bind]
          rfl
    · rw [if_neg hfit, if_neg fun hc => hfit hc.2]
      rfl

@[simp] theorem elements_typedSlice (items : List Value) (r : Repository) (elem : Info) :
    (typedSlice items r elem).elements? = some items := by
  unfold typedSlice
  dsimp only
  split
  · rfl
  · cases elemTypeOfTag? (Info.tag r elem) with
    | none => rfl
    | some e =>
      dsimp only
      split <;> rfl

theorem bulk_byte_read_matches_elements (hooks : Hooks) (conv fuel h a data n : Nat)
    {kind : ValueKind} (elem : Info) (ty : String) (tr : Transfer) (s : Session) {lib : Nat}
    (hbyte : Info.tag s.repo elem = .uint8 ∨ Info.tag s.repo elem = .int8)
    (hp : Info.isPointer s.repo elem = false)
    (hk : tagKind? (Info.tag s.repo elem) = some kind)
    (hb : (s.handles.getD h default).backing = .host lib) (hn : 0 < n) :
    (returns ((decodeBytes h a data n (Info.tag s.repo elem) elem ty tr).run s)).map
        (fun p => (p.1.elements?, p.2)) =
      (returns ((decodeElements (fromNativeUpTo hooks conv (fuel + 1)) h a data n 1 kind elem ty
        tr).run s)).map (fun p => (p.1.elements?, p.2)) := by
  rcases hbyte with h8 | h8
  · have hkind : kind = .u8 := by rw [h8] at hk; exact (Option.some.inj hk).symm
    subst hkind
    rw [returns_decodeBytes h a data n _ elem ty tr s hb,
      returns_decodeElements_bytes hooks conv fuel h a data n elem ty tr s
        (by rw [h8]; decide : (Info.tag s.repo elem, IntType.uint8) ∈ intTags) (.inl rfl) hp hb]
    by_cases hall : refusesAt s lib data = false ∧ (libHeap s lib).Fits data n
    · rw [if_pos hall, if_pos ((bytewise_reads_iff hn).2 hall), if_pos (by rw [h8]; rfl),
        Option.map_some, Option.map_some, elements_typedSlice, Value.elements?, toList_extract_byteAt _ hall.2, List.map_map]
      simp only [Function.comp_def, uint8_wrap_normalize]
    · rw [if_neg hall, if_neg (mt (bytewise_reads_iff hn).1 hall)]
  · have hkind : kind = .i8 := by rw [h8] at hk; exact (Option.some.inj hk).symm
    subst hkind
    rw [returns_decodeBytes h a data n _ elem ty tr s hb,
      returns_decodeElements_bytes hooks conv fuel h a data n elem ty tr s
        (by rw [h8]; decide : (Info.tag s.repo elem, IntType.int8) ∈ intTags) (.inr rfl) hp hb]
    by_cases hall : refusesAt s lib data = false ∧ (libHeap s lib).Fits data n
    · rw [if_pos hall, if_pos ((bytewise_reads_iff hn).2 hall), if_neg (by rw [h8]; decide),
        Option.map_some, Option.map_some, elements_typedSlice, elements_typedSlice, toList_extract_byteAt _ hall.2, List.map_map]
      simp only [Function.comp_def, int8_wrap_normalize, signedOf]
    · rw [if_neg hall, if_neg (mt (bytewise_reads_iff hn).1 hall)]

/-! ## The three paths -/

/-- Arrays of one-byte integers, the three host forms of their elements and the two ways of
reading them back. A string converts exactly as the list of its bytes. A list of bytes converts
as the byte string when the element type takes every byte, and fails otherwise: a byte string
is copied in one write with no range check, so an `int8` array takes from it the bytes of 128
and more that it refuses as values. Reading `n > 0` elements in one bulk read gives the
elements that loading and converting them one by one gives, and the same session. -/
theorem byte_array_paths (hooks : Hooks) (conv : Nat) {ti elem : Info} (o : Options)
    {s : Session} {lib : Nat} (hti : Info.tag s.repo ti = .array)
    (helem : Info.paramType s.repo ti 0 = some elem)
    (hbyte : Info.tag s.repo elem = .uint8 ∨ Info.tag s.repo elem = .int8)
    (hp : Info.isPointer s.repo elem = false)
    (hb : (s.handles.getD (s.converters.getD conv default).handle default).backing = .host lib) :
    (∀ b : ByteArray, returns ((toNative hooks conv (.str b) ti o).run s) =
      returns ((toNative hooks conv (.list (byteValues b)) ti o).run s)) ∧
    (∀ b : ByteArray, 0 < b.size →
      returns ((toNative hooks conv (.list (byteValues b)) ti o).run s) =
        if ∀ x ∈ b.toList, Info.tag s.repo elem = .uint8 ∨ x.toNat < 128 then
          returns ((toNative hooks conv (.bytes b) ti o).run s)
        else none) ∧
    (∀ (kind : ValueKind) (fuel h a data n lib' : Nat) (ty : String) (tr : Transfer),
      tagKind? (Info.tag s.repo elem) = some kind →
      (s.handles.getD h default).backing = .host lib' → 0 < n →
      (returns ((decodeBytes h a data n (Info.tag s.repo elem) elem ty tr).run s)).map
          (fun p => (p.1.elements?, p.2)) =
        (returns ((decodeElements (fromNativeUpTo hooks conv (fuel + 1)) h a data n 1 kind elem
          ty tr).run s)).map (fun p => (p.1.elements?, p.2))) :=
  ⟨fun b => returns_toNative_str hooks conv b o hti helem hbyte,
    fun b hne => returns_toNative_byteValues hooks conv b o hti helem hbyte hp hb hne,
    fun _ fuel h a data n _ ty tr hk hb' hn =>
      bulk_byte_read_matches_elements hooks conv fuel h a data n elem ty tr s hbyte hp hk hb' hn⟩

/-- The repository of one typelib holding a type word at offset 0 that points to a C array blob
of `int8` elements, fixed to one element. -/
def int8ArrayRepo : Repository :=
  { typelibs := #[{ (default : Typelib) with
      image := Image.make ⟨#[4, 0, 0, 0, 121, 4, 1, 0, 0, 0, 0, 16]⟩ 12 }],
    spaces := #[{ name := "T", typelib := 0, path := "" }] }

/-- The array type of `int8ArrayRepo`. -/
def int8ArrayType : Info := { space := 0, kind := .type, offset := 0 }

/-- The element type of `int8ArrayType`. -/
def int8Elem : Info := int8ArrayType.child .type 8

/-- A session over `int8ArrayRepo` whose converter writes to an empty host heap. -/
def int8Session : Session :=
  { repo := int8ArrayRepo, libs := #[default], handles := #[{ name := "", backing := .host 0 }] }

/-- The byte 200 given to an `int8` array: as a list of bytes it is refused, as a byte string it
is copied unchecked. -/
theorem int8_array_copies_wide_byte_unchecked :
    returns ((toNative Script.hooks 0 (.list (byteValues ⟨#[200]⟩)) int8ArrayType {}).run
        int8Session) = none ∧
      (returns ((toNative Script.hooks 0 (.bytes ⟨#[200]⟩) int8ArrayType {}).run
        int8Session)).isSome = true ∧
      (returns ((decodeBytes 0 heapBase heapBase 1 .int8 int8Elem "" .nothing).run
        int8Session)).map (fun p => (p.1.elements?, p.2)) =
        (returns ((decodeElements (fromNativeUpTo Script.hooks 0 1) 0 heapBase heapBase 1 1 .i8
          int8Elem "" .nothing).run int8Session)).map (fun p => (p.1.elements?, p.2)) := by
  have hti : Info.tag int8Session.repo int8ArrayType = .array := by decide
  have helem : Info.paramType int8Session.repo int8ArrayType 0 = some int8Elem := rfl
  have htag : Info.tag int8Session.repo int8Elem = .int8 := by decide
  have hp : Info.isPointer int8Session.repo int8Elem = false := by decide
  obtain ⟨-, hlist, hdecode⟩ :=
    byte_array_paths Script.hooks 0 {} hti helem (.inr htag) hp rfl
  refine ⟨?_, by decide +kernel, ?_⟩
  · rw [hlist ⟨#[200]⟩ (by decide), if_neg]
    intro hall
    have h200 := hall 200 (by rw [toList_eq_data_toList]; exact List.mem_singleton_self _)
    rw [htag] at h200
    revert h200
    decide
  · have := hdecode .i8 0 0 heapBase heapBase 1 0 "" .nothing (by rw [htag]; rfl) rfl (by decide)
    rwa [htag] at this

end Introspection.Marshal
