import Mathlib.Data.List.Pairwise
import Introspection.Host.Heap

/-!
# Tilings of an address range

A list of blocks tiles the addresses `[lo, hi)` when the blocks are pairwise apart, none is
empty, and together they hold exactly the addresses of that range. The heap's live and free
blocks tile everything below its top; the operations of the heap cut one block into pieces
that tile it, put a new range next to the old one, or merge neighbours, and each of these
moves keeps a tiling a tiling.
-/

namespace Introspection.Host

namespace Block

/-- The block holds address `x`. -/
def Covers (b : Block) (x : Nat) : Prop := b.addr ≤ x ∧ x < b.addr + b.size

/-- Two blocks share no address. -/
def Apart (a b : Block) : Prop := ∀ x, a.Covers x → ¬ b.Covers x

theorem Apart.symm {a b : Block} (h : a.Apart b) : b.Apart a := fun x hb ha => h x ha hb

instance : Std.Symm Apart := ⟨fun _ _ h => h.symm⟩

theorem Apart.addr_ne {a b : Block} (h : a.Apart b) (ha : 0 < a.size) (hb : 0 < b.size) :
    a.addr ≠ b.addr := by
  intro heq
  exact h a.addr ⟨Nat.le_refl _, by omega⟩ ⟨by omega, by omega⟩

/-- The range `[lo, hi)` as a list of at most one block: none when it is empty. -/
def gap (lo hi : Nat) : List Block := if lo < hi then [⟨lo, hi - lo⟩] else []

theorem covers_merge {a b : Block} (hab : a.addr + a.size = b.addr) (x : Nat) :
    Block.Covers ⟨a.addr, a.size + b.size⟩ x ↔ a.Covers x ∨ b.Covers x := by
  simp only [Covers]
  omega

end Block

/-- Some block of the list holds address `x`. -/
def Covered (bs : List Block) (x : Nat) : Prop := ∃ b ∈ bs, b.Covers x

@[simp] theorem covered_nil (x : Nat) : ¬ Covered [] x := by simp [Covered]

@[simp] theorem covered_cons (b : Block) (bs : List Block) (x : Nat) :
    Covered (b :: bs) x ↔ b.Covers x ∨ Covered bs x := by
  simp [Covered]

@[simp] theorem covered_append (bs cs : List Block) (x : Nat) :
    Covered (bs ++ cs) x ↔ Covered bs x ∨ Covered cs x := by
  simp only [Covered, List.mem_append]
  constructor
  · rintro ⟨b, hb | hb, hx⟩
    · exact .inl ⟨b, hb, hx⟩
    · exact .inr ⟨b, hb, hx⟩
  · rintro (⟨b, hb, hx⟩ | ⟨b, hb, hx⟩)
    · exact ⟨b, .inl hb, hx⟩
    · exact ⟨b, .inr hb, hx⟩

theorem covered_perm {bs cs : List Block} (p : bs.Perm cs) (x : Nat) :
    Covered bs x ↔ Covered cs x := by
  simp only [Covered, p.mem_iff]

theorem Block.Apart.of_covered {a c : Block} {bs : List Block} (hall : ∀ b ∈ bs, a.Apart b)
    (hc : ∀ x, c.Covers x → Covered bs x) : a.Apart c := by
  intro x hax hcx
  obtain ⟨b, hb, hbx⟩ := hc x hcx
  exact hall b hb x hax hbx

/-- Blocks that tile the addresses `[lo, hi)`: pairwise apart, none empty, and holding exactly
the addresses of that range. -/
structure Tiles (bs : List Block) (lo hi : Nat) : Prop where
  apart : bs.Pairwise Block.Apart
  nonempty : ∀ b ∈ bs, 0 < b.size
  cover : ∀ x, Covered bs x ↔ lo ≤ x ∧ x < hi

namespace Tiles

variable {bs cs : List Block} {lo mid hi : Nat}

theorem nil (lo : Nat) : Tiles [] lo lo where
  apart := List.Pairwise.nil
  nonempty := by simp
  cover := by simp

theorem single (addr : Nat) {size : Nat} (h : 0 < size) : Tiles [⟨addr, size⟩] addr (addr + size) where
  apart := List.pairwise_singleton _ _
  nonempty := by simpa using h
  cover x := by simp [Block.Covers]

theorem gap {lo hi : Nat} (h : lo ≤ hi) : Tiles (Block.gap lo hi) lo hi := by
  unfold Block.gap
  split
  · have t := single lo (show 0 < hi - lo by omega)
    rwa [Nat.add_sub_cancel' h] at t
  · rw [show hi = lo by omega]
    exact nil lo

theorem perm (t : Tiles bs lo hi) (p : bs.Perm cs) : Tiles cs lo hi where
  apart := (p.pairwise_iff Block.Apart.symm).1 t.apart
  nonempty b hb := t.nonempty b (p.mem_iff.2 hb)
  cover x := (covered_perm p x).symm.trans (t.cover x)

theorem covers_lt (t : Tiles bs lo hi) {b : Block} (hb : b ∈ bs) {x : Nat} (hx : b.Covers x) :
    lo ≤ x ∧ x < hi :=
  (t.cover x).1 ⟨b, hb, hx⟩

theorem append (t₁ : Tiles bs lo mid) (t₂ : Tiles cs mid hi) (hlo : lo ≤ mid) (hhi : mid ≤ hi) :
    Tiles (bs ++ cs) lo hi where
  apart := by
    refine List.pairwise_append.2 ⟨t₁.apart, t₂.apart, fun b hb c hc x hbx hcx => ?_⟩
    have h₁ := t₁.covers_lt hb hbx
    have h₂ := t₂.covers_lt hc hcx
    omega
  nonempty b hb := (List.mem_append.1 hb).elim (t₁.nonempty b) (t₂.nonempty b)
  cover x := by
    rw [covered_append, t₁.cover x, t₂.cover x]
    omega

theorem swap {ks ms ms' : List Block} (t : Tiles (ks ++ ms) lo hi)
    (hapart : ms'.Pairwise Block.Apart) (hne : ∀ b ∈ ms', 0 < b.size)
    (hcov : ∀ x, Covered ms' x ↔ Covered ms x) : Tiles (ks ++ ms') lo hi where
  apart := by
    obtain ⟨hks, -, hcross⟩ := List.pairwise_append.1 t.apart
    refine List.pairwise_append.2 ⟨hks, hapart, fun k hk c hc => ?_⟩
    exact Block.Apart.of_covered (fun m hm => hcross k hk m hm)
      fun x hx => (hcov x).1 ⟨c, hc, hx⟩
  nonempty b hb := by
    rcases List.mem_append.1 hb with hb | hb
    · exact t.nonempty b (List.mem_append_left _ hb)
    · exact hne b hb
  cover x := by
    rw [covered_append, hcov x, ← covered_append]
    exact t.cover x

theorem replace {ks ps : List Block} {b : Block} (t : Tiles (ks ++ [b]) lo hi)
    (hp : Tiles ps b.addr (b.addr + b.size)) : Tiles (ks ++ ps) lo hi :=
  t.swap hp.apart hp.nonempty fun x => by
    rw [hp.cover x]
    simp [Block.Covers]

end Tiles

/-! ## Merging neighbours -/

namespace Heap

theorem covered_coalesce (bs : List Block) (x : Nat) : Covered (coalesce bs) x ↔ Covered bs x := by
  fun_induction coalesce bs with
  | case1 a b rest hab ih =>
      rw [ih, covered_cons, Block.covers_merge (by simpa using hab), covered_cons, covered_cons,
        or_assoc]
  | case2 a b rest _ ih => rw [covered_cons, ih, covered_cons a]
  | case3 => exact Iff.rfl

theorem nonempty_coalesce {bs : List Block} (hne : ∀ b ∈ bs, 0 < b.size) :
    ∀ b ∈ coalesce bs, 0 < b.size := by
  fun_induction coalesce bs with
  | case1 a b rest _ ih =>
      refine ih fun c hc => ?_
      rcases List.mem_cons.1 hc with rfl | hc
      · have := hne a (by simp)
        simp only
        omega
      · exact hne c (by simp [hc])
  | case2 a b rest _ ih =>
      intro c hc
      rcases List.mem_cons.1 hc with rfl | hc
      · exact hne c (by simp)
      · exact ih (fun d hd => hne d (List.mem_cons_of_mem _ hd)) c hc
  | case3 => exact hne

theorem apart_coalesce {bs : List Block} (hapart : bs.Pairwise Block.Apart) :
    (coalesce bs).Pairwise Block.Apart := by
  fun_induction coalesce bs with
  | case1 a b rest hab ih =>
      obtain ⟨ha, hbrest⟩ := List.pairwise_cons.1 hapart
      obtain ⟨hb, hrest⟩ := List.pairwise_cons.1 hbrest
      refine ih (List.pairwise_cons.2 ⟨fun c hc x hx hcx => ?_, hrest⟩)
      rcases (Block.covers_merge (by simpa using hab) x).1 hx with hax | hbx
      · exact ha c (by simp [hc]) x hax hcx
      · exact hb c hc x hbx hcx
  | case2 a b rest _ ih =>
      obtain ⟨ha, hrest⟩ := List.pairwise_cons.1 hapart
      refine List.pairwise_cons.2 ⟨fun c hc => ?_, ih hrest⟩
      exact Block.Apart.of_covered ha fun x hx => (covered_coalesce _ x).1 ⟨c, hc, hx⟩
  | case3 => exact hapart

end Heap

end Introspection.Host
