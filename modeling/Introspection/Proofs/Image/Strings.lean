import Introspection.Proofs.Image.Body

/-!
# The string table

Strings are written once the blobs stand. The recorded slots are sorted by their string; each
string is appended with its terminator, unless it is the string written last, and every slot
naming it is patched with its offset. Afterwards each recorded slot holds the offset of its own
string, and every range that stood fixed before still does: the slots are the only places
patched, and the table only grows the image.
-/

namespace Introspection.Typelib

open Emitter

/-- The bytes of `s` and its terminator stand at `o`, past the header. -/
def CStrAt (buf : ByteArray) (o : Nat) (s : String) : Prop :=
  headerSize ≤ o ∧ BytesAt buf o (s.toList.flatMap String.utf8EncodeChar ++ [0])

/-- The four bytes at `pos` give the offset of `s`. -/
def StrAt (buf : ByteArray) (pos : Nat) (s : String) : Prop :=
  ∃ o, BytesAt buf pos (leBytes o 4) ∧ CStrAt buf o s

namespace Emit

theorem mem_slots_of_strs {e : Emitter} {p : String × Nat} (hp : p ∈ e.strs.toList) :
    p.2 ∈ e.slots := by
  rw [slots_eq]
  exact List.mem_append_left _ (List.mem_map_of_mem hp)

theorem newString_run (s : String) (e : Emitter) (he : WF e) :
    WF ((newString s).run e).2 ∧ Extends e ((newString s).run e).2 ∧
      ((newString s).run e).1 = e.w.len ∧
      BytesAt ((newString s).run e).2.w.buf e.w.len
        (s.toList.flatMap String.utf8EncodeChar ++ [0]) ∧
      ∀ off bs, BytesAt e.w.buf off bs → BytesAt ((newString s).run e).2.w.buf off bs := by
  have hrun : (newString s).run e = (e.w.len, { e with w := e.w.cstring s }) := rfl
  have hbuf := Writer.buf_cstring e.w s
  obtain ⟨wf, ext⟩ := write_tame (·.cstring s) (fun w => ⟨_, Writer.buf_cstring w s⟩) e he
  rw [hrun]
  refine ⟨wf, ext, rfl, ?_, fun off bs h => ?_⟩
  · rw [hbuf, Writer.len_eq]
    exact bytesAt_append_toByteArray _ _
  · rw [hbuf]
    exact h.append _

theorem stringOffset_run (s : String) (cur : Option (String × Nat)) (base : Nat) (e : Emitter)
    (he : WF e) (hbase : base ≤ e.w.len) (hhead : headerSize ≤ base)
    (hcur : ∀ t o, cur = some (t, o) → base ≤ o ∧ CStrAt e.w.buf o t) :
    WF ((stringOffset s cur).run e).2 ∧ Extends e ((stringOffset s cur).run e).2 ∧
      base ≤ ((stringOffset s cur).run e).1 ∧
      CStrAt ((stringOffset s cur).run e).2.w.buf ((stringOffset s cur).run e).1 s ∧
      ∀ off bs, BytesAt e.w.buf off bs → BytesAt ((stringOffset s cur).run e).2.w.buf off bs := by
  have hnew : WF ((newString s).run e).2 ∧ Extends e ((newString s).run e).2 ∧
      base ≤ ((newString s).run e).1 ∧
      CStrAt ((newString s).run e).2.w.buf ((newString s).run e).1 s ∧
      ∀ off bs, BytesAt e.w.buf off bs → BytesAt ((newString s).run e).2.w.buf off bs := by
    obtain ⟨wf, ext, hoff, hbytes, hframe⟩ := newString_run s e he
    rw [hoff]
    exact ⟨wf, ext, hbase, ⟨Nat.le_trans hhead hbase, hbytes⟩, hframe⟩
  cases cur with
  | none => exact hnew
  | some c =>
      obtain ⟨t, o⟩ := c
      rw [stringOffset]
      split
      ·
        rename_i heq
        obtain ⟨hle, hstr⟩ := hcur t o rfl
        rw [beq_iff_eq.1 heq] at hstr
        exact ⟨he, Extends.refl e, hle, hstr, fun _ _ h => h⟩
      · exact hnew

theorem flushGo_run (base : Nat) (rest : List (String × Nat)) (cur : Option (String × Nat))
    (e : Emitter) (he : WF e) (hbase : base ≤ e.w.len) (hhead : headerSize ≤ base)
    (hrec : ∀ p ∈ rest, p ∈ e.strs.toList) (hslots : ∀ p ∈ rest, p.2 + 4 ≤ base)
    (hapart : (rest.map (·.2)).Pairwise Apart)
    (hcur : ∀ t o, cur = some (t, o) → base ≤ o ∧ CStrAt e.w.buf o t) :
    WF ((flushStrings.go rest cur).run e).2 ∧ Extends e ((flushStrings.go rest cur).run e).2 ∧
      (∀ off bs, BytesAt e.w.buf off bs → (∀ p ∈ rest, p.2 + 4 ≤ off ∨ off + bs.length ≤ p.2) →
        BytesAt ((flushStrings.go rest cur).run e).2.w.buf off bs) ∧
      ∀ p ∈ rest, StrAt ((flushStrings.go rest cur).run e).2.w.buf p.2 p.1 := by
  induction rest generalizing cur e with
  | nil => exact ⟨he, Extends.refl e, fun _ _ h _ => h, fun p hp => absurd hp List.not_mem_nil⟩
  | cons p rest ih =>
      obtain ⟨str, pos⟩ := p
      have hpos : pos + 4 ≤ base := hslots _ List.mem_cons_self
      obtain ⟨wf₁, ext₁, hoff, hstr₁, hframe₁⟩ :=
        stringOffset_run str cur base e he hbase hhead hcur
      generalize hr : (stringOffset str cur).run e = r at wf₁ ext₁ hoff hstr₁ hframe₁
      obtain ⟨off, e₁⟩ := r
      have hlen₁ : base ≤ e₁.w.len := Nat.le_trans hbase ext₁.len
      have hmem : pos ∈ e₁.slots :=
        mem_slots_of_strs (ext₁.strs.subset (hrec _ List.mem_cons_self))
      obtain ⟨wf₂, ext₂⟩ := extends_patch (Extends.refl e₁) wf₁ hmem off
      have hslot₂ : BytesAt (e₁.w.patch32 pos off).buf pos (leBytes off 4) :=
        bytesAt_patch_self _ off (by simp at hlen₁; omega)
      have hstr₂ : CStrAt (e₁.w.patch32 pos off).buf off str :=
        ⟨hstr₁.1, hstr₁.2.patch off (.inl (by omega))⟩
      have hapart' := List.pairwise_cons.1 hapart
      obtain ⟨wf₃, ext₃, hframe₃, hrest₃⟩ := ih (some (str, off)) _ wf₂
        (by simp only [Writer.len_eq, Writer.patch32, size_patch] at hlen₁ ⊢; exact hlen₁)
        (fun q hq => (ext₁.trans ext₂).strs.subset (hrec q (List.mem_cons_of_mem _ hq)))
        (fun q hq => hslots q (List.mem_cons_of_mem _ hq)) hapart'.2
        (fun t o h => by cases h; exact ⟨hoff, hstr₂⟩)
      rw [flushStrings.go, Tame.run_bind, hr, Tame.run_bind, run_write]
      have hclear : ∀ q ∈ rest, q.2 + 4 ≤ pos ∨ pos + (leBytes off 4).length ≤ q.2 := by
        intro q hq
        rw [leBytes_length]
        rcases hapart'.1 q.2 (List.mem_map_of_mem hq) with h | h
        · exact .inr h
        · exact .inl h
      have hbelow : ∀ q ∈ rest, q.2 + 4 ≤ off ∨
          off + (str.toList.flatMap String.utf8EncodeChar ++ [0]).length ≤ q.2 :=
        fun q hq => .inl (Nat.le_trans (hslots q (List.mem_cons_of_mem _ hq)) hoff)
      refine ⟨wf₃, ext₁.trans (ext₂.trans ext₃), fun o bs hb hdisj => ?_, fun q hq => ?_⟩
      · have hdisj₀ := hdisj _ List.mem_cons_self
        exact hframe₃ o bs ((hframe₁ o bs hb).patch off hdisj₀)
          fun q hq => hdisj q (List.mem_cons_of_mem _ hq)
      · rcases List.mem_cons.1 hq with rfl | hq
        · exact ⟨off, hframe₃ _ _ hslot₂ hclear, hstr₂.1, hframe₃ _ _ hstr₂.2 hbelow⟩
        · exact hrest₃ q hq

theorem flushStrings_run (e : Emitter) (he : WF e) (hhead : headerSize ≤ e.w.len) :
    WF (flushStrings.run e).2 ∧ Extends e (flushStrings.run e).2 ∧
      ∀ p ∈ e.strs.toList, StrAt (flushStrings.run e).2.w.buf p.2 p.1 := by
  have hperm : (e.strs.toList.mergeSort fun a b => decide (a.1 ≤ b.1)).Perm e.strs.toList :=
    List.mergeSort_perm _ _
  have hapart : ((e.strs.toList.mergeSort fun a b => decide (a.1 ≤ b.1)).map (·.2)).Pairwise
      Apart := by
    have hstrs : (e.strs.toList.map (·.2)).Pairwise Apart :=
      he.apart.sublist (List.sublist_append_left _ _)
    exact ((hperm.map _).pairwise_iff fun h => h.symm).2 hstrs
  have hrun : flushStrings.run e =
      (flushStrings.go (e.strs.toList.mergeSort fun a b => decide (a.1 ≤ b.1)) none).run e := rfl
  rw [hrun]
  obtain ⟨wf, ext, -, hstr⟩ := flushGo_run e.w.len _ none e he (Nat.le_refl _) hhead
    (fun p hp => hperm.mem_iff.1 hp)
    (fun p hp => he.bound _ (mem_slots_of_strs (hperm.mem_iff.1 hp))) hapart
    (fun _ _ h => nomatch h)
  exact ⟨wf, ext, fun p hp => hstr p (hperm.mem_iff.2 hp)⟩

end Emit

end Introspection.Typelib
