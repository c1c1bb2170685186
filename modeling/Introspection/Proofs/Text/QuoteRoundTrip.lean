import Mathlib
import Introspection.Proofs.Text.Utf8RoundTrip
import Introspection.Proofs.Binding.Flags
import Introspection.Proofs.Marshal.ByteAccess
import Introspection.Text.Quote

/-!
# Reading back quoted text

`quoteBytes` writes each unit of a byte string on its own (`escapeUnit`): a printable character
as itself, the quote and the backslash escaped, a control by its one-letter or `\xHH` escape, any
other character as `\uHHHH` or `\UHHHHHHHH`, and a stray byte as `\xHH`. Reading a quoted prefix
takes one such piece per step and appends the bytes of the unit (`readsAs_escapeUnit`); since the units
spell the byte string (`units_spell`), `quotedPrefix?_quoteBytes` reads the quoted text back to
the byte string whatever follows the closing quote, and leaves what follows untouched. What any
successful read leaves is a suffix of its input (`quotedPrefix?_suffix`).
-/

namespace Introspection.Text.Quote

open Introspection.Text Utf8

/-! ## Hexadecimal fields -/

theorem length_digitsOf_le {n k : Nat} (hk : 0 < k) (h : n < 16 ^ k) :
    (Hex.digitsOf n).length ≤ k := by
  induction n using Nat.strong_induction_on generalizing k with
  | _ n ih =>
    rw [Hex.digitsOf]
    split
    · exact hk
    · rename_i hn
      obtain ⟨k, rfl⟩ : ∃ k', k = k' + 1 := ⟨k - 1, by omega⟩
      have hk' : 0 < k := by
        rcases Nat.eq_zero_or_pos k with rfl | hk'
        · simp at h; omega
        · exact hk'
      have hdiv : n / 16 < 16 ^ k := by rw [pow_succ] at h; omega
      simpa using ih (n / 16) (by omega) hk' hdiv

theorem natOfChars?_zeros (m : Nat) (cs : List Char) :
    Hex.natOfChars? (List.replicate m '0' ++ cs) = Hex.natOfChars? cs := by
  have hzeros : ∀ m, (List.replicate m '0').foldlM
      (fun acc c => (Hex.value? c).map fun v => acc * 16 + v) 0 = some 0 := by
    intro m
    induction m with
    | zero => rfl
    | succ m ih => simpa [List.replicate_succ, Hex.value?] using ih
  unfold Hex.natOfChars?
  rw [List.foldlM_append, hzeros]
  rfl

theorem length_hexPadded {n k : Nat} (hk : 0 < k) (h : n < 16 ^ k) :
    (hexPadded k n).length = k := by
  have := length_digitsOf_le hk h
  simp only [hexPadded, List.length_append, List.length_replicate]
  omega

theorem takeHex_hexPadded {n k : Nat} (hk : 0 < k) (h : n < 16 ^ k) (more : List Char) :
    takeHex k (hexPadded k n ++ more) = some (n, more) := by
  have hlen := length_hexPadded hk h
  have hval : Hex.natOfChars? (hexPadded k n) = some n := by
    have hdigits := Hex.natOfChars?_ofNat n
    rw [Hex.ofNat, String.toList_ofList] at hdigits
    rw [hexPadded, natOfChars?_zeros, hdigits]
  unfold takeHex
  rw [if_neg (by simp [hlen]), List.take_left' hlen, List.drop_left' hlen, hval]
  rfl

/-! ## One unit at a time -/

/-- The text one unit of a byte string is quoted as. -/
def escapeUnit : Piece → List Char
  | .point c _ => escapePoint c
  | .invalid b => '\\' :: 'x' :: hexPadded 2 b.toNat

theorem toList_quoteBytes (s : ByteArray) :
    (quoteBytes s).toList = '"' :: (units s).flatMap escapeUnit ++ ['"'] := by
  rw [quoteBytes, String.toList_ofList]
  rfl

theorem toList_singleton_toUTF8 (c : Char) :
    (String.singleton c).toUTF8.toList = String.utf8EncodeChar c := by
  rw [Host.toList_eq_data_toList, toUTF8_eq_flatMap, List.toList_data_toByteArray]
  simp

theorem encodePoint_eq (v : Nat) : encodePoint v = String.utf8EncodeChar (Char.ofNat v) :=
  toList_singleton_toUTF8 _

theorem encodeChar_ascii_byte {v : Nat} (hv : v < 0x80) :
    String.utf8EncodeChar (Char.ofNat v) = [v.toUInt8] := by
  have hc : (Char.ofNat v).toNat = v := toNat_charOf (by omega)
  rw [encodeChar_of_le_7f (by omega), hc]

theorem valid_of_toNat_charOf {c : Nat} (hc : (Char.ofNat c).toNat = c) :
    c < 0xd800 ∨ (0xdfff < c ∧ c < 0x110000) := by
  by_cases h : c.isValidChar
  · exact h
  ·
    rw [Char.ofNat, dif_neg h] at hc
    simp at hc
    omega

/-- One step of the reader takes the piece `e` of quoted text and appends the bytes `b`,
whatever follows the piece. -/
def ReadsAs (e : List Char) (b : List UInt8) : Prop :=
  ∀ more acc used fuel, quotedPrefix?.go (e ++ more) acc used (fuel + 1) =
    quotedPrefix?.go more (acc ++ b) (used + e.length) fuel

theorem readsAs_char {c : Char} (h₁ : c ≠ '"') (h₂ : c ≠ '\n') (h₃ : c ≠ '\\') :
    ReadsAs [c] (String.utf8EncodeChar c) := by
  intro more acc used fuel
  rw [List.singleton_append, quotedPrefix?.go.eq_def]
  simp [h₁, h₂, h₃, Host.toList_eq_data_toList, List.utf8Encode_singleton]

theorem readsAs_hex2 {v : Nat} (hv : v < 0x100) :
    ReadsAs ('\\' :: 'x' :: hexPadded 2 v) [v.toUInt8] := by
  intro more acc used fuel
  rw [List.cons_append, List.cons_append, quotedPrefix?.go.eq_def]
  simp [takeHex_hexPadded (by decide : 0 < 2) (by omega : v < 16 ^ 2),
    length_hexPadded (by decide : 0 < 2) (by omega : v < 16 ^ 2)]

theorem readsAs_hex4 {v : Nat} (hv : v < 0x10000) (hsur : v < 0xd800 ∨ 0xdfff < v) :
    ReadsAs ('\\' :: 'u' :: hexPadded 4 v) (String.utf8EncodeChar (Char.ofNat v)) := by
  intro more acc used fuel
  rw [List.cons_append, List.cons_append, quotedPrefix?.go.eq_def]
  have hs : ¬ (0xd800 ≤ v ∧ v ≤ 0xdfff) := by omega
  simp [takeHex_hexPadded (by decide : 0 < 4) (by omega : v < 16 ^ 4), hs, encodePoint_eq,
    length_hexPadded (by decide : 0 < 4) (by omega : v < 16 ^ 4)]

theorem readsAs_hex8 {v : Nat} (hv : v < 0x110000) (hsur : v < 0xd800 ∨ 0xdfff < v) :
    ReadsAs ('\\' :: 'U' :: hexPadded 8 v) (String.utf8EncodeChar (Char.ofNat v)) := by
  intro more acc used fuel
  rw [List.cons_append, List.cons_append, quotedPrefix?.go.eq_def]
  have hs : ¬ (0x10ffff < v ∨ 0xd800 ≤ v ∧ v ≤ 0xdfff) := by omega
  simp [takeHex_hexPadded (by decide : 0 < 8) (by omega : v < 16 ^ 8), hs, encodePoint_eq,
    length_hexPadded (by decide : 0 < 8) (by omega : v < 16 ^ 8)]

theorem readsAs_escapePoint {c : Nat} (hc : (Char.ofNat c).toNat = c) :
    ReadsAs (escapePoint c) (String.utf8EncodeChar (Char.ofNat c)) := by
  have hvalid := valid_of_toNat_charOf hc
  unfold escapePoint
  by_cases hq : c = 0x22
  · subst hq
    intro more acc used fuel
    rfl
  rw [if_neg (by simpa using hq)]
  by_cases hb : c = 0x5c
  · subst hb
    intro more acc used fuel
    rfl
  rw [if_neg (by simpa using hb)]
  by_cases hp : isPrintable c
  ·
    have hne : ∀ d : Char, d.toNat ≠ c → Char.ofNat c ≠ d := fun d hd e => hd (by rw [← e, hc])
    rw [if_pos hp]
    refine readsAs_char (hne _ ?_) (hne _ ?_) (hne _ ?_)
    · simpa using Ne.symm hq
    · rintro rfl
      exact absurd hp (by decide)
    · simpa using Ne.symm hb
  rw [if_neg hp]
  by_cases hl : c = 7 ∨ c = 8 ∨ c = 12 ∨ c = 10 ∨ c = 13 ∨ c = 9 ∨ c = 11
  · rcases hl with rfl | rfl | rfl | rfl | rfl | rfl | rfl <;> intro more acc used fuel <;> rfl
  rw [if_neg (by simp; omega), if_neg (by simp; omega), if_neg (by simp; omega),
    if_neg (by simp; omega), if_neg (by simp; omega), if_neg (by simp; omega),
    if_neg (by simp; omega)]
  split_ifs with hx hu
  ·
    have hlt : c < 0x80 := by simp at hx; omega
    rw [encodeChar_ascii_byte hlt]
    exact readsAs_hex2 (by omega)
  · exact readsAs_hex4 hu (by omega)
  · exact readsAs_hex8 (by omega) (by omega)

theorem readsAs_escapeUnit {u : Piece} (hu : ∀ c w, u = .point c w → (Char.ofNat c).toNat = c) :
    ReadsAs (escapeUnit u) u.bytes := by
  cases u with
  | point c w => exact readsAs_escapePoint (hu c w rfl)
  | invalid b =>
    have hb : [b.toNat.toUInt8] = [b] := by simp
    rw [escapeUnit, Piece.bytes, ← hb]
    exact readsAs_hex2 b.toNat_lt

theorem ReadsAs.ne_nil {e : List Char} {b : List UInt8} (h : ReadsAs e b) : e ≠ [] := by
  rintro rfl
  have hstep := h ['"'] [] 0 0
  rw [List.nil_append, quotedPrefix?.go.eq_def] at hstep
  simp [quotedPrefix?.go] at hstep

/-! ## The whole quoted text -/

theorem one_le_length_escapeUnit {u : Piece}
    (hu : ∀ c w, u = .point c w → (Char.ofNat c).toNat = c) : 1 ≤ (escapeUnit u).length :=
  List.length_pos_iff.2 (readsAs_escapeUnit hu).ne_nil

theorem go_escaped (tail : List Char) :
    ∀ (us : List Piece) (acc : List UInt8) (used fuel : Nat),
      (∀ c w, Piece.point c w ∈ us → (Char.ofNat c).toNat = c) → us.length < fuel →
      quotedPrefix?.go (us.flatMap escapeUnit ++ '"' :: tail) acc used fuel =
        some (acc ++ us.flatMap Piece.bytes, used + (us.flatMap escapeUnit).length + 1, tail)
  | [], acc, used, fuel + 1, _, _ => by
    rw [List.flatMap_nil, List.nil_append, quotedPrefix?.go.eq_def]
    simp
  | u :: us, acc, used, fuel + 1, hus, hlen => by
    have hu : ReadsAs (escapeUnit u) u.bytes :=
      readsAs_escapeUnit fun c w e => hus c w (e ▸ List.mem_cons_self)
    rw [List.flatMap_cons, List.append_assoc, hu,
      go_escaped tail us _ _ fuel (fun c w h => hus c w (List.mem_cons_of_mem u h))
        (by simpa using hlen)]
    simp [List.flatMap_cons, Nat.add_assoc]

theorem quotedPrefix?_quoteBytes (s : ByteArray) (tail : List Char) :
    quotedPrefix? ((quoteBytes s).toList ++ tail) =
      some (s.data.toList, (quoteBytes s).length, tail) := by
  have hsteps : (units s).length ≤ ((units s).flatMap escapeUnit).length := by
    rw [List.length_flatMap, ← List.length_map (f := fun u => (escapeUnit u).length)]
    refine List.length_le_sum_of_one_le _ fun n hn => ?_
    obtain ⟨u, hu, rfl⟩ := List.mem_map.1 hn
    exact one_le_length_escapeUnit fun c w e => units_valid s (e ▸ hu)
  rw [toList_quoteBytes, List.cons_append, List.cons_append, List.append_assoc, List.singleton_append,
    quotedPrefix?, go_escaped tail (units s) [] 1 _ (fun c w h => units_valid s h)
      (by simp only [List.length_append, List.length_cons]; omega), List.nil_append, units_spell,
    ← String.length_toList, toList_quoteBytes]
  simp only [List.length_cons, List.length_append, List.length_nil, Option.some.injEq,
    Prod.mk.injEq, true_and, and_true]
  omega

theorem takeHex_suffix {n : Nat} {cs after : List Char} {v : Nat}
    (h : takeHex n cs = some (v, after)) : after <:+ cs := by
  unfold takeHex at h
  split at h
  · cases h
  · obtain ⟨_, _, h⟩ := Option.map_eq_some_iff.1 h
    cases h
    exact List.drop_suffix n cs

theorem go_suffix (cs : List Char) (acc : List UInt8) (used fuel : Nat) :
    ∀ {b n r}, quotedPrefix?.go cs acc used fuel = some (b, n, r) → r <:+ cs := by
  fun_induction quotedPrefix?.go cs acc used fuel <;> intro b n r h
  case case3 => cases h; exact List.suffix_cons _ _
  any_goals cases h
  case case5 => rename_i ih; exact (ih h).trans (List.suffix_cons _ _)
  case case7 | case8 | case9 | case10 | case11 | case12 | case13 | case14 | case15 =>
    rename_i ih; exact (ih _ h).trans (List.suffix_append [_, _] _)
  case case20 => rename_i ih; exact (ih h).trans (List.suffix_append [_, _, _, _] _)
  all_goals
    rename_i ih
    obtain ⟨⟨v, after⟩, ht, h⟩ := Option.bind_eq_some_iff.1 h
    refine (@ih v after b n r ?_).trans ((takeHex_suffix ht).trans (List.suffix_append [_, _] _))
  case case16 => exact h
  all_goals
    dsimp only at h
    split at h
    · cases h
    · exact h

theorem quotedPrefix?_suffix {cs r : List Char} {b : List UInt8} {n : Nat}
    (h : quotedPrefix? cs = some (b, n, r)) : r <:+ cs := by
  unfold quotedPrefix? at h
  split at h
  · exact (go_suffix _ _ _ _ h).trans (List.suffix_cons _ _)
  · cases h

end Introspection.Text.Quote
