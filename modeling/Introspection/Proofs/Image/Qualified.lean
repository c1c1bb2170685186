import Introspection.Typelib.Emit
import Introspection.Proofs.Image.Bytes

/-!
# Qualified names

A reference `Namespace.Name` is split at its last dot, found byte by byte in the name's UTF-8
encoding. A dot is an ASCII byte, and an ASCII byte in an encoding only ever stands for itself,
so the split falls between characters: the parts are the text before the last dot and the text
after it, and the second holds no dot. Two keys `ns ++ "." ++ n` with dot-free names are then
equal only when their parts are.
-/

namespace Introspection.Typelib.Emit

open Text.Utf8

private theorem foldl_last (p : Nat → Bool) (n : Nat) :
    ((List.range n).foldl (fun acc i => if p i then some i else acc) none = none →
        ∀ j < n, p j = false) ∧
      ∀ i, (List.range n).foldl (fun acc i => if p i then some i else acc) none = some i →
        i < n ∧ p i = true ∧ ∀ j, i < j → j < n → p j = false := by
  induction n with
  | zero => exact ⟨fun _ j hj => absurd hj (Nat.not_lt_zero j), fun _ h => by simp at h⟩
  | succ n ih =>
      rw [List.range_succ, List.foldl_append, List.foldl_cons, List.foldl_nil]
      cases hp : p n with
      | true =>
          refine ⟨fun h => by simp at h, fun i h => ?_⟩
          simp only [if_true, Option.some.injEq] at h
          subst h
          exact ⟨by omega, hp, fun j h₁ h₂ => by omega⟩
      | false =>
          simp only [Bool.false_eq_true, if_false]
          refine ⟨fun h j hj => ?_, fun i h => ?_⟩
          · rcases Nat.lt_succ_iff_lt_or_eq.1 hj with hj | rfl
            · exact ih.1 h j hj
            · exact hp
          · obtain ⟨hi, hpi, hlast⟩ := ih.2 i h
            refine ⟨by omega, hpi, fun j hij hj => ?_⟩
            rcases Nat.lt_succ_iff_lt_or_eq.1 hj with hj | rfl
            · exact hlast j hij hj
            · exact hp

theorem lastDot?_none {s : String} (h : lastDot? s = none) :
    ∀ j < s.toUTF8.size, byteAt s.toUTF8 j ≠ 46 := by
  intro j hj
  have := (foldl_last (fun i => byteAt s.toUTF8 i == 46) s.toUTF8.size).1 h j hj
  simpa using this

theorem lastDot?_some {s : String} {i : Nat} (h : lastDot? s = some i) :
    i < s.toUTF8.size ∧ byteAt s.toUTF8 i = 46 ∧
      ∀ j, i < j → j < s.toUTF8.size → byteAt s.toUTF8 j ≠ 46 := by
  obtain ⟨hi, hpi, hlast⟩ := (foldl_last (fun i => byteAt s.toUTF8 i == 46) s.toUTF8.size).2 i h
  exact ⟨hi, by simpa using hpi, fun j hij hj => by simpa using hlast j hij hj⟩

theorem flatMap_encode_ascii {cs : List Char} {i : Nat}
    (hi : i < (cs.flatMap String.utf8EncodeChar).length)
    (hlt : ((cs.flatMap String.utf8EncodeChar)[i]).toNat < 0x80) :
    ∃ pre c post, cs = pre ++ c :: post ∧ (pre.flatMap String.utf8EncodeChar).length = i ∧
      c.toNat = ((cs.flatMap String.utf8EncodeChar)[i]).toNat := by
  induction cs generalizing i with
  | nil => simp at hi
  | cons c cs ih =>
      simp only [List.flatMap_cons] at hi hlt ⊢
      by_cases hc : i < (String.utf8EncodeChar c).length
      ·
        rw [List.getElem_append_left hc] at hlt ⊢
        have hcb := encodeChar_ascii (List.getElem_mem hc) hlt
        have hone : (String.utf8EncodeChar c).length = 1 := by
          rw [encodeChar_of_le_7f (by omega)]
          rfl
        exact ⟨[], c, cs, rfl, by simp; omega, hcb⟩
      · have hi' : i - (String.utf8EncodeChar c).length < (cs.flatMap String.utf8EncodeChar).length := by
          simp only [List.length_append] at hi
          omega
        rw [List.getElem_append_right (by omega)] at hlt ⊢
        obtain ⟨pre, d, post, rfl, hlen, hd⟩ := ih hi' hlt
        refine ⟨c :: pre, d, post, rfl, ?_, hd⟩
        simp only [List.flatMap_cons, List.length_append]
        omega

theorem flatMap_encode_mem {pre post : List Char} {c : Char} :
    ((pre ++ c :: post).flatMap String.utf8EncodeChar) =
      pre.flatMap String.utf8EncodeChar ++ String.utf8EncodeChar c ++
        post.flatMap String.utf8EncodeChar := by
  simp [List.flatMap_append]

theorem encodeChar_dot : String.utf8EncodeChar '.' = [46] := by decide

theorem dot_not_mem_of_bytes {s : String}
    (h : ∀ j < s.toUTF8.size, byteAt s.toUTF8 j ≠ 46) : '.' ∉ s.toList := by
  intro hmem
  obtain ⟨pre, post, hs⟩ := List.append_of_mem hmem
  have hbytes : s.toUTF8 = (pre.flatMap String.utf8EncodeChar ++ [46] ++
      post.flatMap String.utf8EncodeChar).toByteArray := by
    rw [toUTF8_eq_flatMap, hs, flatMap_encode_mem, encodeChar_dot]
  have hat : BytesAt s.toUTF8 (pre.flatMap String.utf8EncodeChar).length [46] := by
    rw [hbytes]
    have := bytesAt_append_toByteArray ByteArray.empty
      (pre.flatMap String.utf8EncodeChar ++ [46] ++ post.flatMap String.utf8EncodeChar)
    rw [ByteArray.empty_append] at this
    simpa using (BytesAt.append_iff.1 (BytesAt.append_iff.1 this).1).2
  exact h (pre.flatMap String.utf8EncodeChar).length
    (by have := hat.1; simp only [List.length_singleton] at this; omega)
    (by simpa using hat.2 0 (by simp))

theorem splitQualified_some {name ns n : String} (h : splitQualified name = some (ns, n)) :
    name.toList = ns.toList ++ '.' :: n.toList ∧ '.' ∉ n.toList := by
  unfold splitQualified at h
  obtain ⟨i, hi, hpair⟩ := Option.map_eq_some_iff.1 h
  obtain ⟨hlt, hdot, hlast⟩ := lastDot?_some hi
  have hsize : name.toUTF8.size = (name.toList.flatMap String.utf8EncodeChar).length := by
    rw [toUTF8_eq_flatMap]; simp
  have hi' : i < (name.toList.flatMap String.utf8EncodeChar).length := by omega
  have hget : ((name.toList.flatMap String.utf8EncodeChar)[i]).toNat = 46 := by
    rw [← hdot, byteAt_eq, toUTF8_eq_flatMap]
    simp [List.getD_eq_getElem?_getD, List.getElem?_eq_getElem hi']
  obtain ⟨pre, c, post, hcs, hlen, hc⟩ := flatMap_encode_ascii hi' (by rw [hget]; decide)
  rw [hget] at hc
  have hcdot : c = '.' := Char.toNat_inj.1 (by rw [hc]; rfl)
  subst hcdot
  have hall : BytesAt name.toUTF8 0 (pre.flatMap String.utf8EncodeChar ++ [46] ++
      post.flatMap String.utf8EncodeChar) := by
    have := bytesAt_append_toByteArray ByteArray.empty
      (pre.flatMap String.utf8EncodeChar ++ [46] ++ post.flatMap String.utf8EncodeChar)
    rw [ByteArray.empty_append] at this
    rw [toUTF8_eq_flatMap, hcs, flatMap_encode_mem, encodeChar_dot]
    simpa using this
  have hsplit := BytesAt.append_iff.1 hall
  have hpre := (BytesAt.append_iff.1 hsplit.1).1
  have hpost := hsplit.2
  have hpre' := hpre.extract_eq
  have hpost' := hpost.extract_eq
  simp only [Nat.zero_add, List.length_append, List.length_singleton] at hpre' hpost'
  have hend : name.toUTF8.size = (pre.flatMap String.utf8EncodeChar).length + 1 +
      (post.flatMap String.utf8EncodeChar).length := by
    rw [hsize, hcs, flatMap_encode_mem, encodeChar_dot]
    simp only [List.length_append, List.length_singleton]
  simp only [Prod.mk.injEq] at hpair
  obtain ⟨rfl, rfl⟩ := hpair
  rw [← hlen, hpre', hend, hpost']
  have hofList (l : List Char) : lossy (l.flatMap String.utf8EncodeChar).toByteArray = String.ofList l := by
    have := lossy_toUTF8 (String.ofList l)
    rwa [toUTF8_eq_flatMap, String.toList_ofList] at this
  rw [hofList, hofList, String.toList_ofList, String.toList_ofList]
  refine ⟨hcs, fun hmem => ?_⟩
  obtain ⟨p₁, p₂, hp⟩ := List.append_of_mem hmem
  have hat : BytesAt name.toUTF8 ((pre.flatMap String.utf8EncodeChar).length + 1 +
      (p₁.flatMap String.utf8EncodeChar).length) [46] := by
    rw [hp, flatMap_encode_mem, encodeChar_dot] at hpost
    have := (BytesAt.append_iff.1 (BytesAt.append_iff.1 hpost).1).2
    simpa only [List.length_append, List.length_singleton, Nat.add_assoc, Nat.zero_add] using this
  refine hlast ((pre.flatMap String.utf8EncodeChar).length + 1 +
      (p₁.flatMap String.utf8EncodeChar).length) (by omega)
    (by have := hat.1; simp only [List.length_singleton] at this; omega) ?_
  simpa using hat.2 0 (by simp)

theorem splitQualified_none {name : String} (h : splitQualified name = none) :
    '.' ∉ name.toList := by
  unfold splitQualified at h
  exact dot_not_mem_of_bytes (lastDot?_none (Option.map_eq_none_iff.1 h))

theorem key_inj {a b c d : String} (hb : '.' ∉ b.toList) (hd : '.' ∉ d.toList)
    (h : a ++ "." ++ b = c ++ "." ++ d) : a = c ∧ b = d := by
  have hl := congrArg String.toList h
  simp only [String.toList_append] at hl
  have hl' : a.toList ++ '.' :: b.toList = c.toList ++ '.' :: d.toList := by simpa using hl
  rcases List.append_eq_append_iff.1 hl' with ⟨a', hc, hrest⟩ | ⟨c', ha, hrest⟩
  · cases a' with
    | nil =>
        simp only [List.nil_append, List.cons.injEq, true_and] at hrest
        simp only [List.append_nil] at hc
        exact ⟨String.toList_inj.1 hc.symm, String.toList_inj.1 hrest⟩
    | cons x a' =>
        simp only [List.cons_append, List.cons.injEq] at hrest
        exact absurd (hrest.2 ▸ List.mem_append_right a' (List.mem_cons_self)) hb
  · cases c' with
    | nil =>
        simp only [List.nil_append, List.cons.injEq, true_and] at hrest
        simp only [List.append_nil] at ha
        exact ⟨String.toList_inj.1 ha, String.toList_inj.1 hrest.symm⟩
    | cons x c' =>
        simp only [List.cons_append, List.cons.injEq] at hrest
        exact absurd (hrest.2 ▸ List.mem_append_right c' (List.mem_cons_self)) hd

theorem dot_mem_key (a b : String) : '.' ∈ (a ++ "." ++ b).toList := by
  simp

end Introspection.Typelib.Emit
