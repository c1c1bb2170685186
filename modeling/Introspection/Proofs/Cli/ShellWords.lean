import Mathlib
import Introspection.Proofs.Text.QuoteRoundTrip
import Introspection.Cli.Arguments

/-!
# Splitting shell lines into words

The shell splits a line of bytes into words: trimmed of blank characters at both ends, a word
that does not start with a quote runs up to the next space or tab, and one that does is read as
quoted text with escapes; blanks between words are trimmed away. The line is read as its UTF-8
units, a byte that starts no sequence being a unit of its own that is not blank. A list of
words is written on a line by `joinWords`, separated by single spaces: a word that is not empty,
has no blank character and does not start with a quote as its own bytes, and any other word
quoted.

`splitWords_joinWords` says that splitting such a line gives the words back, whatever bytes they
hold, and that splitting any line fails only at a word that starts with a quote and has no
quoted prefix, the error naming the line from that word on. A line of words decodes word by
word, since the words are cut apart by spaces, which no sequence runs into
(`units_joinWords_cons_cons`). The proof then takes one word per step (`go_word`): the quoted
text of a word reads back as the word whatever follows it, and what follows a word is trimmed to
the units of the next words because neither end of a line of words is blank
(`joinWords_trimmed`).
-/

namespace Introspection.Cli

open Introspection.Text Utf8

/-! ## Trimming -/

/-- Neither end of a run of units is blank. -/
def Trimmed (us : List Piece) : Prop :=
  (∀ u ∈ us.head?, blankUnit u = false) ∧ ∀ u ∈ us.getLast?, blankUnit u = false

theorem dropWhile_blank_of_head {us : List Piece} (h : ∀ u ∈ us.head?, blankUnit u = false) :
    us.dropWhile blankUnit = us := by
  cases us with
  | nil => rfl
  | cons u us => exact List.dropWhile_cons_of_neg (by simpa using h u rfl)

theorem trimUnits_blanks_append {pre us : List Piece} (hpre : ∀ u ∈ pre, blankUnit u = true)
    (hus : Trimmed us) : trimUnits (pre ++ us) = us := by
  have hback : ∀ u ∈ us.reverse.head?, blankUnit u = false := by
    simpa [List.head?_reverse] using hus.2
  rw [trimUnits, List.dropWhile_append_of_pos hpre, dropWhile_blank_of_head hus.1,
    dropWhile_blank_of_head hback, List.reverse_reverse]

theorem trimUnits_within (us : List Piece) : trimUnits us <:+: us := by
  have hfront : us.dropWhile blankUnit <:+ us := List.dropWhile_suffix blankUnit
  have hback : ((us.dropWhile blankUnit).reverse.dropWhile blankUnit).reverse <+:
      us.dropWhile blankUnit := by
    rw [← List.reverse_suffix, List.reverse_reverse]
    exact List.dropWhile_suffix blankUnit
  exact hback.isInfix.trans hfront.isInfix

/-! ## Words on a line -/

/-- Whether a word goes on a shell line as it is: it is not empty, none of its characters is
blank, and it does not start with a quote. Any other word is quoted. -/
def writtenBare (w : ByteArray) : Bool :=
  match units w with
  | [] => false
  | u :: us => u != .point 0x22 1 && (u :: us).all fun v => !blankUnit v

/-- The bytes a word is written as on a shell line. -/
def wordText (w : ByteArray) : ByteArray :=
  if writtenBare w then w else (Quote.quoteBytes w).toUTF8

/-- A shell line of words: their bytes, separated by single spaces. -/
def joinWords (ws : List ByteArray) : ByteArray :=
  (List.intercalate [0x20] (ws.map fun w => (wordText w).data.toList)).toByteArray

theorem units_of_writtenBare {w : ByteArray} (h : writtenBare w = true) :
    ∃ u us, units w = u :: us ∧ u ≠ .point 0x22 1 ∧ ∀ v ∈ u :: us, blankUnit v = false := by
  unfold writtenBare at h
  split at h
  · cases h
  · rename_i u us hunits
    simp only [Bool.and_eq_true, bne_iff_ne, ne_eq, List.all_eq_true, Bool.not_eq_eq_eq_not,
      Bool.not_true] at h
    exact ⟨u, us, hunits, h.1, h.2⟩

/-- The units of a quoted word: the characters of its quoted text, between quotes. -/
theorem units_quoted (w : ByteArray) :
    units (Quote.quoteBytes w).toUTF8 =
      .point 0x22 1 :: (((units w).flatMap Quote.escapeUnit).map
        (fun c => .point c.toNat (String.utf8EncodeChar c).length) ++ [.point 0x22 1]) := by
  rw [units_toUTF8, Quote.toList_quoteBytes]
  simp only [List.cons_append, List.map_cons, List.map_append, List.map_nil]
  rfl

theorem wordText_trimmed (w : ByteArray) :
    units (wordText w) ≠ [] ∧ Trimmed (units (wordText w)) := by
  unfold wordText
  split
  · rename_i hb
    obtain ⟨u, us, hunits, -, hblank⟩ := units_of_writtenBare hb
    rw [hunits]
    refine ⟨List.cons_ne_nil u us, fun v hv => hblank v ?_, fun v hv => hblank v ?_⟩
    · simp_all
    · exact List.mem_of_getLast? hv
  · rw [units_quoted]
    refine ⟨by simp, fun v hv => ?_, fun v hv => ?_⟩
    · simp only [List.head?_cons, Option.mem_def, Option.some.injEq] at hv
      subst hv
      decide
    · rw [← List.cons_append, List.getLast?_concat] at hv
      simp only [Option.mem_def, Option.some.injEq] at hv
      subst hv
      decide

theorem units_joinWords_nil : units (joinWords []) = [] := units_empty

theorem units_joinWords_singleton (w : ByteArray) : units (joinWords [w]) = units (wordText w) := by
  rw [joinWords, List.map_singleton, List.intercalate_singleton, units_data_toByteArray]

/-- A line of words decodes word by word: the space after a word is a unit of its own. -/
theorem units_joinWords_cons_cons (w v : ByteArray) (ws : List ByteArray) :
    units (joinWords (w :: v :: ws)) =
      units (wordText w) ++ .point 0x20 1 :: units (joinWords (v :: ws)) := by
  rw [joinWords, List.map_cons, List.map_cons, List.intercalate_cons_cons, List.append_assoc,
    units_append (by simp), units_data_toByteArray, List.singleton_append,
    units_cons_ascii (by decide)]
  rfl

theorem joinWords_trimmed : ∀ ws : List ByteArray,
    ws.length ≤ (units (joinWords ws)).length ∧ Trimmed (units (joinWords ws))
  | [] => by simp [Trimmed, units_joinWords_nil]
  | [w] => by
    obtain ⟨hne, htrim⟩ := wordText_trimmed w
    rw [units_joinWords_singleton]
    exact ⟨List.length_pos_iff.2 hne, htrim⟩
  | w :: v :: ws => by
    obtain ⟨hne, hfront, -⟩ := wordText_trimmed w
    obtain ⟨hlen, -, hback⟩ := joinWords_trimmed (v :: ws)
    have hwlen := List.length_pos_iff.2 hne
    have hrest : 0 < (units (joinWords (v :: ws))).length := lt_of_lt_of_le (by simp) hlen
    rw [units_joinWords_cons_cons]
    refine ⟨by simp only [List.length_cons, List.length_append] at hlen ⊢; omega, ?_, ?_⟩
    · rwa [List.head?_append_of_ne_nil _ hne]
    · rw [← List.singleton_append, ← List.append_assoc,
        List.getLast?_append_of_ne_nil _ (List.ne_nil_of_length_pos hrest)]
      exact hback

/-- A line has no more units than bytes: each unit stands for at least one byte. -/
theorem length_units_le (s : ByteArray) : (units s).length ≤ s.size := by
  have hspell := congrArg List.length (units_spell s)
  rw [List.length_flatMap, Array.length_toList] at hspell
  rw [← ByteArray.size_data, ← hspell, ← List.length_map (f := fun u => u.bytes.length)]
  refine List.length_le_sum_of_one_le _ fun n hn => ?_
  obtain ⟨u, -, rfl⟩ := List.mem_map.1 hn
  cases u with
  | point c w => exact List.length_pos_iff.2 String.utf8EncodeChar_ne_nil
  | invalid b => exact Nat.le_refl 1

/-! ## Splitting a line -/

theorem go_nil (acc : List ByteArray) (fuel : Nat) : splitWords.go [] acc fuel = .ok acc := by
  cases fuel <;> rfl

/-- One word of a line is read back, and splitting goes on with what follows it trimmed. -/
theorem go_word (w : ByteArray) {after : List Piece} (hafter : ∀ u ∈ after.head?, u = .point 0x20 1)
    (acc : List ByteArray) (fuel : Nat) :
    splitWords.go (units (wordText w) ++ after) acc (fuel + 1) =
      splitWords.go (trimUnits after) (acc ++ [w]) fuel := by
  by_cases hb : writtenBare w = true
  · -- a bare word runs to the space after it, since none of its units is blank
    obtain ⟨u, us, hunits, hq, hblank⟩ := units_of_writtenBare hb
    have hword : (u :: us ++ after).takeWhile
        (fun v => v != .point 0x20 1 && v != .point 0x09 1) = u :: us := by
      rw [List.takeWhile_append_of_pos fun v hv => ?_]
      · cases after with
        | nil => simp
        | cons v rest =>
          rw [hafter v rfl]
          simp
      · have hv := hblank v hv
        have hs : v ≠ .point 0x20 1 := by rintro rfl; exact absurd hv (by decide)
        have ht : v ≠ .point 0x09 1 := by rintro rfl; exact absurd hv (by decide)
        simp [hs, ht]
    have hbytes : ((u :: us).flatMap Piece.bytes).toByteArray = w := by
      rw [← hunits, units_spell]
      ext1
      simp
    rw [wordText, if_pos hb, hunits, List.cons_append, splitWords.go.eq_3,
      if_pos (by simpa using hq)]
    simp only
    rw [← List.cons_append, hword, List.drop_left, hbytes]
  · -- a quoted word: its quoted prefix is the whole of its text
    have hchars : (units (wordText w) ++ after).map Piece.char =
        (Quote.quoteBytes w).toList ++ after.map Piece.char := by
      rw [wordText, if_neg hb, units_toUTF8, List.map_append, List.map_map]
      congr 1
      conv => rhs; rw [← List.map_id (Quote.quoteBytes w).toList]
      exact List.map_congr_left fun c _ => Char.ofNat_toNat c
    have hlen : (units (wordText w)).length = (Quote.quoteBytes w).length := by
      rw [wordText, if_neg hb, units_toUTF8, List.length_map, String.length_toList]
    obtain ⟨tl, htl⟩ : ∃ tl, units (wordText w) ++ after = .point 0x22 1 :: tl := by
      rw [wordText, if_neg hb, units_quoted]
      exact ⟨_, rfl⟩
    have hdrop : (units (wordText w) ++ after).drop (Quote.quoteBytes w).length = after := by
      rw [← hlen, List.drop_left]
    have hword : w.data.toList.toByteArray = w := by
      ext1
      simp
    rw [htl, splitWords.go.eq_3, if_neg (by simp), ← htl]
    simp only [hchars, Quote.quotedPrefix?_quoteBytes, hdrop, hword]

theorem go_joinWords : ∀ (ws : List ByteArray) (acc : List ByteArray) (fuel : Nat),
    ws.length ≤ fuel → splitWords.go (units (joinWords ws)) acc fuel = .ok (acc ++ ws)
  | [], acc, fuel, _ => by simp [units_joinWords_nil, go_nil]
  | [w], acc, fuel + 1, _ => by
    rw [units_joinWords_singleton, ← List.append_nil (units (wordText w)), go_word w (by simp)]
    simp [trimUnits, go_nil]
  | w :: v :: ws, acc, fuel + 1, hlen => by
    -- the space after the first word is trimmed away with nothing else
    have htrim : trimUnits (.point 0x20 1 :: units (joinWords (v :: ws))) =
        units (joinWords (v :: ws)) := by
      rw [← List.singleton_append, trimUnits_blanks_append (by decide)
        (joinWords_trimmed (v :: ws)).2]
    rw [units_joinWords_cons_cons, go_word w (by simp), htrim,
      go_joinWords (v :: ws) _ fuel (by simpa using hlen)]
    simp

theorem go_error {us : List Piece} {acc : List ByteArray} {fuel : Nat} {e : String}
    (h : splitWords.go us acc fuel = .error e) :
    ∃ rest, rest <:+: us ∧ rest.head? = some (.point 0x22 1) ∧
      Quote.quotedPrefix? (rest.map Piece.char) = none ∧
      e = "unterminated string: " ++ String.ofList (rest.map Piece.char) := by
  fun_induction splitWords.go us acc fuel
  case case1 | case2 => cases h
  case case3 u tail _ word ih =>
    obtain ⟨r, hr, hrest⟩ := ih h
    exact ⟨r, hr.trans ((trimUnits_within _).trans (List.drop_suffix _ _).isInfix), hrest⟩
  case case4 u tail hq bytes n rest hread ih =>
    rw [hread] at h
    obtain ⟨r, hr, hrest⟩ := ih h
    exact ⟨r, hr.trans ((trimUnits_within _).trans (List.drop_suffix _ _).isInfix), hrest⟩
  case case5 u tail hq hread =>
    rw [hread] at h
    cases h
    refine ⟨u :: tail, List.infix_refl _, ?_, hread, rfl⟩
    simpa using hq

/-- Splitting a line of words gives the words back, whatever their bytes; and splitting any
line fails only at a word that starts with a quote and has no quoted prefix, with the line from
that word on in the message. -/
theorem splitWords_joinWords :
    (∀ ws : List ByteArray, splitWords (joinWords ws) = .ok ws) ∧
    ∀ (line : ByteArray) (e : String), splitWords line = .error e →
      ∃ rest, rest <:+: units line ∧ rest.head? = some (.point 0x22 1) ∧
        Quote.quotedPrefix? (rest.map Piece.char) = none ∧
        e = "unterminated string: " ++ String.ofList (rest.map Piece.char) := by
  refine ⟨fun ws => ?_, fun line e h => ?_⟩
  · obtain ⟨hlen, htrimmed⟩ := joinWords_trimmed ws
    have htrim : trimUnits (units (joinWords ws)) = units (joinWords ws) :=
      @trimUnits_blanks_append [] _ (by simp) htrimmed
    have hfuel := length_units_le (joinWords ws)
    rw [splitWords, htrim, go_joinWords ws [] _ (by omega), List.nil_append]
  · obtain ⟨rest, hrest, hq⟩ := go_error h
    exact ⟨rest, hrest.trans (trimUnits_within _), hq⟩

/-- A word holding a byte that starts no UTF-8 sequence is written as its own bytes and comes
back from its line, next to an empty word, which is quoted. -/
theorem stray_byte_word_splits_back :
    writtenBare [0xff, 0x41].toByteArray = true ∧ writtenBare .empty = false ∧
      splitWords (joinWords [[0xff, 0x41].toByteArray, .empty]) =
        .ok [[0xff, 0x41].toByteArray, .empty] := by
  have hunits : units [0xff, 0x41].toByteArray = [.invalid 0xff, .point 0x41 1] := by
    have hbytes : ([0xff, 0x41] : List UInt8) = [0xff] ++ [0x41] := rfl
    have hstray : units [(0xff : UInt8)].toByteArray = [.invalid 0xff] := by
      rw [units, unitsFrom_of_none (s := [0xff].toByteArray) (i := 0) (by decide) (by decide),
        unitsFrom_of_le (s := [0xff].toByteArray) (i := 0 + 1) (by decide)]
      rfl
    rw [hbytes, units_append (b := [0x41]) (by simp), hstray, units_cons_ascii (b := []) (by decide),
      show ([] : List UInt8).toByteArray = .empty from rfl, units_empty]
    rfl
  have hempty : writtenBare .empty = false := by
    rw [writtenBare, units_empty]
  refine ⟨?_, hempty, splitWords_joinWords.1 _⟩
  rw [writtenBare, hunits]
  decide

end Introspection.Cli
