import Mathlib
import Introspection.Script.Modules

/-!
# Decomposing flags values

A flags value is split into named members by one pass over the members in declaration order: a
member is named when it is not zero, all its bits are set in the value and it adds a bit that the
members named before it leave uncovered. The pass tests the last condition on the bits still left,
which is the same test because the bits left are always the value's bits that no named member
covers (`RestOf`). `Decomposes` states the rule on covered bits; `flags_decomposition` shows the
pass follows it, that the named members and the rest split the value, what the text of a value is,
and that with distinct member names the text's names read back to the value.
-/

namespace Introspection.Text.Hex

theorem value?_digit : ∀ d < 16, value? (digit d) = some d := by decide

theorem natOfChars?_append_digit (cs : List Char) (d : Nat) (hd : d < 16) :
    natOfChars? (cs ++ [digit d]) = (natOfChars? cs).map (· * 16 + d) := by
  unfold natOfChars?
  rw [List.foldlM_append]
  cases cs.foldlM (fun acc c => (value? c).map fun v => acc * 16 + v) 0 with
  | none => rfl
  | some acc => simp [value?_digit d hd]

theorem natOfChars?_ofNat (n : Nat) : natOfChars? (ofNat n).toList = some n := by
  rw [ofNat, String.toList_ofList]
  induction n using Nat.strong_induction_on with
  | _ n ih =>
    rw [digitsOf]
    split
    · rename_i h
      simp [natOfChars?, value?_digit n h]
    · rename_i h
      rw [natOfChars?_append_digit _ _ (Nat.mod_lt n (by decide)), ih (n / 16) (by omega)]
      simp only [Option.map_some]
      congr 1
      omega

end Introspection.Text.Hex

namespace Introspection.Value

/-- Every bit set in `a` is set in `b`. -/
def BitsWithin (a b : Nat) : Prop := ∀ i, a.testBit i → b.testBit i

/-- The union of the 64-bit patterns of a list of values. -/
def orBits (xs : List Int) : Nat := xs.foldr (fun x acc => bits64 x ||| acc) 0

/-- `rest` holds exactly the bits of `v` that `covered` does not. -/
def RestOf (v covered rest : Nat) : Prop :=
  ∀ i, rest.testBit i = (v.testBit i && !covered.testBit i)

/-- How the members of a flags type decompose the bits `v`, read in declaration order from the
bits `covered` by the members named before: a member is named when it is not zero, its bits lie
within `v` and one of them is not yet covered; any other member is passed over. -/
inductive Decomposes (v : Nat) : Nat → List (String × Int) → List (String × Int) → Prop
  | nil (covered : Nat) : Decomposes v covered [] []
  | name {covered : Nat} {m : String × Int} {ms named : List (String × Int)} :
      bits64 m.2 ≠ 0 → BitsWithin (bits64 m.2) v → ¬ BitsWithin (bits64 m.2) covered →
      Decomposes v (covered ||| bits64 m.2) ms named → Decomposes v covered (m :: ms) (m :: named)
  | pass {covered : Nat} {m : String × Int} {ms named : List (String × Int)} :
      ¬ (bits64 m.2 ≠ 0 ∧ BitsWithin (bits64 m.2) v ∧ ¬ BitsWithin (bits64 m.2) covered) →
      Decomposes v covered ms named → Decomposes v covered (m :: ms) named

@[simp] theorem orBits_nil : orBits [] = 0 := rfl

@[simp] theorem orBits_cons (x : Int) (xs : List Int) : orBits (x :: xs) = bits64 x ||| orBits xs :=
  rfl

theorem bitsWithin_iff_and (a b : Nat) : BitsWithin a b ↔ b &&& a = a := by
  constructor
  · intro h
    apply Nat.eq_of_testBit_eq
    intro i
    rw [Nat.testBit_and]
    cases ha : a.testBit i
    · simp
    · simp [h i ha]
  · intro h i hi
    have hb := congrArg (fun n : Nat => n.testBit i) h
    simp only [Nat.testBit_and, hi, Bool.and_true] at hb
    exact hb

/-! ## One step -/

section Step

variable {v covered rest mv : Nat}

theorem and_eq_zero_iff_within (hr : RestOf v covered rest) (hv : BitsWithin mv v) :
    rest &&& mv = 0 ↔ BitsWithin mv covered := by
  constructor
  · intro h i hi
    have hb := congrArg (fun n : Nat => n.testBit i) h
    simp only [Nat.testBit_and, hr i, hi, hv i hi, Nat.zero_testBit, Bool.true_and,
      Bool.and_true, Bool.not_eq_false'] at hb
    exact hb
  · intro h
    apply Nat.eq_of_testBit_eq
    intro i
    rw [Nat.testBit_and, hr i, Nat.zero_testBit]
    cases hi : mv.testBit i
    · simp
    · simp [h i hi]

theorem skip_iff (hr : RestOf v covered rest) :
    (mv == 0 || v &&& mv != mv || rest &&& mv == 0) = true ↔
      ¬ (mv ≠ 0 ∧ BitsWithin mv v ∧ ¬ BitsWithin mv covered) := by
  by_cases h0 : mv = 0
  · simp [h0]
  by_cases hv : BitsWithin mv v
  · have hand : v &&& mv = mv := (bitsWithin_iff_and mv v).1 hv
    simp [h0, hand, hv, and_eq_zero_iff_within hr hv]
  · have hand : v &&& mv ≠ mv := fun h => hv ((bitsWithin_iff_and mv v).2 h)
    simp [h0, hand, hv]

theorem restOf_clear (hr : RestOf v covered rest) :
    RestOf v (covered ||| mv) (rest ^^^ (rest &&& mv)) := by
  intro i
  rw [Nat.testBit_xor, Nat.testBit_and, Nat.testBit_or, hr i]
  cases v.testBit i <;> cases covered.testBit i <;> cases mv.testBit i <;> rfl

end Step

/-! ## The whole pass -/

theorem foldl_decomposes {v : Nat} {f : List String × Nat → String × Int → List String × Nat}
    (hf : ∀ names rest m, f (names, rest) m =
      if (bits64 m.2 == 0 || v &&& bits64 m.2 != bits64 m.2 || rest &&& bits64 m.2 == 0) = true
      then (names, rest) else (names ++ [m.1], rest ^^^ (rest &&& bits64 m.2))) :
    ∀ (ms : List (String × Int)) (names : List String) (covered rest : Nat),
      RestOf v covered rest → ∃ named, Decomposes v covered ms named ∧
        (ms.foldl f (names, rest)).1 = names ++ named.map (·.1) ∧
        RestOf v (covered ||| orBits (named.map (·.2))) (ms.foldl f (names, rest)).2 := by
  intro ms
  induction ms with
  | nil =>
      intro names covered rest hr
      exact ⟨[], .nil covered, by simp, by simpa using hr⟩
  | cons m ms ih =>
      intro names covered rest hr
      rw [List.foldl_cons, hf]
      by_cases hskip : (bits64 m.2 == 0 || v &&& bits64 m.2 != bits64 m.2 ||
          rest &&& bits64 m.2 == 0) = true
      · rw [if_pos hskip]
        obtain ⟨named, hd, hnames, hrest⟩ := ih names covered rest hr
        exact ⟨named, .pass ((skip_iff hr).1 hskip) hd, hnames, hrest⟩
      · rw [if_neg hskip]
        obtain ⟨h0, hv, hc⟩ := not_not.1 (mt (skip_iff hr).2 hskip)
        obtain ⟨named, hd, hnames, hrest⟩ :=
          ih (names ++ [m.1]) (covered ||| bits64 m.2) _ (restOf_clear hr)
        refine ⟨m :: named, .name h0 hv hc hd, by simp [hnames], ?_⟩
        simpa [Nat.or_assoc] using hrest

theorem restOf_zero (v : Nat) : RestOf v 0 v := by
  intro i
  simp

theorem Decomposes.within {v covered : Nat} {ms named : List (String × Int)}
    (h : Decomposes v covered ms named) : BitsWithin (orBits (named.map (·.2))) v := by
  induction h with
  | nil => intro i hi; simp at hi
  | name _ hv _ _ ih =>
      intro i hi
      simp only [List.map_cons, orBits_cons, Nat.testBit_or, Bool.or_eq_true] at hi
      exact hi.elim (hv i) (ih i)
  | pass _ _ ih => exact ih

theorem Decomposes.sublist {v covered : Nat} {ms named : List (String × Int)}
    (h : Decomposes v covered ms named) : named.Sublist ms := by
  induction h with
  | nil => exact .slnil
  | name _ _ _ _ ih => exact ih.cons_cons _
  | pass _ _ ih => exact ih.cons _

theorem Decomposes.unique {v covered : Nat} {ms named named' : List (String × Int)}
    (h : Decomposes v covered ms named) (h' : Decomposes v covered ms named') : named = named' := by
  induction h generalizing named' with
  | nil => cases h'; rfl
  | name h0 hv hc _ ih =>
      cases h' with
      | name _ _ _ hd' => rw [ih hd']
      | pass hn _ => exact absurd ⟨h0, hv, hc⟩ hn
  | pass hn _ ih =>
      cases h' with
      | name h0 hv hc _ => exact absurd ⟨h0, hv, hc⟩ hn
      | pass _ hd' => exact ih hd'

theorem split_of_restOf {v cover rest : Nat} (hw : BitsWithin cover v) (hr : RestOf v cover rest) :
    cover ||| rest = v ∧ cover &&& rest = 0 := by
  constructor
  · apply Nat.eq_of_testBit_eq
    intro i
    rw [Nat.testBit_or, hr i]
    cases hc : cover.testBit i
    · simp
    · simp [hw i hc]
  · apply Nat.eq_of_testBit_eq
    intro i
    rw [Nat.testBit_and, hr i, Nat.zero_testBit]
    cases cover.testBit i <;> simp

theorem foldl_decomposes_start {v : Nat}
    {f : List String × Nat → String × Int → List String × Nat}
    (hf : ∀ names rest m, f (names, rest) m =
      if (bits64 m.2 == 0 || v &&& bits64 m.2 != bits64 m.2 || rest &&& bits64 m.2 == 0) = true
      then (names, rest) else (names ++ [m.1], rest ^^^ (rest &&& bits64 m.2)))
    (ms : List (String × Int)) :
    ∃ named, Decomposes v 0 ms named ∧ (ms.foldl f ([], v)).1 = named.map (·.1) ∧
      RestOf v (orBits (named.map (·.2))) (ms.foldl f ([], v)).2 := by
  obtain ⟨named, hd, hnames, hrest⟩ := foldl_decomposes hf ms [] 0 v (restOf_zero v)
  exact ⟨named, hd, by simpa using hnames, by simpa using hrest⟩

theorem flagsParts_decomposes (t : EnumShape) (v : Int) :
    ∃ named, Decomposes (bits64 v) 0 t.members named ∧
      (flagsParts t v).1 = named.map (·.1) ∧
      RestOf (bits64 v) (orBits (named.map (·.2))) (flagsParts t v).2 :=
  foldl_decomposes_start (fun _ _ _ => rfl) t.members

theorem flagsText_eq (t : EnumShape) (v : Int) :
    flagsText t v = if v = 0 then (t.nameOf? 0).getD "0" else
      " | ".intercalate ((flagsParts t v).1 ++
        if (flagsParts t v).2 = 0 then [] else ["0x" ++ Text.Hex.ofNat (flagsParts t v).2]) := by
  unfold flagsText
  rcases hp : flagsParts t v with ⟨names, rest⟩
  by_cases hv : v = 0
  · simp [hv]
  · by_cases hr : rest = 0 <;> simp [hv, hr]

/-! ## Reading member names back -/

section Names

variable {t : EnumShape}

theorem memberValue?_of_mem (hnd : (t.members.map (·.1)).Nodup) {m : String × Int}
    (hm : m ∈ t.members) (hup : Text.upper m.1 = m.1) : Script.memberValue? t m.1 = some m.2 := by
  unfold Script.memberValue?
  dsimp only
  rw [hup]
  have hsome : (t.members.reverse.find? (·.1 == m.1)).isSome :=
    List.find?_isSome.2 ⟨m, List.mem_reverse.2 hm, by simp⟩
  obtain ⟨x, hx⟩ := Option.isSome_iff_exists.1 hsome
  have hxmem : x ∈ t.members := List.mem_reverse.1 (List.mem_of_find?_eq_some hx)
  have hxname : x.1 = m.1 := by simpa using List.find?_some hx
  rw [hx, List.inj_on_of_nodup_map hnd hxmem hm hxname]
  rfl

theorem mapM_memberValue? (hnd : (t.members.map (·.1)).Nodup)
    (hup : ∀ m ∈ t.members, Text.upper m.1 = m.1) :
    ∀ named : List (String × Int), (∀ m ∈ named, m ∈ t.members) →
      (named.map (·.1)).mapM (Script.memberValue? t) = some (named.map (·.2)) := by
  intro named
  induction named with
  | nil => intro _; rfl
  | cons m ms ih =>
      intro hmem
      have hm : m ∈ t.members := hmem m List.mem_cons_self
      rw [List.map_cons, List.mapM_cons, memberValue?_of_mem hnd hm (hup m hm),
        ih fun x hx => hmem x (List.mem_cons_of_mem m hx)]
      rfl

end Names

/-- Flags decomposition. The names of a flags value are those of the members that are not zero,
have all their bits set in the value and add a bit the members named before them do not cover,
in declaration order; the rest is the value with the named members' bits cleared, so the named
members and the rest share no bit and together give the value back. The text is the first
zero member's name for zero (or `0`), else the names and the rest in hexadecimal, when there is
one, joined by `|`; and with distinct upper-case member names, looking the names up and adding the
rest gives the value back. -/
theorem flags_decomposition (t : EnumShape) (v : Int) :
    ∃ named, Decomposes (bits64 v) 0 t.members named ∧
      (∀ named', Decomposes (bits64 v) 0 t.members named' → named' = named) ∧
      (flagsParts t v).1 = named.map (·.1) ∧
      RestOf (bits64 v) (orBits (named.map (·.2))) (flagsParts t v).2 ∧
      orBits (named.map (·.2)) ||| (flagsParts t v).2 = bits64 v ∧
      orBits (named.map (·.2)) &&& (flagsParts t v).2 = 0 ∧
      flagsText t v = (if v = 0 then (t.nameOf? 0).getD "0" else
        " | ".intercalate (named.map (·.1) ++
          if (flagsParts t v).2 = 0 then [] else ["0x" ++ Text.Hex.ofNat (flagsParts t v).2])) ∧
      Text.Hex.natOfChars? (Text.Hex.ofNat (flagsParts t v).2).toList = some (flagsParts t v).2 ∧
      ((t.members.map (·.1)).Nodup → (∀ m ∈ t.members, Text.upper m.1 = m.1) →
        ∃ xs, (flagsParts t v).1.mapM (Script.memberValue? t) = some xs ∧
          orBits xs ||| (flagsParts t v).2 = bits64 v) := by
  obtain ⟨named, hd, hnames, hrest⟩ := flagsParts_decomposes t v
  obtain ⟨hor, hand⟩ := split_of_restOf hd.within hrest
  refine ⟨named, hd, fun named' hd' => hd'.unique hd, hnames, hrest, hor, hand, ?_,
    Text.Hex.natOfChars?_ofNat _, ?_⟩
  · rw [flagsText_eq, hnames]
  · intro hnd hup
    refine ⟨named.map (·.2), ?_, hor⟩
    rw [hnames]
    exact mapM_memberValue? hnd hup named fun m hm => hd.sublist.subset hm

/-- Read, write and execute flags with a combined member and a zero member. -/
def accessFlags : EnumShape :=
  { ns := "T", name := "Access", gtypeName := "TAccess", isFlags := true,
    members := [("NONE", 0), ("READ", 1), ("WRITE", 2), ("READ_WRITE", 3), ("EXEC", 4)] }

/-- `11` names `READ` and `WRITE`, passes over `READ_WRITE` (covered) and `EXEC` (not set),
leaves `8`, and reads back through its names. -/
theorem access_flags_read_back :
    (accessFlags.members.map (·.1)).Nodup ∧ (∀ m ∈ accessFlags.members, Text.upper m.1 = m.1) ∧
      flagsParts accessFlags 11 = (["READ", "WRITE"], 8) ∧
      ∃ xs, (flagsParts accessFlags 11).1.mapM (Script.memberValue? accessFlags) = some xs ∧
        orBits xs ||| (flagsParts accessFlags 11).2 = bits64 11 := by
  obtain ⟨-, -, -, -, -, -, -, -, -, hread⟩ := flags_decomposition accessFlags 11
  have hnd : (accessFlags.members.map (·.1)).Nodup := by decide
  have hup : ∀ m ∈ accessFlags.members, Text.upper m.1 = m.1 := by decide +kernel
  exact ⟨hnd, hup, by decide, hread hnd hup⟩

end Introspection.Value
