import Mathlib
import Introspection.Cli.Arguments
import Introspection.Proofs.Invoke.Frame

/-!
# Arguments from text and the call plan

The command line reads one text for each in or inout parameter of a function, in declaration
order, and passes the values to the call. The call plan takes from the caller only the inward
arguments it does not fill itself: an array's length, callback user data, a destroy notifier and
a skipped argument are hidden, and a method adds its receiver in front. `argumentsOf_ok` says what
a successful reading gives, `build_want_inArgs` how many arguments a plan wants, and
`parsed_arguments_against_plan` puts the two together: the values have the count the plan wants
exactly when the plan hides as many inward arguments as the receiver it adds. A function whose
array names its in length as another in argument is read with one text too many
(`hidden_length_miscounted`).
-/

namespace Introspection.Cli

open Introspection.Typelib Introspection.Repository Introspection.Info Introspection.Invoke

/-- A value read from the text of an in or inout argument: some run of the argument's reader on
the text gives it. -/
def ReadFrom (x : Info × ByteArray) (v : Value) : Prop :=
  ∃ r₁ r₂, argumentOf (Info.argType x.1) x.2 r₁ = (.ok v, r₂)

theorem forIn_reads (texts : List ByteArray)
    {f : Info → Option (Except String (List Value)) × List Value →
      RepoM (ForInStep (Option (Except String (List Value)) × List Value))}
    (hf : ∀ p out r, (∃ m, (f p (none, out) r).1 = .done (some (.error m), out)) ∨
      ∃ s rest v r', texts.drop out.length = s :: rest ∧
        argumentOf (Info.argType p) s r = (.ok v, r') ∧
        f p (none, out) r = (.yield (none, out ++ [v]), r'))
    {ps : List Info} {out : List Value} {r : Repository}
    {res : (Option (Except String (List Value)) × List Value) × Repository}
    (h : forIn ps (none, out) f r = res) :
    (∃ m rest, res.1 = (some (.error m), rest)) ∨
      ∃ vs, res.1 = (none, out ++ vs) ∧
        List.Forall₂ ReadFrom (ps.zip (texts.drop out.length)) vs ∧ vs.length = ps.length := by
  subst h
  induction ps generalizing out r with
  | nil => exact .inr ⟨[], by simp; rfl, by simp, rfl⟩
  | cons p ps ih =>
      rw [List.forIn_cons, Repository.run_bind]
      rcases hf p out r with ⟨m, hm⟩ | ⟨s, rest, v, r', hdrop, hv, hstep⟩
      · rw [hm]
        exact .inl ⟨m, out, rfl⟩
      · rw [hstep]
        rcases @ih (out ++ [v]) r' with ⟨m, res, hres⟩ | ⟨vs, hres, hall, hlen⟩
        · exact .inl ⟨m, res, hres⟩
        · refine .inr ⟨v :: vs, by simpa using hres, ?_, by simp [hlen]⟩
          have hrest : texts.drop (out ++ [v]).length = rest := by
            rw [List.length_append, List.length_singleton, ← List.drop_drop, hdrop]
            rfl
          rw [hdrop, List.zip_cons_cons]
          exact .cons ⟨r, r', hv⟩ (hrest ▸ hall)

/-- The in and inout arguments of a callable, in declaration order. -/
def inArgs (r : Repository) (c : Info) : List Info :=
  (Info.args r c).filter fun a => Info.direction r a != .output

theorem argumentsOf_ok {c : Info} {texts : List ByteArray} {r r' : Repository}
    {vals : List Value} (h : argumentsOf c texts r = (.ok vals, r')) :
    texts.length = (inArgs r c).length ∧ List.Forall₂ ReadFrom ((inArgs r c).zip texts) vals := by
  unfold argumentsOf at h
  simp only [Repository.run_bind, Repository.run_get] at h
  generalize hloop : (forIn (m := RepoM) (_ : List Info)
    ((none : Option (Except String (List Value))), ([] : List Value)) _) r = res at h
  have key := forIn_reads texts ?hf hloop
  case hf =>
    intro p out r₀
    dsimp only
    simp only [Repository.run_bind, Repository.run_get]
    rcases hd : List.drop out.length texts with _ | ⟨s, rest⟩
    · exact .inl ⟨_, rfl⟩
    · rcases ha : argumentOf p.argType s r₀ with ⟨res, r'⟩
      cases res with
      | ok v => exact .inr ⟨s, rest, v, r', rfl, ha, by simp only [Repository.run_bind, ha]; rfl⟩
      | error m => exact .inl ⟨_, by simp only [Repository.run_bind, ha]; rfl⟩
  rcases key with ⟨m, rest, hres⟩ | ⟨vs, hres, hall, hlen⟩
  · rw [hres] at h
    cases congrArg Prod.fst h
  · rw [hres, List.nil_append] at h
    dsimp only at h
    by_cases hcount : vs.length = texts.length
    · rw [if_neg (by simp [hcount])] at h
      cases Except.ok.inj (congrArg Prod.fst h)
      refine ⟨hcount.symm.trans hlen, ?_⟩
      simpa [inArgs] using hall
    · rw [if_pos (by simpa using hcount)] at h
      cases congrArg Prod.fst h

/-- A slot the plan fills itself although the argument travels inward: a length, user data, a
destroy notifier or a skipped argument. -/
def HiddenIn (s : Slot) : Bool := s.dir != .output && s.role != .user

theorem length_inward (slots : List Slot) :
    (slots.filter fun s => s.dir != .output).length =
      (slots.filter Slot.supplied).length + (slots.filter HiddenIn).length := by
  induction slots with
  | nil => rfl
  | cons s slots ih =>
      simp only [List.filter_cons, Slot.supplied, HiddenIn]
      by_cases hd : s.dir = .output <;> by_cases hr : s.role = .user <;> simp [hd, hr] at ih ⊢ <;>
        omega

theorem build_dirs {c : Info} {ps : Nat} {r r' : Repository} {p : Plan}
    (h : Plan.build c ps r = (.ok p, r')) :
    p.slots.map Slot.dir = (Info.args r c).map (Info.direction r) := by
  obtain ⟨slots, r₁, r₂, -, hdirs, hl, -⟩ := Plan.build_ok h
  rw [(Plan.layout_laid hl).map_dir, hdirs]

theorem build_want_inArgs {c : Info} {ps : Nat} {r r' : Repository} {p : Plan}
    (h : Plan.build c ps r = (.ok p, r')) :
    p.want + (p.slots.filter HiddenIn).length = (if p.method then 1 else 0) + (inArgs r c).length := by
  have hin : (inArgs r c).length = (p.slots.filter fun s => s.dir != .output).length := by
    have hmap := congrArg (fun l => (l.filter (· != Direction.output)).length) (build_dirs h)
    simp only [List.filter_map, List.length_map] at hmap
    exact hmap.symm
  rw [hin, length_inward, (Plan.build_framed h).want]
  omega

/-- Arguments read from text against the call plan. Reading succeeds only with one text per in
or inout argument, each value read by its argument's type, in order; a plan of the callable wants,
besides the receiver of a method, those arguments less the ones it hides as lengths, user data,
destroy notifiers or skipped arguments. So the values have the count the plan wants exactly when
the plan hides as many inward arguments as the receiver it adds. -/
theorem parsed_arguments_against_plan {c : Info} {texts : List ByteArray} {r r' : Repository}
    {vals : List Value} (h : argumentsOf c texts r = (.ok vals, r')) :
    texts.length = (inArgs r c).length ∧ List.Forall₂ ReadFrom ((inArgs r c).zip texts) vals ∧
    ∀ ps p r'', Plan.build c ps r = (.ok p, r'') →
      p.want + (p.slots.filter HiddenIn).length = (if p.method then 1 else 0) + vals.length ∧
      (vals.length = p.want ↔ (p.slots.filter HiddenIn).length = if p.method then 1 else 0) := by
  obtain ⟨hcount, hall⟩ := argumentsOf_ok h
  have hvals : vals.length = texts.length := by
    rw [← hall.length_eq, List.length_zip, hcount, Nat.min_self]
  refine ⟨hcount, hall, fun ps p r'' hp => ?_⟩
  have hwant := build_want_inArgs hp
  rw [hvals, hcount]
  exact ⟨hwant, by omega⟩

/-- A function `f(a, n)` whose first argument is an array of `gint32` whose length is its second
argument, both in: a function blob at 0, its signature at 20 with the arguments at 28 and 44,
and the array type at 60. -/
def hiddenLengthImage : ByteArray :=
  ⟨#[
    1, 0, 0, 0, 0, 0, 0, 0, 0, 0, 0, 0, 20, 0, 0, 0, 1, 0, 0, 0, 0, 0, 0, 0, 0, 0, 2, 0, 0, 0, 0,
    0, 0, 0, 0, 0, 255, 255, 0, 0, 60, 0, 0, 0, 0, 0, 0, 0, 0, 0, 0, 0, 255, 255, 0, 0, 0, 0, 0,
    48, 121, 2, 1, 0, 0, 0, 0, 48
  ]⟩

/-- A repository whose one namespace `T` reads `hiddenLengthImage`. -/
def hiddenLengthRepo : Repository :=
  { typelibs := #[{ (default : Typelib) with
      image := Image.make hiddenLengthImage 68, namespace_ := "T" }],
    spaces := #[{ name := "T", typelib := 0, path := "" }] }

/-- The function of `hiddenLengthRepo`. -/
def hiddenLengthFunction : Info := { space := 0, kind := .function, offset := 0 }

/-- Two texts read as the two in arguments of `f`, while its plan hides the length and wants one. -/
theorem hidden_length_miscounted :
    argumentsOf hiddenLengthFunction ["null".toUTF8, "0".toUTF8] hiddenLengthRepo =
      (.ok [.null, .int .int32 0], hiddenLengthRepo) ∧
    ∃ p r', Plan.build hiddenLengthFunction 8 hiddenLengthRepo = (.ok p, r') ∧ p.want = 1 := by
  constructor
  · cbv
  · exact ⟨_, _, rfl, rfl⟩

/-- Reading `null` and `0` for `f` gives two values for two in arguments, one of which its plans
hide. -/
theorem hidden_length_reads_two :
    argumentsOf hiddenLengthFunction ["null".toUTF8, "0".toUTF8] hiddenLengthRepo =
      (.ok [.null, .int .int32 0], hiddenLengthRepo) ∧
    (inArgs hiddenLengthRepo hiddenLengthFunction).length = 2 ∧
    ∀ p r', Plan.build hiddenLengthFunction 8 hiddenLengthRepo = (.ok p, r') →
      p.want + (p.slots.filter HiddenIn).length = (if p.method then 1 else 0) + 2 := by
  have h : argumentsOf hiddenLengthFunction ["null".toUTF8, "0".toUTF8] hiddenLengthRepo =
      (.ok [.null, .int .int32 0], hiddenLengthRepo) := by cbv
  obtain ⟨hcount, -, hplan⟩ := parsed_arguments_against_plan h
  exact ⟨h, hcount.symm, fun p r' hp => (hplan 8 p r' hp).1⟩

end Introspection.Cli
