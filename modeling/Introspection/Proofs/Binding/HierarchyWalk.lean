import Introspection.Binding.Class
import Introspection.Proofs.Binding.FieldLookup
import Introspection.Script.Machine

/-!
# Hierarchy walks on a cycle

The walks along the class hierarchy follow parent links with no record of the classes they
passed. A namespace may declare an object that is its own ancestor, and once the links of such a
cycle are recorded a walk that reaches it goes round it until its steps are spent, then reports
`hierarchyEndless`. This module proves that for `isA`, which stops early only at a match, and for
`methodNames`, which never stops early: from any class on a parent cycle that holds no match,
both fail with `hierarchyEndless` and leave the session as it was.
-/

namespace Introspection.Loaded.Session

/-- The qualified name of a class as a session records it: its module's name, a dot, its own. -/
def className (s : Session) (c : Nat) : String :=
  (s.modules.getD (s.classes.getD c default).module default).name ++ "." ++
    (s.classes.getD c default).name

end Introspection.Loaded.Session

namespace Introspection.Binding

open Introspection.Loaded Introspection.Loaded.Session

/-- A set of classes closed under recorded parent links: each has its links recorded and a
parent in the set. On a finite set of classes this means the parent chains enter a cycle. -/
def ParentCycle (s : Session) (cyc : Nat → Prop) : Prop :=
  ∀ k, cyc k → ∃ p ifs, (s.classes.getD k default).links = some (some p, ifs) ∧ cyc p

namespace Session

theorem run_qualifiedName (c : Nat) (s : Session) :
    (qualifiedName c).run s = (.ok (s.className c), s) := rfl

theorem run_links_cached {hooks : Hooks} {c : Nat} {s : Session} {l : Option Nat × List Nat}
    (h : (s.classes.getD c default).links = some l) : (links hooks c).run s = (.ok l, s) := by
  unfold links
  rw [Invoke.Session.run_bind, run_klass]
  simp only [h]
  rfl

theorem run_parentOf_cached {hooks : Hooks} {c : Nat} {s : Session} {l : Option Nat × List Nat}
    (h : (s.classes.getD c default).links = some l) : (parentOf hooks c).run s = (.ok l.1, s) := by
  unfold parentOf
  rw [Invoke.Session.run_bind, run_links_cached h]
  rfl

end Session

section Cycle

variable (hooks : Hooks) {s : Session} {cyc : Nat → Prop}

theorem isAUpTo_succ_of_parent_error {fuel k p other : Nat} {ifs : List Nat} {e : Failure}
    (hl : (s.classes.getD k default).links = some (some p, ifs)) (hne : k ≠ other)
    (hname : s.className k ≠ s.className other)
    (hp : (isAUpTo hooks fuel p other).run s = (.error e, s)) :
    (isAUpTo hooks (fuel + 1) k other).run s = (.error e, s) := by
  have hguard : (k == other || s.className k == s.className other) = false := by
    simp [hne, hname]
  unfold isAUpTo
  simp only [Invoke.Session.run_bind, Session.run_qualifiedName, hguard, Bool.false_eq_true,
    ↓reduceIte, Session.run_parentOf_cached hl, hp]

theorem methodNamesUpTo_succ_of_parent_error {fuel k p : Nat} {ifs : List Nat} {e : Failure}
    (hl : (s.classes.getD k default).links = some (some p, ifs))
    (hp : (methodNamesUpTo hooks fuel p).run s = (.error e, s)) :
    (methodNamesUpTo hooks (fuel + 1) k).run s = (.error e, s) := by
  unfold methodNamesUpTo
  simp only [Invoke.Session.run_bind, Session.run_klass, Invoke.Session.run_get,
    Session.run_parentOf_cached hl, hp]

theorem isAUpTo_parentCycle (hcyc : ParentCycle s cyc) (other : Nat)
    (havoid : ∀ k, cyc k → k ≠ other ∧ s.className k ≠ s.className other) :
    ∀ fuel k, cyc k → (isAUpTo hooks fuel k other).run s = (.error hierarchyEndless, s) := by
  intro fuel
  induction fuel with
  | zero => intro k _; rfl
  | succ fuel ih =>
    intro k hk
    obtain ⟨p, ifs, hl, hp⟩ := hcyc k hk
    obtain ⟨hne, hname⟩ := havoid k hk
    exact isAUpTo_succ_of_parent_error hooks hl hne hname (ih p hp)

theorem methodNamesUpTo_parentCycle (hcyc : ParentCycle s cyc) :
    ∀ fuel k, cyc k → (methodNamesUpTo hooks fuel k).run s = (.error hierarchyEndless, s) := by
  intro fuel
  induction fuel with
  | zero => intro k _; rfl
  | succ fuel ih =>
    intro k hk
    obtain ⟨p, ifs, hl, hp⟩ := hcyc k hk
    exact methodNamesUpTo_succ_of_parent_error hooks hl (ih p hp)

/-- Asking whether a class on a parent cycle is another class that no class of the cycle is,
by number or by name, never answers: the walk fails with `hierarchyEndless`. -/
theorem isA_endless_on_parent_cycle (hcyc : ParentCycle s cyc) (other : Nat)
    (havoid : ∀ k, cyc k → k ≠ other ∧ s.className k ≠ s.className other) (c : Nat)
    (hc : cyc c) : (isA hooks c other).run s = (.error hierarchyEndless, s) :=
  isAUpTo_parentCycle hooks hcyc other havoid hierarchyDepth c hc

theorem methodNames_endless_on_parent_cycle (hcyc : ParentCycle s cyc) (c : Nat) (hc : cyc c) :
    (methodNames hooks c).run s = (.error hierarchyEndless, s) := by
  unfold methodNames
  rw [Invoke.Session.run_bind, methodNamesUpTo_parentCycle hooks hcyc hierarchyDepth c hc]

end Cycle

/-- A session over one module `T` with two linked objects: `O`, recorded as its own parent, and
`P`, with no links yet. -/
def selfParentSession : Session where
  modules := #[{ space := 0, name := "T", version := "1.0", handle := 0, invoker := 0 }]
  classes := #[
    { module := 0, info := default, name := "O", kind := .object, links := some (some 0, []) },
    { module := 0, info := default, name := "P", kind := .object }]

theorem self_parent_isA_endless :
    (isA Script.hooks 0 1).run selfParentSession = (.error hierarchyEndless, selfParentSession) :=
  isA_endless_on_parent_cycle Script.hooks
    (show ParentCycle selfParentSession (· = 0) by rintro k rfl; exact ⟨0, [], rfl, rfl⟩) 1
    (by rintro k rfl; simp [Session.className, selfParentSession]) 0 rfl

end Introspection.Binding
