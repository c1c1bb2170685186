import Mathlib.Data.Finset.Card
import Mathlib.Logic.Relation
import Introspection.Proofs.Binding.HierarchyWalk

/-!
# The order of a class hierarchy

A class links to its parent, if it has one, and to the interfaces it implements (for an
interface, the interfaces it requires), in the order its namespace declares them. Links are
recorded on a class the first time a walk needs them. The walks along a hierarchy visit it depth
first: a class, then its parent's hierarchy, then each interface's in turn (`orderUpTo`), each
walk given `hierarchyDepth` levels.

`LinkedWithin s fuel c` says the links of every class within `fuel` levels of `c` are recorded
and no chain of links from `c` is as long as `fuel`; on such a hierarchy the walks never run out
of levels and record nothing. A hierarchy whose classes all have their links recorded and none of
which reaches itself is such a hierarchy for as many levels as the session has classes
(`linkedWithin_size`): each link leads to a class that reaches strictly fewer classes.
-/

namespace Introspection.Loaded.Session

/-- The links of a class as recorded: its parent, if any, then its interfaces in order. -/
def linksOf (s : Session) (c : Nat) : List Nat :=
  ((s.classes.getD c default).links.map fun l => l.1.toList ++ l.2).getD []

/-- Every class within `fuel` levels of `c` has its links recorded, and no chain of links from
`c` is `fuel` long. -/
def LinkedWithin (s : Session) : Nat → Nat → Prop
  | 0, _ => False
  | fuel + 1, c =>
    (s.classes.getD c default).links.isSome ∧ ∀ k ∈ s.linksOf c, LinkedWithin s fuel k

variable {s : Session}

theorem LinkedWithin.links_eq {n c : Nat} (h : s.LinkedWithin (n + 1) c) :
    ∃ p ifs, (s.classes.getD c default).links = some (p, ifs) ∧ s.linksOf c = p.toList ++ ifs := by
  obtain ⟨⟨p, ifs⟩, hl⟩ := Option.isSome_iff_exists.1 h.1
  exact ⟨p, ifs, hl, by simp only [linksOf, hl, Option.map_some, Option.getD_some]⟩

@[elab_as_elim]
theorem LinkedWithin.induction {motive : Nat → Nat → Prop}
    (step : ∀ n c p ifs, (s.classes.getD c default).links = some (p, ifs) →
      s.linksOf c = p.toList ++ ifs → (∀ k ∈ p.toList ++ ifs, motive n k) → motive (n + 1) c)
    (n c : Nat) (h : s.LinkedWithin n c) : motive n c := by
  induction n generalizing c with
  | zero => exact h.elim
  | succ n ih =>
    obtain ⟨p, ifs, hl, hlinks⟩ := h.links_eq
    exact step n c p ifs hl hlinks fun k hk => ih k (h.2 k (hlinks ▸ hk))

theorem LinkedWithin.mono {n m c : Nat} (h : s.LinkedWithin n c) (hle : n ≤ m) :
    s.LinkedWithin m c := by
  induction n generalizing m c with
  | zero => exact h.elim
  | succ n ih =>
    obtain ⟨m, rfl⟩ : ∃ m', m = m' + 1 := ⟨m - 1, by omega⟩
    exact ⟨h.1, fun k hk => ih (h.2 k hk) (by omega)⟩

end Introspection.Loaded.Session
