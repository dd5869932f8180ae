import LayoutSpec.Validation.Pass

/-!
Passes inside passes. A pass goes into the components that it comes to, and their passes into
theirs. Nothing keeps the spec of a component from leading back to itself over the same part of a
page. Then the pass goes on without end: it has no outcome, and an observer is told of it for ever.
-/

namespace LayoutSpec

namespace Pass

/-- The report of a pass, `none` if it goes on without end. -/
def outcome (tree : FileTree) (filter : TagFilter) (p : Pass) : Option Report := by
  refine (p.walk tree filter).report ?inside
  -- The passes inside are of the same tree and filter.
  apply outcome
  case tree => exact tree
  case filter => exact filter
partial_fixpoint monotonicity by
  intro few many hle p
  have hinside : ∀ p r, few p = some r → many p = some r := by
    intro p r hfew
    have hle := hle p
    rw [hfew] at hle
    generalize many p = found at hle
    cases hle
    rfl
  dsimp only
  cases hfew : (p.walk tree filter).report few with
  | none => exact .bot
  | some r =>
      rw [Walk.report_mono hinside hfew]
      exact .refl

/-- A pass in front of an observer, with the passes inside it in front of the same one. The observer
is handed from one call to the next with all that it has heard. -/
def watch (tree : FileTree) (filter : TagFilter) (p : Pass) (o : Observer) :
    Option (Watched (List Failure)) := by
  refine (p.walk tree filter).perform ?inside o
  apply watch
  case tree => exact tree
  case filter => exact filter
partial_fixpoint monotonicity by
  intro few many hle p o
  have hinside : ∀ p o w, few p o = some w → many p o = some w := by
    intro p o w hfew
    have hle := hle p o
    rw [hfew] at hle
    generalize many p o = found at hle
    cases hle
    rfl
  dsimp only
  cases hfew : (p.walk tree filter).perform few o with
  | none => exact .bot
  | some w =>
      rw [Walk.perform_mono hinside hfew]
      exact .refl

end Pass

/-- The pass of a spec over a page, `none` if it goes on without end. That happens where components
lead back to a spec over the same page. -/
def validate (tree : FileTree) (filter : TagFilter) (depth : Nat) (silent : Bool)
    (document : Document) (page : Page) : Option Report :=
  Pass.outcome tree filter ⟨depth, silent, document, page⟩

end LayoutSpec
