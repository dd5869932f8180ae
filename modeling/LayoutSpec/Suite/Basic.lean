import LayoutSpec.Action.Basic

/-!
Suites of page tests.
-/

namespace LayoutSpec

/-- One browser session: a window size and a page, if they are given, and then some actions. -/
structure PageTest where
  title : String
  url : Option String := none
  size : Option Size := none
  actions : List Action := []
deriving DecidableEq, Repr

structure Suite where
  name : String
  pageTests : List PageTest := []
deriving DecidableEq, Repr

/-- The spec files that a suite reads, in the order of its actions. -/
def Suite.specs (s : Suite) : List Path :=
  s.pageTests.flatMap fun test => test.actions.flatMap Action.specs

end LayoutSpec
