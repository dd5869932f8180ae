import LayoutSpec.Validation.Failure

/-!
What is known about page tests and suites after they ran.
-/

namespace LayoutSpec

/-- The failures that a page test found, and the error that stopped it, in words, if one did. -/
structure PageTestResult where
  title : String
  failures : List Failure := []
  fatal : Option String := none
deriving DecidableEq, Repr

/-- A page test passes if it found nothing and was not stopped. -/
def PageTestResult.passed (r : PageTestResult) : Bool :=
  r.failures.isEmpty && r.fatal.isNone

structure SuiteResult where
  name : String
  pageTests : List PageTestResult := []
deriving DecidableEq, Repr

namespace SuiteResult

def passed (r : SuiteResult) : Bool :=
  r.pageTests.all PageTestResult.passed

def failureCount (r : SuiteResult) : Nat :=
  (r.pageTests.flatMap PageTestResult.failures).length

end SuiteResult

/-- The results of the suites that ran and the names of those that did not, each in the order of
the catalog. -/
structure Summary where
  results : List SuiteResult := []
  skipped : List String := []
deriving DecidableEq, Repr

namespace Summary

def allPassed (s : Summary) : Bool :=
  s.results.all SuiteResult.passed

def executed (s : Summary) : Nat :=
  s.results.length

def failed (s : Summary) : Nat :=
  s.results.countP fun r => !r.passed

end Summary

end LayoutSpec
