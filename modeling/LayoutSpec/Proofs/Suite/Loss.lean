import LayoutSpec.Proofs.Document.Imports
import LayoutSpec.Proofs.Suite.Account

/-!
Failures that are told and not returned. A page test returns every failure that was told at its
level, but for those of a check that is stopped: a spec that cannot be read takes the failures with
it that were found in the specs before it.
-/

namespace LayoutSpec

/-- Events that tell no failure do not matter behind others. -/
theorem failuresAt_append_of_silent {depth : Nat} {rest : List Event}
    (hrest : ∀ around, failuresAt depth around rest = []) (around : List Nat)
    (events : List Event) :
    failuresAt depth around (events ++ rest) = failuresAt depth around events := by
  induction events generalizing around with
  | nil => exact hrest around
  | cons e events ih => cases e <;> simp [failuresAt, ih]

/-- A report in order tells no more than it returns. -/
theorem Report.Ordered.exists_kept {r : Report} (h : r.OrderedObjects 0) (rest : List Event) :
    ∃ kept, failuresAt 0 [] (r.events ++ rest) = kept ++ failuresAt 0 [] rest ∧
      kept.Sublist r.failures :=
  h.told 0 (Nat.le_refl 0) [] trivial rest

namespace Action

variable {tree : FileTree} {b : Browser} {a : Action} {calls : List Call} {events : List Event}

theorem ordered_of_performs {failures : List Failure}
    (h : a.Performs tree b (.ok failures) calls events) :
    Report.OrderedObjects 0 ⟨failures, events⟩ := by
  cases h with
  | check hchecked => exact ordered_of_checked hchecked
  | _ => exact .untold []

/-- An action that is stopped told of nothing, or was a check. -/
theorem eq_nil_or_check_of_performs {e : Error} (h : a.Performs tree b (.error e) calls events) :
    events = [] ∨ ∃ specs path rest filter report, a = .check (specs ++ path :: rest) filter ∧
      calls = [] ∧ events = report.events ∧ Checked tree filter b.page specs report ∧
      Document.ofFile tree path = .error e := by
  cases h with
  | unreadable hchecked herror => exact .inr ⟨_, _, _, _, _, rfl, rfl, rfl, hchecked, herror⟩
  | _ => exact .inl rfl

end Action

namespace Session

variable {tree : FileTree} {b : Browser} {actions : List Action} {steps : List Step}
  {ending : Ending}

namespace Follows

/-- Steps return what they tell. The failures that they tell at their level come first, and the rest
of the events tells the others. -/
theorem exists_kept (h : Follows tree b actions steps ending) (rest : List Event) :
    ∃ kept, failuresAt 0 [] (steps.flatMap Step.told ++ rest) = kept ++ failuresAt 0 [] rest ∧
      kept.Sublist (steps.flatMap Step.failures) := by
  induction h with
  | finished => exact ⟨[], rfl, .slnil⟩
  | stopped _ => exact ⟨[], rfl, .slnil⟩
  | @next b a later failures calls events steps ending hperforms _ ih =>
      obtain ⟨others, hothers, hreturned⟩ := ih
      have hordered := Action.ordered_of_performs hperforms
      obtain ⟨kept, hkept, hsublist⟩ := hordered.exists_kept
        (.actionFinished a failures.length :: (steps.flatMap Step.told ++ rest))
      refine ⟨kept ++ others, ?_, ?_⟩
      · calc failuresAt 0 [] _
            = failuresAt 0 [] (events ++ .actionFinished a failures.length ::
                (steps.flatMap Step.told ++ rest)) := by
              simp [Step.told, failuresAt]
          _ = kept ++ failuresAt 0 [] (steps.flatMap Step.told ++ rest) := hkept
          _ = kept ++ others ++ failuresAt 0 [] rest := by
              rw [hothers, List.append_assoc]
      · rw [List.flatMap_cons]
        exact hsublist.append hreturned

/-- The action that is stopped is performed in the browser that the steps before it leave. -/
theorem performs_of_stopped {a : Action} {e : Error} {calls : List Call} {events : List Event}
    (h : Follows tree b actions steps ending) (hending : ending = .stopped a e calls events) :
    a.Performs tree (b.replay (steps.flatMap Step.calls)) (.error e) calls events := by
  induction h with
  | finished => cases hending
  | stopped hperforms =>
      cases hending
      exact hperforms
  | next _ _ ih =>
      rw [List.flatMap_cons, Browser.replay_append]
      exact ih hending

end Follows

end Session

open Session

/-- Of the failures that a page test tells at its level, in their order, those of its finished
actions are in its result. There are others only if it is stopped in a check by a spec that cannot
be read; they are those of the specs before it in the same check. -/
theorem PageTest.told_of_run {template : Browser} {tree : FileTree} {test : PageTest}
    {result : PageTestResult} {trace : Trace}
    (h : test.run (.copies template) tree = some (some result, trace)) :
    ∃ kept lost, failuresAt 0 [] trace.events = kept ++ lost ∧ kept.Sublist result.failures ∧
      (lost = [] ∨ ∃ done specs path rest filter later report e,
        test.actions = done ++ .check (specs ++ path :: rest) filter :: later ∧
        Checked tree filter (Browser.replay { template with calls := [] } trace.calls).page
          specs report ∧
        Document.ofFile tree path = .error e ∧ result.fatal = some e.display ∧
        lost = failuresAt 0 [] report.events) := by
  obtain ⟨steps, ending, hgoes, hby⟩ := leftBy_of_run h
  let rest := ending.told ++ [.pageTestFinished test.title result.passed]
  have htold :
      failuresAt 0 [] trace.events = failuresAt 0 [] (steps.flatMap Step.told ++ rest) := by
    rw [hby.events, List.cons_append, List.append_assoc]
    rfl
  obtain ⟨hurl, hrefused⟩ | ⟨hopened, hfollows⟩ := hgoes
  · exact ⟨[], [], htold, List.nil_sublist _, .inl rfl⟩
  obtain ⟨kept, hkept, hreturned⟩ := hfollows.exists_kept rest
  refine ⟨kept, failuresAt 0 [] rest, htold.trans hkept, hby.failures ▸ hreturned, ?_⟩
  cases ending with
  | finished => exact .inl rfl
  | refused e => exact .inl rfl
  | stopped a e calls events =>
      have hrest : failuresAt 0 [] rest = failuresAt 0 [] events :=
        calc failuresAt 0 [] rest
            = failuresAt 0 [] (events ++
                [.globalError e, .pageTestFinished test.title result.passed]) := by
              simp [rest, Ending.told, Ending.begun, Ending.error?, failuresAt]
          _ = failuresAt 0 [] events := failuresAt_append_of_silent (fun _ => rfl) [] events
      obtain ⟨later, hactions, -⟩ := hby.actions
      have hperforms := hfollows.performs_of_stopped rfl
      rcases Action.eq_nil_or_check_of_performs hperforms with
        rfl | ⟨specs, path, others, filter, report, rfl, rfl, rfl, hchecked, herror⟩
      · exact .inl hrest
      · refine .inr ⟨steps.map Step.action, specs, path, others, filter, later, report, e, ?_, ?_,
          herror, hby.fatal, hrest⟩
        · rw [hactions, List.append_assoc]
          rfl
        · rw [hby.calls, Ending.calls, List.append_nil, Browser.replay_append]
          exact hchecked

def lossTree : FileTree where
  files := [(["cell.spec"], .text labelText), (["bad.spec"], .text "label\n    glows\n")]

def lossTest : PageTest where
  title := "cell"
  actions := [.check [⟨"cell.spec"⟩, ⟨"bad.spec"⟩] .all]

def lossFailure : Failure :=
  ⟨[⟨20, 20, 8, 8⟩], ["\"label\" width is 8px instead of 5px"]⟩

def lossReport : Report where
  failures := [lossFailure]
  events := [.beforeSection [], .object "label" 0,
    .constraintError "label" (.width (.exactly 5)) lossFailure, .afterObject "label" 0,
    .afterSection []]

def lossError : Error :=
  .malformed ⟨.unknownConstraint "glows", 2, some ⟨"bad.spec"⟩, none⟩

def lossReading : Document.Reading lossTree where
  path := ⟨"bad.spec"⟩
  key := ["bad.spec"]
  above := []
  text := "label\n    glows\n"
  leads := by decide +kernel
  holds := by decide +kernel

theorem ofFile_lossTree : Document.ofFile lossTree ⟨"cell.spec"⟩ = .ok labelDocument := by
  have hkey : lossTree.fileKey? ⟨"cell.spec"⟩ = some ["cell.spec"] := by decide +kernel
  have hparent : (Path.mk "cell.spec").parent? = some ⟨""⟩ := by decide +kernel
  refine Document.ofFile_eq_ok hkey rfl ?_
  rw [hparent, Document.readWithin]
  rfl

theorem ofFile_lossTree_bad : Document.ofFile lossTree ⟨"bad.spec"⟩ = .error lossError := by
  have hresult : lossReading.result = .error ⟨.unknownConstraint "glows", 2, none, none⟩ := by
    rw [Document.Reading.result_eq]
    decide +kernel
  have hroot := Document.ofFile_eq_of_root (show lossReading.above = [] from rfl)
  rw [hresult] at hroot
  exact hroot

theorem goes_lossTest :
    lossTest.Goes lossTree { cellBrowser with calls := [] } []
      (.stopped (.check [⟨"cell.spec"⟩, ⟨"bad.spec"⟩] .all) lossError [] lossReport.events) := by
  have hreport : validate lossTree .all 0 false labelDocument cellPage = some lossReport := by
    rw [validate, Pass.outcome]
    rfl
  have hchecked : Checked lossTree .all cellPage [⟨"cell.spec"⟩] lossReport :=
    .cons ofFile_lossTree hreport .nil
  have hperforms : Action.Performs lossTree { cellBrowser with calls := [] }
      (.check ([⟨"cell.spec"⟩] ++ ⟨"bad.spec"⟩ :: []) .all) (.error lossError) []
      lossReport.events :=
    .unreadable hchecked ofFile_lossTree_bad
  exact .opened (by simp [lossTest]) (.stopped hperforms)

/-- The label is too wide, which is told and not returned. -/
theorem PageTest.run_lossTest :
    ∃ result trace, lossTest.run (.copies cellBrowser) lossTree = some (some result, trace) ∧
      failuresAt 0 [] trace.events = [lossFailure] ∧ result.failures = [] := by
  obtain ⟨result, trace, hrun, hby⟩ := exists_run_of_goes goes_lossTest
  refine ⟨result, trace, hrun, ?_, hby.failures⟩
  rw [hby.events]
  rfl

theorem PageTest.told_of_run_lossTest :
    ∃ result trace kept lost,
      lossTest.run (.copies cellBrowser) lossTree = some (some result, trace) ∧
      failuresAt 0 [] trace.events = kept ++ lost ∧ kept.Sublist result.failures ∧
      lost = [lossFailure] := by
  obtain ⟨result, trace, hrun, hby⟩ := exists_run_of_goes goes_lossTest
  have htold : failuresAt 0 [] trace.events = [lossFailure] := by
    rw [hby.events]
    rfl
  obtain ⟨kept, lost, hall, hkept, -⟩ := told_of_run hrun
  have hnone : kept = [] := by
    rw [hby.failures] at hkept
    exact List.sublist_nil.mp hkept
  refine ⟨result, trace, kept, lost, hrun, hall, hkept, ?_⟩
  rw [htold, hnone] at hall
  exact hall.symm

end LayoutSpec
