import LayoutSpec.Proofs.Suite.Session
import LayoutSpec.Proofs.Suite.Verdict

/-!
The look at the spec files before a run. A run starts nothing unless every spec that its suites name
is a file, and it reads a file with the same eyes later: no page test that has run was stopped
because a spec was not found.
-/

namespace LayoutSpec

namespace FileTree

variable {tree : FileTree} {path : Path}

/-- A file may hold no text, but it is not missing. -/
theorem read_ne_missing (h : tree.isFile path = true) : tree.read path ≠ .error .missing := by
  obtain ⟨key, hkey⟩ := Option.isSome_iff_exists.mp h
  have hplace := fileKey?_eq_some_iff.mp hkey
  obtain ⟨content, hcontent⟩ := exists_content_of_resolve hplace
  intro hread
  simp only [read, hplace, bind, Except.bind, hcontent] at hread
  cases content with
  | text value => cases hread
  | binary => cases hread

end FileTree

/-- The error is another one than that a spec was not found. -/
def Error.FindsSpecs (e : Error) : Prop :=
  ∀ path, e ≠ .specNotFound path

theorem Error.findsSpecs_browser (message : String) : (browser message).FindsSpecs := by
  intro path hsame
  cases hsame

/-- Texts that differ in one of their first letters are two, whatever follows. -/
theorem append_ne_append (n : Nat) {c d : Char} {first second : String}
    (hfirst : first.toList[n]? = some c) (hsecond : second.toList[n]? = some d) (hne : c ≠ d)
    (rest more : String) : first ++ rest ≠ second ++ more := by
  have hkept : ∀ {text : String} {letter : Char}, text.toList[n]? = some letter →
      ∀ behind, (text ++ behind).toList[n]? = some letter := by
    intro text letter hletter behind
    obtain ⟨hn, -⟩ := List.getElem?_eq_some_iff.mp hletter
    rw [String.toList_append, List.getElem?_append_left hn, hletter]
  intro hsame
  have hletter := hkept hfirst rest
  rw [hsame, hkept hsecond more] at hletter
  exact hne (Option.some.inj hletter).symm

theorem SyntaxError.exists_display_eq (e : SyntaxError) :
    ∃ rest, e.display = "Syntax error" ++ rest := by
  rw [display, String.append_assoc, String.append_assoc, String.append_assoc]
  exact ⟨_, rfl⟩

/-- In words, too, the error is another one. The wordings begin differently, so that the error can
be told from the text that is left of it in a result. -/
theorem Error.FindsSpecs.display_ne {e : Error} (h : e.FindsSpecs) (path : Path) :
    e.display ≠ (specNotFound path).display := by
  intro hdisplay
  change e.display = "Spec file not found: " ++ path.text at hdisplay
  cases e with
  | specNotFound other => exact h other rfl
  | malformed e =>
      obtain ⟨rest, hrest⟩ := e.exists_display_eq
      rw [show (malformed e).display = e.display from rfl, hrest] at hdisplay
      exact append_ne_append 1 rfl rfl (by decide) _ _ hdisplay
  | yaml =>
      rw [show yaml.display = "YAML error" ++ "" from rfl] at hdisplay
      exact append_ne_append 0 rfl rfl (by decide) _ _ hdisplay
  | _ => exact append_ne_append 0 rfl rfl (by decide) _ _ hdisplay

theorem Document.findsSpecs_of_ofFile {tree : FileTree} {path : Path} {e : Error}
    (hfile : tree.isFile path = true) (h : ofFile tree path = .error e) : e.FindsSpecs := by
  rw [ofFile] at h
  split at h
  · next hread => exact absurd hread (FileTree.read_ne_missing hfile)
  · obtain rfl := Except.error.inj h
    intro other hsame
    cases hsame
  · split at h
    · obtain rfl := Except.error.inj h
      intro other hsame
      cases hsame
    · cases h

section

variable {tree : FileTree}

namespace Action

theorem findsSpecs_of_readScript {path : Path} {e : Error} (h : readScript tree path = .error e) :
    e.FindsSpecs := by
  rw [readScript] at h
  split at h
  · cases h
  all_goals
    obtain rfl := Except.error.inj h
    intro other hsame
    cases hsame

theorem findsSpecs_of_readArguments {text : String} {e : Error}
    (h : readArguments text = .error e) : e.FindsSpecs := by
  rw [readArguments] at h
  split at h
  · cases h
  · obtain rfl := Except.error.inj h
    intro other hsame
    cases hsame

theorem findsSpecs_of_readCall {path : Path} {text : Option String} {e : Error}
    (h : readCall tree path text = .error e) : e.FindsSpecs := by
  cases hscript : readScript tree path with
  | error fault =>
      simp only [readCall, hscript, bind, Except.bind] at h
      obtain rfl := Except.error.inj h
      exact findsSpecs_of_readScript hscript
  | ok script =>
      simp only [readCall, hscript, bind, Except.bind] at h
      cases text with
      | none => cases h
      | some text =>
          cases harguments : readArguments text with
          | error fault =>
              simp only [harguments] at h
              obtain rfl := Except.error.inj h
              exact findsSpecs_of_readArguments harguments
          | ok value =>
              simp only [harguments] at h
              cases h

/-- An action whose specs are files is stopped by another error than that of a missing spec, if it
is stopped at all. -/
theorem findsSpecs_of_performs {b : Browser} {a : Action} {e : Error} {calls : List Call}
    {events : List Event} (hfiles : ∀ path ∈ a.specs, tree.isFile path = true)
    (h : a.Performs tree b (.error e) calls events) : e.FindsSpecs := by
  cases h with
  | unreachable _ => exact Error.findsSpecs_browser _
  | noScript h => exact findsSpecs_of_readScript h
  | noCall h => exact findsSpecs_of_readCall h
  | unreadable _ herror =>
      apply Document.findsSpecs_of_ofFile _ herror
      apply hfiles
      rw [specs]
      exact List.mem_append_right _ List.mem_cons_self

end Action

/-- The page test was not stopped because a spec was not found. -/
def PageTestResult.FoundSpecs (r : PageTestResult) : Prop :=
  ∀ path, r.fatal ≠ some (Error.specNotFound path).display

theorem PageTestResult.foundSpecs_of_fatal {r : PageTestResult} {error : Option Error}
    (hfatal : r.fatal = error.map Error.display) (h : ∀ e ∈ error, e.FindsSpecs) :
    r.FoundSpecs := by
  intro path hsame
  rw [hfatal] at hsame
  obtain ⟨e, he, hdisplay⟩ := Option.map_eq_some_iff.mp hsame
  exact (h e he).display_ne path hdisplay

theorem PageTestResult.foundSpecs_of_browser {r : PageTestResult} {message : String}
    (hfatal : r.fatal = some (Error.browser message).display) : r.FoundSpecs := by
  intro path hsame
  rw [hfatal] at hsame
  exact (Error.findsSpecs_browser message).display_ne path (Option.some.inj hsame)

/-- The specs of a suite are files. -/
def Suite.SpecsExist (tree : FileTree) (s : Suite) : Prop :=
  ∀ path ∈ s.specs, tree.isFile path = true

def PageTest.SpecsExist (tree : FileTree) (test : PageTest) : Prop :=
  ∀ action ∈ test.actions, ∀ path ∈ action.specs, tree.isFile path = true

/-- Actions whose specs are files are not stopped by a spec that was not found. They may be stopped
by one that cannot be read for another reason. -/
theorem Session.Follows.findsSpecs {b : Browser} {actions : List Action}
    {steps : List Session.Step} {ending : Session.Ending}
    (h : Session.Follows tree b actions steps ending)
    (hfiles : ∀ action ∈ actions, ∀ path ∈ action.specs, tree.isFile path = true) :
    ∀ e ∈ ending.error?, e.FindsSpecs := by
  induction h with
  | finished =>
      intro e he
      cases he
  | stopped hperforms =>
      intro e he
      obtain rfl := Option.some.inj he
      exact Action.findsSpecs_of_performs (hfiles _ List.mem_cons_self) hperforms
  | next _ _ ih =>
      apply ih
      intro action haction
      exact hfiles action (List.mem_cons_of_mem _ haction)

namespace PageTest

variable {source : BrowserSource}

/-- A page test whose specs are files is not stopped because a spec was not found. -/
theorem foundSpecs_of_run {test : PageTest} (hfiles : test.SpecsExist tree)
    {result : PageTestResult}
    {trace : Trace} (h : test.run source tree = some (some result, trace)) : result.FoundSpecs := by
  cases source with
  | crashing => cases h
  | failing message =>
      obtain ⟨hresult, -⟩ := Prod.mk.inj (Option.some.inj h)
      obtain rfl := Option.some.inj hresult
      exact PageTestResult.foundSpecs_of_browser rfl
  | copies template =>
      obtain ⟨steps, ending, hgoes, hleft⟩ := leftBy_of_run h
      apply PageTestResult.foundSpecs_of_fatal hleft.fatal
      cases hgoes with
      | refused _ _ =>
          intro e he
          obtain rfl := Option.some.inj he
          exact Error.findsSpecs_browser _
      | opened _ hfollows => exact hfollows.findsSpecs hfiles

/-- None of some page tests whose specs are files is stopped because a spec was not found. -/
theorem foundSpecs_of_runAll {tests : List PageTest} (hfiles : ∀ test ∈ tests, test.SpecsExist tree)
    {results : List PageTestResult} {trace : Trace}
    (h : runAll source tree tests = some (some results, trace)) :
    ∀ result ∈ results, result.FoundSpecs := by
  induction tests generalizing results trace with
  | nil =>
      obtain ⟨hresults, -⟩ := Prod.mk.inj (Option.some.inj h)
      obtain rfl := Option.some.inj hresults
      intro result hresult
      cases hresult
  | cons test rest ih =>
      obtain ⟨⟨first, started⟩, hfirst, h⟩ := Option.bind_eq_some_iff.mp h
      cases first with
      | none => cases h
      | some first =>
          obtain ⟨⟨others, later⟩, hothers, h⟩ := Option.bind_eq_some_iff.mp h
          cases others with
          | none => cases h
          | some others =>
              obtain ⟨hresults, -⟩ := Prod.mk.inj (Option.some.inj h)
              obtain rfl := Option.some.inj hresults
              have hrest :=
                ih (fun test htest => hfiles test (List.mem_cons_of_mem _ htest)) hothers
              intro result hresult
              rcases List.mem_cons.mp hresult with rfl | hresult
              · exact foundSpecs_of_run (hfiles test List.mem_cons_self) hfirst
              · exact hrest result hresult

end PageTest

theorem Suite.SpecsExist.pageTest {s : Suite} (h : s.SpecsExist tree) {test : PageTest}
    (htest : test ∈ s.pageTests) : test.SpecsExist tree := by
  intro action haction path hpath
  apply h
  rw [Suite.specs, List.mem_flatMap]
  exact ⟨test, htest, List.mem_flatMap.mpr ⟨action, haction, hpath⟩⟩

/-- The page tests of a suite that was taken down are replaced by one that was stopped by another
error. -/
theorem Suite.foundSpecs_of_run {source : BrowserSource} {s : Suite} (hfiles : s.SpecsExist tree)
    {run : SuiteRun} (h : s.run source tree = some run) :
    ∀ result ∈ run.result.pageTests, result.FoundSpecs := by
  obtain ⟨⟨results, trace⟩, hresults, h⟩ := Option.bind_eq_some_iff.mp h
  cases results with
  | none =>
      obtain rfl := Option.some.inj h
      intro result hresult
      obtain rfl := List.mem_singleton.mp hresult
      exact PageTestResult.foundSpecs_of_browser rfl
  | some results =>
      obtain rfl := Option.some.inj h
      exact PageTest.foundSpecs_of_runAll (fun test htest => hfiles.pageTest htest) hresults

end

namespace Execution

variable {config : Configuration} {source : BrowserSource} {tree : FileTree} {suites : List Suite}

theorem missingSpec?_eq_some_iff {path : Path} : missingSpec? tree suites = some path ↔
    tree.isFile path = false ∧ ∃ before after,
      suites.flatMap Suite.specs = before ++ path :: after ∧
      ∀ earlier ∈ before, tree.isFile earlier = true := by
  rw [missingSpec?, List.find?_eq_some_iff_append]
  simp only [Bool.not_eq_true', Bool.not_not]

theorem missingSpec?_eq_none_iff :
    missingSpec? tree suites = none ↔ ∀ s ∈ suites, s.SpecsExist tree := by
  rw [missingSpec?, List.find?_eq_none]
  simp only [Bool.not_eq_true', Bool.not_eq_false, List.mem_flatMap, Suite.SpecsExist]
  constructor
  · intro h s hs path hpath
    exact h path ⟨s, hs, hpath⟩
  · rintro h path ⟨s, hs, hpath⟩
    exact h s hs path hpath

/-- A run is given up for a missing spec exactly if there is one. The only error that a filter leads
to is another one. -/
theorem obstacle?_eq_specNotFound_iff {path : Path} :
    obstacle? config tree suites = some (.specNotFound path) ↔
      missingSpec? tree suites = some path := by
  rw [obstacle?]
  cases missingSpec? tree suites with
  | some missing => simp
  | none =>
      have hother : config.filterError? ≠ some (.specNotFound path) := by
        rw [Configuration.filterError?]
        cases config.filter with
        | none => simp
        | some filter =>
            rw [Option.bind_some]
            split <;> simp
      simp [hother]

/-- The specs of the suites are those of their checks. No other action names a spec. -/
theorem exists_missing_iff : (∃ path ∈ suites.flatMap Suite.specs, tree.isFile path = false) ↔
    ∃ s ∈ suites, ∃ test ∈ s.pageTests, ∃ specs filter, Action.check specs filter ∈ test.actions ∧
      ∃ path ∈ specs, tree.isFile path = false := by
  constructor
  · rintro ⟨path, hpath, hmissing⟩
    obtain ⟨s, hs, hpath⟩ := List.mem_flatMap.mp hpath
    obtain ⟨test, htest, hpath⟩ := List.mem_flatMap.mp hpath
    obtain ⟨action, haction, hpath⟩ := List.mem_flatMap.mp hpath
    cases action with
    | check specs filter =>
      exact ⟨s, hs, test, htest, specs, filter, haction, path, hpath, hmissing⟩
    | _ => cases hpath
  · rintro ⟨s, hs, test, htest, specs, filter, haction, path, hpath, hmissing⟩
    refine ⟨path, List.mem_flatMap.mpr ⟨s, hs, ?_⟩, hmissing⟩
    rw [Suite.specs, List.mem_flatMap]
    exact ⟨test, htest, List.mem_flatMap.mpr ⟨_, haction, hpath⟩⟩

theorem foundSpecs_of_ends {summary : Summary} {told : List Event}
    (h : Ends config source tree suites summary told) :
    ∀ t ∈ summary.pageTests, t.FoundSpecs := by
  obtain ⟨hobstacle, runs, hruns, hresults, -⟩ := h.exists_runs
  obtain ⟨hmissing, -⟩ := obstacle?_eq_none_iff.mp hobstacle
  intro t ht
  rw [Summary.pageTests, (hresults.flatMap_right SuiteResult.pageTests).mem_iff, List.flatMap_map,
    List.mem_flatMap] at ht
  obtain ⟨suiteRun, hrun, ht⟩ := ht
  obtain ⟨s, hs, hrun⟩ := hruns suiteRun hrun
  exact Suite.foundSpecs_of_run (missingSpec?_eq_none_iff.mp hmissing s hs) hrun t ht

/-- A run is given up before its first suite for a missing spec if and only if a spec of a check is
no file, whether its suite is selected or not. It names the first such spec in the order of the
catalog, has asked for no browser and has told of the error only. If a run comes to its end, one
suite after another or in a pool, no page test in its summary was stopped because a spec was not
found. -/
theorem specNotFound_iff_missing_spec (config : Configuration) (source : BrowserSource)
    (tree : FileTree) (suites : List Suite) :
    ((∃ path trace, run config source tree suites = some ⟨.error (.specNotFound path), trace⟩) ↔
      ∃ s ∈ suites, ∃ test ∈ s.pageTests, ∃ specs filter, Action.check specs filter ∈ test.actions ∧
        ∃ path ∈ specs, tree.isFile path = false) ∧
    (∀ path trace, run config source tree suites = some ⟨.error (.specNotFound path), trace⟩ →
      (∃ before after, suites.flatMap Suite.specs = before ++ path :: after ∧
        (∀ earlier ∈ before, tree.isFile earlier = true) ∧ tree.isFile path = false) ∧
      trace.events = [.globalError (.specNotFound path)] ∧ trace.calls = [] ∧
      trace.browsers = 0) ∧
    ∀ summary told, Ends config source tree suites summary told →
      ∀ t ∈ summary.pageTests, ∀ path, t.fatal ≠ some (Error.specNotFound path).display := by
  refine ⟨?_, ?_, fun summary told h => foundSpecs_of_ends h⟩
  · rw [← exists_missing_iff]
    constructor
    · rintro ⟨path, trace, h⟩
      obtain ⟨hobstacle, -⟩ := run_eq_error_iff.mp h
      obtain ⟨hfile, before, after, hspecs, -⟩ :=
        missingSpec?_eq_some_iff.mp (obstacle?_eq_specNotFound_iff.mp hobstacle)
      refine ⟨path, ?_, hfile⟩
      rw [hspecs]
      exact List.mem_append_right _ List.mem_cons_self
    · rintro ⟨path, hpath, hfile⟩
      cases hmissing : missingSpec? tree suites with
      | some missing =>
          have hobstacle : obstacle? config tree suites = some (.specNotFound missing) :=
            obstacle?_eq_specNotFound_iff.mpr hmissing
          exact ⟨missing, _, run_eq_error_iff.mpr ⟨hobstacle, rfl⟩⟩
      | none =>
          obtain ⟨s, hs, hpath⟩ := List.mem_flatMap.mp hpath
          rw [missingSpec?_eq_none_iff.mp hmissing s hs path hpath] at hfile
          cases hfile
  · intro path trace h
    obtain ⟨hobstacle, rfl⟩ := run_eq_error_iff.mp h
    obtain ⟨hfile, before, after, hspecs, hbefore⟩ :=
      missingSpec?_eq_some_iff.mp (obstacle?_eq_specNotFound_iff.mp hobstacle)
    exact ⟨⟨before, after, hspecs, hbefore, hfile⟩, rfl, rfl, rfl⟩

/-- Nobody selects the suite that checks a spec that is not there, and the run is given up. Without
that suite it comes to its end. -/
theorem specNotFound_iff_missing_spec_cell :
    (∃ trace, run { filter := some "Home" } (.copies cellBrowser) cellTree
        [checkSuite ⟨"cell.spec"⟩, checkSuite ⟨"gone.spec"⟩]
        = some ⟨.error (.specNotFound ⟨"gone.spec"⟩), trace⟩ ∧
      trace.events = [.globalError (.specNotFound ⟨"gone.spec"⟩)] ∧ trace.browsers = 0) ∧
    ∃ summary told, Ends {} (.copies cellBrowser) cellTree [checkSuite ⟨"cell.spec"⟩] summary told ∧
      summary.pageTests ≠ [] ∧
      ∀ t ∈ summary.pageTests, ∀ path, t.fatal ≠ some (Error.specNotFound path).display := by
  have hfile : cellTree.isFile ⟨"cell.spec"⟩ = true := by decide +kernel
  have hmissing : cellTree.isFile ⟨"gone.spec"⟩ = false := by decide +kernel
  constructor
  · obtain ⟨hiff, hfirst, -⟩ :=
      specNotFound_iff_missing_spec { filter := some "Home" } (.copies cellBrowser) cellTree
      [checkSuite ⟨"cell.spec"⟩, checkSuite ⟨"gone.spec"⟩]
    have hgone : Action.check [⟨"gone.spec"⟩] .all
        ∈ [Action.check [⟨"gone.spec"⟩] .all] := List.mem_singleton_self _
    obtain ⟨path, trace, hrun⟩ := hiff.mpr ⟨checkSuite ⟨"gone.spec"⟩, by simp, _,
      List.mem_singleton_self _, _, _, hgone, _, List.mem_singleton_self _, hmissing⟩
    obtain ⟨⟨before, after, hspecs, -, hpath⟩, hevents, -, hbrowsers⟩ := hfirst path trace hrun
    have hmem : path ∈ [⟨"cell.spec"⟩, ⟨"gone.spec"⟩] := by
      change [Path.mk "cell.spec", ⟨"gone.spec"⟩] = before ++ path :: after at hspecs
      rw [hspecs]
      exact List.mem_append_right _ List.mem_cons_self
    obtain rfl : path = ⟨"gone.spec"⟩ := by
      rcases List.mem_pair.mp hmem with rfl | rfl
      · rw [hfile] at hpath
        cases hpath
      · rfl
    exact ⟨trace, hrun, hevents, hbrowsers⟩
  · obtain ⟨report, hreport⟩ : ∃ report,
        validate cellTree .all 0 false labelDocument cellBrowser.page = some report := by
      rw [validate, Pass.outcome]
      exact ⟨_, rfl⟩
    have hends := ends_checkSuite hfile ofFile_cellTree hreport
    obtain ⟨-, -, hfound⟩ := specNotFound_iff_missing_spec {} (.copies cellBrowser) cellTree
      [checkSuite ⟨"cell.spec"⟩]
    exact ⟨_, _, hends, by simp [Summary.pageTests], hfound _ _ hends⟩

end Execution

end LayoutSpec
