import LayoutSpec.Proofs.Regex.GlobSource
import LayoutSpec.Proofs.Suite.Verdict

/-!
Which suites of a catalog run. A filter goes by whole names, with any run of characters in the place
of each star, but a star does not cross the end of a line. So it selects the names that it stands
for and that have as many line feeds as it has itself; all others are skipped.
-/

namespace LayoutSpec

namespace Wildcard

/-- A star that is any run of characters. -/
def anyRun : Wildcard where
  admits _ := true
  mayBeEmpty := true
  sign := "(?s:.)"
  set := .complement .empty
  contains_set _ := rfl

variable {w : Wildcard} {pattern text : List Char}

/-- A text has every character of its pattern, stars aside, and so at least as many of each. -/
theorem count_le_of_standsFor {c : Char} (hc : c ≠ '*') (h : w.StandsFor pattern text) :
    pattern.count c ≤ text.count c := by
  induction pattern generalizing text with
  | nil => simp
  | cons p pattern ih =>
      by_cases hp : p = '*'
      · subst hp
        obtain ⟨run, rest, -, hrest, rfl⟩ := standsFor_star.mp h
        have hless := ih hrest
        rw [List.count_cons_of_ne hc.symm, List.count_append]
        omega
      · obtain ⟨rest, hrest, rfl⟩ := (standsFor_letter hp).mp h
        have hless := ih hrest
        rw [List.count_cons, List.count_cons]
        omega

theorem fills_anyText_iff {run : List Char} : anyText.Fills run ↔ run.count '\n' = 0 := by
  rw [List.count_eq_zero]
  constructor
  · rintro ⟨hrun, -⟩ hfeed
    exact absurd (hrun _ hfeed) (by decide)
  · intro hfeed
    refine ⟨fun c hc => ?_, nofun⟩
    have hne : c ≠ '\n' := ne_of_mem_of_not_mem hc hfeed
    simpa [anyText] using hne

theorem fills_anyRun (run : List Char) : anyRun.Fills run :=
  ⟨fun _ _ => rfl, nofun⟩

/-- Stars that stay in their line take in no line feed: all of the text are those of the pattern. So
a filter whose stars cross no line end differs from one with any runs exactly by the number of line
feeds. -/
theorem standsFor_anyText_iff : anyText.StandsFor pattern text ↔
    anyRun.StandsFor pattern text ∧ text.count '\n' = pattern.count '\n' := by
  induction pattern generalizing text with
  | nil =>
      rw [standsFor_nil, standsFor_nil]
      constructor
      · rintro rfl
        exact ⟨rfl, rfl⟩
      · exact And.left
  | cons p pattern ih =>
      by_cases hp : p = '*'
      · subst hp
        rw [standsFor_star, standsFor_star, List.count_cons_of_ne (by decide)]
        constructor
        · rintro ⟨run, rest, hrun, hrest, rfl⟩
          obtain ⟨hstands, hcount⟩ := ih.mp hrest
          refine ⟨⟨run, rest, fills_anyRun run, hstands, rfl⟩, ?_⟩
          rw [List.count_append, fills_anyText_iff.mp hrun, Nat.zero_add, hcount]
        · rintro ⟨⟨run, rest, -, hrest, rfl⟩, hcount⟩
          -- The rest has at least the line feeds of the pattern, so that none is left for the run.
          have hless := count_le_of_standsFor (c := '\n') (by decide) hrest
          rw [List.count_append] at hcount
          exact ⟨run, rest, fills_anyText_iff.mpr (by omega), ih.mpr ⟨hrest, by omega⟩, rfl⟩
      · rw [standsFor_letter hp, standsFor_letter hp]
        constructor
        · rintro ⟨rest, hrest, rfl⟩
          obtain ⟨hstands, hcount⟩ := ih.mp hrest
          exact ⟨⟨rest, hstands, rfl⟩, by rw [List.count_cons, List.count_cons, hcount]⟩
        · rintro ⟨⟨rest, hrest, rfl⟩, hcount⟩
          rw [List.count_cons, List.count_cons, Nat.add_right_cancel_iff] at hcount
          exact ⟨rest, ih.mpr ⟨hrest, hcount⟩, rfl⟩

end Wildcard

open Wildcard

namespace Configuration

variable {config : Configuration} {filter : String}

theorem compiles_of_filterError? (h : config.filter = some filter)
    (hcompiles : config.filterError? = none) : anyText.compiles filter.toList = true := by
  rw [filterError?, h, Option.bind_some] at hcompiles
  by_contra hlarge
  rw [if_neg hlarge] at hcompiles
  cases hcompiles

theorem selects_eq (h : config.filter = some filter) (hcompiles : config.filterError? = none)
    (name : String) : config.selects name = anyText.accepts filter.toList name.toList := by
  rw [selects, h]
  simp only [compiles_of_filterError? h hcompiles, Bool.true_and]

theorem selects_iff (h : config.filter = some filter) (hcompiles : config.filterError? = none)
    (name : String) :
    config.selects name = true ↔ anyRun.StandsFor filter.toList name.toList ∧
      name.toList.count '\n' = filter.toList.count '\n' := by
  rw [selects_eq h hcompiles, accepts_iff_standsFor, standsFor_anyText_iff]

/-- The suites that are left out are those whose names the filter does not stand for, unless it
stands for one across the end of a line. -/
theorem map_name_filter_selects_eq_iff (h : config.filter = some filter)
    (hcompiles : config.filterError? = none) (suites : List Suite) :
    (suites.filter fun s => !config.selects s.name).map Suite.name
        = (suites.filter fun s => !anyRun.accepts filter.toList s.name.toList).map Suite.name ↔
      ∀ s ∈ suites, anyRun.StandsFor filter.toList s.name.toList →
        s.name.toList.count '\n' = filter.toList.count '\n' := by
  constructor
  · intro hsame s hs hstands
    by_contra hcount
    have hselects : config.selects s.name = false :=
      Bool.eq_false_iff.mpr fun hselects => hcount ((selects_iff h hcompiles _).mp hselects).2
    have hleft : s.name ∈ (suites.filter fun s => !config.selects s.name).map Suite.name :=
      List.mem_map_of_mem (List.mem_filter.mpr ⟨hs, by rw [hselects]; rfl⟩)
    rw [hsame] at hleft
    obtain ⟨other, hother, hname⟩ := List.mem_map.mp hleft
    have haccepts : anyRun.accepts filter.toList other.name.toList = false := by
      simpa using (List.mem_filter.mp hother).2
    rw [hname, accepts_iff_standsFor.mpr hstands] at haccepts
    cases haccepts
  · intro hcounts
    refine congrArg (List.map Suite.name) (List.filter_congr fun s hs => congrArg not ?_)
    rw [Bool.eq_iff_iff, selects_iff h hcompiles, accepts_iff_standsFor]
    exact and_iff_left_of_imp (hcounts s hs)

end Configuration

section

variable {config : Configuration} {source : BrowserSource} {tree : FileTree} {suites : List Suite}
  {summary : Summary} {told : List Event}

namespace Job

/-- The jobs of a catalog carry the runs of the selected suites. -/
theorem runsOf_of_mapM {start : Nat} {jobs : List Job}
    (h : ((suites.zipIdx start).filter fun (s, _) => config.selects s.name).mapM
      (fun (s, place) => do return (⟨place, ← s.run source tree⟩ : Job)) = some jobs) :
    RunsOf source tree (suites.filter fun s => config.selects s.name) (jobs.map Job.run) := by
  induction suites generalizing start jobs with
  | nil =>
      obtain rfl := Option.some.inj h
      exact .nil
  | cons s suites ih =>
      rw [List.zipIdx_cons] at h
      cases hselects : config.selects s.name with
      | false =>
          rw [List.filter_cons_of_neg (by simp [hselects])] at h ⊢
          exact ih h
      | true =>
          rw [List.filter_cons_of_pos (by simp [hselects])] at h ⊢
          rw [List.mapM_cons] at h
          obtain ⟨job, hjob, h⟩ := Option.bind_eq_some_iff.mp h
          obtain ⟨others, hothers, h⟩ := Option.bind_eq_some_iff.mp h
          obtain ⟨run, hrun, hplaced⟩ := Option.bind_eq_some_iff.mp hjob
          obtain rfl := Option.some.inj hplaced
          obtain rfl := Option.some.inj h
          exact .cons hrun (ih hothers)

end Job

/-- A run that comes to its end has the results of the selected suites and the names of the others,
both in the order of the catalog. -/
theorem Execution.Ends.exists_runsOf_selected (h : Ends config source tree suites summary told) :
    ∃ runs, RunsOf source tree (suites.filter fun s => config.selects s.name) runs ∧
      summary = ⟨runs.map SuiteRun.result,
        (suites.filter fun s => !config.selects s.name).map Suite.name⟩ := by
  cases h with
  | @sequential _ trace hrun =>
      obtain ⟨-, results, hall, rfl⟩ := run_eq_ok_iff.mp hrun
      obtain ⟨runs, hruns, rfl, -⟩ := runsOf_of_runAll hall
      exact ⟨runs, hruns, rfl⟩
  | @pooled jobs workers schedule pool hmissing hjobs hafter hjoined =>
      have hruns := Job.runsOf_of_mapM hjobs
      obtain ⟨placed, hplaced, -, hplaces⟩ := Job.exists_ofSuites hruns
      obtain rfl := Option.some.inj (hjobs.symm.trans hplaced)
      refine ⟨jobs.map Job.run, hruns, ?_⟩
      rw [Pool.results_eq hafter hjoined hplaces, List.map_map]
      rfl

/-- A filter goes by whole names. Its expression is refused for its size only, and then nothing is
run: the error of the configuration is reported, unless a spec is missing. A run that comes to its
end has compiled it; it has the results of the suites whose names the expression matches, which are
those that the filter stands for and that have its number of line feeds, and leaves out all others,
in the order of the catalog. These are the ones that the filter does not stand for, if and only if
it stands for no name of the catalog across the end of a line. -/
theorem Execution.selects_iff_standsFor_in_lines {filter : String}
    (hfilter : config.filter = some filter) :
    (Regex.compile? (anyText.source filter.toList) = none →
      ∃ message, ∀ source tree suites, missingSpec? tree suites = none →
        run config source tree suites = some ⟨.error (.invalidConfig message),
          .ofEvents [.globalError (.invalidConfig message)]⟩) ∧
    ∀ {source tree suites summary told}, Ends config source tree suites summary told →
      ∃ r, Regex.compile? (anyText.source filter.toList) = some r ∧
        (∀ name, config.selects name = r.isMatch name.toList) ∧
        (∀ name, config.selects name = true ↔ anyRun.StandsFor filter.toList name.toList ∧
          name.toList.count '\n' = filter.toList.count '\n') ∧
        (∃ runs, RunsOf source tree (suites.filter fun s => config.selects s.name) runs ∧
          summary = ⟨runs.map SuiteRun.result,
            (suites.filter fun s => !config.selects s.name).map Suite.name⟩) ∧
        (summary.skipped
            = (suites.filter fun s => !anyRun.accepts filter.toList s.name.toList).map Suite.name ↔
          ∀ s ∈ suites, anyRun.StandsFor filter.toList s.name.toList →
            s.name.toList.count '\n' = filter.toList.count '\n') := by
  have hsource := compile?_source isRead_anyText filter.toList
  constructor
  · intro hrefused
    rw [hrefused] at hsource
    have hlarge : ¬ anyText.compiles filter.toList = true := by
      intro hcompiles
      rw [if_pos hcompiles] at hsource
      cases hsource
    obtain ⟨message, herror⟩ : ∃ message, config.filterError? = some (.invalidConfig message) := by
      rw [Configuration.filterError?, hfilter, Option.bind_some, if_neg hlarge]
      exact ⟨_, rfl⟩
    refine ⟨message, fun source tree suites hmissing => run_eq_error_iff.mpr ⟨?_, rfl⟩⟩
    rw [obstacle?, hmissing]
    exact herror
  · intro source tree suites summary told h
    obtain ⟨hobstacle, -⟩ := h.exists_runs
    obtain ⟨-, hcompiles⟩ := obstacle?_eq_none_iff.mp hobstacle
    obtain ⟨runs, hruns, rfl⟩ := h.exists_runsOf_selected
    rw [if_pos (Configuration.compiles_of_filterError? hfilter hcompiles)] at hsource
    refine ⟨_, hsource, fun name => ?_, config.selects_iff hfilter hcompiles, ⟨runs, hruns, rfl⟩,
      config.map_name_filter_selects_eq_iff hfilter hcompiles suites⟩
    rw [config.selects_eq hfilter hcompiles, isMatch_regex]

end

/-- The filter stands for the first name and the last. -/
def linedSuites : List Suite := [plainSuite "Home 1", plainSuite "Login", plainSuite "Home\n2"]

theorem standsFor_home {rest : List Char} :
    anyRun.StandsFor "Home*".toList ("Home".toList ++ rest) :=
  ⟨"Home".toList, [[]], [rest], rfl, rfl, by simp [fills_anyRun], by simp⟩

/-- Only the first suite is run. -/
theorem Execution.ends_linedSuites :
    Ends homeFilter (.failing "no browser") {} linedSuites
      ⟨[(browserlessRun "Home 1").result], ["Login", "Home\n2"]⟩
      (browserlessRun "Home 1").trace.events := by
  have hfirst : homeFilter.selects "Home 1" = true := by
    rw [selects_homeFilter]
    cbv
  have hlogin : homeFilter.selects "Login" = false := by
    rw [selects_homeFilter]
    cbv
  have hlast : homeFilter.selects "Home\n2" = false := by
    rw [selects_homeFilter]
    cbv
  have hselected : (linedSuites.filter fun s => homeFilter.selects s.name)
      = [plainSuite "Home 1"] := by
    simp [linedSuites, hfirst, hlogin, hlast]
  have hrejected : (linedSuites.filter fun s => !homeFilter.selects s.name)
      = [plainSuite "Login", plainSuite "Home\n2"] := by
    simp [linedSuites, hfirst, hlogin, hlast]
  have hrun : Execution.run homeFilter (.failing "no browser") {} linedSuites
      = some ⟨.ok ⟨[(browserlessRun "Home 1").result], ["Login", "Home\n2"]⟩,
        (browserlessRun "Home 1").trace ++ {}⟩ := by
    have hobstacle : Execution.obstacle? homeFilter {} linedSuites = none := by
      decide +kernel
    refine Execution.run_eq_ok_iff.mpr ⟨hobstacle, [(browserlessRun "Home 1").result], ?_, ?_⟩
    · rw [hselected]
      rfl
    · rw [hrejected]
      rfl
  exact .sequential hrun

theorem Execution.selects_iff_standsFor_in_lines_linedSuites :
    homeFilter.filter = some "Home*" ∧
    (∃ told, Ends homeFilter (.failing "no browser") {} linedSuites
      ⟨[(browserlessRun "Home 1").result], ["Login", "Home\n2"]⟩ told) ∧
    ∃ r, Regex.compile? "^Home.*$".toList = some r ∧ r.isMatch "Home 1".toList = true ∧
      r.isMatch "Home\n2".toList = false := by
  have hfilter : homeFilter.filter = some "Home*" := rfl
  obtain ⟨r, hcompiled, hmatch, hselects, -⟩ :=
    (Execution.selects_iff_standsFor_in_lines hfilter).2 Execution.ends_linedSuites
  refine ⟨hfilter, ⟨_, Execution.ends_linedSuites⟩, r, hcompiled, ?_, ?_⟩
  · exact (hmatch _).symm.trans ((hselects _).mpr ⟨standsFor_home, by decide⟩)
  · rw [← hmatch, Bool.eq_false_iff]
    exact fun hselected => absurd ((hselects _).mp hselected).2 (by decide)

/-- A name that the filter stands for is passed over for the line feed in it. -/
theorem Execution.not_selects_twoLines :
    anyRun.StandsFor "Home*".toList "Home\n2".toList ∧ homeFilter.filter = some "Home*" ∧
    homeFilter.selects "Home\n2" = false ∧
    (∃ told, Ends homeFilter (.failing "no browser") {} linedSuites
      ⟨[(browserlessRun "Home 1").result], ["Login", "Home\n2"]⟩ told) := by
  refine ⟨standsFor_home, rfl, ?_, _, Execution.ends_linedSuites⟩
  rw [selects_homeFilter]
  cbv

end LayoutSpec
