import LayoutSpec.Proofs.Validation.Account

/-!
What can be read off the events of a pass. Its account tells every failure of the pass, and no other
at its own level; and if it tells a failure at any level, the pass has one.
-/

namespace LayoutSpec

/-- The failure that an event reports. -/
def Event.failure? : Event → Option Failure
  | .constraintError _ _ failure => some failure
  | _ => none

namespace Report

/-- The failures that the events of a report tell, at any depth. -/
def told (r : Report) : List Failure :=
  r.events.filterMap Event.failure?

theorem told_append (a b : Report) : (a ++ b).told = a.told ++ b.told :=
  List.filterMap_append

theorem told_between {first last : Event} (hfirst : first.failure? = none)
    (hlast : last.failure? = none) (r : Report) : (r.between [first] [last]).told = r.told := by
  rw [told, between, List.filterMap_append, List.filterMap_append,
    List.filterMap_cons_none hfirst, List.filterMap_cons_none hlast]
  exact List.append_nil _

end Report

/-- The failures that are reported of objects at a depth: those for which the last object that is
still open, of the objects around them, has that depth. -/
def failuresAt (depth : Nat) : List Nat → List Event → List Failure
  | _, [] => []
  | around, .object _ d :: rest => failuresAt depth (d :: around) rest
  | around, .afterObject _ _ :: rest => failuresAt depth around.tail rest
  | around, .constraintError _ _ failure :: rest =>
    (if around.head? = some depth then [failure] else []) ++ failuresAt depth around rest
  | around, _ :: rest => failuresAt depth around rest

namespace PassPart

/-- The number of components around a part. -/
def depth : PassPart → Nat
  | pass p => p.depth
  | sections scope _ | objects scope _ | items scope _ _ | item scope _ _ _ => scope.depth

/-- Constraints are told while their object is open. -/
def StandsIn (around : List Nat) : PassPart → Prop
  | items scope _ _ | item scope _ _ _ => around.head? = some scope.depth
  | _ => True

end PassPart

namespace Account

variable {tree : FileTree} {filter : TagFilter} {part : PassPart} {r : Report}

theorem failuresAt_ofVerdict {level depth : Nat} {around : List Nat}
    (haround : around.head? = some level) (name : String) (c : Constraint)
    (verdict : CheckResult Unit) (rest : List Event) :
    failuresAt depth around ((Report.ofVerdict name c verdict).events ++ rest)
      = (Report.ofVerdict name c verdict).failuresIf (level = depth)
        ++ failuresAt depth around rest := by
  rcases verdict with finding | ⟨⟩
  case error =>
    change (if around.head? = some depth then _ else _) ++ _ = _
    simp only [haround, Option.some_inj]
    rfl
  case ok => simp [Report.ofVerdict, Report.failuresIf, failuresAt]

/-- At the level of a part and above it, an account tells the failures of the part at its level and
no others. -/
theorem failuresAt_append (h : Account tree filter part r) {depth : Nat}
    (hdepth : depth ≤ part.depth)
    {around : List Nat} (haround : part.StandsIn around) (rest : List Event) :
    failuresAt depth around (r.events ++ rest)
      = r.failuresIf (part.depth = depth) ++ failuresAt depth around rest := by
  induction h generalizing around rest with
  | checked hc => exact failuresAt_ofVerdict haround _ _ _ rest
  | unavailable hcomponent => exact failuresAt_ofVerdict haround _ _ _ rest
  | @component scope name spec document page locator inside hcomponent _ ih =>
      have hle : depth ≤ scope.depth := hdepth
      -- The pass inside is below the level that is looked at.
      have hbelow : ¬ scope.depth + 1 = depth := by omega
      have hinside : ∀ rest, failuresAt depth around (inside.events ++ rest)
          = failuresAt depth around rest := by
        intro rest
        refine (ih (Nat.le_succ_of_le hle) trivial rest).trans ?_
        exact congrArg (· ++ _) (Report.failuresIf_neg hbelow inside)
      rw [Report.events_append, List.append_assoc, hinside, failuresAt_ofVerdict haround]
      rfl
  | noItem | noObject | noSection => simp [Report.failuresIf]
  | @nextItem scope name c rest' verdict first others _ _ _ ihitem ihrest =>
      have hfirst := ihitem hdepth haround (others.events ++ rest)
      have hothers := ihrest hdepth haround rest
      rw [Report.events_append, List.append_assoc, hfirst, hothers, ← List.append_assoc,
        Report.failuresIf_append]
      rfl
  | lastItem _ ih => exact ih hdepth haround rest
  | @nextObject scope name constraints rest' items others _ _ ihitems ihrest =>
      have hitems := @ihitems hdepth (scope.depth :: around) rfl
        (.afterObject name scope.depth :: (others.events ++ rest))
      have hothers := @ihrest hdepth around trivial rest
      calc failuresAt depth around _
          = failuresAt depth (scope.depth :: around)
              (items.events ++ .afterObject name scope.depth :: (others.events ++ rest)) := by
            simp [Report.between, failuresAt]
        _ = items.failuresIf (scope.depth = depth)
              ++ failuresAt depth around (others.events ++ rest) := hitems
        _ = _ := by
            rw [hothers, ← List.append_assoc, Report.failuresIf_append]
            rfl
  | @nextSection scope sec rest' branches objects others _ _ _ ihobjects ihrest =>
      have hobjects := @ihobjects hdepth around trivial
        (.afterSection sec.tags :: (others.events ++ rest))
      have hothers := @ihrest hdepth around trivial rest
      calc failuresAt depth around _
          = failuresAt depth around
              (objects.events ++ .afterSection sec.tags :: (others.events ++ rest)) := by
            simp [Report.between, failuresAt]
        _ = objects.failuresIf (scope.depth = depth)
              ++ failuresAt depth around (others.events ++ rest) := hobjects
        _ = _ := by
            rw [hothers, ← List.append_assoc, Report.failuresIf_append]
            rfl
  | pass _ ih => exact ih hdepth trivial rest

theorem sublist_ofVerdict (name : String) (c : Constraint) (verdict : CheckResult Unit) :
    (Report.ofVerdict name c verdict).failures.Sublist (Report.ofVerdict name c verdict).told := by
  rcases verdict with finding | ⟨⟩
  case error => exact .refl _
  case ok => exact .slnil

/-- All failures of an account are told in it, in their order. Between them there can be those of
passes inside components. -/
theorem sublist_told (h : Account tree filter part r) : r.failures.Sublist r.told := by
  induction h with
  | checked | unavailable => exact sublist_ofVerdict _ _ _
  | component =>
      rw [Report.told_append]
      exact (sublist_ofVerdict _ _ _).trans (List.sublist_append_right _ _)
  | noItem | noObject | noSection => exact .slnil
  | nextItem _ _ _ ihitem ihrest =>
      rw [Report.told_append]
      exact ihitem.append ihrest
  | lastItem _ ih => exact ih
  | nextObject _ _ ihitems ihrest =>
      rw [Report.told_append, Report.told_between rfl rfl]
      exact ihitems.append ihrest
  | nextSection _ _ _ ihobjects ihrest =>
      rw [Report.told_append, Report.told_between rfl rfl]
      exact ihobjects.append ihrest
  | pass _ ih => exact ih

theorem told_ofVerdict {name : String} {c : Constraint} {verdict : CheckResult Unit}
    (h : (Report.ofVerdict name c verdict).failures = []) :
    (Report.ofVerdict name c verdict).told = [] := by
  rcases verdict with finding | ⟨⟩
  case error => cases h
  case ok => rfl

/-- Where nothing is found no failure is told, however deep: a component whose pass finds something
fails itself. -/
theorem told_eq_nil (h : Account tree filter part r) (hr : r.failures = []) : r.told = [] := by
  induction h with
  | checked | unavailable => exact told_ofVerdict hr
  | @component scope name spec document page locator inside hcomponent _ ih =>
      have hinside : inside.failures = [] := by
        cases hfailures : inside.failures with
        | nil => rfl
        | cons failure failures =>
            rw [hfailures] at hr
            cases hr
      have htold : Report.told ⟨[], inside.events⟩ = [] := ih hinside
      rw [Report.told_append, htold]
      exact told_ofVerdict hr
  | noItem | noObject | noSection => rfl
  | nextItem _ _ _ ihitem ihrest =>
      obtain ⟨hfirst, hothers⟩ := List.append_eq_nil_iff.mp hr
      rw [Report.told_append, ihitem hfirst, ihrest hothers]
      rfl
  | lastItem _ ih => exact ih hr
  | nextObject _ _ ihitems ihrest =>
      obtain ⟨hitems, hothers⟩ := List.append_eq_nil_iff.mp hr
      rw [Report.told_append, Report.told_between rfl rfl, ihitems hitems, ihrest hothers]
      rfl
  | nextSection _ _ _ ihobjects ihrest =>
      obtain ⟨hobjects, hothers⟩ := List.append_eq_nil_iff.mp hr
      rw [Report.told_append, Report.told_between rfl rfl, ihobjects hobjects, ihrest hothers]
      rfl
  | pass _ ih => exact ih hr

theorem told_eq_nil_iff (h : Account tree filter part r) : r.told = [] ↔ r.failures = [] := by
  constructor
  · intro htold
    have hsublist := h.sublist_told
    rw [htold] at hsublist
    exact List.sublist_nil.mp hsublist
  · exact h.told_eq_nil

/-- Errors are told by whoever runs a pass. In the pass itself there is nothing but failures. -/
theorem countP_globalError (h : Account tree filter part r) :
    r.events.countP Observer.countsAsGlobalError = 0 := by
  have hverdict : ∀ (name : String) (c : Constraint) (verdict : CheckResult Unit),
      (Report.ofVerdict name c verdict).events.countP Observer.countsAsGlobalError = 0 := by
    intro name c verdict
    rcases verdict with finding | ⟨⟩ <;> rfl
  induction h with
  | checked | unavailable => exact hverdict _ _ _
  | component _ _ ih =>
      rw [Report.events_append, List.countP_append, hverdict, Nat.add_zero]
      exact ih
  | noItem | noObject | noSection => rfl
  | nextItem _ _ _ ihitem ihrest =>
      rw [Report.events_append, List.countP_append, ihitem, ihrest]
  | lastItem _ ih => exact ih
  | nextObject _ _ ihitems ihrest =>
      rw [Report.events_append, List.countP_append, ihrest, Report.between, List.countP_append,
        List.countP_append, ihitems]
      rfl
  | nextSection _ _ _ ihobjects ihrest =>
      rw [Report.events_append, List.countP_append, ihrest, Report.between, List.countP_append,
        List.countP_append, ihobjects]
      rfl
  | pass _ ih => exact ih

end Account

theorem Report.length_told (r : Report) :
    r.told.length = r.events.countP Observer.countsAsConstraintError := by
  rw [told, List.length_filterMap_eq_countP]
  refine List.countP_congr fun e _ => ?_
  cases e <;> simp [Event.failure?, Observer.countsAsConstraintError, Event.hook]

theorem Event.failure?_eq_none_iff {e : Event} : e.failure? = none ↔ e.hook ≠ .constraintError := by
  cases e <;> simp [failure?, hook]

theorem Report.told_eq_nil_iff {r : Report} :
    r.told = [] ↔ ∀ e ∈ r.events, e.hook ≠ .constraintError := by
  rw [told, List.filterMap_eq_nil_iff]
  exact forall₂_congr fun e _ => Event.failure?_eq_none_iff

/-- What a recorder keeps of a reported pass is the account of the pass, if the patterns can be
compiled. The failures that it tells at the level of the pass are those that the pass returns, in
their order, and it tells a failure at some level if and only if the pass returns one. -/
theorem validate_accounted {tree : FileTree} {filter : TagFilter} {depth : Nat}
    {document : Document} {page : Page} {report : Report} (htree : tree.SpecsCompile)
    (hdocument : document.Compiles)
    (h : validate tree filter depth false document page = some report) :
    (∀ kept, (Observer.recorder kept).notifyAll report.events = .recorder (kept ++ report.events)) ∧
      Account tree filter (.pass ⟨depth, false, document, page⟩) report ∧
      failuresAt depth [] report.events = report.failures ∧
      (report.failures = [] ↔ ∀ e ∈ report.events, e.hook ≠ .constraintError) := by
  have haccount : Account tree filter (.pass ⟨depth, false, document, page⟩) report :=
    Pass.account_of_outcome htree rfl hdocument h
  have hlevel : failuresAt depth [] (report.events ++ []) = _ :=
    haccount.failuresAt_append (Nat.le_refl depth) trivial []
  refine ⟨fun kept => Observer.notifyAll_recorder kept report.events, haccount, ?_, ?_⟩
  · rw [List.append_nil] at hlevel
    refine hlevel.trans ?_
    change (if depth = depth then report.failures else []) ++ [] = _
    rw [if_pos rfl, List.append_nil]
  · rw [← haccount.told_eq_nil_iff, Report.told_eq_nil_iff]

def labelText : String :=
  "=====\nlabel css l\n=====\nlabel\n    width: 5px\n"

def cellTree : FileTree where
  files := [(["cell.spec"], .text labelText)]

/-- What `labelText` says. -/
def labelDocument : Document where
  objects := .ofList [("label", ⟨.css, "l", none⟩)]
  sections := [{ groups := [⟨"label", [.width (.exactly 5)]⟩] }]

/-- A cell whose content has a spec of its own. -/
def cellDocument : Document where
  objects := .ofList [("cell", ⟨.css, "c", none⟩)]
  sections := [{ tags := ["wide"], groups := [⟨"cell", [.component ⟨"cell.spec"⟩, .visible]⟩] }]

def cellPage : Page where
  elements := [(⟨.css, "c", none⟩, .shown ⟨10, 10, 100, 50⟩),
    (⟨.css, "l", none⟩, .shown ⟨20, 20, 8, 8⟩)]

def labelFailure : Failure :=
  ⟨[⟨10, 10, 8, 8⟩], ["\"label\" width is 8px instead of 5px"]⟩

def cellFailure : Failure :=
  ⟨[⟨10, 10, 100, 50⟩], ["Child component spec contains 1 errors"]⟩

/-- The report about the label, seen from the cell. -/
def labelReport : Report where
  failures := [labelFailure]
  events := [.beforeSection [], .object "label" 1,
    .constraintError "label" (.width (.exactly 5)) labelFailure, .afterObject "label" 1,
    .afterSection []]

/-- The report about the cell and, inside of it, the label. -/
def cellReport : Report where
  failures := [cellFailure]
  events := [.object "cell" 0] ++ labelReport.events
    ++ [.constraintError "cell" (.component ⟨"cell.spec"⟩) cellFailure,
      .constraintSuccess "cell" .visible, .afterObject "cell" 0]

theorem ofFile_cellTree : Document.ofFile cellTree ⟨"cell.spec"⟩ = .ok labelDocument := by
  have hkey : cellTree.fileKey? ⟨"cell.spec"⟩ = some ["cell.spec"] := by decide +kernel
  have hparent : (Path.mk "cell.spec").parent? = some ⟨""⟩ := by decide +kernel
  refine Document.ofFile_eq_ok hkey rfl ?_
  rw [hparent, Document.readWithin]
  rfl

/-- Wherever the spec of the label is looked for, it is the one in the tree. -/
theorem specsCompile_cellTree : cellTree.SpecsCompile := by
  intro path d h
  obtain ⟨key, text, hcontent, hread⟩ := Document.readWithin_of_ofFile h
  have hentry : (key, FileContent.text text) ∈ cellTree.files := mem_of_lookup_eq_some hcontent
  obtain ⟨rfl, htext⟩ := Prod.mk.inj (List.mem_singleton.mp hentry)
  obtain rfl := FileContent.text.inj htext
  have hlabel : Document.readWithin cellTree [["cell.spec"]] path.parent? labelText
      = .ok labelDocument := by
    rw [Document.readWithin]
    rfl
  obtain rfl := Except.ok.inj (hlabel.symm.trans hread)
  decide +kernel

theorem validate_label : validate cellTree .all 1 false labelDocument
    (cellPage.seenFrom ⟨10, 10, 100, 50⟩) = some labelReport := by
  rw [validate, Pass.outcome]
  rfl

def cellScope : Scope :=
  .ofDocument cellDocument cellPage .all cellTree 0

theorem component_cell : Check.component cellScope "cell" ⟨"cell.spec"⟩
    = .ok (labelDocument, cellPage.seenFrom ⟨10, 10, 100, 50⟩, ⟨.css, "c", none⟩) := by
  have hfile : cellTree.isFile ⟨"cell.spec"⟩ = true := by decide +kernel
  simp only [Check.component, cellScope, Scope.ofDocument, hfile, ofFile_cellTree]
  rfl

theorem checkObject_cell :
    (cellScope.checkObject false [.component ⟨"cell.spec"⟩, .visible] "cell").report
        (Pass.outcome cellTree .all)
      = some cellReport := by
  have hlabel : Pass.outcome cellTree .all
      ⟨1, false, labelDocument, cellPage.seenFrom ⟨10, 10, 100, 50⟩⟩ = some labelReport :=
    validate_label
  have hconstraint : (cellScope.checkConstraint false "cell" (.component ⟨"cell.spec"⟩)).heard
      (Pass.outcome cellTree .all) = some (.error (.broken cellFailure), labelReport.events) := by
    rw [Scope.checkConstraint, component_cell]
    exact (Walk.heard_enter _ _).trans (hlabel ▸ rfl)
  rw [Scope.report_checkObject, Walk.report_eq_map, Scope.checkConstraints, Walk.heard_bind,
    hconstraint]
  rfl

theorem validate_cell :
    validate cellTree .all 0 false cellDocument cellPage
      = some (cellReport.between [.beforeSection ["wide"]] [.afterSection ["wide"]]) := by
  have hnames : cellScope.names "cell" = .ok ["cell"] := rfl
  have hgroup : (cellScope.checkGroup false
      ⟨"cell", [.component ⟨"cell.spec"⟩, .visible]⟩).report (Pass.outcome cellTree .all)
      = some cellReport := by
    rw [Scope.report_checkGroup _ _ _ hnames, Report.collect, checkObject_cell]
    rfl
  have hgroups : (cellScope.checkGroups false
      [⟨"cell", [.component ⟨"cell.spec"⟩, .visible]⟩]).report (Pass.outcome cellTree .all)
      = some cellReport := by
    rw [Scope.report_checkGroups, Report.collect, hgroup]
    rfl
  rw [validate, Pass.outcome]
  change (cellScope.checkSections false cellDocument.sections).report _ = _
  rw [Scope.checkSections, Walk.report_collect]
  change Report.collect _ cellDocument.sections = _
  rw [cellDocument, Report.collect, Scope.report_checkSection, hgroups]
  rfl

theorem validate_accounted_cell :
    ∃ report, validate cellTree .all 0 false cellDocument cellPage = some report ∧
      Account cellTree .all (.pass ⟨0, false, cellDocument, cellPage⟩) report ∧
      failuresAt 0 [] report.events = [cellFailure] ∧
      failuresAt 1 [] report.events = [labelFailure] := by
  have hdocument : cellDocument.Compiles := by decide +kernel
  obtain ⟨-, haccount, hlevel, -⟩ :=
    validate_accounted specsCompile_cellTree hdocument validate_cell
  exact ⟨_, validate_cell, haccount, hlevel, rfl⟩

end LayoutSpec
