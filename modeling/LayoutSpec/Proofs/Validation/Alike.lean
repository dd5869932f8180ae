import LayoutSpec.Proofs.Document.Spelling
import LayoutSpec.Proofs.Validation.Agreement
import LayoutSpec.Proofs.Validation.Related

/-!
Passes that come to the same verdicts. How deep a pass is inside components, whether it is silent
and how the paths of specs are written has no say in what it finds, as far as other passes depend on
it: whether it finds anything. So two passes over the same page, whose specs differ in the spelling
of paths alone, start passes of which the same is true.
-/

namespace LayoutSpec

/-- Both lists have failures or neither has. -/
def SameVerdict (failures failures' : List Failure) : Prop :=
  failures.isEmpty = failures'.isEmpty

theorem SameVerdict.append {first first' others others' : List Failure}
    (h : SameVerdict first first') (hothers : SameVerdict others others') :
    SameVerdict (first ++ others) (first' ++ others') := by
  have hnil : ∀ xs ys : List Failure, (xs ++ ys).isEmpty = (xs.isEmpty && ys.isEmpty) := by
    intro xs ys
    cases xs <;> rfl
  rw [SameVerdict] at h hothers ⊢
  rw [hnil, hnil, h, hothers]

/-- Two passes are alike if they are over the same page and their specs differ at most in how the
paths of files are written. -/
def Pass.Alike (tree : FileTree) (p q : Pass) : Prop :=
  p.page = q.page ∧
    p.document.mapPaths tree.canonical = q.document.mapPaths tree.canonical

/-- Walks that enter passes of which the one stands for the other, and come to related results
whenever the verdicts about these are the same. -/
abbrev Walk.Alike {α β : Type} (same : Pass → Pass → Prop) (R : α → β → Prop) :
    Walk α → Walk β → Prop :=
  Walk.Related same SameVerdict R

/-- Things that are not told apart have the same verdict. -/
theorem Walk.Alike.collect {α β γ : Type} {same : Pass → Pass → Prop} {f : α → Walk (List Failure)}
    {g : β → Walk (List Failure)} {m : α → γ} {n : β → γ}
    (hfg : ∀ a b, m a = n b → Alike same SameVerdict (f a) (g b)) {xs : List α} {ys : List β}
    (h : xs.map m = ys.map n) :
    Alike same SameVerdict (Walk.collect f xs) (Walk.collect g ys) :=
  Walk.Related.collect (P := SameVerdict) rfl SameVerdict.append hfg h

namespace Check

variable {scope : Scope} {name : String} {tree : FileTree}

/-- What the control of a pass sees of a verdict: whether it is passed, and whether it is fatal if
it is not. -/
def severity : CheckResult Unit → Option Bool
  | .ok () => none
  | .error (.broken _) => some false
  | .error (.fatal _) => some true

/-- Verdicts of the same severity are alike up to what their findings say. -/
theorem of_severity_eq {verdict verdict' : CheckResult Unit}
    (h : severity verdict = severity verdict') :
    (verdict = .ok () ∧ verdict' = .ok ()) ∨
      (∃ failure failure', verdict = .error (.broken failure) ∧
        verdict' = .error (.broken failure')) ∨
      ∃ fault fault', verdict = .error (.fatal fault) ∧ verdict' = .error (.fatal fault') := by
  rcases verdict with (failure | fault) | ⟨⟩ <;> rcases verdict' with (failure' | fault') | ⟨⟩
  case ok.ok => exact .inl ⟨rfl, rfl⟩
  case error.broken.error.broken => exact .inr (.inl ⟨failure, failure', rfl, rfl⟩)
  case error.fatal.error.fatal => exact .inr (.inr ⟨fault, fault', rfl, rfl⟩)
  all_goals cases h

/-- No check asks for the number of components around it. -/
theorem check_withDepth (depth : Nat) (c : Constraint) :
    check { scope with depth } name c = check scope name c := by
  have hagrees : Scope.Agrees { scope with depth } scope := ⟨rfl, fun _ => rfl⟩
  exact check_agrees hagrees name c

/-- Whatever keeps a component from being checked is fatal. It does not matter then which of the
reasons it was. -/
theorem severity_component {spec : Path} {finding : Finding}
    (h : component scope name spec = .error finding) : severity (.error finding) = some true := by
  simp only [component] at h
  split at h
  · obtain rfl := Except.error.inj h
    rfl
  · split at h
    · obtain rfl := Except.error.inj h
      rfl
    · split at h
      · obtain rfl := Except.error.inj h
        rfl
      · split at h
        · obtain rfl := Except.error.inj h
          rfl
        · cases h

theorem severity_componentVerdict {locator : Locator} {depth : Nat}
    {failures failures' : List Failure} (h : SameVerdict failures failures') :
    severity (componentVerdict scope locator failures.length)
      = severity (componentVerdict { scope with depth } locator failures'.length) := by
  rw [SameVerdict] at h
  cases failures with
  | nil =>
      obtain rfl : failures' = [] := List.isEmpty_iff.mp h.symm
      rfl
  | cons failure failures =>
      cases failures' with
      | nil => cases h
      | cons failure' failures' => rfl

theorem of_component_eq_ok {spec : Path} {document : Document} {page : Page} {locator : Locator}
    (h : component scope name spec = .ok (document, page, locator)) :
    Document.ofFile scope.tree spec = .ok document ∧ scope.page.subPage? locator = some page := by
  simp only [component] at h
  split at h
  · cases h
  · split at h
    · cases h
    · split at h
      · cases h
      · next hfile =>
          split at h
          · cases h
          · next hpage =>
              obtain ⟨rfl, hrest⟩ := Prod.mk.inj (Except.ok.inj h)
              obtain ⟨rfl, rfl⟩ := Prod.mk.inj hrest
              exact ⟨hfile, hpage⟩

/-- What a component is checked with depends on the place of its spec, not on the path to it. The
documents may differ in paths, which again lead to the same places. -/
theorem alikeBy_component (name : String) {spec spec' : Path}
    (h : scope.tree.resolve spec = scope.tree.resolve spec') :
    AlikeBy (fun found => (found.1.mapPaths scope.tree.canonical, found.2))
      (component scope name spec) (component scope name spec') := by
  have hfile : scope.tree.isFile spec = scope.tree.isFile spec' := by
    rw [FileTree.isFile, FileTree.isFile, FileTree.fileKey?_congr h]
  have hread := Document.alikeBy_ofFile h
  simp only [component, hfile]
  split
  · rfl
  · next locator _ =>
      split
      · rfl
      · obtain ⟨e, e', hs, ht⟩ | ⟨d, d', hs, ht, hd⟩ := hread.error_or_ok
        · rw [hs, ht]
          rfl
        · rw [hs, ht]
          cases scope.page.subPage? locator with
          | none => rfl
          | some page => exact congrArg (fun d => some (d, page, locator)) hd

end Check

namespace Constraint

variable {f : Path → Path} {c c' : Constraint}

/-- Constraints that differ in their paths alone are the same, or both are about components. No
other constraint has a path. -/
theorem eq_or_component (h : c.mapPaths f = c'.mapPaths f) :
    (c = c' ∧ ∀ spec, c ≠ component spec) ∨
      ∃ spec spec', c = component spec ∧ c' = component spec' ∧ f spec = f spec' := by
  by_cases hc : ∃ spec, c = component spec
  · obtain ⟨spec, rfl⟩ := hc
    by_cases hc' : ∃ spec', c' = component spec'
    · obtain ⟨spec', rfl⟩ := hc'
      exact .inr ⟨spec, spec', rfl, rfl, component.inj h⟩
    · have hself : c'.mapPaths f = c' := mapPaths_eq_self fun spec' hspec => hc' ⟨spec', hspec⟩
      exact absurd ⟨f spec, (h.trans hself).symm⟩ hc'
  · have hself : c.mapPaths f = c := mapPaths_eq_self fun spec hspec => hc ⟨spec, hspec⟩
    by_cases hc' : ∃ spec', c' = component spec'
    · obtain ⟨spec', rfl⟩ := hc'
      exact absurd ⟨f spec', hself.symm.trans h⟩ hc
    · have hself' : c'.mapPaths f = c' := mapPaths_eq_self fun spec' hspec => hc' ⟨spec', hspec⟩
      refine .inl ⟨?_, fun spec hspec => hc ⟨spec, hspec⟩⟩
      rw [← hself, h, hself']

end Constraint

namespace Scope

/-- A pass over the page of a component, with the spec of some file. -/
def ComesTo (scope : Scope) (p : Pass) : Prop :=
  (∃ spec, Document.ofFile scope.tree spec = .ok p.document) ∧
    ∃ locator, scope.page.subPage? locator = some p.page

/-- A pass that may be asked for, and one that is like it. -/
def Matching (scope : Scope) (p q : Pass) : Prop :=
  p.Alike scope.tree q ∧ scope.ComesTo p

variable {scope : Scope} {name : String} (depth : Nat) (silent silent' : Bool)

theorem checkConstraint_of_ne {c : Constraint} (h : ∀ spec, c ≠ .component spec) :
    checkConstraint scope silent name c = .done (Check.check scope name c) := by
  cases c with
  | component spec => exact absurd rfl (h spec)
  | _ => rfl

/-- A constraint and one that differs from it in its path alone have verdicts of one severity, at
any two depths, silently or not. The passes inside components are alike again. -/
theorem checkConstraint_alike {c c' : Constraint}
    (h : c.mapPaths scope.tree.canonical = c'.mapPaths scope.tree.canonical) :
    Walk.Alike scope.Matching
      (fun verdict verdict' => Check.severity verdict = Check.severity verdict')
      (checkConstraint scope silent name c)
      (checkConstraint { scope with depth } silent' name c') := by
  rcases Constraint.eq_or_component h with ⟨rfl, hc⟩ | ⟨spec, spec', rfl, rfl, hspec⟩
  · rw [checkConstraint_of_ne _ hc, checkConstraint_of_ne _ hc]
    exact .done (congrArg Check.severity (Check.check_withDepth depth c).symm)
  · have hresolve : scope.tree.resolve spec = scope.tree.resolve spec' := by
      rw [← FileTree.resolve_canonical, hspec, FileTree.resolve_canonical]
    have hfound := Check.alikeBy_component name hresolve
    have hdepth : Check.component { scope with depth } name spec'
        = Check.component scope name spec' := rfl
    simp only [checkConstraint, hdepth]
    obtain ⟨finding, finding', hs, ht⟩ | ⟨⟨document, page, locator⟩, ⟨document', rest⟩, hs, ht,
      hsame⟩ :=
      hfound.error_or_ok
    · rw [hs, ht]
      exact .done ((Check.severity_component hs).trans (Check.severity_component ht).symm)
    · rw [hs, ht]
      obtain ⟨hdocument, rfl⟩ := Prod.mk.inj hsame
      refine .enter ⟨⟨rfl, hdocument⟩, ?_⟩ fun failures failures' h => .done ?_
      · obtain ⟨hfile, hpage⟩ := Check.of_component_eq_ok hs
        exact ⟨⟨spec, hfile⟩, locator, hpage⟩
      · exact Check.severity_componentVerdict h

/-- The constraints of an object, one after another. Both lists are followed up to the first fault,
which is at the same place. -/
theorem checkConstraints_alike {cs cs' : List Constraint}
    (h : cs.map (Constraint.mapPaths scope.tree.canonical)
      = cs'.map (Constraint.mapPaths scope.tree.canonical)) :
    Walk.Alike scope.Matching SameVerdict (checkConstraints scope silent name cs)
      (checkConstraints { scope with depth } silent' name cs') := by
  induction cs generalizing cs' with
  | nil =>
      obtain rfl : cs' = [] := List.map_eq_nil_iff.mp h.symm
      exact .pure rfl
  | cons c cs ih =>
      cases cs' with
      | nil => cases h
      | cons c' cs' =>
          obtain ⟨hc, htail⟩ := List.cons.inj h
          refine (checkConstraint_alike depth silent silent' hc).bind ?_
          intro verdict verdict' hseverity
          have hrest := ih htail
          obtain ⟨rfl, rfl⟩ | ⟨failure, failure', rfl, rfl⟩ | ⟨fault, fault', rfl, rfl⟩ :=
            Check.of_severity_eq hseverity
          · exact .tellOf hrest
          · exact .tellOf (hrest.bind fun _ _ _ => .pure rfl)
          · exact .tellOf (.pure rfl)

theorem checkGroup_alike {g g' : Group}
    (h : g.mapPaths scope.tree.canonical = g'.mapPaths scope.tree.canonical) :
    Walk.Alike scope.Matching SameVerdict (checkGroup scope silent g)
      (checkGroup { scope with depth } silent' g') := by
  obtain ⟨hpattern, hconstraints⟩ := Group.mk.inj h
  have hnames : names { scope with depth } g'.pattern = scope.names g'.pattern := rfl
  rw [checkGroup, checkGroup, hpattern, hnames]
  cases scope.names g'.pattern with
  | error fault => exact .pure rfl
  | ok objects =>
      refine Walk.Alike.collect (m := id) (n := id) (fun object object' hobject => ?_) rfl
      obtain rfl : object = object' := hobject
      refine .tellOf ((checkConstraints_alike depth silent silent' hconstraints).bind ?_)
      exact fun failures failures' h => .tellOf (.pure h)

theorem checkGroups_alike {gs gs' : List Group}
    (h : gs.map (Group.mapPaths scope.tree.canonical)
      = gs'.map (Group.mapPaths scope.tree.canonical)) :
    Walk.Alike scope.Matching SameVerdict (checkGroups scope silent gs)
      (checkGroups { scope with depth } silent' gs') :=
  Walk.Alike.collect (fun _ _ hg => checkGroup_alike depth silent silent' hg) h

theorem anyHolds_alike {sts sts' : List Statement}
    (h : sts.map (Statement.mapPaths scope.tree.canonical)
      = sts'.map (Statement.mapPaths scope.tree.canonical)) :
    Walk.Alike scope.Matching Eq (anyHolds scope sts) (anyHolds { scope with depth } sts') := by
  induction sts generalizing sts' with
  | nil =>
      obtain rfl : sts' = [] := List.map_eq_nil_iff.mp h.symm
      exact .pure rfl
  | cons st sts ih =>
      cases sts' with
      | nil => cases h
      | cons st' sts' =>
          obtain ⟨hst, htail⟩ := List.cons.inj h
          obtain ⟨hinverted, hgroups⟩ := Statement.mk.inj hst
          have hstatement : Walk.Alike scope.Matching Eq (holds scope st)
              (holds { scope with depth } st') := by
            refine (checkGroups_alike depth true true hgroups).bind ?_
            refine fun failures failures' h => .pure ?_
            rw [hinverted, h]
          refine hstatement.bind ?_
          rintro held _ rfl
          cases held with
          | true => exact .pure rfl
          | false => exact ih htail

theorem checkBlock_alike {b b' : ConditionalBlock}
    (h : b.mapPaths scope.tree.canonical = b'.mapPaths scope.tree.canonical) :
    Walk.Alike scope.Matching SameVerdict (checkBlock scope silent b)
      (checkBlock { scope with depth } silent' b') := by
  obtain ⟨hstatements, hbody, hotherwise⟩ := ConditionalBlock.mk.inj h
  refine (anyHolds_alike depth hstatements).bind ?_
  rintro held _ rfl
  cases held with
  | true => exact checkGroups_alike depth silent silent' hbody
  | false =>
      apply checkGroups_alike depth silent silent'
      -- A branch that is left out counts as one without groups.
      have hgetD := congrArg (·.getD (List.map (Group.mapPaths scope.tree.canonical) [])) hotherwise
      rwa [Option.getD_map, Option.getD_map] at hgetD

theorem checkSection_alike {sec sec' : Section}
    (h : sec.mapPaths scope.tree.canonical = sec'.mapPaths scope.tree.canonical) :
    Walk.Alike scope.Matching SameVerdict (checkSection scope silent sec)
      (checkSection { scope with depth } silent' sec') := by
  obtain ⟨-, hgroups, hblocks⟩ := Section.mk.inj h
  refine .tellOf ((checkGroups_alike depth silent silent' hgroups).bind ?_)
  refine fun groups groups' hgs => ?_
  refine Walk.Related.bind (R := SameVerdict) (Walk.Alike.collect
    (fun _ _ hb => checkBlock_alike depth silent silent' hb) hblocks) fun blocks blocks' hbs => ?_
  exact .tellOf (.pure (hgs.append hbs))

/-- The sections of alike documents are checked in the same way, as far as it is only asked whether
anything is wrong. -/
theorem checkSections_alike {secs secs' : List Section}
    (h : secs.map (Section.mapPaths scope.tree.canonical)
      = secs'.map (Section.mapPaths scope.tree.canonical)) :
    Walk.Alike scope.Matching SameVerdict (checkSections scope silent secs)
      (checkSections { scope with depth } silent' secs') := by
  have hfilter : ∀ secs : List Section,
      (secs.filter fun sec => scope.filter.accepts sec.tags).map
          (Section.mapPaths scope.tree.canonical)
        = (secs.map (Section.mapPaths scope.tree.canonical)).filter fun sec =>
          scope.filter.accepts sec.tags := by
    intro secs
    rw [List.filter_map]
    rfl
  refine Walk.Alike.collect (fun _ _ hsec => checkSection_alike depth silent silent' hsec) ?_
  rw [hfilter, hfilter, h]

end Scope

namespace Pass.Alike

variable {tree : FileTree} {filter : TagFilter} {p q : Pass}

theorem walk (h : p.Alike tree q) :
    Walk.Alike (Scope.ofDocument p.document p.page filter tree p.depth).Matching SameVerdict
      (p.walk tree filter) (q.walk tree filter) := by
  obtain ⟨hpage, hdocument⟩ := h
  obtain ⟨hobjects, hsections⟩ := Document.mk.inj hdocument
  have hscope : Scope.ofDocument q.document q.page filter tree q.depth
      = { Scope.ofDocument p.document p.page filter tree p.depth with depth := q.depth } := by
    simp only [Scope.ofDocument, hobjects, hpage]
  rw [Pass.walk, Pass.walk, hscope]
  exact @Scope.checkSections_alike (Scope.ofDocument p.document p.page filter tree p.depth) q.depth
    p.silent q.silent _ _ hsections

/-- A pass has an outcome if one that is like it has one, and finds something if that one does. Two
passes over one page with specs that say the same are alike. -/
theorem exists_outcome {r : Report} (h : p.Alike tree q) (hp : p.outcome tree filter = some r) :
    ∃ r', q.outcome tree filter = some r' ∧ SameVerdict r.failures r'.failures := by
  refine of_outcome (Q := fun p r => ∀ q, p.Alike tree q → ∃ r', q.outcome tree filter = some r' ∧
    SameVerdict r.failures r'.failures) ?_ hp q h
  intro reports p r hreports hr q h
  obtain ⟨failures, events, hq, hsame⟩ := h.walk.exists_heard
    (fun p q r hpq hp => (hreports p r hp).2 q hpq.1) (Walk.report_eq_some_iff.mp hr)
  refine ⟨⟨failures, events⟩, ?_, hsame⟩
  rw [outcome]
  exact Walk.report_eq_some_iff.mpr hq

/-- A pass starts passes that are like those that a pass like it starts. So a chain of passes can be
followed from either of them. -/
theorem exists_starts (h : p.Alike tree q) (hx : p.Starts tree filter x) :
    ∃ y, q.Starts tree filter y ∧ x.Alike tree y := by
  obtain ⟨y, hy, hxy⟩ := h.walk.exists_enters (fun _ _ _ hpq hp => hpq.1.exists_outcome hp) hx
  exact ⟨y, hy, hxy.1⟩

end Pass.Alike

/-- A pass that is started is over the page of a component, with the spec of some file. -/
theorem Pass.Starts.comesTo {tree : FileTree} {filter : TagFilter} {p q : Pass}
    (h : p.Starts tree filter q) :
    (∃ spec, Document.ofFile tree spec = .ok q.document) ∧
      ∃ locator, p.page.subPage? locator = some q.page := by
  have hself : p.Alike tree p := ⟨rfl, rfl⟩
  obtain ⟨_, _, hq⟩ := hself.walk.exists_enters (fun _ _ _ hpq hp => hpq.1.exists_outcome hp) h
  exact hq.2

end LayoutSpec
