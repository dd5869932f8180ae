import LayoutSpec.Proofs.Validation.Branches
import LayoutSpec.Proofs.Validation.Declared
import Mathlib.Data.List.Flatten

/-!
Sections and filters. A pass is made of the passes over each section that its filter accepts, as if
the section were all that the spec says about its objects. Apart from components, nothing in a
section looks at the filter: one that accepts fewer sections leaves parts of the report out and
changes nothing in the others.
-/

namespace LayoutSpec

namespace TagFilter

/-- One of the tags is included, unless all sections are, and none of them is excluded. -/
def Admits (f : TagFilter) (tags : List String) : Prop :=
  (f.included = [] ∨ ∃ tag ∈ tags, tag ∈ f.included) ∧ ∀ tag ∈ tags, tag ∉ f.excluded

instance (f : TagFilter) (tags : List String) : Decidable (f.Admits tags) :=
  inferInstanceAs (Decidable (_ ∧ _))

theorem accepts_iff_admits {f : TagFilter} {tags : List String} :
    f.accepts tags = true ↔ f.Admits tags := by
  simp [accepts, Admits]

variable {f : TagFilter} {tags : List String}

theorem Admits.of_excluding {excluded : List String} (hmore : f.excluded ⊆ excluded)
    (h : TagFilter.Admits { f with excluded } tags) : f.Admits tags :=
  ⟨h.1, fun tag htag hexcluded => h.2 tag htag (hmore hexcluded)⟩

theorem Admits.including {included : List String} (hne : f.included ≠ [])
    (hmore : f.included ⊆ included) (h : f.Admits tags) :
    TagFilter.Admits { f with included } tags := by
  obtain ⟨hnone | ⟨tag, htag, hincluded⟩, hexcluded⟩ := h
  · exact absurd hnone hne
  · exact ⟨.inr ⟨tag, htag, hmore hincluded⟩, hexcluded⟩

end TagFilter

namespace Report

/-- What is left of a report if some of its failures and events are left out. -/
structure Sublist (r other : Report) : Prop where
  failures : r.failures.Sublist other.failures
  events : r.events.Sublist other.events

variable {α : Type} {f : α → Option Report}

/-- Collected reports are concatenated. There is one for each of the things, or none at all. -/
theorem collect_eq_some_iff {xs : List α} {r : Report} : collect f xs = some r ↔
    ∃ parts, List.Forall₂ (fun a part => f a = some part) xs parts ∧
      r.failures = parts.flatMap Report.failures ∧ r.events = parts.flatMap Report.events := by
  induction xs generalizing r with
  | nil =>
      constructor
      · intro h
        obtain rfl := Option.some.inj h
        exact ⟨[], .nil, rfl, rfl⟩
      · rintro ⟨_, hparts, hfailures, hevents⟩
        cases hparts
        exact congrArg some (congrArg₂ Report.mk hfailures hevents).symm
  | cons a xs ih =>
      rw [collect]
      simp only [Option.bind_eq_bind, Option.bind_eq_some_iff]
      constructor
      · rintro ⟨first, hfirst, others, hothers, hr⟩
        obtain rfl := Option.some.inj hr
        obtain ⟨parts, hparts, hfailures, hevents⟩ := ih.mp hothers
        refine ⟨first :: parts, .cons hfirst hparts, ?_, ?_⟩
        · rw [failures_append, hfailures, List.flatMap_cons]
        · rw [events_append, hevents, List.flatMap_cons]
      · rintro ⟨_, hparts, hfailures, hevents⟩
        cases hparts with
        | @cons _ first _ parts hfirst hparts =>
            refine ⟨first, hfirst, ⟨_, _⟩, ih.mpr ⟨parts, hparts, rfl, rfl⟩, ?_⟩
            exact congrArg some (congrArg₂ Report.mk hfailures hevents).symm

/-- Where some things are left out, so are their reports. The rest keeps its order. -/
theorem exists_collect_sublist {xs ys : List α} (h : xs.Sublist ys) {r : Report}
    (hr : collect f ys = some r) : ∃ r', collect f xs = some r' ∧ r'.Sublist r := by
  obtain ⟨parts, hparts, hfailures, hevents⟩ := collect_eq_some_iff.mp hr
  obtain ⟨kept, hkept, hsublist⟩ : ∃ kept : List Report,
      List.Forall₂ (fun a part => f a = some part) xs kept ∧ kept.Sublist parts := by
    clear hr hfailures hevents
    induction h generalizing parts with
    | slnil => exact ⟨[], .nil, List.nil_sublist parts⟩
    | cons a _ ih =>
        cases hparts with
        | cons _ hrest =>
            obtain ⟨kept, hkept, hsublist⟩ := ih _ hrest
            exact ⟨kept, hkept, hsublist.cons _⟩
    | cons_cons a _ ih =>
        cases hparts with
        | cons hfirst hrest =>
            obtain ⟨kept, hkept, hsublist⟩ := ih _ hrest
            exact ⟨_ :: kept, .cons hfirst hkept, hsublist.cons_cons _⟩
  refine ⟨⟨_, _⟩, collect_eq_some_iff.mpr ⟨kept, hkept, rfl, rfl⟩, ?_, ?_⟩
  · rw [hfailures]
    exact hsublist.flatMap Report.failures
  · rw [hevents]
    exact hsublist.flatMap Report.events

end Report

section

variable {tree : FileTree} {filter : TagFilter} {depth : Nat} {silent : Bool} {document : Document}
  {page : Page}

/-- A pass is made of the admitted sections, each in the scope of the pass. No section changes what
the others see. -/
theorem validate_eq_collect_admitted : validate tree filter depth silent document page
    = Report.collect
      (fun sec =>
        ((Scope.ofDocument document page filter tree depth).checkSection silent sec).report
          (Pass.outcome tree filter))
      (document.sections.filter fun sec => filter.Admits sec.tags) := by
  have hfilter : (document.sections.filter fun sec => filter.accepts sec.tags)
      = document.sections.filter fun sec => filter.Admits sec.tags :=
    List.filter_congr fun sec _ => by
      rw [Bool.eq_iff_iff, decide_eq_true_eq, TagFilter.accepts_iff_admits]
  rw [validate_eq_collect, hfilter]

/-- An accepted section alone is checked as it is among the others. The objects are those of the
whole document. -/
theorem validate_alone {sec : Section} (h : filter.Admits sec.tags) :
    validate tree filter depth silent { document with sections := [sec] } page
      = ((Scope.ofDocument document page filter tree depth).checkSection silent sec).report
        (Pass.outcome tree filter) := by
  have hfilter : ([sec].filter fun sec => filter.Admits sec.tags) = [sec] := by simp [h]
  rw [validate_eq_collect_admitted, hfilter, Report.collect, Report.collect]
  simp only [Option.bind_eq_bind, Option.bind_some, Report.append_empty]
  exact Option.bind_fun_some _

theorem validate_eq_collect_alone : validate tree filter depth silent document page
    = Report.collect
      (fun sec => validate tree filter depth silent { document with sections := [sec] } page)
      (document.sections.filter fun sec => filter.Admits sec.tags) := by
  rw [validate_eq_collect_admitted]
  refine Report.collect_congr (List.forall₂_same.mpr fun _ _ => rfl) fun sec hsec _ heq => ?_
  subst heq
  exact (validate_alone (by simpa using (List.mem_filter.mp hsec).2)).symm

theorem validate_rejected {sec : Section} (h : ¬ filter.Admits sec.tags) :
    validate tree filter depth silent { document with sections := [sec] } page = some {} := by
  have hfilter : ([sec].filter fun sec => filter.Admits sec.tags) = [] := by simp [h]
  rw [validate_eq_collect_admitted, hfilter]
  rfl

/-- Without components, a filter that accepts fewer sections leaves out what the others report. With
components it would reach into the passes inside of sections that stay. -/
theorem exists_validate_narrower (hdocument : document.WithoutComponents) {narrower : TagFilter}
    (h : ∀ tags, narrower.Admits tags → filter.Admits tags) :
    ∃ r r', validate tree filter depth silent document page = some r ∧
      validate tree narrower depth silent document page = some r' ∧ r'.Sublist r := by
  have hself : page.ShowsSame document.objects page :=
    ⟨fun _ _ _ => rfl, fun _ _ => rfl, fun _ _ => rfl⟩
  obtain ⟨r, hr, -⟩ :=
    @exists_validate_of_showsSame tree filter depth silent document page page hdocument hself
  have hsections : (document.sections.filter fun sec => narrower.Admits sec.tags).Sublist
      (document.sections.filter fun sec => filter.Admits sec.tags) := by
    refine List.monotone_filter_right _ fun sec hsec => ?_
    exact decide_eq_true (h sec.tags (of_decide_eq_true hsec))
  have hr' := hr
  rw [validate_eq_collect_admitted] at hr'
  obtain ⟨r', hnarrower, hsublist⟩ := Report.exists_collect_sublist hsections hr'
  refine ⟨r, r', hr, ?_, hsublist⟩
  rw [validate_eq_collect_admitted, ← hnarrower]
  -- The filter is in both scopes, but no section asks for it.
  refine Report.collect_congr (List.forall₂_same.mpr fun _ _ => rfl) fun sec hsec _ heq => ?_
  subst heq
  have hagrees : (Scope.ofDocument document page narrower tree depth).Agrees
      (Scope.ofDocument document page filter tree depth) := ⟨rfl, fun _ => rfl⟩
  have hsettled := Scope.checkSection_settled hagrees silent rfl
    (hdocument sec (List.mem_filter.mp hsec).1)
  obtain ⟨part, hpart, hpart'⟩ :=
    hsettled.exists_report (Pass.outcome tree narrower) (Pass.outcome tree filter)
  exact hpart.trans hpart'.symm

/-- A pass reports what the passes over each of the sections that its filter admits report alone, in
their order, and a section that is not admitted adds nothing. In a spec without components,
excluding more tags leaves parts of the report out, and including more adds parts to it, unless the
tags did not matter. -/
theorem validate_composes :
    (∀ r, validate tree filter depth silent document page = some r ↔
      ∃ parts,
        List.Forall₂ (fun sec part =>
            validate tree filter depth silent { document with sections := [sec] } page = some part)
          (document.sections.filter fun sec => filter.Admits sec.tags) parts ∧
        r.failures = parts.flatMap Report.failures ∧ r.events = parts.flatMap Report.events) ∧
    (∀ sec, ¬ filter.Admits sec.tags →
      validate tree filter depth silent { document with sections := [sec] } page = some {}) ∧
    (document.WithoutComponents →
      (∀ excluded, filter.excluded ⊆ excluded →
        ∃ r r', validate tree filter depth silent document page = some r ∧
          validate tree { filter with excluded } depth silent document page = some r' ∧
          r'.Sublist r) ∧
      ∀ included, filter.included ≠ [] → filter.included ⊆ included →
        ∃ r r', validate tree filter depth silent document page = some r ∧
          validate tree { filter with included } depth silent document page = some r' ∧
          r.Sublist r') := by
  refine ⟨fun r => ?_, fun sec h => validate_rejected h, fun hdocument => ⟨?_, ?_⟩⟩
  · rw [validate_eq_collect_alone, Report.collect_eq_some_iff]
  · intro excluded hmore
    exact exists_validate_narrower hdocument fun _ h => h.of_excluding hmore
  · intro included hne hmore
    obtain ⟨r', r, hr', hr, hsublist⟩ :=
      @exists_validate_narrower tree { filter with included } depth
      silent document page hdocument filter fun _ h => h.including hne hmore
    exact ⟨r, r', hr, hr', hsublist⟩

end

/-- What is said about a menu, for several devices. -/
def menuDocument : Document where
  objects := .ofList [("menu", ⟨.css, "nav", none⟩)]
  sections := [{ tags := ["desktop"], groups := [⟨"menu", [.width (.exactly 10)]⟩] },
    { tags := ["desktop", "phone"], groups := [⟨"menu", [.height (.exactly 10)]⟩] },
    { tags := ["tablet"], groups := [⟨"menu", [.absent]⟩] }]

def menuPage : Page where
  elements := [(⟨.css, "nav", none⟩, .shown ⟨0, 0, 8, 8⟩)]

def desktopFilter : TagFilter where
  included := ["desktop"]

theorem validate_composes_menu :
    menuDocument.WithoutComponents ∧
      ∃ few desktop many,
        validate {} { desktopFilter with excluded := ["phone"] } 0 false menuDocument menuPage
          = some few ∧
        validate {} desktopFilter 0 false menuDocument menuPage = some desktop ∧
        validate {} { desktopFilter with included := ["desktop", "tablet"] } 0 false menuDocument
          menuPage = some many ∧
        few.Sublist desktop ∧ desktop.Sublist many ∧
        few.failures.length = 1 ∧ desktop.failures.length = 2 ∧ many.failures.length = 3 := by
  have hdocument : menuDocument.WithoutComponents := by
    simp [Document.WithoutComponents, Section.WithoutComponents, Group.WithoutComponents,
      Section.allGroups, menuDocument]
  obtain ⟨-, -, hmonotone⟩ :=
    @validate_composes {} desktopFilter 0 false menuDocument menuPage
  obtain ⟨hexcluding, hincluding⟩ := hmonotone hdocument
  obtain ⟨desktop, few, hdesktop, hfew, hsublist⟩ := hexcluding ["phone"] (List.nil_subset _)
  obtain ⟨_, many, hr, hmany, hsuperlist⟩ := hincluding ["desktop", "tablet"] (by decide)
    (by decide)
  obtain rfl := Option.some.inj (hr.symm.trans hdesktop)
  have hcount : ∀ filter r count, validate {} filter 0 false menuDocument menuPage = some r →
      (validate {} filter 0 false menuDocument menuPage).map (·.failures.length) = some count →
        r.failures.length = count := by
    intro filter r count hr hcount
    rw [hr] at hcount
    exact Option.some.inj hcount
  refine ⟨hdocument, few, _, many, hfew, hr, hmany, hsublist, hsuperlist, hcount _ _ _ hfew ?_,
    hcount _ _ _ hr ?_, hcount _ _ _ hmany ?_⟩
  all_goals
    rw [validate, Pass.outcome]
    decide +kernel

end LayoutSpec
