import LayoutSpec.Proofs.Observer
import LayoutSpec.Validation.Nesting

/-!
What is heard of a walk. The events of one part come before those of the next one, so that the
report about several things is made of the reports about each of them. In front of an observer a
walk comes to the same result, and the observer is told of what is heard of the walk.
-/

namespace LayoutSpec

namespace Report

@[simp] theorem failures_append (a b : Report) : (a ++ b).failures = a.failures ++ b.failures := rfl

@[simp] theorem events_append (a b : Report) : (a ++ b).events = a.events ++ b.events := rfl

theorem append_assoc (a b c : Report) : (a ++ b) ++ c = a ++ (b ++ c) :=
  Report.ext (List.append_assoc ..) (List.append_assoc ..)

@[simp] theorem append_empty (a : Report) : a ++ {} = a :=
  Report.ext (List.append_nil _) (List.append_nil _)

/-- The reports about some things, one after the other, if each has one. -/
def collect {α : Type} (report : α → Option Report) : List α → Option Report
  | [] => some {}
  | a :: rest => do
    let first ← report a
    let others ← collect report rest
    return first ++ others

/-- The report between two events. -/
def between (first : List Event) (r : Report) (last : List Event) : Report :=
  { r with events := first ++ r.events ++ last }

end Report

namespace Walk

variable {α β : Type} {reports : Pass → Option Report}

/-- A result of which is told behind other events. -/
def behind (first : List Event) (told : Option (α × List Event)) : Option (α × List Event) :=
  told.map fun it => (it.1, first ++ it.2)

theorem behind_nil (told : Option (α × List Event)) : behind [] told = told := by
  cases told <;> rfl

theorem behind_append (first more : List Event) (told : Option (α × List Event)) :
    behind (first ++ more) told = behind first (behind more told) := by
  cases told with
  | none => rfl
  | some told => simp only [behind, Option.map_some, List.append_assoc]

theorem behind_bind (first : List Event) (told : Option (α × List Event))
    (next : α → Option (β × List Event)) :
    (behind first told).bind (fun it => behind it.2 (next it.1))
      = behind first (told.bind fun it => behind it.2 (next it.1)) := by
  cases told with
  | none => rfl
  | some told => exact behind_append first told.2 (next told.1)

theorem heard_pure (a : α) : (pure a : Walk α).heard reports = some (a, []) :=
  rfl

theorem heard_tell (e : Event) (next : Walk α) :
    (tell e next).heard reports = behind [e] (next.heard reports) := by
  rw [heard]
  cases next.heard reports <;> rfl

theorem heard_enter (p : Pass) (next : List Failure → Walk α) :
    (enter p next).heard reports
      = (reports p).bind fun r => behind r.events ((next r.failures).heard reports) := by
  rw [heard]
  cases reports p with
  | none => rfl
  | some r =>
      change ((next r.failures).heard reports).bind _ = behind _ _
      cases (next r.failures).heard reports <;> rfl

/-- A walk tells of its own events first, and then of those that follow on its result. -/
theorem heard_bind (x : Walk α) (f : α → Walk β) :
    (x >>= f).heard reports
      = (x.heard reports).bind fun it => behind it.2 ((f it.1).heard reports) := by
  induction x with
  | done a => exact (behind_nil _).symm
  | tell e next ih =>
      change (tell e (next >>= f)).heard reports = _
      rw [heard_tell, heard_tell, ih, behind_bind [e] _ fun a => (f a).heard reports]
  | enter p next ih =>
      change (enter p fun failures => next failures >>= f).heard reports = _
      rw [heard_enter, heard_enter, Option.bind_assoc]
      congr 1
      funext r
      rw [ih, behind_bind r.events _ fun a => (f a).heard reports]

theorem heard_bind_eq_some_iff {x : Walk α} {f : α → Walk β} {b : β} {events : List Event} :
    (x >>= f).heard reports = some (b, events) ↔
      ∃ a first later, x.heard reports = some (a, first) ∧ (f a).heard reports = some (b, later) ∧
        events = first ++ later := by
  rw [heard_bind, Option.bind_eq_some_iff]
  constructor
  · rintro ⟨⟨a, first⟩, hx, h⟩
    obtain ⟨⟨_, later⟩, hf, htold⟩ := Option.map_eq_some_iff.mp h
    obtain ⟨rfl, rfl⟩ := Prod.mk.inj htold
    exact ⟨a, first, later, hx, hf, rfl⟩
  · rintro ⟨a, first, later, hx, hf, rfl⟩
    exact ⟨(a, first), hx, Option.map_eq_some_iff.mpr ⟨(b, later), hf, rfl⟩⟩

theorem heard_bind_pure (x : Walk α) (f : α → β) :
    (x >>= fun a => pure (f a)).heard reports = (x.heard reports).map fun it => (f it.1, it.2) := by
  rw [heard_bind]
  cases x.heard reports with
  | none => rfl
  | some it => simp only [heard_pure, behind, Option.map_some, Option.bind_some, List.append_nil]

def emit (silent : Bool) (e : Event) : List Event :=
  if silent then [] else [e]

/-- The event of which it is told comes first, unless the pass is silent. -/
theorem heard_tellOf_bind (silent : Bool) (e : Event) (x : Walk α) :
    (tellOf silent e >>= fun _ => x).heard reports = behind (emit silent e) (x.heard reports) := by
  cases silent with
  | false => exact heard_tell e x
  | true => exact (behind_nil _).symm

/-- The event of which it is told in the end comes last, unless the pass is silent. -/
theorem heard_bind_tellOf (silent : Bool) (e : Event) (x : Walk α) (f : α → β) :
    (x >>= fun a => tellOf silent e >>= fun _ => pure (f a)).heard reports
      = (x.heard reports).map fun it => (f it.1, it.2 ++ emit silent e) := by
  simp only [heard_bind x, heard_tellOf_bind, heard_pure]
  cases x.heard reports with
  | none => rfl
  | some it => simp only [behind, Option.map_some, Option.bind_some, List.append_nil]

theorem report_eq_map (x : Walk (List Failure)) :
    x.report reports = (x.heard reports).map fun it => ⟨it.1, it.2⟩ := by
  rw [report]
  cases x.heard reports <;> rfl

theorem report_eq_some_iff {x : Walk (List Failure)} {r : Report} :
    x.report reports = some r ↔ x.heard reports = some (r.failures, r.events) := by
  rw [report_eq_map, Option.map_eq_some_iff]
  constructor
  · rintro ⟨it, hit, rfl⟩
    exact hit
  · intro h
    exact ⟨_, h, rfl⟩

/-- Reports one after the other are told one after the other. -/
theorem report_collect (f : α → Walk (List Failure)) (xs : List α) :
    (collect f xs).report reports = Report.collect (fun a => (f a).report reports) xs := by
  induction xs with
  | nil => rfl
  | cons a rest ih =>
      rw [report_eq_map] at ih
      rw [report_eq_map, collect, heard_bind, Report.collect, ← ih, report_eq_map]
      simp only [heard_bind_pure]
      cases (f a).heard reports with
      | none => rfl
      | some first => cases (collect f rest).heard reports <;> rfl

variable {inside : Pass → Observer → Option (Watched (List Failure))} {o : Observer}

/-- Behind the barrier the walk goes on, with the observer as it is. -/
theorem perform_tell (e : Event) (next : Walk α) :
    (tell e next).perform inside o = next.perform inside (o.notify e) :=
  rfl

-- The call itself is cut short.
example : (Watched.call (.object "logo" 0) (.fragile [.object] [])).result = none :=
  rfl

/-- A walk comes to its result in front of any observer, which is told of the events of the walk, if
the passes inside it do. -/
theorem perform_of_heard
    (h : ∀ p r o, reports p = some r → inside p o = some ⟨some r.failures, o.notifyAll r.events⟩)
    {x : Walk α} {a : α} {events : List Event} (hx : x.heard reports = some (a, events)) :
    x.perform inside o = some ⟨some a, o.notifyAll events⟩ := by
  induction x generalizing o a events with
  | done b =>
      obtain ⟨rfl, rfl⟩ := Prod.mk.inj (Option.some.inj hx)
      rfl
  | tell e next ih =>
      rw [heard_tell] at hx
      obtain ⟨⟨b, later⟩, hnext, htold⟩ := Option.map_eq_some_iff.mp hx
      obtain ⟨rfl, rfl⟩ := Prod.mk.inj htold
      rw [perform_tell, ih hnext]
      rfl
  | enter p next ih =>
      rw [heard_enter] at hx
      obtain ⟨r, hr, hx⟩ := Option.bind_eq_some_iff.mp hx
      obtain ⟨⟨b, later⟩, hnext, htold⟩ := Option.map_eq_some_iff.mp hx
      obtain ⟨rfl, rfl⟩ := Prod.mk.inj htold
      rw [perform, h p r o hr, Option.bind_some, Observer.notifyAll_append]
      exact ih r.failures hnext

/-- Nothing but its events and its result is left of a walk in front of an observer. What the
observer makes of the events, and whether it breaks down in one, changes nothing about the walk. -/
theorem heard_of_perform
    (h : ∀ p o w, inside p o = some w →
      ∃ r, reports p = some r ∧ w = ⟨some r.failures, o.notifyAll r.events⟩)
    {x : Walk α} {w : Watched α} (hx : x.perform inside o = some w) :
    ∃ a events, x.heard reports = some (a, events) ∧ w = ⟨some a, o.notifyAll events⟩ := by
  induction x generalizing o w with
  | done b => exact ⟨b, [], rfl, (Option.some.inj hx).symm⟩
  | tell e next ih =>
      rw [perform_tell] at hx
      obtain ⟨a, events, hnext, rfl⟩ := ih hx
      refine ⟨a, e :: events, ?_, rfl⟩
      rw [heard_tell, hnext]
      rfl
  | enter p next ih =>
      obtain ⟨left, hleft, hx⟩ := Option.bind_eq_some_iff.mp hx
      obtain ⟨r, hr, rfl⟩ := h p o left hleft
      obtain ⟨a, events, hnext, rfl⟩ := ih r.failures hx
      refine ⟨a, r.events ++ events, ?_, ?_⟩
      · rw [heard_enter, hr, Option.bind_some, hnext]
        rfl
      · rw [Observer.notifyAll_append]

end Walk

namespace Scope

open Walk

variable (reports : Pass → Option Report) (scope : Scope) (silent : Bool)

theorem report_checkObject (constraints : List Constraint) (name : String) :
    (scope.checkObject silent constraints name).report reports
      = ((scope.checkConstraints silent name constraints).report reports).map fun r =>
        r.between (emit silent (.object name scope.depth))
          (emit silent (.afterObject name scope.depth)) := by
  rw [report_eq_map, checkObject, heard_tellOf_bind, heard_bind_tellOf, report_eq_map]
  cases (scope.checkConstraints silent name constraints).heard reports with
  | none => rfl
  | some told =>
      simp only [behind, Option.map_some]
      rw [← List.append_assoc]
      rfl

theorem report_checkGroup {pattern : String} {names : List String}
    (h : scope.names pattern = .ok names) (constraints : List Constraint) :
    (scope.checkGroup silent ⟨pattern, constraints⟩).report reports
      = Report.collect (fun name => (scope.checkObject silent constraints name).report reports)
        names := by
  rw [checkGroup, h]
  exact report_collect _ names

theorem report_checkGroups (groups : List Group) :
    (scope.checkGroups silent groups).report reports
      = Report.collect (fun g => (scope.checkGroup silent g).report reports) groups :=
  report_collect _ groups

/-- A section is reported by its groups and then by its blocks, between the events of its start and
its end. -/
theorem report_checkSection (sec : Section) :
    (scope.checkSection silent sec).report reports
      = ((scope.checkGroups silent sec.groups).report reports).bind fun groups =>
        (Report.collect (fun b => (scope.checkBlock silent b).report reports) sec.blocks).map
          fun blocks => (groups ++ blocks).between (emit silent (.beforeSection sec.tags))
            (emit silent (.afterSection sec.tags)) := by
  have hblocks : (collect (scope.checkBlock silent) sec.blocks).report reports = _ :=
    report_collect (scope.checkBlock silent) sec.blocks
  rw [report_eq_map] at hblocks
  rw [report_eq_map, checkSection, heard_tellOf_bind, heard_bind, ← hblocks, report_eq_map]
  simp only [heard_bind_tellOf]
  cases (scope.checkGroups silent sec.groups).heard reports with
  | none => rfl
  | some groups =>
      cases (collect (scope.checkBlock silent) sec.blocks).heard reports with
      | none => rfl
      | some blocks =>
          simp only [behind, Option.map_some, Option.bind_some]
          rw [← List.append_assoc groups.2, ← List.append_assoc]
          rfl

end Scope

/-- A pass is made of the accepted sections, each in the scope of the pass. -/
theorem validate_eq_collect {tree : FileTree} {filter : TagFilter} {depth : Nat} {silent : Bool}
    {document : Document} {page : Page} :
    validate tree filter depth silent document page
      = Report.collect
        (fun sec => ((Scope.ofDocument document page filter tree depth).checkSection silent
          sec).report (Pass.outcome tree filter))
        (document.sections.filter fun sec => filter.accepts sec.tags) := by
  rw [validate, Pass.outcome]
  exact Walk.report_collect _ _

namespace Pass

variable {tree : FileTree} {filter : TagFilter}

/-- What is proved of every pass in whose walk it holds of the passes inside holds of every outcome.
-/
theorem of_outcome {Q : Pass → Report → Prop} {p : Pass} {r : Report}
    (hwalk : ∀ (reports : Pass → Option Report) (p : Pass) (r : Report),
      (∀ q r, reports q = some r → q.outcome tree filter = some r ∧ Q q r) →
        (p.walk tree filter).report reports = some r → Q p r)
    (h : p.outcome tree filter = some r) : Q p r := by
  suffices hall :
      ∀ p r, outcome tree filter p = some r → outcome tree filter p = some r ∧ Q p r from
    (hall p r h).2
  apply outcome.partial_correctness
  intro reports ih p r hr
  refine ⟨?_, hwalk reports p r ih hr⟩
  rw [outcome]
  exact Walk.report_mono (fun q r hq => (ih q r hq).1) hr

theorem watch_of_outcome {p : Pass} {r : Report} (h : p.outcome tree filter = some r)
    (o : Observer) : p.watch tree filter o = some ⟨some r.failures, o.notifyAll r.events⟩ := by
  refine of_outcome (Q := fun p r => ∀ o, p.watch tree filter o
    = some ⟨some r.failures, o.notifyAll r.events⟩) ?_ h o
  intro reports p r hreports hr o
  rw [watch]
  apply Walk.perform_of_heard _ (Walk.report_eq_some_iff.mp hr)
  intro q r' o hq
  exact (hreports q r' hq).2 o

theorem outcome_of_watch {p : Pass} {o : Observer} {w : Watched (List Failure)}
    (h : p.watch tree filter o = some w) :
    ∃ r, p.outcome tree filter = some r ∧ w = ⟨some r.failures, o.notifyAll r.events⟩ := by
  suffices hall : ∀ p o w, watch tree filter p o = some w →
      ∃ r, p.outcome tree filter = some r ∧ w = ⟨some r.failures, o.notifyAll r.events⟩ from
    hall p o w h
  apply watch.partial_correctness
  intro inside ih p o w hw
  obtain ⟨failures, events, hheard, rfl⟩ := Walk.heard_of_perform ih hw
  refine ⟨⟨failures, events⟩, ?_, rfl⟩
  rw [outcome]
  exact Walk.report_eq_some_iff.mpr hheard

/-- A pass leaves its failures in front of any observer, and the observer told of its events. All
that is proved about reports holds in front of every observer by this equation. -/
theorem watch_eq_map (tree : FileTree) (filter : TagFilter) (p : Pass) (o : Observer) :
    p.watch tree filter o
      = (p.outcome tree filter).map fun r => ⟨some r.failures, o.notifyAll r.events⟩ := by
  cases hwatch : p.watch tree filter o with
  | some w =>
      obtain ⟨r, hr, rfl⟩ := outcome_of_watch hwatch
      rw [hr]
      rfl
  | none =>
      cases hp : p.outcome tree filter with
      | none => rfl
      | some r =>
          rw [watch_of_outcome hp] at hwatch
          cases hwatch

end Pass

end LayoutSpec
