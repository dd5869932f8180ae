import LayoutSpec.Proofs.Validation.Silent
import LayoutSpec.Proofs.Validation.Yields
import Mathlib.Data.List.Forall2

/-!
What is told of a pass that is reported. The account of a pass is that of its sections, each between
two events; objects are told between two events as well, and constraints each by one event. In front
of the event of a component stands the account of the pass inside it, one level deeper. A
pattern that cannot be compiled is found and not told, so that a pass has an account only if there
is none.
-/

namespace LayoutSpec

/-- The verdict about a constraint as it is reported. -/
def Report.ofVerdict (name : String) (c : Constraint) : CheckResult Unit → Report
  | .ok () => ⟨[], [.constraintSuccess name c]⟩
  | .error finding => ⟨[finding.failure], [.constraintError name c finding.failure]⟩

namespace Report

/-- The event of a verdict stands behind those of the pass inside a component. -/
theorem behind_ofVerdict (name : String) (c : Constraint) (verdict : CheckResult Unit)
    (inner : List Event) (others : Report) :
    (⟨[], inner⟩ ++ ofVerdict name c verdict) ++ others
      = ⟨(ofVerdict name c verdict).failures ++ others.failures,
        inner ++ ((ofVerdict name c verdict).events ++ others.events)⟩ :=
  append_assoc ⟨[], inner⟩ (ofVerdict name c verdict) others

/-- The failures of a report where they count, and none elsewhere. -/
def failuresIf (counts : Prop) [Decidable counts] (r : Report) : List Failure :=
  if counts then r.failures else []

section

variable {counts : Prop} [Decidable counts]

theorem failuresIf_neg (h : ¬ counts) (r : Report) : r.failuresIf counts = [] :=
  if_neg h

theorem failuresIf_append (a b : Report) :
    (a ++ b).failuresIf counts = a.failuresIf counts ++ b.failuresIf counts := by
  by_cases h : counts <;> simp [failuresIf, h]

end

end Report

/-- Each part of the pattern is a name or can be compiled. -/
def Group.Compiles (g : Group) : Prop :=
  ∀ part ∈ Text.items ',' g.pattern.toList, Scope.partCompiles part = true

def Document.Compiles (d : Document) : Prop :=
  ∀ g ∈ d.allGroups, g.Compiles

instance (g : Group) : Decidable g.Compiles :=
  inferInstanceAs (Decidable (∀ _ ∈ _, _))

instance (d : Document) : Decidable d.Compiles :=
  inferInstanceAs (Decidable (∀ _ ∈ _, _))

/-- The patterns in the specs of a tree can be compiled. -/
def FileTree.SpecsCompile (tree : FileTree) : Prop :=
  ∀ path d, Document.ofFile tree path = .ok d → d.Compiles

theorem Scope.names_eq_ok {g : Group} (h : g.Compiles) (scope : Scope) :
    scope.names g.pattern = .ok (scope.expand g.pattern) := by
  have hnone : ((Text.items ',' g.pattern.toList).find? fun part => !partCompiles part) = none := by
    rw [List.find?_eq_none]
    intro part hpart
    rw [h part hpart]
    decide
  rw [names, hnone]

namespace Scope

variable (tree : FileTree) (filter : TagFilter)

/-- The objects that groups name, each with the constraints on it. -/
def namedObjects (scope : Scope) (gs : List Group) : List (String × List Constraint) :=
  gs.flatMap fun g => (scope.expand g.pattern).map fun name => (name, g.constraints)

theorem namedObjects_append (scope : Scope) (gs hs : List Group) :
    scope.namedObjects (gs ++ hs) = scope.namedObjects gs ++ scope.namedObjects hs := by
  rw [namedObjects, List.flatMap_append, namedObjects, namedObjects]

/-- The groups are those of the branch that the statements of a block choose. -/
def Chooses (scope : Scope) (b : ConditionalBlock) (gs : List Group) : Prop :=
  ∃ held, (scope.anyHolds b.statements).heard (Pass.outcome tree filter) = some (held, []) ∧
    gs = if held then b.body else b.otherwise.getD []

end Scope

inductive PassPart where
  | pass (p : Pass)
  | sections (scope : Scope) (secs : List Section)
  | objects (scope : Scope) (objects : List (String × List Constraint))
  | items (scope : Scope) (name : String) (constraints : List Constraint)
  | item (scope : Scope) (name : String) (c : Constraint) (verdict : CheckResult Unit)

/-- What is told of the parts of a pass, and what is found in them. -/
inductive Account (tree : FileTree) (filter : TagFilter) : PassPart → Report → Prop where
  /-- A constraint that needs no other spec is told by its verdict alone. -/
  | checked {scope : Scope} {name : String} {c : Constraint} :
    (∀ spec, c ≠ .component spec) →
    Account tree filter (.item scope name c (Check.check scope name c))
      (.ofVerdict name c (Check.check scope name c))
  /-- So is a component without a spec or a page. -/
  | unavailable {scope : Scope} {name : String} {spec : Path} {finding : Finding} :
    Check.component scope name spec = .error finding →
    Account tree filter (.item scope name (.component spec) (.error finding))
      (.ofVerdict name (.component spec) (.error finding))
  /-- The pass inside a component is told first. Its failures are not those of the pass around
  it. -/
  | component {scope : Scope} {name : String} {spec : Path} {document : Document} {page : Page}
    {locator : Locator} {inside : Report} :
    Check.component scope name spec = .ok (document, page, locator) →
    Account tree filter (.pass ⟨scope.depth + 1, false, document, page⟩) inside →
    Account tree filter
      (.item scope name (.component spec)
        (Check.componentVerdict scope locator inside.failures.length))
      (⟨[], inside.events⟩ ++ .ofVerdict name (.component spec)
        (Check.componentVerdict scope locator inside.failures.length))
  | noItem {scope : Scope} {name : String} : Account tree filter (.items scope name []) {}
  | nextItem {scope : Scope} {name : String} {c : Constraint} {rest : List Constraint}
    {verdict : CheckResult Unit} {first others : Report} :
    Account tree filter (.item scope name c verdict) first →
    (∀ fault, verdict ≠ .error (.fatal fault)) →
    Account tree filter (.items scope name rest) others →
    Account tree filter (.items scope name (c :: rest)) (first ++ others)
  /-- The constraints behind a fault are not checked. -/
  | lastItem {scope : Scope} {name : String} {c : Constraint} {rest : List Constraint}
    {fault : Fault}
    {last : Report} :
    Account tree filter (.item scope name c (.error (.fatal fault))) last →
    Account tree filter (.items scope name (c :: rest)) last
  | noObject {scope : Scope} : Account tree filter (.objects scope []) {}
  | nextObject {scope : Scope} {name : String} {constraints : List Constraint}
    {rest : List (String × List Constraint)} {items others : Report} :
    Account tree filter (.items scope name constraints) items →
    Account tree filter (.objects scope rest) others →
    Account tree filter (.objects scope ((name, constraints) :: rest))
      (items.between [.object name scope.depth] [.afterObject name scope.depth] ++ others)
  | noSection {scope : Scope} : Account tree filter (.sections scope []) {}
  | nextSection {scope : Scope} {sec : Section} {rest : List Section} {branches : List (List Group)}
    {objects others : Report} :
    List.Forall₂ (scope.Chooses tree filter) sec.blocks branches →
    Account tree filter (.objects scope (scope.namedObjects (sec.groups ++ branches.flatten)))
      objects →
    Account tree filter (.sections scope rest) others →
    Account tree filter (.sections scope (sec :: rest))
      (objects.between [.beforeSection sec.tags] [.afterSection sec.tags] ++ others)
  | pass {p : Pass} {sections : Report} :
    Account tree filter
      (.sections (Scope.ofDocument p.document p.page filter tree p.depth)
        (p.document.sections.filter fun sec => filter.accepts sec.tags)) sections →
    Account tree filter (.pass p) sections

namespace Account

variable {tree : FileTree} {filter : TagFilter} {scope : Scope}

/-- Objects may be told after others. Groups of a section and those of the branches of its blocks
are told one after another in this way. -/
theorem objects_append {xs ys : List (String × List Constraint)} {r others : Report}
    (h : Account tree filter (.objects scope xs) r)
    (hothers : Account tree filter (.objects scope ys) others) :
    Account tree filter (.objects scope (xs ++ ys)) (r ++ others) := by
  induction xs generalizing r with
  | nil =>
      cases h
      exact hothers
  | cons x xs ih =>
      cases h with
      | nextObject hitems hrest =>
          rw [Report.append_assoc]
          exact .nextObject hitems (ih hrest)

end Account

namespace Scope

open Walk

variable {tree : FileTree} {filter : TagFilter} {scope : Scope} {name : String}

/-- An outcome with its account, if the pass is reported and its patterns can be compiled. -/
def Accounted (tree : FileTree) (filter : TagFilter) (p : Pass) (r : Report) : Prop :=
  p.outcome tree filter = some r ∧
    (p.silent = false → p.document.Compiles → Account tree filter (.pass p) r)

section

variable (htree : scope.tree.SpecsCompile)

include htree

/-- The check of a constraint yields the account of one item. A component is told by the account of
its own pass, which is all that has to be known of that pass. -/
theorem yields_checkConstraint (c : Constraint) :
    (checkConstraint scope false name c).Yields (Accounted tree filter) fun verdict inner =>
      Account tree filter (.item scope name c verdict)
        (⟨[], inner⟩ ++ .ofVerdict name c verdict) := by
  cases c with
  | component spec =>
      simp only [checkConstraint]
      cases hcomponent : Check.component scope name spec with
      | error finding => exact Account.unavailable hcomponent
      | ok found =>
          obtain ⟨document, page, locator⟩ := found
          have hcompiles := htree spec document (Check.of_component_eq_ok hcomponent).1
          refine .enter fun inside hinside => ?_
          exact Account.component hcomponent (hinside.2 rfl hcompiles)
  | _ => exact Account.checked fun _ h => by cases h

/-- The constraints of an object yield the account of its items, up to a fault if there is one. -/
theorem yields_checkConstraints (cs : List Constraint) :
    (checkConstraints scope false name cs).YieldsReport (Accounted tree filter)
      (Account tree filter (.items scope name cs)) := by
  induction cs with
  | nil => exact Account.noItem
  | cons c rest ih =>
      refine (yields_checkConstraint htree c).bind fun verdict inner hitem => ?_
      rcases verdict with (failure | fault) | ⟨⟩
      case error.fatal => exact .tellOf (.lastItem hitem)
      case error.broken =>
        refine .tellOf (ih.bind fun others told hothers => ?_)
        have hall := Account.nextItem hitem (by simp) hothers
        rw [Report.behind_ofVerdict] at hall
        change Account tree filter _ ⟨failure :: others, inner ++ _ :: (told ++ [])⟩
        rw [List.append_nil]
        exact hall
      case ok =>
        refine .tellOf (ih.mono fun others told hothers => ?_)
        have hall := Account.nextItem hitem (by simp) hothers
        rw [Report.behind_ofVerdict] at hall
        exact hall

theorem yields_checkObject (cs : List Constraint) :
    (checkObject scope false cs name).YieldsReport (Accounted tree filter) fun r =>
      ∀ rest others, Account tree filter (.objects scope rest) others →
        Account tree filter (.objects scope ((name, cs) :: rest)) (r ++ others) := by
  refine .tellOf ((yields_checkConstraints htree cs).bind fun failures told hitems => ?_)
  intro rest others hothers
  exact .nextObject hitems hothers

theorem yields_checkGroup {g : Group} (hg : g.Compiles) :
    (checkGroup scope false g).YieldsReport (Accounted tree filter)
      (Account tree filter (.objects scope (scope.namedObjects [g]))) := by
  have hobjects : scope.namedObjects [g]
      = (scope.expand g.pattern).map fun name => (name, g.constraints) := by
    rw [namedObjects, List.flatMap_singleton]
  rw [checkGroup, names_eq_ok hg, hobjects]
  refine Yields.collect (P := fun names r => Account tree filter
    (.objects scope (names.map fun name => (name, g.constraints))) r) .noObject ?_
    fun name _ => yields_checkObject htree g.constraints
  intro name names r others hobject hothers
  exact hobject _ _ hothers

theorem yields_checkGroups {gs : List Group} (hgs : ∀ g ∈ gs, g.Compiles) :
    (checkGroups scope false gs).YieldsReport (Accounted tree filter)
      (Account tree filter (.objects scope (scope.namedObjects gs))) := by
  refine Yields.collect (P := fun gs r => Account tree filter
    (.objects scope (scope.namedObjects gs)) r) .noObject ?_
    fun g hg => yields_checkGroup htree (hgs g hg)
  intro g gs r others hfirst hothers
  rw [← List.singleton_append, namedObjects_append]
  exact hfirst.objects_append hothers

omit htree in
theorem yields_anyHolds (sts : List Statement) :
    (anyHolds scope sts).Yields (Accounted tree filter) fun held events =>
      events = [] ∧ (anyHolds scope sts).heard (Pass.outcome tree filter) = some (held, []) := by
  refine (yields_heard (fun p r hr => hr.1) _).mono fun held events hheard => ?_
  obtain rfl := events_eq_nil_of_anyHolds hheard
  exact ⟨rfl, hheard⟩

/-- A block yields the account of the objects in the branch that it chooses. Its statements add
nothing, as their passes are silent. -/
theorem yields_checkBlock {b : ConditionalBlock} (hb : ∀ g ∈ b.groups, g.Compiles) :
    (checkBlock scope false b).YieldsReport (Accounted tree filter) fun r =>
      ∃ gs, scope.Chooses tree filter b gs ∧
        Account tree filter (.objects scope (scope.namedObjects gs)) r := by
  have hbody : ∀ g ∈ b.body, g.Compiles := fun g hg =>
    hb g (List.mem_append_left _ (List.mem_append_right _ hg))
  have hother : ∀ g ∈ b.otherwise.getD [], g.Compiles := fun g hg =>
    hb g (List.mem_append_right _ hg)
  refine (yields_anyHolds b.statements).bind ?_
  rintro held _ ⟨rfl, hheld⟩
  cases held with
  | true =>
      refine (yields_checkGroups htree hbody).mono fun failures told h => ?_
      exact ⟨b.body, ⟨true, hheld, rfl⟩, h⟩
  | false =>
      refine (yields_checkGroups htree hother).mono fun failures told h => ?_
      exact ⟨b.otherwise.getD [], ⟨false, hheld, rfl⟩, h⟩

theorem yields_checkBlocks {bs : List ConditionalBlock}
    (hbs : ∀ b ∈ bs, ∀ g ∈ b.groups, g.Compiles) :
    (collect (checkBlock scope false) bs).YieldsReport (Accounted tree filter) fun r =>
      ∃ branches, List.Forall₂ (scope.Chooses tree filter) bs branches ∧
        Account tree filter (.objects scope (scope.namedObjects branches.flatten)) r := by
  refine Yields.collect (P := fun bs r => ∃ branches,
    List.Forall₂ (scope.Chooses tree filter) bs branches ∧
      Account tree filter (.objects scope (scope.namedObjects branches.flatten)) r)
    ⟨[], .nil, .noObject⟩ ?_ fun b hb => yields_checkBlock htree (hbs b hb)
  rintro b bs r others ⟨gs, hgs, hr⟩ ⟨branches, hbranches, hothers⟩
  refine ⟨gs :: branches, .cons hgs hbranches, ?_⟩
  rw [List.flatten_cons, namedObjects_append]
  exact hr.objects_append hothers

/-- A section yields its account in front of those of the sections behind it. -/
theorem yields_checkSection {sec : Section} (hsec : ∀ g ∈ sec.allGroups, g.Compiles) :
    (checkSection scope false sec).YieldsReport (Accounted tree filter) fun r =>
      ∀ rest others, Account tree filter (.sections scope rest) others →
        Account tree filter (.sections scope (sec :: rest)) (r ++ others) := by
  have hgroups : ∀ g ∈ sec.groups, g.Compiles := fun g hg => hsec g (List.mem_append_left _ hg)
  have hblocks : ∀ b ∈ sec.blocks, ∀ g ∈ b.groups, g.Compiles := fun b hb g hg =>
    hsec g (List.mem_append_right _ (List.mem_flatMap.mpr ⟨b, hb, hg⟩))
  refine .tellOf ((yields_checkGroups htree hgroups).bind fun groups told hgroups => ?_)
  refine (yields_checkBlocks htree hblocks).bind ?_
  rintro blocks told' ⟨branches, hbranches, hblocks⟩ rest others hothers
  have hobjects := hgroups.objects_append hblocks
  rw [← namedObjects_append] at hobjects
  have hall := Account.nextSection hbranches hobjects hothers
  change Account tree filter _ (⟨groups ++ blocks, _ :: (told ++ (told' ++ [_]))⟩ ++ others)
  rw [← List.append_assoc told]
  exact hall

theorem yields_checkSections {secs : List Section}
    (hsecs : ∀ sec ∈ secs, ∀ g ∈ sec.allGroups, g.Compiles) :
    (checkSections scope false secs).YieldsReport (Accounted tree filter)
      (Account tree filter (.sections scope
        (secs.filter fun sec => scope.filter.accepts sec.tags))) := by
  refine Yields.collect (P := fun secs r => Account tree filter (.sections scope secs) r)
    .noSection ?_ fun sec hsec => yields_checkSection htree (hsecs sec (List.mem_filter.mp hsec).1)
  intro sec rest r others hsec hothers
  exact hsec rest others hothers

end

end Scope

/-- A pass that is reported and comes to an end has its account, if its patterns and those of the
specs that its components may have can be compiled. -/
theorem Pass.account_of_outcome {tree : FileTree} {filter : TagFilter} {p : Pass} {r : Report}
    (htree : tree.SpecsCompile) (hp : p.silent = false) (hdocument : p.document.Compiles)
    (h : p.outcome tree filter = some r) : Account tree filter (.pass p) r := by
  refine of_yields
    (Q := fun p r => p.silent = false → p.document.Compiles → Account tree filter (.pass p) r)
    (fun p => ?_) h hp hdocument
  obtain ⟨depth, silent, document, page⟩ := p
  cases silent with
  | true =>
      exact (Walk.yields_heard (fun _ _ hr => hr.1) _).mono fun _ _ _ hp => Bool.noConfusion hp
  | false =>
      by_cases hcompiles : document.Compiles
      · have hsections : ∀ sec ∈ document.sections, ∀ g ∈ sec.allGroups, g.Compiles :=
          fun sec hsec g hg => hcompiles g (List.mem_flatMap.mpr ⟨sec, hsec, hg⟩)
        exact (Scope.yields_checkSections htree hsections).mono fun _ _ hr _ _ => .pass hr
      · exact (Walk.yields_heard (fun _ _ hr => hr.1) _).mono fun _ _ _ _ hd => absurd hd hcompiles

end LayoutSpec
