import LayoutSpec.Proofs.Page
import LayoutSpec.Proofs.Validation.Told

/-!
A pass over a page beside the pass over the page as it is seen from somewhere else. No check looks
at where the page begins: the same constraints are broken, with the same messages, and only the
areas in the failures move. Inside a component the two passes are one.
-/

namespace LayoutSpec

namespace Area

variable (a b origin : Area)

@[simp]
theorem contains_relativeTo :
    (a.relativeTo origin).contains (b.relativeTo origin) = a.contains b := by
  rw [Bool.eq_iff_iff]
  simp only [contains, Bool.and_eq_true, decide_eq_true_eq]
  simp only [relativeTo, right, bottom]
  omega

@[simp]
theorem intersects_relativeTo :
    (a.relativeTo origin).intersects (b.relativeTo origin) = a.intersects b := by
  rw [Bool.eq_iff_iff]
  simp only [intersects, Bool.and_eq_true, decide_eq_true_eq]
  simp only [relativeTo, right, bottom]
  omega

end Area

namespace Check

variable (a b origin : Area)

@[simp]
theorem insideOffset_relativeTo :
    insideOffset (a.relativeTo origin) (b.relativeTo origin) = insideOffset a b := by
  funext side
  cases side <;> simp only [insideOffset, Area.relativeTo, Area.right, Area.bottom] <;> omega

@[simp]
theorem nearOffset_relativeTo :
    nearOffset (a.relativeTo origin) (b.relativeTo origin) = nearOffset a b := by
  funext side
  cases side <;> simp only [nearOffset, Area.relativeTo, Area.right, Area.bottom] <;> omega

@[simp]
theorem gap_relativeTo : gap (a.relativeTo origin) (b.relativeTo origin) = gap a b := by
  funext direction
  cases direction <;> simp only [gap, Area.relativeTo, Area.right, Area.bottom] <;> omega

@[simp]
theorem alignOffsets_relativeTo :
    alignOffsets (a.relativeTo origin) (b.relativeTo origin) = alignOffsets a b := by
  funext axis edge
  cases axis <;> cases edge <;>
    simp only [alignOffsets, Area.relativeTo, Area.right, Area.bottom, Area.center,
      List.cons.injEq, and_true] <;> omega

@[simp]
theorem centerOffsets_relativeTo :
    centerOffsets (a.relativeTo origin) (b.relativeTo origin) = centerOffsets a b := by
  funext axis
  cases axis <;>
    simp only [centerOffsets, Area.relativeTo, Area.right, Area.bottom, List.cons.injEq,
      Prod.mk.injEq, and_true, true_and] <;> omega

@[simp]
theorem insideMessages_relativeTo (name object : String) (partly : Bool) :
    insideMessages name object partly (a.relativeTo origin) (b.relativeTo origin)
      = insideMessages name object partly a b := by
  simp only [insideMessages, Area.intersects_relativeTo, Area.contains_relativeTo]

end Check

/-- The second element is the first one as it is seen from `origin`, if it is on the page at all. -/
structure Snapshot.Moves (origin : Area) (s s' : Snapshot) : Prop where
  present : s'.present = s.present
  eq_of_present : s.present = true → s' = s.relativeTo origin

theorem Snapshot.moves_relativeTo (s : Snapshot) (origin : Area) :
    s.Moves origin (s.relativeTo origin) :=
  ⟨rfl, fun _ => rfl⟩

theorem lookup_map_snd {α β γ : Type} [BEq α] (f : β → γ) (key : α) (entries : List (α × β)) :
    (entries.map fun (k, v) => (k, f v)).lookup key = (entries.lookup key).map f := by
  induction entries with
  | nil => rfl
  | cons entry rest ih =>
      obtain ⟨k, v⟩ := entry
      rw [List.map_cons, List.lookup_cons, List.lookup_cons]
      cases key == k with
      | true => rfl
      | false => exact ih

namespace Page

variable (p : Page) (origin : Area)

theorem lookup_seenFrom (locator : Locator) :
    (p.seenFrom origin).elements.lookup locator
      = (p.elements.lookup locator).map (·.relativeTo origin) :=
  lookup_map_snd (fun s : Snapshot => s.relativeTo origin) locator p.elements

theorem resolve_moves (locator : Locator) :
    (p.resolve locator).Moves origin ((p.seenFrom origin).resolve locator) := by
  rw [resolve, resolve, lookup_seenFrom]
  cases p.elements.lookup locator with
  | none => exact ⟨rfl, fun h => by cases h⟩
  | some s => exact s.moves_relativeTo origin

@[simp]
theorem count_seenFrom (locator : Locator) :
    (p.seenFrom origin).count locator = p.count locator := by
  rw [count, count, lookup_seenFrom, Option.isSome_map]
  rfl

theorem special?_seenFrom (name : String) :
    (p.seenFrom origin).special? name = (p.special? name).map (·.relativeTo origin) :=
  lookup_map_snd (fun s : Snapshot => s.relativeTo origin) name p.specials

/-- The page of a component that is a part of this page is seen from its element. -/
theorem of_subPage?_eq_some {p sub : Page} {locator : Locator} (h : p.subPages = [])
    (hsub : p.subPage? locator = some sub) :
    (p.resolve locator).present = true ∧ sub = p.seenFrom (p.resolve locator).area := by
  have hnone : p.subPages.lookup locator = none := by
    rw [h]
    rfl
  simp only [subPage?, hnone] at hsub
  split at hsub
  · next hpresent => exact ⟨hpresent, (Option.some.inj hsub).symm⟩
  · cases hsub

/-- Pages of components are the same from wherever the page around them is seen, if they are parts
of it. -/
theorem subPage?_seenFrom (h : p.subPages = []) (locator : Locator) :
    (p.seenFrom origin).subPage? locator = p.subPage? locator := by
  have hmoves := p.resolve_moves origin locator
  have hnone : p.subPages.lookup locator = none := by
    rw [h]
    rfl
  have hmoved : (p.seenFrom origin).subPages.lookup locator = none := rfl
  rw [subPage?, subPage?, hnone, hmoved]
  simp only [hmoves.present]
  cases hpresent : (p.resolve locator).present with
  | false => rfl
  | true =>
      rw [hmoves.eq_of_present hpresent]
      exact congrArg some (p.seenFrom_seenFrom (p.resolve locator).area origin)

end Page

@[simp]
theorem resolveObjects_seenFrom (objects : ObjectTable) (page : Page) (origin : Area) :
    resolveObjects objects (page.seenFrom origin) = resolveObjects objects page := by
  simp only [resolveObjects, resolveEntry, Page.count_seenFrom]

/-- The failure with its areas as they are seen from `origin`. -/
def Failure.relativeTo (f : Failure) (origin : Area) : Failure :=
  { f with areas := f.areas.map (·.relativeTo origin) }

def Finding.relativeTo (origin : Area) : Finding → Finding
  | .broken failure => .broken (failure.relativeTo origin)
  | .fatal fault => .fatal fault

/-- Two checks come to related results, or find the same with the areas moved. -/
inductive CheckResult.Moves {α β : Type} (origin : Area) (R : α → β → Prop) :
    CheckResult α → CheckResult β → Prop where
  | ok {a : α} {b : β} : R a b → Moves origin R (.ok a) (.ok b)
  | error (finding : Finding) : Moves origin R (.error finding) (.error (finding.relativeTo origin))

namespace CheckResult.Moves

variable {α β γ δ : Type} {origin : Area} {R : α → β → Prop} {S : γ → δ → Prop}
  {x : CheckResult α} {y : CheckResult β}

theorem bind {f : α → CheckResult γ} {g : β → CheckResult δ} (hxy : Moves origin R x y)
    (hfg : ∀ a b, R a b → Moves origin S (f a) (g b)) : Moves origin S (x >>= f) (y >>= g) := by
  cases hxy with
  | ok hab => exact hfg _ _ hab
  | error finding => exact .error finding

theorem ite {c : Prop} [Decidable c] {f f' : CheckResult α} {g g' : CheckResult β}
    (ht : c → Moves origin R f g) (he : ¬ c → Moves origin R f' g') :
    Moves origin R (if c then f else f') (if c then g else g') := by
  by_cases h : c
  · rw [if_pos h, if_pos h]
    exact ht h
  · rw [if_neg h, if_neg h]
    exact he h

end CheckResult.Moves

/-- The scope of the same pass over the page as it is seen from `origin`. -/
def Scope.seenFrom (scope : Scope) (origin : Area) : Scope :=
  { scope with page := scope.page.seenFrom origin }

theorem Scope.ofDocument_seenFrom (document : Document) (page : Page) (filter : TagFilter)
    (tree : FileTree) (depth : Nat) (origin : Area) :
    ofDocument document (page.seenFrom origin) filter tree depth
      = (ofDocument document page filter tree depth).seenFrom origin := by
  rw [ofDocument, resolveObjects_seenFrom]
  rfl

namespace Check

variable (scope : Scope) (origin : Area) (name : String)

/-- The second one is the first one as it is seen from `origin`. -/
abbrev MovesArea (a b : Area) : Prop :=
  b = a.relativeTo origin

theorem find_moves :
    (find scope name).Moves origin (Snapshot.Moves origin) (find (scope.seenFrom origin) name) := by
  simp only [find, Scope.find, Scope.seenFrom, Page.special?_seenFrom]
  cases scope.objects.get? name with
  | some locator => exact .ok (scope.page.resolve_moves origin locator)
  | none =>
      cases scope.page.special? name with
      | some s => exact .ok (s.moves_relativeTo origin)
      | none => exact .error _

/-- The element of an object is found or missed for the same reason, and is the same one moved. -/
theorem visibleElement_moves :
    (visibleElement scope name).Moves origin (fun s s' => s' = s.relativeTo origin)
      (visibleElement (scope.seenFrom origin) name) := by
  refine (find_moves scope origin name).bind fun s s' hs => ?_
  cases hpresent : s.present with
  | false =>
      rw [hs.present, hpresent]
      exact .error (.broken ⟨[], _⟩)
  | true =>
      obtain rfl := hs.eq_of_present hpresent
      obtain ⟨present, visible, area, text⟩ := s
      obtain rfl : present = true := hpresent
      cases visible with
      | false => exact .error (.broken ⟨[area], _⟩)
      | true => exact .ok rfl

theorem visibleArea_moves :
    (visibleArea scope name).Moves origin (MovesArea origin)
      (visibleArea (scope.seenFrom origin) name) := by
  refine (visibleElement_moves scope origin name).bind ?_
  rintro s _ rfl
  exact .ok rfl

theorem failUnless_moves (messages : List String) (areas : List Area) :
    (failUnless messages areas).Moves origin Eq
      (failUnless messages (areas.map (·.relativeTo origin))) :=
  .ite (fun _ => .ok rfl) fun _ => .error (.broken ⟨areas, messages⟩)

/-- What is found of two objects depends on where they are seen from in its areas alone. Both are
moved by the same distance. -/
theorem visibleAreas_moves {object : String} {f : Area → Area → CheckResult Unit}
    (hf : ∀ a b, (f a b).Moves origin Eq (f (a.relativeTo origin) (b.relativeTo origin))) :
    CheckResult.Moves origin Eq
      (do let a ← visibleArea scope name; let b ← visibleArea scope object; f a b)
      (do let a ← visibleArea (scope.seenFrom origin) name
          let b ← visibleArea (scope.seenFrom origin) object
          f a b) := by
  refine (visibleArea_moves scope origin name).bind ?_
  rintro a _ rfl
  refine (visibleArea_moves scope origin object).bind ?_
  rintro b _ rfl
  exact hf a b

theorem checkAbsent_moves :
    (checkAbsent scope name).Moves origin Eq (checkAbsent (scope.seenFrom origin) name) := by
  refine (find_moves scope origin name).bind fun s s' hs => ?_
  cases hpresent : s.present with
  | false =>
      rw [hs.present, hpresent]
      exact .ok rfl
  | true =>
      obtain rfl := hs.eq_of_present hpresent
      simp only [Snapshot.relativeTo, hpresent]
      cases s.visible with
      | false => exact .ok rfl
      | true => exact .error (.broken ⟨[s.area], _⟩)

theorem checkDimension_moves (dimension : String) (actual : Int) (range : PixelRange)
    (area : Area) :
    (checkDimension name dimension actual range area).Moves origin Eq
      (checkDimension name dimension actual range (area.relativeTo origin)) :=
  .ite (fun _ => .ok rfl) fun _ => .error (.broken ⟨[area], _⟩)

theorem checkInside_moves (object : String) (partly : Bool) (locations : List Location) :
    (checkInside scope name object partly locations).Moves origin Eq
      (checkInside (scope.seenFrom origin) name object partly locations) := by
  refine visibleAreas_moves scope origin name fun a b => ?_
  rw [insideMessages_relativeTo, insideOffset_relativeTo]
  exact failUnless_moves origin _ [a, b]

theorem checkNear_moves (object : String) (locations : List Location) :
    (checkNear scope name object locations).Moves origin Eq
      (checkNear (scope.seenFrom origin) name object locations) := by
  refine visibleAreas_moves scope origin name fun a b => ?_
  rw [nearOffset_relativeTo]
  exact failUnless_moves origin _ [a, b]

theorem checkRelative_moves (direction : Direction) (object : String) (range : PixelRange) :
    (checkRelative scope name direction object range).Moves origin Eq
      (checkRelative (scope.seenFrom origin) name direction object range) := by
  refine visibleAreas_moves scope origin name fun a b => ?_
  rw [gap_relativeTo]
  exact .ite (fun _ => .error (.broken ⟨[a, b], _⟩)) fun _ => .ok rfl

theorem checkAligned_moves (axis : Axis) (edge : AlignEdge) (object : String) (tolerance : Int) :
    (checkAligned scope name axis edge object tolerance).Moves origin Eq
      (checkAligned (scope.seenFrom origin) name axis edge object tolerance) := by
  refine visibleAreas_moves scope origin name fun a b => ?_
  rw [alignOffsets_relativeTo]
  exact .ite (fun _ => .error (.broken ⟨[a, b], _⟩)) fun _ => .ok rfl

theorem checkCentered_moves (axis : CenterAxis) (relation : CenterRelation) (object : String)
    (tolerance : Int) :
    (checkCentered scope name axis relation object tolerance).Moves origin Eq
      (checkCentered (scope.seenFrom origin) name axis relation object tolerance) := by
  refine visibleAreas_moves scope origin name fun a b => ?_
  rw [centerOffsets_relativeTo, insideMessages_relativeTo]
  exact failUnless_moves origin _ [a, b]

/-- Messages stay as they are, and areas move. -/
abbrev MovesFindings (a b : List String × List Area) : Prop :=
  b = (a.1, a.2.map (·.relativeTo origin))

/-- Findings about some objects are moved if those about the others are. -/
theorem appendFindings_moves (first : List String × List Area)
    {others others' : CheckResult (List String × List Area)}
    (hothers : others.Moves origin (MovesFindings origin) others') :
    CheckResult.Moves origin (MovesFindings origin)
      (do let b ← others; return (first.1 ++ b.1, first.2 ++ b.2))
      (do let b ← others'; return (first.1 ++ b.1, first.2.map (·.relativeTo origin) ++ b.2)) := by
  refine hothers.bind ?_
  rintro b _ rfl
  refine .ok ?_
  rw [MovesFindings, List.map_append]

theorem names_moves (pattern : String) :
    (names scope pattern).Moves origin Eq (names (scope.seenFrom origin) pattern) := by
  have hnames : (scope.seenFrom origin).names pattern = scope.names pattern := rfl
  rw [names, names, hnames]
  cases scope.names pattern with
  | error fault => exact .error (.fatal fault)
  | ok children => exact .ok rfl

/-- What is wrong with the objects that should be in a container is the same for both pages, with
the areas moved. -/
theorem childFindings_moves (partly : Bool) (container : Area) (children : List String) :
    (childFindings scope name partly container children).Moves origin (MovesFindings origin)
      (childFindings (scope.seenFrom origin) name partly
        (container.relativeTo origin) children) := by
  induction children with
  | nil => exact .ok rfl
  | cons child rest ih =>
      refine (find_moves scope origin child).bind fun s s' hs => ?_
      cases hpresent : s.present with
      | false =>
          rw [hs.present, hpresent]
          exact appendFindings_moves origin ([_], []) ih
      | true =>
          obtain rfl := hs.eq_of_present hpresent
          simp only [Snapshot.relativeTo, Area.intersects_relativeTo, Area.contains_relativeTo,
            hpresent]
          cases s.visible with
          | false => exact appendFindings_moves origin ([_], []) ih
          | true =>
              cases if partly then container.intersects s.area else container.contains s.area with
              | true => exact appendFindings_moves origin ([], []) ih
              | false => exact appendFindings_moves origin ([_], [s.area]) ih

theorem patternFindings_moves (partly : Bool) (container : Area) (patterns : List String) :
    (patternFindings scope name partly container patterns).Moves origin (MovesFindings origin)
      (patternFindings (scope.seenFrom origin) name partly (container.relativeTo origin)
        patterns) := by
  induction patterns with
  | nil => exact .ok rfl
  | cons pattern rest ih =>
      refine (names_moves scope origin pattern).bind ?_
      rintro children _ rfl
      refine .ite (fun _ => ?_) fun _ => ?_
      · exact appendFindings_moves origin ([_], []) ih
      · refine (childFindings_moves scope origin name partly container children).bind ?_
        rintro first _ rfl
        exact appendFindings_moves origin first ih

theorem checkContains_moves (partly : Bool) (patterns : List String) :
    (checkContains scope name partly patterns).Moves origin Eq
      (checkContains (scope.seenFrom origin) name partly patterns) := by
  refine (visibleArea_moves scope origin name).bind ?_
  rintro container _ rfl
  refine (patternFindings_moves scope origin name partly container patterns).bind ?_
  rintro ⟨messages, areas⟩ _ rfl
  exact failUnless_moves origin messages (container :: areas)

theorem checkText_moves (operation : TextOperation) (expected : String) :
    (checkText scope name operation expected).Moves origin Eq
      (checkText (scope.seenFrom origin) name operation expected) := by
  refine (visibleElement_moves scope origin name).bind ?_
  rintro s _ rfl
  simp only [Snapshot.relativeTo]
  cases s.text with
  | none => exact .error (.fatal _)
  | some actual =>
      dsimp only
      cases textHolds operation expected actual with
      | error fault => exact .error (.fatal fault)
      | ok held =>
          cases held with
          | true => exact .ok rfl
          | false => exact .error (.broken ⟨[s.area], _⟩)

/-- Every check finds the same of a page from wherever it is seen. Only distances are measured, in
which the origin cancels out, and pages are compared with a moved container. -/
theorem check_moves (c : Constraint) :
    (check scope name c).Moves origin Eq (check (scope.seenFrom origin) name c) := by
  cases c with
  | absent => exact checkAbsent_moves scope origin name
  | visible => exact (visibleElement_moves scope origin name).bind fun _ _ _ => .ok rfl
  | width range =>
      refine (visibleArea_moves scope origin name).bind ?_
      rintro area _ rfl
      exact checkDimension_moves origin name "width" area.width range area
  | height range =>
      refine (visibleArea_moves scope origin name).bind ?_
      rintro area _ rfl
      exact checkDimension_moves origin name "height" area.height range area
  | inside object partly locations =>
      exact checkInside_moves scope origin name object partly locations
  | near object locations => exact checkNear_moves scope origin name object locations
  | relative direction object range =>
      exact checkRelative_moves scope origin name direction object range
  | aligned axis edge object tolerance =>
      exact checkAligned_moves scope origin name axis edge object tolerance
  | centered axis relation object tolerance =>
      exact checkCentered_moves scope origin name axis relation object tolerance
  | contains partly objects => exact checkContains_moves scope origin name partly objects
  | text operation expected => exact checkText_moves scope origin name operation expected
  | component spec => exact .ok rfl

/-- A component is checked over the same page from wherever the page around it is seen: its own
corner is the origin of that page. -/
theorem component_seenFrom (h : scope.page.subPages = []) (spec : Path) :
    component (scope.seenFrom origin) name spec = component scope name spec := by
  simp only [component, Scope.seenFrom, Page.subPage?_seenFrom scope.page origin h]
  rfl

theorem componentVerdict_moves {locator : Locator}
    (h : (scope.page.resolve locator).present = true) (count : Nat) :
    (componentVerdict scope locator count).Moves origin Eq
      (componentVerdict (scope.seenFrom origin) locator count) := by
  refine .ite (fun _ => .ok rfl) fun _ => ?_
  rw [Scope.seenFrom, (scope.page.resolve_moves origin locator).eq_of_present h]
  exact .error (.broken ⟨[_], _⟩)

end Check

/-- The second report tells of the same page as it is seen from `origin`: its failures are moved,
and its events are recorded with the same words. -/
structure Report.Moves (origin : Area) (r r' : Report) : Prop where
  failures : r'.failures = r.failures.map (·.relativeTo origin)
  records : r'.events.map Event.record = r.events.map Event.record

/-- The second failures are the first ones as they are seen from `origin`. -/
def FailuresMove (origin : Area) (failures failures' : List Failure) : Prop :=
  failures' = failures.map (·.relativeTo origin)

theorem rel_option_map {α β γ δ : Type} {R : α → β → Prop} {S : γ → δ → Prop} {f : α → γ}
    {g : β → δ}
    {a : Option α} {b : Option β} (h : Option.Rel R a b) (hfg : ∀ a b, R a b → S (f a) (g b)) :
    Option.Rel S (a.map f) (b.map g) := by
  cases h with
  | none => exact .none
  | some h => exact .some (hfg _ _ h)

namespace Walk

variable {α β γ δ : Type}

/-- Two walks tell of events that are recorded in the same words and enter the same passes, and come
to related results. -/
inductive Moves (R : α → β → Prop) : Walk α → Walk β → Prop where
  | done {a : α} {b : β} : R a b → Moves R (done a) (done b)
  | tell {e e' : Event} {x : Walk α} {y : Walk β} : e'.record = e.record → Moves R x y →
    Moves R (tell e x) (tell e' y)
  | enter (p : Pass) {next : List Failure → Walk α} {next' : List Failure → Walk β} :
    (∀ failures, Moves R (next failures) (next' failures)) → Moves R (enter p next) (enter p next')

variable {R : α → β → Prop} {S : γ → δ → Prop} {x : Walk α} {y : Walk β} {origin : Area}

namespace Moves

theorem bind {f : α → Walk γ} {g : β → Walk δ} (hxy : Moves R x y)
    (hfg : ∀ a b, R a b → Moves S (f a) (g b)) : Moves S (x >>= f) (y >>= g) := by
  induction hxy with
  | done hab => exact hfg _ _ hab
  | tell he _ ih => exact .tell he ih
  | enter p _ ih => exact .enter p ih

theorem tellOf (silent : Bool) {e e' : Event} (he : e'.record = e.record) (hxy : Moves R x y) :
    Moves R (tellOf silent e >>= fun _ => x) (tellOf silent e' >>= fun _ => y) := by
  cases silent with
  | true => exact hxy
  | false => exact .tell he hxy

theorem collect {f g : α → Walk (List Failure)}
    (hfg : ∀ a, Moves (FailuresMove origin) (f a) (g a)) (xs : List α) :
    Moves (FailuresMove origin) (Walk.collect f xs) (Walk.collect g xs) := by
  induction xs with
  | nil => exact .done rfl
  | cons a xs ih =>
      refine (hfg a).bind fun first first' hfirst => ih.bind fun others others' hothers => .done ?_
      rw [FailuresMove, hfirst, hothers, List.map_append]

/-- With the same reports, the two come to related results and are heard with the same words, or
neither comes to a result. -/
theorem rel_heard (h : Moves R x y) (reports : Pass → Option Report) :
    Option.Rel (fun told told' => R told.1 told'.1 ∧
        told'.2.map Event.record = told.2.map Event.record)
      (x.heard reports) (y.heard reports) := by
  induction h with
  | done hab => exact .some ⟨hab, rfl⟩
  | @tell e e' x y he _ ih =>
      rw [heard_tell, heard_tell]
      refine rel_option_map ih fun told told' h => ⟨h.1, ?_⟩
      change e'.record :: told'.2.map Event.record = e.record :: told.2.map Event.record
      rw [he, h.2]
  | @enter p next next' _ ih =>
      rw [heard_enter, heard_enter]
      cases reports p with
      | none => exact .none
      | some r =>
          refine rel_option_map (ih r.failures) fun told told' h => ⟨h.1, ?_⟩
          rw [List.map_append, List.map_append, h.2]

end Moves

end Walk

namespace Scope

open Walk

variable {scope : Scope} (origin : Area) (silent : Bool) (name : String)
  (hparts : scope.page.subPages = [])

include hparts

/-- The pass inside a component is the same for both, and only the verdict about it moves. Its page
is seen from the component, wherever that one is seen from. -/
theorem checkConstraint_moves (c : Constraint) :
    Walk.Moves (fun verdict verdict' => verdict.Moves origin Eq verdict')
      (checkConstraint scope silent name c)
      (checkConstraint (scope.seenFrom origin) silent name c) := by
  have hcheck := Check.check_moves scope origin name c
  cases c with
  | component spec =>
      simp only [checkConstraint]
      rw [Check.component_seenFrom scope origin name hparts]
      cases hcomponent : Check.component scope name spec with
      | error finding =>
          cases finding with
          | broken failure => cases Check.severity_component hcomponent
          | fatal fault => exact .done (.error (.fatal fault))
      | ok found =>
          obtain ⟨document, page, locator⟩ := found
          obtain ⟨-, hsub⟩ := Check.of_component_eq_ok hcomponent
          obtain ⟨hpresent, -⟩ := Page.of_subPage?_eq_some hparts hsub
          refine .enter _ fun failures => .done ?_
          exact Check.componentVerdict_moves scope origin hpresent failures.length
  | _ => exact .done hcheck

theorem checkConstraints_moves (cs : List Constraint) :
    Walk.Moves (FailuresMove origin) (checkConstraints scope silent name cs)
      (checkConstraints (scope.seenFrom origin) silent name cs) := by
  induction cs with
  | nil => exact .done rfl
  | cons c rest ih =>
      refine (checkConstraint_moves origin silent name hparts c).bind ?_
      intro verdict verdict' hverdict
      cases hverdict with
      | ok _ => exact .tellOf silent rfl ih
      | error finding =>
          cases finding with
          | broken failure =>
              refine .tellOf silent rfl (ih.bind fun others others' hothers => .done ?_)
              exact congrArg (failure.relativeTo origin :: ·) hothers
          | fatal fault => exact .tellOf silent rfl (.done rfl)

theorem checkGroups_moves (gs : List Group) :
    Walk.Moves (FailuresMove origin) (checkGroups scope silent gs)
      (checkGroups (scope.seenFrom origin) silent gs) := by
  refine .collect (fun g => ?_) gs
  have hnames : (scope.seenFrom origin).names g.pattern = scope.names g.pattern := rfl
  rw [checkGroup, checkGroup, hnames]
  cases scope.names g.pattern with
  | error fault => exact .done rfl
  | ok objects =>
      refine .collect (fun object => ?_) objects
      refine .tellOf silent rfl
        ((checkConstraints_moves origin silent object hparts g.constraints).bind ?_)
      exact fun failures failures' h => .tellOf silent rfl (.done h)

/-- Conditions hold or do not from wherever the page is seen, as it only matters to them whether
anything fails. -/
theorem anyHolds_moves (sts : List Statement) :
    Walk.Moves Eq (anyHolds scope sts) (anyHolds (scope.seenFrom origin) sts) := by
  induction sts with
  | nil => exact .done rfl
  | cons st rest ih =>
      have hstatement : Walk.Moves Eq (holds scope st) (holds (scope.seenFrom origin) st) := by
        refine (checkGroups_moves origin true hparts st.groups).bind fun failures _ h => .done ?_
        rw [h, List.isEmpty_map]
      refine hstatement.bind ?_
      rintro held _ rfl
      cases held with
      | true => exact .done rfl
      | false => exact ih

theorem checkBlock_moves (b : ConditionalBlock) :
    Walk.Moves (FailuresMove origin) (checkBlock scope silent b)
      (checkBlock (scope.seenFrom origin) silent b) := by
  refine (anyHolds_moves origin hparts b.statements).bind ?_
  rintro held _ rfl
  cases held with
  | true => exact checkGroups_moves origin silent hparts b.body
  | false => exact checkGroups_moves origin silent hparts (b.otherwise.getD [])

theorem checkSections_moves (secs : List Section) :
    Walk.Moves (FailuresMove origin) (checkSections scope silent secs)
      (checkSections (scope.seenFrom origin) silent secs) := by
  refine .collect (fun sec => ?_) (secs.filter fun sec => scope.filter.accepts sec.tags)
  refine .tellOf silent rfl ((checkGroups_moves origin silent hparts sec.groups).bind ?_)
  intro groups groups' hgroups
  refine (Walk.Moves.collect (checkBlock_moves origin silent hparts) sec.blocks).bind ?_
  intro blocks blocks' hblocks
  refine .tellOf silent rfl (.done ?_)
  rw [FailuresMove, hgroups, hblocks, List.map_append]

end Scope

/-- A page without registered parts is validated in the same way from wherever it is seen: its
failures have the same messages and moved areas, the events are recorded in the same words, and
there is no end to the one if there is none to the other. A component inside a component is
validated as if it were one of the page itself. -/
theorem validate_seenFrom {tree : FileTree} {filter : TagFilter} {depth : Nat} {silent : Bool}
    {document : Document} {page : Page} {origin : Area} (hparts : page.subPages = []) :
    Option.Rel (Report.Moves origin) (validate tree filter depth silent document page)
        (validate tree filter depth silent document (page.seenFrom origin)) ∧
      ∀ (outer inner : Locator) (sub : Page), page.subPage? outer = some sub →
        (sub.subPage? inner).map (validate tree filter depth silent document)
          = (page.subPage? inner).map (validate tree filter depth silent document) := by
  constructor
  · have hwalk :=
      @Scope.checkSections_moves (.ofDocument document page filter tree depth) origin silent
      hparts document.sections
    rw [← Scope.ofDocument_seenFrom] at hwalk
    have hheard := hwalk.rel_heard (Pass.outcome tree filter)
    rw [validate, validate, Pass.outcome, Pass.outcome, Walk.report_eq_map, Walk.report_eq_map]
    exact rel_option_map hheard fun told told' h => ⟨h.1, h.2⟩
  · intro outer inner sub hsub
    obtain ⟨-, rfl⟩ := Page.of_subPage?_eq_some hparts hsub
    rw [Page.subPage?_seenFrom page _ hparts]

/-- Three columns and four rows further to the left and up, the cell is as broken as it was. -/
theorem validate_seenFrom_cell :
    ∃ report, validate cellTree .all 0 false cellDocument (cellPage.seenFrom ⟨3, 4, 1, 1⟩)
        = some report ∧
      report.failures = [⟨[⟨7, 6, 100, 50⟩], ["Child component spec contains 1 errors"]⟩] := by
  have hrel := (@validate_seenFrom cellTree .all 0 false cellDocument cellPage ⟨3, 4, 1, 1⟩ rfl).1
  rw [validate_cell] at hrel
  cases hmoved : validate cellTree .all 0 false cellDocument (cellPage.seenFrom ⟨3, 4, 1, 1⟩) with
  | none =>
      rw [hmoved] at hrel
      cases hrel
  | some report =>
      rw [hmoved] at hrel
      cases hrel with
      | some hmoves => exact ⟨report, rfl, hmoves.failures⟩

end LayoutSpec
