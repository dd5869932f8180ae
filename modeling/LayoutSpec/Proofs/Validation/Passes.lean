import LayoutSpec.Validation.Check

/-!
When a check of an object finds nothing wrong, as a condition on what the page shows: each object
that the constraint is about has to be found and displayed, and their areas have to be as the
constraint says. The messages of a check do not matter here, and neither does the order in which it
looks.
-/

namespace LayoutSpec

/-- The object is found on the page, and displayed in that area. -/
def Scope.Shows (scope : Scope) (name : String) (area : Area) : Prop :=
  ∃ element, scope.find name = .ok element ∧ element.present = true ∧ element.visible = true ∧
    element.area = area

/-- The check of a constraint that needs no other spec finds nothing wrong about the object. -/
def Scope.Passes (scope : Scope) (name : String) (c : Constraint) : Prop :=
  Check.check scope name c = .ok ()

instance (scope : Scope) (name : String) (c : Constraint) : Decidable (scope.Passes name c) :=
  decidable_of_iff ((Check.check scope name c).isOk = true) <| by
    rw [Scope.Passes]
    cases Check.check scope name c <;> simp [Except.isOk, Except.toBool]

/-- Whether an area lies within the container, or overlaps it if `partly`. -/
def Area.takesIn (container : Area) (partly : Bool) (element : Area) : Bool :=
  if partly then container.intersects element else container.contains element

theorem Scope.Shows.unique {scope : Scope} {name : String} {a b : Area} (ha : scope.Shows name a)
    (hb : scope.Shows name b) : a = b := by
  obtain ⟨element, hfind, -, -, rfl⟩ := ha
  obtain ⟨other, hother, -, -, rfl⟩ := hb
  rw [Except.ok.inj (hfind.symm.trans hother)]

/-- The areas of the elements of a page and of its objects that need no locator. -/
def Page.areas (p : Page) : List Area :=
  p.elements.map (·.2.area) ++ p.specials.map (·.2.area)

/-- What is displayed has one of the areas of the page. Hypotheses about all areas of a page come to
the checks by this lemma. -/
theorem Scope.Shows.mem_areas {scope : Scope} {name : String} {area : Area}
    (h : scope.Shows name area) : area ∈ scope.page.areas := by
  obtain ⟨element, hfind, hpresent, -, rfl⟩ := h
  rw [find] at hfind
  split at hfind
  · next locator _ =>
      obtain rfl := Except.ok.inj hfind
      rw [Page.resolve] at hpresent ⊢
      cases hlookup : scope.page.elements.lookup locator with
      | none =>
          rw [hlookup] at hpresent
          cases hpresent
      | some found =>
          apply List.mem_append_left
          exact List.mem_map_of_mem (f := (·.2.area)) (mem_of_lookup_eq_some hlookup)
  · split at hfind
    · next found hspecial =>
        obtain rfl := Except.ok.inj hfind
        apply List.mem_append_right
        exact List.mem_map_of_mem (f := (·.2.area)) (mem_of_lookup_eq_some hspecial)
    · cases hfind

theorem CheckResult.bind_eq_ok_iff {α β : Type} {x : CheckResult α} {f : α → CheckResult β}
    {b : β} :
    (x >>= f) = .ok b ↔ ∃ a, x = .ok a ∧ f a = .ok b := by
  cases x with
  | error finding =>
      constructor
      · intro h
        cases h
      · rintro ⟨a, ha, -⟩
        cases ha
  | ok a =>
      constructor
      · intro h
        exact ⟨a, rfl, h⟩
      · rintro ⟨a', ha, h⟩
        rwa [Except.ok.inj ha]

namespace Check

variable {scope : Scope} {name object : String}

theorem find_eq_ok_iff {element : Snapshot} :
    find scope name = .ok element ↔ scope.find name = .ok element := by
  rw [find]
  cases scope.find name <;> simp

theorem names_eq_ok_iff {pattern : String} {found : List String} :
    names scope pattern = .ok found ↔ scope.names pattern = .ok found := by
  rw [names]
  cases scope.names pattern <;> simp

theorem visibleElement_eq_ok_iff {element : Snapshot} :
    visibleElement scope name = .ok element ↔
      scope.find name = .ok element ∧ element.present = true ∧ element.visible = true := by
  rw [visibleElement, CheckResult.bind_eq_ok_iff]
  constructor
  · rintro ⟨found, hfound, h⟩
    obtain ⟨present, visible, area, text⟩ := found
    cases present with
    | false => cases h
    | true =>
        cases visible with
        | false => cases h
        | true =>
            obtain rfl := Except.ok.inj h
            exact ⟨find_eq_ok_iff.mp hfound, rfl, rfl⟩
  · rintro ⟨hfind, hpresent, hvisible⟩
    refine ⟨element, find_eq_ok_iff.mpr hfind, ?_⟩
    rw [hpresent, hvisible]
    rfl

theorem visibleArea_eq_ok_iff {area : Area} :
    visibleArea scope name = .ok area ↔ scope.Shows name area := by
  rw [visibleArea, CheckResult.bind_eq_ok_iff]
  constructor
  · rintro ⟨element, helement, h⟩
    obtain ⟨hfind, hpresent, hvisible⟩ := visibleElement_eq_ok_iff.mp helement
    exact ⟨element, hfind, hpresent, hvisible, Except.ok.inj h⟩
  · rintro ⟨element, hfind, hpresent, hvisible, rfl⟩
    exact ⟨element, visibleElement_eq_ok_iff.mpr ⟨hfind, hpresent, hvisible⟩, rfl⟩

/-- What is asked of two objects holds of the areas in which both are displayed. -/
theorem bothShown_eq_ok_iff {f : Area → Area → CheckResult Unit} :
    (do let a ← visibleArea scope name; let b ← visibleArea scope object; f a b) = .ok () ↔
      ∃ a b, scope.Shows name a ∧ scope.Shows object b ∧ f a b = .ok () := by
  simp only [CheckResult.bind_eq_ok_iff, visibleArea_eq_ok_iff]
  constructor
  · rintro ⟨a, ha, b, hb, h⟩
    exact ⟨a, b, ha, hb, h⟩
  · rintro ⟨a, b, ha, hb, h⟩
    exact ⟨a, ha, b, hb, h⟩

theorem failUnless_eq_ok_iff {messages : List String} {areas : List Area} :
    failUnless messages areas = .ok () ↔ messages = [] := by
  rw [failUnless]
  cases messages <;> simp

theorem locationMessages_eq_nil_iff {locations : List Location} {offset : Side → Int} :
    locationMessages name locations offset = [] ↔
      ∀ location ∈ locations, ∀ side ∈ location.sides,
        location.range.holds (offset side) = true := by
  simp [locationMessages, List.filter_eq_nil_iff]

theorem insideMessages_eq_nil_iff {partly : Bool} {element container : Area} :
    insideMessages name object partly element container = [] ↔
      container.takesIn partly element = true := by
  cases partly <;> simp [insideMessages, Area.takesIn]

theorem passes_inside_iff {partly : Bool} {locations : List Location} :
    scope.Passes name (.inside object partly locations) ↔
      ∃ element container, scope.Shows name element ∧ scope.Shows object container ∧
        container.takesIn partly element = true ∧
        ∀ location ∈ locations, ∀ side ∈ location.sides,
          location.range.holds (insideOffset element container side) = true := by
  rw [Scope.Passes, check, checkInside, bothShown_eq_ok_iff]
  simp only [failUnless_eq_ok_iff, List.append_eq_nil_iff, insideMessages_eq_nil_iff,
    locationMessages_eq_nil_iff]

theorem passes_near_iff {locations : List Location} :
    scope.Passes name (.near object locations) ↔
      ∃ element other, scope.Shows name element ∧ scope.Shows object other ∧
        ∀ location ∈ locations, ∀ side ∈ location.sides,
          location.range.holds (nearOffset element other side) = true := by
  rw [Scope.Passes, check, checkNear, bothShown_eq_ok_iff]
  simp only [failUnless_eq_ok_iff, locationMessages_eq_nil_iff]

/-- A check that only throws passes if it has no reason to. -/
theorem ite_throw_eq_ok_iff {c : Prop} [Decidable c] {finding : Finding} :
    (if c then throw finding else pure () : CheckResult Unit) = .ok () ↔ ¬ c := by
  by_cases h : c <;> simp [h, pure, Except.pure]

theorem passes_relative_iff {direction : Direction} {range : PixelRange} :
    scope.Passes name (.relative direction object range) ↔
      ∃ element other, scope.Shows name element ∧ scope.Shows object other ∧
        range.holds (gap element other direction) = true := by
  rw [Scope.Passes, check, checkRelative, bothShown_eq_ok_iff]
  simp only [ite_throw_eq_ok_iff, Bool.not_eq_true', Bool.not_eq_false]

theorem passes_aligned_iff {axis : Axis} {edge : AlignEdge} {tolerance : Int} :
    scope.Passes name (.aligned axis edge object tolerance) ↔
      ∃ element other, scope.Shows name element ∧ scope.Shows object other ∧
        worst (alignOffsets element other axis edge) ≤ tolerance := by
  rw [Scope.Passes, check, checkAligned, bothShown_eq_ok_iff]
  simp only [ite_throw_eq_ok_iff, Int.not_lt]

theorem passes_centered_iff {axis : CenterAxis} {relation : CenterRelation} {tolerance : Int} :
    scope.Passes name (.centered axis relation object tolerance) ↔
      ∃ element other, scope.Shows name element ∧ scope.Shows object other ∧
        (relation = .inside → other.contains element = true) ∧
        ∀ offset ∈ (centerOffsets element other axis).map Prod.snd,
          (offset.natAbs : Int) ≤ tolerance := by
  rw [Scope.Passes, check, checkCentered, bothShown_eq_ok_iff]
  refine exists_congr fun element => exists_congr fun other => ?_
  simp only [failUnless_eq_ok_iff, List.append_eq_nil_iff, List.map_eq_nil_iff,
    List.filter_eq_nil_iff, List.forall_mem_map, decide_eq_true_eq, Int.not_lt]
  cases relation <;> simp [insideMessages_eq_nil_iff, Area.takesIn]

/-- Nothing is wrong about the objects that were looked at. -/
def FindsNothing (x : CheckResult (List String × List Area)) : Prop :=
  ∃ areas, x = .ok ([], areas)

theorem findsNothing_append_iff {x y : CheckResult (List String × List Area)} :
    FindsNothing (do let a ← x; let b ← y; return (a.1 ++ b.1, a.2 ++ b.2)) ↔
      FindsNothing x ∧ FindsNothing y := by
  simp only [FindsNothing, CheckResult.bind_eq_ok_iff]
  constructor
  · rintro ⟨areas, ⟨messages, found⟩, hx, ⟨more, others⟩, hy, h⟩
    obtain ⟨hmessages, -⟩ := Prod.mk.inj (Except.ok.inj h)
    obtain ⟨rfl, rfl⟩ := List.append_eq_nil_iff.mp hmessages
    exact ⟨⟨found, hx⟩, others, hy⟩
  · rintro ⟨⟨found, hx⟩, others, hy⟩
    exact ⟨found ++ others, ([], found), hx, ([], others), hy, rfl⟩

/-- What is wrong with one object that should be in a container. -/
def childFinding (scope : Scope) (name : String) (partly : Bool) (container : Area)
    (child : String) : CheckResult (List String × List Area) := do
  let element ← find scope child
  return if !element.present || !element.visible then
      ([quoted child ++ " is absent on page"], [])
    else if container.takesIn partly element.area then ([], [])
    else ([quoted child ++ " is outside " ++ quoted name], [element.area])

/-- What is wrong with the objects that one pattern names. -/
def patternFinding (scope : Scope) (name : String) (partly : Bool) (container : Area)
    (pattern : String) : CheckResult (List String × List Area) := do
  let children ← names scope pattern
  if children.isEmpty then return (["There are no objects matching: " ++ pattern], [])
  else childFindings scope name partly container children

variable {partly : Bool} {container : Area}

theorem childFindings_cons (child : String) (rest : List String) :
    childFindings scope name partly container (child :: rest)
      = do let a ← childFinding scope name partly container child
           let b ← childFindings scope name partly container rest
           return (a.1 ++ b.1, a.2 ++ b.2) := by
  rw [childFindings, childFinding]
  cases find scope child <;> rfl

theorem patternFindings_cons (pattern : String) (rest : List String) :
    patternFindings scope name partly container (pattern :: rest)
      = do let a ← patternFinding scope name partly container pattern
           let b ← patternFindings scope name partly container rest
           return (a.1 ++ b.1, a.2 ++ b.2) := by
  rw [patternFindings, patternFinding]
  cases names scope pattern with
  | error finding => rfl
  | ok children => cases children <;> rfl

/-- Nothing is wrong about an object in a container if it is displayed and lies within the
container, or overlaps it where this is enough. -/
theorem findsNothing_child_iff {child : String} :
    FindsNothing (childFinding scope name partly container child) ↔
      ∃ element, scope.Shows child element ∧ container.takesIn partly element = true := by
  simp only [FindsNothing, childFinding, CheckResult.bind_eq_ok_iff, find_eq_ok_iff]
  constructor
  · rintro ⟨areas, element, hfind, h⟩
    have hfound := Except.ok.inj h
    split at hfound
    · cases hfound
    · next hshown =>
        rw [Bool.not_eq_true, Bool.or_eq_false_iff, Bool.not_eq_false',
          Bool.not_eq_false'] at hshown
        split at hfound
        · next hin => exact ⟨element.area, ⟨element, hfind, hshown.1, hshown.2, rfl⟩, hin⟩
        · cases hfound
  · rintro ⟨_, ⟨element, hfind, hpresent, hvisible, rfl⟩, hin⟩
    refine ⟨[], element, hfind, ?_⟩
    rw [hpresent, hvisible, hin]
    rfl

theorem findsNothing_children_iff {children : List String} :
    FindsNothing (childFindings scope name partly container children) ↔
      ∀ child ∈ children, ∃ element, scope.Shows child element ∧
        container.takesIn partly element = true := by
  induction children with
  | nil => simp [FindsNothing, childFindings]
  | cons child rest ih =>
      rw [List.forall_mem_cons, childFindings_cons, findsNothing_append_iff,
        findsNothing_child_iff, ih]

theorem findsNothing_pattern_iff {pattern : String} :
    FindsNothing (patternFinding scope name partly container pattern) ↔
      ∃ children, scope.names pattern = .ok children ∧ children ≠ [] ∧
        ∀ child ∈ children, ∃ element, scope.Shows child element ∧
          container.takesIn partly element = true := by
  rw [FindsNothing, patternFinding]
  simp only [CheckResult.bind_eq_ok_iff, names_eq_ok_iff]
  constructor
  · rintro ⟨areas, children, hnames, h⟩
    split at h
    · cases h
    · next hne =>
        exact ⟨children, hnames, by simpa using hne, findsNothing_children_iff.mp ⟨areas, h⟩⟩
  · rintro ⟨children, hnames, hne, hchildren⟩
    obtain ⟨areas, h⟩ := findsNothing_children_iff.mpr hchildren
    exact ⟨areas, children, hnames, by rwa [if_neg (by simpa using hne)]⟩

theorem findsNothing_patterns_iff {patterns : List String} :
    FindsNothing (patternFindings scope name partly container patterns) ↔
      ∀ pattern ∈ patterns, ∃ children, scope.names pattern = .ok children ∧ children ≠ [] ∧
        ∀ child ∈ children, ∃ element, scope.Shows child element ∧
          container.takesIn partly element = true := by
  induction patterns with
  | nil => simp [FindsNothing, patternFindings]
  | cons pattern rest ih =>
      rw [List.forall_mem_cons, patternFindings_cons, findsNothing_append_iff,
        findsNothing_pattern_iff, ih]

/-- A container passes if each of its patterns names at least one object, and all of these are
displayed and taken in. -/
theorem passes_contains_iff {patterns : List String} :
    scope.Passes name (.contains partly patterns) ↔
      ∃ container, scope.Shows name container ∧
        ∀ pattern ∈ patterns, ∃ children, scope.names pattern = .ok children ∧ children ≠ [] ∧
          ∀ child ∈ children, ∃ element, scope.Shows child element ∧
            container.takesIn partly element = true := by
  rw [Scope.Passes, check, checkContains, CheckResult.bind_eq_ok_iff]
  simp only [CheckResult.bind_eq_ok_iff, visibleArea_eq_ok_iff, failUnless_eq_ok_iff]
  refine exists_congr fun container => and_congr_right fun _ => ?_
  rw [← findsNothing_patterns_iff]
  constructor
  · rintro ⟨⟨messages, areas⟩, h, rfl⟩
    exact ⟨areas, h⟩
  · rintro ⟨areas, h⟩
    exact ⟨([], areas), h, rfl⟩

end Check

end LayoutSpec
