import LayoutSpec.Proofs.Validation.Passes

/-!
Lying within a container, and overlapping it. Edges may touch where an area lies within another one,
and must not where the two overlap; so an area that lies within a container overlaps it as well,
unless it is empty and on an edge of it.
-/

namespace LayoutSpec

/-- Neither the width nor the height is negative. -/
def Area.IsProper (a : Area) : Prop :=
  0 ≤ a.width ∧ 0 ≤ a.height

instance (a : Area) : Decidable a.IsProper :=
  inferInstanceAs (Decidable (_ ∧ _))

/-- The area is a line without any width at the left or the right edge of the container, or without
any height at its top or bottom. -/
def Area.IsLineOnEdge (element container : Area) : Prop :=
  element.width = 0 ∧ (element.left = container.left ∨ element.left = container.right) ∨
    element.height = 0 ∧ (element.top = container.top ∨ element.top = container.bottom)

instance (element container : Area) : Decidable (element.IsLineOnEdge container) :=
  inferInstanceAs (Decidable (_ ∨ _))

def Page.IsProper (p : Page) : Prop :=
  (∀ entry ∈ p.elements, entry.2.area.IsProper) ∧ ∀ entry ∈ p.specials, entry.2.area.IsProper

instance (p : Page) : Decidable p.IsProper :=
  inferInstanceAs (Decidable (_ ∧ _))

/-- The areas on the page have edges of 32 bits. -/
def Page.Fits (p : Page) : Prop :=
  (∀ entry ∈ p.elements, entry.2.area.Fits) ∧ ∀ entry ∈ p.specials, entry.2.area.Fits

instance (p : Page) : Decidable p.Fits :=
  inferInstanceAs (Decidable (_ ∧ _))

namespace Area

variable {element container : Area}

theorem intersects_iff_of_contains (helement : element.IsProper)
    (h : container.contains element = true) :
    container.intersects element = true ↔ ¬ element.IsLineOnEdge container := by
  obtain ⟨hwidth, hheight⟩ := helement
  -- An edge of an area without extent is the opposite one too: it has to be strictly within.
  simp only [contains, Bool.and_eq_true, decide_eq_true_eq] at h
  simp only [intersects, Bool.and_eq_true, decide_eq_true_eq]
  simp only [IsLineOnEdge, right, bottom] at h ⊢
  omega

end Area

namespace Scope

variable {scope : Scope} {name object : String}

theorem Shows.isProper (hpage : scope.page.IsProper) {area : Area} (h : scope.Shows name area) :
    area.IsProper := by
  rcases List.mem_append.mp h.mem_areas with harea | harea
  · obtain ⟨entry, hentry, rfl⟩ := List.mem_map.mp harea
    exact hpage.1 entry hentry
  · obtain ⟨entry, hentry, rfl⟩ := List.mem_map.mp harea
    exact hpage.2 entry hentry

/-- The object is displayed as a line on an edge of the other one. -/
def LineOnEdge (scope : Scope) (name object : String) : Prop :=
  ∃ element container, scope.Shows name element ∧ scope.Shows object container ∧
    element.IsLineOnEdge container

theorem lineOnEdge_iff {element container : Area} (helement : scope.Shows name element)
    (hcontainer : scope.Shows object container) :
    scope.LineOnEdge name object ↔ element.IsLineOnEdge container := by
  constructor
  · rintro ⟨found, other, hfound, hother, h⟩
    rwa [helement.unique hfound, hcontainer.unique hother]
  · intro h
    exact ⟨element, container, helement, hcontainer, h⟩

/-- An object that is displayed within a container overlaps it, unless it is a line on an edge of
the container. This is the one way in which `partly` asks for more. -/
theorem displayed_partly_iff (hpage : scope.page.IsProper) {container : Area}
    (hcontainer : scope.Shows object container)
    (h : ∃ element, scope.Shows name element ∧ container.takesIn false element = true) :
    (∃ element, scope.Shows name element ∧ container.takesIn true element = true) ↔
      ¬ scope.LineOnEdge name object := by
  obtain ⟨element, helement, hin⟩ := h
  have hpartly : container.takesIn true element = true ↔ ¬ element.IsLineOnEdge container :=
    Area.intersects_iff_of_contains (helement.isProper hpage) hin
  rw [lineOnEdge_iff helement hcontainer, ← hpartly]
  constructor
  · rintro ⟨found, hfound, hover⟩
    rwa [helement.unique hfound]
  · intro hover
    exact ⟨element, helement, hover⟩

theorem passes_inside_partly_iff (hpage : scope.page.IsProper) {locations : List Location}
    (h : scope.Passes name (.inside object false locations)) :
    scope.Passes name (.inside object true locations) ↔ ¬ scope.LineOnEdge name object := by
  obtain ⟨element, container, helement, hcontainer, hin, hlocations⟩ := Check.passes_inside_iff.mp h
  rw [← displayed_partly_iff hpage hcontainer ⟨element, helement, hin⟩, Check.passes_inside_iff]
  constructor
  · rintro ⟨found, other, hfound, hother, hover, -⟩
    obtain rfl := hcontainer.unique hother
    exact ⟨found, hfound, hover⟩
  · rintro ⟨found, hfound, hover⟩
    obtain rfl := helement.unique hfound
    exact ⟨element, container, helement, hcontainer, hover, hlocations⟩

/-- A container contains partly what it contains, unless one of the objects is a line on its
edge. -/
theorem passes_contains_partly_iff (hpage : scope.page.IsProper) {patterns : List String}
    (h : scope.Passes name (.contains false patterns)) :
    scope.Passes name (.contains true patterns) ↔
      ∀ pattern ∈ patterns, ∀ children, scope.names pattern = .ok children →
        ∀ child ∈ children, ¬ scope.LineOnEdge child name := by
  obtain ⟨container, hcontainer, hpatterns⟩ := Check.passes_contains_iff.mp h
  rw [Check.passes_contains_iff]
  constructor
  · rintro ⟨other, hother, hpartly⟩ pattern hpattern children hnames child hchild
    obtain rfl := hcontainer.unique hother
    obtain ⟨found, hfound, -, hfull⟩ := hpatterns pattern hpattern
    obtain ⟨more, hmore, -, hmeet⟩ := hpartly pattern hpattern
    obtain rfl := Except.ok.inj (hnames.symm.trans hfound)
    obtain rfl := Except.ok.inj (hnames.symm.trans hmore)
    apply (displayed_partly_iff hpage hcontainer (hfull child hchild)).mp
    exact hmeet child hchild
  · intro hlines
    refine ⟨container, hcontainer, fun pattern hpattern => ?_⟩
    obtain ⟨children, hnames, hne, hfull⟩ := hpatterns pattern hpattern
    refine ⟨children, hnames, hne, fun child hchild => ?_⟩
    apply (displayed_partly_iff hpage hcontainer (hfull child hchild)).mpr
    exact hlines pattern hpattern children hnames child hchild

/-- What is inside a container is partly inside it too, and a container contains partly what it
contains, lines on an edge of the container excepted. The bound on the edges is that of arithmetic
on 32 bits; exact edges do not need it. -/
theorem partly_weaker (scope : Scope) (hpage : scope.page.IsProper) (_hfits : scope.page.Fits)
    (name object : String) (locations : List Location) (patterns : List String) :
    (scope.Passes name (.inside object false locations) →
      (scope.Passes name (.inside object true locations) ↔ ¬ scope.LineOnEdge name object)) ∧
    (scope.Passes name (.contains false patterns) →
      (scope.Passes name (.contains true patterns) ↔
        ∀ pattern ∈ patterns, ∀ children, scope.names pattern = .ok children →
          ∀ child ∈ children, ¬ scope.LineOnEdge child name)) :=
  ⟨passes_inside_partly_iff hpage, passes_contains_partly_iff hpage⟩

/-- A box with another box in it, a line in it and a line on its left edge. -/
def lineScope : Scope where
  objects := .ofList [("box", ⟨.css, "#box", none⟩), ("item", ⟨.css, "#item", none⟩),
    ("line", ⟨.css, "#line", none⟩), ("border", ⟨.css, "#border", none⟩)]
  page := { elements := [(⟨.css, "#box", none⟩, .shown ⟨0, 0, 10, 10⟩),
    (⟨.css, "#item", none⟩, .shown ⟨2, 0, 8, 10⟩), (⟨.css, "#line", none⟩, .shown ⟨5, 0, 0, 10⟩),
    (⟨.css, "#border", none⟩, .shown ⟨0, 0, 0, 10⟩)] }
  filter := .all
  tree := {}
  depth := 0

theorem partly_weaker_lineScope :
    lineScope.page.IsProper ∧ lineScope.page.Fits ∧
      lineScope.Passes "item" (.inside "box" false [⟨.exactly 2, [.left]⟩]) ∧
      lineScope.Passes "item" (.inside "box" true [⟨.exactly 2, [.left]⟩]) ∧
      lineScope.Passes "box" (.contains false ["item, line"]) ∧
      lineScope.Passes "box" (.contains true ["item, line"]) := by
  have hpage : lineScope.page.IsProper := by decide
  have hfits : lineScope.page.Fits := by decide
  have hinside : lineScope.Passes "item" (.inside "box" false [⟨.exactly 2, [.left]⟩]) := by decide
  have hcontains : lineScope.Passes "box" (.contains false ["item, line"]) := by decide
  have hbox : lineScope.Shows "box" ⟨0, 0, 10, 10⟩ := ⟨_, rfl, rfl, rfl, rfl⟩
  have hitem : ¬ lineScope.LineOnEdge "item" "box" := by
    have hshown : lineScope.Shows "item" ⟨2, 0, 8, 10⟩ := ⟨_, rfl, rfl, rfl, rfl⟩
    rw [lineOnEdge_iff hshown hbox]
    decide
  have hline : ¬ lineScope.LineOnEdge "line" "box" := by
    have hshown : lineScope.Shows "line" ⟨5, 0, 0, 10⟩ := ⟨_, rfl, rfl, rfl, rfl⟩
    rw [lineOnEdge_iff hshown hbox]
    decide
  have hnames : lineScope.names "item, line" = .ok ["item", "line"] := by rfl
  obtain ⟨hpartlyInside, -⟩ :=
    partly_weaker lineScope hpage hfits "item" "box" [⟨.exactly 2, [.left]⟩] []
  obtain ⟨-, hpartlyContains⟩ := partly_weaker lineScope hpage hfits "box" "box" [] ["item, line"]
  refine ⟨hpage, hfits, hinside, (hpartlyInside hinside).mpr hitem, hcontains,
    (hpartlyContains hcontains).mpr ?_⟩
  intro pattern hpattern children hchildren child hchild
  obtain rfl := List.mem_singleton.mp hpattern
  obtain rfl := Except.ok.inj (hnames.symm.trans hchildren)
  simp only [List.mem_cons, List.not_mem_nil, or_false] at hchild
  obtain rfl | rfl := hchild
  · exact hitem
  · exact hline

/-- A line on the edge of a box lies within the box and has no pixel of it. -/
theorem not_passes_partly_border :
    lineScope.page.IsProper ∧ lineScope.page.Fits ∧
      lineScope.Passes "border" (.inside "box" false []) ∧
      ¬ lineScope.Passes "border" (.inside "box" true []) ∧
      lineScope.Passes "box" (.contains false ["border"]) ∧
      ¬ lineScope.Passes "box" (.contains true ["border"]) := by
  decide

end Scope

end LayoutSpec
