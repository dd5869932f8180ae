import LayoutSpec.Proofs.Validation.Partly

/-!
Overlapping and sharing pixels. Areas with a width and a height overlap exactly if there is a pixel
that belongs to both. An area without a width or without a height has no pixels, and overlaps what
it lies strictly within all the same; that is how a constraint with `partly` may accept an object
that covers nothing of the container.
-/

namespace LayoutSpec

namespace Area

/-- The pixel in this column and row belongs to the area. -/
def HasPixel (a : Area) (x y : Int) : Prop :=
  a.left ≤ x ∧ x < a.right ∧ a.top ≤ y ∧ y < a.bottom

/-- There is a pixel that belongs to both areas. -/
def SharesPixel (a b : Area) : Prop :=
  ∃ x y, a.HasPixel x y ∧ b.HasPixel x y

/-- The area has at least one column and one row. -/
def HasExtent (a : Area) : Prop :=
  0 < a.width ∧ 0 < a.height

instance (a : Area) : Decidable a.HasExtent :=
  inferInstanceAs (Decidable (_ ∧ _))

theorem sharesPixel_iff (a b : Area) :
    a.SharesPixel b ↔ a.intersects b = true ∧ a.HasExtent ∧ b.HasExtent := by
  simp only [intersects, Bool.and_eq_true, decide_eq_true_eq]
  constructor
  · rintro ⟨x, y, ha, hb⟩
    simp only [HasPixel, HasExtent, right, bottom] at *
    omega
  · rintro ⟨hover, ha, hb⟩
    -- The first column and the first row in which both areas have begun belong to both of them.
    refine ⟨max a.left b.left, max a.top b.top, ?_⟩
    simp only [HasPixel, HasExtent, right, bottom] at *
    omega

/-- An area that overlaps its container covers a pixel of it exactly if the two have pixels at all.
-/
theorem sharesPixel_iff_of_takesIn {element container : Area}
    (h : container.takesIn true element = true) :
    container.SharesPixel element ↔ container.HasExtent ∧ element.HasExtent := by
  rw [sharesPixel_iff, and_iff_right_iff_imp]
  intro _
  exact h

end Area

namespace Scope

/-- Two areas with edges of 32 bits share a pixel exactly if they overlap and both have a width and
a height. So what a constraint with `partly` accepts covers a pixel of the container, unless the
object or the container is without width or height; and then it does not. -/
theorem partly_sharesPixel (scope : Scope) (_hfits : scope.page.Fits) (name object : String)
    (locations : List Location) (patterns : List String) :
    (∀ a b : Area, a.Fits → b.Fits →
      (a.SharesPixel b ↔ a.intersects b = true ∧ a.HasExtent ∧ b.HasExtent)) ∧
    (scope.Passes name (.inside object true locations) →
      ∃ element container, scope.Shows name element ∧ scope.Shows object container ∧
        (container.SharesPixel element ↔ container.HasExtent ∧ element.HasExtent)) ∧
    (scope.Passes name (.contains true patterns) →
      ∃ container, scope.Shows name container ∧
        ∀ pattern ∈ patterns, ∃ children, scope.names pattern = .ok children ∧ children ≠ [] ∧
          ∀ child ∈ children, ∃ element, scope.Shows child element ∧
            (container.SharesPixel element ↔ container.HasExtent ∧ element.HasExtent)) := by
  refine ⟨fun a b _ _ => Area.sharesPixel_iff a b, ?_, ?_⟩
  · intro h
    obtain ⟨element, container, helement, hcontainer, hin, -⟩ := Check.passes_inside_iff.mp h
    exact ⟨element, container, helement, hcontainer, Area.sharesPixel_iff_of_takesIn hin⟩
  · intro h
    obtain ⟨container, hcontainer, hpatterns⟩ := Check.passes_contains_iff.mp h
    refine ⟨container, hcontainer, fun pattern hpattern => ?_⟩
    obtain ⟨children, hnames, hne, hchildren⟩ := hpatterns pattern hpattern
    refine ⟨children, hnames, hne, fun child hchild => ?_⟩
    obtain ⟨element, helement, hin⟩ := hchildren child hchild
    exact ⟨element, helement, Area.sharesPixel_iff_of_takesIn hin⟩

/-- The box takes in both of the objects. The item covers a pixel of it, and the line covers none.
-/
theorem partly_sharesPixel_lineScope :
    lineScope.page.Fits ∧ lineScope.Passes "item" (.inside "box" true [⟨.exactly 2, [.left]⟩]) ∧
      lineScope.Passes "box" (.contains true ["item, line"]) ∧
      Area.SharesPixel ⟨0, 0, 10, 10⟩ ⟨2, 0, 8, 10⟩ ∧
      ¬ Area.SharesPixel ⟨0, 0, 10, 10⟩ ⟨5, 0, 0, 10⟩ := by
  have hinside : lineScope.Passes "item" (.inside "box" true [⟨.exactly 2, [.left]⟩]) := by decide
  have hcontains : lineScope.Passes "box" (.contains true ["item, line"]) := by decide
  have hbox : lineScope.Shows "box" ⟨0, 0, 10, 10⟩ := ⟨_, rfl, rfl, rfl, rfl⟩
  have hitem : lineScope.Shows "item" ⟨2, 0, 8, 10⟩ := ⟨_, rfl, rfl, rfl, rfl⟩
  have hline : lineScope.Shows "line" ⟨5, 0, 0, 10⟩ := ⟨_, rfl, rfl, rfl, rfl⟩
  have hnames : lineScope.names "item, line" = .ok ["item", "line"] := by rfl
  have hfits : lineScope.page.Fits := by decide
  obtain ⟨-, hin, -⟩ := partly_sharesPixel lineScope hfits "item" "box" [⟨.exactly 2, [.left]⟩] []
  refine ⟨hfits, hinside, hcontains, ?_, ?_⟩
  · obtain ⟨element, container, helement, hcontainer, hpixel⟩ := hin hinside
    rw [helement.unique hitem, hcontainer.unique hbox] at hpixel
    exact hpixel.mpr (by decide)
  · obtain ⟨-, -, hall⟩ := partly_sharesPixel lineScope hfits "box" "box" [] ["item, line"]
    obtain ⟨container, hcontainer, hpatterns⟩ := hall hcontains
    obtain ⟨children, hchildren, -, hpixels⟩ := hpatterns "item, line" (List.mem_singleton_self _)
    obtain rfl := Except.ok.inj (hnames.symm.trans hchildren)
    obtain ⟨element, helement, hpixel⟩ := hpixels "line" (by decide)
    rw [helement.unique hline, hcontainer.unique hbox] at hpixel
    intro hshares
    exact absurd (hpixel.mp hshares) (by decide)

/-- A line without width in the middle of a box overlaps it and has no pixel of it. So what the
check accepts covers nothing. -/
theorem passes_partly_line :
    (Area.mk 5 0 0 10).IsProper ∧ (Area.mk 0 0 10 10).IsProper ∧
      (Area.mk 5 0 0 10).Fits ∧ (Area.mk 0 0 10 10).Fits ∧
      (Area.mk 5 0 0 10).intersects ⟨0, 0, 10, 10⟩ = true ∧
      ¬ (∃ x y, (Area.mk 5 0 0 10).HasPixel x y ∧ (Area.mk 0 0 10 10).HasPixel x y) ∧
      lineScope.Passes "line" (.inside "box" true []) ∧
      lineScope.Passes "box" (.contains true ["line"]) := by
  refine ⟨by decide, by decide, by decide, by decide, by decide, ?_, by decide, by decide⟩
  rintro ⟨x, y, hline, -⟩
  simp only [Area.HasPixel, Area.right] at hline
  omega

end Scope

end LayoutSpec
