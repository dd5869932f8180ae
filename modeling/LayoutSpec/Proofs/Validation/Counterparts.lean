import LayoutSpec.Proofs.Validation.Passes

/-!
Constraints that say the same from the other side. What is above an object has the object below it,
what is near a side of it lies in the direction of that side, two objects are aligned with each
other or centered on each other, and a container contains what is inside it.
-/

namespace LayoutSpec

/-- Where the reference lies as seen from the object. -/
def Direction.opposite : Direction → Direction
  | .above => .below
  | .below => .above
  | .leftOf => .rightOf
  | .rightOf => .leftOf

/-- Where an object lies that is beyond a side of its reference. -/
def Side.direction : Side → Direction
  | .top => .above
  | .bottom => .below
  | .left => .leftOf
  | .right => .rightOf

namespace Check

theorem gap_opposite (element other : Area) (direction : Direction) :
    gap other element direction.opposite = gap element other direction := by
  cases direction <;> rfl

theorem nearOffset_eq_gap (element other : Area) (side : Side) :
    nearOffset element other side = gap element other side.direction := by
  cases side <;> rfl

theorem alignOffsets_swap (element other : Area) (axis : Axis) (edge : AlignEdge) :
    alignOffsets other element axis edge = (alignOffsets element other axis edge).map (-·) := by
  cases axis <;> cases edge <;>
    simp only [alignOffsets, List.map_cons, List.map_nil, List.cons.injEq, and_true] <;> omega

theorem centerOffsets_swap (element other : Area) (axis : CenterAxis) :
    (centerOffsets other element axis).map Prod.snd
      = ((centerOffsets element other axis).map Prod.snd).map (-·) := by
  cases axis <;> simp only [centerOffsets, List.map_cons, List.map_nil, List.cons.injEq, and_true]
    <;> omega

theorem worst_map_neg (offsets : List Int) : worst (offsets.map (-·)) = worst offsets := by
  simp only [worst, List.foldl_map, Int.natAbs_neg]

variable {scope : Scope} {a b : String}

/-- Two objects are both displayed, whichever is looked at first. -/
theorem bothShown_comm {p : Area → Area → Prop} :
    (∃ x y, scope.Shows a x ∧ scope.Shows b y ∧ p x y) ↔
      ∃ y x, scope.Shows b y ∧ scope.Shows a x ∧ p x y := by
  constructor
  · rintro ⟨x, y, hx, hy, h⟩
    exact ⟨y, x, hy, hx, h⟩
  · rintro ⟨y, x, hy, hx, h⟩
    exact ⟨x, y, hx, hy, h⟩

theorem passes_relative_opposite {direction : Direction} {range : PixelRange} :
    scope.Passes a (.relative direction b range) ↔
      scope.Passes b (.relative direction.opposite a range) := by
  rw [passes_relative_iff, passes_relative_iff, bothShown_comm]
  simp only [gap_opposite]

/-- The gaps of `near` are those of the constraints in the directions of its sides. The two objects
have to be displayed for both. -/
theorem passes_near_iff_relative {locations : List Location} :
    scope.Passes a (.near b locations) ↔
      (∃ x y, scope.Shows a x ∧ scope.Shows b y) ∧
        ∀ location ∈ locations, ∀ side ∈ location.sides,
          scope.Passes a (.relative side.direction b location.range) := by
  simp only [passes_near_iff, passes_relative_iff, nearOffset_eq_gap]
  constructor
  · rintro ⟨x, y, hx, hy, hgaps⟩
    refine ⟨⟨x, y, hx, hy⟩, fun location hlocation side hside => ?_⟩
    exact ⟨x, y, hx, hy, hgaps location hlocation side hside⟩
  · rintro ⟨⟨x, y, hx, hy⟩, hgaps⟩
    refine ⟨x, y, hx, hy, fun location hlocation side hside => ?_⟩
    obtain ⟨x', y', hx', hy', hgap⟩ := hgaps location hlocation side hside
    rwa [hx.unique hx', hy.unique hy']

theorem passes_aligned_comm {axis : Axis} {edge : AlignEdge} {tolerance : Int} :
    scope.Passes a (.aligned axis edge b tolerance) ↔
      scope.Passes b (.aligned axis edge a tolerance) := by
  rw [passes_aligned_iff, passes_aligned_iff, bothShown_comm]
  refine exists_congr fun y => exists_congr fun x => ?_
  rw [alignOffsets_swap x y, worst_map_neg]

theorem passes_centered_on_comm {axis : CenterAxis} {tolerance : Int} :
    scope.Passes a (.centered axis .on b tolerance) ↔
      scope.Passes b (.centered axis .on a tolerance) := by
  rw [passes_centered_iff, passes_centered_iff, bothShown_comm]
  refine exists_congr fun y => exists_congr fun x => ?_
  rw [centerOffsets_swap x y, List.forall_mem_map (f := (-·))]
  simp only [reduceCtorEq, false_implies, true_and, Int.natAbs_neg]

/-- A child is inside a container that is displayed if it is displayed in its area. -/
theorem passes_inside_shown_iff {container : String} {area : Area} (h : scope.Shows container area)
    {child : String} {partly : Bool} :
    scope.Passes child (.inside container partly []) ↔
      ∃ element, scope.Shows child element ∧ area.takesIn partly element = true := by
  rw [passes_inside_iff]
  constructor
  · rintro ⟨element, other, helement, hother, hin, -⟩
    exact ⟨element, helement, hother.unique h ▸ hin⟩
  · rintro ⟨element, helement, hin⟩
    exact ⟨element, area, helement, h, hin, fun _ hlocation => by cases hlocation⟩

end Check

namespace Scope

/-- Constraints on two objects agree with those on the same objects in the other order, and `near`
with the constraints in the directions of its sides. Without any side `near` only asks for the two
objects. -/
theorem positions_agree (scope : Scope) (a b : String) :
    (∀ range, scope.Passes a (.relative .above b range) ↔
      scope.Passes b (.relative .below a range)) ∧
    (∀ range, scope.Passes a (.relative .leftOf b range) ↔
      scope.Passes b (.relative .rightOf a range)) ∧
    (∀ locations, (∃ location ∈ locations, location.sides ≠ []) →
      (scope.Passes a (.near b locations) ↔
        ∀ location ∈ locations, ∀ side ∈ location.sides,
          scope.Passes a (.relative side.direction b location.range))) ∧
    (∀ locations, (∀ location ∈ locations, location.sides = []) →
      (scope.Passes a (.near b locations) ↔ ∃ x y, scope.Shows a x ∧ scope.Shows b y)) ∧
    (∀ axis edge tolerance, scope.Passes a (.aligned axis edge b tolerance) ↔
      scope.Passes b (.aligned axis edge a tolerance)) ∧
    (∀ axis tolerance, scope.Passes a (.centered axis .on b tolerance) ↔
      scope.Passes b (.centered axis .on a tolerance)) := by
  refine ⟨fun range => Check.passes_relative_opposite, fun range => Check.passes_relative_opposite,
    ?_, ?_, fun axis edge tolerance => Check.passes_aligned_comm,
    fun axis tolerance => Check.passes_centered_on_comm⟩
  · rintro locations ⟨location, hlocation, hsides⟩
    rw [Check.passes_near_iff_relative, and_iff_right_iff_imp]
    intro hrelative
    -- Any of the constraints says that both objects are displayed.
    obtain ⟨side, hside⟩ := List.exists_mem_of_ne_nil location.sides hsides
    obtain ⟨x, y, hx, hy, -⟩ :=
      Check.passes_relative_iff.mp (hrelative location hlocation side hside)
    exact ⟨x, y, hx, hy⟩
  · intro locations hsides
    rw [Check.passes_near_iff_relative, and_iff_left_iff_imp]
    intro _ location hlocation side hside
    rw [hsides location hlocation] at hside
    cases hside

/-- Two boxes in a row, and an object that is not on the page. -/
def boxScope : Scope where
  objects :=
    .ofList [("a", ⟨.css, "#a", none⟩), ("b", ⟨.css, "#b", none⟩), ("ghost", ⟨.css, "#g", none⟩)]
  page := { elements := [(⟨.css, "#a", none⟩, .shown ⟨0, 0, 40, 20⟩),
    (⟨.css, "#b", none⟩, .shown ⟨50, 0, 40, 20⟩)] }
  filter := .all
  tree := {}
  depth := 0

theorem positions_agree_boxScope :
    (∃ location ∈ [Location.mk (.exactly 10) [.left]], location.sides ≠ []) ∧
      (∀ location ∈ [Location.mk (.exactly 10) [.left]], ∀ side ∈ location.sides,
        boxScope.Passes "a" (.relative side.direction "b" location.range)) ∧
      boxScope.Passes "a" (.near "b" [⟨.exactly 10, [.left]⟩]) := by
  have hsides : ∃ location ∈ [Location.mk (.exactly 10) [.left]], location.sides ≠ [] := by decide
  have hrelative : ∀ location ∈ [Location.mk (.exactly 10) [.left]], ∀ side ∈ location.sides,
      boxScope.Passes "a" (.relative side.direction "b" location.range) := by decide
  obtain ⟨-, -, hnear, -⟩ := positions_agree boxScope "a" "b"
  exact ⟨hsides, hrelative, (hnear _ hsides).mpr hrelative⟩

/-- A location without sides asks for no distance, and still for both objects. -/
theorem not_passes_near_ghost :
    (∀ location ∈ [Location.mk (.exactly 0) []], ∀ side ∈ location.sides,
      boxScope.Passes "ghost" (.relative side.direction "b" location.range)) ∧
    ¬ boxScope.Passes "ghost" (.near "b" [⟨.exactly 0, []⟩]) := by
  decide

/-- A container contains the objects that its patterns name exactly if each of them is inside it. -/
theorem contains_iff_inside (scope : Scope) (container : String) (partly : Bool)
    (patterns : List String) :
    scope.Passes container (.contains partly patterns) ↔
      (∃ element, scope.find container = .ok element ∧ element.present = true ∧
        element.visible = true) ∧
      ∀ pattern ∈ patterns, ∃ children, scope.names pattern = .ok children ∧ children ≠ [] ∧
        ∀ child ∈ children, scope.Passes child (.inside container partly []) := by
  rw [Check.passes_contains_iff]
  constructor
  · rintro ⟨area, harea, hpatterns⟩
    have hshown := harea
    obtain ⟨element, hfind, hpresent, hvisible, -⟩ := hshown
    simp only [Check.passes_inside_shown_iff harea]
    exact ⟨⟨element, hfind, hpresent, hvisible⟩, hpatterns⟩
  · rintro ⟨⟨element, hfind, hpresent, hvisible⟩, hpatterns⟩
    have harea : scope.Shows container element.area := ⟨element, hfind, hpresent, hvisible, rfl⟩
    simp only [Check.passes_inside_shown_iff harea] at hpatterns
    exact ⟨element.area, harea, hpatterns⟩

end Scope

end LayoutSpec
