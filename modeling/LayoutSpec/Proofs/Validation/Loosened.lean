import LayoutSpec.Proofs.Validation.Counterparts
import Mathlib.Data.Set.Basic
import Mathlib.Logic.Relation

/-!
Constraints that ask for less. A range may accept more values, a tolerance may be greater, and
locations, sides of them, entries of a list or the containment of what is centered may be left out;
whatever passes as it stands passes then, too.

Ranges are compared on the values that the page can show. On a page whose distances are pixel
numbers, a range up to the greatest pixel number is as loose as one without an upper bound.
-/

namespace LayoutSpec

open Relation

/-- Of the `values`, the second range accepts every one that the first one accepts. -/
def PixelRange.Loosens (values : Set Int) (r r' : PixelRange) : Prop :=
  ∀ value ∈ values, r.holds value = true → r'.holds value = true

/-- The second list of locations asks for less than the first one. -/
inductive Location.Loosens (values : Set Int) : List Location → List Location → Prop where
  /-- One of the ranges accepts more. -/
  | range {before after : List Location} {sides : List Side} {r r' : PixelRange} :
    r.Loosens values r' →
    Loosens values (before ++ ⟨r, sides⟩ :: after) (before ++ ⟨r', sides⟩ :: after)
  /-- One of the locations has lost some of its sides. -/
  | sides {before after : List Location} {range : PixelRange} {sides sides' : List Side} :
    sides'.Sublist sides →
    Loosens values (before ++ ⟨range, sides⟩ :: after) (before ++ ⟨range, sides'⟩ :: after)
  /-- Some of the locations are left out. -/
  | locations {locations locations' : List Location} :
    locations'.Sublist locations → Loosens values locations locations'

/-- The second constraint is the first one, and asks for less in one respect. -/
inductive Constraint.Loosens (values : Set Int) : Constraint → Constraint → Prop where
  | width {r r' : PixelRange} : r.Loosens values r' → Loosens values (.width r) (.width r')
  | height {r r' : PixelRange} : r.Loosens values r' → Loosens values (.height r) (.height r')
  | relative {direction : Direction} {object : String} {r r' : PixelRange} : r.Loosens values r' →
    Loosens values (.relative direction object r) (.relative direction object r')
  | inside {object : String} {partly : Bool} {locations locations' : List Location} :
    Location.Loosens values locations locations' →
    Loosens values (.inside object partly locations) (.inside object partly locations')
  | near {object : String} {locations locations' : List Location} :
    Location.Loosens values locations locations' →
    Loosens values (.near object locations) (.near object locations')
  | aligned {axis : Axis} {edge : AlignEdge} {object : String} {tolerance tolerance' : Int} :
    tolerance ≤ tolerance' →
    Loosens values (.aligned axis edge object tolerance) (.aligned axis edge object tolerance')
  | centered {axis : CenterAxis} {relation : CenterRelation} {object : String}
    {tolerance tolerance' : Int} : tolerance ≤ tolerance' →
    Loosens values (.centered axis relation object tolerance)
      (.centered axis relation object tolerance')
  /-- What is centered inside an object may lie partly outside of it. -/
  | centeredOn {axis : CenterAxis} {object : String} {tolerance : Int} :
    Loosens values (.centered axis .inside object tolerance) (.centered axis .on object tolerance)
  | contains {partly : Bool} {patterns patterns' : List String} : patterns'.Sublist patterns →
    Loosens values (.contains partly patterns) (.contains partly patterns')

/-- All that is measured on the page is one of the `values`: the sizes of what is displayed, and the
distances between what is displayed. -/
structure Scope.Measures (scope : Scope) (values : Set Int) : Prop where
  size {name : String} {area : Area} : scope.Shows name area →
    area.width ∈ values ∧ area.height ∈ values
  insideOffset {name object : String} {element container : Area} : scope.Shows name element →
    scope.Shows object container → ∀ side, Check.insideOffset element container side ∈ values
  gap {name object : String} {element other : Area} : scope.Shows name element →
    scope.Shows object other → ∀ direction, Check.gap element other direction ∈ values

namespace Location

variable {values : Set Int} {locations locations' : List Location}

/-- A location of a list in which one has been replaced is the new one, or was in the list before.
-/
theorem eq_or_mem_of_replaced {before after : List Location} {new location : Location}
    (old : Location) (h : location ∈ before ++ new :: after) :
    location = new ∨ location ∈ before ++ old :: after := by
  simp only [List.mem_append, List.mem_cons] at h ⊢
  rcases h with hbefore | rfl | hafter
  · exact .inr (.inl hbefore)
  · exact .inl rfl
  · exact .inr (.inr (.inr hafter))

/-- What is asked of a side after a loosening was asked of it before, and no less strictly. -/
theorem Loosens.exists_stricter (h : Loosens values locations locations') :
    ∀ location' ∈ locations', ∀ side ∈ location'.sides,
      ∃ location ∈ locations, side ∈ location.sides ∧
        location.range.Loosens values location'.range := by
  have hself : ∀ r : PixelRange, r.Loosens values r := fun r value _ hr => hr
  intro location' hlocation' side hside
  cases h with
  | @range before after sides r r' hrange =>
      rcases eq_or_mem_of_replaced ⟨r, sides⟩ hlocation' with rfl | hold
      · exact ⟨⟨r, sides⟩, List.mem_append_right _ List.mem_cons_self, hside, hrange⟩
      · exact ⟨location', hold, hside, hself _⟩
  | @sides before after range sides sides' hsides =>
      rcases eq_or_mem_of_replaced ⟨range, sides⟩ hlocation' with rfl | hold
      · exact ⟨⟨range, sides⟩, List.mem_append_right _ List.mem_cons_self, hsides.subset hside,
          hself _⟩
      · exact ⟨location', hold, hside, hself _⟩
  | locations hsub => exact ⟨location', hsub.subset hlocation', hside, hself _⟩

theorem Loosens.holds {offset : Side → Int} (h : Loosens values locations locations')
    (hoffset : ∀ side, offset side ∈ values)
    (hall : ∀ location ∈ locations, ∀ side ∈ location.sides,
      location.range.holds (offset side) = true) :
    ∀ location ∈ locations', ∀ side ∈ location.sides,
      location.range.holds (offset side) = true := by
  intro location' hlocation' side hside
  obtain ⟨location, hlocation, hmem, hrange⟩ := h.exists_stricter location' hlocation' side hside
  exact hrange _ (hoffset side) (hall location hlocation side hmem)

end Location

namespace Check

variable {scope : Scope} {name : String}

theorem checkDimension_eq_ok_iff {dimension : String} {actual : Int} {range : PixelRange}
    {area : Area} : checkDimension name dimension actual range area = .ok () ↔
      range.holds actual = true := by
  rw [checkDimension]
  cases range.holds actual <;> simp

theorem passes_width_iff {range : PixelRange} :
    scope.Passes name (.width range) ↔
      ∃ area, scope.Shows name area ∧ range.holds area.width = true := by
  rw [Scope.Passes, check, CheckResult.bind_eq_ok_iff]
  simp only [visibleArea_eq_ok_iff, checkDimension_eq_ok_iff]

theorem passes_height_iff {range : PixelRange} :
    scope.Passes name (.height range) ↔
      ∃ area, scope.Shows name area ∧ range.holds area.height = true := by
  rw [Scope.Passes, check, CheckResult.bind_eq_ok_iff]
  simp only [visibleArea_eq_ok_iff, checkDimension_eq_ok_iff]

end Check

namespace Scope

variable {scope : Scope} {values : Set Int} {name : String} {c c' : Constraint}

/-- A constraint that passes still does after one loosening. There is one case for each way of
asking for less; the ranges are compared on what can be measured on the page. -/
theorem Passes.of_loosens (hvalues : scope.Measures values) (h : c.Loosens values c')
    (hc : scope.Passes name c) : scope.Passes name c' := by
  cases h with
  | width hrange =>
      obtain ⟨area, harea, hholds⟩ := Check.passes_width_iff.mp hc
      exact Check.passes_width_iff.mpr ⟨area, harea, hrange _ (hvalues.size harea).1 hholds⟩
  | height hrange =>
      obtain ⟨area, harea, hholds⟩ := Check.passes_height_iff.mp hc
      exact Check.passes_height_iff.mpr ⟨area, harea, hrange _ (hvalues.size harea).2 hholds⟩
  | relative hrange =>
      obtain ⟨element, other, helement, hother, hholds⟩ := Check.passes_relative_iff.mp hc
      refine Check.passes_relative_iff.mpr ⟨element, other, helement, hother, ?_⟩
      exact hrange _ (hvalues.gap helement hother _) hholds
  | inside hlocations =>
      obtain ⟨element, container, helement, hcontainer, hin, hall⟩ := Check.passes_inside_iff.mp hc
      refine Check.passes_inside_iff.mpr ⟨element, container, helement, hcontainer, hin, ?_⟩
      exact hlocations.holds (hvalues.insideOffset helement hcontainer) hall
  | near hlocations =>
      obtain ⟨element, other, helement, hother, hall⟩ := Check.passes_near_iff.mp hc
      refine Check.passes_near_iff.mpr ⟨element, other, helement, hother, ?_⟩
      refine hlocations.holds (fun side => ?_) hall
      rw [Check.nearOffset_eq_gap]
      exact hvalues.gap helement hother side.direction
  | aligned htolerance =>
      obtain ⟨element, other, helement, hother, hworst⟩ := Check.passes_aligned_iff.mp hc
      exact Check.passes_aligned_iff.mpr
        ⟨element, other, helement, hother, hworst.trans htolerance⟩
  | centered htolerance =>
      obtain ⟨element, other, helement, hother, hin, hall⟩ := Check.passes_centered_iff.mp hc
      refine Check.passes_centered_iff.mpr ⟨element, other, helement, hother, hin, ?_⟩
      intro offset hoffset
      exact (hall offset hoffset).trans htolerance
  | centeredOn =>
      obtain ⟨element, other, helement, hother, -, hall⟩ := Check.passes_centered_iff.mp hc
      refine Check.passes_centered_iff.mpr ⟨element, other, helement, hother, ?_, hall⟩
      intro hrelation
      cases hrelation
  | contains hpatterns =>
      obtain ⟨container, hcontainer, hall⟩ := Check.passes_contains_iff.mp hc
      refine Check.passes_contains_iff.mpr ⟨container, hcontainer, ?_⟩
      intro pattern hpattern
      exact hall pattern (hpatterns.subset hpattern)

theorem Passes.of_loosenings (hvalues : scope.Measures values)
    (h : ReflTransGen (Constraint.Loosens values) c c') (hc : scope.Passes name c) :
    scope.Passes name c' := by
  induction h with
  | refl => exact hc
  | tail _ hstep ih => exact ih.of_loosens hvalues hstep

theorem measures_univ (scope : Scope) : scope.Measures Set.univ where
  size _ := ⟨trivial, trivial⟩
  insideOffset _ _ _ := trivial
  gap _ _ _ := trivial

/-- What is measured on a page is measured on the areas of its elements and special objects. So
bounds on these are bounds on what a check compares. -/
theorem Measures.of_areas
    (hsize : ∀ a ∈ scope.page.areas, a.width ∈ values ∧ a.height ∈ values)
    (hinside : ∀ a ∈ scope.page.areas, ∀ b ∈ scope.page.areas, ∀ side,
      Check.insideOffset a b side ∈ values)
    (hgap : ∀ a ∈ scope.page.areas, ∀ b ∈ scope.page.areas, ∀ direction,
      Check.gap a b direction ∈ values) : scope.Measures values where
  size h := hsize _ h.mem_areas
  insideOffset h h' := hinside _ h.mem_areas _ h'.mem_areas
  gap h h' := hgap _ h.mem_areas _ h'.mem_areas

def pixels : Set Int :=
  {n | Text.isPixel n = true}

instance (n : Int) : Decidable (n ∈ pixels) :=
  inferInstanceAs (Decidable (Text.isPixel n = true))

/-- A constraint that passes still does after any number of loosenings. Ranges are compared on all
whole numbers; if everything that is measured on the page is a pixel number, they may be compared on
these. -/
theorem passes_of_loosens (scope : Scope) (name : String) (c c' : Constraint)
    (hc : scope.Passes name c) :
    (ReflTransGen (Constraint.Loosens Set.univ) c c' → scope.Passes name c') ∧
    (scope.Measures pixels → ReflTransGen (Constraint.Loosens pixels) c c' →
      scope.Passes name c') := by
  constructor
  · intro h
    exact hc.of_loosenings scope.measures_univ h
  · intro hvalues h
    exact hc.of_loosenings hvalues h

/-- The gap between the boxes may be greater than ten pixels as well, one of the other distances
need not be kept, and in the end none of them; and the greatest pixel number is no bound. -/
theorem passes_of_loosens_boxScope :
    boxScope.Passes "a" (.near "b" [⟨.exactly 10, [.left]⟩, ⟨.exactly (-20), [.top, .bottom]⟩]) ∧
      boxScope.Passes "a" (.near "b" [⟨.atLeast 5, [.left]⟩, ⟨.exactly (-20), [.bottom]⟩]) ∧
      boxScope.Passes "a" (.near "b" [⟨.between 5 Text.maxPixel, [.left]⟩]) := by
  have hexact : boxScope.Passes "a"
      (.near "b" [⟨.exactly 10, [.left]⟩, ⟨.exactly (-20), [.top, .bottom]⟩]) := by decide
  have hatLeast : boxScope.Passes "a"
      (.near "b" [⟨.atLeast 5, [.left]⟩, ⟨.exactly (-20), [.bottom]⟩]) := by
    have hrange : PixelRange.Loosens Set.univ (.exactly 10) (.atLeast 5) := by
      intro value _ hvalue
      simp only [PixelRange.holds, decide_eq_true_eq] at hvalue ⊢
      omega
    have hsides : [Side.bottom].Sublist [.top, .bottom] := by decide
    have hfirst : Location.Loosens Set.univ
        [⟨.exactly 10, [.left]⟩, ⟨.exactly (-20), [.top, .bottom]⟩]
        [⟨.atLeast 5, [.left]⟩, ⟨.exactly (-20), [.top, .bottom]⟩] :=
      @Location.Loosens.range _ [] _ _ _ _ hrange
    have hlast : Location.Loosens Set.univ
        [⟨.atLeast 5, [.left]⟩, ⟨.exactly (-20), [.top, .bottom]⟩]
        [⟨.atLeast 5, [.left]⟩, ⟨.exactly (-20), [.bottom]⟩] :=
      @Location.Loosens.sides _ [_] [] _ _ _ hsides
    apply (passes_of_loosens boxScope "a" _ _ hexact).1
    exact (ReflTransGen.single (.near hfirst)).tail (.near hlast)
  have hvalues : boxScope.Measures pixels := by
    have hareas : ∀ area ∈ boxScope.page.areas,
        area = ⟨0, 0, 40, 20⟩ ∨ area = ⟨50, 0, 40, 20⟩ := by decide
    apply Measures.of_areas
    · intro a ha
      rcases hareas a ha with rfl | rfl <;> decide
    · intro a ha b hb side
      rcases hareas a ha with rfl | rfl <;> rcases hareas b hb with rfl | rfl <;>
        cases side <;> decide
    · intro a ha b hb direction
      rcases hareas a ha with rfl | rfl <;> rcases hareas b hb with rfl | rfl <;>
        cases direction <;> decide
  have hrange : PixelRange.Loosens pixels (.atLeast 5) (.between 5 Text.maxPixel) := by
    intro value hpixel hvalue
    obtain ⟨-, hmax⟩ := Bool.and_eq_true_iff.mp hpixel
    exact Bool.and_eq_true_iff.mpr ⟨hvalue, hmax⟩
  have hfirst : Location.Loosens pixels
      [⟨.atLeast 5, [.left]⟩, ⟨.exactly (-20), [.bottom]⟩] [⟨.atLeast 5, [.left]⟩] :=
    .locations (List.sublist_append_left [_] [_])
  have hlast : Location.Loosens pixels
      [⟨.atLeast 5, [.left]⟩] [⟨.between 5 Text.maxPixel, [.left]⟩] :=
    @Location.Loosens.range _ [] _ _ _ _ hrange
  refine ⟨hexact, hatLeast, (passes_of_loosens boxScope "a" _ _ hatLeast).2 hvalues ?_⟩
  exact (ReflTransGen.single (.near hfirst)).tail (.near hlast)

end Scope

end LayoutSpec
