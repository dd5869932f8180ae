import LayoutSpec.Proofs.Validation.Counterparts

/-!
What `inside`, `near` and `centered` ask of an object and its reference, one thing after another,
and what they say about it. Everything that is not met is reported in one failure, in the order in
which it is asked, with the areas of the two.

Distances are taken in the direction in which a side faces, from the one edge to the other. So they
are positive for an object that is inside its container, and for one that is beyond a side of its
neighbour.
-/

namespace LayoutSpec

open Check

namespace Side

def opposite : Side → Side
  | .top => .bottom
  | .bottom => .top
  | .left => .right
  | .right => .left

/-- How far it is from `start` to `stop` in the direction in which the side faces. -/
def outward : Side → Int → Int → Int
  | .left, start, stop | .top, start, stop => start - stop
  | .right, start, stop | .bottom, start, stop => stop - start

instance (p : Side → Prop) [DecidablePred p] : Decidable (∀ side, p side) :=
  decidable_of_iff (p .top ∧ p .left ∧ p .right ∧ p .bottom) <| by
    constructor
    · rintro ⟨htop, hleft, hright, hbottom⟩ side
      cases side <;> assumption
    · intro h
      exact ⟨h .top, h .left, h .right, h .bottom⟩

end Side

/-- The axes along which an object is centered, one after the other. -/
def CenterAxis.axes : CenterAxis → List Axis
  | .all => [.horizontally, .vertically]
  | .horizontally => [.horizontally]
  | .vertically => [.vertically]

namespace Area

/-- Where the edge at a side is. -/
def edge (a : Area) : Side → Int
  | .left => a.left
  | .right => a.right
  | .top => a.top
  | .bottom => a.bottom

/-- How far the edge of the container is outside of the element's edge at the same side. -/
def inset (element container : Area) (side : Side) : Int :=
  side.outward (element.edge side) (container.edge side)

/-- How far the element is beyond a side of another area: from the edge there to the element's edge
that is nearest to it. -/
def beyond (element other : Area) (side : Side) : Int :=
  side.outward (other.edge side) (element.edge side.opposite)

/-- By how much the insets at two opposite sides differ. -/
def unevenness (element container : Area) : Axis → Int
  | .horizontally => element.inset container .left - element.inset container .right
  | .vertically => element.inset container .top - element.inset container .bottom

end Area

inductive Demand where
  | containment
  | overlap
  | inset (side : Side) (range : PixelRange)
  | beyond (side : Side) (range : PixelRange)
  | centering (axis : Axis) (relation : CenterRelation) (tolerance : Int)

namespace Demand

/-- An object is contained if no edge of it is outside, and overlaps if it is beyond no side. -/
def IsMet (element reference : Area) : Demand → Prop
  | containment => ∀ side, 0 ≤ element.inset reference side
  | overlap => ∀ side, element.beyond reference side < 0
  | inset side range => range.holds (element.inset reference side) = true
  | beyond side range => range.holds (element.beyond reference side) = true
  | centering axis _ tolerance => (element.unevenness reference axis).natAbs ≤ tolerance

instance (element reference : Area) : (demand : Demand) → Decidable (demand.IsMet element reference)
  | containment => inferInstanceAs (Decidable (∀ side, 0 ≤ element.inset reference side))
  | overlap => inferInstanceAs (Decidable (∀ side, element.beyond reference side < 0))
  | inset _ _ => inferInstanceAs (Decidable (_ = true))
  | beyond _ _ => inferInstanceAs (Decidable (_ = true))
  | centering _ _ _ => inferInstanceAs (Decidable (_ ≤ _))

/-- The distances that are measured for it are numbers of 32 bits. Centering is measured along both
axes, whichever of them is asked for. -/
def Fits (element reference : Area) : Demand → Prop
  | containment | overlap => True
  | inset side _ => Text.isPixel (element.inset reference side)
  | beyond side _ => Text.isPixel (element.beyond reference side)
  | centering _ _ _ => (∀ side, Text.isPixel (element.inset reference side)) ∧
    ∀ axis, Text.isPixel (element.unevenness reference axis).natAbs

/-- What is said if it is not met. -/
def complaint (name object : String) (element reference : Area) : Demand → String
  | containment => quoted name ++ " is not completely inside " ++ quoted object
  | overlap => quoted name ++ " is not inside " ++ quoted object
  | inset side range =>
    quoted name ++ " is " ++ px (element.inset reference side) ++ " " ++ side.keyword
      ++ " instead of " ++ rangeText range
  | beyond side range =>
    quoted name ++ " is " ++ px (element.beyond reference side) ++ " " ++ side.keyword
      ++ " instead of " ++ rangeText range
  | centering axis relation _ =>
    quoted name ++ " is not centered " ++ axis.keyword ++ " " ++ relation.keyword ++ " "
      ++ quoted object ++ ". Offset is " ++ px (element.unevenness reference axis).natAbs

/-- What is said about the demands that are not met, in their order. -/
def complaints (name object : String) (element reference : Area) (demands : List Demand) :
    List String :=
  (demands.filter fun demand => ¬ demand.IsMet element reference).map
    (complaint name object element reference)

end Demand

/-- The reference of a constraint that compares two places, and what it asks of the object and the
reference. -/
def Constraint.demands? : Constraint → Option (String × List Demand)
  | .inside object partly locations =>
    some (object, (if partly then .overlap else .containment) ::
      locations.flatMap fun location => location.sides.map fun side => .inset side location.range)
  | .near object locations =>
    some (object,
      locations.flatMap fun location => location.sides.map fun side => .beyond side location.range)
  | .centered axis relation object tolerance =>
    some (object, (if relation = .inside then [.containment] else []) ++
      axis.axes.map fun axis => .centering axis relation tolerance)
  | _ => none

namespace Area

variable (element reference : Area)

theorem inset_eq (side : Side) :
    element.inset reference side = insideOffset element reference side := by
  cases side <;> rfl

theorem beyond_eq (side : Side) :
    element.beyond reference side = nearOffset element reference side := by
  cases side <;> rfl

/-- An area contains another one if no side of the latter is outside of the same side of the
former. -/
theorem contains_iff_inset :
    reference.contains element = true ↔ ∀ side, 0 ≤ element.inset reference side := by
  simp only [contains, Bool.and_eq_true, decide_eq_true_eq]
  constructor
  · rintro ⟨⟨⟨hleft, htop⟩, hright⟩, hbottom⟩ side
    cases side <;> simp only [inset, Side.outward, edge] <;> omega
  · intro h
    have hleft := h .left
    have htop := h .top
    have hright := h .right
    have hbottom := h .bottom
    simp only [inset, Side.outward, edge] at hleft htop hright hbottom
    omega

/-- Two areas overlap if the one is beyond no side of the other. -/
theorem intersects_iff_beyond :
    reference.intersects element = true ↔ ∀ side, element.beyond reference side < 0 := by
  simp only [intersects, Bool.and_eq_true, decide_eq_true_eq]
  constructor
  · rintro ⟨⟨⟨hleft, hright⟩, htop⟩, hbottom⟩ side
    cases side <;> simp only [beyond, Side.outward, Side.opposite, edge] <;> omega
  · intro h
    have hleft := h .left
    have htop := h .top
    have hright := h .right
    have hbottom := h .bottom
    simp only [beyond, Side.outward, Side.opposite, edge] at hleft htop hright hbottom
    omega

end Area

namespace Demand

variable {name object : String} {element reference : Area}

theorem complaints_append (demands more : List Demand) :
    complaints name object element reference (demands ++ more)
      = complaints name object element reference demands
        ++ complaints name object element reference more := by
  rw [complaints, List.filter_append, List.map_append, complaints, complaints]

theorem complaints_singleton (demand : Demand) :
    complaints name object element reference [demand]
      = if demand.IsMet element reference then []
        else [demand.complaint name object element reference] := by
  by_cases h : demand.IsMet element reference <;> simp [complaints, h]

theorem complaints_eq_nil_iff {demands : List Demand} :
    complaints name object element reference demands = [] ↔
      ∀ demand ∈ demands, demand.IsMet element reference := by
  simp [complaints, List.filter_eq_nil_iff]

/-- The messages about locations are the complaints about what they demand at their sides, in the
order of the locations and of the sides of each. -/
theorem locationMessages_eq {offset : Side → Int} {demand : Side → PixelRange → Demand}
    (hmet : ∀ side range,
      (demand side range).IsMet element reference ↔ range.holds (offset side) = true)
    (hcomplaint : ∀ side range, (demand side range).complaint name object element reference
      = quoted name ++ " is " ++ px (offset side) ++ " " ++ side.keyword ++ " instead of "
        ++ rangeText range) (locations : List Location) :
    locationMessages name locations offset
      = complaints name object element reference
        (locations.flatMap fun location => location.sides.map fun side =>
          demand side location.range) := by
  induction locations with
  | nil => rfl
  | cons location rest ih =>
      have hunmet : (fun side => !location.range.holds (offset side))
          = fun side => decide ¬ (demand side location.range).IsMet element reference := by
        funext side
        simp only [decide_not, hmet, Bool.decide_eq_true]
      rw [List.flatMap_cons, complaints_append, ← ih, locationMessages, List.flatMap_cons,
        locationMessages, hunmet]
      congr 1
      rw [complaints, List.filter_map, List.map_map]
      exact List.map_congr_left fun side _ => (hcomplaint side location.range).symm

theorem insetMessages_eq (locations : List Location) :
    locationMessages name locations (insideOffset element reference)
      = complaints name object element reference
        (locations.flatMap fun location => location.sides.map fun side =>
          .inset side location.range) :=
  locationMessages_eq (fun side range => by rw [IsMet, Area.inset_eq])
    (fun side range => by rw [complaint, Area.inset_eq]) locations

theorem beyondMessages_eq (locations : List Location) :
    locationMessages name locations (nearOffset element reference)
      = complaints name object element reference
        (locations.flatMap fun location => location.sides.map fun side =>
          .beyond side location.range) :=
  locationMessages_eq (fun side range => by rw [IsMet, Area.beyond_eq])
    (fun side range => by rw [complaint, Area.beyond_eq]) locations

theorem isMet_place_iff {partly : Bool} :
    (if partly then overlap else containment).IsMet element reference ↔
      reference.takesIn partly element = true := by
  cases partly with
  | true => exact (Area.intersects_iff_beyond element reference).symm
  | false => exact (Area.contains_iff_inset element reference).symm

theorem insideMessages_eq (partly : Bool) :
    insideMessages name object partly element reference
      = complaints name object element reference
        [if partly then overlap else containment] := by
  rw [complaints_singleton]
  by_cases h : reference.takesIn partly element = true
  · rw [if_pos (isMet_place_iff.mpr h), insideMessages_eq_nil_iff.mpr h]
  · rw [if_neg (mt isMet_place_iff.mp h)]
    cases partly with
    | true => exact if_neg h
    | false => exact if_neg h

theorem containment_of_inside (relation : CenterRelation) :
    (if relation = .inside then insideMessages name object false element reference else [])
      = complaints name object element reference
        (if relation = .inside then [containment] else []) := by
  cases relation with
  | inside => exact insideMessages_eq false
  | on => rfl

/-- The messages about the axes along which an object is not centered are the complaints about them.
-/
theorem centerMessages_eq (axis : CenterAxis) (relation : CenterRelation) (tolerance : Int) :
    ((centerOffsets element reference axis).filter fun (_, offset) =>
        tolerance < offset.natAbs).map
      (fun (axis, offset) =>
        quoted name ++ " is not centered " ++ axis.keyword ++ " " ++ relation.keyword ++ " "
          ++ quoted object ++ ". Offset is " ++ px offset.natAbs)
      = complaints name object element reference
        (axis.axes.map fun axis => .centering axis relation tolerance) := by
  have hoffsets : centerOffsets element reference axis
      = axis.axes.map fun axis => (axis, element.unevenness reference axis) := by
    cases axis <;> rfl
  rw [hoffsets, complaints, List.filter_map, List.filter_map, List.map_map, List.map_map]
  simp only [Function.comp_def, IsMet, Int.not_le]
  rfl

end Demand

theorem Scope.Shows.visibleArea {scope : Scope} {name : String} {area : Area}
    (h : scope.Shows name area) : Check.visibleArea scope name = .ok area :=
  Check.visibleArea_eq_ok_iff.mpr h

namespace Check

variable {scope : Scope} {name object : String} {element reference : Area}

/-- What is checked of two displayed objects is checked of their areas. -/
theorem bothAreas_bind {f : Area → Area → CheckResult Unit} (helement : scope.Shows name element)
    (hreference : scope.Shows object reference) :
    (do let a ← visibleArea scope name; let b ← visibleArea scope object; f a b)
      = f element reference := by
  rw [helement.visibleArea, hreference.visibleArea]
  rfl

/-- A check of two displayed objects fails with the complaints about them, if there are any. All
that is particular to a kind of constraint is in its list of demands. -/
theorem check_eq_failUnless {c : Constraint} {demands : List Demand}
    (hc : c.demands? = some (object, demands)) (helement : scope.Shows name element)
    (hreference : scope.Shows object reference) :
    check scope name c
      = failUnless (Demand.complaints name object element reference demands)
        [element, reference] := by
  cases c with
  | inside object' partly locations =>
      obtain ⟨rfl, rfl⟩ := Prod.mk.inj (Option.some.inj hc)
      rw [check, checkInside, bothAreas_bind helement hreference, Demand.insideMessages_eq,
        Demand.insetMessages_eq, ← Demand.complaints_append, List.singleton_append]
  | near object' locations =>
      obtain ⟨rfl, rfl⟩ := Prod.mk.inj (Option.some.inj hc)
      rw [check, checkNear, bothAreas_bind helement hreference, Demand.beyondMessages_eq]
  | centered axis relation object' tolerance =>
      obtain ⟨rfl, rfl⟩ := Prod.mk.inj (Option.some.inj hc)
      rw [check, checkCentered, bothAreas_bind helement hreference, Demand.containment_of_inside,
        Demand.centerMessages_eq, Demand.complaints_append]
  | _ => cases hc

end Check

namespace Scope

/-- On two displayed objects `inside`, `near` and `centered` pass exactly if everything that they
ask is met. If not, they report one failure: the areas of the object and of the reference, and one
message for each thing that is not met, in the order in which they are asked. The bounds on the
edges and on what is measured between them are those of arithmetic on 32 bits. -/
theorem check_sideBySide (scope : Scope) (name object : String) (c : Constraint)
    (demands : List Demand) (hc : c.demands? = some (object, demands)) (element reference : Area)
    (helement : scope.Shows name element) (hreference : scope.Shows object reference)
    (_hedges : element.Fits ∧ reference.Fits)
    (_hoffsets : ∀ demand ∈ demands, demand.Fits element reference) :
    (scope.Passes name c ↔ ∀ demand ∈ demands, demand.IsMet element reference) ∧
    (¬ scope.Passes name c → Check.check scope name c = .error (.broken {
      areas := [element, reference]
      messages := (demands.filter fun demand => ¬ demand.IsMet element reference).map
        (·.complaint name object element reference) })) := by
  have hcheck := Check.check_eq_failUnless hc helement hreference
  have hpasses : scope.Passes name c ↔
      Demand.complaints name object element reference demands = [] := by
    rw [Passes, hcheck, Check.failUnless_eq_ok_iff]
  refine ⟨hpasses.trans Demand.complaints_eq_nil_iff, ?_⟩
  intro hfails
  rw [hcheck, Check.failUnless, if_neg]
  · rfl
  · rw [List.isEmpty_iff]
    exact mt hpasses.mpr hfails

/-- A place in the second box, ten pixels from its left and right edge and at its top. -/
def placeInBox : Constraint :=
  .inside "b" false [⟨.exactly 10, [.left, .right]⟩, ⟨.exactly 0, [.top]⟩]

/-- The first box is left of the second one, at the same height. -/
theorem check_sideBySide_boxScope :
    boxScope.Shows "a" ⟨0, 0, 40, 20⟩ ∧ boxScope.Shows "b" ⟨50, 0, 40, 20⟩ ∧
      ¬ boxScope.Passes "a" placeInBox ∧
      Check.check boxScope "a" placeInBox = .error (.broken {
        areas := [⟨0, 0, 40, 20⟩, ⟨50, 0, 40, 20⟩]
        messages := ["\"a\" is not completely inside \"b\"",
          "\"a\" is -50px left instead of 10px", "\"a\" is 50px right instead of 10px"] }) := by
  have ha : boxScope.Shows "a" ⟨0, 0, 40, 20⟩ := ⟨_, rfl, rfl, rfl, rfl⟩
  have hb : boxScope.Shows "b" ⟨50, 0, 40, 20⟩ := ⟨_, rfl, rfl, rfl, rfl⟩
  have hoffsets : ∀ demand ∈ [.containment, .inset .left (.exactly 10), .inset .right (.exactly 10),
      .inset .top (.exactly 0)], Demand.Fits ⟨0, 0, 40, 20⟩ ⟨50, 0, 40, 20⟩ demand := by
    intro demand hdemand
    simp only [List.mem_cons, List.not_mem_nil, or_false] at hdemand
    obtain rfl | rfl | rfl | rfl := hdemand
    · trivial
    · change Text.isPixel (-50) = true
      decide
    · change Text.isPixel 50 = true
      decide
    · change Text.isPixel 0 = true
      decide
  obtain ⟨hpasses, hfailure⟩ :=
    check_sideBySide boxScope "a" "b" placeInBox _ rfl _ _ ha hb (by decide) hoffsets
  have hfails : ¬ boxScope.Passes "a" placeInBox := by
    rw [hpasses]
    decide
  refine ⟨ha, hb, hfails, (hfailure hfails).trans ?_⟩
  rw [Except.error.injEq]
  decide

end Scope

end LayoutSpec
