import LayoutSpec.Validation.Check

/-!
What a check looks at: the objects of the pass, and what is found under their names. How deep the
pass is inside components, its filter, its files and the rest of its page have no say in it.
-/

namespace LayoutSpec

namespace Scope

/-- Two scopes have the same objects, and find the same under every name. -/
structure Agrees (scope scope' : Scope) : Prop where
  objects : scope.objects = scope'.objects
  find : ∀ name, scope.find name = scope'.find name

theorem Agrees.names {scope scope' : Scope} (h : scope.Agrees scope') (pattern : String) :
    scope.names pattern = scope'.names pattern := by
  have hpart : scope.partNames = scope'.partNames := by
    funext part
    rw [partNames, partNames, h.objects]
  rw [Scope.names, Scope.names, expand, expand, hpart]

end Scope

namespace Check

variable {scope scope' : Scope} (h : scope.Agrees scope')

include h

theorem find_agrees : find scope = find scope' := by
  funext name
  rw [find, find, h.find]

theorem visibleElement_agrees : visibleElement scope = visibleElement scope' := by
  funext name
  rw [visibleElement, visibleElement, find_agrees h]

theorem visibleArea_agrees : visibleArea scope = visibleArea scope' := by
  funext name
  rw [visibleArea, visibleArea, visibleElement_agrees h]

theorem childFindings_agrees (name : String) (partly : Bool) (container : Area)
    (children : List String) :
    childFindings scope name partly container children
      = childFindings scope' name partly container children := by
  induction children with
  | nil => rfl
  | cons child rest ih => rw [childFindings, childFindings, find_agrees h, ih]

theorem patternFindings_agrees (name : String) (partly : Bool) (container : Area)
    (patterns : List String) :
    patternFindings scope name partly container patterns
      = patternFindings scope' name partly container patterns := by
  induction patterns with
  | nil => rfl
  | cons pattern rest ih =>
      have hnames : names scope pattern = names scope' pattern := by
        rw [names, names, h.names]
      rw [patternFindings, patternFindings, hnames, ih]
      simp only [childFindings_agrees h]

/-- What a check finds depends on nothing but what two scopes agree on. Pages, files and the depth
have no part in it beyond that. -/
theorem check_agrees (name : String) (c : Constraint) :
    check scope name c = check scope' name c := by
  have harea := visibleArea_agrees h
  cases c with
  | absent => rw [check, check, checkAbsent, checkAbsent, find_agrees h]
  | visible => rw [check, check, visibleElement_agrees h]
  | width range => rw [check, check, harea]
  | height range => rw [check, check, harea]
  | inside object partly locations => rw [check, check, checkInside, checkInside, harea]
  | near object locations => rw [check, check, checkNear, checkNear, harea]
  | relative direction object range => rw [check, check, checkRelative, checkRelative, harea]
  | aligned axis edge object tolerance => rw [check, check, checkAligned, checkAligned, harea]
  | centered axis relation object tolerance =>
      rw [check, check, checkCentered, checkCentered, harea]
  | contains partly objects =>
      rw [check, check, checkContains, checkContains, harea]
      simp only [patternFindings_agrees h]
  | text operation expected =>
      rw [check, check, checkText, checkText, visibleElement_agrees h]
  | component spec => rfl

end Check

end LayoutSpec
