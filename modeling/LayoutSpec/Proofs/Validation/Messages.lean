import LayoutSpec.Proofs.Validation.Alike

/-!
Findings have messages. Wherever a check stops, it says why: a fault has a message of its own, and a
broken constraint is reported with everything that is wrong about it, which is never nothing.
-/

namespace LayoutSpec

namespace Check

/-- If anything is found, there is a message about it. -/
def Speaks {α : Type} (x : CheckResult α) : Prop :=
  ∀ finding, x = .error finding → finding.failure.messages ≠ []

section

variable {α β : Type}

theorem speaks_ok (a : α) : Speaks (.ok a : CheckResult α) := by
  intro finding h
  cases h

theorem speaks_fatal (fault : Fault) : Speaks (.error (.fatal fault) : CheckResult α) := by
  intro finding h
  obtain rfl := Except.error.inj h
  exact List.cons_ne_nil fault.message []

theorem speaks_broken {areas : List Area} {messages : List String} (h : messages ≠ []) :
    Speaks (.error (.broken ⟨areas, messages⟩) : CheckResult α) := by
  intro finding hfinding
  obtain rfl := Except.error.inj hfinding
  exact h

theorem Speaks.bind {x : CheckResult α} {f : α → CheckResult β} (hx : Speaks x)
    (hf : ∀ a, Speaks (f a)) : Speaks (x >>= f) := by
  cases x with
  | ok a => exact hf a
  | error found =>
      intro finding h
      obtain rfl := Except.error.inj h
      exact hx found rfl

/-- A check that only throws says why. -/
theorem speaks_ite_throw {c : Prop} [Decidable c] {areas : List Area} {message : String} :
    Speaks (if c then throw (.broken ⟨areas, [message]⟩) else pure () : CheckResult Unit) := by
  by_cases h : c
  · rw [if_pos h]
    exact speaks_broken (List.cons_ne_nil message [])
  · rw [if_neg h]
    exact speaks_ok ()

end

section

variable {scope : Scope} {name object : String}

theorem speaks_find : Speaks (find scope name) := by
  rw [find]
  cases scope.find name with
  | ok element => exact speaks_ok element
  | error fault => exact speaks_fatal fault

theorem speaks_names {pattern : String} : Speaks (names scope pattern) := by
  rw [names]
  cases scope.names pattern with
  | ok found => exact speaks_ok found
  | error fault => exact speaks_fatal fault

theorem speaks_visibleElement : Speaks (visibleElement scope name) := by
  refine speaks_find.bind fun element => ?_
  obtain ⟨present, visible, area, text⟩ := element
  cases present with
  | false => exact speaks_broken (List.cons_ne_nil _ [])
  | true =>
      cases visible with
      | false => exact speaks_broken (List.cons_ne_nil _ [])
      | true => exact speaks_ok _

theorem speaks_visibleArea : Speaks (visibleArea scope name) :=
  speaks_visibleElement.bind fun element => speaks_ok element.area

/-- What is found in two areas, if both objects are displayed. -/
theorem speaks_bothShown {f : Area → Area → CheckResult Unit} (hf : ∀ a b, Speaks (f a b)) :
    Speaks (do let a ← visibleArea scope name; let b ← visibleArea scope object; f a b) :=
  speaks_visibleArea.bind fun a => speaks_visibleArea.bind fun b => hf a b

theorem speaks_failUnless {messages : List String} {areas : List Area} :
    Speaks (failUnless messages areas) := by
  cases messages with
  | nil => exact speaks_ok ()
  | cons message rest => exact speaks_broken (List.cons_ne_nil message rest)

theorem speaks_checkDimension {dimension : String} {actual : Int} {range : PixelRange}
    {area : Area} :
    Speaks (checkDimension name dimension actual range area) := by
  rw [checkDimension]
  cases range.holds actual with
  | true => exact speaks_ok ()
  | false => exact speaks_broken (List.cons_ne_nil _ [])

theorem speaks_childFindings {partly : Bool} {container : Area} (children : List String) :
    Speaks (childFindings scope name partly container children) := by
  induction children with
  | nil => exact speaks_ok _
  | cons child rest ih =>
      exact speaks_find.bind fun element => ih.bind fun others => speaks_ok _

theorem speaks_patternFindings {partly : Bool} {container : Area} (patterns : List String) :
    Speaks (patternFindings scope name partly container patterns) := by
  induction patterns with
  | nil => exact speaks_ok _
  | cons pattern rest ih =>
      refine speaks_names.bind fun children => ?_
      cases children with
      | nil => exact ih.bind fun others => speaks_ok _
      | cons child children =>
          exact (speaks_childFindings (child :: children)).bind fun found =>
            ih.bind fun others => speaks_ok _

theorem speaks_checkText {operation : TextOperation} {expected : String} :
    Speaks (checkText scope name operation expected) := by
  refine speaks_visibleElement.bind fun element => ?_
  obtain ⟨present, visible, area, text⟩ := element
  cases text with
  | none => exact speaks_fatal (.noText name)
  | some actual =>
      dsimp only
      cases textHolds operation expected actual with
      | error fault => exact speaks_fatal fault
      | ok held =>
          cases held with
          | true => exact speaks_ok ()
          | false => exact speaks_broken (List.cons_ne_nil _ [])

/-- Whatever a check finds, there is a message about it. The lists of messages come from comparisons
that fail only with a message. -/
theorem speaks_check (c : Constraint) : Speaks (check scope name c) := by
  cases c with
  | absent => exact speaks_find.bind fun element => speaks_ite_throw
  | visible => exact speaks_visibleElement.bind fun element => speaks_ok ()
  | width range => exact speaks_visibleArea.bind fun area => speaks_checkDimension
  | height range => exact speaks_visibleArea.bind fun area => speaks_checkDimension
  | inside object partly locations => exact speaks_bothShown fun _ _ => speaks_failUnless
  | near object locations => exact speaks_bothShown fun _ _ => speaks_failUnless
  | relative direction object range => exact speaks_bothShown fun _ _ => speaks_ite_throw
  | aligned axis edge object tolerance => exact speaks_bothShown fun _ _ => speaks_ite_throw
  | centered axis relation object tolerance => exact speaks_bothShown fun _ _ => speaks_failUnless
  | contains partly objects =>
      exact speaks_visibleArea.bind fun container =>
        (speaks_patternFindings objects).bind fun found => speaks_failUnless
  | text operation expected => exact speaks_checkText
  | component spec => exact speaks_ok ()

theorem speaks_component {spec : Path} : Speaks (component scope name spec) := by
  intro finding h
  cases finding with
  | broken failure => cases severity_component h
  | fatal fault => exact List.cons_ne_nil fault.message []

theorem speaks_componentVerdict {locator : Locator} (count : Nat) :
    Speaks (componentVerdict scope locator count) := by
  cases count with
  | zero => exact speaks_ok ()
  | succ count => exact speaks_broken (List.cons_ne_nil _ [])

end

end Check

end LayoutSpec
