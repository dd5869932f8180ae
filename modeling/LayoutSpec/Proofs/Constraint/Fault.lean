import LayoutSpec.Constraint.Reader
import LayoutSpec.Proofs.Token.Basic

/-!
What a constraint line can be at fault for. Its causes are in the line: no file that is missing and
no line before it can be the reason why a constraint is not read.
-/

namespace LayoutSpec

open Text

/-- Causes that are found in the text that is being read: neither another file nor a group that got
lost is the reason. -/
def SyntaxCause.isOfText : SyntaxCause → Bool
  | cyclicImport _ | unreadableImport _ | missingBlock => false
  | _ => true

namespace TokenReader

variable {α β : Type} {reader : TokenReader α} {f : α → TokenReader β}

/-- The reader fails because of the text alone. -/
def FailsByText (reader : TokenReader α) : Prop :=
  ∀ cs cause rest, reader cs = .error cause rest → cause.isOfText = true

/-- The reader never fails. -/
def Succeeds (reader : TokenReader α) : Prop :=
  ∀ cs, ∃ a rest, reader cs = .ok a rest

theorem Succeeds.failsByText (h : Succeeds reader) : FailsByText reader := by
  intro cs cause rest herror
  obtain ⟨a, left, hok⟩ := h cs
  rw [hok] at herror
  cases herror

theorem FailsByText.bind (h : FailsByText reader) (hf : ∀ a, FailsByText (f a)) :
    FailsByText (reader >>= f) := by
  intro cs cause rest herror
  rw [run_bind] at herror
  cases hreader : reader cs with
  | ok a mid =>
      rw [hreader] at herror
      exact hf a mid cause rest herror
  | error found mid =>
      rw [hreader] at herror
      obtain ⟨rfl, rfl⟩ := EStateM.Result.error.inj herror
      exact h cs found mid hreader

theorem FailsByText.map {g : α → β} (h : FailsByText reader) : FailsByText (g <$> reader) := by
  intro cs cause rest herror
  rw [run_map] at herror
  cases hreader : reader cs with
  | ok a mid => simp [hreader] at herror
  | error found mid =>
      rw [hreader] at herror
      obtain ⟨rfl, rfl⟩ := EStateM.Result.error.inj herror
      exact h cs found mid hreader

theorem failsByText_pure (a : α) : FailsByText (pure a : TokenReader α) :=
  Succeeds.failsByText fun cs => ⟨a, cs, rfl⟩

theorem failsByText_throw {cause : SyntaxCause} (h : cause.isOfText = true) :
    FailsByText (throw cause : TokenReader α) := by
  intro cs found rest herror
  obtain ⟨rfl, -⟩ := EStateM.Result.error.inj herror
  exact h

theorem succeeds_skipBlanks : Succeeds skipBlanks :=
  fun cs => ⟨(), trimStart cs, rfl⟩

theorem succeeds_hasToken : Succeeds hasToken :=
  fun cs => ⟨_, cs, rfl⟩

theorem succeeds_takeRest : Succeeds takeRest :=
  fun cs => ⟨cs, [], rfl⟩

theorem succeeds_symbol (s : String) : Succeeds (symbol s) := by
  intro cs
  rw [symbol]
  cases stripStart? s.toList cs with
  | none => exact ⟨_, _, rfl⟩
  | some rest => exact ⟨_, _, rfl⟩

theorem succeeds_keyword (w : String) : Succeeds (keyword w) := by
  intro cs
  rw [keyword]
  cases stripStart? w.toList cs with
  | none => exact ⟨_, _, rfl⟩
  | some rest =>
      dsimp only
      split
      · exact ⟨_, _, rfl⟩
      · exact ⟨_, _, rfl⟩

theorem failsByText_digits (negative : Bool) : FailsByText (digits negative) := by
  intro cs cause rest herror
  simp only [digits] at herror
  split at herror
  · obtain ⟨rfl, -⟩ := EStateM.Result.error.inj herror
    rfl
  · split at herror
    · cases herror
    · obtain ⟨rfl, -⟩ := EStateM.Result.error.inj herror
      rfl

theorem failsByText_number : FailsByText number := by
  refine succeeds_skipBlanks.failsByText.bind fun _ => ?_
  refine (succeeds_symbol "-").failsByText.bind fun negative => ?_
  exact succeeds_skipBlanks.failsByText.bind fun _ => failsByText_digits negative

theorem failsByText_within (first tolerance : Int) :
    FailsByText (rangeFrom.within first tolerance) := by
  rw [rangeFrom.within]
  cases PixelRange.around? first tolerance with
  | none => exact failsByText_throw rfl
  | some range => exact failsByText_pure range

theorem failsByText_rangeFrom (first : Int) : FailsByText (rangeFrom first) := by
  refine succeeds_skipBlanks.failsByText.bind fun _ => ?_
  refine (succeeds_keyword "to").failsByText.bind fun upTo => ?_
  split
  · exact failsByText_number.bind fun last => failsByText_pure _
  · refine (succeeds_symbol "±").failsByText.bind fun around => ?_
    split
    · exact failsByText_number.bind (failsByText_within first)
    · refine (succeeds_symbol "+-").failsByText.bind fun around => ?_
      split
      · exact failsByText_number.bind (failsByText_within first)
      · exact failsByText_pure _

theorem failsByText_bounds : FailsByText bounds := by
  refine succeeds_skipBlanks.failsByText.bind fun _ => ?_
  refine (succeeds_symbol ">=").failsByText.bind fun atLeast => ?_
  split
  · exact failsByText_number.bind fun low => failsByText_pure _
  · refine (succeeds_symbol ">").failsByText.bind fun above => ?_
    split
    · exact failsByText_number.bind fun low => failsByText_pure _
    · exact failsByText_number.bind failsByText_rangeFrom

theorem failsByText_range : FailsByText range := by
  refine failsByText_bounds.bind fun found => ?_
  refine succeeds_skipBlanks.failsByText.bind fun _ => ?_
  exact (succeeds_keyword "px").failsByText.bind fun _ => failsByText_pure found

theorem failsByText_sides : FailsByText sides := by
  intro cs cause rest herror
  simp only [sides] at herror
  split at herror
  · obtain ⟨rfl, -⟩ := EStateM.Result.error.inj herror
    rfl
  · cases herror

theorem failsByText_location : FailsByText location := by
  refine failsByText_range.bind fun range => failsByText_sides.bind fun sides => ?_
  refine succeeds_hasToken.failsByText.bind fun more => ?_
  split
  · have hget : FailsByText (get : TokenReader (List Char)) :=
      Succeeds.failsByText fun cs => ⟨cs, cs, rfl⟩
    exact hget.bind fun left => FailsByText.bind (failsByText_throw rfl) fun _ => failsByText_pure _
  · exact failsByText_pure _

theorem failsByText_locations : FailsByText locations := by
  intro cs cause rest herror
  simp only [locations] at herror
  split at herror
  · cases herror
  · split at herror
    · cases herror
    · next found hfound =>
        obtain ⟨rfl, -⟩ := EStateM.Result.error.inj herror
        obtain ⟨entry, -, hentry⟩ := of_mapM_eq_error hfound
        rw [result] at hentry
        split at hentry
        · cases hentry
        · next hlocation =>
            obtain rfl := Except.error.inj hentry
            exact failsByText_location _ _ _ hlocation

theorem failsByText_quoted : FailsByText quoted := by
  intro cs cause rest herror
  simp only [quoted] at herror
  split at herror
  · split at herror
    · cases herror
    · obtain ⟨rfl, -⟩ := EStateM.Result.error.inj herror
      rfl
  · obtain ⟨rfl, -⟩ := EStateM.Result.error.inj herror
    rfl

end TokenReader

namespace Constraint

open TokenReader

theorem failsByText_objectName : FailsByText objectName := by
  intro cs cause rest herror
  rw [objectName] at herror
  cases hword : TokenReader.word cs with
  | ok name left => simp [hword] at herror
  | error found left =>
      rw [hword] at herror
      obtain ⟨rfl, -⟩ := EStateM.Result.error.inj herror
      rfl

theorem failsByText_ofExcept {α : Type} {x : Except SyntaxCause α}
    (h : ∀ cause, x = .error cause → cause.isOfText = true) :
    FailsByText (MonadExcept.ofExcept x : TokenReader α) := by
  cases x with
  | error cause => exact failsByText_throw (h cause rfl)
  | ok a => exact failsByText_pure a

theorem failsByText_toleranceOr (default : Int) : FailsByText (toleranceOr default) := by
  refine succeeds_hasToken.failsByText.bind fun more => ?_
  split
  · refine failsByText_range.bind fun range => ?_
    split
    · split
      · exact failsByText_pure _
      · exact failsByText_throw rfl
    · exact failsByText_throw rfl
  · exact failsByText_pure default

theorem failsByText_readAligned (axis edge : String) : FailsByText (readAligned axis edge) := by
  have haxis : ∀ cause, axisOf axis = .error cause → cause.isOfText = true := by
    intro cause h
    unfold axisOf at h
    split at h
    · cases h
    · cases h
    · obtain rfl := Except.error.inj h
      rfl
  have hedge : ∀ axis cause, edgeOf axis edge = .error cause → cause.isOfText = true := by
    intro axis cause h
    unfold edgeOf at h
    split at h
    case h_7 =>
      obtain rfl := Except.error.inj h
      rfl
    all_goals cases h
  refine (failsByText_ofExcept haxis).bind fun axis => ?_
  refine (failsByText_ofExcept (hedge axis)).bind fun edge => ?_
  refine failsByText_objectName.bind fun _ => ?_
  exact (failsByText_toleranceOr alignedTolerance).bind fun _ => failsByText_pure _

theorem failsByText_readCentered (axis relation : String) :
    FailsByText (readCentered axis relation) := by
  have haxis : ∀ cause, centerAxisOf axis = .error cause → cause.isOfText = true := by
    intro cause h
    unfold centerAxisOf at h
    split at h
    case h_4 =>
      obtain rfl := Except.error.inj h
      rfl
    all_goals cases h
  have hrelation : ∀ cause, centerRelationOf relation = .error cause → cause.isOfText = true := by
    intro cause h
    unfold centerRelationOf at h
    split at h
    case h_3 =>
      obtain rfl := Except.error.inj h
      rfl
    all_goals cases h
  refine (failsByText_ofExcept haxis).bind fun axis => ?_
  refine (failsByText_ofExcept hrelation).bind fun _ => failsByText_objectName.bind fun _ => ?_
  exact (failsByText_toleranceOr centeredTolerance).bind fun _ => failsByText_pure _

theorem failsByText_readText (operation : String) : FailsByText (readText operation) := by
  have hoperation : ∀ cause, textOperationOf operation = .error cause →
      cause.isOfText = true := by
    intro cause h
    unfold textOperationOf at h
    split at h
    case h_6 =>
      obtain rfl := Except.error.inj h
      rfl
    all_goals cases h
  refine (failsByText_ofExcept hoperation).bind fun found => ?_
  refine failsByText_quoted.bind fun expected => ?_
  split
  · exact FailsByText.bind (failsByText_throw rfl) fun _ => failsByText_pure _
  · exact failsByText_pure _

theorem failsByText_readInside (partly : Bool) : FailsByText (readInside partly) :=
  failsByText_objectName.bind fun _ => failsByText_locations.bind fun _ => failsByText_pure _

theorem failsByText_readNear : FailsByText readNear := by
  refine failsByText_objectName.bind fun name => failsByText_locations.bind fun ls => ?_
  split
  · exact FailsByText.bind (failsByText_throw rfl) fun _ => failsByText_pure _
  · exact failsByText_pure _

theorem failsByText_readRelative (direction : Direction) :
    FailsByText (readRelative direction) := by
  refine failsByText_objectName.bind fun name => ?_
  refine succeeds_hasToken.failsByText.bind fun more => ?_
  split
  · exact failsByText_range.bind fun _ => failsByText_pure _
  · exact failsByText_pure _

theorem failsByText_readContains (partly : Bool) : FailsByText (readContains partly) := by
  refine succeeds_takeRest.failsByText.bind fun left => ?_
  dsimp only
  split
  · exact FailsByText.bind (failsByText_throw rfl) fun _ => failsByText_pure _
  · exact failsByText_pure _

theorem failsByText_readComponent (base : Option Path) : FailsByText (readComponent base) := by
  refine succeeds_takeRest.failsByText.bind fun left => ?_
  dsimp only
  split
  · exact FailsByText.bind (failsByText_throw rfl) fun _ => failsByText_pure _
  · exact failsByText_pure _

/-- Each of the readers of constraints fails by the text alone. The numbers of lines, the files and
the folder of the spec have no part in it. -/
theorem failsByText_readerOf? {base : Option Path} {keywords : List String}
    {reader : TokenReader Constraint} (h : readerOf? base keywords = some reader) :
    FailsByText reader := by
  unfold readerOf? at h
  split at h
  all_goals cases h
  · exact failsByText_pure _
  · exact failsByText_pure _
  · exact failsByText_range.map
  · exact failsByText_range.map
  · exact failsByText_readInside false
  · exact failsByText_readInside true
  · exact failsByText_readNear
  · exact failsByText_readRelative .above
  · exact failsByText_readRelative .below
  · exact failsByText_readRelative .leftOf
  · exact failsByText_readRelative .rightOf
  · exact failsByText_readAligned _ _
  · exact failsByText_readAligned _ _
  · exact failsByText_readCentered _ _
  · exact failsByText_readCentered _ _
  · exact failsByText_readContains false
  · exact failsByText_readContains true
  · exact failsByText_readText _
  · exact failsByText_readComponent base

/-- A constraint line is at fault by its text alone. The folder from which paths are seen may be
missing or be any other one. -/
theorem isOfText_of_parse {base : Option Path} {text : List Char} {cause : SyntaxCause}
    (h : parse base text = .error cause) : cause.isOfText = true := by
  simp only [parse] at h
  split at h
  · obtain rfl := Except.error.inj h
    rfl
  · next reader hreader =>
      split at h
      · next found rest hfound =>
          obtain rfl := Except.error.inj h
          exact failsByText_readerOf? hreader _ _ _ hfound
      · split at h
        · cases h
        · obtain rfl := Except.error.inj h
          rfl

end Constraint

end LayoutSpec
