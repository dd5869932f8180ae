import LayoutSpec.Constraint.Reader
import LayoutSpec.Proofs.Token.Read

/-!
A constraint that was read is well-formed, and its names and texts are parts of its line.
-/

namespace LayoutSpec.Constraint

open Text

/-- What a reader yields is well-formed, and no character is in it that it was not given. -/
def Yields (reader : TokenReader Constraint) : Prop :=
  ∀ cs c rest, reader cs = .ok c rest →
    c.WellFormed ∧ ∀ s ∈ c.strings, ∀ d ∈ s.toList, d ∈ cs

theorem yields_pure {c : Constraint} (hc : c.WellFormed) (hstrings : c.strings = []) :
    Yields (pure c) := by
  intro cs d rest h
  obtain ⟨rfl, -⟩ := EStateM.Result.ok.inj h
  exact ⟨hc, by simp [hstrings]⟩

/-- An object name is a word. -/
theorem of_objectName {cs rest : List Char} {name : String}
    (h : objectName cs = .ok name rest) : IsWord name ∧ ∀ d ∈ name.toList, d ∈ cs := by
  rw [objectName] at h
  cases hword : TokenReader.word cs with
  | error cause mid => simp [hword] at h
  | ok found mid =>
      rw [hword] at h
      obtain ⟨rfl, -⟩ := EStateM.Result.ok.inj h
      exact ⟨TokenReader.isWord_of_word hword, TokenReader.mem_of_word hword⟩

theorem isTolerance_of_toleranceOr {default : Int} {cs rest : List Char} {n : Int}
    (hdefault : IsTolerance default) (h : toleranceOr default cs = .ok n rest) :
    IsTolerance n := by
  obtain ⟨more, _, -, h⟩ := TokenReader.of_bind_eq_ok h
  cases more with
  | false =>
      obtain ⟨rfl, -⟩ := EStateM.Result.ok.inj h
      exact hdefault
  | true =>
      obtain ⟨r, _, hr, h⟩ := TokenReader.of_bind_eq_ok h
      have hformed := TokenReader.wellFormed_range hr
      cases r with
      | between low high => cases h
      | atLeast low => cases h
      | exactly value =>
          by_cases hvalue : 0 ≤ value
          · simp only [hvalue, if_true] at h
            obtain ⟨rfl, -⟩ := EStateM.Result.ok.inj h
            exact ⟨hvalue, hformed⟩
          · simp only [hvalue, if_false] at h
            cases h

/-- A keyword that is looked up succeeds without reading anything. -/
theorem of_ofExcept_eq_ok {α : Type} {x : Except SyntaxCause α} {cs rest : List Char} {a : α}
    (h : (MonadExcept.ofExcept x : TokenReader α) cs = .ok a rest) : x = .ok a ∧ cs = rest := by
  cases x with
  | error cause => cases h
  | ok found =>
      obtain ⟨rfl, rfl⟩ := EStateM.Result.ok.inj h
      exact ⟨rfl, rfl⟩

theorem isLegal_of_edgeOf {axis : Axis} {word : String} {edge : AlignEdge}
    (h : edgeOf axis word = .ok edge) : AlignEdge.isLegal axis edge = true := by
  unfold edgeOf at h
  split at h
  · cases h
    cases axis <;> rfl
  · cases h
    cases axis <;> rfl
  · cases h
    rfl
  · cases h
    rfl
  · cases h
    rfl
  · cases h
    rfl
  · cases h

/-- A constraint that is made of a range of pixels alone. -/
theorem yields_range {make : PixelRange → Constraint}
    (hmake : ∀ r, r.WellFormed → (make r).WellFormed) (hstrings : ∀ r, (make r).strings = []) :
    Yields (make <$> TokenReader.range) := by
  intro cs c rest h
  rw [TokenReader.run_map] at h
  cases hrange : TokenReader.range cs with
  | error cause mid => simp [hrange] at h
  | ok r mid =>
      rw [hrange] at h
      obtain ⟨rfl, -⟩ := EStateM.Result.ok.inj h
      exact ⟨hmake r (TokenReader.wellFormed_range hrange), by simp [hstrings]⟩

theorem yields_inside (partly : Bool) : Yields (readInside partly) := by
  intro cs c rest h
  obtain ⟨name, _, hname, h⟩ := TokenReader.of_bind_eq_ok h
  obtain ⟨ls, _, hls, h⟩ := TokenReader.of_bind_eq_ok h
  obtain ⟨rfl, -⟩ := EStateM.Result.ok.inj h
  obtain ⟨hword, hmem⟩ := of_objectName hname
  exact ⟨⟨hword, TokenReader.wellFormed_locations hls⟩, by simpa [strings] using hmem⟩

theorem yields_near : Yields readNear := by
  intro cs c rest h
  obtain ⟨name, _, hname, h⟩ := TokenReader.of_bind_eq_ok h
  obtain ⟨ls, _, hls, h⟩ := TokenReader.of_bind_eq_ok h
  obtain ⟨hword, hmem⟩ := of_objectName hname
  cases ls with
  | nil => cases h
  | cons l ls =>
      obtain ⟨rfl, -⟩ := EStateM.Result.ok.inj h
      exact ⟨⟨hword, by simp, TokenReader.wellFormed_locations hls⟩, by simpa [strings] using hmem⟩

theorem yields_relative (direction : Direction) : Yields (readRelative direction) := by
  intro cs c rest h
  obtain ⟨name, _, hname, h⟩ := TokenReader.of_bind_eq_ok h
  obtain ⟨hword, hmem⟩ := of_objectName hname
  obtain ⟨more, _, -, h⟩ := TokenReader.of_bind_eq_ok h
  cases more with
  | true =>
      obtain ⟨r, _, hr, h⟩ := TokenReader.of_bind_eq_ok h
      obtain ⟨rfl, -⟩ := EStateM.Result.ok.inj h
      exact ⟨⟨hword, TokenReader.wellFormed_range hr⟩, by simpa [strings] using hmem⟩
  | false =>
      obtain ⟨rfl, -⟩ := EStateM.Result.ok.inj h
      have hzero : isPixel 0 = true := by decide
      exact ⟨⟨hword, hzero⟩, by simpa [strings] using hmem⟩

theorem yields_aligned (axis edge : String) : Yields (readAligned axis edge) := by
  intro cs c rest h
  obtain ⟨foundAxis, mid, haxis, h⟩ := TokenReader.of_bind_eq_ok h
  obtain ⟨-, rfl⟩ := of_ofExcept_eq_ok haxis
  obtain ⟨foundEdge, mid, hedge, h⟩ := TokenReader.of_bind_eq_ok h
  obtain ⟨hfound, rfl⟩ := of_ofExcept_eq_ok hedge
  obtain ⟨name, _, hname, h⟩ := TokenReader.of_bind_eq_ok h
  obtain ⟨n, _, hn, h⟩ := TokenReader.of_bind_eq_ok h
  obtain ⟨rfl, -⟩ := EStateM.Result.ok.inj h
  obtain ⟨hword, hmem⟩ := of_objectName hname
  have hdefault : IsTolerance alignedTolerance := ⟨by decide, by decide⟩
  have htolerance := isTolerance_of_toleranceOr hdefault hn
  exact ⟨⟨isLegal_of_edgeOf hfound, hword, htolerance⟩, by simpa [strings] using hmem⟩

theorem yields_centered (axis relation : String) : Yields (readCentered axis relation) := by
  intro cs c rest h
  obtain ⟨foundAxis, mid, haxis, h⟩ := TokenReader.of_bind_eq_ok h
  obtain ⟨-, rfl⟩ := of_ofExcept_eq_ok haxis
  obtain ⟨foundRelation, mid, hrelation, h⟩ := TokenReader.of_bind_eq_ok h
  obtain ⟨-, rfl⟩ := of_ofExcept_eq_ok hrelation
  obtain ⟨name, _, hname, h⟩ := TokenReader.of_bind_eq_ok h
  obtain ⟨n, _, hn, h⟩ := TokenReader.of_bind_eq_ok h
  obtain ⟨rfl, -⟩ := EStateM.Result.ok.inj h
  obtain ⟨hword, hmem⟩ := of_objectName hname
  have hdefault : IsTolerance centeredTolerance := ⟨by decide, by decide⟩
  exact ⟨⟨hword, isTolerance_of_toleranceOr hdefault hn⟩, by simpa [strings] using hmem⟩

theorem yields_contains (partly : Bool) : Yields (readContains partly) := by
  intro cs c rest h
  obtain ⟨left, mid, hleft, h⟩ := TokenReader.of_bind_eq_ok h
  obtain ⟨rfl, rfl⟩ := EStateM.Result.ok.inj hleft
  by_cases hempty : ((items ',' cs).map String.ofList).isEmpty = true
  · rw [if_pos hempty] at h
    cases h
  · rw [if_neg hempty] at h
    obtain ⟨rfl, -⟩ := EStateM.Result.ok.inj h
    refine ⟨⟨by simpa using hempty, ?_⟩, ?_⟩
    · intro name hname
      obtain ⟨item, hitem, rfl⟩ := List.mem_map.mp hname
      obtain ⟨htrim, hne, hcomma, -⟩ := of_mem_items hitem
      rw [IsItem, String.toList_ofList]
      exact ⟨htrim, hne, hcomma⟩
    · intro name hname d hd
      obtain ⟨item, hitem, rfl⟩ := List.mem_map.mp hname
      rw [String.toList_ofList] at hd
      exact (of_mem_items hitem).2.2.2 d hd

theorem yields_text (operation : String) : Yields (readText operation) := by
  intro cs c rest h
  obtain ⟨op, mid, hop, h⟩ := TokenReader.of_bind_eq_ok h
  obtain ⟨-, rfl⟩ := of_ofExcept_eq_ok hop
  obtain ⟨expected, _, hexpected, h⟩ := TokenReader.of_bind_eq_ok h
  by_cases hpattern : (decide (op = .matches) && !Regex.compiles expected.toList) = true
  · rw [if_pos hpattern] at h
    cases h
  · rw [if_neg hpattern] at h
    obtain ⟨rfl, -⟩ := EStateM.Result.ok.inj h
    refine ⟨?_, by simpa [strings] using TokenReader.mem_of_quoted hexpected⟩
    intro hmatches
    simpa [hmatches] using hpattern

/-- The path of a component is trimmed, and all that was left of the line. -/
theorem yields_component : Yields (readComponent none) := by
  intro cs c rest h
  obtain ⟨left, mid, hleft, h⟩ := TokenReader.of_bind_eq_ok h
  obtain ⟨rfl, rfl⟩ := EStateM.Result.ok.inj hleft
  by_cases hempty : (trim cs).isEmpty = true
  · rw [if_pos hempty] at h
    cases h
  · rw [if_neg hempty] at h
    obtain ⟨rfl, -⟩ := EStateM.Result.ok.inj h
    refine ⟨⟨?_, ?_⟩, ?_⟩
    · rw [Path.from?, String.toList_ofList, trim_trim]
    · rw [Path.from?, String.toList_ofList]
      simpa using hempty
    · intro s hs d hd
      obtain rfl : s = String.ofList (trim cs) := by simpa [strings, Path.from?] using hs
      rw [String.toList_ofList] at hd
      exact mem_of_mem_trim hd

/-- Every keyword has a reader that yields well-formed constraints. Nothing is in their names and
texts that the line did not have, which keeps them on one line later. -/
theorem yields_readerOf? {keywords : List String} {reader : TokenReader Constraint}
    (h : readerOf? none keywords = some reader) : Yields reader := by
  unfold readerOf? at h
  split at h
  all_goals cases h
  · exact yields_pure trivial rfl
  · exact yields_pure trivial rfl
  · exact yields_range (fun _ hr => hr) fun _ => rfl
  · exact yields_range (fun _ hr => hr) fun _ => rfl
  · exact yields_inside false
  · exact yields_inside true
  · exact yields_near
  · exact yields_relative .above
  · exact yields_relative .below
  · exact yields_relative .leftOf
  · exact yields_relative .rightOf
  · exact yields_aligned _ _
  · exact yields_aligned _ _
  · exact yields_centered _ _
  · exact yields_centered _ _
  · exact yields_contains false
  · exact yields_contains true
  · exact yields_text _
  · exact yields_component

/-- The parameters of a line are a part of it. -/
theorem mem_of_parameters {text : List Char} {d : Char}
    (h : d ∈ ((cutAt (· = ':') (trim text)).getD (trim text, [])).2) : d ∈ text := by
  cases hcut : cutAt (· = ':') (trim text) with
  | none => simp [hcut] at h
  | some parts =>
      obtain ⟨colon, -, -, hsplit⟩ := eq_append_of_cutAt (x := parts.1) (y := parts.2) hcut
      rw [hcut, Option.getD_some] at h
      refine mem_of_mem_trim ?_
      rw [hsplit]
      exact List.mem_append_right _ (List.mem_cons_of_mem colon h)

/-- Reading a line yields a well-formed constraint out of characters of the line. With `parse_chars`
it makes the lines and the well-formed constraints stand for each other. -/
theorem of_parse_eq_ok {text : List Char} {c : Constraint} (h : parse none text = .ok c) :
    c.WellFormed ∧ ∀ s ∈ c.strings, ∀ d ∈ s.toList, d ∈ text := by
  simp only [parse] at h
  split at h
  · cases h
  · next reader hreader =>
      split at h
      · cases h
      · next found rest hfound =>
          split at h
          · obtain rfl := Except.ok.inj h
            obtain ⟨hformed, hmem⟩ := yields_readerOf? hreader _ _ _ hfound
            exact ⟨hformed, fun s hs d hd => mem_of_parameters (hmem s hs d hd)⟩
          · cases h

end LayoutSpec.Constraint
