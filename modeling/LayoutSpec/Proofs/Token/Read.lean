import LayoutSpec.Proofs.Constraint.WellFormed
import LayoutSpec.Proofs.Token.Basic

/-!
What is known of a token that was read: numbers are pixel numbers, ranges are ordered, locations
have a side, words have no blank, and no character is in a token that was not in the text.
-/

namespace LayoutSpec.TokenReader

open Text

variable {cs rest : List Char}

theorem of_pixel?_eq_some {n m : Int} (h : pixel? n = some m) : n = m ∧ isPixel m = true := by
  rw [pixel?] at h
  by_cases hn : isPixel n = true
  · rw [if_pos hn] at h
    obtain rfl : n = m := Option.some.inj h
    exact ⟨rfl, hn⟩
  · simp [hn] at h

theorem isPixel_of_digits {negative : Bool} {n : Int} (h : digits negative cs = .ok n rest) :
    isPixel n = true := by
  simp only [digits] at h
  split at h
  · cases h
  · split at h
    · next m hm =>
        obtain ⟨rfl, -⟩ := EStateM.Result.ok.inj h
        exact (of_pixel?_eq_some hm).2
    · cases h

theorem isPixel_of_number {n : Int} (h : number cs = .ok n rest) : isPixel n = true := by
  obtain ⟨_, _, -, h⟩ := of_bind_eq_ok h
  obtain ⟨_, _, -, h⟩ := of_bind_eq_ok h
  obtain ⟨_, _, -, h⟩ := of_bind_eq_ok h
  exact isPixel_of_digits h

theorem wellFormed_ordered {a b : Int} (ha : isPixel a = true) (hb : isPixel b = true) :
    (PixelRange.ordered a b).WellFormed := by
  refine ⟨by omega, ?_, ?_⟩
  · rcases Int.le_total a b with hle | hle
    · rwa [Int.min_eq_left hle]
    · rwa [Int.min_eq_right hle]
  · rcases Int.le_total a b with hle | hle
    · rwa [Int.max_eq_right hle]
    · rwa [Int.max_eq_left hle]

theorem wellFormed_around {value tolerance : Int} {r : PixelRange}
    (h : PixelRange.around? value tolerance = some r) : r.WellFormed := by
  rw [PixelRange.around?] at h
  obtain ⟨low, hlow, h⟩ := Option.bind_eq_some_iff.mp h
  obtain ⟨high, hhigh, h⟩ := Option.bind_eq_some_iff.mp h
  obtain rfl : PixelRange.ordered low high = r := Option.some.inj h
  exact wellFormed_ordered (of_pixel?_eq_some hlow).2 (of_pixel?_eq_some hhigh).2

theorem wellFormed_within {first tolerance : Int} {r : PixelRange}
    (h : rangeFrom.within first tolerance cs = .ok r rest) : r.WellFormed := by
  rw [rangeFrom.within] at h
  cases hfound : PixelRange.around? first tolerance with
  | none =>
      rw [hfound] at h
      cases h
  | some found =>
      rw [hfound] at h
      obtain ⟨rfl, -⟩ := EStateM.Result.ok.inj h
      exact wellFormed_around hfound

theorem wellFormed_rangeFrom {first : Int} {r : PixelRange} (hfirst : isPixel first = true)
    (h : rangeFrom first cs = .ok r rest) : r.WellFormed := by
  obtain ⟨_, _, -, h⟩ := of_bind_eq_ok h
  obtain ⟨isTo, _, -, h⟩ := of_bind_eq_ok h
  cases isTo with
  | true =>
      obtain ⟨second, _, hsecond, h⟩ := of_bind_eq_ok h
      obtain ⟨rfl, -⟩ := EStateM.Result.ok.inj h
      exact wellFormed_ordered hfirst (isPixel_of_number hsecond)
  | false =>
      obtain ⟨isAround, _, -, h⟩ := of_bind_eq_ok h
      cases isAround with
      | true =>
          obtain ⟨tolerance, _, -, h⟩ := of_bind_eq_ok h
          exact wellFormed_within h
      | false =>
          obtain ⟨isAscii, _, -, h⟩ := of_bind_eq_ok h
          cases isAscii with
          | true =>
              obtain ⟨tolerance, _, -, h⟩ := of_bind_eq_ok h
              exact wellFormed_within h
          | false =>
              obtain ⟨rfl, -⟩ := EStateM.Result.ok.inj h
              exact hfirst

theorem isPixel_min_succ {n : Int} (h : isPixel n = true) :
    isPixel (min (n + 1) maxPixel) = true := by
  rw [isPixel, Bool.and_eq_true, decide_eq_true_eq, decide_eq_true_eq, minPixel, maxPixel] at h ⊢
  omega

/-- Bounds that were read make a well-formed range: they are pixel numbers, the lesser one below. -/
theorem wellFormed_bounds {r : PixelRange} (h : bounds cs = .ok r rest) : r.WellFormed := by
  obtain ⟨_, _, -, h⟩ := of_bind_eq_ok h
  obtain ⟨isAtLeast, _, -, h⟩ := of_bind_eq_ok h
  cases isAtLeast with
  | true =>
      obtain ⟨low, _, hlow, h⟩ := of_bind_eq_ok h
      obtain ⟨rfl, -⟩ := EStateM.Result.ok.inj h
      exact isPixel_of_number hlow
  | false =>
      obtain ⟨isMore, _, -, h⟩ := of_bind_eq_ok h
      cases isMore with
      | true =>
          obtain ⟨low, _, hlow, h⟩ := of_bind_eq_ok h
          obtain ⟨rfl, -⟩ := EStateM.Result.ok.inj h
          exact isPixel_min_succ (isPixel_of_number hlow)
      | false =>
          obtain ⟨first, _, hfirst, h⟩ := of_bind_eq_ok h
          exact wellFormed_rangeFrom (isPixel_of_number hfirst) h

/-- A range that was read is ordered, and its bounds are pixel numbers. -/
theorem wellFormed_range {r : PixelRange} (h : range cs = .ok r rest) : r.WellFormed := by
  obtain ⟨found, _, hfound, h⟩ := of_bind_eq_ok h
  obtain ⟨_, _, -, h⟩ := of_bind_eq_ok h
  obtain ⟨_, _, -, h⟩ := of_bind_eq_ok h
  obtain ⟨rfl, -⟩ := EStateM.Result.ok.inj h
  exact wellFormed_bounds hfound

theorem ne_nil_of_sides {found : List Side} (h : sides cs = .ok found rest) : found ≠ [] := by
  simp only [sides] at h
  split at h
  · cases h
  · next hne =>
      obtain ⟨rfl, -⟩ := EStateM.Result.ok.inj h
      simpa using hne

theorem wellFormed_location {l : Location} (h : location cs = .ok l rest) : l.WellFormed := by
  obtain ⟨r, _, hr, h⟩ := of_bind_eq_ok h
  obtain ⟨found, _, hfound, h⟩ := of_bind_eq_ok h
  obtain ⟨more, _, -, h⟩ := of_bind_eq_ok h
  cases more with
  | true =>
      obtain ⟨_, _, -, h⟩ := of_bind_eq_ok h
      cases h
  | false =>
      obtain ⟨rfl, -⟩ := EStateM.Result.ok.inj h
      exact ⟨wellFormed_range hr, ne_nil_of_sides hfound⟩

/-- Locations that were read have a side each, and their ranges are well-formed. -/
theorem wellFormed_locations {ls : List Location} (h : locations cs = .ok ls rest) :
    ∀ l ∈ ls, l.WellFormed := by
  rw [locations] at h
  split at h
  · obtain ⟨rfl, -⟩ := EStateM.Result.ok.inj h
    simp
  · split at h
    · next found hfound =>
        obtain ⟨rfl, -⟩ := EStateM.Result.ok.inj h
        intro l hl
        obtain ⟨entry, -, hentry⟩ := of_mapM_eq_ok hfound l hl
        rw [result] at hentry
        split at hentry
        · next a mid ha =>
            obtain rfl : a = l := Except.ok.inj hentry
            exact wellFormed_location ha
        · cases hentry
    · cases h

/-- A word that was read is not empty and has no blank. It ends at the next blank or with the
text. -/
theorem isWord_of_word {name : String} (h : word cs = .ok name rest) : IsWord name := by
  simp only [word] at h
  split at h
  · cases h
  · next hne =>
      obtain ⟨rfl, -⟩ := EStateM.Result.ok.inj h
      refine ⟨by simpa using hne, ?_⟩
      intro c hc
      rw [String.toList_ofList] at hc
      simpa using List.mem_takeWhile_imp hc

theorem mem_of_word {name : String} (h : word cs = .ok name rest) :
    ∀ c ∈ name.toList, c ∈ cs := by
  simp only [word] at h
  split at h
  · cases h
  · obtain ⟨rfl, -⟩ := EStateM.Result.ok.inj h
    intro c hc
    rw [String.toList_ofList] at hc
    exact (List.dropWhile_sublist _).subset ((List.takeWhile_sublist _).subset hc)

theorem mem_of_unquote {cs text left : List Char} (h : unquote cs = some (text, left)) :
    ∀ c ∈ text, c ∈ cs := by
  fun_induction unquote cs generalizing text with
  | case1 => cases h
  | case2 rest =>
      obtain ⟨rfl, rfl⟩ := Prod.mk.inj (Option.some.inj h)
      simp
  | case3 => cases h
  | case4 c rest ih =>
      obtain ⟨⟨inner, after⟩, hinner, heq⟩ := Option.map_eq_some_iff.mp h
      obtain ⟨rfl, rfl⟩ := Prod.mk.inj heq
      intro d hd
      rcases List.mem_cons.mp hd with rfl | hd
      · simp
      · simp [ih hinner d hd]
  | case5 c rest _ _ _ ih =>
      obtain ⟨⟨inner, after⟩, hinner, heq⟩ := Option.map_eq_some_iff.mp h
      obtain ⟨rfl, rfl⟩ := Prod.mk.inj heq
      intro d hd
      rcases List.mem_cons.mp hd with rfl | hd
      · simp
      · simp [ih hinner d hd]

/-- Every character of a quoted text that was read is in the text around it. Dropping backslashes
adds none. -/
theorem mem_of_quoted {text : String} (h : quoted cs = .ok text rest) :
    ∀ c ∈ text.toList, c ∈ cs := by
  rw [quoted] at h
  split at h
  · next inner hinner =>
      split at h
      · next found left hfound =>
          obtain ⟨rfl, -⟩ := EStateM.Result.ok.inj h
          intro c hc
          rw [String.toList_ofList] at hc
          have hmem : c ∈ trimStart cs := by
            rw [hinner]
            exact List.mem_cons_of_mem _ (mem_of_unquote hfound c hc)
          exact (List.dropWhile_sublist _).subset hmem
      · cases h
  · cases h

end LayoutSpec.TokenReader
