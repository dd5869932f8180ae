import LayoutSpec.Constraint.Printer
import LayoutSpec.Proofs.Constraint.WellFormed
import LayoutSpec.Proofs.Token.Basic

/-!
What is written as a token is read as that token, whatever stands behind it that cannot go on with
it.
-/

namespace LayoutSpec.TokenReader

open Text

variable {cs rest : List Char}

/-- A numeral starts with a digit. -/
theorem isDigit_of_head?_natNumeral {n : Nat} {c : Char}
    (h : c ∈ (natNumeral n ++ rest).head?) : c.isDigit = true := by
  cases hn : natNumeral n with
  | nil => exact absurd hn (natNumeral_ne_nil n)
  | cons d ds =>
      obtain rfl : d = c := by simpa [hn] using h
      exact isDigit_of_mem_natNumeral (n := n) (by simp [hn])

theorem trimStart_natNumeral (n : Nat) (rest : List Char) :
    trimStart (natNumeral n ++ rest) = natNumeral n ++ rest :=
  trimStart_eq_self fun _ hc => isBlank_of_isDigit (isDigit_of_head?_natNumeral hc)

theorem digits_natNumeral {negative : Bool} {n : Nat} {value : Int}
    (hvalue : (if negative then -(n : Int) else n) = value) (hpixel : isPixel value = true)
    (hrest : ∀ c ∈ rest.head?, c.isDigit = false) :
    digits negative (natNumeral n ++ rest) = .ok value rest := by
  have hrun : ∀ c ∈ natNumeral n, c.isDigit = true := fun c hc => isDigit_of_mem_natNumeral hc
  rw [digits, takeWhile_run hrun hrest, dropWhile_run hrun hrest]
  simp only [List.isEmpty_iff, natNumeral_ne_nil, if_false, natOfDigits_natNumeral, hvalue, pixel?,
    hpixel, if_true]

/-- A written number is read back, whatever follows that is no digit. Its sign stands directly
before its digits. -/
theorem number_intNumeral {n : Int} (hn : isPixel n = true)
    (hrest : ∀ c ∈ rest.head?, c.isDigit = false) :
    number (intNumeral n ++ rest) = .ok n rest := by
  cases n with
  | ofNat n =>
      have hminus : ∀ c ∈ (natNumeral n ++ rest).head?, "-".toList.head? ≠ some c := by
        intro c hc hsome
        obtain rfl : '-' = c := by simpa using hsome
        exact absurd (isDigit_of_head?_natNumeral hc) (by decide)
      change number (natNumeral n ++ rest) = _
      rw [number, bind_eq_ok (skipBlanks_eq _), trimStart_natNumeral,
        bind_eq_ok (symbol_eq_false (by decide) hminus), bind_eq_ok (skipBlanks_eq _),
        trimStart_natNumeral]
      exact digits_natNumeral rfl hn hrest
  | negSucc n =>
      have hminus : trimStart ("-".toList ++ (natNumeral (n + 1) ++ rest))
          = "-".toList ++ (natNumeral (n + 1) ++ rest) :=
        trimStart_eq_self (by simp; decide)
      change number ("-".toList ++ (natNumeral (n + 1) ++ rest)) = _
      rw [number, bind_eq_ok (skipBlanks_eq _), hminus, bind_eq_ok (symbol_append "-" _),
        bind_eq_ok (skipBlanks_eq _), trimStart_natNumeral]
      exact digits_natNumeral rfl hn hrest

/-- Blanks before a number do not count. -/
theorem number_blank_cons {c : Char} (cs : List Char) (h : isBlank c = true) :
    number (c :: cs) = number cs := by
  rw [number, bind_eq_ok (skipBlanks_eq _), bind_eq_ok (skipBlanks_eq _), trimStart_blank_cons cs h]

theorem head?_intNumeral {n : Int} {c : Char} (h : c ∈ (intNumeral n ++ rest).head?) :
    c = '-' ∨ c.isDigit = true := by
  cases n with
  | ofNat n => exact Or.inr (isDigit_of_head?_natNumeral h)
  | negSucc n => exact Or.inl (by simpa [intNumeral] using h.symm)

theorem trimStart_intNumeral (n : Int) (rest : List Char) :
    trimStart (intNumeral n ++ rest) = intNumeral n ++ rest := by
  refine trimStart_eq_self fun c hc => ?_
  rcases head?_intNumeral hc with rfl | hdigit
  · decide
  · exact isBlank_of_isDigit hdigit

/-- A numeral is no bound of its own. -/
theorem symbol_intNumeral {s : String} {n : Int} (hs : s.toList.head? = some '>') :
    symbol s (intNumeral n ++ rest) = .ok false (intNumeral n ++ rest) := by
  refine symbol_eq_false (by intro hnil; simp [hnil] at hs) fun c hc hsome => ?_
  obtain rfl : '>' = c := Option.some.inj (hs.symm.trans hsome)
  rcases head?_intNumeral hc with heq | hdigit
  · revert heq
    decide
  · revert hdigit
    decide

theorem bounds_intNumeral {n : Int} (hn : isPixel n = true)
    (hrest : ∀ c ∈ rest.head?, c.isDigit = false) :
    bounds (intNumeral n ++ rest) = rangeFrom n rest := by
  rw [bounds, bind_eq_ok (skipBlanks_eq _), trimStart_intNumeral,
    bind_eq_ok (symbol_intNumeral (by decide))]
  simp only [Bool.false_eq_true, if_false]
  rw [bind_eq_ok (symbol_intNumeral (by decide))]
  simp only [Bool.false_eq_true, if_false]
  rw [bind_eq_ok (number_intNumeral hn hrest)]

theorem rangeFrom_unit (n : Int) (rest : List Char) :
    rangeFrom n ("px".toList ++ rest) = .ok (.exactly n) ("px".toList ++ rest) := by
  have hstart : trimStart ("px".toList ++ rest) = "px".toList ++ rest :=
    trimStart_eq_self (by simp; decide)
  rw [rangeFrom, bind_eq_ok (skipBlanks_eq _), hstart,
    bind_eq_ok (keyword_eq_false (by decide) (by simp))]
  simp only [Bool.false_eq_true, if_false]
  rw [bind_eq_ok (symbol_eq_false (by decide) (by simp))]
  simp only [Bool.false_eq_true, if_false]
  rw [bind_eq_ok (symbol_eq_false (by decide) (by simp))]
  rfl

theorem rangeFrom_to {low high : Int} (hhigh : isPixel high = true)
    (hrest : ∀ c ∈ rest.head?, c.isDigit = false) :
    rangeFrom low (" to ".toList ++ (intNumeral high ++ rest)) = .ok (.ordered low high) rest := by
  have hstart : trimStart (" to ".toList ++ (intNumeral high ++ rest))
      = "to".toList ++ (' ' :: (intNumeral high ++ rest)) := by
    change trimStart (' ' :: ("to ".toList ++ (intNumeral high ++ rest))) = _
    rw [trimStart_blank_cons _ (by decide)]
    exact trimStart_eq_self (by simp; decide)
  rw [rangeFrom, bind_eq_ok (skipBlanks_eq _), hstart,
    bind_eq_ok (keyword_append (by simp; decide))]
  simp only [if_true]
  rw [bind_eq_ok ((number_blank_cons _ (by decide)).trans (number_intNumeral hhigh hrest))]
  rfl

theorem bounds_atLeast {low : Int} (hlow : isPixel low = true)
    (hrest : ∀ c ∈ rest.head?, c.isDigit = false) :
    bounds (">= ".toList ++ (intNumeral low ++ rest)) = .ok (.atLeast low) rest := by
  have hstart : trimStart (">= ".toList ++ (intNumeral low ++ rest))
      = ">=".toList ++ (' ' :: (intNumeral low ++ rest)) :=
    trimStart_eq_self (by simp; decide)
  rw [bounds, bind_eq_ok (skipBlanks_eq _), hstart, bind_eq_ok (symbol_append _ _)]
  simp only [if_true]
  rw [bind_eq_ok ((number_blank_cons _ (by decide)).trans (number_intNumeral hlow hrest))]
  rfl

theorem range_of_bounds {r : PixelRange} (h : bounds cs = .ok r ("px".toList ++ rest))
    (hrest : ∀ c ∈ rest.head?, isLetter c = false) : range cs = .ok r rest := by
  have hstart : trimStart ("px".toList ++ rest) = "px".toList ++ rest :=
    trimStart_eq_self (by simp; decide)
  rw [range, bind_eq_ok h, bind_eq_ok (skipBlanks_eq _), hstart, bind_eq_ok (keyword_append hrest)]
  rfl

/-- A written range is read back, unless a letter follows its unit. A letter would make another word
of the unit, and the range would end before it. -/
theorem range_chars {r : PixelRange} (hr : r.WellFormed)
    (hrest : ∀ c ∈ rest.head?, isLetter c = false) : range (r.chars ++ rest) = .ok r rest := by
  have hunit : ∀ c ∈ ("px".toList ++ rest).head?, c.isDigit = false := by simp
  refine range_of_bounds ?_ hrest
  cases r with
  | exactly value =>
      rw [PixelRange.chars, List.append_assoc, bounds_intNumeral hr hunit, rangeFrom_unit]
  | between low high =>
      obtain ⟨hle, hlow, hhigh⟩ := hr
      have hto : ∀ c ∈ (" to ".toList ++ (intNumeral high ++ ("px".toList ++ rest))).head?,
          c.isDigit = false := by simp
      have hordered : PixelRange.ordered low high = .between low high := by
        rw [PixelRange.ordered, Int.min_eq_left hle, Int.max_eq_right hle]
      rw [PixelRange.chars, List.append_assoc, List.append_assoc, List.append_assoc,
        bounds_intNumeral hlow hto, rangeFrom_to hhigh hunit, hordered]
  | atLeast low =>
      rw [PixelRange.chars, List.append_assoc, List.append_assoc, bounds_atLeast hr hunit]

theorem range_blank_cons {c : Char} (cs : List Char) (h : isBlank c = true) :
    range (c :: cs) = range cs := by
  have hbounds : bounds (c :: cs) = bounds cs := by
    rw [bounds, bind_eq_ok (skipBlanks_eq _), bind_eq_ok (skipBlanks_eq _),
      trimStart_blank_cons cs h]
  rw [range, run_bind, run_bind, hbounds]

theorem isLetter_of_mem_keyword (side : Side) : ∀ c ∈ side.keyword.toList, isLetter c = true := by
  refine List.all_eq_true.mp ?_
  cases side <;> decide

theorem head?_sides (sides : List Side) :
    ∀ c ∈ (sides.flatMap fun side => ' ' :: side.keyword.toList).head?, isLetter c = false := by
  cases sides with
  | nil => simp
  | cons side sides => simp; decide

/-- The word of a side, with blanks before it and no letter behind it, is the first of the sides
that are read. -/
theorem leadingSides_word (side : Side) {pad rest : List Char}
    (hpad : ∀ c ∈ pad, isBlank c = true) (hstop : ∀ c ∈ rest.head?, isLetter c = false) :
    leadingSides (pad ++ side.keyword.toList ++ rest)
      = (side :: (leadingSides rest).1, (leadingSides rest).2) := by
  have hstart : trimStart (pad ++ side.keyword.toList ++ rest) = side.keyword.toList ++ rest := by
    rw [List.append_assoc, trimStart_append _ hpad]
    refine trimStart_eq_self ?_
    cases side <;> simp [Side.keyword] <;> decide
  have hletters := isLetter_of_mem_keyword side
  have hnamed : Side.ofKeyword? (String.ofList
      ((trimStart (pad ++ side.keyword.toList ++ rest)).takeWhile isLetter)) = some side := by
    rw [hstart, takeWhile_run hletters hstop, String.ofList_toList, Side.ofKeyword?_keyword]
  rw [leadingSides]
  split
  · next hnone => exact absurd (hnamed.symm.trans hnone) (by simp)
  · next found hfound =>
      obtain rfl : side = found := Option.some.inj (hnamed.symm.trans hfound)
      rw [hstart, dropWhile_run hletters hstop]

theorem leadingSides_sides (sides : List Side) :
    leadingSides (sides.flatMap fun side => ' ' :: side.keyword.toList) = (sides, []) := by
  induction sides with
  | nil =>
      rw [List.flatMap_nil, leadingSides]
      rfl
  | cons side sides ih =>
      have hpad : ∀ c ∈ [' '], isBlank c = true := by simp; decide
      have hword := leadingSides_word side hpad (head?_sides sides)
      rw [ih] at hword
      exact hword

/-- A written location is read back, and nothing is left of it. Its range ends in the unit, behind
which the sides follow after a blank. -/
theorem location_chars {l : Location} (hl : l.WellFormed) : location l.chars = .ok l [] := by
  have hsides : TokenReader.sides (l.sides.flatMap fun side => ' ' :: side.keyword.toList)
      = .ok l.sides [] := by
    rw [TokenReader.sides, leadingSides_sides]
    simp [hl.2]
  rw [Location.chars, location, bind_eq_ok (range_chars hl.1 (head?_sides l.sides)),
    bind_eq_ok hsides]
  rfl

/-- The characters of a written range or side. -/
def isFormal (c : Char) : Bool :=
  c.isAlphanum || [' ', '-', '>', '='].contains c

theorem isFormal_of_mem_intNumeral {n : Int} {c : Char} (h : c ∈ intNumeral n) :
    isFormal c = true := by
  have hdigit : ∀ {m : Nat}, c ∈ natNumeral m → isFormal c = true := by
    intro m hm
    simp [isFormal, Char.isAlphanum, isDigit_of_mem_natNumeral hm]
  cases n with
  | ofNat n => exact hdigit h
  | negSucc n =>
      rcases List.mem_cons.mp h with rfl | h
      · decide
      · exact hdigit h

theorem isFormal_of_mem_range {r : PixelRange} {c : Char} (h : c ∈ r.chars) :
    isFormal c = true := by
  have hunit : ∀ d ∈ "px".toList, isFormal d = true := List.all_eq_true.mp (by decide)
  have hto : ∀ d ∈ " to ".toList, isFormal d = true := List.all_eq_true.mp (by decide)
  have hbound : ∀ d ∈ ">= ".toList, isFormal d = true := List.all_eq_true.mp (by decide)
  cases r with
  | exactly value =>
      rcases List.mem_append.mp h with h | h
      · exact isFormal_of_mem_intNumeral h
      · exact hunit c h
  | between low high =>
      simp only [PixelRange.chars, List.mem_append] at h
      rcases h with ((h | h) | h) | h
      · exact isFormal_of_mem_intNumeral h
      · exact hto c h
      · exact isFormal_of_mem_intNumeral h
      · exact hunit c h
  | atLeast low =>
      simp only [PixelRange.chars, List.mem_append] at h
      rcases h with (h | h) | h
      · exact hbound c h
      · exact isFormal_of_mem_intNumeral h
      · exact hunit c h

theorem isFormal_of_mem_location {l : Location} {c : Char} (h : c ∈ l.chars) :
    isFormal c = true := by
  have hword : ∀ (side : Side), ∀ d ∈ ' ' :: side.keyword.toList, isFormal d = true := by
    intro side
    refine List.all_eq_true.mp ?_
    cases side <;> decide
  rw [Location.chars, List.mem_append, List.mem_flatMap] at h
  rcases h with h | ⟨side, -, h⟩
  · exact isFormal_of_mem_range h
  · exact hword side c h

theorem comma_not_mem_location (l : Location) : ',' ∉ l.chars := fun h =>
  absurd (isFormal_of_mem_location h) (by decide)

theorem endsInWord_range (r : PixelRange) : EndsInWord r.chars := by
  have hunit : EndsInWord "px".toList := ⟨'x', by decide, by decide⟩
  cases r with
  | exactly value => exact hunit.append _
  | between low high => exact hunit.append _
  | atLeast low => exact hunit.append _

theorem endsInWord_location (l : Location) : EndsInWord l.chars := by
  refine (endsInWord_range l.range).append_flatMap l.sides ?_
  intro side _
  have hword : EndsInWord side.keyword.toList := by
    cases side with
    | top => exact ⟨'p', by decide, by decide⟩
    | left => exact ⟨'t', by decide, by decide⟩
    | right => exact ⟨'t', by decide, by decide⟩
    | bottom => exact ⟨'m', by decide, by decide⟩
  exact hword.append [' ']

theorem head?_range {r : PixelRange} : ∀ c ∈ (r.chars ++ rest).head?, isBlank c = false := by
  have hnumeral : ∀ (n : Int) (tail : List Char), ∀ c ∈ (intNumeral n ++ tail).head?,
      isBlank c = false := by
    intro n tail c hc
    rcases head?_intNumeral hc with rfl | hdigit
    · decide
    · exact isBlank_of_isDigit hdigit
  cases r with
  | exactly value =>
      rw [PixelRange.chars, List.append_assoc]
      exact hnumeral value _
  | between low high =>
      rw [PixelRange.chars, List.append_assoc, List.append_assoc, List.append_assoc]
      exact hnumeral low _
  | atLeast low => simp [PixelRange.chars]; decide

theorem trim_location (l : Location) : trim l.chars = l.chars :=
  (endsInWord_location l).trim_eq_self head?_range

/-- Written locations are read back, and nothing is left of them. They hold no comma themselves, so
that cutting at commas gives one piece per location. -/
theorem locations_locationChars {ls : List Location} (hls : ∀ l ∈ ls, l.WellFormed) :
    locations (Constraint.locationChars ls) = .ok ls [] := by
  cases ls with
  | nil => rfl
  | cons first others =>
      have hblank : (Constraint.locationChars (first :: others)).all isBlank = false := by
        obtain ⟨c, hc, hcblank⟩ := endsInWord_location first
        refine List.all_eq_false.mpr ⟨c, ?_, by simp [hcblank]⟩
        simp [Constraint.locationChars, List.mem_of_getLast? hc]
      have hchars : Constraint.locationChars (first :: others)
          = (' ' :: first.chars) ++ (others.map Location.chars).flatMap fun part =>
              ',' :: ([' '] ++ part) := by
        simp [Constraint.locationChars, List.flatMap_map]
      have hsplit : (Constraint.locationChars (first :: others)).splitOn ','
          = (' ' :: first.chars) :: (others.map Location.chars).map ([' '] ++ ·) := by
        rw [hchars]
        exact splitOn_padded _ _ (by decide) (by simpa using comma_not_mem_location first)
          (by simpa using fun l _ => comma_not_mem_location l)
      have hread : ∀ l ∈ first :: others,
          location.result (trim (' ' :: l.chars)) = .ok l := by
        intro l hl
        rw [trim_blank_cons _ (by decide), trim_location, result, location_chars (hls l hl)]
      have hmap : ((Constraint.locationChars (first :: others)).splitOn ',').mapM
          (fun entry => location.result (trim entry)) = .ok (first :: others) := by
        have hentries : (' ' :: first.chars) :: (others.map Location.chars).map ([' '] ++ ·)
            = (first :: others).map (' ' :: ·.chars) := by simp
        have hall := mapM_eq_ok (h := id) hread
        rw [List.map_id] at hall
        rw [hsplit, hentries, List.mapM_map]
        exact hall
      rw [locations, hblank, hmap]
      rfl

/-- A word is read back if it ends there: a blank follows, or nothing does. -/
theorem word_append {name : String} (hname : IsWord name)
    (hrest : ∀ c ∈ rest.head?, isBlank c = true) :
    word (' ' :: (name.toList ++ rest)) = .ok name rest := by
  have hrun : ∀ c ∈ name.toList, (!isBlank c) = true := by simpa using hname.2
  have hstop : ∀ c ∈ rest.head?, (!isBlank c) = false := by simpa using hrest
  have hstart : trimStart (' ' :: (name.toList ++ rest)) = name.toList ++ rest := by
    rw [trimStart_blank_cons _ (by decide)]
    refine trimStart_eq_self fun c hc => hname.2 c ?_
    cases hchars : name.toList with
    | nil => exact absurd hchars hname.1
    | cons d ds =>
        rw [hchars] at hc
        exact List.mem_of_head? (by simpa using hc)
  rw [word, hstart, takeWhile_run hrun hstop, dropWhile_run hrun hstop]
  simp only [List.isEmpty_iff, hname.1, if_false, String.ofList_toList]

theorem quoted_quote (text : String) (rest : List Char) :
    quoted (' ' :: (quote text.toList ++ rest)) = .ok text rest := by
  have hstart : trimStart (' ' :: (quote text.toList ++ rest))
      = '"' :: (escape text.toList ++ '"' :: rest) := by
    rw [trimStart_blank_cons _ (by decide), quote]
    simp only [List.cons_append, List.append_assoc, List.nil_append]
    exact trimStart_eq_self (by simp; decide)
  simp only [quoted, hstart, unquote_escape, String.ofList_toList]

end LayoutSpec.TokenReader
