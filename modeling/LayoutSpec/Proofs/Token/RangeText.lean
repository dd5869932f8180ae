import LayoutSpec.Proofs.Token.Basic

/-!
What a range expression means. Blanks between its tokens and zeros before its digits do not count.
One number stands for itself, two for the values between them, a tolerance for the values that are
at most as far away, and a bound for the values from there on. The one expression that does not mean
what it says is `>` before the greatest pixel number, which accepts that number.
-/

namespace LayoutSpec

open Text

namespace Text

theorem isLetter_of_isDigit {c : Char} (h : c.isDigit = true) : isLetter c = false := by
  simp only [Char.isDigit, Bool.and_eq_true, decide_eq_true_eq, UInt32.le_iff_toNat_le,
    ge_iff_le] at h
  change 48 ≤ c.toNat ∧ c.toNat ≤ 57 at h
  have htable : ∀ n < 58, 48 ≤ n → isLetter (Char.ofNat n) = false := by decide
  have hchar := htable c.toNat (by omega) h.1
  rwa [Char.ofNat_toNat] at hchar

/-- No blank is a letter. -/
theorem isLetter_of_isBlank {c : Char} (h : isBlank c = true) : isLetter c = false := by
  have htable : ∀ n ∈ [9, 10, 11, 12, 13, 0x20, 0x85, 0xA0, 0x1680, 0x2000, 0x2001, 0x2002, 0x2003,
      0x2004, 0x2005, 0x2006, 0x2007, 0x2008, 0x2009, 0x200A, 0x2028, 0x2029, 0x202F, 0x205F,
      0x3000],
      isLetter (Char.ofNat n) = false := by
    decide +kernel
  have hchar := htable c.toNat (by
    simp only [isBlank, Bool.or_eq_true, Bool.and_eq_true, decide_eq_true_eq, beq_iff_eq] at h
    simp only [List.mem_cons, List.not_mem_nil, or_false]
    omega)
  rwa [Char.ofNat_toNat] at hchar

end Text

structure Padding where
  chars : List Char
  blank : ∀ c ∈ chars, isBlank c = true

instance : Inhabited Padding := ⟨⟨[], by simp⟩⟩

def Padding.single (c : Char) (h : isBlank c = true) : Padding :=
  ⟨[c], by simpa using h⟩

/-- A number as a line states it: with a minus sign and blanks behind it or without, and with any
number of zeros before its digits. -/
structure NumberText where
  minus : Option Padding
  zeros : Nat
  magnitude : Nat

namespace NumberText

def value (n : NumberText) : Int :=
  match n.minus with
  | none => n.magnitude
  | some _ => -n.magnitude

def digits (n : NumberText) : List Char :=
  List.replicate n.zeros '0' ++ natNumeral n.magnitude

def chars (n : NumberText) : List Char :=
  match n.minus with
  | none => n.digits
  | some gap => '-' :: (gap.chars ++ n.digits)

end NumberText

/-- The numbers of a range and what stands between them. -/
inductive RangeBounds where
  | exactly (n : NumberText)
  | between (a : NumberText) (before after : Padding) (b : NumberText)
  /-- A number and a tolerance, with the sign `±` or spelled in ASCII. -/
  | around (ascii : Bool) (a : NumberText) (before after : Padding) (b : NumberText)
  | atLeast (gap : Padding) (n : NumberText)

namespace RangeBounds

def chars : RangeBounds → List Char
  | exactly n => n.chars
  | between a before after b =>
    a.chars ++ (before.chars ++ ("to".toList ++ (after.chars ++ b.chars)))
  | around ascii a before after b =>
    a.chars ++ (before.chars ++ ((if ascii then "+-" else "±").toList ++ (after.chars ++ b.chars)))
  | atLeast gap n => ">=".toList ++ (gap.chars ++ n.chars)

/-- The values that the range should accept. -/
def Admits : RangeBounds → Int → Prop
  | exactly n, x => x = n.value
  | between a _ _ b, x => min a.value b.value ≤ x ∧ x ≤ max a.value b.value
  | around _ a _ _ b, x => (x - a.value).natAbs ≤ b.value.natAbs
  | atLeast _ n, x => n.value ≤ x

/-- Every number is a pixel number, and so are the ends of a tolerance. -/
def Fits : RangeBounds → Prop
  | exactly n | atLeast _ n => isPixel n.value = true
  | between a _ _ b => isPixel a.value = true ∧ isPixel b.value = true
  | around _ a _ _ b => isPixel a.value = true ∧ isPixel b.value = true ∧
      isPixel (a.value - b.value) = true ∧ isPixel (a.value + b.value) = true

instance (b : RangeBounds) : Decidable b.Fits :=
  match b with
  | exactly n | atLeast _ n => inferInstanceAs (Decidable (isPixel n.value = true))
  | between .. => inferInstanceAs (Decidable (_ ∧ _))
  | around .. => inferInstanceAs (Decidable (_ ∧ _ ∧ _ ∧ _))

end RangeBounds

/-- What stands around the bounds of a range: blanks, and at last the unit and what follows it,
unless the text ends without a unit. -/
structure RangeFrame where
  lead : Padding
  trail : Padding
  unit : Option (List Char)

namespace RangeFrame

/-- The unit and what follows it. -/
def tail (f : RangeFrame) : List Char :=
  match f.unit with
  | none => []
  | some after => "px".toList ++ after

def surround (f : RangeFrame) (cs : List Char) : List Char :=
  f.lead.chars ++ (cs ++ (f.trail.chars ++ f.tail))

/-- What should be left behind the range. A word that only starts like the unit is no unit. -/
def unread (f : RangeFrame) : List Char :=
  match f.unit with
  | none => []
  | some after => if after.head?.any isLetter then "px".toList ++ after else after

end RangeFrame

namespace TokenReader

variable {α β : Type} {cs rest mid : List Char} {r : PixelRange}

/-- The reader stops with an error. -/
def Fails (reader : TokenReader α) (cs : List Char) : Prop :=
  ∃ cause left, reader cs = .error cause left

theorem Fails.of_eq {reader other : TokenReader α} {ds : List Char} (h : reader cs = other ds)
    (hother : Fails other ds) : Fails reader cs := by
  obtain ⟨cause, left, hcause⟩ := hother
  exact ⟨cause, left, h.trans hcause⟩

theorem Fails.bind {reader : TokenReader α} (h : Fails reader cs) (f : α → TokenReader β) :
    Fails (reader >>= f) cs := by
  obtain ⟨cause, left, hcause⟩ := h
  exact ⟨cause, left, by rw [run_bind, hcause]⟩

theorem trimStart_padding (pad : Padding) (h : ∀ c ∈ cs.head?, isBlank c = false) :
    trimStart (pad.chars ++ cs) = cs := by
  rw [trimStart_append cs pad.blank, trimStart_eq_self h]

/-- Behind blanks comes the first character that is none, or they end the text. -/
theorem head?_padding {p : Char → Prop} (pad : Padding) (hblank : ∀ c, isBlank c = true → p c)
    (hcs : ∀ c ∈ cs.head?, p c) : ∀ c ∈ (pad.chars ++ cs).head?, p c := by
  intro c hc
  cases hchars : pad.chars with
  | nil => exact hcs c (by simpa [hchars] using hc)
  | cons d ds =>
      obtain rfl : d = c := by simpa [hchars] using hc
      exact hblank d (pad.blank d (by simp [hchars]))

theorem isDigit_head?_padding (pad : Padding) (h : ∀ c ∈ cs.head?, c.isDigit = false) :
    ∀ c ∈ (pad.chars ++ cs).head?, c.isDigit = false := by
  refine head?_padding pad (fun c hblank => ?_) h
  by_contra hdigit
  rw [isBlank_of_isDigit (by simpa using hdigit)] at hblank
  cases hblank

theorem isDigit_of_mem_digits {n : NumberText} {c : Char} (h : c ∈ n.digits) :
    c.isDigit = true := by
  rcases List.mem_append.mp h with h | h
  · obtain rfl := List.eq_of_mem_replicate h
    decide
  · exact isDigit_of_mem_natNumeral h

theorem digits_ne_nil (n : NumberText) : n.digits ≠ [] :=
  List.append_ne_nil_of_right_ne_nil _ (natNumeral_ne_nil n.magnitude)

/-- Zeros before a numeral do not count. -/
theorem natOfDigits_digits (n : NumberText) : natOfDigits n.digits = n.magnitude := by
  rw [natOfDigits, NumberText.digits, Nat.ofDigitChars_append, Nat.ofDigitChars_replicate_zero,
    Nat.mul_zero]
  exact natOfDigits_natNumeral n.magnitude

theorem head?_digits {n : NumberText} {c : Char} (h : c ∈ (n.digits ++ rest).head?) :
    c.isDigit = true := by
  cases hdigits : n.digits with
  | nil => exact absurd hdigits (digits_ne_nil n)
  | cons d ds =>
      obtain rfl : d = c := by simpa [hdigits] using h
      exact isDigit_of_mem_digits (n := n) (by simp [hdigits])

/-- A number starts with its sign or with a digit. -/
theorem head?_numberText {n : NumberText} {c : Char} (h : c ∈ (n.chars ++ rest).head?) :
    c = '-' ∨ c.isDigit = true := by
  rw [NumberText.chars] at h
  split at h
  · exact Or.inr (head?_digits h)
  · exact Or.inl (by simpa using h.symm)

theorem isBlank_head?_numberText (n : NumberText) :
    ∀ c ∈ (n.chars ++ rest).head?, isBlank c = false := by
  intro c hc
  rcases head?_numberText hc with rfl | hdigit
  · decide
  · exact isBlank_of_isDigit hdigit

theorem isLetter_head?_numberText (n : NumberText) :
    ∀ c ∈ (n.chars ++ rest).head?, isLetter c = false := by
  intro c hc
  rcases head?_numberText hc with rfl | hdigit
  · decide
  · exact isLetter_of_isDigit hdigit

/-- The digits of a number are read up to the first character that is none. -/
theorem digits_numberText {negative : Bool} {n : NumberText} {value : Int}
    (hvalue : (if negative then -(n.magnitude : Int) else n.magnitude) = value)
    (hrest : ∀ c ∈ rest.head?, c.isDigit = false) :
    digits negative (n.digits ++ rest) = match pixel? value with
      | some value => .ok value rest
      | none => .error (.numberOutOfRange
          (String.ofList (if negative then '-' :: n.digits else n.digits))) rest := by
  have hrun : ∀ c ∈ n.digits, c.isDigit = true := fun c hc => isDigit_of_mem_digits hc
  rw [digits, takeWhile_run hrun hrest, dropWhile_run hrun hrest]
  cases hpixel : pixel? value <;>
    simp only [List.isEmpty_iff, digits_ne_nil, if_false, natOfDigits_digits, hvalue, hpixel]

/-- Behind blanks a number is read up to the first character that is no digit, or fails if it is no
pixel number. -/
theorem number_numberText (pad : Padding) (n : NumberText)
    (hrest : ∀ c ∈ rest.head?, c.isDigit = false) :
    number (pad.chars ++ (n.chars ++ rest)) = match pixel? n.value with
      | some value => .ok value rest
      | none => .error (.numberOutOfRange (String.ofList
          (if n.minus.isSome then '-' :: n.digits else n.digits))) rest := by
  have hdigit : ∀ c ∈ (n.digits ++ rest).head?, isBlank c = false :=
    fun c hc => isBlank_of_isDigit (head?_digits hc)
  rw [number, bind_eq_ok (skipBlanks_eq _), trimStart_padding pad (isBlank_head?_numberText n)]
  cases hminus : n.minus with
  | none =>
      have hsign : ∀ c ∈ (n.digits ++ rest).head?, "-".toList.head? ≠ some c := by
        intro c hc hsome
        obtain rfl : '-' = c := by simpa using hsome
        exact absurd (head?_digits hc) (by decide)
      have hchars : n.chars = n.digits := by rw [NumberText.chars, hminus]
      have hvalue : n.value = n.magnitude := by rw [NumberText.value, hminus]
      rw [hchars, hvalue, bind_eq_ok (symbol_eq_false (by decide) hsign),
        bind_eq_ok (skipBlanks_eq _), trimStart_eq_self hdigit]
      exact digits_numberText rfl hrest
  | some gap =>
      have hchars : n.chars ++ rest = "-".toList ++ (gap.chars ++ (n.digits ++ rest)) := by
        rw [NumberText.chars, hminus]
        simp
      have hvalue : n.value = -n.magnitude := by rw [NumberText.value, hminus]
      rw [hchars, hvalue, bind_eq_ok (symbol_append "-" _), bind_eq_ok (skipBlanks_eq _),
        trimStart_padding gap hdigit]
      exact digits_numberText rfl hrest

theorem number_eq_ok {n : NumberText} (pad : Padding) (h : isPixel n.value = true)
    (hrest : ∀ c ∈ rest.head?, c.isDigit = false) :
    number (pad.chars ++ (n.chars ++ rest)) = .ok n.value rest := by
  rw [number_numberText pad n hrest, pixel?, if_pos h]

theorem number_fails {n : NumberText} (pad : Padding) (h : ¬ isPixel n.value = true)
    (hrest : ∀ c ∈ rest.head?, c.isDigit = false) :
    Fails number (pad.chars ++ (n.chars ++ rest)) := by
  rw [Fails, number_numberText pad n hrest, pixel?, if_neg h]
  exact ⟨_, _, rfl⟩

/-- The part of a range between its first two numbers. -/
theorem rangeFrom_padding_to (first : Int) (before : Padding)
    (h : ∀ c ∈ cs.head?, isLetter c = false) :
    rangeFrom first (before.chars ++ ("to".toList ++ cs))
      = (number >>= fun value => pure (PixelRange.ordered first value)) cs := by
  have hstart : trimStart (before.chars ++ ("to".toList ++ cs)) = "to".toList ++ cs :=
    trimStart_padding before (by simp; decide)
  rw [rangeFrom, bind_eq_ok (skipBlanks_eq _), hstart, bind_eq_ok (keyword_append h)]
  simp only [if_true]

theorem isDigit_head?_sign (ascii : Bool) (cs : List Char) :
    ∀ c ∈ ((if ascii then "+-" else "±").toList ++ cs).head?, c.isDigit = false := by
  cases ascii <;> simp

theorem rangeFrom_padding_sign (ascii : Bool) (first : Int) (before : Padding) (cs : List Char) :
    rangeFrom first (before.chars ++ ((if ascii then "+-" else "±").toList ++ cs))
      = (number >>= rangeFrom.within first) cs := by
  cases ascii with
  | false =>
      have hstart : trimStart (before.chars ++ ("±".toList ++ cs)) = "±".toList ++ cs :=
        trimStart_padding before (by simp; decide)
      simp only [Bool.false_eq_true, if_false]
      rw [rangeFrom, bind_eq_ok (skipBlanks_eq _), hstart,
        bind_eq_ok (keyword_eq_false (by decide) (by simp))]
      simp only [Bool.false_eq_true, if_false]
      rw [bind_eq_ok (symbol_append "±" cs)]
      simp only [if_true]
  | true =>
      have hstart : trimStart (before.chars ++ ("+-".toList ++ cs)) = "+-".toList ++ cs :=
        trimStart_padding before (by simp; decide)
      simp only [if_true]
      rw [rangeFrom, bind_eq_ok (skipBlanks_eq _), hstart,
        bind_eq_ok (keyword_eq_false (by decide) (by simp))]
      simp only [Bool.false_eq_true, if_false]
      rw [bind_eq_ok (symbol_eq_false (by decide) (by simp))]
      simp only [Bool.false_eq_true, if_false]
      rw [bind_eq_ok (symbol_append "+-" cs)]
      simp only [if_true]

/-- Before the unit, or at the end of the text, a number stands for itself. Any other sign behind it
would be that of another form of ranges. -/
theorem rangeFrom_end (first : Int) (h : ∀ c ∈ (trimStart cs).head?, c = 'p') :
    rangeFrom first cs = .ok (.exactly first) (trimStart cs) := by
  have hhead : ∀ {s : String}, s.toList.head? ≠ some 'p' →
      ∀ c ∈ (trimStart cs).head?, s.toList.head? ≠ some c := by
    intro s hs c hc
    rwa [h c hc]
  rw [rangeFrom, bind_eq_ok (skipBlanks_eq _),
    bind_eq_ok (keyword_eq_false (by decide) (hhead (by decide)))]
  simp only [Bool.false_eq_true, if_false]
  rw [bind_eq_ok (symbol_eq_false (by decide) (hhead (by decide)))]
  simp only [Bool.false_eq_true, if_false]
  rw [bind_eq_ok (symbol_eq_false (by decide) (hhead (by decide)))]
  rfl

theorem bounds_numberText (pad : Padding) (n : NumberText) :
    bounds (pad.chars ++ (n.chars ++ rest))
      = (number >>= rangeFrom) ((default : Padding).chars ++ (n.chars ++ rest)) := by
  have hmore : ∀ {s : String}, s.toList.head? = some '>' →
      ∀ c ∈ (n.chars ++ rest).head?, s.toList.head? ≠ some c := by
    intro s hs c hc hsome
    obtain rfl : '>' = c := Option.some.inj (hs.symm.trans hsome)
    rcases head?_numberText hc with heq | hdigit
    · exact absurd heq (by decide)
    · exact absurd hdigit (by decide)
  rw [bounds, bind_eq_ok (skipBlanks_eq _), trimStart_padding pad (isBlank_head?_numberText n),
    bind_eq_ok (symbol_eq_false (by decide) (hmore (by decide)))]
  simp only [Bool.false_eq_true, if_false]
  rw [bind_eq_ok (symbol_eq_false (by decide) (hmore (by decide)))]
  rfl

theorem bounds_padding_atLeast (pad : Padding) (cs : List Char) :
    bounds (pad.chars ++ (">=".toList ++ cs))
      = (number >>= fun value => pure (PixelRange.atLeast value)) cs := by
  have hstart : trimStart (pad.chars ++ (">=".toList ++ cs)) = ">=".toList ++ cs :=
    trimStart_padding pad (by simp; decide)
  rw [bounds, bind_eq_ok (skipBlanks_eq _), hstart, bind_eq_ok (symbol_append ">=" cs)]
  simp only [if_true]

theorem bounds_padding_above (pad : Padding) (h : ∀ c ∈ cs.head?, c ≠ '=') :
    bounds (pad.chars ++ (">".toList ++ cs))
      = (number >>= fun value => pure (PixelRange.atLeast (min (value + 1) maxPixel))) cs := by
  have hstart : trimStart (pad.chars ++ (">".toList ++ cs)) = ">".toList ++ cs :=
    trimStart_padding pad (by simp; decide)
  have hequals : symbol ">=" (">".toList ++ cs) = .ok false (">".toList ++ cs) := by
    cases cs with
    | nil => rfl
    | cons c cs =>
        have hc : c ≠ '=' := h c rfl
        simp [symbol, stripStart?, List.isPrefixOf, hc.symm]
  rw [bounds, bind_eq_ok (skipBlanks_eq _), hstart, bind_eq_ok hequals]
  simp only [Bool.false_eq_true, if_false]
  rw [bind_eq_ok (symbol_append ">" cs)]
  simp only [if_true]

theorem head?_tail (f : RangeFrame) : ∀ c ∈ f.tail.head?, c = 'p' := by
  intro c hc
  rw [RangeFrame.tail] at hc
  split at hc
  · cases hc
  · simpa using hc.symm

theorem trimStart_trail (f : RangeFrame) : trimStart (f.trail.chars ++ f.tail) = f.tail := by
  refine trimStart_padding f.trail fun c hc => ?_
  rw [head?_tail f c hc]
  decide

theorem isDigit_head?_trail (f : RangeFrame) :
    ∀ c ∈ (f.trail.chars ++ f.tail).head?, c.isDigit = false := by
  refine isDigit_head?_padding f.trail fun c hc => ?_
  rw [head?_tail f c hc]
  decide

/-- Behind its bounds a range takes in its unit and leaves the rest. A word that only starts like
the unit is left, too. -/
theorem range_of_bounds_frame (f : RangeFrame) (h : bounds cs = .ok r mid)
    (hmid : trimStart mid = f.tail) : range cs = .ok r f.unread := by
  have hunit : ∃ isUnit, keyword "px" f.tail = .ok isUnit f.unread := by
    cases hcase : f.unit with
    | none =>
        rw [RangeFrame.tail, RangeFrame.unread, hcase]
        exact ⟨false, rfl⟩
    | some after =>
        rw [RangeFrame.tail, RangeFrame.unread, hcase]
        simp only [keyword, stripStart?_append]
        split
        · exact ⟨false, rfl⟩
        · exact ⟨true, rfl⟩
  obtain ⟨isUnit, hunit⟩ := hunit
  rw [range, bind_eq_ok h, bind_eq_ok (skipBlanks_eq _), hmid, bind_eq_ok hunit]
  rfl

theorem range_fails (h : Fails bounds cs) : Fails range cs :=
  h.bind _

theorem holds_ordered (a b x : Int) :
    (PixelRange.ordered a b).holds x = true ↔ min a b ≤ x ∧ x ≤ max a b := by
  simp [PixelRange.ordered, PixelRange.holds]

/-- The values between the ends of a tolerance are those that are at most as far away. -/
theorem holds_around (a b x : Int) :
    (PixelRange.ordered (a - b) (a + b)).holds x = true ↔ (x - a).natAbs ≤ b.natAbs := by
  rw [holds_ordered]
  omega

theorem around?_eq_some {a b : Int} (hlow : isPixel (a - b) = true)
    (hhigh : isPixel (a + b) = true) :
    PixelRange.around? a b = some (.ordered (a - b) (a + b)) := by
  simp [PixelRange.around?, pixel?, hlow, hhigh]

theorem around?_eq_none {a b : Int}
    (h : ¬ (isPixel (a - b) = true ∧ isPixel (a + b) = true)) : PixelRange.around? a b = none := by
  by_cases hlow : isPixel (a - b) = true
  · have hhigh : ¬ isPixel (a + b) = true := fun hhigh => h ⟨hlow, hhigh⟩
    simp [PixelRange.around?, pixel?, hlow, hhigh]
  · simp [PixelRange.around?, pixel?, hlow]

section Bounds

variable (f : RangeFrame) {a b : NumberText} (before after : Padding)

theorem bounds_between (ha : isPixel a.value = true) :
    bounds (f.surround (RangeBounds.between a before after b).chars)
      = (number >>= fun value => pure (PixelRange.ordered a.value value))
          (after.chars ++ (b.chars ++ (f.trail.chars ++ f.tail))) := by
  have hword : ∀ c ∈ (after.chars ++ (b.chars ++ (f.trail.chars ++ f.tail))).head?,
      isLetter c = false :=
    head?_padding after (fun c hc => isLetter_of_isBlank hc) (isLetter_head?_numberText b)
  simp only [RangeFrame.surround, RangeBounds.chars, List.append_assoc]
  rw [bounds_numberText, bind_eq_ok (number_eq_ok default ha
    (isDigit_head?_padding before (by simp))), rangeFrom_padding_to a.value before hword]

theorem bounds_around (ascii : Bool) (ha : isPixel a.value = true) :
    bounds (f.surround (RangeBounds.around ascii a before after b).chars)
      = (number >>= rangeFrom.within a.value)
          (after.chars ++ (b.chars ++ (f.trail.chars ++ f.tail))) := by
  simp only [RangeFrame.surround, RangeBounds.chars, List.append_assoc]
  rw [bounds_numberText, bind_eq_ok (number_eq_ok default ha
    (isDigit_head?_padding before (isDigit_head?_sign ascii _))),
    rangeFrom_padding_sign ascii a.value before]

/-- Bounds that fit are read as a range that accepts what they admit. There is one case for each
form; a tolerance is compared by its two ends. -/
theorem exists_bounds {b : RangeBounds} (h : b.Fits) :
    ∃ r mid, bounds (f.surround b.chars) = .ok r mid ∧ trimStart mid = f.tail ∧
      ∀ x, r.holds x = true ↔ b.Admits x := by
  have hend := isDigit_head?_trail f
  cases b with
  | exactly n =>
      refine ⟨.exactly n.value, f.tail, ?_, ?_,
        fun x => by simp [PixelRange.holds, RangeBounds.Admits]⟩
      · have hunit : ∀ c ∈ (trimStart (f.trail.chars ++ f.tail)).head?, c = 'p' := by
          rw [trimStart_trail]
          exact head?_tail f
        rw [RangeFrame.surround, RangeBounds.chars, bounds_numberText,
          bind_eq_ok (number_eq_ok default h hend), rangeFrom_end n.value hunit, trimStart_trail]
      · exact trimStart_eq_self fun c hc => by rw [head?_tail f c hc]; decide
  | between a before after b =>
      obtain ⟨ha, hb⟩ := h
      refine ⟨.ordered a.value b.value, f.trail.chars ++ f.tail, ?_, trimStart_trail f,
        holds_ordered a.value b.value⟩
      rw [bounds_between f before after ha, bind_eq_ok (number_eq_ok after hb hend)]
      rfl
  | around ascii a before after b =>
      obtain ⟨ha, hb, hlow, hhigh⟩ := h
      refine ⟨.ordered (a.value - b.value) (a.value + b.value), f.trail.chars ++ f.tail, ?_,
        trimStart_trail f, holds_around a.value b.value⟩
      rw [bounds_around f before after ascii ha, bind_eq_ok (number_eq_ok after hb hend),
        rangeFrom.within, around?_eq_some hlow hhigh]
      rfl
  | atLeast gap n =>
      refine ⟨.atLeast n.value, f.trail.chars ++ f.tail, ?_, trimStart_trail f, fun x => by
        simp [PixelRange.holds, RangeBounds.Admits]⟩
      rw [RangeFrame.surround, RangeBounds.chars, List.append_assoc, List.append_assoc,
        bounds_padding_atLeast, bind_eq_ok (number_eq_ok gap h hend)]
      rfl

/-- Bounds that do not fit are no range. A number that is no pixel number is refused where it is
read, and a tolerance where its ends are computed. -/
theorem bounds_fails {b : RangeBounds} (h : ¬ b.Fits) : Fails bounds (f.surround b.chars) := by
  have hend := isDigit_head?_trail f
  cases b with
  | exactly n =>
      refine .of_eq (bounds_numberText f.lead n) ?_
      exact (number_fails default h hend).bind _
  | between a before after b =>
      by_cases ha : isPixel a.value = true
      · have hb : ¬ isPixel b.value = true := fun hb => h ⟨ha, hb⟩
        refine .of_eq (bounds_between f before after ha) ?_
        exact (number_fails after hb hend).bind _
      · simp only [RangeFrame.surround, RangeBounds.chars, List.append_assoc]
        refine .of_eq (bounds_numberText f.lead a) ?_
        exact (number_fails default ha (isDigit_head?_padding before (by simp))).bind _
  | around ascii a before after b =>
      by_cases ha : isPixel a.value = true
      · refine .of_eq (bounds_around f before after ascii ha) ?_
        by_cases hb : isPixel b.value = true
        · have hends :
              ¬ (isPixel (a.value - b.value) = true ∧ isPixel (a.value + b.value) = true) :=
            fun hends => h ⟨ha, hb, hends⟩
          refine .of_eq (bind_eq_ok (number_eq_ok after hb hend)) ?_
          rw [Fails, rangeFrom.within, around?_eq_none hends]
          exact ⟨_, _, rfl⟩
        · exact (number_fails after hb hend).bind _
      · simp only [RangeFrame.surround, RangeBounds.chars, List.append_assoc]
        refine .of_eq (bounds_numberText f.lead a) ?_
        exact (number_fails default ha
          (isDigit_head?_padding before (isDigit_head?_sign ascii _))).bind _
  | atLeast gap n =>
      simp only [RangeFrame.surround, RangeBounds.chars, List.append_assoc]
      refine .of_eq (bounds_padding_atLeast f.lead _) ?_
      exact (number_fails gap h hend).bind _

end Bounds

/-- A range expression whose numbers fit is read as a range that accepts exactly the values that it
admits over the integers, and what follows its unit is left unread. If a number, or an end of a
tolerance, is no pixel number, then it is an error. -/
theorem range_admits (f : RangeFrame) (b : RangeBounds) :
    (b.Fits → ∃ r, range (f.surround b.chars) = .ok r f.unread ∧
        ∀ x, r.holds x = true ↔ b.Admits x) ∧
      (¬ b.Fits → Fails range (f.surround b.chars)) := by
  constructor
  · intro h
    obtain ⟨r, mid, hbounds, hmid, hadmits⟩ := exists_bounds f h
    exact ⟨r, range_of_bounds_frame f hbounds hmid, hadmits⟩
  · intro h
    exact range_fails (bounds_fails f h)

/-- The tail of a location: a blank, the unit and a side. -/
def sideFrame : RangeFrame :=
  ⟨.single '\t' rfl, .single ' ' rfl, some " top".toList⟩

/-- Seven with zeros before it, and a negative tolerance with a blank behind its sign. -/
def paddedTolerance : RangeBounds :=
  .around false ⟨none, 2, 7⟩ (.single ' ' rfl) default ⟨some (.single ' ' rfl), 0, 3⟩

/-- One more than the greatest number. -/
def wideTolerance : RangeBounds :=
  .around true ⟨none, 0, 2147483647⟩ default default ⟨none, 0, 1⟩

theorem range_admits_paddedTolerance :
    (∃ r, range "\t007 ±- 3 px top".toList = .ok r " top".toList ∧
        ∀ x : Int, r.holds x = true ↔ (x - 7).natAbs ≤ 3) ∧
      Fails range "\t2147483647+-1 px top".toList := by
  have htext : sideFrame.surround paddedTolerance.chars = "\t007 ±- 3 px top".toList := by
    decide +kernel
  have hwide : sideFrame.surround wideTolerance.chars = "\t2147483647+-1 px top".toList := by
    decide +kernel
  rw [← htext, ← hwide]
  exact ⟨(range_admits sideFrame paddedTolerance).1 (by decide),
    (range_admits sideFrame wideTolerance).2 (by decide)⟩

/-- A number that a bound is strictly above. -/
def aboveChars (gap : Padding) (n : NumberText) : List Char :=
  ">".toList ++ (gap.chars ++ n.chars)

section Above

variable (f : RangeFrame) (gap : Padding) (n : NumberText)

theorem bounds_above :
    bounds (f.surround (aboveChars gap n))
      = (number >>= fun value => pure (PixelRange.atLeast (min (value + 1) maxPixel)))
          (gap.chars ++ (n.chars ++ (f.trail.chars ++ f.tail))) := by
  have hequals : ∀ c ∈ (gap.chars ++ (n.chars ++ (f.trail.chars ++ f.tail))).head?, c ≠ '=' := by
    refine head?_padding gap ?_ ?_
    · rintro c hblank rfl
      exact absurd hblank (by decide)
    · rintro c hc rfl
      rcases head?_numberText hc with heq | hdigit
      · exact absurd heq (by decide)
      · exact absurd hdigit (by decide)
  simp only [RangeFrame.surround, aboveChars, List.append_assoc]
  exact bounds_padding_above f.lead hequals

/-- The bound above a number is the next one, or the greatest pixel number itself. -/
theorem holds_above {a : Int} (ha : isPixel a = true) (x : Int) :
    (PixelRange.atLeast (min (a + 1) maxPixel)).holds x = true
      ↔ a < x ∨ a = maxPixel ∧ a ≤ x := by
  rw [isPixel, Bool.and_eq_true, decide_eq_true_eq, decide_eq_true_eq] at ha
  rw [PixelRange.holds, decide_eq_true_eq]
  omega

theorem bounds_above_eq_ok (h : isPixel n.value = true) :
    bounds (f.surround (aboveChars gap n))
      = .ok (.atLeast (min (n.value + 1) maxPixel)) (f.trail.chars ++ f.tail) := by
  rw [bounds_above, bind_eq_ok (number_eq_ok gap h (isDigit_head?_trail f))]
  rfl

/-- `>` before a number is read as a range, and so is `>=`. It is strict, and leaves out just the
number itself, unless that is the greatest pixel number: then both accept the same values. Before a
number that is no pixel number it is an error. -/
theorem range_above :
    (isPixel n.value = true → ∃ r s,
        range (f.surround (aboveChars gap n)) = .ok r f.unread ∧
        range (f.surround (RangeBounds.atLeast gap n).chars) = .ok s f.unread ∧
        ((∀ x, isPixel x = true → (r.holds x = true ↔ n.value < x)) ↔ n.value ≠ maxPixel) ∧
        ((∀ x, isPixel x = true → (r.holds x = true ↔ s.holds x = true ∧ x ≠ n.value))
          ↔ n.value ≠ maxPixel) ∧
        (n.value = maxPixel → ∀ x, r.holds x = s.holds x)) ∧
      (¬ isPixel n.value = true → Fails range (f.surround (aboveChars gap n))) := by
  constructor
  · intro h
    have hfits : (RangeBounds.atLeast gap n).Fits := h
    have hmax : isPixel maxPixel = true := by decide
    obtain ⟨s, mid, hs, hmid, hadmits⟩ := exists_bounds f hfits
    refine ⟨_, s, range_of_bounds_frame f (bounds_above_eq_ok f gap n h) (trimStart_trail f),
      range_of_bounds_frame f hs hmid, ?_, ?_, ?_⟩
    · constructor
      · intro hstrict heq
        have hgreatest := (hstrict maxPixel hmax).mp ((holds_above h _).mpr (by omega))
        omega
      · intro hne x _
        rw [holds_above h]
        omega
    · constructor
      · intro hleaves heq
        have hgreatest := (hleaves maxPixel hmax).mp ((holds_above h _).mpr (by omega))
        exact hgreatest.2 heq.symm
      · intro hne x _
        rw [holds_above h, hadmits, RangeBounds.Admits]
        omega
    · intro heq x
      rw [Bool.eq_iff_iff, holds_above h, hadmits, RangeBounds.Admits]
      omega
  · intro h
    refine range_fails (.of_eq (bounds_above f gap n) ?_)
    exact (number_fails gap h (isDigit_head?_trail f)).bind _

end Above

/-- A text that ends with the unit. -/
def unitFrame : RangeFrame :=
  ⟨default, default, some []⟩

theorem range_above_lesser :
    ∃ r, range "> 2147483646px".toList = .ok r [] ∧
      ∀ x, isPixel x = true → (r.holds x = true ↔ 2147483646 < x) := by
  have htext : unitFrame.surround (aboveChars (.single ' ' rfl) ⟨none, 0, 2147483646⟩)
      = "> 2147483646px".toList := by
    decide +kernel
  obtain ⟨r, s, hr, -, hstrict, -, -⟩ :=
    (range_above unitFrame (.single ' ' rfl) ⟨none, 0, 2147483646⟩).1 (by decide)
  rw [htext] at hr
  exact ⟨r, hr, hstrict.mpr (by decide)⟩

/-- Before the greatest pixel number `>` is not strict. -/
theorem range_above_greatest :
    ∃ r, range "> 2147483647px".toList = .ok r [] ∧ isPixel 2147483647 = true ∧
      r.holds 2147483647 = true := by
  have htext : unitFrame.surround (aboveChars (.single ' ' rfl) ⟨none, 0, 2147483647⟩)
      = "> 2147483647px".toList := by
    decide +kernel
  rw [← htext]
  refine ⟨_, range_of_bounds_frame unitFrame (bounds_above_eq_ok unitFrame _ _ (by decide))
    (trimStart_trail unitFrame), by decide, ?_⟩
  decide

end TokenReader

end LayoutSpec
