import LayoutSpec.Proofs.Text.ArgumentMarks
import LayoutSpec.Proofs.Token.Basic
import LayoutSpec.Size
import Mathlib.Data.Option.Basic

/-!
Window sizes that are written and read again.
-/

namespace LayoutSpec.Size

open Text

variable {s : Size} {text : List Char} {n : Nat}

/-- Both sides have 32 bits. -/
def Fits (s : Size) : Prop :=
  s.width < 4294967296 ∧ s.height < 4294967296

theorem lt_of_side? (h : side? text = some n) : n < 4294967296 := by
  unfold side? at h
  obtain ⟨m, -, h⟩ := Option.bind_eq_some_iff.mp h
  obtain ⟨_, hguard, h⟩ := Option.bind_eq_some_iff.mp h
  obtain rfl := Option.some.inj h
  exact (Option.guard_eq_some' _).mp hguard

theorem fits_of_parse (h : parse text = .ok s) : s.Fits := by
  rw [parse] at h
  split at h
  · next size hsize =>
    obtain rfl := Except.ok.inj h
    obtain ⟨⟨width, height⟩, -, hsize⟩ := Option.bind_eq_some_iff.mp hsize
    obtain ⟨w, hw, hsize⟩ := Option.bind_eq_some_iff.mp hsize
    obtain ⟨h, hh, hsize⟩ := Option.bind_eq_some_iff.mp hsize
    obtain rfl := Option.some.inj hsize
    exact ⟨lt_of_side? hw, lt_of_side? hh⟩
  · cases h

theorem side?_natNumeral (h : n < 4294967296) : side? (natNumeral n) = some n := by
  have hdigits : ∀ c ∈ natNumeral n, c.isDigit = true := fun c hc => isDigit_of_mem_natNumeral hc
  have hplus : ∀ rest, natNumeral n ≠ '+' :: rest := by
    intro rest heq
    have hplus := hdigits '+' (by simp [heq])
    exact absurd hplus (by decide)
  have hnat : nat? (natNumeral n) = some n := by
    have hall : (natNumeral n).all Char.isDigit = true := List.all_eq_true.mpr hdigits
    rw [nat?, hall, natOfDigits_natNumeral]
    simp [natNumeral_ne_nil]
  have hguard : guard (n < 4294967296) = some () := (Option.guard_eq_some' _).mpr h
  rw [side?]
  · simp [hnat, hguard]
  · exact hplus

theorem isMark_of_isDigit {c : Char} (h : c.isDigit = true) : isMark c = false := by
  have hquote : isQuote c = false := by
    rw [isQuote, Bool.or_eq_false_iff, decide_eq_false_iff_not, decide_eq_false_iff_not]
    constructor <;> rintro rfl <;> exact absurd h (by decide)
  rw [isMark, isBlank_of_isDigit h, hquote]
  rfl

/-- A size is written without blanks and quotes. -/
theorem isMark_of_mem_chars {c : Char} (h : c ∈ s.chars) : isMark c = false := by
  rw [chars, List.mem_append, List.mem_cons] at h
  rcases h with h | rfl | h
  · exact isMark_of_isDigit (isDigit_of_mem_natNumeral h)
  · decide
  · exact isMark_of_isDigit (isDigit_of_mem_natNumeral h)

theorem isPlainArgument_chars : isPlainArgument s.chars = true := by
  have hne : s.chars ≠ [] := List.append_ne_nil_of_right_ne_nil _ (List.cons_ne_nil _ _)
  exact isPlainArgument_iff.mpr ⟨hne, marks_eq_zero_iff.mpr fun c hc => isMark_of_mem_chars hc⟩

/-- A size that is written is read back. Its sides are numerals of 32 bits with a sign of
multiplication between them. -/
theorem parse_chars (h : s.Fits) : parse s.chars = .ok s := by
  have hblank : ∀ c ∈ s.chars, isBlank c = false := fun c hc =>
    (Bool.or_eq_false_iff.mp (isMark_of_mem_chars hc)).1
  have hdigits : ∀ (m : Nat), ∀ c ∈ natNumeral m, isBlank c = false := fun m c hc =>
    isBlank_of_isDigit (isDigit_of_mem_natNumeral hc)
  have hcut : cutAt (fun c => c = 'x' || c = 'X') s.chars
      = some (natNumeral s.width, natNumeral s.height) := by
    refine cutAt_append _ (fun c hc => ?_) (by decide)
    have hdigit := isDigit_of_mem_natNumeral hc
    rw [Bool.or_eq_false_iff, decide_eq_false_iff_not, decide_eq_false_iff_not]
    constructor <;> rintro rfl <;> exact absurd hdigit (by decide)
  rw [parse, trim_of_no_blank hblank, hcut]
  simp only [Option.bind_eq_bind, Option.bind_some, trim_of_no_blank (hdigits _),
    side?_natNumeral h.1, side?_natNumeral h.2, Option.pure_def]

end LayoutSpec.Size
