import LayoutSpec.Proofs.Text.Arguments
import LayoutSpec.Token

/-!
One text between double quotes, read twice: as a token of a constraint line and as an argument of a
command line. Both readers cut it into the same pieces and find the same closing quote. They give
the same text exactly where a backslash only stands before a quote or a backslash: before any other
character an argument keeps the backslash, and a token drops it.
-/

namespace LayoutSpec.Text

/-- The characters that a backslash between double quotes is documented to escape. -/
def IsEscapable (c : Char) : Prop :=
  c = '"' ∨ c = '\\'

instance (c : Char) : Decidable (IsEscapable c) :=
  inferInstanceAs (Decidable (c = '"' ∨ c = '\\'))

/-- A piece of the text between double quotes: one character, or a backslash and the character
behind it. -/
inductive QuotedPiece where
  | plain (c : Char) (isPlain : ¬IsEscapable c)
  | pair (c : Char)

namespace QuotedPiece

/-- The piece as it stands between the quotes. -/
def written : QuotedPiece → List Char
  | plain c _ => [c]
  | pair c => ['\\', c]

/-- The character that a token has for the piece. -/
def bare : QuotedPiece → Char
  | plain c _ => c
  | pair c => c

/-- The characters that an argument has for the piece. -/
def kept : QuotedPiece → List Char
  | plain c _ => [c]
  | pair c => if IsEscapable c then [c] else ['\\', c]

/-- Whether the piece has no backslash but that of an escape. -/
def Documented : QuotedPiece → Prop
  | plain _ _ => True
  | pair c => IsEscapable c

theorem kept_eq_iff (piece : QuotedPiece) (xs ys : List Char) :
    piece.kept ++ xs = piece.bare :: ys ↔ piece.Documented ∧ xs = ys := by
  cases piece with
  | plain c hc => simp [kept, bare, Documented]
  | pair c =>
      by_cases hc : IsEscapable c
      · simp [kept, bare, Documented, hc]
      · have hslash : '\\' ≠ c := fun h => hc (.inr h.symm)
        simp [kept, bare, Documented, hc, hslash]

end QuotedPiece

open QuotedPiece

variable (pieces : List QuotedPiece) (rest : List Char)

/-- A reader of tokens takes pieces as their bare characters: the backslash of each escape is
dropped, whatever it stands before. -/
theorem unquote_written :
    unquote (pieces.flatMap written ++ rest)
      = (unquote rest).map (Prod.map (pieces.map bare ++ ·) id) := by
  induction pieces with
  | nil => exact Option.map_id'.symm
  | cons piece pieces ih =>
      rw [List.flatMap_cons, List.append_assoc, List.map_cons]
      cases piece with
      | plain c hc =>
          obtain ⟨hquote, hslash⟩ := not_or.mp hc
          rw [written, List.singleton_append, unquote, ih, Option.map_map]
          · rfl
          all_goals simp [hquote, hslash]
      | pair c =>
          rw [written, List.cons_append, List.singleton_append, unquote, ih, Option.map_map]
          rfl

/-- A reader of arguments takes pieces as the characters that it keeps: a backslash stays unless it
stands before a quote or another backslash. -/
theorem argumentsFrom_written (current : List Char) :
    argumentsFrom .double current (pieces.flatMap written ++ rest)
      = argumentsFrom .double ((pieces.flatMap kept).reverse ++ current) rest := by
  induction pieces generalizing current with
  | nil => rfl
  | cons piece pieces ih =>
      rw [List.flatMap_cons, List.append_assoc, List.flatMap_cons, List.reverse_append,
        List.append_assoc]
      cases piece with
      | plain c hc =>
          obtain ⟨hquote, hslash⟩ := not_or.mp hc
          rw [← ih]
          simp [written, kept, argumentsFrom, hquote, hslash]
      | pair c =>
          rw [← ih]
          by_cases hc : IsEscapable c
          · obtain rfl | rfl := hc <;> simp [written, kept, argumentsFrom, IsEscapable]
          · obtain ⟨hquote, hslash⟩ := not_or.mp hc
            simp [written, kept, argumentsFrom, IsEscapable, hquote, hslash]

/-- Pieces go on until the text is over, until a backslash with nothing behind it, or until the
quote that closes the text. -/
theorem exists_pieces (cs : List Char) :
    ∃ (pieces : List QuotedPiece) (rest : List Char), cs = pieces.flatMap written ++ rest ∧
      (rest = [] ∨ rest = ['\\'] ∨ ∃ left, rest = '"' :: left) := by
  fun_induction unquote cs with
  | case1 => exact ⟨[], [], rfl, .inl rfl⟩
  | case2 left => exact ⟨[], _, rfl, .inr (.inr ⟨left, rfl⟩)⟩
  | case3 => exact ⟨[], _, rfl, .inr (.inl rfl)⟩
  | case4 c cs ih =>
      obtain ⟨pieces, rest, rfl, hrest⟩ := ih
      exact ⟨.pair c :: pieces, rest, rfl, hrest⟩
  | case5 c cs hquote hlast hslash ih =>
      obtain ⟨pieces, rest, rfl, hrest⟩ := ih
      have hplain : ¬IsEscapable c := by
        rintro (rfl | rfl)
        · exact hquote rfl
        · -- A backslash is the last character or has one behind it.
          cases hall : pieces.flatMap written ++ rest with
          | nil => exact hlast rfl hall
          | cons d ds => exact hslash d ds rfl hall
      exact ⟨.plain c hplain :: pieces, rest, rfl, hrest⟩

/-- Whether the text behind an opening quote has a quote that closes it. -/
def Closes (cs : List Char) : Prop :=
  ∃ pieces : List QuotedPiece, ∃ left, cs = pieces.flatMap written ++ '"' :: left

theorem isSome_unquote_iff {cs : List Char} : (unquote cs).isSome ↔ Closes cs := by
  constructor
  · obtain ⟨pieces, rest, rfl, hrest⟩ := exists_pieces cs
    rw [unquote_written, Option.isSome_map]
    obtain rfl | rfl | ⟨left, rfl⟩ := hrest
    · simp [unquote]
    · simp [unquote]
    · exact fun _ => ⟨pieces, left, rfl⟩
  · rintro ⟨pieces, left, rfl⟩
    rw [unquote_written, Option.isSome_map, unquote]
    rfl

instance (cs : List Char) : Decidable (Closes cs) :=
  decidable_of_iff _ isSome_unquote_iff

theorem quoted_of_unquote {cs text left : List Char} (h : unquote cs = some (text, left)) :
    TokenReader.quoted ('"' :: cs) = .ok (String.ofList text) left := by
  rw [TokenReader.quoted, trimStart_eq_self (by simp; decide)]
  simp [h]

theorem quoted_of_unquote_none {cs : List Char} (h : unquote cs = none) :
    TokenReader.quoted ('"' :: cs) = .error .missingClosingQuote [] := by
  rw [TokenReader.quoted, trimStart_eq_self (by simp; decide)]
  simp [h]

theorem arguments?_eq (cs : List Char) :
    arguments? ('"' :: cs) = argumentsFrom .double [] cs := by
  have hblank : isBlank '"' = false := by decide
  simp [arguments?, argumentsFrom, hblank]

theorem fails_of_not_closes {cs : List Char} (h : ¬Closes cs) :
    TokenReader.quoted ('"' :: cs) = .error .missingClosingQuote [] ∧
      arguments? ('"' :: cs) = none := by
  obtain ⟨pieces, rest, rfl, hrest⟩ := exists_pieces cs
  suffices hopen : unquote rest = none ∧ ∀ current, argumentsFrom .double current rest = none by
    rw [arguments?_eq, argumentsFrom_written]
    exact ⟨quoted_of_unquote_none (by rw [unquote_written, hopen.1]; rfl), hopen.2 _⟩
  obtain rfl | rfl | ⟨left, rfl⟩ := hrest
  · exact ⟨rfl, fun _ => rfl⟩
  · exact ⟨rfl, fun _ => rfl⟩
  · exact absurd ⟨pieces, left, rfl⟩ h

theorem quoted_written :
    TokenReader.quoted ('"' :: (pieces.flatMap written ++ '"' :: rest))
      = .ok (String.ofList (pieces.map bare)) rest := by
  apply quoted_of_unquote
  rw [unquote_written]
  simp [unquote]

theorem arguments?_written :
    arguments? ('"' :: (pieces.flatMap written ++ ['"'])) = some [pieces.flatMap kept] := by
  rw [arguments?_eq, argumentsFrom_written]
  simp [argumentsFrom]

theorem flatMap_kept_eq_iff :
    pieces.flatMap kept = pieces.map bare ↔ ∀ piece ∈ pieces, piece.Documented := by
  induction pieces with
  | nil => simp
  | cons piece pieces ih =>
      rw [List.flatMap_cons, List.map_cons, kept_eq_iff, ih, List.forall_mem_cons]

/-- If nothing closes the quote that a text starts with, neither reader accepts it. If its last
character does, both give one text and leave nothing, and it is the same text exactly if every
backslash in it is that of a documented escape. -/
theorem quoted_eq_arguments?_iff (cs : List Char) :
    (¬Closes cs →
      TokenReader.quoted ('"' :: cs) = .error .missingClosingQuote [] ∧
        arguments? ('"' :: cs) = none) ∧
    ∀ pieces : List QuotedPiece, cs = pieces.flatMap written ++ ['"'] → ∃ token argument,
      TokenReader.quoted ('"' :: cs) = .ok token [] ∧ arguments? ('"' :: cs) = some [argument] ∧
      (argument = token.toList ↔ ∀ piece ∈ pieces, piece.Documented) := by
  refine ⟨fails_of_not_closes, ?_⟩
  rintro pieces rfl
  refine ⟨_, _, quoted_written pieces [], arguments?_written pieces, ?_⟩
  rw [String.toList_ofList, flatMap_kept_eq_iff]

/-- An escaped quote closes nothing. -/
theorem quoted_eq_arguments?_iff_escapes :
    (TokenReader.quoted ('"' :: "a\\\"".toList) = .error .missingClosingQuote [] ∧
      arguments? ('"' :: "a\\\"".toList) = none) ∧
    ∃ token argument,
      TokenReader.quoted "\"a \\\"b\\\"\"".toList = .ok token [] ∧
      arguments? "\"a \\\"b\\\"\"".toList = some [argument] ∧
      argument = token.toList := by
  have hplain : ∀ c, c = 'a' ∨ c = ' ' ∨ c = 'b' → ¬IsEscapable c := by
    rintro c (rfl | rfl | rfl) <;> decide
  obtain ⟨token, argument, htoken, hargument, hiff⟩ := (quoted_eq_arguments?_iff _).2
    [.plain 'a' (hplain _ (by simp)), .plain ' ' (hplain _ (by simp)), .pair '"',
      .plain 'b' (hplain _ (by simp)), .pair '"'] rfl
  refine ⟨(quoted_eq_arguments?_iff _).1 (by decide +kernel), token, argument, htoken, hargument,
    hiff.mpr ?_⟩
  simp [QuotedPiece.Documented, IsEscapable]

/-- A backslash before a letter is lost in a token and kept in an argument. -/
theorem quoted_ne_arguments?_backslashLetter :
    TokenReader.quoted "\"\\d\"".toList = .ok "d" [] ∧
      arguments? "\"\\d\"".toList = some ["\\d".toList] ∧
      arguments? "\"\\d\"".toList ≠ some ["d".toList] := by
  refine ⟨quoted_written [.pair 'd'] [], ?_, ?_⟩ <;> decide +kernel

end LayoutSpec.Text
