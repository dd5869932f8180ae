import LayoutSpec.Proofs.Token.Follows
import LayoutSpec.Proofs.Token.Written
import Mathlib.Data.List.Induction

/-!
Calls of the readers on one cursor, in any order and whether they succeed or fail. The position
stays within the text and never goes back, no call asks for a part that the text does not have, and
the sides that are read are the longest run of their words.
-/

namespace LayoutSpec

open Text

namespace TokenReader

/-- The consumed text is the words of the sides in order. Blanks may stand before each word, and no
letter follows one, neither in the consumed text nor behind it. -/
inductive SideWords : List Side → List Char → List Char → Prop
  | nil (left : List Char) : SideWords [] [] left
  | cons (side : Side) {sides : List Side} {pad consumed left : List Char}
      (hpad : ∀ c ∈ pad, isBlank c = true)
      (hstop : ∀ c ∈ (consumed ++ left).head?, isLetter c = false)
      (h : SideWords sides consumed left) :
      SideWords (side :: sides) (pad ++ side.keyword.toList ++ consumed) left

/-- The sides whose words are the longest start of the text that is words of sides. -/
structure LongestSideWords (text : List Char) (sides : List Side) (consumed left : List Char) :
    Prop where
  split : text = consumed ++ left
  words : SideWords sides consumed left
  longest : ∀ {others : List Side} {start behind : List Char}, text = start ++ behind →
    SideWords others start behind → start <+: consumed

theorem keyword_ne_empty (side : Side) : side.keyword ≠ "" := by
  cases side <;> decide

theorem SideWords.consumed_eq_nil_iff {sides : List Side} {consumed left : List Char}
    (h : SideWords sides consumed left) : consumed = [] ↔ sides = [] := by
  cases h with
  | nil => simp
  | cons side hpad hstop h => simp [keyword_ne_empty]

theorem eq_keyword_of_ofKeyword? {w : String} {side : Side} (h : Side.ofKeyword? w = some side) :
    w = side.keyword := by
  unfold Side.ofKeyword? at h
  split at h <;> cases h <;> rfl

/-- Words of sides that come first are read first. -/
theorem leadingSides_words {sides : List Side} {consumed left : List Char}
    (h : SideWords sides consumed left) :
    leadingSides (consumed ++ left) = (sides ++ (leadingSides left).1, (leadingSides left).2) := by
  induction h with
  | nil left => rfl
  | cons side hpad hstop h ih =>
      rw [List.append_assoc, leadingSides_word side hpad hstop, ih]
      rfl

theorem exists_sideWords (cs : List Char) :
    ∃ consumed, cs = consumed ++ (leadingSides cs).2
      ∧ SideWords (leadingSides cs).1 consumed (leadingSides cs).2 := by
  fun_induction leadingSides cs with
  | case1 cs start hnone => exact ⟨[], rfl, .nil cs⟩
  | case2 cs start side hside sides left hleft ih =>
      obtain ⟨consumed, hsplit, hwords⟩ := ih
      rw [hleft] at hsplit hwords
      dsimp only at hsplit hwords ⊢
      have hword : start.takeWhile isLetter = side.keyword.toList := by
        rw [← eq_keyword_of_ofKeyword? hside, String.toList_ofList]
      have hstop : ∀ c ∈ (consumed ++ left).head?, isLetter c = false := by
        rw [← hsplit]
        exact head?_dropWhile_false
      refine ⟨cs.takeWhile isBlank ++ side.keyword.toList ++ consumed, ?_,
        .cons side (fun _ => List.mem_takeWhile_imp) hstop hwords⟩
      calc cs = cs.takeWhile isBlank ++ start := List.takeWhile_append_dropWhile.symm
        _ = cs.takeWhile isBlank ++ (start.takeWhile isLetter ++ start.dropWhile isLetter) := by
          rw [List.takeWhile_append_dropWhile]
        _ = _ := by rw [hword, hsplit]; simp only [List.append_assoc]

/-- The sides that come next are the longest run of their words. Blanks may stand before each word,
and a letter behind one would make it another word. -/
theorem exists_longestSideWords (cs : List Char) :
    ∃ consumed, LongestSideWords cs (leadingSides cs).1 consumed (leadingSides cs).2 := by
  obtain ⟨consumed, hsplit, hwords⟩ := exists_sideWords cs
  refine ⟨consumed, hsplit, hwords, ?_⟩
  intro others start behind hstart hothers
  -- Behind the other words the reader goes on, and ends where it ends on the whole text.
  obtain ⟨more, hmore, -⟩ := exists_sideWords behind
  have hleft : (leadingSides cs).2 = (leadingSides behind).2 := by
    rw [hstart, leadingSides_words hothers]
  have hends : start ++ more ++ (leadingSides cs).2 = consumed ++ (leadingSides cs).2 :=
    calc start ++ more ++ (leadingSides cs).2 = start ++ behind := by
          rw [hleft, List.append_assoc, ← hmore]
      _ = consumed ++ (leadingSides cs).2 := hstart.symm.trans hsplit
  exact ⟨more, List.append_cancel_right hends⟩

end TokenReader

/-- A call of a reader, by the type of its value. -/
inductive TokenCall : Type → Type
  | hasMore : TokenCall Bool
  | hasToken : TokenCall Bool
  | peek : TokenCall (Option Char)
  | next : TokenCall (Option Char)
  | skipBlanks : TokenCall Unit
  | takeWhile (p : Char → Bool) : TokenCall (List Char)
  | rest : TokenCall (List Char)
  | takeRest : TokenCall (List Char)
  | symbol (s : String) : TokenCall Bool
  | keyword (w : String) : TokenCall Bool
  | word : TokenCall String
  | number : TokenCall Int
  | range : TokenCall PixelRange
  | sides : TokenCall (List Side)
  | locations : TokenCall (List Location)
  | quoted : TokenCall String

namespace TokenCall

variable {α : Type}

def reader : TokenCall α → TokenReader α
  | .hasMore => TokenReader.hasMore
  | .hasToken => TokenReader.hasToken
  | .peek => TokenReader.peek
  | .next => TokenReader.next
  | .skipBlanks => TokenReader.skipBlanks
  | .takeWhile p => TokenReader.takeWhile p
  | .rest => get
  | .takeRest => TokenReader.takeRest
  | .symbol s => TokenReader.symbol s
  | .keyword w => TokenReader.keyword w
  | .word => TokenReader.word
  | .number => TokenReader.number
  | .range => TokenReader.range
  | .sides => TokenReader.sides
  | .locations => TokenReader.locations
  | .quoted => TokenReader.quoted

def atCursor : TokenCall α → CursorReader α
  | .hasMore => CursorReader.hasMore
  | .hasToken => CursorReader.hasToken
  | .peek => CursorReader.peek
  | .next => CursorReader.next
  | .skipBlanks => CursorReader.skipBlanks
  | .takeWhile p => CursorReader.takeWhile p
  | .rest => CursorReader.rest
  | .takeRest => CursorReader.takeRest
  | .symbol s => CursorReader.symbol s
  | .keyword w => CursorReader.keyword w
  | .word => CursorReader.word
  | .number => CursorReader.number
  | .range => CursorReader.range
  | .sides => CursorReader.sides
  | .locations => CursorReader.locations
  | .quoted => CursorReader.quoted

/-- Each call does to a cursor what its reader does to the unread text. There is one case for each
reader of tokens. -/
theorem follows (call : TokenCall α) : CursorReader.Follows call.atCursor call.reader := by
  cases call with
  | hasMore => exact CursorReader.follows_hasMore
  | hasToken => exact CursorReader.follows_hasToken
  | peek => exact CursorReader.follows_peek
  | next => exact CursorReader.follows_next
  | skipBlanks => exact CursorReader.follows_skipBlanks
  | takeWhile p => exact CursorReader.follows_takeWhile p
  | rest => exact CursorReader.follows_rest
  | takeRest => exact CursorReader.follows_takeRest
  | symbol s => exact CursorReader.follows_symbol s
  | keyword w => exact CursorReader.follows_keyword w
  | word => exact CursorReader.follows_word
  | number => exact CursorReader.follows_number
  | range => exact CursorReader.follows_range
  | sides => exact CursorReader.follows_sides
  | locations => exact CursorReader.follows_locations
  | quoted => exact CursorReader.follows_quoted

/-- The cursor that a call leaves, also when it fails. -/
def after (call : TokenCall α) (c : Cursor) : Cursor :=
  match call.atCursor c with
  | .ok _ last => last
  | .error _ last => last

end TokenCall

namespace Cursor

/-- The cursor after calls from the start of the text. -/
def afterCalls (text : List Char) (calls : List (Σ α, TokenCall α)) : Cursor :=
  calls.foldl (fun c call => call.2.after c) ⟨text, 0⟩

/-- What a call ends with, seen by its unread text alone. There is nothing to see if it asks for a
part that the text does not have. -/
def seen {α : Type} :
    EStateM.Result Stop Cursor α → Option (EStateM.Result SyntaxCause (List Char) α)
  | .ok a c => some (.ok a c.unread)
  | .error (.fault cause) c => some (.error cause c.unread)
  | .error .outOfBounds _ => none

theorem unread_between (done left : List Char) : (between done left).unread = left :=
  List.drop_left

theorem seen_of_agree {α : Type} {done rest : List Char} {r : EStateM.Result Stop Cursor α}
    {t : EStateM.Result SyntaxCause (List Char) α} (h : CursorReader.Agree done rest r t) :
    seen r = some t := by
  cases h <;> rw [seen, unread_between]

/-- One call moves forward within the text, also if it fails. What it consumed is a part of what was
unread. -/
theorem after_between {α : Type} (call : TokenCall α) (done rest : List Char) :
    ∃ more left, rest = more ++ left
      ∧ call.after (between done rest) = between (done ++ more) left := by
  have hagree := call.follows done rest
  rw [TokenCall.after]
  generalize call.atCursor (between done rest) = r at hagree ⊢
  generalize call.reader rest = t at hagree
  cases hagree with
  | ok a h => exact ⟨_, _, h, rfl⟩
  | error cause h => exact ⟨_, _, h, rfl⟩

/-- Any calls stop between two parts of the text. The induction is on the calls, from the start of
the text. -/
theorem exists_afterCalls_eq (text : List Char) (calls : List (Σ α, TokenCall α)) :
    ∃ done left, text = done ++ left ∧ afterCalls text calls = between done left := by
  induction calls using List.reverseRecOn with
  | nil => exact ⟨[], text, rfl, rfl⟩
  | append_singleton calls call ih =>
      obtain ⟨done, rest, htext, hcursor⟩ := ih
      obtain ⟨more, left, hrest, hafter⟩ := after_between call.2 done rest
      refine ⟨done ++ more, left, by rw [htext, hrest, List.append_assoc], ?_⟩
      rw [afterCalls] at hcursor ⊢
      rw [List.foldl_append, hcursor]
      exact hafter

/-- The sides are read behind their words. Where no word comes first, nothing is consumed, and the
error names what is there instead. -/
theorem exists_sides_between (done rest : List Char) :
    ∃ sides consumed left, TokenReader.LongestSideWords rest sides consumed left ∧
      CursorReader.sides (between done rest) =
        if consumed = [] then
          .error (.fault (.expectedSide (String.ofList (trim left)))) (between done rest)
        else .ok sides (between (done ++ consumed) left) := by
  obtain ⟨consumed, hlongest⟩ := TokenReader.exists_longestSideWords rest
  refine ⟨_, consumed, _, hlongest, ?_⟩
  have hagree := CursorReader.follows_sides done rest
  nth_rewrite 1 [hlongest.split] at hagree
  rw [TokenReader.sides] at hagree
  dsimp only at hagree
  by_cases hnone : consumed = []
  · rw [hlongest.words.consumed_eq_nil_iff.mp hnone, List.isEmpty_nil, if_pos rfl] at hagree
    have hleft := hlongest.split
    rw [hnone, List.nil_append] at hleft
    rw [if_pos hnone, hagree.eq_error, hnone, List.append_nil, ← hleft]
  · have hsides : (TokenReader.leadingSides rest).1.isEmpty = false := by
      rw [List.isEmpty_eq_false_iff]
      exact fun h => hnone (hlongest.words.consumed_eq_nil_iff.mpr h)
    rw [if_neg (by rw [hsides]; decide)] at hagree
    rw [if_neg hnone, hagree.eq_ok]

/-- However a text is read, the position stays within it, what is unread is an end of it, no call
asks for a part that it does not have or moves back, and each call does what its reader does with
the unread text. The sides that a call reads are the longest run of their words: it ends behind
these, or fails where it started if there are none. -/
theorem calls_forward (text : List Char) (calls : List (Σ α, TokenCall α)) :
    let c := afterCalls text calls
    c.text = text ∧ c.position ≤ text.length ∧ c.unread <:+ text ∧
    (∀ (α : Type) (call : TokenCall α),
      (∀ last, call.atCursor c ≠ .error .outOfBounds last) ∧
      c.position ≤ (call.after c).position ∧
      seen (call.atCursor c) = some (call.reader c.unread)) ∧
    ∃ sides consumed left, TokenReader.LongestSideWords c.unread sides consumed left ∧
      CursorReader.sides c =
        if consumed = [] then .error (.fault (.expectedSide (String.ofList (trim left)))) c
        else .ok sides { c with position := c.position + consumed.length } := by
  intro c
  obtain ⟨done, rest, htext, hcursor⟩ := exists_afterCalls_eq text calls
  have hunread : c.unread = rest := by
    change (afterCalls text calls).unread = rest
    rw [hcursor, unread_between]
  have hc : c = between done rest := hcursor
  refine ⟨by rw [hc, htext]; rfl, ?_, ?_, ?_, ?_⟩
  · rw [hc, htext, List.length_append]
    exact Nat.le_add_right _ _
  · rw [hunread, htext]
    exact List.suffix_append done rest
  · intro α call
    have hseen := seen_of_agree (call.follows done rest)
    obtain ⟨more, left, -, hafter⟩ := after_between call done rest
    rw [hunread, hc]
    refine ⟨?_, ?_, hseen⟩
    · intro last houtside
      rw [houtside] at hseen
      cases hseen
    · rw [hafter]
      simp [between]
  · obtain ⟨sides, consumed, left, hlongest, hsides⟩ := exists_sides_between done rest
    refine ⟨sides, consumed, left, hunread ▸ hlongest, ?_⟩
    have hmoved : between (done ++ consumed) left
        = { between done rest with
            position := (between done rest).position + consumed.length } := by
      rw [between, between, hlongest.split, List.append_assoc, List.length_append]
    rw [hc, hsides, hmoved]

end Cursor

end LayoutSpec
