import LayoutSpec.Proofs.Token.Cursor

/-!
A reader at a position does what its counterpart does with the text behind the position: it ends
with the same value or the same cause, and before the same unread text.
-/

namespace LayoutSpec

open Text

namespace Cursor

/-- The position between what is read of a text and what is left. -/
def between (done left : List Char) : Cursor :=
  ⟨done ++ left, done.length⟩

theorem next?_nil (done : List Char) : (between done []).next? = none := by
  simp [next?, between]

theorem next?_cons (done : List Char) (d : Char) (left : List Char) :
    (between done (d :: left)).next? = some (d, between (done ++ [d]) left) := by
  simp [next?, between]

theorem skip_between (p : Char → Bool) (done left : List Char) :
    (between done left).skip p
      = between (done ++ left.takeWhile p) (left.dropWhile p) := by
  induction left generalizing done with
  | nil =>
      rw [skip]
      split
      · next hnext => simp [next?_nil] at hnext
      · simp
  | cons d left ih =>
      rw [skip]
      split
      · next found after hnext =>
          rw [next?_cons] at hnext
          obtain ⟨rfl, rfl⟩ := Prod.mk.inj (Option.some.inj hnext)
          by_cases hd : p d = true
          · simp [hd, ih]
          · simp [hd]
      · next hnext => simp [next?_cons] at hnext

end Cursor

namespace TokenReader

def takeWhile (p : Char → Bool) : TokenReader (List Char) := fun cs =>
  .ok (cs.takeWhile p) (cs.dropWhile p)

theorem takeWhile_eq (p : Char → Bool) (cs : List Char) :
    takeWhile p cs = .ok (cs.takeWhile p) (cs.dropWhile p) := rfl

theorem word_eq : word = (do
    skipBlanks
    let w ← takeWhile (!isBlank ·)
    if w.isEmpty then
      throw .expectedWord
    return String.ofList w) := by
  funext cs
  rw [bind_eq_ok (skipBlanks_eq cs), bind_eq_ok (takeWhile_eq _ _), word]
  dsimp only
  split
  · next hempty =>
    rw [List.isEmpty_iff] at hempty
    have hwhole := List.takeWhile_append_dropWhile (p := (!isBlank ·)) (l := trimStart cs)
    rw [hempty, List.nil_append] at hwhole
    rw [hwhole]
    rfl
  · rfl

theorem digits_eq (negative : Bool) : digits negative = (do
    let ds ← takeWhile Char.isDigit
    if ds.isEmpty then
      throw (.expectedNumber (String.ofList (trim (← get))))
    let n : Int := natOfDigits ds
    match pixel? (if negative then -n else n) with
    | some n => return n
    | none => throw (.numberOutOfRange (String.ofList (if negative then '-' :: ds else ds)))) := by
  funext cs
  rw [bind_eq_ok (takeWhile_eq _ _), digits]
  dsimp only
  split
  · rfl
  · cases pixel? (if negative then -(natOfDigits (cs.takeWhile Char.isDigit) : Int)
      else natOfDigits (cs.takeWhile Char.isDigit)) <;> rfl

/-- `leadingSides` as a reader. -/
def sideRun : TokenReader (List Side) := fun cs =>
  .ok (leadingSides cs).1 (leadingSides cs).2

theorem sides_eq : sides = (do
    let found ← sideRun
    if found.isEmpty then
      throw (.expectedSide (String.ofList (trim (← get))))
    return found) := by
  funext cs
  rw [run_bind, sideRun, sides]
  dsimp only
  split <;> rfl

theorem locations_eq : locations = (do
    let text ← takeRest
    if text.all isBlank then
      return []
    match (text.splitOn ',').mapM fun entry => location.result (trim entry) with
    | .ok locations => return locations
    | .error cause => throw cause) := by
  funext cs
  rw [run_bind, takeRest, locations]
  dsimp only
  split
  · rfl
  · cases (cs.splitOn ',').mapM fun entry => location.result (trim entry) <;> rfl

/-- The text up to the closing quote. Nothing is left if there is none. -/
def untilQuote : TokenReader (Option (List Char)) := fun cs =>
  match unquote cs with
  | some (text, left) => .ok (some text) left
  | none => .ok none []

theorem quoted_eq : quoted = (do
    skipBlanks
    if !(← symbol "\"") then
      throw (.expectedQuote (String.ofList (trim (← get))))
    match ← untilQuote with
    | some text => return String.ofList text
    | none => throw .missingClosingQuote) := by
  funext cs
  rw [bind_eq_ok (skipBlanks_eq cs), quoted]
  split
  · next rest hquote =>
    have htrue : symbol "\"" ('"' :: rest) = .ok true rest := symbol_append "\"" rest
    rw [hquote, bind_eq_ok htrue]
    change _ = (untilQuote >>= _) rest
    rw [run_bind, untilQuote]
    cases unquote rest <;> rfl
  · next hquote =>
    have hfalse : symbol "\"" (trimStart cs) = .ok false (trimStart cs) := by
      refine symbol_eq_false (by decide) fun c hc hsome => ?_
      obtain rfl : '"' = c := by simpa using hsome
      obtain ⟨rest, hrest⟩ := List.head?_eq_some_iff.mp hc
      exact hquote rest hrest
    rw [bind_eq_ok hfalse]
    rfl

end TokenReader

namespace CursorReader

open Cursor (between)
open TokenReader (run_bind)

/-- A part of the text that the text has. -/
theorem slice_part {c : Cursor} {done more left : List Char} (h : c.text = done ++ more ++ left) :
    slice done.length (done ++ more).length c = .ok more c := by
  have hbounds : done.length ≤ (done ++ more).length ∧ (done ++ more).length ≤ c.text.length := by
    rw [h]
    simp
  rw [slice_eq, if_pos hbounds, h, List.take_left, List.drop_left]

theorem rest_between (done left : List Char) :
    rest (between done left) = .ok left (between done left) :=
  slice_part (List.append_nil (done ++ left)).symm

theorem takeWhile_between (p : Char → Bool) (done left : List Char) :
    takeWhile p (between done left)
      = .ok (left.takeWhile p) (between (done ++ left.takeWhile p) (left.dropWhile p)) := by
  rw [takeWhile_eq, Cursor.skip_between]
  exact slice_part rfl

theorem comesNext_eq (start : List Char) (c : Cursor) :
    comesNext start c =
      if c.position + start.length ≤ c.text.length then
        match slice c.position (c.position + start.length) c with
        | .ok found after => .ok (decide (found = start)) after
        | .error stop after => .error stop after
      else .ok false c := by
  change (if c.position + start.length ≤ c.text.length then _ else _ : CursorReader Bool) c = _
  split
  · rw [run_bind]
    cases slice c.position (c.position + start.length) c <;> rfl
  · rfl

theorem comesNext_between (start done left : List Char) :
    comesNext start (between done left) = .ok (start.isPrefixOf left) (between done left) := by
  rw [comesNext_eq]
  by_cases hfits : start.length ≤ left.length
  · have hlength : done.length + start.length = (done ++ left.take start.length).length := by
      simp [hfits]
    have hpart : slice done.length (done.length + start.length) (between done left)
        = .ok (left.take start.length) (between done left) := by
      have htext : (between done left).text
          = done ++ left.take start.length ++ left.drop start.length := by
        rw [List.append_assoc, List.take_append_drop]
        rfl
      rw [hlength, slice_part htext]
    have hstart : decide (left.take start.length = start) = start.isPrefixOf left := by
      rw [Bool.eq_iff_iff, decide_eq_true_iff, List.isPrefixOf_iff_prefix, List.prefix_iff_eq_take,
        eq_comm]
    rw [if_pos (by simp [between, hfits])]
    change (match slice done.length (done.length + start.length) (between done left) with
      | .ok found after => EStateM.Result.ok (decide (found = start)) after
      | .error stop after => .error stop after) = _
    rw [hpart, ← hstart]
  · rw [if_neg (by simp [between]; omega)]
    have hstart : start.isPrefixOf left = false := by
      rw [Bool.eq_false_iff, Ne, List.isPrefixOf_iff_prefix]
      exact fun h => hfits h.length_le
    rw [hstart]

/-- The two results are the same value or the same cause, and the same text is left behind `done`
and what was read of `rest`. -/
inductive Agree {α : Type} (done rest : List Char) :
    EStateM.Result Cursor.Stop Cursor α → EStateM.Result SyntaxCause (List Char) α → Prop
  | ok (a : α) {more left : List Char} (h : rest = more ++ left) :
      Agree done rest (.ok a (between (done ++ more) left)) (.ok a left)
  | error (cause : SyntaxCause) {more left : List Char} (h : rest = more ++ left) :
      Agree done rest (.error (.fault cause) (between (done ++ more) left)) (.error cause left)

/-- The reader at a position agrees with the other one behind every position within a text. -/
def Follows {α : Type} (x : CursorReader α) (y : TokenReader α) : Prop :=
  ∀ done rest, Agree done rest (x (between done rest)) (y rest)

variable {α β : Type}

/-- What was read before counts as read. -/
theorem Agree.behind {done more left : List Char} {r : EStateM.Result Cursor.Stop Cursor α}
    {t : EStateM.Result SyntaxCause (List Char) α} (h : Agree (done ++ more) left r t) :
    Agree done (more ++ left) r t := by
  cases h with
  | ok a heq =>
      rw [heq, List.append_assoc]
      exact .ok a (List.append_assoc ..).symm
  | error cause heq =>
      rw [heq, List.append_assoc]
      exact .error cause (List.append_assoc ..).symm

theorem Agree.eq_ok {done consumed left : List Char} {r : EStateM.Result Cursor.Stop Cursor α}
    {a : α}
    (h : Agree done (consumed ++ left) r (.ok a left)) :
    r = .ok a (between (done ++ consumed) left) := by
  generalize htext : consumed ++ left = text at h
  cases h with
  | ok _ heq => rw [List.append_cancel_right (htext.trans heq)]

theorem Agree.eq_error {done consumed left : List Char} {r : EStateM.Result Cursor.Stop Cursor α}
    {cause : SyntaxCause} (h : Agree done (consumed ++ left) r (.error cause left)) :
    r = .error (.fault cause) (between (done ++ consumed) left) := by
  generalize htext : consumed ++ left = text at h
  cases h with
  | error _ heq => rw [List.append_cancel_right (htext.trans heq)]

theorem agree_ok (a : α) (done rest : List Char) :
    Agree done rest (.ok a (between done rest)) (.ok a rest) := by
  have h : Agree done rest (.ok a (between (done ++ []) rest)) (.ok a rest) := .ok a rfl
  rwa [List.append_nil] at h

theorem agree_error (cause : SyntaxCause) (done rest : List Char) :
    Agree (α := α) done rest (.error (.fault cause) (between done rest)) (.error cause rest) := by
  have h : Agree (α := α) done rest (.error (.fault cause) (between (done ++ []) rest))
      (.error cause rest) := .error cause rfl
  rwa [List.append_nil] at h

theorem follows_pure (a : α) : Follows (pure a) (pure a) :=
  agree_ok a

theorem follows_fail (cause : SyntaxCause) : Follows (α := α) (fail cause) (throw cause) :=
  agree_error cause

/-- A cursor reader that follows another one still does when more is read behind both. What is left
behind the first part is the text on which the second part starts. -/
theorem Follows.bind {x : CursorReader α} {y : TokenReader α} {f : α → CursorReader β}
    {g : α → TokenReader β} (hx : Follows x y) (hf : ∀ a, Follows (f a) (g a)) :
    Follows (x >>= f) (y >>= g) := by
  intro done rest
  have hagree := hx done rest
  rw [run_bind, run_bind]
  generalize x (between done rest) = r at hagree ⊢
  generalize y rest = t at hagree ⊢
  cases hagree with
  | ok a heq =>
      rw [heq]
      exact (hf a _ _).behind
  | error cause heq => exact .error cause heq

theorem Follows.ite {p : Prop} [Decidable p] {x x' : CursorReader α} {y y' : TokenReader α}
    (hthen : Follows x y) (helse : Follows x' y') :
    Follows (if p then x else x') (if p then y else y') := by
  by_cases hp : p
  · rw [if_pos hp, if_pos hp]
    exact hthen
  · rw [if_neg hp, if_neg hp]
    exact helse

theorem follows_hasMore : Follows hasMore TokenReader.hasMore := by
  intro done rest
  have heq : hasMore (between done rest) = .ok (!rest.isEmpty) (between done rest) := by
    change EStateM.Result.ok (decide (done.length < (done ++ rest).length)) _ = _
    cases rest <;> simp
  rw [heq]
  exact agree_ok _ done rest

theorem follows_rest : Follows rest get := by
  intro done rest
  rw [rest_between]
  exact agree_ok rest done rest

theorem follows_hasToken : Follows hasToken TokenReader.hasToken :=
  follows_rest.bind fun text => follows_pure (text.any (!isBlank ·))

theorem follows_peek : Follows peek TokenReader.peek := by
  intro done rest
  have heq : peek (between done rest) = .ok rest.head? (between done rest) := by
    change EStateM.Result.ok ((done ++ rest)[done.length]?) _ = _
    cases rest <;> simp
  rw [heq]
  exact agree_ok _ done rest

theorem get_eq (c : Cursor) : (get : CursorReader Cursor) c = .ok c c := rfl

theorem follows_next : Follows next TokenReader.next := by
  intro done rest
  rw [next, run_bind, get_eq]
  dsimp only
  cases rest with
  | nil =>
      rw [Cursor.next?_nil]
      exact agree_ok none done []
  | cons d rest =>
      rw [Cursor.next?_cons]
      exact .ok (some d) rfl

theorem follows_skipBlanks : Follows skipBlanks TokenReader.skipBlanks := by
  intro done rest
  change Agree done rest (.ok () ((between done rest).skip isBlank)) _
  rw [Cursor.skip_between]
  exact .ok () List.takeWhile_append_dropWhile.symm

theorem follows_takeRest : Follows takeRest TokenReader.takeRest := by
  intro done rest
  have heq : takeRest (between done rest) = .ok rest (between (done ++ rest) []) := by
    rw [takeRest, run_bind, rest_between]
    change EStateM.Result.ok rest (Cursor.mk (done ++ rest) (done ++ rest).length) = _
    rw [between, List.append_nil]
  rw [heq]
  exact .ok rest (List.append_nil rest).symm

/-- Moving behind a start is reading what stands behind it. -/
theorem agree_consume (done start after : List Char) :
    Agree done (start ++ after) (consume start.length (between done (start ++ after)))
      (.ok true after) := by
  have heq : consume start.length (between done (start ++ after))
      = .ok true (between (done ++ start) after) := by
    change EStateM.Result.ok true
      (Cursor.mk (done ++ (start ++ after)) (done.length + start.length))
      = _
    rw [between, List.append_assoc, List.length_append]
  rw [heq]
  exact .ok true rfl

theorem follows_symbol (s : String) : Follows (symbol s) (TokenReader.symbol s) := by
  intro done rest
  rw [symbol, run_bind, comesNext_between, TokenReader.symbol]
  by_cases hstart : s.toList.isPrefixOf rest = true
  · obtain ⟨after, rfl⟩ := List.isPrefixOf_iff_prefix.mp hstart
    rw [hstart, TokenReader.stripStart?_append]
    exact agree_consume done s.toList after
  · rw [stripStart?, if_neg hstart, Bool.eq_false_iff.mpr hstart]
    exact agree_ok false done rest

/-- What `keyword` does at a cursor, with its look at the character behind the word written out. -/
theorem keyword_eq (w : String) (c : Cursor) :
    keyword w c = match comesNext w.toList c with
      | .ok true after =>
        if after.text[after.position + w.toList.length]?.any isLetter then .ok false after
        else consume w.toList.length after
      | .ok false after => .ok false after
      | .error stop after => .error stop after := by
  rw [keyword, run_bind]
  cases comesNext w.toList c with
  | ok found after =>
      cases found with
      | true =>
          change (if after.text[after.position + w.toList.length]?.any isLetter then _ else _ :
            CursorReader Bool) after = _
          dsimp only
          split <;> rfl
      | false => rfl
  | error stop after => rfl

/-- A keyword at a cursor is a keyword of the unread text. The character behind the word is looked
at in both, so that a longer word is not taken for it. -/
theorem follows_keyword (w : String) : Follows (keyword w) (TokenReader.keyword w) := by
  intro done rest
  rw [keyword_eq, comesNext_between, TokenReader.keyword]
  by_cases hstart : w.toList.isPrefixOf rest = true
  · obtain ⟨after, rfl⟩ := List.isPrefixOf_iff_prefix.mp hstart
    have hnext : (between done (w.toList ++ after)).text[
        (between done (w.toList ++ after)).position + w.toList.length]? = after.head? := by
      change (done ++ (w.toList ++ after))[done.length + w.toList.length]? = _
      rw [← List.append_assoc, ← List.length_append]
      cases after <;> simp
    rw [hstart, TokenReader.stripStart?_append]
    dsimp only
    rw [hnext]
    split
    · exact agree_ok false done _
    · exact agree_consume done w.toList after
  · rw [stripStart?, if_neg hstart, Bool.eq_false_iff.mpr hstart]
    exact agree_ok false done rest

theorem follows_takeWhile (p : Char → Bool) : Follows (takeWhile p) (TokenReader.takeWhile p) := by
  intro done rest
  rw [takeWhile_between]
  exact .ok _ List.takeWhile_append_dropWhile.symm

theorem follows_word : Follows word TokenReader.word := by
  rw [word, TokenReader.word_eq]
  refine follows_skipBlanks.bind fun _ => (follows_takeWhile _).bind fun w => ?_
  exact .ite ((follows_fail .expectedWord).bind fun _ => follows_pure _) (follows_pure _)

/-- Digits at a cursor are digits of the unread text, and a number that is no pixel number is the
same error in both. -/
theorem follows_digits (negative : Bool) :
    Follows (digits negative) (TokenReader.digits negative) := by
  rw [digits, TokenReader.digits_eq]
  refine (follows_takeWhile _).bind fun ds => ?_
  have hvalue : Follows (do
      let n : Int := natOfDigits ds
      match pixel? (if negative then -n else n) with
      | some n => return n
      | none => fail (.numberOutOfRange (String.ofList (if negative then '-' :: ds else ds))))
    (do
      let n : Int := natOfDigits ds
      match pixel? (if negative then -n else n) with
      | some n => return n
      | none =>
        throw (.numberOutOfRange (String.ofList (if negative then '-' :: ds else ds)))) := by
    dsimp only
    cases pixel? (if negative then -(natOfDigits ds : Int) else natOfDigits ds) with
    | some n => exact follows_pure n
    | none => exact follows_fail _
  exact .ite (follows_rest.bind fun text => (follows_fail _).bind fun _ => hvalue) hvalue

theorem follows_number : Follows number TokenReader.number := by
  rw [number, TokenReader.number]
  exact follows_skipBlanks.bind fun _ => (follows_symbol "-").bind fun negative =>
    follows_skipBlanks.bind fun _ => follows_digits negative

theorem follows_within (first tolerance : Int) :
    Follows (rangeFrom.within first tolerance) (TokenReader.rangeFrom.within first tolerance) := by
  rw [rangeFrom.within, TokenReader.rangeFrom.within]
  cases PixelRange.around? first tolerance with
  | some range => exact follows_pure range
  | none => exact follows_fail (.boundOutOfRange first tolerance)

theorem follows_rangeFrom (first : Int) :
    Follows (rangeFrom first) (TokenReader.rangeFrom first) := by
  rw [rangeFrom, TokenReader.rangeFrom]
  refine follows_skipBlanks.bind fun _ => ?_
  have haround : Follows (do rangeFrom.within first (← number))
      (do TokenReader.rangeFrom.within first (← TokenReader.number)) :=
    follows_number.bind (follows_within first)
  refine (follows_keyword "to").bind fun _ => .ite (follows_number.bind fun _ => follows_pure _) ?_
  refine (follows_symbol "±").bind fun _ => .ite haround ?_
  exact (follows_symbol "+-").bind fun _ => .ite haround (follows_pure _)

theorem follows_bounds : Follows bounds TokenReader.bounds := by
  rw [bounds, TokenReader.bounds]
  refine follows_skipBlanks.bind fun _ => ?_
  refine (follows_symbol ">=").bind fun _ => .ite (follows_number.bind fun _ => follows_pure _) ?_
  refine (follows_symbol ">").bind fun _ => .ite (follows_number.bind fun _ => follows_pure _) ?_
  exact follows_number.bind follows_rangeFrom

theorem follows_range : Follows range TokenReader.range := by
  rw [range, TokenReader.range]
  exact follows_bounds.bind fun found => follows_skipBlanks.bind fun _ =>
    (follows_keyword "px").bind fun _ => follows_pure found

theorem nextSide_between (done rest : List Char) :
    nextSide (between done rest)
      = .ok (Side.ofKeyword? (String.ofList ((trimStart rest).takeWhile isLetter)))
        (between (done ++ rest.takeWhile isBlank ++ (trimStart rest).takeWhile isLetter)
          ((trimStart rest).dropWhile isLetter)) := by
  rw [nextSide_eq, Cursor.skip_between, takeWhile_between]
  rfl

theorem sideRun_eq (c : Cursor) :
    sideRun c = match nextSide c with
      | .ok (some side) after =>
        match sideRun after with
        | .ok sides last => .ok (side :: sides) last
        | .error stop last => .error stop last
      | .ok none _ => .ok [] c
      | .error stop after => .error stop after := by
  rw [sideRun]
  split <;> next hnext => exact hnext ▸ rfl

/-- The loop over the sides leaves the position behind the last word of a side, where the reader of
the unread text leaves what is not a side. The induction is on the characters that are left. -/
theorem follows_sideRun : Follows sideRun TokenReader.sideRun := by
  intro done rest
  rw [TokenReader.sideRun]
  -- Behind each word the induction goes on with that word among what is read.
  fun_induction TokenReader.leadingSides rest generalizing done with
  | case1 cs start hnone =>
      rw [sideRun_eq, nextSide_between, hnone]
      exact agree_ok [] done cs
  | case2 cs start side hside sides left hleft ih =>
      have hsplit : cs = cs.takeWhile isBlank ++ start.takeWhile isLetter
          ++ start.dropWhile isLetter := by
        rw [List.append_assoc, List.takeWhile_append_dropWhile]
        exact List.takeWhile_append_dropWhile.symm
      have hagree := ih (done ++ cs.takeWhile isBlank ++ start.takeWhile isLetter)
      rw [hleft, List.append_assoc done] at hagree
      have hbehind := hagree.behind
      rw [← hsplit] at hbehind
      rw [sideRun_eq, nextSide_between, hside]
      dsimp only at hbehind ⊢
      rw [List.append_assoc done]
      generalize sideRun (between _ (start.dropWhile isLetter)) = r at hbehind ⊢
      cases hbehind with
      | ok found hrest => exact .ok (side :: sides) hrest

theorem follows_sides : Follows sides TokenReader.sides := by
  rw [sides, TokenReader.sides_eq]
  refine follows_sideRun.bind fun found => ?_
  exact .ite (follows_rest.bind fun _ => (follows_fail _).bind fun _ => follows_pure found)
    (follows_pure found)

theorem follows_location : Follows location TokenReader.location := by
  rw [location, TokenReader.location]
  refine follows_range.bind fun range => follows_sides.bind fun sides => ?_
  refine follows_hasToken.bind fun _ => .ite ?_ (follows_pure _)
  exact follows_rest.bind fun _ => (follows_fail _).bind fun _ => follows_pure _

/-- On a text of its own a reader has the result of its counterpart. Readers that start another
reader on a part of the text need this. -/
theorem Follows.result_eq {x : CursorReader α} {y : TokenReader α} (h : Follows x y)
    (text : List Char) : result x text = (TokenReader.result y text).mapError .fault := by
  have hagree := h [] text
  rw [result, TokenReader.result]
  change Agree [] text (x ⟨text, 0⟩) _ at hagree
  generalize x ⟨text, 0⟩ = r at hagree ⊢
  generalize y text = t at hagree ⊢
  cases hagree <;> rfl

theorem mapM_mapError {ε ε' γ : Type} (g : α → Except ε γ) (f : ε → ε') (xs : List α) :
    xs.mapM (fun a => (g a).mapError f) = (xs.mapM g).mapError f := by
  induction xs with
  | nil => rfl
  | cons a xs ih =>
      rw [List.mapM_cons, List.mapM_cons, ih]
      cases g a with
      | error e => rfl
      | ok b => cases xs.mapM g <;> rfl

theorem follows_locations : Follows locations TokenReader.locations := by
  rw [locations, TokenReader.locations_eq]
  refine follows_takeRest.bind fun text => .ite (follows_pure []) ?_
  -- Each entry is read from a text of its own, so only its result counts and not where it ends.
  simp only [follows_location.result_eq, mapM_mapError]
  cases (text.splitOn ',').mapM fun entry => TokenReader.location.result (trim entry) with
  | ok locations => exact follows_pure locations
  | error cause => exact follows_fail cause

/-- One character more in front of the text up to the quote makes the text longer by it and moves
nothing else. -/
theorem Agree.untilQuote_cons {done rest behind : List Char} {r : Option (List Char) × Cursor}
    (c : Char) (h : Agree done rest (.ok r.1 r.2) (TokenReader.untilQuote behind)) :
    Agree done rest (.ok (r.1.map (c :: ·)) r.2)
      (match (unquote behind).map fun (text, left) => (c :: text, left) with
        | some (text, left) => .ok (some text) left
        | none => .ok none []) := by
  rw [TokenReader.untilQuote] at h
  cases hunquote : unquote behind with
  | none =>
      rw [hunquote] at h
      generalize r.1 = text, r.2 = last at h ⊢
      cases h with
      | ok _ heq => exact .ok none heq
  | some found =>
      rw [hunquote] at h
      generalize r.1 = text, r.2 = last at h ⊢
      cases h with
      | ok _ heq => exact .ok (some (c :: found.1)) heq

theorem untilQuote_nil (done : List Char) :
    untilQuote (between done []) = (none, between done []) := by
  rw [untilQuote]
  split
  · rfl
  · next hnext => simp [Cursor.next?_nil] at hnext

theorem untilQuote_cons (done : List Char) (d : Char) (rest : List Char) :
    untilQuote (between done (d :: rest)) =
      let after := between (done ++ [d]) rest
      if d = '"' then
        (some [], after)
      else if d = '\\' then
        match after.next? with
        | none => (none, after)
        | some (escaped, last) => ((untilQuote last).1.map (escaped :: ·), (untilQuote last).2)
      else
        ((untilQuote after).1.map (d :: ·), (untilQuote after).2) := by
  rw [untilQuote]
  split
  · next hnext => simp [Cursor.next?_cons] at hnext
  · next found after hnext =>
      rw [Cursor.next?_cons] at hnext
      obtain ⟨rfl, rfl⟩ := Prod.mk.inj (Option.some.inj hnext)
      dsimp only
      split_ifs
      · rfl
      · split <;> next hsecond => simp only [hsecond]
      · rfl

/-- The text up to a quote is the same for both readers: also if no quote closes it, when all of the
text is consumed. -/
theorem follows_untilQuote : Follows (modifyGet untilQuote) TokenReader.untilQuote := by
  intro done rest
  change Agree done rest
    (.ok (untilQuote (between done rest)).1 (untilQuote (between done rest)).2) _
  rw [TokenReader.untilQuote]
  fun_induction unquote rest generalizing done with
  | case1 =>
      rw [untilQuote_nil]
      exact agree_ok none done []
  | case2 rest =>
      rw [untilQuote_cons, if_pos rfl]
      exact .ok (some []) rfl
  | case3 =>
      rw [untilQuote_cons, if_neg (by decide), if_pos rfl, Cursor.next?_nil]
      exact .ok none rfl
  | case4 c rest ih =>
      rw [untilQuote_cons, if_neg (by decide), if_pos rfl, Cursor.next?_cons, List.append_assoc]
      have hagree := (ih (done ++ ['\\', c])).behind
      exact hagree.untilQuote_cons c
  | case5 c rest hquote hend hescape ih =>
      -- Neither of the two cases of a backslash applies.
      have hbackslash : c ≠ '\\' := by
        intro hc
        cases rest with
        | nil => exact hend hc rfl
        | cons d rest => exact hescape d rest hc rfl
      rw [untilQuote_cons, if_neg hquote, if_neg hbackslash]
      have hagree := (ih (done ++ [c])).behind
      exact hagree.untilQuote_cons c

theorem follows_quoted : Follows quoted TokenReader.quoted := by
  rw [quoted, TokenReader.quoted_eq]
  refine follows_skipBlanks.bind fun _ => (follows_symbol "\"").bind fun _ => ?_
  have hquoted : Follows (do
      match ← modifyGet untilQuote with
      | some text => return String.ofList text
      | none => fail .missingClosingQuote)
    (do
      match ← TokenReader.untilQuote with
      | some text => return String.ofList text
      | none => throw .missingClosingQuote) :=
    follows_untilQuote.bind fun found => match found with
      | some text => follows_pure (String.ofList text)
      | none => follows_fail .missingClosingQuote
  exact .ite (follows_rest.bind fun _ => (follows_fail _).bind fun _ => hquoted) hquoted

end CursorReader

end LayoutSpec
