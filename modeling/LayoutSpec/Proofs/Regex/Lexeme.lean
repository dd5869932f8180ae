import LayoutSpec.Regex.Lexeme
import LayoutSpec.Proofs.Text.Cutting
import LayoutSpec.Proofs.Token.Basic
import Mathlib.Data.List.TakeDrop
import Mathlib.Data.Option.Basic

/-!
The small parts of a pattern, read where more text follows. What ends before the end of a pattern
ends there as well if something is put behind the pattern. White space and comments alone may go on.
-/

namespace LayoutSpec.Regex

open Text

variable {verbose comment : Bool} {p : Char → Bool} {text rest more : List Char}

theorem dropIgnored_suffix (verbose comment : Bool) (text : List Char) :
    dropIgnored verbose comment text <:+ text := by
  induction text generalizing comment with
  | nil => exact List.suffix_rfl
  | cons c text ih =>
      rw [dropIgnored]
      split
      · exact (ih _).trans (List.suffix_cons c text)
      · exact List.suffix_rfl

theorem dropIgnored_append (h : dropIgnored verbose comment text ≠ []) (more : List Char) :
    dropIgnored verbose comment (text ++ more) = dropIgnored verbose comment text ++ more := by
  induction text generalizing comment with
  | nil => exact absurd rfl h
  | cons c text ih =>
      rw [dropIgnored] at h
      rw [List.cons_append, dropIgnored, dropIgnored]
      split
      case isTrue hignored =>
        rw [if_pos hignored] at h
        exact ih h
      case isFalse => rfl

/-- If nothing is left, what follows is what comes first, or it is in a comment. A comment is
possible only in a verbose pattern with a number sign. -/
theorem dropIgnored_append_of_eq_nil (h : dropIgnored verbose comment text = [])
    (more : List Char) :
    dropIgnored verbose comment (text ++ more) = dropIgnored verbose false more ∨
      verbose = true ∧ (comment = true ∨ '#' ∈ text) ∧
        dropIgnored verbose comment (text ++ more) = dropIgnored verbose true more := by
  induction text generalizing comment with
  | nil =>
      cases verbose with
      | false => exact .inl (by cases more <;> simp [dropIgnored])
      | true =>
          cases comment with
          | false => exact .inl rfl
          | true => exact .inr ⟨rfl, .inl rfl, rfl⟩
  | cons c text ih =>
      rw [dropIgnored] at h
      split at h
      case isFalse => cases h
      case isTrue hignored =>
        rw [List.cons_append, dropIgnored, if_pos hignored]
        obtain hmore | ⟨hverbose, hcomment, hmore⟩ := ih h
        · exact .inl hmore
        · refine .inr ⟨hverbose, ?_, hmore⟩
          simp only [stillComment, Bool.and_eq_true, Bool.or_eq_true, decide_eq_true_eq] at hcomment
          rcases hcomment with ⟨hcomment | rfl, -⟩ | hmem
          · exact .inl hcomment
          · exact .inr List.mem_cons_self
          · exact .inr (List.mem_cons_of_mem c hmem)

theorem takeWhileIgnoring_suffix (p : Char → Bool) (verbose comment : Bool) (text : List Char) :
    (takeWhileIgnoring p verbose comment text).2 <:+ text := by
  induction text generalizing comment with
  | nil => exact List.suffix_rfl
  | cons c text ih =>
      rw [takeWhileIgnoring]
      split
      · exact (ih _).trans (List.suffix_cons c text)
      · split
        · exact (ih _).trans (List.suffix_cons c text)
        · exact List.suffix_rfl

/-- The characters of a class are the same with more text behind, if there was something that ended
them. -/
theorem takeWhileIgnoring_append (h : (takeWhileIgnoring p verbose comment text).2 ≠ [])
    (more : List Char) :
    takeWhileIgnoring p verbose comment (text ++ more)
      = ((takeWhileIgnoring p verbose comment text).1,
        (takeWhileIgnoring p verbose comment text).2 ++ more) := by
  induction text generalizing comment with
  | nil => exact absurd rfl h
  | cons c text ih =>
      rw [takeWhileIgnoring] at h
      rw [List.cons_append, takeWhileIgnoring, takeWhileIgnoring]
      by_cases hignored : (verbose && ignored comment c) = true
      · rw [if_pos hignored] at h
        simp only [if_pos hignored]
        exact ih h
      · rw [if_neg hignored] at h
        simp only [if_neg hignored]
        by_cases hp : p c = true
        · rw [if_pos hp] at h
          simp only [if_pos hp, ih h]
        · simp only [if_neg hp, List.cons_append]

theorem dropWhile_append (h : text.dropWhile p ≠ []) (more : List Char) :
    (text ++ more).dropWhile p = text.dropWhile p ++ more := by
  rw [List.dropWhile_append, if_neg (by simpa using h)]

theorem takeWhile_append (h : text.dropWhile p ≠ []) (more : List Char) :
    (text ++ more).takeWhile p = text.takeWhile p := by
  have hrun : ∀ c ∈ text.takeWhile p, p c = true := fun c hc => List.mem_takeWhile_imp hc
  have hstop : ∀ c ∈ (text.dropWhile p ++ more).head?, p c = false := by
    obtain ⟨c, behind, hbehind⟩ := List.exists_cons_of_ne_nil h
    have hhead : ∀ c ∈ (text.dropWhile p).head?, p c = false := head?_dropWhile_false
    rw [hbehind] at hhead ⊢
    exact hhead
  calc (text ++ more).takeWhile p
      = (text.takeWhile p ++ (text.dropWhile p ++ more)).takeWhile p := by
        rw [← List.append_assoc, List.takeWhile_append_dropWhile]
    _ = text.takeWhile p := takeWhile_run hrun hstop

theorem span_append (h : (text.span p).2 ≠ []) (more : List Char) :
    (text ++ more).span p = ((text.span p).1, (text.span p).2 ++ more) := by
  rw [List.span_eq_takeWhile_dropWhile] at h
  rw [List.span_eq_takeWhile_dropWhile, List.span_eq_takeWhile_dropWhile, takeWhile_append h,
    dropWhile_append h]

theorem span_suffix (p : Char → Bool) (text : List Char) : (text.span p).2 <:+ text := by
  rw [List.span_eq_takeWhile_dropWhile]
  exact List.dropWhile_suffix p

theorem braced?_append {inner : List Char} (h : braced? verbose text = some (inner, rest)) :
    rest <:+ text ∧ ∀ more, braced? verbose (text ++ more) = some (inner, rest ++ more) := by
  have hsuffix := takeWhileIgnoring_suffix (· ≠ '}') verbose false text
  rw [braced?] at h
  split at h
  case h_2 => cases h
  case h_1 heq =>
    obtain ⟨rfl, rfl⟩ := Prod.mk.inj (Option.some.inj h)
    rw [heq] at hsuffix
    refine ⟨(List.suffix_cons '}' _).trans hsuffix, fun more => ?_⟩
    rw [braced?, takeWhileIgnoring_append (by rw [heq]; exact List.cons_ne_nil _ _), heq]
    rfl

/-- A count is the same with more text behind, if something was left behind it. Otherwise digits of
the other text would belong to it. -/
theorem count?_append {n : Nat} (h : count? verbose text = some (n, rest)) :
    rest <:+ text ∧ (rest ≠ [] → ∀ more,
      count? verbose (text ++ more) = some (n, rest ++ more)) := by
  obtain ⟨m, hm, h⟩ := Option.bind_eq_some_iff.mp h
  obtain ⟨⟨⟩, hguard, h⟩ := Option.bind_eq_some_iff.mp h
  obtain ⟨rfl, rfl⟩ := Prod.mk.inj (Option.some.inj h)
  have hm32 : m < 4294967296 := (Option.guard_eq_some' _).mp hguard
  have hdigits := takeWhileIgnoring_suffix Char.isDigit verbose false (text.dropWhile isBlank)
  constructor
  · exact (List.dropWhile_suffix _).trans (hdigits.trans (List.dropWhile_suffix _))
  · intro hrest more
    have hbehind :
        (takeWhileIgnoring Char.isDigit verbose false (text.dropWhile isBlank)).2 ≠ [] := by
      intro hnil
      rw [hnil] at hrest
      exact hrest rfl
    have hfront : text.dropWhile isBlank ≠ [] := by
      intro hnil
      rw [hnil] at hbehind
      exact hbehind rfl
    rw [count?, dropWhile_append hfront, takeWhileIgnoring_append hbehind]
    simp [hm, hm32, guard, dropWhile_append hrest]

/-- A number with something behind it, so that what is ignored before it ends in the text itself. -/
theorem count?_dropIgnored_append {n : Nat}
    (h : count? verbose (dropIgnored verbose false text) = some (n, rest)) (hne : rest ≠ []) :
    rest <:+ text ∧ dropIgnored verbose false text ≠ [] ∧
      ∀ more, dropIgnored verbose false (text ++ more) = dropIgnored verbose false text ++ more ∧
        count? verbose (dropIgnored verbose false text ++ more) = some (n, rest ++ more) := by
  obtain ⟨hsuffix, happend⟩ := count?_append h
  have hfront : dropIgnored verbose false text ≠ [] := by
    intro hnil
    rw [hnil] at hsuffix
    exact hne (List.suffix_nil.mp hsuffix)
  exact ⟨hsuffix.trans (dropIgnored_suffix verbose false text), hfront,
    fun more => ⟨dropIgnored_append hfront more, happend hne more⟩⟩

/-- The bounds of a repetition are the same with more text behind, as a closing brace ends them. -/
theorem bounds?_append {least : Nat} {most : Option Nat}
    (h : bounds? verbose text = some (least, most, rest)) :
    rest <:+ text ∧ ∀ more, bounds? verbose (text ++ more) = some (least, most, rest ++ more) := by
  obtain ⟨⟨n, behind⟩, hcount, h⟩ := Option.bind_eq_some_iff.mp h
  dsimp only at h
  split at h
  case h_3 => cases h
  case h_1 last =>
    obtain ⟨rfl, rfl, rfl⟩ := by simpa using h
    obtain ⟨hsuffix, -, happend⟩ := count?_dropIgnored_append hcount (List.cons_ne_nil _ _)
    refine ⟨(List.suffix_cons _ _).trans hsuffix, fun more => ?_⟩
    rw [bounds?, (happend more).1, (happend more).2]
    rfl
  case h_2 upper =>
    obtain ⟨hsuffix, -, happend⟩ := count?_dropIgnored_append hcount (List.cons_ne_nil _ _)
    have hcomma := (List.suffix_cons _ _).trans hsuffix
    split at h
    case h_1 last hlast =>
      obtain ⟨rfl, rfl, rfl⟩ := by simpa using h
      have hbrace := dropIgnored_suffix verbose false upper
      have hmore := dropIgnored_append (by rw [hlast]; exact List.cons_ne_nil _ _)
      rw [hlast] at hbrace hmore
      refine ⟨(List.suffix_cons _ _).trans (hbrace.trans hcomma), fun more => ?_⟩
      rw [bounds?, (happend more).1, (happend more).2]
      simp only [Option.bind_eq_bind, Option.bind_some, List.cons_append, hmore]
      rfl
    case h_2 hlast =>
      obtain ⟨⟨m, behind⟩, hsecond, h⟩ := Option.bind_eq_some_iff.mp h
      obtain ⟨⟨⟩, hguard, h⟩ := Option.bind_eq_some_iff.mp h
      have hleast : n ≤ m := (Option.guard_eq_some' _).mp hguard
      split at h
      case h_2 => cases h
      case h_1 _ last hbehind =>
        obtain rfl : behind = '}' :: last := hbehind
        obtain ⟨rfl, rfl, rfl⟩ := by simpa using h
        obtain ⟨hsuffix', hfront, happend'⟩ :=
          count?_dropIgnored_append hsecond (List.cons_ne_nil _ _)
        obtain ⟨c, front, hupper⟩ := List.exists_cons_of_ne_nil hfront
        refine ⟨(List.suffix_cons _ _).trans (hsuffix'.trans hcomma), fun more => ?_⟩
        rw [bounds?, (happend more).1, (happend more).2]
        simp only [Option.bind_eq_bind, Option.bind_some, List.cons_append, (happend' more).1]
        split
        case h_1 _ heq =>
          rw [hupper] at heq
          exact absurd hupper ((List.cons.inj heq).1 ▸ hlast front)
        case h_2 =>
          rw [(happend' more).2]
          simp [guard, hleast]

theorem set?_verbose {on : Bool} {letter : Char} {f changed : Flags}
    (h : f.set? on letter = some changed) (hverbose : changed.verbose = true) :
    f.verbose = true ∨ letter = 'x' := by
  unfold Flags.set? at h
  split at h
  case h_6 => exact .inr rfl
  case h_8 => cases h
  all_goals
    cases h
    exact .inl hverbose

/-- Flags are the same with more text behind, as a colon or a parenthesis ends them. A pattern that
becomes verbose by them has an `x`. -/
theorem flags?_append {negated dangling : Bool} {seen : List Char} {f changed : Flags}
    {unchanged : Bool} (h : flags? negated dangling seen f text = some (changed, unchanged, rest)) :
    (rest <:+ text ∧ rest ≠ []) ∧ (changed.verbose = true → f.verbose = true ∨ 'x' ∈ text) ∧
      ∀ more, flags? negated dangling seen f (text ++ more)
        = some (changed, unchanged, rest ++ more) := by
  induction text generalizing negated dangling seen f with
  | nil => cases h
  | cons c text ih =>
      rw [flags?] at h
      by_cases hend : (c = ':' || c = ')') = true
      · rw [if_pos hend] at h
        cases dangling with
        | true => cases h
        | false =>
            obtain ⟨rfl, rfl, rfl⟩ := by simpa using h
            refine ⟨⟨List.suffix_rfl, List.cons_ne_nil c text⟩, .inl, fun more => ?_⟩
            rw [List.cons_append, flags?, if_pos hend]
            rfl
      rw [if_neg hend] at h
      by_cases hminus : c = '-'
      · rw [if_pos hminus] at h
        cases negated with
        | true => cases h
        | false =>
            obtain ⟨⟨hsuffix, hne⟩, hverbose, happend⟩ := ih h
            refine ⟨⟨hsuffix.trans (List.suffix_cons c text), hne⟩, fun hchanged => ?_,
              fun more => ?_⟩
            · exact (hverbose hchanged).imp_right (List.mem_cons_of_mem c)
            · rw [List.cons_append, flags?, if_neg hend, if_pos hminus]
              exact happend more
      rw [if_neg hminus] at h
      by_cases hseen : seen.contains c = true
      · rw [if_pos hseen] at h
        cases h
      rw [if_neg hseen] at h
      obtain ⟨next, hset, h⟩ := Option.bind_eq_some_iff.mp h
      obtain ⟨⟨hsuffix, hne⟩, hverbose, happend⟩ := ih h
      refine ⟨⟨hsuffix.trans (List.suffix_cons c text), hne⟩, fun hchanged => ?_, fun more => ?_⟩
      · rcases hverbose hchanged with hnext | hmem
        · rcases set?_verbose hset hnext with hf | rfl
          · exact .inl hf
          · exact .inr List.mem_cons_self
        · exact .inr (List.mem_cons_of_mem c hmem)
      · rw [List.cons_append, flags?, if_neg hend, if_neg hminus, if_neg hseen, hset]
        exact happend more

theorem groupName?_append {name : List Char} (h : groupName? text = some (name, rest)) :
    rest <:+ text ∧ ∀ more, groupName? (text ++ more) = some (name, rest ++ more) := by
  have hsuffix := span_suffix (· ≠ '>') text
  simp only [groupName?] at h
  split at h
  case h_2 => cases h
  case h_1 first others behind hspan =>
    split at h
    case isFalse => cases h
    case isTrue hname =>
      obtain ⟨rfl, rfl⟩ := Prod.mk.inj (Option.some.inj h)
      rw [hspan] at hsuffix
      refine ⟨(List.suffix_cons _ _).trans hsuffix, fun more => ?_⟩
      have hmore := span_append (by rw [hspan]; exact List.cons_ne_nil _ _) more
      rw [hspan] at hmore
      simp only [groupName?, hmore, List.cons_append]
      exact if_pos hname

theorem span_eq_cons_iff {sep : Char} {name : List Char} :
    text.span (· ≠ sep) = (name, sep :: rest) ↔ text = name ++ sep :: rest ∧ sep ∉ name := by
  rw [List.span_eq_takeWhile_dropWhile, Prod.mk.injEq]
  constructor
  · rintro ⟨rfl, hrest⟩
    constructor
    · rw [← hrest, List.takeWhile_append_dropWhile]
    · intro hmem
      simpa using List.mem_takeWhile_imp hmem
  · rintro ⟨rfl, hname⟩
    have hrun : ∀ c ∈ name, decide (c ≠ sep) = true :=
      fun c hc => decide_eq_true fun heq => hname (heq ▸ hc)
    exact ⟨takeWhile_run hrun (by simp), dropWhile_run hrun (by simp)⟩

theorem asciiSet?_caret (name : List Char) : asciiSet? (String.ofList ('^' :: name)) = none := by
  unfold asciiSet?
  split
  case h_15 => rfl
  all_goals
    rename_i heq
    exact absurd (congrArg String.toList heq) (by simp)

/-- A named set is a name between colons and brackets. The name is one of a table; others are no
error, but the start of a set of its own. -/
theorem namedAsciiSet?_eq_some_iff {set : CharSet} {negated : Bool} :
    namedAsciiSet? text = some (set, negated, rest) ↔
      ∃ name, asciiSet? (String.ofList name) = some set ∧ ':' ∉ name ∧
        text = ['[', ':'] ++ ((if negated then ['^'] else []) ++ (name ++ ':' :: ']' :: rest)) := by
  constructor
  · intro h
    obtain ⟨inner, hinner, hread⟩ := Option.bind_eq_some_iff.mp h
    rw [TokenReader.eq_append_of_stripStart? hinner]
    dsimp only at hread
    split at hread
    case h_2 => cases hread
    case h_1 name behind hspan =>
      obtain ⟨found, hset, hread⟩ := Option.bind_eq_some_iff.mp hread
      obtain ⟨hinner, hname⟩ := span_eq_cons_iff.mp hspan
      obtain ⟨rfl, rfl, rfl⟩ := by simpa using hread
      refine ⟨name, hset, hname, ?_⟩
      split at hinner
      case h_1 => simpa using hinner
      case h_2 => simpa using hinner
  · rintro ⟨name, hset, hname, rfl⟩
    have hspan := span_eq_cons_iff.mpr ⟨(rfl : name ++ ':' :: ']' :: rest = _), hname⟩
    rw [namedAsciiSet?, TokenReader.stripStart?_append]
    cases negated with
    | true =>
        simp only [if_true, List.singleton_append, Option.bind_eq_bind, Option.bind_some, hspan,
          hset]
        rfl
    | false =>
        -- The name does not start like a negation.
        have hplain : ∀ tail, name ++ ':' :: ']' :: rest ≠ '^' :: tail := by
          intro tail heq
          cases name with
          | nil => simp at heq
          | cons c name =>
              obtain ⟨rfl, -⟩ := List.cons.inj heq
              rw [asciiSet?_caret] at hset
              cases hset
        simp only [Bool.false_eq_true, if_false, List.nil_append, Option.bind_eq_bind,
          Option.bind_some, hspan, hset]
        rfl

theorem namedAsciiSet?_suffix {set : CharSet} {negated : Bool}
    (h : namedAsciiSet? text = some (set, negated, rest)) : rest <:+ text := by
  obtain ⟨name, -, -, rfl⟩ := namedAsciiSet?_eq_some_iff.mp h
  exact ⟨['[', ':'] ++ ((if negated then ['^'] else []) ++ (name ++ [':', ']'])), by simp⟩

/-- A named set is complete, or nothing without colons completes it. This is why the end of a group
does not turn a set into a named one. -/
theorem namedAsciiSet?_append (text : List Char) (hcolon : ':' ∉ more)
    (hbracket : more.head? ≠ some ']') :
    namedAsciiSet? (text ++ more)
      = (namedAsciiSet? text).map fun (set, negated, rest) => (set, negated, rest ++ more) := by
  cases h : namedAsciiSet? text with
  | some found =>
      obtain ⟨set, negated, rest⟩ := found
      obtain ⟨name, hset, hname, rfl⟩ := namedAsciiSet?_eq_some_iff.mp h
      exact namedAsciiSet?_eq_some_iff.mpr ⟨name, hset, hname, by simp⟩
  | none =>
      cases hmore : namedAsciiSet? (text ++ more) with
      | none => rfl
      | some found =>
          obtain ⟨set, negated, rest⟩ := found
          obtain ⟨name, hset, hname, heq⟩ := namedAsciiSet?_eq_some_iff.mp hmore
          have hopen : ∀ tail, text
              ≠ ['[', ':'] ++ ((if negated then ['^'] else [])
                ++ (name ++ ':' :: ']' :: tail)) := by
            intro tail htext
            rw [namedAsciiSet?_eq_some_iff.mpr ⟨name, hset, hname, htext⟩] at h
            cases h
          have hassoc : text ++ more
              = ['[', ':'] ++ ((if negated then ['^'] else []) ++ name) ++ [':', ']'] ++ rest := by
            simp [heq]
          rcases List.append_eq_append_iff.mp hassoc with
            ⟨middle, hset', hrest⟩ | ⟨middle, htext, -⟩
          · -- What is missing of the set would have to end in a colon and a bracket.
            rcases List.eq_nil_or_concat middle with rfl | ⟨front, last, rfl⟩
            · exact absurd (by simpa using hset'.symm) (hopen [])
            have hlast : ['[', ':'] ++ ((if negated then ['^'] else []) ++ name) ++ [':'] ++ [']']
                = text ++ front ++ [last] := by simpa using hset'
            obtain ⟨hfront, hbracket'⟩ := List.append_inj' hlast rfl
            rcases List.eq_nil_or_concat front with rfl | ⟨front, colon, rfl⟩
            · obtain rfl := List.singleton_inj.mp hbracket'
              exact absurd (by rw [hrest]; rfl) hbracket
            · have hpenult : ['[', ':'] ++ ((if negated then ['^'] else []) ++ name) ++ [':']
                  = text ++ front ++ [colon] := by simpa using hfront
              obtain rfl := List.singleton_inj.mp (List.append_inj' hpenult rfl).2
              exact absurd (by rw [hrest]; simp) hcolon
          · exact absurd (by simpa using htext) (hopen middle)

theorem dropIgnored_blank_append (comment : Bool) {front : List Char}
    (h : ∀ c ∈ front, isBlank c = true) (rest : List Char) :
    ∃ comment', dropIgnored true comment (front ++ rest) = dropIgnored true comment' rest := by
  induction front generalizing comment with
  | nil => exact ⟨comment, rfl⟩
  | cons c front ih =>
      obtain ⟨comment', hrest⟩ := ih (stillComment comment c)
        fun d hd => h d (List.mem_cons_of_mem c hd)
      refine ⟨comment', ?_⟩
      rw [List.cons_append, dropIgnored, if_pos, hrest]
      simp [ignored, h c List.mem_cons_self]

/-- A look ahead sees the same where more text follows, unless all that is left of the pattern is
ignored. -/
theorem glimpse?_append (c : Char) (text more : List Char) :
    glimpse? verbose (c :: (text ++ more)) = glimpse? verbose (c :: text) ∨
      dropIgnored verbose false text = [] ∧ glimpse? verbose (c :: text) = text.head? := by
  cases verbose with
  | false =>
      cases text with
      | nil => exact .inr ⟨rfl, rfl⟩
      | cons d text => exact .inl rfl
  | true =>
      have hfront : ∀ d ∈ text.takeWhile isBlank, isBlank d = true :=
        fun d hd => List.mem_takeWhile_imp hd
      obtain ⟨comment, hskip⟩ := dropIgnored_blank_append false hfront (text.dropWhile isBlank)
      rw [List.takeWhile_append_dropWhile] at hskip
      cases hblank : text.dropWhile isBlank with
      | nil =>
          refine .inr ⟨by rw [hskip, hblank]; rfl, ?_⟩
          simp [glimpse?, hblank]
      | cons d behind =>
          have hmore := dropWhile_append (by rw [hblank]; exact List.cons_ne_nil d behind) more
          rw [hblank] at hmore
          by_cases hsign : d = '#'
          · subst hsign
            cases hrest : behind.dropWhile isBlank with
            | cons e last =>
                have hmore' := dropWhile_append (by rw [hrest]; exact List.cons_ne_nil e last) more
                refine .inl ?_
                simp [glimpse?, hblank, hmore, hrest, hmore']
            | nil =>
                have hall : ∀ e ∈ behind, isBlank e = true := List.dropWhile_eq_nil_iff.mp hrest
                obtain ⟨comment', hbehind⟩ := dropIgnored_blank_append
                  (stillComment comment '#') hall []
                rw [List.append_nil] at hbehind
                refine .inr ⟨?_, by simp [glimpse?, hblank, hrest]⟩
                rw [hskip, hblank, dropIgnored, if_pos (by simp [ignored]), hbehind]
                rfl
          · refine .inl ?_
            simp [glimpse?, hblank, hmore]

end LayoutSpec.Regex
