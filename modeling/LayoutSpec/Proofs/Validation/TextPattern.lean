import LayoutSpec.Proofs.Constraint.Resolved
import LayoutSpec.Proofs.Regex.Whole

/-!
Text patterns from the spec to the page. A pattern is accepted as it is written, and is put between
the ends of the text when it is checked. So a pattern may be accepted that cannot be checked.
-/

namespace LayoutSpec

open Regex Constraint

namespace Check

variable {scope : Scope} {name expected actual : String} {element : Snapshot}

/-- A pattern that was read is well formed as it is written. The reader of the constraint compiles
it once to find out. -/
theorem exists_regex_of_parse {base : Option Path} {line : List Char}
    (h : parse base line = .ok (.text .matches expected)) :
    ∃ r, compile? expected.toList = some r := by
  rw [parse_eq_map] at h
  cases hread : parse none line with
  | error cause =>
      rw [hread] at h
      cases h
  | ok written =>
      rw [hread] at h
      have hmap : written.mapPaths (.from? base) = .text .matches expected := Except.ok.inj h
      cases written with
      | text operation pattern =>
          obtain ⟨rfl, rfl⟩ := Constraint.text.inj hmap
          obtain ⟨hformed, -⟩ := of_parse_eq_ok hread
          exact Option.isSome_iff_exists.mp (hformed rfl)
      | _ => cases hmap

theorem textHolds_matches {r : Regex} (h : compile? expected.toList = some r) (actual : String) :
    textHolds .matches expected actual =
      if Wrappable expected.toList r then .ok (r.whole.isMatch actual.toList)
      else .error (.invalidPattern expected) := by
  rw [textHolds, compile?_wholePattern h]
  by_cases hwrap : Wrappable expected.toList r
  · rw [if_pos hwrap, if_pos hwrap]
  · rw [if_neg hwrap, if_neg hwrap]

/-- The failure of a text that is not as it should be. -/
def textFailure (name : String) (element : Snapshot) (operation : TextOperation)
    (expected actual : String) : Failure :=
  ⟨[element.area], [quoted name ++ " text is " ++ quoted actual ++ " but should "
    ++ verb operation ++ " " ++ quoted expected]⟩

section

variable {operation : TextOperation} (hvisible : visibleElement scope name = .ok element)
  (htext : element.text = some actual)

include hvisible htext

theorem check_text_of_fault {fault : Fault}
    (h : textHolds operation expected actual = .error fault) :
    check scope name (.text operation expected) = .error (.fatal fault) := by
  rw [check, checkText, hvisible]
  simp only [bind, Except.bind, htext, h]
  rfl

theorem check_text_of_holds {holds : Bool} (h : textHolds operation expected actual = .ok holds) :
    check scope name (.text operation expected) =
      if holds then .ok ()
      else .error (.broken (textFailure name element operation expected actual)) := by
  rw [check, checkText, hvisible]
  simp only [bind, Except.bind, htext, h]
  cases holds with
  | true => rfl
  | false => rfl

end

/-- A pattern that is accepted is some expression. If the expression may be put between the ends of
a text, an element passes if all of its text matches; otherwise no element with a text passes, and
the pattern is told to be invalid. Only a pattern with both an `x` and a number sign can end in a
comment, and only one that is tied to the start of a text already can be too large with its ends. -/
theorem check_text_pattern {base : Option Path} {line : List Char}
    (h : parse base line = .ok (.text .matches expected)) :
    ∃ r, compile? expected.toList = some r ∧
      ('x' ∉ expected.toList ∨ '#' ∉ expected.toList → ¬ EndsInComment expected.toList) ∧
      (r.isAnchored = false → r.whole.size ≤ maxSize) ∧
      ∀ scope name element actual,
        visibleElement scope name = .ok element → element.text = some actual →
        (Wrappable expected.toList r →
          (r.Matches actual.toList 0 actual.toList.length →
            check scope name (.text .matches expected) = .ok ()) ∧
          (¬ r.Matches actual.toList 0 actual.toList.length →
            check scope name (.text .matches expected) =
              .error (.broken (textFailure name element .matches expected actual)))) ∧
        (¬ Wrappable expected.toList r →
          check scope name (.text .matches expected)
          = .error (.fatal (.invalidPattern expected))) := by
  obtain ⟨r, hr⟩ := exists_regex_of_parse h
  refine ⟨r, hr, ?_, fun hloose => Nat.le_trans (size_whole_le hloose) (size_le_of_compile? hr), ?_⟩
  · intro hmissing hcomment
    obtain ⟨hx, hsign⟩ := mem_of_endsInComment hr hcomment
    exact hmissing.elim (· hx) (· hsign)
  · intro scope name element actual hvisible htext
    have hholds := textHolds_matches hr actual
    constructor
    · intro hwrap
      rw [if_pos hwrap] at hholds
      have hcheck := check_text_of_holds hvisible htext hholds
      have hwhole := isMatch_between_ends_iff r actual.toList
      constructor
      · intro hmatches
        rw [hcheck, whole, if_pos (hwhole.mpr hmatches)]
      · intro hmatches
        rw [hcheck, whole, if_neg (mt hwhole.mp hmatches)]
    · intro hwrap
      rw [if_neg hwrap] at hholds
      exact check_text_of_fault hvisible htext hholds

/-- A letter on a page. -/
def letter : Snapshot where
  present := true
  visible := true
  area := ⟨10, 10, 8, 8⟩
  text := some "a"

def letterScope : Scope where
  objects := .ofList [("letter", ⟨.css, "b", none⟩)]
  page := { elements := [(⟨.css, "b", none⟩, letter)] }
  filter := .all
  tree := { files := [] }
  depth := 0

theorem visibleElement_letter : visibleElement letterScope "letter" = .ok letter := by
  rfl

/-- A letter that is one of two. -/
theorem check_text_pattern_letter :
    parse none "text matches: \"a|b\"".toList = .ok (.text .matches "a|b") ∧
      check letterScope "letter" (.text .matches "a|b") = .ok () := by
  have hparse : parse none "text matches: \"a|b\"".toList = .ok (.text .matches "a|b") := by
    decide +kernel
  obtain ⟨r, hr, -, -, hall⟩ := check_text_pattern hparse
  have hread : compile? "a|b".toList =
      some (.alt (.chars (.single 'a')) (.chars (.single 'b'))) := by decide +kernel
  obtain rfl := Option.some.inj (hr.symm.trans hread)
  obtain ⟨hpass, -⟩ := (hall letterScope "letter" letter "a" visibleElement_letter rfl).1
    (by decide +kernel)
  exact ⟨hparse, hpass (.inl ⟨rfl, 'a', rfl, by decide⟩)⟩

/-- The comment at the end of a verbose pattern takes in the end of the group around the pattern. So
the pattern is accepted and the letter is what it asks for, but the check takes it for invalid. -/
theorem check_text_pattern_comment :
    parse none "text matches: \"(?x)a #c\"".toList = .ok (.text .matches "(?x)a #c") ∧
      (∃ r, compile? "(?x)a #c".toList = some r ∧ r.Matches "a".toList 0 1) ∧
      visibleElement letterScope "letter" = .ok letter ∧ letter.text = some "a" ∧
      check letterScope "letter" (.text .matches "(?x)a #c") =
        .error (.fatal (.invalidPattern "(?x)a #c")) := by
  have hparse :
      parse none "text matches: \"(?x)a #c\"".toList = .ok (.text .matches "(?x)a #c") := by
    decide +kernel
  have hread : compile? "(?x)a #c".toList = some (.chars (.single 'a')) := by decide +kernel
  have hwrap : ¬ Wrappable "(?x)a #c".toList (.chars (.single 'a')) := by decide +kernel
  have hholds := textHolds_matches hread "a"
  rw [if_neg hwrap] at hholds
  refine ⟨hparse, ⟨_, hread, rfl, 'a', rfl, by decide⟩, visibleElement_letter, rfl, ?_⟩
  exact check_text_of_fault visibleElement_letter rfl hholds

end Check

end LayoutSpec
