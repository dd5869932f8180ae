import LayoutSpec.Proofs.Glob
import LayoutSpec.Proofs.Suite.Verdict

/-!
What a pattern of object names is resolved to. Its parts are taken in their order, and a name that
is met again is left out; a part with stars brings in the declared names that it stands for. The
only patterns without an answer are those with a part that is too large to be compiled.
-/

namespace LayoutSpec.Scope

open Text

theorem nodup_addName {names : List String} (h : names.Nodup) (name : String) :
    (addName names name).Nodup := by
  rw [addName]
  by_cases hname : name ∈ names
  · rwa [if_pos (by simpa using hname)]
  · rw [if_neg (by simpa using hname), ← List.concat_eq_append]
    exact h.concat hname

theorem nodup_foldl_addName {names : List String} (h : names.Nodup) (more : List String) :
    (more.foldl addName names).Nodup := by
  induction more generalizing names with
  | nil => exact h
  | cons name more ih => exact ih (nodup_addName h name)

/-- Names are added behind the ones that are there, without these and each of them once. This is the
invariant of the loop over the parts of a pattern. -/
theorem foldl_addName (more names : List String) :
    more.foldl addName names
      = names ++ (more.filter fun name => !names.contains name).eraseDups := by
  induction more generalizing names with
  | nil =>
      rw [List.foldl_nil, List.filter_nil, List.eraseDups_nil, List.append_nil]
  | cons name more ih =>
      rw [List.foldl_cons, ih, addName]
      cases hname : names.contains name with
      | true =>
          rw [if_pos rfl, List.filter_cons, hname, if_neg (by decide)]
      | false =>
          have hothers : ∀ other, (!(names ++ [name]).contains other)
              = ((!other == name) && !names.contains other) := by
            intro other
            rw [List.contains_append, Bool.not_or, Bool.and_comm, List.contains_cons,
              List.contains_nil, Bool.or_false]
          rw [if_neg Bool.false_ne_true, List.filter_cons, hname, if_pos (by decide),
            List.eraseDups_cons, List.filter_filter, List.append_assoc, List.singleton_append]
          simp only [hothers]

variable {scope : Scope} {pattern : String}

/-- The names that a part of a pattern stands for: the declared ones that have its pieces with a
word for each of its stars, or the part itself. -/
def standingFor (scope : Scope) (part : List Char) : List String :=
  if '*' ∈ part then
    scope.objects.names.filter fun name => Wildcard.word.StandsFor part name.toList
  else [String.ofList part]

theorem partNames_eq_standingFor (scope : Scope) (part : List Char) :
    scope.partNames part = scope.standingFor part := by
  rw [partNames, standingFor]
  by_cases hstar : '*' ∈ part
  · rw [if_pos (by simpa using hstar), if_pos hstar]
    apply List.filter_congr
    intro name _
    exact Bool.eq_iff_iff.mpr (Wildcard.accepts_iff_standsFor.trans (decide_eq_true_iff).symm)
  · rw [if_neg (by simpa using hstar), if_neg hstar]

theorem mem_standingFor {part : List Char} {name : String} :
    name ∈ scope.standingFor part ↔
      ('*' ∉ part ∧ name = String.ofList part) ∨
        ('*' ∈ part ∧ name ∈ scope.objects.names ∧ Wildcard.word.StandsFor part name.toList) := by
  rw [standingFor]
  by_cases hstar : '*' ∈ part
  · rw [if_pos hstar, List.mem_filter, decide_eq_true_iff]
    simp only [hstar, not_true_eq_false, false_and, true_and, false_or]
  · rw [if_neg hstar, List.mem_singleton]
    simp only [hstar, not_false_eq_true, true_and, false_and, or_false]

/-- A part with a star is resolved by its expression. It compiles if the expression does, which then
matches the names that the part stands for. -/
theorem partCompiles_iff_source {part : List Char} (hstar : '*' ∈ part) :
    (partCompiles part = true ↔ ∃ r, Regex.compile? (Wildcard.word.source part) = some r) ∧
      ∀ r, Regex.compile? (Wildcard.word.source part) = some r →
        ∀ name, r.isMatch name = true ↔ Wildcard.word.StandsFor part name := by
  have hcontains : part.contains '*' = true := by simpa using hstar
  rw [partCompiles, hcontains, Bool.not_true, Bool.false_or,
    Wildcard.compile?_source Wildcard.isRead_word]
  cases hcompiles : Wildcard.word.compiles part with
  | false => simp
  | true =>
      refine ⟨by simp, ?_⟩
      rintro r hr name
      obtain rfl := Option.some.inj hr
      rw [Wildcard.isMatch_regex, Wildcard.accepts_iff_standsFor]

theorem expand_eq_eraseDups (scope : Scope) (pattern : String) :
    scope.expand pattern
      = ((items ',' pattern.toList).flatMap scope.standingFor).eraseDups := by
  have hparts : scope.partNames = scope.standingFor := funext (partNames_eq_standingFor scope)
  rw [expand, foldl_addName, hparts, List.nil_append]
  congr 1
  apply List.filter_eq_self.mpr
  intro name _
  rfl

theorem nodup_expand (scope : Scope) (pattern : String) : (scope.expand pattern).Nodup :=
  nodup_foldl_addName List.nodup_nil _

theorem names_eq_error {before after : List (List Char)} {part : List Char}
    (hitems : items ',' pattern.toList = before ++ part :: after)
    (hbefore : ∀ other ∈ before, partCompiles other = true) (hpart : partCompiles part = false) :
    scope.names pattern = .error (.invalidPattern (String.ofList part)) := by
  have hfind : ((items ',' pattern.toList).find? fun part => !partCompiles part) = some part := by
    apply List.find?_eq_some_iff_append.mpr
    refine ⟨by rw [hpart]; rfl, before, after, hitems, ?_⟩
    intro other hother
    rw [hbefore other hother]
    rfl
  rw [names, hfind]

/-- A pattern is resolved to the names that its parts stand for, in the order of the parts, and each
name at its first occurrence only. A part with a star goes by its expression, which matches the
names that the part stands for. The pattern fails only if one of these is too large to be compiled,
and on the first one that is. -/
theorem names_exact (scope : Scope) (pattern : String) :
    (∀ part, '*' ∈ part →
      (partCompiles part = true ↔ ∃ r, Regex.compile? (Wildcard.word.source part) = some r) ∧
      ∀ r, Regex.compile? (Wildcard.word.source part) = some r →
        ∀ name, r.isMatch name = true ↔ Wildcard.word.StandsFor part name) ∧
    (∀ before part after, items ',' pattern.toList = before ++ part :: after →
      (∀ other ∈ before, partCompiles other = true) → partCompiles part = false →
        scope.names pattern = .error (.invalidPattern (String.ofList part))) ∧
    ((∀ part ∈ items ',' pattern.toList, partCompiles part = true) →
      ∃ names, scope.names pattern = .ok names ∧
        names = ((items ',' pattern.toList).flatMap scope.standingFor).eraseDups ∧
        names.Nodup ∧
        ∀ name, name ∈ names ↔ ∃ part ∈ items ',' pattern.toList,
          ('*' ∉ part ∧ name = String.ofList part) ∨
            ('*' ∈ part ∧ name ∈ scope.objects.names ∧
              Wildcard.word.StandsFor part name.toList)) := by
  refine ⟨fun part => partCompiles_iff_source, ?_, ?_⟩
  · intro before part after hitems hbefore hpart
    exact names_eq_error hitems hbefore hpart
  · intro hparts
    have hnames : scope.names pattern = .ok (scope.expand pattern) :=
      names_eq_ok (g := ⟨pattern, []⟩) hparts scope
    refine ⟨_, hnames, expand_eq_eraseDups scope pattern, nodup_expand scope pattern, ?_⟩
    intro name
    rw [expand_eq_eraseDups, List.mem_eraseDups, List.mem_flatMap]
    simp only [mem_standingFor]

/-- A pattern of 120000 stars has no answer at all. -/
theorem names_ne_stars :
    ¬ ∀ (scope : Scope) (pattern : String), scope.names pattern
      = .ok ((items ',' pattern.toList).flatMap scope.standingFor).eraseDups := by
  intro h
  have hn : Regex.maxSize < 136 * (119999 + 1) + 192 := by decide
  have hstars := names_stars hn cellScope
  rw [h] at hstars
  cases hstars

/-- The objects of a page with two items. -/
def itemScope : Scope where
  objects := .ofList [("item-1", ⟨.css, "#a", none⟩), ("logo", ⟨.css, "#b", none⟩),
    ("item-", ⟨.css, "#c", none⟩), ("item-x", ⟨.css, "#d", none⟩)]
  page := Browser.page {}
  filter := .all
  tree := {}
  depth := 0

theorem names_exact_itemScope :
    itemScope.names "logo, item-*, *-1, a+b" = .ok ["logo", "item-1", "item-x", "a+b"] ∧
      itemScope.names (String.ofList (stars 120000))
        = .error (.invalidPattern (String.ofList (stars 120000))) := by
  have hparts : ∀ part ∈ items ',' "logo, item-*, *-1, a+b".toList, partCompiles part = true := by
    decide +kernel
  constructor
  · obtain ⟨names, hnames, hexact, -⟩ := (names_exact itemScope "logo, item-*, *-1, a+b").2.2 hparts
    have hitems : items ',' "logo, item-*, *-1, a+b".toList
        = [['l', 'o', 'g', 'o'], ['i', 't', 'e', 'm', '-', '*'], ['*', '-', '1'],
          ['a', '+', 'b']] := by
      decide +kernel
    have hdeclared : itemScope.objects.names = ["item-1", "logo", "item-", "item-x"] := rfl
    rw [hnames, hexact, hitems]
    simp +decide [hdeclared, standingFor, ← Wildcard.accepts_iff_standsFor, Wildcard.accepts,
      Wildcard.acceptsBehindStar, Wildcard.word]
  · have hn : Regex.maxSize < 136 * (119999 + 1) + 192 := by decide
    have hitems : items ',' (String.ofList (stars 120000)).toList = [] ++ stars 120000 :: [] := by
      rw [String.toList_ofList]
      exact items_stars
    apply (names_exact itemScope _).2.1 [] _ [] hitems
    · intro other hother
      cases hother
    · exact partCompiles_stars hn

end LayoutSpec.Scope
