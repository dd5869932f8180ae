import LayoutSpec.Action.Reader
import LayoutSpec.Proofs.Text.Cutting

/-!
The arguments of a check. Specs and options may stand in any order, and each option has two names
and two places for its value. What is read are the specs and, for each of the two options, the tags
of its values, in the order in which they are written: nothing else about the arguments counts.
-/

namespace LayoutSpec.Action

open Text

/-- The name of an option, in full or as a single letter. -/
def optionName : Bool → Bool → String
  | true, true => "--include"
  | true, false => "-i"
  | false, true => "--exclude"
  | false, false => "-e"

/-- One part of the arguments of a check. -/
inductive CheckPart where
  | spec (arg : String)
  /-- Tags to include or to exclude, behind a name and an equality sign or as the next argument. -/
  | tags (included long inline : Bool) (value : String)

namespace CheckPart

def arguments : CheckPart → List String
  | spec arg => [arg]
  | tags included long true value => [optionName included long ++ "=" ++ value]
  | tags included long false value => [optionName included long, value]

def spec? : CheckPart → Option String
  | spec arg => some arg
  | tags .. => none

def value? (included : Bool) : CheckPart → Option String
  | spec _ => none
  | tags side _ _ value => if side = included then some value else none

/-- What a part adds in front of what the other arguments give. -/
def add (base : Option Path) : CheckPart → List Path × TagFilter → List Path × TagFilter
  | spec arg, (specs, filter) => (.from? base ⟨arg⟩ :: specs, filter)
  | tags included _ _ value, (specs, filter) => (specs, addTags included (tagsOf value) filter)

end CheckPart

def specsOf (parts : List CheckPart) : List String :=
  parts.filterMap CheckPart.spec?

def valuesOf (included : Bool) (parts : List CheckPart) : List String :=
  parts.filterMap (CheckPart.value? included)

variable {base : Option Path} {text arg : String} {rest : List String} {part : CheckPart}
  {parts : List CheckPart}

theorem splitOption_of_head (h : arg.toList.head? ≠ some '-') : splitOption arg = (arg, none) := by
  rw [splitOption]
  cases hcut : cutAt (fun c => decide (c = '=')) arg.toList with
  | none => rfl
  | some pieces =>
      obtain ⟨option, value⟩ := pieces
      obtain ⟨c, -, -, harg⟩ := eq_append_of_cutAt hcut
      have hhead : ¬ option.head? = some '-' := by
        intro hminus
        rw [harg, List.head?_append, hminus] at h
        exact h rfl
      simp only [hhead, if_false]

theorem optionTarget?_of_head (h : arg.toList.head? ≠ some '-') : optionTarget? arg = none := by
  rw [optionTarget?]
  all_goals rintro rfl
  all_goals exact h (by decide)

theorem optionTarget?_optionName (included long : Bool) :
    optionTarget? (optionName included long) = some included := by
  cases included <;> cases long <;> rfl

theorem splitOption_optionName (included long : Bool) :
    splitOption (optionName included long) = (optionName included long, none) := by
  cases included <;> cases long <;> decide

/-- A value ends at the end of its argument, whatever it holds. Only the first equality sign stands
between the option and its value. -/
theorem splitOption_inline (included long : Bool) (value : String) :
    splitOption (optionName included long ++ "=" ++ value)
      = (optionName included long, some value) := by
  have hname : ∀ c ∈ (optionName included long).toList, decide (c = '=') = false := by
    have hall : (optionName included long).toList.all (fun c => !decide (c = '=')) = true := by
      cases included <;> cases long <;> rfl
    exact fun c hc => by simpa using List.all_eq_true.mp hall c hc
  have hminus : (optionName included long).toList.head? = some '-' := by
    cases included <;> cases long <;> rfl
  have hcut : cutAt (fun c => decide (c = '=')) (optionName included long ++ "=" ++ value).toList
      = some ((optionName included long).toList, value.toList) := by
    rw [String.toList_append, String.toList_append, List.append_assoc]
    exact cutAt_append value.toList hname (by decide)
  simp only [splitOption, hcut, hminus, if_true, String.ofList_toList]

/-- A part takes its own arguments and leaves the others as they are. Only the name of a spec has
to be told from an option: it must not start with a dash. A value may, as it stands behind its
option. -/
theorem readCheck_part (h : ∀ arg ∈ part.spec?, arg.toList.head? ≠ some '-') :
    readCheck base text (part.arguments ++ rest)
      = (readCheck base text rest).map (part.add base) := by
  cases part with
  | spec arg =>
      have hhead := h arg rfl
      rw [CheckPart.arguments, List.singleton_append, readCheck, splitOption_of_head hhead]
      simp only [optionTarget?_of_head hhead, hhead, if_false]
      cases readCheck base text rest <;> rfl
  | tags included long inline value =>
      cases inline with
      | true =>
          rw [CheckPart.arguments, List.singleton_append, readCheck, splitOption_inline]
          simp only [optionTarget?_optionName]
          cases readCheck base text rest <;> rfl
      | false =>
          rw [CheckPart.arguments, List.cons_append, List.singleton_append, readCheck,
            splitOption_optionName]
          simp only [optionTarget?_optionName]
          cases readCheck base text rest <;> rfl

/-- What some parts give, in front of what the other arguments give. -/
def addParts (base : Option Path) (parts : List CheckPart) (others : List Path × TagFilter) :
    List Path × TagFilter :=
  ((specsOf parts).map (fun arg => .from? base ⟨arg⟩) ++ others.1,
    ⟨(valuesOf true parts).flatMap tagsOf ++ others.2.included,
      (valuesOf false parts).flatMap tagsOf ++ others.2.excluded⟩)

theorem addParts_cons (others : List Path × TagFilter) :
    addParts base (part :: parts) others = part.add base (addParts base parts others) := by
  cases part with
  | spec arg => rfl
  | tags included long inline value =>
      have hspecs : specsOf (.tags included long inline value :: parts) = specsOf parts := rfl
      rw [addParts, hspecs]
      cases included <;> simp [addParts, valuesOf, CheckPart.add, CheckPart.value?, addTags]

/-- Parts are read one after another, so that what they give stands in front of what the other
arguments give. This is the induction on the parts of a command line that `readCheck_part` is the
step of. -/
theorem readCheck_parts (h : ∀ arg ∈ specsOf parts, arg.toList.head? ≠ some '-') :
    readCheck base text (parts.flatMap CheckPart.arguments ++ rest)
      = (readCheck base text rest).map (addParts base parts) := by
  induction parts with
  | nil =>
      rw [List.flatMap_nil, List.nil_append]
      cases readCheck base text rest <;> rfl
  | cons part parts ih =>
      have hpart : ∀ arg ∈ part.spec?, arg.toList.head? ≠ some '-' := fun arg harg =>
        h arg (List.mem_filterMap.mpr ⟨part, by simp, harg⟩)
      have hparts : ∀ arg ∈ specsOf parts, arg.toList.head? ≠ some '-' := by
        intro arg harg
        obtain ⟨other, hother, hspec⟩ := List.mem_filterMap.mp harg
        exact h arg (List.mem_filterMap.mpr ⟨other, by simp [hother], hspec⟩)
      rw [List.flatMap_cons, List.append_assoc, readCheck_part hpart, ih hparts]
      cases readCheck base text rest with
      | error cause => rfl
      | ok others => exact congrArg Except.ok (addParts_cons others).symm

theorem exists_optionName {option : String} {included : Bool}
    (h : optionTarget? option = some included) : ∃ long, option = optionName included long := by
  rw [optionTarget?.eq_def] at h
  split at h
  · obtain rfl := Option.some.inj h
    exact ⟨true, rfl⟩
  · obtain rfl := Option.some.inj h
    exact ⟨false, rfl⟩
  · obtain rfl := Option.some.inj h
    exact ⟨true, rfl⟩
  · obtain rfl := Option.some.inj h
    exact ⟨false, rfl⟩
  · cases h

/-- An argument is its option, with an equality sign and a value if it has one. A leading dash
belongs to the option. -/
theorem eq_of_splitOption {option : String} {inline : Option String}
    (h : splitOption arg = (option, inline)) :
    arg = inline.elim option (option ++ "=" ++ ·) ∧
      (arg.toList.head? = some '-' → option.toList.head? = some '-') := by
  rw [splitOption] at h
  split at h
  · next name value hcut =>
    obtain ⟨c, hc, -, harg⟩ := eq_append_of_cutAt hcut
    split at h
    · next hminus =>
      obtain ⟨rfl, rfl⟩ := Prod.mk.inj h
      obtain rfl : c = '=' := by simpa using hc
      refine ⟨String.toList_injective ?_, fun _ => by simpa using hminus⟩
      simp [harg]
    · obtain ⟨rfl, rfl⟩ := Prod.mk.inj h
      exact ⟨rfl, id⟩
  · obtain ⟨rfl, rfl⟩ := Prod.mk.inj h
    exact ⟨rfl, id⟩

/-- The arguments are those of some parts, with specs that do not look like options, which give what
was found. -/
def Parted (base : Option Path) (args : List String) (found : List Path × TagFilter) : Prop :=
  ∃ parts, args = parts.flatMap CheckPart.arguments ∧
    (∀ arg ∈ specsOf parts, arg.toList.head? ≠ some '-') ∧ found = addParts base parts ([], {})

/-- What is read with one more part in front has parts, if the arguments behind the part have them
as far as they are read. -/
theorem Parted.of_part {found : List Path × TagFilter} (part : CheckPart)
    (hpart : ∀ arg ∈ part.spec?, arg.toList.head? ≠ some '-')
    (hlater : ∀ {others}, readCheck base text rest = .ok others → Parted base rest others)
    (h : readCheck base text (part.arguments ++ rest) = .ok found) :
    Parted base (part.arguments ++ rest) found := by
  rw [readCheck_part hpart] at h
  cases hrest : readCheck base text rest with
  | error cause => simp [hrest, Except.map] at h
  | ok others =>
      obtain rfl : part.add base others = found := by simpa [hrest, Except.map] using h
      obtain ⟨parts, rfl, hheads, rfl⟩ := hlater hrest
      refine ⟨part :: parts, rfl, ?_, (addParts_cons _).symm⟩
      intro arg harg
      obtain ⟨other, hother, hspec⟩ := List.mem_filterMap.mp harg
      rcases List.mem_cons.mp hother with rfl | hother
      · exact hpart arg hspec
      · exact hheads arg (List.mem_filterMap.mpr ⟨other, hother, hspec⟩)

/-- Arguments that are read have parts. So every check that can be read is one of those of which
`parse_of_parts` speaks, and no argument is passed over. -/
theorem parted_of_readCheck {args : List String} {found : List Path × TagFilter}
    (h : readCheck base text args = .ok found) : Parted base args found := by
  induction args using readCheck.induct generalizing found with
  | case1 =>
      obtain rfl := Except.ok.inj h
      exact ⟨[], rfl, by simp [specsOf], rfl⟩
  | case2 arg rest option inline hsplit htarget hminus =>
      simp [readCheck, hsplit, htarget, hminus] at h
  | case3 arg rest option inline hsplit htarget hminus ih =>
      have hhead : arg.toList.head? ≠ some '-' := fun hhead =>
        hminus ((eq_of_splitOption hsplit).2 hhead)
      exact .of_part (.spec arg) (by simpa [CheckPart.spec?] using hhead) ih h
  | case4 arg option included htarget value rest hsplit ih =>
      obtain ⟨long, rfl⟩ := exists_optionName htarget
      obtain rfl := (eq_of_splitOption hsplit).1
      exact .of_part (.tags included long true value) (by simp [CheckPart.spec?]) ih h
  | case5 arg option included htarget value rest hsplit ih =>
      obtain ⟨long, rfl⟩ := exists_optionName htarget
      obtain rfl := (eq_of_splitOption hsplit).1
      exact .of_part (.tags included long false value) (by simp [CheckPart.spec?]) ih h
  | case6 arg option included htarget hsplit =>
      simp [readCheck, hsplit, htarget] at h

theorem arguments_ne_nil (part : CheckPart) : part.arguments ≠ [] := by
  cases part with
  | spec arg => simp [CheckPart.arguments]
  | tags included long inline value => cases inline <;> simp [CheckPart.arguments]

/-- A line is read by its words. The first of them names the action, and the others are its
arguments. -/
theorem parse_of_words {word first : String}
    (h : arguments? text.toList = some ((word :: first :: rest).map String.toList)) :
    parse base text = ofWord base text word first rest := by
  have hwords : ((word :: first :: rest).map String.toList).map String.ofList
      = word :: first :: rest := by
    simp [Function.comp_def]
  rw [parse, h]
  simp only [hwords]

/-- A check of at least one spec is read from its parts: the specs in their order, and for each of
the two sides the tags of all values in the order of the options. -/
theorem parse_of_parts (hheads : ∀ arg ∈ specsOf parts, arg.toList.head? ≠ some '-')
    (hspecs : specsOf parts ≠ [])
    (htext : arguments? text.toList
      = some (("check" :: parts.flatMap CheckPart.arguments).map String.toList)) :
    parse base text = .ok (.check ((specsOf parts).map fun arg => .from? base ⟨arg⟩)
      ⟨(valuesOf true parts).flatMap tagsOf, (valuesOf false parts).flatMap tagsOf⟩) := by
  have hne : parts.flatMap CheckPart.arguments ≠ [] := by
    cases parts with
    | nil => exact absurd rfl hspecs
    | cons part parts =>
        rw [List.flatMap_cons]
        exact List.append_ne_nil_of_left_ne_nil (arguments_ne_nil part) _
  obtain ⟨arg, args, hargs⟩ := List.exists_cons_of_ne_nil hspecs
  obtain ⟨first, rest, hfirst⟩ := List.exists_cons_of_ne_nil hne
  have hread : readCheck base text (first :: rest) = .ok (addParts base parts ([], {})) := by
    rw [← List.append_nil (first :: rest), ← hfirst]
    exact readCheck_parts hheads
  rw [hfirst] at htext
  rw [parse_of_words htext]
  simp only [ofWord, hread, addParts, hargs, List.map_cons, List.append_nil]

/-- What a check is read as: the specs in their order, and the tags of the values of each option in
theirs. Two lines with the same specs and values are read as the same check, however the options are
spelled and wherever they stand. -/
theorem parse_check {parts : List CheckPart}
    (hheads : ∀ arg ∈ specsOf parts, arg.toList.head? ≠ some '-') (hspecs : specsOf parts ≠ [])
    {text : String} (htext : arguments? text.toList
      = some (("check" :: parts.flatMap CheckPart.arguments).map String.toList))
    (base : Option Path) :
    parse base text = .ok (.check ((specsOf parts).map fun arg => .from? base ⟨arg⟩)
        ⟨(valuesOf true parts).flatMap tagsOf, (valuesOf false parts).flatMap tagsOf⟩) ∧
      ∀ (others : List CheckPart) (line : String), specsOf others = specsOf parts →
        (∀ included, valuesOf included others = valuesOf included parts) →
        arguments? line.toList
          = some (("check" :: others.flatMap CheckPart.arguments).map String.toList) →
        parse base line = parse base text := by
  have hread : parse base text = _ := parse_of_parts hheads hspecs htext
  refine ⟨hread, ?_⟩
  intro others line hsame hvalues hline
  have hother : parse base line = _ := parse_of_parts (hsame ▸ hheads) (hsame ▸ hspecs) hline
  rw [hread, hother, hsame, hvalues true, hvalues false]

/-- A value that looks like an option, one with empty tags, one that is empty, and a spec with an
equality sign. -/
def mixedParts : List CheckPart :=
  [.tags false false false "--include=a", .spec "home.spec", .tags true true true " wide , ,all",
    .tags true false true "", .spec "menu=x.spec"]

/-- The same specs and values, with the options behind the specs. -/
def sortedParts : List CheckPart :=
  [.spec "home.spec", .spec "menu=x.spec", .tags true false false " wide , ,all",
    .tags true true false "", .tags false true true "--include=a"]

theorem parse_check_mixedParts :
    parse (some ⟨"suites"⟩)
          "check -e --include=a home.spec '--include= wide , ,all' -i= menu=x.spec"
        = .ok (.check [⟨"suites/home.spec"⟩, ⟨"suites/menu=x.spec"⟩]
            ⟨["wide", "all"], ["--include=a"]⟩) ∧
      parse (some ⟨"suites"⟩)
          "check home.spec menu=x.spec -i ' wide , ,all' --include '' --exclude=--include=a"
        = parse (some ⟨"suites"⟩)
            "check -e --include=a home.spec '--include= wide , ,all' -i= menu=x.spec" := by
  have hmixed := @parse_check mixedParts (by decide) (by decide)
    "check -e --include=a home.spec '--include= wide , ,all' -i= menu=x.spec"
    (by decide +kernel) (some ⟨"suites"⟩)
  refine ⟨hmixed.1.trans ?_, hmixed.2 sortedParts _ (by decide) (by decide) (by decide +kernel)⟩
  decide +kernel

end LayoutSpec.Action
