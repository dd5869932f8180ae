import LayoutSpec.Action.Printer
import LayoutSpec.Proofs.Action.CheckArguments
import LayoutSpec.Proofs.Constraint.WellFormed
import LayoutSpec.Proofs.Size

/-!
Actions that are written and read again. Every argument is quoted where it needs quotes, but the
tags of a check are written bare. So an action comes back unless a tag holds a blank or a quote; a
check with such a tag is refused or read as another check.
-/

namespace LayoutSpec

open Text

namespace Action

variable {a b : Action} {text : String} {args : List String} {xs : List (List Char)}
  {x y : List Char} {specs : List Path} {filter : TagFilter}

/-- What the parts of an action are if a line can state it. -/
def WellFormed : Action → Prop
  | openPage _ | inject _ => True
  | resize size => size.Fits
  | setCookies cookies => cookies ≠ []
  | run _ arguments => ∀ json ∈ arguments, ∃ value, Json.parse json.toList = .ok value
  | check specs filter => specs ≠ [] ∧ (∀ spec ∈ specs, spec.text.toList.head? ≠ some '-') ∧
      ∀ tag ∈ filter.included ++ filter.excluded, IsItem tag

def tags : Action → List String
  | check _ filter => filter.included ++ filter.excluded
  | _ => []

/-- No tag holds a blank or a quote. -/
def HasPlainTags (a : Action) : Prop :=
  ∀ tag ∈ a.tags, isPlainArgument tag.toList = true

instance (a : Action) : Decidable a.HasPlainTags :=
  inferInstanceAs (Decidable (∀ tag ∈ a.tags, isPlainArgument tag.toList = true))

theorem isItem_of_mem_tagsOf {value tag : String} (h : tag ∈ tagsOf value) : IsItem tag := by
  obtain ⟨item, hitem, rfl⟩ := List.mem_map.mp h
  obtain ⟨htrim, hne, hsep, -⟩ := of_mem_items hitem
  rw [IsItem, String.toList_ofList]
  exact ⟨htrim, hne, hsep⟩

/-- The specs of a check do not start with a dash, and its tags are trimmed and not empty, as they
come from the parts of its arguments. -/
theorem wellFormed_of_parted (h : Parted none args (specs, filter)) (hne : specs ≠ []) :
    (check specs filter).WellFormed := by
  obtain ⟨parts, -, hheads, hfound⟩ := h
  obtain ⟨rfl, rfl⟩ := Prod.mk.inj hfound
  refine ⟨hne, ?_, ?_⟩
  · intro spec hspec
    rw [List.append_nil] at hspec
    obtain ⟨arg, harg, rfl⟩ := List.mem_map.mp hspec
    exact hheads arg harg
  · intro tag htag
    simp only [List.append_nil, List.mem_append, List.mem_flatMap] at htag
    rcases htag with ⟨value, -, htag⟩ | ⟨value, -, htag⟩
    · exact isItem_of_mem_tagsOf htag
    · exact isItem_of_mem_tagsOf htag

/-- A check is read from arguments that have parts. It has at least one spec, and no other word
reads a check. -/
theorem of_ofWord_check {first : String} (h : ofWord none text "check" first args = .ok a) :
    ∃ specs filter, a = check specs filter ∧ specs ≠ [] ∧
      readCheck none text (first :: args) = .ok (specs, filter) := by
  simp only [ofWord] at h
  split at h
  · cases h
  · cases h
  · next specs filter hne hread =>
    obtain rfl := Except.ok.inj h
    exact ⟨specs, filter, rfl, hne, hread⟩

/-- An action that is read can be stated by a line again. There is one case for each word, with what
the reader demands of the arguments behind it. -/
theorem wellFormed_of_ofWord {word first : String} (h : ofWord none text word first args = .ok a) :
    a.WellFormed := by
  unfold ofWord at h
  split at h
  · obtain rfl := Except.ok.inj h
    trivial
  · cases hsize : Size.parse first.toList with
    | error cause => simp [hsize, Except.map] at h
    | ok size =>
        obtain rfl : resize size = a := by simpa [hsize, Except.map] using h
        exact Size.fits_of_parse hsize
  · obtain rfl := Except.ok.inj h
    exact List.cons_ne_nil _ _
  · obtain rfl := Except.ok.inj h
    trivial
  · split at h
    · obtain rfl := Except.ok.inj h
      intro json hjson
      cases hjson
    · next json hhead =>
      split at h
      · next value hvalue =>
        obtain rfl := Except.ok.inj h
        intro other hother
        obtain rfl : json = other := Option.some.inj hother
        exact ⟨value, hvalue⟩
      · cases h
  · obtain ⟨specs, filter, rfl, hne, hread⟩ := of_ofWord_check h
    exact wellFormed_of_parted (parted_of_readCheck hread) hne
  · cases h

/-- An action that was read can be stated by a line. So the only thing that can be wrong with a
written action is that its tags are not what they were. -/
theorem wellFormed_of_parse (h : parse none text = .ok a) : a.WellFormed := by
  rw [parse] at h
  split at h
  · cases h
  · split at h
    · exact wellFormed_of_ofWord h
    · cases h

/-- Arguments behind a line in which no quote is open are read as they were. Each is quoted where it
has to be. -/
theorem arguments?_argumentChars (h : arguments? x = some xs) (args : List String) :
    arguments? (x ++ argumentChars args) = some (xs ++ args.map String.toList) := by
  induction args generalizing x xs with
  | nil => simpa [argumentChars] using h
  | cons arg args ih =>
      have hfirst : arguments? (x ++ ' ' :: argument arg.toList) = some (xs ++ [arg.toList]) := by
        rw [arguments?_append_blank h, arguments?_argument]
        rfl
      have hrest := ih hfirst
      rw [List.append_assoc, List.append_assoc] at hrest
      exact hrest

def tagList (tags : List String) : List Char :=
  [','].intercalate (tags.map String.toList)

/-- The blanks and quotes of some texts. -/
def marksOf (texts : List String) : Nat :=
  marks (texts.map String.toList).flatten

theorem marksOf_append (texts others : List String) :
    marksOf (texts ++ others) = marksOf texts + marksOf others := by
  rw [marksOf, List.map_append, List.flatten_append, marks_append]
  rfl

theorem marks_tagList (tags : List String) : marks (tagList tags) = marksOf tags :=
  marks_intercalate _

theorem marksOf_eq_zero_iff {texts : List String} :
    marksOf texts = 0 ↔ ∀ text ∈ texts, marks text.toList = 0 := by
  rw [marksOf, marks_flatten_eq_zero_iff, List.forall_mem_map]

/-- Tags that need no quotes make a list that needs none. -/
theorem isPlainArgument_tagList {tags : List String} (hne : tags ≠ [])
    (hplain : ∀ tag ∈ tags, isPlainArgument tag.toList = true) :
    isPlainArgument (tagList tags) = true := by
  refine isPlainArgument_iff.mpr ⟨?_, ?_⟩
  · intro hnil
    obtain ⟨tag, htag⟩ := List.exists_mem_of_ne_nil tags hne
    have hsub := flatten_sublist_intercalate [','] (tags.map String.toList)
    rw [← tagList, hnil, List.sublist_nil, List.flatten_eq_nil_iff] at hsub
    exact (isPlainArgument_iff.mp (hplain tag htag)).1 (hsub _ (List.mem_map_of_mem htag))
  · rw [marks_tagList, marksOf_eq_zero_iff]
    exact fun tag htag => (isPlainArgument_iff.mp (hplain tag htag)).2

theorem tagsOf_tagList {tags : List String} (hitems : ∀ tag ∈ tags, IsItem tag) :
    tagsOf (String.ofList (tagList tags)) = tags := by
  have hread : items ',' (tagList tags) = tags.map String.toList := by
    refine @items_intercalate_padded [] _ (by simp) ?_ ?_ ?_
    all_goals
      intro part hpart
      obtain ⟨tag, htag, rfl⟩ := List.mem_map.mp hpart
    · exact (hitems tag htag).1
    · exact (hitems tag htag).2.1
    · exact (hitems tag htag).2.2
  simp [tagsOf, hread, Function.comp_def]

/-- An option with tags is written as its name and a list of the tags. -/
theorem tagOption_eq {tags : List String} (included : Bool) (hne : tags ≠ []) :
    tagOption (" " ++ optionName included true) tags
      = ' ' :: (optionName included true).toList ++ ' ' :: tagList tags := by
  have hempty : ¬ tags.isEmpty = true := by simpa using hne
  rw [tagOption, if_neg hempty, String.toList_append]
  rfl

theorem chars_check :
    (check specs filter).chars = "check".toList ++ argumentChars (specs.map Path.text)
      ++ tagOption (" " ++ optionName true true) filter.included
      ++ tagOption (" " ++ optionName false true) filter.excluded := rfl

theorem argument_optionName (included : Bool) :
    argument (optionName included true).toList = (optionName included true).toList := by
  cases included <;> decide

def specParts (specs : List Path) : List CheckPart :=
  specs.map fun spec => .spec spec.text

/-- The part that an option with these tags is, if there are any. -/
def tagParts (included : Bool) (tags : List String) : List CheckPart :=
  if tags.isEmpty then [] else [.tags included true false (String.ofList (tagList tags))]

def partsOf (specs : List Path) (filter : TagFilter) : List CheckPart :=
  specParts specs ++ tagParts true filter.included ++ tagParts false filter.excluded

theorem arguments_specParts :
    (specParts specs).flatMap CheckPart.arguments = specs.map Path.text := by
  rw [specParts, List.flatMap_map, List.map_eq_flatMap]
  rfl

theorem specsOf_specParts : specsOf (specParts specs) = specs.map Path.text := by
  simp [specsOf, specParts, List.filterMap_map, Function.comp_def, CheckPart.spec?]

theorem valuesOf_specParts (side : Bool) : valuesOf side (specParts specs) = [] := by
  simp [valuesOf, specParts, CheckPart.value?]

theorem arguments?_tagOption (h : arguments? x = some xs) {tags : List String} (included : Bool)
    (hplain : ∀ tag ∈ tags, isPlainArgument tag.toList = true) :
    arguments? (x ++ tagOption (" " ++ optionName included true) tags)
      = some (xs ++ ((tagParts included tags).flatMap CheckPart.arguments).map String.toList) := by
  by_cases hnil : tags = []
  · simp [hnil, tagOption, tagParts, h]
  · have hlist : argument (tagList tags) = tagList tags :=
      if_pos (isPlainArgument_tagList hnil hplain)
    have hwritten : tagOption (" " ++ optionName included true) tags
        = argumentChars [optionName included true, String.ofList (tagList tags)] := by
      rw [tagOption_eq included hnil]
      simp [argumentChars, argument_optionName, hlist]
    rw [hwritten, arguments?_argumentChars h]
    simp [tagParts, hnil, CheckPart.arguments]

theorem specsOf_partsOf : specsOf (partsOf specs filter) = specs.map Path.text := by
  have htags : ∀ included tags, specsOf (tagParts included tags) = [] := by
    intro included tags
    unfold tagParts
    split <;> rfl
  calc specsOf (partsOf specs filter)
      = specsOf (specParts specs) ++ specsOf (tagParts true filter.included)
          ++ specsOf (tagParts false filter.excluded) := by
        simp only [specsOf, partsOf, List.filterMap_append]
    _ = specs.map Path.text := by
        rw [htags, htags, specsOf_specParts, List.append_nil, List.append_nil]

theorem tagsOf_valuesOf_tagParts {tags : List String} (included side : Bool)
    (hitems : ∀ tag ∈ tags, IsItem tag) :
    (valuesOf side (tagParts included tags)).flatMap tagsOf
      = if included = side then tags else [] := by
  by_cases hnil : tags = []
  · simp [hnil, tagParts, valuesOf]
  · cases included <;> cases side <;>
      simp [tagParts, hnil, valuesOf, CheckPart.value?, tagsOf_tagList hitems]

theorem tagsOf_valuesOf_partsOf (side : Bool)
    (hitems : ∀ tag ∈ filter.included ++ filter.excluded, IsItem tag) :
    (valuesOf side (partsOf specs filter)).flatMap tagsOf
      = if side then filter.included else filter.excluded := by
  calc (valuesOf side (partsOf specs filter)).flatMap tagsOf
      = (valuesOf side (specParts specs)).flatMap tagsOf
          ++ (valuesOf side (tagParts true filter.included)).flatMap tagsOf
          ++ (valuesOf side (tagParts false filter.excluded)).flatMap tagsOf := by
        simp only [valuesOf, partsOf, List.filterMap_append, List.flatMap_append]
    _ = (if true = side then filter.included else [])
          ++ (if false = side then filter.excluded else []) := by
        rw [valuesOf_specParts, List.flatMap_nil, List.nil_append,
          tagsOf_valuesOf_tagParts true side fun tag htag =>
            hitems tag (List.mem_append_left _ htag),
          tagsOf_valuesOf_tagParts false side fun tag htag =>
            hitems tag (List.mem_append_right _ htag)]
    _ = if side then filter.included else filter.excluded := by cases side <;> simp

/-- A check whose tags need no quotes is read back. Its arguments are those of `partsOf`, so that
this is a case of `parse_of_parts`. -/
theorem parse_display_check (h : (check specs filter).WellFormed)
    (hplain : (check specs filter).HasPlainTags) :
    parse none (check specs filter).display = .ok (check specs filter) := by
  obtain ⟨hne, hheads, hitems⟩ := h
  have hword : arguments? "check".toList = some ["check".toList] := by decide
  have htext : arguments? (check specs filter).display.toList
      = some
        (("check" :: (partsOf specs filter).flatMap CheckPart.arguments).map String.toList) := by
    have hspecs := arguments?_argumentChars hword (specs.map Path.text)
    have hincluded := arguments?_tagOption hspecs true fun tag htag =>
      hplain tag (List.mem_append_left _ htag)
    have hexcluded := arguments?_tagOption hincluded false fun tag htag =>
      hplain tag (List.mem_append_right _ htag)
    rw [display, String.toList_ofList, chars_check, hexcluded, partsOf, List.flatMap_append,
      List.flatMap_append, arguments_specParts]
    simp
  have hspecs : ∀ arg ∈ specsOf (partsOf specs filter), arg.toList.head? ≠ some '-' := by
    rw [specsOf_partsOf, List.forall_mem_map]
    exact hheads
  have hnonempty : specsOf (partsOf specs filter) ≠ [] := by
    rw [specsOf_partsOf]
    simpa using hne
  rw [parse_of_parts hspecs hnonempty htext, specsOf_partsOf, tagsOf_valuesOf_partsOf true hitems,
    tagsOf_valuesOf_partsOf false hitems, List.map_map]
  simp [Function.comp_def, Path.from?]

/-- What is written as a word and arguments is read by them. -/
theorem parse_argumentChars (word : String) {first : String} {rest : List String}
    (hword : arguments? word.toList = some [word.toList])
    (hline : a.chars = word.toList ++ argumentChars (first :: rest)) :
    parse none a.display = ofWord none a.display word first rest := by
  refine parse_of_words ?_
  rw [display, String.toList_ofList, hline, arguments?_argumentChars hword]
  rfl

/-- Whatever a line can state is read back from the line that is written for it, if no tag needs
quotes. -/
theorem parse_display (h : a.WellFormed) (hplain : a.HasPlainTags) :
    parse none a.display = .ok a := by
  cases a with
  | openPage url =>
      rw [parse_argumentChars "open" (by decide) rfl]
      simp only [ofWord]
  | resize size =>
      have hword : "resize ".toList = "resize".toList ++ [' '] := by decide
      have hsize : argumentChars [String.ofList size.chars] = ' ' :: size.chars := by
        rw [argumentChars, List.flatMap_singleton, String.toList_ofList, argument,
          if_pos Size.isPlainArgument_chars]
      have hline : (resize size).chars
          = "resize".toList ++ argumentChars [String.ofList size.chars] := by
        calc (resize size).chars = "resize ".toList ++ size.chars := rfl
          _ = "resize".toList ++ ' ' :: size.chars := by
            rw [hword, List.append_assoc, List.singleton_append]
          _ = "resize".toList ++ argumentChars [String.ofList size.chars] := by rw [hsize]
      rw [parse_argumentChars "resize" (by decide) hline]
      simp only [ofWord, String.toList_ofList, Size.parse_chars h, Except.map]
  | setCookies cookies =>
      obtain ⟨first, rest, rfl⟩ := List.exists_cons_of_ne_nil h
      rw [parse_argumentChars "cookie" (by decide) rfl]
      simp only [ofWord]
  | inject script =>
      rw [parse_argumentChars "inject" (by decide) rfl]
      simp only [ofWord, Path.from?]
  | run script arguments =>
      rw [parse_argumentChars "run" (by decide) rfl]
      cases arguments with
      | none => simp [ofWord, Path.from?]
      | some json =>
          obtain ⟨value, hvalue⟩ := h json rfl
          simp [ofWord, hvalue, Path.from?]
  | check specs filter => exact parse_display_check h hplain

theorem marks_le_arguments (included long inline : Bool) (value : String) :
    marks value.toList ≤ marksOf (CheckPart.tags included long inline value).arguments := by
  cases inline with
  | true =>
      have hsub : value.toList.Sublist (optionName included long ++ "=" ++ value).toList := by
        rw [String.toList_append]
        exact List.sublist_append_right ..
      simpa [marksOf, CheckPart.arguments] using marks_le_of_sublist hsub
  | false => simp [marksOf, CheckPart.arguments, marks_append]

theorem marksOf_tagsOf_le (value : String) : marksOf (tagsOf value) ≤ marks value.toList := by
  have hsub := marks_le_of_sublist (flatten_items_sublist ',' value.toList)
  simpa [marksOf, tagsOf, Function.comp_def] using hsub

/-- The tags of a check hold no more blanks and quotes than its arguments. Cutting a value at its
commas and trimming the pieces takes marks away and never adds any. -/
theorem marksOf_tags_le {args : List String} (h : readCheck none text args = .ok (specs, filter)) :
    marksOf filter.included + marksOf filter.excluded ≤ marksOf args := by
  obtain ⟨parts, rfl, -, hfound⟩ := parted_of_readCheck h
  clear h
  induction parts generalizing specs filter with
  | nil =>
      obtain ⟨rfl, rfl⟩ := Prod.mk.inj hfound
      exact Nat.le_refl 0
  | cons part parts ih =>
      rw [addParts_cons] at hfound
      obtain ⟨others, hothers⟩ : ∃ others, others = addParts none parts ([], {}) := ⟨_, rfl⟩
      have hlater := ih hothers
      rw [← hothers] at hfound
      rw [List.flatMap_cons, marksOf_append]
      cases part with
      | spec arg =>
          obtain ⟨rfl, rfl⟩ := Prod.mk.inj hfound
          exact hlater.trans (Nat.le_add_left _ _)
      | tags included long inline value =>
          have hvalue := marks_le_arguments included long inline value
          have htags := marksOf_tagsOf_le value
          obtain ⟨rfl, rfl⟩ := Prod.mk.inj hfound
          cases included <;>
            simp only [addTags, if_true, if_false, marksOf_append, Bool.false_eq_true] <;> omega

/-- Arguments that give the tags hold all of their blanks and quotes. If the line has hardly more,
it has no quotes, and then there are none in the tags. -/
theorem marksOf_eq_zero_of_readCheck {rest : List String} {included : Bool}
    (hrest : arguments? y = some (rest.map String.toList))
    (hread : readCheck none text (optionName included true :: rest) = .ok ([], filter))
    (hfew : marks y ≤ rest.length + marksOf filter.included + marksOf filter.excluded) :
    marksOf filter.included = 0 ∧ marksOf filter.excluded = 0 := by
  have hname : marksOf [optionName included true] = 0 := by cases included <;> decide
  have hle : marksOf filter.included + marksOf filter.excluded ≤ marksOf rest := by
    calc marksOf filter.included + marksOf filter.excluded
        ≤ marksOf ([optionName included true] ++ rest) := marksOf_tags_le hread
      _ = marksOf rest := by rw [marksOf_append, hname, Nat.zero_add]
  have hzero : marksOf rest = 0 := by
    refine marks_arguments?_eq_zero hrest ?_
    rw [List.length_map]
    change marks y ≤ rest.length + marksOf rest
    omega
  omega

/-- Specs stand for themselves in front of other arguments, if they do not start with a dash. -/
theorem readCheck_specs {rest : List String}
    (hheads : ∀ spec ∈ specs, spec.text.toList.head? ≠ some '-') :
    readCheck none text (specs.map Path.text ++ rest)
      = (readCheck none text rest).map fun others => (specs ++ others.1, others.2) := by
  have hspecs : ∀ arg ∈ specsOf (specParts specs), arg.toList.head? ≠ some '-' := by
    rw [specsOf_specParts, List.forall_mem_map]
    exact hheads
  have hadd : addParts none (specParts specs) = fun others => (specs ++ others.1, others.2) := by
    funext others
    rw [addParts, specsOf_specParts, valuesOf_specParts, valuesOf_specParts, List.map_map]
    simp [Function.comp_def, Path.from?]
  rw [← arguments_specParts, readCheck_parts hspecs, hadd]

/-- Behind specs of a written check, its filter is all that is read if the check is the same. So the
rest of the line gives tags only, and no further spec. -/
theorem readCheck_of_sameAs {included : Bool} {line : List Char}
    (hline : line = "check".toList ++ argumentChars (specs.map Path.text)
      ++ ' ' :: (optionName included true).toList ++ ' ' :: y)
    (hheads : ∀ spec ∈ specs, spec.text.toList.head? ≠ some '-')
    (h : parse none (String.ofList line) = .ok b) (hsame : b.SameAs (check specs filter)) :
    ∃ rest, arguments? y = some (rest.map String.toList) ∧
      readCheck none (String.ofList line) (optionName included true :: rest)
      = .ok ([], filter) := by
  have hword : arguments? "check".toList = some ["check".toList] := by decide
  have hfront := arguments?_argumentChars hword (specs.map Path.text ++ [optionName included true])
  rw [argumentChars, List.flatMap_append, ← argumentChars, List.flatMap_singleton,
    argument_optionName, ← List.append_assoc] at hfront
  have hargs := arguments?_append_blank hfront y
  rw [← hline] at hargs
  cases hy : arguments? y with
  | none => simp [parse, hargs, hy] at h
  | some ys =>
      obtain ⟨rest, rfl⟩ : ∃ rest : List String, ys = rest.map String.toList :=
        ⟨ys.map String.ofList, by simp [Function.comp_def]⟩
      refine ⟨rest, rfl, ?_⟩
      obtain ⟨first, others, hfirst⟩ : ∃ first others,
          specs.map Path.text ++ optionName included true :: rest = first :: others :=
        List.exists_cons_of_ne_nil (by simp)
      have hwords : arguments? (String.ofList line).toList
          = some (("check" :: first :: others).map String.toList) := by
        rw [← hfirst, String.toList_ofList, hargs, hy]
        simp
      rw [parse_of_words hwords] at h
      obtain ⟨found, given, rfl, -, hread⟩ := of_ofWord_check h
      obtain ⟨hpaths, rfl⟩ := Action.check.inj hsame
      rw [← hfirst, readCheck_specs hheads] at hread
      cases hlater : readCheck none (String.ofList line) (optionName included true :: rest) with
      | error cause => simp [hlater, Except.map] at hread
      | ok laters =>
          obtain ⟨extra, later⟩ := laters
          rw [hlater] at hread
          obtain ⟨rfl, rfl⟩ := Prod.mk.inj (Except.ok.inj hread)
          have hextra : extra = [] := by simpa using congrArg List.length hpaths
          rw [hextra]

/-- If the line has few blanks and quotes from its first list of tags on, a written check is read as
the same one only if its tags need no quotes. -/
theorem hasPlainTags_of_few {included : Bool} (h : (check specs filter).WellFormed)
    (hline : (check specs filter).chars = "check".toList ++ argumentChars (specs.map Path.text)
      ++ ' ' :: (optionName included true).toList ++ ' ' :: y)
    (hread : parse none (check specs filter).display = .ok b)
    (hsame : b.SameAs (check specs filter))
    (hfew : ∀ rest, readCheck none (check specs filter).display (optionName included true :: rest)
        = .ok ([], filter) →
      marks y ≤ rest.length + marksOf filter.included + marksOf filter.excluded) :
    (check specs filter).HasPlainTags := by
  obtain ⟨rest, hrest, hfound⟩ := readCheck_of_sameAs hline h.2.1 hread hsame
  obtain ⟨hincluded, hexcluded⟩ := marksOf_eq_zero_of_readCheck hrest hfound (hfew rest hfound)
  intro tag htag
  have hnone : marksOf (filter.included ++ filter.excluded) = 0 := by
    rw [marksOf_append, hincluded, hexcluded]
  exact isPlainArgument_iff.mpr ⟨(h.2.2 tag htag).2.1, marksOf_eq_zero_iff.mp hnone tag htag⟩

/-- A name, its value and at least one more argument are there if the other option has tags too. -/
theorem two_le_length_of_readCheck {rest : List String}
    (h : readCheck none text (optionName true true :: rest) = .ok (specs, filter))
    (hne : filter.excluded ≠ []) : 2 ≤ rest.length := by
  match rest with
  | [] => cases h
  | [value] =>
      have hone : readCheck none text ((CheckPart.tags true true false value).arguments ++ [])
          = .ok ([], ⟨tagsOf value ++ [], []⟩) :=
        readCheck_part (by simp [CheckPart.spec?])
      obtain ⟨-, rfl⟩ := Prod.mk.inj (Except.ok.inj (hone.symm.trans h))
      exact absurd rfl hne
  | _ :: _ :: _ => simp

/-- A written check is read as the same one only if its tags need no quotes. The tags are written
bare: a blank or a quote in one of them is used up when the line is cut into arguments, and the tags
that are read hold fewer of these marks. -/
theorem hasPlainTags_of_sameAs (h : (check specs filter).WellFormed)
    (hread : parse none (check specs filter).display = .ok b)
    (hsame : b.SameAs (check specs filter)) : (check specs filter).HasPlainTags := by
  by_cases hincluded : filter.included = [] <;> by_cases hexcluded : filter.excluded = []
  · simp [HasPlainTags, tags, hincluded, hexcluded]
  · have hline : (check specs filter).chars
        = "check".toList ++ argumentChars (specs.map Path.text)
          ++ ' ' :: (optionName false true).toList ++ ' ' :: tagList filter.excluded := by
      rw [chars_check, hincluded, tagOption_eq false hexcluded]
      simp [tagOption]
    refine hasPlainTags_of_few h hline hread hsame fun rest _ => ?_
    rw [marks_tagList]
    omega
  · have hline : (check specs filter).chars
        = "check".toList ++ argumentChars (specs.map Path.text)
          ++ ' ' :: (optionName true true).toList ++ ' ' :: tagList filter.included := by
      rw [chars_check, hexcluded, tagOption_eq true hincluded]
      simp [tagOption]
    refine hasPlainTags_of_few h hline hread hsame fun rest _ => ?_
    rw [marks_tagList]
    omega
  · have hline : (check specs filter).chars
        = "check".toList ++ argumentChars (specs.map Path.text)
          ++ ' ' :: (optionName true true).toList
          ++ ' ' :: (tagList filter.included ++ ' ' :: (optionName false true).toList
            ++ ' ' :: tagList filter.excluded) := by
      rw [chars_check, tagOption_eq true hincluded, tagOption_eq false hexcluded]
      simp
    refine hasPlainTags_of_few h hline hread hsame fun rest hrest => ?_
    -- The blanks around the second name are paid for by the second list and one more argument.
    have hlength := two_le_length_of_readCheck hrest hexcluded
    have hname : marks (' ' :: (optionName false true).toList ++ [' ']) = 2 := by decide
    rw [List.append_cons _ ' ' (tagList filter.excluded), List.append_assoc _ _ [' '],
      marks_append, marks_append, hname, marks_tagList, marks_tagList]
    omega

/-- An action that was read is read back from the line that is written for it exactly if none of its
tags holds a blank or a quote. If one does, the line is refused or does something else. -/
theorem parse_display_iff (h : parse none text = .ok a) :
    (parse none a.display = .ok a ↔ a.HasPlainTags) ∧
      (¬ a.HasPlainTags → ∀ b, parse none a.display = .ok b → ¬ b.SameAs a) := by
  have hwell := wellFormed_of_parse h
  have hsame : ∀ b, parse none a.display = .ok b → b.SameAs a → a.HasPlainTags := by
    intro b hread hsame
    cases a with
    | check specs filter => exact hasPlainTags_of_sameAs hwell hread hsame
    | openPage _ | resize _ | setCookies _ | inject _ | run _ _ => simp [HasPlainTags, tags]
  exact ⟨⟨fun hread => hsame a hread rfl, parse_display hwell⟩,
    fun hplain b hread hb => hplain (hsame b hread hb)⟩

/-- A check with a spec that needs quotes and with tags of three options. -/
def quotedCheck : Action :=
  check [⟨"my specs/home.spec"⟩, ⟨"menu.spec"⟩] ⟨["wide", "all", "tablet"], ["phone"]⟩

theorem parse_display_iff_quotedCheck :
    parse none "check 'my specs/home.spec' -e phone menu.spec -i ' wide , all' --include=tablet"
        = .ok quotedCheck ∧
      parse none quotedCheck.display = .ok quotedCheck := by
  have hread : parse none
      "check 'my specs/home.spec' -e phone menu.spec -i ' wide , all' --include=tablet"
        = .ok quotedCheck := by decide +kernel
  exact ⟨hread, (parse_display_iff hread).1.mpr (by decide +kernel)⟩

/-- The second word of the tag becomes another spec. -/
theorem parse_display_ne_largeDesktop :
    parse none "check home.spec --include 'large desktop'"
        = .ok (check [⟨"home.spec"⟩] ⟨["large desktop"], []⟩) ∧
      parse none (check [⟨"home.spec"⟩] ⟨["large desktop"], []⟩).display
        = .ok (check [⟨"home.spec"⟩, ⟨"desktop"⟩] ⟨["large"], []⟩) ∧
      ¬ (check [⟨"home.spec"⟩, ⟨"desktop"⟩] ⟨["large"], []⟩).SameAs
        (check [⟨"home.spec"⟩] ⟨["large desktop"], []⟩) := by
  exact ⟨by decide +kernel, by decide +kernel, by decide +kernel⟩

end Action

end LayoutSpec
