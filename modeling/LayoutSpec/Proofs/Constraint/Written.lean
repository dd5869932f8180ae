import LayoutSpec.Proofs.Constraint.Read
import LayoutSpec.Proofs.Token.Written

/-!
The line of a well-formed constraint is read as that constraint.
-/

namespace LayoutSpec.Constraint

open Text

def directionWords : Direction → List String
  | .above => ["above"]
  | .below => ["below"]
  | .leftOf => ["left", "of"]
  | .rightOf => ["right", "of"]

/-- The word that weakens `inside` and `contains`, if it is there. -/
def partlyWords (partly : Bool) : List String :=
  if partly then ["partly"] else []

def keywords : Constraint → List String
  | .absent => ["absent"]
  | .visible => ["visible"]
  | .width _ => ["width"]
  | .height _ => ["height"]
  | .inside _ partly _ => "inside" :: partlyWords partly
  | .near _ _ => ["near"]
  | .relative direction _ _ => directionWords direction
  | .aligned axis edge _ _ => ["aligned", axis.keyword, edge.keyword]
  | .centered axis relation _ _ => ["centered", axis.keyword, relation.keyword]
  | .contains partly _ => "contains" :: partlyWords partly
  | .text operation _ => ["text", operation.keyword]
  | .component _ => ["component"]

def joinWords (ws : List String) : List Char :=
  [' '].intercalate (ws.map String.toList)

/-- What stands behind the colon of a line, from the blank on. -/
def parameters : Constraint → List Char
  | .absent | .visible => []
  | .width range | .height range => ' ' :: range.chars
  | .inside object _ locations | .near object locations =>
    ' ' :: (object.toList ++ locationChars locations)
  | .relative _ object range => ' ' :: (object.toList ++ ' ' :: range.chars)
  | .aligned _ _ object tolerance | .centered _ _ object tolerance =>
    ' ' :: (object.toList ++ ' ' :: (PixelRange.exactly tolerance).chars)
  | .contains _ objects => ' ' :: ", ".toList.intercalate (objects.map String.toList)
  | .text _ expected => ' ' :: quote expected.toList
  | .component spec => ' ' :: spec.text.toList

/-- The reader of what stands behind the colon. -/
def reader : Constraint → TokenReader Constraint
  | .absent => pure .absent
  | .visible => pure .visible
  | .width _ => .width <$> TokenReader.range
  | .height _ => .height <$> TokenReader.range
  | .inside _ partly _ => readInside partly
  | .near _ _ => readNear
  | .relative direction _ _ => readRelative direction
  | .aligned axis edge _ _ => readAligned axis.keyword edge.keyword
  | .centered axis relation _ _ => readCentered axis.keyword relation.keyword
  | .contains partly _ => readContains partly
  | .text operation _ => readText operation.keyword
  | .component _ => readComponent none

def hasParameters : Constraint → Bool
  | .absent | .visible => false
  | _ => true

theorem chars_bare {c : Constraint} (h : c.hasParameters = false) :
    c.chars = joinWords c.keywords := by
  cases c with
  | absent => decide
  | visible => decide
  | _ => cases h

/-- A line is its words, a colon and its parameters. This is the form in which the reader looks for
a keyword: it cuts the line at the first colon. -/
theorem chars_parameters {c : Constraint} (h : c.hasParameters = true) :
    c.chars = joinWords c.keywords ++ ':' :: c.parameters := by
  cases c with
  | absent => cases h
  | visible => cases h
  | width range => exact rfl
  | height range => exact rfl
  | inside object partly locations =>
      change "inside".toList ++ partlyChars partly ++ ": ".toList ++ object.toList
        ++ locationChars locations = _
      cases partly <;> simp [keywords, parameters, joinWords, partlyWords, partlyChars]
  | near object locations =>
      change "near: ".toList ++ object.toList ++ locationChars locations = _
      simp [keywords, parameters, joinWords]
  | relative direction object range =>
      change direction.keyword.toList ++ ": ".toList ++ object.toList ++ ' ' :: range.chars = _
      cases direction <;>
        simp [keywords, parameters, joinWords, directionWords, Direction.keyword]
  | aligned axis edge object tolerance =>
      change "aligned ".toList ++ axis.keyword.toList ++ ' ' :: edge.keyword.toList
        ++ ": ".toList ++ object.toList ++ ' ' :: intNumeral tolerance ++ "px".toList = _
      simp [keywords, parameters, joinWords, PixelRange.chars]
  | centered axis relation object tolerance =>
      change "centered ".toList ++ axis.keyword.toList ++ ' ' :: relation.keyword.toList
        ++ ": ".toList ++ object.toList ++ ' ' :: intNumeral tolerance ++ "px".toList = _
      simp [keywords, parameters, joinWords, PixelRange.chars]
  | contains partly objects =>
      change "contains".toList ++ partlyChars partly ++ ": ".toList
        ++ ", ".toList.intercalate (objects.map String.toList) = _
      cases partly <;> simp [keywords, parameters, joinWords, partlyWords, partlyChars]
  | text operation expected =>
      change "text ".toList ++ operation.keyword.toList ++ ": ".toList
        ++ quote expected.toList = _
      simp [keywords, parameters, joinWords]
  | component spec => exact rfl

theorem readerOf?_keywords (c : Constraint) : readerOf? none c.keywords = some c.reader := by
  cases c with
  | absent => rfl
  | visible => rfl
  | width range => rfl
  | height range => rfl
  | inside object partly locations => cases partly <;> rfl
  | near object locations => rfl
  | relative direction object range => cases direction <;> rfl
  | aligned axis edge object tolerance => rfl
  | centered axis relation object tolerance => rfl
  | contains partly objects => cases partly <;> rfl
  | text operation expected => rfl
  | component spec => rfl

def isSmall (w : String) : Bool :=
  !w.toList.isEmpty && w.toList.all Char.isLower

theorem all_isSmall_keywords (c : Constraint) : c.keywords.all isSmall = true := by
  cases c with
  | inside object partly locations => cases partly <;> simp only [keywords] <;> decide
  | relative direction object range => cases direction <;> simp only [keywords] <;> decide
  | aligned axis edge object tolerance =>
      cases axis <;> cases edge <;> simp only [keywords] <;> decide
  | centered axis relation object tolerance =>
      cases axis <;> cases relation <;> simp only [keywords] <;> decide
  | contains partly objects => cases partly <;> simp only [keywords] <;> decide
  | text operation expected => cases operation <;> simp only [keywords] <;> decide
  | _ => simp only [keywords]; decide

theorem keywords_ne_nil (c : Constraint) : c.keywords ≠ [] := by
  cases c with
  | relative direction object range => cases direction <;> simp [keywords, directionWords]
  | _ => simp [keywords]

/-- The keyword words are written in small letters. -/
theorem isLower_of_mem_keywords {c : Constraint} {w : String} (h : w ∈ c.keywords) :
    w.toList ≠ [] ∧ ∀ d ∈ w.toList, d.isLower = true := by
  have hsmall := List.all_eq_true.mp (all_isSmall_keywords c) w h
  rw [isSmall, Bool.and_eq_true] at hsmall
  exact ⟨by simpa using hsmall.1, List.all_eq_true.mp hsmall.2⟩

theorem words_joinWords_keywords (c : Constraint) :
    (words (joinWords c.keywords)).map String.ofList = c.keywords := by
  have hws : ∀ w ∈ c.keywords.map String.toList, w ≠ [] ∧ ∀ d ∈ w, isBlank d = false := by
    intro w hw
    obtain ⟨word, hword, rfl⟩ := List.mem_map.mp hw
    obtain ⟨hne, hlower⟩ := isLower_of_mem_keywords hword
    exact ⟨hne, fun d hd => isBlank_of_isLower (hlower d hd)⟩
  rw [joinWords, words_intercalate (by decide) hws, List.map_map]
  simp [Function.comp_def]

theorem mem_joinWords {ws : List String} {d : Char} (h : d ∈ joinWords ws) :
    d = ' ' ∨ ∃ w ∈ ws, d ∈ w.toList := by
  cases ws with
  | nil => simp [joinWords] at h
  | cons w ws =>
      rw [joinWords, List.map_cons, intercalate_cons_eq, List.mem_append, List.mem_flatMap] at h
      rcases h with h | ⟨part, hpart, h⟩
      · exact Or.inr ⟨w, by simp, h⟩
      · obtain ⟨v, hv, rfl⟩ := List.mem_map.mp hpart
        rcases List.mem_cons.mp h with rfl | h
        · exact Or.inl rfl
        · exact Or.inr ⟨v, by simp [hv], h⟩

/-- The words hold no colon, so that the first one of a line stands behind them. -/
theorem ne_colon_of_mem_joinWords {c : Constraint} {d : Char} (h : d ∈ joinWords c.keywords) :
    d ≠ ':' := by
  rintro rfl
  rcases mem_joinWords h with hblank | ⟨w, hw, hd⟩
  · revert hblank
    decide
  · have hlower := (isLower_of_mem_keywords hw).2 ':' hd
    revert hlower
    decide

/-- A line starts with a small letter. -/
theorem exists_head?_chars (c : Constraint) : ∃ d, c.chars.head? = some d ∧ d.isLower = true := by
  have hjoin : ∃ d, (joinWords c.keywords).head? = some d ∧ d.isLower = true := by
    cases hwords : c.keywords with
    | nil => exact absurd hwords c.keywords_ne_nil
    | cons w ws =>
        have hmem : w ∈ c.keywords := by simp [hwords]
        obtain ⟨hw, hlower⟩ := isLower_of_mem_keywords hmem
        refine ⟨w.toList.head hw, ?_, hlower _ (List.head_mem hw)⟩
        rw [joinWords, List.map_cons, intercalate_cons_eq, List.head?_append,
          List.head?_eq_some_head hw, Option.some_or]
  obtain ⟨d, hd, hlower⟩ := hjoin
  refine ⟨d, ?_, hlower⟩
  cases hparameters : c.hasParameters with
  | false => rw [chars_bare hparameters, hd]
  | true => rw [chars_parameters hparameters, List.head?_append, hd, Option.some_or]

theorem objectName_append {name : String} {rest : List Char} (hname : IsWord name)
    (hrest : ∀ c ∈ rest.head?, isBlank c = true) :
    objectName (' ' :: (name.toList ++ rest)) = .ok name rest := by
  rw [objectName, TokenReader.word_append hname hrest]

theorem ofExcept_bind {α β : Type} {x : Except SyntaxCause α} {a : α} (hx : x = .ok a)
    (f : α → TokenReader β) (cs : List Char) :
    ((MonadExcept.ofExcept x : TokenReader α) >>= f) cs = f a cs := by
  rw [hx]
  rfl

theorem head?_locationChars (ls : List Location) :
    ∀ c ∈ (locationChars ls).head?, isBlank c = true := by
  cases ls with
  | nil => simp [locationChars]
  | cons l ls =>
      intro c hc
      obtain rfl : ' ' = c := by simpa [locationChars] using hc
      decide

theorem head?_blank_cons (cs : List Char) : ∀ c ∈ (' ' :: cs).head?, isBlank c = true := by
  intro c hc
  obtain rfl : ' ' = c := by simpa using hc
  decide

theorem hasToken_range (r : PixelRange) :
    TokenReader.hasToken (' ' :: r.chars) = .ok true (' ' :: r.chars) := by
  obtain ⟨c, hc, hblank⟩ := TokenReader.endsInWord_range r
  have hany : (' ' :: r.chars).any (!isBlank ·) = true :=
    List.any_eq_true.mpr ⟨c, List.mem_cons_of_mem _ (List.mem_of_getLast? hc), by simp [hblank]⟩
  rw [TokenReader.hasToken, hany]

theorem range_blank_chars {r : PixelRange} (hr : r.WellFormed) :
    TokenReader.range (' ' :: r.chars) = .ok r [] := by
  rw [TokenReader.range_blank_cons _ (by decide), ← List.append_nil r.chars]
  exact TokenReader.range_chars hr (by simp)

theorem toleranceOr_chars {default n : Int} (hn : IsTolerance n) :
    toleranceOr default (' ' :: (PixelRange.exactly n).chars) = .ok n [] := by
  have hformed : (PixelRange.exactly n).WellFormed := hn.2
  rw [toleranceOr, TokenReader.bind_eq_ok (hasToken_range _)]
  simp only [if_true]
  rw [TokenReader.bind_eq_ok (range_blank_chars hformed)]
  simp only [hn.1, if_true]
  rfl

/-- Names between commas are read back one by one. Each of them is trimmed and holds no comma. -/
theorem items_names {names : List String} (hnames : ∀ name ∈ names, IsItem name) :
    (items ',' (' ' :: ", ".toList.intercalate (names.map String.toList))).map String.ofList
      = names := by
  have hparts : ∀ part ∈ names.map String.toList, trim part = part ∧ part ≠ [] ∧ ',' ∉ part := by
    intro part hpart
    obtain ⟨name, hname, rfl⟩ := List.mem_map.mp hpart
    exact hnames name hname
  rw [items_blank_cons _ (by decide) (by decide),
    items_intercalate _ (fun part hpart => (hparts part hpart).1)
      (fun part hpart => (hparts part hpart).2.1) fun part hpart => (hparts part hpart).2.2,
    List.map_map]
  simp [Function.comp_def]

/-- What stands behind the colon of a line is read as the constraint, and nothing is left. There is
one case per keyword, in which the tokens of the line are taken one after another. -/
theorem reader_parameters {c : Constraint} (hc : c.WellFormed) (h : c.hasParameters = true) :
    c.reader c.parameters = .ok c [] := by
  cases c with
  | absent => cases h
  | visible => cases h
  | width range => rw [reader, parameters, TokenReader.run_map, range_blank_chars hc]
  | height range => rw [reader, parameters, TokenReader.run_map, range_blank_chars hc]
  | inside object partly locations =>
      rw [reader, parameters, readInside,
        TokenReader.bind_eq_ok (objectName_append hc.1 (head?_locationChars locations)),
        TokenReader.bind_eq_ok (TokenReader.locations_locationChars hc.2)]
      rfl
  | near object locations =>
      obtain ⟨hword, hne, hformed⟩ := hc
      rw [reader, parameters, readNear,
        TokenReader.bind_eq_ok (objectName_append hword (head?_locationChars locations)),
        TokenReader.bind_eq_ok (TokenReader.locations_locationChars hformed)]
      simp only [List.isEmpty_iff, hne, if_false]
      rfl
  | relative direction object range =>
      rw [reader, parameters, readRelative,
        TokenReader.bind_eq_ok (objectName_append hc.1 (head?_blank_cons _)),
        TokenReader.bind_eq_ok (hasToken_range range)]
      simp only [if_true]
      rw [TokenReader.bind_eq_ok (range_blank_chars hc.2)]
      rfl
  | aligned axis edge object tolerance =>
      obtain ⟨hlegal, hword, htolerance⟩ := hc
      have haxis : axisOf axis.keyword = .ok axis := by cases axis <;> rfl
      have hedge : edgeOf axis edge.keyword = .ok edge := by
        revert hlegal
        cases axis <;> cases edge <;> simp [edgeOf, AlignEdge.keyword, AlignEdge.isLegal]
      rw [reader, parameters, readAligned, ofExcept_bind haxis, ofExcept_bind hedge,
        TokenReader.bind_eq_ok (objectName_append hword (head?_blank_cons _)),
        TokenReader.bind_eq_ok (toleranceOr_chars htolerance)]
      rfl
  | centered axis relation object tolerance =>
      have haxis : centerAxisOf axis.keyword = .ok axis := by cases axis <;> rfl
      have hrelation : centerRelationOf relation.keyword = .ok relation := by
        cases relation <;> rfl
      rw [reader, parameters, readCentered, ofExcept_bind haxis, ofExcept_bind hrelation,
        TokenReader.bind_eq_ok (objectName_append hc.1 (head?_blank_cons _)),
        TokenReader.bind_eq_ok (toleranceOr_chars hc.2)]
      rfl
  | contains partly objects =>
      rw [reader, parameters, readContains,
        TokenReader.bind_eq_ok (x := TokenReader.takeRest) rfl, items_names hc.2]
      simp only [List.isEmpty_iff, hc.1, if_false]
      rfl
  | text operation expected =>
      have hoperation : textOperationOf operation.keyword = .ok operation := by
        cases operation <;> rfl
      have hquoted := TokenReader.quoted_quote expected []
      have hpattern :
          (decide (operation = .matches) && !Regex.compiles expected.toList) = false := by
        by_cases hmatches : operation = .matches
        · simp [hc hmatches]
        · simp [hmatches]
      rw [List.append_nil] at hquoted
      rw [reader, parameters, readText, ofExcept_bind hoperation, TokenReader.bind_eq_ok hquoted,
        hpattern]
      rfl
  | component spec =>
      have htrim : trim (' ' :: spec.text.toList) = spec.text.toList := by
        rw [trim_blank_cons _ (by decide), hc.1]
      rw [reader, parameters, readComponent,
        TokenReader.bind_eq_ok (x := TokenReader.takeRest) rfl, htrim]
      simp only [List.isEmpty_iff, hc.2, if_false, String.ofList_toList]
      rfl

theorem endsInWord_of_isWord {name : String} (h : IsWord name) : EndsInWord name.toList :=
  .of_trim (trim_of_no_blank h.2) h.1

theorem endsInWord_locationChars {before : List Char} (h : EndsInWord before)
    (ls : List Location) : EndsInWord (before ++ locationChars ls) := by
  cases ls with
  | nil => simpa [locationChars] using h
  | cons l ls =>
      have hfirst : EndsInWord (' ' :: l.chars) := (TokenReader.endsInWord_location l).append [' ']
      exact (hfirst.append_flatMap ls fun other _ =>
        (TokenReader.endsInWord_location other).append ", ".toList).append before

/-- The parameters of a line end in a sign that is no blank, so that nothing of them is lost when
the line is trimmed. -/
theorem endsInWord_parameters {c : Constraint} (hc : c.WellFormed) (h : c.hasParameters = true) :
    EndsInWord c.parameters := by
  cases c with
  | absent => cases h
  | visible => cases h
  | width range => exact (TokenReader.endsInWord_range range).append [' ']
  | height range => exact (TokenReader.endsInWord_range range).append [' ']
  | inside object partly locations =>
      exact (endsInWord_locationChars (endsInWord_of_isWord hc.1) locations).append [' ']
  | near object locations =>
      exact (endsInWord_locationChars (endsInWord_of_isWord hc.1) locations).append [' ']
  | relative direction object range =>
      have hrange := (TokenReader.endsInWord_range range).append [' ']
      exact (hrange.append object.toList).append [' ']
  | aligned axis edge object tolerance =>
      have hrange := (TokenReader.endsInWord_range (.exactly tolerance)).append [' ']
      exact (hrange.append object.toList).append [' ']
  | centered axis relation object tolerance =>
      have hrange := (TokenReader.endsInWord_range (.exactly tolerance)).append [' ']
      exact (hrange.append object.toList).append [' ']
  | contains partly objects =>
      obtain ⟨hne, hitems⟩ := hc
      have hends : ∀ part ∈ objects.map String.toList, EndsInWord part := by
        intro part hpart
        obtain ⟨name, hname, rfl⟩ := List.mem_map.mp hpart
        exact .of_trim (hitems name hname).1 (hitems name hname).2.1
      exact (endsInWord_intercalate (by simpa using hne) hends).append [' ']
  | text operation expected =>
      have hquote : EndsInWord ['"'] := ⟨'"', rfl, by decide⟩
      exact (hquote.append ('"' :: escape expected.toList)).append [' ']
  | component spec => exact (EndsInWord.of_trim hc.1 hc.2).append [' ']

/-- A line ends with a word, so that nothing is lost when it is trimmed. Without parameters the last
word is one of the keyword. -/
theorem endsInWord_chars {c : Constraint} (hc : c.WellFormed) : EndsInWord c.chars := by
  cases hparameters : c.hasParameters with
  | true =>
      rw [chars_parameters hparameters]
      exact ((endsInWord_parameters hc hparameters).append [':']).append (joinWords c.keywords)
  | false =>
      cases c with
      | absent => exact ⟨'t', by decide, by decide⟩
      | visible => exact ⟨'e', by decide, by decide⟩
      | _ => cases hparameters

theorem trim_chars {c : Constraint} (hc : c.WellFormed) : trim c.chars = c.chars := by
  obtain ⟨d, hd, hlower⟩ := exists_head?_chars c
  refine (endsInWord_chars hc).trim_eq_self fun e he => ?_
  obtain rfl : d = e := by simpa [hd] using he
  exact isBlank_of_isLower hlower

theorem feed_not_mem_locationChars (ls : List Location) : '\n' ∉ locationChars ls := by
  have hlocation : ∀ l : Location, '\n' ∉ l.chars := fun l h =>
    absurd (TokenReader.isFormal_of_mem_location h) (by decide)
  cases ls with
  | nil => simp [locationChars]
  | cons l ls => simp [locationChars, hlocation]

theorem feed_not_mem_parameters {c : Constraint} (h : c.OnOneLine) : '\n' ∉ c.parameters := by
  have hrange : ∀ r : PixelRange, '\n' ∉ r.chars := fun r hmem =>
    absurd (TokenReader.isFormal_of_mem_range hmem) (by decide)
  cases c with
  | absent => simp [parameters]
  | visible => simp [parameters]
  | width range => simp [parameters, hrange]
  | height range => simp [parameters, hrange]
  | inside object partly locations =>
      simpa [parameters, feed_not_mem_locationChars] using h object (by simp [strings])
  | near object locations =>
      simpa [parameters, feed_not_mem_locationChars] using h object (by simp [strings])
  | relative direction object range =>
      simpa [parameters, hrange] using h object (by simp [strings])
  | aligned axis edge object tolerance =>
      simpa [parameters, hrange] using h object (by simp [strings])
  | centered axis relation object tolerance =>
      simpa [parameters, hrange] using h object (by simp [strings])
  | contains partly objects =>
      have hnames : ∀ name ∈ objects, '\n' ∉ name.toList := fun name hname => h name hname
      cases objects with
      | nil => simp [parameters]
      | cons first rest =>
          rw [parameters, List.map_cons, intercalate_cons_eq]
          simpa using hnames
  | text operation expected =>
      have hexpected := h expected (by simp [strings])
      have hescape : '\n' ∉ escape expected.toList := by
        intro hmem
        obtain ⟨d, hd, hmem⟩ := List.mem_flatMap.mp hmem
        split at hmem
        · obtain rfl : '\n' = d := by simpa using hmem
          exact hexpected hd
        · obtain rfl : '\n' = d := by simpa using hmem
          exact hexpected hd
      simpa [parameters, quote] using hescape
  | component spec => simpa [parameters] using h spec.text (by simp [strings])

/-- A constraint whose parts are on one line has a line of its own. -/
theorem feed_not_mem_chars {c : Constraint} (h : c.OnOneLine) : '\n' ∉ c.chars := by
  have hwords : '\n' ∉ joinWords c.keywords := by
    intro hmem
    rcases mem_joinWords hmem with hblank | ⟨w, hw, hd⟩
    · revert hblank
      decide
    · have hlower := (isLower_of_mem_keywords hw).2 '\n' hd
      revert hlower
      decide
  cases hparameters : c.hasParameters with
  | false => rwa [chars_bare hparameters]
  | true =>
      rw [chars_parameters hparameters]
      simp [hwords, feed_not_mem_parameters h]

/-- The line of a well-formed constraint is read as that constraint. Its words come first and select
the reader, which takes all of the parameters. -/
theorem parse_chars {c : Constraint} (hc : c.WellFormed) : parse none c.chars = .ok c := by
  simp only [parse, trim_chars hc]
  cases hparameters : c.hasParameters with
  | true =>
      have hcut : cutAt (fun d => decide (d = ':')) c.chars
          = some (joinWords c.keywords, c.parameters) := by
        rw [chars_parameters hparameters]
        exact cutAt_append _ (by simpa using fun d hd => ne_colon_of_mem_joinWords hd) (by simp)
      simp only [hcut, Option.getD_some, words_joinWords_keywords, readerOf?_keywords,
        reader_parameters hc hparameters]
      rfl
  | false =>
      have hcut : cutAt (fun d => decide (d = ':')) c.chars = none := by
        rw [chars_bare hparameters]
        exact cutAt_eq_none (by simpa using fun d hd => ne_colon_of_mem_joinWords hd)
      have hreader : c.reader [] = .ok c [] := by
        cases c with
        | absent => rfl
        | visible => rfl
        | _ => cases hparameters
      simp only [hcut, Option.getD_none]
      rw [chars_bare hparameters, words_joinWords_keywords, readerOf?_keywords]
      simp only [hreader]
      rfl

/-- A constraint is one that a line can state exactly if its own line states it. So it does not
matter whether other lines are asked for as well. -/
theorem exists_parse_iff {c : Constraint} :
    (∃ text, parse none text = .ok c) ↔ c.WellFormed := by
  constructor
  · rintro ⟨text, htext⟩
    exact (of_parse_eq_ok htext).1
  · intro hc
    exact ⟨c.chars, parse_chars hc⟩

/-- Lines and constraints stand for each other exactly as far as the constraints are well-formed. -/
theorem parse_inverse_line :
    (∀ (text : List Char) (c : Constraint), parse none text = .ok c → c.WellFormed) ∧
      ∀ c : Constraint, c.WellFormed → parse none c.line.toList = .ok c := by
  constructor
  · intro text c htext
    have hread := of_parse_eq_ok htext
    exact hread.1
  · intro c hc
    have hline : c.line.toList = c.chars := String.toList_ofList
    rw [hline]
    exact parse_chars hc

/-- Both ends of the pixel numbers, a side behind the word that it begins with, and the name of an
object that could begin a range. -/
def farNear : Constraint :=
  near ">=1px" [⟨.between minPixel maxPixel, [.top, .left]⟩, ⟨.atLeast maxPixel, [.right]⟩]

theorem parse_inverse_line_farNear :
    farNear.WellFormed ∧
      parse none "near: >=1px -2147483648 to 2147483647px top left, >= 2147483647px right".toList
        = .ok farNear := by
  have hformed : farNear.WellFormed := by decide +kernel
  have hline : farNear.line
      = "near: >=1px -2147483648 to 2147483647px top left, >= 2147483647px right" := by
    decide +kernel
  have hparse := parse_inverse_line.2 farNear hformed
  rw [hline] at hparse
  exact ⟨hformed, hparse⟩

end LayoutSpec.Constraint
