import LayoutSpec.Proofs.Document.Run
import LayoutSpec.Proofs.Document.Step
import LayoutSpec.Proofs.ObjectTable

/-!
What reading guarantees of a document: its names, tags, locators, patterns and constraints all have
lines, an object is in the table once, and a block has a condition.
-/

namespace LayoutSpec

open Text

namespace Parameters

theorem isBlank_of_mem_inner {line inner : List Char} (h : inner? line = some inner) :
    ∀ c ∈ inner, isBlank c = false := by
  rw [inner?] at h
  split at h
  · next rest hrest =>
      split at h
      · obtain rfl := Option.some.inj h
        intro c hc
        have hmem : c ∈ line.filter (!isBlank ·) := by
          rw [hrest]
          exact List.mem_cons_of_mem _ (List.dropLast_subset _ hc)
        simpa using (List.mem_filter.mp hmem).2
      · cases h
  · cases h

/-- A value of an item that holds neither blanks nor commas is a parameter. A numeral has digits
alone, and an item that is no range is its own value. -/
theorem isParameter_of_mem_itemValues {item : List Char} {values : List (List Char)}
    (hblank : ∀ c ∈ item, isBlank c = false) (hcomma : ',' ∉ item)
    (h : itemValues? item = some values) : ∀ value ∈ values, IsParameter (String.ofList value) := by
  have hself : item ≠ [] → IsParameter (String.ofList item) := by
    intro hne
    rw [IsParameter, IsWord, String.toList_ofList]
    exact ⟨⟨hne, hblank⟩, hcomma⟩
  rw [itemValues?] at h
  split at h
  · cases h
  · next hbrackets =>
      have hne : item ≠ [] := by
        rintro rfl
        simp at hbrackets
      split at h
      · obtain rfl := Option.some.inj h
        simpa using hself hne
      · split at h
        · split at h
          · obtain rfl := Option.some.inj h
            intro value hvalue
            obtain ⟨n, -, rfl⟩ := List.mem_map.mp hvalue
            rw [IsParameter, IsWord, String.toList_ofList]
            refine ⟨⟨natNumeral_ne_nil n, fun c hc => isBlank_of_isDigit ?_⟩, fun hc => ?_⟩
            · exact isDigit_of_mem_natNumeral hc
            · have hdigit := isDigit_of_mem_natNumeral hc
              revert hdigit
              decide
          · cases h
        · obtain rfl := Option.some.inj h
          simpa using hself hne

theorem mem_of_mapM_eq_some {α β : Type} {f : α → Option β} {xs : List α} {ys : List β}
    (h : xs.mapM f = some ys) : ∀ y ∈ ys, ∃ x ∈ xs, f x = some y := by
  induction xs generalizing ys with
  | nil =>
      obtain rfl : [] = ys := by simpa using h
      simp
  | cons x xs ih =>
      rw [List.mapM_cons] at h
      obtain ⟨y, hy, h⟩ := Option.bind_eq_some_iff.mp h
      obtain ⟨rest, hrest, h⟩ := Option.bind_eq_some_iff.mp h
      obtain rfl : y :: rest = ys := Option.some.inj h
      intro z hz
      rcases List.mem_cons.mp hz with rfl | hz
      · exact ⟨x, by simp, hy⟩
      · obtain ⟨w, hw, hz⟩ := ih hrest z hz
        exact ⟨w, by simp [hw], hz⟩

/-- Every value of a parameter line is a parameter. -/
theorem isParameter_of_parse {line : List Char} {values : List String}
    (h : parse? line = some values) : ∀ value ∈ values, IsParameter value := by
  obtain ⟨inner, hinner, h⟩ := Option.bind_eq_some_iff.mp h
  obtain ⟨found, hfound, h⟩ := Option.bind_eq_some_iff.mp h
  obtain rfl := Option.some.inj h
  intro value hvalue
  obtain ⟨chars, hchars, rfl⟩ := List.mem_map.mp hvalue
  obtain ⟨itemValues, hmem, hchars⟩ := List.mem_flatten.mp hchars
  obtain ⟨item, hitem, hvalues⟩ := mem_of_mapM_eq_some hfound itemValues hmem
  rw [List.splitOn_eq_splitOnP] at hitem
  have hpiece := of_mem_splitOnP hitem
  have hblank : ∀ c ∈ item, isBlank c = false := fun c hc =>
    isBlank_of_mem_inner hinner c (hpiece c hc).2
  have hcomma : ',' ∉ item := fun hc => by simpa using (hpiece ',' hc).1
  exact isParameter_of_mem_itemValues hblank hcomma hvalues chars hchars

end Parameters

namespace ReadState

/-- The pattern of a group line is a pattern: it is not empty, stands on one line and is trimmed
also behind the colon that was taken off. -/
theorem isPattern_groupPattern {raw : List Char} (hfeed : '\n' ∉ raw)
    (hname : LineKind.of raw = .name) (hne : groupPattern (trim raw) ≠ []) :
    IsPattern (String.ofList (groupPattern (trim raw))) := by
  have hfits := LineKind.fits_of raw
  rw [hname] at hfits
  obtain ⟨-, hstart, -⟩ := hfits
  have hsub : ∀ c ∈ groupPattern (trim raw), c ∈ trim raw := by
    intro c hc
    have hmem := mem_of_mem_trim hc
    split at hmem
    · exact List.dropLast_subset _ hmem
    · exact hmem
  have hdropLast : ∀ c ∈ (trim raw).dropLast.head?, c ∈ (trim raw).head? := by
    rcases trim raw with _ | ⟨d, _ | ⟨e, rest⟩⟩ <;> simp
  have hhead : ∀ c ∈ (groupPattern (trim raw)).head?, c ∈ (trim raw).head? := by
    intro c hc
    rw [groupPattern] at hc
    split at hc
    · exact hdropLast c (head?_of_mem_head?_trim (fun d hd => head?_trim d (hdropLast d hd)) hc)
    · exact head?_of_mem_head?_trim head?_trim hc
  refine ⟨⟨?_, ?_, ?_⟩, ?_⟩
  · rw [String.toList_ofList, groupPattern, trim_trim]
  · rwa [String.toList_ofList]
  · rw [String.toList_ofList]
    exact fun hmem => hfeed (mem_of_mem_trim (hsub _ hmem))
  · intro c hc
    rw [String.toList_ofList] at hc
    obtain ⟨hcomment, htags, hparameters⟩ := hstart c (hhead c hc)
    exact ⟨htags, hcomment, hparameters⟩

end ReadState

/-- A parameter leaves a pattern a pattern. -/
theorem IsPattern.substituteParameter {value name : String} (hname : IsPattern name)
    (hvalue : IsParameter value) : IsPattern (substituteParameter value name) := by
  obtain ⟨htrim, hne, hfeed⟩ := hname.text
  refine ⟨⟨?_, ?_, Constraint.feed_not_mem_substituteParameter hfeed hvalue⟩, ?_⟩
  · rw [toList_substituteParameter]
    exact trim_substitute hvalue.1.1 hvalue.1.2 htrim
  · rw [toList_substituteParameter]
    exact substitute_ne_nil hvalue.1.1 hne
  · intro c hc
    obtain ⟨d, cs, hchars⟩ := List.exists_cons_of_ne_nil hne
    have hstart := hname.start d (by simp [hchars])
    rw [toList_substituteParameter, hchars] at hc
    obtain rfl : d = c := by simpa [substitute, hstart.1] using hc
    exact hstart

theorem Constraint.Printable.withParameter {value : String} {c : Constraint} (hc : c.Printable)
    (hvalue : IsParameter value) : (c.withParameter value).Printable :=
  ⟨Constraint.exists_parse_iff.mpr ((Constraint.exists_parse_iff.mp hc.1).withParameter hvalue),
    Constraint.OnOneLine.withParameter hc.2 hvalue⟩

theorem Constraint.printable_of_parse {line : List Char} {c : Constraint} (hfeed : '\n' ∉ line)
    (h : Constraint.parse none line = .ok c) : c.Printable :=
  ⟨⟨line, h⟩, fun s hs hmem => hfeed ((Constraint.of_parse_eq_ok h).2 s hs _ hmem)⟩

section Parts

variable {named : String → Prop} {b : ConditionalBlock} {sec : Section}

theorem ConditionalBlock.sound_first (inverted : Bool) :
    ConditionalBlock.Sound named { statements := [{ inverted }] } :=
  sound_iff.mpr ⟨by simp, by simp, by simp, by simp⟩

/-- A condition without groups may follow the others. -/
theorem ConditionalBlock.Sound.addStatement (hb : b.Sound named) (inverted : Bool) :
    ConditionalBlock.Sound named { b with statements := b.statements ++ [{ inverted }] } := by
  obtain ⟨-, hconditions, hbody, hother⟩ := sound_iff.mp hb
  refine sound_iff.mpr ⟨by simp, ?_, hbody, hother⟩
  exact List.forall_mem_append.mpr ⟨hconditions, by simp⟩

theorem ConditionalBlock.Sound.emptyOtherwise (hb : b.Sound named) :
    ConditionalBlock.Sound named { b with otherwise := some [] } := by
  obtain ⟨hne, hconditions, hbody, -⟩ := sound_iff.mp hb
  exact sound_iff.mpr ⟨hne, hconditions, hbody, by simp⟩

theorem Section.Sound.addBlock (hsec : sec.Sound named) (hb : b.Sound named) :
    Section.Sound named { sec with blocks := sec.blocks ++ [b] } := by
  refine ⟨hsec.tags, hsec.groups, ?_⟩
  exact List.forall_mem_append.mpr ⟨hsec.blocks, List.forall_mem_singleton.mpr hb⟩

/-- A section that has only tags. -/
theorem Section.sound_ofTags {tags : List Char} (htags : '\n' ∉ tags) :
    Section.Sound named { tags := (items ',' tags).map String.ofList } := by
  refine ⟨?_, by simp, by simp⟩
  intro tag htag
  obtain ⟨item, hitem, rfl⟩ := List.mem_map.mp htag
  obtain ⟨htrim, hne, hcomma, hmem⟩ := of_mem_items hitem
  rw [IsTag, IsLineText, String.toList_ofList]
  exact ⟨⟨htrim, hne, fun hnewline => htags (hmem _ hnewline)⟩, hcomma⟩

end Parts

namespace ReadState

/-- What holds of the reader's state behind any lines. -/
structure Sound (s : ReadState) : Prop where
  document : s.document.Sound IsPattern
  block : ∀ b ∈ s.block, b.Sound IsPattern
  pending : ∀ values ∈ s.pending, ∀ value ∈ values, IsParameter value
  opened : ∀ opened ∈ s.openGroups, ∀ value ∈ opened.values, IsParameter value

variable {context : ReadContext} {raw : List Char} {s t : ReadState}

theorem sound_initial : initial.Sound := by
  refine ⟨⟨fun _ hentry => absurd hentry List.not_mem_nil, ?_⟩, by simp [initial],
    by simp [initial], by simp [initial]⟩
  intro sec hsec
  obtain rfl : sec = {} := by simpa [initial] using hsec
  exact ⟨by simp, by simp, by simp⟩

theorem mem_modify {α : Type} {f : α → α} {i : Nat} {xs : List α} {a : α}
    (h : a ∈ xs.modify i f) : a ∈ xs ∨ ∃ b ∈ xs, a = f b := by
  induction xs generalizing i with
  | nil => simp at h
  | cons x xs ih =>
      cases i with
      | zero =>
          rw [List.modify_zero_cons, List.mem_cons] at h
          rcases h with rfl | h
          · exact Or.inr ⟨x, by simp, rfl⟩
          · exact Or.inl (by simp [h])
      | succ i =>
          rw [List.modify_succ_cons, List.mem_cons] at h
          rcases h with rfl | h
          · exact Or.inl (by simp)
          · rcases ih h with h | ⟨b, hb, rfl⟩
            · exact Or.inl (by simp [h])
            · exact Or.inr ⟨b, by simp [hb], rfl⟩

theorem Sound.modifySection (hs : s.Sound) {f : Section → Section}
    (hf : ∀ sec : Section, sec.Sound IsPattern → (f sec).Sound IsPattern) :
    (s.modifySection f).Sound := by
  refine ⟨⟨hs.document.objects, ?_⟩, hs.block, hs.pending, hs.opened⟩
  intro sec hsec
  rcases mem_modify hsec with hsec | ⟨old, hold, rfl⟩
  · exact hs.document.sections sec hsec
  · exact hf old (hs.document.sections old hold)

/-- The groups to which groups are added are sound, wherever they stand: in the current section, or
in a part of the block that is being built. -/
theorem Sound.groups (hs : s.Sound) {gs : List Group} (h : s.groups? = some gs) :
    ∀ g ∈ gs, g.Sound IsPattern := by
  have hsection : ∀ {gs}, s.document.sections[s.current]?.map (·.groups) = some gs →
      ∀ g ∈ gs, g.Sound IsPattern := by
    intro gs hgs
    obtain ⟨sec, hsec, rfl⟩ := Option.map_eq_some_iff.mp hgs
    exact (hs.document.sections sec (List.mem_of_getElem? hsec)).groups
  rw [groups?] at h
  cases hmode : s.mode with
  | start =>
      rw [hmode] at h
      exact hsection h
  | groups =>
      rw [hmode] at h
      exact hsection h
  | objects => simp [hmode] at h
  | statement =>
      rw [hmode] at h
      obtain ⟨b, hb, h⟩ := Option.bind_eq_some_iff.mp h
      obtain ⟨condition, hcondition, rfl⟩ := Option.map_eq_some_iff.mp h
      exact (ConditionalBlock.sound_iff.mp (hs.block b hb)).2.1 condition
        (List.mem_of_getLast? hcondition)
  | body =>
      rw [hmode] at h
      obtain ⟨b, hb, rfl⟩ := Option.map_eq_some_iff.mp h
      exact (ConditionalBlock.sound_iff.mp (hs.block b hb)).2.2.1
  | otherwise =>
      rw [hmode] at h
      obtain ⟨b, hb, h⟩ := Option.bind_eq_some_iff.mp h
      exact (ConditionalBlock.sound_iff.mp (hs.block b hb)).2.2.2 gs h

/-- Sound groups may take the place of others. Where they go is decided by the mode, and the parts
that they do not go to stay as they are. -/
theorem Sound.setGroups (hs : s.Sound) {gs : List Group} (hgs : ∀ g ∈ gs, g.Sound IsPattern) :
    (s.setGroups gs).Sound := by
  have hsection : (s.modifySection fun sec => { sec with groups := gs }).Sound :=
    hs.modifySection fun sec hsec => ⟨hsec.tags, hgs, hsec.blocks⟩
  have hblock : ∀ {f : ConditionalBlock → ConditionalBlock},
      (∀ b, b.Sound IsPattern → (f b).Sound IsPattern) →
      ({ s with block := s.block.map f } : ReadState).Sound := by
    intro f hf
    refine ⟨hs.document, ?_, hs.pending, hs.opened⟩
    intro b hb
    obtain ⟨old, hold, rfl⟩ := Option.map_eq_some_iff.mp (Option.mem_def.mp hb)
    exact hf old (hs.block old hold)
  rw [ReadState.setGroups]
  split
  · exact hsection
  · exact hsection
  · refine hblock fun b hb => ?_
    obtain ⟨hne, hconditions, hbody, hother⟩ := ConditionalBlock.sound_iff.mp hb
    refine ConditionalBlock.sound_iff.mpr ⟨?_, ?_, hbody, hother⟩
    · intro hnil
      exact hne (List.modify_eq_nil_iff.mp hnil)
    · intro condition hcondition
      rcases mem_modify hcondition with hcondition | ⟨old, -, rfl⟩
      · exact hconditions condition hcondition
      · exact hgs
  · refine hblock fun b hb => ?_
    obtain ⟨hne, hconditions, -, hother⟩ := ConditionalBlock.sound_iff.mp hb
    exact ConditionalBlock.sound_iff.mpr ⟨hne, hconditions, hgs, hother⟩
  · refine hblock fun b hb => ?_
    obtain ⟨hne, hconditions, hbody, -⟩ := ConditionalBlock.sound_iff.mp hb
    refine ConditionalBlock.sound_iff.mpr ⟨hne, hconditions, hbody, ?_⟩
    rintro groups ⟨⟩
    exact hgs
  · exact hs

theorem sound_openedGroups {pattern : String} {values : List String} (hpattern : IsPattern pattern)
    (hvalues : ∀ value ∈ values, IsParameter value) :
    ∀ g ∈ openedGroups pattern values, g.Sound IsPattern := by
  intro g hg
  rw [openedGroups] at hg
  split at hg
  · obtain rfl := List.mem_singleton.mp hg
    exact ⟨hpattern, by simp⟩
  · obtain ⟨value, hvalue, rfl⟩ := List.mem_map.mp hg
    exact ⟨hpattern.substituteParameter (hvalues value hvalue), by simp⟩

theorem printable_of_mem_copies {c : Constraint} {values : List String} (hc : c.Printable)
    (hvalues : ∀ value ∈ values, IsParameter value) : ∀ d ∈ copies c values, d.Printable := by
  intro d hd
  rw [copies] at hd
  split at hd
  · obtain rfl := List.mem_singleton.mp hd
    exact hc
  · obtain ⟨value, hvalue, rfl⟩ := List.mem_map.mp hd
    exact hc.withParameter (hvalues value hvalue)

theorem sound_addEach {gs : List Group} {cs : List Constraint} (hgs : ∀ g ∈ gs, g.Sound IsPattern)
    (hcs : ∀ c ∈ cs, c.Printable) : ∀ g ∈ addEach gs cs, g.Sound IsPattern := by
  induction gs generalizing cs with
  | nil => cases cs <;> simp [addEach]
  | cons g gs ih =>
      cases cs with
      | nil => exact hgs
      | cons c cs =>
          obtain ⟨hpattern, hconstraints⟩ := hgs g (by simp)
          intro other hother
          rcases List.mem_cons.mp hother with rfl | hother
          · refine ⟨hpattern, fun d hd => ?_⟩
            rcases List.mem_append.mp hd with hd | hd
            · exact hconstraints d hd
            · obtain rfl := List.mem_singleton.mp hd
              exact hcs d (by simp)
          · exact ih (fun g hg => hgs g (by simp [hg]))
              (fun d hd => hcs d (by simp [hd])) other hother

theorem sound_withConstraint {gs : List Group} {opened : OpenGroups} {c : Constraint}
    (hgs : ∀ g ∈ gs, g.Sound IsPattern) (hc : c.Printable)
    (hvalues : ∀ value ∈ opened.values, IsParameter value) :
    ∀ g ∈ withConstraint gs opened c, g.Sound IsPattern := by
  intro g hg
  rcases List.mem_append.mp hg with hg | hg
  · exact hgs g (List.mem_of_mem_take hg)
  · exact sound_addEach (fun g hg => hgs g (List.mem_of_mem_drop hg))
      (printable_of_mem_copies hc hvalues) g hg

/-- A locator that was read from a part of a line has a line. Its query is not empty, is trimmed and
holds no line feed. -/
theorem printable_of_parse {text : List Char} {l : Locator} (hfeed : '\n' ∉ text)
    (h : Locator.parse text = .ok l) : l.Printable := by
  simp only [Locator.parse] at h
  split at h
  · cases h
  · next word value hcut =>
      split at h
      · cases h
      · next hparts =>
          obtain rfl := Except.ok.inj h
          obtain ⟨c, hc, hword, htext⟩ := eq_append_of_cutAt hcut
          have hvalue : '\n' ∉ trim value := by
            intro hmem
            refine hfeed (mem_of_mem_trim ?_)
            rw [htext]
            exact List.mem_append_right _ (List.mem_cons_of_mem _ (mem_of_mem_trim hmem))
          simp only [Bool.or_eq_true, List.isEmpty_iff, not_or] at hparts
          refine ⟨?_, ?_, ?_, rfl⟩
          · rw [Strategy.word_ofWord, IsWord, String.toList_ofList]
            exact ⟨hparts.1, hword⟩
          · rw [Strategy.word_ofWord]
          · rw [IsLineText, String.toList_ofList]
            exact ⟨trim_trim value, hparts.2, hvalue⟩

/-- What is known of the definition of an object. The line is neither a comment nor an instruction
nor a marker, its name is not reserved, and its locator was read. -/
theorem sound_definition {name text : List Char} {l : Locator} (hfeed : '\n' ∉ raw)
    (hidle : LineKind.of raw ≠ .idle) (hdirective : ∀ rest, LineKind.of raw ≠ .directive rest)
    (hcut : cutAt isBlank (trim raw) = some (name, text))
    (hreserved : BlockKeyword.isReserved name = false) (hlocator : Locator.parse text = .ok l) :
    IsObjectName (String.ofList name) ∧ l.Printable := by
  obtain ⟨hne, hcomment, hsigns⟩ := LineKind.of_definition hidle hdirective
  obtain ⟨c, hc, hword, hline⟩ := eq_append_of_cutAt hcut
  have hname : name ≠ [] := by
    rintro rfl
    have hblank := head?_trim c (by rw [hline]; rfl)
    simp [hc] at hblank
  refine ⟨⟨?_, ?_, ?_, by rwa [String.toList_ofList]⟩, printable_of_parse ?_ hlocator⟩
  · rw [IsWord, String.toList_ofList]
    exact ⟨hname, hword⟩
  · rw [String.toList_ofList]
    intro hhead
    exact hcomment (by rw [hline, List.head?_append, hhead, Option.some_or])
  · rintro ⟨rest, hname⟩
    rw [String.toList_ofList (l := name)] at hname
    exact hsigns ⟨rest ++ c :: text, by rw [hline, ← hname, List.append_assoc]⟩
  · intro hmem
    refine hfeed (mem_of_mem_trim ?_)
    rw [hline]
    exact List.mem_append_right _ (List.mem_cons_of_mem _ hmem)

theorem sound_insert {table : ObjectTable} {name : String} {l : Locator} (ht : table.Sound)
    (hname : IsObjectName name) (hl : l.Printable) : (table.insert name l).Sound := by
  intro entry hentry
  rcases mem_putEntry hentry with rfl | hold
  · exact ⟨hname, hl⟩
  · exact ht entry hold

/-- A line that is no import keeps the state sound. The import line is treated elsewhere, as the
document that it brings in has to be known to be sound. -/
theorem Sound.change (hs : s.Sound) (hbase : context.base = none) (hfeed : '\n' ∉ raw)
    (himport : (LineKind.of raw).isImport = false) (h : Change context raw s t) : t.Sound := by
  have hline : '\n' ∉ trim raw := fun hmem => hfeed (mem_of_mem_trim hmem)
  cases h with
  | nothing => exact hs
  | «import» d hkind => simp [hkind] at himport
  | startObjects => exact ⟨hs.document, hs.block, hs.pending, by simp⟩
  | define name text l hidle hdirective hcut hreserved hlocator =>
      obtain ⟨hname, hl⟩ := sound_definition hfeed hidle hdirective hcut hreserved hlocator
      exact ⟨⟨sound_insert hs.document.objects hname hl, hs.document.sections⟩, hs.block,
        hs.pending, hs.opened⟩
  | openSection tags htags =>
      have hnew : Section.Sound IsPattern { tags := (items ',' tags).map String.ofList } :=
        Section.sound_ofTags fun hmem => hline (htags _ hmem)
      have hsections := List.forall_mem_append.mpr
        ⟨hs.document.sections, List.forall_mem_singleton.mpr hnew⟩
      exact ⟨⟨hs.document.objects, hsections⟩, hs.block, hs.pending, by simp⟩
  | parameters values hkind hvalues =>
      refine ⟨hs.document, hs.block, ?_, hs.opened⟩
      rintro found ⟨⟩
      exact Parameters.isParameter_of_parse hvalues
  | firstStatement inverted =>
      refine ⟨hs.document, ?_, hs.pending, by simp⟩
      rintro b ⟨⟩
      exact ConditionalBlock.sound_first inverted
  | nextStatement inverted b hblock =>
      refine ⟨hs.document, ?_, hs.pending, by simp⟩
      rintro other ⟨⟩
      exact (hs.block b hblock).addStatement inverted
  | body => exact ⟨hs.document, hs.block, hs.pending, by simp⟩
  | «otherwise» b hblock =>
      refine ⟨hs.document, ?_, hs.pending, by simp⟩
      rintro other ⟨⟩
      exact (hs.block b hblock).emptyOtherwise
  | close b hblock =>
      have hsection : (s.modifySection fun sec => { sec with blocks := sec.blocks ++ [b] }).Sound :=
        hs.modifySection fun sec hsec => hsec.addBlock (hs.block b hblock)
      exact ⟨hsection.document, by simp, hsection.pending, by simp⟩
  | constraint gs opened c hgroups hopened hparse =>
      rw [hbase] at hparse
      exact hs.setGroups (sound_withConstraint (hs.groups hgroups)
        (Constraint.printable_of_parse hline hparse) (hs.opened opened hopened))
  | openGroups gs hname hgroups hne =>
      have hvalues : ∀ value ∈ s.pending.getD [], IsParameter value := by
        cases hcase : s.pending with
        | none => simp
        | some values => exact hs.pending values hcase
      have hset : (s.setGroups (gs ++ openedGroups
          (String.ofList (groupPattern (trim raw))) (s.pending.getD []))).Sound := by
        refine hs.setGroups fun g hg => ?_
        rcases List.mem_append.mp hg with hg | hg
        · exact hs.groups hgroups g hg
        · exact sound_openedGroups (isPattern_groupPattern hfeed hname hne) hvalues g hg
      refine ⟨hset.document, hset.block, by simp [withOpened], ?_⟩
      rintro opened ⟨⟩
      exact hvalues

/-- Reading keeps the state sound, if no other document is imported. With imports it has to be known
that these are sound as well. -/
theorem Sound.reads {lines : List (List Char)} (hs : s.Sound) (hbase : context.base = none)
    (hfeed : ∀ raw ∈ lines, '\n' ∉ raw)
    (himport : ∀ raw ∈ lines, (LineKind.of raw).isImport = false)
    (h : Reads context lines s t) : t.Sound :=
  h.preserves hs fun raw hraw _ _ _ hs hstep =>
    hs.change hbase (hfeed raw hraw) (himport raw hraw) (change_of_step hstep)

end ReadState

namespace Document

variable {tree : FileTree} {text : String} {d : Document}

/-- No line of a text is an import. -/
def WithoutImports (text : String) : Prop :=
  ∀ raw ∈ Text.lines text.toList, (LineKind.of raw).isImport = false

instance (text : String) : Decidable (WithoutImports text) :=
  decidable_of_iff
    ((Text.lines text.toList).all (fun raw => !(LineKind.of raw).isImport) = true)
    (by simp [WithoutImports])

/-- What reading a text guarantees: everything in the document has a line, and every section asserts
something. -/
theorem sound_of_ofText (himport : WithoutImports text) (h : ofText tree none text = .ok d) :
    d.Sound IsPattern ∧ ∀ s ∈ d.sections, s.isEmpty = false := by
  rw [ofText, readWithin_eq, ofLines_eq_ok_iff] at h
  obtain ⟨s, hreads, hfinish⟩ := h
  have hsound : s.Sound := ReadState.sound_initial.reads rfl
    (fun raw hraw => feed_not_mem_of_mem_lines hraw) himport hreads
  obtain ⟨-, -, rfl⟩ := ReadState.finish_eq_ok_iff.mp hfinish
  refine ⟨⟨hsound.document.objects, ?_⟩, ?_⟩
  · intro sec hsec
    exact hsound.document.sections sec (List.mem_filter.mp hsec).1
  · intro sec hsec
    simpa using (List.mem_filter.mp hsec).2

end Document

end LayoutSpec
