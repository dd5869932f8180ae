import LayoutSpec.Proofs.Document.Written

/-!
A document is read back from its own text.
-/

namespace LayoutSpec

open Text

namespace Document

variable {d : Document}

/-- A line that is not changed when the lines of a text are cut. -/
def KeepsLine (line : List Char) : Prop :=
  '\n' ∉ line ∧ line.getLast? ≠ some '\r'

theorem keepsLine_of_endsInWord {line : List Char} (hfeed : '\n' ∉ line) (h : EndsInWord line) :
    KeepsLine line :=
  ⟨hfeed, h.ne_return⟩

theorem feed_not_mem_isWord {name : String} (h : IsWord name) : '\n' ∉ name.toList := fun hmem =>
  absurd (h.2 '\n' hmem) (by decide)

theorem keepsLine_objectLine {name : String} {l : Locator} (hname : IsObjectName name)
    (hl : l.Printable) : KeepsLine (objectLine name l) := by
  refine keepsLine_of_endsInWord ?_ ?_
  · have hvalue := hl.value.2.2
    simp [objectLine, feed_not_mem_isWord hname.word, feed_not_mem_isWord hl.word, hvalue]
  · rw [objectLine]
    exact ((ReadState.endsInWord_of_lineText hl.value).append [' ']).append _

theorem keepsLine_objectLines {objects : ObjectTable} (h : objects.Sound) :
    ∀ line ∈ objectLines objects, KeepsLine line := by
  have hmarker : KeepsLine objectMarker := ⟨by decide, by decide⟩
  intro line hline
  rw [objectLines] at hline
  split at hline
  · cases hline
  · simp only [List.cons_append, List.mem_cons, List.mem_append, List.mem_map,
      List.not_mem_nil, or_false] at hline
    rcases hline with rfl | ⟨entry, hentry, rfl⟩ | rfl
    · exact hmarker
    · obtain ⟨hname, hl⟩ := h entry hentry
      exact keepsLine_objectLine hname hl
    · exact hmarker

variable {named : String → Prop}

/-- The patterns of the sort are texts with a line of their own. -/
def HaveLines (named : String → Prop) : Prop :=
  ∀ name, named name → IsLineText name

theorem keepsLine_group (hnamed : HaveLines named) {g : Group} (hg : g.Sound named) :
    ∀ line ∈ g.lines, KeepsLine line := by
  intro line hline
  rw [Group.lines, List.mem_cons, List.mem_map] at hline
  rcases hline with rfl | ⟨c, hc, rfl⟩
  · have htext := hnamed _ hg.pattern
    exact keepsLine_of_endsInWord htext.2.2 (ReadState.endsInWord_of_lineText htext)
  · obtain ⟨hstated, hfeed⟩ := hg.constraints c hc
    have hformed := Constraint.exists_parse_iff.mp hstated
    have hindent : '\n' ∉ constraintIndent := by decide
    refine keepsLine_of_endsInWord ?_ ((Constraint.endsInWord_chars hformed).append _)
    simp [hindent, Constraint.feed_not_mem_chars hfeed]

theorem keepsLine_groupLines (hnamed : HaveLines named) {groups : List Group}
    (h : ∀ g ∈ groups, g.Sound named) : ∀ line ∈ groupLines groups, KeepsLine line := by
  intro line hline
  obtain ⟨g, hg, hmem⟩ := List.mem_flatMap.mp hline
  exact keepsLine_group hnamed (h g hg) line hmem

theorem keepsLine_statement (hnamed : HaveLines named) {chained : Bool} {condition : Statement}
    (h : ∀ g ∈ condition.groups, g.Sound named) :
    ∀ line ∈ condition.lines chained, KeepsLine line := by
  intro line hline
  rcases List.mem_cons.mp hline with rfl | hline
  · cases chained <;> cases condition.inverted <;> exact ⟨by decide, by decide⟩
  · exact keepsLine_groupLines hnamed h line hline

theorem keepsLine_block (hnamed : HaveLines named) {b : ConditionalBlock} (hb : b.Sound named) :
    ∀ line ∈ b.lines, KeepsLine line := by
  obtain ⟨-, hcondition, hbody, hother⟩ := ConditionalBlock.sound_iff.mp hb
  have hdo : KeepsLine "do".toList := ⟨by decide, by decide⟩
  have hend : KeepsLine "end".toList := ⟨by decide, by decide⟩
  have hotherwise : KeepsLine "otherwise".toList := ⟨by decide, by decide⟩
  have hconditions : ∀ line ∈ ConditionalBlock.statementLines b.statements, KeepsLine line := by
    intro line hline
    cases hcase : b.statements with
    | nil => simp [hcase, ConditionalBlock.statementLines] at hline
    | cons first rest =>
        rw [hcase] at hcondition
        rw [hcase, ConditionalBlock.statementLines, List.mem_append, List.mem_flatMap] at hline
        rcases hline with hline | ⟨other, hother, hline⟩
        · exact keepsLine_statement hnamed (hcondition first (by simp)) line hline
        · exact keepsLine_statement hnamed (hcondition other (by simp [hother])) line hline
  intro line hline
  rw [ConditionalBlock.lines, List.mem_append, List.mem_append, List.mem_append, List.mem_cons,
    List.mem_singleton] at hline
  rcases hline with ((hline | rfl | hline) | hline) | rfl
  · exact hconditions line hline
  · exact hdo
  · exact keepsLine_groupLines hnamed hbody line hline
  · cases hcase : b.otherwise with
    | none => simp [hcase] at hline
    | some groups =>
        rw [hcase] at hline
        rcases List.mem_cons.mp hline with rfl | hline
        · exact hotherwise
        · exact keepsLine_groupLines hnamed (hother groups hcase) line hline
  · exact hend

theorem keepsLine_tagLine {s : Section} (htags : ∀ tag ∈ s.tags, IsTag tag) :
    KeepsLine s.tagLine := by
  rw [Section.tagLine]
  split
  · exact ⟨by decide, by decide⟩
  · next hne =>
      have hends : ∀ part ∈ s.tags.map String.toList, EndsInWord part := by
        intro part hpart
        obtain ⟨tag, htag, rfl⟩ := List.mem_map.mp hpart
        exact ReadState.endsInWord_of_lineText (htags tag htag).1
      have hfeed : '\n' ∉ ", ".toList.intercalate (s.tags.map String.toList) := by
        cases hcase : s.tags with
        | nil => simp
        | cons first rest =>
            rw [hcase] at htags
            rw [List.map_cons, intercalate_cons_eq]
            simpa using fun tag htag => (htags tag htag).1.2.2
      have hparts : s.tags.map String.toList ≠ [] := by simpa using hne
      refine keepsLine_of_endsInWord ?_
        (((endsInWord_intercalate hparts hends).append [' ']).append ['@'])
      simpa using hfeed

theorem keepsLine_section (hnamed : HaveLines named) {s : Section} (hs : s.Sound named) :
    ∀ line ∈ s.lines, KeepsLine line := by
  intro line hline
  rw [Section.lines, List.mem_append, List.mem_cons, List.mem_cons, List.mem_flatMap] at hline
  rcases hline with (rfl | rfl | hline) | ⟨b, hb, hline⟩
  · exact ⟨by decide, by decide⟩
  · exact keepsLine_tagLine hs.tags
  · exact keepsLine_groupLines hnamed hs.groups line hline
  · exact keepsLine_block hnamed (hs.blocks b hb) line hline

/-- The lines of the text of a document are the lines that were written. None of them holds a line
feed or ends with a carriage return. -/
theorem lines_display (hnamed : HaveLines named) (hd : d.Sound named) :
    Text.lines d.display.toList = d.lines := by
  have hkeeps : ∀ line ∈ d.lines, KeepsLine line := by
    intro line hline
    rw [lines, List.mem_append, List.mem_flatMap] at hline
    rcases hline with hline | ⟨s, hs, hline⟩
    · exact keepsLine_objectLines hd.objects line hline
    · exact keepsLine_section hnamed (hd.sections s hs) line hline
  rw [display, String.toList_ofList, chars]
  exact lines_flatMap d.lines (fun line hline => (hkeeps line hline).1)
    fun line hline => (hkeeps line hline).2

theorem finish_within {number : Nat} {objects : ObjectTable} {done : List Section} {sec : Section}
    {s : ReadState} (hs : ReadState.Within objects done sec .groups none s) :
    s.finish number = .ok (prune ⟨objects, done ++ [sec]⟩) :=
  ReadState.finish_eq_ok_iff.mpr
    ⟨ReadState.inBlock_of_within hs, hs.pending, by rw [hs.document]⟩

/-- A printable document is read back from its own text, with its objects, sections, tags, groups,
constraints and blocks in their places. -/
theorem ofText_display (tree : FileTree) (d : Document) (hd : d.Printable) :
    ofText tree none d.display = .ok d := by
  have hnamed : HaveLines IsGroupName := fun name hname => hname.1.text
  rw [ofText, readWithin_eq, lines_display hnamed hd.sound, ofLines_eq_ok_iff]
  have hbase : (⟨none, importWithin tree []⟩ : ReadContext).base = none := rfl
  obtain ⟨s, done, sec, hobjects, hs, hblank⟩ := ReadState.reads_objectLines hd.sound.objects
  obtain ⟨t, done', last, hsections, ht, hlist⟩ :=
    ReadState.reads_sections hbase hd.sound.sections hs
  refine ⟨t, hobjects.append hsections, ?_⟩
  have hdropped : (done ++ [sec]).filter (!·.isEmpty) = [] := by
    rw [List.filter_eq_nil_iff]
    intro new hnew
    rw [hblank new hnew]
    decide
  have hkept : d.sections.filter (!·.isEmpty) = d.sections := by
    rw [List.filter_eq_self]
    intro new hnew
    rw [hd.asserted new hnew]
    rfl
  rw [finish_within ht, hlist, prune, List.filter_append, hdropped, hkept, List.nil_append]

/-- A menu that lies near the header on wide pages, and is hidden unless there is a header. -/
def menuDocument : Document where
  objects := .ofList [("header", ⟨.id, "header", none⟩), ("menu", ⟨.css, "ul > li", none⟩)]
  sections := [{
    tags := ["wide", "all pages"]
    groups := [⟨"menu", [.near "header" [⟨.between 10 20, [.bottom]⟩]]⟩]
    blocks := [{
      statements := [{ inverted := true, groups := [⟨"header", [.absent]⟩] }]
      body := [⟨"menu", [.visible]⟩]
      otherwise := some [⟨"menu", [.absent]⟩] }] }]

theorem ofText_display_menuDocument :
    menuDocument.Printable ∧ ofText {} none menuDocument.display = .ok menuDocument :=
  have hprintable : menuDocument.Printable := by decide +kernel
  ⟨hprintable, ofText_display {} menuDocument hprintable⟩

end Document

end LayoutSpec
