import LayoutSpec.Proofs.Document.Splice

/-!
Texts one behind the other. A section line in between takes the reader to its first state again,
with the sections and the objects of the first text around it, so that the second text is read as
if it stood alone, and the two documents are merged.
-/

namespace LayoutSpec

open Text

namespace Text

/-- Lines that hold no line feed are those of a text. -/
theorem lines_flatMap_return (ls : List (List Char)) (hfeed : ∀ line ∈ ls, '\n' ∉ line) :
    lines (ls.flatMap (· ++ ['\r', '\n'])) = ls := by
  have hsplit : (ls.flatMap (· ++ ['\r', '\n'])).splitOn '\n' = ls.map (· ++ ['\r']) ++ [[]] := by
    induction ls with
    | nil => rfl
    | cons line ls ih =>
        have hfirst : '\n' ∉ line ++ ['\r'] := by
          simpa using hfeed line (by simp)
        have hline : line ++ ['\r', '\n'] = (line ++ ['\r']) ++ ['\n'] := by simp
        rw [List.flatMap_cons, hline, List.append_assoc, List.singleton_append,
          splitOn_part_cons _ hfirst, ih fun other h => hfeed other (by simp [h]), List.map_cons,
          List.cons_append]
  have hkeep : dropReturn ∘ (· ++ ['\r']) = id := by
    funext line
    simp [dropReturn]
  simp [lines, hsplit, hkeep]

end Text

/-- The line of a section without tags. -/
def sectionLine : List Char :=
  ['@']

namespace ReadState

variable {context : ReadContext} {number : Nat} {s : ReadState}

theorem step_sectionLine (h : s.mode ≠ .objects) :
    s.step context number sectionLine = s.openSection number [] := by
  have hkind : LineKind.of sectionLine = .tags [] := by decide
  simp only [step, hkind, if_neg h]

/-- Where a section can be opened, one without tags is the first state among other sections. It is
what makes the rest of the lines a reading of its own. -/
theorem openSection_nil (hblock : s.mode.inBlock = false) (hnone : s.block = none)
    (hpending : s.pending = none) :
    s.openSection number [] = .ok (initial.splice 0 s.document.sections s.document.objects) := by
  obtain ⟨document, mode, current, block, openGroups, pending⟩ := s
  obtain rfl : block = none := hnone
  obtain rfl : pending = none := hpending
  have hcurrent : 0 + document.sections.length = document.sections.length := Nat.zero_add _
  simp only [openSection, hblock, splice, initial, Nat.not_lt_zero, if_false, hcurrent]
  rfl

/-- Behind a reading that can end, the lines of another text are read as they are by themselves,
once a section was opened. The sections and objects of the first text are there from the start,
which is what `splice` adds to each state of the second reading. -/
theorem Reads.concat {first rest : List (List Char)} {t : ReadState} {d : Document}
    (hfirst : Reads context first .initial s) (hend : s.finish number = .ok d)
    (hobjects : s.mode ≠ .objects) (hrest : Reads context rest .initial t) :
    Reads context (first ++ sectionLine :: rest) .initial
      (t.splice 0 s.document.sections (s.document.objects.merge t.document.objects)) := by
  obtain ⟨hblock, hpending, -⟩ := finish_eq_ok_iff.mp hend
  have hstep : s.step context number sectionLine
      = .ok (initial.splice 0 s.document.sections s.document.objects) := by
    rw [step_sectionLine hobjects,
      openSection_nil hblock (hfirst.coherent.block_eq_none hblock) hpending]
  -- The objects of the second text are what it declares, in a table that was empty.
  have htable : s.document.objects.merge t.document.objects
      = s.document.objects.insertAll (declared context (initial.mode = .objects) rest) := by
    rw [hrest.objects_eq, ObjectTable.merge_insertAll]
    rfl
  rw [htable]
  exact hfirst.append (.cons hstep (hrest.splice (Nat.zero_le _) _ _))

end ReadState

namespace Document

open ReadState

theorem prune_merge (d other : Document) : (d.merge other).prune = d.prune.merge other.prune := by
  simp only [prune, merge, List.filter_append]

/-- The lines of a text leave no object definitions open. -/
def ClosesObjects (text : String) : Prop :=
  (Text.lines text.toList).foldl insideAfter false = false

instance (text : String) : Decidable (ClosesObjects text) :=
  inferInstanceAs (Decidable (_ = _))

/-- The text has the lines of two others, and a line between them that opens a section. -/
def Concatenates (first rest text : String) : Prop :=
  Text.lines text.toList = Text.lines first.toList ++ sectionLine :: Text.lines rest.toList

theorem exists_concatenates (first rest : String) : ∃ text, Concatenates first rest text := by
  refine ⟨String.ofList ((Text.lines first.toList ++ sectionLine :: Text.lines rest.toList).flatMap
    (· ++ ['\r', '\n'])), ?_⟩
  rw [Concatenates, String.toList_ofList]
  apply lines_flatMap_return
  intro line hline
  obtain hline | hline := List.mem_append.mp hline
  · exact feed_not_mem_of_mem_lines hline
  · obtain rfl | hline := List.mem_cons.mp hline
    · decide
    · exact feed_not_mem_of_mem_lines hline

variable {tree : FileTree} {base : Option Path} {first rest : String} {d e : Document}

/-- Two texts that are read, of which the first leaves no object definitions open, can be put into
one, with a line between them that opens a section; and a text of these lines is read as the
document of the first merged with that of the other. -/
theorem ofText_concat (hfirst : ofText tree base first = .ok d)
    (hrest : ofText tree base rest = .ok e) (hclosed : ClosesObjects first) :
    (∃ text, Concatenates first rest text) ∧
    ∀ text, Concatenates first rest text → ofText tree base text = .ok (d.merge e) := by
  refine ⟨exists_concatenates first rest, fun text hlines => ?_⟩
  rw [ofText, readWithin_eq, ofLines_eq_ok_iff] at hfirst hrest ⊢
  obtain ⟨s, hreads, hend⟩ := hfirst
  obtain ⟨t, hnext, hlast⟩ := hrest
  have hobjects : s.mode ≠ .objects := by
    have hinside := hreads.inside_eq
    rw [show decide (initial.mode = .objects) = false from rfl, hclosed] at hinside
    exact of_decide_eq_false hinside.symm
  refine ⟨_, hlines ▸ hreads.concat hend hobjects hnext, ?_⟩
  obtain ⟨-, -, rfl⟩ := finish_eq_ok_iff.mp hend
  obtain ⟨hblock, hpending, rfl⟩ := finish_eq_ok_iff.mp hlast
  exact finish_eq_ok_iff.mpr ⟨hblock, hpending, prune_merge s.document t.document⟩

def headerText : String :=
  "===\nmenu css #menu\nlogo id logo\n===\nmenu\n    visible\n"

def headerDocument : Document where
  objects := .ofList [("menu", ⟨.css, "#menu", none⟩), ("logo", ⟨.id, "logo", none⟩)]
  sections := [{ groups := [⟨"menu", [.visible]⟩] }]

/-- Another locator for the logo. -/
def logoText : String :=
  "===\nlogo css .logo\nfooter id footer\n===\nlogo\n    visible"

def logoDocument : Document where
  objects := .ofList [("logo", ⟨.css, ".logo", none⟩), ("footer", ⟨.id, "footer", none⟩)]
  sections := [{ groups := [⟨"logo", [.visible]⟩] }]

theorem ofText_concat_headerText :
    ofText {} none (headerText ++ "@\n" ++ logoText) = .ok
      { objects := .ofList [("menu", ⟨.css, "#menu", none⟩), ("logo", ⟨.css, ".logo", none⟩),
          ("footer", ⟨.id, "footer", none⟩)]
        sections := headerDocument.sections ++ logoDocument.sections } := by
  have hfirst : ofText {} none headerText = .ok headerDocument := by
    rw [ofText, readWithin_eq]
    decide +kernel
  have hrest : ofText {} none logoText = .ok logoDocument := by
    rw [ofText, readWithin_eq]
    decide +kernel
  obtain ⟨-, hconcat⟩ := ofText_concat hfirst hrest (by decide +kernel)
  exact hconcat _ (by unfold Concatenates; decide +kernel)

end Document

end LayoutSpec
