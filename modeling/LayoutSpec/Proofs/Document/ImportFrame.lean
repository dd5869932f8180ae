import LayoutSpec.Proofs.Document.Spelling
import LayoutSpec.Proofs.Document.Splice

/-!
What an import leaves alone. It puts sections behind those that are there, and declares objects; the
lines behind it go on as if it were not there, in the sections that were opened before.
-/

namespace LayoutSpec

open Text

namespace ReadState

variable {context other : ReadContext} {number : Nat} {raw : List Char} {s t u : ReadState}

theorem of_step_import {rel : Path} (hpath : (LineKind.of raw).importPath? = some rel)
    (h : s.step context number raw = .ok t) :
    ∃ d, context.importSpec (.from? context.base rel) = .ok d ∧
      t = { s with document := s.document.merge d } := by
  rw [step_of_import hpath] at h
  cases hspec : context.importSpec (.from? context.base rel) with
  | error e =>
      rw [hspec] at h
      cases h
  | ok d =>
      rw [hspec] at h
      exact ⟨d, rfl, (Except.ok.inj h).symm⟩

/-- A line that is read is read in the same way where more paths can be imported. Only an import
line asks for other texts, and it gets the same one. -/
theorem step_of_importable (hbase : context.base = other.base)
    (hspec : ∀ path d, context.importSpec path = .ok d → other.importSpec path = .ok d)
    (h : s.step context number raw = .ok t) : s.step other number raw = .ok t := by
  cases hpath : (LineKind.of raw).importPath? with
  | some rel =>
      obtain ⟨d, himport, rfl⟩ := of_step_import hpath h
      rw [step_of_import hpath, ← hbase, hspec _ _ himport]
      rfl
  | none =>
      cases hkind : LineKind.of raw with
      | directive text =>
          obtain ⟨cause, -, herror⟩ := directive_of_no_import context (hkind ▸ hpath)
          simp only [step, hkind, herror] at h
          cases h
      | _ =>
          simp only [step, hkind, ← hbase] at h ⊢
          exact h

theorem Reads.of_importable {lines : List (List Char)} (h : Reads context lines s t)
    (hbase : context.base = other.base)
    (hspec : ∀ path d, context.importSpec path = .ok d → other.importSpec path = .ok d) :
    Reads other lines s t := by
  induction h with
  | nil s => exact .nil s
  | cons hstep _ ih => exact .cons (step_of_importable hbase hspec hstep) ih

theorem Reads.tags {lines : List (List Char)} (h : Reads context lines s t) :
    s.document.sections.map (·.tags) <+: t.document.sections.map (·.tags) := by
  induction h with
  | nil s => exact List.prefix_rfl
  | cons hstep _ ih => exact (tags_change (change_of_step hstep)).trans ih

/-- Behind an import, a state is the one in front of it with other sections behind its own, and with
the objects that it brings in. -/
theorem Shaped.merge_eq_splice (hs : s.Shaped) (d : Document) :
    { s with document := s.document.merge d }
      = s.splice s.document.sections.length d.sections (s.document.objects.merge d.objects) := by
  have hsections : insertAt s.document.sections.length d.sections s.document.sections
      = s.document.sections ++ d.sections := by
    rw [insertAt, List.take_length, List.drop_length, List.append_nil]
  rw [splice, hsections, if_pos hs.current]
  rfl

end ReadState

namespace Document

open ReadState

variable {tree : FileTree} {chain chain' : List FileKey} {base : Option Path} {path : Path}

/-- What is read while some files are being read is read in the same way while fewer are. A shorter
chain refuses fewer imports and changes nothing about those that it lets through. -/
theorem readWithin_of_subset {text : String} {d : Document} (hsub : chain' ⊆ chain)
    (h : readWithin tree chain base text = .ok d) : readWithin tree chain' base text = .ok d := by
  induction hfiles : (filesOutside tree chain).length using Nat.strong_induction_on
    generalizing chain chain' base text d with
  | _ n ih =>
      rw [readWithin_eq, ofLines_eq_ok_iff] at h ⊢
      obtain ⟨s, hreads, hend⟩ := h
      refine ⟨s, hreads.of_importable rfl ?_, hend⟩
      intro path imported himport
      obtain ⟨key, content, hkey, hnew, hcontent, hread⟩ := of_importWithin_eq_ok himport
      have hless : (filesOutside tree (key :: chain)).length < n := by
        rw [← hfiles]
        exact filesOutside_cons_lt (by simpa using hnew) (by simp [hcontent])
      have hnew' : chain'.contains key = false := by
        simpa using fun hmem => hnew (hsub hmem)
      have himported := ih _ hless (List.cons_subset_cons key hsub) hread rfl
      change importWithin tree chain' path = _
      simp only [importWithin, hkey, hnew', hcontent, himported]
      rfl

/-- What an import line adds is what its file says by itself. The files that are being read can keep
an import from being read, but do not change what it says. -/
theorem ofFile_of_importWithin {d : Document} (h : importWithin tree chain path = .ok d) :
    ofFile tree path = .ok d := by
  obtain ⟨key, text, hkey, -, hcontent, hread⟩ := of_importWithin_eq_ok h
  refine ofFile_eq_ok hkey hcontent (readWithin_of_subset ?_ hread)
  exact List.cons_subset_cons key (List.nil_subset chain)

/-- An import is an insertion. Where an import line stands, the reader only takes over what the file
says by itself, and stays as it was. Without the line the text would be read, too. With it, the
sections of the file stand behind those that were opened before, which get all that they would get
without it; and the objects of the file are declared between those of the lines before and those of
the lines behind. A text that is in no file has an empty chain. -/
theorem readWithin_import_frame {text : String} {d : Document} {before after : List (List Char)}
    {raw : List Char} {rel : Path} (hread : readWithin tree chain base text = .ok d)
    (hlines : Text.lines text.toList = before ++ raw :: after)
    (hpath : (LineKind.of raw).importPath? = some rel) :
    ∃ imported s u, ofFile tree (.from? base rel) = .ok imported ∧
      Reads ⟨base, importWithin tree chain⟩ before .initial s ∧
      s.step ⟨base, importWithin tree chain⟩ (before.length + 1) raw
        = .ok { s with document := s.document.merge imported } ∧
      Reads ⟨base, importWithin tree chain⟩ after s u ∧
      u.finish (before.length + after.length) = .ok u.document.prune ∧
      s.current < s.document.sections.length ∧
      s.document.sections.map (·.tags) <+: u.document.sections.map (·.tags) ∧
      d.sections = (u.document.sections.take s.document.sections.length ++ imported.sections
        ++ u.document.sections.drop s.document.sections.length).filter (!·.isEmpty) ∧
      d.objects = (s.document.objects.merge imported.objects).insertAll
        (declared ⟨base, importWithin tree chain⟩ (s.mode = .objects) after) := by
  rw [readWithin_eq, hlines, ofLines_eq_ok_iff] at hread
  obtain ⟨last, hreads, hend⟩ := hread
  obtain ⟨s, hbefore, hrest⟩ := hreads.of_append
  cases hrest with
  | cons hstep hafter =>
      obtain ⟨imported, hspec, rfl⟩ := of_step_import hpath hstep
      have hs := hbefore.coherent.toShaped
      rw [hs.merge_eq_splice] at hafter
      obtain ⟨u, hu, rfl⟩ := hafter.of_splice le_rfl
      obtain ⟨hblock, hpending, rfl⟩ := finish_eq_ok_iff.mp hend
      exact ⟨imported, s, u, ofFile_of_importWithin hspec, hbefore, step_eq_ok hstep _, hu,
        finish_eq_ok_iff.mpr ⟨hblock, hpending, rfl⟩, hs.current, hu.tags, rfl, rfl⟩

def partTree : FileTree where
  files := [(["part.spec"], .text "==\nlogo id logo\n==\nlogo\n    visible\n")]

/-- An import between the lines of a group in a condition. -/
def wholeText : String :=
  "==\nlogo css .logo\n==\nif\nmenu\n@@ import part.spec\n    visible\ndo\nmenu\n    absent\nend\n"

def partDocument : Document where
  objects := .ofList [("logo", ⟨.id, "logo", none⟩)]
  sections := [{ groups := [⟨"logo", [.visible]⟩] }]

def wholeSection : Section where
  blocks := [{
    statements := [{ groups := [⟨"menu", [.visible]⟩] }]
    body := [⟨"menu", [.absent]⟩] }]

/-- In front of the import line. -/
def wholeState : ReadState where
  document.objects := .ofList [("logo", ⟨.css, ".logo", none⟩)]
  document.sections := [{}, {}]
  mode := .statement
  current := 1
  block := some { statements := [{ groups := [⟨"menu", []⟩] }] }
  openGroups := some ⟨0, []⟩
  pending := none

theorem importWithin_partTree : importWithin partTree [] ⟨"part.spec"⟩ = .ok partDocument := by
  have hkey : partTree.fileKey? ⟨"part.spec"⟩ = some ["part.spec"] := by decide +kernel
  have hcontent : partTree.content? ["part.spec"]
      = some (.text "==\nlogo id logo\n==\nlogo\n    visible\n") := by decide +kernel
  simp only [importWithin, hkey, hcontent, readWithin_eq]
  decide +kernel

theorem readWithin_import_frame_wholeText :
    readWithin partTree [] none wholeText
      = .ok ⟨partDocument.objects, wholeSection :: partDocument.sections⟩ ∧
    ∃ imported u, ofFile partTree ⟨"part.spec"⟩ = .ok imported ∧
      Reads ⟨none, importWithin partTree []⟩
        (["    visible", "do", "menu", "    absent", "end"].map String.toList) wholeState u ∧
      wholeSection :: partDocument.sections
        = (u.document.sections.take 2 ++ imported.sections ++ u.document.sections.drop 2).filter
          (!·.isEmpty) := by
  let before := ["==", "logo css .logo", "==", "if", "menu"].map String.toList
  let after := ["    visible", "do", "menu", "    absent", "end"].map String.toList
  let raw := "@@ import part.spec".toList
  have hlines : Text.lines wholeText.toList = before ++ raw :: after := by decide +kernel
  have hpath : (LineKind.of raw).importPath? = some ⟨"part.spec"⟩ := by decide +kernel
  have hbefore : Reads ⟨none, importWithin partTree []⟩ before .initial wholeState :=
    reads_iff_run.mpr (by decide +kernel : ReadState.run _ 1 _ _ = .ok wholeState)
  have hstep : wholeState.step ⟨none, importWithin partTree []⟩ 6 raw
      = .ok { wholeState with document := wholeState.document.merge partDocument } := by
    rw [step_of_import hpath]
    change ((importWithin partTree [] ⟨"part.spec"⟩).mapError _).map _ = _
    rw [importWithin_partTree]
    rfl
  have hread : readWithin partTree [] none wholeText
      = .ok ⟨partDocument.objects, wholeSection :: partDocument.sections⟩ := by
    rw [readWithin_eq, hlines, ofLines_eq_ok_iff]
    refine ⟨⟨⟨partDocument.objects, {} :: wholeSection :: partDocument.sections⟩,
      .groups, 1, none, none, none⟩, hbefore.append (.cons hstep ?_), by decide +kernel⟩
    exact reads_iff_run.mpr (by decide +kernel : ReadState.run _ 1 _ _ = .ok _)
  obtain ⟨imported, s, u, hfile, hs, -, hu, -, -, -, hsections, -⟩ :=
    readWithin_import_frame hread hlines hpath
  obtain rfl := hs.unique hbefore
  exact ⟨hread, imported, u, hfile, hu, hsections⟩

end Document

end LayoutSpec
