import LayoutSpec.Proofs.Document.LineNumber

/-!
Runs of the reader over the lines of a text, and what they come to at its end.
-/

namespace LayoutSpec

namespace ReadState

variable {context : ReadContext} {s t u : ReadState}

/-- The lines take the reader from one state to another. Which numbers the lines have is of no
concern, as a line that is read under one number is read in the same way under any other. -/
inductive Reads (context : ReadContext) : List (List Char) → ReadState → ReadState → Prop where
  | nil (s : ReadState) : Reads context [] s s
  | cons {number : Nat} {raw : List Char} {rest : List (List Char)} {s t u : ReadState} :
    s.step context number raw = .ok t → Reads context rest t u → Reads context (raw :: rest) s u

/-- A run succeeds, whatever the number of its first line, if every line takes the reader on.
Numbers of lines are in errors only, so that the relation can do without them. -/
theorem reads_iff_run {number : Nat} {lines : List (List Char)} :
    Reads context lines s t ↔ s.run context number lines = .ok t := by
  constructor
  · intro h
    induction h generalizing number with
    | nil s => rfl
    | cons hstep _ ih =>
        rw [run, step_eq_ok hstep]
        exact ih
  · intro h
    induction lines generalizing number s with
    | nil =>
        obtain rfl : s = t := Except.ok.inj h
        exact .nil s
    | cons raw rest ih =>
        rw [run] at h
        cases hstep : s.step context number raw with
        | error e => simp [hstep] at h
        | ok next =>
            rw [hstep] at h
            exact .cons hstep (ih h)

namespace Reads

theorem single {number : Nat} {raw : List Char} (h : s.step context number raw = .ok t) :
    Reads context [raw] s t :=
  .cons h (.nil t)

theorem append {first rest : List (List Char)} (hfirst : Reads context first s t)
    (hrest : Reads context rest t u) : Reads context (first ++ rest) s u := by
  induction hfirst with
  | nil s => exact hrest
  | cons hstep _ ih => exact .cons hstep (ih hrest)

/-- A run over some lines and others stands still in between. -/
theorem of_append {first rest : List (List Char)} (h : Reads context (first ++ rest) s u) :
    ∃ t, Reads context first s t ∧ Reads context rest t u := by
  induction first generalizing s with
  | nil => exact ⟨s, .nil s, h⟩
  | cons raw first ih =>
      cases h with
      | cons hstep htail =>
          obtain ⟨t, hfirst, hrest⟩ := ih htail
          exact ⟨t, .cons hstep hfirst, hrest⟩

/-- Behind some lines the run goes on with the others. -/
theorem run_append {first : List (List Char)} (h : Reads context first s t) (number : Nat)
    (rest : List (List Char)) :
    s.run context number (first ++ rest) = t.run context (number + first.length) rest := by
  induction h generalizing number with
  | nil s => rfl
  | cons hstep _ ih =>
      rw [List.cons_append, run, step_eq_ok hstep, List.length_cons]
      dsimp only
      rw [ih (number + 1)]
      congr 1
      omega

/-- The reader is in one state at most behind given lines. Two readings of the same lines can be
compared by it. -/
theorem unique {lines : List (List Char)} (h : Reads context lines s t)
    (hother : Reads context lines s u) : t = u := by
  induction h with
  | nil s =>
      cases hother
      rfl
  | cons hstep _ ih =>
      cases hother with
      | cons hstep' htail =>
          obtain rfl := Except.ok.inj ((step_eq_ok hstep _).symm.trans hstep')
          exact ih htail

/-- What every line preserves holds behind all of them. This is the induction by which invariants of
one line become invariants of a reading. -/
theorem preserves {P : ReadState → Prop} {lines : List (List Char)} (h : Reads context lines s t)
    (hs : P s)
    (hstep : ∀ raw ∈ lines, ∀ number s t, P s → s.step context number raw = .ok t → P t) :
    P t := by
  induction h with
  | nil s => exact hs
  | cons hfirst _ ih =>
      exact ih (hstep _ (by simp) _ _ _ hs hfirst) fun raw hraw => hstep raw (by simp [hraw])

end Reads

/-- A reading can end outside blocks, if every parameter line has its group. The document is what
was read, without the sections in which nothing is asserted. -/
theorem finish_eq_ok_iff {number : Nat} {d : Document} :
    s.finish number = .ok d ↔
      s.mode.inBlock = false ∧ s.pending = none ∧ s.document.prune = d := by
  cases hmode : s.mode.inBlock with
  | true =>
      have hfinish : s.finish number = .error (.ofLine number .unclosedConditional) := by
        simp only [finish, hmode]
        rfl
      simp [hfinish]
  | false =>
      cases hpending : s.pending with
      | some values =>
          have hfinish : s.finish number = .error (.ofLine number .danglingParameters) := by
            simp only [finish, hmode, checkNoPending, hpending]
            rfl
          simp [hfinish]
      | none =>
          have hfinish : s.finish number = .ok s.document.prune := by
            simp only [finish, hmode, checkNoPending, hpending]
            rfl
          simp [hfinish]

end ReadState

namespace Document

/-- Some lines are read as a document if they take the reader to a state that can end with it. By
this, what is proved about `Reads` by induction on the lines holds of documents. -/
theorem ofLines_eq_ok_iff {context : ReadContext} {lines : List (List Char)} {d : Document} :
    ofLines context lines = .ok d ↔
      ∃ s, ReadState.Reads context lines .initial s ∧ s.finish lines.length = .ok d := by
  rw [ofLines]
  cases hrun : ReadState.initial.run context 1 lines with
  | error e =>
      refine iff_of_false (fun h => nomatch h) ?_
      rintro ⟨s, hreads, -⟩
      simp [ReadState.reads_iff_run.mp hreads] at hrun
  | ok s =>
      refine ⟨fun h => ⟨s, ReadState.reads_iff_run.mpr hrun, h⟩, ?_⟩
      rintro ⟨t, hreads, hfinish⟩
      obtain rfl := hreads.unique (ReadState.reads_iff_run.mpr hrun)
      exact hfinish

/-- How an import is read while the files of the chain are being read. -/
def importWithin (tree : FileTree) (chain : List FileKey) (path : Path) :
    Except ImportFault Document :=
  match tree.fileKey? path with
  | none => .error (unreadable tree path)
  | some key =>
    if chain.contains key then .error .cyclic
    else
      match tree.content? key with
      | some (.text text) =>
        (readWithin tree (key :: chain) path.parent? text).mapError .malformed
      | _ => .error (unreadable tree path)

variable {tree : FileTree} {chain : List FileKey} {path : Path}

/-- A path is imported if its file is new to the chain and its text is read. The file is added to
the chain for its own imports, and paths in it are seen from its folder. -/
theorem of_importWithin_eq_ok {d : Document} (h : importWithin tree chain path = .ok d) :
    ∃ key text, tree.fileKey? path = some key ∧ key ∉ chain ∧
      tree.content? key = some (.text text) ∧
      readWithin tree (key :: chain) path.parent? text = .ok d := by
  rw [importWithin] at h
  split at h
  · cases h
  · next key hkey =>
      split at h
      · cases h
      · next hnew =>
          split at h
          · next text hcontent =>
              refine ⟨key, text, hkey, by simpa using hnew, hcontent, ?_⟩
              cases hread : readWithin tree (key :: chain) path.parent? text with
              | error e =>
                  rw [hread] at h
                  cases h
              | ok found =>
                  rw [hread] at h
                  rw [show found = d from Except.ok.inj h]
          · cases h

/-- Why a path is not imported: its file is being read already, or cannot be read, or has an error.
-/
theorem of_importWithin_eq_error {fault : ImportFault}
    (h : importWithin tree chain path = .error fault) :
    (∃ key ∈ chain, tree.fileKey? path = some key ∧ fault = .cyclic) ∨
      fault = unreadable tree path ∨
      ∃ key text found, tree.fileKey? path = some key ∧ key ∉ chain ∧
        tree.content? key = some (.text text) ∧
        readWithin tree (key :: chain) path.parent? text = .error found ∧
        fault = .malformed found := by
  rw [importWithin] at h
  split at h
  · exact .inr (.inl (Except.error.inj h).symm)
  · next key hkey =>
      split at h
      · next hin => exact .inl ⟨key, by simpa using hin, hkey, (Except.error.inj h).symm⟩
      · next hnew =>
          split at h
          · next text hcontent =>
              cases hread : readWithin tree (key :: chain) path.parent? text with
              | ok d =>
                  rw [hread] at h
                  cases h
              | error found =>
                  rw [hread] at h
                  exact .inr (.inr ⟨key, text, found, hkey, by simpa using hnew, hcontent, hread,
                    (Except.error.inj h).symm⟩)
          · exact .inr (.inl (Except.error.inj h).symm)

/-- A text is read line by line. The recursion of the reader goes along the files that are not in
the chain, and `importWithin` names what it does for an import. -/
theorem readWithin_eq (tree : FileTree) (chain : List FileKey) (base : Option Path)
    (text : String) :
    readWithin tree chain base text
      = ofLines ⟨base, importWithin tree chain⟩ (Text.lines text.toList) := by
  rw [readWithin]
  congr 2
  funext path
  rw [importWithin]
  cases hkey : tree.fileKey? path with
  | none => rfl
  | some key =>
      dsimp only
      by_cases hhold : chain.contains key = true
      · rw [dif_pos hhold, if_pos hhold]
      · rw [dif_neg hhold, if_neg hhold]
        split
        · next hcontent => rw [hcontent]
        · next hother =>
            split
            · next text hcontent => exact absurd hcontent (hother text)
            · rfl

end Document

end LayoutSpec
