import LayoutSpec.Proofs.Document.Line
import LayoutSpec.Proofs.Document.LineNumber

/-!
What one line can do to the state of a reading. Every invariant of reading is a statement about
these changes.
-/

namespace LayoutSpec

open Text

namespace LineKind

def isImport : LineKind → Bool
  | .directive text => ((cutAt isBlank text).getD (text, [])).1 = "import".toList
  | _ => false

def importPath? : LineKind → Option Path
  | .directive text =>
    let parts := (cutAt isBlank text).getD (text, [])
    if parts.1 = "import".toList && !(trim parts.2).isEmpty then
      some ⟨String.ofList (trim parts.2)⟩
    else none
  | _ => none

theorem of_importPath? {kind : LineKind} {rel : Path} (h : kind.importPath? = some rel) :
    ∃ text, kind = .directive text ∧ ((cutAt isBlank text).getD (text, [])).1 = "import".toList ∧
      trim ((cutAt isBlank text).getD (text, [])).2 ≠ [] ∧
      rel = ⟨String.ofList (trim ((cutAt isBlank text).getD (text, [])).2)⟩ := by
  cases kind with
  | directive text =>
      simp only [importPath?] at h
      split at h
      · next hboth =>
          rw [Bool.and_eq_true, decide_eq_true_eq] at hboth
          exact ⟨text, rfl, hboth.1, by simpa using hboth.2, (Option.some.inj h).symm⟩
      · cases h
  | _ => cases h

theorem text_ne_empty_of_importPath? {kind : LineKind} {rel : Path}
    (h : kind.importPath? = some rel) : rel.text ≠ "" := by
  obtain ⟨text, -, -, hargument, rfl⟩ := of_importPath? h
  simpa using hargument

end LineKind

namespace ReadState

variable {context : ReadContext} {number : Nat} {raw : List Char} {s t : ReadState}

/-- The groups that a group line opens: one per value of the parameter line above, or one. -/
def openedGroups (pattern : String) (values : List String) : List Group :=
  if values.isEmpty then [{ pattern }]
  else values.map fun value => { pattern := substituteParameter value pattern }

/-- The state behind a line that opens groups. -/
def withOpened (gs : List Group) (pattern : String) (values : List String) (s : ReadState) :
    ReadState :=
  { s.setGroups (gs ++ openedGroups pattern values) with
    openGroups := some ⟨gs.length, values⟩
    pending := none
    mode := if (s.setGroups (gs ++ openedGroups pattern values)).mode = .start then .groups
      else (s.setGroups (gs ++ openedGroups pattern values)).mode }

/-- The groups after a constraint was added to the open ones. -/
def withConstraint (gs : List Group) (opened : OpenGroups) (c : Constraint) : List Group :=
  gs.take opened.first ++ addEach (gs.drop opened.first) (copies c opened.values)

/-- The ways in which a line takes the reader from one state to another. -/
inductive Change (context : ReadContext) (raw : List Char) (s : ReadState) : ReadState → Prop where
  | nothing : LineKind.of raw = .idle ∨ LineKind.of raw = .separator → Change context raw s s
  | import (d : Document) : (LineKind.of raw).isImport = true →
    (∃ rel, (LineKind.of raw).importPath? = some rel ∧
      context.importSpec (.from? context.base rel) = .ok d) →
    Change context raw s { s with document := s.document.merge d }
  | startObjects : s.mode.inBlock = false → LineKind.of raw = .marker → s.mode ≠ .objects →
    Change context raw s { s with mode := .objects, openGroups := none }
  | define (name text : List Char) (l : Locator) :
    LineKind.of raw ≠ .idle → (∀ rest, LineKind.of raw ≠ .directive rest) →
    cutAt isBlank (trim raw) = some (name, text) → BlockKeyword.isReserved name = false →
    Locator.parse text = .ok l → LineKind.of raw ≠ .marker → s.mode = .objects →
    Change context raw s { s with
      document := { s.document with
        objects := s.document.objects.insert (String.ofList name) l } }
  | openSection (tags : List Char) : (∀ c ∈ tags, c ∈ trim raw) → s.mode.inBlock = false →
    LineKind.of raw = .marker ∧ s.mode = .objects ∨
      LineKind.of raw = .tags tags ∧ s.mode ≠ .objects →
    Change context raw s { s with
      document := { s.document with
        sections := s.document.sections ++ [{ tags := (items ',' tags).map String.ofList }] }
      current := s.document.sections.length
      mode := .start
      openGroups := none }
  | parameters (values : List String) : LineKind.of raw = .parameters →
    Parameters.parse? (trim raw) = some values → s.mode ≠ .objects →
    Change context raw s { s with pending := some values }
  | firstStatement (inverted : Bool) : s.mode.inBlock = false →
    LineKind.of raw = .keyword (.statement false inverted) → s.mode ≠ .objects →
    Change context raw s { s with
      block := some { statements := [{ inverted }] }, mode := .statement, openGroups := none }
  | nextStatement (inverted : Bool) (b : ConditionalBlock) : s.block = some b →
    s.mode = .statement → LineKind.of raw = .keyword (.statement true inverted) →
    Change context raw s { s with
      block := some { b with statements := b.statements ++ [{ inverted }] }, openGroups := none }
  | body : s.mode = .statement → LineKind.of raw = .keyword .body →
    Change context raw s { s with mode := .body, openGroups := none }
  | otherwise (b : ConditionalBlock) : s.block = some b → s.mode = .body →
    LineKind.of raw = .keyword .otherwise →
    Change context raw s { s with
      block := some { b with otherwise := some [] }, mode := .otherwise, openGroups := none }
  | close (b : ConditionalBlock) : s.block = some b → (s.mode = .body ∨ s.mode = .otherwise) →
    LineKind.of raw = .keyword .close →
    Change context raw s
      { s.modifySection (fun sec => { sec with blocks := sec.blocks ++ [b] }) with
        block := none, mode := .groups, openGroups := none }
  | constraint (gs : List Group) (opened : OpenGroups) (c : Constraint) : s.groups? = some gs →
    s.openGroups = some opened → Constraint.parse context.base (trim raw) = .ok c →
    LineKind.of raw = .constraint →
    Change context raw s (s.setGroups (withConstraint gs opened c))
  | openGroups (gs : List Group) : LineKind.of raw = .name → s.groups? = some gs →
    groupPattern (trim raw) ≠ [] →
    Change context raw s
      (s.withOpened gs (String.ofList (groupPattern (trim raw))) (s.pending.getD []))

theorem change_of_openSection {tags : List Char} (htags : ∀ c ∈ tags, c ∈ trim raw)
    (hkind : LineKind.of raw = .marker ∧ s.mode = .objects ∨
      LineKind.of raw = .tags tags ∧ s.mode ≠ .objects)
    (h : s.openSection number tags = .ok t) : Change context raw s t := by
  unfold openSection at h
  split at h
  · cases h
  · next hblock =>
      cases hpending : s.checkNoPending number with
      | error e => simp [hpending, bind, Except.bind] at h
      | ok _ =>
          simp only [hpending, bind, Except.bind] at h
          obtain rfl := Except.ok.inj h
          exact .openSection tags htags (by simpa using hblock) hkind

theorem change_of_toggleObjects (hkind : LineKind.of raw = .marker)
    (h : s.toggleObjects number = .ok t) : Change context raw s t := by
  unfold toggleObjects at h
  split at h
  · cases h
  · next hblock =>
      split at h
      · next hmode => exact change_of_openSection (by simp) (.inl ⟨hkind, hmode⟩) h
      · next hmode =>
          obtain rfl := Except.ok.inj h
          exact .startObjects (by simpa using hblock) hkind hmode

theorem change_of_defineObject (hidle : LineKind.of raw ≠ .idle)
    (hdirective : ∀ rest, LineKind.of raw ≠ .directive rest) (hmarker : LineKind.of raw ≠ .marker)
    (hmode : s.mode = .objects) (h : s.defineObject number (trim raw) = .ok t) :
    Change context raw s t := by
  simp only [defineObject] at h
  split at h
  · cases h
  · next name text hcut =>
      split at h
      · cases h
      · next hreserved =>
          cases hlocator : Locator.parse text with
          | error cause => simp [hlocator, bind, Except.bind] at h
          | ok l =>
              simp only [hlocator, onLine_ok, bind, Except.bind] at h
              obtain rfl := Except.ok.inj h
              exact .define name text l hidle hdirective hcut (by simpa using hreserved) hlocator
                hmarker hmode

theorem change_of_openGroup (hname : LineKind.of raw = .name)
    (h : s.openGroup number (trim raw) = .ok t) : Change context raw s t := by
  simp only [openGroup] at h
  split at h
  · cases h
  · next hne =>
      split at h
      · cases h
      · next gs hgroups =>
          obtain rfl := Except.ok.inj h
          exact .openGroups gs hname hgroups (by simpa using hne)

theorem change_of_addConstraint (hkind : LineKind.of raw = .constraint)
    (h : s.addConstraint context.base number (trim raw) = .ok t) :
    Change context raw s t := by
  simp only [addConstraint] at h
  split at h
  · cases h
  · next opened hopened =>
      cases hparse : Constraint.parse context.base (trim raw) with
      | error cause => simp [hparse, bind, Except.bind] at h
      | ok c =>
          simp only [hparse, onLine_ok, bind, Except.bind] at h
          split at h
          · cases h
          · next gs hgroups =>
              obtain rfl := Except.ok.inj h
              exact .constraint gs opened c hgroups hopened hparse hkind

/-- A keyword that is read is one of the changes of a block: it opens one, adds a condition, starts
the body or the other branch, or closes it. -/
theorem change_of_applyKeyword {keyword : BlockKeyword}
    (hkind : LineKind.of raw = .keyword keyword) (hobjects : s.mode ≠ .objects)
    (h : s.applyKeyword number keyword = .ok t) : Change context raw s t := by
  unfold applyKeyword at h
  split at h
  · split at h
    · cases h
    · next hblock =>
        obtain rfl := Except.ok.inj h
        exact .firstStatement _ (by simpa using hblock) hkind hobjects
  · next hmode =>
      split at h
      · cases h
      · next b hblock =>
          obtain rfl := Except.ok.inj h
          exact .nextStatement _ b hblock hmode hkind
  · next hmode =>
      obtain rfl := Except.ok.inj h
      exact .body hmode hkind
  · next hmode =>
      split at h
      · cases h
      · next b hblock =>
          obtain rfl := Except.ok.inj h
          exact .otherwise b hblock hmode hkind
  · cases h
  · next hmode =>
      split at h
      · cases h
      · next b hblock =>
          obtain rfl := Except.ok.inj h
          exact .close b hblock (.inl hmode) hkind
  · next hmode =>
      split at h
      · cases h
      · next b hblock =>
          obtain rfl := Except.ok.inj h
          exact .close b hblock (.inr hmode) hkind
  · cases h

/-- An import adds what the imported file says. -/
theorem directive_of_import {text : List Char} {rel : Path}
    (h : (LineKind.directive text).importPath? = some rel) :
    s.directive context number text =
      ((context.importSpec (.from? context.base rel)).mapError
        (·.error number (.from? context.base rel))).map fun d =>
          { s with document := s.document.merge d } := by
  obtain ⟨_, ⟨⟩, hword, hargument, rfl⟩ := LineKind.of_importPath? h
  simp only [directive]
  rw [if_neg (not_not.mpr hword), if_neg (by simpa using hargument)]
  cases context.importSpec _ <;> rfl

theorem step_of_import {rel : Path} (h : (LineKind.of raw).importPath? = some rel) :
    s.step context number raw =
      ((context.importSpec (.from? context.base rel)).mapError
        (·.error number (.from? context.base rel))).map fun d =>
          { s with document := s.document.merge d } := by
  obtain ⟨text, hkind, -⟩ := LineKind.of_importPath? h
  rw [hkind] at h
  rw [step, hkind]
  exact directive_of_import h

/-- An instruction that is read is an import, whose document was merged into the one at hand. -/
theorem change_of_directive {text : List Char} (hkind : LineKind.of raw = .directive text)
    (h : s.directive context number text = .ok t) : Change context raw s t := by
  simp only [directive] at h
  split at h
  · cases h
  · next hword =>
      split at h
      · cases h
      · next hargument =>
        have hpath : (LineKind.directive text).importPath?
            = some ⟨String.ofList (trim ((cutAt isBlank text).getD (text, [])).2)⟩ := by
          rw [LineKind.importPath?, if_pos]
          rw [Bool.and_eq_true, decide_eq_true_eq]
          exact ⟨Decidable.not_not.mp hword, by simpa using hargument⟩
        cases himport : context.importSpec (.from? context.base ⟨String.ofList
            (trim ((cutAt isBlank text).getD (text, [])).2)⟩) with
        | error e =>
            rw [himport] at h
            cases h
        | ok imported =>
            rw [himport] at h
            obtain rfl := Except.ok.inj h
            refine .import imported ?_ ⟨_, by rw [hkind, hpath], himport⟩
            rw [hkind, LineKind.isImport]
            exact decide_eq_true (Decidable.not_not.mp hword)

/-- A line that is read makes one of the changes. Each change names the kind of line and the mode
that it needs, so that an induction over a reading has all it needs in its cases. -/
theorem change_of_step (h : s.step context number raw = .ok t) : Change context raw s t := by
  have hfits := LineKind.fits_of raw
  simp only [step] at h
  split at h
  · next hkind =>
      obtain rfl := Except.ok.inj h
      exact .nothing (.inl hkind)
  · next text hkind => exact change_of_directive hkind h
  · next hkind => exact change_of_toggleObjects hkind h
  · next hidle hdirective hmarker =>
      split at h
      · next hmode => exact change_of_defineObject hidle hdirective hmarker hmode h
      · next hmode =>
          split at h
          · next text hkind =>
              rw [hkind] at hfits
              refine change_of_openSection (fun c hc => ?_) (.inr ⟨hkind, hmode⟩) h
              rw [hfits]
              exact List.mem_cons_of_mem _ hc
          · next hkind =>
              split at h
              · next values hvalues =>
                  obtain rfl := Except.ok.inj h
                  exact .parameters values hkind hvalues hmode
              · cases h
          · next hkind => exact change_of_applyKeyword hkind hmode h
          · next hkind => exact change_of_addConstraint hkind h
          · next hkind => exact change_of_openGroup hkind h
          · next htags hparameters hkeyword hconstraint hname =>
              obtain rfl := Except.ok.inj h
              refine .nothing ?_
              cases hkind : LineKind.of raw with
              | idle => exact .inl rfl
              | separator => exact .inr rfl
              | directive text => exact absurd hkind (hdirective text)
              | marker => exact absurd hkind hmarker
              | tags text => exact absurd hkind (htags text)
              | parameters => exact absurd hkind hparameters
              | keyword keyword => exact absurd hkind (hkeyword keyword)
              | constraint => exact absurd hkind hconstraint
              | name => exact absurd hkind hname

end ReadState

end LayoutSpec
