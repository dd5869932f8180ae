import LayoutSpec.Proofs.Document.Coherent
import LayoutSpec.Proofs.ObjectTable

/-!
Readings with other sections between their own. The reader looks at the section that is current and
at no other one, and never at the objects, so that a reading takes the same steps wherever its
sections stand and whatever was declared before.
-/

namespace LayoutSpec

open Text

/-- The list with more entries behind its first `n`. -/
def insertAt {α : Type} (n : Nat) (more xs : List α) : List α :=
  xs.take n ++ more ++ xs.drop n

section InsertAt

variable {α : Type} {n : Nat} {more xs : List α}

theorem insertAt_append (h : n ≤ xs.length) (more ys : List α) :
    insertAt n more (xs ++ ys) = insertAt n more xs ++ ys := by
  rw [insertAt, insertAt, List.take_append_of_le_length h, List.drop_append_of_le_length h,
    List.append_assoc, List.append_assoc, List.append_assoc]

theorem length_insertAt (h : n ≤ xs.length) :
    (insertAt n more xs).length = xs.length + more.length := by
  rw [insertAt, List.length_append, List.length_append, List.length_take, List.length_drop]
  omega

/-- The first `n` entries stay, and the others are found behind the new ones. -/
theorem getElem?_insertAt (h : n ≤ xs.length) (i : Nat) :
    (insertAt n more xs)[if i < n then i else i + more.length]? = xs[i]? := by
  have htake : (xs.take n).length = n := List.length_take_of_le h
  rw [insertAt, List.append_assoc]
  split
  · next hless =>
      rw [List.getElem?_append_left (by omega), List.getElem?_take_of_lt hless]
  · next hless =>
      rw [List.getElem?_append_right (by omega), List.getElem?_append_right (by omega),
        List.getElem?_drop]
      congr 1
      omega

theorem modify_append_right (f : α → α) (before xs : List α) (i : Nat) :
    (before ++ xs).modify (i + before.length) f = before ++ xs.modify i f := by
  induction before with
  | nil => rfl
  | cons x before ih =>
      rw [List.cons_append, List.length_cons, ← Nat.add_assoc, List.modify_succ_cons, ih,
        List.cons_append]

theorem modify_insertAt (h : n ≤ xs.length) (i : Nat) (f : α → α) :
    (insertAt n more xs).modify (if i < n then i else i + more.length) f
      = insertAt n more (xs.modify i f) := by
  induction n generalizing xs i with
  | zero => exact modify_append_right f more xs i
  | succ n ih =>
      cases xs with
      | nil => cases h
      | cons x xs =>
          have hcons : ∀ y ys, insertAt (n + 1) more (y :: ys) = y :: insertAt n more ys :=
            fun _ _ => rfl
          rw [hcons]
          cases i with
          | zero => rfl
          | succ i =>
              rw [List.modify_succ_cons, hcons, ← ih (Nat.le_of_succ_le_succ h) i]
              split
              · next hless => rw [if_pos (by omega), List.modify_succ_cons]
              · next hless => rw [if_neg (by omega), Nat.add_right_comm, List.modify_succ_cons]

end InsertAt

namespace LineKind

/-- Whether a line between object markers defines an object. -/
def isDefinition : LineKind → Bool
  | .idle | .directive _ | .marker => false
  | .tags _ | .separator | .parameters | .keyword _ | .constraint | .name => true

theorem isDefinition_eq_true_iff {kind : LineKind} : kind.isDefinition = true ↔
    kind ≠ .idle ∧ (∀ text, kind ≠ .directive text) ∧ kind ≠ .marker := by
  cases kind <;> simp [isDefinition]

end LineKind

namespace ReadState

variable {context : ReadContext} {number : Nat} {raw : List Char} {s t : ReadState}
variable {n : Nat} {more : List Section} {objects : ObjectTable}

/-- The state with more sections behind the first `n`, and with other objects. -/
def splice (n : Nat) (more : List Section) (objects : ObjectTable) (s : ReadState) : ReadState :=
  { s with
    document := ⟨objects, insertAt n more s.document.sections⟩
    current := if s.current < n then s.current else s.current + more.length }

theorem groups?_splice (hn : n ≤ s.document.sections.length) :
    (s.splice n more objects).groups? = s.groups? := by
  have hsection : (s.splice n more objects).document.sections[(s.splice n more objects).current]?
      = s.document.sections[s.current]? := getElem?_insertAt hn s.current
  rw [groups?, groups?, hsection]
  rfl

theorem modifySection_splice (hn : n ≤ s.document.sections.length) (f : Section → Section) :
    (s.splice n more objects).modifySection f
      = (s.modifySection f).splice n more objects := by
  have hsections : (insertAt n more s.document.sections).modify
      (if s.current < n then s.current else s.current + more.length) f
        = insertAt n more (s.document.sections.modify s.current f) := modify_insertAt hn s.current f
  exact congrArg (fun sections => { s.splice n more objects with document := ⟨objects, sections⟩ })
    hsections

theorem setGroups_splice (hn : n ≤ s.document.sections.length) (gs : List Group) :
    (s.splice n more objects).setGroups gs = (s.setGroups gs).splice n more objects := by
  have hmode : (s.splice n more objects).mode = s.mode := rfl
  rw [setGroups, setGroups, hmode]
  cases s.mode with
  | start | groups => exact modifySection_splice hn _
  | objects | statement | body | «otherwise» => rfl

theorem openSection_splice (hn : n ≤ s.document.sections.length) (tags : List Char) :
    (s.splice n more objects).openSection number tags
      = (s.openSection number tags).map (splice n more objects) := by
  have hopened (opened : Section) : insertAt n more (s.document.sections ++ [opened])
      = insertAt n more s.document.sections ++ [opened] := insertAt_append hn more [opened]
  have hlength : (insertAt n more s.document.sections).length
      = s.document.sections.length + more.length := length_insertAt hn
  have hcurrent : ¬ s.document.sections.length < n := by omega
  simp only [openSection, checkNoPending]
  change (if s.mode.inBlock = true then _ else _ : Except SyntaxError ReadState) = _
  split
  · rfl
  · change ((if s.pending.isSome = true then _ else _ : Except SyntaxError Unit) >>= _) = _
    split
    · rfl
    · simp only [bind, Except.bind, Except.map, pure, Except.pure, splice, hopened, hlength,
        if_neg hcurrent]

theorem toggleObjects_splice (hn : n ≤ s.document.sections.length) :
    (s.splice n more objects).toggleObjects number
      = (s.toggleObjects number).map (splice n more objects) := by
  simp only [toggleObjects]
  change (if s.mode.inBlock = true then _
    else if s.mode = .objects then _ else _ : Except SyntaxError ReadState) = _
  split
  · rfl
  · split
    · exact openSection_splice hn []
    · rfl

theorem openGroup_splice (hn : n ≤ s.document.sections.length) (line : List Char) :
    (s.splice n more objects).openGroup number line
      = (s.openGroup number line).map (splice n more objects) := by
  have hpending : (s.splice n more objects).pending = s.pending := rfl
  simp only [openGroup, groups?_splice hn, hpending, setGroups_splice hn]
  split
  · rfl
  · cases s.groups? <;> rfl

theorem addConstraint_splice (hn : n ≤ s.document.sections.length) (base : Option Path)
    (line : List Char) :
    (s.splice n more objects).addConstraint base number line
      = (s.addConstraint base number line).map (splice n more objects) := by
  have hopened : (s.splice n more objects).openGroups = s.openGroups := rfl
  simp only [addConstraint, groups?_splice hn, hopened, setGroups_splice hn]
  cases s.openGroups with
  | none => rfl
  | some opened =>
      cases Constraint.parse base line with
      | error cause => rfl
      | ok c => cases s.groups? <;> rfl

/-- A keyword does the same with other sections around those of the state. It works on the block and
on the current section, which moves along with them. -/
theorem applyKeyword_splice (hn : n ≤ s.document.sections.length) (keyword : BlockKeyword) :
    (s.splice n more objects).applyKeyword number keyword
      = (s.applyKeyword number keyword).map (splice n more objects) := by
  have hclose (b : ConditionalBlock) : (s.splice n more objects).modifySection
      (fun sec => { sec with blocks := sec.blocks ++ [b] })
        = splice n more objects
          (s.modifySection fun sec => { sec with blocks := sec.blocks ++ [b] }) :=
    modifySection_splice hn _
  obtain ⟨document, mode, current, block, openGroups, pending⟩ := s
  cases keyword with
  | statement chained inverted =>
      cases chained with
      | false => cases mode <;> rfl
      | true =>
          cases mode with
          | statement => cases block <;> rfl
          | _ => rfl
  | body => cases mode <;> rfl
  | «otherwise» =>
      cases mode with
      | body => cases block <;> rfl
      | _ => rfl
  | close =>
      cases mode with
      | body | «otherwise» =>
          cases block with
          | none => rfl
          | some b =>
              exact congrArg (fun s : ReadState =>
                (Except.ok { s with block := none, mode := .groups, openGroups := none } :
                  Except SyntaxError ReadState)) (hclose b)
      | _ => rfl

/-- Whether the line behind a line stands between object markers. -/
def insideAfter (inside : Bool) (raw : List Char) : Bool :=
  if LineKind.of raw = .marker then !inside else inside

def definition (line : List Char) : Except SyntaxCause (String × Locator) :=
  match cutAt isBlank line with
  | none => .error (.missingObjectLocator (String.ofList line))
  | some (name, locator) =>
    if BlockKeyword.isReserved name then .error (.reservedObjectName (String.ofList name))
    else (Locator.parse locator).map fun locator => (String.ofList name, locator)

/-- The objects that a line declares: the one that is defined, or those of an imported spec. -/
def declarations (context : ReadContext) (inside : Bool) (raw : List Char) :
    List (String × Locator) :=
  if inside && (LineKind.of raw).isDefinition then (definition (trim raw)).toOption.toList
  else
    (((LineKind.of raw).importPath?.bind fun rel =>
      (context.importSpec (.from? context.base rel)).toOption).map (·.objects.entries)).getD []

/-- The objects that some lines declare, in their order. -/
def declared (context : ReadContext) : Bool → List (List Char) → List (String × Locator)
  | _, [] => []
  | inside, raw :: rest =>
    declarations context inside raw ++ declared context (insideAfter inside raw) rest

theorem defineObject_eq (line : List Char) (s : ReadState) :
    s.defineObject number line = (onLine number (definition line)).map fun entry =>
      { s with document := { s.document with
        objects := s.document.objects.insert entry.1 entry.2 } } := by
  simp only [defineObject, definition]
  cases cutAt isBlank line with
  | none => rfl
  | some parts =>
      obtain ⟨name, text⟩ := parts
      dsimp only
      split
      · rfl
      · cases Locator.parse text <;> rfl

theorem isDefinition_of_importPath? {rel : Path} (h : (LineKind.of raw).importPath? = some rel) :
    (LineKind.of raw).isDefinition = false := by
  obtain ⟨text, hkind, -⟩ := LineKind.of_importPath? h
  rw [hkind]
  rfl

theorem declarations_of_import {rel : Path} {d : Document} {inside : Bool}
    (hpath : (LineKind.of raw).importPath? = some rel)
    (hspec : context.importSpec (.from? context.base rel) = .ok d) :
    declarations context inside raw = d.objects.entries := by
  rw [declarations, isDefinition_of_importPath? hpath, Bool.and_false, hpath, Option.bind_some,
    hspec]
  rfl

theorem declarations_of_definition {entry : String × Locator}
    (hkind : (LineKind.of raw).isDefinition = true) (h : definition (trim raw) = .ok entry) :
    declarations context true raw = [entry] := by
  rw [declarations, hkind, h]
  rfl

/-- A line that is no definition declares nothing but what it imports. -/
theorem declarations_eq_nil {inside : Bool} (himport : (LineKind.of raw).importPath? = none)
    (hout : inside = true → (LineKind.of raw).isDefinition = false) :
    declarations context inside raw = [] := by
  rw [declarations, if_neg (by simpa using hout), himport]
  rfl

theorem definition_separator (h : LineKind.of raw = .separator) :
    definition (trim raw) = .error (.missingObjectLocator (String.ofList (trim raw))) := by
  have hfits := LineKind.fits_of raw
  rw [h, LineKind.Fits, LineKind.isSeparator, Bool.and_eq_true] at hfits
  have hnone : cutAt isBlank (trim raw) = none := by
    refine cutAt_eq_none fun c hc => ?_
    have hdash : c = '-' := by simpa using List.all_eq_true.mp hfits.2 c hc
    rw [hdash]
    rfl
  rw [definition, hnone]

theorem insideAfter_change (h : Change context raw s t) :
    insideAfter (s.mode = .objects) raw = decide (t.mode = .objects) := by
  cases h with
  | nothing hkind => rcases hkind with hkind | hkind <;> simp [insideAfter, hkind]
  | «import» d hkind himport =>
      obtain ⟨rel, hrel, -⟩ := himport
      obtain ⟨text, hkind, -⟩ := LineKind.of_importPath? hrel
      simp [insideAfter, hkind]
  | startObjects hout hkind hmode => simp [insideAfter, hkind, hmode]
  | define name text l hidle hdirective hcut hreserved hlocator hmarker hmode =>
      simp [insideAfter, hmarker]
  | openSection tags htags hout hkind =>
      rcases hkind with ⟨hkind, hmode⟩ | ⟨hkind, hmode⟩ <;> simp [insideAfter, hkind, hmode]
  | parameters values hkind hvalues hmode => simp [insideAfter, hkind]
  | firstStatement inverted hout hkind hmode => simp [insideAfter, hkind, hmode]
  | nextStatement inverted b hblock hmode hkind => simp [insideAfter, hkind]
  | body hmode hkind => simp [insideAfter, hkind, hmode]
  | «otherwise» b hblock hmode hkind => simp [insideAfter, hkind, hmode]
  | close b hblock hmode hkind =>
      rcases hmode with hmode | hmode <;> simp [insideAfter, hkind, hmode]
  | constraint gs opened c hgroups hopened hparse hkind =>
      simp [insideAfter, hkind, mode_setGroups]
  | openGroups gs hkind hgroups hne =>
      have hmode := not_objects_of_groups hgroups
      simp only [withOpened, mode_setGroups]
      split <;> simp [insideAfter, hkind, hmode]

theorem objects_setGroups (gs : List Group) :
    (s.setGroups gs).document.objects = s.document.objects := by
  rw [setGroups]
  cases s.mode <;> rfl

/-- A line declares what it says, behind all that was declared. Only definitions and imports declare
anything, and no line takes a declaration back. -/
theorem objects_change (h : Change context raw s t) :
    t.document.objects
      = s.document.objects.insertAll (declarations context (s.mode = .objects) raw) := by
  have hnone : ∀ {u : ReadState}, u.document.objects = s.document.objects →
      (LineKind.of raw).importPath? = none →
      (s.mode = .objects → (LineKind.of raw).isDefinition = false) →
      u.document.objects
        = s.document.objects.insertAll (declarations context (s.mode = .objects) raw) := by
    intro u hu himport hout
    rw [hu, declarations_eq_nil himport (by simpa using hout)]
    rfl
  cases h with
  | nothing hkind =>
      have hdeclared : declarations context (s.mode = .objects) raw = [] := by
        rcases hkind with hkind | hkind
        · exact declarations_eq_nil (by rw [hkind]; rfl) fun _ => by rw [hkind]; rfl
        · simp [declarations, hkind, definition_separator hkind, Except.toOption,
            LineKind.importPath?]
      rw [hdeclared]
      rfl
  | «import» d hkind himport =>
      obtain ⟨rel, hrel, hspec⟩ := himport
      rw [declarations_of_import hrel hspec]
      rfl
  | startObjects hout hkind hmode =>
      exact hnone rfl (by rw [hkind]; rfl) fun _ => by rw [hkind]; rfl
  | define name text l hidle hdirective hcut hreserved hlocator hmarker hmode =>
      have hdefinition : definition (trim raw) = .ok (String.ofList name, l) := by
        simp only [definition, hcut, hreserved, hlocator]
        rfl
      have hkind : (LineKind.of raw).isDefinition = true := by
        rw [LineKind.isDefinition_eq_true_iff]
        exact ⟨hidle, hdirective, hmarker⟩
      rw [decide_eq_true hmode, declarations_of_definition hkind hdefinition]
      rfl
  | openSection tags htags hout hkind =>
      rcases hkind with ⟨hkind, hmode⟩ | ⟨hkind, hmode⟩
      · exact hnone rfl (by rw [hkind]; rfl) fun _ => by rw [hkind]; rfl
      · exact hnone rfl (by rw [hkind]; rfl) fun hobjects => absurd hobjects hmode
  | parameters values hkind hvalues hmode =>
      exact hnone rfl (by rw [hkind]; rfl) fun hobjects => absurd hobjects hmode
  | firstStatement inverted hout hkind hmode =>
      exact hnone rfl (by rw [hkind]; rfl) fun hobjects => absurd hobjects hmode
  | nextStatement inverted b hblock hmode hkind =>
      exact hnone rfl (by rw [hkind]; rfl) fun hobjects => by simp [hmode] at hobjects
  | body hmode hkind =>
      exact hnone rfl (by rw [hkind]; rfl) fun hobjects => by simp [hmode] at hobjects
  | «otherwise» b hblock hmode hkind =>
      exact hnone rfl (by rw [hkind]; rfl) fun hobjects => by simp [hmode] at hobjects
  | close b hblock hmode hkind =>
      refine hnone rfl (by rw [hkind]; rfl) fun hobjects => ?_
      rcases hmode with hmode | hmode <;> simp [hmode] at hobjects
  | constraint gs opened c hgroups hopened hparse hkind =>
      exact hnone (objects_setGroups _) (by rw [hkind]; rfl) fun hobjects =>
        absurd hobjects (not_objects_of_groups hgroups)
  | openGroups gs hkind hgroups hne =>
      exact hnone (objects_setGroups _) (by rw [hkind]; rfl) fun hobjects =>
        absurd hobjects (not_objects_of_groups hgroups)

/-- Between object markers all lines but a few are definitions: comments and instructions are what
they are elsewhere, and a marker ends the definitions. -/
theorem step_definition (hkind : (LineKind.of raw).isDefinition = true)
    (hmode : s.mode = .objects) :
    s.step context number raw = s.defineObject number (trim raw) := by
  obtain ⟨hidle, hdirective, hmarker⟩ := LineKind.isDefinition_eq_true_iff.mp hkind
  rw [step]
  split
  · next hkind => exact absurd hkind hidle
  · next text hkind => exact absurd hkind (hdirective text)
  · next hkind => exact absurd hkind hmarker
  · rw [if_pos hmode]

theorem step_splice_import {rel : Path} (hn : n ≤ s.document.sections.length)
    (hpath : (LineKind.of raw).importPath? = some rel) :
    (s.splice n more objects).step context number raw = (s.step context number raw).map
      (splice n more (objects.insertAll (declarations context (s.mode = .objects) raw))) := by
  rw [step_of_import hpath, step_of_import hpath]
  cases hspec : context.importSpec (.from? context.base rel) with
  | error e => rfl
  | ok d =>
      rw [declarations_of_import hpath hspec]
      have happend := insertAt_append hn more d.sections
      exact congrArg (fun sections => Except.ok { s.splice n more objects with
        document := ⟨objects.merge d.objects, sections⟩ }) happend.symm

theorem step_splice_definition (hkind : (LineKind.of raw).isDefinition = true)
    (hmode : s.mode = .objects) :
    (s.splice n more objects).step context number raw = (s.step context number raw).map
      (splice n more (objects.insertAll (declarations context (s.mode = .objects) raw))) := by
  have hsame : (s.splice n more objects).mode = .objects := hmode
  rw [step_definition hkind hmode, step_definition hkind hsame, defineObject_eq, defineObject_eq,
    decide_eq_true hmode]
  cases hdefinition : definition (trim raw) with
  | error cause => rfl
  | ok entry =>
      rw [declarations_of_definition hkind hdefinition]
      rfl

/-- A line that neither imports nor defines anything leaves the objects alone. So it does the same
whatever objects and further sections the state has. -/
theorem step_splice_quiet (hn : n ≤ s.document.sections.length)
    (hpath : (LineKind.of raw).importPath? = none)
    (hout : s.mode = .objects → (LineKind.of raw).isDefinition = false) :
    (s.splice n more objects).step context number raw
      = (s.step context number raw).map (splice n more objects) := by
  have hsame : (s.splice n more objects).mode = s.mode := rfl
  have hmode : (LineKind.of raw).isDefinition = true → s.mode ≠ .objects := by
    intro hkind hobjects
    rw [hout hobjects] at hkind
    cases hkind
  cases hkind : LineKind.of raw with
  | idle =>
      simp only [step, hkind]
      rfl
  | directive text =>
      rw [hkind] at hpath
      obtain ⟨cause, -, herror⟩ := directive_of_no_import context hpath
      simp only [step, hkind, herror]
      rfl
  | marker =>
      simp only [step, hkind]
      rw [toggleObjects_splice hn]
  | separator =>
      simp only [step, hkind, hsame, if_neg (hmode (by rw [hkind]; rfl))]
      rfl
  | tags text =>
      simp only [step, hkind, hsame, if_neg (hmode (by rw [hkind]; rfl))]
      rw [openSection_splice hn]
  | parameters =>
      simp only [step, hkind, hsame, if_neg (hmode (by rw [hkind]; rfl))]
      cases Parameters.parse? (trim raw) <;> rfl
  | keyword keyword =>
      simp only [step, hkind, hsame, if_neg (hmode (by rw [hkind]; rfl))]
      rw [applyKeyword_splice hn]
  | constraint =>
      simp only [step, hkind, hsame, if_neg (hmode (by rw [hkind]; rfl))]
      rw [addConstraint_splice hn]
  | name =>
      simp only [step, hkind, hsame, if_neg (hmode (by rw [hkind]; rfl))]
      rw [openGroup_splice hn]

/-- A line does the same to a state with other sections around its own, and with other objects. A
definition is declared behind the objects that were put in. -/
theorem step_splice (hn : n ≤ s.document.sections.length) :
    (s.splice n more objects).step context number raw = (s.step context number raw).map
      (splice n more (objects.insertAll (declarations context (s.mode = .objects) raw))) := by
  cases hpath : (LineKind.of raw).importPath? with
  | some rel => exact step_splice_import hn hpath
  | none =>
      by_cases hdefinition : s.mode = .objects ∧ (LineKind.of raw).isDefinition = true
      · exact step_splice_definition hdefinition.2 hdefinition.1
      · have hout : s.mode = .objects → (LineKind.of raw).isDefinition = false := by
          simpa using hdefinition
        rw [step_splice_quiet hn hpath hout, declarations_eq_nil hpath (by simpa using hout)]
        rfl

theorem tags_modifySection (f : Section → Section) (hf : ∀ sec, (f sec).tags = sec.tags)
    (s : ReadState) :
    (s.modifySection f).document.sections.map (·.tags) = s.document.sections.map (·.tags) := by
  have hsame : ∀ (sections : List Section) (i : Nat),
      (sections.modify i f).map (·.tags) = sections.map (·.tags) := by
    intro sections
    induction sections with
    | nil => intro i; simp
    | cons sec sections ih => intro i; cases i <;> simp [hf, ih]
  exact hsame s.document.sections s.current

theorem tags_setGroups (gs : List Group) (s : ReadState) :
    (s.setGroups gs).document.sections.map (·.tags) = s.document.sections.map (·.tags) := by
  rw [setGroups]
  cases s.mode with
  | start | groups =>
      exact tags_modifySection (fun sec => { sec with groups := gs }) (fun _ => rfl) s
  | objects | statement | body | «otherwise» => rfl

/-- A line opens no section in front of one that is there. -/
theorem tags_change (h : Change context raw s t) :
    s.document.sections.map (·.tags) <+: t.document.sections.map (·.tags) := by
  cases h with
  | «import» d hkind himport =>
      change _ <+: (s.document.sections ++ d.sections).map (·.tags)
      rw [List.map_append]
      exact List.prefix_append ..
  | openSection tags htags hout hkind =>
      rw [List.map_append]
      exact List.prefix_append ..
  | close b hblock hmode hkind =>
      have hsame := tags_modifySection (fun sec => { sec with blocks := sec.blocks ++ [b] })
        (fun _ => rfl) s
      exact hsame.symm ▸ List.prefix_rfl
  | constraint gs opened c hgroups hopened hparse hkind =>
      exact (tags_setGroups _ s).symm ▸ List.prefix_rfl
  | openGroups gs hkind hgroups hne => exact (tags_setGroups _ s).symm ▸ List.prefix_rfl
  | _ => exact List.prefix_rfl

/-- No line takes a section away. So the number of a section says where it is from then on. -/
theorem length_sections_change (h : Change context raw s t) :
    s.document.sections.length ≤ t.document.sections.length := by
  simpa using (tags_change h).length_le

/-- Lines do the same to a state with other sections around its own, and with other objects. What
they declare is declared behind the objects that were put in, and an error stays the same. -/
theorem run_splice (hn : n ≤ s.document.sections.length) (number : Nat)
    (lines : List (List Char)) :
    (s.splice n more objects).run context number lines = (s.run context number lines).map
      (splice n more (objects.insertAll (declared context (s.mode = .objects) lines))) := by
  induction lines generalizing s number objects with
  | nil => rfl
  | cons raw rest ih =>
      rw [run, run, step_splice hn]
      cases hstep : s.step context number raw with
      | error e => rfl
      | ok t =>
          have hchange := change_of_step hstep
          change (t.splice n more _).run context (number + 1) rest = _
          rw [ih (hn.trans (length_sections_change hchange)), declared,
            ObjectTable.insertAll_append, insideAfter_change hchange]

theorem Reads.splice {lines : List (List Char)} (h : Reads context lines s t)
    (hn : n ≤ s.document.sections.length) (more : List Section) (objects : ObjectTable) :
    Reads context lines (s.splice n more objects) (t.splice n more
      (objects.insertAll (declared context (s.mode = .objects) lines))) := by
  have hrun : s.run context 1 lines = .ok t := reads_iff_run.mp h
  refine reads_iff_run.mpr (?_ : ReadState.run _ 1 _ _ = _)
  rw [run_splice hn, hrun]
  rfl

/-- Lines that are read with other sections around those of a state are read without them, too. It
is the way back from a text with an import line to the text without it. -/
theorem Reads.of_splice {lines : List (List Char)}
    (h : Reads context lines (s.splice n more objects) t) (hn : n ≤ s.document.sections.length) :
    ∃ u, Reads context lines s u ∧ t = u.splice n more
      (objects.insertAll (declared context (s.mode = .objects) lines)) := by
  have hspliced : (s.splice n more objects).run context 1 lines = .ok t := reads_iff_run.mp h
  rw [run_splice hn] at hspliced
  cases hrun : s.run context 1 lines with
  | error e =>
      rw [hrun] at hspliced
      cases hspliced
  | ok u =>
      rw [hrun] at hspliced
      exact ⟨u, reads_iff_run.mpr hrun, (Except.ok.inj hspliced).symm⟩

/-- What some lines declare is known from the lines. The state in front of them matters only by
whether it is between object markers. -/
theorem Reads.objects_eq {lines : List (List Char)} (h : Reads context lines s t) :
    t.document.objects
      = s.document.objects.insertAll (declared context (s.mode = .objects) lines) := by
  induction h with
  | nil s => rfl
  | cons hstep _ ih =>
      have hchange := change_of_step hstep
      rw [ih, objects_change hchange, declared, ObjectTable.insertAll_append,
        insideAfter_change hchange]

/-- Whether lines stand between object markers is known from the lines in front of them. -/
theorem Reads.inside_eq {lines : List (List Char)} (h : Reads context lines s t) :
    lines.foldl insideAfter (s.mode = .objects) = decide (t.mode = .objects) := by
  induction h with
  | nil s => rfl
  | cons hstep _ ih => rw [List.foldl_cons, insideAfter_change (change_of_step hstep), ih]

end ReadState

end LayoutSpec
