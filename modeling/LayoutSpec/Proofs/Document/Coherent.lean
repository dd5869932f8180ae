import LayoutSpec.Proofs.Document.Fault
import LayoutSpec.Proofs.Document.Written

/-!
The parts of a reading fit together behind any lines: the block that is being built is that of the
mode, the open groups are the last ones where groups are added, and no parameter line is empty. So
nothing is ever added to a place that is lost.
-/

namespace LayoutSpec

open Text

namespace Parameters

theorem ne_nil_of_itemValues {item : List Char} {values : List (List Char)}
    (h : itemValues? item = some values) : values ≠ [] := by
  rw [itemValues?] at h
  split at h
  · cases h
  · split at h
    · obtain rfl := Option.some.inj h
      simp
    · split at h
      · split at h
        · obtain rfl := Option.some.inj h
          simp [numerals]
        · cases h
      · obtain rfl := Option.some.inj h
        simp

theorem ne_nil_of_parse {line : List Char} {values : List String}
    (h : parse? line = some values) : values ≠ [] := by
  obtain ⟨inner, -, h⟩ := Option.bind_eq_some_iff.mp h
  obtain ⟨found, hfound, h⟩ := Option.bind_eq_some_iff.mp h
  obtain rfl := Option.some.inj h
  obtain ⟨item, items, hitems⟩ := List.exists_cons_of_ne_nil (List.splitOn_ne_nil ',' inner)
  rw [hitems, List.mapM_cons] at hfound
  obtain ⟨first, hfirst, hfound⟩ := Option.bind_eq_some_iff.mp hfound
  obtain ⟨rest, -, hfound⟩ := Option.bind_eq_some_iff.mp hfound
  obtain rfl : first :: rest = found := Option.some.inj hfound
  have hne := ne_nil_of_itemValues hfirst
  simp [hne]

end Parameters

def OpenGroups.count (opened : OpenGroups) : Nat :=
  if opened.values.isEmpty then 1 else opened.values.length

/-- Whether a keyword has a place in a mode. One that opens a block is not misplaced anywhere,
though blocks are not nested. -/
def BlockKeyword.hasPlace : BlockKeyword → ReadMode → Bool
  | .statement false _, _ => true
  | .statement true _, .statement | .body, .statement | .otherwise, .body => true
  | .close, .statement | .close, .body | .close, .otherwise => true
  | _, _ => false

/-- What a block looks like that is being built in a mode. -/
structure ConditionalBlock.Fits (mode : ReadMode) (b : ConditionalBlock) : Prop where
  statements : b.statements ≠ []
  body : mode = .statement → b.body = []
  otherwise : b.otherwise.isSome ↔ mode = .otherwise

namespace ReadState

variable {context : ReadContext} {raw : List Char} {s t : ReadState} {gs : List Group}

/-- The mode, the block that is being built and the section to which it will go fit together. -/
structure Shaped (s : ReadState) : Prop where
  block : s.block.isSome = s.mode.inBlock
  fits : ∀ b, s.block = some b → b.Fits s.mode
  current : s.current < s.document.sections.length

/-- The open groups are the last ones where the next group will be added. -/
def HasOpened (s : ReadState) : Prop :=
  ∀ opened, s.openGroups = some opened →
    ∃ gs, s.groups? = some gs ∧ gs.length = opened.first + opened.count

/-- What holds between the parts of a state behind any lines. -/
structure Coherent (s : ReadState) : Prop extends s.Shaped where
  opened : s.HasOpened
  pending : s.pending ≠ some []

theorem Shaped.exists_block (hs : s.Shaped) (h : s.mode.inBlock = true) :
    ∃ b, s.block = some b ∧ b.Fits s.mode := by
  obtain ⟨b, hb⟩ := Option.isSome_iff_exists.mp (hs.block.trans h)
  exact ⟨b, hb, hs.fits b hb⟩

theorem Shaped.block_eq_none (hs : s.Shaped) (h : s.mode.inBlock = false) : s.block = none := by
  rw [← hs.block] at h
  simpa using h

/-- The place of the next group is found outside of object definitions. The reader looks for it in
the block that is being built or in the current section, and the mode says rightly which of them is
there. -/
theorem Shaped.exists_groups (hs : s.Shaped) (h : s.mode ≠ .objects) :
    ∃ gs, s.groups? = some gs := by
  rw [groups?]
  cases hmode : s.mode with
  | start | groups => exact ⟨_, by rw [List.getElem?_eq_getElem hs.current]; rfl⟩
  | objects => exact absurd hmode h
  | statement =>
      obtain ⟨b, hb, hfits⟩ := hs.exists_block (by rw [hmode]; rfl)
      exact ⟨_, by rw [hb, Option.bind_some, List.getLast?_eq_some_getLast hfits.statements]; rfl⟩
  | body =>
      obtain ⟨b, hb, -⟩ := hs.exists_block (by rw [hmode]; rfl)
      exact ⟨b.body, by rw [hb]; rfl⟩
  | «otherwise» =>
      obtain ⟨b, hb, hfits⟩ := hs.exists_block (by rw [hmode]; rfl)
      obtain ⟨gs, hgs⟩ := Option.isSome_iff_exists.mp (hfits.otherwise.mpr hmode)
      exact ⟨gs, by rw [hb]; exact hgs⟩

theorem not_objects_of_groups (h : s.groups? = some gs) : s.mode ≠ .objects := by
  intro hmode
  rw [groups?, hmode] at h
  cases h

theorem mode_setGroups (gs : List Group) : (s.setGroups gs).mode = s.mode := by
  rw [setGroups]
  split <;> rfl

theorem groups?_setGroups (h : s.groups? = some gs) (new : List Group) :
    (s.setGroups new).groups? = some new := by
  rw [groups?] at h ⊢
  rw [mode_setGroups, setGroups]
  cases hmode : s.mode with
  | start | groups =>
      rw [hmode] at h
      obtain ⟨sec, hsec, -⟩ := Option.map_eq_some_iff.mp h
      simp [modifySection, hsec]
  | objects =>
      rw [hmode] at h
      cases h
  | statement =>
      rw [hmode] at h
      obtain ⟨b, hb, h⟩ := Option.bind_eq_some_iff.mp h
      obtain ⟨condition, hcondition, -⟩ := Option.map_eq_some_iff.mp h
      rw [List.getLast?_eq_getElem?] at hcondition
      simp [hb, List.getLast?_eq_getElem?, hcondition]
  | body =>
      rw [hmode] at h
      obtain ⟨b, hb, -⟩ := Option.map_eq_some_iff.mp h
      simp [hb]
  | «otherwise» =>
      rw [hmode] at h
      obtain ⟨b, hb, -⟩ := Option.bind_eq_some_iff.mp h
      simp [hb]

/-- Groups can be replaced where the next one will be added. The mode, the number of blocks and the
current section stay, so that the parts of the state still fit. -/
theorem Shaped.setGroups (hs : s.Shaped) (new : List Group) : (s.setGroups new).Shaped := by
  obtain ⟨hblock, hfits, hcurrent⟩ := hs
  rw [ReadState.setGroups]
  split
  · exact ⟨hblock, hfits, by simpa [modifySection] using hcurrent⟩
  · exact ⟨hblock, hfits, by simpa [modifySection] using hcurrent⟩
  · refine ⟨by simpa using hblock, fun b hb => ?_, hcurrent⟩
    obtain ⟨old, hold, rfl⟩ := Option.map_eq_some_iff.mp hb
    obtain ⟨hstatements, hbody, hother⟩ := hfits old hold
    exact ⟨by simpa [← List.length_eq_zero_iff] using hstatements, hbody, hother⟩
  · next hmode =>
      refine ⟨by simpa using hblock, fun b hb => ?_, hcurrent⟩
      obtain ⟨old, hold, rfl⟩ := Option.map_eq_some_iff.mp hb
      obtain ⟨hstatements, -, hother⟩ := hfits old hold
      exact ⟨hstatements, fun h => absurd (hmode.symm.trans h) (by decide), hother⟩
  · next hmode =>
      refine ⟨by simpa using hblock, fun b hb => ?_, hcurrent⟩
      obtain ⟨old, hold, rfl⟩ := Option.map_eq_some_iff.mp hb
      obtain ⟨hstatements, hbody, -⟩ := hfits old hold
      exact ⟨hstatements, hbody, by simp [hmode]⟩
  · exact ⟨hblock, hfits, hcurrent⟩

theorem length_addEach (gs : List Group) (cs : List Constraint) :
    (addEach gs cs).length = gs.length := by
  induction gs generalizing cs with
  | nil => cases cs <;> rfl
  | cons g gs ih =>
      cases cs with
      | nil => rfl
      | cons c cs => rw [addEach, List.length_cons, List.length_cons, ih]

theorem length_withConstraint (gs : List Group) (opened : OpenGroups) (c : Constraint) :
    (withConstraint gs opened c).length = gs.length := by
  rw [withConstraint, List.length_append, length_addEach, ← List.length_append,
    List.take_append_drop]

theorem length_openedGroups (pattern : String) (values : List String) {first : Nat} :
    (openedGroups pattern values).length = OpenGroups.count ⟨first, values⟩ := by
  rw [openedGroups, OpenGroups.count]
  split
  · rfl
  · exact List.length_map _

/-- An import leaves the groups where they are. The sections that it brings in stand behind the
current one. -/
theorem groups?_merge (hs : s.Shaped) (d : Document) :
    groups? { s with document := s.document.merge d } = s.groups? := by
  have hsections : (s.document.merge d).sections[s.current]? = s.document.sections[s.current]? :=
    List.getElem?_append_left hs.current
  rw [groups?, groups?, hsections]

theorem groups?_settled (opened : Option OpenGroups) (pending : Option (List String)) :
    groups? { s with
      openGroups := opened, pending, mode := if s.mode = .start then .groups else s.mode }
        = s.groups? := by
  rw [groups?, groups?]
  cases s.mode <;> rfl

theorem Shaped.settled (hs : s.Shaped) (opened : Option OpenGroups)
    (pending : Option (List String)) :
    Shaped { s with
      openGroups := opened, pending, mode := if s.mode = .start then .groups else s.mode } := by
  obtain ⟨hblock, hfits, hcurrent⟩ := hs
  cases hmode : s.mode with
  | start =>
      have hnone : s.block = none := by simpa [hmode, ReadMode.inBlock] using hblock
      exact ⟨by simp [hnone, ReadMode.inBlock], by simp [hnone], hcurrent⟩
  | _ =>
      rw [hmode] at hblock hfits
      exact ⟨hblock, hfits, hcurrent⟩

theorem hasOpened_of_none (h : s.openGroups = none) : s.HasOpened := by
  intro opened hopened
  rw [h] at hopened
  cases hopened

/-- Every change keeps the parts together. It is the step of the induction over the lines of a text,
with one case for each kind of line. -/
theorem Coherent.change (hs : s.Coherent) (h : Change context raw s t) : t.Coherent := by
  obtain ⟨hshaped, hopened, hpending⟩ := hs
  have hfits := hshaped.fits
  have hcurrent := hshaped.current
  cases h with
  | nothing => exact ⟨hshaped, hopened, hpending⟩
  | «import» d hkind =>
      refine ⟨⟨hshaped.block, hfits, ?_⟩, ?_, hpending⟩
      · change s.current < (s.document.sections ++ d.sections).length
        rw [List.length_append]
        omega
      · intro opened h
        rw [groups?_merge hshaped]
        exact hopened opened h
  | startObjects hout =>
      have hnone := hshaped.block_eq_none hout
      refine ⟨⟨?_, ?_, hcurrent⟩, hasOpened_of_none rfl, hpending⟩
      · simp [hnone, ReadMode.inBlock]
      · simp [hnone]
  | define name text l hidle hdirective hcut hreserved hlocator =>
      exact ⟨⟨hshaped.block, hfits, hcurrent⟩, hopened, hpending⟩
  | openSection tags htags hout =>
      have hnone := hshaped.block_eq_none hout
      refine ⟨⟨?_, ?_, ?_⟩, hasOpened_of_none rfl, hpending⟩
      · simp [hnone, ReadMode.inBlock]
      · simp [hnone]
      · simp
  | parameters values hkind hvalues =>
      refine ⟨⟨hshaped.block, hfits, hcurrent⟩, hopened, ?_⟩
      simpa using Parameters.ne_nil_of_parse hvalues
  | firstStatement inverted hout =>
      refine ⟨⟨rfl, ?_, hcurrent⟩, hasOpened_of_none rfl, hpending⟩
      intro b hb
      obtain rfl := Option.some.inj hb
      exact ⟨by simp, fun _ => rfl, by simp⟩
  | nextStatement inverted b hblock hmode =>
      refine ⟨⟨?_, ?_, hcurrent⟩, hasOpened_of_none rfl, hpending⟩
      · simp [hmode, ReadMode.inBlock]
      · intro next hnext
        obtain rfl := Option.some.inj hnext
        obtain ⟨-, hbody, hother⟩ := hfits b hblock
        exact ⟨by simp, hbody, hother⟩
  | body hmode =>
      refine ⟨⟨?_, ?_, hcurrent⟩, hasOpened_of_none rfl, hpending⟩
      · rw [hshaped.block, hmode]
        rfl
      · intro b hb
        obtain ⟨hstatements, -, hother⟩ := hfits b hb
        exact ⟨hstatements, by simp, by simpa [hmode] using hother⟩
  | «otherwise» b hblock hmode =>
      refine ⟨⟨rfl, ?_, hcurrent⟩, hasOpened_of_none rfl, hpending⟩
      intro next hnext
      obtain rfl := Option.some.inj hnext
      exact ⟨(hfits b hblock).statements, by simp, by simp⟩
  | close b hblock hmode =>
      refine ⟨⟨rfl, by simp, ?_⟩, hasOpened_of_none rfl, hpending⟩
      simpa [modifySection] using hcurrent
  | constraint gs opened c hgroups hopen hparse =>
      -- As many groups as before take their place.
      refine ⟨hshaped.setGroups _, ?_, by rwa [pending_setGroups]⟩
      intro found hfound
      rw [openGroups_setGroups] at hfound
      obtain ⟨groups, hgroups', hlength⟩ := hopened found hfound
      obtain rfl := Option.some.inj (hgroups.symm.trans hgroups')
      exact ⟨_, groups?_setGroups hgroups _, by rw [length_withConstraint, hlength]⟩
  | openGroups gs hname hgroups hne =>
      refine ⟨(hshaped.setGroups _).settled _ _, ?_, by simp [withOpened]⟩
      intro found hfound
      obtain rfl := Option.some.inj hfound
      -- The new groups stand behind the ones that were there.
      refine ⟨_, (groups?_settled _ _).trans (groups?_setGroups hgroups _), ?_⟩
      rw [List.length_append, length_openedGroups]

/-- Behind any lines the parts of the state fit together. In the initial state they do, and every
change keeps them so. -/
theorem Reads.coherent {lines : List (List Char)} (h : Reads context lines .initial s) :
    s.Coherent := by
  refine h.preserves ?_ fun _ _ _ _ _ hs hstep => hs.change (change_of_step hstep)
  exact ⟨⟨rfl, by simp [initial], by simp [initial]⟩, hasOpened_of_none rfl, by simp [initial]⟩

theorem Shaped.cause_ne_missingBlock {number : Nat} {e : SyntaxError} (hs : s.Shaped)
    (himport : ∀ path fault, context.importSpec path = .error fault →
      (fault.error number path).cause ≠ .missingBlock)
    (h : Fault context number raw s e) : e.cause ≠ .missingBlock := by
  cases h with
  | text htext =>
      rintro rfl
      cases htext
  | «import» hpath hspec => exact himport _ _ hspec
  | lostGroups hmode hnone =>
      obtain ⟨gs, hgs⟩ := hs.exists_groups hmode
      rw [hnone] at hgs
      cases hgs

/-- A keyword is misplaced because of the mode only, never because the block is lost. The converse
holds, too: a keyword without a place in the mode is refused. -/
theorem Shaped.applyKeyword_eq_misplaced_iff (hs : s.Shaped) (number : Nat)
    (keyword : BlockKeyword) :
    s.applyKeyword number keyword = .error (.ofLine number .misplacedKeyword) ↔
      keyword.hasPlace s.mode = false := by
  have hblock : s.mode.inBlock = true → ∃ b, s.block = some b := fun h =>
    (hs.exists_block h).imp fun _ hb => hb.1
  cases hmode : s.mode with
  | start | objects | groups =>
      rcases keyword with ⟨_ | _, _⟩ | _ | _ | _ <;>
        simp [applyKeyword, hmode, BlockKeyword.hasPlace, ReadMode.inBlock, SyntaxError.ofLine]
  | statement | body | «otherwise» =>
      obtain ⟨b, hb⟩ := hblock (by rw [hmode]; rfl)
      rcases keyword with ⟨_ | _, _⟩ | _ | _ | _ <;>
        simp [applyKeyword, hmode, hb, BlockKeyword.hasPlace, ReadMode.inBlock, SyntaxError.ofLine]

theorem addEach_eq_zipWith {gs : List Group} {cs : List Constraint} (h : gs.length = cs.length) :
    addEach gs cs
      = List.zipWith (fun g c => { g with constraints := g.constraints ++ [c] }) gs cs := by
  induction gs generalizing cs with
  | nil =>
      obtain rfl := List.length_eq_zero_iff.mp h.symm
      rfl
  | cons g gs ih =>
      cases cs with
      | nil => cases h
      | cons c cs => rw [addEach, List.zipWith_cons_cons, ih (Nat.succ.inj h)]

theorem length_copies (c : Constraint) (opened : OpenGroups) :
    (copies c opened.values).length = opened.count := by
  rw [copies, OpenGroups.count]
  split
  · rfl
  · exact List.length_map _

/-- A constraint arrives at every open group, and these are the last groups of the current list.
With parameters there are as many copies as groups, so none of them is left over or left out. -/
theorem Coherent.addConstraint (hs : s.Coherent) {base : Option Path} (number : Nat)
    {line : List Char} {opened : OpenGroups} {c : Constraint} (hopened : s.openGroups = some opened)
    (hparse : Constraint.parse base line = .ok c) :
    ∃ before last t, s.groups? = some (before ++ last) ∧ before.length = opened.first ∧
      last.length = (copies c opened.values).length ∧
      s.addConstraint base number line = .ok t ∧
      t.groups? = some (before ++ List.zipWith
        (fun g c => { g with constraints := g.constraints ++ [c] }) last
          (copies c opened.values)) := by
  obtain ⟨gs, hgroups, hlength⟩ := hs.opened opened hopened
  have hfirst : (gs.take opened.first).length = opened.first := by
    rw [List.length_take]
    omega
  have hlast : (gs.drop opened.first).length = (copies c opened.values).length := by
    rw [List.length_drop, length_copies]
    omega
  refine ⟨gs.take opened.first, gs.drop opened.first,
    s.setGroups (withConstraint gs opened c), ?_, hfirst, hlast, ?_, ?_⟩
  · rw [List.take_append_drop, hgroups]
  · simp only [ReadState.addConstraint, hopened, hparse, onLine_ok, bind, Except.bind, hgroups]
    rfl
  · rw [groups?_setGroups hgroups, withConstraint, addEach_eq_zipWith hlast]

end ReadState

namespace Document

variable {tree : FileTree} {chain : List FileKey}

/-- The groups of a line are not lost in an imported file either. An imported text starts from the
initial state, in which all parts fit. -/
theorem cause_ne_missingBlock_of_importWithin {path : Path} {fault : ImportFault} (number : Nat)
    (h : importWithin tree chain path = .error fault) :
    (fault.error number path).cause ≠ .missingBlock := by
  induction hfiles : (filesOutside tree chain).length using Nat.strong_induction_on
    generalizing chain path fault number with
  | _ n ih =>
      obtain ⟨key, -, -, rfl⟩ | rfl | ⟨key, text, found, -, hnew, hcontent, hread, rfl⟩ :=
        of_importWithin_eq_error h
      · rintro ⟨⟩
      · rintro ⟨⟩
      · -- The error comes out of the file, which is read with a longer chain.
        have hless : (filesOutside tree (key :: chain)).length < n := by
          rw [← hfiles]
          exact filesOutside_cons_lt (by simpa using hnew) (by simp [hcontent])
        rw [ImportFault.error, SyntaxError.cause_inFile]
        rw [readWithin_eq] at hread
        obtain htext | ⟨before, raw, after, s, -, hreads, hfault⟩ := of_ofLines_eq_error hread
        · intro hcause
          rw [hcause] at htext
          cases htext
        · exact hreads.coherent.cause_ne_missingBlock
            (fun path fault himport => ih _ hless _ himport rfl) hfault

/-- Behind any lines that are read, whatever they import: the parts of the state fit together, no
line is at fault for a block or a group that is lost, keywords are misplaced because of the mode
only, and a constraint is added to all the open groups. -/
theorem reading_fits_together {base : Option Path} {lines : List (List Char)} {s : ReadState}
    (h : ReadState.Reads ⟨base, importWithin tree chain⟩ lines .initial s) :
    s.Coherent ∧
    (∀ number raw e, s.step ⟨base, importWithin tree chain⟩ number raw = .error e →
      e.cause ≠ .missingBlock) ∧
    (∀ number keyword,
      s.applyKeyword number keyword = .error (.ofLine number .misplacedKeyword) ↔
        keyword.hasPlace s.mode = false) ∧
    ∀ number line opened c, s.openGroups = some opened → Constraint.parse base line = .ok c →
      ∃ before last t, s.groups? = some (before ++ last) ∧ before.length = opened.first ∧
        last.length = (ReadState.copies c opened.values).length ∧
        s.addConstraint base number line = .ok t ∧
        t.groups? = some (before ++ List.zipWith
          (fun g c => { g with constraints := g.constraints ++ [c] }) last
            (ReadState.copies c opened.values)) := by
  have hs := h.coherent
  refine ⟨hs, ?_, hs.applyKeyword_eq_misplaced_iff,
    fun number _ _ _ => hs.addConstraint number⟩
  intro number raw e hstep
  exact hs.cause_ne_missingBlock (fun _ _ => cause_ne_missingBlock_of_importWithin number)
    (ReadState.fault_of_step hstep)

/-- A condition on two cells, as far as the line that names them. -/
def cellState : ReadState where
  document := { sections := [{}] }
  mode := .statement
  current := 0
  block := some { statements := [{ groups := [{ pattern := "cell-1" }, { pattern := "cell-2" }] }] }
  openGroups := some ⟨0, ["1", "2"]⟩
  pending := none

theorem reading_fits_together_cellState :
    ReadState.Reads ⟨none, importWithin {} []⟩ (["if", "[1, 2]", "cell-@"].map String.toList)
      .initial cellState ∧
    cellState.Coherent ∧
    ∀ number line c, Constraint.parse none line = .ok c → ∃ t,
      cellState.addConstraint none number line = .ok t ∧
      t.groups? = some [⟨"cell-1", [c.withParameter "1"]⟩, ⟨"cell-2", [c.withParameter "2"]⟩] := by
  have hreads : ReadState.Reads ⟨none, importWithin {} []⟩
      (["if", "[1, 2]", "cell-@"].map String.toList) .initial cellState :=
    ReadState.reads_iff_run.mpr (by decide +kernel : ReadState.run _ 1 _ _ = .ok cellState)
  obtain ⟨hcoherent, -, -, hadd⟩ := reading_fits_together hreads
  refine ⟨hreads, hcoherent, fun number line c hparse => ?_⟩
  obtain ⟨before, last, t, hgroups, hfirst, -, ht, hnext⟩ := hadd number line _ c rfl hparse
  obtain rfl := List.length_eq_zero_iff.mp hfirst
  obtain rfl := Option.some.inj hgroups
  exact ⟨t, ht, hnext⟩

end Document

end LayoutSpec
