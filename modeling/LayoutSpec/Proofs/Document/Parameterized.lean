import LayoutSpec.Proofs.Document.Expansion

/-!
What becomes of a parameter line. Its values wait in the state of the reader until a group takes
them. A section cannot be opened while they wait, and a text cannot end, but another parameter line
can come: it replaces them, and they are lost without an error.
-/

namespace LayoutSpec

open Text

namespace ReadState

variable {context : ReadContext} {number : Nat} {raw : List Char} {s t u : ReadState}

/-- Whether the line is a parameter line. Between object markers there are none. -/
def Visit.isParameters (v : Visit) : Bool :=
  LineKind.of v.line = .parameters && v.state.mode ≠ .objects

/-- Whether the line opens groups. Between object markers none does. -/
def Visit.opensGroups (v : Visit) : Bool :=
  LineKind.of v.line = .name && v.state.mode ≠ .objects

/-- Whether the line opens groups with the values of a parameter line. -/
def Visit.takesValues (v : Visit) : Bool :=
  v.opensGroups && v.state.pending.isSome

/-- Whether the line is a parameter line in front of which the values of another one still wait. -/
def Visit.replacesValues (v : Visit) : Bool :=
  v.isParameters && v.state.pending.isSome

/-- Whether values that wait in front of the line can no longer wait behind it. -/
def Visit.settles (v : Visit) : Bool :=
  match LineKind.of v.line with
  | .name | .parameters | .tags _ | .marker => true
  | .idle | .directive _ | .separator | .keyword _ | .constraint => false

theorem Visit.isParameters_iff {v : Visit} :
    v.isParameters = true ↔ LineKind.of v.line = .parameters ∧ v.state.mode ≠ .objects := by
  simp [isParameters]

theorem Visit.settles_of_isParameters {v : Visit} (h : v.isParameters = true) :
    v.settles = true := by
  rw [settles, (isParameters_iff.mp h).1]

/-- The lines of a text itself, without those that it imports. -/
def ownVisits (context : ReadContext) (s : ReadState) (lines : List (List Char)) : List Visit :=
  visits context (fun _ => []) s lines

theorem ownVisits_cons (h : s.step context number raw = .ok t) (rest : List (List Char)) :
    ownVisits context s (raw :: rest) = ⟨s, raw⟩ :: ownVisits context t rest := by
  rw [ownVisits, visits, step_eq_ok h 0]
  cases (LineKind.of raw).importPath? <;> rfl

/-- A group line leaves no values, a parameter line leaves its own, and any other line leaves those
that were there. -/
theorem pending_of_change (h : Change context raw s t) :
    t.pending = if Visit.opensGroups ⟨s, raw⟩ then none
      else if Visit.isParameters ⟨s, raw⟩ then Parameters.parse? (trim raw)
      else s.pending := by
  simp only [Visit.opensGroups, Visit.isParameters]
  cases h with
  | nothing hkind => rcases hkind with hkind | hkind <;> simp [hkind]
  | «import» d hkind himport =>
      obtain ⟨rel, hrel, -⟩ := himport
      obtain ⟨text, hkind, -⟩ := LineKind.of_importPath? hrel
      simp [hkind]
  | startObjects hout hkind hmode => simp [hkind]
  | define name text l hidle hdirective hcut hreserved hlocator hmarker hmode => simp [hmode]
  | openSection tags htags hout hkind => rcases hkind with ⟨hkind, -⟩ | ⟨hkind, -⟩ <;> simp [hkind]
  | parameters values hkind hvalues hmode => simp [hkind, hmode, hvalues]
  | firstStatement inverted hout hkind hmode => simp [hkind]
  | nextStatement inverted b hblock hmode hkind => simp [hkind]
  | body hmode hkind => simp [hkind]
  | «otherwise» b hblock hmode hkind => simp [hkind]
  | close b hblock hmode hkind => simp [hkind, modifySection]
  | constraint old opened c hgroups hopened hparse hkind => simp [hkind, pending_setGroups]
  | openGroups old hkind hgroups hne =>
      have hmode := not_objects_of_groups hgroups
      have hnone : (s.withOpened old (String.ofList (groupPattern (trim raw)))
          (s.pending.getD [])).pending = none := rfl
      simp [hkind, hmode, hnone]

theorem isSome_parse?_of_change (h : Change context raw s t)
    (hparameters : Visit.isParameters ⟨s, raw⟩ = true) :
    (Parameters.parse? (trim raw)).isSome = true := by
  simp only [Visit.isParameters, Bool.and_eq_true, decide_eq_true_eq] at hparameters
  obtain ⟨hparameters, hout⟩ := hparameters
  cases h with
  | parameters values hkind hvalues hmode => simp [hvalues]
  | nothing hkind => simp [hparameters] at hkind
  | «import» d hkind himport => simp [hparameters, LineKind.isImport] at hkind
  | define name text l hidle hdirective hcut hreserved hlocator hmarker hmode =>
      exact absurd hmode hout
  | openSection tags htags hblock hkind => simp [hparameters] at hkind
  | startObjects _ hkind | firstStatement _ _ hkind | nextStatement _ _ _ _ hkind | body _ hkind
  | «otherwise» _ _ _ hkind | close _ _ _ hkind | constraint _ _ _ _ _ _ hkind
  | openGroups _ hkind =>
      rw [hparameters] at hkind
      cases hkind

/-- Values come in with a parameter line, and go to the group that takes them or to the parameter
line that replaces them. -/
theorem waiting_change (h : Change context raw s t) :
    t.pending.isSome.toNat + (Visit.takesValues ⟨s, raw⟩).toNat
        + (Visit.replacesValues ⟨s, raw⟩).toNat
      = s.pending.isSome.toNat + (Visit.isParameters ⟨s, raw⟩).toNat := by
  have hpending := pending_of_change h
  have hsome := isSome_parse?_of_change h
  rw [hpending, Visit.takesValues, Visit.replacesValues]
  cases hopens : Visit.opensGroups ⟨s, raw⟩ with
  | true =>
      have hno : Visit.isParameters ⟨s, raw⟩ = false := by
        simp only [Visit.opensGroups, Bool.and_eq_true, decide_eq_true_eq] at hopens
        simp [Visit.isParameters, hopens.1]
      simp [hno]
  | false =>
      cases hparameters : Visit.isParameters ⟨s, raw⟩ with
      | true =>
          rw [hparameters] at hsome
          simp [hsome rfl]
          omega
      | false => simp

/-- A section is not opened while values wait. -/
theorem pending_eq_none_of_openSection {tags : List Char}
    (h : s.openSection number tags = .ok t) : s.pending = none := by
  cases hpending : s.pending with
  | none => rfl
  | some values =>
      rw [openSection, checkNoPending, hpending] at h
      cases hblock : s.mode.inBlock <;> simp [hblock, bind, Except.bind] at h

theorem pending_eq_none_of_step (h : s.step context number raw = .ok t)
    (hkind : LineKind.of raw = .marker ∧ s.mode = .objects ∨
      ∃ tags, LineKind.of raw = .tags tags ∧ s.mode ≠ .objects) : s.pending = none := by
  rcases hkind with ⟨hkind, hmode⟩ | ⟨tags, hkind, hmode⟩
  · rw [step, hkind] at h
    dsimp only at h
    rw [toggleObjects, hmode, if_neg (by simp [ReadMode.inBlock]), if_pos rfl] at h
    exact pending_eq_none_of_openSection h
  · rw [step, hkind] at h
    dsimp only at h
    rw [if_neg hmode] at h
    exact pending_eq_none_of_openSection h

/-- Only a marker leads between object markers. -/
theorem mode_ne_objects_of_change (h : Change context raw s t) (hkind : LineKind.of raw ≠ .marker)
    (hmode : s.mode ≠ .objects) : t.mode ≠ .objects := by
  cases h with
  | nothing | «import» | parameters | nextStatement => exact hmode
  | startObjects _ hmarker => exact absurd hmarker hkind
  | define _ _ _ _ _ _ _ _ _ hin => exact absurd hin hmode
  | openSection | firstStatement | body | «otherwise» | close => simp
  | constraint => rwa [mode_setGroups]
  | openGroups old hname hgroups hne => exact mode_withOpened_ne_objects hgroups _ _

theorem objects_of_change (h : Change context raw s t) (hkind : LineKind.of raw = .marker)
    (hmode : s.mode ≠ .objects) : t.mode = .objects ∧ t.pending = s.pending := by
  cases h with
  | startObjects => exact ⟨rfl, rfl⟩
  | nothing hother => simp [hkind] at hother
  | «import» d hother himport => simp [hkind, LineKind.isImport] at hother
  | define _ _ _ _ _ _ _ _ hother => exact absurd hkind hother
  | openSection _ _ _ hother => simp [hkind, hmode] at hother
  | parameters _ hother | firstStatement _ _ hother | nextStatement _ _ _ _ hother | body _ hother
  | «otherwise» _ _ _ hother | close _ _ _ hother | constraint _ _ _ _ _ _ hother
  | openGroups _ hother =>
      rw [hkind] at hother
      cases hother

theorem pending_of_not_settles (h : Change context raw s t)
    (hsettles : Visit.settles ⟨s, raw⟩ = false) : t.pending = s.pending := by
  rw [Visit.settles] at hsettles
  have hname : LineKind.of raw ≠ .name := fun hkind => by simp [hkind] at hsettles
  have hparameters : LineKind.of raw ≠ .parameters := fun hkind => by simp [hkind] at hsettles
  rw [pending_of_change h]
  simp [Visit.opensGroups, Visit.isParameters, hname, hparameters]

theorem Reads.waiting {lines : List (List Char)} (h : Reads context lines s t) :
    t.pending.isSome.toNat + (ownVisits context s lines).countP Visit.takesValues
        + (ownVisits context s lines).countP Visit.replacesValues
      = s.pending.isSome.toNat + (ownVisits context s lines).countP Visit.isParameters := by
  induction h with
  | nil s => simp [ownVisits, visits]
  | @cons _ raw rest s t u hstep _ ih =>
      have hline := waiting_change (change_of_step hstep)
      have hbit : ∀ b : Bool, (if b = true then 1 else 0) = b.toNat := by decide
      rw [ownVisits_cons hstep, List.countP_cons, List.countP_cons, List.countP_cons, hbit, hbit,
        hbit]
      omega

/-- Values that wait at an object definition wait for good: no group can take them there, and the
definitions cannot be left. -/
theorem Reads.pending_of_objects {lines : List (List Char)} (h : Reads context lines s t)
    (hmode : s.mode = .objects) (hpending : s.pending.isSome = true) : t.pending.isSome = true := by
  refine (h.preserves (P := fun s => s.mode = .objects ∧ s.pending.isSome = true)
    ⟨hmode, hpending⟩ ?_).2
  rintro raw - number s t ⟨hmode, hpending⟩ hstep
  cases change_of_step hstep with
  | nothing | «import» | define => exact ⟨hmode, hpending⟩
  | startObjects _ _ hout | parameters _ _ _ hout | firstStatement _ _ _ hout =>
      exact absurd hmode hout
  | openSection tags htags hblock hkind =>
      rcases hkind with ⟨hkind, -⟩ | ⟨-, hout⟩
      · rw [pending_eq_none_of_step hstep (.inl ⟨hkind, hmode⟩)] at hpending
        cases hpending
      · exact absurd hmode hout
  | nextStatement _ _ _ hstatement | body hstatement | «otherwise» _ _ hstatement =>
      rw [hmode] at hstatement
      cases hstatement
  | close _ _ hstatement => simp [hmode] at hstatement
  | constraint _ _ _ hgroups | openGroups _ _ hgroups =>
      exact absurd hmode (not_objects_of_groups hgroups)

/-- The line that settles what becomes of waiting values is one that takes or replaces them, if no
values wait in the end. -/
theorem Reads.exists_settles {lines : List (List Char)} (h : Reads context lines s t)
    (hmode : s.mode ≠ .objects) (hpending : s.pending.isSome = true) (hend : t.pending = none) :
    ∃ next, (ownVisits context s lines).find? Visit.settles = some next ∧
      next.state.pending = s.pending ∧ (next.takesValues = true ∨ next.replacesValues = true) := by
  induction h with
  | nil s => simp [hend] at hpending
  | @cons _ raw rest s t u hstep hrest ih =>
      rw [ownVisits_cons hstep]
      cases hsettles : Visit.settles ⟨s, raw⟩ with
      | true =>
          refine ⟨⟨s, raw⟩, List.find?_cons_of_pos hsettles, rfl, ?_⟩
          rw [Visit.settles] at hsettles
          cases hkind : LineKind.of raw with
          | name =>
              exact .inl (by simp [Visit.takesValues, Visit.opensGroups, hkind, hmode, hpending])
          | parameters =>
              exact .inr (by simp [Visit.replacesValues, Visit.isParameters, hkind, hmode,
                hpending])
          | tags text =>
              rw [pending_eq_none_of_step hstep (.inr ⟨text, hkind, hmode⟩)] at hpending
              cases hpending
          | marker =>
              obtain ⟨hin, hsame⟩ := objects_of_change (change_of_step hstep) hkind hmode
              have hlast := hrest.pending_of_objects hin (hsame ▸ hpending)
              simp [hend] at hlast
          | idle | directive | separator | keyword | constraint => simp [hkind] at hsettles
      | false =>
          have hmarker : LineKind.of raw ≠ .marker :=
            fun hkind => by simp [Visit.settles, hkind] at hsettles
          have hsame := pending_of_not_settles (change_of_step hstep) hsettles
          have hnext := ih (mode_ne_objects_of_change (change_of_step hstep) hmarker hmode)
            (hsame ▸ hpending) hend
          rwa [List.find?_cons_of_neg (by simp [hsettles]), ← hsame]

/-- The lines behind one of the lines of a text are read from the state that it leaves. The lines of
a text itself are in one row, without those that it imports. -/
theorem Reads.of_visit {lines : List (List Char)} (h : Reads context lines s u)
    {before after : List Visit} {v : Visit}
    (hown : ownVisits context s lines = before ++ v :: after) :
    ∃ number rest t, v.state.step context number v.line = .ok t ∧ Reads context rest t u ∧
      after = ownVisits context t rest := by
  induction h generalizing before with
  | nil s => simp [ownVisits, visits] at hown
  | @cons _ raw rest s t u hstep hrest ih =>
      rw [ownVisits_cons hstep] at hown
      cases before with
      | nil =>
          obtain ⟨rfl, rfl⟩ := List.cons.inj hown
          exact ⟨_, rest, t, hstep, hrest, rfl⟩
      | cons first before => exact ih (List.cons.inj hown).2

/-- Only a parameter line leaves values to wait where others could not wait any longer. A line that
opens groups takes the values, and one that opens a section is refused while they wait. -/
theorem Reads.isParameters_of_settles {rest : List (List Char)}
    (hstep : s.step context number raw = .ok t) (hrest : Reads context rest t u)
    (hend : u.pending = none)
    (hsettles : Visit.settles ⟨s, raw⟩ = true) (hwaiting : t.pending.isSome = true) :
    Visit.isParameters ⟨s, raw⟩ = true := by
  have hlines := Reads.cons hstep hrest
  by_contra hno
  have hopens : Visit.opensGroups ⟨s, raw⟩ = false := by
    by_contra hopens
    rw [pending_of_change (change_of_step hstep), if_pos (eq_true_of_ne_false hopens)] at hwaiting
    cases hwaiting
  have hpending : s.pending.isSome = true := by
    rw [pending_of_change (change_of_step hstep), hopens, eq_false_of_ne_true hno] at hwaiting
    exact hwaiting
  have hmode : s.mode ≠ .objects := fun hin => by
    simpa [hend] using hlines.pending_of_objects hin hpending
  obtain ⟨next, hfind, -, hnext⟩ := hlines.exists_settles hmode hpending hend
  rw [ownVisits_cons hstep, List.find?_cons_of_pos hsettles] at hfind
  obtain rfl := Option.some.inj hfind
  rcases hnext with hnext | hnext
  · simp [Visit.takesValues, hopens] at hnext
  · simp [Visit.replacesValues, hno] at hnext

/-- Values that wait at a line come from the parameter line that was the last one to settle
anything, if none waited at first. -/
theorem Reads.of_waiting {lines : List (List Char)} (h : Reads context lines s u)
    (hend : u.pending = none) {before after : List Visit} {w : Visit}
    (hown : ownVisits context s lines = before ++ w :: after)
    (hwaiting : w.state.pending.isSome = true) :
    (s.pending.isSome = true ∧ ∀ q ∈ before, q.settles = false) ∨
      ∃ first v quiet, before = first ++ v :: quiet ∧ v.isParameters = true ∧
        ∀ q ∈ quiet, q.settles = false := by
  induction h generalizing before with
  | nil s => simp [ownVisits, visits] at hown
  | @cons _ raw rest s t u hstep hrest ih =>
      rw [ownVisits_cons hstep] at hown
      cases before with
      | nil =>
          obtain ⟨rfl, -⟩ := List.cons.inj hown
          exact .inl ⟨hwaiting, by simp⟩
      | cons x before =>
          obtain ⟨rfl, hlater⟩ := List.cons.inj hown
          rcases ih hend hlater with ⟨hnext, hquiet⟩ | ⟨first, v, quiet, rfl, hv, hquiet⟩
          · cases hsettles : Visit.settles ⟨s, raw⟩ with
            | true =>
                exact .inr ⟨[], _, before, rfl,
                  hrest.isParameters_of_settles hstep hend hsettles hnext,
                  hquiet⟩
            | false =>
                rw [pending_of_not_settles (change_of_step hstep) hsettles] at hnext
                exact .inl ⟨hnext, List.forall_mem_cons.mpr ⟨hsettles, hquiet⟩⟩
          · exact .inr ⟨⟨s, raw⟩ :: first, v, quiet, rfl, hv, hquiet⟩

section

variable {lines : List (List Char)}

/-- The line that settles what becomes of a parameter line takes its values or replaces them. There
is such a line, since nothing waits any more where the text ends. -/
theorem Reads.exists_settles_parameters (h : Reads context lines s u) (hend : u.pending = none)
    {before after : List Visit} {v : Visit}
    (hown : ownVisits context s lines = before ++ v :: after)
    (hv : v.isParameters = true) : ∃ next, after.find? Visit.settles = some next ∧
      next.state.pending = Parameters.parse? (trim v.line) ∧
      (next.takesValues = true ∨ next.replacesValues = true) := by
  obtain ⟨_, rest, t, hstep, hrest, rfl⟩ := h.of_visit hown
  have hchange := change_of_step hstep
  obtain ⟨hkind, hmode⟩ := Visit.isParameters_iff.mp hv
  have hvalues : t.pending = Parameters.parse? (trim v.line) := by
    rw [pending_of_change hchange, if_neg (by simp [Visit.opensGroups, hkind]), if_pos hv]
  have hwaiting : t.pending.isSome = true := hvalues ▸ isSome_parse?_of_change hchange hv
  have hout := mode_ne_objects_of_change hchange (by simp [hkind]) hmode
  rw [← hvalues]
  exact hrest.exists_settles hout hwaiting hend

theorem Reads.countP_isParameters (h : Reads context lines s u) (hstart : s.pending = none)
    (hend : u.pending = none) : (ownVisits context s lines).countP Visit.isParameters
      = (ownVisits context s lines).countP Visit.takesValues
        + (ownVisits context s lines).countP Visit.replacesValues := by
  have hwaiting := h.waiting
  rw [hend, hstart, Option.isSome_none, Bool.toNat_false, Nat.zero_add, Nat.zero_add] at hwaiting
  exact hwaiting.symm

/-- No values are replaced exactly if those of each parameter line are taken. Each parameter line is
settled once, by the next line that could do it. -/
theorem Reads.none_replaced_iff (h : Reads context lines s u) (hstart : s.pending = none)
    (hend : u.pending = none) :
    (∀ v ∈ ownVisits context s lines, ¬v.replacesValues = true) ↔
      ∀ before v after, ownVisits context s lines = before ++ v :: after → v.isParameters = true →
        ∃ next, after.find? Visit.settles = some next ∧ next.takesValues = true := by
  constructor
  · intro hno before v after hown hv
    obtain ⟨next, hfind, -, hnext | hnext⟩ := h.exists_settles_parameters hend hown hv
    · exact ⟨next, hfind, hnext⟩
    · have hmem : next ∈ ownVisits context s lines := by
        rw [hown]
        exact List.mem_append_right _ (List.mem_cons_of_mem _ (List.mem_of_find?_eq_some hfind))
      exact absurd hnext (hno next hmem)
  · intro htaken w hw hreplaces
    obtain ⟨before, after, hown⟩ := List.append_of_mem hw
    obtain ⟨hparameters, hwaiting⟩ := Bool.and_eq_true_iff.mp hreplaces
    rcases h.of_waiting hend hown hwaiting with ⟨hfirst, -⟩ | ⟨first, v, quiet, rfl, hv, hquiet⟩
    · simp [hstart] at hfirst
    · -- Nothing between the two parameter lines settles anything, so the second settles the first.
      rw [List.append_assoc, List.cons_append] at hown
      obtain ⟨next, hfind, htakes⟩ := htaken first v (quiet ++ w :: after) hown hv
      have hnot : quiet.find? Visit.settles = none := by simpa using hquiet
      rw [List.find?_append, hnot, Option.none_or,
        List.find?_cons_of_pos (Visit.settles_of_isParameters hparameters)] at hfind
      obtain rfl := Option.some.inj hfind
      obtain ⟨hkind, -⟩ := Visit.isParameters_iff.mp hparameters
      simp [Visit.takesValues, Visit.opensGroups, hkind] at htakes

end

end ReadState

namespace Document

open ReadState

variable {tree : FileTree} {chain : List FileKey} {base : Option Path} {text : String}

/-- The lines of a text itself, with the state in front of each. -/
def ownLines (tree : FileTree) (chain : List FileKey) (base : Option Path) (text : String) :
    List Visit :=
  ownVisits ⟨base, importWithin tree chain⟩ .initial (Text.lines text.toList)

/-- In a text that is read, the line that settles what becomes of a parameter line takes its values
or is another parameter line. So a parameter line in front of a section or of the end, without a
group in between, is an error. Parameter lines are as many as the group lines that take values and
the parameter lines that replace waiting ones. They are as many as the group lines alone exactly if
the values of each one are taken. -/
theorem parameters_eq_taken_iff {d : Document} (h : readWithin tree chain base text = .ok d) :
    (∀ before v after, ownLines tree chain base text = before ++ v :: after →
      v.isParameters = true → ∃ next, after.find? Visit.settles = some next ∧
        next.state.pending = Parameters.parse? (trim v.line) ∧
        (next.takesValues = true ∨ next.replacesValues = true)) ∧
    (ownLines tree chain base text).countP Visit.isParameters
      = (ownLines tree chain base text).countP Visit.takesValues
        + (ownLines tree chain base text).countP Visit.replacesValues ∧
    ((ownLines tree chain base text).countP Visit.isParameters
        = (ownLines tree chain base text).countP Visit.takesValues ↔
      ∀ before v after, ownLines tree chain base text = before ++ v :: after →
        v.isParameters = true →
        ∃ next, after.find? Visit.settles = some next ∧ next.takesValues = true) := by
  rw [readWithin_eq, ofLines_eq_ok_iff] at h
  obtain ⟨final, hreads, hfinish⟩ := h
  obtain ⟨-, hend, -⟩ := finish_eq_ok_iff.mp hfinish
  have hcount := hreads.countP_isParameters rfl hend
  refine ⟨fun before v after hown hv => hreads.exists_settles_parameters hend hown hv, hcount, ?_⟩
  have hnone : (ownLines tree chain base text).countP Visit.isParameters
        = (ownLines tree chain base text).countP Visit.takesValues ↔
      ∀ v ∈ ownLines tree chain base text, ¬v.replacesValues = true := by
    rw [← List.countP_eq_zero, ownLines, hcount]
    omega
  exact hnone.trans (hreads.none_replaced_iff rfl hend)

/-- The second parameter line waits for the condition of a block. -/
def cellText : String :=
  "[1-2]\n# rows\n\nrow-@:\n    visible\n[a]\n----\n"
    ++ "if\ncell-@\n    visible\ndo\nfooter\n    visible\nend\n"

def cellDocument : Document where
  sections := [{
    groups := [⟨"row-1", [.visible]⟩, ⟨"row-2", [.visible]⟩]
    blocks := [{
      statements := [{ groups := [⟨"cell-a", [.visible]⟩] }]
      body := [⟨"footer", [.visible]⟩] }] }]

theorem parameters_eq_taken_iff_cellText :
    readWithin {} [] none cellText = .ok cellDocument ∧
    (ownLines {} [] none cellText).countP Visit.isParameters = 2 ∧
    ∀ before v after, ownLines {} [] none cellText = before ++ v :: after →
      v.isParameters = true →
      ∃ next, after.find? Visit.settles = some next ∧ next.takesValues = true := by
  have hread : readWithin {} [] none cellText = .ok cellDocument := by
    rw [readWithin_eq]
    decide +kernel
  have hlines : (ownLines {} [] none cellText).countP Visit.isParameters = 2 := by decide +kernel
  have htaken : (ownLines {} [] none cellText).countP Visit.takesValues = 2 := by decide +kernel
  exact ⟨hread, hlines, (parameters_eq_taken_iff hread).2.2.mp (hlines.trans htaken.symm)⟩

/-- The values of the first parameter line are lost. -/
def lostText : String := "[1-2]\n[3-4]\nrow-@\n    visible\n"

theorem parameters_ne_taken_lostText :
    readWithin {} [] none lostText
        = .ok { sections := [{ groups := [⟨"row-3", [.visible]⟩, ⟨"row-4", [.visible]⟩] }] } ∧
      (ownLines {} [] none lostText).countP Visit.isParameters = 2 ∧
      (ownLines {} [] none lostText).countP Visit.takesValues = 1 := by
  rw [readWithin_eq]
  refine ⟨?_, ?_, ?_⟩ <;> decide +kernel

end Document

end LayoutSpec
