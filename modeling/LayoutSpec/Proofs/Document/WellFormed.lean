import LayoutSpec.Proofs.Document.ImportFrame
import LayoutSpec.Proofs.Document.Sound

/-!
What holds of every document that is read, from whatever folder and with whatever imports. A line
says the same from every folder but for the paths of components, and of these nothing is known but
that they are there. So a reading goes on beside one without a folder, in which every line is sound
by itself, and the two never differ in more than their paths; an import puts sound parts behind
sound parts.
-/

namespace LayoutSpec

open Text

/-- A constraint that a line can state, but for the place of the spec of a component. -/
def Constraint.Usable : Constraint → Prop
  | .component spec => spec.text ≠ ""
  | c => c.WellFormed

structure Group.WellFormed (g : Group) : Prop where
  pattern : IsPattern g.pattern
  constraints : ∀ c ∈ g.constraints, c.Usable

structure ConditionalBlock.WellFormed (b : ConditionalBlock) : Prop where
  statements : b.statements ≠ []
  groups : ∀ g ∈ b.groups, g.WellFormed

structure Section.WellFormed (sec : Section) : Prop where
  tags : ∀ tag ∈ sec.tags, IsTag tag
  asserts : sec.groups ≠ [] ∨ sec.blocks ≠ []
  groups : ∀ g ∈ sec.groups, g.WellFormed
  blocks : ∀ b ∈ sec.blocks, b.WellFormed

/-- A document that can be checked and printed. Its objects have names and locators, something is
asserted in each of its sections, its blocks have conditions, and its groups have patterns and
constraints that make sense. -/
structure Document.WellFormed (d : Document) : Prop where
  objects : d.objects.Sound
  sections : ∀ sec ∈ d.sections, sec.WellFormed

section

variable {g : Group} {b : ConditionalBlock} {sec : Section} {d : Document}

theorem Constraint.Printable.usable {c : Constraint} (h : c.Printable) : c.Usable := by
  have hformed := Constraint.exists_parse_iff.mp h.1
  cases c with
  | component spec => exact mt String.toList_eq_nil_iff.mpr hformed.2
  | _ => exact hformed

theorem Group.Sound.wellFormed (h : g.Sound IsPattern) : g.WellFormed :=
  ⟨h.pattern, fun c hc => (h.constraints c hc).usable⟩

theorem ConditionalBlock.Sound.wellFormed (h : b.Sound IsPattern) : b.WellFormed :=
  ⟨h.statements, fun g hg => (h.groups g hg).wellFormed⟩

theorem Section.Sound.wellFormed (h : sec.Sound IsPattern) (hasserts : sec.isEmpty = false) :
    sec.WellFormed := by
  rw [isEmpty, Bool.and_eq_false_iff, List.isEmpty_eq_false_iff,
    List.isEmpty_eq_false_iff] at hasserts
  constructor
  case tags => exact h.tags
  case asserts => exact hasserts
  case groups => exact fun g hg => (h.groups g hg).wellFormed
  case blocks => exact fun b hb => (h.blocks b hb).wellFormed

theorem Document.Sound.wellFormed (h : d.Sound IsPattern)
    (hasserts : ∀ sec ∈ d.sections, sec.isEmpty = false) : d.WellFormed :=
  ⟨h.objects, fun sec hsec => (h.sections sec hsec).wellFormed (hasserts sec hsec)⟩

end

namespace Path

/-- All that a document can rely on in the path of a component is that there is one. -/
def blurred (p : Path) : Path :=
  if p.text = "" then p else ⟨"spec"⟩

theorem text_blurred_ne_iff {p : Path} : p.blurred.text ≠ "" ↔ p.text ≠ "" := by
  rw [blurred]
  split
  · rfl
  · next hp => exact iff_of_true (by decide) hp

/-- From every folder a path leads somewhere. So a path that was read is not empty, also if it is
seen from a folder. -/
theorem blurred_from? (base : Option Path) {rel : Path} (hrel : rel.text ≠ "") :
    (from? base rel).blurred = ⟨"spec"⟩ := by
  have htext : (from? base rel).text ≠ "" := by
    cases base with
    | none => exact hrel
    | some base =>
        rw [from?, join]
        split
        · exact hrel
        · split <;> simp [hrel]
  rw [blurred, if_neg htext]

end Path

theorem Constraint.usable_mapPaths_iff {c : Constraint} :
    (c.mapPaths Path.blurred).Usable ↔ c.Usable := by
  cases c with
  | component spec => exact Path.text_blurred_ne_iff
  | _ => rfl

theorem Group.wellFormed_mapPaths_iff {g : Group} :
    (g.mapPaths Path.blurred).WellFormed ↔ g.WellFormed := by
  have hconstraints : (∀ c ∈ (g.mapPaths Path.blurred).constraints, c.Usable)
      ↔ ∀ c ∈ g.constraints, c.Usable := by
    refine List.forall_mem_map.trans ?_
    simp only [Constraint.usable_mapPaths_iff]
  exact ⟨fun h => ⟨h.pattern, hconstraints.mp h.constraints⟩,
    fun h => ⟨h.pattern, hconstraints.mpr h.constraints⟩⟩

theorem ConditionalBlock.groups_mapGroups (f : Group → Group) (b : ConditionalBlock) :
    (b.mapGroups f).groups = b.groups.map f := by
  rw [groups, groups, mapGroups, List.map_append, List.map_append, List.map_flatMap,
    List.flatMap_map]
  cases b.otherwise <;> rfl

theorem ConditionalBlock.wellFormed_mapPaths_iff {b : ConditionalBlock} :
    (b.mapPaths Path.blurred).WellFormed ↔ b.WellFormed := by
  have hstatements : (b.mapPaths Path.blurred).statements ≠ [] ↔ b.statements ≠ [] :=
    not_congr List.map_eq_nil_iff
  have hgroups : (∀ g ∈ (b.mapPaths Path.blurred).groups, g.WellFormed)
      ↔ ∀ g ∈ b.groups, g.WellFormed := by
    rw [mapPaths, groups_mapGroups]
    refine List.forall_mem_map.trans ?_
    simp only [Group.wellFormed_mapPaths_iff]
  exact ⟨fun h => ⟨hstatements.mp h.statements, hgroups.mp h.groups⟩,
    fun h => ⟨hstatements.mpr h.statements, hgroups.mpr h.groups⟩⟩

theorem Section.wellFormed_mapPaths_iff {sec : Section} :
    (sec.mapPaths Path.blurred).WellFormed ↔ sec.WellFormed := by
  have hasserts : (sec.mapPaths Path.blurred).groups ≠ [] ∨ (sec.mapPaths Path.blurred).blocks ≠ []
      ↔ sec.groups ≠ [] ∨ sec.blocks ≠ [] :=
    or_congr (not_congr List.map_eq_nil_iff) (not_congr List.map_eq_nil_iff)
  have hgroups : (∀ g ∈ (sec.mapPaths Path.blurred).groups, g.WellFormed)
      ↔ ∀ g ∈ sec.groups, g.WellFormed := by
    refine List.forall_mem_map.trans ?_
    simp only [Group.wellFormed_mapPaths_iff]
  have hblocks : (∀ b ∈ (sec.mapPaths Path.blurred).blocks, b.WellFormed)
      ↔ ∀ b ∈ sec.blocks, b.WellFormed := by
    refine List.forall_mem_map.trans ?_
    refine forall₂_congr fun b _ => ?_
    exact ConditionalBlock.wellFormed_mapPaths_iff
  exact ⟨fun h => ⟨h.tags, hasserts.mp h.asserts, hgroups.mp h.groups, hblocks.mp h.blocks⟩,
    fun h => ⟨h.tags, hasserts.mpr h.asserts, hgroups.mpr h.groups, hblocks.mpr h.blocks⟩⟩

/-- Other paths to the specs of components leave a document well-formed. -/
theorem Document.wellFormed_mapPaths_iff {d : Document} :
    (d.mapPaths Path.blurred).WellFormed ↔ d.WellFormed := by
  have hsections : (∀ sec ∈ (d.mapPaths Path.blurred).sections, sec.WellFormed)
      ↔ ∀ sec ∈ d.sections, sec.WellFormed := by
    refine List.forall_mem_map.trans ?_
    refine forall₂_congr fun sec _ => ?_
    exact Section.wellFormed_mapPaths_iff
  exact ⟨fun h => ⟨h.objects, hsections.mp h.sections⟩,
    fun h => ⟨h.objects, hsections.mpr h.sections⟩⟩

namespace Document

variable {d other : Document}

theorem sound_insertAll {table : ObjectTable} (ht : table.Sound)
    {entries : List (String × Locator)}
    (h : ∀ entry ∈ entries, IsObjectName entry.1 ∧ entry.2.Printable) :
    (table.insertAll entries).Sound := by
  induction entries generalizing table with
  | nil => exact ht
  | cons entry entries ih =>
      obtain ⟨hname, hlocator⟩ := h entry List.mem_cons_self
      apply ih (ReadState.sound_insert ht hname hlocator)
      intro later hlater
      exact h later (List.mem_cons_of_mem entry hlater)

theorem Sound.merge (hd : d.Sound IsPattern) (hother : other.Sound IsPattern) :
    (d.merge other).Sound IsPattern :=
  ⟨sound_insertAll hd.objects hother.objects,
    List.forall_mem_append.mpr ⟨hd.sections, hother.sections⟩⟩

theorem Sound.prune (hd : d.Sound IsPattern) : d.prune.Sound IsPattern :=
  ⟨hd.objects, fun sec hsec => hd.sections sec (List.mem_filter.mp hsec).1⟩

/-- Apart from the paths of components, the document is a sound one. -/
def BlursSound (d : Document) : Prop :=
  ∃ d' : Document, d'.mapPaths Path.blurred = d.mapPaths Path.blurred ∧ d'.Sound IsPattern

end Document

namespace ReadState

variable {context other : ReadContext} {number : Nat} {raw : List Char} {s t : ReadState}

/-- Apart from the paths of components, the state is a sound one. -/
def BlursSound (s : ReadState) : Prop :=
  ∃ s' : ReadState, s.mapPaths Path.blurred = s'.mapPaths Path.blurred ∧ s'.Sound

/-- What is read from no folder, and imports what another context imports. -/
def unplaced (context : ReadContext) : ReadContext where
  base := none
  importSpec rel := context.importSpec (.from? context.base rel)

theorem contextsAgree_unplaced (context : ReadContext) :
    ContextsAgree Path.blurred context (unplaced context) := by
  constructor
  case base =>
    intro rel hrel
    rw [Path.blurred_from? context.base hrel, Path.blurred_from? (unplaced context).base hrel]
  case importSpec =>
    intro rel _
    rfl

theorem isImport_of_step (hpath : (LineKind.of raw).importPath? = none)
    (h : s.step context number raw = .ok t) : (LineKind.of raw).isImport = false := by
  cases hkind : LineKind.of raw with
  | directive text =>
      obtain ⟨cause, -, herror⟩ := directive_of_no_import context (hkind ▸ hpath)
      simp only [step, hkind, herror] at h
      cases h
  | _ => rfl

/-- Every line keeps the state sound apart from paths, if what it imports is. The step is compared
with that of a context without a folder, for which `Sound.change` is known. -/
theorem BlursSound.step (hs : s.BlursSound) (hfeed : '\n' ∉ raw)
    (himports : ∀ rel d, context.importSpec (.from? context.base rel) = .ok d → d.BlursSound)
    (h : s.step context number raw = .ok t) : t.BlursSound := by
  obtain ⟨s', hsame, hs'⟩ := hs
  cases hpath : (LineKind.of raw).importPath? with
  | some rel =>
      obtain ⟨d, hspec, rfl⟩ := of_step_import hpath h
      obtain ⟨d', hd, hd'⟩ := himports rel d hspec
      refine ⟨{ s' with document := s'.document.merge d' }, ?_,
        hs'.document.merge hd', hs'.block, hs'.pending, hs'.opened⟩
      have hdocument : s.document.mapPaths Path.blurred = s'.document.mapPaths Path.blurred :=
        congrArg (·.document) hsame
      have hmerge : (s.document.merge d).mapPaths Path.blurred
          = (s'.document.merge d').mapPaths Path.blurred := by
        rw [Document.mapPaths_merge, Document.mapPaths_merge, hdocument, hd]
      change { s.mapPaths Path.blurred with
          document := (s.document.merge d).mapPaths Path.blurred }
        = { s'.mapPaths Path.blurred with
          document := (s'.document.merge d').mapPaths Path.blurred }
      rw [hmerge, hsame]
  | none =>
      have halike : AlikeBy (mapPaths Path.blurred) (s.step context number raw)
          (s'.step (unplaced context) number raw) :=
        alikeBy_step (contextsAgree_unplaced context) hsame raw
      rw [h] at halike
      obtain ⟨_, _, hnone, -⟩ | ⟨_, t', hok, hstep, hsame'⟩ := halike.error_or_ok
      · cases hnone
      · obtain rfl := Except.ok.inj hok
        have himport := isImport_of_step hpath hstep
        exact ⟨t', hsame', hs'.change rfl hfeed himport (change_of_step hstep)⟩

theorem blursSound_initial : initial.BlursSound :=
  ⟨initial, rfl, sound_initial⟩

end ReadState

namespace Document

variable {tree : FileTree} {chain : List FileKey} {base : Option Path} {text : String}
  {d : Document}

/-- A text is read as a document that is sound apart from paths. An import leaves fewer files, and
has such a document itself. -/
theorem blursSound_of_readWithin (h : readWithin tree chain base text = .ok d) : d.BlursSound := by
  induction hfiles : (filesOutside tree chain).length using Nat.strong_induction_on
    generalizing chain base text d with
  | _ n ih =>
      have himports : ∀ path found, importWithin tree chain path = .ok found →
          found.BlursSound := by
        intro path found hfound
        obtain ⟨key, content, -, hnew, hcontent, hread⟩ := of_importWithin_eq_ok hfound
        have hless : (filesOutside tree (key :: chain)).length < n := by
          rw [← hfiles]
          exact filesOutside_cons_lt (by simpa using hnew) (by simp [hcontent])
        exact ih _ hless hread rfl
      rw [readWithin_eq, ofLines_eq_ok_iff] at h
      obtain ⟨s, hreads, hfinish⟩ := h
      have hs : s.BlursSound := by
        apply hreads.preserves ReadState.blursSound_initial
        intro raw hraw number s t hs hstep
        apply hs.step (feed_not_mem_of_mem_lines hraw) _ hstep
        intro rel found hfound
        exact himports _ found hfound
      obtain ⟨s', hsame, hs'⟩ := hs
      obtain ⟨-, -, rfl⟩ := ReadState.finish_eq_ok_iff.mp hfinish
      have hdocument : s.document.mapPaths Path.blurred = s'.document.mapPaths Path.blurred :=
        congrArg (·.document) hsame
      refine ⟨s'.document.prune, ?_, hs'.document.prune⟩
      rw [mapPaths_prune, mapPaths_prune, hdocument]

/-- Something is asserted in every section, since the others are dropped at the end. -/
theorem asserts_of_readWithin (h : readWithin tree chain base text = .ok d) :
    ∀ sec ∈ d.sections, sec.isEmpty = false := by
  rw [readWithin_eq, ofLines_eq_ok_iff] at h
  obtain ⟨s, -, hfinish⟩ := h
  obtain ⟨-, -, rfl⟩ := ReadState.finish_eq_ok_iff.mp hfinish
  intro sec hsec
  simpa using (List.mem_filter.mp hsec).2

/-- A document that is read within any chain is well-formed. Imports are read in a longer chain, on
which the induction rests. -/
theorem wellFormed_of_readWithin (h : readWithin tree chain base text = .ok d) : d.WellFormed := by
  obtain ⟨d', hsame, hd'⟩ := blursSound_of_readWithin h
  have hsections : d'.sections.map Section.isEmpty = d.sections.map Section.isEmpty := by
    have hsections := congrArg (fun d : Document => d.sections.map Section.isEmpty) hsame
    simpa [mapPaths, Section.isEmpty_mapGroups, Function.comp_def] using hsections
  have hasserts : ∀ sec ∈ d'.sections, sec.isEmpty = false := by
    intro sec hsec
    have hmem := List.mem_map_of_mem (f := Section.isEmpty) hsec
    rw [hsections] at hmem
    obtain ⟨other, hother, hempty⟩ := List.mem_map.mp hmem
    rw [← hempty]
    exact asserts_of_readWithin h other hother
  rw [← wellFormed_mapPaths_iff, ← hsame, wellFormed_mapPaths_iff]
  exact hd'.wellFormed hasserts

/-- Every document that is read is well-formed, whether it is read from a text or from a file,
whatever folder it is seen from, and with all that it imports and all the values of its parameters.
-/
theorem wellFormed_of_read (tree : FileTree) :
    (∀ base text d, ofText tree base text = .ok d → d.WellFormed) ∧
      ∀ path d, ofFile tree path = .ok d → d.WellFormed := by
  constructor
  · intro base text d h
    exact wellFormed_of_readWithin h
  · intro path d h
    obtain ⟨key, text, -, hread⟩ := readWithin_of_ofFile h
    exact wellFormed_of_readWithin hread

def shopTree : FileTree where
  files := [(["shop", "logo.spec"], .text "logo\n    component: icon.spec\n")]

def pricesText : String :=
  "@@ import logo.spec\n[1-2]\nitem-@\n    contains: price-@\n"

def shopLogoDocument : Document where
  sections := [{ groups := [⟨"logo", [.component ⟨"shop/icon.spec"⟩]⟩] }]

def pricesDocument : Document where
  sections := { groups := [⟨"item-1", [.contains false ["price-1"]]⟩,
    ⟨"item-2", [.contains false ["price-2"]]⟩] } :: shopLogoDocument.sections

theorem importWithin_shopTree :
    importWithin shopTree [] ⟨"shop/logo.spec"⟩ = .ok shopLogoDocument := by
  have hkey : shopTree.fileKey? ⟨"shop/logo.spec"⟩ = some ["shop", "logo.spec"] := by decide +kernel
  have hcontent : shopTree.content? ["shop", "logo.spec"]
      = some (.text "logo\n    component: icon.spec\n") := by decide +kernel
  simp only [importWithin, hkey, hcontent, readWithin_eq]
  decide +kernel

theorem wellFormed_of_read_pricesText :
    ofText shopTree (some ⟨"shop"⟩) pricesText = .ok pricesDocument
      ∧ pricesDocument.WellFormed := by
  let rest := ["[1-2]", "item-@", "    contains: price-@"].map String.toList
  let raw := "@@ import logo.spec".toList
  have hlines : Text.lines pricesText.toList = raw :: rest := by decide +kernel
  have hpath : (LineKind.of raw).importPath? = some ⟨"logo.spec"⟩ := by decide +kernel
  have hplace : Path.from? (some ⟨"shop"⟩) ⟨"logo.spec"⟩ = ⟨"shop/logo.spec"⟩ := by decide +kernel
  have hstep : ReadState.initial.step ⟨some ⟨"shop"⟩, importWithin shopTree []⟩ 1 raw
      = .ok { ReadState.initial with
          document := ReadState.initial.document.merge shopLogoDocument } := by
    rw [ReadState.step_of_import hpath]
    dsimp only
    rw [hplace, importWithin_shopTree]
    rfl
  have hread : ofText shopTree (some ⟨"shop"⟩) pricesText = .ok pricesDocument := by
    rw [ofText, readWithin_eq, hlines, ofLines_eq_ok_iff]
    refine ⟨⟨pricesDocument, .groups, 0, none, some ⟨0, ["1", "2"]⟩, none⟩, .cons hstep ?_, ?_⟩
    · exact ReadState.reads_iff_run.mpr (by decide +kernel : ReadState.run _ 1 _ _ = .ok _)
    · decide +kernel
  exact ⟨hread, (wellFormed_of_read shopTree).1 _ _ _ hread⟩

end Document

end LayoutSpec
