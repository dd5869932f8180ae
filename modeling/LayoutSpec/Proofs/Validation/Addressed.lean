import LayoutSpec.Proofs.Document.Expansion
import LayoutSpec.Proofs.Document.WellFormed
import LayoutSpec.Proofs.Validation.MultiObject

/-!
Lines that name a declared object. A definition takes any word for a name but a keyword, a comment
and an instruction to the reader. A line that consists of such a name can still be something else
than the start of a group: tags, a parameter line, a marker, a separator, or the same name with a
colon too many. In all other cases it opens a group, and that group is the object and nothing else.
-/

namespace LayoutSpec

open Text

/-- An object name that a line of its own does not turn into anything else. -/
structure IsAddressable (name : String) : Prop where
  noTags : name.toList.head? ≠ some '@'
  noParameters : name.toList.head? ≠ some '['
  noColon : name.toList.getLast? ≠ some ':'
  notMarker : LineKind.isMarker name.toList = false
  notSeparator : LineKind.isSeparator name.toList = false

instance (name : String) : Decidable (IsAddressable name) :=
  decidable_of_iff (name.toList.head? ≠ some '@' ∧ name.toList.head? ≠ some '[' ∧
      name.toList.getLast? ≠ some ':' ∧ LineKind.isMarker name.toList = false ∧
      LineKind.isSeparator name.toList = false)
    ⟨fun ⟨ha, hb, hc, hd, he⟩ => ⟨ha, hb, hc, hd, he⟩,
      fun ⟨ha, hb, hc, hd, he⟩ => ⟨ha, hb, hc, hd, he⟩⟩

variable {name : String}

theorem IsWord.isLineText (h : IsWord name) : IsLineText name :=
  ⟨trim_of_no_blank h.2, h.1, fun hfeed => absurd (h.2 _ hfeed) (by decide)⟩

theorem IsObjectName.isGroupName_iff (h : IsObjectName name) :
    IsGroupName name ↔ IsAddressable name := by
  constructor
  · rintro ⟨hpattern, hreopens⟩
    constructor
    case noTags => exact fun hhead => (hpattern.start _ hhead).1 rfl
    case noParameters => exact fun hhead => (hpattern.start _ hhead).2.2 rfl
    case noColon => exact hreopens.noColon
    case notMarker => exact hreopens.notMarker
    case notSeparator => exact hreopens.notSeparator
  · intro haddressable
    refine ⟨⟨h.word.isLineText, ?_⟩, haddressable.noColon, haddressable.notMarker,
      haddressable.notSeparator, h.notKeyword⟩
    rintro c hc
    refine ⟨?_, ?_, ?_⟩
    · rintro rfl
      exact haddressable.noTags hc
    · rintro rfl
      exact h.noComment hc
    · rintro rfl
      exact haddressable.noParameters hc

namespace ReadState

variable {context : ReadContext} {s t : ReadState} {old : List Group} {values : List String}

/-- The line opens some groups: whatever its number is, it puts them behind those of the current
list and leaves them open. -/
def Opens (context : ReadContext) (s : ReadState) (line : List Char) (opened : List Group) : Prop :=
  ∃ old t, s.groups? = some old ∧ (∀ number, s.step context number line = .ok t) ∧
    t.groups? = some (old ++ opened) ∧ t.openGroups = some ⟨old.length, s.pending.getD []⟩

theorem openedGroups_ne_nil (pattern : String) (values : List String) :
    openedGroups pattern values ≠ [] :=
  Group.expand_ne_nil values { pattern }

/-- Without an at sign a pattern is the same for every value. -/
theorem substituteParameter_eq_self (hsign : '@' ∉ name.toList) (value : String) :
    substituteParameter value name = name := by
  have hchars : substitute '@' value.toList name.toList = name.toList := by
    rw [substitute, List.flatMap_congr fun c hc => if_neg (ne_of_mem_of_not_mem hc hsign)]
    exact List.flatMap_singleton' _
  rw [substituteParameter, hchars, String.ofList_toList]

theorem pattern_of_mem_openedGroups (h : values = [] ∨ '@' ∉ name.toList) {g : Group}
    (hg : g ∈ openedGroups name values) : g = { pattern := name } := by
  cases values with
  | nil => exact List.mem_singleton.mp hg
  | cons value values =>
      have hsign := h.resolve_left (by simp)
      simp only [openedGroups, substituteParameter_eq_self hsign] at hg
      obtain ⟨_, -, rfl⟩ := List.mem_map.mp hg
      rfl

/-- A pattern and the one with a colon less are told apart by the groups that they open, since these
have the patterns in their names. -/
theorem openedGroups_dropLast_ne (hlast : name.toList.getLast? = some ':') (values : List String) :
    openedGroups (String.ofList name.toList.dropLast) values ≠ openedGroups name values := by
  have hname : name.toList = name.toList.dropLast ++ [':'] :=
    (List.dropLast_append_getLast? _ hlast).symm
  intro heq
  have hpatterns := congrArg (·.head?.map fun g => g.pattern.toList.length) heq
  cases values with
  | nil =>
      have hlength := congrArg List.length hname
      simp [openedGroups] at hpatterns hlength
      omega
  | cons value values =>
      simp only [openedGroups, substituteParameter, String.toList_ofList, List.isEmpty_cons,
        Bool.false_eq_true, if_false, List.map_cons, List.head?_cons, Option.map_some] at hpatterns
      rw [hname, List.dropLast_concat, substitute, substitute, List.flatMap_append] at hpatterns
      simp at hpatterns

theorem step_isGroupName (hname : IsGroupName name) (hgroups : s.groups? = some old)
    (number : Nat) :
    s.step context number name.toList = .ok (s.withOpened old name (s.pending.getD [])) := by
  have hne : name.toList.isEmpty = false := by simpa using hname.1.text.2.1
  have hopen : s.openGroup number (trim name.toList)
      = .ok (s.withOpened old name (s.pending.getD [])) := by
    rw [hname.1.text.1, openGroup]
    simp only [hne, Bool.false_eq_true, if_false, hgroups, groupPattern_eq hname.1 hname.2,
      String.ofList_toList]
    rfl
  simp only [step, LineKind.of_pattern hname.1 hname.2, if_neg (not_objects_of_groups hgroups),
    hopen]

theorem opens_of_isGroupName (hname : IsGroupName name) (hgroups : s.groups? = some old) :
    s.Opens context name.toList (openedGroups name (s.pending.getD [])) :=
  ⟨old, _, hgroups, step_isGroupName hname hgroups, groups?_withOpened hgroups _ _, rfl⟩

/-- A line that is an object name opens groups of this name only if it is the name of a group. All
other kinds of lines open none, or groups of another name. -/
theorem isGroupName_of_opens (hname : IsObjectName name)
    (h : s.Opens context name.toList (openedGroups name (s.pending.getD []))) :
    IsGroupName name := by
  obtain ⟨old, t, hgroups, hstep, hopened, hopen⟩ := h
  have hmode := not_objects_of_groups hgroups
  have htrim := hname.word.isLineText.1
  have hgrown : t.groups? ≠ s.groups? := by
    rw [hopened, hgroups]
    simp [openedGroups_ne_nil]
  cases change_of_step (hstep 0) with
  | nothing => exact absurd rfl hgrown
  | parameters => exact absurd rfl hgrown
  | «import» d hkind himport =>
      obtain ⟨rel, hrel, -⟩ := himport
      obtain ⟨text, hdirective, -⟩ := LineKind.of_importPath? hrel
      have hfits := LineKind.fits_of name.toList
      rw [hdirective, LineKind.Fits, htrim] at hfits
      obtain ⟨rest, hsigns, -⟩ := hfits
      exact absurd ⟨rest, hsigns.symm⟩ hname.noDirective
  | define _ _ _ _ _ _ _ _ _ hin => exact absurd hin hmode
  | startObjects | openSection | firstStatement | nextStatement | body | «otherwise» | close =>
    cases hopen
  | constraint _ _ _ _ _ _ hkind =>
      have hfits := LineKind.fits_of name.toList
      rw [hkind, LineKind.Fits] at hfits
      rcases hfits with hblank | hblank <;>
        exact absurd (hname.word.2 _ (List.mem_of_head? hblank)) (by decide)
  | openGroups found hkind hfound hne =>
      obtain rfl := Option.some.inj (hfound.symm.trans hgroups)
      rw [groups?_withOpened hfound, Option.some_inj, List.append_cancel_left_eq, htrim] at hopened
      have hfits := LineKind.fits_of name.toList
      rw [hkind, LineKind.Fits, htrim] at hfits
      obtain ⟨-, hstart, hmarker, hseparator, -⟩ := hfits
      have hcolon : name.toList.getLast? ≠ some ':' := by
        intro hlast
        rw [groupPattern, if_pos hlast, trim_of_no_blank fun c hc =>
          hname.word.2 c (List.dropLast_subset _ hc)] at hopened
        exact openedGroups_dropLast_ne hlast _ hopened
      refine hname.isGroupName_iff.mpr ⟨?_, ?_, hcolon, hmarker, hseparator⟩
      · exact fun hhead => (hstart _ hhead).2.1 rfl
      · exact fun hhead => (hstart _ hhead).2.2 rfl

section

variable {tree : FileTree} {chain : List FileKey} {base : Option Path} {lines : List (List Char)}

theorem Reads.blursSound (h : Reads ⟨base, Document.importWithin tree chain⟩ lines .initial s)
    (hlines : ∀ line ∈ lines, '\n' ∉ line) : s.BlursSound := by
  refine h.preserves blursSound_initial fun raw hraw number s t hs hstep => ?_
  refine hs.step (hlines raw hraw) (fun rel d hfound => ?_) hstep
  obtain ⟨key, content, -, -, -, hread⟩ := Document.of_importWithin_eq_ok hfound
  exact Document.blursSound_of_readWithin hread

/-- The names that are declared behind some lines have the form that a definition asks for. -/
theorem Reads.isObjectName (h : Reads ⟨base, Document.importWithin tree chain⟩ lines .initial s)
    (hlines : ∀ line ∈ lines, '\n' ∉ line) (hname : name ∈ s.document.objects.names) :
    IsObjectName name := by
  obtain ⟨s', hsame, hs'⟩ := h.blursSound hlines
  have hobjects : s.document.objects = s'.document.objects :=
    congrArg (·.document.objects) hsame
  rw [hobjects] at hname
  obtain ⟨entry, hentry, rfl⟩ := List.mem_map.mp hname
  exact (hs'.document.objects entry hentry).1

end

end ReadState

theorem Scope.names_isWord (hname : IsWord name) (hstar : '*' ∉ name.toList)
    (hcomma : ',' ∉ name.toList) (scope : Scope) : scope.names name = .ok [name] := by
  have hitems := items_of_no_sep hname.isLineText.1 hname.1 hcomma
  have hcompiles : partCompiles name.toList = true := by simp [partCompiles, hstar]
  have hpart : scope.partNames name.toList = [name] := by
    simp [partNames, hstar]
  rw [names, expand, hitems]
  simp [hcompiles, hpart, addName]

theorem Walk.bind_pure {α : Type} (x : Walk α) : (x >>= pure) = x := by
  induction x with
  | done a => rfl
  | tell e next ih => exact congrArg (tell e) ih
  | enter p next ih => exact congrArg (enter p) (funext ih)

theorem Walk.collect_singleton {α : Type} (find : α → Walk (List Failure)) (a : α) :
    collect find [a] = find a := by
  change (find a >>= fun first => pure (first ++ [])) = find a
  simp only [List.append_nil]
  exact bind_pure (find a)

theorem Scope.checkGroup_isWord (hname : IsWord name) (hstar : '*' ∉ name.toList)
    (hcomma : ',' ∉ name.toList) (scope : Scope) (silent : Bool) (cs : List Constraint) :
    scope.checkGroup silent ⟨name, cs⟩ = scope.checkObject silent cs name := by
  rw [checkGroup, names_isWord hname hstar hcomma]
  exact Walk.collect_singleton _ name

namespace ReadState

variable {tree : FileTree} {chain : List FileKey} {base : Option Path} {lines : List (List Char)}
  {s : ReadState}

/-- Behind the lines that declare it, and outside of object definitions, a line that consists of an
object name opens a group of this name exactly if the name is addressable. With the values of a
parameter line it opens one group per value, which differ only if the name has a parameter sign. A
group of the name without a star or a comma checks its object and no other one. -/
theorem opens_iff_isAddressable
    (h : Reads ⟨base, Document.importWithin tree chain⟩ lines .initial s)
    (hlines : ∀ line ∈ lines, '\n' ∉ line) (hname : name ∈ s.document.objects.names)
    (hstar : '*' ∉ name.toList) (hcomma : ',' ∉ name.toList) (hmode : s.mode ≠ .objects) :
    (s.Opens ⟨base, Document.importWithin tree chain⟩ name.toList
        (openedGroups name (s.pending.getD [])) ↔ IsAddressable name) ∧
    (s.pending = none → openedGroups name (s.pending.getD []) = [⟨name, []⟩]) ∧
    ('@' ∉ name.toList → ∀ g ∈ openedGroups name (s.pending.getD []), g = ⟨name, []⟩) ∧
    ∀ (scope : Scope) silent cs,
      scope.checkGroup silent ⟨name, cs⟩ = scope.checkObject silent cs name := by
  have hobject := h.isObjectName hlines hname
  refine ⟨⟨?_, ?_⟩, ?_, ?_, ?_⟩
  · intro hopens
    exact hobject.isGroupName_iff.mp (isGroupName_of_opens hobject hopens)
  · intro haddressable
    obtain ⟨old, hgroups⟩ := h.coherent.exists_groups hmode
    exact opens_of_isGroupName (hobject.isGroupName_iff.mpr haddressable) hgroups
  · intro hpending
    rw [hpending]
    rfl
  · intro hsign g hg
    exact pattern_of_mem_openedGroups (.inr hsign) hg
  · exact Scope.checkGroup_isWord hobject.word hstar hcomma

/-- Behind the definition of one object. -/
def definedState (name : String) : ReadState where
  document := ⟨ObjectTable.empty.insert name ⟨.css, "#a", none⟩, [{}, {}]⟩
  mode := .start
  current := 1
  block := none
  openGroups := none
  pending := none

theorem opens_iff_isAddressable_menu :
    (definedState "menu@top").Opens ⟨none, Document.importWithin {} []⟩ "menu@top".toList
      [⟨"menu@top", []⟩] ∧
    ∀ (scope : Scope) silent cs,
      scope.checkGroup silent ⟨"menu@top", cs⟩ = scope.checkObject silent cs "menu@top" := by
  have hreads : Reads ⟨none, Document.importWithin {} []⟩
      (["===", "menu@top css #a", "==="].map String.toList) .initial (definedState "menu@top") :=
    reads_iff_run.mpr (by decide +kernel : ReadState.run _ 1 _ _ = .ok _)
  obtain ⟨hopens, -, -, hchecks⟩ := @opens_iff_isAddressable "menu@top" _ _ _ _ _ hreads
    (by decide +kernel) (by decide) (by decide) (by decide) (by decide)
  exact ⟨hopens.mpr (by decide +kernel), hchecks⟩

/-- An object whose name begins with a bracket is declared, but its name on a line is a parameter
line. -/
theorem not_opens_bracketName :
    Reads ⟨none, Document.importWithin {} []⟩ (["===", "[a] css #a", "==="].map String.toList)
      .initial (definedState "[a]") ∧
    "[a]" ∈ (definedState "[a]").document.objects.names ∧
    (definedState "[a]").step ⟨none, Document.importWithin {} []⟩ 4 "[a]".toList
      = .ok { definedState "[a]" with pending := some ["a"] } ∧
    ¬(definedState "[a]").Opens ⟨none, Document.importWithin {} []⟩ "[a]".toList [⟨"[a]", []⟩] := by
  have hstep : (definedState "[a]").step ⟨none, Document.importWithin {} []⟩ 4 "[a]".toList
      = .ok { definedState "[a]" with pending := some ["a"] } := by decide +kernel
  refine ⟨reads_iff_run.mpr (by decide +kernel : ReadState.run _ 1 _ _ = .ok _), by decide, hstep,
    ?_⟩
  rintro ⟨old, t, -, hopened, -, hopen⟩
  obtain rfl := Except.ok.inj (hstep.symm.trans (hopened 4))
  cases hopen

end ReadState

end LayoutSpec
