import LayoutSpec.Proofs.ObjectTable
import LayoutSpec.Proofs.Validation.Alike

/-!
What a pass without components looks at. It enters no other pass, so that it comes to an end, and
beside its sections it sees the objects of the pass and what is found under their names. Passes that
agree on these have the same report, whatever their pages, filters and files are otherwise.
-/

namespace LayoutSpec

namespace Walk

variable {α β : Type} {x y : Walk α}

/-- Two walks are the same, and enter no pass. -/
inductive Settled : Walk α → Walk α → Prop where
  | done (a : α) : Settled (done a) (done a)
  | tell (e : Event) {x y : Walk α} : Settled x y → Settled (tell e x) (tell e y)

namespace Settled

theorem bind {f g : α → Walk β} (hxy : x.Settled y) (hfg : ∀ a, (f a).Settled (g a)) :
    (x >>= f).Settled (y >>= g) := by
  induction hxy with
  | done a => exact hfg a
  | tell e _ ih => exact .tell e ih

theorem tellOf (silent : Bool) (e : Event) (hxy : x.Settled y) :
    (tellOf silent e >>= fun _ => x).Settled (tellOf silent e >>= fun _ => y) := by
  cases silent with
  | true => exact hxy
  | false => exact .tell e hxy

theorem collect {f g : α → Walk (List Failure)} {xs : List α}
    (hfg : ∀ a ∈ xs, (f a).Settled (g a)) :
    (Walk.collect f xs).Settled (Walk.collect g xs) := by
  induction xs with
  | nil => exact .done []
  | cons a xs ih =>
      refine (hfg a List.mem_cons_self).bind fun first => ?_
      have hrest := ih fun b hb => hfg b (List.mem_cons_of_mem a hb)
      exact hrest.bind fun others => .done (first ++ others)

/-- Whatever the reports of other passes are, the same is heard of the two. -/
theorem exists_heard (h : x.Settled y) (reports more : Pass → Option Report) :
    ∃ told, x.heard reports = some told ∧ y.heard more = some told := by
  induction h with
  | done a => exact ⟨_, rfl, rfl⟩
  | tell e _ ih =>
      obtain ⟨told, hx, hy⟩ := ih
      refine ⟨(told.1, e :: told.2), ?_, ?_⟩
      · rw [heard, hx]
        rfl
      · rw [heard, hy]
        rfl

theorem exists_report {x y : Walk (List Failure)} (h : x.Settled y)
    (reports more : Pass → Option Report) :
    ∃ r, x.report reports = some r ∧ y.report more = some r := by
  obtain ⟨⟨failures, events⟩, hx, hy⟩ := h.exists_heard reports more
  exact ⟨⟨failures, events⟩, report_eq_some_iff.mpr hx, report_eq_some_iff.mpr hy⟩

end Settled

end Walk

/-- No constraint of the group asks for another spec. -/
def Group.WithoutComponents (g : Group) : Prop :=
  ∀ c ∈ g.constraints, ∀ spec, c ≠ .component spec

/-- No constraint of a section asks for another spec, those in its blocks included. -/
def Section.WithoutComponents (sec : Section) : Prop :=
  ∀ g ∈ sec.allGroups, g.WithoutComponents

/-- No constraint of a spec asks for another one. -/
def Document.WithoutComponents (d : Document) : Prop :=
  ∀ sec ∈ d.sections, sec.WithoutComponents

namespace Scope

variable {scope scope' : Scope} (h : scope.Agrees scope') (silent : Bool)

include h

/-- Constraints that ask for no other spec are checked alike in scopes that agree, and no pass is
entered on the way. -/
theorem checkConstraints_settled (name : String) {cs : List Constraint}
    (hcs : ∀ c ∈ cs, ∀ spec, c ≠ .component spec) :
    (checkConstraints scope silent name cs).Settled (checkConstraints scope' silent name cs) := by
  induction cs with
  | nil => exact .done []
  | cons c rest ih =>
      have hc := hcs c List.mem_cons_self
      have hrest := ih fun d hd => hcs d (List.mem_cons_of_mem c hd)
      have hfirst : (checkConstraint scope silent name c).Settled
          (checkConstraint scope' silent name c) := by
        rw [checkConstraint_of_ne _ hc, checkConstraint_of_ne _ hc, Check.check_agrees h]
        exact .done _
      refine hfirst.bind fun verdict => ?_
      rcases verdict with (failure | fault) | ⟨⟩
      case error.broken => exact .tellOf _ _ (hrest.bind fun others => .done (failure :: others))
      case error.fatal => exact .tellOf _ _ (.done [Failure.ofFault fault])
      case ok => exact .tellOf _ _ hrest

variable (hdepth : scope.depth = scope'.depth)

include hdepth

theorem checkGroup_settled {g : Group} (hg : g.WithoutComponents) :
    (checkGroup scope silent g).Settled (checkGroup scope' silent g) := by
  rw [checkGroup, checkGroup, h.names]
  cases scope'.names g.pattern with
  | error fault => exact .done [Failure.ofFault fault]
  | ok names =>
      refine .collect fun name _ => ?_
      rw [checkObject, checkObject, hdepth]
      refine .tellOf _ _ ((checkConstraints_settled h silent name hg).bind fun failures => ?_)
      exact .tellOf _ _ (.done failures)

theorem checkGroups_settled {gs : List Group} (hgs : ∀ g ∈ gs, g.WithoutComponents) :
    (checkGroups scope silent gs).Settled (checkGroups scope' silent gs) :=
  .collect fun g hg => checkGroup_settled h silent hdepth (hgs g hg)

theorem anyHolds_settled {sts : List Statement}
    (hsts : ∀ st ∈ sts, ∀ g ∈ st.groups, g.WithoutComponents) :
    (anyHolds scope sts).Settled (anyHolds scope' sts) := by
  induction sts with
  | nil => exact .done false
  | cons st rest ih =>
      have hgroups := checkGroups_settled h true hdepth (hsts st List.mem_cons_self)
      have hstatement : (holds scope st).Settled (holds scope' st) :=
        hgroups.bind fun failures => .done _
      refine hstatement.bind fun held => ?_
      cases held with
      | true => exact .done true
      | false => exact ih fun other hother => hsts other (List.mem_cons_of_mem st hother)

theorem checkBlock_settled {b : ConditionalBlock} (hb : ∀ g ∈ b.groups, g.WithoutComponents) :
    (checkBlock scope silent b).Settled (checkBlock scope' silent b) := by
  have hstatements : ∀ st ∈ b.statements, ∀ g ∈ st.groups, g.WithoutComponents :=
    fun st hst g hg => hb g (List.mem_append_left _
      (List.mem_append_left _ (List.mem_flatMap.mpr ⟨st, hst, hg⟩)))
  refine (anyHolds_settled h hdepth hstatements).bind fun held => ?_
  cases held with
  | true =>
      exact checkGroups_settled h silent hdepth fun g hg =>
        hb g (List.mem_append_left _ (List.mem_append_right _ hg))
  | false => exact checkGroups_settled h silent hdepth fun g hg => hb g (List.mem_append_right _ hg)

theorem checkSection_settled {sec : Section} (hsec : sec.WithoutComponents) :
    (checkSection scope silent sec).Settled (checkSection scope' silent sec) := by
  have hblocks : ∀ b ∈ sec.blocks, ∀ g ∈ b.groups, g.WithoutComponents := fun b hb g hg =>
    hsec g (List.mem_append_right _ (List.mem_flatMap.mpr ⟨b, hb, hg⟩))
  refine .tellOf _ _ ((checkGroups_settled h silent hdepth fun g hg =>
    hsec g (List.mem_append_left _ hg)).bind fun groups => ?_)
  have hall : (Walk.collect (checkBlock scope silent) sec.blocks).Settled
      (Walk.collect (checkBlock scope' silent) sec.blocks) :=
    .collect fun b hb => checkBlock_settled h silent hdepth (hblocks b hb)
  exact hall.bind fun blocks => .tellOf _ _ (.done (groups ++ blocks))

end Scope

/-- Two pages show the same of some declared objects: each locator of a multi-object has as many
matches, each locator of the objects that a pass checks has the same element, and each name that is
none of these objects stands for the same object without a locator. -/
structure Page.ShowsSame (objects : ObjectTable) (page page' : Page) : Prop where
  counts : ∀ entry ∈ objects.entries, isMultiObject entry.1 = true →
    page.count entry.2 = page'.count entry.2
  elements : ∀ entry ∈ (resolveObjects objects page).entries,
    page.resolve entry.2 = page'.resolve entry.2
  specials : ∀ name ∉ (resolveObjects objects page).names, page.special? name = page'.special? name

namespace Page

variable {objects : ObjectTable} {page page' : Page}

/-- Pages with the same numbers of matches have the same objects. What the matches look like is not
asked for here. -/
theorem ShowsSame.resolveObjects_eq (h : page.ShowsSame objects page') :
    resolveObjects objects page = resolveObjects objects page' := by
  have hentries : (objects.entries.flatMap fun entry => resolveEntry page entry.1 entry.2)
      = objects.entries.flatMap fun entry => resolveEntry page' entry.1 entry.2 := by
    refine List.flatMap_congr fun entry hentry => ?_
    rw [resolveEntry, resolveEntry]
    by_cases hmulti : isMultiObject entry.1 = true
    · rw [h.counts entry hentry hmulti]
    · rw [if_neg hmulti, if_neg hmulti]
  rw [resolveObjects, resolveObjects]
  cases objects.hasMultiObjects with
  | true => exact congrArg ObjectTable.ofList hentries
  | false => rfl

/-- The element of a locator that is neither that of a multi-object nor that of an object of the
pass is not seen. -/
theorem showsSame_putElement {locator : Locator} (s : Snapshot)
    (hmulti : ∀ entry ∈ objects.entries, isMultiObject entry.1 = true → entry.2 ≠ locator)
    (hobjects : ∀ entry ∈ (resolveObjects objects page).entries, entry.2 ≠ locator) :
    page.ShowsSame objects (page.putElement locator s) := by
  have hlookup : ∀ other, other ≠ locator →
      (page.putElement locator s).elements.lookup other = page.elements.lookup other :=
    fun other hne => (lookup_putEntry locator other s page.elements).trans (if_neg hne)
  constructor
  · intro entry hentry hstar
    rw [count, count, hlookup _ (hmulti entry hentry hstar)]
    rfl
  · intro entry hentry
    rw [resolve, resolve, hlookup _ (hobjects entry hentry)]
  · exact fun name _ => rfl

/-- An object without a locator is not seen under the name of an object of the pass. -/
theorem showsSame_putSpecial {name : String} (s : Snapshot)
    (hname : name ∈ (resolveObjects objects page).names) :
    page.ShowsSame objects (page.putSpecial name s) := by
  refine ⟨fun _ _ _ => rfl, fun _ _ => rfl, fun other hother => ?_⟩
  have hne : other ≠ name := fun heq => hother (heq ▸ hname)
  exact ((lookup_putEntry name other s page.specials).trans (if_neg hne)).symm

end Page

/-- Scopes over pages that show the same agree. An object without a locator comes in only under a
name that is not declared. -/
theorem Page.ShowsSame.agrees {document : Document} {page page' : Page}
    (h : page.ShowsSame document.objects page') (filter : TagFilter) (tree : FileTree)
    (depth : Nat) :
    (Scope.ofDocument document page filter tree depth).Agrees
      (Scope.ofDocument document page' filter tree depth) := by
  refine ⟨h.resolveObjects_eq, fun name => ?_⟩
  simp only [Scope.find, Scope.ofDocument, ← h.resolveObjects_eq]
  cases hget : (resolveObjects document.objects page).get? name with
  | some locator =>
      have helement := h.elements (name, locator) (mem_of_lookup_eq_some hget)
      exact congrArg Except.ok helement
  | none =>
      have hname : name ∉ (resolveObjects document.objects page).names :=
        lookup_eq_none_iff_not_hasKey.mp hget
      dsimp only
      rw [h.specials name hname]

section

variable {tree : FileTree} {filter : TagFilter} {depth : Nat} {silent : Bool} {document : Document}
  {page page' : Page} (hdocument : document.WithoutComponents)

include hdocument

/-- A pass without components has a report, and the same one over every page that shows the same. It
enters no pass that could go on without end. -/
theorem exists_validate_of_showsSame (h : page.ShowsSame document.objects page') :
    ∃ r, validate tree filter depth silent document page = some r ∧
      validate tree filter depth silent document page' = some r := by
  rw [validate, validate, Pass.outcome, Pass.outcome]
  refine Walk.Settled.exists_report (.collect fun sec hsec => ?_) _ _
  have hmem : sec ∈ document.sections := (List.mem_filter.mp hsec).1
  exact Scope.checkSection_settled (h.agrees filter tree depth) silent rfl (hdocument sec hmem)

/-- What a pass without components reports depends on nothing but the objects of its spec: on the
number of matches of multi-objects, on the elements of the objects that they and the other names
stand for, and on objects without a locator under further names. The element of another locator has
no influence, and neither has an object without a locator whose name is declared. -/
theorem validate_declared :
    (∀ page', page.ShowsSame document.objects page' →
      ∃ r, validate tree filter depth silent document page = some r ∧
        validate tree filter depth silent document page' = some r) ∧
    (∀ locator s,
      (∀ entry ∈ document.objects.entries, isMultiObject entry.1 = true → entry.2 ≠ locator) →
      (∀ entry ∈ (resolveObjects document.objects page).entries, entry.2 ≠ locator) →
      validate tree filter depth silent document (page.putElement locator s)
        = validate tree filter depth silent document page) ∧
    ∀ name s, name ∈ (resolveObjects document.objects page).names →
      validate tree filter depth silent document (page.putSpecial name s)
        = validate tree filter depth silent document page := by
  refine ⟨fun page' h => exists_validate_of_showsSame hdocument h, ?_, ?_⟩
  · intro locator s hmulti hobjects
    obtain ⟨r, hr, hr'⟩ := exists_validate_of_showsSame hdocument
      (Page.showsSame_putElement s hmulti hobjects)
    exact hr'.trans hr.symm
  · intro name s hname
    obtain ⟨r, hr, hr'⟩ := exists_validate_of_showsSame hdocument
      (Page.showsSame_putSpecial s hname)
    exact hr'.trans hr.symm

end

/-- Items, and a name that pages use for the whole window. -/
def rowDocument : Document where
  objects := .ofList [("item-*", ⟨.css, "li", none⟩), ("screen", ⟨.css, "#screen", none⟩)]
  sections := [{ groups := [⟨"item-1", [.width (.exactly 10)]⟩, ⟨"screen", [.absent]⟩,
    ⟨"viewport", [.visible]⟩] }]

def rowPage : Page where
  elements := [(⟨.css, "li", some 1⟩, .shown ⟨0, 0, 8, 10⟩)]
  counts := [(⟨.css, "li", none⟩, 1)]
  specials := [("viewport", .shown ⟨0, 0, 100, 100⟩)]

/-- The row beside a logo. -/
def rowAndLogoPage : Page :=
  rowPage.putElement ⟨.css, "#logo", none⟩ (.shown ⟨50, 0, 8, 8⟩)

/-- The row in a window that has a declared name. -/
def rowInScreenPage : Page :=
  rowPage.putSpecial "screen" (.shown ⟨0, 0, 100, 100⟩)

/-- A row whose item has other matches of its own, which nothing asks for. -/
def nestedRowPage : Page :=
  (rowInScreenPage.putElement ⟨.css, "#logo", none⟩ (.shown ⟨50, 0, 8, 8⟩)).putCount
    ⟨.css, "li", some 1⟩ 7

theorem validate_declared_rowDocument :
    rowDocument.WithoutComponents ∧ rowPage.ShowsSame rowDocument.objects nestedRowPage ∧
      ∃ r, r.failures = [⟨[⟨0, 0, 8, 10⟩], ["\"item-1\" width is 8px instead of 10px"]⟩] ∧
        ∀ page ∈ [rowPage, nestedRowPage, rowAndLogoPage, rowInScreenPage],
          validate {} .all 0 false rowDocument page = some r := by
  have hdocument : rowDocument.WithoutComponents := by
    simp [Document.WithoutComponents, Section.WithoutComponents, Group.WithoutComponents,
      Section.allGroups, rowDocument]
  have hobjects : (resolveObjects rowDocument.objects rowPage).entries
      = [("item-1", ⟨.css, "li", some 1⟩), ("screen", ⟨.css, "#screen", none⟩)] := by
    decide +kernel
  have hsame : rowPage.ShowsSame rowDocument.objects nestedRowPage := by
    constructor
    · decide +kernel
    · rw [hobjects]
      decide +kernel
    · intro name hname
      rw [ObjectTable.names, hobjects] at hname
      have hne : name ≠ "screen" := by
        rintro rfl
        exact hname (by decide)
      exact ((lookup_putEntry "screen" name _ rowPage.specials).trans (if_neg hne)).symm
  obtain ⟨hpages, helement, hspecial⟩ :=
    @validate_declared {} .all 0 false rowDocument rowPage hdocument
  obtain ⟨r, hrow, hnested⟩ := hpages nestedRowPage hsame
  have hlogo : validate {} .all 0 false rowDocument rowAndLogoPage = some r := by
    refine (helement _ _ (by decide +kernel) ?_).trans hrow
    rw [hobjects]
    decide +kernel
  have hscreen : validate {} .all 0 false rowDocument rowInScreenPage = some r := by
    refine (hspecial _ _ ?_).trans hrow
    rw [ObjectTable.names, hobjects]
    decide
  have hfailures : (validate {} .all 0 false rowDocument rowPage).map Report.failures
      = some [⟨[⟨0, 0, 8, 10⟩], ["\"item-1\" width is 8px instead of 10px"]⟩] := by
    rw [validate, Pass.outcome]
    decide +kernel
  rw [hrow] at hfailures
  refine ⟨hdocument, hsame, r, Option.some.inj hfailures, ?_⟩
  simp [hrow, hnested, hlogo, hscreen]

end LayoutSpec
