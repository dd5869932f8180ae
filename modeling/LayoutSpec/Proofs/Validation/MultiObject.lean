import LayoutSpec.Proofs.ObjectTable
import LayoutSpec.Proofs.Validation.Names

/-!
The objects of a pass. A declared name with stars is resolved into a name for each match of its
locator, with the number of the match in the place of every star; a name that several declarations
produce is the one of the last of them. As a pattern, the declared name stands for all the names
that it was resolved into, so that a group on it checks each of them.
-/

namespace LayoutSpec

open Text

/-- The name of a match, with its number in the place of every star. -/
def numbered (name : String) (index : Nat) : String :=
  String.ofList (substitute '*' (natNumeral index) name.toList)

theorem substitute_cons (c : Char) (value : List Char) (d : Char) (cs : List Char) :
    substitute c value (d :: cs) = (if d = c then value else [d]) ++ substitute c value cs :=
  List.flatMap_cons

theorem length_substitute (c : Char) (value cs : List Char) :
    (substitute c value cs).length + cs.count c = cs.length + cs.count c * value.length := by
  induction cs with
  | nil => simp [substitute]
  | cons d cs ih =>
      rw [substitute_cons, List.length_append, List.length_cons]
      by_cases hd : d = c
      · subst hd
        rw [if_pos rfl, List.count_cons_self, Nat.add_mul]
        omega
      · rw [if_neg hd, List.count_cons_of_ne hd, List.length_singleton]
        omega

/-- Different values for a character that occurs in a text make different texts. They are compared
at its first occurrence. -/
theorem substitute_injective {c : Char} {cs value other : List Char} (hc : c ∈ cs)
    (h : substitute c value cs = substitute c other cs) : value = other := by
  have hlength : value.length = other.length := by
    have hvalue := length_substitute c value cs
    have hother := length_substitute c other cs
    rw [h] at hvalue
    have hmul : cs.count c * value.length = cs.count c * other.length := by omega
    exact Nat.eq_of_mul_eq_mul_left (List.count_pos_iff.mpr hc) hmul
  induction cs with
  | nil => cases hc
  | cons d cs ih =>
      rw [substitute_cons, substitute_cons] at h
      by_cases hd : d = c
      · -- The values stand at the start of the texts, and they are of one length.
        rw [if_pos hd, if_pos hd] at h
        exact (List.append_inj h hlength).1
      · rw [if_neg hd, if_neg hd] at h
        exact ih ((List.mem_cons.mp hc).resolve_left (Ne.symm hd)) (List.append_cancel_left h)

theorem natNumeral_injective {m n : Nat} (h : natNumeral m = natNumeral n) : m = n := by
  rw [← natOfDigits_natNumeral m, h, natOfDigits_natNumeral]

theorem star_not_mem_natNumeral (n : Nat) : '*' ∉ natNumeral n := by
  intro h
  exact absurd (isDigit_of_mem_natNumeral h) (by decide)

theorem numbered_injective {name : String} (hstar : '*' ∈ name.toList) {i j : Nat}
    (h : numbered name i = numbered name j) : i = j :=
  natNumeral_injective (substitute_injective hstar (String.ofList_injective h))

theorem star_not_mem_numbered (name : String) (index : Nat) :
    '*' ∉ (numbered name index).toList := by
  rw [numbered, String.toList_ofList, substitute, List.mem_flatMap]
  rintro ⟨d, -, hd⟩
  split at hd
  · exact star_not_mem_natNumeral index hd
  · next hne => exact hne (List.mem_singleton.mp hd).symm

theorem fills_natNumeral (n : Nat) : Wildcard.word.Fills (natNumeral n) := by
  refine ⟨fun c hc => ?_, fun _ => natNumeral_ne_nil n⟩
  simp [Wildcard.word, Char.isAlphanum, isDigit_of_mem_natNumeral hc]

/-- A pattern stands for the text that has one run in the place of each star. A number is such a
run, which is how a match gets its name. -/
theorem Wildcard.standsFor_substitute {w : Wildcard} {run : List Char} (hrun : w.Fills run)
    (pattern : List Char) : w.StandsFor pattern (substitute '*' run pattern) := by
  induction pattern with
  | nil => exact standsFor_nil.mpr rfl
  | cons p pattern ih =>
      by_cases hp : p = '*'
      · subst hp
        rw [substitute_cons, if_pos rfl]
        exact standsFor_star.mpr ⟨run, _, hrun, ih, rfl⟩
      · refine (standsFor_letter hp).mpr ⟨_, ih, ?_⟩
        rw [substitute_cons, if_neg hp, List.singleton_append]

theorem standsFor_numbered (name : String) (index : Nat) :
    Wildcard.word.StandsFor name.toList (numbered name index).toList := by
  rw [numbered, String.toList_ofList]
  exact Wildcard.standsFor_substitute (fills_natNumeral index) name.toList

/-- The declaration stands for the object on the page: it declares this very object, or it has stars
and the object is one of the matches of its locator. -/
inductive Produces (page : Page) : String × Locator → String × Locator → Prop
  | itself {name : String} {locator : Locator} :
    '*' ∉ name.toList → Produces page (name, locator) (name, locator)
  | matched {name : String} {locator : Locator} {index : Nat} :
    '*' ∈ name.toList → 1 ≤ index → index ≤ page.count locator →
    Produces page (name, locator) (numbered name index, { locator with index := some index })

/-- The names of the objects that a declaration stands for on a page, in the order of the matches.
-/
def producedNames (page : Page) (declared : String × Locator) : List String :=
  if '*' ∈ declared.1.toList then
    (List.range' 1 (page.count declared.2)).map (numbered declared.1)
  else [declared.1]

variable {page : Page} {name : String} {locator : Locator}

theorem isMultiObject_iff : isMultiObject name = true ↔ '*' ∈ name.toList := by
  rw [isMultiObject, List.contains_iff_mem]

theorem resolveEntry_of_star (h : '*' ∈ name.toList) (page : Page) (locator : Locator) :
    resolveEntry page name locator = (List.range' 1 (page.count locator)).map fun index =>
      (numbered name index, { locator with index := some index }) := by
  rw [resolveEntry, if_pos (isMultiObject_iff.mpr h)]
  rfl

theorem resolveEntry_of_no_star (h : '*' ∉ name.toList) (page : Page) (locator : Locator) :
    resolveEntry page name locator = [(name, locator)] := by
  rw [resolveEntry, if_neg (mt isMultiObject_iff.mp h)]

/-- What an entry is resolved to is what it produces: itself if it has no star, and otherwise one
numbered object for each match of its locator. -/
theorem mem_resolveEntry_iff {declared object : String × Locator} :
    object ∈ resolveEntry page declared.1 declared.2 ↔ Produces page declared object := by
  obtain ⟨name, locator⟩ := declared
  by_cases hstar : '*' ∈ name.toList
  · rw [resolveEntry_of_star hstar, List.mem_map]
    constructor
    · rintro ⟨index, hindex, rfl⟩
      obtain ⟨hfirst, hlast⟩ := List.mem_range'_1.mp hindex
      rw [Nat.add_comm] at hlast
      exact .matched hstar hfirst (Nat.lt_succ_iff.mp hlast)
    · intro h
      cases h with
      | itself hnot => exact absurd hstar hnot
      | matched _ hfirst hlast =>
          refine ⟨_, List.mem_range'_1.mpr ⟨hfirst, ?_⟩, rfl⟩
          rw [Nat.add_comm]
          exact Nat.lt_succ_iff.mpr hlast
  · rw [resolveEntry_of_no_star hstar, List.mem_singleton]
    constructor
    · rintro rfl
      exact .itself hstar
    · intro h
      cases h with
      | itself _ => rfl
      | matched hin _ _ => exact absurd hin hstar

theorem keys_resolveEntry (page : Page) (declared : String × Locator) :
    (resolveEntry page declared.1 declared.2).map Prod.fst = producedNames page declared := by
  rw [producedNames]
  by_cases hstar : '*' ∈ declared.1.toList
  · rw [resolveEntry_of_star hstar, List.map_map, if_pos hstar]
    rfl
  · rw [resolveEntry_of_no_star hstar, if_neg hstar]
    rfl

theorem nodup_producedNames (page : Page) (declared : String × Locator) :
    (producedNames page declared).Nodup := by
  rw [producedNames]
  by_cases hstar : '*' ∈ declared.1.toList
  · rw [if_pos hstar]
    apply List.Nodup.map_on
    · intro i _ j _ h
      exact numbered_injective hstar h
    · exact List.nodup_range'
  · rw [if_neg hstar]
    exact List.nodup_singleton declared.1

theorem star_not_mem_of_mem_producedNames {declared : String × Locator}
    (h : name ∈ producedNames page declared) : '*' ∉ name.toList := by
  rw [producedNames] at h
  by_cases hstar : '*' ∈ declared.1.toList
  · rw [if_pos hstar, List.mem_map] at h
    obtain ⟨index, -, rfl⟩ := h
    exact star_not_mem_numbered declared.1 index
  · rw [if_neg hstar, List.mem_singleton] at h
    rwa [h]

namespace ObjectTable

theorem names_insert (t : ObjectTable) (name : String) (locator : Locator) :
    (t.insert name locator).names = Scope.addName t.names name := by
  have hnames : t.names.contains name = true ↔ HasKey name t.entries := List.contains_iff_mem
  change (putEntry name locator t.entries).map Prod.fst = _
  rw [Scope.addName]
  by_cases hkey : HasKey name t.entries
  · rw [putEntry_of_hasKey hkey, keys_map_replaceValue, if_pos (hnames.mpr hkey), names]
  · rw [putEntry_of_not_hasKey hkey, if_neg (mt hnames.mp hkey), List.map_append]
    rfl

theorem names_insertAll (t : ObjectTable) (entries : List (String × Locator)) :
    (t.insertAll entries).names = (entries.map Prod.fst).foldl Scope.addName t.names := by
  induction entries generalizing t with
  | nil => rfl
  | cons entry entries ih =>
      rw [List.map_cons, List.foldl_cons, ← names_insert t entry.1 entry.2, ← ih]
      rfl

/-- A table has the names that were declared, each where it was declared first. -/
theorem names_ofList (entries : List (String × Locator)) :
    (ofList entries).names = (entries.map Prod.fst).eraseDups := by
  rw [ofList, names_insertAll, Scope.foldl_addName]
  simp [names, empty]

end ObjectTable

theorem hasMultiObjects_eq_false_iff {objects : ObjectTable} :
    objects.hasMultiObjects = false ↔ ∀ name ∈ objects.names, '*' ∉ name.toList := by
  rw [ObjectTable.hasMultiObjects, List.any_eq_false]
  exact forall₂_congr fun name _ => not_congr isMultiObject_iff

/-- A table without stars is taken as it is; it is also what resolving its entries would give. So
the two paths of resolving need not be told apart any more. -/
theorem resolveObjects_eq_ofList (objects : ObjectTable) (page : Page) :
    resolveObjects objects page
      = .ofList (objects.entries.flatMap fun (name, locator) =>
        resolveEntry page name locator) := by
  rw [resolveObjects]
  cases hmulti : objects.hasMultiObjects with
  | true => rw [if_pos rfl]
  | false =>
      -- Each entry is resolved into itself, and declaring the entries again makes the same table.
      have hstars := hasMultiObjects_eq_false_iff.mp hmulti
      have hentries :
          (objects.entries.flatMap fun (name, locator) => resolveEntry page name locator)
          = objects.entries.flatMap fun entry => [entry] := by
        apply List.flatMap_congr
        rintro ⟨name, locator⟩ hentry
        exact resolveEntry_of_no_star (hstars name (List.mem_map.mpr ⟨_, hentry, rfl⟩)) page locator
      rw [if_neg Bool.false_ne_true, hentries, List.flatMap_singleton', ObjectTable.ofList_entries]

/-- The names of a pass, each where it is produced first. A name that is declared by itself and is
produced by stars as well has one place. -/
theorem names_resolveObjects (objects : ObjectTable) (page : Page) :
    (resolveObjects objects page).names
      = (objects.entries.flatMap (producedNames page)).eraseDups := by
  rw [resolveObjects_eq_ofList, ObjectTable.names_ofList, List.map_flatMap]
  exact congrArg List.eraseDups
    (List.flatMap_congr fun declared _ => keys_resolveEntry page declared)

/-- A name of a pass has the locator of the last declaration that produces it. Declarations behind
that one do not produce the name. -/
theorem get?_resolveObjects {objects : ObjectTable} :
    (resolveObjects objects page).get? name = some locator ↔
      ∃ before declared after, objects.entries = before ++ declared :: after ∧
        Produces page declared (name, locator) ∧
        ∀ later ∈ after, name ∉ producedNames page later := by
  have hnodup : ∀ declared ∈ objects.entries,
      ((resolveEntry page declared.1 declared.2).map Prod.fst).Nodup := by
    intro declared _
    rw [keys_resolveEntry]
    exact nodup_producedNames page declared
  rw [resolveObjects_eq_ofList, ObjectTable.get?, ObjectTable.ofList, ObjectTable.insertAll]
  refine (lookup_putEntries_flatMap hnodup).trans ?_
  simp only [mem_resolveEntry_iff, HasKey, keys_resolveEntry]

theorem mem_names_resolveObjects {objects : ObjectTable} :
    name ∈ (resolveObjects objects page).names ↔
      ∃ declared ∈ objects.entries, name ∈ producedNames page declared := by
  rw [names_resolveObjects, List.mem_eraseDups, List.mem_flatMap]

theorem star_not_mem_of_mem_names_resolveObjects {objects : ObjectTable}
    (hname : name ∈ (resolveObjects objects page).names) : '*' ∉ name.toList := by
  obtain ⟨declared, -, hproduced⟩ := mem_names_resolveObjects.mp hname
  exact star_not_mem_of_mem_producedNames hproduced

/-- Where no name has a star, nothing is left to be resolved. -/
theorem resolveObjects_resolveObjects (objects : ObjectTable) (page other : Page) :
    resolveObjects (resolveObjects objects page) other = resolveObjects objects page := by
  have hstarless : (resolveObjects objects page).hasMultiObjects = false :=
    hasMultiObjects_eq_false_iff.mpr fun _ => star_not_mem_of_mem_names_resolveObjects
  rw [resolveObjects, hstarless, if_neg Bool.false_ne_true]

namespace Scope

/-- A name that is its own only part is a pattern that cannot be compiled or stands for the names
that this part stands for. -/
theorem names_of_part (scope : Scope) {name : String}
    (hitems : items ',' name.toList = [name.toList]) :
    (partCompiles name.toList = true →
      ∃ names, scope.names name = .ok names ∧
        ∀ other ∈ scope.standingFor name.toList, other ∈ names) ∧
    (partCompiles name.toList = false → scope.names name = .error (.invalidPattern name)) := by
  constructor
  · intro hcompiles
    have hgroup : Group.Compiles ⟨name, []⟩ := by
      intro part hpart
      rw [hitems, List.mem_singleton] at hpart
      rwa [hpart]
    refine ⟨scope.expand name, names_eq_ok hgroup scope, ?_⟩
    intro other hother
    rw [expand_eq_eraseDups, List.mem_eraseDups, hitems, List.flatMap_singleton]
    exact hother
  · intro hcompiles
    have hfails := @names_eq_error scope name [] [] _ hitems (by simp) hcompiles
    rwa [String.ofList_toList] at hfails

/-- As a pattern, a declared name with stars stands for the names of all its matches, which are
numbered from 1. -/
theorem numbered_mem_standingFor {scope : Scope} {objects : ObjectTable} {page : Page}
    {name : String}
    {locator : Locator} {index : Nat} (hscope : scope.objects = resolveObjects objects page)
    (hentry : (name, locator) ∈ objects.entries) (hstar : '*' ∈ name.toList) (hfirst : 1 ≤ index)
    (hlast : index ≤ page.count locator) :
    numbered name index ∈ scope.standingFor name.toList := by
  have hproduced : numbered name index ∈ producedNames page (name, locator) := by
    rw [← keys_resolveEntry]
    exact List.mem_map.mpr ⟨_, mem_resolveEntry_iff.mpr (.matched hstar hfirst hlast), rfl⟩
  have hdeclared : numbered name index ∈ scope.objects.names := by
    rw [hscope]
    exact mem_names_resolveObjects.mpr ⟨_, hentry, hproduced⟩
  exact mem_standingFor.mpr (.inr ⟨hstar, hdeclared, standsFor_numbered name index⟩)

/-- The objects of a pass are those that the declarations produce, each name at its first place and
with the locator of the last declaration that produces it. They have no stars, so that nothing is
left to be resolved. A group on a declared name with stars checks all the names of its matches if
the name can be compiled as a pattern, and fails with the pattern if it cannot. -/
theorem resolveObjects_exact (document : Document) (page : Page) (filter : TagFilter)
    (tree : FileTree) (depth : Nat) :
    let scope := ofDocument document page filter tree depth
    scope.objects.names.Nodup ∧
    (∀ name ∈ scope.objects.names, '*' ∉ name.toList) ∧
    scope.objects.names = (document.objects.entries.flatMap (producedNames page)).eraseDups ∧
    (∀ name locator, scope.objects.get? name = some locator ↔
      ∃ before declared after, document.objects.entries = before ++ declared :: after ∧
        Produces page declared (name, locator) ∧ ∀ later ∈ after, name ∉ producedNames page later) ∧
    (∀ other, resolveObjects scope.objects other = scope.objects) ∧
    scope.objects = .ofList (document.objects.entries.flatMap fun (name, locator) =>
      resolveEntry page name locator) ∧
    ∀ name locator, (name, locator) ∈ document.objects.entries → '*' ∈ name.toList →
      ',' ∉ name.toList → trim name.toList = name.toList →
      (partCompiles name.toList = true →
        ∃ names, scope.names name = .ok names ∧
          (∀ index, 1 ≤ index → index ≤ page.count locator → numbered name index ∈ names) ∧
          ∀ silent constraints, scope.checkGroup silent ⟨name, constraints⟩
            = Walk.collect (scope.checkObject silent constraints) names) ∧
      (partCompiles name.toList = false → scope.names name = .error (.invalidPattern name)) := by
  intro scope
  have hobjects : scope.objects = resolveObjects document.objects page := rfl
  refine ⟨scope.objects.nodup, fun _ => star_not_mem_of_mem_names_resolveObjects,
    names_resolveObjects document.objects page, fun _ _ => get?_resolveObjects,
    resolveObjects_resolveObjects document.objects page,
    resolveObjects_eq_ofList document.objects page, ?_⟩
  intro name locator hentry hstar hcomma htrim
  have hitems : items ',' name.toList = [name.toList] :=
    items_of_no_sep htrim (List.ne_nil_of_mem hstar) hcomma
  obtain ⟨hcompiles, hfails⟩ := names_of_part scope hitems
  refine ⟨fun h => ?_, hfails⟩
  obtain ⟨names, hok, hall⟩ := hcompiles h
  refine ⟨names, hok, fun index hfirst hlast => ?_, fun silent constraints => ?_⟩
  · exact hall _ (numbered_mem_standingFor hobjects hentry hstar hfirst hlast)
  · rw [checkGroup, hok]

/-- Items with a name for all of them, the first of which has another locator as well. -/
def itemsDocument : Document where
  objects := .ofList [("item-*", ⟨.css, "li", none⟩), ("logo", ⟨.css, "#logo", none⟩),
    ("item-1", ⟨.css, "#first", none⟩)]

def itemsPage : Page where
  counts := [(⟨.css, "li", none⟩, 2)]

theorem resolveObjects_exact_itemsDocument :
    let scope := ofDocument itemsDocument itemsPage .all {} 0
    scope.objects.get? "item-1" = some ⟨.css, "#first", none⟩ ∧
      scope.objects.get? "item-2" = some ⟨.css, "li", some 2⟩ ∧
      ∃ names, scope.names "item-*" = .ok names ∧ "item-1" ∈ names ∧ "item-2" ∈ names := by
  obtain ⟨-, -, -, hget, -, -, hgroup⟩ := resolveObjects_exact itemsDocument itemsPage .all {} 0
  refine ⟨?_, ?_, ?_⟩
  · apply (hget _ _).mpr
    exact ⟨[("item-*", ⟨.css, "li", none⟩), ("logo", ⟨.css, "#logo", none⟩)], _, [], rfl,
      .itself (by decide), by simp⟩
  · apply (hget _ _).mpr
    have hsecond : Produces itemsPage ("item-*", ⟨.css, "li", none⟩)
        ("item-2", ⟨.css, "li", some 2⟩) :=
      .matched (by decide) (by decide : 1 ≤ 2) (by decide)
    exact ⟨[], _, _, rfl, hsecond, by decide⟩
  · have hentry : ("item-*", ⟨.css, "li", none⟩) ∈ itemsDocument.objects.entries := by decide
    obtain ⟨hcompiles, -⟩ :=
      hgroup _ _ hentry (by decide) (by decide) (by decide)
    obtain ⟨names, hok, hall, -⟩ := hcompiles (by decide)
    exact ⟨names, hok, hall 1 (by decide) (by decide), hall 2 (by decide) (by decide)⟩

/-- A name of 120000 stars cannot be compiled, so that a group on it does not check its matches. -/
theorem names_ne_starItems :
    ¬ ∀ (document : Document) (page : Page) (name : String) (locator : Locator),
      (name, locator) ∈ document.objects.entries →
      '*' ∈ name.toList → ',' ∉ name.toList → trim name.toList = name.toList →
      ∀ index, 1 ≤ index → index ≤ page.count locator →
        ∃ names, (ofDocument document page .all {} 0).names name = .ok names ∧
          numbered name index ∈ names := by
  intro h
  have hn : Regex.maxSize < 136 * (119999 + 1) + 192 := by decide
  have hstars : (String.ofList (stars (119999 + 1))).toList = stars (119999 + 1) :=
    String.toList_ofList
  obtain ⟨names, hok, -⟩ := h
    { objects := ObjectTable.empty.insert (String.ofList (stars (119999 + 1))) ⟨.css, "li", none⟩ }
    itemsPage _ _ List.mem_cons_self
    (by rw [hstars, stars_succ]; exact List.mem_cons_self)
    (by rw [hstars]; exact fun hc => absurd (eq_star_of_mem hc) (by decide))
    (by rw [hstars]; exact trim_stars) 1 (by decide) (by decide)
  rw [names_stars hn] at hok
  cases hok

end Scope

end LayoutSpec
