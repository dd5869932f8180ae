import LayoutSpec.Proofs.Validation.MultiObject

/-!
Tables that come from inserts and merges, however these are nested. Such a table is that of all its
declarations one after another: it has their names in the order in which each was declared first,
and under each name the locator that was declared last.
-/

namespace LayoutSpec.ObjectTable

/-- The table comes from inserts and merges, in which these declarations are made in this order. A
table that is merged into it comes from inserts and merges of its own. -/
inductive Declares : List (String × Locator) → ObjectTable → Prop where
  | empty : Declares [] empty
  | insert {declared : List (String × Locator)} {t : ObjectTable} (h : Declares declared t)
    (name : String) (locator : Locator) :
    Declares (declared ++ [(name, locator)]) (t.insert name locator)
  | merge {declared others : List (String × Locator)} {t other : ObjectTable}
    (h : Declares declared t) (hother : Declares others other) :
    Declares (declared ++ others) (t.merge other)

/-- What is seen of a table is what the last declaration of each name says, in the order of the
first ones. -/
structure Shows (declared : List (String × Locator)) (t : ObjectTable) : Prop where
  names_eq : t.names = (declared.map Prod.fst).eraseDups
  nodup_names : t.names.Nodup
  get?_eq_some_iff (name : String) (locator : Locator) :
    t.get? name = some locator ↔ ∃ before after, declared = before ++ (name, locator) :: after ∧
      ∀ later ∈ after, later.1 ≠ name
  contains_iff (name : String) :
    t.contains name = true ↔ ∃ locator, (name, locator) ∈ declared
  size_eq : t.size = t.names.length
  isEmpty_iff : t.isEmpty = true ↔ declared = []
  hasMultiObjects_iff :
    t.hasMultiObjects = true ↔ ∃ name locator, (name, locator) ∈ declared ∧ '*' ∈ name.toList
  entries_eq : t.entries.map (fun entry => (entry.1, some entry.2))
    = t.names.map fun name => (name, t.get? name)

variable {declared : List (String × Locator)} {t : ObjectTable}

theorem merge_ofList (t : ObjectTable) (entries : List (String × Locator)) :
    t.merge (ofList entries) = t.insertAll entries := by
  rw [ofList, merge_insertAll]
  rfl

/-- However the declarations are made, the table is that of all of them one after another. The
induction is on the inserts and merges from which the table comes. -/
theorem Declares.eq_ofList (h : Declares declared t) : t = ofList declared := by
  induction h with
  | empty => rfl
  | insert _ name locator ih =>
      rw [ih, ofList, ofList, insertAll_append]
      rfl
  | merge _ _ ih ihother => rw [ih, ihother, merge_ofList, ofList, ofList, insertAll_append]

theorem merge_self (t : ObjectTable) : t.merge t = t :=
  ObjectTable.ext (putEntries_of_subset t.nodup (List.Subset.refl t.entries))

/-- The last declaration of a name is the one that is found. Declarations of other names may stand
behind it. -/
theorem get?_ofList_eq_some_iff {name : String} {locator : Locator} :
    (ofList declared).get? name = some locator ↔
      ∃ before after, declared = before ++ (name, locator) :: after ∧
        ∀ later ∈ after, later.1 ≠ name := by
  rw [get?, ofList, insertAll, lookup_putEntries, empty, List.lookup_nil, Option.or_none,
    List.lookup_eq_some_iff]
  constructor
  · rintro ⟨after, before, hreverse, hafter⟩
    refine ⟨before.reverse, after.reverse, ?_, ?_⟩
    · rw [← List.reverse_reverse declared, hreverse]
      simp
    · intro later hlater heq
      simpa [heq] using hafter later (List.mem_reverse.mp hlater)
  · rintro ⟨before, after, rfl, hafter⟩
    refine ⟨after.reverse, before.reverse, by simp, ?_⟩
    intro later hlater
    simpa using (hafter later (List.mem_reverse.mp hlater)).symm

theorem mem_names_ofList {name : String} :
    name ∈ (ofList declared).names ↔ ∃ locator, (name, locator) ∈ declared := by
  rw [names_ofList, List.mem_eraseDups, List.mem_map]
  constructor
  · rintro ⟨⟨_, locator⟩, hmem, rfl⟩
    exact ⟨locator, hmem⟩
  · rintro ⟨locator, hmem⟩
    exact ⟨_, hmem, rfl⟩

/-- An entry of a table is a name with what is found under it. -/
theorem entries_eq_names (t : ObjectTable) :
    t.entries.map (fun entry => (entry.1, some entry.2))
      = t.names.map fun name => (name, t.get? name) := by
  rw [names, List.map_map]
  apply List.map_congr_left
  intro entry hentry
  have hfound : t.get? entry.1 = some entry.2 := (lookup_eq_some_iff_of_nodup t.nodup).mpr hentry
  rw [Function.comp_apply, hfound]

/-- A table that is made from declarations in their order shows them: each name once, in the order
of the first declarations, with the locators of the last ones. -/
theorem shows_ofList (declared : List (String × Locator)) : (ofList declared).Shows declared where
  names_eq := names_ofList declared
  nodup_names := (ofList declared).nodup
  get?_eq_some_iff _ _ := get?_ofList_eq_some_iff
  contains_iff _ := List.contains_iff_mem.trans mem_names_ofList
  size_eq := (List.length_map Prod.fst).symm
  isEmpty_iff := by
    have hnames : (ofList declared).isEmpty = true ↔ (ofList declared).names = [] :=
      List.isEmpty_iff.trans List.map_eq_nil_iff.symm
    rw [hnames, List.eq_nil_iff_forall_not_mem, List.eq_nil_iff_forall_not_mem, Prod.forall]
    exact forall_congr' fun name => (not_congr mem_names_ofList).trans not_exists
  hasMultiObjects_iff := by
    rw [hasMultiObjects, List.any_eq_true]
    constructor
    · rintro ⟨name, hname, hstar⟩
      obtain ⟨locator, hdeclared⟩ := mem_names_ofList.mp hname
      exact ⟨name, locator, hdeclared, isMultiObject_iff.mp hstar⟩
    · rintro ⟨name, locator, hdeclared, hstar⟩
      exact ⟨name, mem_names_ofList.mpr ⟨locator, hdeclared⟩, isMultiObject_iff.mpr hstar⟩
  entries_eq := entries_eq_names (ofList declared)

/-- Tables keep their names in the order of the first declarations and the locators of the last
ones, whatever inserts and merges they come from. Merging is associative for all tables, also in the
order of the names, and a table that is merged into itself stays as it is. -/
theorem insertionOrdered :
    (∀ declared t, Declares declared t → t.Shows declared ∧ t.merge t = t) ∧
      ∀ a b c : ObjectTable, a.merge (b.merge c) = (a.merge b).merge c := by
  constructor
  · intro declared t h
    exact ⟨h.eq_ofList ▸ shows_ofList declared, merge_self t⟩
  · intro a b c
    exact merge_insertAll a b c.entries

def menuTable : ObjectTable :=
  (empty.insert "menu" ⟨.css, "#menu", none⟩).insert "logo" ⟨.id, "logo", none⟩

/-- Another locator for the menu, and objects with numbers. -/
def itemTable : ObjectTable :=
  (empty.insert "item-*" ⟨.css, "li", none⟩).insert "menu" ⟨.tag, "nav", none⟩

theorem insertionOrdered_menuTable :
    (menuTable.merge itemTable).names = ["menu", "logo", "item-*"] ∧
      (menuTable.merge itemTable).get? "menu" = some ⟨.tag, "nav", none⟩ ∧
      (menuTable.merge itemTable).hasMultiObjects = true ∧
      (menuTable.merge itemTable).merge (menuTable.merge itemTable)
      = menuTable.merge itemTable := by
  have hmenu :
      Declares [("menu", ⟨.css, "#menu", none⟩), ("logo", ⟨.id, "logo", none⟩)] menuTable :=
    (Declares.empty.insert _ _).insert _ _
  have hitem : Declares [("item-*", ⟨.css, "li", none⟩), ("menu", ⟨.tag, "nav", none⟩)] itemTable :=
    (Declares.empty.insert _ _).insert _ _
  obtain ⟨hshows, hself⟩ := insertionOrdered.1 _ _ (hmenu.merge hitem)
  refine ⟨hshows.names_eq.trans (by decide), ?_, ?_, hself⟩
  · exact (hshows.get?_eq_some_iff _ _).mpr
      ⟨[("menu", ⟨.css, "#menu", none⟩), ("logo", ⟨.id, "logo", none⟩),
        ("item-*", ⟨.css, "li", none⟩)], [], rfl, by simp⟩
  · exact hshows.hasMultiObjects_iff.mpr
      ⟨"item-*", ⟨.css, "li", none⟩, by simp, by decide⟩

end LayoutSpec.ObjectTable
