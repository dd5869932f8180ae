import LayoutSpec.Page
import Mathlib.Data.List.Basic

/-!
The pages that can be seen from a page: those that are registered in it, at any depth, and each of
them as it is seen from one of its elements. Seen from two elements in turn, a page looks like it
does from the second one alone, so that there are no more of them.
-/

namespace LayoutSpec

theorem Area.relativeTo_relativeTo (a b origin : Area) :
    (a.relativeTo origin).relativeTo (b.relativeTo origin) = a.relativeTo b := by
  simp only [relativeTo, mk.injEq, and_true]
  omega

namespace Page

/-- Only the last element from which a page is seen has a say. The areas on a page that is seen from
an element are relative to it already. -/
theorem seenFrom_seenFrom (p : Page) (a origin : Area) :
    (p.seenFrom origin).seenFrom (a.relativeTo origin) = p.seenFrom a := by
  simp only [seenFrom, List.map_map, Function.comp_def, Snapshot.relativeTo,
    Area.relativeTo_relativeTo]

mutual

/-- A page, and the pages that can be seen from it in any number of steps. -/
def views : Page → List Page
  | ⟨elements, counts, specials, subPages⟩ =>
    let page : Page := ⟨elements, counts, specials, subPages⟩
    page :: (elements.map fun (_, s) => page.seenFrom s.area) ++ viewsOf subPages

def viewsOf : List (Locator × Page) → List Page
  | [] => []
  | (_, sub) :: rest => views sub ++ viewsOf rest

end

variable {p q page : Page} {locator : Locator}

theorem views_eq (p : Page) :
    p.views = p :: (p.elements.map fun (_, s) => p.seenFrom s.area) ++ viewsOf p.subPages := by
  cases p with
  | mk elements counts specials subPages => rw [views]

theorem self_mem_views (p : Page) : p ∈ p.views := by
  rw [views_eq]
  simp

theorem mem_viewsOf {entries : List (Locator × Page)} :
    q ∈ viewsOf entries ↔ ∃ entry ∈ entries, q ∈ entry.2.views := by
  induction entries with
  | nil => simp [viewsOf]
  | cons entry rest ih =>
      obtain ⟨locator, sub⟩ := entry
      simp [viewsOf, ih]

/-- A page of a component is registered, or it is the page as it is seen from an element. Pages that
are found in either way are of the same kind as the page itself. -/
theorem of_subPage? (h : p.subPage? locator = some q) :
    (locator, q) ∈ p.subPages ∨ ∃ s, (locator, s) ∈ p.elements ∧ q = p.seenFrom s.area := by
  rw [subPage?] at h
  split at h
  · next sub hsub =>
      obtain rfl := Option.some.inj h
      exact .inl (mem_of_lookup_eq_some hsub)
  · cases helement : p.elements.lookup locator with
    | none =>
        have hresolve : p.resolve locator = .absent := by rw [resolve, helement, Option.getD_none]
        rw [hresolve] at h
        cases h
    | some s =>
        have hresolve : p.resolve locator = s := by rw [resolve, helement, Option.getD_some]
        simp only [hresolve] at h
        split at h
        · exact .inr ⟨s, mem_of_lookup_eq_some helement, (Option.some.inj h).symm⟩
        · cases h

/-- A registered page is smaller than the page that it is registered in. -/
theorem sizeOf_lt_of_mem_subPages (p : Page) {entry : Locator × Page}
    (h : entry ∈ p.subPages) : sizeOf entry.2 < sizeOf p := by
  obtain ⟨key, sub⟩ := entry
  cases p with
  | mk elements counts specials subPages =>
      have hless := List.sizeOf_lt_of_mem h
      simp only [mk.sizeOf_spec, Prod.mk.sizeOf_spec] at hless ⊢
      omega

/-- The page of a component of what can be seen from a page can be seen from it. So a pass and all
passes inside it are over finitely many pages. -/
theorem mem_views_of_subPage? (p : Page) {page q : Page} {locator : Locator}
    (hpage : page ∈ p.views) (h : page.subPage? locator = some q) : q ∈ p.views := by
  rw [views_eq, List.cons_append, List.mem_cons, List.mem_append, List.mem_map] at hpage ⊢
  rcases hpage with rfl | ⟨⟨key, s⟩, hs, rfl⟩ | hpage
  · rcases of_subPage? h with hsub | ⟨s, hs, rfl⟩
    · exact .inr (.inr (mem_viewsOf.mpr ⟨(locator, q), hsub, self_mem_views q⟩))
    · exact .inr (.inl ⟨(locator, s), hs, rfl⟩)
  · rcases of_subPage? h with hsub | ⟨t, ht, rfl⟩
    · cases hsub
    · obtain ⟨⟨key', t⟩, ht', heq⟩ := List.mem_map.mp ht
      obtain ⟨-, rfl⟩ := Prod.mk.inj heq
      refine .inr (.inl ⟨(key', t), ht', ?_⟩)
      exact (seenFrom_seenFrom p t.area s.area).symm
  · obtain ⟨entry, hentry, hview⟩ := mem_viewsOf.mp hpage
    have hless := sizeOf_lt_of_mem_subPages p hentry
    exact .inr (.inr (mem_viewsOf.mpr ⟨entry, hentry, mem_views_of_subPage? entry.2 hview h⟩))
termination_by sizeOf p

end Page

end LayoutSpec
