import Mathlib.Data.List.Basic

/-!
Lists that are told together. Each of them keeps its own order, and nothing else is said about whose
turn it is.
-/

namespace LayoutSpec

variable {α : Type}

/-- What is told when several lists are told together, in whatever order they stand: the next entry
is the first one of some list, and the rest is told in the same way. -/
inductive Interleaving : List (List α) → List α → Prop where
  | nil {ls : List (List α)} : (∀ l ∈ ls, l = []) → Interleaving ls []
  | cons {ls rest : List (List α)} {a : α} {l told : List α} :
    ls.Perm ((a :: l) :: rest) → Interleaving (l :: rest) told → Interleaving ls (a :: told)

namespace Interleaving

variable {ls ms : List (List α)} {told : List α}

theorem of_perm (h : Interleaving ls told) (hperm : ms.Perm ls) : Interleaving ms told := by
  cases h with
  | nil hnil => exact .nil fun l hl => hnil l (hperm.mem_iff.mp hl)
  | cons hfirst hrest => exact .cons (hperm.trans hfirst) hrest

/-- A list that was told to its end has no say any more. The lists may stand in any order, as
workers and the queue of a pool change places. -/
theorem of_perm_nil_cons (h : Interleaving ms told) (hperm : ms.Perm ([] :: ls)) :
    Interleaving ls told := by
  induction h generalizing ls with
  | nil hnil =>
      exact .nil fun l hl => hnil l (hperm.mem_iff.mpr (List.mem_cons_of_mem [] hl))
  | @cons ms rest a l told hfirst _ ih =>
      have hlists : ([] :: ls).Perm ((a :: l) :: rest) := hperm.symm.trans hfirst
      have hmem : [] ∈ rest := by
        have hhead : [] ∈ (a :: l) :: rest := hlists.mem_iff.mp (by simp)
        simpa using hhead
      obtain ⟨before, after, rfl⟩ := List.append_of_mem hmem
      have hmiddle : ((a :: l) :: (before ++ [] :: after)).Perm
          ([] :: (a :: l) :: (before ++ after)) :=
        (List.perm_middle.cons (a :: l)).trans (.swap _ _ _)
      refine .cons (hlists.trans hmiddle).cons_inv (ih ?_)
      exact (List.perm_middle.cons l).trans (.swap _ _ _)

theorem of_nil_cons (h : Interleaving ([] :: ls) told) : Interleaving ls told :=
  h.of_perm_nil_cons (.refl _)

theorem nil_cons (h : Interleaving ls told) : Interleaving ([] :: ls) told := by
  induction h with
  | nil hnil =>
      refine .nil fun l hl => ?_
      rcases List.mem_cons.mp hl with rfl | hl
      · rfl
      · exact hnil l hl
  | cons hfirst hrest ih =>
      refine .cons ((hfirst.cons []).trans (.swap _ _ _)) ?_
      exact ih.of_perm (.swap _ _ _)

/-- Lists that are told to their end have no say any more. -/
theorem of_replicate_append {n : Nat} (h : Interleaving (List.replicate n [] ++ ls) told) :
    Interleaving ls told := by
  induction n with
  | zero => exact h
  | succ n ih => exact ih h.of_nil_cons

/-- Nothing is told but what is in the lists, and all of it. -/
theorem perm_flatten (h : Interleaving ls told) : told.Perm ls.flatten := by
  induction h with
  | nil hnil => rw [List.flatten_eq_nil_iff.mpr hnil]
  | cons hfirst hrest ih =>
      refine (ih.cons _).trans ?_
      exact hfirst.flatten.symm

end Interleaving

end LayoutSpec
