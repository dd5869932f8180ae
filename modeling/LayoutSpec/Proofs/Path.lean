import LayoutSpec.Proofs.FileTree

/-!
How a path is spelled. Two relative paths that start with the same piece are the same if they take
the same steps from there on, and a path that is seen from a folder takes the steps of the folder
before its own.
-/

namespace LayoutSpec.Path

open Text

variable {p q : Path} {first : List Char} {rest more : List (List Char)}

/-- The shortest spelling keeps the first piece and the steps behind it. The first piece is kept
also if it is no step: it tells whether the path is absolute. -/
theorem pieces_tidy (hpieces : p.pieces = first :: rest) (hrelative : p.isAbsolute = false) :
    p.tidy.pieces = first :: rest.filter isStep := by
  have hslash : ∀ part ∈ first :: rest.filter isStep, '/' ∉ part := by
    intro part hpart
    apply slash_not_mem_pieces (p := p)
    rw [hpieces]
    rcases List.mem_cons.mp hpart with rfl | hpart
    · exact List.mem_cons_self
    · exact List.mem_cons_of_mem _ (List.mem_filter.mp hpart).1
  rw [tidy, hpieces]
  cases hsteps : rest.filter isStep with
  | nil =>
      rw [hsteps] at hslash
      have hone := pieces_intercalate (List.cons_ne_nil first []) hslash
      rw [List.intercalate_singleton] at hone
      simp only [hsteps, hrelative, Bool.false_eq_true, if_false]
      exact hone
  | cons part parts =>
      rw [hsteps] at hslash
      have hall := pieces_intercalate (List.cons_ne_nil first (part :: parts)) hslash
      simp only [hsteps]
      exact hall

theorem tidy_eq_iff (hp : p.pieces = first :: rest) (hq : q.pieces = first :: more)
    (hprelative : p.isAbsolute = false) (hqrelative : q.isAbsolute = false) :
    p.tidy = q.tidy ↔ rest.filter isStep = more.filter isStep := by
  constructor
  · intro h
    have hpieces := congrArg pieces h
    rw [pieces_tidy hp hprelative, pieces_tidy hq hqrelative] at hpieces
    exact (List.cons.inj hpieces).2
  · intro h
    rw [tidy, tidy, hp, hq]
    simp only [h, hprelative, hqrelative]

theorem isAbsolute_tidy (p : Path) : p.tidy.isAbsolute = p.isAbsolute := by
  by_cases htext : p.text = ""
  · obtain rfl : p = ⟨""⟩ := congrArg Path.mk htext
    decide
  · obtain ⟨first, rest, hpieces⟩ := p.exists_pieces
    have habsolute := isAbsolute_eq hpieces htext
    cases first with
    | nil =>
        rw [tidy, hpieces]
        cases hsteps : rest.filter isStep with
        | nil =>
            simp only [hsteps, habsolute, List.isEmpty_nil, if_true]
            decide
        | cons part parts =>
            rw [habsolute]
            simp [hsteps, isAbsolute, String.toList_ofList, intercalate_cons_eq]
    | cons c cs =>
        have htidy := pieces_tidy hpieces habsolute
        rw [isAbsolute_eq htidy (text_ne_empty (by simp [htidy])), habsolute]

section Join

variable {base rel : Path}

theorem join_eq_of_isAbsolute (h : rel.isAbsolute = true) : base.join rel = rel := by
  rw [join, if_pos (by simp [h])]

theorem join_empty (rel : Path) : join ⟨""⟩ rel = rel := by
  rw [join, if_pos (by simp)]

/-- A path that is seen from a folder starts with the folder. -/
theorem exists_text_join (hrel : rel.isAbsolute = false) (hbase : base.text ≠ "") :
    ∃ gap, (base.join rel).text.toList = base.text.toList ++ gap ++ rel.text.toList ∧
      gap = if base.text.toList.getLast? = some '/' then [] else ['/'] := by
  rw [join, if_neg (by simp [hrel, hbase])]
  split
  · exact ⟨[], by simp [String.toList_append], rfl⟩
  · exact ⟨['/'], by simp [String.toList_append], rfl⟩

/-- A path that is seen from a folder takes the steps of the folder and then its own. Steps that
stay are left out on both sides. -/
theorem exists_steps_join (hpieces : base.pieces = first :: rest) (hbase : base.text ≠ "")
    (hrel : rel.isAbsolute = false) :
    ∃ more, (base.join rel).pieces = first :: more ∧
      more.filter isStep = rest.filter isStep ++ rel.pieces.filter isStep := by
  obtain ⟨first', init, idle, hbasePieces, hidle, hjoin⟩ := exists_pieces_join hrel hbase
  rw [hpieces, List.cons_append] at hbasePieces
  obtain ⟨rfl, rfl⟩ := List.cons.inj hbasePieces
  refine ⟨init ++ rel.pieces, hjoin, ?_⟩
  have hnone : idle.filter isStep = [] := by
    simpa [List.filter_eq_nil_iff] using hidle
  rw [List.filter_append, List.filter_append, hnone, List.append_nil]

/-- The pieces that lead to other places. -/
def steps (p : Path) : List (List Char) :=
  p.pieces.filter isStep

theorem steps_join (hbase : base.text ≠ "") (hrel : rel.isAbsolute = false) :
    (base.join rel).steps = base.steps ++ rel.steps := by
  obtain ⟨first, rest, hpieces⟩ := base.exists_pieces
  obtain ⟨more, hjoin, hmore⟩ := exists_steps_join hpieces hbase hrel
  rw [steps, steps, hjoin, hpieces, List.filter_cons, List.filter_cons, hmore]
  split
  · rw [List.cons_append, steps]
  · rw [steps]

/-- Seen from a folder, two paths are the same if they take the same steps. What is compared are
shortest spellings, not the files that are reached. -/
theorem tidy_join_eq_iff {other : Path} (hbase : base.text ≠ "")
    (hbaseRelative : base.isAbsolute = false) (hrel : rel.isAbsolute = false)
    (hother : other.isAbsolute = false) :
    (base.join rel).tidy = (base.join other).tidy ↔ rel.steps = other.steps := by
  obtain ⟨first, rest, hpieces⟩ := base.exists_pieces
  obtain ⟨more, hjoin, hmore⟩ := exists_steps_join hpieces hbase hrel
  obtain ⟨more', hjoin', hmore'⟩ := exists_steps_join hpieces hbase hother
  have hrelative := (isAbsolute_join hrel hbase).trans hbaseRelative
  have hrelative' := (isAbsolute_join hother hbase).trans hbaseRelative
  rw [tidy_eq_iff hjoin hjoin' hrelative hrelative', hmore, hmore']
  exact List.append_right_inj _

end Join

end LayoutSpec.Path
