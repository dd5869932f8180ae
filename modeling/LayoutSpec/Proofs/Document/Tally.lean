import LayoutSpec.Proofs.Document.Weight

/-!
How many constraints come out of a text. A constraint line adds one to each group that is open in
front of it, an import adds those of the imported text, and no line takes any away.
-/

namespace LayoutSpec

open Text

def Document.constraints (d : Document) : List Constraint :=
  d.allGroups.flatMap Group.constraints

def constraintWeight (g : Group) : Nat :=
  g.constraints.length

namespace ReadState

variable {context : ReadContext} {raw : List Char} {s t : ReadState} {gs : List Group}

structure Visit where
  state : ReadState
  line : List Char
deriving DecidableEq, Repr

/-- The lines that are read one after another, those of imported texts behind their import lines.
What is read of the text at a path is `imported`. The number under which a line is read is of no
concern here, as it shows in errors only. -/
def visits (context : ReadContext) (imported : Path → List Visit) :
    ReadState → List (List Char) → List Visit
  | _, [] => []
  | s, raw :: rest =>
    ⟨s, raw⟩ ::
      (((LineKind.of raw).importPath?.map fun rel => imported (.from? context.base rel)).getD [] ++
        match s.step context 0 raw with
        | .ok next => visits context imported next rest
        | .error _ => [])

theorem total_addEach_constraintWeight {cs : List Constraint} (h : gs.length = cs.length) :
    total constraintWeight (addEach gs cs) = total constraintWeight gs + cs.length := by
  induction gs generalizing cs with
  | nil =>
      obtain rfl := List.length_eq_zero_iff.mp h.symm
      rfl
  | cons g gs ih =>
      cases cs with
      | nil => cases h
      | cons c cs =>
          have hrest := ih (Nat.succ.inj h)
          have hfirst : constraintWeight { g with constraints := g.constraints ++ [c] }
              = constraintWeight g + 1 := List.length_append
          rw [addEach, total_cons, hrest, hfirst, total_cons, List.length_cons]
          omega

/-- A constraint line adds one constraint to each open group. The open groups are the last ones of
the current list, all of which get a copy. -/
theorem Coherent.total_withConstraint (hs : s.Coherent) {opened : OpenGroups}
    (hgroups : s.groups? = some gs) (hopened : s.openGroups = some opened) (c : Constraint) :
    total constraintWeight (withConstraint gs opened c)
      = total constraintWeight gs + opened.count := by
  obtain ⟨found, hfound, hlength⟩ := hs.opened opened hopened
  obtain rfl := Option.some.inj (hgroups.symm.trans hfound)
  have hlast : (gs.drop opened.first).length = (copies c opened.values).length := by
    rw [List.length_drop, length_copies]
    omega
  have hparts : total constraintWeight (gs.take opened.first)
      + total constraintWeight (gs.drop opened.first) = total constraintWeight gs := by
    rw [← total_append, List.take_append_drop]
  rw [withConstraint, total_append, total_addEach_constraintWeight hlast, length_copies]
  omega

end ReadState

namespace Document

open ReadState

variable {tree : FileTree} {chain : List FileKey} {base : Option Path} {text : String}

end Document

end LayoutSpec
