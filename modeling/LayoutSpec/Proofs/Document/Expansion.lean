import LayoutSpec.Proofs.Document.Place
import LayoutSpec.Proofs.Document.Tally

/-!
Groups with parameters. A group below a parameter line is written once and stands for one group per
value. The groups come out together, in the order of the values, where a group without parameters
would come out; and what is written between the lines of the group does not tear them apart.
-/

namespace LayoutSpec

open Text

namespace Group

/-- The groups that a written group stands for: one per value, with the value for every at sign in
its pattern and its constraints, or the group itself if there are no values. -/
def expand (values : List String) (g : Group) : List Group :=
  if values.isEmpty then [g]
  else values.map fun value =>
    ⟨substituteParameter value g.pattern, g.constraints.map (·.withParameter value)⟩

def addConstraint (c : Constraint) (g : Group) : Group :=
  { g with constraints := g.constraints ++ [c] }

theorem expand_ne_nil (values : List String) (g : Group) : g.expand values ≠ [] := by
  rw [expand]
  split
  · simp
  · next hne => simpa using hne

end Group

namespace Section

end Section

namespace ReadState

variable {context : ReadContext} {number : Nat} {raw : List Char} {s t : ReadState}
variable {old : List Group} {values : List String} {g : Group}

/-- The values that wait for a group behind some lines: those of a parameter line, until a group
takes them. All lines between object markers are definitions. -/
def waitingValues (inside : Bool) (values : List String) : List (List Char) → List String
  | [] => values
  | raw :: rest =>
    match LineKind.of raw, inside with
    | .marker, inside => waitingValues (!inside) values rest
    | .parameters, false => waitingValues false ((Parameters.parse? (trim raw)).getD []) rest
    | .name, false => waitingValues false [] rest
    | _, inside => waitingValues inside values rest

/-- What waits behind a line is known from the line and from what waited in front of it. Neither the
groups nor the mode within a block have a part in it. -/
theorem waitingValues_change (h : Change context raw s t) (rest : List (List Char)) :
    waitingValues (s.mode = .objects) (s.pending.getD []) (raw :: rest)
      = waitingValues (t.mode = .objects) (t.pending.getD []) rest := by
  cases h with
  | nothing hkind => rcases hkind with hkind | hkind <;> simp [waitingValues, hkind]
  | «import» d hkind himport =>
      obtain ⟨rel, hrel, -⟩ := himport
      obtain ⟨text, hkind, -⟩ := LineKind.of_importPath? hrel
      simp [waitingValues, hkind]
  | startObjects hout hkind hmode => simp [waitingValues, hkind, hmode]
  | define name text l hidle hdirective hcut hreserved hlocator hmarker hmode =>
      cases hkind : LineKind.of raw with
      | marker => exact absurd hkind hmarker
      | _ => simp [waitingValues, hkind, hmode]
  | openSection tags htags hout hkind =>
      rcases hkind with ⟨hkind, hmode⟩ | ⟨hkind, hmode⟩ <;> simp [waitingValues, hkind, hmode]
  | parameters values hkind hvalues hmode => simp [waitingValues, hkind, hmode, hvalues]
  | firstStatement inverted hout hkind hmode => simp [waitingValues, hkind, hmode]
  | nextStatement inverted b hblock hmode hkind => simp [waitingValues, hkind]
  | body hmode hkind => simp [waitingValues, hkind, hmode]
  | «otherwise» b hblock hmode hkind => simp [waitingValues, hkind, hmode]
  | close b hblock hmode hkind =>
      rcases hmode with hmode | hmode <;> simp [waitingValues, hkind, hmode, modifySection]
  | constraint old opened c hgroups hopened hparse hkind =>
      simp [waitingValues, hkind, mode_setGroups, pending_setGroups]
  | openGroups old hkind hgroups hne =>
      have hmode := not_objects_of_groups hgroups
      have hnext := mode_withOpened_ne_objects hgroups (String.ofList (groupPattern (trim raw)))
        (s.pending.getD [])
      have hnone : (s.withOpened old (String.ofList (groupPattern (trim raw)))
          (s.pending.getD [])).pending = none := rfl
      simp [waitingValues, hkind, hmode, hnext, hnone]

theorem KeepsGroups.groups? {new : List Group} (h : s.KeepsGroups t) (hs : s.Shaped) (ht : t.Shaped)
    (hplace : t.place = s.place) (hold : s.groups? = some old) (hnew : t.groups? = some new) :
    t.groups? = some old := by
  have hthere := h s.place old (hs.groupsAt_place hold)
  rw [← hplace, ht.groupsAt_place hnew] at hthere
  rw [hnew, hthere]

/-- A group as it is written among some lines: the line that names it, and those behind it up to
the next line that closes it. -/
structure GroupText (lines : List (List Char)) where
  before : List (List Char)
  name : List Char
  members : List (List Char)
  after : List (List Char)
  lines_eq : lines = before ++ name :: members ++ after
  kind : LineKind.of name = .name
  members_open : ∀ line ∈ members, (LineKind.of line).closesGroups = false
  after_closes : ∀ line ∈ after.head?, (LineKind.of line).closesGroups = true

/-- The groups that a written group stands for if its lines say some constraints. -/
def GroupText.groups {lines : List (List Char)} (written : GroupText lines)
    (cs : List Constraint) : List Group :=
  Group.expand (waitingValues false [] written.before)
    ⟨String.ofList (groupPattern (trim written.name)), cs⟩

end ReadState

namespace Document

open ReadState

variable {tree : FileTree} {chain : List FileKey} {base : Option Path} {text : String}

end Document

end LayoutSpec
