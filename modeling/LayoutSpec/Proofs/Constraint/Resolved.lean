import LayoutSpec.Proofs.Constraint.Written
import LayoutSpec.Proofs.Document.Spelling
import LayoutSpec.Proofs.Path

/-!
The line of a constraint that was read in a folder, read in the same folder again. A component is
written with the path that it has as seen from the folder, and that path is taken for one in the
folder when it is read. So the two readings agree if there is no component, or if the folder adds
nothing to the path.
-/

namespace LayoutSpec

open Text

namespace Path

/-- The path as it is read in a line: without the blanks at its ends. -/
def trimmed (p : Path) : Path :=
  ⟨String.ofList (trim p.text.toList)⟩

/-- The path without the blanks in front of it. -/
def unindented (p : Path) : Path :=
  ⟨String.ofList (trimStart p.text.toList)⟩

/-- The folder itself, written as a dot. Blanks may stand in front of the dot, and slashes and other
dots behind it. -/
def IsHere (p : Path) : Prop :=
  p.unindented.text.toList.head? = some '.' ∧ ∀ piece ∈ p.unindented.pieces, isStep piece = false

instance (p : Path) : Decidable p.IsHere :=
  inferInstanceAs (Decidable (_ ∧ _))

variable {p base rel : Path}

theorem toList_unindented (p : Path) : p.unindented.text.toList = trimStart p.text.toList :=
  String.toList_ofList

theorem unindented_eq_self (h : ∀ c ∈ p.text.toList.head?, isBlank c = false) :
    p.unindented = p := by
  rw [unindented, trimStart_eq_self h, String.ofList_toList]

/-- A path that ends in a word is trimmed at its start alone. -/
theorem trimmed_eq (h : EndsInWord p.text.toList) : p.trimmed = p.unindented := by
  obtain ⟨last, hlast, hword⟩ := h
  obtain ⟨pad, -, htext⟩ := exists_trimStart p.text.toList
  have hend : trimEnd (trimStart p.text.toList) = trimStart p.text.toList := by
    apply trimEnd_eq_self
    intro c hc
    rw [htext, List.getLast?_append, Option.mem_def.mp hc, Option.some_or] at hlast
    exact Option.some.inj hlast ▸ hword
  rw [trimmed, trim, hend, unindented]

theorem endsInWord_join (hrel : EndsInWord rel.text.toList) :
    EndsInWord (base.join rel).text.toList := by
  rw [join]
  split
  · exact hrel
  · split
    · rw [String.toList_append]
      exact hrel.append _
    · rw [String.toList_append]
      exact hrel.append _

/-- A folder is `IsHere` if it takes no steps, unless it is the root or nothing but blanks. -/
theorem isHere_iff (hbase : p.unindented.text ≠ "") (hrelative : p.unindented.isAbsolute = false) :
    p.IsHere ↔ p.unindented.steps = [] := by
  rw [IsHere, steps, List.filter_eq_nil_iff]
  simp only [Bool.not_eq_true]
  refine ⟨fun h => h.2, fun hidle => ⟨?_, hidle⟩⟩
  obtain ⟨first, rest, hpieces⟩ := p.unindented.exists_pieces
  have hfirst : first ≠ [] := by
    rintro rfl
    rw [isAbsolute_eq hpieces hbase] at hrelative
    cases hrelative
  have hstep : isStep first = false := hidle first (hpieces ▸ List.mem_cons_self)
  -- A first piece that is no step is a dot, as it is not empty.
  obtain rfl : first = ['.'] := by simpa [isStep, hfirst] using hstep
  rw [← intercalate_pieces, hpieces, intercalate_cons_eq]
  rfl

/-- Behind a folder of blanks alone a path is read as an absolute one. -/
theorem isAbsolute_unindented_join (hbase : base.text ≠ "") (hrel : rel.isAbsolute = false)
    (hblank : base.unindented.text = "") : (base.join rel).unindented.isAbsolute = true := by
  obtain ⟨pad, hpad, htext⟩ := exists_trimStart base.text.toList
  rw [← toList_unindented, hblank, String.toList_empty, List.append_nil] at htext
  have hslash : base.text.toList.getLast? ≠ some '/' := by
    intro hlast
    rw [htext] at hlast
    have hslash := hpad '/' (List.mem_of_getLast? hlast)
    revert hslash
    decide
  obtain ⟨gap, hjoin, hgap⟩ := exists_text_join hrel hbase
  rw [if_neg hslash] at hgap
  have hstart : (base.join rel).unindented.text.toList = '/' :: rel.text.toList := by
    rw [toList_unindented, hjoin, htext, hgap, List.append_assoc, trimStart_append _ hpad]
    refine trimStart_eq_self fun c hc => ?_
    obtain rfl : '/' = c := Option.some.inj hc
    decide
  rw [isAbsolute, hstart]
  rfl

/-- If a folder is more than blanks, the path is read behind the folder, without the blanks in front
of that. The blanks that are lost are those at the start of the printed path, so they are the
folder's. -/
theorem unindented_join (hbase : base.unindented.text ≠ "") (hrel : rel.isAbsolute = false) :
    (base.join rel).unindented = base.unindented.join rel := by
  obtain ⟨pad, hpad, htext⟩ := exists_trimStart base.text.toList
  rw [← toList_unindented] at htext
  have hword : base.unindented.text.toList ≠ [] := mt String.toList_eq_nil_iff.mp hbase
  have hne : base.text ≠ "" := by
    intro hempty
    rw [hempty] at htext
    exact hword (List.append_eq_nil_iff.mp htext.symm).2
  obtain ⟨gap, hjoin, hgap⟩ := exists_text_join hrel hne
  obtain ⟨gap', hjoin', hgap'⟩ := exists_text_join hrel hbase
  have hlast : base.text.toList.getLast? = base.unindented.text.toList.getLast? := by
    rw [htext, List.getLast?_append, List.getLast?_eq_some_getLast hword, Option.some_or]
  have hhead : ∀ c ∈ (base.unindented.text.toList ++ (gap ++ rel.text.toList)).head?,
      isBlank c = false := by
    intro c hc
    obtain ⟨first, rest, htrimmed⟩ := List.exists_cons_of_ne_nil hword
    rw [htrimmed] at hc
    obtain rfl : first = c := Option.some.inj hc
    exact head?_trimStart first (by rw [← toList_unindented, htrimmed]; rfl)
  have hsame : (base.join rel).unindented.text.toList
      = (base.unindented.join rel).text.toList := by
    rw [toList_unindented, hjoin, hjoin', hgap', ← hlast, ← hgap, htext, List.append_assoc,
      List.append_assoc, trimStart_append _ hpad, trimStart_eq_self hhead, List.append_assoc]
  exact congrArg Path.mk (String.toList_inj.mp hsame)

/-- A path that was read in a folder is the same if it is read there again, exactly if the folder
adds nothing to it. -/
theorem join_again_iff (hrel : EndsInWord rel.text.toList)
    (hhead : ∀ c ∈ rel.text.toList.head?, isBlank c = false) :
    (base.join (base.join rel).trimmed).tidy = (base.join rel).tidy ↔
      (base.join rel).isAbsolute = true ∨ base.text = "" ∨ base.IsHere := by
  rw [trimmed_eq (endsInWord_join hrel)]
  by_cases habsolute : (base.join rel).isAbsolute = true
  · have hself : (base.join rel).unindented = base.join rel := by
      refine unindented_eq_self fun c hc => ?_
      obtain rfl : c = '/' := by simpa [isAbsolute, Option.mem_def.mp hc] using habsolute
      decide
    rw [hself, join_eq_of_isAbsolute habsolute]
    simp [habsolute]
  by_cases hbase : base.text = ""
  · obtain rfl : base = ⟨""⟩ := congrArg Path.mk hbase
    simp [join_empty, unindented_eq_self hhead]
  have hrelative : rel.isAbsolute = false := by
    by_contra hrel
    rw [Bool.not_eq_false] at hrel
    exact habsolute (by rwa [join_eq_of_isAbsolute hrel])
  have hbaseRelative : base.isAbsolute = false := by
    rw [← isAbsolute_join hrelative hbase]
    simpa using habsolute
  -- A printed path that is read as an absolute one is no path in the folder any more.
  have hlost : (base.join rel).unindented.isAbsolute = true →
      (base.join (base.join rel).unindented).tidy ≠ (base.join rel).tidy := by
    intro hprinted hsame
    have hkind := congrArg isAbsolute hsame
    rw [isAbsolute_tidy, isAbsolute_tidy, join_eq_of_isAbsolute hprinted, hprinted] at hkind
    exact habsolute hkind.symm
  simp only [habsolute, hbase, Bool.false_eq_true, false_or]
  by_cases hblank : base.unindented.text = ""
  · refine iff_of_false (hlost (isAbsolute_unindented_join hbase hrelative hblank)) fun hhere => ?_
    rw [IsHere, hblank] at hhere
    cases hhere.1
  cases hslash : base.unindented.isAbsolute with
  | true =>
      have hprinted : (base.join rel).unindented.isAbsolute = true := by
        rw [unindented_join hblank hrelative, isAbsolute_join hrelative hblank, hslash]
      refine iff_of_false (hlost hprinted) fun hhere => ?_
      rw [isAbsolute, hhere.1] at hslash
      simp at hslash
  | false =>
      have hprinted : (base.join rel).unindented.isAbsolute = false := by
        rw [unindented_join hblank hrelative, isAbsolute_join hrelative hblank, hslash]
      rw [tidy_join_eq_iff hbase hbaseRelative hprinted hrelative, isHere_iff hblank hslash,
        unindented_join hblank hrelative, steps_join hblank hrelative]
      exact List.append_left_eq_self

end Path

namespace Constraint

/-- The constraints that a reader states have no path in them. -/
def HasNoPath (reader : TokenReader Constraint) : Prop :=
  ∀ cs c rest, reader cs = .ok c rest → ∀ f, c.mapPaths f = c

theorem hasNoPath_pure {c : Constraint} (h : ∀ f, c.mapPaths f = c) :
    HasNoPath (pure c) := by
  intro cs d rest hd
  obtain ⟨rfl, -⟩ := EStateM.Result.ok.inj hd
  exact h

theorem HasNoPath.bind {α : Type} {reader : TokenReader α} {f : α → TokenReader Constraint}
    (h : ∀ a, HasNoPath (f a)) : HasNoPath (reader >>= f) := by
  intro cs c rest hread
  obtain ⟨a, mid, -, hread⟩ := TokenReader.of_bind_eq_ok hread
  exact h a mid c rest hread

theorem hasNoPath_map {f : PixelRange → Constraint} (h : ∀ r g, (f r).mapPaths g = f r) :
    HasNoPath (f <$> TokenReader.range) := by
  intro cs c rest hread
  rw [TokenReader.run_map] at hread
  cases hrange : TokenReader.range cs with
  | error cause mid => simp [hrange] at hread
  | ok r mid =>
      rw [hrange] at hread
      obtain ⟨rfl, -⟩ := EStateM.Result.ok.inj hread
      exact h r

theorem hasNoPath_readRelative (direction : Direction) :
    HasNoPath (readRelative direction) := by
  refine .bind fun object => .bind fun more => ?_
  split
  · exact .bind fun _ => hasNoPath_pure fun _ => rfl
  · exact hasNoPath_pure fun _ => rfl

theorem hasNoPath_readAligned (axis edge : String) : HasNoPath (readAligned axis edge) :=
  .bind fun _ => .bind fun _ => .bind fun _ => .bind fun _ => hasNoPath_pure fun _ => rfl

theorem hasNoPath_readCentered (axis relation : String) : HasNoPath (readCentered axis relation) :=
  .bind fun _ => .bind fun _ => .bind fun _ => .bind fun _ => hasNoPath_pure fun _ => rfl

theorem hasNoPath_readContains (partly : Bool) : HasNoPath (readContains partly) := by
  refine .bind fun rest => ?_
  dsimp only
  split
  · exact .bind fun _ => hasNoPath_pure fun _ => rfl
  · exact hasNoPath_pure fun _ => rfl

/-- Only `component` has a path to be read. The constraints of all other readers are the same in
every folder. -/
theorem hasNoPath_readerOf? {base : Option Path} {keywords : List String}
    {reader : TokenReader Constraint} (hkeywords : keywords ≠ ["component"])
    (h : readerOf? base keywords = some reader) : HasNoPath reader := by
  unfold readerOf? at h
  split at h
  all_goals cases h
  · exact hasNoPath_pure fun _ => rfl
  · exact hasNoPath_pure fun _ => rfl
  · exact hasNoPath_map fun _ _ => rfl
  · exact hasNoPath_map fun _ _ => rfl
  · exact .bind fun _ => .bind fun _ => hasNoPath_pure fun _ => rfl
  · exact .bind fun _ => .bind fun _ => hasNoPath_pure fun _ => rfl
  · refine .bind fun object => .bind fun locations => ?_
    split
    · exact .bind fun _ => hasNoPath_pure fun _ => rfl
    · exact hasNoPath_pure fun _ => rfl
  · exact hasNoPath_readRelative .above
  · exact hasNoPath_readRelative .below
  · exact hasNoPath_readRelative .leftOf
  · exact hasNoPath_readRelative .rightOf
  · exact hasNoPath_readAligned _ _
  · exact hasNoPath_readAligned _ _
  · exact hasNoPath_readCentered _ _
  · exact hasNoPath_readCentered _ _
  · exact hasNoPath_readContains false
  · exact hasNoPath_readContains true
  · refine .bind fun operation => .bind fun expected => ?_
    split
    · exact .bind fun _ => hasNoPath_pure fun _ => rfl
    · exact hasNoPath_pure fun _ => rfl
  · exact absurd rfl hkeywords

/-- In a folder a line says what it says anywhere, with the path of a component seen from there. So
one reading can be compared with another by comparing what the folders do to one path. -/
theorem parse_eq_map (base : Option Path) (line : List Char) :
    parse base line = (parse none line).map (mapPaths (.from? base)) := by
  simp only [parse]
  generalize (cutAt (· = ':') (trim line)).getD (trim line, []) = parts
  obtain ⟨head, parameters⟩ := parts
  simp only
  by_cases hwords : (words head).map String.ofList = ["component"]
  · rw [hwords]
    have hreader : ∀ base : Option Path,
        readerOf? base ["component"] = some (readComponent base) := fun _ => rfl
    simp only [hreader, readComponent, TokenReader.run_bind, TokenReader.takeRest]
    cases (trim parameters).isEmpty with
    | true => rfl
    | false => rfl
  · rw [readerOf?_eq base none hwords]
    cases hreader : readerOf? none ((words head).map String.ofList) with
    | none => rfl
    | some reader =>
        have hpath := hasNoPath_readerOf? hwords hreader
        cases hread : reader parameters with
        | error cause rest => simp only [hread]; rfl
        | ok c rest =>
            have hself := hpath _ c rest hread (.from? base)
            simp only [hread]
            split
            · exact congrArg Except.ok hself.symm
            · rfl

/-- The path of a component is all that stands behind the colon. Blanks at its start are lost, and
those within it are kept. -/
theorem parse_component {p : Path} (h : EndsInWord p.text.toList) :
    parse none (component p).chars = .ok (component p.trimmed) := by
  have htrim : trim (component p).chars = (component p).chars := by
    refine (h.append "component: ".toList).trim_eq_self fun c hc => ?_
    obtain rfl : 'c' = c := Option.some.inj hc
    decide
  have hcut : cutAt (fun d => decide (d = ':')) (component p).chars
      = some ("component".toList, ' ' :: p.text.toList) :=
    cutAt_append (x := "component".toList) _ (by simp) (by decide)
  have hwords : (words "component".toList).map String.ofList = ["component"] := by decide
  have hpath : trim (' ' :: p.text.toList) = trim p.text.toList := trim_blank_cons _ (by decide)
  have hne : (trim p.text.toList).isEmpty = false := by
    obtain ⟨last, hlast, hword⟩ := h
    obtain ⟨before, after, hbefore, hafter, htext⟩ := exists_trim p.text.toList
    cases htrimmed : trim p.text.toList with
    | cons c cs => rfl
    | nil =>
        -- A text of blanks alone does not end in a word.
        rw [htext, htrimmed, List.append_nil] at hlast
        have hblank : isBlank last = true := by
          rcases List.mem_append.mp (List.mem_of_getLast? hlast) with hmem | hmem
          · exact hbefore last hmem
          · exact hafter last hmem
        rw [hword] at hblank
        cases hblank
  simp only [parse, htrim, hcut, Option.getD_some, hwords, readerOf?, readComponent,
    TokenReader.run_bind, TokenReader.takeRest, hpath, hne]
  rfl

/-- What is read in a folder can be printed and read there again. The two readings say the same if
they are not about a component, or if the folder adds nothing to the path that was printed. -/
theorem parse_again {base : Path} {line : List Char} {c : Constraint}
    (h : parse (some base) line = .ok c) :
    ∃ again, parse (some base) c.line.toList = .ok again ∧
      (again.SameAs c ↔ ∀ spec, c = .component spec →
        spec.isAbsolute = true ∨ base.text = "" ∨ base.IsHere) := by
  have hline : c.line.toList = c.chars := String.toList_ofList
  rw [hline, parse_eq_map]
  rw [parse_eq_map] at h
  cases hread : parse none line with
  | error cause => simp [hread, Except.map] at h
  | ok written =>
      rw [hread] at h
      obtain rfl := Except.ok.inj h
      obtain ⟨hformed, -⟩ := of_parse_eq_ok hread
      by_cases hcomponent : ∃ rel, written = component rel
      · obtain ⟨rel, rfl⟩ := hcomponent
        obtain ⟨htrim, hne⟩ := hformed
        have hword : EndsInWord rel.text.toList := .of_trim htrim hne
        have hjoin := @Path.endsInWord_join base rel hword
        change ∃ again, (parse none (component (base.join rel)).chars).map _ = _ ∧ _
        rw [parse_component hjoin]
        refine ⟨_, rfl, ?_⟩
        have hagain := @Path.join_again_iff base rel hword (trim_eq_self_iff.mp htrim).1
        simp only [SameAs, mapPaths, Path.from?, component.injEq]
        rw [hagain]
        exact ⟨fun h spec hspec => hspec ▸ h, fun h => h _ rfl⟩
      · have hself : written.mapPaths (.from? (some base)) = written :=
          Constraint.mapPaths_eq_self fun rel hrel => hcomponent ⟨rel, hrel⟩
        rw [hself, parse_chars hformed]
        refine ⟨written, congrArg Except.ok hself, fun _ => ?_, fun _ => rfl⟩
        exact fun spec hspec => absurd ⟨spec, hspec⟩ hcomponent

def menuLine : List Char :=
  "component: menu.spec".toList

theorem parse_menuLine (base : Path) :
    parse (some base) menuLine = .ok (component (base.join ⟨"menu.spec"⟩)) := by
  have hformed : (component ⟨"menu.spec"⟩).WellFormed := by decide
  rw [parse_eq_map]
  exact congrArg (Except.map _) (parse_chars hformed)

/-- In the folder itself the path gets a second dot, which says nothing. -/
theorem parse_again_hereFolder :
    parse (some ⟨"."⟩) menuLine = .ok (component ⟨"./menu.spec"⟩) ∧
      ∃ again, parse (some ⟨"."⟩) "component: ./menu.spec".toList = .ok again ∧
        again.SameAs (component ⟨"./menu.spec"⟩) := by
  have hread : parse (some ⟨"."⟩) menuLine = .ok (component ⟨"./menu.spec"⟩) :=
    parse_menuLine ⟨"."⟩
  obtain ⟨again, hagain, hsame⟩ := parse_again hread
  have hhere : Path.IsHere ⟨"."⟩ := by decide
  exact ⟨hread, again, hagain, hsame.mpr fun _ _ => .inr (.inr hhere)⟩

/-- In any other folder that is given by its name, the path that was printed is taken for one in
that folder. -/
theorem parse_again_ne_specsFolder :
    parse (some ⟨"specs"⟩) menuLine = .ok (component ⟨"specs/menu.spec"⟩) ∧
      parse (some ⟨"specs"⟩) (component ⟨"specs/menu.spec"⟩).line.toList
        = .ok (component ⟨"specs/specs/menu.spec"⟩) ∧
      ¬ (component ⟨"specs/specs/menu.spec"⟩).SameAs (component ⟨"specs/menu.spec"⟩) := by
  have hformed : (component ⟨"specs/menu.spec"⟩).WellFormed := by decide
  refine ⟨parse_menuLine ⟨"specs"⟩, ?_, by decide⟩
  rw [parse_eq_map, line, String.toList_ofList]
  exact congrArg (Except.map _) (parse_chars hformed)

end Constraint

end LayoutSpec
