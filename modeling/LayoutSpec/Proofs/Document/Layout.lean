import LayoutSpec.Proofs.Document.ErrorPlace
import LayoutSpec.Proofs.Text.Layout

/-!
Reading does not look at the layout of a text. A line is read as it is without the blanks behind it,
and lines that say nothing are passed over in every state, so the two readings of a text in two
layouts go through the same states; what differs is the number of the line at which they stop.
-/

namespace LayoutSpec

open Text

theorem BlockKeyword.ofLine?_append_right {raw pad : List Char} (hraw : raw ≠ [])
    (h : ∀ c ∈ pad, isBlank c = true) : ofLine? (raw ++ pad) = ofLine? raw := by
  rw [ofLine?, ofLine?, words_append_right raw h, List.head?_append_of_ne_nil raw hraw]

theorem LineKind.of_append_right {pad : List Char} (raw : List Char)
    (h : ∀ c ∈ pad, isBlank c = true) : of (raw ++ pad) = of raw := by
  by_cases hraw : raw = []
  · have hnil : trim ([] ++ pad) = [] := trim_append_right [] h
    rw [hraw, of, hnil]
    rfl
  · rw [of, of, trim_append_right raw h, BlockKeyword.ofLine?_append_right hraw h,
      List.head?_append_of_ne_nil raw hraw]

theorem LineKind.of_saysNothing {raw : List Char} (h : SaysNothing raw) : of raw = .idle := by
  obtain ⟨pad, -, hstart⟩ := exists_trimEnd (trimStart raw)
  cases hline : trim raw with
  | nil => simp only [of, hline]
  | cons c rest =>
      obtain rfl : c = '#' := by
        apply h
        rw [hstart, show trimEnd (trimStart raw) = c :: rest from hline]
        rfl
      simp only [of, hline]

namespace ReadState

variable {context : ReadContext} {number : Nat} {s t : ReadState} {lines : List (List Char)}
  {e : SyntaxError}

theorem step_append_right {pad : List Char} (raw : List Char) (h : ∀ c ∈ pad, isBlank c = true) :
    s.step context number (raw ++ pad) = s.step context number raw := by
  simp only [step, LineKind.of_append_right raw h, trim_append_right raw h]

theorem step_of_trimEnd_eq {raw other : List Char} (h : trimEnd raw = trimEnd other) :
    s.step context number raw = s.step context number other := by
  obtain ⟨pad, hpad, hraw⟩ := exists_trimEnd raw
  obtain ⟨otherPad, hother, hsplit⟩ := exists_trimEnd other
  rw [hraw, step_append_right _ hpad, h, ← step_append_right _ hother, ← hsplit]

/-- The reader stops at the line with this many lines in front of it. Its error may have been found
under another number of the line. -/
inductive Stops (context : ReadContext) (e : SyntaxError) :
    ReadState → List (List Char) → Nat → Prop where
  | here {number : Nat} {s : ReadState} {raw : List Char} {rest : List (List Char)} :
    s.step context number raw = .error e → Stops context e s (raw :: rest) 0
  | later {number : Nat} {s t : ReadState} {raw : List Char} {rest : List (List Char)}
    {count : Nat} : s.step context number raw = .ok t → Stops context e t rest count →
    Stops context e s (raw :: rest) (count + 1)

theorem Stops.run_eq {count : Nat} (h : Stops context e s lines count) (number : Nat) :
    s.run context number lines = .error (e.renumber (number + count)) := by
  induction h generalizing number with
  | here hstep =>
      rw [run, step_eq_error hstep]
      rfl
  | later hstep _ ih =>
      rw [run, step_eq_ok hstep]
      dsimp only
      rw [ih]
      congr 2
      omega

theorem exists_stops (h : ∀ t, ¬ Reads context lines s t) :
    ∃ e count, Stops context e s lines count := by
  induction lines generalizing s with
  | nil => exact absurd (.nil s) (h s)
  | cons raw rest ih =>
      cases hstep : s.step context 0 raw with
      | error e => exact ⟨e, 0, .here hstep⟩
      | ok next =>
          obtain ⟨e, count, hstops⟩ := ih fun t hrest => h t (.cons hstep hrest)
          exact ⟨e, count + 1, .later hstep hstops⟩

theorem step_of_saysNothing {raw : List Char} (h : SaysNothing raw) :
    s.step context number raw = .ok s := by
  simp only [step, LineKind.of_saysNothing h]

variable {origins : List LineOrigin} {old new : List Char}

/-- The lines of a text in another layout lead to the same states. An inserted line says nothing and
changes none; a kept line is trimmed behind, and its end of line is taken off before it is read. -/
theorem reads_of_relaid (h : Relaid origins old new) (hreads : Reads context (Text.lines old) s t) :
    Reads context (Text.lines new) s t := by
  induction h generalizing s with
  | nil => exact hreads
  | keep hold hnew hfeed hpad _ ih =>
      obtain ⟨raw, hlines, hraw⟩ :=
        hold.exists_lines fun hmem => hfeed (List.mem_append_left _ hmem)
      obtain ⟨raw', hlines', hraw'⟩ := hnew.exists_lines hfeed
      rw [hlines] at hreads
      rw [hlines']
      cases hreads with
      | cons hstep hrest =>
          rw [trimEnd_append_right _ hpad] at hraw'
          exact .cons ((step_of_trimEnd_eq (hraw'.trans hraw.symm)).trans hstep) (ih hrest)
  | insert hnew hfeed hnothing _ ih =>
      obtain ⟨raw, hlines, hraw⟩ := hnew.exists_lines hfeed
      rw [hlines]
      have hstep : s.step context 0 raw = .ok s :=
        (step_of_trimEnd_eq hraw).trans (step_of_saysNothing hnothing)
      exact .cons hstep (ih hreads)

/-- The reader stops at the same line, which has the lines that are inserted in front of it, too.
Nothing is said about lines behind it, which are not read. -/
theorem stops_of_relaid {count : Nat} (h : Relaid origins old new)
    (hstops : Stops context e s (Text.lines old) count) :
    Stops context e s (Text.lines new) (count + insertedBefore origins (count + 1)) := by
  induction h generalizing s count with
  | nil => cases hstops
  | @keep origins _ _ _ _ _ _ hold hnew hfeed hpad _ ih =>
      obtain ⟨raw, hlines, hraw⟩ :=
        hold.exists_lines fun hmem => hfeed (List.mem_append_left _ hmem)
      obtain ⟨raw', hlines', hraw'⟩ := hnew.exists_lines hfeed
      rw [trimEnd_append_right _ hpad] at hraw'
      have hsame (number : Nat) : s.step context number raw' = s.step context number raw :=
        step_of_trimEnd_eq (hraw'.trans hraw.symm)
      rw [hlines] at hstops
      rw [hlines']
      cases hstops with
      | here hstep => exact .here ((hsame _).trans hstep)
      | @later _ _ _ _ _ count hstep hrest =>
          have hcount : count + 1 + insertedBefore (.kept :: origins) (count + 1 + 1)
              = count + insertedBefore origins (count + 1) + 1 := by
            rw [insertedBefore]
            omega
          rw [hcount]
          exact .later ((hsame _).trans hstep) (ih hrest)
  | @insert origins _ _ _ _ hnew hfeed hnothing _ ih =>
      obtain ⟨raw, hlines, hraw⟩ := hnew.exists_lines hfeed
      rw [hlines, insertedBefore, ← Nat.add_assoc]
      have hstep : s.step context 0 raw = .ok s :=
        (step_of_trimEnd_eq hraw).trans (step_of_saysNothing hnothing)
      exact .later hstep (ih hstops)

theorem length_lines_of_relaid (h : Relaid origins old new) :
    (Text.lines new).length = (Text.lines old).length + origins.count .inserted := by
  induction h with
  | nil => rfl
  | keep hold hnew hfeed hpad _ ih =>
      obtain ⟨raw, hlines, -⟩ := hold.exists_lines fun hmem => hfeed (List.mem_append_left _ hmem)
      obtain ⟨raw', hlines', -⟩ := hnew.exists_lines hfeed
      rw [hlines, hlines', List.length_cons, List.length_cons, ih,
        List.count_cons_of_ne (by decide)]
      omega
  | insert hnew hfeed hnothing _ ih =>
      obtain ⟨raw, hlines, -⟩ := hnew.exists_lines hfeed
      rw [hlines, List.length_cons, ih, List.count_cons_self, Nat.add_assoc]

end ReadState

namespace Document

open ReadState

variable {tree : FileTree} {chain : List FileKey} {base : Option Path} {path : Path}
  {s : ReadState} {raw : List Char} {e : SyntaxError} {text : String}

/-- All lines of the text are read, and what is wrong with it is found at its end. -/
def IsReadThrough (tree : FileTree) (base : Option Path) (text : String) : Prop :=
  ∃ s, Reads ⟨base, importWithin tree []⟩ (Text.lines text.toList) .initial s

theorem ofText_of_reads
    (h : Reads ⟨base, importWithin tree []⟩ (Text.lines text.toList) .initial s) :
    ofText tree base text = s.finish (Text.lines text.toList).length := by
  rw [ofText, readWithin_eq, ofLines, reads_iff_run.mp h]

theorem ofText_of_stops {count : Nat}
    (h : Stops ⟨base, importWithin tree []⟩ e .initial (Text.lines text.toList) count) :
    ofText tree base text = .error (e.renumber (count + 1)) := by
  rw [ofText, readWithin_eq, ofLines, h.run_eq, Nat.add_comm]

/-- A text in another layout is read as the same document, or with the same error. An error that is
found at the end of the text stands behind all lines that are inserted, another one of the text
behind those that are inserted in front of its line, and one that is found in an imported file stays
there. -/
theorem ofText_relaid {origins : List LineOrigin} {old new : String} (tree : FileTree)
    (base : Option Path) (h : Relaid origins old.toList new.toList) :
    (∀ d, ofText tree base old = .ok d → ofText tree base new = .ok d) ∧
      ∀ e, ofText tree base old = .error e →
        (e.file.isSome = true → ofText tree base new = .error e) ∧
        (e.file = none → IsReadThrough tree base old →
          ofText tree base new = .error { e with line := e.line + origins.count .inserted }) ∧
        (e.file = none → ¬ IsReadThrough tree base old →
          ofText tree base new
            = .error { e with line := e.line + insertedBefore origins e.line }) := by
  by_cases hthrough : IsReadThrough tree base old
  · obtain ⟨s, hreads⟩ := hthrough
    rw [ofText_of_reads hreads, ofText_of_reads (reads_of_relaid h hreads),
      length_lines_of_relaid h]
    refine ⟨fun d hd => s.finish_sameUpToLine.eq_ok hd _, fun e he => ?_⟩
    have hmoved := s.finish_sameUpToLine.eq_error he
      ((Text.lines old.toList).length + origins.count .inserted)
    have hfound := finish_eq_error he
    refine ⟨fun hfile => ?_, fun _ _ => ?_, fun _ hnot => absurd ⟨s, hreads⟩ hnot⟩
    · obtain rfl | rfl := hfound
      all_goals cases hfile
    · obtain rfl | rfl := hfound
      all_goals exact hmoved
  · obtain ⟨found, count, hstops⟩ := exists_stops fun s hreads => hthrough ⟨s, hreads⟩
    rw [ofText_of_stops hstops, ofText_of_stops (stops_of_relaid h hstops)]
    refine ⟨fun d hd => (nomatch hd), fun e he => ?_⟩
    obtain rfl := Except.error.inj he
    cases hfile : found.file with
    | none =>
        have hmoved : ∀ line, found.renumber line = { found with line } := fun line =>
          if_pos (by rw [hfile]; rfl)
        rw [hmoved, hmoved]
        refine ⟨fun hsome => ?_, fun _ hread => absurd hread hthrough, fun _ _ => ?_⟩
        · rw [show ({ found with line := count + 1 } : SyntaxError).file = none from hfile] at hsome
          cases hsome
        · rw [Nat.add_right_comm]
    | some file =>
        have hkept : ∀ line, found.renumber line = found := fun line =>
          if_neg (by rw [hfile]; simp)
        rw [hkept, hkept]
        refine ⟨fun _ => rfl, fun hnone _ => ?_, fun hnone _ => ?_⟩
        all_goals
          rw [hnone] at hfile
          cases hfile

/-- A constraint that nobody knows, and the same with comments, blanks and other ends of lines. -/
def brokenText : String :=
  "menu\n    glows"

def brokenLayout : String :=
  "# page\r\nmenu \t\r\n  \n    glows \n#"

theorem relaid_brokenText :
    Relaid [.inserted, .kept, .inserted, .kept, .inserted] brokenText.toList
      brokenLayout.toList := by
  have hcomment : Relaid [.inserted] [] "#".toList :=
    .insert (.last (by decide)) (by decide) (by decide) .nil
  have hglows : FirstLine ("    glows".toList ++ [' ']) "#".toList "    glows \n#".toList := .feed _
  have hconstraint : Relaid [.kept, .inserted] "    glows".toList "    glows \n#".toList :=
    .keep (.last (by decide)) hglows (by decide) (List.all_eq_true.mp (by decide)) hcomment
  have hspaces : FirstLine "  ".toList "    glows \n#".toList "  \n    glows \n#".toList := .feed _
  have hblank : Relaid [.inserted, .kept, .inserted] "    glows".toList
      "  \n    glows \n#".toList :=
    .insert hspaces (by decide) (by decide) hconstraint
  have hold : FirstLine "menu".toList "    glows".toList brokenText.toList := .feed _
  have hnew : FirstLine ("menu".toList ++ [' ', '\t']) "  \n    glows \n#".toList
      "menu \t\r\n  \n    glows \n#".toList := .returnFeed _
  have hmenu : Relaid [.kept, .inserted, .kept, .inserted] brokenText.toList
      "menu \t\r\n  \n    glows \n#".toList :=
    .keep hold hnew (by decide) (List.all_eq_true.mp (by decide)) hblank
  have hpage :
      FirstLine "# page".toList "menu \t\r\n  \n    glows \n#".toList brokenLayout.toList :=
    .returnFeed _
  exact .insert hpage (by decide) (by decide) hmenu

theorem relaid_if : Relaid [.inserted, .kept, .inserted] "if".toList "\nif\r\n\t\n".toList := by
  have htab : FirstLine ['\t'] [] "\t\n".toList := .feed _
  have hblank : Relaid [.inserted] [] "\t\n".toList :=
    .insert htab (by decide) (by decide) .nil
  have hnew : FirstLine ("if".toList ++ []) "\t\n".toList "if\r\n\t\n".toList := .returnFeed _
  have hif : Relaid [.kept, .inserted] "if".toList "if\r\n\t\n".toList :=
    .keep (.last (by decide)) hnew (by decide) (List.all_eq_true.mp (by decide)) hblank
  have hempty : FirstLine [] "if\r\n\t\n".toList "\nif\r\n\t\n".toList := .feed _
  exact .insert hempty (by decide) (by decide) hif

def openState : ReadState :=
  { ReadState.initial with mode := .statement, block := some { statements := [{}] } }

theorem ofText_relaid_brokenText :
    (ofText {} none brokenText = .error ⟨.unknownConstraint "glows", 2, none, none⟩ ∧
      ofText {} none brokenLayout = .error ⟨.unknownConstraint "glows", 4, none, none⟩) ∧
    ofText {} none "if" = .error ⟨.unclosedConditional, 1, none, none⟩ ∧
      ofText {} none "\nif\r\n\t\n" = .error ⟨.unclosedConditional, 3, none, none⟩ := by
  have hbroken :
      ofText {} none brokenText = .error ⟨.unknownConstraint "glows", 2, none, none⟩ := by
    rw [ofText, readWithin_eq]
    decide +kernel
  have hstops : ¬ IsReadThrough {} none brokenText := by
    rintro ⟨s, hreads⟩
    rw [ofText_of_reads hreads] at hbroken
    obtain hcause | hcause := finish_eq_error hbroken
    all_goals cases hcause
  have hif : ofText {} none "if" = .error ⟨.unclosedConditional, 1, none, none⟩ := by
    rw [ofText, readWithin_eq]
    decide +kernel
  have hthrough : IsReadThrough {} none "if" :=
    ⟨openState, reads_iff_run.mpr (by decide +kernel : ReadState.run _ 1 _ _ = .ok openState)⟩
  obtain ⟨-, hline⟩ := ofText_relaid {} none relaid_brokenText
  obtain ⟨-, hend⟩ := ofText_relaid {} none relaid_if
  exact ⟨⟨hbroken, (hline _ hbroken).2.2 rfl hstops⟩, hif, (hend _ hif).2.1 rfl hthrough⟩

end Document

end LayoutSpec
