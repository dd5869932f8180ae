import LayoutSpec.Proofs.Regex.Extension

/-!
Patterns read inside a group. A pattern that is well formed is read as the same expression behind
the start of a group, and the group is closed behind it, unless the pattern ends in a comment.
-/

namespace LayoutSpec.Regex

open Text PatternReader

namespace FollowedAt

variable {α β : Type} {pattern : List Char} {s : ReadState}

theorem keepsAt_atom (a : Atom) : KeepsAt pattern s (atom a) := by
  cases a with
  | literal c byte =>
    exact flags_bind (guard_bind fun _ => (keepsAt_fold _).bind fun _ _ _ => ofPure _)
  | set set => exact ofPure _
  | look kind => exact ofPure _

theorem keepsAt_dot : KeepsAt pattern s dot :=
  flags_bind (guard_bind fun _ => ofPure _)

theorem keepsAt_single : KeepsAt pattern s single := by
  refine peek_bind fun c tail hrest => ?_
  split
  case h_1 => exact (keepsAt_escape hrest).bind fun a _ _ => keepsAt_atom a
  case h_2 => exact bump_bind hrest keepsAt_dot
  case h_3 => exact bump_bind hrest (flags_bind (ofPure _))
  case h_4 => exact bump_bind hrest (flags_bind (ofPure _))
  case h_5 => exact bump_bind hrest (keepsAt_atom _)

/-- What does not hold a closing parenthesis does not start in the end of a group. So the words at
the start of a group are found or not found as they are without it. -/
theorem stripStart?_append_closing {start : List Char} (hstart : ')' ∉ start) (text : List Char) :
    stripStart? start (text ++ closing) = (stripStart? start text).map (· ++ closing) := by
  by_cases h : start <+: text
  · obtain ⟨tail, rfl⟩ := h
    rw [List.append_assoc, TokenReader.stripStart?_append, TokenReader.stripStart?_append]
    rfl
  · have hmore : ¬ start <+: text ++ closing := by
      intro hprefix
      rcases List.prefix_or_prefix_of_prefix hprefix (List.prefix_append text closing) with
        hshort | ⟨more, rfl⟩
      · exact h hshort
      · cases more with
        | nil => exact h ⟨[], by simp⟩
        | cons c more =>
            obtain ⟨rfl, -⟩ :=
              List.cons_prefix_cons.mp ((List.prefix_append_right_inj text).mp hprefix)
            exact hstart (by simp)
    rw [stripStart?, stripStart?, if_neg (mt List.isPrefixOf_iff_prefix.mp hmore),
      if_neg (mt List.isPrefixOf_iff_prefix.mp h)]
    rfl

theorem of_within {reader same closed : PatternReader α}
    (h : s.Within pattern → FollowedAt pattern s reader same closed) :
    FollowedAt pattern s reader same closed :=
  fun hs => h hs hs

theorem modify_bind {f g : ReadState → ReadState} {next same closed : Unit → PatternReader α}
    (hsuffix : (f s).rest <:+ s.rest) (hverbose : (f s).flags.verbose = true → 'x' ∈ pattern)
    (hclosed : g s.closed = (f s).closed)
    (h : FollowedAt pattern (f s) (next ()) (same ()) (closed ())) :
    FollowedAt pattern s (modify f >>= next) (modify f >>= same) (modify g >>= closed) := by
  intro hs a after ha
  have hrepeats := h ⟨hsuffix.trans hs.suffix, hverbose⟩ a after ha
  refine ⟨hrepeats.same, hrepeats.suffix.trans hsuffix, hrepeats.verbose, ?_⟩
  have hclosedRun : (modify g >>= closed).run s.closed = (closed ()).run (g s.closed) := rfl
  rw [hclosedRun, hclosed]
  exact hrepeats.closed

/-- A group goes on behind its name. -/
def startNamed (found : List Char × List Char) : PatternReader (Option Unit) := do
  guard !(← get).names.contains found.1
  modify fun s => { s with rest := found.2, names := found.1 :: s.names }
  return some ()

/-- A group goes on behind its flags, or there is none. -/
def startFlagged (found : Flags × Bool × List Char) : PatternReader (Option Unit) :=
  match found.2.2 with
  | ')' :: behind => do
    guard !found.2.1
    modify fun s => { s with rest := behind, flags := found.1 }
    return none
  | _ => do
    modify fun s => { s with rest := found.2.2.tail, flags := found.1 }
    return some ()

theorem followedAt_startNamed {text : List Char} (htext : text <:+ s.rest) :
    FollowedAt pattern s (do startNamed (← groupName? text)) (do startNamed (← groupName? text))
      (do startNamed (← groupName? (text ++ closing))) := by
  refine of_within fun hs => option_bind_closed ?_
  rintro ⟨name, behind⟩ hname
  obtain ⟨hsuffix, happend⟩ := groupName?_append hname
  refine ⟨_, happend closing, ?_⟩
  have hstart : FollowedAt pattern s
      (do
        guard !s.names.contains name
        modify fun s => { s with rest := behind, names := name :: s.names }
        return some ())
      (do
        guard !s.names.contains name
        modify fun s => { s with rest := behind, names := name :: s.names }
        return some ())
      (do
        guard !s.names.contains name
        modify fun s => { s with rest := behind ++ closing, names := name :: s.names }
        return some ()) :=
    guard_bind fun _ => modify_bind (hsuffix.trans htext) hs.verbose rfl (ofPure _)
  exact hstart

theorem followedAt_startFlagged {text : List Char} (hrest : s.rest = '?' :: text) :
    FollowedAt pattern s (do startFlagged (← flags? false false [] (← flags) text))
      (do startFlagged (← flags? false false [] (← flags) text))
      (do startFlagged (← flags? false false [] (← flags) (text ++ closing))) := by
  refine of_within fun hs => flags_bind (option_bind_closed ?_)
  rintro ⟨changed, unchanged, behind⟩ hchanged
  obtain ⟨⟨hsuffix, hne⟩, hverbose, happend⟩ := flags?_append hchanged
  refine ⟨_, happend closing, ?_⟩
  obtain ⟨c, tail, rfl⟩ := List.exists_cons_of_ne_nil hne
  have htail : tail <:+ s.rest := by
    rw [hrest]
    exact (List.suffix_cons c tail).trans (hsuffix.trans (List.suffix_cons '?' text))
  have hx : changed.verbose = true → 'x' ∈ pattern := by
    intro hchanged
    rcases hverbose hchanged with hf | hmem
    · exact hs.verbose hf
    · exact hs.suffix.subset (hrest ▸ List.mem_cons_of_mem '?' hmem)
  rw [List.cons_append, startFlagged, startFlagged]
  by_cases hc : c = ')'
  · subst hc
    exact guard_bind fun _ => modify_bind htail hx rfl (ofPure _)
  · have hplain : ∀ behind more, c :: behind = ')' :: more → False :=
      fun _ _ h => hc (List.cons.inj h).1
    have hopen := hplain tail
    have hclosed := hplain (tail ++ closing)
    simp only
    exact modify_bind htail hx rfl (ofPure _)

/-- The start of a group is read as it is: its name, its flags, or nothing but the parenthesis. -/
theorem keepsAt_groupStart : KeepsAt pattern s groupStart := by
  refine keepsAt_skip.bind fun _ s₁ _ => rest_bind ?_
  have hlooks : (["?=", "?!", "?<=", "?<!"].all fun look =>
        (stripStart? look.toList (s₁.rest ++ closing)).isNone)
      = ["?=", "?!", "?<=", "?<!"].all fun look => (stripStart? look.toList s₁.rest).isNone := by
    simp [stripStart?_append_closing]
  have hnames : (stripStart? "?P<".toList (s₁.rest ++ closing)
        <|> stripStart? "?<".toList (s₁.rest ++ closing))
      = (stripStart? "?P<".toList s₁.rest <|> stripStart? "?<".toList s₁.rest).map
        (· ++ closing) := by
    rw [stripStart?_append_closing (by decide), stripStart?_append_closing (by decide)]
    cases stripStart? "?P<".toList s₁.rest <;> rfl
  rw [hlooks, hnames]
  refine guard_bind fun _ => ?_
  cases hname : (stripStart? "?P<".toList s₁.rest <|> stripStart? "?<".toList s₁.rest) with
  | some text =>
      refine followedAt_startNamed ?_
      cases hfirst : stripStart? "?P<".toList s₁.rest with
      | some start =>
          rw [hfirst] at hname
          obtain rfl := Option.some.inj hname
          exact ⟨_, (TokenReader.eq_append_of_stripStart? hfirst).symm⟩
      | none =>
          rw [hfirst] at hname
          exact ⟨_, (TokenReader.eq_append_of_stripStart? hname).symm⟩
  | none =>
      dsimp only [Option.map_none]
      split
      case h_1 text hrest =>
        rw [hrest, List.cons_append]
        exact followedAt_startFlagged hrest
      case h_2 hplain =>
        have hclosed := append_closing_ne_cons (by decide) hplain
        simp only
        exact ofPure _

theorem repeated_bind {items : List Item} {least : Nat} {most : Option Nat}
    {next same closed : List Item → PatternReader α}
    (h : ∀ items, FollowedAt pattern s (next items) (same items) (closed items)) :
    FollowedAt pattern s (repeated items least most >>= next) (repeated items least most >>= same)
      (repeated items least most >>= closed) := by
  unfold repeated
  split
  case h_1 => exact h _
  case h_2 =>
    intro _ a after ha
    cases ha

theorem head?_append_closing_iff {c : Char} (hc : c ≠ ')') (text : List Char) :
    (text ++ closing).head? = some c ↔ text.head? = some c := by
  cases text with
  | nil => simpa [closing] using hc.symm
  | cons d text => rfl

theorem keepsAt_skipPreference : KeepsAt pattern s skipPreference := by
  refine rest_bind ?_
  have hclosed := head?_append_closing_iff (by decide : '?' ≠ ')') s.rest
  by_cases hmark : s.rest.head? = some '?'
  · obtain ⟨tail, hrest⟩ := List.head?_eq_some_iff.mp hmark
    rw [if_pos hmark, if_pos (hclosed.mpr hmark)]
    exact keepsAt_bump hrest
  · rw [if_neg hmark, if_neg (mt hclosed.mp hmark)]
    exact ofPure ()

/-- A group from its opening parenthesis on, and the branch behind it. -/
def groupThen (branches : PatternReader Piece) (branch : List Item → PatternReader Piece)
    (items : List Item) : PatternReader Piece := do
  let outer ← flags
  bump
  match ← groupStart with
  | none => branch (none :: items)
  | some () =>
    let inner ← branches
    guard ((← rest).head? = some ')')
    modify fun s => { s with flags := outer }
    bump
    branch (some ⟨inner.regex, inner.depth + 1⟩ :: items)

/-- A repetition from its sign on, and the branch behind it. -/
def repeatedThen (branch : List Item → PatternReader Piece) (items : List Item) (least : Nat)
    (most : Option Nat) : PatternReader Piece := do
  let items ← repeated items least most
  bump
  skipPreference
  branch items

structure BranchesFollowed (pattern : List Char) (n m : Nat) : Prop where
  branches : ∀ s, FollowedAt pattern s (PatternReader.branches n) (PatternReader.branches m)
    (PatternReader.branches m)
  others : ∀ s, FollowedAt pattern s (otherBranches n) (otherBranches m) (otherBranches m)
  branch : ∀ s items, FollowedAt pattern s (PatternReader.branch n items)
    (PatternReader.branch m items) (PatternReader.branch m items)

namespace BranchesFollowed

variable {n m : Nat}

theorem branches_succ (h : BranchesFollowed pattern n m) (s : ReadState) :
    FollowedAt pattern s (PatternReader.branches (n + 1)) (PatternReader.branches (m + 1))
      (PatternReader.branches (m + 1)) := by
  rw [PatternReader.branches, PatternReader.branches]
  refine (h.branch s []).bind fun first s₁ _ => rest_bind ?_
  have hclosed := head?_append_closing_iff (by decide : '|' ≠ ')') s₁.rest
  by_cases hbar : s₁.rest.head? = some '|'
  · rw [if_pos hbar, if_pos hbar, if_pos (hclosed.mpr hbar)]
    exact (h.others s₁).bind fun _ _ _ => ofPure _
  · rw [if_neg hbar, if_neg hbar, if_neg (mt hclosed.mp hbar)]
    exact ofPure first

theorem others_succ (h : BranchesFollowed pattern n m) (s : ReadState) :
    FollowedAt pattern s (otherBranches (n + 1)) (otherBranches (m + 1))
      (otherBranches (m + 1)) := by
  rw [otherBranches, otherBranches]
  refine rest_bind ?_
  have hclosed := head?_append_closing_iff (by decide : '|' ≠ ')') s.rest
  by_cases hbar : s.rest.head? = some '|'
  · obtain ⟨tail, hrest⟩ := List.head?_eq_some_iff.mp hbar
    rw [if_pos hbar, if_pos hbar, if_pos (hclosed.mpr hbar)]
    refine bump_bind hrest ((h.branch _ []).bind fun next s₁ _ => ?_)
    exact (h.others s₁).bind fun _ _ _ => ofPure _
  · rw [if_neg hbar, if_neg hbar, if_neg (mt hclosed.mp hbar)]
    exact ofPure []

/-- A group is read as it is from its opening parenthesis on. The parenthesis that closes it is its
own and not the one behind the pattern, since the branches within it keep what is behind them. -/
theorem group (h : BranchesFollowed pattern n m) {s : ReadState} {c : Char} {tail : List Char}
    (hrest : s.rest = c :: tail) (items : List Item) :
    FollowedAt pattern s (groupThen (PatternReader.branches n) (PatternReader.branch n) items)
      (groupThen (PatternReader.branches m) (PatternReader.branch m) items)
      (groupThen (PatternReader.branches m) (PatternReader.branch m) items) := by
  refine of_within fun hs => flags_bind (bump_bind hrest ?_)
  refine keepsAt_groupStart.bind fun start s₁ _ => ?_
  cases start with
  | none => exact h.branch s₁ _
  | some _ =>
      refine (h.branches s₁).bind fun inner s₂ _ => rest_bind ?_
      cases hend : s₂.rest with
      | nil => exact of_guard_false (by simp)
      | cons d behind =>
          refine guard_bind fun _ => modify_bind List.suffix_rfl hs.verbose rfl ?_
          exact bump_bind hend (h.branch _ _)

/-- A part that is repeated, from the sign that says so on. -/
theorem repetition (h : BranchesFollowed pattern n m) {s : ReadState} {c : Char} {tail : List Char}
    (hrest : s.rest = c :: tail) (items : List Item) (least : Nat) (most : Option Nat) :
    FollowedAt pattern s (repeatedThen (PatternReader.branch n) items least most)
      (repeatedThen (PatternReader.branch m) items least most)
      (repeatedThen (PatternReader.branch m) items least most) :=
  repeated_bind fun items => bump_bind hrest
    (keepsAt_skipPreference.bind fun _ after _ => h.branch after items)

/-- The step of the induction on fuel for a branch. A part is a group, a repetition or a single
sign, and the rest of the branch is read with less fuel. -/
theorem branch_succ (hnm : n ≤ m) (h : BranchesFollowed pattern n m) (s : ReadState)
    (items : List Item) :
    FollowedAt pattern s (PatternReader.branch (n + 1) items) (PatternReader.branch (m + 1) items)
      (PatternReader.branch (m + 1) items) := by
  rw [PatternReader.branch, PatternReader.branch]
  refine keepsAt_skip.bind fun _ s₁ _ => rest_bind ?_
  cases hrest : s₁.rest with
  | nil => exact ofPure _
  | cons c tail =>
      dsimp only [List.cons_append, List.head?_cons]
      split
      case h_1 => exact ofPure _
      case h_2 => exact ofPure _
      case h_3 => exact ofPure _
      case h_4 => exact h.group hrest items
      case h_5 =>
        exact ((setsFollowed hnm).set s₁ _ _ hrest).bind fun part after _ => h.branch after _
      case h_6 => exact h.repetition hrest items 0 (some 1)
      case h_7 => exact h.repetition hrest items 0 none
      case h_8 => exact h.repetition hrest items 1 none
      case h_9 =>
        refine flags_bind (rest_bind ?_)
        rw [hrest]
        refine option_bind_closed ?_
        rintro ⟨least, most, behind⟩ hbounds
        obtain ⟨hsuffix, happend⟩ := bounds?_append hbounds
        refine ⟨_, happend closing, repeated_bind fun items => setRest_bind ?_ ?_⟩
        · rw [hrest]
          exact hsuffix.trans (List.suffix_cons _ _)
        · refine keepsAt_skip.bind fun _ _ _ => keepsAt_skipPreference.bind fun _ after _ => ?_
          exact h.branch after items
      case h_10 => exact keepsAt_single.bind fun regex after _ => h.branch after _

end BranchesFollowed

/-- A pattern is read as it is with more fuel and with the end of a group behind it. Groups and
branches call each other; the induction is on the fuel of all of them. -/
theorem branchesFollowed {n m : Nat} (h : n ≤ m) : BranchesFollowed pattern n m := by
  induction n generalizing m with
  | zero =>
      constructor
      · intro s
        rw [PatternReader.branches]
        exact ofFailure
      · intro s
        rw [otherBranches]
        exact ofFailure
      · intro s items
        rw [PatternReader.branch]
        exact ofFailure
  | succ n ih =>
      obtain ⟨m, rfl⟩ : ∃ k, m = k + 1 := ⟨m - 1, by omega⟩
      have hless := Nat.le_of_succ_le_succ h
      exact ⟨(ih hless).branches_succ, (ih hless).others_succ, (ih hless).branch_succ hless⟩

end FollowedAt

end LayoutSpec.Regex
