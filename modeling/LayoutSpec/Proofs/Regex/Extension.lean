import LayoutSpec.Regex.Reader
import LayoutSpec.Proofs.Regex.Lexeme

/-!
Patterns with the end of a group behind them. The reader of a pattern reads the same if a closing
parenthesis and a dollar sign follow the pattern, and leaves them; only a comment that is still open
at the end of the pattern takes them in. More fuel makes no difference.
-/

namespace LayoutSpec.Regex

open Text

/-- What stands behind a pattern that has to match a whole text. -/
def closing : List Char := [')', '$']

theorem exists_of_append_closing {c : Char} {text tail : List Char} (hc : c ≠ ')')
    (h : text ++ closing = c :: tail) : ∃ inner, text = c :: inner := by
  cases text with
  | nil => exact absurd (List.cons.inj h).1.symm hc
  | cons d text =>
      obtain ⟨rfl, -⟩ := List.cons.inj h
      exact ⟨text, rfl⟩

theorem exists_of_append_closing₂ {c d : Char} {text tail : List Char} (hc : c ≠ ')') (hd : d ≠ ')')
    (h : text ++ closing = c :: d :: tail) : ∃ inner, text = c :: d :: inner := by
  obtain ⟨inner, rfl⟩ := exists_of_append_closing hc h
  obtain ⟨last, rfl⟩ := exists_of_append_closing hd (List.cons.inj h).2
  exact ⟨last, rfl⟩

/-- What does not start with a character does not do so in front of the end of a group. -/
theorem append_closing_ne_cons {c : Char} {text : List Char} (hc : c ≠ ')')
    (h : ∀ inner, text = c :: inner → False) (tail : List Char) :
    text ++ closing = c :: tail → False :=
  fun hcons => (exists_of_append_closing hc hcons).elim h

theorem append_closing_ne_cons₂ {c d : Char} {text : List Char} (hc : c ≠ ')') (hd : d ≠ ')')
    (h : ∀ inner, text = c :: d :: inner → False) (tail : List Char) :
    text ++ closing = c :: d :: tail → False :=
  fun hcons => (exists_of_append_closing₂ hc hd hcons).elim h

namespace ReadState

/-- The state with the end of a group behind the rest of the pattern. -/
def closed (s : ReadState) : ReadState :=
  { s with rest := s.rest ++ closing }

/-- A state in the reading of a pattern. Verbose parts have to be asked for. -/
structure Within (pattern : List Char) (s : ReadState) : Prop where
  suffix : s.rest <:+ pattern
  verbose : s.flags.verbose = true → 'x' ∈ pattern

end ReadState

/-- What a reader gives, given again by a reader with more fuel, and by one where the end of a group
stands behind the pattern. -/
structure Repeats {α : Type} (pattern : List Char) (s : ReadState) (a : α) (after : ReadState)
    (same closed : Option (α × ReadState)) : Prop where
  same : same = some (a, after)
  suffix : after.rest <:+ s.rest
  verbose : after.flags.verbose = true → 'x' ∈ pattern
  closed : closed = some (a, after.closed) ∨
    closed = some (a, after) ∧ after.rest = [] ∧ 'x' ∈ pattern ∧ '#' ∈ pattern

/-- Whatever the first reader gives in a state, the second one gives as well, and the third one
where the end of a group stands behind the pattern. -/
def FollowedAt {α : Type} (pattern : List Char) (s : ReadState)
    (reader same closed : PatternReader α) : Prop :=
  s.Within pattern → ∀ a after, reader.run s = some (a, after) →
    Repeats pattern s a after (same.run s) (closed.run s.closed)

/-- A reader gives the same where the end of a group stands behind the pattern. -/
abbrev KeepsAt {α : Type} (pattern : List Char) (s : ReadState) (reader : PatternReader α) : Prop :=
  FollowedAt pattern s reader reader reader

namespace FollowedAt

variable {α β : Type} {pattern : List Char} {s : ReadState}

theorem within {a : α} {after : ReadState} {same closed : Option (α × ReadState)}
    (hs : s.Within pattern) (h : Repeats pattern s a after same closed) : after.Within pattern :=
  ⟨h.suffix.trans hs.suffix, h.verbose⟩

/-- What is kept by a reader and by those that go on with its result is kept by both together. The
three readers take the pattern with some fuel, with more fuel, and with the end of a group behind
it. -/
theorem bind {reader same closed : PatternReader α} {next next' : α → PatternReader β}
    (h : FollowedAt pattern s reader same closed)
    (hnext : ∀ a after, reader.run s = some (a, after) →
      FollowedAt pattern after (next a) (next' a) (next' a)) :
    FollowedAt pattern s (reader >>= next) (same >>= next') (closed >>= next') := by
  intro hs b last hlast
  obtain ⟨⟨a, after⟩, hfirst, hlast⟩ := Option.bind_eq_some_iff.mp hlast
  have hrepeats := h hs a after hfirst
  have hlater := hnext a after hfirst (within hs hrepeats) b last hlast
  constructor
  · rw [StateT.run_bind, hrepeats.same]
    exact hlater.same
  · exact hlater.suffix.trans hrepeats.suffix
  · exact hlater.verbose
  · rw [StateT.run_bind]
    rcases hrepeats.closed with hclosed | ⟨hclosed, hrest, hx, hsign⟩
    · rw [hclosed]
      exact hlater.closed
    · -- The comment goes on to the end, and the rest is read as without anything behind it.
      rw [hclosed]
      refine .inr ⟨hlater.same, ?_, hx, hsign⟩
      have hsuffix := hlater.suffix
      rw [hrest] at hsuffix
      exact List.suffix_nil.mp hsuffix

theorem ofPure (a : α) : KeepsAt pattern s (pure a) := by
  intro hs b after h
  obtain ⟨rfl, rfl⟩ := Prod.mk.inj (Option.some.inj h)
  exact ⟨rfl, List.suffix_rfl, hs.verbose, .inl rfl⟩

theorem ofFailure {same closed : PatternReader α} :
    FollowedAt pattern s failure same closed := by
  intro _ a after h
  cases h

/-- A part of the rest that is there is there as well if something stands behind the pattern. What
it leaves has the other text behind it. -/
theorem option_bind_closed {x y : Option α} {next same closed : α → PatternReader β}
    (h : ∀ a, x = some a → ∃ b, y = some b ∧ FollowedAt pattern s (next a) (same a) (closed b)) :
    FollowedAt pattern s (liftM x >>= next) (liftM x >>= same) (liftM y >>= closed) := by
  cases x with
  | none =>
      intro _ a after ha
      cases ha
  | some a =>
      obtain ⟨b, rfl, hb⟩ := h a rfl
      exact hb

theorem option_bind {x : Option α} {next next' : α → PatternReader β}
    (h : ∀ a, x = some a → FollowedAt pattern s (next a) (next' a) (next' a)) :
    FollowedAt pattern s (liftM x >>= next) (liftM x >>= next') (liftM x >>= next') := by
  exact option_bind_closed fun a ha => ⟨a, ha, h a ha⟩

theorem of_guard_false {p : Prop} [Decidable p] {next : Unit → PatternReader α}
    {same closed : PatternReader α} (hp : ¬ p) :
    FollowedAt pattern s (guard p >>= next) same closed := by
  rw [guard, if_neg hp]
  intro _ a after ha
  cases ha

theorem guard_bind {p : Prop} [Decidable p] {next same closed : Unit → PatternReader α}
    (h : p → FollowedAt pattern s (next ()) (same ()) (closed ())) :
    FollowedAt pattern s (guard p >>= next) (guard p >>= same) (guard p >>= closed) := by
  by_cases hp : p
  · rw [guard, if_pos hp]
    exact h hp
  · exact of_guard_false hp

section

open PatternReader

variable {next same closed : Flags → PatternReader α}

theorem flags_bind (h : FollowedAt pattern s (next s.flags) (same s.flags) (closed s.flags)) :
    FollowedAt pattern s (flags >>= next) (flags >>= same) (flags >>= closed) :=
  h

end

section

open PatternReader

variable {reader same closed : PatternReader α} {next same' closed' : List Char → PatternReader α}

/-- A reader that looks at the rest of the pattern sees the end of the group behind it. -/
theorem rest_bind (h : FollowedAt pattern s (next s.rest) (same' s.rest)
      (closed' (s.rest ++ closing))) :
    FollowedAt pattern s (rest >>= next) (rest >>= same') (rest >>= closed') :=
  h

end

section

open PatternReader

theorem of_run_peek {c : Char} {after : ReadState} (h : peek.run s = some (c, after)) :
    after = s ∧ ∃ tail, s.rest = c :: tail := by
  obtain ⟨d, hd, h⟩ :=
    Option.bind_eq_some_iff.mp (h : ((liftM s.rest.head? : PatternReader Char).run s) = _)
  obtain ⟨rfl, rfl⟩ := Prod.mk.inj (Option.some.inj h)
  exact ⟨rfl, List.head?_eq_some_iff.mp hd⟩

theorem keepsAt_peek : KeepsAt pattern s peek := by
  intro hs c after h
  obtain ⟨rfl, tail, hrest⟩ := of_run_peek h
  refine ⟨h, List.suffix_rfl, hs.verbose, .inl ?_⟩
  change (liftM (after.rest ++ closing).head? : PatternReader Char).run after.closed = _
  rw [hrest]
  rfl

theorem peek_bind {next next' : Char → PatternReader α}
    (h : ∀ c tail, s.rest = c :: tail → FollowedAt pattern s (next c) (next' c) (next' c)) :
    FollowedAt pattern s (peek >>= next) (peek >>= next') (peek >>= next') := by
  refine keepsAt_peek.bind fun c after hc => ?_
  obtain ⟨rfl, tail, hrest⟩ := of_run_peek hc
  exact h c tail hrest

/-- A reader goes on behind a part of the rest. -/
theorem setRest_bind {behind : List Char} {next same closed : Unit → PatternReader α}
    (hbehind : behind <:+ s.rest)
    (h : FollowedAt pattern { s with rest := behind } (next ()) (same ()) (closed ())) :
    FollowedAt pattern s (setRest behind >>= next) (setRest behind >>= same)
      (setRest (behind ++ closing) >>= closed) := by
  intro hs a after ha
  have hrepeats := h ⟨hbehind.trans hs.suffix, hs.verbose⟩ a after ha
  exact ⟨hrepeats.same, hrepeats.suffix.trans hbehind, hrepeats.verbose, hrepeats.closed⟩

theorem ofSetRest {behind : List Char} (hbehind : behind <:+ s.rest) :
    FollowedAt pattern s (setRest behind) (setRest behind) (setRest (behind ++ closing)) := by
  have hbind : FollowedAt pattern s (setRest behind >>= pure) (setRest behind >>= pure)
      (setRest (behind ++ closing) >>= pure) := setRest_bind hbehind (ofPure ())
  simpa only [bind_pure] using hbind

theorem bump_bind {c : Char} {tail : List Char} {next next' : Unit → PatternReader α}
    (hrest : s.rest = c :: tail)
    (h : FollowedAt pattern { s with rest := tail } (next ()) (next' ()) (next' ())) :
    FollowedAt pattern s (bump >>= next) (bump >>= next') (bump >>= next') := by
  have htail : s.rest.tail = tail := by rw [hrest, List.tail_cons]
  have hclosed : (s.rest ++ closing).tail = tail ++ closing := by rw [hrest]; rfl
  have hbump : FollowedAt pattern s (setRest tail >>= next) (setRest tail >>= next')
      (setRest (tail ++ closing) >>= next') :=
    setRest_bind (hrest ▸ List.suffix_cons c tail) h
  rw [← hclosed, ← htail] at hbump
  exact hbump

theorem keepsAt_bump {c : Char} {tail : List Char} (hrest : s.rest = c :: tail) :
    KeepsAt pattern s bump := by
  have hbind : KeepsAt pattern s (bump >>= pure) := bump_bind hrest (ofPure ())
  simpa only [bind_pure] using hbind

/-- What a verbose pattern ignores is passed over in the same way, unless the pattern ends in a
comment. Then the comment takes in what is put behind it, which is the one way in which `Within` can
be lost. -/
theorem keepsAt_skip : KeepsAt pattern s skip := by
  refine flags_bind (rest_bind ?_)
  have hsuffix := dropIgnored_suffix s.flags.verbose false s.rest
  cases hdrop : dropIgnored s.flags.verbose false s.rest with
  | cons c tail =>
      rw [hdrop] at hsuffix
      rw [dropIgnored_append (by rw [hdrop]; exact List.cons_ne_nil c tail), hdrop]
      exact ofSetRest hsuffix
  | nil =>
      have hclosing : dropIgnored s.flags.verbose false closing = [] ++ closing := by
        cases s.flags.verbose <;> rfl
      rcases dropIgnored_append_of_eq_nil hdrop closing with hmore | ⟨hverbose, hcomment, hmore⟩
      · rw [hmore, hclosing]
        exact ofSetRest List.nil_suffix
      · -- The comment takes in what stands behind the pattern.
        intro hs a after h
        obtain ⟨rfl, rfl⟩ := Prod.mk.inj (Option.some.inj h)
        refine ⟨rfl, List.nil_suffix, hs.verbose, .inr ⟨?_, rfl, hs.verbose hverbose, ?_⟩⟩
        · rw [hmore, hverbose]
          rfl
        · exact hs.suffix.subset (hcomment.resolve_left Bool.false_ne_true)

theorem keepsAt_advance {c : Char} {tail : List Char} (hrest : s.rest = c :: tail) :
    KeepsAt pattern s advance :=
  bump_bind hrest keepsAt_skip

/-- Where the pattern must not end, it does not end behind it either. -/
theorem keepsAt_advanceInside {c : Char} {tail : List Char} (hrest : s.rest = c :: tail) :
    KeepsAt pattern s advanceInside := by
  refine (keepsAt_advance hrest).bind fun _ after _ => rest_bind ?_
  cases hafter : after.rest with
  | nil => exact ofFailure
  | cons d behind => exact ofPure ()

theorem keepsAt_fold (set : CharSet) : KeepsAt pattern s (fold set) :=
  flags_bind (ofPure _)

theorem keepsAt_foldAndNegate (negated : Bool) (set : CharSet) :
    KeepsAt pattern s (foldAndNegate negated set) := by
  refine (keepsAt_fold set).bind fun folded after _ => ?_
  cases negated with
  | false => exact ofPure folded
  | true => exact flags_bind (guard_bind fun _ => ofPure _)

theorem keepsAt_charOf (byte : Bool) (value : Nat) : KeepsAt pattern s (charOf byte value) :=
  option_bind fun _ _ => ofPure _

theorem keepsAt_hexDigits (value count : Nat) : KeepsAt pattern s (hexDigits value count) := by
  induction count generalizing s value with
  | zero => exact ofPure value
  | succ count ih =>
      refine peek_bind fun c tail hrest => option_bind fun digit _ => ?_
      exact (keepsAt_advance hrest).bind fun _ _ _ => ih _

/-- A name between braces is cut off at the first closing brace. The end of a group has none, so
that it does not complete a name. -/
theorem braced_bind {inner : List Char} (hrest : s.rest = '{' :: inner)
    {next : List Char × List Char → PatternReader α}
    (h : ∀ name behind, FollowedAt pattern { s with rest := behind } (next (name, behind))
      (next (name, behind)) (next (name, behind ++ closing))) :
    FollowedAt pattern s
      (do let found ← braced? (← flags).verbose inner; setRest found.2; next found)
      (do let found ← braced? (← flags).verbose inner; setRest found.2; next found)
      (do
        let found ← braced? (← flags).verbose (inner ++ closing)
        setRest found.2
        next found) := by
  refine flags_bind (option_bind_closed ?_)
  rintro ⟨name, behind⟩ hname
  obtain ⟨hsuffix, happend⟩ := braced?_append hname
  refine ⟨_, happend closing, setRest_bind ?_ (h name behind)⟩
  rw [hrest]
  exact hsuffix.trans (List.suffix_cons '{' inner)

theorem keepsAt_hexChar {c : Char} {tail : List Char} (hrest : s.rest = c :: tail) (count : Nat) :
    KeepsAt pattern s (hexChar count) := by
  refine (keepsAt_advanceInside hrest).bind fun _ after _ => rest_bind ?_
  split
  case h_1 inner hinner =>
    rw [hinner]
    exact braced_bind hinner fun digits behind => option_bind fun _ _ => keepsAt_charOf _ _
  case h_2 hplain =>
    have hclosed := append_closing_ne_cons (by decide) hplain
    simp only
    exact (keepsAt_hexDigits 0 count).bind fun value _ _ => keepsAt_charOf _ value

theorem keepsAt_property {c : Char} {tail : List Char} (hrest : s.rest = c :: tail)
    (negated : Bool) : KeepsAt pattern s (property negated) := by
  refine flags_bind (guard_bind fun _ => ?_)
  refine (keepsAt_advanceInside hrest).bind fun _ after _ => rest_bind ?_
  split
  case h_1 inner hinner =>
    rw [hinner]
    refine braced_bind hinner fun name behind => ?_
    dsimp only
    split
    · refine option_bind fun set _ => option_bind fun found _ => ?_
      exact (keepsAt_foldAndNegate _ _).bind fun _ _ _ => ofPure _
    · split
      · refine option_bind fun set _ => option_bind fun found _ => ?_
        exact (keepsAt_foldAndNegate _ _).bind fun _ _ _ => ofPure _
      · refine option_bind fun set _ => option_bind fun found _ => ?_
        exact (keepsAt_foldAndNegate _ _).bind fun _ _ _ => ofPure _
  case h_2 d behind hplain hafter =>
    simp only [hafter, List.cons_append]
    refine guard_bind fun _ => (keepsAt_advance hafter).bind fun _ _ _ => ?_
    refine option_bind fun set _ => ?_
    exact (keepsAt_foldAndNegate _ _).bind fun _ _ _ => ofPure _
  case h_3 => exact ofFailure

theorem word_bind {next next' : CharSet → PatternReader α}
    (h : ∀ set, FollowedAt pattern s (next set) (next' set) (next' set)) :
    FollowedAt pattern s (word >>= next) (word >>= next') (word >>= next') := by
  simp only [word, bind_assoc]
  refine flags_bind ?_
  cases s.flags.unicode with
  | true => exact h Unicode.wordSet
  | false => exact option_bind fun set _ => h set

/-- A letter that stands for a set of characters is read as it is, and so is the name of a property
behind it. -/
theorem keepsAt_shorthand {c : Char} {tail : List Char} (hrest : s.rest = c :: tail)
    (letter : Char) :
    KeepsAt pattern s (shorthand letter) := by
  have hset : ∀ set : CharSet, KeepsAt pattern s (do
      bump
      guard (s.flags.unicode || letter.isLower)
      return Atom.set (if letter.isLower then set else .complement set)) :=
    fun set => bump_bind hrest (guard_bind fun _ => ofPure _)
  refine flags_bind ?_
  dsimp only
  split
  case h_1 =>
    split
    · exact hset _
    · exact option_bind fun set _ => hset set
  case h_2 =>
    split
    · exact hset _
    · exact option_bind fun set _ => hset set
  case h_3 => exact word_bind hset

theorem keepsAt_wordEdge : KeepsAt pattern s wordEdge := by
  refine word_bind fun word => rest_bind ?_
  split
  case h_1 inner hinner =>
    simp only [hinner, List.cons_append]
    refine flags_bind ?_
    have hsuffix :=
      takeWhileIgnoring_suffix (fun c => c.isAlpha || c = '-') s.flags.verbose false inner
    cases hbehind :
      (takeWhileIgnoring (fun c => c.isAlpha || c = '-') s.flags.verbose false inner).2
      with
    | nil =>
        split
        · exact of_guard_false (by simp)
        · exact of_guard_false (by simp)
    | cons d behind =>
        have hmore :=
          takeWhileIgnoring_append (by rw [hbehind]; exact List.cons_ne_nil d behind) closing
        rw [hbehind] at hsuffix hmore
        simp only [hmore]
        split
        · exact guard_bind fun _ => ofPure _
        · refine guard_bind fun _ => setRest_bind ?_ ?_
          · rw [hinner]
            exact (List.suffix_cons d behind).trans (hsuffix.trans (List.suffix_cons '{' inner))
          · split
            case h_5 => exact ofFailure
            all_goals exact ofPure _
  case h_2 hplain =>
    have hclosed := append_closing_ne_cons (by decide) hplain
    simp only
    exact ofPure _

/-- A backslash and what follows it are read as they are. A backslash at the end of the pattern is
no escape, so that the end of a group cannot be taken for one. -/
theorem keepsAt_escape {c : Char} {tail : List Char} (hrest : s.rest = c :: tail) :
    KeepsAt pattern s PatternReader.escape := by
  refine bump_bind hrest (peek_bind fun d behind hbehind => ?_)
  split
  case h_1 => exact keepsAt_hexChar hbehind 2
  case h_2 => exact keepsAt_hexChar hbehind 4
  case h_3 => exact keepsAt_hexChar hbehind 8
  case h_4 => exact keepsAt_property hbehind false
  case h_5 => exact keepsAt_property hbehind true
  case h_12 =>
    refine bump_bind hbehind ?_
    split
    · exact ofPure _
    · split
      case h_9 => exact keepsAt_wordEdge
      case h_10 => exact word_bind fun word => ofPure _
      case h_11 => exact word_bind fun word => ofPure _
      case h_12 => exact word_bind fun word => ofPure _
      case h_13 => exact ofFailure
      all_goals exact ofPure _
  all_goals exact keepsAt_shorthand hbehind _

theorem keepsAt_setAtom : KeepsAt pattern s setAtom := by
  refine peek_bind fun c tail hrest => ?_
  split
  · exact keepsAt_escape hrest
  · exact peek_bind fun d behind hbehind => bump_bind hbehind (ofPure _)

theorem keepsAt_setChar (a : Atom) : KeepsAt pattern s (setChar a) := by
  cases a with
  | literal c byte => exact flags_bind (guard_bind fun _ => ofPure c)
  | _ => exact ofFailure

theorem of_advanceInside_end {c : Char} {tail : List Char} {next : Unit → PatternReader α}
    {same closed : PatternReader α} (hrest : s.rest = c :: tail)
    (h : dropIgnored s.flags.verbose false tail = []) :
    FollowedAt pattern s (advanceInside >>= next) same closed := by
  intro _ a after ha
  have hskip : dropIgnored s.flags.verbose false s.rest.tail = [] := by
    rw [hrest]
    exact h
  have hnone : advanceInside.run s = none := by
    change
      (guard (!(dropIgnored s.flags.verbose false s.rest.tail).isEmpty) : PatternReader Unit).run
      _ = none
    rw [hskip]
    rfl
  rw [StateT.run_bind, hnone] at ha
  cases ha

/-- A range in a set is read as it is. Both of its ends are there before the set is closed, and the
set is closed within the pattern. -/
theorem keepsAt_setRange : KeepsAt pattern s setRange := by
  refine keepsAt_setAtom.bind fun first s₁ _ => keepsAt_skip.bind fun _ s₂ _ => ?_
  refine peek_bind fun c tail hrest => flags_bind (rest_bind ?_)
  dsimp only
  rw [hrest, List.cons_append]
  rcases glimpse?_append c tail closing with hsame | ⟨hend, hsee⟩
  · rw [hsame]
    split
    case isTrue =>
      cases first with
      | set set => exact ofPure _
      | _ => exact (keepsAt_setChar _).bind fun _ _ _ => ofPure _
    case isFalse =>
      refine (keepsAt_advanceInside hrest).bind fun _ _ _ => keepsAt_setAtom.bind fun last _ _ => ?_
      refine (keepsAt_setChar first).bind fun _ _ _ => (keepsAt_setChar last).bind fun _ _ _ => ?_
      exact guard_bind fun _ => ofPure _
  · -- Nothing that counts is left behind the hyphen, so that it is no range.
    have hhead : ∀ d, isBlank d = false → d ≠ '#' → tail.head? ≠ some d := by
      intro d hblank hsign htail
      obtain ⟨behind, rfl⟩ := List.head?_eq_some_iff.mp htail
      simp [dropIgnored, ignored, hblank, hsign] at hend
    by_cases hhyphen : c = '-'
    · have hbracket := hhead ']' (by decide) (by decide)
      have hagain := hhead '-' (by decide) (by decide)
      rw [hsee, if_neg (by simp [hhyphen, hbracket, hagain])]
      exact of_advanceInside_end hrest hend
    · rw [if_pos (by simp [hhyphen]), if_pos (by simp [hhyphen])]
      cases first with
      | set set => exact ofPure _
      | _ => exact (keepsAt_setChar _).bind fun _ _ _ => ofPure _

theorem keepsAt_close (pending : Pending) (parts : List SetPart) :
    KeepsAt pattern s (close pending parts) := by
  cases pending with
  | none => exact ofPure _
  | some open' =>
      exact (keepsAt_fold _).bind fun _ _ _ => (keepsAt_fold _).bind fun _ _ _ => ofPure _

theorem followedAt_leadingHyphens {n m : Nat} (h : n ≤ m) (parts : List SetPart) :
    FollowedAt pattern s (leadingHyphens n parts) (leadingHyphens m parts)
      (leadingHyphens m parts) := by
  induction n generalizing m s parts with
  | zero => exact ofFailure
  | succ n ih =>
      obtain ⟨m, rfl⟩ : ∃ k, m = k + 1 := ⟨m - 1, by omega⟩
      refine peek_bind fun c tail hrest => ?_
      split
      · exact (keepsAt_advanceInside hrest).bind fun _ _ _ => ih (Nat.le_of_succ_le_succ h) _
      · exact ofPure parts

theorem of_closed {reader same closed : PatternReader α}
    (h : FollowedAt pattern s reader same closed) : FollowedAt pattern s reader reader closed := by
  intro hs a after ha
  have hrepeats := h hs a after ha
  exact ⟨ha, hrepeats.suffix, hrepeats.verbose, hrepeats.closed⟩

theorem keepsAt_setStart {c : Char} {tail : List Char} (hrest : s.rest = c :: tail) :
    KeepsAt pattern s setStart := by
  have hparts : ∀ (negated : Bool) (t : ReadState), KeepsAt pattern t (do
      let parts ← leadingHyphens ((← rest).length + 1) []
      if parts.isEmpty && (← peek) = ']' then
        advanceInside
        return (negated, [⟨.single ']', 0⟩])
      else return (negated, parts)) := by
    intro negated t
    refine rest_bind ?_
    have hlength : t.rest.length + 1 ≤ (t.rest ++ closing).length + 1 := by simp
    refine (followedAt_leadingHyphens hlength []).of_closed.bind fun parts after _ => ?_
    refine peek_bind fun d behind hbehind => ?_
    split
    · exact (keepsAt_advanceInside hbehind).bind fun _ _ _ => ofPure _
    · exact ofPure _
  refine (keepsAt_advanceInside hrest).bind fun _ s₁ _ => peek_bind fun d behind hbehind => ?_
  dsimp only
  split
  · exact (keepsAt_advanceInside hbehind).bind fun _ after _ => hparts _ after
  · exact hparts _ s₁

/-- An operator between sets, and what stands behind it. -/
def operatorThen (items : Pending → List SetPart → PatternReader SetPart) (pending : Pending)
    (parts : List SetPart) (operator : CharSet → CharSet → CharSet) (behind : List Char) :
    PatternReader SetPart := do
  setRest behind
  let left ← close pending parts
  items (some (operator, left)) []

structure SetsFollowed (pattern : List Char) (n m : Nat) : Prop where
  set : ∀ s c tail, s.rest = c :: tail →
    FollowedAt pattern s (bracketed n) (bracketed m) (bracketed m)
  items : ∀ s pending parts, FollowedAt pattern s (setItems n pending parts)
    (setItems m pending parts) (setItems m pending parts)

namespace SetsFollowed

variable {n m : Nat}

theorem set_succ (h : SetsFollowed pattern n m) (s : ReadState) (c : Char) (tail : List Char)
    (hrest : s.rest = c :: tail) :
    FollowedAt pattern s (bracketed (n + 1)) (bracketed (m + 1)) (bracketed (m + 1)) := by
  rw [bracketed, bracketed]
  refine (keepsAt_setStart hrest).bind fun start s₁ _ => ?_
  refine (h.items s₁ none start.2).bind fun inner s₂ _ => ?_
  exact (keepsAt_foldAndNegate start.1 inner.set).bind fun _ _ _ => ofPure _

theorem operator (h : SetsFollowed pattern n m) {s : ReadState} {behind : List Char}
    (hbehind : behind <:+ s.rest) (pending : Pending) (parts : List SetPart)
    (operator : CharSet → CharSet → CharSet) :
    FollowedAt pattern s (operatorThen (setItems n) pending parts operator behind)
      (operatorThen (setItems m) pending parts operator behind)
      (operatorThen (setItems m) pending parts operator (behind ++ closing)) :=
  setRest_bind hbehind ((keepsAt_close pending parts).bind fun _ after _ => h.items after _ _)

/-- A part of a set, and the parts behind it. Whatever the part is, it was read before the set is
closed. -/
theorem part (h : SetsFollowed pattern n m) {s : ReadState}
    {reader same closed : PatternReader SetPart}
    (hreader : FollowedAt pattern s reader same closed) (pending : Pending) (parts : List SetPart) :
    FollowedAt pattern s (do setItems n pending ((← reader) :: parts))
      (do setItems m pending ((← same) :: parts)) (do setItems m pending ((← closed) :: parts)) :=
  hreader.bind fun _ after _ => h.items after _ _

/-- The step of the induction on fuel for the parts of a set. Each part is one of the readers for
which the lemma is known, and the parts behind it are read with less fuel. -/
theorem items_succ (h : SetsFollowed pattern n m) (s : ReadState) (pending : Pending)
    (parts : List SetPart) :
    FollowedAt pattern s (setItems (n + 1) pending parts) (setItems (m + 1) pending parts)
      (setItems (m + 1) pending parts) := by
  rw [setItems, setItems]
  refine keepsAt_skip.bind fun _ s₁ _ => rest_bind ?_
  split
  case h_1 => exact ofFailure
  case h_2 behind hrest =>
    rw [hrest, List.cons_append]
    exact setRest_bind (hrest ▸ List.suffix_cons _ _) (keepsAt_close pending parts)
  case h_3 behind hrest =>
    rw [hrest, List.cons_append, List.cons_append]
    have hbehind := (List.suffix_cons '&' behind).trans (List.suffix_cons '&' _)
    exact h.operator (hrest ▸ hbehind) pending parts .inter
  case h_4 behind hrest =>
    rw [hrest, List.cons_append, List.cons_append]
    have hbehind := (List.suffix_cons '-' behind).trans (List.suffix_cons '-' _)
    exact h.operator (hrest ▸ hbehind) pending parts .diff
  case h_5 behind hrest =>
    rw [hrest, List.cons_append, List.cons_append]
    have hbehind := (List.suffix_cons '~' behind).trans (List.suffix_cons '~' _)
    exact h.operator (hrest ▸ hbehind) pending parts .symmDiff
  case h_6 behind hrest =>
    rw [hrest, List.cons_append]
    have hnamed := namedAsciiSet?_append ('[' :: behind) (by decide : ':' ∉ closing) (by decide)
    rw [List.cons_append] at hnamed
    simp only [hnamed]
    cases hfound : namedAsciiSet? ('[' :: behind) with
    | none => exact h.part (h.set s₁ _ _ hrest) pending parts
    | some found =>
        obtain ⟨set, negated, last⟩ := found
        refine setRest_bind (hrest ▸ namedAsciiSet?_suffix hfound) ?_
        exact (keepsAt_foldAndNegate negated set).bind fun _ after _ => h.items after _ _
  case h_7 hnil hclose hand hminus htilde hopen =>
    -- What is put behind the pattern completes none of these signs.
    have hnil' : s₁.rest ++ closing = [] → False := by simp [closing]
    have hclose' := append_closing_ne_cons (by decide) hclose
    have hand' := append_closing_ne_cons₂ (by decide) (by decide) hand
    have hminus' := append_closing_ne_cons₂ (by decide) (by decide) hminus
    have htilde' := append_closing_ne_cons₂ (by decide) (by decide) htilde
    have hopen' := append_closing_ne_cons (by decide) hopen
    simp only
    exact h.part keepsAt_setRange pending parts

end SetsFollowed

/-- A set is read as it is with more fuel and with the end of a group behind the pattern. The
induction is on the fuel of the reader, with both readers of `SetsFollowed` in one step. -/
theorem setsFollowed {n m : Nat} (h : n ≤ m) : SetsFollowed pattern n m := by
  induction n generalizing m with
  | zero =>
      constructor
      · intro s c tail _
        rw [bracketed]
        exact ofFailure
      · intro s pending parts
        rw [setItems]
        exact ofFailure
  | succ n ih =>
      obtain ⟨m, rfl⟩ : ∃ k, m = k + 1 := ⟨m - 1, by omega⟩
      have hless := ih (Nat.le_of_succ_le_succ h)
      exact ⟨hless.set_succ, hless.items_succ⟩

end

end FollowedAt

end LayoutSpec.Regex
