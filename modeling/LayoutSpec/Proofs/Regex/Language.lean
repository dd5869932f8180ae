import LayoutSpec.Regex.Basic

/-!
What regular expressions match. Between which gaps of a text an expression matches is said by
recursion on it, and the sets of gaps that are computed for it are those. A repetition is followed
only as often as the text is long: a match goes on in the text or stays, and one that stays can stay
any number of times.
-/

namespace LayoutSpec

/-- A relation a number of times. -/
def Times (r : Nat → Nat → Prop) : Nat → Nat → Nat → Prop
  | 0, i, j => i = j
  | n + 1, i, j => ∃ k, r i k ∧ Times r n k j

namespace Regex

/-- Whether an expression matches a text from one gap to another. -/
def Matches (text : List Char) : Regex → Nat → Nat → Prop
  | empty, i, j => i = j
  | chars set, i, j => j = i + 1 ∧ ∃ c, text[i]? = some c ∧ set.contains c = true
  | look kind, i, j => i = j ∧ ∃ gap, (gapsOf text)[i]? = some gap ∧ kind.holds gap = true
  | seq first second, i, j => ∃ k, first.Matches text i k ∧ second.Matches text k j
  | alt first second, i, j => first.Matches text i j ∨ second.Matches text i j
  | times body least most, i, j =>
    ∃ n, least ≤ n ∧ (∀ m, most = some m → n ≤ max least m) ∧ Times (body.Matches text) n i j

end Regex

/-- A relation leads forward, and not out of a text of that length. -/
def Forward (length : Nat) (r : Nat → Nat → Prop) : Prop :=
  ∀ i j, r i j → i ≤ j ∧ j ≤ max i length

namespace Times

variable {r : Nat → Nat → Prop} {length i j m n : Nat}

/-- Some steps of a relation and then some more are all of the steps together. -/
theorem add : Times r (m + n) i j ↔ ∃ k, Times r m i k ∧ Times r n k j := by
  induction m generalizing i with
  | zero =>
      rw [Nat.zero_add]
      exact ⟨fun h => ⟨i, rfl, h⟩, fun ⟨k, hk, h⟩ => hk ▸ h⟩
  | succ m ih =>
      rw [Nat.succ_add]
      constructor
      · rintro ⟨k, hk, hrest⟩
        obtain ⟨l, hl, hlast⟩ := ih.mp hrest
        exact ⟨l, ⟨k, hk, hl⟩, hlast⟩
      · rintro ⟨l, ⟨k, hk, hl⟩, hlast⟩
        exact ⟨k, hk, ih.mpr ⟨l, hl, hlast⟩⟩

/-- Up to one more step is to stay or one step, and up to as many as before. -/
theorem exists_le_succ_iff :
    (∃ k, (i = k ∨ r i k) ∧ ∃ m, m ≤ n ∧ Times r m k j) ↔ ∃ m, m ≤ n + 1 ∧ Times r m i j := by
  constructor
  · rintro ⟨k, rfl | hstep, m, hm, htimes⟩
    · exact ⟨m, Nat.le_succ_of_le hm, htimes⟩
    · exact ⟨m + 1, Nat.succ_le_succ hm, k, hstep, htimes⟩
  · rintro ⟨m, hm, htimes⟩
    cases m with
    | zero => exact ⟨i, .inl rfl, 0, Nat.zero_le n, htimes⟩
    | succ m =>
        obtain ⟨k, hstep, hrest⟩ := htimes
        exact ⟨k, .inr hstep, m, Nat.le_of_succ_le_succ hm, hrest⟩

theorem forward (h : Forward length r) (n : Nat) : Forward length (Times r n) := by
  intro i j hn
  induction n generalizing i with
  | zero =>
      obtain rfl : i = j := hn
      omega
  | succ n ih =>
      obtain ⟨k, hk, hrest⟩ := hn
      have hstep := h i k hk
      have hlater := ih k hrest
      omega

/-- More steps than there are characters stay somewhere, and can stay there once more. -/
theorem grow (h : Forward length r) (hn : Times r n i j) (hless : j - i < n) :
    Times r (n + 1) i j := by
  induction n generalizing i with
  | zero => omega
  | succ n ih =>
      obtain ⟨k, hk, hrest⟩ := hn
      have hstep := h i k hk
      have hlater := forward h n k j hrest
      by_cases hstay : k = i
      · subst hstay
        exact ⟨k, hk, k, hk, hrest⟩
      · exact ⟨k, hk, ih hrest (by omega)⟩

theorem shrink (h : Forward length r) (hn : Times r (n + 1) i j) (hless : j - i < n) :
    Times r n i j := by
  induction n generalizing i with
  | zero => omega
  | succ n ih =>
      obtain ⟨k, hk, hrest⟩ := hn
      have hstep := h i k hk
      have hlater := forward h (n + 1) k j hrest
      by_cases hstay : k = i
      · subst hstay
        exact hrest
      · exact ⟨k, hk, ih hrest (by omega)⟩

/-- How many steps more than there are characters does not matter. -/
theorem of_lt (h : Forward length r) (hn : Times r n i j) (hless : j - i < n) (hm : j - i < m) :
    Times r m i j := by
  have hall : ∀ d, Times r (j - i + 1 + d) i j ↔ Times r (j - i + 1) i j := by
    intro d
    induction d with
    | zero => exact Iff.rfl
    | succ d ih =>
        rw [← Nat.add_assoc, ← ih]
        exact ⟨fun hmore => shrink h hmore (by omega), fun hfewer => grow h hfewer (by omega)⟩
  obtain ⟨d, rfl⟩ : ∃ d, n = j - i + 1 + d := ⟨n - (j - i + 1), by omega⟩
  obtain ⟨e, rfl⟩ : ∃ e, m = j - i + 1 + e := ⟨m - (j - i + 1), by omega⟩
  exact (hall e).mpr ((hall d).mp hn)

/-- Counts may be cut off where they are greater than the number of characters. A relation that
leads forward either gets on by a character or stays where it is, so that further steps lead nowhere
else. -/
theorem exists_add_min_iff (h : Forward length r) (least : Nat) (most : Option Nat) :
    (∃ k, k ≤ most.elim (length + 1) (fun m => min (m - least) (length + 1)) ∧
        Times r (min least (length + 1) + k) i j) ↔
      ∃ n, least ≤ n ∧ (∀ m, most = some m → n ≤ max least m) ∧ Times r n i j := by
  constructor
  · rintro ⟨k, hk, htimes⟩
    refine ⟨least + k, Nat.le_add_right least k, ?_, ?_⟩
    · rintro m rfl
      have hk : k ≤ min (m - least) (length + 1) := hk
      omega
    · by_cases hless : least ≤ length + 1
      · rwa [Nat.min_eq_left hless] at htimes
      · have hend := forward h _ i j htimes
        exact of_lt h htimes (by omega) (by omega)
  · rintro ⟨n, hleast, hmost, htimes⟩
    have hend := forward h n i j htimes
    refine ⟨min (n - least) (length + 1), ?_, ?_⟩
    · cases most with
      | none => exact Nat.min_le_right _ _
      | some m =>
          have hn := hmost m rfl
          change _ ≤ min (m - least) (length + 1)
          omega
    · by_cases hcut : min least (length + 1) + min (n - least) (length + 1) = n
      · rwa [hcut]
      · exact of_lt h htimes (by omega) (by omega)

end Times

namespace Gaps

/-- Whether a gap is in a set. -/
def Has (starts : Gaps) (i : Nat) : Prop :=
  starts[i]? = some true

/-- A function on sets of gaps gives those to which a relation leads. -/
structure Follows (length : Nat) (f : Gaps → Gaps) (r : Nat → Nat → Prop) : Prop where
  length_eq : ∀ starts : Gaps, starts.length = length + 1 → (f starts).length = length + 1
  has_iff : ∀ starts : Gaps, starts.length = length + 1 →
    ∀ j, (f starts).Has j ↔ ∃ i, starts.Has i ∧ r i j

theorem any_id_iff (gaps : Gaps) : gaps.any id = true ↔ ∃ j, gaps.Has j := by
  simp [Has, List.mem_iff_getElem?]

theorem length_union {a b : Gaps} (h : a.length = b.length) : (a.union b).length = a.length := by
  unfold union
  rw [List.length_zipWith, ← h, Nat.min_self]

theorem union_has_iff {a b : Gaps} (h : a.length = b.length) (j : Nat) :
    (a.union b).Has j ↔ a.Has j ∨ b.Has j := by
  unfold union Has
  rw [List.getElem?_zipWith_eq_some]
  constructor
  · rintro ⟨x, y, hx, hy, hor⟩
    rcases (Bool.or_eq_true x y).mp hor with rfl | rfl
    · exact .inl hx
    · exact .inr hy
  · rintro (ha | hb)
    · obtain ⟨hlt, -⟩ := List.getElem?_eq_some_iff.mp ha
      exact ⟨true, b[j], ha, List.getElem?_eq_getElem (h ▸ hlt), rfl⟩
    · obtain ⟨hlt, -⟩ := List.getElem?_eq_some_iff.mp hb
      exact ⟨a[j], true, List.getElem?_eq_getElem (h ▸ hlt), hb, Bool.or_true _⟩

namespace Follows

variable {length : Nat} {f g : Gaps → Gaps} {r q : Nat → Nat → Prop}

theorem refl : Follows length id Eq := by
  constructor
  · intro starts h
    exact h
  · intro starts _ j
    constructor
    · intro hj
      exact ⟨j, hj, rfl⟩
    · rintro ⟨i, hi, rfl⟩
      exact hi

theorem of_iff (hf : Follows length f r) (h : ∀ i j, r i j ↔ q i j) : Follows length f q := by
  constructor
  · exact hf.length_eq
  · intro starts hlength j
    rw [hf.has_iff starts hlength]
    exact exists_congr fun i => and_congr_right' (h i j)

theorem comp (hf : Follows length f r) (hg : Follows length g q) :
    Follows length (fun starts => g (f starts)) (fun i j => ∃ k, r i k ∧ q k j) := by
  constructor
  · intro starts h
    exact hg.length_eq _ (hf.length_eq starts h)
  · intro starts h j
    rw [hg.has_iff _ (hf.length_eq starts h)]
    constructor
    · rintro ⟨k, hk, hq⟩
      obtain ⟨i, hi, hr⟩ := (hf.has_iff starts h k).mp hk
      exact ⟨i, hi, k, hr, hq⟩
    · rintro ⟨i, hi, k, hr, hq⟩
      exact ⟨k, (hf.has_iff starts h k).mpr ⟨i, hi, hr⟩, hq⟩

theorem union (hf : Follows length f r) (hg : Follows length g q) :
    Follows length (fun starts => (f starts).union (g starts)) (fun i j => r i j ∨ q i j) := by
  constructor
  · intro starts h
    have hlength := (hf.length_eq starts h).trans (hg.length_eq starts h).symm
    rw [length_union hlength, hf.length_eq starts h]
  · intro starts h j
    have hlength := (hf.length_eq starts h).trans (hg.length_eq starts h).symm
    rw [union_has_iff hlength, hf.has_iff starts h, hg.has_iff starts h, ← exists_or]
    exact exists_congr fun i => and_or_left.symm

theorem power (hf : Follows length f r) (n : Nat) :
    Follows length (Gaps.power f n) (Times r n) := by
  induction n with
  | zero => exact refl
  | succ n ih => exact hf.comp ih

/-- What is not made larger by one step is not made larger by any number of them. -/
theorem has_of_closed (hf : Follows length f r) {starts : Gaps} (h : starts.length = length + 1)
    (hclosed : starts.union (f starts) = starts) {i j k : Nat} (hi : starts.Has i)
    (hk : Times r k i j) : starts.Has j := by
  induction k generalizing i with
  | zero =>
      obtain rfl : i = j := hk
      exact hi
  | succ k ih =>
      obtain ⟨m, hm, hrest⟩ := hk
      apply ih _ hrest
      rw [← hclosed, union_has_iff (h.trans (hf.length_eq starts h).symm)]
      exact .inr ((hf.has_iff starts h m).mpr ⟨i, hi, hm⟩)

/-- What is reached in some steps at most is reached by that number of steps or a smaller one. The
function stops early if nothing new is reached, which takes nothing away. -/
theorem reach (hf : Follows length f r) (n : Nat) :
    Follows length (Gaps.reach f n) (fun i j => ∃ k, k ≤ n ∧ Times r k i j) := by
  induction n with
  | zero =>
      apply refl.of_iff
      intro i j
      constructor
      · intro h
        exact ⟨0, Nat.le_refl 0, h⟩
      · rintro ⟨k, hk, htimes⟩
        obtain rfl := Nat.le_zero.mp hk
        exact htimes
  | succ n ih =>
      have hmore := ((refl.union hf).comp ih).of_iff fun i j => Times.exists_le_succ_iff
      constructor
      · intro starts h
        unfold Gaps.reach
        dsimp only
        split
        · exact h
        · exact hmore.length_eq starts h
      · intro starts h j
        unfold Gaps.reach
        dsimp only
        split
        case isTrue hclosed =>
          constructor
          · intro hj
            exact ⟨j, hj, 0, Nat.zero_le _, rfl⟩
          · rintro ⟨i, hi, k, -, htimes⟩
            exact hf.has_of_closed h hclosed hi htimes
        case isFalse => exact hmore.has_iff starts h j

end Follows

theorem follows_step (text : List Char) (set : CharSet) :
    Follows text.length (step text set)
      (fun i j => j = i + 1 ∧ ∃ c, text[i]? = some c ∧ set.contains c = true) := by
  constructor
  · intro starts h
    unfold step
    rw [List.length_cons, List.length_zipWith, h]
    omega
  · intro starts h j
    unfold step Has
    cases j with
    | zero => simp
    | succ j =>
        rw [List.getElem?_cons_succ, List.getElem?_zipWith_eq_some]
        constructor
        · rintro ⟨start, c, hstart, hc, hand⟩
          obtain ⟨rfl, hset⟩ := (Bool.and_eq_true _ _).mp hand
          exact ⟨j, hstart, rfl, c, hc, hset⟩
        · rintro ⟨i, hi, hj, c, hc, hset⟩
          obtain rfl := Nat.succ.inj hj
          exact ⟨true, c, hi, hc, hset⟩

end Gaps

theorem length_gapsOf (text : List Char) : (gapsOf text).length = text.length + 1 := by
  simp [gapsOf]

theorem gapsOf_getElem?_eq_some_iff {text : List Char} {i : Nat} {gap : Gap} :
    (gapsOf text)[i]? = some gap ↔
      (none :: text.map some)[i]? = some gap.before? ∧
        (text.map some ++ [none])[i]? = some gap.behind? := by
  unfold gapsOf
  rw [List.getElem?_zipWith_eq_some]
  constructor
  · rintro ⟨before, behind, hbefore, hbehind, rfl⟩
    exact ⟨hbefore, hbehind⟩
  · rintro ⟨hbefore, hbehind⟩
    exact ⟨gap.before?, gap.behind?, hbefore, hbehind, rfl⟩

namespace Regex

open Gaps

/-- An expression matches forward, and not beyond the end of the text. -/
theorem matches_forward (text : List Char) (r : Regex) : Forward text.length (r.Matches text) := by
  induction r with
  | empty =>
      rintro i j rfl
      omega
  | chars set =>
      rintro i j ⟨rfl, c, hc, -⟩
      obtain ⟨hlt, -⟩ := List.getElem?_eq_some_iff.mp hc
      omega
  | look kind =>
      rintro i j ⟨rfl, -⟩
      omega
  | seq first second hfirst hsecond =>
      rintro i j ⟨k, hk, hrest⟩
      have hleft := hfirst i k hk
      have hright := hsecond k j hrest
      omega
  | alt first second hfirst hsecond =>
      rintro i j (h | h)
      · exact hfirst i j h
      · exact hsecond i j h
  | times body least most hbody =>
      rintro i j ⟨n, -, -, h⟩
      exact Times.forward hbody n i j h

theorem follows_look (text : List Char) (kind : Look) :
    Follows text.length ((look kind).ends text) ((look kind).Matches text) := by
  constructor
  · intro starts h
    rw [ends, List.length_zipWith, h, length_gapsOf, Nat.min_self]
  · intro starts h j
    unfold ends Has
    rw [List.getElem?_zipWith_eq_some]
    constructor
    · rintro ⟨start, gap, hstart, hgap, hand⟩
      obtain ⟨rfl, hkind⟩ := (Bool.and_eq_true _ _).mp hand
      exact ⟨j, hstart, rfl, gap, hgap, hkind⟩
    · rintro ⟨i, hi, rfl, gap, hgap, hkind⟩
      exact ⟨true, gap, hi, hgap, hkind⟩

/-- The gaps that are computed for an expression are those where its matches end. It ties the
function that is run to the relation in which the results are stated, one case for each form of an
expression. -/
theorem follows_ends (text : List Char) (r : Regex) :
    Follows text.length (r.ends text) (r.Matches text) := by
  induction r with
  | empty => exact Follows.refl
  | chars set => exact follows_step text set
  | look kind => exact follows_look text kind
  | seq first second hfirst hsecond => exact hfirst.comp hsecond
  | alt first second hfirst hsecond => exact hfirst.union hsecond
  | times body least most hbody =>
      have hreach := (hbody.power (min least (text.length + 1))).comp
        (hbody.reach (most.elim (text.length + 1) fun m => min (m - least) (text.length + 1)))
      apply hreach.of_iff
      intro i j
      rw [Matches, ← Times.exists_add_min_iff (matches_forward text body)]
      simp only [Times.add]
      constructor
      · rintro ⟨k, hk, n, hn, hrest⟩
        exact ⟨n, hn, k, hk, hrest⟩
      · rintro ⟨n, hn, k, hk, hrest⟩
        exact ⟨k, hk, n, hn, hrest⟩

theorem matches_textStart_iff {text : List Char} {i j : Nat} :
    (look .textStart).Matches text i j ↔ i = 0 ∧ j = 0 := by
  simp only [Matches, gapsOf_getElem?_eq_some_iff, Look.holds, Option.isNone_iff_eq_none]
  constructor
  · rintro ⟨rfl, gap, ⟨hbefore, -⟩, hnone⟩
    rw [hnone] at hbefore
    cases i with
    | zero => exact ⟨rfl, rfl⟩
    | succ i => simp at hbefore
  · rintro ⟨rfl, rfl⟩
    refine ⟨rfl, ⟨none, text.head?⟩, ⟨rfl, ?_⟩, rfl⟩
    cases text with
    | nil => rfl
    | cons c text => rfl

theorem matches_textEnd_iff {text : List Char} {i j : Nat} :
    (look .textEnd).Matches text i j ↔ i = text.length ∧ j = text.length := by
  simp only [Matches, gapsOf_getElem?_eq_some_iff, Look.holds, Option.isNone_iff_eq_none]
  constructor
  · rintro ⟨rfl, gap, ⟨-, hbehind⟩, hnone⟩
    rw [hnone] at hbehind
    obtain ⟨hlt, hend⟩ := List.getElem?_eq_some_iff.mp hbehind
    rw [List.length_append, List.length_map, List.length_singleton] at hlt
    by_cases hinside : i < text.length
    · simp [hinside] at hend
    · omega
  · rintro ⟨rfl, rfl⟩
    have hlt : text.length < (none :: text.map some).length := by simp
    refine ⟨rfl, ⟨_, none⟩, ⟨List.getElem?_eq_getElem hlt, ?_⟩, rfl⟩
    simp

/-- An expression between the ends of a text is found in a text if it matches all of it. The two
ends leave no other place for the match. -/
theorem isMatch_between_ends_iff (r : Regex) (text : List Char) :
    (seq (look .textStart) (seq r (look .textEnd))).isMatch text = true ↔
      r.Matches text 0 text.length := by
  have hall := follows_ends text (seq (look .textStart) (seq r (look .textEnd)))
  unfold isMatch
  rw [any_id_iff]
  simp only [hall.has_iff _ List.length_replicate]
  constructor
  · rintro ⟨j, i, -, k, hstart, l, hr, hend⟩
    obtain ⟨-, rfl⟩ := matches_textStart_iff.mp hstart
    obtain ⟨rfl, -⟩ := matches_textEnd_iff.mp hend
    exact hr
  · intro hr
    refine ⟨text.length, 0, rfl, 0, matches_textStart_iff.mpr ⟨rfl, rfl⟩, text.length, hr, ?_⟩
    exact matches_textEnd_iff.mpr ⟨rfl, rfl⟩

end Regex

end LayoutSpec
