import LayoutSpec.Proofs.Text.Cutting
import LayoutSpec.Token

/-!
Readers of tokens one after another, and the readers of single symbols and words.
-/

namespace LayoutSpec

open Text

namespace Text

theorem isBlank_of_isDigit {c : Char} (h : c.isDigit = true) : isBlank c = false := by
  simp only [Char.isDigit, Bool.and_eq_true, decide_eq_true_eq, UInt32.le_iff_toNat_le,
    ge_iff_le] at h
  change 48 ≤ c.toNat ∧ c.toNat ≤ 57 at h
  simp only [isBlank, Bool.or_eq_false_iff, Bool.and_eq_false_iff, decide_eq_false_iff_not,
    beq_eq_false_iff_ne]
  omega

theorem isBlank_of_isLower {c : Char} (h : c.isLower = true) : isBlank c = false := by
  have hbounds := Bool.and_eq_true_iff.mp h
  simp only [decide_eq_true_eq, UInt32.le_iff_toNat_le, ge_iff_le] at hbounds
  change 97 ≤ c.toNat ∧ c.toNat ≤ 122 at hbounds
  simp only [isBlank, Bool.or_eq_false_iff, Bool.and_eq_false_iff, decide_eq_false_iff_not,
    beq_eq_false_iff_ne]
  omega

theorem natNumeral_ne_nil (n : Nat) : natNumeral n ≠ [] :=
  Nat.toDigits_ne_nil

theorem isDigit_of_mem_natNumeral {n : Nat} {c : Char} (h : c ∈ natNumeral n) :
    c.isDigit = true :=
  Nat.isDigit_of_mem_toDigits (by decide) (by decide) h

end Text

namespace TokenReader

variable {α β : Type} {x : TokenReader α} {f : α → TokenReader β} {cs rest : List Char}

theorem run_bind {ε σ : Type} (x : EStateM ε σ α) (f : α → EStateM ε σ β) (s : σ) :
    (x >>= f) s = match x s with
      | .ok a after => f a after
      | .error e after => .error e after := by
  change EStateM.bind x f s = _
  rw [EStateM.bind]
  cases x s <;> rfl

theorem run_map (g : α → β) (x : TokenReader α) (cs : List Char) :
    (g <$> x) cs = match x cs with
      | .ok a mid => .ok (g a) mid
      | .error cause mid => .error cause mid := by
  change EStateM.map g x cs = _
  rw [EStateM.map]
  cases x cs <;> rfl

theorem bind_eq_ok {a : α} {mid : List Char} (h : x cs = .ok a mid) :
    (x >>= f) cs = f a mid := by
  rw [run_bind, h]

/-- A chain of readers succeeds only if its first reader does. -/
theorem of_bind_eq_ok {b : β} (h : (x >>= f) cs = .ok b rest) :
    ∃ a mid, x cs = .ok a mid ∧ f a mid = .ok b rest := by
  rw [run_bind] at h
  cases hx : x cs with
  | ok a mid =>
      rw [hx] at h
      exact ⟨a, mid, rfl, h⟩
  | error cause mid => simp [hx] at h

theorem stripStart?_append (start cs : List Char) : stripStart? start (start ++ cs) = some cs := by
  simp [stripStart?]

theorem eq_append_of_stripStart? {start cs rest : List Char}
    (h : stripStart? start cs = some rest) :
    cs = start ++ rest := by
  rw [stripStart?] at h
  split at h
  case isFalse => cases h
  case isTrue hstart =>
    obtain ⟨tail, rfl⟩ := List.isPrefixOf_iff_prefix.mp hstart
    rw [List.drop_left] at h
    rw [Option.some.inj h]

/-- A start is not there if another character comes first. -/
theorem stripStart?_eq_none {start cs : List Char} (hne : start ≠ [])
    (h : ∀ c ∈ cs.head?, start.head? ≠ some c) : stripStart? start cs = none := by
  rw [stripStart?, if_neg]
  intro hstart
  obtain ⟨tail, rfl⟩ := List.isPrefixOf_iff_prefix.mp hstart
  cases start with
  | nil => exact hne rfl
  | cons c start => exact h c rfl rfl

theorem symbol_append (s : String) (cs : List Char) :
    symbol s (s.toList ++ cs) = .ok true cs := by
  rw [symbol, stripStart?_append]

theorem symbol_eq_false {s : String} (hne : s.toList ≠ [])
    (h : ∀ c ∈ cs.head?, s.toList.head? ≠ some c) : symbol s cs = .ok false cs := by
  rw [symbol, stripStart?_eq_none hne h]

theorem keyword_append {w : String} (h : ∀ c ∈ rest.head?, isLetter c = false) :
    keyword w (w.toList ++ rest) = .ok true rest := by
  have hstop : (rest.head?.any isLetter) = false := by
    cases rest with
    | nil => rfl
    | cons c rest => simpa using h c rfl
  rw [keyword, stripStart?_append]
  simp [hstop]

theorem keyword_eq_false {w : String} (hne : w.toList ≠ [])
    (h : ∀ c ∈ cs.head?, w.toList.head? ≠ some c) : keyword w cs = .ok false cs := by
  rw [keyword, stripStart?_eq_none hne h]

theorem skipBlanks_eq (cs : List Char) : skipBlanks cs = .ok () (trimStart cs) := rfl

theorem mapM_eq_ok {ε γ : Type} {g : α → Except ε γ} {h : α → γ} {xs : List α}
    (hg : ∀ a ∈ xs, g a = .ok (h a)) : xs.mapM g = .ok (xs.map h) := by
  induction xs with
  | nil => rfl
  | cons a xs ih =>
      rw [List.mapM_cons, hg a (by simp), ih fun b hb => hg b (by simp [hb])]
      rfl

theorem of_mapM_eq_ok {ε γ : Type} {g : α → Except ε γ} {xs : List α} {ys : List γ}
    (h : xs.mapM g = .ok ys) : ∀ y ∈ ys, ∃ a ∈ xs, g a = .ok y := by
  induction xs generalizing ys with
  | nil =>
      obtain rfl : [] = ys := Except.ok.inj h
      simp
  | cons a xs ih =>
      rw [List.mapM_cons] at h
      cases ha : g a with
      | error e => simp [ha, bind, Except.bind] at h
      | ok b =>
          cases hxs : xs.mapM g with
          | error e => simp [ha, hxs, bind, Except.bind] at h
          | ok bs =>
              obtain rfl : b :: bs = ys := by
                simpa [ha, hxs, bind, Except.bind, pure, Except.pure] using h
              intro y hy
              rcases List.mem_cons.mp hy with rfl | hy
              · exact ⟨a, by simp, ha⟩
              · obtain ⟨x, hx, hgx⟩ := ih hxs y hy
                exact ⟨x, by simp [hx], hgx⟩

theorem of_mapM_eq_error {ε γ : Type} {g : α → Except ε γ} {xs : List α} {e : ε}
    (h : xs.mapM g = .error e) : ∃ a ∈ xs, g a = .error e := by
  induction xs with
  | nil => cases h
  | cons a xs ih =>
      rw [List.mapM_cons] at h
      cases ha : g a with
      | error found =>
          obtain rfl : found = e := by simpa [ha, bind, Except.bind] using h
          exact ⟨a, by simp, ha⟩
      | ok b =>
          cases hxs : xs.mapM g with
          | error found =>
              obtain rfl : found = e := by simpa [ha, hxs, bind, Except.bind] using h
              obtain ⟨x, hx, hgx⟩ := ih hxs
              exact ⟨x, by simp [hx], hgx⟩
          | ok bs => simp [ha, hxs, bind, Except.bind, pure, Except.pure] at h

end TokenReader

end LayoutSpec
