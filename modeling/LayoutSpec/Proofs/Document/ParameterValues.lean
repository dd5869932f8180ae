import LayoutSpec.Proofs.Document.Sound
import Mathlib.Algebra.GroupWithZero.Nat
import Mathlib.Data.List.Sort

/-!
The values of a parameter line. What is left of a line without its blanks has to be a list of items
in brackets. An item of two numbers around a dash stands for all numbers between them, and any other
one for itself.
-/

namespace LayoutSpec.Parameters

open Text

/-- A run of decimal digits; leading zeros are allowed. -/
def IsNumeral (ds : List Char) : Prop :=
  ds ≠ [] ∧ ∀ c ∈ ds, c.isDigit = true

/-- Two numerals around a dash, which is the first one of the item. -/
def IsRange (item : List Char) : Prop :=
  ∃ low high, item = low ++ '-' :: high ∧ IsNumeral low ∧ IsNumeral high

/-- A range does not go beyond the numbers of 64 bits with a sign. -/
def WithinBounds (item : List Char) : Prop :=
  ∀ low high, item = low ++ '-' :: high → IsNumeral low → IsNumeral high →
    natOfDigits low < 2 ^ 63 ∧ natOfDigits high < 2 ^ 63

/-- The values that an item stands for: the numerals of the numbers between the bounds of a range,
in ascending order and without leading zeros, or the item itself. -/
inductive StandsFor : List Char → List (List Char) → Prop where
  | range {low high : List Char} {numbers : List Nat} (hlow : IsNumeral low)
    (hhigh : IsNumeral high)
    (hordered : numbers.Pairwise (· < ·))
    (hnumbers : ∀ n, n ∈ numbers ↔ min (natOfDigits low) (natOfDigits high) ≤ n ∧
      n ≤ max (natOfDigits low) (natOfDigits high)) :
    StandsFor (low ++ '-' :: high) (numbers.map fun n => (toString n).toList)
  | itself {item : List Char} (h : ¬ IsRange item) : StandsFor item [item]

/-- An item of a list is not empty and has no brackets, and the commas stand between the items. -/
structure IsEntry (item : List Char) : Prop where
  ne_nil : item ≠ []
  noComma : ',' ∉ item
  noOpening : '[' ∉ item
  noClosing : ']' ∉ item

/-- Without its blanks the line is the list of these items in brackets. -/
structure Lists (line : List Char) (items : List (List Char)) : Prop where
  nonempty : items ≠ []
  line_eq : line.filter (!isBlank ·) = '[' :: [','].intercalate items ++ [']']
  isItem : ∀ item ∈ items, IsEntry item

variable {line inner item low high ds : List Char}

theorem nat?_eq_some_iff {n : Nat} : nat? ds = some n ↔ IsNumeral ds ∧ n = natOfDigits ds := by
  have hnumeral : (!ds.isEmpty && ds.all Char.isDigit) = true ↔ IsNumeral ds := by
    simp [IsNumeral]
  rw [nat?]
  by_cases h : IsNumeral ds
  · rw [if_pos (hnumeral.mpr h), Option.some.injEq, eq_comm]
    exact (and_iff_right h).symm
  · rw [if_neg (mt hnumeral.mp h)]
    simp [h]

theorem cutAt_dash (hlow : IsNumeral low) (high : List Char) :
    cutAt (· = '-') (low ++ '-' :: high) = some (low, high) := by
  apply cutAt_append high _ (by decide)
  intro c hc
  have hdigit := hlow.2 c hc
  apply decide_eq_false
  rintro rfl
  revert hdigit
  decide

theorem range_unique {low' high' : List Char} (hlow : IsNumeral low) (hlow' : IsNumeral low')
    (h : low ++ '-' :: high = low' ++ '-' :: high') : low = low' ∧ high = high' := by
  have hcut := cutAt_dash hlow high
  rw [h, cutAt_dash hlow'] at hcut
  obtain ⟨rfl, rfl⟩ := Prod.mk.inj (Option.some.inj hcut)
  exact ⟨rfl, rfl⟩

theorem not_mem_range {c : Char} (hlow : IsNumeral low) (hhigh : IsNumeral high)
    (hdigit : c.isDigit = false) (hdash : c ≠ '-') : c ∉ low ++ '-' :: high := by
  intro hc
  rcases List.mem_append.mp hc with hc | hc
  · exact Bool.false_ne_true (hdigit.symm.trans (hlow.2 c hc))
  · rcases List.mem_cons.mp hc with hc | hc
    · exact hdash hc
    · exact Bool.false_ne_true (hdigit.symm.trans (hhigh.2 c hc))

theorem itemValues?_of_range (hlow : IsNumeral low) (hhigh : IsNumeral high) :
    itemValues? (low ++ '-' :: high)
      = if natOfDigits low < 2 ^ 63 ∧ natOfDigits high < 2 ^ 63 then
          some (numerals (natOfDigits low) (natOfDigits high))
        else none := by
  have hopening : '[' ∉ low ++ '-' :: high := not_mem_range hlow hhigh (by decide) (by decide)
  have hclosing : ']' ∉ low ++ '-' :: high := not_mem_range hlow hhigh (by decide) (by decide)
  have hbound : ∀ n : Nat, n ≤ maxBound ↔ n < 2 ^ 63 := fun n => by
    rw [maxBound]
    omega
  rw [itemValues?, if_neg (by simp [hopening, hclosing]), cutAt_dash hlow]
  simp only [nat?_eq_some_iff.mpr ⟨hlow, rfl⟩, nat?_eq_some_iff.mpr ⟨hhigh, rfl⟩, hbound,
    Bool.and_eq_true, decide_eq_true_eq]

theorem itemValues?_of_not_range (hitem : IsEntry item) (h : ¬ IsRange item) :
    itemValues? item = some [item] := by
  rw [itemValues?, if_neg (by simp [hitem.ne_nil, hitem.noOpening, hitem.noClosing])]
  cases hcut : cutAt (· = '-') item with
  | none => rfl
  | some parts =>
      obtain ⟨low, high⟩ := parts
      obtain ⟨c, hc, -, heq⟩ := eq_append_of_cutAt hcut
      obtain rfl : c = '-' := of_decide_eq_true hc
      dsimp only
      split
      · next a b hlow hhigh =>
          exact absurd ⟨low, high, heq, (nat?_eq_some_iff.mp hlow).1,
            (nat?_eq_some_iff.mp hhigh).1⟩ h
      · rfl

/-- Numbers that are ascending and lie between two bounds, all of them, have the numerals of the
range. -/
theorem map_toString_eq_numerals {numbers : List Nat} {a b : Nat}
    (hordered : numbers.Pairwise (· < ·))
    (hnumbers : ∀ n, n ∈ numbers ↔ min a b ≤ n ∧ n ≤ max a b) :
    (numbers.map fun n => (toString n).toList) = numerals a b := by
  have hrange : numbers = List.range' (min a b) (max a b - min a b + 1) := by
    apply hordered.eq_of_mem_iff List.pairwise_lt_range'
    intro n
    rw [hnumbers, List.mem_range'_1]
    omega
  rw [numerals, hrange]
  exact List.map_congr_left fun n _ => Nat.toList_repr

/-- A range stands for its numerals and for nothing else. Its dash is the first one of the item, and
a numeral has none, so that the two numbers are determined. -/
theorem standsFor_range_iff {values : List (List Char)} (hlow : IsNumeral low)
    (hhigh : IsNumeral high) :
    StandsFor (low ++ '-' :: high) values
      ↔ values = numerals (natOfDigits low) (natOfDigits high) := by
  constructor
  · intro h
    generalize hitem : low ++ '-' :: high = item at h
    cases h with
    | range hlow' hhigh' hordered hnumbers =>
        obtain ⟨rfl, rfl⟩ := range_unique hlow hlow' hitem
        exact map_toString_eq_numerals hordered hnumbers
    | itself h => exact absurd ⟨low, high, hitem.symm, hlow, hhigh⟩ h
  · rintro rfl
    have hmem : ∀ n, n ∈ List.range' (min (natOfDigits low) (natOfDigits high))
        (max (natOfDigits low) (natOfDigits high) - min (natOfDigits low) (natOfDigits high) + 1) ↔
        min (natOfDigits low) (natOfDigits high) ≤ n ∧
          n ≤ max (natOfDigits low) (natOfDigits high) := by
      intro n
      rw [List.mem_range'_1]
      omega
    rw [← map_toString_eq_numerals List.pairwise_lt_range' hmem]
    exact .range hlow hhigh List.pairwise_lt_range' hmem

theorem standsFor_of_not_range {values : List (List Char)} (h : ¬ IsRange item) :
    StandsFor item values ↔ values = [item] := by
  constructor
  · intro hvalues
    cases hvalues with
    | range hlow hhigh hordered hnumbers => exact absurd ⟨_, _, rfl, hlow, hhigh⟩ h
    | itself _ => rfl
  · rintro rfl
    exact .itself h

/-- An item is refused only if it is a range beyond the bounds. Any other item stands for its
values, be they the numbers of a range or the item itself. -/
theorem itemValues?_eq_some_iff {values : List (List Char)} (hitem : IsEntry item) :
    itemValues? item = some values ↔ WithinBounds item ∧ StandsFor item values := by
  by_cases hrange : IsRange item
  · obtain ⟨low, high, rfl, hlow, hhigh⟩ := hrange
    have hbounds : WithinBounds (low ++ '-' :: high) ↔
        natOfDigits low < 2 ^ 63 ∧ natOfDigits high < 2 ^ 63 := by
      constructor
      · intro h
        exact h low high rfl hlow hhigh
      · intro h low' high' heq hlow' hhigh'
        obtain ⟨rfl, rfl⟩ := range_unique hlow hlow' heq
        exact h
    rw [itemValues?_of_range hlow hhigh, standsFor_range_iff hlow hhigh, hbounds]
    by_cases h : natOfDigits low < 2 ^ 63 ∧ natOfDigits high < 2 ^ 63
    · rw [if_pos h, Option.some.injEq, eq_comm]
      exact (and_iff_right h).symm
    · rw [if_neg h]
      exact iff_of_false (fun hnone => nomatch hnone) fun hboth => h hboth.1
  · have hbounds : WithinBounds item := fun low high heq hlow hhigh =>
      absurd ⟨low, high, heq, hlow, hhigh⟩ hrange
    rw [itemValues?_of_not_range hitem hrange, standsFor_of_not_range hrange, Option.some.injEq,
      eq_comm]
    exact (and_iff_right hbounds).symm

theorem exists_standsFor (item : List Char) : ∃ values, StandsFor item values := by
  by_cases hrange : IsRange item
  · obtain ⟨low, high, rfl, hlow, hhigh⟩ := hrange
    exact ⟨_, (standsFor_range_iff hlow hhigh).mpr rfl⟩
  · exact ⟨_, .itself hrange⟩

/-- The values of an item are made of its characters and of digits. -/
theorem StandsFor.of_mem {values : List (List Char)} {value : List Char} (h : StandsFor item values)
    (hvalue : value ∈ values) : ∀ c ∈ value, c ∈ item ∨ c.isDigit = true := by
  cases h with
  | range hlow hhigh hordered hnumbers =>
      obtain ⟨n, -, rfl⟩ := List.mem_map.mp hvalue
      rw [show (toString n).toList = natNumeral n from Nat.toList_repr]
      exact fun c hc => .inr (isDigit_of_mem_natNumeral hc)
  | itself _ =>
      obtain rfl := List.mem_singleton.mp hvalue
      exact fun c hc => .inl hc

theorem of_itemValues?_eq_some {values : List (List Char)} (h : itemValues? item = some values) :
    item ≠ [] ∧ '[' ∉ item ∧ ']' ∉ item := by
  rw [itemValues?] at h
  split at h
  · cases h
  · next hitem => simpa [and_assoc] using hitem

theorem inner?_eq_some_iff :
    inner? line = some inner ↔ line.filter (!isBlank ·) = '[' :: inner ++ [']'] := by
  rw [inner?]
  constructor
  · intro h
    split at h
    · next rest hrest =>
        split at h
        · next hlast =>
            obtain rfl := Option.some.inj h
            rw [hrest, List.cons_append, List.dropLast_append_getLast? _ hlast]
        · cases h
    · cases h
  · intro h
    rw [h]
    simp

theorem mapM_eq_some_iff {α β : Type} {f : α → Option β} {xs : List α} {ys : List β} :
    xs.mapM f = some ys ↔ List.Forall₂ (fun x y => f x = some y) xs ys := by
  induction xs generalizing ys with
  | nil => simp [eq_comm]
  | cons x xs ih =>
      rw [List.mapM_cons, List.forall₂_cons_left_iff]
      constructor
      · intro h
        obtain ⟨y, hy, h⟩ := Option.bind_eq_some_iff.mp h
        obtain ⟨rest, hrest, h⟩ := Option.bind_eq_some_iff.mp h
        exact ⟨y, rest, hy, ih.mp hrest, (Option.some.inj h).symm⟩
      · rintro ⟨y, rest, hy, hrest, rfl⟩
        rw [hy, ih.mpr hrest]
        rfl

variable {items : List (List Char)} {parts : List (List (List Char))}

/-- Items have their values if no range among them goes beyond the bounds. It is one condition on
all of them, so that a single range refuses the whole line. -/
theorem forall₂_itemValues?_iff (hitems : ∀ item ∈ items, IsEntry item) :
    List.Forall₂ (fun item values => itemValues? item = some values) items parts ↔
      (∀ item ∈ items, WithinBounds item) ∧ List.Forall₂ StandsFor items parts := by
  rw [← List.forall₂_and_left]
  constructor
  · intro h
    refine ((List.forall₂_and_left items parts).mpr ⟨hitems, h⟩).imp ?_
    rintro item values ⟨hitem, hvalues⟩
    exact (itemValues?_eq_some_iff hitem).mp hvalues
  · intro h
    refine ((List.forall₂_and_left items parts).mpr ⟨hitems, h⟩).imp ?_
    rintro item values ⟨hitem, hvalues⟩
    exact (itemValues?_eq_some_iff hitem).mpr hvalues

theorem exists_of_mem_flatten {value : List Char} (h : List.Forall₂ StandsFor items parts)
    (hvalue : value ∈ parts.flatten) :
    ∃ item ∈ items, ∃ values, StandsFor item values ∧ value ∈ values := by
  induction h with
  | nil => cases hvalue
  | cons hstands _ ih =>
      rw [List.flatten_cons, List.mem_append] at hvalue
      rcases hvalue with hvalue | hvalue
      · exact ⟨_, List.mem_cons_self, _, hstands, hvalue⟩
      · obtain ⟨item, hitem, hrest⟩ := ih hvalue
        exact ⟨item, List.mem_cons_of_mem _ hitem, hrest⟩

theorem exists_forall₂_standsFor (items : List (List Char)) :
    ∃ parts, List.Forall₂ StandsFor items parts := by
  induction items with
  | nil => exact ⟨[], .nil⟩
  | cons item items ih =>
      obtain ⟨parts, hparts⟩ := ih
      obtain ⟨values, hvalues⟩ := exists_standsFor item
      exact ⟨values :: parts, .cons hvalues hparts⟩

theorem comma_not_mem_of_mem_splitOn (h : item ∈ inner.splitOn ',') : ',' ∉ item := by
  rw [List.splitOn_eq_splitOnP] at h
  intro hc
  simpa using (of_mem_splitOnP h ',' hc).1

/-- The pieces between the commas of an accepted line are its items. None of them is empty or has a
bracket, as an item like this has no values. -/
theorem lists_splitOn (hinner : inner? line = some inner)
    (h : List.Forall₂ (fun item values => itemValues? item = some values)
      (inner.splitOn ',') parts) :
    Lists line (inner.splitOn ',') where
  nonempty := List.splitOn_ne_nil ',' inner
  line_eq := by
    rw [List.intercalate_splitOn]
    exact inner?_eq_some_iff.mp hinner
  isItem := by
    intro item hitem
    obtain ⟨i, hi, rfl⟩ := List.getElem_of_mem hitem
    have hparts : i < parts.length := h.length_eq ▸ hi
    obtain ⟨hne, hopening, hclosing⟩ := of_itemValues?_eq_some (h.get hi hparts)
    exact ⟨hne, comma_not_mem_of_mem_splitOn hitem, hopening, hclosing⟩

/-- A line has values if it lists items of which no range goes beyond the bounds, and these are the
values of its items in their order. -/
theorem parse?_eq_some_iff {values : List String} :
    parse? line = some values ↔
      ∃ items parts, Lists line items ∧ (∀ item ∈ items, WithinBounds item) ∧
        List.Forall₂ StandsFor items parts ∧ values = parts.flatten.map String.ofList := by
  constructor
  · intro h
    obtain ⟨inner, hinner, h⟩ := Option.bind_eq_some_iff.mp h
    obtain ⟨parts, hparts, h⟩ := Option.bind_eq_some_iff.mp h
    have hvalues := mapM_eq_some_iff.mp hparts
    have hlists := lists_splitOn hinner hvalues
    obtain ⟨hbounds, hstands⟩ := (forall₂_itemValues?_iff hlists.isItem).mp hvalues
    exact ⟨_, parts, hlists, hbounds, hstands, (Option.some.inj h).symm⟩
  · rintro ⟨items, parts, hlists, hbounds, hstands, rfl⟩
    have hsplit : ([','].intercalate items).splitOn ',' = items :=
      List.splitOn_intercalate ',' (fun item hitem => (hlists.isItem item hitem).noComma)
        hlists.nonempty
    have hvalues := (forall₂_itemValues?_iff hlists.isItem).mpr ⟨hbounds, hstands⟩
    rw [parse?, inner?_eq_some_iff.mpr hlists.line_eq]
    change (([','].intercalate items).splitOn ',').mapM itemValues? >>= _ = _
    rw [hsplit, mapM_eq_some_iff.mpr hvalues]
    rfl

/-- A parameter line is accepted if it lists items in brackets, blanks left out, and no range among
them goes beyond 64 bits. Its values are those of the items in their order, and each of them can
stand in a name: it is not empty and holds no blanks, commas or brackets. -/
theorem parse?_exact (line : List Char) :
    ((∃ values, parse? line = some values) ↔
      ∃ items, Lists line items ∧ ∀ item ∈ items, WithinBounds item) ∧
    ∀ values, (parse? line = some values ↔
        ∃ items parts, Lists line items ∧ (∀ item ∈ items, WithinBounds item) ∧
          List.Forall₂ StandsFor items parts ∧ values = parts.flatten.map String.ofList) ∧
      (parse? line = some values → ∀ value ∈ values, value.toList ≠ [] ∧
        ∀ c ∈ value.toList, isBlank c = false ∧ c ≠ ',' ∧ c ≠ '[' ∧ c ≠ ']') := by
  refine ⟨⟨?_, ?_⟩, fun values => ⟨parse?_eq_some_iff, ?_⟩⟩
  · rintro ⟨values, h⟩
    obtain ⟨items, parts, hlists, hbounds, -, -⟩ := parse?_eq_some_iff.mp h
    exact ⟨items, hlists, hbounds⟩
  · rintro ⟨items, hlists, hbounds⟩
    obtain ⟨parts, hparts⟩ := exists_forall₂_standsFor items
    exact ⟨_, parse?_eq_some_iff.mpr ⟨items, parts, hlists, hbounds, hparts, rfl⟩⟩
  · intro h value hvalue
    obtain ⟨⟨hne, hblank⟩, hcomma⟩ := isParameter_of_parse h value hvalue
    obtain ⟨items, parts, hlists, -, hparts, rfl⟩ := parse?_eq_some_iff.mp h
    obtain ⟨chars, hchars, rfl⟩ := List.mem_map.mp hvalue
    obtain ⟨item, hitem, found, hstands, hfound⟩ := exists_of_mem_flatten hparts hchars
    have hbracket : ∀ c : Char, c.isDigit = false → c ∉ item → c ∉ chars := by
      intro c hdigit hnot hc
      rcases hstands.of_mem hfound c hc with hin | hin
      · exact hnot hin
      · exact Bool.false_ne_true (hdigit.symm.trans hin)
    have hopening := hbracket '[' (by decide) (hlists.isItem item hitem).noOpening
    have hclosing := hbracket ']' (by decide) (hlists.isItem item hitem).noClosing
    rw [String.toList_ofList] at hne hblank hcomma ⊢
    refine ⟨hne, fun c hc => ⟨hblank c hc, ?_, ?_, ?_⟩⟩
    · rintro rfl
      exact hcomma hc
    · rintro rfl
      exact hopening hc
    · rintro rfl
      exact hclosing hc

/-- A reversed range with a leading zero, and an item with two dashes. -/
def mixedLine : List Char :=
  "[ 03 -1, a-1-b ]".toList

theorem lists_mixedLine : Lists mixedLine ["03-1".toList, "a-1-b".toList] where
  nonempty := by decide
  line_eq := by decide
  isItem := by
    intro item hitem
    rcases List.mem_pair.mp hitem with rfl | rfl
      <;> exact ⟨by decide, by decide, by decide, by decide⟩

theorem not_isRange_mixed : ¬ IsRange "a-1-b".toList := by
  rintro ⟨low, high, heq, ⟨hne, hlow⟩, -⟩
  cases low with
  | nil => exact hne rfl
  | cons c low =>
      obtain ⟨rfl, -⟩ := List.cons.inj heq
      exact absurd (hlow 'a' List.mem_cons_self) (by decide)

theorem parse?_exact_mixedLine :
    parse? mixedLine = some ["1", "2", "3", "a-1-b"] ∧
      ∀ value ∈ ["1", "2", "3", "a-1-b"], value.toList ≠ [] ∧
        ∀ c ∈ value.toList, isBlank c = false ∧ c ≠ ',' ∧ c ≠ '[' ∧ c ≠ ']' := by
  have hlow : IsNumeral ['0', '3'] := ⟨by decide, List.all_eq_true.mp (by decide)⟩
  have hhigh : IsNumeral ['1'] := ⟨by decide, List.all_eq_true.mp (by decide)⟩
  have hnumbers : StandsFor "03-1".toList [['1'], ['2'], ['3']] := by
    have hmem : ∀ n, n ∈ [1, 2, 3] ↔ min (natOfDigits ['0', '3']) (natOfDigits ['1']) ≤ n ∧
        n ≤ max (natOfDigits ['0', '3']) (natOfDigits ['1']) := by
      intro n
      rw [show natOfDigits ['0', '3'] = 3 from rfl, show natOfDigits ['1'] = 1 from rfl]
      simp
      omega
    exact .range hlow hhigh (by decide) hmem
  have hbounds : ∀ item ∈ ["03-1".toList, "a-1-b".toList], WithinBounds item := by
    intro item hitem
    rcases List.mem_pair.mp hitem with rfl | rfl
    · intro low high heq hlow' hhigh'
      obtain ⟨rfl, rfl⟩ := range_unique hlow hlow' heq
      decide
    · intro low high heq hlow' hhigh'
      exact absurd ⟨low, high, heq, hlow', hhigh'⟩ not_isRange_mixed
  obtain ⟨-, hexact⟩ := parse?_exact mixedLine
  obtain ⟨hvalues, hshape⟩ := hexact ["1", "2", "3", "a-1-b"]
  have hparse := hvalues.mpr ⟨_, _, lists_mixedLine, hbounds,
    .cons hnumbers (.cons (.itself not_isRange_mixed) .nil), by decide⟩
  exact ⟨hparse, hshape hparse⟩

end LayoutSpec.Parameters
