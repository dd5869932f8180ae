import LayoutSpec.Constraint.Reader
import LayoutSpec.Proofs.Text.Cutting

/-!
Constraints that a spec can state. Reading yields no others, and each of them has a line.
-/

namespace LayoutSpec

open Text

/-- A name that ends at the next blank. -/
def IsWord (name : String) : Prop :=
  name.toList ≠ [] ∧ ∀ c ∈ name.toList, isBlank c = false

/-- A name that stands alone between two commas. -/
def IsItem (name : String) : Prop :=
  trim name.toList = name.toList ∧ name.toList ≠ [] ∧ ',' ∉ name.toList

/-- A deviation that a spec can allow. -/
def IsTolerance (n : Int) : Prop :=
  0 ≤ n ∧ isPixel n = true

instance (name : String) : Decidable (IsWord name) :=
  decidable_of_iff (name.toList ≠ [] ∧ name.toList.all (!isBlank ·) = true)
    (and_congr_right' (by simp))

instance (name : String) : Decidable (IsItem name) :=
  inferInstanceAs (Decidable (_ ∧ _ ∧ _))

instance (n : Int) : Decidable (IsTolerance n) :=
  inferInstanceAs (Decidable (_ ∧ _))

/-- The bounds are pixel numbers, and the lesser one is the lower. -/
def PixelRange.WellFormed : PixelRange → Prop
  | .exactly value => isPixel value = true
  | .between low high => low ≤ high ∧ isPixel low = true ∧ isPixel high = true
  | .atLeast low => isPixel low = true

instance (r : PixelRange) : Decidable r.WellFormed :=
  match r with
  | .exactly value => inferInstanceAs (Decidable (isPixel value = true))
  | .between low high =>
    inferInstanceAs (Decidable (low ≤ high ∧ isPixel low = true ∧ isPixel high = true))
  | .atLeast low => inferInstanceAs (Decidable (isPixel low = true))

/-- A distance has to be measured from some side. -/
def Location.WellFormed (l : Location) : Prop :=
  l.range.WellFormed ∧ l.sides ≠ []

instance (l : Location) : Decidable l.WellFormed :=
  inferInstanceAs (Decidable (_ ∧ _))

namespace Constraint

/-- What the parts of a constraint have to be so that a line can state it. -/
def WellFormed : Constraint → Prop
  | .absent | .visible => True
  | .width range | .height range => range.WellFormed
  | .inside object _ locations => IsWord object ∧ ∀ l ∈ locations, l.WellFormed
  | .near object locations =>
    IsWord object ∧ locations ≠ [] ∧ ∀ l ∈ locations, l.WellFormed
  | .relative _ object range => IsWord object ∧ range.WellFormed
  | .aligned axis edge object tolerance =>
    AlignEdge.isLegal axis edge = true ∧ IsWord object ∧ IsTolerance tolerance
  | .centered _ _ object tolerance => IsWord object ∧ IsTolerance tolerance
  | .contains _ objects => objects ≠ [] ∧ ∀ name ∈ objects, IsItem name
  | .text operation expected =>
    operation = .matches → Regex.compiles expected.toList = true
  | .component spec => trim spec.text.toList = spec.text.toList ∧ spec.text.toList ≠ []

instance (c : Constraint) : Decidable c.WellFormed :=
  match c with
  | .absent | .visible => inferInstanceAs (Decidable True)
  | .width range | .height range => inferInstanceAs (Decidable range.WellFormed)
  | .inside object _ locations =>
    decidable_of_iff (IsWord object ∧ locations.all (decide ·.WellFormed) = true)
      (and_congr_right' (by simp))
  | .near object locations =>
    decidable_of_iff
      (IsWord object ∧ locations ≠ [] ∧ locations.all (decide ·.WellFormed) = true)
      (and_congr_right' (and_congr_right' (by simp)))
  | .relative _ _ _ => inferInstanceAs (Decidable (_ ∧ _))
  | .aligned _ _ _ _ => inferInstanceAs (Decidable (_ ∧ _ ∧ _))
  | .centered _ _ _ _ => inferInstanceAs (Decidable (_ ∧ _))
  | .contains _ objects =>
    decidable_of_iff (objects ≠ [] ∧ objects.all (decide <| IsItem ·) = true)
      (and_congr_right' (by simp))
  | .text operation expected =>
    inferInstanceAs (Decidable (operation = .matches → Regex.compiles expected.toList = true))
  | .component _ => inferInstanceAs (Decidable (_ ∧ _))

/-- The names, the texts and the paths in a constraint. -/
def strings : Constraint → List String
  | .absent | .visible | .width _ | .height _ => []
  | .inside object _ _ | .near object _ | .relative _ object _ | .aligned _ _ object _
  | .centered _ _ object _ => [object]
  | .contains _ objects => objects
  | .text _ expected => [expected]
  | .component spec => [spec.text]

/-- No line feed is in the constraint, so that it has its place on one line. -/
def OnOneLine (c : Constraint) : Prop :=
  ∀ s ∈ c.strings, '\n' ∉ s.toList

instance (c : Constraint) : Decidable c.OnOneLine :=
  decidable_of_iff (c.strings.all (!·.toList.contains '\n') = true) (by simp [OnOneLine])

end Constraint

/-- A value that a parameter line can give. -/
def IsParameter (value : String) : Prop :=
  IsWord value ∧ ',' ∉ value.toList

theorem toList_substituteParameter (value name : String) :
    (substituteParameter value name).toList = substitute '@' value.toList name.toList :=
  String.toList_ofList

/-- Every character of a text with a replaced character is one of the text or of the new value. -/
theorem mem_substitute {c d : Char} {value cs : List Char} (h : d ∈ substitute c value cs) :
    d ∈ value ∨ d ∈ cs := by
  rw [substitute, List.mem_flatMap] at h
  obtain ⟨e, he, hd⟩ := h
  by_cases hc : e = c
  · rw [if_pos hc] at hd
    exact Or.inl hd
  · rw [if_neg hc, List.mem_singleton] at hd
    exact Or.inr (hd ▸ he)

theorem substitute_ne_nil {c : Char} {value cs : List Char} (hvalue : value ≠ []) (hcs : cs ≠ []) :
    substitute c value cs ≠ [] := by
  cases cs with
  | nil => exact absurd rfl hcs
  | cons d cs => by_cases hd : d = c <;> simp [substitute, hd, hvalue]

theorem head?_substitute {c d : Char} {value cs : List Char} (hvalue : value ≠ [])
    (h : d ∈ (substitute c value cs).head?) : d ∈ value.head? ∨ d ∈ cs.head? := by
  cases cs with
  | nil => simp [substitute] at h
  | cons e cs =>
      by_cases he : e = c
      · cases value with
        | nil => exact absurd rfl hvalue
        | cons v value => exact Or.inl (by simpa [substitute, he] using h)
      · exact Or.inr (by simpa [substitute, he] using h)

theorem getLast?_substitute {c d : Char} {value cs : List Char} (hvalue : value ≠ [])
    (h : d ∈ (substitute c value cs).getLast?) : d ∈ value.getLast? ∨ d ∈ cs.getLast? := by
  have hreverse : (substitute c value cs).reverse = substitute c value.reverse cs.reverse := by
    simp only [substitute, List.reverse_flatMap]
    congr 1
    funext e
    by_cases he : e = c <;> simp [he]
  have hhead : d ∈ (substitute c value.reverse cs.reverse).head? := by
    rw [← hreverse, List.head?_reverse]
    exact h
  simpa using head?_substitute (by simpa using hvalue) hhead

theorem IsWord.substituteParameter {value name : String} (hname : IsWord name)
    (hvalue : IsParameter value) : IsWord (substituteParameter value name) := by
  rw [IsWord, toList_substituteParameter]
  refine ⟨substitute_ne_nil hvalue.1.1 hname.1, ?_⟩
  intro c hc
  rcases mem_substitute hc with hc | hc
  · exact hvalue.1.2 c hc
  · exact hname.2 c hc

/-- A text stays trimmed if a character is replaced by a value without blanks. The value is not
empty, as otherwise a blank within the text could come to its end. -/
theorem trim_substitute {c : Char} {value cs : List Char} (hne : value ≠ [])
    (hvalue : ∀ d ∈ value, isBlank d = false) (hcs : trim cs = cs) :
    trim (substitute c value cs) = substitute c value cs := by
  obtain ⟨hhead, hlast⟩ := trim_eq_self_iff.mp hcs
  refine trim_eq_self_iff.mpr ⟨?_, ?_⟩
  · intro d hd
    rcases head?_substitute hne hd with hd | hd
    · exact hvalue d (List.mem_of_head? hd)
    · exact hhead d hd
  · intro d hd
    rcases getLast?_substitute hne hd with hd | hd
    · exact hvalue d (List.mem_of_getLast? hd)
    · exact hlast d hd

theorem IsItem.substituteParameter {value name : String} (hname : IsItem name)
    (hvalue : IsParameter value) : IsItem (substituteParameter value name) := by
  rw [IsItem, toList_substituteParameter]
  refine ⟨trim_substitute hvalue.1.1 hvalue.1.2 hname.1,
    substitute_ne_nil hvalue.1.1 hname.2.1, ?_⟩
  intro hc
  rcases mem_substitute hc with hc | hc
  · exact hvalue.2 hc
  · exact hname.2.2 hc

namespace Constraint

/-- A parameter leaves a constraint well-formed. Values have no blanks and no commas, so that names
in the constraint stay single words and single items. -/
theorem WellFormed.withParameter {value : String} {c : Constraint} (hc : c.WellFormed)
    (hvalue : IsParameter value) : (c.withParameter value).WellFormed := by
  cases c with
  | absent => exact hc
  | visible => exact hc
  | width range => exact hc
  | height range => exact hc
  | inside object partly locations => exact ⟨hc.1.substituteParameter hvalue, hc.2⟩
  | near object locations => exact ⟨hc.1.substituteParameter hvalue, hc.2⟩
  | relative direction object range => exact ⟨hc.1.substituteParameter hvalue, hc.2⟩
  | aligned axis edge object tolerance =>
      exact ⟨hc.1, hc.2.1.substituteParameter hvalue, hc.2.2⟩
  | centered axis relation object tolerance => exact ⟨hc.1.substituteParameter hvalue, hc.2⟩
  | contains partly objects =>
      refine ⟨by simpa using hc.1, ?_⟩
      intro name hname
      obtain ⟨old, hold, rfl⟩ := List.mem_map.mp hname
      exact (hc.2 old hold).substituteParameter hvalue
  | text operation expected => exact hc
  | component spec => exact hc

theorem feed_not_mem_substituteParameter {value name : String} (hname : '\n' ∉ name.toList)
    (hvalue : IsParameter value) : '\n' ∉ (substituteParameter value name).toList := by
  rw [toList_substituteParameter]
  intro hc
  rcases mem_substitute hc with hc | hc
  · have hblank := hvalue.1.2 '\n' hc
    revert hblank
    decide
  · exact hname hc

theorem OnOneLine.withParameter {value : String} {c : Constraint} (hc : c.OnOneLine)
    (hvalue : IsParameter value) : (c.withParameter value).OnOneLine := by
  have hsub : ∀ name ∈ c.strings, '\n' ∉ (substituteParameter value name).toList :=
    fun name hname => feed_not_mem_substituteParameter (hc name hname) hvalue
  cases c with
  | absent => exact hc
  | visible => exact hc
  | width range => exact hc
  | height range => exact hc
  | inside object partly locations =>
    simpa [OnOneLine, strings, Constraint.withParameter] using hsub
  | near object locations => simpa [OnOneLine, strings, Constraint.withParameter] using hsub
  | relative direction object range =>
    simpa [OnOneLine, strings, Constraint.withParameter] using hsub
  | aligned axis edge object tolerance =>
    simpa [OnOneLine, strings, Constraint.withParameter] using hsub
  | centered axis relation object tolerance =>
    simpa [OnOneLine, strings, Constraint.withParameter] using hsub
  | contains partly objects => simpa [OnOneLine, strings, Constraint.withParameter] using hsub
  | text operation expected => exact hc
  | component spec => exact hc

end Constraint

end LayoutSpec
