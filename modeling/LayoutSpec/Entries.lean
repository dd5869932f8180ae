/-!
Values under keys, in the order in which the keys were first put in. Putting a value in keeps the
keys distinct.
-/

namespace LayoutSpec

section

variable {α β : Type} [DecidableEq α]

/-- Puts a value under a key. A key that is there already keeps its place and gets the new value. -/
def putEntry (key : α) (value : β) (entries : List (α × β)) : List (α × β) :=
  if entries.any fun entry => entry.1 = key then
    entries.map fun entry => if entry.1 = key then (key, value) else entry
  else entries ++ [(key, value)]

def putEntries (new entries : List (α × β)) : List (α × β) :=
  new.foldl (fun entries entry => putEntry entry.1 entry.2 entries) entries

def HasKey (key : α) (entries : List (α × β)) : Prop :=
  key ∈ entries.map Prod.fst

/-- The entry, with another value if it is the one of the key. -/
def replaceValue (key : α) (value : β) (entry : α × β) : α × β :=
  if entry.1 = key then (key, value) else entry

variable {key : α} {value : β} {entries : List (α × β)}

theorem any_eq_true_iff :
    (entries.any fun entry => entry.1 = key) = true ↔ HasKey key entries := by
  simp [HasKey]

theorem putEntry_of_hasKey (h : HasKey key entries) (value : β) :
    putEntry key value entries = entries.map (replaceValue key value) := by
  rw [putEntry, if_pos (any_eq_true_iff.mpr h)]
  rfl

theorem putEntry_of_not_hasKey (h : ¬ HasKey key entries) (value : β) :
    putEntry key value entries = entries ++ [(key, value)] := by
  rw [putEntry, if_neg (mt any_eq_true_iff.mp h)]

theorem keys_map_replaceValue (key : α) (value : β) (entries : List (α × β)) :
    (entries.map (replaceValue key value)).map Prod.fst = entries.map Prod.fst := by
  have hkeys : Prod.fst ∘ replaceValue key value = Prod.fst := by
    funext entry
    simp only [Function.comp_apply, replaceValue]
    split
    · next heq => exact heq.symm
    · rfl
  rw [List.map_map, hkeys]

/-- A key that is there keeps its place among the keys, and another one comes behind them. This is
why no key is there twice. -/
theorem nodup_putEntry (h : (entries.map Prod.fst).Nodup) (key : α) (value : β) :
    ((putEntry key value entries).map Prod.fst).Nodup := by
  by_cases hkey : HasKey key entries
  · rw [putEntry_of_hasKey hkey, keys_map_replaceValue]
    exact h
  · rw [putEntry_of_not_hasKey hkey, List.map_append, List.nodup_append]
    refine ⟨h, List.pairwise_singleton _ key, ?_⟩
    rintro other hother _ hnew rfl
    obtain rfl : other = key := List.mem_singleton.mp hnew
    exact hkey hother

theorem nodup_putEntries (h : (entries.map Prod.fst).Nodup) (new : List (α × β)) :
    ((putEntries new entries).map Prod.fst).Nodup := by
  induction new generalizing entries with
  | nil => exact h
  | cons entry new ih => exact ih (nodup_putEntry h entry.1 entry.2)

end

/-- What is found under a key is one of the entries. -/
theorem mem_of_lookup_eq_some {α β : Type} [BEq α] [LawfulBEq α] {key : α} {value : β}
    {entries : List (α × β)} (h : entries.lookup key = some value) : (key, value) ∈ entries := by
  obtain ⟨before, after, rfl, -⟩ := List.lookup_eq_some_iff.mp h
  simp

end LayoutSpec
