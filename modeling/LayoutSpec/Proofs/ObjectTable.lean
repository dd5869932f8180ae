import LayoutSpec.ObjectTable
import Mathlib.Data.List.Nodup

/-!
Declarations one after another. A table that is put into another one does the same there as the
declarations that made it, whichever names they share, and under each name the locator is found that
was declared last.
-/

namespace LayoutSpec

section Entries

variable {α β : Type} [DecidableEq α]

variable {key other : α} {value found : β} {entries new : List (α × β)}

theorem hasKey_map_replaceValue :
    HasKey other (entries.map (replaceValue key value)) ↔ HasKey other entries := by
  rw [HasKey, keys_map_replaceValue, HasKey]

theorem hasKey_putEntry :
    HasKey other (putEntry key value entries) ↔ other = key ∨ HasKey other entries := by
  by_cases h : HasKey key entries
  · rw [putEntry_of_hasKey h, hasKey_map_replaceValue]
    constructor
    · exact .inr
    · rintro (rfl | hother)
      · exact h
      · exact hother
  · rw [putEntry_of_not_hasKey h, HasKey, List.map_append, List.mem_append, or_comm]
    simp [HasKey]

theorem mem_putEntry {entry : α × β} (h : entry ∈ putEntry key value entries) :
    entry = (key, value) ∨ entry ∈ entries := by
  by_cases hkey : HasKey key entries
  · rw [putEntry_of_hasKey hkey] at h
    obtain ⟨old, hold, rfl⟩ := List.mem_map.mp h
    rw [replaceValue]
    split
    · exact .inl rfl
    · exact .inr hold
  · rw [putEntry_of_not_hasKey hkey, List.mem_append, List.mem_singleton] at h
    exact h.symm

theorem replaceValue_replaceValue (entry : α × β) :
    replaceValue key value (replaceValue key found entry) = replaceValue key value entry := by
  simp only [replaceValue]
  split <;> simp_all

theorem replaceValue_comm (h : key ≠ other) (entry : α × β) :
    replaceValue key value (replaceValue other found entry)
      = replaceValue other found (replaceValue key value entry) := by
  simp only [replaceValue]
  split <;> split <;> simp_all

/-- The last value under a key is the one that stays. Its place is that of the first one. -/
theorem putEntry_putEntry_self :
    putEntry key value (putEntry key found entries) = putEntry key value entries := by
  have hagain : HasKey key (putEntry key found entries) := hasKey_putEntry.mpr (.inl rfl)
  rw [putEntry_of_hasKey hagain]
  by_cases h : HasKey key entries
  · rw [putEntry_of_hasKey h, putEntry_of_hasKey h, List.map_map]
    exact List.map_congr_left fun entry _ => replaceValue_replaceValue entry
  · have hsame : entries.map (replaceValue key value) = entries := by
      rw [List.map_congr_left (g := id), List.map_id]
      intro entry hentry
      exact if_neg fun heq => h (List.mem_map.mpr ⟨entry, hentry, heq⟩)
    rw [putEntry_of_not_hasKey h, putEntry_of_not_hasKey h, List.map_append, hsame]
    simp [replaceValue]

/-- A key that has its place can get its value before or behind another key. Without a place of its
own the order of the two would be the order of the entries. -/
theorem putEntry_comm (hne : key ≠ other) (h : HasKey key entries) :
    putEntry key value (putEntry other found entries)
      = putEntry other found (putEntry key value entries) := by
  have hnext : HasKey key (putEntry other found entries) := hasKey_putEntry.mpr (.inr h)
  rw [putEntry_of_hasKey hnext, putEntry_of_hasKey h]
  by_cases hother : HasKey other entries
  · rw [putEntry_of_hasKey hother, putEntry_of_hasKey (hasKey_map_replaceValue.mpr hother),
      List.map_map, List.map_map]
    exact List.map_congr_left fun entry _ => replaceValue_comm hne entry
  · have hnot : ¬ HasKey other (entries.map (replaceValue key value)) := fun hmap =>
      hother (hasKey_map_replaceValue.mp hmap)
    rw [putEntry_of_not_hasKey hother, putEntry_of_not_hasKey hnot, List.map_append]
    simp [replaceValue, hne.symm]

theorem putEntries_cons (entry : α × β) (new entries : List (α × β)) :
    putEntries (entry :: new) entries = putEntries new (putEntry entry.1 entry.2 entries) :=
  rfl

theorem putEntries_append (first rest entries : List (α × β)) :
    putEntries (first ++ rest) entries = putEntries rest (putEntries first entries) :=
  List.foldl_append

/-- A key that has its place gets its last value, whether this one comes at the end or in the place
of each other value. -/
theorem putEntry_putEntries (h : HasKey key entries) :
    putEntry key value (putEntries new entries)
      = putEntries (new.map (replaceValue key value)) (putEntry key value entries) := by
  induction new generalizing entries with
  | nil => rfl
  | cons entry new ih =>
      obtain ⟨other, found⟩ := entry
      rw [putEntries_cons, ih (hasKey_putEntry.mpr (.inr h)), List.map_cons, putEntries_cons,
        replaceValue]
      by_cases heq : other = key
      · subst heq
        rw [if_pos rfl, putEntry_putEntry_self, putEntry_putEntry_self]
      · rw [if_neg heq, putEntry_comm (Ne.symm heq) h]

theorem putEntries_map_replaceValue (h : HasKey key new) :
    putEntries (new.map (replaceValue key value)) entries
      = putEntry key value (putEntries new entries) := by
  induction new generalizing entries with
  | nil => cases h
  | cons entry new ih =>
      obtain ⟨other, found⟩ := entry
      rw [List.map_cons, putEntries_cons, putEntries_cons, replaceValue]
      by_cases heq : other = key
      · subst heq
        rw [if_pos rfl, putEntry_putEntries (hasKey_putEntry.mpr (.inl rfl)),
          putEntry_putEntry_self]
      · rw [if_neg heq]
        exact ih ((List.mem_cons.mp h).resolve_left (Ne.symm heq))

theorem putEntries_putEntry (key : α) (value : β) (new entries : List (α × β)) :
    putEntries (putEntry key value new) entries = putEntry key value (putEntries new entries) := by
  by_cases h : HasKey key new
  · rw [putEntry_of_hasKey h, putEntries_map_replaceValue h]
  · rw [putEntry_of_not_hasKey h, putEntries_append]
    rfl

theorem putEntries_putEntries (last new entries : List (α × β)) :
    putEntries (putEntries last new) entries = putEntries last (putEntries new entries) := by
  induction last generalizing new with
  | nil => rfl
  | cons entry last ih => rw [putEntries_cons, putEntries_cons, ih, putEntries_putEntry]

theorem lookup_map_replaceValue_self (h : HasKey key entries) (value : β) :
    (entries.map (replaceValue key value)).lookup key = some value := by
  induction entries with
  | nil => cases h
  | cons entry entries ih =>
      rw [List.map_cons, replaceValue]
      by_cases heq : entry.1 = key
      · rw [if_pos heq, List.lookup_cons_self]
      · have hrest : HasKey key entries := (List.mem_cons.mp h).resolve_left (Ne.symm heq)
        rw [if_neg heq, List.lookup_cons, beq_eq_false_iff_ne.mpr (Ne.symm heq)]
        exact ih hrest

theorem lookup_map_replaceValue_of_ne (h : other ≠ key) (value : β) (entries : List (α × β)) :
    (entries.map (replaceValue key value)).lookup other = entries.lookup other := by
  induction entries with
  | nil => rfl
  | cons entry entries ih =>
      rw [List.map_cons, replaceValue]
      by_cases heq : entry.1 = key
      · rw [if_pos heq, List.lookup_cons, List.lookup_cons, heq, beq_eq_false_iff_ne.mpr h]
        exact ih
      · rw [if_neg heq, List.lookup_cons, List.lookup_cons, ih]

theorem lookup_eq_none_iff_not_hasKey : entries.lookup key = none ↔ ¬ HasKey key entries := by
  rw [List.lookup_eq_none_iff, HasKey, List.mem_map]
  simp only [bne_iff_ne, ne_eq, not_exists, not_and]
  exact forall₂_congr fun entry _ => not_congr eq_comm

/-- What is found after a value was put under a key: the value under this key, and what was there
before under the others. -/
theorem lookup_putEntry (key other : α) (value : β) (entries : List (α × β)) :
    (putEntry key value entries).lookup other
      = if other = key then some value else entries.lookup other := by
  by_cases hkey : HasKey key entries
  · rw [putEntry_of_hasKey hkey]
    by_cases heq : other = key
    · rw [if_pos heq, heq, lookup_map_replaceValue_self hkey]
    · rw [if_neg heq, lookup_map_replaceValue_of_ne heq]
  · rw [putEntry_of_not_hasKey hkey, List.lookup_append]
    by_cases heq : other = key
    · rw [if_pos heq, heq, lookup_eq_none_iff_not_hasKey.mpr hkey, List.lookup_cons_self,
        Option.none_or]
    · rw [if_neg heq, List.lookup_cons, beq_eq_false_iff_ne.mpr heq]
      exact Option.or_none

/-- The last value under a key is the one that is found. -/
theorem lookup_putEntries (new entries : List (α × β)) (key : α) :
    (putEntries new entries).lookup key = (new.reverse.lookup key).or (entries.lookup key) := by
  induction new generalizing entries with
  | nil => rfl
  | cons entry new ih =>
      rw [putEntries_cons, ih, lookup_putEntry, List.reverse_cons, List.lookup_append,
        Option.or_assoc]
      by_cases heq : key = entry.1
      · rw [if_pos heq, heq, List.lookup_cons_self, Option.some_or]
      · rw [if_neg heq, List.lookup_cons, beq_eq_false_iff_ne.mpr heq, List.lookup_nil,
          Option.none_or]

/-- Entries whose keys are new and distinct come behind the ones that are there, as they are. -/
theorem putEntries_of_nodup (h : ((entries ++ new).map Prod.fst).Nodup) :
    putEntries new entries = entries ++ new := by
  induction new generalizing entries with
  | nil => exact (List.append_nil entries).symm
  | cons entry new ih =>
      have hkey : ¬ HasKey entry.1 entries := by
        rw [List.map_append, List.map_cons, List.nodup_append] at h
        intro hkey
        exact h.2.2 entry.1 hkey entry.1 List.mem_cons_self rfl
      rw [putEntries_cons, putEntry_of_not_hasKey hkey, ih (by simpa using h), List.append_assoc,
        List.singleton_append]

theorem lookup_eq_some_iff_of_nodup (h : (entries.map Prod.fst).Nodup) :
    entries.lookup key = some value ↔ (key, value) ∈ entries := by
  refine ⟨mem_of_lookup_eq_some, fun hmem => ?_⟩
  induction entries with
  | nil => cases hmem
  | cons entry entries ih =>
      rw [List.map_cons, List.nodup_cons] at h
      rcases List.mem_cons.mp hmem with rfl | hmem
      · exact List.lookup_cons_self
      · have hne : key ≠ entry.1 := by
          rintro rfl
          exact h.1 (List.mem_map.mpr ⟨_, hmem, rfl⟩)
        rw [List.lookup_cons, beq_eq_false_iff_ne.mpr hne]
        exact ih h.2 hmem

/-- What is there already can be put in again. -/
theorem putEntry_of_mem (hkeys : (entries.map Prod.fst).Nodup) (h : (key, value) ∈ entries) :
    putEntry key value entries = entries := by
  have hkey : HasKey key entries := List.mem_map.mpr ⟨_, h, rfl⟩
  rw [putEntry_of_hasKey hkey, List.map_congr_left (g := id), List.map_id]
  rintro ⟨other, found⟩ hentry
  by_cases heq : other = key
  · subst heq
    have hfound := (lookup_eq_some_iff_of_nodup hkeys).mpr hentry
    have hvalue := (lookup_eq_some_iff_of_nodup hkeys).mpr h
    obtain rfl : found = value := Option.some.inj (hfound.symm.trans hvalue)
    exact if_pos rfl
  · exact if_neg heq

theorem putEntries_of_subset (hkeys : (entries.map Prod.fst).Nodup) (h : new ⊆ entries) :
    putEntries new entries = entries := by
  induction new with
  | nil => rfl
  | cons entry new ih =>
      obtain ⟨hentry, hnew⟩ := List.cons_subset.mp h
      rw [putEntries_cons, putEntry_of_mem hkeys hentry]
      exact ih hnew

section

variable {γ : Type} {f : γ → List (α × β)}

theorem lookup_reverse_flatMap (xs : List γ) :
    (xs.flatMap f).reverse.lookup key = xs.reverse.findSome? fun x => (f x).reverse.lookup key := by
  induction xs with
  | nil => rfl
  | cons x xs ih =>
      rw [List.flatMap_cons, List.reverse_append, List.lookup_append, ih, List.reverse_cons,
        List.findSome?_append, List.findSome?_singleton]

/-- Where each source of entries has no key twice, the value that is found comes from the last
source that has the key. -/
theorem lookup_putEntries_flatMap {xs : List γ} (h : ∀ x ∈ xs, ((f x).map Prod.fst).Nodup) :
    (putEntries (xs.flatMap f) []).lookup key = some value ↔
      ∃ before x after, xs = before ++ x :: after ∧ (key, value) ∈ f x ∧
        ∀ later ∈ after, ¬ HasKey key (f later) := by
  have hsome : ∀ x ∈ xs, (f x).reverse.lookup key = some value ↔ (key, value) ∈ f x := by
    intro x hx
    have hnodup : ((f x).reverse.map Prod.fst).Nodup := by
      rw [List.map_reverse, List.nodup_reverse]
      exact h x hx
    rw [lookup_eq_some_iff_of_nodup hnodup, List.mem_reverse]
  have hnone : ∀ x, (f x).reverse.lookup key = none ↔ ¬ HasKey key (f x) := by
    intro x
    rw [lookup_eq_none_iff_not_hasKey, HasKey, List.map_reverse, List.mem_reverse, HasKey]
  rw [lookup_putEntries, List.lookup_nil, Option.or_none, lookup_reverse_flatMap,
    List.findSome?_eq_some_iff]
  constructor
  · rintro ⟨after, x, before, hxs, hx, hafter⟩
    have hsplit : xs = before.reverse ++ x :: after.reverse := by
      rw [← List.reverse_reverse xs, hxs]
      simp
    refine ⟨before.reverse, x, after.reverse, hsplit, ?_, ?_⟩
    · exact (hsome x (by simp [hsplit])).mp hx
    · intro later hlater
      exact (hnone later).mp (hafter later (List.mem_reverse.mp hlater))
  · rintro ⟨before, x, after, rfl, hx, hafter⟩
    refine ⟨after.reverse, x, before.reverse, by simp, (hsome x (by simp)).mpr hx, ?_⟩
    intro later hlater
    exact (hnone later).mpr (hafter later (List.mem_reverse.mp hlater))

end

end Entries

namespace ObjectTable

/-- A table with more declarations is merged as the table, and then these. It is the step from which
merging is associative. -/
theorem merge_insertAll (t other : ObjectTable) (entries : List (String × Locator)) :
    t.merge (other.insertAll entries) = (t.merge other).insertAll entries :=
  ObjectTable.ext (putEntries_putEntries entries other.entries t.entries)

theorem insertAll_append (t : ObjectTable) (first rest : List (String × Locator)) :
    t.insertAll (first ++ rest) = (t.insertAll first).insertAll rest :=
  ObjectTable.ext (putEntries_append first rest t.entries)

theorem ofList_entries (t : ObjectTable) : ofList t.entries = t :=
  ObjectTable.ext (putEntries_of_nodup t.nodup)

end ObjectTable

end LayoutSpec
