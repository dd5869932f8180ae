import LayoutSpec.Entries
import LayoutSpec.Locator

/-!
The objects of a spec: names with their locators, in the order in which the names were first
declared. A later declaration of a name changes its locator and leaves it in its place, so that a
table has every name once.
-/

namespace LayoutSpec

/-- Object names and their locators, in the order of declaration. -/
@[ext]
structure ObjectTable where
  entries : List (String × Locator)
  nodup : (entries.map Prod.fst).Nodup
deriving DecidableEq, Repr

/-- A name with a star stands for as many objects as its locator has matches. Which ones these are
is known on a page only. -/
def isMultiObject (name : String) : Bool :=
  name.toList.contains '*'

namespace ObjectTable

def empty : ObjectTable :=
  ⟨[], List.nodup_nil⟩

instance : Inhabited ObjectTable :=
  ⟨empty⟩

def names (t : ObjectTable) : List String :=
  t.entries.map Prod.fst

def get? (t : ObjectTable) (name : String) : Option Locator :=
  t.entries.lookup name

def contains (t : ObjectTable) (name : String) : Bool :=
  t.names.contains name

def size (t : ObjectTable) : Nat :=
  t.entries.length

def isEmpty (t : ObjectTable) : Bool :=
  t.entries.isEmpty

/-- Declares a name. A name that is there already keeps its place and gets the new locator. -/
def insert (t : ObjectTable) (name : String) (locator : Locator) : ObjectTable :=
  ⟨putEntry name locator t.entries, nodup_putEntry t.nodup name locator⟩

def insertAll (t : ObjectTable) (entries : List (String × Locator)) : ObjectTable :=
  ⟨putEntries entries t.entries, nodup_putEntries t.nodup entries⟩

def ofList (entries : List (String × Locator)) : ObjectTable :=
  empty.insertAll entries

/-- Declares the entries of another table in their order, behind the ones that are there. -/
def merge (t other : ObjectTable) : ObjectTable :=
  t.insertAll other.entries

def hasMultiObjects (t : ObjectTable) : Bool :=
  t.names.any isMultiObject

end ObjectTable

end LayoutSpec
