import LayoutSpec.Entries
import LayoutSpec.Geometry
import LayoutSpec.Locator
import LayoutSpec.Size

/-!
A rendered page, as far as layouts are concerned: where the element of each locator is and what it
shows. A page may be seen from one of its elements, as the page of a component.
-/

namespace LayoutSpec

/-- The state of one element. A page need not know the text of its elements. -/
structure Snapshot where
  present : Bool := false
  visible : Bool := false
  area : Area := ⟨0, 0, 0, 0⟩
  text : Option String := none
deriving DecidableEq, Repr, Inhabited

namespace Snapshot

def absent : Snapshot := {}

/-- An element that is displayed in the given area. -/
def shown (area : Area) : Snapshot := { present := true, visible := true, area }

/-- The element seen from the left upper corner of `origin`. -/
def relativeTo (s : Snapshot) (origin : Area) : Snapshot :=
  { s with area := s.area.relativeTo origin }

end Snapshot

/-- A page: its elements by locator, the number of matches of a locator where it is not decided by
the elements, the objects that need no locator, and the pages of components that are not simply a
part of this page. -/
structure Page where
  elements : List (Locator × Snapshot) := []
  counts : List (Locator × Nat) := []
  specials : List (String × Snapshot) := []
  subPages : List (Locator × Page) := []
deriving Inhabited

namespace Page

def blank : Page := {}

def putElement (p : Page) (locator : Locator) (s : Snapshot) : Page :=
  { p with elements := putEntry locator s p.elements }

def putCount (p : Page) (locator : Locator) (count : Nat) : Page :=
  { p with counts := putEntry locator count p.counts }

def putSpecial (p : Page) (name : String) (s : Snapshot) : Page :=
  { p with specials := putEntry name s p.specials }

def putSubPage (p : Page) (locator : Locator) (sub : Page) : Page :=
  { p with subPages := putEntry locator sub p.subPages }

/-- A side of a window as a pixel number. -/
def windowSide (n : Nat) : Int :=
  min n Text.maxPixel

/-- A page with the window as the objects `screen` and `viewport`, which need no locator. -/
def ofWindow (size : Size) : Page :=
  let window := Snapshot.shown ⟨0, 0, windowSide size.width, windowSide size.height⟩
  (blank.putSpecial "screen" window).putSpecial "viewport" window

def resolve (p : Page) (locator : Locator) : Snapshot :=
  (p.elements.lookup locator).getD .absent

def count (p : Page) (locator : Locator) : Nat :=
  (p.counts.lookup locator).getD (if (p.elements.lookup locator).isSome then 1 else 0)

/-- The object of that name that needs no locator. -/
def special? (p : Page) (name : String) : Option Snapshot :=
  p.specials.lookup name

/-- The page seen from the left upper corner of `origin`. Its elements are moved, and so are the
objects that need no locator. Pages that are registered for components belong to the page itself and
are left out. -/
def seenFrom (p : Page) (origin : Area) : Page where
  elements := p.elements.map fun (locator, s) => (locator, s.relativeTo origin)
  counts := p.counts
  specials := p.specials.map fun (name, s) => (name, s.relativeTo origin)
  subPages := []

/-- The page of the component at a locator, if there is one: the page registered for it, or this
page seen from the element. -/
def subPage? (p : Page) (locator : Locator) : Option Page :=
  match p.subPages.lookup locator with
  | some sub => some sub
  | none =>
    let element := p.resolve locator
    if element.present then some (p.seenFrom element.area) else none

end Page

end LayoutSpec
