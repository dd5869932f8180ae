import LayoutSpec.Document.Basic
import LayoutSpec.Observer
import LayoutSpec.Page

/-!
Parts of a pass, as walks. A walk tells of events on its way and enters the passes inside
components, of which it learns the failures. It has two readings: with a report for each pass that
it enters it has a result and the events that are told on the way, and in front of an observer it
tells these as they come, each behind a barrier of its own.
-/

namespace LayoutSpec

/-- A pass: the number of components around it, whether it is silent, the spec and the page. -/
structure Pass where
  depth : Nat
  silent : Bool
  document : Document
  page : Page

/-- The failures of a pass or a part of it, and the events in which it was reported. -/
@[ext]
structure Report where
  failures : List Failure := []
  events : List Event := []
deriving DecidableEq, Repr

namespace Report

def append (a b : Report) : Report :=
  ⟨a.failures ++ b.failures, a.events ++ b.events⟩

instance : Append Report := ⟨append⟩

end Report

/-- A part of a pass that comes to a result. -/
inductive Walk (α : Type) where
  | done (a : α)
  | tell (e : Event) (next : Walk α)
  | enter (p : Pass) (next : List Failure → Walk α)

namespace Walk

variable {α β : Type}

/-- A walk and then one that depends on its result. -/
def bind : Walk α → (α → Walk β) → Walk β
  | done a, f => f a
  | tell e next, f => tell e (next.bind f)
  | enter p next, f => enter p fun failures => (next failures).bind f

instance : Monad Walk where
  pure := done
  bind := bind

/-- Tells of an event, unless the pass is silent. -/
def tellOf (silent : Bool) (e : Event) : Walk Unit :=
  if silent then pure () else tell e (pure ())

/-- The failures that are found at some things, one after the other. -/
def collect (find : α → Walk (List Failure)) : List α → Walk (List Failure)
  | [] => pure []
  | a :: rest => do
    let first ← find a
    let others ← collect find rest
    return first ++ others

/-- The result of a walk and the events of which it tells, those of the passes that it enters among
them, if these have reports. -/
def heard (reports : Pass → Option Report) : Walk α → Option (α × List Event)
  | done a => some (a, [])
  | tell e next => do
    let (a, events) ← next.heard reports
    return (a, e :: events)
  | enter p next => do
    let inside ← reports p
    let (a, events) ← (next inside.failures).heard reports
    return (a, inside.events ++ events)

/-- The report about a part of a pass. -/
def report (reports : Pass → Option Report) (x : Walk (List Failure)) : Option Report := do
  let (failures, events) ← x.heard reports
  return ⟨failures, events⟩

end Walk

/-- What is left of a part of a pass: its result, unless it was cut short, and the observer. -/
structure Watched (α : Type) where
  result : Option α
  observer : Observer

namespace Watched

variable {α β : Type}

/-- A call of an observer. It is cut short if the observer breaks down, and with it all that would
have followed. -/
def call (e : Event) (o : Observer) : Watched Unit :=
  let (after, broken) := o.receive e
  ⟨if broken then none else some (), after⟩

/-- The same call behind a barrier, which is passed in any case. -/
def shielded (w : Watched Unit) : Watched Unit :=
  { w with result := some () }

/-- What follows on a result, in front of the observer that is left. -/
def andThen (w : Watched α) (next : α → Observer → Option (Watched β)) : Option (Watched β) :=
  match w.result with
  | some a => next a w.observer
  | none => some ⟨none, w.observer⟩

end Watched

/-- A walk in front of an observer, `none` if a pass that it enters goes on without end. Without the
barrier a call of the observer would cut it short. -/
def Walk.perform {α : Type} (inside : Pass → Observer → Option (Watched (List Failure))) :
    Walk α → Observer → Option (Watched α)
  | done a, o => some ⟨some a, o⟩
  | tell e next, o => (Watched.call e o).shielded.andThen fun _ => next.perform inside
  | enter p next, o =>
    (inside p o).bind fun left => left.andThen fun failures => (next failures).perform inside

namespace Walk

variable {α : Type} {x : Walk α}

/-- With more reports, a walk comes to the same result. This makes the outcome of a pass independent
of how much fuel there was beyond what it needs. -/
theorem heard_mono {few many : Pass → Option Report} (h : ∀ p r, few p = some r → many p = some r)
    {told : α × List Event} (hx : x.heard few = some told) : x.heard many = some told := by
  induction x generalizing told with
  | done a => exact hx
  | tell e next ih =>
      obtain ⟨later, hnext, htold⟩ := Option.bind_eq_some_iff.mp hx
      exact Option.bind_eq_some_iff.mpr ⟨later, ih hnext, htold⟩
  | enter p next ih =>
      obtain ⟨r, hr, hx⟩ := Option.bind_eq_some_iff.mp hx
      obtain ⟨later, hnext, htold⟩ := Option.bind_eq_some_iff.mp hx
      apply Option.bind_eq_some_iff.mpr
      exact ⟨r, h p r hr, Option.bind_eq_some_iff.mpr ⟨later, ih r.failures hnext, htold⟩⟩

theorem report_mono {few many : Pass → Option Report} (h : ∀ p r, few p = some r → many p = some r)
    {x : Walk (List Failure)} {r : Report} (hx : x.report few = some r) :
    x.report many = some r := by
  obtain ⟨told, htold, hr⟩ := Option.bind_eq_some_iff.mp hx
  exact Option.bind_eq_some_iff.mpr ⟨told, heard_mono h htold, hr⟩

/-- With more passes that come to an end, a walk goes on to the same end. -/
theorem perform_mono {few many : Pass → Observer → Option (Watched (List Failure))}
    (h : ∀ p o w, few p o = some w → many p o = some w) {o : Observer} {w : Watched α}
    (hx : x.perform few o = some w) : x.perform many o = some w := by
  induction x generalizing o with
  | done a => exact hx
  | tell e next ih => exact ih hx
  | enter p next ih =>
      obtain ⟨left, hleft, hnext⟩ := Option.bind_eq_some_iff.mp hx
      apply Option.bind_eq_some_iff.mpr
      refine ⟨left, h p o left hleft, ?_⟩
      obtain ⟨result, after⟩ := left
      cases result with
      | none => exact hnext
      | some failures => exact ih failures hnext

end Walk

end LayoutSpec
