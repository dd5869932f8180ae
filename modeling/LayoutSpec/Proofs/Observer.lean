import LayoutSpec.Observer

/-!
What observers make of events. A counter of failures ends with the number of those that it is told,
in whatever order, and a recorder keeps all of them as they come.
-/

namespace LayoutSpec

namespace Observer

def countsAsConstraintError (e : Event) : Bool :=
  e.hook = .constraintError

def countsAsGlobalError (e : Event) : Bool :=
  e.hook = .globalError

theorem notifyAll_append (o : Observer) (events more : List Event) :
    o.notifyAll (events ++ more) = (o.notifyAll events).notifyAll more :=
  List.foldl_append

theorem notify_failureCounter (a b : Nat) (e : Event) :
    (failureCounter a b).notify e
      = failureCounter (a + [e].countP countsAsConstraintError)
          (b + [e].countP countsAsGlobalError) := by
  cases e <;> rfl

/-- A counter of failures ends with the number of the events that it counts, added to what it had
counted before. -/
theorem notifyAll_failureCounter (a b : Nat) (events : List Event) :
    (failureCounter a b).notifyAll events
      = failureCounter (a + events.countP countsAsConstraintError)
          (b + events.countP countsAsGlobalError) := by
  induction events generalizing a b with
  | nil => rfl
  | cons e events ih =>
      rw [notifyAll, List.foldl_cons, notify_failureCounter]
      refine (ih _ _).trans ?_
      have hcount : ∀ p : Event → Bool, (e :: events).countP p = [e].countP p + events.countP p :=
        fun p => by rw [← List.countP_append, List.singleton_append]
      rw [hcount, hcount, Nat.add_assoc, Nat.add_assoc]

theorem notifyAll_failureCounter_of_perm {a b : Nat} {events others : List Event}
    (h : events.Perm others) :
    (failureCounter a b).notifyAll events = (failureCounter a b).notifyAll others := by
  rw [notifyAll_failureCounter, notifyAll_failureCounter, h.countP_eq, h.countP_eq]

/-- A recorder keeps the events in the order in which it is told them. -/
theorem notifyAll_recorder (kept events : List Event) :
    (recorder kept).notifyAll events = recorder (kept ++ events) := by
  induction events generalizing kept with
  | nil => rw [List.append_nil]; rfl
  | cons e events ih =>
      refine (ih (kept ++ [e])).trans ?_
      rw [List.append_assoc, List.singleton_append]

/-- An observer hears everything, also in the hooks where it breaks down. -/
theorem notifyAll_fragile (breaks : List Hook) (kept events : List Event) :
    (fragile breaks kept).notifyAll events = fragile breaks (kept ++ events) := by
  induction events generalizing kept with
  | nil => rw [List.append_nil]; rfl
  | cons e events ih =>
      refine (ih (kept ++ [e])).trans ?_
      rw [List.append_assoc, List.singleton_append]

theorem receiveEach_eq (e : Event) (members : List Observer) :
    receiveEach e members = members.map fun member => member.notify e := by
  induction members with
  | nil => rfl
  | cons member rest ih =>
      rw [receiveEach, ih]
      rfl

/-- Every member of a combination is told everything, whatever the others do. One that breaks down
keeps nobody else from an event. -/
theorem notifyAll_combined (members : List Observer) (events : List Event) :
    (combined members).notifyAll events
      = combined (members.map fun member => member.notifyAll events) := by
  induction events generalizing members with
  | nil => exact congrArg combined (List.map_id members).symm
  | cons e events ih =>
      have hnotify : (combined members).notify e
          = combined (members.map fun member => member.notify e) :=
        congrArg combined (receiveEach_eq e members)
      rw [notifyAll, List.foldl_cons, hnotify]
      refine (ih _).trans ?_
      rw [List.map_map]
      rfl

end Observer

end LayoutSpec
