import LayoutSpec.Event

/-!
Observers of a run. An observer that breaks down in a hook is not heard of in that hook any more,
and neither the run nor any other observer notices.
-/

namespace LayoutSpec

/-- An observer with what it has seen so far. -/
inductive Observer where
  /-- Ignores all events. -/
  | silent
  /-- Keeps all events in their order. -/
  | recorder (events : List Event)
  /-- Counts broken constraints and errors. -/
  | failureCounter (constraintErrors globalErrors : Nat)
  /-- Keeps all events in their order and breaks down in some hooks. -/
  | fragile (breaks : List Hook) (calls : List Event)
  /-- Tells each of its members. -/
  | combined (members : List Observer)
deriving Repr

namespace Observer

def counted (constraintErrors globalErrors : Nat) : Event → Observer
  | .constraintError .. => .failureCounter (constraintErrors + 1) globalErrors
  | .globalError .. => .failureCounter constraintErrors (globalErrors + 1)
  | _ => .failureCounter constraintErrors globalErrors

mutual

/-- The observer after an event, and whether it broke down. Members that break down do not make
their combination break down. -/
def receive (e : Event) : Observer → Observer × Bool
  | .silent => (.silent, false)
  | .recorder events => (.recorder (events ++ [e]), false)
  | .failureCounter constraintErrors globalErrors =>
    (counted constraintErrors globalErrors e, false)
  | .fragile breaks calls => (.fragile breaks (calls ++ [e]), breaks.contains e.hook)
  | .combined members => (.combined (receiveEach e members), false)

/-- Tells an event to one observer after another, whether they break down or not. So an observer
that breaks down keeps nobody from hearing the event. -/
def receiveEach (e : Event) : List Observer → List Observer
  | [] => []
  | member :: rest => (receive e member).1 :: receiveEach e rest

end

def notify (o : Observer) (e : Event) : Observer :=
  (o.receive e).1

def notifyAll (o : Observer) (events : List Event) : Observer :=
  events.foldl notify o

mutual

/-- The events that the recorders in an observer have kept, one recorder after another. -/
def recorded : Observer → List Event
  | .recorder events => events
  | .combined members => recordedBy members
  | _ => []

def recordedBy : List Observer → List Event
  | [] => []
  | member :: rest => recorded member ++ recordedBy rest

end

mutual

/-- The broken constraints and the errors that the counters in an observer have counted. -/
def failureCounts : Observer → Nat × Nat
  | .failureCounter constraintErrors globalErrors => (constraintErrors, globalErrors)
  | .combined members => failureCountsOf members
  | _ => (0, 0)

def failureCountsOf : List Observer → Nat × Nat
  | [] => (0, 0)
  | member :: rest =>
    let (a, b) := failureCounts member
    let (c, d) := failureCountsOf rest
    (a + c, b + d)

end

end Observer

end LayoutSpec
