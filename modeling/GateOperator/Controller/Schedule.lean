import GateOperator.Controller.Basic
import GateOperator.Pass.Publication

/-!
The controllers and the publication in time. Each task runs when it is due. A controller is due again some
time after a pass, and at once when an object that it watches changes, also by its own writes; there is
never more than one time at which it is due. Without a feature gate object a controller waits for one. The
publication is due at fixed intervals.
-/

namespace GateOperator

/-- Something that is done again and again. -/
inductive Task where
  | publication
  | controller (c : Controller)
deriving DecidableEq

namespace Task

/-- The tasks; of those due at the same time the first goes first. -/
def all : List Task := [publication, controller .featureGates, controller .migration]

/-- The milliseconds between publications. -/
def interval : Nat := 10000

end Task

/-- A kind of change that controllers watch for. -/
inductive Change where
  /-- The feature gate object has changed, or is there now. -/
  | featureGate
  /-- An object that the gates depend on has changed. -/
  | dependency
deriving DecidableEq

/-- The controllers that a change makes due. -/
def Change.watchers : Change → List Controller
  | featureGate => [.featureGates, .migration]
  | dependency => [.featureGates]

/-- The running tasks, each with the time at which it is due, in milliseconds since the start. -/
structure Schedule where
  now : Nat
  running : List Task
  due : Task → Option Nat

namespace Schedule

/-- All running tasks are due at once. -/
def start (running : List Task) : Schedule where
  now := 0
  running := running
  due t := if running.contains t then some 0 else none

/-- Sets the time at which a task is due. -/
def set (s : Schedule) (t : Task) (time : Option Nat) : Schedule :=
  { s with due := fun other => if other = t then time else s.due other }

/-- Makes a running controller due at once. -/
def wake (s : Schedule) (c : Controller) : Schedule :=
  if s.running.contains (.controller c) then s.set (.controller c) (some s.now) else s

/-- Makes the controllers that watch for a change due at once. -/
def notice (s : Schedule) (change : Change) : Schedule := change.watchers.foldl wake s

/-- The earlier of two tasks with their times; of equal times the first. -/
def earlier : Option (Task × Nat) → Option (Task × Nat) → Option (Task × Nat)
  | none, b => b
  | some a, none => some a
  | some a, some b => if b.2 < a.2 then some b else some a

/-- The task that is due first, and when. -/
def next? (s : Schedule) : Option (Task × Nat) :=
  Task.all.foldl (fun first t => earlier first ((s.due t).map fun time => (t, time))) none

end Schedule

/-- A write to the feature gate object. -/
def Write.changesFeatureGate : Write → Bool
  | featureGateStatus _ _ => true
  | featureSet _ _ => true
  | clusterOperatorStatus _ => false

/-- The world, and what is to be done in it when. -/
structure Run where
  world : World
  schedule : Schedule

namespace Run

/-- Does a task that is due now; `clock` tells the times of what is observed. -/
def perform (o : Operator) (f : Faults) (clock : Nat → String) (r : Run) : Task → Run
  | .publication => {
      world := (Publication.run f clock r.world).2
      schedule := r.schedule.set .publication (some (r.schedule.now + Task.interval)) }
  | .controller c =>
    match r.world.cluster.featureGate with
    | none => { r with schedule := r.schedule.set (.controller c) none }
    | some _ =>
      let (world, delay) := c.reconcile Place.featureGate.name o f ⟨0⟩ r.world
      let schedule := r.schedule.set (.controller c) (delay.map (r.schedule.now + ·))
      let changed := (world.writes.drop r.world.writes.length).any Write.changesFeatureGate
      { world, schedule := if changed then schedule.notice .featureGate else schedule }

/-- Does what is due up to a time, at most so many tasks. -/
def workUntil (o : Operator) (f : Faults) (clock : Nat → String) (limit : Nat) : Nat → Run → Run
  | 0, r => r
  | tasks + 1, r =>
    match r.schedule.next? with
    | none => r
    | some (t, time) =>
      if time ≤ limit then
        workUntil o f clock limit tasks (perform o f clock { r with schedule := { r.schedule with now := time } } t)
      else r

/-- The number of tasks that can be due within some milliseconds: those that come at intervals, and those
    that follow upon a write. -/
def mostTasks (milliseconds : Nat) : Nat := milliseconds / Task.interval * 3 + 30

/-- Lets time pass. -/
def advance (o : Operator) (f : Faults) (clock : Nat → String) (milliseconds : Nat) (r : Run) : Run :=
  let limit := r.schedule.now + milliseconds
  let r := workUntil o f clock limit (mostTasks milliseconds) r
  { r with schedule := { r.schedule with now := limit } }

end Run

end GateOperator
