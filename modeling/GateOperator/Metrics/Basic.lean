import GateOperator.Data.NameMap
import GateOperator.Decimal.Shortest

/-!
What the operator counts and measures while it runs: the passes of each controller by outcome and
duration, the writes of each kind of object, the gates of the running release, and who leads.
-/

namespace GateOperator

/-- How a pass of a controller ended. -/
inductive Outcome where
  /-- It wrote. -/
  | updated
  /-- There was nothing to write. -/
  | unchanged
  /-- Something that it needs is not there yet. -/
  | skipped
  /-- It failed. -/
  | error
deriving DecidableEq, Inhabited

namespace Outcome

def word : Outcome → String
  | updated => "updated"
  | unchanged => "unchanged"
  | skipped => "skipped"
  | error => "error"

/-- The outcomes in ascending order of their words. -/
def all : List Outcome := [error, skipped, unchanged, updated]

end Outcome

/-- How many passes ended in which way. -/
structure Tally where
  updated : Nat := 0
  unchanged : Nat := 0
  skipped : Nat := 0
  error : Nat := 0
deriving DecidableEq

namespace Tally

/-- The number of passes that ended in one way. -/
def get (t : Tally) : Outcome → Nat
  | .updated => t.updated
  | .unchanged => t.unchanged
  | .skipped => t.skipped
  | .error => t.error

/-- Counts one more pass. -/
def add (t : Tally) : Outcome → Tally
  | .updated => { t with updated := t.updated + 1 }
  | .unchanged => { t with unchanged := t.unchanged + 1 }
  | .skipped => { t with skipped := t.skipped + 1 }
  | .error => { t with error := t.error + 1 }

/-- The number of all passes. -/
def total (t : Tally) : Nat := t.updated + t.unchanged + t.skipped + t.error

section
variable {t : Tally} {o p : Outcome}

@[simp] theorem get_add : (t.add o).get p = t.get p + if o = p then 1 else 0 := by
  cases o <;> cases p <;> simp [add, get]

@[simp] theorem total_add : (t.add o).total = t.total + 1 := by
  cases o <;> simp only [add, total] <;> omega

end

end Tally

/-- A length of time. -/
structure Duration where
  nanoseconds : Nat
deriving DecidableEq

namespace Duration

/-- So many microseconds. -/
def ofMicroseconds (n : Nat) : Duration := ⟨n * 1000⟩

/-- The double nearest to a number. -/
def double (n : Nat) : Float := Decimal.toFloat false n 0

/-- The length in seconds: whole seconds and the part of a second, both as doubles. -/
def seconds (d : Duration) : Float :=
  double (d.nanoseconds / 1000000000) + double (d.nanoseconds % 1000000000) / 1000000000.0

end Duration

/-- Durations, counted by ranges. -/
structure Histogram where
  /-- For each bound the number of durations that do not exceed it. -/
  within : List Nat
  count : Nat
  sum : Float

namespace Histogram

/-- The bounds of the ranges in seconds. -/
def bounds : List Float := [0.001, 0.01, 0.1, 0.5, 1.0, 2.0, 5.0, 10.0, 30.0]

/-- No durations. -/
def empty : Histogram := ⟨bounds.map fun _ => 0, 0, 0.0⟩

/-- Takes in one more duration. -/
def observe (h : Histogram) (d : Duration) : Histogram where
  within := bounds.zipWith (fun bound n => if d.seconds ≤ bound then n + 1 else n) h.within
  count := h.count + 1
  sum := h.sum + d.seconds

end Histogram

/-- The gates of the running release, by state. -/
structure GateCounts where
  enabled : Nat
  disabled : Nat
deriving DecidableEq

/-- All that is counted and measured; what was never reported is not there. -/
structure Metrics where
  /-- By controller. -/
  passes : NameMap Tally := .empty
  /-- By controller. -/
  durations : NameMap Histogram := .empty
  /-- By kind of object. -/
  statusWrites : NameMap Nat := .empty
  gates : Option GateCounts := none
  /-- By identity: this replica holds the lease. -/
  leaders : NameMap Bool := .empty

namespace Metrics

/-- Nothing counted yet. -/
def empty : Metrics := {}

/-- Counts a pass of a controller. -/
def recordPass (m : Metrics) (controller : String) (outcome : Outcome) (elapsed : Duration) : Metrics :=
  { m with
    passes := m.passes.insert controller (((m.passes.find? controller).getD {}).add outcome)
    durations := m.durations.insert controller (((m.durations.find? controller).getD .empty).observe elapsed) }

/-- Counts a write of the status of an object. -/
def recordStatusWrite (m : Metrics) (kind : String) : Metrics :=
  { m with statusWrites := m.statusWrites.insert kind ((m.statusWrites.find? kind).getD 0 + 1) }

/-- Notes how many gates of the running release are on and off. -/
def recordGates (m : Metrics) (counts : GateCounts) : Metrics := { m with gates := some counts }

/-- Notes whether a replica holds the lease. -/
def recordLeader (m : Metrics) (identity : String) (leads : Bool) : Metrics :=
  { m with leaders := m.leaders.insert identity leads }

/-- The passes of a controller by outcome. -/
def tally (m : Metrics) (controller : String) : Tally := (m.passes.find? controller).getD {}

/-- The number of writes of one kind of object. -/
def writesOf (m : Metrics) (kind : String) : Nat := (m.statusWrites.find? kind).getD 0

section
variable {m : Metrics} {controller other kind : String} {outcome : Outcome} {elapsed : Duration} {counts : GateCounts}

@[simp] theorem tally_recordPass :
    (m.recordPass controller outcome elapsed).tally other =
      if other = controller then (m.tally other).add outcome else m.tally other := by
  by_cases h : other = controller <;> simp [recordPass, tally, h]

@[simp] theorem writesOf_recordPass : (m.recordPass controller outcome elapsed).writesOf kind = m.writesOf kind := rfl

@[simp] theorem tally_recordStatusWrite : (m.recordStatusWrite kind).tally controller = m.tally controller := rfl

@[simp] theorem writesOf_recordStatusWrite :
    (m.recordStatusWrite kind).writesOf other = m.writesOf other + if other = kind then 1 else 0 := by
  by_cases h : other = kind <;> simp [recordStatusWrite, writesOf, h]

@[simp] theorem tally_recordGates : (m.recordGates counts).tally controller = m.tally controller := rfl

@[simp] theorem writesOf_recordGates : (m.recordGates counts).writesOf kind = m.writesOf kind := rfl

end

end Metrics

end GateOperator
