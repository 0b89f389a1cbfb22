import GateOperator.Metrics.Basic

/-!
The metrics as text: one family after another in order of name, each with its help, its type, and one
line for each series in order of its labels. Families without series are left out.
-/

namespace GateOperator

namespace Exposition

/-- One line: a name, labels and a value. -/
structure Series where
  name : String
  labels : List (String × String)
  value : String

/-- Series of one meaning. -/
structure Family where
  name : String
  help : String
  type : String
  series : List Series

/-- A character of a label value; backslashes, quotes and line breaks are escaped. -/
def escaped : Char → List Char
  | '\\' => ['\\', '\\']
  | '"' => ['\\', '"']
  | '\n' => ['\\', 'n']
  | c => [c]

/-- A label with its value. -/
def label (l : String × String) : String :=
  l.1 ++ "=\"" ++ String.ofList (l.2.toList.flatMap escaped) ++ "\""

def Series.line (s : Series) : String :=
  s.name ++ "\x7b" ++ ",".intercalate (s.labels.map label) ++ "\x7d " ++ s.value ++ "\n"

/-- The lines of a family. -/
def Family.text (f : Family) : String :=
  "# HELP " ++ f.name ++ " " ++ f.help ++ "\n# TYPE " ++ f.name ++ " " ++ f.type ++ "\n" ++
    String.join (f.series.map Series.line)

/-- The text of families; one without series has none. -/
def text (families : List Family) : String :=
  String.join ((families.filter (!·.series.isEmpty)).map Family.text)

end Exposition

namespace Histogram

open Exposition in
/-- The series of the durations of a controller: how many do not exceed each bound, their sum and their
    number. -/
def series (name controller : String) (h : Histogram) : List Series :=
  (bounds.zip h.within).map (fun bucket => ofBound (Decimal.ofFloat bucket.1) bucket.2) ++ [
    ofBound "+Inf" h.count,
    ⟨name ++ "_sum", [("controller", controller)], Decimal.ofFloat h.sum⟩,
    ⟨name ++ "_count", [("controller", controller)], toString h.count⟩]
where
  /-- The durations up to a bound. -/
  ofBound (bound : String) (count : Nat) : Series :=
    ⟨name ++ "_bucket", [("controller", controller), ("le", bound)], toString count⟩

end Histogram

namespace Metrics

open Exposition

def familyName (name : String) : String := "clustercfg_" ++ name

/-- The gates of the running release by state. -/
def gatesFamily (m : Metrics) : Family :=
  let name := familyName "feature_gates"
  let series (state : String) (count : Nat) : Series :=
    ⟨name, [("state", state)], Decimal.ofFloat (Duration.double count)⟩
  { name
    help := "Number of feature gates in the current release snapshot by state"
    type := "gauge"
    series := match m.gates with
      | none => []
      | some counts => [series "disabled" counts.disabled, series "enabled" counts.enabled] }

/-- Which replicas lead. -/
def leadersFamily (m : Metrics) : Family :=
  let name := familyName "leader_status"
  { name
    help := "Current leader election status (1 = leader, 0 = follower)"
    type := "gauge"
    series := m.leaders.entries.map fun l => ⟨name, [("pod_name", l.1)], if l.2 then "1" else "0"⟩ }

/-- The durations of the passes of each controller. -/
def durationsFamily (m : Metrics) : Family :=
  let name := familyName "reconciliation_duration_seconds"
  { name
    help := "Duration of reconciliation passes in seconds by controller"
    type := "histogram"
    series := m.durations.entries.flatMap fun d => d.2.series name d.1 }

/-- The passes of each controller by outcome. -/
def passesFamily (m : Metrics) : Family :=
  let name := familyName "reconciliations_total"
  { name
    help := "Total number of reconciliation passes by controller and outcome"
    type := "counter"
    series := m.passes.entries.flatMap fun p =>
      (Outcome.all.filter fun o => p.2.get o ≠ 0).map fun o =>
        ⟨name, [("controller", p.1), ("outcome", o.word)], toString (p.2.get o)⟩ }

/-- The writes of each kind of object. -/
def statusWritesFamily (m : Metrics) : Family :=
  let name := familyName "status_writes_total"
  { name
    help := "Total number of status writes by resource type"
    type := "counter"
    series := m.statusWrites.entries.map fun w => ⟨name, [("resource_type", w.1)], toString w.2⟩ }

/-- All families in order of name. -/
def families (m : Metrics) : List Family :=
  [m.gatesFamily, m.leadersFamily, m.durationsFamily, m.passesFamily, m.statusWritesFamily]

/-- The metrics as text. -/
def exposition (m : Metrics) : String := text m.families

end Metrics

end GateOperator
