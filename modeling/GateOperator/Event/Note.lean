import GateOperator.Object.Gate
import GateOperator.Text.Quoted

/-!
The notes of events. The note about an update gives the feature set, the release and the names on both
sides, each quoted, so that it can be read only one way.
-/

namespace GateOperator

namespace Note

/-- The names of gates with commas between them. -/
def names (gates : List Gate) : String := ",".intercalate (gates.map (·.name))

open Text.Quoted in
/-- The note about newly recorded gates. -/
def update (featureSet : String) (current : Snapshot) : String :=
  "FeatureSet=" ++ ofString featureSet ++ ", Version=" ++ ofString current.version ++
    ", Enabled=" ++ ofString (names current.enabled) ++ ", Disabled=" ++ ofString (names current.disabled)

open Text.Quoted in
/-- The note about a feature set that was replaced by another. -/
def replacement (retired successor : String) : String :=
  "FeatureSet " ++ ofString retired ++ " replaced with " ++ ofString successor

end Note

end GateOperator
