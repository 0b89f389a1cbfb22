import GateOperator.Json.Reader

/-!
Requests to the server of the cluster and its answers.
-/

namespace GateOperator.Api

/-- What a request does. -/
inductive Method where
  | get
  | post
  | patch
deriving DecidableEq

def Method.word : Method → String
  | get => "GET"
  | post => "POST"
  | patch => "PATCH"

/-- What a body is to the server. -/
inductive ContentType where
  | json
  /-- Fields to change in an object. -/
  | mergePatch
  /-- Fields that a manager owns. -/
  | applyPatch
deriving DecidableEq

def ContentType.name : ContentType → String
  | json => "application/json"
  | mergePatch => "application/merge-patch+json"
  | applyPatch => "application/apply-patch+yaml"

/-- The body of a request. -/
structure Body where
  type : ContentType
  value : Value

/-- A request. -/
structure Request where
  method : Method
  path : String
  query : List (String × String) := []
  body : Option Body := none

/-- An answer; its body is yet to be read. -/
structure Response where
  status : Nat
  body : String
deriving DecidableEq

/-- What the requests go to; it may not answer. -/
abbrev Server := Request → Option Response

namespace Response

/-- The answer says that the request failed. -/
def isFailure (r : Response) : Bool := 400 ≤ r.status && r.status < 600

/-- The value that the body holds. -/
def value? (r : Response) : Option Value := Json.read? r.body

end Response

/-- A character that may stand in a path as it is. -/
def isPathCharacter (c : Char) : Bool := ' ' < c && !(['#', '<', '>', '?', '\x60'].contains c)

end GateOperator.Api
