import GateOperator.Data.Fields

/-!
Conditions: what is observed of one aspect of an object, and when that last changed.
-/

namespace GateOperator

/-- An observation of one aspect of an object. -/
structure Condition where
  type : String
  status : String
  reason : Option String
  message : Option String
  lastTransitionTime : Option String
deriving DecidableEq, Inhabited

namespace Condition

def read? (dialect : Dialect) (v : Value) : Option Condition := do
  let fields ← Fields.of? dialect ["type", "status", "reason", "message", "lastTransitionTime"] v
  return {
    type := ← fields.required "type" Value.text?
    status := ← fields.required "status" Value.text?
    reason := ← fields.nameable "reason" Value.text?
    message := ← fields.nameable "message" Value.text?
    lastTransitionTime := ← fields.nameable "lastTransitionTime" Value.text? }

def write (c : Condition) : Value := .ofFields [
  Value.always "type" (.text c.type),
  Value.always "status" (.text c.status),
  Value.whenSome "reason" .text c.reason,
  Value.whenSome "message" .text c.message,
  Value.whenSome "lastTransitionTime" .text c.lastTransitionTime]

end Condition

end GateOperator
