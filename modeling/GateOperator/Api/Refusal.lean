import GateOperator.Api.Message
import GateOperator.Data.Fields
import GateOperator.Data.Word

/-!
How the server says that a request failed: a reason in a word, and a number. Both are in the body of the
answer; where the body does not say them the status of the answer counts.
-/

namespace GateOperator.Api

/-- What the server says about a request that failed. -/
structure Refusal where
  reason : String
  code : Nat
deriving DecidableEq

namespace Refusal

/-- A number of at most so many bits. -/
def number? (bits : Nat) (v : Value) : Option Nat :=
  match v with
  | .int i => if Word.Holds bits i then some i.toNat else none
  | _ => none

/-- Whether the request failed, in a word. -/
def outcome? (v : Value) : Option String := v.text?.filter fun s => s = "Success" || s = "Failure"

/-- Reads the metadata of a list, of which only the form is looked at. -/
def metadata? (v : Value) : Option Unit := do
  let fields ← Fields.read .json true ["continue", "remainingItemCount", "resourceVersion", "selfLink"] v
  let _ ← fields.optional "continue" Value.text?
  let _ ← fields.optional "remainingItemCount" Value.int?
  let _ ← fields.optional "resourceVersion" Value.text?
  let _ ← fields.optional "selfLink" Value.text?

/-- Reads one cause, of which only the form is looked at. -/
def cause? (v : Value) : Option Unit := do
  let fields ← Fields.of? .json ["reason", "message", "field"] v
  let _ ← fields.withDefault "reason" "" Value.text?
  let _ ← fields.withDefault "message" "" Value.text?
  let _ ← fields.withDefault "field" "" Value.text?

/-- Reads the details, of which only the form is looked at. -/
def details? (v : Value) : Option Unit := do
  let fields ← Fields.of? .json ["name", "group", "kind", "uid", "causes", "retryAfterSeconds"] v
  let _ ← fields.withDefault "name" "" Value.text?
  let _ ← fields.withDefault "group" "" Value.text?
  let _ ← fields.withDefault "kind" "" Value.text?
  let _ ← fields.withDefault "uid" "" Value.text?
  let _ ← fields.withDefault "causes" [] (Value.listOf? .json cause?)
  let _ ← fields.withDefault "retryAfterSeconds" 0 (number? 32)

/-- Reads what the server says. -/
def read? (v : Value) : Option Refusal := do
  let fields ← Fields.of? .json ["status", "code", "message", "metadata", "reason", "details"] v
  let _ ← fields.optional "status" outcome?
  let code ← fields.withDefault "code" 0 (number? 16)
  let _ ← fields.withDefault "message" "" Value.text?
  let _ ← fields.optional "metadata" metadata?
  let reason ← fields.withDefault "reason" "" Value.text?
  let _ ← fields.optional "details" details?
  return ⟨reason, code⟩

/-- What an answer says about the request that failed. -/
def of (r : Response) : Refusal := (r.value? >>= read?).getD ⟨"Failed to parse error data", r.status⟩

/-- The reason for an object that is not there. -/
def notFound : String := "NotFound"

/-- The reasons that have a meaning of their own. -/
def known : List String := [
  "Unauthorized", "Forbidden", notFound, "AlreadyExists", "Conflict", "Gone", "Invalid", "ServerTimeout",
  "StorageReadError", "Timeout", "TooManyRequests", "BadRequest", "MethodNotAllowed", "NotAcceptable",
  "RequestEntityTooLarge", "UnsupportedMediaType", "InternalError", "Expired", "ServiceUnavailable"]

/-- The object is not there: the reason says so, or the code does and the reason means nothing. -/
def isNotFound (r : Refusal) : Bool := r.reason = notFound || r.code = 404 && !known.contains r.reason

end Refusal

end GateOperator.Api
