import GateOperator.Metrics.Exposition

/-!
The pages that the operator serves: its metrics, whether it is alive, and whether it is ready. Each
can be fetched, or asked for without its body.
-/

namespace GateOperator

namespace Endpoint

/-- The answer to a request. -/
structure Response where
  status : Nat
  contentType : Option String := none
  /-- The methods that would have been allowed. -/
  allow : Option String := none
  body : String := ""
deriving DecidableEq

/-- A page of plain text. -/
def plain (status : Nat) (body : String) : Response where
  status := status
  contentType := some "text/plain; charset=utf-8"
  body := body

/-- The path of a request target, without its query and fragment. -/
def path (target : String) : String := String.ofList (target.toList.takeWhile fun c => c ≠ '?' && c ≠ '#')

/-- The page under a path. -/
def page? (metrics : Metrics) (ready : Bool) : String → Option Response
  | "/metrics" => some { status := 200, contentType := some "text/plain; version=0.0.4", body := metrics.exposition }
  | "/healthz" => some (plain 200 "ok")
  | "/readyz" => some (if ready then plain 200 "ok" else plain 503 "not ready")
  | _ => none

/-- Answers a request. -/
def respond (metrics : Metrics) (ready : Bool) (method target : String) : Response :=
  match page? metrics ready (path target) with
  | none => { status := 404 }
  | some r =>
    match method with
    | "GET" => r
    | "HEAD" => { r with body := "" }
    | _ => { status := 405, allow := some "GET,HEAD" }

end Endpoint

end GateOperator
