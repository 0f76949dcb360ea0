/-
# Failures of a call

Why a call has no result, and the response that says so: a status, a code for programs, a message
for people, and the id of the request when there is one.  A missing parameter is the mistake of the
client; a broken template is not.
-/
import SqlGateway.Http.Message
import SqlGateway.Template.Block
import SqlGateway.Template.Statement

namespace SqlGateway.Http

/-! ## 1. Failures -/

/-- Why a call has no result. -/
inductive Failure where
  | badRequest (message : String)
  | unauthorized (message : String)
  | notFound (message : String)
  /-- The store refused the statement, or did not answer in time. -/
  | execution (reason : String) (statement : Statement)
  | internal (message : String)
  | missingParam (e : Template.MissingParam)
  | invalidTemplate (e : Template.BlockError)
deriving DecidableEq

namespace Failure

/-- What the client reads.  A failed execution shows its statement. -/
def message : Failure → String
  | badRequest m => m
  | unauthorized m => m
  | notFound m => m
  | execution reason st =>
    reason ++ " / sql: " ++ st.sql ++ " / args: " ++ argumentsText st.args
  | internal m => m
  | missingParam e => e.message
  | invalidTemplate e => e.message

/-- What the failure is called in front of its message. -/
def label : Failure → String
  | badRequest _ => "bad request: "
  | unauthorized _ => "unauthorized: "
  | notFound _ => "not found: "
  | internal _ => "internal error: "
  | _ => ""

/-- The failure on one line. -/
def display (f : Failure) : String := f.label ++ f.message

/-- The code that programs look at. -/
def code : Failure → String
  | badRequest _ => "BAD_REQUEST"
  | unauthorized _ => "UNAUTHORIZED"
  | notFound _ => "NOT_FOUND"
  | execution _ _ => "EXECUTION_ERROR"
  | internal _ => "INTERNAL_ERROR"
  | missingParam _ => "MISSING_PARAMETER"
  | invalidTemplate _ => "INVALID_TEMPLATE"

/-- The status of the response. -/
def status : Failure → Nat
  | badRequest _ => 400
  | execution _ _ => 400
  | missingParam _ => 400
  | unauthorized _ => 401
  | notFound _ => 404
  | internal _ => 500
  | invalidTemplate _ => 500

/-! ## 2. Responses -/

/-- The body of the response. -/
def body (f : Failure) (requestId : Option String) : Json :=
  let id :=
    match requestId with
    | some id => [("requestId", Json.string id)]
    | none => []
  .object [("error", .object
    ([("code", .string f.code), ("message", .string f.message)] ++ id))]

/-- The challenge that comes with a refused request. -/
def challenge : String := "Basic realm=\"sgt-gateway\""

/-- The response for the failure. -/
def response (f : Failure) (requestId : Option String) : Response where
  status := f.status
  headers := jsonType :: (if f.status = 401 then [("www-authenticate", challenge)] else [])
  body := (f.body requestId).text

end Failure

end SqlGateway.Http
