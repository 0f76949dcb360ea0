/-
# Exchanges

How the gateway answers a request, whatever its path and method.  The layers from the outside to
the inside:

* **Request id.**  The response carries the id of the request.
* **Cross-origin rules.**  Everybody may read every response; a request with method `OPTIONS` asks
  for just that and goes no further.
* **Credentials.**  Without them a request goes no further, except to a public path.
* **Route.**  An unknown path has no answer, a known one only to its methods.

Credentials are asked for before a path is found out to be unknown, but a method that the path does
not allow is told on every response, refusals included.
-/
import SqlGateway.Gateway.Call
import SqlGateway.Http.Credentials
import SqlGateway.Http.RequestId

namespace SqlGateway.Gateway

open Http

/-! ## 1. Responses -/

/-- What a request comes to: the response, unless the request is broken off or waits for ever, and
what was sent to the store for it. -/
structure Exchange where
  response : Option Response
  executed : List Store.Execution

/-- An exchange that leaves the stores alone. -/
def Exchange.quiet (r : Response) : Exchange := ⟨some r, []⟩

/-- A response with a JSON body. -/
def jsonResponse (body : Json) : Response := ⟨200, [jsonType], body.text⟩

/-- A response with a plain text. -/
def textResponse (status : Nat) (text : String) : Response :=
  ⟨status, [("content-type", "text/plain; charset=utf-8")], text⟩

/-- A response with nothing but a status. -/
def emptyResponse (status : Nat) : Response := ⟨status, [], ""⟩

/-- What the client learns about an endpoint. -/
def endpointJson (e : Endpoint) : Json :=
  .object
    [("db", .string e.db), ("group", .string e.group), ("api", .string e.name),
      ("uri", .string ("/" ++ e.route)), ("params", .array (e.params.map .string))]

/-- What can be called. -/
def info (g : Gateway) : Response :=
  jsonResponse (.object [("result", .array (g.registry.endpoints.map endpointJson))])

/-- That the gateway is there. -/
def health : Response := jsonResponse (.object [("status", .string "ok")])

/-! ## 2. Routes -/

/-- How many bytes a body may have. -/
def maxBodyBytes : Nat := 2097152

/-- The response to a call that was made; none if it was broken off or never ends. -/
def CallOutcome.response? (id : String) : CallOutcome → Option Response
  | .result members => some (jsonResponse (.object members))
  | .failed f => some (f.response (some id))
  | .aborted => none
  | .waiting => none

/-- Answers a request that a route allows. -/
def answerRoute {σ : Type} (b : Store.Backend σ) (g : Gateway) (id : String) (r : Request)
    (route : Route) (s : σ) : Exchange × σ :=
  match route with
  | .info => (.quiet g.info, s)
  | .health => (.quiet health, s)
  | .call kind db group api =>
    match ApiName.ofSegments db group api with
    | .error text => (.quiet (textResponse 400 text), s)
    | .ok name =>
      if maxBodyBytes < r.body.length then
        (.quiet (textResponse 413 "Failed to buffer the request body: length limit exceeded"), s)
      else
        let (outcome, executed, s) := g.call b kind name r.body s
        (⟨outcome.response? id, executed⟩, s)

/-! ## 3. Layers -/

/-- What lies behind the credentials: the route, if it allows the method. -/
def answerPath {σ : Type} (b : Store.Backend σ) (g : Gateway) (id : String) (r : Request) (s : σ) :
    Exchange × σ :=
  match Route.ofPath? r.path with
  | none => (.quiet (emptyResponse 404), s)
  | some route =>
    if route.methods.contains r.method then g.answerRoute b id r route s
    else (.quiet (emptyResponse 405), s)

/-- What lies behind the cross-origin rules: the credentials. -/
def answerChecked {σ : Type} (b : Store.Backend σ) (g : Gateway) (id : String) (r : Request)
    (s : σ) : Exchange × σ :=
  match r.refusal? g.server with
  | some f => (.quiet (f.response (some id)), s)
  | none => g.answerPath b id r s

/-- What a cache has to look at. -/
def varyHeader : String × String :=
  ("vary", "origin, access-control-request-method, access-control-request-headers")

/-- The headers that let everybody read a response. -/
def sharedHeaders : List (String × String) :=
  [("access-control-allow-origin", "*"), ("access-control-expose-headers", "*"), varyHeader]

/-- The response to a question about the cross-origin rules. -/
def preflight : Response where
  status := 200
  headers :=
    [("access-control-allow-origin", "*"), ("access-control-allow-methods", "*"),
      ("access-control-allow-headers", "*"), varyHeader]
  body := ""

/-- The response with other headers behind its own. -/
def withHeaders (headers : List (String × String)) (r : Response) : Response :=
  { r with headers := r.headers ++ headers }

/-- What lies behind the request id: the cross-origin rules. -/
def answerShared {σ : Type} (b : Store.Backend σ) (g : Gateway) (id : String) (r : Request)
    (s : σ) : Exchange × σ :=
  if r.method = "OPTIONS" then (.quiet preflight, s)
  else
    let (e, s) := g.answerChecked b id r s
    ({ e with response := e.response.map (withHeaders sharedHeaders) }, s)

/-- The methods that a path allows, if the method of the request is none of them. -/
def disallowed? (r : Request) : Option (List String) :=
  match Route.ofPath? r.path with
  | none => none
  | some route => if route.methods.contains r.method then none else some route.methods

/-- Whether a response must not have a body. -/
def isBodiless (r : Request) : Bool :=
  r.method == "HEAD" && (Route.ofPath? r.path).any fun route => route.methods.contains r.method

/-- The last touches on a response: the allowed methods, the request id unless it can stand in no
header, no body for `HEAD`. -/
def finish (id : String) (r : Request) (response : Response) : Response :=
  let response :=
    match disallowed? r with
    | some methods => withHeaders [("allow", String.intercalate "," methods)] response
    | none => response
  let response :=
    if isHeaderText id then response.setHeader requestIdHeader id else response
  if isBodiless r then { response with body := "" } else response

/-- Answers a request.  `fresh` is the id for a client that chose none. -/
def answer {σ : Type} (b : Store.Backend σ) (g : Gateway) (fresh : String) (r : Request) (s : σ) :
    Exchange × σ :=
  let id := r.id fresh
  let (e, s) := g.answerShared b id r s
  ({ e with response := e.response.map (finish id r) }, s)

end SqlGateway.Gateway
