/-
# Calls

A call names an API and brings fields for it.

1. The endpoint is looked up, then its pool.
2. The body is read, and the statement compiled from the endpoint's own template.
3. The statement is sent to the pool, once.  A query collects all rows or none; a command tells what
   was changed.

What goes wrong in the first two steps keeps the store out of it.  A store that falls silent in the
third is waited for as long as the configuration allows, which may be for ever.
-/
import SqlGateway.Fields.Body
import SqlGateway.Gateway.Start
import SqlGateway.Http.Failure
import SqlGateway.Http.Route
import SqlGateway.Row.Marshaler

namespace SqlGateway.Gateway

open Http (ApiName CallKind Failure)

/-! ## 1. Preparing -/

/-- A call that is ready to be sent. -/
structure PreparedCall where
  endpoint : Endpoint
  pool : Store.Pool
  statement : Statement

/-- What is sent for a call. -/
def PreparedCall.execution (c : PreparedCall) : Store.Execution where
  pool := c.pool
  sql := c.statement.sql
  bound := c.statement.args.map .ofScalar

/-- Prepares the call of an API with a body. -/
def prepare (g : Gateway) (name : ApiName) (body : List UInt8) : Except Failure PreparedCall := do
  let some endpoint := g.registry.resolve name.db name.group name.api
    | throw (.notFound ("api not found: " ++ routeOf name.db name.group name.api))
  let some pool := g.pool? endpoint.db
    | throw (.internal ("no connection pool for db '" ++ endpoint.db ++ "'"))
  let fields ← (Fields.ofBody body).mapError fun e =>
    .badRequest ("invalid request body: " ++ e.message)
  let statement ← (endpoint.compile fields).mapError .missingParam
  return ⟨endpoint, pool, statement⟩

/-! ## 2. Sending -/

/-- What a call comes to. -/
inductive CallOutcome where
  | result (members : List (String × Json))
  | failed (f : Failure)
  /-- The request ends without a response. -/
  | aborted
  /-- The request is never answered, and never ends. -/
  | waiting

/-- The statement, for the APIs that show it. -/
def PreparedCall.echo (c : PreparedCall) : List (String × Json) :=
  if c.endpoint.debug then
    [("sql", .string c.statement.sql), ("args", .array (c.statement.args.map Scalar.toJson))]
  else []

/-- The outcome of a call with a result. -/
def PreparedCall.succeed (c : PreparedCall) (result : Json) : CallOutcome :=
  .result (c.echo ++ [("result", result)])

/-- The outcome of a call without a result. -/
def PreparedCall.fail (c : PreparedCall) (reason : String) : CallOutcome :=
  .failed (.execution reason c.statement)

/-- The outcome of a call to a store that is silent.  It is cancelled when its time is up; without a
limit on its time nothing cancels it. -/
def PreparedCall.unanswered (c : PreparedCall) (limit : Option Nat) : CallOutcome :=
  match limit with
  | some _ => c.fail ((MarshalError.cancelled (ε := Store.Error)).message Store.Error.message)
  | none => .waiting

/-- The outcome of a query, given what the marshaler collected.  Only the limit on its time cancels
a query, so the marshaler that tells of a cancellation had a silent store. -/
def PreparedCall.ofRows (c : PreparedCall) (limit : Option Nat) :
    Except (MarshalError Store.Error) (List ResultRow) → CallOutcome
  | .ok rows => c.succeed (.array (rows.map .object))
  | .error .cancelled => c.unanswered limit
  | .error (.store .abandoned) => .aborted
  | .error e => c.fail (e.message Store.Error.message)

/-- What a command did, as the client sees it. -/
def changesJson (r : Store.CommandResult) : Json :=
  .object
    [("rowsAffected", .count r.rowsAffected),
      ("lastInsertId", (JsonNumber.ofInt? r.lastInsertId).elim .null .number)]

/-- The outcome of a command, given the store's answer. -/
def PreparedCall.ofAnswer (c : PreparedCall) (limit : Option Nat) :
    Answer (Except Store.Error Store.CommandResult) → CallOutcome
  | .given (.ok r) _ => c.succeed (changesJson r)
  | .given (.error .abandoned) _ => .aborted
  | .given (.error e) _ => c.fail e.message
  | .withheld => c.unanswered limit

/-- Sends a prepared call; `limit` is how many seconds it may take. -/
def send {σ : Type} (b : Store.Backend σ) (limit : Option Nat) (kind : CallKind)
    (c : PreparedCall) (s : σ) : CallOutcome × σ :=
  match kind with
  | .query =>
    let (deliveries, s) := b.query c.execution s
    let start := Marshaler.start c.endpoint.case (Peeking.ofDeliveries deliveries)
    (c.ofRows limit (start.collect (Peeking.cursor Store.Row.reader)).1, s)
  | .command =>
    let (answer, s) := b.command c.execution s
    (c.ofAnswer limit answer, s)

/-- Makes a call: its outcome, what was sent to the store, and the store behind it. -/
def call {σ : Type} (b : Store.Backend σ) (g : Gateway) (kind : CallKind) (name : ApiName)
    (body : List UInt8) (s : σ) : CallOutcome × List Store.Execution × σ :=
  match g.prepare name body with
  | .error f => (.failed f, [], s)
  | .ok c =>
    let (outcome, s) := send b g.server.queryTimeout kind c s
    (outcome, [c.execution], s)

end SqlGateway.Gateway
